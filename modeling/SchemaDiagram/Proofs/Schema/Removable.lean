import SchemaDiagram.Proofs.Schema.Grammar
import SchemaDiagram.Proofs.Schema.ReferenceLine
import SchemaDiagram.Proofs.Text.Standing

/-!
# Taking a part out of a text

When a part is taken out of a text, what comes before it and what comes behind it join. Nothing new
is read across the seam if the text before leaves nothing unfinished that could go on behind it
(`Settled`): neither the front of a table block nor a reference. It may leave the body of a block
open, since a body goes on with whatever comes behind it, but then the part has no closing brace
(`Removable`). So each reference that stands in the text without the part stands in the text with it
(`Removable.stands_reference`), and each table block begins and ends where one does
(`Removable.stands_block`).
-/

namespace SchemaDiagram

open Character Cursor SchemaText

/-! ## The front of a block -/

namespace TableBlock

/-- With the keyword, what completes a table block is a front, a body and a brace. -/
theorem Completes.exists_front {w t : List Char} {b : TableBlock} (h : Completes t b)
    (hsame : Text.sameLetters w keyword.letters = true) :
    ∃ f : Front, ∃ body, f.word = w ∧ t = f.behindWord ++ (body ++ ['}']) ∧ '}' ∉ body ∧
      b = ⟨f.name, body⟩ := by
  obtain ⟨gap_ne, isBlank_gap, isIdentifier_name, isBlank_gapBehind, brace⟩ := h
  rename_i gap name gapBehind body
  refine ⟨⟨w, gap, name, gapBehind, hsame, gap_ne, isBlank_gap, isIdentifier_name,
    isBlank_gapBehind⟩, body, rfl, ?_, brace, rfl⟩
  simp [Front.behindWord]

/-- A front, a body and a brace are a table block that stands in the text. -/
theorem Front.stands (f : Front) {p body : List Char} (hp : p.getLast?.any isIdent = false)
    (hbody : '}' ∉ body) (s : List Char) :
    Stands keyword Completes (p ++ (f.text ++ (body ++ ['}']) ++ s))
      ⟨byteLength p, byteLength (p ++ (f.text ++ (body ++ ['}']))), ⟨f.name, body⟩⟩ := by
  have hform := Completes.intro f.gap_ne f.isBlank_gap f.isIdentifier_name f.isBlank_gapBehind hbody
  have hends : Breaks (f.gap ++ (f.name ++ (f.gapBehind ++ '{' :: (body ++ ['}'])))) s := by
    refine Breaks.of_last ?_
    simp only [← List.append_assoc, ← List.cons_append, List.getLast?_concat]
    rfl
  refine .intro ?_ rfl ?_ hp f.isKeyword hform hends
  · simp [text, behindWord]
  · simp [text, behindWord]

end TableBlock

/-! ## Unfinished texts -/

/-- The text ends within a text of the given kind, which begins where no identifier goes on. -/
def BreaksOff (kind : List Char → Prop) (p : List Char) : Prop :=
  ∃ a q u, p = a ++ q ∧ a.getLast?.any isIdent = false ∧ q ≠ [] ∧ u ≠ [] ∧ kind (q ++ u)

/-- The text is the front of a table block. -/
def TableBlock.IsFront (x : List Char) : Prop :=
  ∃ f : Front, x = f.text

/-- The text is a reference. -/
def Reference.IsText (x : List Char) : Prop :=
  ∃ w t r, x = w ++ t ∧ Text.sameLetters w keyword.letters = true ∧ Completes t r

/-- The text leaves nothing unfinished but the body of a block. -/
structure Settled (p : List Char) : Prop where
  /-- It does not end within the front of a block. -/
  front : ¬BreaksOff TableBlock.IsFront p
  /-- It does not end within a reference. -/
  reference : ¬BreaksOff Reference.IsText p

/-- The text ends in the body of a block, behind its front and before its closing brace. -/
def OpenBody (p : List Char) : Prop :=
  ∃ a b, ∃ f : TableBlock.Front, p = a ++ (f.text ++ b) ∧ a.getLast?.any isIdent = false ∧ '}' ∉ b

variable {p x s m : List Char}

/-- What a text leaves unfinished with a part taken out, it does so with the part, or up to it. -/
theorem BreaksOff.of_without {kind : List Char → Prop}
    (hback : (p ++ x).getLast?.any isIdent = false) (h : BreaksOff kind (p ++ m)) :
    BreaksOff kind p ∨ BreaksOff kind (p ++ (x ++ m)) := by
  obtain ⟨a, q, u, hsplit, ha, hq, hu, hkind⟩ := h
  rcases List.append_eq_append_iff.1 hsplit with ⟨c, rfl, rfl⟩ | ⟨c, rfl, rfl⟩
  · -- It begins behind the part.
    refine .inr ⟨p ++ (x ++ c), q, u, by simp, ?_, hq, hu, hkind⟩
    cases c using List.reverseRecOn with
    | nil => rwa [List.append_nil]
    | append_singleton c d => simpa [← List.append_assoc] using ha
  · cases c with
    | nil =>
      rw [List.append_nil] at hback ⊢
      exact .inr ⟨a ++ x, m, u, by simp, hback, hq, hu, hkind⟩
    | cons d c =>
      refine .inl ⟨a, d :: c, m ++ u, rfl, ha, List.cons_ne_nil d c, by simp [hu], ?_⟩
      simpa using hkind

/-- A text without a part is settled if it is up to the part and with the part. -/
theorem Settled.of_without (hp : Settled p) (hback : (p ++ x).getLast?.any isIdent = false)
    (h : Settled (p ++ (x ++ m))) : Settled (p ++ m) where
  front hbreaks := (hbreaks.of_without hback).elim hp.front h.front
  reference hbreaks := (hbreaks.of_without hback).elim hp.reference h.reference

/-- No reference stands across the end of a settled text. -/
theorem Settled.reference_beside (h : Settled p) (hp : p.getLast?.any isIdent = false)
    {y : Span Relationship} (hy : Stands Reference.keyword Reference.Completes (p ++ s) y) :
    y.stop ≤ byteLength p ∨ byteLength p ≤ y.start := by
  by_contra hnot
  obtain ⟨hstop, hstart⟩ := not_or.1 hnot
  obtain ⟨a, w, t, u, rest, rfl, -, hu, -, -, ha, hsame, hform, -⟩ :=
    hy.exists_across Reference.isWord_keyword hp (Nat.lt_of_not_le hstart) (Nat.lt_of_not_le hstop)
  refine h.reference ⟨a, w ++ t, u, rfl, ha, ?_, hu, w, t ++ u, y.value, by simp, hsame, hform⟩
  simp [ne_nil_of_sameLetters hsame]

/-- A table block that stands across the end of a settled text has its body there. -/
theorem Settled.exists_openBody (h : Settled p) (hp : p.getLast?.any isIdent = false)
    {y : Span TableBlock} (hy : Stands TableBlock.keyword TableBlock.Completes (p ++ s) y)
    (hstart : y.start < byteLength p) (hstop : byteLength p < y.stop) :
    ∃ a b c rest, ∃ f : TableBlock.Front, p = a ++ (f.text ++ b) ∧ s = c ++ '}' :: rest ∧
      a.getLast?.any isIdent = false ∧ '}' ∉ b ∧ '}' ∉ c ∧ byteLength a = y.start ∧
      byteLength (p ++ (c ++ ['}'])) = y.stop := by
  obtain ⟨a, w, t, u, rest, rfl, rfl, hu, ha, hu', hlast, hsame, hform, -⟩ :=
    hy.exists_across TableBlock.isWord_keyword hp hstart hstop
  obtain ⟨f, body, hw, hbehind, brace, -⟩ := hform.exists_front hsame
  have htext : (w ++ t) ++ u = f.text ++ (body ++ ['}']) := by
    rw [List.append_assoc, hbehind, ← hw, TableBlock.Front.text, List.append_assoc]
  rcases List.append_eq_append_iff.1 htext with ⟨v, hfront, hbody⟩ | ⟨b, hwt, hbody⟩
  · cases v with
    | nil =>
      -- The text ends just behind the front.
      rw [List.append_nil] at hfront
      rw [List.nil_append] at hbody
      refine ⟨a, [], body, rest, f, by rw [List.append_nil, hfront], by simp [hbody], hlast,
        List.not_mem_nil, brace, ha, ?_⟩
      rw [← hu', hbody]
    | cons d v =>
      refine absurd ?_ h.front
      refine ⟨a, w ++ t, d :: v, rfl, hlast, ?_, List.cons_ne_nil d v, f, hfront.symm⟩
      simp [ne_nil_of_sameLetters hsame]
  · cases u using List.reverseRecOn with
    | nil => exact absurd rfl hu
    | append_singleton c d =>
      rw [← List.append_assoc] at hbody
      obtain ⟨rfl, hd⟩ := List.append_inj' hbody rfl
      obtain rfl := List.singleton_inj.1 hd
      simp only [List.mem_append, not_or] at brace
      refine ⟨a, b, c, rest, f, by rw [hwt], by simp, hlast, brace.1, brace.2, ha, hu'⟩

/-! ## Parts that can be taken out -/

/-- The part `x` of a text can be taken out from between `p` and `s`. -/
structure Removable (p x s : List Char) : Prop where
  /-- The text before it is settled. -/
  settled : Settled p
  /-- No identifier goes on at its beginning. -/
  front : p.getLast?.any isIdent = false
  /-- If it is in the body of a block, it does not end the body. -/
  brace : OpenBody p → '}' ∉ x
  /-- It ends with the text or with a closing brace, or it is made of whole lines. -/
  back : s = [] ∨ x.getLast? = some '}' ∨ x.getLast? = some '\n' ∧ LineBehind p

/-- The place `y` of a text without a part of `d` bytes at byte `i` is the place `z` of the text with
it. -/
structure Moves {α : Type} (i d : Nat) (y z : Span α) : Prop where
  /-- It starts before the part or behind it. -/
  start : y.start < i ∧ z.start = y.start ∨ i ≤ y.start ∧ z.start = y.start + d
  /-- It stops before the part or behind it. -/
  stop : y.stop ≤ i ∧ z.stop = y.stop ∨ i < y.stop ∧ z.stop = y.stop + d

namespace Removable

variable (h : Removable p x s)
include h

/-- No identifier goes on at the end of the part, unless that ends the text. -/
theorem back_append (hs : s ≠ []) : (p ++ x).getLast?.any isIdent = false := by
  rcases h.back with rfl | hlast | ⟨hlast, -⟩
  · exact absurd rfl hs
  · rw [List.getLast?_append, hlast]
    rfl
  · rw [List.getLast?_append, hlast]
    rfl

/-- What comes behind the part is settled without it if it is so with it. -/
theorem settled_append (hs : s ≠ []) (hm : Settled (p ++ (x ++ m))) : Settled (p ++ m) :=
  h.settled.of_without (h.back_append hs) hm

/-- What stands in the text before the part or behind it stands there also with the part. -/
theorem stands_beside {α : Type} {keyword : Keyword} {form : List Char → α → Prop} {y : Span α}
    (hy : Stands keyword form (p ++ s) y) (hbeside : y.stop ≤ byteLength p ∨ byteLength p ≤ y.start) :
    ∃ z, Stands keyword form (p ++ (x ++ s)) z ∧ Moves (byteLength p) (byteLength x) y z ∧
      z.value = y.value := by
  have hpos := hy.start_lt_stop
  rcases hbeside with hstop | hstart
  · refine ⟨y, (hy.of_extend hstop).extend h.front (x ++ s), ⟨?_, ?_⟩, rfl⟩
    · exact .inl ⟨by omega, rfl⟩
    · exact .inl ⟨hstop, rfl⟩
  · obtain ⟨z, hz, rfl⟩ := hy.of_behind hstart
    have hs : s ≠ [] := by
      rintro rfl
      have hle := hz.stop_le
      simp only [Span.shift] at hpos
      simp only [byteLength] at hle
      omega
    refine ⟨z.shift (byteLength (p ++ x)), ?_, ⟨?_, ?_⟩, rfl⟩
    · rw [← List.append_assoc]
      exact hz.behind (h.back_append hs)
    · simp only [Span.shift, byteLength_append] at hstart ⊢
      omega
    · simp only [Span.shift, byteLength_append] at hstart hpos ⊢
      omega

/-- A reference that stands in the text without the part stands in the text with it. -/
theorem stands_reference {y : Span Relationship}
    (hy : Stands Reference.keyword Reference.Completes (p ++ s) y) :
    ∃ z, Stands Reference.keyword Reference.Completes (p ++ (x ++ s)) z ∧
      Moves (byteLength p) (byteLength x) y z ∧ z.value = y.value :=
  h.stands_beside hy (h.settled.reference_beside h.front hy)

/-- Where a table block begins and ends in the text without the part, one does in the text with
it. -/
theorem stands_block {y : Span TableBlock}
    (hy : Stands TableBlock.keyword TableBlock.Completes (p ++ s) y) :
    ∃ z, Stands TableBlock.keyword TableBlock.Completes (p ++ (x ++ s)) z ∧
      Moves (byteLength p) (byteLength x) y z := by
  by_cases hbeside : y.stop ≤ byteLength p ∨ byteLength p ≤ y.start
  · obtain ⟨z, hz, hmoves, -⟩ := h.stands_beside hy hbeside
    exact ⟨z, hz, hmoves⟩
  · -- The part is in the body of the block, which goes on behind it up to the same brace.
    obtain ⟨hstop, hstart⟩ := not_or.1 hbeside
    obtain ⟨a, b, c, rest, f, hp, rfl, ha, hb, hc, hstart', hstop'⟩ :=
      h.settled.exists_openBody h.front hy (Nat.lt_of_not_le hstart) (Nat.lt_of_not_le hstop)
    have hx := h.brace ⟨a, b, f, hp, ha, hb⟩
    have hbody : '}' ∉ b ++ (x ++ c) := by simp [hb, hx, hc]
    have htext : p ++ (x ++ (c ++ '}' :: rest)) =
        a ++ (f.text ++ (b ++ (x ++ c) ++ ['}']) ++ rest) := by simp [hp]
    rw [htext]
    refine ⟨_, f.stands ha hbody rest, .inl ⟨Nat.lt_of_not_le hstart, hstart'⟩,
      .inr ⟨Nat.lt_of_not_le hstop, ?_⟩⟩
    rw [← hstop', hp]
    simp only [byteLength_append]
    omega

end Removable

end SchemaDiagram
