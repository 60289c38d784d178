import SchemaDiagram.Proofs.Text.Leftmost

/-!
# Cutting places out of a text

The constructs that a search finds follow each other (`Cursor.inOrder_occurrences`). So any of them
can be cut out of the text, from the last one to the first: each one stands in what the later cuts
have left just where it was found, between characters, and what is left in the end is the text
outside the places that were cut (`InOrder.cuttable`).
-/

namespace SchemaDiagram

open Character Cursor

variable {α : Type}

/-- The characters of a text that lie in none of the places, if `i` bytes come before the text. -/
def outside (xs : List (Span α)) : (i : Nat) → (s : List Char) → List Char
  | _, [] => []
  | i, c :: s =>
    if xs.any fun x => x.start ≤ i ∧ i < x.stop then outside xs (i + c.utf8Size) s
    else c :: outside xs (i + c.utf8Size) s

/-- The characters `b` are those of the text at the place, which begins and ends between characters. -/
def Span.Holds (x : Span α) (s b : List Char) : Prop :=
  ∃ p q, s = p ++ (b ++ q) ∧ byteLength p = x.start ∧ byteLength (p ++ b) = x.stop

/-- What was found can be cut out of the text from the last to the first. -/
structure Cuttable (s : List Char) (os : List (Occurrence α)) : Prop where
  /-- No place is empty. -/
  nonempty : ∀ o ∈ os, o.span.start < o.span.stop
  /-- Every place ends before the next one starts. -/
  disjoint : os.Pairwise fun o o' => o.span.stop ≤ o'.span.start
  /-- When what comes later has been cut, a place still has the characters that it has in the
  text. -/
  holds : ∀ o later, (o :: later) <:+ os →
    ∃ b, o.span.Holds s b ∧ o.span.Holds (later.foldr Occurrence.cutFrom s) b
  /-- What is left is what lies outside the places. -/
  left : os.foldr Occurrence.cutFrom s = outside (os.map Occurrence.span) 0 s

/-! ## What lies outside -/

section outside

variable {xs : List (Span α)} {x : Span α}

/-- What lies outside in two texts behind each other. -/
theorem outside_append (xs : List (Span α)) (i : Nat) (p s : List Char) :
    outside xs i (p ++ s) = outside xs i p ++ outside xs (i + byteLength p) s := by
  induction p generalizing i with
  | nil => rfl
  | cons c p ih =>
    rw [List.cons_append, outside, outside, ih, byteLength, Nat.add_assoc]
    split <;> rfl

/-- A text before all places lies outside. -/
theorem outside_of_before {i : Nat} {p : List Char} (h : ∀ x ∈ xs, i + byteLength p ≤ x.start) :
    outside xs i p = p := by
  induction p generalizing i with
  | nil => rfl
  | cons c p ih =>
    have hpos := c.utf8Size_pos
    have hnot : ¬ (xs.any fun x => x.start ≤ i ∧ i < x.stop) = true := by
      rw [List.any_eq_true]
      rintro ⟨x, hx, hin⟩
      have hle := h x hx
      rw [decide_eq_true_eq] at hin
      rw [byteLength] at hle
      omega
    rw [outside, if_neg hnot, ih fun x hx => by have := h x hx; rw [byteLength] at this; omega]

/-- A text within a place does not lie outside. -/
theorem outside_of_within (hx : x ∈ xs) {i : Nat} {p : List Char} (hstart : x.start ≤ i)
    (hstop : i + byteLength p ≤ x.stop) : outside xs i p = [] := by
  induction p generalizing i with
  | nil => rfl
  | cons c p ih =>
    have hpos := c.utf8Size_pos
    rw [byteLength] at hstop
    have hin : (xs.any fun x => x.start ≤ i ∧ i < x.stop) = true :=
      List.any_eq_true.2 ⟨x, hx, decide_eq_true ⟨hstart, by omega⟩⟩
    rw [outside, if_pos hin, ih (by omega) (by omega)]

/-- A place that is behind does not matter. -/
theorem outside_cons_of_behind {i : Nat} (hx : x.stop ≤ i) (s : List Char) :
    outside (x :: xs) i s = outside xs i s := by
  induction s generalizing i with
  | nil => rfl
  | cons c s ih =>
    have hnot : decide (x.start ≤ i ∧ i < x.stop) = false := decide_eq_false (by omega)
    rw [outside, outside, List.any_cons, hnot, Bool.false_or, ih (by omega)]

end outside

/-! ## What a search finds is in order -/

/-- What was found in a text, in the order of the text: no place reaches into the next one. -/
structure InOrder (s : List Char) (os : List (Occurrence α)) : Prop where
  /-- The places are in the text. -/
  text : ∀ o ∈ os, o.stop.text = s
  /-- Each ends behind its start. -/
  forward : ∀ o ∈ os, o.start.passed <:+ o.stop.passed ∧ o.start.passed ≠ o.stop.passed
  /-- Each starts at the end of the one before or behind it. -/
  ordered : os.Pairwise fun o o' => o.stop.passed <:+ o'.start.passed

namespace InOrder

variable {s : List Char} {o : Occurrence α} {os later : List (Occurrence α)}

/-- What is chosen from places in order is in order. -/
theorem sublist (h : InOrder s os) (hsub : later.Sublist os) : InOrder s later where
  text o ho := h.text o (hsub.subset ho)
  forward o ho := h.forward o (hsub.subset ho)
  ordered := h.ordered.sublist hsub

/-- The later ones start at its end or behind it. -/
theorem stop_le (h : InOrder s (o :: os)) : ∀ x ∈ os.map Occurrence.span, o.span.stop ≤ x.start := by
  intro x hx
  obtain ⟨o', ho', rfl⟩ := List.mem_map.1 hx
  obtain ⟨u, hu⟩ := (List.pairwise_cons.1 h.ordered).1 o' ho'
  show byteLength o.stop.passed ≤ byteLength o'.start.passed
  rw [← hu, byteLength_append]
  exact Nat.le_add_left _ _

/-- The text divided at the place of the first one. It is cut out of any text that has the same
characters up to there, and the later places are behind it. -/
theorem exists_eq (h : InOrder s (o :: os)) :
    ∃ p b q, s = p ++ (b ++ q) ∧ byteLength p = o.span.start ∧ byteLength (p ++ b) = o.span.stop ∧
      (∀ r, o.cutFrom (p ++ (b ++ r)) = p ++ r) ∧
      outside (os.map Occurrence.span) 0 s =
        p ++ (b ++ outside (os.map Occurrence.span) o.span.stop q) := by
  obtain ⟨b, hb⟩ := (h.forward o List.mem_cons_self).1
  have hpassed : o.start.passed.reverse ++ b.reverse = o.stop.passed.reverse := by
    rw [← hb, List.reverse_append]
  have hs : s = o.start.passed.reverse ++ (b.reverse ++ o.stop.ahead) := by
    rw [← h.text o List.mem_cons_self, Cursor.text, ← hpassed, List.append_assoc]
  have hstop : byteLength (o.start.passed.reverse ++ b.reverse) = o.span.stop := by
    rw [hpassed, byteLength_reverse]
    rfl
  have hbefore : outside (os.map Occurrence.span) 0 (o.start.passed.reverse ++ b.reverse) =
      o.start.passed.reverse ++ b.reverse := outside_of_before fun x hx => by
    rw [hstop, Nat.zero_add]
    exact h.stop_le x hx
  refine ⟨_, b.reverse, o.stop.ahead, hs, byteLength_reverse _, hstop, fun r => ?_, ?_⟩
  · rw [← List.append_assoc, hpassed]
    exact o.cutFrom_append hpassed r
  · rw [hs, ← List.append_assoc, outside_append, hbefore, hstop, Nat.zero_add, List.append_assoc]

/-- What is left by the cuts is what lies outside. -/
theorem foldr_cutFrom (h : InOrder s os) :
    os.foldr Occurrence.cutFrom s = outside (os.map Occurrence.span) 0 s := by
  -- By induction: the later cuts leave everything up to the end of the first place as it is.
  induction os with
  | nil => exact (outside_of_before (by simp)).symm
  | cons o os ih =>
    obtain ⟨p, b, q, hs, hstart, hstop, hcut, hlater⟩ := h.exists_eq
    have hbefore : outside (o.span :: os.map Occurrence.span) 0 p = p := by
      refine outside_of_before fun x hx => ?_
      rw [Nat.zero_add, hstart]
      rcases List.mem_cons.1 hx with rfl | hx
      · exact le_rfl
      · rw [byteLength_append] at hstop
        have := h.stop_le x hx
        omega
    have hwithin : outside (o.span :: os.map Occurrence.span) (byteLength p) b = [] :=
      outside_of_within List.mem_cons_self hstart.ge (byteLength_append p b ▸ hstop.le)
    have hbehind : outside (o.span :: os.map Occurrence.span) (byteLength (p ++ b)) q =
        outside (os.map Occurrence.span) o.span.stop q := by
      rw [hstop, outside_cons_of_behind le_rfl]
    rw [List.foldr_cons, ih (h.sublist (List.sublist_cons_self o os)), hlater, hcut, List.map_cons,
      hs, outside_append, outside_append, hbefore, Nat.zero_add, hwithin, List.nil_append,
      ← byteLength_append, hbehind]

/-- Whatever is found in order can be cut from the last to the first. -/
theorem cuttable (h : InOrder s os) : Cuttable s os where
  nonempty o ho := by
    obtain ⟨⟨b, hb⟩, hne⟩ := h.forward o ho
    have hpos : b ≠ [] := by
      rintro rfl
      exact hne hb
    have := byteLength_pos hpos
    show byteLength o.start.passed < byteLength o.stop.passed
    rw [← hb, byteLength_append]
    omega
  disjoint := by
    refine h.ordered.imp fun ⟨u, hu⟩ => ?_
    unfold Occurrence.span offset
    rw [← hu, byteLength_append]
    exact Nat.le_add_left _ _
  holds o later hlater := by
    have hsub := h.sublist hlater.sublist
    obtain ⟨p, b, q, hs, hstart, hstop, -, hleft⟩ := hsub.exists_eq
    have hcuts := (hsub.sublist (List.sublist_cons_self o later)).foldr_cutFrom
    exact ⟨b, ⟨p, q, hs, hstart, hstop⟩, ⟨p, _, hcuts.trans hleft, hstart, hstop⟩⟩
  left := h.foldr_cutFrom

end InOrder

namespace Cursor

variable {keyword : Keyword} {reader : List Char → Option α × List Char}

/-- A cursor that moves on has passed what it had passed before. -/
theorem passed_suffix_advance (c : Cursor) (n : Nat) : c.passed <:+ (c.advance n).passed :=
  List.suffix_append _ _

/-- What is found from a cursor on starts there or behind it, and is in order. -/
theorem inOrder_occurrences (keyword : Keyword) (reader : List Char → Option α × List Char)
    (c : Cursor) : InOrder c.text (c.occurrences keyword reader) ∧
      ∀ o ∈ c.occurrences keyword reader, c.passed <:+ o.start.passed := by
  induction c using search_induction keyword reader with
  | done c hi =>
    rw [occurrences_eq, hi]
    exact ⟨⟨by simp, by simp, List.Pairwise.nil⟩, by simp⟩
  | found c i hi ih =>
    rw [occurrences_eq, hi]
    simp only
    set behind := c.advance (i + keyword.letters.length) with hbehind
    set next := behind.moveTo (reader behind.ahead).2 with hnext
    have htext : next.text = c.text := by rw [hnext, moveTo, text_advance, hbehind, text_advance]
    have hplace : c.passed <:+ (c.advance i).passed := c.passed_suffix_advance i
    have hkeyword : (c.advance i).passed <:+ behind.passed := by
      have hsplit : behind = (c.advance i).advance keyword.letters.length := by
        simp [hbehind, advance, List.take_add, List.drop_drop]
      rw [hsplit]
      exact passed_suffix_advance _ _
    have hread : behind.passed <:+ next.passed := behind.passed_suffix_advance _
    have hne : (c.advance i).passed ≠ next.passed := by
      intro heq
      have hlength := hread.length_le
      have hle := keywordIndex?_add_length_le hi
      have hpos := List.length_pos_iff.2 keyword.nonempty
      rw [← heq, hbehind] at hlength
      simp only [advance, List.length_append, List.length_reverse, List.length_take] at hlength
      omega
    obtain ⟨hrest, hbeyond⟩ := ih
    rw [htext] at hrest
    have hthrough := hplace.trans (hkeyword.trans hread)
    cases (reader behind.ahead).1 with
    | none => exact ⟨hrest, fun o ho => hthrough.trans (hbeyond o ho)⟩
    | some v =>
      simp only [Option.toList_some, List.map_cons, List.map_nil, List.singleton_append]
      refine ⟨⟨?_, ?_, List.pairwise_cons.2 ⟨hbeyond, hrest.ordered⟩⟩, ?_⟩
      · exact List.forall_mem_cons.2 ⟨htext, hrest.text⟩
      · exact List.forall_mem_cons.2 ⟨⟨hkeyword.trans hread, hne⟩, hrest.forward⟩
      · exact List.forall_mem_cons.2 ⟨hplace, fun o ho => hthrough.trans (hbeyond o ho)⟩

/-- Any of the constructs of a text can be cut out of it. -/
theorem cuttable_of_sublist {s : List Char} {os : List (Occurrence α)}
    (h : os.Sublist ((start s).occurrences keyword reader)) : Cuttable s os := by
  have horder := (inOrder_occurrences keyword reader (start s)).1
  exact (horder.sublist h).cuttable

end Cursor

end SchemaDiagram
