import SchemaDiagram.Proofs.Text.Cut

/-!
# The leftmost constructs of a text

Where a construct stands in a text does not depend on a search: a keyword stands there in some case
as a whole word (`KeywordAt`), and behind it is a text of the form that completes the construct
(`Stands`). From all these places `Leftmost` picks the first one, then the first one from its end
on, and so on.

The search of `Cursor.occurrences` finds just these constructs (`Cursor.leftmost_iff`) if its reader
takes the texts of that form and no others (`Scan.Recognizes`). It tries only the places where the
whole keyword stands and goes on behind a keyword that it could not complete, and it loses nothing by
that: no keyword stands inside another one.
-/

namespace SchemaDiagram

open Character Cursor

variable {α : Type}

/-! ## Lengths in bytes -/

namespace Cursor

variable {p q s t : List Char}

/-- A text has as many bytes from the back. -/
@[simp]
theorem byteLength_reverse (s : List Char) : byteLength s.reverse = byteLength s := by
  induction s with
  | nil => rfl
  | cons c s ih =>
    simp only [List.reverse_cons, byteLength_append, ih, byteLength]
    omega

/-- Only the empty text has no bytes. -/
theorem byteLength_pos (h : s ≠ []) : 0 < byteLength s := by
  obtain ⟨c, s, rfl⟩ := List.exists_cons_of_ne_nil h
  exact Nat.add_pos_left c.utf8Size_pos _

/-- Of two first parts of a text, the one with fewer bytes comes first in the other. -/
theorem prefix_of_byteLength_le (h : p ++ s = q ++ t) (hle : byteLength p ≤ byteLength q) :
    p <+: q := by
  rcases List.append_eq_append_iff.1 h with ⟨x, rfl, -⟩ | ⟨x, rfl, -⟩
  · exact List.prefix_append p x
  · rw [byteLength_append] at hle
    have hx : x = [] := by
      by_contra hne
      have := byteLength_pos hne
      omega
    rw [hx, List.append_nil]

/-- A first part of a text that has as many bytes as another one is that part. -/
theorem eq_of_byteLength_eq (h : p ++ s = q ++ t) (heq : byteLength p = byteLength q) : p = q :=
  (prefix_of_byteLength_le h heq.le).eq_of_length_le
    (prefix_of_byteLength_le h.symm heq.ge).length_le

/-- A first part of a text has no more bytes than the text. -/
theorem byteLength_le_of_prefix (h : p <+: s) : byteLength p ≤ byteLength s := by
  obtain ⟨t, rfl⟩ := h
  rw [byteLength_append]
  exact Nat.le_add_right _ _

/-- What comes behind a place that is not before the cursor is ahead of it. -/
theorem exists_ahead_eq {c : Cursor} {p r : List Char} (h : c.text = p ++ r)
    (hp : c.offset ≤ byteLength p) : ∃ a, p = c.passed.reverse ++ a ∧ c.ahead = a ++ r := by
  have hoffset : byteLength c.passed.reverse ≤ byteLength p := by
    rw [byteLength_reverse]
    exact hp
  obtain ⟨a, rfl⟩ := prefix_of_byteLength_le h hoffset
  refine ⟨a, rfl, ?_⟩
  unfold text at h
  rwa [List.append_assoc, List.append_cancel_left_eq] at h

/-- The search finds a keyword that stands in the text, or an earlier one. -/
theorem exists_keywordIndex?_le {word : List Char} (hword : IsWord word) {b : Option Char}
    {a w t : List Char} (hbefore : (a.getLast?.or b).any isIdent = false)
    (hsame : Text.sameLetters w word = true) (ht : Stops t) :
    ∃ n ≤ a.length, keywordIndex? word b (a ++ (w ++ t)) = some n := by
  induction a generalizing b with
  | nil =>
    have hat : isKeywordAt word b (w ++ t) = true := by
      unfold isKeywordAt
      rw [Scan.keyword?_append hsame ht]
      simpa using hbefore
    obtain ⟨c, w, rfl⟩ := List.exists_cons_of_ne_nil (hword.isIdentifier hsame).1
    rw [List.cons_append] at hat
    exact ⟨0, le_rfl, by rw [List.nil_append, List.cons_append, keywordIndex?, if_pos hat]⟩
  | cons c a ih =>
    have hlast : (c :: a).getLast?.or b = a.getLast?.or (some c) := by
      cases a with
      | nil => rfl
      | cons d a => simp [List.getLast?_cons]
    rw [hlast] at hbefore
    obtain ⟨n, hn, hindex⟩ := ih hbefore
    rw [List.cons_append, keywordIndex?, hindex]
    split
    · exact ⟨0, Nat.zero_le _, rfl⟩
    · exact ⟨n + 1, Nat.succ_le_succ hn, rfl⟩

end Cursor

/-! ## Where keywords stand -/

/-- At byte `i` of a text the keyword stands in some case as a whole word: no identifier character
comes directly before it or directly behind it. -/
def KeywordAt (word s : List Char) (i : Nat) : Prop :=
  ∃ p w t, s = p ++ (w ++ t) ∧ byteLength p = i ∧ p.getLast?.any isIdent = false ∧
    Text.sameLetters w word = true ∧ Stops t

/-- The search finds a keyword that stands at the cursor or behind it, or an earlier one. -/
theorem KeywordAt.exists_keywordIndex?_le {word : List Char} (hword : IsWord word) {c : Cursor}
    {i : Nat} (h : KeywordAt word c.text i) (hc : c.offset ≤ i) :
    ∃ n, keywordIndex? word c.passed.head? c.ahead = some n ∧ (c.advance n).offset ≤ i := by
  obtain ⟨p, w, t, htext, rfl, hbefore, hsame, ht⟩ := h
  obtain ⟨a, rfl, hahead⟩ := exists_ahead_eq htext hc
  have hlast : (a.getLast?.or c.passed.head?).any isIdent = false := by
    simpa [List.getLast?_append] using hbefore
  obtain ⟨n, hn, hindex⟩ := Cursor.exists_keywordIndex?_le hword hlast hsame ht
  rw [← hahead] at hindex
  refine ⟨n, hindex, ?_⟩
  have hprefix : c.ahead.take n <+: a := by
    rw [hahead, List.take_append_of_le_length hn]
    exact List.take_prefix n a
  have hle := byteLength_le_of_prefix hprefix
  simp only [offset, advance, byteLength_append, byteLength_reverse]
  omega

/-! ## Where constructs stand -/

/-- A value at a place of a text. Places are counted in bytes of UTF-8. -/
structure Span (α : Type) where
  /-- The number of bytes before it. -/
  start : Nat
  /-- The number of bytes up to its end. -/
  stop : Nat
  /-- The value. -/
  value : α
deriving DecidableEq, Repr

/-- What was found, with its place in bytes. -/
def Occurrence.span (o : Occurrence α) : Span α :=
  ⟨o.start.offset, o.stop.offset, o.value⟩

/-- A construct stands in the text `s` at its place. The form says which texts complete a construct
behind its keyword, and which construct that is. -/
inductive Stands (keyword : Keyword) (form : List Char → α → Prop) (s : List Char) (x : Span α) :
    Prop where
  /-- Behind `p`, where no identifier goes on, are the letters `w` of the keyword in some case, and
  behind them the text `t` of the form, at whose end no identifier goes on. -/
  | intro {p w t rest : List Char} (text : s = p ++ (w ++ (t ++ rest)))
    (start : byteLength p = x.start) (stop : byteLength (p ++ (w ++ t)) = x.stop)
    (before : p.getLast?.any isIdent = false) (letters : Text.sameLetters w keyword.letters = true)
    (completed : form t x.value) (ends : Breaks t rest)

/-- The list picks from the places that satisfy `stands`: the first one from byte `i` on, then the
first one from its end on, and so on until there is none. -/
inductive Leftmost (stands : Span α → Prop) : (i : Nat) → List (Span α) → Prop where
  /-- All places are earlier. -/
  | done {i : Nat} (earlier : ∀ y, stands y → y.start < i) : Leftmost stands i []
  /-- The place `x` is the first one, and the list goes on from its end. -/
  | next {i : Nat} {x : Span α} {xs : List (Span α)} (here : stands x) (behind : i ≤ x.start)
    (first : ∀ y, stands y → i ≤ y.start → x.start ≤ y.start) (rest : Leftmost stands x.stop xs) :
    Leftmost stands i (x :: xs)

namespace Leftmost

variable {stands : Span α → Prop} {i j : Nat} {xs ys : List (Span α)}

/-- If at every place something definite stands, then what is picked is definite. -/
theorem unique (h : ∀ x y, stands x → stands y → x.start = y.start → x = y)
    (hx : Leftmost stands i xs) (hy : Leftmost stands i ys) : xs = ys := by
  induction hx generalizing ys with
  | done hearlier =>
    cases hy with
    | done => rfl
    | next here behind => exact absurd (hearlier _ here) (Nat.not_lt.2 behind)
  | next hhere hbehind hfirst _ ih =>
    cases hy with
    | done hearlier => exact absurd (hearlier _ hhere) (Nat.not_lt.2 hbehind)
    | next here behind first rest =>
      obtain rfl := h _ _ hhere here
        (Nat.le_antisymm (hfirst _ here behind) (first _ hhere hbehind))
      rw [ih rest]

/-- Where nothing starts, a search may begin as well before as behind. -/
theorem extend (hij : i ≤ j) (h : ∀ y, stands y → i ≤ y.start → j ≤ y.start)
    (hx : Leftmost stands j xs) : Leftmost stands i xs := by
  cases hx with
  | done hearlier =>
    refine done fun y hy => ?_
    by_contra hlt
    exact absurd (h y hy (Nat.not_lt.1 hlt)) (Nat.not_le.2 (hearlier y hy))
  | next hhere hbehind hfirst hrest =>
    exact next hhere (hij.trans hbehind) (fun y hy hi => hfirst y hy (h y hy hi)) hrest

end Leftmost

/-- The reader takes the texts of a form and no others. -/
structure Scan.Recognizes (read? : List Char → Option (α × List Char))
    (form : List Char → α → Prop) : Prop where
  /-- It takes a text of the form, if no identifier goes on behind it. -/
  reads : ∀ s v rest, read? s = some (v, rest) ↔ ∃ t, s = t ++ rest ∧ form t v ∧ Breaks t rest
  /-- A text of the form can follow a keyword: it begins with a character outside identifiers. -/
  front : ∀ t v, form t v → ∃ c u, t = c :: u ∧ isIdent c = false

section search

variable {keyword : Keyword} {form : List Char → α → Prop} {s : List Char} {x y : Span α}
variable {read? : List Char → Option (α × List Char)}

/-- A construct that starts at a cursor or behind it stands ahead of it. -/
theorem Stands.ahead {c : Cursor} (h : Stands keyword form c.text x) (hx : c.offset ≤ x.start) :
    ∃ a w t rest, c.ahead = a ++ (w ++ (t ++ rest)) ∧ c.offset + byteLength a = x.start ∧
      (a.getLast?.or c.passed.head?).any isIdent = false ∧
      Text.sameLetters w keyword.letters = true ∧ form t x.value ∧ Breaks t rest := by
  obtain ⟨htext, hstart, -, hbefore, hsame, hform, hends⟩ := h
  rename_i p w t rest
  obtain ⟨a, rfl, hahead⟩ := exists_ahead_eq htext (hstart ▸ hx)
  refine ⟨a, w, t, rest, hahead, ?_, ?_, hsame, hform, hends⟩
  · rw [← hstart, byteLength_append, byteLength_reverse]
    rfl
  · simpa [List.getLast?_append] using hbefore

/-- Where a construct starts, no other one does. -/
theorem Stands.unique (hread : Scan.Recognizes read? form) (hx : Stands keyword form s x)
    (hy : Stands keyword form s y) (h : x.start = y.start) : x = y := by
  obtain ⟨rfl, hstart, hstop, -, hsame, hform, hends⟩ := hx
  obtain ⟨htext, hstart', hstop', -, hsame', hform', hends'⟩ := hy
  rename_i p w t rest p' w' t' rest'
  have hlen := (length_eq_of_sameLetters hsame).trans (length_eq_of_sameLetters hsame').symm
  -- The same text is before both, the keywords are equally long, and the reader takes the same.
  obtain rfl := eq_of_byteLength_eq htext (hstart.trans (h.trans hstart'.symm))
  obtain ⟨rfl, hbehind⟩ := List.append_inj (List.append_cancel_left htext) hlen
  have hsome := (hread.reads _ _ _).2 ⟨t, rfl, hform, hends⟩
  rw [(hread.reads _ _ _).2 ⟨t', hbehind, hform', hends'⟩] at hsome
  obtain ⟨hvalue, rfl⟩ := Prod.mk.inj (Option.some.inj hsome)
  obtain rfl := List.append_cancel_right hbehind
  cases x
  cases y
  simp_all

/-- Where a construct starts, its keyword stands. -/
theorem Stands.keywordAt (hread : Scan.Recognizes read? form) (h : Stands keyword form s x) :
    KeywordAt keyword.letters s x.start := by
  obtain ⟨htext, hstart, -, hbefore, hsame, hform, -⟩ := h
  rename_i p w t rest
  obtain ⟨d, u, rfl, hd⟩ := hread.front _ _ hform
  exact ⟨p, w, d :: u ++ rest, htext, hstart, hbefore, hsame, stops_cons.2 hd⟩

/-- No construct starts before the end of a keyword that could not be completed. -/
theorem Stands.start_ge_behind (hword : IsWord keyword.letters)
    (hread : Scan.Recognizes read? form) {passed w t : List Char}
    (hsame : Text.sameLetters w keyword.letters = true) (hnone : read? t = none)
    (hy : Stands keyword form (Cursor.mk passed (w ++ t)).text y)
    (hc : (Cursor.mk passed (w ++ t)).offset ≤ y.start) :
    (Cursor.mk (w.reverse ++ passed) t).offset ≤ y.start := by
  obtain ⟨a, w', t', rest, hahead, hstart, hbefore, hsame', hform, hends⟩ := hy.ahead hc
  have hlen := (length_eq_of_sameLetters hsame').trans (length_eq_of_sameLetters hsame).symm
  simp only [offset, byteLength_append, byteLength_reverse] at hahead hstart ⊢
  rcases List.append_eq_append_iff.1 hahead with ⟨x, rfl, -⟩ | ⟨x, hw, -⟩
  · rw [byteLength_append] at hstart
    omega
  · cases a using List.reverseRecOn with
    | nil =>
      -- The same keyword would be completed.
      obtain ⟨-, rfl⟩ := List.append_inj (List.nil_append _ ▸ hahead) hlen.symm
      rw [(hread.reads _ _ _).2 ⟨t', rfl, hform, hends⟩] at hnone
      cases hnone
    | append_singleton a d =>
      -- Inside of the keyword an identifier goes on.
      have hd : isIdent d = true :=
        Scan.isIdent_of_sameLetters hword.2 hsame d (hw ▸ by simp)
      simp [hd] at hbefore

/-- What the search finds from a cursor on is what stands leftmost there. -/
theorem Cursor.leftmost_occurrences (hword : IsWord keyword.letters)
    (hread : Scan.Recognizes read? form) (c : Cursor) :
    Leftmost (Stands keyword form c.text) c.offset
      ((c.occurrences keyword (Scan.orStay read?)).map Occurrence.span) := by
  -- The search goes on behind the first construct, or behind a keyword that was not completed,
  -- before whose end no construct starts.
  induction c using search_induction keyword (Scan.orStay read?) with
  | done c hi =>
    rw [occurrences_eq, hi]
    refine Leftmost.done fun y hy => Nat.not_le.1 fun hc => ?_
    obtain ⟨n, hn, -⟩ := (hy.keywordAt hread).exists_keywordIndex?_le hword hc
    rw [hi] at hn
    cases hn
  | found c i hi ih =>
    have hfirst : ∀ y, Stands keyword form c.text y → c.offset ≤ y.start →
        (c.advance i).offset ≤ y.start := by
      intro y hy hc
      obtain ⟨n, hn, hle⟩ := (hy.keywordAt hread).exists_keywordIndex?_le hword hc
      rw [hi] at hn
      rwa [Option.some.inj hn]
    obtain ⟨passed, ahead⟩ := c
    obtain ⟨a, w, t, rfl, rfl, hbefore, hsame, -⟩ := exists_of_keywordIndex? hi
    have hlen := length_eq_of_sameLetters hsame
    rw [← hlen, advance_append_append] at ih
    rw [advance_append] at hfirst
    cases hr : read? t with
    | none =>
      have hstay : Scan.orStay read? ([] ++ t) = (none, t) := by simp [Scan.orStay, hr]
      have hnext : (⟨w.reverse ++ (a.reverse ++ passed), t⟩ : Cursor).moveTo t =
          ⟨w.reverse ++ (a.reverse ++ passed), t⟩ := moveTo_append _ [] t
      rw [show t = [] ++ t from rfl, occurrences_of_keyword hi hlen hstay]
      rw [show Scan.orStay read? t = (none, t) from hstay, hnext] at ih
      simp only [text, List.reverse_append, List.reverse_reverse, List.append_assoc] at ih ⊢
      refine ih.extend (by simp [offset]; omega) fun y hy hc => ?_
      refine Stands.start_ge_behind hword hread hsame hr ?_ (hfirst y hy hc)
      simpa [text] using hy
    | some found =>
      obtain ⟨v, rest⟩ := found
      obtain ⟨t, rfl, hform, hends⟩ := (hread.reads _ _ _).1 hr
      have htake : Scan.orStay read? (t ++ rest) = (some v, rest) := by simp [Scan.orStay, hr]
      rw [occurrences_of_keyword hi hlen htake]
      simp only [htake, moveTo_append] at ih
      simp only [text, List.reverse_append, List.reverse_reverse, List.append_assoc] at ih ⊢
      refine Leftmost.next ?_ (by simp [Occurrence.span, offset]) hfirst ih
      refine Stands.intro (p := passed.reverse ++ a) (List.append_assoc _ _ _).symm ?_ ?_ ?_ hsame
        hform hends
      · simp [Occurrence.span, offset, Nat.add_comm]
      · simp only [Occurrence.span, offset, byteLength_append, byteLength_reverse]
        omega
      · simpa [List.getLast?_append] using hbefore

/-- The search finds the leftmost constructs of a text and nothing else. -/
theorem Cursor.leftmost_iff (hword : IsWord keyword.letters) (hread : Scan.Recognizes read? form)
    (s : List Char) (xs : List (Span α)) :
    Leftmost (Stands keyword form s) 0 xs ↔
      xs = ((start s).occurrences keyword (Scan.orStay read?)).map Occurrence.span := by
  have hfound := (start s).leftmost_occurrences hword hread
  constructor
  · intro h
    exact h.unique (fun x y hx hy => hx.unique hread hy) hfound
  · rintro rfl
    exact hfound

end search

end SchemaDiagram
