import SchemaDiagram.Proofs.Text.Leftmost

/-!
# What a cursor does

Each operation on a cursor but setting it back moves it forward by whole characters
(`Cursor.exists_step_eq_advance`), what it returns is text that it passes (`Cursor.isSlice_step`), and
the search for a keyword ends behind the first place from the cursor on where the keyword stands as a
whole word (`Cursor.isLeast_of_keywordIndex?`). Places are counted in bytes of UTF-8.

A cursor that counts bytes does the same operations and gives the same answers; what this says about
it is in `SchemaDiagram.Proofs.Text.ByteCursor`.
-/

namespace SchemaDiagram

open Character

namespace Cursor

/-! ## Operations -/

/-- What is done with a cursor. -/
inductive Operation where
  | bump
  | eat (expected : Char)
  | eatWhile (accepts : Char → Bool)
  | skipBlanks
  | eatIdent
  | eatUntil (stop : List Char)
  | eatKeyword (word : List Char)
  | findKeyword (word : List Char)
  | seek (offset : Nat)

/-- What an operation returns. -/
inductive Answer where
  /-- The next character, if there is one. -/
  | char (c : Option Char)
  /-- Whether anything was taken. -/
  | flag (taken : Bool)
  /-- A part of the text, if it could be taken. -/
  | slice (taken : Option (List Char))
  /-- The offset of a place, if one was found. -/
  | place (offset : Option Nat)
  /-- Nothing. -/
  | done
deriving DecidableEq

/-- The answer to an operation, and the cursor after it. A search that finds nothing ends at the end
of the text. -/
def step (c : Cursor) : Operation → Answer × Cursor
  | .bump => c.bump.map .char id
  | .eat expected => (c.eat expected).map .flag id
  | .eatWhile accepts => (c.eatWhile accepts).map (.slice ∘ some) id
  | .skipBlanks => c.skipBlanks.map .flag id
  | .eatIdent => c.eatIdent?.map .slice id
  | .eatUntil stop => (c.eatUntil? stop).map .slice id
  | .eatKeyword word => (c.eatKeyword word).map .flag id
  | .findKeyword word =>
    match c.findKeyword? word with
    | some (place, behind) => (.place place.offset, behind)
    | none => (.place none, c.toEnd)
  | .seek offset => (.done, c.seek offset)

variable {s w word : List Char} {c : Cursor} {i j n : Nat}

/-- The cursor passes the characters that it moves over. -/
theorem offset_advance (c : Cursor) (n : Nat) :
    (c.advance n).offset = c.offset + byteLength (c.ahead.take n) := by
  rw [offset, advance, byteLength_append, byteLength_reverse, Nat.add_comm]
  rfl

/-- The search for a keyword passes the characters before it and its letters. -/
theorem step_findKeyword (c : Cursor) (word : List Char) :
    c.step (.findKeyword word) =
      match keywordIndex? word c.passed.head? c.ahead with
      | some n => (.place (c.advance n).offset, c.advance (n + word.length))
      | none => (.place none, c.toEnd) := by
  simp only [step, findKeyword?]
  cases keywordIndex? word c.passed.head? c.ahead <;> rfl

/-- Behind the characters that are accepted is what is left when they are dropped. -/
theorem moveTo_dropWhile (accepts : Char → Bool) (c : Cursor) :
    c.moveTo (c.ahead.dropWhile accepts) = (c.eatWhile accepts).2 := by
  have hlength := congrArg List.length (List.takeWhile_append_dropWhile (p := accepts) (l := c.ahead))
  rw [List.length_append] at hlength
  exact congrArg c.advance (by omega)

/-- Every operation but setting the cursor back moves it forward. -/
theorem exists_step_eq_advance (c : Cursor) (op : Operation) (h : ∀ offset, op ≠ .seek offset) :
    ∃ n, (c.step op).2 = c.advance n := by
  have hstay : c.advance 0 = c := by simp [advance]
  have hread {α : Type} (reader : List Char → Option (α × List Char)) :
      ∃ n, (c.read? reader).2 = c.advance n := by
    unfold read?
    split
    · exact ⟨_, rfl⟩
    · exact ⟨0, hstay.symm⟩
  cases op with
  | bump => exact ⟨1, rfl⟩
  | eat expected =>
    show ∃ n, (c.eat expected).2 = _
    unfold eat
    split
    · exact ⟨1, rfl⟩
    · exact ⟨0, hstay.symm⟩
  | eatWhile accepts => exact ⟨_, rfl⟩
  | skipBlanks => exact ⟨_, rfl⟩
  | eatIdent => exact hread _
  | eatUntil stop => exact hread _
  | eatKeyword word =>
    show ∃ n, (c.eatKeyword word).2 = _
    unfold eatKeyword
    split
    · exact ⟨_, rfl⟩
    · exact ⟨0, hstay.symm⟩
  | findKeyword word =>
    rw [step_findKeyword]
    split
    · exact ⟨_, rfl⟩
    · exact ⟨_, rfl⟩
  | seek offset => exact absurd rfl (h offset)

/-! ## Boundaries -/

/-- Byte `i` of a text is the start of a character, or the end of the text. -/
def IsBoundary (s : List Char) (i : Nat) : Prop :=
  ∃ p t, s = p ++ t ∧ byteLength p = i

/-- A cursor is at a boundary of its text. -/
theorem isBoundary_offset (c : Cursor) : IsBoundary c.text c.offset :=
  ⟨c.passed.reverse, c.ahead, rfl, byteLength_reverse _⟩

/-- A boundary is within the text. -/
theorem IsBoundary.le (h : IsBoundary s i) : i ≤ byteLength s := by
  obtain ⟨p, t, rfl, rfl⟩ := h
  exact byteLength_le_of_prefix (List.prefix_append p t)

/-- Looking for the place behind `p` passes just `p`. -/
theorem seekFrom_append (passed p t : List Char) :
    seekFrom passed (byteLength p) (p ++ t) = ⟨p.reverse ++ passed, t⟩ := by
  induction p generalizing passed with
  | nil =>
    cases t with
    | nil => rfl
    | cons c t => exact if_neg (Nat.not_le.2 c.utf8Size_pos)
  | cons c p ih =>
    rw [List.cons_append, byteLength, seekFrom, if_pos (Nat.le_add_right _ _),
      Nat.add_sub_cancel_left, ih]
    simp

/-- A cursor that is set to a boundary of its text is there. -/
theorem offset_seek (h : IsBoundary c.text i) : (c.seek i).offset = i := by
  obtain ⟨p, t, htext, rfl⟩ := h
  rw [seek, htext, seekFrom_append, offset, List.append_nil, byteLength_reverse]

/-- A cursor that is set to a boundary of its text stays in the text. -/
theorem text_seek (h : IsBoundary c.text i) : (c.seek i).text = c.text := by
  obtain ⟨p, t, htext, rfl⟩ := h
  rw [seek, htext, seekFrom_append, text, List.append_nil, List.reverse_reverse]

/-- An operation leaves the text as it is, if the cursor is only set to boundaries. -/
theorem text_step (c : Cursor) (op : Operation)
    (h : ∀ offset, op = .seek offset → IsBoundary c.text offset) : (c.step op).2.text = c.text := by
  by_cases hop : ∃ offset, op = .seek offset
  · obtain ⟨offset, rfl⟩ := hop
    exact text_seek (h offset rfl)
  · obtain ⟨n, hn⟩ := c.exists_step_eq_advance op fun offset heq => hop ⟨offset, heq⟩
    rw [hn, text_advance]

/-! ## Parts of the text -/

/-- The part `w` of the text begins at byte `i` and ends at byte `j` or before it. -/
def IsSlice (s : List Char) (i j : Nat) (w : List Char) : Prop :=
  ∃ p t, s = p ++ (w ++ t) ∧ byteLength p = i ∧ byteLength (p ++ w) ≤ j

/-- What comes first ahead of a cursor is passed when the cursor moves behind it. -/
theorem isSlice_moveTo {u rest : List Char} (h : c.ahead = w ++ (u ++ rest)) :
    IsSlice c.text c.offset (c.moveTo rest).offset w := by
  obtain ⟨passed, ahead⟩ := c
  obtain rfl : ahead = w ++ (u ++ rest) := h
  refine ⟨passed.reverse, u ++ rest, rfl, byteLength_reverse _, ?_⟩
  rw [← List.append_assoc, moveTo_append]
  simp only [offset, byteLength_append, byteLength_reverse]
  omega

/-- An operation that returns a part of the text has passed it. -/
theorem isSlice_step {op : Operation} (h : (c.step op).1 = .slice (some w)) :
    IsSlice c.text c.offset (c.step op).2.offset w := by
  have hread {reader : List Char → Option (List Char × List Char)} {taken : List Char}
      (hread : ∀ rest, reader c.ahead = some (taken, rest) →
        ∃ u, c.ahead = taken ++ (u ++ rest)) (h : (c.read? reader).1 = some taken) :
      IsSlice c.text c.offset (c.read? reader).2.offset taken := by
    unfold read? at h ⊢
    cases hfound : reader c.ahead with
    | none =>
      rw [hfound] at h
      cases h
    | some found =>
      obtain ⟨value, rest⟩ := found
      rw [hfound] at h
      obtain rfl := Option.some.inj h
      obtain ⟨u, hahead⟩ := hread rest hfound
      exact isSlice_moveTo hahead
  cases op with
  | eatWhile accepts =>
    obtain rfl : c.ahead.takeWhile accepts = w := Option.some.inj (Answer.slice.inj h)
    have hahead : c.ahead = c.ahead.takeWhile accepts ++ ([] ++ c.ahead.dropWhile accepts) :=
      List.takeWhile_append_dropWhile.symm
    exact moveTo_dropWhile accepts c ▸ isSlice_moveTo hahead
  | eatIdent =>
    refine hread (fun rest hfound => ⟨[], ?_⟩) (Answer.slice.inj h)
    exact Scan.eq_append_of_ident? hfound
  | eatUntil stop =>
    exact hread (fun rest hfound => ⟨stop, Scan.eq_append_of_until? hfound⟩) (Answer.slice.inj h)
  | findKeyword word =>
    rw [step_findKeyword] at h
    split at h <;> cases h
  | bump => cases h
  | eat expected => cases h
  | skipBlanks => cases h
  | eatKeyword word => cases h
  | seek offset => cases h

/-! ## Keywords -/

/-- The letters of ASCII have one byte in either case. -/
theorem utf8Size_toLower (c : Char) : c.toLower.utf8Size = c.utf8Size := by
  have h := toNat_toLower c
  split at h
  · next hc =>
    rw [Char.utf8Size_eq_one_iff.2 (show c.toLower.toNat ≤ 127 by omega),
      Char.utf8Size_eq_one_iff.2 (show c.toNat ≤ 127 by omega)]
  · rw [Char.toNat_inj.1 h]

/-- Texts with the same letters have as many bytes. -/
theorem byteLength_of_sameLetters (h : Text.sameLetters w word = true) :
    byteLength w = byteLength word := by
  have hlower (v : List Char) : byteLength (v.map Char.toLower) = byteLength v := by
    induction v with
    | nil => rfl
    | cons c v ih => rw [List.map_cons, byteLength, byteLength, utf8Size_toLower, ih]
  have hmap : w.map Char.toLower = word.map Char.toLower := by simpa [Text.sameLetters] using h
  rw [← hlower w, hmap, hlower]

/-- Where the search finds the keyword it stands, and the cursor passes its letters. -/
theorem keywordAt_of_keywordIndex?
    (h : keywordIndex? word c.passed.head? c.ahead = some n) :
    KeywordAt word c.text (c.advance n).offset ∧
      (c.advance (n + word.length)).offset = (c.advance n).offset + byteLength word := by
  obtain ⟨passed, ahead⟩ := c
  obtain ⟨a, w, t, rfl, rfl, hbefore, hsame, hstop⟩ := exists_of_keywordIndex? h
  rw [← length_eq_of_sameLetters hsame, ← byteLength_of_sameLetters hsame,
    ← List.length_append, ← List.append_assoc, advance_append, List.append_assoc, advance_append]
  constructor
  · refine ⟨passed.reverse ++ a, w, t, (List.append_assoc _ _ _).symm, ?_, ?_, hsame, hstop⟩
    · simp [offset, Nat.add_comm]
    · simpa [List.getLast?_append] using hbefore
  · simp only [offset, byteLength_append, byteLength_reverse]
    omega

/-- The search finds the first place from the cursor on where the keyword stands. -/
theorem isLeast_of_keywordIndex? (hword : IsWord word)
    (h : keywordIndex? word c.passed.head? c.ahead = some n) :
    IsLeast {i | c.offset ≤ i ∧ KeywordAt word c.text i} (c.advance n).offset := by
  constructor
  · refine ⟨?_, (keywordAt_of_keywordIndex? h).1⟩
    rw [offset_advance]
    exact Nat.le_add_right _ _
  · rintro i ⟨hi, hat⟩
    obtain ⟨m, hm, hle⟩ := hat.exists_keywordIndex?_le hword hi
    rw [h] at hm
    rwa [Option.some.inj hm]

/-- The search finds nothing only if the keyword stands nowhere from the cursor on. -/
theorem not_keywordAt_of_keywordIndex? (hword : IsWord word)
    (h : keywordIndex? word c.passed.head? c.ahead = none) (hi : c.offset ≤ i) :
    ¬KeywordAt word c.text i := by
  intro hat
  obtain ⟨n, hn, -⟩ := hat.exists_keywordIndex?_le hword hi
  rw [h] at hn
  cases hn

end Cursor

end SchemaDiagram
