import Mathlib
import SchemaDiagram.Json.Basic
import SchemaDiagram.Json.Reader
import SchemaDiagram.Proofs.Text.Scan

/-!
# Tokens in front of other text

What a token is read from does not depend on the text behind it, except that a number goes on as
far as it can. A text that is one number is therefore read as that number wherever the number `Ends`
(`Token.ofText_append_of_number`), and a string in quotes is read as its characters, some of them as
code units (`Token.pieces_flatMap_escape`), which give the characters again
(`characters_map_piece`).
-/

namespace SchemaDiagram.Json

namespace Token

/-! ## Blanks -/

/-- No token begins with a blank. -/
theorem ofText_cons_of_blank {c : Char} (h : isBlank c = true) (s : List Char) :
    ofText (c :: s) = ofText s := by
  rw [ofText, if_pos h]

/-- Blanks in front of a text add no tokens. -/
theorem ofText_append_of_blank {blanks : List Char} (h : ∀ c ∈ blanks, isBlank c = true)
    (s : List Char) : ofText (blanks ++ s) = ofText s := by
  induction blanks with
  | nil => rfl
  | cons c blanks ih =>
    obtain ⟨hc, hblanks⟩ := List.forall_mem_cons.1 h
    rw [List.cons_append, ofText_cons_of_blank hc, ih hblanks]

/-- The first token of a text and those of what remains behind it. -/
theorem ofText_cons_of_read {c : Char} {s remaining : List Char} {token : Token}
    (hblank : isBlank c = false) (h : read c s = (token, some remaining)) :
    ofText (c :: s) = token :: ofText remaining := by
  rw [ofText, if_neg (by simp [hblank])]
  split
  · next heq =>
    rw [h] at heq
    cases heq
    rfl
  · next heq =>
    rw [h] at heq
    cases heq

/-- A text without tokens has nothing but blanks. -/
theorem forall_isBlank_of_ofText_eq_nil {s : List Char} (h : ofText s = []) :
    ∀ c ∈ s, isBlank c = true := by
  induction s with
  | nil => exact fun _ hc => nomatch hc
  | cons c s ih =>
    rw [ofText] at h
    split at h
    · next hblank => exact List.forall_mem_cons.2 ⟨hblank, ih h⟩
    · split at h <;> cases h

/-! ## Numbers -/

/-- No number goes on with this text. -/
def Ends (s : List Char) : Prop :=
  ∀ c ∈ s.head?, c.isDigit = false ∧ c ≠ '.' ∧ c ≠ 'e' ∧ c ≠ 'E'

variable {s remaining rest : List Char}

/-- Such a text begins with no digit. -/
theorem Ends.not_isDigit (h : Ends s) : s.head?.any Char.isDigit = false := by
  cases s with
  | nil => rfl
  | cons c s => exact (h c rfl).1

/-- It begins with no point. -/
theorem Ends.not_point (h : Ends s) : s.head? ≠ some '.' :=
  fun heq => (h '.' heq).2.1 rfl

/-- Digits are read the same in front of a text that begins with none. -/
theorem digits_append (hrest : rest.head?.any Char.isDigit = false) {ds : List Char}
    (h : digits s = .ok (ds, remaining)) : digits (s ++ rest) = .ok (ds, remaining ++ rest) := by
  obtain ⟨htake, hdrop⟩ := Scan.takeWhile_append_of_head? hrest s
  unfold digits at h ⊢
  rw [htake, hdrop]
  split at h
  · cases h
  · next hne =>
    cases h
    rfl

/-- So are the digits before the point. -/
theorem integer_append (hrest : rest.head?.any Char.isDigit = false) {ds : List Char}
    (h : integer s = .ok (ds, remaining)) : integer (s ++ rest) = .ok (ds, remaining ++ rest) := by
  unfold integer at h ⊢
  cases hdigits : digits s with
  | error fault =>
    rw [hdigits] at h
    cases h
  | ok r =>
    obtain ⟨ds', remaining'⟩ := r
    rw [hdigits] at h
    rw [digits_append hrest hdigits]
    simp only [bind, Except.bind] at h ⊢
    split at h
    · cases h
    · next hzero =>
      cases h
      rw [if_neg hzero]

/-- So is a fraction, if no point follows either. -/
theorem fraction_append (hrest : rest.head?.any Char.isDigit = false)
    (hpoint : rest.head? ≠ some '.') {ds : List Char} (h : fraction s = .ok (ds, remaining)) :
    fraction (s ++ rest) = .ok (ds, remaining ++ rest) := by
  unfold fraction at h
  split at h
  · exact digits_append hrest h
  · next hne =>
    cases h
    unfold fraction
    split
    · next tail heq =>
      cases s with
      | nil => exact absurd (congrArg List.head? heq) hpoint
      | cons c s =>
        cases heq
        exact absurd rfl (hne s)
    · rfl

/-- An exponent is read the same in front of a text that no number goes on with. -/
theorem exponent_append (hrest : Ends rest) {negative : Bool} {ds : List Char}
    (h : exponent s = .ok (negative, ds, remaining)) :
    exponent (s ++ rest) = .ok (negative, ds, remaining ++ rest) := by
  have hdigits {sign : Bool} {t : List Char}
      (h : (digits t).map (fun r => (sign, r.1, r.2)) = .ok (negative, ds, remaining)) :
      (digits (t ++ rest)).map (fun r => (sign, r.1, r.2)) =
        .ok (negative, ds, remaining ++ rest) := by
    cases ht : digits t with
    | error fault =>
      rw [ht] at h
      cases h
    | ok r =>
      rw [ht] at h
      cases h
      rw [digits_append hrest.not_isDigit ht]
      rfl
  cases s with
  | nil =>
    cases h
    cases rest with
    | nil => rfl
    | cons c rest =>
      obtain ⟨-, -, he, hE⟩ := hrest c rfl
      exact if_neg (by simp [he, hE])
  | cons c s =>
    unfold exponent at h ⊢
    rw [List.cons_append]
    dsimp only at h ⊢
    split at h
    · next he =>
      rw [if_pos he]
      -- A sign is read off the front of the same text with or without something behind it.
      cases s with
      | nil => cases h
      | cons d s =>
        split at h
        · next heq =>
          cases heq
          exact hdigits h
        · next heq =>
          cases heq
          exact hdigits h
        · next hminus hplus =>
          split
          · next heq =>
            cases heq
            exact absurd rfl (hminus s)
          · next heq =>
            cases heq
            exact absurd rfl (hplus s)
          · exact hdigits h
    · next he =>
      cases h
      exact if_neg he

/-- So is a number. -/
theorem numeral_append (hrest : Ends rest) {negative : Bool} {n : Numeral}
    (h : numeral negative s = .ok (n, remaining)) :
    numeral negative (s ++ rest) = .ok (n, remaining ++ rest) := by
  unfold numeral at h ⊢
  simp only [bind, Except.bind] at h ⊢
  split at h
  · cases h
  · next hinteger =>
    rw [integer_append hrest.not_isDigit hinteger]
    dsimp only at h ⊢
    split at h
    · cases h
    · next hfraction =>
      rw [fraction_append hrest.not_isDigit hrest.not_point hfraction]
      dsimp only at h ⊢
      split at h
      · cases h
      · next hexponent =>
        rw [exponent_append hrest hexponent]
        cases h
        rfl

/-- No single character is a number. -/
theorem single?_ne_number (c : Char) (n : Numeral) : single? c ≠ some (.number n) := by
  unfold single?
  simp only [List.lookup_cons, List.lookup_nil]
  repeat' split
  all_goals exact fun h => nomatch h

/-- A token that is a number is read the same in front of a text that no number goes on with. -/
theorem read_append_of_number {c : Char} {n : Numeral} (h : (read c s).1 = .number n) :
    ∃ remaining, read c s = (.number n, some remaining) ∧
      ∀ rest, Ends rest → read c (s ++ rest) = (.number n, some (remaining ++ rest)) := by
  have hword {token : Token} {r : Except Fault (List Char)} (hne : token ≠ .number n) :
      (ofWord token r).1 ≠ .number n := by
    cases r with
    | error fault => exact fun heq => nomatch heq
    | ok remaining => exact hne
  have hnumeral {negative : Bool} {t : List Char}
      (h : (ofNumeral (numeral negative t)).1 = .number n) :
      ∃ remaining, ofNumeral (numeral negative t) = (.number n, some remaining) ∧
        ∀ rest, Ends rest →
          ofNumeral (numeral negative (t ++ rest)) = (.number n, some (remaining ++ rest)) := by
    cases ht : numeral negative t with
    | error fault =>
      rw [ht] at h
      cases h
    | ok r =>
      rw [ht] at h
      cases h
      refine ⟨r.2, rfl, fun rest hrest => ?_⟩
      rw [numeral_append hrest ht]
      rfl
  unfold read at h ⊢
  cases hsingle : single? c with
  | some token =>
    rw [hsingle] at h
    exact absurd (hsingle.trans (congrArg some h)) (single?_ne_number c n)
  | none =>
    rw [hsingle] at h
    dsimp only at h ⊢
    split_ifs at h ⊢
    · unfold ofPieces at h
      split at h <;> cases h
    · exact absurd h (hword (by simp))
    · exact absurd h (hword (by simp))
    · exact absurd h (hword (by simp))
    · exact hnumeral h
    · exact hnumeral h

/-- A text that is one number is read as that number where no number goes on behind it. -/
theorem ofText_append_of_number {n : Numeral} (h : ofText s = [.number n]) (hrest : Ends rest) :
    ofText (s ++ rest) = .number n :: ofText rest := by
  induction s with
  | nil => simp [ofText] at h
  | cons c s ih =>
    cases hblank : isBlank c with
    | true =>
      rw [ofText_cons_of_blank hblank] at h
      rw [List.cons_append, ofText_cons_of_blank hblank, ih h]
    | false =>
      have hnumber : (read c s).1 = .number n := by
        rw [ofText, if_neg (by simp [hblank])] at h
        split at h
        · next hread =>
          rw [hread]
          exact (List.cons.inj h).1
        · next hread =>
          rw [hread]
          exact (List.cons.inj h).1
      obtain ⟨remaining, hread, happend⟩ := read_append_of_number hnumber
      rw [ofText_cons_of_read hblank hread] at h
      rw [List.cons_append, ofText_cons_of_read hblank (happend rest hrest),
        ofText_append_of_blank (forall_isBlank_of_ofText_eq_nil (List.cons.inj h).2)]

/-! ## Strings -/

/-- How a character of a string is read again: as a code unit if it is escaped by its code. -/
def piece (c : Char) : Piece :=
  if c.toNat < 0x20 ∧ c ∉ ['\x08', '\t', '\n', '\x0c', '\r'] then .unit c.toNat else .char c

/-- A character that stands for itself is read as that. -/
theorem pieces_cons {c : Char} (hquote : c ≠ '"') (hbackslash : c ≠ '\\')
    (hcontrol : 0x20 ≤ c.toNat) (s : List Char) :
    pieces (c :: s) = (.char c :: (pieces s).1, (pieces s).2) := by
  rw [pieces, if_neg hquote, if_neg hbackslash, if_neg (Nat.not_lt.2 hcontrol)]

/-- An escape is read as the piece that it stands for. -/
theorem pieces_backslash {s remaining : List Char} {p : Piece} (h : escape s = .ok (p, remaining)) :
    pieces ('\\' :: s) = (p :: (pieces remaining).1, (pieces remaining).2) := by
  rw [pieces, if_neg (by decide), if_pos rfl]
  split
  · next heq =>
    rw [h] at heq
    cases heq
  · next heq =>
    rw [h] at heq
    cases heq
    rfl

/-- Two digits give the code unit that they were written for. -/
theorem escape_hexDigit {n : Nat} (h : n < 0x20) (s : List Char) :
    escape ('u' :: '0' :: '0' :: hexDigit (n / 16) :: hexDigit (n % 16) :: s) =
      .ok (.unit n, s) := by
  have hvalue : ∀ n < 16, Hex.value? (hexDigit n) = some n := by decide
  have hzero : Hex.value? '0' = some 0 := by decide
  have hhigh := hvalue (n / 16) (by omega)
  have hlow := hvalue (n % 16) (by omega)
  rw [escape, if_pos rfl, codeUnit]
  simp only [hzero, hhigh, hlow, Except.map]
  have hn : ((0 * 16 + 0) * 16 + n / 16) * 16 + n % 16 = n := by omega
  rw [hn]

/-- A character as it stands inside quotes is read as its piece. -/
theorem pieces_escape (c : Char) (s : List Char) :
    pieces (Json.escape c ++ s) = (piece c :: (pieces s).1, (pieces s).2) := by
  -- A letter behind the backslash stands for the character, and so do two digits of its code.
  have hletter {letter : Char} (h : escape (letter :: s) = .ok (piece c, s)) :
      pieces (['\\', letter] ++ s) = (piece c :: (pieces s).1, (pieces s).2) := pieces_backslash h
  unfold Json.escape
  split_ifs with hquote hbackslash hb ht hn hf hr hcontrol
  · exact hletter (by subst hquote; rfl)
  · exact hletter (by subst hbackslash; rfl)
  · exact hletter (by subst hb; rfl)
  · exact hletter (by subst ht; rfl)
  · exact hletter (by subst hn; rfl)
  · exact hletter (by subst hf; rfl)
  · exact hletter (by subst hr; rfl)
  · have hpiece : piece c = .unit c.toNat := if_pos ⟨hcontrol, by simp [hb, ht, hn, hf, hr]⟩
    rw [hpiece]
    exact pieces_backslash (escape_hexDigit hcontrol s)
  · have hpiece : piece c = .char c := if_neg fun h => hcontrol h.1
    rw [hpiece]
    exact pieces_cons hquote hbackslash (Nat.not_lt.1 hcontrol) s

/-- A string in quotes is read as the pieces of its characters. -/
theorem pieces_flatMap_escape (s rest : List Char) :
    pieces (s.flatMap Json.escape ++ '"' :: rest) = (s.map piece, .ok rest) := by
  induction s with
  | nil =>
    show pieces ('"' :: rest) = _
    rw [pieces, if_pos rfl]
    rfl
  | cons c s ih => rw [List.flatMap_cons, List.append_assoc, pieces_escape, ih, List.map_cons]

end Token

/-- The pieces of characters give the characters again. -/
theorem characters_map_piece (s : List Char) :
    characters none (s.map Token.piece) = .ok s := by
  induction s with
  | nil => rfl
  | cons c s ih =>
    rw [List.map_cons, Token.piece]
    split
    · next hcontrol =>
      have hlow : ¬0xDC00 ≤ c.toNat := by omega
      have hhigh : ¬0xD800 ≤ c.toNat := by omega
      rw [characters.eq_def]
      simp [isLowSurrogate, isHighSurrogate, hlow, hhigh, ih, Except.map]
    · rw [characters, ih]
      rfl

end SchemaDiagram.Json
