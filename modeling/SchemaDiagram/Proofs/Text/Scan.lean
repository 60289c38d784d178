import SchemaDiagram.Proofs.Text.Character
import SchemaDiagram.Text.Scan

/-!
# What the readers of schema text and of SQL take

Each reader takes a piece off the front of a text exactly if the text begins with such a piece. An
identifier ends where a text `Stops` it, and a keyword is an identifier that has its letters
(`keyword?_eq_some_iff`). A text up to a stop is the shortest one, which is unique if the last
character of the stop does not come earlier (`until?_append`).
-/

namespace SchemaDiagram

open Character

/-- A name that schema text and SQL can hold: one or more identifier characters. -/
def IsIdentifier (w : List Char) : Prop :=
  w ≠ [] ∧ ∀ c ∈ w, isIdent c = true

/-- A text that is not empty and consists of identifier characters is an identifier. -/
theorem isIdentifier_of_all {w : List Char} (h : (!w.isEmpty && w.all isIdent) = true) :
    IsIdentifier w := by
  rw [Bool.and_eq_true, List.all_eq_true] at h
  exact ⟨by simpa using h.1, h.2⟩

/-- A character that is none of identifiers is not in one. -/
theorem IsIdentifier.not_mem {w : List Char} {m : Char} (hw : IsIdentifier w)
    (hm : isIdent m = false) : m ∉ w :=
  fun hmem => ne_of_isIdent (hw.2 m hmem) hm rfl

/-- No identifier that comes before the text goes on into it. -/
def Stops (s : List Char) : Prop :=
  s.head?.any isIdent = false

/-- The end of a text stops identifiers. -/
@[simp]
theorem stops_nil : Stops [] := rfl

/-- A text stops identifiers if its first character is not of them. -/
@[simp]
theorem stops_cons {c : Char} {s : List Char} : Stops (c :: s) ↔ isIdent c = false := by
  simp [Stops]

namespace Scan

/-! ## Runs of characters -/

/-- A run of characters ends before a text that does not begin with one of them. -/
theorem takeWhile_append_of_head? {f : Char → Bool} {s : List Char}
    (hs : s.head?.any f = false) (p : List Char) :
    (p ++ s).takeWhile f = p.takeWhile f ∧ (p ++ s).dropWhile f = p.dropWhile f ++ s := by
  induction p with
  | nil =>
    cases s with
    | nil => exact ⟨rfl, rfl⟩
    | cons x s =>
      have hx : f x = false := by simpa using hs
      simp [hx]
  | cons x p ih =>
    obtain ⟨htake, hdrop⟩ := ih
    cases hx : f x with
    | true => simp [hx, htake, hdrop]
    | false => simp [hx]

/-! ## Blanks -/

/-- A blank in front of a text is passed over. -/
theorem skipBlanks_cons {c : Char} {s : List Char} (hc : isBlank c = true) :
    skipBlanks (c :: s) = skipBlanks s := by
  simp [skipBlanks, hc]

/-- Without blanks in front, nothing is passed over. -/
theorem skipBlanks_of_not {c : Char} {s : List Char} (hc : isBlank c = false) :
    skipBlanks (c :: s) = c :: s := by
  simp [skipBlanks, hc]

/-- An identifier in front of a text is not passed over. -/
theorem skipBlanks_identifier {w s : List Char} (hw : IsIdentifier w) :
    skipBlanks (w ++ s) = w ++ s := by
  obtain ⟨hne, hall⟩ := hw
  cases w with
  | nil => exact absurd rfl hne
  | cons c w => exact skipBlanks_of_not (isBlank_of_isIdent (hall c (by simp)))

/-- Blanks that can be passed over stand in front of what remains. -/
theorem exists_skipBlanks (s : List Char) :
    ∃ gap, (∀ c ∈ gap, isBlank c = true) ∧ s = gap ++ skipBlanks s :=
  ⟨s.takeWhile isBlank, fun _ hc => List.mem_takeWhile_imp hc,
    List.takeWhile_append_dropWhile.symm⟩

/-- Blanks in front of something else are passed over. -/
theorem skipBlanks_append {gap : List Char} (hgap : ∀ c ∈ gap, isBlank c = true)
    (hs : s.head?.any isBlank = false) : skipBlanks (gap ++ s) = s := by
  unfold skipBlanks
  rw [List.dropWhile_append_of_pos hgap]
  cases s with
  | nil => rfl
  | cons c s => simpa using hs

/-- One or more blanks are read. -/
theorem blanks?_cons {c : Char} {s : List Char} (hc : isBlank c = true) :
    blanks? (c :: s) = some (skipBlanks s) := by
  simp [blanks?, hc]

/-- No blanks are read where none is. -/
theorem blanks?_of_not {c : Char} {s : List Char} (hc : isBlank c = false) :
    blanks? (c :: s) = none := by
  simp [blanks?, hc]

/-! ## Single characters -/

/-- The character in front of a text is read. -/
theorem char?_self (c : Char) (s : List Char) : char? c (c :: s) = some s := by
  simp [char?]

/-- No character is read where another one is. -/
theorem char?_of_ne {c : Char} {s : List Char} (h : s.head? ≠ some c) : char? c s = none := by
  cases s with
  | nil => rfl
  | cons d s =>
    have hne : d ≠ c := by simpa using h
    simp [char?, hne]

/-- A character that is read is at the front. -/
theorem eq_cons_of_char? {c : Char} {s rest : List Char} (h : char? c s = some rest) :
    s = c :: rest := by
  cases s with
  | nil => cases h
  | cons d s =>
    by_cases hd : d = c
    · rw [hd, char?_self] at h
      rw [hd, Option.some.inj h]
    · rw [char?_of_ne (by simpa using hd)] at h
      cases h

/-! ## Identifiers -/

/-- An identifier in front of a text is all that is taken up to where it stops. -/
theorem takeWhile_isIdent {w s : List Char} (hw : ∀ c ∈ w, isIdent c = true) (hs : Stops s) :
    (w ++ s).takeWhile isIdent = w := by
  rw [List.takeWhile_append_of_pos hw]
  cases s with
  | nil => simp
  | cons c s => simp [stops_cons.1 hs]

/-- What remains behind an identifier in front of a text. -/
theorem dropWhile_isIdent {w s : List Char} (hw : ∀ c ∈ w, isIdent c = true) (hs : Stops s) :
    (w ++ s).dropWhile isIdent = s := by
  rw [List.dropWhile_append_of_pos hw]
  cases s with
  | nil => rfl
  | cons c s => simp [stops_cons.1 hs]

/-- An identifier in front of a text is read. -/
theorem ident?_append {w s : List Char} (hw : IsIdentifier w) (hs : Stops s) :
    ident? (w ++ s) = some (w, s) := by
  unfold ident?
  rw [takeWhile_isIdent hw.2 hs, dropWhile_isIdent hw.2 hs]
  obtain ⟨c, w, rfl⟩ := List.exists_cons_of_ne_nil hw.1
  rfl

/-- No identifier is read where none begins. -/
theorem ident?_of_stops {s : List Char} (hs : Stops s) : ident? s = none := by
  unfold ident?
  rw [show s.takeWhile isIdent = [] from takeWhile_isIdent (w := []) (by simp) hs]

/-- An identifier that is read stands in front. -/
theorem eq_append_of_ident? {w s rest : List Char} (h : ident? s = some (w, rest)) :
    s = w ++ rest := by
  unfold ident? at h
  split at h
  · cases h
  · cases h
    exact List.takeWhile_append_dropWhile.symm

/-! ## Keywords -/

/-- The letters of a word are read off any text that begins with them in some case. -/
theorem letters?_eq_some_iff {word s rest : List Char} :
    letters? word s = some rest ↔ ∃ w, s = w ++ rest ∧ Text.sameLetters w word = true := by
  induction word generalizing s with
  | nil => simp [letters?, Text.sameLetters]
  | cons a word ih =>
    cases s with
    | nil => simp [letters?, Text.sameLetters]
    | cons c s =>
      unfold letters?
      -- If the first letters agree the others decide; if not, no text with the letters is in front.
      by_cases hc : c.toLower = a.toLower
      · rw [if_pos (by simpa using hc), ih]
        constructor
        · rintro ⟨w, rfl, hw⟩
          refine ⟨c :: w, rfl, ?_⟩
          simpa [Text.sameLetters, hc] using hw
        · rintro ⟨w, hs, hw⟩
          cases w with
          | nil => simp [Text.sameLetters] at hw
          | cons d w =>
            obtain ⟨rfl, rfl⟩ := List.cons.inj hs
            exact ⟨w, rfl, by simpa [Text.sameLetters, hc] using hw⟩
      · rw [if_neg (by simpa using hc)]
        constructor
        · intro h
          cases h
        · rintro ⟨w, hs, hw⟩
          cases w with
          | nil => simp [Text.sameLetters] at hw
          | cons d w =>
            obtain ⟨rfl, rfl⟩ := List.cons.inj hs
            simp [Text.sameLetters, hc] at hw

/-- A keyword is read off a text that begins with its letters, where no identifier goes on. -/
theorem keyword?_eq_some_iff {word s rest : List Char} :
    keyword? word s = some rest ↔
      ∃ w, s = w ++ rest ∧ Text.sameLetters w word = true ∧ Stops rest := by
  unfold keyword?
  rw [Option.filter_eq_some_iff, letters?_eq_some_iff]
  constructor
  · rintro ⟨⟨w, hs, hw⟩, hrest⟩
    exact ⟨w, hs, hw, by simpa [Stops] using hrest⟩
  · rintro ⟨w, hs, hw, hrest⟩
    exact ⟨⟨w, hs, hw⟩, by simpa [Stops] using hrest⟩

/-- What has the letters of a word of letters consists of letters. -/
theorem isAlpha_of_sameLetters {w word : List Char} (hword : ∀ c ∈ word, c.isAlpha = true)
    (h : Text.sameLetters w word = true) : ∀ c ∈ w, c.isAlpha = true := by
  have hmap : w.map Char.toLower = word.map Char.toLower := by simpa [Text.sameLetters] using h
  intro c hc
  have hmem : c.toLower ∈ word.map Char.toLower := hmap ▸ List.mem_map_of_mem hc
  obtain ⟨a, ha, hca⟩ := List.mem_map.1 hmem
  exact isAlpha_of_toLower_eq (hword a ha) hca.symm

/-- So it consists of identifier characters. -/
theorem isIdent_of_sameLetters {w word : List Char} (hword : ∀ c ∈ word, c.isAlpha = true)
    (h : Text.sameLetters w word = true) : ∀ c ∈ w, isIdent c = true :=
  fun c hc => isIdent_of_isAlpha (isAlpha_of_sameLetters hword h c hc)

/-- A keyword in front of a text is read. -/
theorem keyword?_append {word w s : List Char} (h : Text.sameLetters w word = true)
    (hs : Stops s) : keyword? word (w ++ s) = some s :=
  keyword?_eq_some_iff.2 ⟨w, rfl, h, hs⟩

/-- An identifier that is not the keyword is not read as it. -/
theorem keyword?_of_ne {word w s : List Char} (hword : ∀ c ∈ word, c.isAlpha = true)
    (hw : ∀ c ∈ w, isIdent c = true) (hs : Stops s) (h : Text.sameLetters w word = false) :
    keyword? word (w ++ s) = none := by
  rw [Option.eq_none_iff_forall_not_mem]
  intro rest hrest
  obtain ⟨v, hv, hsame, hstops⟩ := keyword?_eq_some_iff.1 hrest
  -- Both are the longest run of identifier characters in front of the text.
  have hwv : w = v := by
    rw [← takeWhile_isIdent hw hs, hv,
      takeWhile_isIdent (isIdent_of_sameLetters hword hsame) hstops]
  rw [hwv, hsame] at h
  exact absurd h (by decide)

/-- No keyword is read where no identifier begins. -/
theorem keyword?_of_stops {word s : List Char} (hne : word ≠ [])
    (hword : ∀ c ∈ word, c.isAlpha = true) (hs : Stops s) : keyword? word s = none := by
  refine keyword?_of_ne (w := []) hword (by simp) hs ?_
  cases word with
  | nil => exact absurd rfl hne
  | cons c word => rfl

/-! ## Texts up to a stop -/

/-- The text up to a stop is found if the last character of the stop does not come earlier. -/
theorem until?_append {p a s : List Char} {c : Char} (hp : c ∉ p) (ha : c ∉ a) :
    until? (a ++ [c]) (p ++ a ++ c :: s) = some (p, s) := by
  induction p with
  | nil =>
    have h : (a ++ [c]).isPrefixOf? (a ++ c :: s) = some s :=
      List.isPrefixOf?_eq_some_iff_append_eq.2 (by simp)
    cases a with
    | nil => simp [until?, List.isPrefixOf?]
    | cons x a =>
      simp only [List.nil_append, List.cons_append] at h ⊢
      unfold until?
      rw [h]
  | cons x p ih =>
    have hnone : (a ++ [c]).isPrefixOf? (x :: p ++ a ++ c :: s) = none := by
      rw [Option.eq_none_iff_forall_not_mem]
      intro r hr
      have heq := List.isPrefixOf?_eq_some_iff_append_eq.1 hr
      -- The last character of the stop would stand before its first occurrence.
      have hget : (x :: p ++ a ++ c :: s)[a.length]? = some c := by
        rw [← heq]
        simp
      rw [List.getElem?_append_left (by simp)] at hget
      have hmem := List.mem_of_getElem? hget
      simp only [List.cons_append, List.mem_cons, List.mem_append] at hp hmem
      tauto
    simp only [List.cons_append] at hnone ⊢
    unfold until?
    rw [hnone]
    simp only
    rw [ih (fun h => hp (List.mem_cons_of_mem _ h))]
    rfl

/-- The text up to a character is found at its first occurrence. -/
theorem until?_singleton {p s : List Char} {c : Char} (hp : c ∉ p) :
    until? [c] (p ++ c :: s) = some (p, s) := by
  simpa using until?_append (a := []) (s := s) hp (by simp)

/-- The text up to a stop stands in front of it. -/
theorem eq_append_of_until? {stop s taken rest : List Char}
    (h : until? stop s = some (taken, rest)) : s = taken ++ (stop ++ rest) := by
  induction s generalizing taken with
  | nil =>
    rw [until?] at h
    split at h
    · next hnil =>
      cases h
      rw [List.isEmpty_iff.1 hnil]
      rfl
    · cases h
  | cons c s ih =>
    rw [until?] at h
    split at h
    · next remaining hfront =>
      cases h
      exact (List.isPrefixOf?_eq_some_iff_append_eq.1 hfront).symm
    · obtain ⟨⟨taken', rest'⟩, hfound, heq⟩ := Option.map_eq_some_iff.1 h
      cases heq
      rw [ih hfound]
      rfl

end Scan

end SchemaDiagram
