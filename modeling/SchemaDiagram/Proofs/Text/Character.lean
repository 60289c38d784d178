import Mathlib
import SchemaDiagram.Text.Blank

/-!
# The classes of characters that readers ask about

Blanks and identifier characters are disjoint (`isIdent_of_isBlank`), and whatever has the lower
case of a letter of ASCII is such a letter itself (`isAlpha_of_toLower_eq`), so it belongs to
identifiers. Both classes come from the tables of Unicode, and the first fact is checked on the few
blanks there are.
-/

namespace SchemaDiagram.Character

/-- The code points of blanks. -/
def blankCodes : List Nat :=
  [9, 10, 11, 12, 13, 0x20, 0x85, 0xA0, 0x1680, 0x2000, 0x2001, 0x2002, 0x2003, 0x2004, 0x2005,
    0x2006, 0x2007, 0x2008, 0x2009, 0x200A, 0x2028, 0x2029, 0x202F, 0x205F, 0x3000]

/-- A blank has one of the code points in the list. -/
theorem toNat_mem_blankCodes {c : Char} (h : isBlank c = true) : c.toNat ∈ blankCodes := by
  unfold isBlank at h
  simp only [Bool.or_eq_true, Bool.and_eq_true, beq_iff_eq, decide_eq_true_eq] at h
  unfold blankCodes
  simp only [List.mem_cons, List.not_mem_nil, or_false]
  omega

/-- A blank is not part of an identifier. -/
theorem isIdent_of_isBlank {c : Char} (h : isBlank c = true) : isIdent c = false := by
  -- The tables of Unicode are asked about each of the blanks.
  have hall : ∀ n ∈ blankCodes, isIdent (Char.ofNat n) = false := by decide +kernel
  have hc := hall _ (toNat_mem_blankCodes h)
  rwa [Char.ofNat_toNat] at hc

/-- Nor is it part of a word. -/
theorem isWord_of_isBlank {c : Char} (h : isBlank c = true) : isWord c = false := by
  have hall : ∀ n ∈ blankCodes, isWord (Char.ofNat n) = false := by decide +kernel
  have hc := hall _ (toNat_mem_blankCodes h)
  rwa [Char.ofNat_toNat] at hc

/-- An identifier character is not a blank. -/
theorem isBlank_of_isIdent {c : Char} (h : isIdent c = true) : isBlank c = false := by
  by_contra hb
  rw [isIdent_of_isBlank (by simpa using hb)] at h
  exact absurd h (by decide)

/-- An identifier character is none of the characters outside identifiers. -/
theorem ne_of_isIdent {c d : Char} (h : isIdent c = true) (hd : isIdent d = false) : c ≠ d := by
  rintro rfl
  rw [h] at hd
  exact absurd hd (by decide)

/-! ## Letters of ASCII -/

/-- The lower case of a character of ASCII, as a code point. -/
theorem toNat_toLower (c : Char) :
    c.toLower.toNat = if 65 ≤ c.toNat ∧ c.toNat ≤ 90 then c.toNat + 32 else c.toNat := by
  unfold Char.toLower
  by_cases h : 65 ≤ c.toNat ∧ c.toNat ≤ 90
  · have h' : c.val ≥ 'A'.val ∧ c.val ≤ 'Z'.val := h
    rw [dif_pos h', if_pos h]
    show (c.val + ('a'.val - 'A'.val)).toNat = _
    rw [UInt32.toNat_add, show ('a'.val - 'A'.val).toNat = 32 from rfl,
      show c.val.toNat = c.toNat from rfl]
    omega
  · have h' : ¬(c.val ≥ 'A'.val ∧ c.val ≤ 'Z'.val) := h
    rw [dif_neg h', if_neg h]

/-- A character is a letter of ASCII exactly if its lower case is a small one. -/
theorem isAlpha_iff (c : Char) :
    c.isAlpha = true ↔ 97 ≤ c.toLower.toNat ∧ c.toLower.toNat ≤ 122 := by
  have h : c.isAlpha = true ↔ (65 ≤ c.toNat ∧ c.toNat ≤ 90) ∨ (97 ≤ c.toNat ∧ c.toNat ≤ 122) := by
    unfold Char.isAlpha Char.isUpper Char.isLower
    simp only [Bool.or_eq_true, Bool.and_eq_true, decide_eq_true_eq]
    exact Iff.rfl
  rw [h, toNat_toLower]
  split <;> omega

/-- What has the lower case of a letter of ASCII is a letter of ASCII. -/
theorem isAlpha_of_toLower_eq {c w : Char} (hw : w.isAlpha = true) (h : c.toLower = w.toLower) :
    c.isAlpha = true := by
  rw [isAlpha_iff] at hw ⊢
  rwa [h]

/-- The identifier characters of ASCII are letters, digits and the underscore. -/
theorem isIdent_of_lt {c : Char} (h : c.toNat < 0x80) :
    isIdent c = (c.isAlphanum || c == '_') := by
  unfold isIdent
  rw [if_pos h]

/-- The letters of ASCII belong to identifiers. -/
theorem isIdent_of_isAlpha {c : Char} (h : c.isAlpha = true) : isIdent c = true := by
  have hc : c.toNat < 0x80 := by
    rw [isAlpha_iff, toNat_toLower] at h
    split at h <;> omega
  rw [isIdent_of_lt hc]
  simp [Char.isAlphanum, h]

end SchemaDiagram.Character
