import SchemaDiagram.Proofs.Text.Character
import SchemaDiagram.Text.Case

/-!
# Lower and upper case within ASCII

The texts of ASCII are mapped character by character (`upper_of_ascii`), and their letters stay the
same when case is ignored (`sameLetters_upper`). In lower case a text keeps the marks of ASCII
(`mem_lower`).
-/

namespace SchemaDiagram

namespace Character

/-- The identifier characters of ASCII: letters, digits and the underscore. -/
def isAsciiIdent (c : Char) : Bool :=
  c.isAlphanum || c == '_'

/-- The code points of letters and digits of ASCII. -/
theorem isAlphanum_iff (c : Char) :
    c.isAlphanum = true ↔ (48 ≤ c.toNat ∧ c.toNat ≤ 57) ∨ (65 ≤ c.toNat ∧ c.toNat ≤ 90) ∨
      (97 ≤ c.toNat ∧ c.toNat ≤ 122) := by
  unfold Char.isAlphanum Char.isAlpha Char.isUpper Char.isLower Char.isDigit
  simp only [Bool.or_eq_true, Bool.and_eq_true, decide_eq_true_eq]
  show ((65 ≤ c.toNat ∧ c.toNat ≤ 90) ∨ (97 ≤ c.toNat ∧ c.toNat ≤ 122)) ∨
    (48 ≤ c.toNat ∧ c.toNat ≤ 57) ↔ _
  omega

/-- The code points of the identifier characters of ASCII. -/
theorem isAsciiIdent_iff (c : Char) :
    isAsciiIdent c = true ↔ (48 ≤ c.toNat ∧ c.toNat ≤ 57) ∨ (65 ≤ c.toNat ∧ c.toNat ≤ 90) ∨
      (97 ≤ c.toNat ∧ c.toNat ≤ 122) ∨ c.toNat = 95 := by
  have hunderscore : c = '_' ↔ c.toNat = 95 := by
    constructor
    · rintro rfl
      rfl
    · intro h
      exact Char.toNat_inj.1 h
  unfold isAsciiIdent
  rw [Bool.or_eq_true, isAlphanum_iff, beq_iff_eq, hunderscore]
  omega

/-- The identifier characters of ASCII are of ASCII. -/
theorem lt_of_isAsciiIdent {c : Char} (h : isAsciiIdent c = true) : c.toNat < 0x80 := by
  rw [isAsciiIdent_iff] at h
  omega

/-- The identifier characters of ASCII are identifier characters. -/
theorem isIdent_of_isAsciiIdent {c : Char} (h : isAsciiIdent c = true) : isIdent c = true := by
  rw [isIdent_of_lt (lt_of_isAsciiIdent h)]
  exact h

/-- A digit is an identifier character of ASCII. -/
theorem isAsciiIdent_of_isDigit {c : Char} (h : c.isDigit = true) : isAsciiIdent c = true := by
  simp [isAsciiIdent, Char.isAlphanum, h]

/-- The upper case of a character of ASCII, as a code point. -/
theorem toNat_toUpper (c : Char) :
    c.toUpper.toNat = if 97 ≤ c.toNat ∧ c.toNat ≤ 122 then c.toNat - 32 else c.toNat := by
  unfold Char.toUpper
  by_cases h : 97 ≤ c.toNat ∧ c.toNat ≤ 122
  · have h' : c.val ≥ 'a'.val ∧ c.val ≤ 'z'.val := h
    rw [dif_pos h', if_pos h]
    show (c.val + ('A'.val - 'a'.val)).toNat = _
    rw [UInt32.toNat_add, show ('A'.val - 'a'.val).toNat = 4294967264 from rfl,
      show c.val.toNat = c.toNat from rfl]
    omega
  · have h' : ¬(c.val ≥ 'a'.val ∧ c.val ≤ 'z'.val) := h
    rw [dif_neg h', if_neg h]

/-- In upper case an identifier character of ASCII is one. -/
theorem isAsciiIdent_toUpper {c : Char} (h : isAsciiIdent c = true) :
    isAsciiIdent c.toUpper = true := by
  rw [isAsciiIdent_iff] at h ⊢
  rw [toNat_toUpper]
  split <;> omega

/-- Upper case does not change the letter. -/
theorem toLower_toUpper (c : Char) : c.toUpper.toLower = c.toLower := by
  refine Char.toNat_inj.1 ?_
  rw [toNat_toLower, toNat_toLower, toNat_toUpper]
  split_ifs <;> omega

end Character

namespace Text

open Character

/-- A text of ASCII is mapped to upper case character by character. -/
theorem upper_of_ascii {s : List Char} (hs : ∀ c ∈ s, c.toNat < 0x80) :
    upper s = s.map Char.toUpper := by
  unfold upper
  rw [List.map_eq_flatMap]
  refine List.flatMap_congr fun c hc => ?_
  unfold Character.toUpper
  rw [if_pos (hs c hc)]

/-- A text of ASCII has the same letters in upper case. -/
theorem sameLetters_upper {s w : List Char} (hs : ∀ c ∈ s, c.toNat < 0x80) :
    sameLetters (upper s) w = sameLetters s w := by
  unfold sameLetters
  rw [upper_of_ascii hs, List.map_map]
  congr 1
  exact List.map_congr_left fun c _ => toLower_toUpper c

/-- In lower case a text keeps the marks and digits of ASCII. -/
theorem mem_lower {c : Char} {s : List Char} (hascii : c.toNat < 0x80) (hlower : c.toLower = c)
    (h : c ∈ s) : c ∈ lower s := by
  have hafter (before s : List Char) (h : c ∈ s) : c ∈ lowerAfter before s := by
    induction s generalizing before with
    | nil => cases h
    | cons d s ih =>
      unfold lowerAfter
      rcases List.mem_cons.1 h with rfl | h
      · refine List.mem_append_left _ ?_
        -- Only the capital sigma is not mapped by itself, and it is not of ASCII.
        have hsigma : c ≠ 'Σ' := by
          rintro rfl
          exact absurd hascii (by decide)
        rw [if_neg (by simpa using hsigma)]
        unfold Character.toLower
        rw [if_pos hascii, hlower]
        exact List.mem_singleton_self c
      · exact List.mem_append_right _ (ih _ h)
  exact hafter [] s h

end Text

end SchemaDiagram
