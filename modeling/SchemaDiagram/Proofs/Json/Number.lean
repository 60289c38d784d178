import Mathlib
import SchemaDiagram.Proofs.Json.Write

/-!
# Numbers as they are written

The notation of a finite number is a number in JSON: no digits that begin with a zero stand before
its point, unless they are a single zero (`Decimal.isNumeral_text`). So the JSON form of every
number is sound (`Json.sound_ofFloat`), that of a number that is not finite being `null`.

The digits of a decimal begin with a zero only if the decimal is zero, which the shortest decimal of
a number that is not zero never is, because zero does not round to that number
(`Binary.shortest_eq_or`).
-/

namespace SchemaDiagram

namespace Json.Token

/-! ## The parts of a number -/

/-- One digit or more. -/
structure IsDigits (s : List Char) : Prop where
  /-- There is a digit. -/
  ne_nil : s ≠ []
  /-- There is nothing else. -/
  isDigit : ∀ c ∈ s, c.isDigit = true

/-- The digits before the point. -/
structure IsWhole (s : List Char) : Prop extends IsDigits s where
  /-- They do not begin with a zero unless it is the only one. -/
  leading : s.head? = some '0' → s = ['0']

/-- The parts of a number: the digits before the point, the fraction and the exponent. -/
structure IsNumeral (whole fraction exponent : List Char) : Prop where
  /-- The digits before the point are there. -/
  whole : IsWhole whole
  /-- The fraction is a point with digits. -/
  pointed : fraction = [] ∨ ∃ ds, fraction = '.' :: ds ∧ IsDigits ds
  /-- The exponent has a sign. -/
  signed : exponent = [] ∨ ∃ sign ds, exponent = 'e' :: sign :: ds ∧ (sign = '-' ∨ sign = '+') ∧
    IsDigits ds

namespace IsDigits

variable {s : List Char} {k : ℕ}

/-- A zero is a digit. -/
theorem zero : IsDigits ['0'] :=
  ⟨List.cons_ne_nil _ _, List.forall_mem_singleton.2 rfl⟩

/-- Digits are read to their end. -/
theorem digits_eq (h : IsDigits s) : digits s = .ok (s, []) := by
  unfold digits
  rw [List.takeWhile_eq_self_iff.2 h.isDigit, List.dropWhile_eq_nil_iff.2 h.isDigit]
  split
  · exact absurd rfl h.ne_nil
  · rfl

/-- The digits behind the first are digits. -/
theorem drop (h : IsDigits s) (hk : k < s.length) : IsDigits (s.drop k) :=
  ⟨by simpa using hk, fun c hc => h.isDigit c (List.mem_of_mem_drop hc)⟩

/-- So are digits with zeros in front of them. -/
theorem zeros_append (h : IsDigits s) (n : ℕ) : IsDigits (List.replicate n '0' ++ s) := by
  refine ⟨List.append_ne_nil_of_right_ne_nil _ h.ne_nil, List.forall_mem_append.2 ⟨?_, h.isDigit⟩⟩
  intro c hc
  rw [List.eq_of_mem_replicate hc]
  rfl

/-- The first digits can stand before a point if they do not begin with a zero. -/
theorem isWhole_take (h : IsDigits s) (hhead : s.head? ≠ some '0') (hk : k ≠ 0) :
    IsWhole (s.take k) where
  ne_nil := by simp [hk, h.ne_nil]
  isDigit c hc := h.isDigit c (List.mem_of_mem_take hc)
  leading hzero := by
    rw [List.head?_take, if_neg hk] at hzero
    exact absurd hzero hhead

/-- So can all of them with zeros behind them. -/
theorem isWhole_append_zeros (h : IsDigits s) (hhead : s.head? ≠ some '0') (n : ℕ) :
    IsWhole (s ++ List.replicate n '0') where
  ne_nil := List.append_ne_nil_of_left_ne_nil h.ne_nil _
  isDigit := by
    refine List.forall_mem_append.2 ⟨h.isDigit, fun c hc => ?_⟩
    rw [List.eq_of_mem_replicate hc]
    rfl
  leading hzero := by
    rw [List.head?_append_of_ne_nil _ h.ne_nil] at hzero
    exact absurd hzero hhead

end IsDigits

/-- So can a single zero. -/
theorem IsWhole.zero : IsWhole ['0'] :=
  ⟨.zero, fun _ => rfl⟩

/-! ## Reading a number -/

/-- A digit is no other character. -/
theorem ne_of_isDigit {c d : Char} (hc : c.isDigit = true) (hd : d.isDigit = false) : c ≠ d := by
  rintro rfl
  rw [hc] at hd
  cases hd

/-- A digit is no blank. -/
theorem isBlank_of_isDigit {c : Char} (h : c.isDigit = true) : isBlank c = false := by
  have hne {d : Char} (hd : d.isDigit = false) : (c == d) = false :=
    beq_eq_false_iff_ne.2 (ne_of_isDigit h hd)
  unfold isBlank
  rw [hne rfl, hne rfl, hne rfl, hne rfl]
  rfl

/-- A token that begins with a digit is a number. -/
theorem read_of_isDigit {c : Char} (h : c.isDigit = true) (s : List Char) :
    read c s = ofNumeral (numeral false (c :: s)) := by
  have hsingle : single? c = none := by
    refine List.lookup_eq_none_iff.2 fun entry hentry => bne_iff_ne.2 (ne_of_isDigit h ?_)
    exact (by decide : ∀ entry ∈ [('{', openBrace), ('}', closeBrace), ('[', openBracket),
      (']', closeBracket), (':', colon), (',', comma)], entry.1.isDigit = false) entry hentry
  unfold read
  rw [hsingle]
  simp [ne_of_isDigit h, h]

namespace IsNumeral

variable {whole fraction exponent : List Char}

/-- Zero is a number. -/
theorem zero : IsNumeral ['0'] ['.', '0'] [] :=
  ⟨.zero, .inr ⟨_, rfl, .zero⟩, .inl rfl⟩

/-- The digits before the point are read up to the fraction and the exponent. -/
theorem integer_eq (h : IsNumeral whole fraction exponent) :
    integer (whole ++ (fraction ++ exponent)) = .ok (whole, fraction ++ exponent) := by
  have hwhole : integer whole = .ok (whole, []) := by
    unfold integer
    rw [h.whole.digits_eq]
    exact if_neg fun hzero => hzero.2 (h.whole.leading hzero.1)
  refine integer_append ?_ hwhole
  rcases h.pointed with rfl | ⟨ds, rfl, -⟩
  · rcases h.signed with rfl | ⟨sign, ds, rfl, -⟩ <;> rfl
  · rfl

/-- The fraction is read up to the exponent. -/
theorem exists_fraction_eq (h : IsNumeral whole fraction exponent) : ∃ ds,
    Token.fraction (fraction ++ exponent) = .ok (ds, exponent) := by
  have hfraction : ∃ ds, Token.fraction fraction = .ok (ds, []) := by
    rcases h.pointed with rfl | ⟨ds, rfl, hds⟩
    · exact ⟨[], rfl⟩
    · exact ⟨ds, hds.digits_eq⟩
  obtain ⟨ds, hds⟩ := hfraction
  refine ⟨ds, fraction_append ?_ ?_ hds⟩
  · rcases h.signed with rfl | ⟨sign, ds, rfl, -⟩ <;> rfl
  · rcases h.signed with rfl | ⟨sign, ds, rfl, -⟩ <;> simp

/-- The exponent is read to its end. -/
theorem exists_exponent_eq (h : IsNumeral whole fraction exponent) : ∃ negative ds,
    Token.exponent exponent = .ok (negative, ds, []) := by
  rcases h.signed with rfl | ⟨sign, ds, rfl, rfl | rfl, hds⟩
  · exact ⟨false, [], rfl⟩
  · refine ⟨true, ds, ?_⟩
    show (digits ds).map _ = _
    rw [hds.digits_eq]
    rfl
  · refine ⟨false, ds, ?_⟩
    show (digits ds).map _ = _
    rw [hds.digits_eq]
    rfl

/-- The parts of a number are read as one. -/
theorem exists_numeral_eq (h : IsNumeral whole fraction exponent) (negative : Bool) : ∃ n,
    numeral negative (whole ++ fraction ++ exponent) = .ok (n, []) := by
  obtain ⟨digits, hfraction⟩ := h.exists_fraction_eq
  obtain ⟨sign, exponentDigits, hexponent⟩ := h.exists_exponent_eq
  rw [List.append_assoc]
  unfold numeral
  simp only [h.integer_eq, hfraction, hexponent, bind, Except.bind]
  exact ⟨_, rfl⟩

/-- With or without a minus sign they are the text of one token. -/
theorem exists_ofText_eq (h : IsNumeral whole fraction exponent) {sign : List Char}
    (hsign : sign = [] ∨ sign = ['-']) : ∃ n,
    ofText (sign ++ (whole ++ fraction ++ exponent)) = [.number n] := by
  rcases hsign with rfl | rfl
  · obtain ⟨n, hn⟩ := h.exists_numeral_eq false
    obtain ⟨c, ds, rfl⟩ := List.exists_cons_of_ne_nil h.whole.ne_nil
    have hc : c.isDigit = true := h.whole.isDigit c List.mem_cons_self
    have hread : read c (ds ++ fraction ++ exponent) = (.number n, some []) := by
      rw [read_of_isDigit hc]
      exact congrArg ofNumeral hn
    refine ⟨n, (ofText_cons_of_read (isBlank_of_isDigit hc) hread).trans ?_⟩
    rw [ofText]
  · obtain ⟨n, hn⟩ := h.exists_numeral_eq true
    have hread : read '-' (whole ++ fraction ++ exponent) = (.number n, some []) :=
      congrArg ofNumeral hn
    refine ⟨n, (ofText_cons_of_read rfl hread).trans ?_⟩
    rw [ofText]

end IsNumeral

end Json.Token

namespace Decimal

open Json.Token (IsDigits IsNumeral)

/-! ## The notation of a decimal -/

/-- The digits of a number. -/
theorem isDigits_digits (n : ℕ) : IsDigits (digits n) :=
  ⟨Nat.toDigits_ne_nil, fun _ hc => Nat.isDigit_of_mem_toDigits (by decide) (by decide) hc⟩

/-- They begin with a zero only if the number is zero. -/
theorem head?_digits_ne {n : ℕ} (h : n ≠ 0) : (digits n).head? ≠ some '0' := by
  unfold digits
  induction n using Nat.strong_induction_on with
  | _ n ih =>
    rw [Nat.toDigits_eq_if (by decide)]
    split
    · next hlt =>
      have hdigit : ∀ m < 10, m ≠ 0 → [Nat.digitChar m].head? ≠ some '0' := by decide
      exact hdigit n hlt h
    · rw [List.head?_append_of_ne_nil _ Nat.toDigits_ne_nil]
      exact ih (n / 10) (by omega) (by omega)

/-- The notation of a decimal that is not zero is a number. -/
theorem isNumeral_text {d : Decimal} (h : d.coefficient ≠ 0) : ∃ whole fraction exponent,
    d.text = whole ++ fraction ++ exponent ∧ IsNumeral whole fraction exponent := by
  have hdigits := isDigits_digits d.coefficient
  have hhead := head?_digits_ne h
  unfold text
  generalize digits d.coefficient = ds at hdigits hhead ⊢
  dsimp only
  generalize hpoint : (ds.length + d.exponent : ℤ) = point
  by_cases hrange : -4 ≤ point ∧ point ≤ 16
  · rw [if_pos hrange]
    by_cases hsmall : point ≤ 0
    · rw [if_pos hsmall]
      refine ⟨['0'], '.' :: (List.replicate (-point).toNat '0' ++ ds), [], by simp, ?_⟩
      exact ⟨.zero, .inr ⟨_, rfl, hdigits.zeros_append _⟩, .inl rfl⟩
    · rw [if_neg hsmall]
      by_cases hexponent : d.exponent < 0
      · rw [if_pos hexponent]
        have hne : point.toNat ≠ 0 := by omega
        have hlength : point.toNat < ds.length := by omega
        refine ⟨ds.take point.toNat, '.' :: ds.drop point.toNat, [], by simp, ?_⟩
        exact ⟨hdigits.isWhole_take hhead hne, .inr ⟨_, rfl, hdigits.drop hlength⟩, .inl rfl⟩
      · rw [if_neg hexponent]
        refine ⟨ds ++ List.replicate d.exponent.toNat '0', ".0".toList, [], by simp, ?_⟩
        exact ⟨hdigits.isWhole_append_zeros hhead _, .inr ⟨_, rfl, .zero⟩, .inl rfl⟩
  · rw [if_neg hrange]
    generalize hsign : (if point - 1 < 0 then '-' else '+') = sign
    generalize hfraction : (if ds.length = 1 then [] else '.' :: ds.drop 1) = fraction
    refine ⟨ds.take 1, fraction, ['e', sign] ++ digits (point - 1).natAbs, by simp, ?_⟩
    refine ⟨hdigits.isWhole_take hhead one_ne_zero, ?_,
      .inr ⟨sign, _, rfl, ?_, isDigits_digits _⟩⟩
    · subst hfraction
      split
      · exact .inl rfl
      · next hone =>
        have hpos := List.length_pos_iff.2 hdigits.ne_nil
        exact .inr ⟨_, rfl, hdigits.drop (by omega)⟩
    · subst hsign
      split
      · exact .inl rfl
      · exact .inr rfl

end Decimal

namespace Binary

/-! ## The shortest decimal -/

variable {x : Binary}

/-- Zero does not round to a number that is not zero. -/
theorem roundsTo_zero (h : x.mantissa ≠ 0) (k : ℤ) : x.roundsTo k 0 = false := by
  have hunit : 0 < twoTo x.exponent.toNat := Nat.pow_pos (by decide)
  have hten : 0 < tenTo (-k).toNat := Nat.pow_pos (by decide)
  -- The interval of the number begins two units below four times the mantissa, at the lowest.
  have hlow : 0 < 4 * x.mantissa * twoTo x.exponent.toNat -
      (if x.isLowest then 1 else 2) * twoTo x.exponent.toNat := by
    rw [← Nat.sub_mul]
    refine Nat.mul_pos ?_ hunit
    split <;> omega
  have hpos := Nat.mul_pos hlow hten
  unfold roundsTo quotient inUnits
  dsimp only
  split
  · exact Bool.and_eq_false_iff.2 (.inl (decide_eq_false (by omega)))
  · exact Bool.and_eq_false_iff.2 (.inl (decide_eq_false (by omega)))

/-- So it is not the nearest decimal either. -/
theorem ne_zero_of_nearest? (h : x.mantissa ≠ 0) {k : ℤ} {n : ℕ} (hn : x.nearest? k = some n) :
    n ≠ 0 := by
  rintro rfl
  unfold nearest? at hn
  dsimp only at hn
  split at hn
  · next hbelow _ =>
    split at hn
    · rw [Option.some.inj hn, roundsTo_zero h] at hbelow
      cases hbelow
    · cases hn
  · next hbelow _ =>
    rw [Option.some.inj hn, roundsTo_zero h] at hbelow
    cases hbelow
  · cases hn
  · cases hn

/-- The shortest decimal of a number that is not zero is not zero, if one is found. -/
theorem shortest_eq_or (h : x.mantissa ≠ 0) :
    x.shortest = ⟨0, 0⟩ ∨ x.shortest.coefficient ≠ 0 := by
  unfold shortest
  dsimp only
  generalize hfound : List.findSome? _ _ = found
  cases found with
  | none => exact .inl rfl
  | some d =>
    right
    obtain ⟨n, -, hn⟩ := List.exists_of_findSome?_eq_some hfound
    obtain ⟨coefficient, hnearest, rfl⟩ := Option.map_eq_some_iff.1 hn
    rw [Option.getD_some]
    split
    · exact one_ne_zero
    · exact ne_zero_of_nearest? h hnearest

/-- A number whose bits are not all zero is not zero. -/
theorem mantissa_ofBits_ne {bits : ℕ} (h : bits ≠ 0) (hfinite : bits < 0x7FF0000000000000) :
    (ofBits bits).mantissa ≠ 0 := by
  have hunit : twoTo 52 = 4503599627370496 := rfl
  have hbiased : twoTo 11 = 2048 := rfl
  unfold ofBits
  dsimp only
  rw [hunit, hbiased]
  split
  · show bits % 4503599627370496 ≠ 0
    omega
  · show 4503599627370496 + bits % 4503599627370496 ≠ 0
    omega

end Binary

namespace Json

open Token (IsNumeral)

/-! ## Floating-point numbers -/

/-- The notation of a finite number is a number, behind its sign. -/
theorem exists_of_ofFloat? {x : Float} {literal : List Char}
    (h : Decimal.ofFloat? x = some literal) : ∃ sign whole fraction exponent,
      literal = sign ++ (whole ++ fraction ++ exponent) ∧ (sign = [] ∨ sign = ['-']) ∧ IsNumeral whole fraction exponent := by
  unfold Decimal.ofFloat? at h
  dsimp only at h
  generalize hsign : (if x.toBits.toNat / 0x8000000000000000 = 1 then ['-'] else []) = sign at h
  have hsign : sign = [] ∨ sign = ['-'] := by
    subst hsign
    split
    · exact .inr rfl
    · exact .inl rfl
  split at h
  · cases h
  · next hfinite =>
    split at h
    · cases h
      exact ⟨sign, ['0'], ['.', '0'], [], rfl, hsign, .zero⟩
    · next hne =>
      cases h
      have hmantissa := Binary.mantissa_ofBits_ne hne (by omega)
      rcases Binary.shortest_eq_or hmantissa with hshortest | hshortest
      · rw [hshortest]
        exact ⟨sign, ['0'], ['.', '0'], [], rfl, hsign, .zero⟩
      · obtain ⟨whole, fraction, exponent, htext, hparts⟩ := Decimal.isNumeral_text hshortest
        exact ⟨sign, whole, fraction, exponent, by rw [htext], hsign, hparts⟩

/-- The JSON form of every number is sound. -/
theorem sound_ofFloat (x : Float) : Sound (ofFloat x) := by
  unfold ofFloat
  split
  · next literal hliteral =>
    obtain ⟨sign, whole, fraction, exponent, rfl, hsign, hparts⟩ := exists_of_ofFloat? hliteral
    obtain ⟨n, hn⟩ := hparts.exists_ofText_eq hsign
    exact .number hn
  · exact .null

end Json

end SchemaDiagram
