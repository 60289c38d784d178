import SchemaDiagram.Proofs.Text.Case

/-!
# Identifiers in lower case

In lower case an identifier still begins with an identifier character, and nothing is in it but
identifier characters and the combining dot of the one capital letter that becomes two characters
(`Text.lower_identifier`). Only the tables of Unicode say so: every run of capital letters is mapped
into one range of letters. `CodeSet.covers` is a test of that which takes two comparisons for each
range instead of a bisection for each letter, and `CodeSet.contains_of_covers` proves it sound.
`CodeSet.coversEach` tests all the runs in one pass over the ranges.

The same tables say that a text in lower case stays as it is (`Text.lower_lower`): no run is mapped
into another one, or only between the letters that the other covers (`CaseRun.avoids`).
-/

namespace SchemaDiagram

/-! ## Ranges of a set -/

namespace CodeSet

/-- The number of boundaries at or below a code point. -/
def rank (boundaries : List Nat) (x : Nat) : Nat :=
  boundaries.countP (· ≤ x)

/-- In increasing boundaries the first ones are those at or below a code point. -/
theorem getElem_le_iff {boundaries : List Nat} (hsorted : boundaries.Pairwise (· < ·)) (x : Nat)
    {i : Nat} (hi : i < boundaries.length) : boundaries[i] ≤ x ↔ i < rank boundaries x := by
  induction boundaries generalizing i with
  | nil => exact absurd hi (Nat.not_lt_zero i)
  | cons b boundaries ih =>
    obtain ⟨hfirst, hrest⟩ := List.pairwise_cons.1 hsorted
    unfold rank
    by_cases hb : b ≤ x
    · rw [List.countP_cons_of_pos (by simpa using hb)]
      cases i with
      | zero => simpa using hb
      | succ i =>
        have hi' : i < boundaries.length := by simpa using hi
        rw [List.getElem_cons_succ, ih hrest hi']
        exact Nat.succ_lt_succ_iff.symm
    · -- Behind a boundary above the code point there are only others.
      have hnone : boundaries.countP (· ≤ x) = 0 := by
        rw [List.countP_eq_zero]
        intro c hc
        have hlt := hfirst c hc
        simp only [decide_eq_true_eq]
        omega
      rw [List.countP_cons_of_neg (by simpa using hb), hnone]
      cases i with
      | zero => simpa using hb
      | succ i =>
        have hi' : i < boundaries.length := by simpa using hi
        have hlt := hfirst boundaries[i] (List.getElem_mem hi')
        rw [List.getElem_cons_succ]
        omega

/-- Bisection finds the number that the boundaries at or below a code point are told apart by. -/
theorem countUpTo_eq {boundaries : Array Nat} {x k : Nat}
    (hk : ∀ i < boundaries.size, boundaries.getD i 0 ≤ x ↔ i < k) {steps low high : Nat}
    (hlow : low ≤ k) (hhigh : k ≤ high) (hsize : high ≤ boundaries.size)
    (hsteps : high - low < 2 ^ steps) : countUpTo boundaries x steps low high = k := by
  induction steps generalizing low high with
  | zero =>
    unfold countUpTo
    omega
  | succ steps ih =>
    rw [Nat.pow_succ] at hsteps
    unfold countUpTo
    by_cases hlt : low < high
    · have hmiddle := hk ((low + high) / 2) (by omega)
      rw [if_pos hlt]
      simp only
      by_cases hle : boundaries.getD ((low + high) / 2) 0 ≤ x
      · have hbelow := hmiddle.1 hle
        rw [if_pos hle]
        exact ih (by omega) hhigh hsize (by omega)
      · have habove := mt hmiddle.2 hle
        rw [if_neg hle]
        exact ih hlow (by omega) (by omega) (by omega)
    · rw [if_neg hlt]
      omega

/-- A character belongs to a set with increasing boundaries if an odd number of them is at or below
it. -/
theorem contains_eq {s : CodeSet} (hsorted : s.boundaries.toList.Pairwise (· < ·)) (c : Char) :
    s.contains c = (rank s.boundaries.toList c.toNat % 2 == 1) := by
  have hk : ∀ i < s.boundaries.size,
      s.boundaries.getD i 0 ≤ c.toNat ↔ i < rank s.boundaries.toList c.toNat := by
    intro i hi
    rw [← getElem_le_iff hsorted c.toNat (i := i) (by simpa using hi)]
    simp [Array.getD, hi]
  have hle : rank s.boundaries.toList c.toNat ≤ s.boundaries.size := by
    unfold rank
    rw [← Array.length_toList]
    exact List.countP_le_length
  unfold contains
  rw [countUpTo_eq hk (Nat.zero_le _) hle (Nat.le_refl _) (by simpa using Nat.lt_log2_self)]

/-- Whether the code points from `low` to `high` lie within one range of the set with these
boundaries. -/
def covers : (boundaries : List Nat) → (low high : Nat) → Bool
  | first :: next :: rest, low, high =>
    (high < next && first ≤ low) || covers rest low high
  | _, _, _ => false

/-- What lies within a range of a set belongs to it. -/
theorem contains_of_covers {s : CodeSet} (hsorted : s.boundaries.toList.Pairwise (· < ·))
    {low high : Nat} (hcovers : covers s.boundaries.toList low high = true) {c : Char}
    (hlow : low ≤ c.toNat) (hhigh : c.toNat ≤ high) : s.contains c = true := by
  have hrank (boundaries : List Nat) (hsorted : boundaries.Pairwise (· < ·))
      (hcovers : covers boundaries low high = true) : rank boundaries c.toNat % 2 = 1 := by
    induction boundaries using List.twoStepInduction with
    | nil => cases hcovers
    | singleton first => cases hcovers
    | cons_cons first next rest ih _ =>
      obtain ⟨hfirst, hbehind⟩ := List.pairwise_cons.1 hsorted
      obtain ⟨hnext, hrest⟩ := List.pairwise_cons.1 hbehind
      have hcons (b : Nat) (bs : List Nat) :
          rank (b :: bs) c.toNat = rank bs c.toNat + if b ≤ c.toNat then 1 else 0 := by
        unfold rank
        simp [List.countP_cons]
      rw [hcons, hcons]
      simp only [covers, Bool.or_eq_true, Bool.and_eq_true, decide_eq_true_eq] at hcovers
      rcases hcovers with ⟨hhighest, hlowest⟩ | hlater
      · -- No boundary behind this range is reached.
        have hnone : rank rest c.toNat = 0 := by
          unfold rank
          rw [List.countP_eq_zero]
          intro b hb
          have hlt := hnext b hb
          simp only [decide_eq_true_eq]
          omega
        rw [hnone, if_neg (by omega), if_pos (by omega)]
      · -- A later range is reached, so both boundaries of this one have been passed.
        have hodd := ih hrest hlater
        have hpassed : ∃ b ∈ rest, b ≤ c.toNat := by
          by_contra hnot
          have hnone : rank rest c.toNat = 0 := by
            unfold rank
            rw [List.countP_eq_zero]
            exact fun b hb => by simpa using fun hle => hnot ⟨b, hb, hle⟩
          omega
        obtain ⟨b, hb, hle⟩ := hpassed
        have hlt := hnext b hb
        have hlt' := hfirst next List.mem_cons_self
        rw [if_pos (by omega), if_pos (by omega)]
        omega
  rw [contains_eq hsorted, hrank _ hsorted hcovers]
  rfl

/-- Whether each of the pairs of code points lies within one range of the set with these boundaries,
if the pairs are given in increasing order. -/
def coversEach : (boundaries : List Nat) → (pairs : List (Nat × Nat)) → Bool
  | first :: next :: rest, pairs =>
    coversEach rest (pairs.dropWhile fun p => Nat.ble first p.1 && Nat.blt p.2 next)
  | _, pairs => pairs.isEmpty

/-- The pairs that are dropped in one pass lie within ranges. -/
theorem covers_of_coversEach {boundaries : List Nat} {pairs : List (Nat × Nat)}
    (h : coversEach boundaries pairs = true) : ∀ p ∈ pairs, covers boundaries p.1 p.2 = true := by
  induction boundaries using List.twoStepInduction generalizing pairs with
  | nil => simp [List.isEmpty_iff.1 h]
  | singleton first => simp [List.isEmpty_iff.1 h]
  | cons_cons first next rest ih _ =>
    intro p hp
    rw [← List.takeWhile_append_dropWhile
      (p := fun p : Nat × Nat => Nat.ble first p.1 && Nat.blt p.2 next) (l := pairs),
      List.mem_append] at hp
    rcases hp with hp | hp
    · have hwithin := List.mem_takeWhile_imp hp
      simp only [Bool.and_eq_true, Nat.ble_eq, Nat.blt_eq] at hwithin
      simp [covers, hwithin]
    · simp [covers, ih h p hp]

end CodeSet

namespace Character

/-! ## Capital letters -/

/-- The boundaries of the set of letters increase. -/
theorem alphabetic_increasing : alphabetic.boundaries.toList.Pairwise (· < ·) := by
  rw [← List.isChain_iff_pairwise]
  decide +kernel

/-- What is a letter beyond ASCII belongs to identifiers. -/
theorem isIdent_of_alphabetic {c : Char} (hc : 0x80 ≤ c.toNat) (h : alphabetic.contains c = true) :
    isIdent c = true := by
  unfold isIdent
  rw [if_neg (Nat.not_lt.2 hc), h]
  rfl

/-- The code points that a run is mapped to lie within one range of letters. In ASCII this is the
one of the small letters. -/
def CaseRun.isProper (r : CaseRun) : Bool :=
  let low := (r.first + r.shift).toNat
  let high := (r.last + r.shift).toNat
  CodeSet.covers alphabetic.boundaries.toList low high &&
    (0x80 ≤ low || (97 ≤ low && high ≤ 122)) && (high < 0xD800 || (0xDFFF < low && high < 0x110000))

/-- The first and the last code point that a run is mapped to. -/
def CaseRun.image (r : CaseRun) : Nat × Nat :=
  ((r.first + r.shift).toNat, (r.last + r.shift).toNat)

/-- Every run of capital letters is mapped to letters. -/
theorem isProper_lowerRuns : ∀ r ∈ lowerRuns.toList, r.isProper = true := by
  have hcovers : CodeSet.coversEach alphabetic.boundaries.toList
      ((lowerRuns.toList.map CaseRun.image).insertionSort (·.1 ≤ ·.1)) = true := by
    decide +kernel
  have hrange : ∀ r ∈ lowerRuns.toList,
      ((0x80 ≤ r.image.1 || (97 ≤ r.image.1 && r.image.2 ≤ 122)) &&
        (r.image.2 < 0xD800 || (0xDFFF < r.image.1 && r.image.2 < 0x110000))) = true := by
    decide +kernel
  intro r hr
  have himage := CodeSet.covers_of_coversEach hcovers r.image
    ((List.mem_insertionSort _).2 (List.mem_map_of_mem hr))
  unfold CaseRun.isProper
  rw [Bool.and_assoc, Bool.and_eq_true]
  exact ⟨himage, hrange r hr⟩

/-- A run that is mapped to letters maps the characters it covers to characters between those to
which its ends are mapped. -/
theorem CaseRun.toNat_image {r : CaseRun} (hr : r.isProper = true) {c : Char}
    (hc : r.covers c.toNat = true) :
    (Char.ofNat (c.toNat + r.shift).toNat).toNat = (c.toNat + r.shift).toNat ∧
      (r.first + r.shift).toNat ≤ (c.toNat + r.shift).toNat ∧
      (c.toNat + r.shift).toNat ≤ (r.last + r.shift).toNat := by
  simp only [isProper, Bool.and_eq_true, Bool.or_eq_true, decide_eq_true_eq] at hr
  obtain ⟨⟨-, -⟩, hscalar⟩ := hr
  simp only [covers, Bool.and_eq_true, decide_eq_true_eq] at hc
  obtain ⟨⟨hfirst, hlast⟩, -⟩ := hc
  have hlow : (r.first + r.shift).toNat ≤ (c.toNat + r.shift).toNat := by omega
  have hhigh : (c.toNat + r.shift).toNat ≤ (r.last + r.shift).toNat := by omega
  have hvalid : (c.toNat + r.shift).toNat.isValidChar := by
    unfold Nat.isValidChar
    omega
  exact ⟨by rw [Char.toNat_ofNat, if_pos hvalid], hlow, hhigh⟩

/-- They are identifier characters. -/
theorem CaseRun.isIdent_image {r : CaseRun} (hr : r.isProper = true) {c : Char}
    (hc : r.covers c.toNat = true) : isIdent (Char.ofNat (c.toNat + r.shift).toNat) = true := by
  obtain ⟨himage, hlow, hhigh⟩ := toNat_image hr hc
  simp only [isProper, Bool.and_eq_true, Bool.or_eq_true, decide_eq_true_eq] at hr
  obtain ⟨⟨hcovers, hrange⟩, -⟩ := hr
  by_cases hascii : 0x80 ≤ (c.toNat + r.shift).toNat
  · refine isIdent_of_alphabetic (by rwa [himage]) ?_
    exact CodeSet.contains_of_covers alphabetic_increasing hcovers (by rwa [himage])
      (by rwa [himage])
  · refine isIdent_of_isAlpha ?_
    rw [isAlpha_iff, toNat_toLower, himage]
    split <;> omega

/-- The dot that the capital I with a dot keeps in lower case. -/
def combiningDot : Char :=
  Char.ofNat 0x307

/-- The lower case of an identifier character begins with one, and only the dot can follow. -/
theorem toLower_of_isIdent {c : Char} (h : isIdent c = true) :
    ∃ x rest, toLower c = x :: rest ∧ isIdent x = true ∧ ∀ y ∈ rest, y = combiningDot := by
  unfold toLower
  split_ifs with hascii hdot
  · refine ⟨c.toLower, [], rfl, ?_, by simp⟩
    have hasciiIdent : isAsciiIdent c = true := by rwa [isIdent_of_lt hascii] at h
    refine isIdent_of_isAsciiIdent ?_
    rw [isAsciiIdent_iff, toNat_toLower]
    rw [isAsciiIdent_iff] at hasciiIdent
    split <;> omega
  · exact ⟨'i', [combiningDot], rfl, rfl, by simp⟩
  · refine ⟨mapByRuns lowerRuns c, [], rfl, ?_, by simp⟩
    unfold mapByRuns
    split
    · next r hr =>
      have hmem : r ∈ lowerRuns.toList := Array.mem_toList_iff.2 (Array.mem_of_find?_eq_some hr)
      have hcovers := Array.find?_some hr
      exact CaseRun.isIdent_image (isProper_lowerRuns r hmem) hcovers
    · exact h

end Character

namespace Text

open Character

/-- In lower case an identifier begins with an identifier character, and only such characters and
the dot can follow. -/
theorem lower_identifier {w : List Char} (hne : w ≠ []) (hw : ∀ c ∈ w, isIdent c = true) :
    ∃ x rest, lower w = x :: rest ∧ isIdent x = true ∧
      ∀ y ∈ rest, isIdent y = true ∨ y = combiningDot := by
  -- The capital sigma is mapped to one of two small ones, any other character by itself.
  have himage (before : List Char) {c : Char} (rest : List Char) (hc : isIdent c = true) :
      ∃ x dots, lowerAfter before (c :: rest) = x :: (dots ++ lowerAfter (c :: before) rest) ∧
        isIdent x = true ∧ ∀ y ∈ dots, y = combiningDot := by
    have hcons : lowerAfter before (c :: rest) =
        (if c == 'Σ' then [if startsCased before && !startsCased rest then 'ς' else 'σ']
          else Character.toLower c) ++ lowerAfter (c :: before) rest := rfl
    rw [hcons]
    split
    · split
      · exact ⟨'ς', [], rfl, by decide +kernel, by simp⟩
      · exact ⟨'σ', [], rfl, by decide +kernel, by simp⟩
    · obtain ⟨x, dots, heq, hx, hdots⟩ := toLower_of_isIdent hc
      rw [heq]
      exact ⟨x, dots, rfl, hx, hdots⟩
  have hafter (before w : List Char) (hw : ∀ c ∈ w, isIdent c = true) :
      ∀ y ∈ lowerAfter before w, isIdent y = true ∨ y = combiningDot := by
    induction w generalizing before with
    | nil => simp [lowerAfter]
    | cons c w ih =>
      obtain ⟨x, dots, heq, hx, hdots⟩ := himage before w (hw c List.mem_cons_self)
      intro y hy
      rw [heq, List.mem_cons, List.mem_append] at hy
      rcases hy with rfl | hy | hy
      · exact .inl hx
      · exact .inr (hdots y hy)
      · exact ih _ (fun d hd => hw d (List.mem_cons_of_mem _ hd)) y hy
  obtain ⟨c, w, rfl⟩ := List.exists_cons_of_ne_nil hne
  obtain ⟨x, dots, heq, hx, hdots⟩ := himage [] w (hw c List.mem_cons_self)
  refine ⟨x, dots ++ lowerAfter [c] w, heq, hx, fun y hy => ?_⟩
  rcases List.mem_append.1 hy with hy | hy
  · exact .inr (hdots y hy)
  · exact hafter _ w (fun d hd => hw d (List.mem_cons_of_mem _ hd)) y hy

end Text

/-! ## Text in lower case -/

namespace Character

/-- Whether none of the runs, which are given in increasing order, covers a code point from `low` to
`high`. If only every second code point counts, a run may cover those between them. -/
def CaseRun.avoids (second : Bool) (low high : Nat) : List CaseRun → Bool
  | [] => true
  | r :: runs =>
    Nat.blt high r.first ||
      ((Nat.blt r.last low || (second && r.step == 2 && (low + r.first) % 2 == 1)) &&
        avoids second low high runs)

/-- What is avoided is not covered. -/
theorem CaseRun.covers_of_avoids {second : Bool} {low high x : Nat} {runs : List CaseRun}
    (hsorted : runs.Pairwise (·.first < ·.first)) (h : avoids second low high runs = true)
    (hlow : low ≤ x) (hhigh : x ≤ high) (hsecond : second = true → (x - low) % 2 = 0) :
    ∀ r ∈ runs, r.covers x = false := by
  induction runs with
  | nil => exact fun r hr => nomatch hr
  | cons q runs ih =>
    obtain ⟨hfirst, hrest⟩ := List.pairwise_cons.1 hsorted
    simp only [avoids, Bool.or_eq_true, Bool.and_eq_true, Nat.blt_eq, beq_iff_eq] at h
    unfold covers at ih ⊢
    simp only [Bool.and_eq_false_iff, decide_eq_false_iff_not, beq_eq_false_iff_ne] at ih ⊢
    rintro r hr
    rcases h with hbefore | ⟨hq, hlater⟩
    · -- All runs begin behind the code points.
      have hle : q.first ≤ r.first := by
        rcases List.mem_cons.1 hr with rfl | hr
        · exact Nat.le_refl _
        · exact Nat.le_of_lt (hfirst r hr)
      exact .inl (.inl (by omega))
    · rcases List.mem_cons.1 hr with rfl | hr
      · rcases hq with hbehind | ⟨⟨hstep, htwo⟩, hodd⟩
        · exact .inl (.inr (by omega))
        · -- The run covers code points of the other parity.
          have heven := hsecond hstep
          rw [htwo]
          omega
      · exact ih hrest hlater r hr

/-- The runs of capital letters are in increasing order. -/
theorem lowerRuns_increasing : lowerRuns.toList.Pairwise (·.first < ·.first) := by
  rw [← List.isChain_iff_pairwise]
  decide +kernel

/-- No run of capital letters covers what this one is mapped to, and that is not the capital I with a
dot either. -/
def CaseRun.isFinal (r : CaseRun) : Bool :=
  let low := (r.first + r.shift).toNat
  let high := (r.last + r.shift).toNat
  let second := r.step == 2 || r.first == r.last
  avoids second low high [⟨0x130, 0x130, 2, 0⟩] && avoids second low high lowerRuns.toList

/-- Every run of capital letters is mapped to letters that are not mapped any further. -/
theorem isFinal_lowerRuns : ∀ r ∈ lowerRuns.toList, r.isFinal = true := by
  decide +kernel

/-- A small letter of ASCII is its own lower case. -/
theorem toLower_of_small {c : Char} (h : 97 ≤ c.toNat ∧ c.toNat ≤ 122) : c.toLower = c := by
  refine Char.toNat_inj.1 ?_
  rw [toNat_toLower, if_neg (by omega)]

/-- A character beyond ASCII that no run of capital letters covers is its own lower case, unless it is
the capital I with a dot. -/
theorem toLower_of_find? {c : Char} (hascii : ¬c.toNat < 0x80) (hdot : c.toNat ≠ 0x130)
    (h : lowerRuns.find? (·.covers c.toNat) = none) : toLower c = [c] := by
  unfold toLower mapByRuns
  rw [if_neg hascii, if_neg hdot, h]

/-- What the runs of capital letters avoid, none of them covers. -/
theorem find?_of_avoids {second : Bool} {low high x : Nat}
    (h : CaseRun.avoids second low high lowerRuns.toList = true) (hlow : low ≤ x) (hhigh : x ≤ high)
    (hsecond : second = true → (x - low) % 2 = 0) : lowerRuns.find? (·.covers x) = none := by
  rw [Array.find?_eq_none]
  intro r hr
  rw [CaseRun.covers_of_avoids lowerRuns_increasing h hlow hhigh hsecond r
    (Array.mem_toList_iff.2 hr)]
  exact Bool.false_ne_true

/-- A character beyond ASCII that the runs of capital letters avoid is its own lower case. -/
theorem toLower_of_avoids {c : Char} (hascii : ¬c.toNat < 0x80) (hdot : c.toNat ≠ 0x130)
    (h : CaseRun.avoids false c.toNat c.toNat lowerRuns.toList = true) : toLower c = [c] :=
  toLower_of_find? hascii hdot
    (find?_of_avoids h (Nat.le_refl _) (Nat.le_refl _) fun hfalse => nomatch hfalse)

/-- What a capital letter is mapped to is its own lower case. -/
theorem CaseRun.toLower_image {r : CaseRun} (hr : r ∈ lowerRuns.toList) {c : Char}
    (hc : r.covers c.toNat = true) :
    toLower (Char.ofNat (c.toNat + r.shift).toNat) = [Char.ofNat (c.toNat + r.shift).toNat] := by
  have hproper := isProper_lowerRuns r hr
  have hfinal := isFinal_lowerRuns r hr
  obtain ⟨himage, hlow, hhigh⟩ := toNat_image hproper hc
  simp only [isProper, Bool.and_eq_true, Bool.or_eq_true, decide_eq_true_eq] at hproper
  obtain ⟨⟨-, hrange⟩, -⟩ := hproper
  simp only [isFinal, Bool.and_eq_true] at hfinal
  obtain ⟨hdot, hruns⟩ := hfinal
  simp only [covers, Bool.and_eq_true, decide_eq_true_eq, beq_iff_eq] at hc
  obtain ⟨⟨hfirst, hlast⟩, hstep⟩ := hc
  have hsecond : (r.step == 2 || r.first == r.last) = true →
      ((c.toNat + r.shift).toNat - (r.first + r.shift).toNat) % 2 = 0 := by
    simp only [Bool.or_eq_true, beq_iff_eq]
    rintro (htwo | hone)
    · rw [htwo] at hstep
      omega
    · omega
  by_cases hascii : (c.toNat + r.shift).toNat < 0x80
  · unfold toLower
    rw [himage, if_pos hascii, toLower_of_small (by rw [himage]; omega)]
  · refine toLower_of_find? (by rwa [himage]) (fun heq => ?_) ?_
    · have hcovers := covers_of_avoids (List.pairwise_singleton _ _) hdot hlow hhigh hsecond _
        (List.mem_singleton_self _)
      rw [← himage, heq] at hcovers
      cases hcovers
    · rw [himage]
      exact find?_of_avoids hruns hlow hhigh hsecond

/-- What a character is mapped to is its own lower case. -/
theorem toLower_of_mem_toLower {c x : Char} (h : x ∈ toLower c) : toLower x = [x] := by
  unfold toLower at h
  split_ifs at h with hascii hdot
  · obtain rfl := List.mem_singleton.1 h
    have hlower : c.toLower.toNat < 0x80 := by
      rw [toNat_toLower]
      split <;> omega
    have hfixed : c.toLower.toLower = c.toLower := by
      refine Char.toNat_inj.1 ?_
      rw [toNat_toLower, toNat_toLower]
      split_ifs <;> omega
    unfold toLower
    rw [if_pos hlower, hfixed]
  · rcases List.mem_pair.1 h with rfl | rfl
    · rfl
    · exact toLower_of_avoids (by decide) (by decide) rfl
  · rw [List.mem_singleton.1 h]
    unfold mapByRuns
    split
    · next r hr =>
      have hmem : r ∈ lowerRuns.toList := Array.mem_toList_iff.2 (Array.mem_of_find?_eq_some hr)
      have hcovers := Array.find?_some hr
      exact CaseRun.toLower_image hmem hcovers
    · next hnone => exact toLower_of_find? hascii hdot hnone

end Character

namespace Text

open Character

/-- A text of characters that are their own lower case is in lower case. -/
theorem lower_of_forall {s : List Char} (h : ∀ x ∈ s, Character.toLower x = [x]) : lower s = s := by
  have hafter (before s : List Char) (h : ∀ x ∈ s, Character.toLower x = [x]) :
      lowerAfter before s = s := by
    induction s generalizing before with
    | nil => rfl
    | cons c s ih =>
      have hc := h c List.mem_cons_self
      -- The capital sigma is not its own lower case.
      have hsigma : (c == 'Σ') = false := by
        rw [beq_eq_false_iff_ne]
        rintro rfl
        exact absurd hc (by decide +kernel)
      have hrest := ih (c :: before) fun x hx => h x (List.mem_cons_of_mem _ hx)
      unfold lowerAfter
      rw [hsigma, hrest, if_neg Bool.false_ne_true, hc]
      rfl
  exact hafter [] s h

/-- Lower case is not changed by taking it again. -/
theorem lower_lower (s : List Char) : lower (lower s) = lower s := by
  have hafter (before s : List Char) :
      ∀ x ∈ lowerAfter before s, Character.toLower x = [x] := by
    induction s generalizing before with
    | nil => exact fun x hx => nomatch hx
    | cons c s ih =>
      intro x hx
      unfold lowerAfter at hx
      rcases List.mem_append.1 hx with hx | hx
      · split_ifs at hx
        · rw [List.mem_singleton.1 hx]
          exact toLower_of_avoids (by decide) (by decide) rfl
        · rw [List.mem_singleton.1 hx]
          exact toLower_of_avoids (by decide) (by decide) rfl
        · exact toLower_of_mem_toLower hx
      · exact ih _ x hx
  exact lower_of_forall (hafter [] s)

end Text

end SchemaDiagram
