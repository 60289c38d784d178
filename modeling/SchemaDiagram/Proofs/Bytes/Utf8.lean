import Mathlib
import SchemaDiagram.Bytes.Utf8

/-!
# UTF-8 reads back what it wrote

The bytes of a text are read back as that text (`Utf8.decode_encode`). Whatever follows the bytes of
a character, its first byte says how many there are and bounds the second one so that only the
shortest form is read, and the others give back its bits (`Utf8.readChar_encodeChar`).

So different texts have different bytes (`Utf8.encode_injective`). A zero byte is nothing but the
zero character (`Utf8.zero_not_mem_encode`), and can end a text that lacks it.
-/

namespace SchemaDiagram.Utf8

/-- The number of a byte that is given by its number. -/
theorem toNat_ofNat {n : Nat} (h : n < 0x100) : (UInt8.ofNat n).toNat = n := by
  rw [UInt8.toNat_ofNat', Nat.mod_eq_of_lt h]

/-- A character is a number that is no surrogate. -/
theorem toNat_bounds (c : Char) : c.toNat < 0xD800 ∨ 0xDFFF < c.toNat ∧ c.toNat < 0x110000 :=
  c.valid

/-! ## The bytes of a character -/

/-- A character of ASCII takes one byte. -/
theorem encodeChar_of_ascii {c : Char} (h : c.toNat < 0x80) :
    encodeChar c = [UInt8.ofNat c.toNat] :=
  if_pos h

/-- The further characters below `0x800` take two bytes. -/
theorem encodeChar_two {c : Char} (h : 0x80 ≤ c.toNat) (h' : c.toNat < 0x800) :
    encodeChar c = [UInt8.ofNat (0xC0 + c.toNat / 0x40), tail c.toNat] :=
  (if_neg (Nat.not_lt.2 h)).trans (if_pos h')

/-- The further characters below `0x10000` take three bytes. -/
theorem encodeChar_three {c : Char} (h : 0x800 ≤ c.toNat) (h' : c.toNat < 0x10000) :
    encodeChar c = [UInt8.ofNat (0xE0 + c.toNat / 0x1000), tail (c.toNat / 0x40), tail c.toNat] :=
  (if_neg (by omega)).trans ((if_neg (Nat.not_lt.2 h)).trans (if_pos h'))

/-- All others take four bytes. -/
theorem encodeChar_four {c : Char} (h : 0x10000 ≤ c.toNat) :
    encodeChar c = [UInt8.ofNat (0xF0 + c.toNat / 0x40000), tail (c.toNat / 0x1000),
      tail (c.toNat / 0x40), tail c.toNat] :=
  (if_neg (by omega)).trans ((if_neg (by omega)).trans (if_neg (Nat.not_lt.2 h)))

/-! ## Reading a character -/

variable {rest : List UInt8}

/-- A byte behind the first is read as the six bits that were written, if it is in its bounds. -/
theorem tailBits_tail {seen low high more bits n : Nat} (hlow : low ≤ 0x80 + n % 0x40)
    (hhigh : 0x80 + n % 0x40 ≤ high) :
    tailBits seen low high (more + 1) bits (tail n :: rest) =
      tailBits (seen + 1) 0x80 0xBF more (bits * 0x40 + n % 0x40) rest := by
  have hbyte : (tail n).toNat = 0x80 + n % 0x40 := toNat_ofNat (by omega)
  rw [tailBits, hbyte, if_pos ⟨hlow, hhigh⟩, Nat.add_sub_cancel_left]

/-- The same for a byte behind the second, whose bounds are always the same. -/
theorem tailBits_later {seen more bits n : Nat} :
    tailBits seen 0x80 0xBF (more + 1) bits (tail n :: rest) =
      tailBits (seen + 1) 0x80 0xBF more (bits * 0x40 + n % 0x40) rest :=
  tailBits_tail (by omega) (by omega)

/-- When no further byte is asked for, the bits are those that were read. -/
theorem tailBits_zero (seen low high bits : Nat) (rest : List UInt8) :
    tailBits seen low high 0 bits rest = .ok (bits, rest) := by
  rw [tailBits]

/-- The bits in the first of two bytes. -/
theorem leadBits_two (n : Nat) : leadBits 2 (0xC0 + n) = n := by
  unfold leadBits
  exact Nat.add_sub_self_left 0xC0 n

/-- The bits in the first of three bytes. -/
theorem leadBits_three (n : Nat) : leadBits 3 (0xE0 + n) = n := by
  unfold leadBits
  exact Nat.add_sub_self_left 0xE0 n

/-- The bits in the first of four bytes. -/
theorem leadBits_four (n : Nat) : leadBits 4 (0xF0 + n) = n := by
  unfold leadBits
  exact Nat.add_sub_self_left 0xF0 n

/-- A character is read if its first byte has the number of the others, and they have its bits. -/
theorem readChar_of_bits {n count low high : Nat} {c : Char} {s : List UInt8} (hn : n < 0x100)
    (hshape : shape? n = some (count, low, high))
    (hread : tailBits 1 low high (count - 1) (leadBits count n) s = .ok (c.toNat, rest)) :
    readChar (UInt8.ofNat n) s = .ok (c, rest) := by
  unfold readChar
  rw [toNat_ofNat hn, hshape]
  simp only [hread, Except.map, Char.ofNat_toNat]

/-- The first of three bytes bounds the second one as the character needs it. -/
theorem shape?_three {x : Nat} (h : 0x800 ≤ x) (h' : x < 0x10000)
    (hvalid : x < 0xD800 ∨ 0xDFFF < x) : ∃ low high,
      shape? (0xE0 + x / 0x1000) = some (3, low, high) ∧ low ≤ 0x80 + x / 0x40 % 0x40 ∧
        0x80 + x / 0x40 % 0x40 ≤ high := by
  unfold shape?
  rw [if_neg (by omega), if_neg (by omega)]
  -- The shortest form and surrogates are what the first two bounds are for.
  by_cases hshort : x < 0x1000
  · rw [if_pos (by omega)]
    exact ⟨_, _, rfl, by omega, by omega⟩
  by_cases hsurrogate : 0xD000 ≤ x ∧ x < 0xE000
  · rw [if_neg (by omega), if_pos (by omega)]
    exact ⟨_, _, rfl, by omega, by omega⟩
  · rw [if_neg (by omega), if_neg (by omega), if_pos (by omega)]
    exact ⟨_, _, rfl, by omega, by omega⟩

/-- The first of four bytes bounds the second one likewise. -/
theorem shape?_four {x : Nat} (h : 0x10000 ≤ x) (h' : x < 0x110000) : ∃ low high,
    shape? (0xF0 + x / 0x40000) = some (4, low, high) ∧ low ≤ 0x80 + x / 0x1000 % 0x40 ∧
      0x80 + x / 0x1000 % 0x40 ≤ high := by
  unfold shape?
  rw [if_neg (by omega), if_neg (by omega), if_neg (by omega), if_neg (by omega),
    if_neg (by omega)]
  -- The shortest form and the last character are what the first and the last bounds are for.
  by_cases hshort : x < 0x40000
  · rw [if_pos (by omega)]
    exact ⟨_, _, rfl, by omega, by omega⟩
  by_cases hlast : x < 0x100000
  · rw [if_neg (by omega), if_pos (by omega)]
    exact ⟨_, _, rfl, by omega, by omega⟩
  · rw [if_neg (by omega), if_neg (by omega), if_pos (by omega)]
    exact ⟨_, _, rfl, by omega, by omega⟩

/-- A character is read back from its bytes, whatever follows them. -/
theorem readChar_encodeChar (c : Char) (rest : List UInt8) : ∃ first others,
    encodeChar c = first :: others ∧ readChar first (others ++ rest) = .ok (c, rest) := by
  have hvalid := toNat_bounds c
  -- In each length the bits of the bytes make up the number of the character.
  by_cases h1 : c.toNat < 0x80
  · refine ⟨_, _, encodeChar_of_ascii h1, readChar_of_bits (by omega) (if_pos h1) ?_⟩
    exact tailBits_zero _ _ _ _ _
  by_cases h2 : c.toNat < 0x800
  · have hshape : shape? (0xC0 + c.toNat / 0x40) = some (2, 0x80, 0xBF) :=
      (if_neg (by omega)).trans (if_pos (by omega))
    refine ⟨_, _, encodeChar_two (by omega) h2, readChar_of_bits (by omega) hshape ?_⟩
    rw [leadBits_two, List.cons_append, List.nil_append, tailBits_later, tailBits_zero]
    congr 2
    omega
  by_cases h3 : c.toNat < 0x10000
  · obtain ⟨low, high, hshape, hlow, hhigh⟩ := shape?_three (x := c.toNat) (by omega) h3 (by omega)
    refine ⟨_, _, encodeChar_three (by omega) h3, readChar_of_bits (by omega) hshape ?_⟩
    rw [leadBits_three, List.cons_append, List.cons_append, List.nil_append,
      tailBits_tail hlow hhigh, tailBits_later, tailBits_zero]
    congr 2
    omega
  · obtain ⟨low, high, hshape, hlow, hhigh⟩ := shape?_four (x := c.toNat) (by omega) (by omega)
    refine ⟨_, _, encodeChar_four (by omega), readChar_of_bits (by omega) hshape ?_⟩
    rw [leadBits_four, List.cons_append, List.cons_append, List.cons_append, List.nil_append,
      tailBits_tail hlow hhigh, tailBits_later, tailBits_later, tailBits_zero]
    congr 2
    omega

/-! ## Reading a text -/

/-- A character in front of bytes is read before them. -/
theorem decodeFrom_encodeChar (index : Nat) (c : Char) (rest : List UInt8) :
    decodeFrom index (encodeChar c ++ rest) =
      (decodeFrom (index + c.utf8Size) rest).map (c :: ·) := by
  obtain ⟨first, others, hbytes, hread⟩ := readChar_encodeChar c rest
  rw [hbytes, List.cons_append, decodeFrom]
  split
  · next h => cases hread.symm.trans h
  · next h => cases hread.symm.trans h
  · next h =>
    cases hread.symm.trans h
    rfl

/-- The bytes of a text are read back. -/
theorem decode_encode (s : List Char) : decode (encode s) = .ok s := by
  have hfrom (index : Nat) : decodeFrom index (encode s) = .ok s := by
    induction s generalizing index with
    | nil =>
      unfold encode decodeFrom
      rfl
    | cons c s ih =>
      have hcons : encode (c :: s) = encodeChar c ++ encode s := rfl
      rw [hcons, decodeFrom_encodeChar, ih]
      rfl
  exact hfrom 0

/-- Different texts have different bytes. -/
theorem encode_injective : Function.Injective encode := by
  intro s t h
  have hread := decode_encode s
  rw [h, decode_encode] at hread
  exact (Except.ok.inj hread).symm

/-! ## Zero bytes -/

/-- A character other than the zero character has no zero byte. -/
theorem zero_not_mem_encodeChar {c : Char} (h : c ≠ '\x00') : 0 ∉ encodeChar c := by
  have hpositive : 0 < c.toNat := by
    rw [Nat.pos_iff_ne_zero]
    exact fun hzero => h (Char.toNat_inj.1 hzero)
  have hne {n : Nat} (hn : 0 < n) (hn' : n < 0x100) : 0 ≠ UInt8.ofNat n := by
    intro hzero
    have hn0 : n = (0 : UInt8).toNat := by rw [hzero, toNat_ofNat hn']
    exact absurd hn0 (Nat.ne_of_gt hn)
  have htail (n : Nat) : 0 ≠ tail n := hne (by omega) (by omega)
  have hvalid := toNat_bounds c
  -- The marks of the bytes of longer characters are not zero, whatever the bits are.
  by_cases h1 : c.toNat < 0x80
  · rw [encodeChar_of_ascii h1, List.mem_singleton]
    exact hne hpositive (by omega)
  by_cases h2 : c.toNat < 0x800
  · rw [encodeChar_two (by omega) h2]
    simp only [List.mem_cons, List.not_mem_nil, or_false, not_or]
    exact ⟨hne (by omega) (by omega), htail _⟩
  by_cases h3 : c.toNat < 0x10000
  · rw [encodeChar_three (by omega) h3]
    simp only [List.mem_cons, List.not_mem_nil, or_false, not_or]
    exact ⟨hne (by omega) (by omega), htail _, htail _⟩
  · rw [encodeChar_four (by omega)]
    simp only [List.mem_cons, List.not_mem_nil, or_false, not_or]
    exact ⟨hne (by omega) (by omega), htail _, htail _, htail _⟩

/-- A text without the zero character has no zero byte. -/
theorem zero_not_mem_encode {s : List Char} (h : '\x00' ∉ s) : 0 ∉ encode s := by
  intro hmem
  obtain ⟨c, hc, hzero⟩ := List.mem_flatMap.1 hmem
  exact zero_not_mem_encodeChar (fun heq => h (heq ▸ hc)) hzero

end SchemaDiagram.Utf8
