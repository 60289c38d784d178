/-!
# UTF-8

Characters as bytes and back. A character takes one to four bytes: the first says how many there
are, and the others each carry six bits. Of the ways to write a character only the shortest is
allowed, and surrogates are no characters. Bytes that are not the beginning of a character are
refused with the length of the longest run that could begin one.
-/

namespace SchemaDiagram.Utf8

/-- A byte behind the first of a character, with the given six bits. -/
def tail (bits : Nat) : UInt8 :=
  UInt8.ofNat (0x80 + bits % 0x40)

/-- The bytes of a character. -/
def encodeChar (c : Char) : List UInt8 :=
  let x := c.toNat
  if x < 0x80 then [UInt8.ofNat x]
  else if x < 0x800 then [UInt8.ofNat (0xC0 + x / 0x40), tail x]
  else if x < 0x10000 then [UInt8.ofNat (0xE0 + x / 0x1000), tail (x / 0x40), tail x]
  else [UInt8.ofNat (0xF0 + x / 0x40000), tail (x / 0x1000), tail (x / 0x40), tail x]

/-- The bytes of a text. -/
def encode (s : List Char) : List UInt8 :=
  s.flatMap encodeChar

/-- Why bytes are not a text. -/
inductive Fault where
  /-- The bytes end within the character at the given index. -/
  | incomplete (index : Nat)
  /-- The given number of bytes at the given index begin no character. -/
  | invalid (length index : Nat)
deriving DecidableEq, Repr

/-- The number of bytes of a character with the given first byte, and the bounds of the second. -/
def shape? (first : Nat) : Option (Nat × Nat × Nat) :=
  if first < 0x80 then some (1, 0, 0)
  else if 0xC2 ≤ first ∧ first ≤ 0xDF then some (2, 0x80, 0xBF)
  else if first = 0xE0 then some (3, 0xA0, 0xBF)
  else if first = 0xED then some (3, 0x80, 0x9F)
  else if 0xE1 ≤ first ∧ first ≤ 0xEF then some (3, 0x80, 0xBF)
  else if first = 0xF0 then some (4, 0x90, 0xBF)
  else if 0xF1 ≤ first ∧ first ≤ 0xF3 then some (4, 0x80, 0xBF)
  else if first = 0xF4 then some (4, 0x80, 0x8F)
  else none

/-- The bits in the first byte of a character of the given number of bytes. -/
def leadBits (count first : Nat) : Nat :=
  match count with
  | 1 => first
  | 2 => first - 0xC0
  | 3 => first - 0xE0
  | _ => first - 0xF0

/-- Reads `more` further bytes of a character whose bits so far are `bits`, of which the next byte
lies between `low` and `high`. Fails with the number of bytes that are in order, counted from `seen`
on, or with none if the bytes end. -/
def tailBits (seen low high : Nat) : (more bits : Nat) → List UInt8 →
    Except (Option Nat) (Nat × List UInt8)
  | 0, bits, rest => .ok (bits, rest)
  | _ + 1, _, [] => .error none
  | more + 1, bits, b :: rest =>
    if low ≤ b.toNat ∧ b.toNat ≤ high then
      tailBits (seen + 1) 0x80 0xBF more (bits * 0x40 + (b.toNat - 0x80)) rest
    else .error (some seen)

/-- Reads the character whose first byte is `first`. -/
def readChar (first : UInt8) (rest : List UInt8) : Except (Option Nat) (Char × List UInt8) :=
  match shape? first.toNat with
  | none => .error (some 1)
  | some (count, low, high) =>
    (tailBits 1 low high (count - 1) (leadBits count first.toNat) rest).map fun (bits, rest) =>
      (Char.ofNat bits, rest)

/-- Reading further bytes of a character does not lengthen what remains. -/
theorem length_le_of_tailBits {seen low high more bits n : Nat} {s rest : List UInt8}
    (h : tailBits seen low high more bits s = .ok (n, rest)) : rest.length ≤ s.length := by
  induction more generalizing seen low high bits s with
  | zero =>
    simp only [tailBits, Except.ok.injEq, Prod.mk.injEq] at h
    simp [h.2]
  | succ more ih =>
    match s with
    | [] => simp [tailBits] at h
    | b :: s =>
      simp only [tailBits] at h
      split at h
      · exact Nat.le_succ_of_le (ih h)
      · simp at h

/-- Reading a character does not lengthen what remains. -/
theorem length_le_of_readChar {first : UInt8} {s rest : List UInt8} {c : Char}
    (h : readChar first s = .ok (c, rest)) : rest.length ≤ s.length := by
  simp only [readChar] at h
  split at h
  · simp at h
  · next count low high _ =>
    cases ht : tailBits 1 low high (count - 1) (leadBits count first.toNat) s with
    | error e => simp [ht, Except.map] at h
    | ok r =>
      simp only [ht, Except.map, Except.ok.injEq, Prod.mk.injEq] at h
      exact h.2 ▸ length_le_of_tailBits (n := r.1) ht

/-- The text of the bytes, of which the first has the given index. -/
def decodeFrom (index : Nat) (bytes : List UInt8) : Except Fault (List Char) :=
  match bytes with
  | [] => .ok []
  | first :: rest =>
    match h : readChar first rest with
    | .error none => .error (.incomplete index)
    | .error (some length) => .error (.invalid length index)
    | .ok (c, rest') =>
      have := length_le_of_readChar h
      (decodeFrom (index + c.utf8Size) rest').map (c :: ·)
termination_by bytes.length
decreasing_by
  simp only [List.length_cons]
  omega

/-- The text of the bytes. -/
def decode (bytes : List UInt8) : Except Fault (List Char) :=
  decodeFrom 0 bytes

/-- The message about bytes that are not a text. -/
def Fault.message : Fault → String
  | incomplete index => "incomplete utf-8 byte sequence from index " ++ toString index
  | invalid length index =>
    "invalid utf-8 sequence of " ++ toString length ++ " bytes from index " ++ toString index

end SchemaDiagram.Utf8
