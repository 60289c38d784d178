/-!
# Base64

Bytes as symbols of six bits each, in groups of four symbols for three bytes. The last group of a
text that is not a multiple of three bytes has fewer symbols; the standard variant fills it up
with equals signs and the url-safe one, which has other symbols for 62 and 63, does not.

Reading is strict: padding must be as the variant writes it, and the bits of the last symbol that
are not needed must be zero. The fault that is reported is the first from left to right, except
that a single wrong byte in a group of its own at the end comes before everything.
-/

namespace SchemaDiagram.Base64

/-- A variant of the encoding. -/
structure Variant where
  /-- The two symbols that follow the letters and digits. -/
  lastSymbols : List Char
  /-- Whether the last group is filled up. -/
  isPadded : Bool

/-- The variant with `+` and `/` and with padding. -/
def Variant.standard : Variant :=
  ⟨['+', '/'], true⟩

/-- The variant with `-` and `_` and without padding. -/
def Variant.urlSafe : Variant :=
  ⟨['-', '_'], false⟩

/-- The symbols of a variant in the order of their values. -/
def Variant.symbols (v : Variant) : List Char :=
  "ABCDEFGHIJKLMNOPQRSTUVWXYZabcdefghijklmnopqrstuvwxyz0123456789".toList ++ v.lastSymbols

/-- The symbol of six bits. -/
def Variant.symbol (v : Variant) (bits : Nat) : Char :=
  v.symbols.getD (bits % 64) '='

/-- The value of a byte that is a symbol. -/
def Variant.value? (v : Variant) (b : UInt8) : Option Nat :=
  v.symbols.findIdx? fun c => c.toNat == b.toNat

/-- The padding of a group of the given number of symbols. -/
def Variant.padding (v : Variant) (count : Nat) : List Char :=
  if v.isPadded then List.replicate (4 - count) '=' else []

/-- The symbols of bytes. -/
def encode (v : Variant) : List UInt8 → List Char
  | [] => []
  | [a] =>
    let n := a.toNat * 16
    [v.symbol (n / 64), v.symbol n] ++ v.padding 2
  | [a, b] =>
    let n := (a.toNat * 256 + b.toNat) * 4
    [v.symbol (n / 4096), v.symbol (n / 64), v.symbol n] ++ v.padding 3
  | a :: b :: c :: rest =>
    let n := (a.toNat * 256 + b.toNat) * 256 + c.toNat
    v.symbol (n / 262144) :: v.symbol (n / 4096) :: v.symbol (n / 64) :: v.symbol n ::
      encode v rest

/-- Why bytes are not an encoding. -/
inductive Fault where
  /-- A byte at the given offset is out of place. -/
  | symbol (offset byte : Nat)
  /-- The encoding breaks off; so many of its bytes are symbols. -/
  | length (count : Nat)
  /-- The padding is not as it should be. -/
  | padding
  /-- The last symbol, at the given offset, has bits that should be zero. -/
  | lastSymbol (offset byte : Nat)
deriving DecidableEq, Repr

/-- The message about a fault. -/
def Fault.message : Fault → String
  | symbol offset byte =>
    "Invalid symbol " ++ toString byte ++ ", offset " ++ toString offset ++ "."
  | length count => "Invalid input length: " ++ toString count
  | padding => "Invalid padding"
  | lastSymbol offset byte =>
    "Invalid last symbol " ++ toString byte ++ ", offset " ++ toString offset ++ "."

/-- The equals sign that fills up a group. -/
def padByte : UInt8 :=
  0x3D

/-- The values of bytes that must all be symbols, the first at the given offset. -/
def values (v : Variant) : (offset : Nat) → List UInt8 → Except Fault (List Nat)
  | _, [] => .ok []
  | offset, b :: rest =>
    match v.value? b with
    | some n => (values v (offset + 1) rest).map (n :: ·)
    | none => .error (.symbol offset b.toNat)

/-- The whole bytes that values make up. -/
def bytesOf : List Nat → List UInt8
  | [a, b] => [UInt8.ofNat (a * 4 + b / 16)]
  | [a, b, c] => [UInt8.ofNat (a * 4 + b / 16), UInt8.ofNat (b % 16 * 16 + c / 4)]
  | [a, b, c, d] =>
    [UInt8.ofNat (a * 4 + b / 16), UInt8.ofNat (b % 16 * 16 + c / 4), UInt8.ofNat (c % 4 * 64 + d)]
  | _ => []

/-- The bits of the last value that belong to no whole byte. -/
def spareBits : List Nat → Nat
  | [_, b] => b % 16
  | [_, _, c] => c % 4
  | _ => 0

/-- Reads the last group, of at most four bytes. -/
def decodeLast (v : Variant) (offset : Nat) (group : List UInt8) : Except Fault (List UInt8) := do
  let symbols := group.takeWhile (· != padByte)
  let padding := group.dropWhile (· != padByte)
  let ns ← values v offset symbols
  let count := symbols.length
  if padding ≠ [] ∧ (count < 2 ∨ padding.any (· != padByte)) then
    .error (.symbol (offset + count) padByte.toNat)
  else if count < 2 then .error (.length (offset + count))
  else if (if v.isPadded then count + padding.length ≠ 4 else padding ≠ []) then .error .padding
  else if spareBits ns ≠ 0 then
    .error (.lastSymbol (offset + count - 1) ((symbols.getLast?.map UInt8.toNat).getD 0))
  else .ok (bytesOf ns)

/-- Reads groups, of which the first has the given offset. -/
def decodeGroups (v : Variant) : (offset : Nat) → List UInt8 → Except Fault (List UInt8)
  | _, [] => .ok []
  | offset, a :: b :: c :: d :: e :: rest => do
    let ns ← values v offset [a, b, c, d]
    return bytesOf ns ++ (← decodeGroups v (offset + 4) (e :: rest))
  | offset, group => decodeLast v offset group

/-- Whether the last byte stands alone in its group and is neither a symbol nor padding. -/
def lastIsStray (v : Variant) (s : List UInt8) : Bool :=
  s.length % 4 == 1 && s.getLast?.any fun b => b != padByte && (v.value? b).isNone

/-- The bytes that an encoding stands for. -/
def decode (v : Variant) (s : List UInt8) : Except Fault (List UInt8) :=
  if lastIsStray v s then
    .error (.symbol (s.length - 1) ((s.getLast?.map UInt8.toNat).getD 0))
  else decodeGroups v 0 s

end SchemaDiagram.Base64
