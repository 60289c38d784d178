import SchemaDiagram.Bytes.Hex
import SchemaDiagram.Bytes.Utf8

/-!
# Percent escapes

In the value of a link parameter a byte may be written as a percent sign and two hexadecimal digits.
The first digit may also be a plus sign, which counts as nothing.
-/

namespace SchemaDiagram.Percent

/-- The value of the two characters behind a percent sign. -/
def value? (a b : Char) : Option Nat := do
  let high ← if a = '+' then some 0 else Hex.value? a
  let low ← Hex.value? b
  return high * 16 + low

/-- The bytes of a text with its escapes undone, unless one of them is not in order. -/
def decode? : List Char → Option (List UInt8)
  | [] => some []
  | '%' :: a :: b :: rest => do
    let n ← value? a b
    return UInt8.ofNat n :: (← decode? rest)
  | c :: rest => if c = '%' then none else (decode? rest).map (Utf8.encodeChar c ++ ·)

end SchemaDiagram.Percent
