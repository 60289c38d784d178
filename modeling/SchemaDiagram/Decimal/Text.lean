import SchemaDiagram.Decimal.Shortest

/-!
# Writing floating-point numbers

The notation of numbers in documents. A number from `10^-5` up to but not including `10^16` is
written positionally, with a point and at least one digit on both sides of it; any other is written
with an exponent that always has its sign and no padding. Zero keeps its sign. A number that is not
finite has no notation.
-/

namespace SchemaDiagram.Decimal

/-- The decimal digits of a natural number. -/
def digits (n : Nat) : List Char :=
  Nat.toDigits 10 n

/-- The notation of a positive decimal. -/
def text (d : Decimal) : List Char :=
  let ds := digits d.coefficient
  let point := ds.length + d.exponent
  if -4 ≤ point ∧ point ≤ 16 then
    if point ≤ 0 then "0.".toList ++ List.replicate (-point).toNat '0' ++ ds
    else if d.exponent < 0 then ds.take point.toNat ++ ['.'] ++ ds.drop point.toNat
    else ds ++ List.replicate d.exponent.toNat '0' ++ ".0".toList
  else
    let power := point - 1
    let sign := if power < 0 then '-' else '+'
    let fraction := if ds.length = 1 then [] else '.' :: ds.drop 1
    ds.take 1 ++ fraction ++ ['e', sign] ++ digits power.natAbs

/-- The notation of a number, if it is finite. -/
def ofFloat? (x : Float) : Option (List Char) :=
  let bits := x.toBits.toNat
  let sign := if bits / 0x8000000000000000 = 1 then ['-'] else []
  let magnitude := bits % 0x8000000000000000
  if 0x7FF0000000000000 ≤ magnitude then none
  else if magnitude = 0 then some (sign ++ "0.0".toList)
  else some (sign ++ (Binary.ofBits magnitude).shortest.text)

end SchemaDiagram.Decimal
