import SchemaDiagram.Json.Token

/-!
# The value of a number literal

Up to sixty-four bits of leading digits are taken as they are, further ones only for their place.
The result is multiplied or divided by a power of ten in floating point, so that the last bit of a
long literal may differ from that of the nearest number. Literals too large for a finite number have
no value.
-/

namespace SchemaDiagram.Json.Numeral

/-- The greatest number that the digits are collected to. -/
def maxSignificand : Nat :=
  0xFFFFFFFFFFFFFFFF

/-- The number that the digits continue, as far as it does not grow too large, and how many digits
are left over then. -/
def collect (n : Nat) : List Char → Nat × Nat
  | [] => (n, 0)
  | c :: rest =>
    let next := n * 10 + (c.toNat - '0'.toNat)
    if next ≤ maxSignificand then collect next rest else (n, rest.length + 1)

/-- The power of ten `10^n`, for `n` at most 308. -/
def powerOfTen (n : Nat) : Float :=
  Float.ofScientific 1 false n

/-- The number `x · 10^exponent`, unless it is too large. -/
def scale? (x : Float) (exponent : Int) : Option Float :=
  if 0 ≤ exponent then
    if exponent ≤ 308 then
      let y := x * powerOfTen exponent.toNat
      if y.isInf then none else some y
    else if x == 0 then some 0 else none
  else if -308 ≤ exponent then some (x / powerOfTen (-exponent).toNat)
  else if -616 ≤ exponent then some (x / powerOfTen 308 / powerOfTen (-exponent - 308).toNat)
  else some 0

/-- The value of a literal, unless it is too large. -/
def toFloat? (n : Numeral) : Option Float := do
  let (head, dropped) := collect 0 n.integer
  let (significand, left) := collect head n.fraction
  let places : Int := dropped - (n.fraction.length - left : Nat)
  let exponent : Int := ((Nat.ofDigitChars 10 n.exponent 0 : Nat) : Int)
  let exponent := if n.negativeExponent then places - exponent else places + exponent
  let magnitude ← scale? significand.toUInt64.toFloat exponent
  return if n.negative then -magnitude else magnitude

end SchemaDiagram.Json.Numeral
