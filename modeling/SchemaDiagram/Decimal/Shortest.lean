/-!
# The shortest decimal of a binary number

A floating-point number is written with the fewest digits that still read back as that number.
`Binary` is a positive number `mantissa · 2^exponent` together with the interval of reals that round
to it; `Binary.shortest` looks for a decimal in that interval, first with one digit, then with two,
and so on. On each grid only the two neighbours of the number can be nearest, and of two that lie in
the interval the nearer one is taken. All comparisons are of natural numbers.
-/

namespace SchemaDiagram

/-- The number `coefficient · 10^exponent`. -/
structure Decimal where
  /-- The digits. -/
  coefficient : Nat
  /-- The power of ten. -/
  exponent : Int
deriving DecidableEq, Repr

/-- The number `mantissa · 2^exponent`, as it is stored in a floating-point format. -/
structure Binary where
  /-- The mantissa. -/
  mantissa : Nat
  /-- The power of two. -/
  exponent : Int
  /-- Whether the next smaller number is only half as far away as the next greater one. -/
  isLowest : Bool
deriving DecidableEq, Repr

namespace Binary

/-- A power of two. -/
def twoTo (n : Nat) : Nat :=
  Nat.pow 2 n

/-- A power of ten. -/
def tenTo (n : Nat) : Nat :=
  Nat.pow 10 n

/-- The double-precision number with the given bits, its sign aside. -/
def ofBits (bits : Nat) : Binary :=
  let unit := twoTo 52
  let biased := bits / unit % twoTo 11
  let fraction := bits % unit
  if biased = 0 then ⟨fraction, -1074, false⟩
  else ⟨unit + fraction, (biased : Int) - 1075, fraction = 0 && 1 < biased⟩

/-- The number of decimal digits. -/
def digitCount (n : Nat) : Nat :=
  (Nat.toDigits 10 n).length

/-- The exponent of ten of the first digit of `a / b`, both being positive. -/
def leadingExponent (a b : Nat) : Int :=
  if b ≤ a then digitCount (a / b) - 1
  else
    let places := digitCount (b / a)
    if a * tenTo (places - 1) = b then -((places - 1 : Nat) : Int) else -(places : Int)

/-- The quotient `a / b` measured in units of `10^k`, as a numerator and a denominator. -/
def inUnits (a b : Nat) (k : Int) : Nat × Nat :=
  (a * tenTo (-k).toNat, b * tenTo k.toNat)

/-- The number as a quotient of natural numbers, with a factor of four to spare in both. -/
def quotient (x : Binary) : Nat × Nat :=
  (4 * x.mantissa * twoTo x.exponent.toNat, 4 * twoTo (-x.exponent).toNat)

/-- Whether `n · 10^k` rounds to the number. The ends of the interval do if the mantissa is even. -/
def roundsTo (x : Binary) (k : Int) (n : Nat) : Bool :=
  let unit := twoTo x.exponent.toNat
  let (a, b) := x.quotient
  let low := a - (if x.isLowest then 1 else 2) * unit
  let high := a + 2 * unit
  let (lowA, unitB) := inUnits low b k
  let (highA, _) := inUnits high b k
  if x.mantissa % 2 = 0 then lowA ≤ n * unitB && n * unitB ≤ highA
  else lowA < n * unitB && n * unitB < highA

/-- The decimal with exponent `k` that is nearest to the number among those that round to it. -/
def nearest? (x : Binary) (k : Int) : Option Nat :=
  let (a, b) := inUnits x.quotient.1 x.quotient.2 k
  let below := a / b
  match x.roundsTo k below, x.roundsTo k (below + 1) with
  | true, true =>
    let remainder := a % b
    if 2 * remainder < b ∨ (2 * remainder = b ∧ below % 2 = 0) then some below
    else some (below + 1)
  | true, false => some below
  | false, true => some (below + 1)
  | false, false => none

/-- The decimal with the fewest digits that rounds to the number; seventeen digits are enough. Where
rounding up carries into a further digit, that digit is a one and no other is needed. -/
def shortest (x : Binary) : Decimal :=
  let top := leadingExponent x.quotient.1 x.quotient.2
  let found := (List.range 17).findSome? fun (n : Nat) =>
    (x.nearest? (top - n)).map fun coefficient =>
      (if coefficient = tenTo (n + 1) then ⟨1, top + 1⟩ else ⟨coefficient, top - n⟩ : Decimal)
  found.getD ⟨0, 0⟩

end Binary

end SchemaDiagram
