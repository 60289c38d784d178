import SchemaDiagram.Decimal.Shortest

/-!
# The binary number nearest to a decimal

A decimal is read as the nearest floating-point number. One that is out of range in either
direction is told by the place of its first digit, so that no huge power of ten is ever computed.
-/

namespace SchemaDiagram.Decimal

/-- The nearest floating-point number: infinity for a number that is too large, and zero for one
that is too small. -/
def toFloat (d : Decimal) : Float :=
  let top := Binary.digitCount d.coefficient + d.exponent
  if d.coefficient = 0 ∨ top < -330 then 0
  else if 330 < top then 1 / 0
  else Float.ofScientific d.coefficient (d.exponent < 0) d.exponent.natAbs

end SchemaDiagram.Decimal
