/-!
# Sets of characters given by their boundaries

A property of the Unicode Character Database is a union of ranges of code points. `CodeSet` lists,
in increasing order, the code points at which membership changes. Below the first boundary nothing
belongs to the set, so a code point belongs to it exactly when an odd number of boundaries lie at
or below that code point, and `contains` counts them by bisection.
-/

namespace SchemaDiagram

/-- A set of characters, as the code points at which membership changes. -/
structure CodeSet where
  /-- The boundaries in increasing order; the first one switches membership on. -/
  boundaries : Array Nat

namespace CodeSet

/-- How many boundaries lie at or below `x`, if those before position `low` do and those from
position `high` on do not; `steps` halvings are enough for `2^steps - 1` positions. -/
def countUpTo (boundaries : Array Nat) (x : Nat) : (steps low high : Nat) → Nat
  | 0, low, _ => low
  | steps + 1, low, high =>
    if low < high then
      let middle := (low + high) / 2
      if boundaries.getD middle 0 ≤ x then countUpTo boundaries x steps (middle + 1) high
      else countUpTo boundaries x steps low middle
    else low

/-- Whether a character belongs to the set. -/
def contains (s : CodeSet) (c : Char) : Bool :=
  countUpTo s.boundaries c.toNat (s.boundaries.size.log2 + 1) 0 s.boundaries.size % 2 == 1

end CodeSet

end SchemaDiagram
