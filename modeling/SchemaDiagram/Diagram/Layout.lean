import SchemaDiagram.Json.Basic
import SchemaDiagram.Json.Record

/-!
# Positions and layouts

A `Position` is a point of the canvas. A `Layout` gives positions to names; it lists each name
once, in alphabetical order, and an entry for a name that is already there replaces the old one.
-/

namespace SchemaDiagram

open Json (Record Reader)

/-- A point of the canvas. -/
structure Position where
  /-- The distance from the left. -/
  x : Float
  /-- The distance from the top. -/
  y : Float

namespace Position

/-- The JSON form of a position. -/
def toJson (p : Position) : Json :=
  .object [("x", .ofFloat p.x), ("y", .ofFloat p.y)]

/-- Reads a position. -/
def reader : Reader Position :=
  (Record.of Position.mk
    |>.required "x" Reader.float
    |>.required "y" Reader.float).reader

end Position

/-- Positions of named nodes. -/
structure Layout where
  /-- The names with their positions, sorted by name. -/
  entries : List (String × Position)

namespace Layout

/-- No positions. -/
def empty : Layout :=
  ⟨[]⟩

/-- Puts an entry into a sorted list, in place of one with the same name. -/
def insertEntry (name : String) (p : Position) : List (String × Position) → List (String × Position)
  | [] => [(name, p)]
  | (n, q) :: rest =>
    if name < n then (name, p) :: (n, q) :: rest
    else if name = n then (name, p) :: rest
    else (n, q) :: insertEntry name p rest

/-- The layout with a position for the given name. -/
def insert (l : Layout) (name : String) (p : Position) : Layout :=
  ⟨insertEntry name p l.entries⟩

/-- The position of a name. -/
def find? (l : Layout) (name : String) : Option Position :=
  l.entries.lookup name

/-- The layout without the names that `drop` accepts. -/
def remove (l : Layout) (drop : String → Bool) : Layout :=
  ⟨l.entries.filter fun (name, _) => !drop name⟩

/-- The JSON form of a layout. -/
def toJson (l : Layout) : Json :=
  .object (l.entries.map fun (name, p) => (name, p.toJson))

/-- Reads a layout. -/
def reader : Reader Layout :=
  Reader.map Position.reader insert empty

end Layout

end SchemaDiagram
