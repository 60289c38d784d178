import SchemaDiagram.Diagram.Layout
import SchemaDiagram.Sql.Dialect

/-!
# Settings

What a user can set: the sizes on the canvas and the grid that new nodes are placed on, whether
drawn connections are written into the schema text, and the dialect of exported SQL. Every setting
has a default.
-/

namespace SchemaDiagram

/-- The width of nodes and the grid for new ones. -/
structure CanvasSettings where
  /-- The width of nodes. -/
  nodeWidth : Float := 260
  /-- The left edge of the grid. -/
  gridOriginX : Float := 150
  /-- The upper edge of the grid. -/
  gridOriginY : Float := 80
  /-- The distance between columns of the grid. -/
  gridStepX : Float := 280
  /-- The distance between rows of the grid. -/
  gridStepY : Float := 250
  /-- The number of columns of the grid. -/
  gridColumns : Nat := 3

/-- The place on the grid of the node with the given index, counted row by row. A grid without
columns counts as one with a single column. -/
def CanvasSettings.gridPosition (s : CanvasSettings) (index : Nat) : Position :=
  let columns := max s.gridColumns 1
  ⟨s.gridOriginX + Float.ofNat (index % columns) * s.gridStepX,
    s.gridOriginY + Float.ofNat (index / columns) * s.gridStepY⟩

/-- All settings. -/
structure Settings where
  /-- The settings of the canvas. -/
  canvas : CanvasSettings := {}
  /-- Whether a connection that is drawn becomes a reference in the schema text. -/
  propagateConnections : Bool := true
  /-- The dialect of SQL that is exported when none is named. -/
  defaultDialect : Sql.Dialect := .standard

end SchemaDiagram
