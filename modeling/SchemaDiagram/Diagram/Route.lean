import SchemaDiagram.Diagram.Handle
import SchemaDiagram.Schema.Basic

/-!
# Routing

An edge is attached on the sides of its two nodes that face each other. Nodes that stand less than
half their width apart sideways count as stacked: the edge then leaves and enters on one side.
Nothing is done about crossings.
-/

namespace SchemaDiagram

/-- The rectangle that a node takes up, given by its upper left corner. -/
structure Box where
  /-- The left edge. -/
  x : Float
  /-- The upper edge. -/
  y : Float
  /-- The width. -/
  width : Float
  /-- The height. -/
  height : Float

namespace Box

/-- The middle between the left and the right edge. -/
def centerX (b : Box) : Float :=
  b.x + b.width / 2

/-- The middle between the upper and the lower edge. -/
def centerY (b : Box) : Float :=
  b.y + b.height / 2

/-- The kinds of handles for an edge between two boxes of nodes of the given width. -/
def sides (source target : Box) (nodeWidth : Float) : Handle × Handle :=
  let distance := target.centerX - source.centerX
  let half := nodeWidth / 2
  if distance > half then (.right, .left)
  else if distance < -half then (.leftSource, .rightTarget)
  else if target.centerY ≥ source.centerY then (.right, .rightTarget)
  else (.leftSource, .left)

end Box

namespace Handles

/-- The handles of the given kinds. -/
def ofSides (e : Endpoints) (sides : Handle × Handle) : Handles :=
  ⟨sides.1.id e.source.column, sides.2.id e.target.column⟩

/-- The handles for an edge between two boxes. -/
def resolve (source target : Box) (nodeWidth : Float) (e : Endpoints) : Handles :=
  ofSides e (source.sides target nodeWidth)

/-- The handles for an edge between nodes that have no boxes. -/
def standard (e : Endpoints) : Handles :=
  ofSides e (.right, .left)

end Handles

end SchemaDiagram
