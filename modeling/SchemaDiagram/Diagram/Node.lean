import SchemaDiagram.Diagram.Layout
import SchemaDiagram.Diagram.Route
import SchemaDiagram.Schema.Json
import SchemaDiagram.Text.Columns

/-!
# Nodes and their sizes

A node is a table on the canvas; its name is that of the table. Its height follows from the number
of its columns. Edges are routed as if all nodes had the same width, and a node is drawn wider if
one of its labels needs it.
-/

namespace SchemaDiagram

/-- A table on the canvas. -/
structure Node where
  /-- The name of the table. -/
  id : String
  /-- Where its upper left corner is. -/
  position : Position
  /-- The columns of the table. -/
  columns : List Column

/-- The JSON form of a node. -/
def Node.toJson (n : Node) : Json :=
  .object [("id", .string n.id), ("position", n.position.toJson),
    ("columns", .array (n.columns.map Column.toJson))]

/-- The measures that the sizes of nodes follow from. -/
structure Metrics where
  /-- The least width of a node, with which edges are routed. -/
  nodeWidth : Float := 260
  /-- The width of a column of text. -/
  charWidth : Float := 8
  /-- The height of the name of the table. -/
  headerHeight : Float := 40
  /-- The height of a column of the table. -/
  rowHeight : Float := 28
  /-- The space on the left and on the right. -/
  paddingX : Float := 12
  /-- The space above and below. -/
  paddingY : Float := 8

/-- The greater of two numbers. One that is not a number does not count beside one that is. -/
def greater (a b : Float) : Float :=
  if a.isNaN then b else if b.isNaN then a else if a < b then b else a

namespace Metrics

/-- The width of a text. -/
def textWidth (m : Metrics) (text : String) : Float :=
  Float.ofNat (Text.columns text.toList) * m.charWidth

/-- The height of a node with so many columns. -/
def nodeHeight (m : Metrics) (rows : Nat) : Float :=
  m.headerHeight + Float.ofNat rows * m.rowHeight + m.paddingY * 2

/-- The width of the label of a column. -/
def rowWidth (m : Metrics) (c : Column) : Float :=
  m.textWidth c.name + m.textWidth c.type + m.charWidth * 2

/-- The width with which a node is drawn. -/
def displayWidth (m : Metrics) (n : Node) : Float :=
  let rows := (n.columns.map m.rowWidth).foldl greater 0
  greater (greater (m.textWidth n.id) rows + m.paddingX * 2) m.nodeWidth

/-- The box with which edges to a node are routed. -/
def nodeBox (m : Metrics) (n : Node) : Box :=
  ⟨n.position.x, n.position.y, m.nodeWidth, m.nodeHeight n.columns.length⟩

end Metrics

end SchemaDiagram
