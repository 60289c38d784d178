import SchemaDiagram.Diagram.Canvas

/-!
# What is drawn

A `View` holds all that is needed to draw the canvas: the nodes with their sizes and the edges with
their handles.
-/

namespace SchemaDiagram

/-- A node as it is drawn. -/
structure NodeView where
  /-- The node. -/
  node : Node
  /-- Its width. -/
  width : Float
  /-- Its height. -/
  height : Float

/-- An edge as it is drawn. -/
structure EdgeView where
  /-- The edge. -/
  edge : Edge
  /-- Whether it is selected. -/
  isSelected : Bool

/-- The nodes and edges as they are drawn. -/
structure View where
  /-- The nodes. -/
  nodes : List NodeView
  /-- The edges. -/
  edges : List EdgeView

/-- The view of a canvas. -/
def Canvas.view (c : Canvas) : View where
  nodes := c.nodes.map fun n => ⟨n, c.metrics.displayWidth n, c.metrics.nodeHeight n.columns.length⟩
  edges := c.edges.map fun e => ⟨e, c.selected = some e.id⟩

/-- The JSON form of a drawn node. -/
def NodeView.toJson (v : NodeView) : Json :=
  .object [("id", .string v.node.id), ("position", v.node.position.toJson),
    ("width", .ofFloat v.width), ("height", .ofFloat v.height),
    ("columns", .array (v.node.columns.map Column.toJson))]

/-- The JSON form of a drawn edge. -/
def EdgeView.toJson (v : EdgeView) : Json :=
  .object [("id", .string v.edge.id), ("source", .string v.edge.endpoints.source.table),
    ("target", .string v.edge.endpoints.target.table),
    ("sourceHandle", .string v.edge.handles.source),
    ("targetHandle", .string v.edge.handles.target),
    ("provenance", .string v.edge.provenance.name), ("selected", .bool v.isSelected)]

/-- The JSON form of a view. -/
def View.toJson (v : View) : Json :=
  .object [("nodes", .array (v.nodes.map NodeView.toJson)),
    ("edges", .array (v.edges.map EdgeView.toJson))]

end SchemaDiagram
