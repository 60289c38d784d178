import SchemaDiagram.Diagram.Edge
import SchemaDiagram.Diagram.Node
import SchemaDiagram.Settings

/-!
# The canvas

A `Canvas` shows a schema: a node for each table and a derived edge for each relationship, and
besides them the edges drawn by hand. `Canvas.sync` brings it in line with a new schema. Nodes are
known by the names of their tables, so a table that is still there keeps its place; a new one
takes the position that was set aside for it as a seed, or else the next place on the grid. An
edge drawn by hand stays as long as both its tables do and no relationship connects the same
columns.

Every operation that can be refused returns its answer together with the canvas.
-/

namespace SchemaDiagram

/-- The elements of a list without those whose key an earlier element has. -/
def keepFirst {α β : Type} [BEq β] (key : α → β) : List α → List α
  | [] => []
  | x :: rest => x :: (keepFirst key rest).filter fun y => key y != key x

/-- What the keyboard acts on. -/
inductive Focus where
  /-- The schema text. -/
  | text
  /-- The canvas. -/
  | canvas
deriving DecidableEq, Repr

/-- The state of the canvas. -/
structure Canvas where
  /-- The nodes, in the order of the tables. -/
  nodes : List Node
  /-- The edges: the derived ones, in the order of the relationships, and then those drawn by
  hand. -/
  edges : List Edge
  /-- The identifier of the selected edge. -/
  selected : Option String
  /-- The serial number of the next edge drawn by hand. -/
  nextSerial : Nat
  /-- Positions set aside for nodes that are not there yet. -/
  seeds : Layout
  /-- The grid for new nodes. -/
  grid : CanvasSettings
  /-- The sizes of nodes. -/
  metrics : Metrics

namespace Canvas

/-- The canvas without nodes. -/
def new (settings : CanvasSettings) : Canvas where
  nodes := []
  edges := []
  selected := none
  nextSerial := 1
  seeds := .empty
  grid := settings
  metrics := { nodeWidth := settings.nodeWidth }

/-- The node of the given name. -/
def node? (c : Canvas) (id : String) : Option Node :=
  c.nodes.find? (·.id == id)

/-- The edge of the given identifier. -/
def edge? (c : Canvas) (id : String) : Option Edge :=
  c.edges.find? (·.id == id)

/-- The positions of the nodes. -/
def layout (c : Canvas) : Layout :=
  c.nodes.foldl (fun l n => l.insert n.id n.position) .empty

/-! ## Routing -/

/-- The handles that an edge between the given columns is attached to. -/
def handles (c : Canvas) (e : Endpoints) : Handles :=
  match c.node? e.source.table, c.node? e.target.table with
  | some source, some target =>
    .resolve (c.metrics.nodeBox source) (c.metrics.nodeBox target) c.metrics.nodeWidth e
  | _, _ => .standard e

/-- The canvas with every edge attached anew. -/
def route (c : Canvas) : Canvas :=
  { c with edges := c.edges.map fun e => { e with handles := c.handles e.endpoints } }

/-! ## Following the schema -/

/-- The position of a table on the canvas to come, where it has the given index. -/
def positionFor (c : Canvas) (index : Nat) (name : String) : Position :=
  match c.node? name with
  | some n => n.position
  | none => (c.seeds.find? name).getD (c.grid.gridPosition index)

/-- The nodes for the tables of a schema. -/
def nodesFor (c : Canvas) (tables : List Table) : List Node :=
  tables.mapIdx fun index t => ⟨t.name, c.positionFor index t.name, t.columns⟩

/-- Whether an edge drawn by hand stays when the canvas shows these tables and derived edges. -/
def staysWith (tables : List Table) (derived : List Edge) (e : Edge) : Bool :=
  e.isManual && !derived.any (·.endpoints == e.endpoints) &&
    tables.any (·.name == e.endpoints.source.table) &&
    tables.any (·.name == e.endpoints.target.table)

/-- The canvas brought in line with a schema. -/
def sync (c : Canvas) (schema : Schema) : Canvas :=
  let tables := keepFirst Table.name schema.tables
  let derived := (keepFirst Relationship.endpoints schema.relationships).map Edge.ofRelationship
  let edges := derived ++ c.edges.filter (staysWith tables derived)
  let isNew (name : String) : Bool := tables.any (·.name == name) && (c.node? name).isNone
  route { c with
    nodes := c.nodesFor tables
    edges
    selected := c.selected.filter fun id => edges.any (·.id == id)
    seeds := c.seeds.remove isNew }

/-! ## Positions -/

/-- The canvas with the node of the given name at a new position. -/
def place (c : Canvas) (id : String) (p : Position) : Canvas :=
  { c with nodes := updateFirst (·.id == id) ({ · with position := p }) c.nodes }

/-- The canvas with a position given to a name: to its node, or set aside if there is none. -/
def seedOne (c : Canvas) (id : String) (p : Position) : Canvas :=
  if (c.node? id).isSome then c.place id p else { c with seeds := c.seeds.insert id p }

/-- The canvas with the positions of a layout. -/
def seed (c : Canvas) (l : Layout) : Canvas :=
  (l.entries.foldl (fun c (id, p) => c.seedOne id p) c).route

/-- Moves a node. The answer is whether there is one of that name. -/
def moveNode (c : Canvas) (id : String) (p : Position) : Bool × Canvas :=
  if (c.node? id).isSome then (true, (c.place id p).route) else (false, c)

/-! ## Edges -/

/-- Whether a node has the given column. -/
def hasColumn (c : Canvas) (r : ColumnRef) : Bool :=
  (c.node? r.table).any fun n => n.columns.any (·.name == r.column)

/-- The columns that a drawn connection leads between: it goes out from a handle that edges go out
from to one that they come in at, and both columns exist. -/
def endpoints? (c : Canvas) (sourceNode targetNode : String) (handles : Handles) :
    Option Endpoints :=
  match Handle.parse? handles.source, Handle.parse? handles.target with
  | some (sourceColumn, sourceKind), some (targetColumn, targetKind) =>
    let e : Endpoints := ⟨⟨sourceNode, sourceColumn⟩, ⟨targetNode, targetColumn⟩⟩
    if sourceKind.isSource && !targetKind.isSource && c.hasColumn e.source && c.hasColumn e.target
    then some e else none
  | _, _ => none

/-- Draws a connection between two handles. The answer is the new edge, unless the connection is
refused. -/
def connect (c : Canvas) (sourceNode targetNode : String) (handles : Handles) :
    Option Edge × Canvas :=
  match c.endpoints? sourceNode targetNode handles with
  | none => (none, c)
  | some endpoints =>
    let e : Edge := ⟨endpoints, handles, .manual c.nextSerial⟩
    (some e, { c with edges := c.edges ++ [e], nextSerial := c.nextSerial + 1 })

/-- Selects an edge, or takes the selection away if it is selected. The answer is whether it is
selected now. -/
def clickEdge (c : Canvas) (id : String) : Bool × Canvas :=
  if c.selected = some id then (false, { c with selected := none })
  else if (c.edge? id).isSome then (true, { c with selected := some id })
  else (false, c)

/-- Takes the selection away. -/
def clickPane (c : Canvas) : Canvas :=
  { c with selected := none }

/-- Deletes the selected edge, unless the keyboard acts on the text. The answer is the deleted edge.
A derived one comes back at the next `sync`, since the text still has its relationship. -/
def deleteSelected (c : Canvas) (focus : Focus) : Option Edge × Canvas :=
  match focus, c.selected with
  | .canvas, some id =>
    (c.edge? id, { c with edges := c.edges.eraseP (·.id == id), selected := none })
  | _, _ => (none, c)

end Canvas

end SchemaDiagram
