import SchemaDiagram.Diagram.Canvas
import SchemaDiagram.Document
import SchemaDiagram.Import
import SchemaDiagram.Project
import SchemaDiagram.Sample
import SchemaDiagram.Schema.Edit
import SchemaDiagram.Schema.Parse
import SchemaDiagram.ShareLink
import SchemaDiagram.Sql.Print

/-!
# The workspace

A `Workspace` holds a diagram three times: as schema text, which is what is edited, as the schema
that the text declares, and as the canvas that shows it. Whatever changes the text goes through
`Workspace.setText`, which derives the other two from it again, so that the three always agree;
the canvas alone remembers where the nodes are.

Operations that can be refused return their answer together with the workspace. Where the time
matters it is an argument.
-/

namespace SchemaDiagram

/-- The state of an editor. -/
structure Workspace where
  /-- The schema text. -/
  text : String
  /-- The schema of the text. -/
  schema : Schema
  /-- The canvas. -/
  canvas : Canvas
  /-- The settings. -/
  settings : Settings
  /-- The project, once the diagram has been saved. -/
  project : Option Project
  /-- The name that the project will have when the diagram is saved for the first time. -/
  pendingName : Option String

namespace Workspace

/-- The workspace with another text, and with all that follows from it. -/
def setText (w : Workspace) (text : String) : Workspace :=
  let schema := Schema.parse text
  { w with text, schema, canvas := w.canvas.sync schema }

/-- The workspace before it has a text. -/
def blank (settings : Settings) : Workspace where
  text := ""
  schema := .empty
  canvas := .new settings.canvas
  settings := settings
  project := none
  pendingName := none

/-- A workspace with the given text. -/
def withText (settings : Settings) (text : String) : Workspace :=
  (blank settings).setText text

/-- A workspace with the sample schema. -/
def new (settings : Settings) : Workspace :=
  withText settings sampleText

/-! ## Editing -/

/-- Deletes a node: its table and the references to it leave the text. -/
def deleteNode (w : Workspace) (id : String) : Workspace :=
  w.setText (SchemaText.removeTable w.text id)

/-- Makes a drawn edge part of the text, as a many-to-one reference. The answer is the identifier
of the derived edge that takes its place, or its own if there is none. -/
def propagate (w : Workspace) (e : Edge) : String × Workspace :=
  let w := w.setText (SchemaText.appendReference w.text (e.endpoints.relationship .manyToOne))
  let derived := Edge.derivedId e.endpoints
  (if (w.canvas.edge? derived).isSome then derived else e.id, w)

/-- Draws a connection between two handles. The answer is the identifier of the edge that shows
it, unless the connection is refused. An edge that is to become part of the text is first looked up
on the canvas under its identifier. -/
def connect (w : Workspace) (sourceNode targetNode : String) (handles : Handles) :
    Option String × Workspace :=
  match w.canvas.connect sourceNode targetNode handles with
  | (none, _) => (none, w)
  | (some drawn, canvas) =>
    let w := { w with canvas }
    if w.settings.propagateConnections then
      match canvas.edge? drawn.id with
      | none => (none, w)
      | some e =>
        let (id, w) := w.propagate e
        (some id, w)
    else (some drawn.id, w)

/-- Moves a node. The answer is whether there is one of that name. -/
def moveNode (w : Workspace) (id : String) (p : Position) : Bool × Workspace :=
  let (found, canvas) := w.canvas.moveNode id p
  (found, { w with canvas })

/-- Selects an edge, or takes the selection away if it is selected. The answer is whether it is
selected now. -/
def clickEdge (w : Workspace) (id : String) : Bool × Workspace :=
  let (selected, canvas) := w.canvas.clickEdge id
  (selected, { w with canvas })

/-- Takes the selection away. -/
def clickPane (w : Workspace) : Workspace :=
  { w with canvas := w.canvas.clickPane }

/-- Deletes the selected edge, unless the keyboard acts on the text. The answer is the deleted
edge. -/
def pressDelete (w : Workspace) (focus : Focus) : Option Edge × Workspace :=
  let (deleted, canvas) := w.canvas.deleteSelected focus
  (deleted, { w with canvas })

/-! ## Import and export -/

/-- Replaces the diagram by an imported one. -/
def adopt (w : Workspace) (imported : Imported) : Workspace :=
  let canvas := match imported.layout with
    | some layout => w.canvas.seed layout
    | none => w.canvas
  { w with canvas }.setText imported.text

/-- Imports a content of the given format in place of the text. -/
def importContent (w : Workspace) (format : FileFormat) (content : String) :
    Except Imported.Fault Unit × Workspace :=
  match Imported.ofContent format content with
  | .ok imported => (.ok (), w.adopt imported)
  | .error fault => (.error fault, w)

/-- The schema as SQL. -/
def exportSql (w : Workspace) (dialect : Sql.Dialect) : String :=
  Sql.print dialect w.schema

/-- The schema as SQL in the dialect of the settings. -/
def exportDefaultSql (w : Workspace) : String :=
  w.exportSql w.settings.defaultDialect

/-- The diagram as a document that is written at the given moment. -/
def exportJson (w : Workspace) (now : Instant) : String :=
  (Document.ofDiagram w.text w.schema (some w.canvas.layout) (now.print .millis)).print

/-- The link to the text at the given address. -/
def shareLink (w : Workspace) (origin : String) : String :=
  ShareLink.encode origin w.text

/-- Replaces the text by the one that a link carries. -/
def openShareLink (w : Workspace) (url : String) : Except ShareLink.Fault Unit × Workspace :=
  match ShareLink.decode url with
  | .ok text => (.ok (), w.setText text)
  | .error fault => (.error fault, w)

/-! ## Saving -/

/-- Names the project, or sets the name aside until there is one. -/
def setProjectName (w : Workspace) (name : String) : Workspace :=
  match w.project with
  | some project => { w with project := some { project with name } }
  | none => { w with pendingName := some name }

/-- What is saved of the diagram at the given moment. The project begins when the diagram is saved
for the first time. -/
def snapshot (w : Workspace) (now : Instant) : Snapshot × Workspace :=
  let project := w.project.getD (.new w.pendingName now)
  ({ id := some project.id
     name := some project.name
     text := w.text
     layout := w.canvas.layout
     createdAt := some project.createdAt
     updatedAt := some now },
    { w with project := some project, pendingName := none })

/-- Replaces the diagram by a saved one, on a fresh canvas. A snapshot without an identifier gets a
project when it is saved again. -/
def restore (w : Workspace) (s : Snapshot) (now : Instant) : Workspace :=
  { w with
    project := s.project? now
    pendingName := if s.id.isSome then none else s.name
    canvas := (Canvas.new w.settings.canvas).seed s.layout }.setText s.text

end Workspace

end SchemaDiagram
