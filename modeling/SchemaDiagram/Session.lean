import SchemaDiagram.Diagram.View
import SchemaDiagram.Settings.Read
import SchemaDiagram.Workspace

/-!
# Sessions

A `Session` is a workspace for a host that exchanges nothing but text: settings, snapshots and
views are documents, and the answer to a request that fails is a message. The module begins with
the requests that need no session.
-/

namespace SchemaDiagram

/-- The answer to a request: a result, or the message about what went wrong. -/
abbrev Answer (α : Type) :=
  Except String α

/-- The dialect that is meant by a name, or the given one if there is no name. -/
def dialectNamed (name : Option String) (standard : Sql.Dialect) : Answer Sql.Dialect :=
  match name with
  | some name => (Sql.Dialect.parse name).mapError (·.message)
  | none => .ok standard

/-! ## Requests without a session -/

/-- The schema of a text, as JSON. -/
def schemaJson (text : String) : String :=
  (Schema.parse text).toJson.compact

/-- The schema text for an SQL script. -/
def textOfSql (script : String) : Answer String :=
  match Imported.ofSql script with
  | .ok imported => .ok imported.text
  | .error fault => .error fault.message

/-- The text and the positions of a document, as JSON. -/
def snapshotOfJson (content : String) : Answer String :=
  match Imported.ofJson content with
  | .ok imported =>
    let s : Snapshot := { text := imported.text, layout := imported.layout.getD .empty }
    .ok s.toJson.compact
  | .error fault => .error fault.message

/-- The SQL for a schema text. -/
def sqlOfText (text : String) (dialect : Option String) : Answer String :=
  (dialectNamed dialect .standard).map fun d => Sql.print d (Schema.parse text)

/-- The text that a link carries. -/
def textOfLink (url : String) : Answer String :=
  (ShareLink.decode url).mapError (·.message)

/-! ## Sessions -/

/-- A workspace that is used through text. -/
structure Session where
  /-- The workspace. -/
  workspace : Workspace

namespace Session

/-- Opens a session with the sample schema. The settings are those of a TOML text, if there is
one. -/
def start (config : Option String) : Answer Session :=
  match config with
  | none => .ok ⟨.new {}⟩
  | some text => match Settings.parse text with
    | .ok settings => .ok ⟨.new settings⟩
    | .error fault => .error fault.message

/-- The session with another text. -/
def setText (s : Session) (text : String) : Session :=
  ⟨s.workspace.setText text⟩

/-- The session without a node. -/
def deleteNode (s : Session) (id : String) : Session :=
  ⟨s.workspace.deleteNode id⟩

/-- Draws a connection between two handles. -/
def connect (s : Session) (sourceNode targetNode : String) (handles : Handles) :
    Option String × Session :=
  let (id, w) := s.workspace.connect sourceNode targetNode handles
  (id, ⟨w⟩)

/-- Moves a node. -/
def moveNode (s : Session) (id : String) (p : Position) : Bool × Session :=
  let (found, w) := s.workspace.moveNode id p
  (found, ⟨w⟩)

/-- Selects an edge, or takes the selection away. -/
def clickEdge (s : Session) (id : String) : Bool × Session :=
  let (selected, w) := s.workspace.clickEdge id
  (selected, ⟨w⟩)

/-- Takes the selection away. -/
def clickPane (s : Session) : Session :=
  ⟨s.workspace.clickPane⟩

/-- Deletes the selected edge. The answer is whether there was one. -/
def pressDelete (s : Session) (focus : Focus) : Bool × Session :=
  let (deleted, w) := s.workspace.pressDelete focus
  (deleted.isSome, ⟨w⟩)

/-- Imports the content of a file, whose format follows from its name if it can. -/
def importFile (s : Session) (fileName content : String) : Answer Unit × Session :=
  let format := (FileFormat.ofPath? fileName).getD (.detect content)
  let (result, w) := s.workspace.importContent format content
  (result.mapError (·.message), ⟨w⟩)

/-- The schema as SQL, in the dialect of the settings if none is named. -/
def exportSql (s : Session) (dialect : Option String) : Answer String :=
  (dialectNamed dialect s.workspace.settings.defaultDialect).map s.workspace.exportSql

/-- The diagram as a document. -/
def exportJson (s : Session) (now : Instant) : String :=
  s.workspace.exportJson now

/-- What is drawn, as JSON. -/
def view (s : Session) : String :=
  s.workspace.canvas.view.toJson.compact

/-- Names the project. -/
def setProjectName (s : Session) (name : String) : Session :=
  ⟨s.workspace.setProjectName name⟩

/-- Replaces the text by the one that a link carries. -/
def openShareLink (s : Session) (url : String) : Answer Unit × Session :=
  let (result, w) := s.workspace.openShareLink url
  (result.mapError (·.message), ⟨w⟩)

/-- What is saved of the diagram, as JSON. -/
def snapshot (s : Session) (now : Instant) : String × Session :=
  let (saved, w) := s.workspace.snapshot now
  (saved.toJson.compact, ⟨w⟩)

/-- Replaces the diagram by a saved one. -/
def restore (s : Session) (saved : String) (now : Instant) : Answer Unit × Session :=
  match Snapshot.reader.run saved with
  | .ok saved => (.ok (), ⟨s.workspace.restore saved now⟩)
  | .error fault => (.error fault.message, s)

end Session

end SchemaDiagram
