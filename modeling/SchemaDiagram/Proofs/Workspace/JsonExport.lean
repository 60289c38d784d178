import SchemaDiagram.Proofs.Diagram.Seed
import SchemaDiagram.Proofs.Document
import SchemaDiagram.Proofs.Workspace.Propagation

/-!
# Exporting to a document and importing again

A workspace that imports the document of another one adopts its text and its layout
(`Workspace.importContent_exportJson`) and so shows the same diagram, whatever it held before
(`Workspace.sameDiagram_adopt`): the schema follows from the text, and the positions of the document
win over those of nodes that were there and over those that were set aside. That holds of the
document of any workspace that operations lead to, provided that its text is not empty and its
coordinates come back when they are written and read (`Workspace.jsonRoundTrip_run`).
-/

namespace SchemaDiagram.Workspace

variable {w : Workspace}

/-- The document of a workspace is readable if the coordinates of its nodes come back. -/
theorem readable_document (hpositions : ∀ n ∈ w.canvas.nodes, n.position.ReadsBack)
    (exportedAt : String) :
    (Document.ofDiagram w.text w.schema (some w.canvas.layout) exportedAt).Readable := by
  constructor
  · intro l hl
    obtain rfl := Option.some.inj hl
    exact w.canvas.sorted_layout
  · intro l hl entry hentry
    obtain rfl := Option.some.inj hl
    obtain ⟨n, hn, rfl⟩ := Canvas.exists_node_of_mem_layout hentry
    exact hpositions n hn

/-- Both workspaces have the same diagram. -/
structure SameDiagram (w w' : Workspace) : Prop where
  /-- They have the same text. -/
  text : w'.text = w.text
  /-- They have the same schema. -/
  schema : w'.schema = w.schema
  /-- They have the same nodes, in the same order and in the same places. -/
  nodes : w'.canvas.nodes = w.canvas.nodes

/-- A workspace that adopts the text and the layout of another one has the same diagram. -/
theorem sameDiagram_adopt (hw : InStep w) (hids : w.canvas.ids.Nodup) (other : Workspace) :
    SameDiagram w (other.adopt ⟨w.text, some w.canvas.layout⟩) := by
  constructor
  case text => rfl
  case schema => exact hw.schema.symm
  case nodes =>
    show ((other.canvas.seed w.canvas.layout).sync (Schema.parse w.text)).nodes = _
    rw [← hw.schema]
    exact Canvas.nodes_sync_seed_layout hids hw.shows other.canvas

/-- The document of a workspace with text is imported. -/
theorem importContent_exportJson (htext : w.text ≠ "")
    (hpositions : ∀ n ∈ w.canvas.nodes, n.position.ReadsBack) (other : Workspace) (now : Instant) :
    other.importContent .json (w.exportJson now) =
      (.ok (), other.adopt ⟨w.text, some w.canvas.layout⟩) := by
  have himported : Imported.ofContent .json (w.exportJson now) =
      .ok ⟨w.text, some w.canvas.layout⟩ :=
    Imported.ofJson_print (readable_document hpositions _) htext
  unfold importContent
  rw [himported]

/-- The document of a workspace that operations lead to is taken for a document and imported into
any other workspace, which has the same diagram then. -/
theorem jsonRoundTrip_run (settings : Settings) (text : String) (operations : List Operation)
    (htext : ((withText settings text).run operations).text ≠ "")
    (hpositions : ∀ n ∈ ((withText settings text).run operations).canvas.nodes,
      n.position.ReadsBack) (other : Workspace) (now : Instant) :
    let w := (withText settings text).run operations
    FileFormat.detect (w.exportJson now) = .json ∧
      (other.importContent .json (w.exportJson now)).1 = .ok () ∧
      SameDiagram w (other.importContent .json (w.exportJson now)).2 := by
  intro w
  have hreached := reached_run settings text operations
  rw [importContent_exportJson htext hpositions]
  exact ⟨FileFormat.detect_print _, rfl,
    sameDiagram_adopt hreached.inStep hreached.invariant.ids other⟩

/-- A text with a quote, a backslash, a control character and a letter that is not in ASCII. -/
def escapedText : String :=
  "Table b \x7b\n  x int [note: 'a \"b\" \\ \x01 é']\n\x7d\nTable a \x7b\n  y int\n\x7d\n"

/-- The nodes for that text are moved. -/
def spread : List Operation :=
  [.moveNode "b" ⟨-20.5, 1e21⟩, .moveNode "a" ⟨0.1, 0⟩]

/-- A workspace that has one of these nodes in another place, and another place set aside for the
other one. -/
def misplaced : Workspace :=
  (withText {} "").run [.restore
    { text := "Table a \x7b\n  z text\n\x7d\n", layout := ⟨[("a", ⟨1, 2⟩), ("b", ⟨3, 4⟩)]⟩ }
    ⟨0, 0, 0⟩]

/-- That workspace gets the diagram of the other one. -/
theorem jsonRoundTrip_misplaced :
    let w := (withText {} escapedText).run spread
    w.text ≠ "" ∧ (∀ n ∈ w.canvas.nodes, n.position.ReadsBack) ∧
      FileFormat.detect (w.exportJson ⟨0, 0, 0⟩) = .json ∧
      (misplaced.importContent .json (w.exportJson ⟨0, 0, 0⟩)).1 = .ok () ∧
      SameDiagram w (misplaced.importContent .json (w.exportJson ⟨0, 0, 0⟩)).2 ∧
      (w.canvas.nodes.map fun n => (n.id, n.position.x, n.position.y)) =
        [("b", -20.5, 1e21), ("a", 0.1, 0)] ∧
      misplaced.canvas.ids = ["a"] ∧ misplaced.canvas.seeds.entries.map Prod.fst = ["b"] := by
  have htext : ((withText {} escapedText).run spread).text ≠ "" := by decide +kernel
  have hpositions : ∀ n ∈ ((withText {} escapedText).run spread).canvas.nodes,
      n.position.ReadsBack := by decide +kernel
  obtain ⟨hdetect, himport, hsame⟩ :=
    jsonRoundTrip_run {} escapedText spread htext hpositions misplaced ⟨0, 0, 0⟩
  exact ⟨htext, hpositions, hdetect, himport, hsame, by decide +kernel, by decide +kernel,
    by decide +kernel⟩

end SchemaDiagram.Workspace
