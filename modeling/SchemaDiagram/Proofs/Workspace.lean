import SchemaDiagram.Proofs.Diagram.Shown
import SchemaDiagram.Workspace

/-!
# Text, schema and canvas agree

A workspace is `InStep` when its schema is that of its text and its canvas `Shows` that schema. It
is so whatever is done with it (`InStep.run`): an operation either sets the text, and then
everything is derived from it again (`inStep_setText`), or it only changes the canvas and what it
shows stays within the schema. Derived edges may be missing then, but none is right after the text
was set.
-/

namespace SchemaDiagram

namespace Workspace

/-! ## Workspaces in step -/

/-- The schema is that of the text, and the canvas shows it. -/
structure InStep (w : Workspace) : Prop where
  /-- The schema is that of the text. -/
  schema : w.schema = Schema.parse w.text
  /-- The canvas shows the schema. -/
  shows : w.canvas.Shows w.schema

/-- No derived edge is missing: they show the first relationship between any two columns. -/
def Complete (w : Workspace) : Prop :=
  w.canvas.shownRelationships = firsts Relationship.endpoints w.schema.relationships

variable {w : Workspace}

/-- A workspace whose text was set is in step. -/
theorem inStep_setText (w : Workspace) (text : String) : InStep (w.setText text) := by
  constructor
  · rfl
  · exact Canvas.shows_sync w.canvas (Schema.parse text)

/-- In a workspace whose text was set no derived edge is missing. -/
theorem complete_setText (w : Workspace) (text : String) : Complete (w.setText text) :=
  Canvas.shownRelationships_sync w.canvas (Schema.parse text)

/-- A workspace stays in step when its canvas changes to one that shows the same schema. -/
theorem InStep.of_canvas (h : InStep w) {canvas : Canvas} (hcanvas : canvas.Shows w.schema) :
    InStep { w with canvas } :=
  ⟨h.schema, hcanvas⟩

/-- What a drawn connection does to a workspace: nothing, or it is written into the text, or it stays
on the canvas, since it is not to be written or was not found there. -/
theorem connect_cases (w : Workspace) (sourceNode targetNode : String) (handles : Handles) :
    let drawn := { w with canvas := (w.canvas.connect sourceNode targetNode handles).2 }
    (w.connect sourceNode targetNode handles = (none, w)) ∨
      (∃ text, (w.connect sourceNode targetNode handles).2 = drawn.setText text) ∨
      ((w.settings.propagateConnections = true →
          (w.connect sourceNode targetNode handles).1 = none) ∧
        (w.connect sourceNode targetNode handles).2 = drawn) := by
  unfold connect
  rcases hdrawn : w.canvas.connect sourceNode targetNode handles with ⟨edge, canvas⟩
  cases edge with
  | none => exact .inl rfl
  | some e =>
    cases hpropagate : w.settings.propagateConnections with
    | false => exact .inr (.inr ⟨by simp, by simp [hpropagate]⟩)
    | true =>
      cases hedge : canvas.edge? e.id with
      | none => exact .inr (.inr ⟨by simp [hpropagate, hedge], by simp [hpropagate, hedge]⟩)
      | some found =>
        refine .inr (.inl ⟨SchemaText.appendReference w.text
          (found.endpoints.relationship .manyToOne), ?_⟩)
        simp [hpropagate, hedge, propagate]

/-! ## Runs -/

/-- What can be done with a workspace. -/
inductive Operation where
  /-- The text is edited. -/
  | setText (text : String)
  /-- A node is deleted. -/
  | deleteNode (id : String)
  /-- A connection is drawn. -/
  | connect (sourceNode targetNode : String) (handles : Handles)
  /-- A node is moved. -/
  | moveNode (id : String) (position : Position)
  /-- An edge is clicked. -/
  | clickEdge (id : String)
  /-- The pane behind the nodes is clicked. -/
  | clickPane
  /-- The key that deletes is pressed. -/
  | pressDelete (focus : Focus)
  /-- A content is imported. -/
  | importContent (format : FileFormat) (content : String)
  /-- A link is opened. -/
  | openShareLink (url : String)
  /-- The project is named. -/
  | setProjectName (name : String)
  /-- The diagram is saved. -/
  | snapshot (now : Instant)
  /-- A saved diagram is opened. -/
  | restore (saved : Snapshot) (now : Instant)

/-- The workspace after an operation. -/
def step (w : Workspace) : Operation → Workspace
  | .setText text => w.setText text
  | .deleteNode id => w.deleteNode id
  | .connect sourceNode targetNode handles => (w.connect sourceNode targetNode handles).2
  | .moveNode id position => (w.moveNode id position).2
  | .clickEdge id => (w.clickEdge id).2
  | .clickPane => w.clickPane
  | .pressDelete focus => (w.pressDelete focus).2
  | .importContent format content => (w.importContent format content).2
  | .openShareLink url => (w.openShareLink url).2
  | .setProjectName name => w.setProjectName name
  | .snapshot now => (w.snapshot now).2
  | .restore saved now => w.restore saved now

/-- The workspace after one operation after another. -/
def run (w : Workspace) (operations : List Operation) : Workspace :=
  operations.foldl step w

/-- Whether an operation sets the text: by itself, or because it is not refused. -/
def SetsText (w : Workspace) : Operation → Prop
  | .setText _ | .deleteNode _ | .restore _ _ => True
  | .connect sourceNode targetNode handles => w.settings.propagateConnections = true ∧
      (w.connect sourceNode targetNode handles).1.isSome = true
  | .importContent format content => (w.importContent format content).1 = .ok ()
  | .openShareLink url => (w.openShareLink url).1 = .ok ()
  | _ => False

/-- A workspace stays in step through any operation. -/
theorem InStep.step (h : InStep w) (operation : Operation) : InStep (w.step operation) := by
  -- Operations that set the text derive everything anew; the others leave text and schema alone.
  cases operation with
  | setText text => exact inStep_setText w text
  | deleteNode id => exact inStep_setText w _
  | connect sourceNode targetNode handles =>
    show InStep (w.connect sourceNode targetNode handles).2
    rcases connect_cases w sourceNode targetNode handles with heq | ⟨text, heq⟩ | ⟨-, heq⟩
    · rw [heq]
      exact h
    · rw [heq]
      exact inStep_setText _ text
    · rw [heq]
      exact h.of_canvas (h.shows.connect sourceNode targetNode handles)
  | moveNode id position => exact h.of_canvas (h.shows.moveNode id position)
  | clickEdge id => exact h.of_canvas (h.shows.clickEdge id)
  | clickPane => exact h.of_canvas h.shows.clickPane
  | pressDelete focus => exact h.of_canvas (h.shows.deleteSelected focus)
  | importContent format content =>
    show InStep (w.importContent format content).2
    unfold Workspace.importContent
    split
    · exact inStep_setText _ _
    · exact h
  | openShareLink url =>
    show InStep (w.openShareLink url).2
    unfold Workspace.openShareLink
    split
    · exact inStep_setText w _
    · exact h
  | setProjectName name =>
    show InStep (w.setProjectName name)
    unfold Workspace.setProjectName
    split
    · exact ⟨h.schema, h.shows⟩
    · exact ⟨h.schema, h.shows⟩
  | snapshot now => exact ⟨h.schema, h.shows⟩
  | restore saved now => exact inStep_setText _ saved.text

/-- No derived edge is missing after an operation that sets the text. -/
theorem complete_step (w : Workspace) {operation : Operation} (h : w.SetsText operation) :
    Complete (w.step operation) := by
  cases operation with
  | setText text => exact complete_setText w text
  | deleteNode id => exact complete_setText w _
  | connect sourceNode targetNode handles =>
    obtain ⟨hpropagate, hsome⟩ := h
    show Complete (w.connect sourceNode targetNode handles).2
    rcases connect_cases w sourceNode targetNode handles with heq | ⟨text, heq⟩ | ⟨hnot, -⟩
    · rw [heq] at hsome
      cases hsome
    · rw [heq]
      exact complete_setText _ text
    · rw [hnot hpropagate] at hsome
      cases hsome
  | importContent format content =>
    have hok : (w.importContent format content).1 = .ok () := h
    show Complete (w.importContent format content).2
    unfold Workspace.importContent at hok ⊢
    split at hok
    · exact complete_setText _ _
    · cases hok
  | openShareLink url =>
    have hok : (w.openShareLink url).1 = .ok () := h
    show Complete (w.openShareLink url).2
    unfold Workspace.openShareLink at hok ⊢
    split at hok
    · exact complete_setText w _
    · cases hok
  | restore saved now => exact complete_setText _ saved.text
  | moveNode id position => exact h.elim
  | clickEdge id => exact h.elim
  | clickPane => exact h.elim
  | pressDelete focus => exact h.elim
  | setProjectName name => exact h.elim
  | snapshot now => exact h.elim

/-- A workspace stays in step through any operations. -/
theorem InStep.run (h : InStep w) (operations : List Operation) : InStep (w.run operations) := by
  -- By induction on the operations, from any workspace that is in step.
  induction operations generalizing w with
  | nil => exact h
  | cons operation operations ih => exact ih (h.step operation)

/-- Every workspace that operations lead to is in step, and no derived edge is missing right after
an operation that sets its text. -/
theorem inStep_run (settings : Settings) (text : String) (operations : List Operation) :
    InStep ((withText settings text).run operations) ∧
      ∀ operation, ((withText settings text).run operations).SetsText operation →
        Complete (((withText settings text).run operations).step operation) := by
  constructor
  · exact (inStep_setText (blank settings) text).run operations
  · exact fun operation hsets => complete_step _ hsets

/-- A text that declares a table and a relationship twice. -/
def repeatedText : String :=
  "Table a \x7b\n  x int\n\x7d\nTable a \x7b\n\x7d\n" ++
    "Ref: a.x > a.x\nRef: a.x < b.y\nRef: a.x - a.x\n"

/-- A workspace with that text whose first edge was deleted. -/
def deletedEdge : Workspace :=
  (withText {} repeatedText).run
    [.clickEdge (Edge.derivedId ⟨⟨"a", "x"⟩, ⟨"a", "x"⟩⟩), .pressDelete .canvas]

/-- The edge is missing until the text is set again, and the relationship stays in the schema. -/
theorem inStep_deletedEdge :
    InStep deletedEdge ∧ Complete (deletedEdge.step (.setText repeatedText)) ∧
      deletedEdge.schema.relationships.length = 3 ∧
      deletedEdge.canvas.shownTables.map Table.name = ["a"] ∧
      deletedEdge.canvas.shownRelationships = [⟨⟨⟨"a", "x"⟩, ⟨"b", "y"⟩⟩, .oneToMany⟩] ∧
      (deletedEdge.step (.setText repeatedText)).canvas.shownRelationships =
        [⟨⟨⟨"a", "x"⟩, ⟨"a", "x"⟩⟩, .manyToOne⟩, ⟨⟨⟨"a", "x"⟩, ⟨"b", "y"⟩⟩, .oneToMany⟩] := by
  obtain ⟨hstep, hcomplete⟩ := inStep_run {} repeatedText
    [.clickEdge (Edge.derivedId ⟨⟨"a", "x"⟩, ⟨"a", "x"⟩⟩), .pressDelete .canvas]
  refine ⟨hstep, hcomplete (.setText repeatedText) trivial, ?_, ?_, ?_, ?_⟩
  · decide +kernel
  · decide +kernel
  · decide +kernel
  · decide +kernel

end Workspace

end SchemaDiagram
