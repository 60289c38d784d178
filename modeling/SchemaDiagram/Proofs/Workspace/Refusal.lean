import SchemaDiagram.Proofs.Diagram.Lifecycle
import SchemaDiagram.Proofs.Workspace.Propagation
import SchemaDiagram.Session

/-!
# Operations that are refused

An operation that is refused leaves the workspace as it was, with everything that it holds
(`Workspace.atomic_run`). Most refusals come before anything is changed. Two come late: the deletion
of a selected edge that is not on the canvas, and the propagation of a drawn edge that is not found
there. They would leave the selection gone, or the edge drawn; but the selection is always an edge
(`Canvas.deleteSelected_of_none`), and a drawn edge is always found under its identifier
(`Canvas.Coherent.edge?_draw`), since it has a serial number of its own.
-/

namespace SchemaDiagram

namespace Canvas

variable {c : Canvas}

/-! ## Refusals of the canvas -/

/-- A canvas on which no node was moved is as it was. -/
theorem moveNode_of_false {id : String} {p : Position} (h : (c.moveNode id p).1 = false) :
    (c.moveNode id p).2 = c := by
  unfold moveNode at h ⊢
  split at h
  · cases h
  · next hnode => rw [if_neg hnode]

/-- A click on an edge that is not there changes nothing: it is not the selected one. -/
theorem clickEdge_of_forall_ne (hc : c.Invariant) {id : String} (h : ∀ e ∈ c.edges, e.id ≠ id) :
    c.clickEdge id = (false, c) := by
  have hselected : c.selected ≠ some id := by
    intro hsome
    obtain ⟨e, he, hid⟩ := hc.selected id hsome
    exact h e he hid
  have hedge : (c.edge? id).isSome = false := by
    unfold edge?
    simpa using h
  unfold clickEdge
  rw [if_neg hselected, hedge]
  rfl

/-- A canvas from which no edge was deleted is as it was: a selected edge would have been there. -/
theorem deleteSelected_of_none (hc : c.Invariant) {focus : Focus}
    (h : (c.deleteSelected focus).1 = none) : (c.deleteSelected focus).2 = c := by
  unfold deleteSelected at h ⊢
  split
  · next id hselected =>
    rw [hselected] at h
    have hnone : c.edge? id = none := h
    obtain ⟨e, he, hid⟩ := hc.selected id hselected
    exact absurd hid (by simpa using List.find?_eq_none.1 hnone e he)
  · rfl

end Canvas

namespace Workspace

variable {w : Workspace}

/-! ## Refusals of the workspace -/

/-- Whether an operation is refused, which its answer says. A click on an edge is taken for refused
if there is no edge of that identifier. -/
def Refused (w : Workspace) : Operation → Prop
  | .connect sourceNode targetNode handles => (w.connect sourceNode targetNode handles).1 = none
  | .moveNode id position => (w.moveNode id position).1 = false
  | .clickEdge id => ∀ e ∈ w.canvas.edges, e.id ≠ id
  | .pressDelete focus => (w.pressDelete focus).1 = none
  | .importContent format content => ∃ fault, (w.importContent format content).1 = .error fault
  | .openShareLink url => ∃ fault, (w.openShareLink url).1 = .error fault
  | _ => False

/-- An operation that is refused changes nothing. -/
theorem step_of_refused (hw : w.canvas.Invariant) {operation : Operation}
    (h : w.Refused operation) : w.step operation = w := by
  cases operation with
  | connect sourceNode targetNode handles =>
    have hnone : (w.connect sourceNode targetNode handles).1 = none := h
    show (w.connect sourceNode targetNode handles).2 = w
    cases he : w.canvas.endpoints? sourceNode targetNode handles with
    | none => rw [connect_of_none he]
    | some e =>
      rw [connect_of_some hw.toCoherent he] at hnone
      split at hnone <;> cases hnone
  | moveNode id position =>
    exact congrArg (fun canvas => { w with canvas }) (Canvas.moveNode_of_false h)
  | clickEdge id =>
    exact congrArg (fun answer : Bool × Canvas => { w with canvas := answer.2 })
      (Canvas.clickEdge_of_forall_ne hw h)
  | pressDelete focus =>
    exact congrArg (fun canvas => { w with canvas }) (Canvas.deleteSelected_of_none hw h)
  | importContent format content =>
    obtain ⟨fault, hfault⟩ := h
    show (w.importContent format content).2 = w
    unfold Workspace.importContent at hfault ⊢
    split at hfault
    · cases hfault
    · rfl
  | openShareLink url =>
    obtain ⟨fault, hfault⟩ := h
    show (w.openShareLink url).2 = w
    unfold Workspace.openShareLink at hfault ⊢
    split at hfault
    · cases hfault
    · rfl
  | setText text => exact h.elim
  | deleteNode id => exact h.elim
  | clickPane => exact h.elim
  | setProjectName name => exact h.elim
  | snapshot now => exact h.elim
  | restore saved now => exact h.elim

/-- Draws a connection like `connect`, but writes the drawn edge into the text without looking it up,
so that nothing is refused once an edge was drawn. -/
def connectDirectly (w : Workspace) (sourceNode targetNode : String) (handles : Handles) :
    Option String × Workspace :=
  match w.canvas.connect sourceNode targetNode handles with
  | (none, _) => (none, w)
  | (some drawn, canvas) =>
    if w.settings.propagateConnections then
      let (id, w) := { w with canvas }.propagate drawn
      (some id, w)
    else (some drawn.id, { w with canvas })

/-- The drawn edge is always found. -/
theorem connect_eq_connectDirectly (hw : w.canvas.Coherent) (sourceNode targetNode : String)
    (handles : Handles) :
    w.connect sourceNode targetNode handles = w.connectDirectly sourceNode targetNode handles := by
  cases he : w.canvas.endpoints? sourceNode targetNode handles with
  | none =>
    rw [connect_of_none he]
    unfold connectDirectly Canvas.connect
    rw [he]
  | some e =>
    rw [connect_of_some hw he]
    unfold connectDirectly Canvas.connect
    rw [he]
    rfl

/-! ## Failures in a run -/

/-- Failures leave nothing behind in a workspace. -/
structure Atomic (w : Workspace) : Prop where
  /-- An operation that is refused changes nothing. -/
  refused : ∀ operation, w.Refused operation → w.step operation = w
  /-- Nor does a session change anything that cannot read the saved diagram it should restore. -/
  unread : ∀ saved now message, ((⟨w⟩ : Session).restore saved now).1 = .error message →
    ((⟨w⟩ : Session).restore saved now).2 = ⟨w⟩
  /-- No connection is refused after its edge was drawn. -/
  drawn : ∀ sourceNode targetNode handles,
    w.connect sourceNode targetNode handles = w.connectDirectly sourceNode targetNode handles

/-- In every workspace that operations lead to, failures leave nothing behind. -/
theorem atomic_run (settings : Settings) (text : String) (operations : List Operation) :
    Atomic ((withText settings text).run operations) := by
  have hinvariant := (reached_run settings text operations).invariant
  constructor
  case refused => exact fun operation => step_of_refused hinvariant
  case unread =>
    intro saved now message hmessage
    unfold Session.restore at hmessage ⊢
    split at hmessage
    · cases hmessage
    · rfl
  case drawn => exact connect_eq_connectDirectly hinvariant.toCoherent

/-- A text with two tables and a relationship between them. -/
def pairText : String :=
  "Table a \x7b\n  x int\n\x7d\nTable b \x7b\n  y int\n\x7d\nRef: a.x > b.y\n"

/-- A restored diagram with that text whose edge is selected. There is a position for a table that
it does not have, and its project has no more than a name. -/
def selectedPair : Workspace :=
  (withText {} "").run
    [.restore { text := pairText, layout := ⟨[("c", ⟨1, 2⟩)]⟩, name := some "pair" } ⟨0, 0, 0⟩,
      .clickEdge (Edge.derivedId ⟨⟨"a", "x"⟩, ⟨"b", "y"⟩⟩)]

/-- Each kind of operation that can be refused is refused there, and the selection, the position and
the name stay. -/
theorem atomic_selectedPair :
    (∀ operation ∈ [Operation.connect "a" "b" ⟨Handle.left.id "x", Handle.left.id "y"⟩,
        .moveNode "c" ⟨3, 4⟩, .clickEdge "manual-1", .pressDelete .text,
        .importContent .sql "CREATE TABLE broken (id INT", .openShareLink "https://example.com"],
      selectedPair.Refused operation ∧ selectedPair.step operation = selectedPair) ∧
    (⟨selectedPair⟩ : Session).restore "[1]" ⟨5, 0, 0⟩ =
      (.error (Json.Fault.message .unfit), ⟨selectedPair⟩) ∧
    selectedPair.canvas.selected = some (Edge.derivedId ⟨⟨"a", "x"⟩, ⟨"b", "y"⟩⟩) ∧
    selectedPair.canvas.seeds.entries.map Prod.fst = ["c"] ∧
    selectedPair.pendingName = some "pair" := by
  obtain ⟨hrefused, hunread, -⟩ := atomic_run {} ""
    [.restore { text := pairText, layout := ⟨[("c", ⟨1, 2⟩)]⟩, name := some "pair" } ⟨0, 0, 0⟩,
      .clickEdge (Edge.derivedId ⟨⟨"a", "x"⟩, ⟨"b", "y"⟩⟩)]
  refine ⟨?_, ?_, ?_, ?_, ?_⟩
  · intro operation hmem
    have hoperation : selectedPair.Refused operation := by
      simp only [List.mem_cons, List.not_mem_nil, or_false] at hmem
      rcases hmem with rfl | rfl | rfl | rfl | rfl | rfl
      · show (selectedPair.connect _ _ _).1 = none
        decide +kernel
      · show (selectedPair.moveNode _ _).1 = false
        decide +kernel
      · show ∀ e ∈ selectedPair.canvas.edges, e.id ≠ "manual-1"
        decide +kernel
      · show (selectedPair.pressDelete _).1 = none
        decide +kernel
      · exact ⟨.noTables, by decide +kernel⟩
      · exact ⟨.missingParameter, by decide +kernel⟩
    exact ⟨hoperation, hrefused operation hoperation⟩
  · have hmessage : ((⟨selectedPair⟩ : Session).restore "[1]" ⟨5, 0, 0⟩).1 =
        .error (Json.Fault.message .unfit) := by decide +kernel
    exact Prod.ext hmessage (hunread _ _ _ hmessage)
  · decide +kernel
  · decide +kernel
  · decide +kernel

end Workspace

end SchemaDiagram
