import SchemaDiagram.Proofs.Diagram.Reconciliation
import SchemaDiagram.Proofs.Workspace.JsonExport

/-!
# Saving and restoring

What is saved of a workspace brings its diagram back in any other workspace with the same settings
(`Workspace.Restored`, `Workspace.restored_run`). The saved positions are all set aside on a fresh
canvas and all of them are used when the text is read again, because they are those of the nodes and
the nodes are the tables of the text. Edges are attached alike, since the canvas of a workspace is
always one that operations lead to from the new canvas of its settings
(`Workspace.exists_run_canvas`), and no operation changes the sizes of nodes.
-/

namespace SchemaDiagram

namespace Canvas

variable {c : Canvas} {schema : Schema}

/-! ## The sizes of nodes -/

/-- No operation changes the sizes of nodes. -/
theorem metrics_step (c : Canvas) (operation : Operation) :
    (c.step operation).metrics = c.metrics := by
  cases operation with
  | sync schema => rfl
  | seed layout =>
    refine seed_induction (P := fun c' => c'.metrics = c.metrics) (fun c' id p h => ?_) rfl layout
    unfold seedOne
    split <;> exact h
  | moveNode id position =>
    show (c.moveNode id position).2.metrics = _
    unfold moveNode
    split <;> rfl
  | connect sourceNode targetNode handles =>
    show (c.connect sourceNode targetNode handles).2.metrics = _
    unfold connect
    split <;> rfl
  | clickEdge id =>
    show (c.clickEdge id).2.metrics = _
    unfold clickEdge
    split_ifs <;> rfl
  | clickPane => rfl
  | deleteSelected focus =>
    show (c.deleteSelected focus).2.metrics = _
    unfold deleteSelected
    split <;> rfl

/-- Nor do any operations one after another. -/
theorem metrics_run (c : Canvas) (operations : List Operation) :
    (c.run operations).metrics = c.metrics := by
  induction operations generalizing c with
  | nil => rfl
  | cons operation operations ih => exact (ih _).trans (metrics_step c operation)

/-- Derived edges are attached alike on canvases that follow a schema and then have the same nodes
of the same sizes. -/
theorem derivedEdges_sync_congr {c' : Canvas} (hmetrics : c'.metrics = c.metrics)
    (hnodes : (c'.sync schema).nodes = (c.sync schema).nodes) :
    (c'.sync schema).derivedEdges = (c.sync schema).derivedEdges := by
  have hattach : (c'.follow schema).attach = (c.follow schema).attach :=
    attach_congr hnodes hmetrics
  rw [sync_eq, sync_eq, derivedEdges_route, derivedEdges_route, derivedEdges_follow,
    derivedEdges_follow, hattach]

/-! ## A fresh canvas with saved positions -/

/-- A fresh canvas sets all the positions of a layout aside. -/
theorem seed_new (settings : CanvasSettings) {l : Layout} (h : l.Sorted) :
    (new settings).seed l = { new settings with seeds := l } := by
  have hfold (entries : List (String × Position)) (seeds : Layout) :
      entries.foldl (fun c entry => c.seedOne entry.1 entry.2) { new settings with seeds } =
        { new settings with
          seeds := entries.foldl (fun l entry => l.insert entry.1 entry.2) seeds } := by
    induction entries generalizing seeds with
    | nil => rfl
    | cons entry entries ih => exact ih (seeds.insert entry.1 entry.2)
  have hentries := hfold l.entries .empty
  rw [Layout.foldl_insert_entries h] at hentries
  unfold seed
  -- There are no edges that could be attached anew.
  exact congrArg route hentries

/-- On a canvas without nodes all positions that are set aside for tables are used. -/
theorem seeds_sync_of_forall (hnodes : c.nodes = [])
    (h : ∀ entry ∈ c.seeds.entries, ∃ t ∈ keepFirst Table.name schema.tables, t.name = entry.1) :
    (c.sync schema).seeds = .empty := by
  have hseeds : (c.sync schema).seeds = c.seeds.remove fun name =>
      (keepFirst Table.name schema.tables).any (·.name == name) && (c.node? name).isNone := rfl
  rw [hseeds]
  unfold Layout.remove
  refine congrArg Layout.mk (List.filter_eq_nil_iff.2 fun entry hentry => ?_)
  obtain ⟨t, ht, hname⟩ := h entry hentry
  have hany : (keepFirst Table.name schema.tables).any (·.name == entry.1) = true :=
    List.any_eq_true.2 ⟨t, ht, beq_iff_eq.2 hname⟩
  have hnone : (c.node? entry.1).isNone = true := by
    unfold node?
    rw [hnodes]
    rfl
  simp only [hany, hnone]
  exact Bool.false_ne_true

end Canvas

namespace Workspace

variable {w : Workspace}

/-! ## The canvas of a workspace -/

/-- Whatever is done with a workspace comes down to operations on its canvas, or on the new one of
its settings. -/
theorem exists_run_step (w : Workspace) (operation : Operation) :
    ∃ operations, (w.step operation).canvas = w.canvas.run operations ∨
      (w.step operation).canvas = (Canvas.new w.settings.canvas).run operations := by
  cases operation with
  | setText text => exact ⟨[.sync _], .inl rfl⟩
  | deleteNode id => exact ⟨[.sync _], .inl rfl⟩
  | connect sourceNode targetNode handles =>
    show ∃ operations, (w.connect sourceNode targetNode handles).2.canvas = _ ∨ _
    rcases connect_cases w sourceNode targetNode handles with heq | ⟨text, heq⟩ | ⟨-, heq⟩
    · rw [heq]
      exact ⟨[], .inl rfl⟩
    · rw [heq]
      exact ⟨[.connect sourceNode targetNode handles, .sync (Schema.parse text)], .inl rfl⟩
    · rw [heq]
      exact ⟨[.connect sourceNode targetNode handles], .inl rfl⟩
  | moveNode id position => exact ⟨[.moveNode id position], .inl rfl⟩
  | clickEdge id => exact ⟨[.clickEdge id], .inl rfl⟩
  | clickPane => exact ⟨[.clickPane], .inl rfl⟩
  | pressDelete focus => exact ⟨[.deleteSelected focus], .inl rfl⟩
  | importContent format content =>
    show ∃ operations, (w.importContent format content).2.canvas = _ ∨ _
    unfold Workspace.importContent
    split
    · next imported _ =>
      unfold Workspace.adopt
      cases imported.layout with
      | none => exact ⟨[.sync _], .inl rfl⟩
      | some layout => exact ⟨[.seed layout, .sync _], .inl rfl⟩
    · exact ⟨[], .inl rfl⟩
  | openShareLink url =>
    show ∃ operations, (w.openShareLink url).2.canvas = _ ∨ _
    unfold Workspace.openShareLink
    split
    · exact ⟨[.sync _], .inl rfl⟩
    · exact ⟨[], .inl rfl⟩
  | setProjectName name =>
    show ∃ operations, (w.setProjectName name).canvas = _ ∨ _
    unfold Workspace.setProjectName
    split <;> exact ⟨[], .inl rfl⟩
  | snapshot now => exact ⟨[], .inl rfl⟩
  | restore saved now => exact ⟨[.seed saved.layout, .sync _], .inr rfl⟩

/-- The canvas of a workspace is one that operations lead to from the new canvas of its settings. -/
theorem exists_run_canvas (settings : Settings) (text : String) (operations : List Operation) :
    let w := (withText settings text).run operations
    w.settings = settings ∧ ∃ steps, w.canvas = (Canvas.new settings.canvas).run steps := by
  have hrun {w : Workspace} (hsettings : w.settings = settings)
      (hcanvas : ∃ steps, w.canvas = (Canvas.new settings.canvas).run steps) :
      (w.run operations).settings = settings ∧
        ∃ steps, (w.run operations).canvas = (Canvas.new settings.canvas).run steps := by
    -- By induction on the operations; the steps of each one come behind those before.
    induction operations generalizing w with
    | nil => exact ⟨hsettings, hcanvas⟩
    | cons operation operations ih =>
      refine ih ((settings_step w operation).trans hsettings) ?_
      obtain ⟨before, hbefore⟩ := hcanvas
      obtain ⟨steps, hsteps | hsteps⟩ := exists_run_step w operation
      · refine ⟨before ++ steps, ?_⟩
        rw [hsteps, hbefore]
        exact List.foldl_append.symm
      · rw [hsettings] at hsteps
        exact ⟨steps, hsteps⟩
  exact hrun rfl ⟨[.sync (Schema.parse text)], rfl⟩

/-! ## Restoring -/

/-- What a workspace `w'` has of a workspace `w` if it was restored from what was saved of that. -/
structure Restored (w : Workspace) (saved : Snapshot) (w' : Workspace) : Prop
    extends SameDiagram w w' where
  /-- No edge is drawn by hand. -/
  drawn : ∀ e ∈ w'.canvas.edges, e.isManual = false
  /-- No edge is selected. -/
  selected : w'.canvas.selected = none
  /-- No position is set aside. -/
  seeds : w'.canvas.seeds = .empty
  /-- The derived edges are there and attached as if `w` had followed its schema once more. -/
  derived : w'.canvas.derivedEdges = (w.canvas.sync w.schema).derivedEdges
  /-- The same is saved of it at any later moment, but for that moment. -/
  saved : ∀ later, (w'.snapshot later).1 = { saved with updatedAt := some later }

/-- The positions that are saved are those of tables. -/
theorem exists_table_of_mem_layout (hw : InStep w) {entry : String × Position}
    (h : entry ∈ w.canvas.layout.entries) :
    ∃ t ∈ keepFirst Table.name w.schema.tables, t.name = entry.1 := by
  obtain ⟨n, hn, rfl⟩ := Canvas.exists_node_of_mem_layout h
  refine ⟨n.table, ?_, rfl⟩
  rw [keepFirst_eq_firsts, ← hw.shows.tables]
  exact List.mem_map_of_mem hn

/-- A workspace that is restored from what was saved of another one, whose nodes have the sizes that
its settings give them, has the diagram and the project of that. -/
theorem restored_restore (hw : InStep w) (hids : w.canvas.ids.Nodup) {other : Workspace}
    (hmetrics : (Canvas.new other.settings.canvas).metrics = w.canvas.metrics)
    (now opened : Instant) :
    Restored w (w.snapshot now).1 (other.restore (w.snapshot now).1 opened) := by
  let fresh := (Canvas.new other.settings.canvas).seed w.canvas.layout
  have hcanvas : (other.restore (w.snapshot now).1 opened).canvas = fresh.sync w.schema := by
    rw [hw.schema]
    rfl
  have hfresh : fresh = { Canvas.new other.settings.canvas with seeds := w.canvas.layout } :=
    Canvas.seed_new _ w.canvas.sorted_layout
  have hnodes : (fresh.sync w.schema).nodes = w.canvas.nodes :=
    Canvas.nodes_sync_seed_layout hids hw.shows _
  have hdrawn : (fresh.sync w.schema).serials = [] := by
    refine List.sublist_nil.1 ((fresh.serials_sync w.schema).trans ?_)
    rw [hfresh]
    exact List.Sublist.refl _
  constructor
  case toSameDiagram =>
    refine ⟨rfl, hw.schema.symm, ?_⟩
    rw [hcanvas, hnodes]
  case drawn =>
    rw [hcanvas]
    exact Canvas.serials_eq_nil_iff.1 hdrawn
  case selected =>
    rw [hcanvas, hfresh]
    rfl
  case seeds =>
    rw [hcanvas, hfresh]
    exact Canvas.seeds_sync_of_forall rfl fun entry hentry => exists_table_of_mem_layout hw hentry
  case derived =>
    rw [hcanvas]
    refine Canvas.derivedEdges_sync_congr ?_ (hnodes.trans (hw.shows.nodes_sync hids).symm)
    rw [hfresh]
    exact hmetrics
  case saved =>
    intro later
    have hlayout : (fresh.sync w.schema).layout = w.canvas.layout := by
      unfold Canvas.layout
      rw [hnodes]
    show Snapshot.mk _ _ _ (other.restore (w.snapshot now).1 opened).canvas.layout _ _ = _
    rw [hcanvas, hlayout]
    rfl

/-- What is saved of a workspace that operations lead to brings its diagram and its project back in
any other workspace with the same settings. -/
theorem restored_run (settings : Settings) (text : String) (operations : List Operation)
    {other : Workspace} (hsettings : other.settings = settings) (now opened : Instant) :
    let w := (withText settings text).run operations
    Restored w (w.snapshot now).1 (other.restore (w.snapshot now).1 opened) := by
  intro w
  have hreached := reached_run settings text operations
  obtain ⟨-, steps, hcanvas⟩ := exists_run_canvas settings text operations
  refine restored_restore hreached.inStep hreached.invariant.ids ?_ now opened
  rw [hsettings, hcanvas, Canvas.metrics_run]

/-- A text with two tables and a relationship between them. -/
def shopText : String :=
  "Table a \x7b\n  x int\n\x7d\nTable b \x7b\n  y int\n\x7d\nRef: a.x > b.y\n"

/-- A workspace with that text in which a node was moved, the edge of the relationship was deleted
and another one was drawn the other way, and whose project has a name. -/
def shop : Workspace :=
  (withText { propagateConnections := false } shopText).run
    [.moveNode "b" ⟨-20, 5⟩, .clickEdge (Edge.derivedId ⟨⟨"a", "x"⟩, ⟨"b", "y"⟩⟩),
      .pressDelete .canvas, .connect "b" "a" ⟨Handle.right.id "y", Handle.left.id "x"⟩,
      .clickEdge "manual-1", .setProjectName "shop"]

/-- A workspace with another diagram: an edge is drawn and selected in it, and positions are set
aside for both tables of the first one. -/
def occupied : Workspace :=
  (withText { propagateConnections := false } "").run
    [.restore
        { text := "Table c \x7b\n  z int\n\x7d\n"
          layout := ⟨[("a", ⟨1, 2⟩), ("b", ⟨3, 4⟩)]⟩ } ⟨0, 0, 0⟩,
      .connect "c" "c" ⟨Handle.right.id "z", Handle.left.id "z"⟩, .clickEdge "manual-1"]

/-- What was saved of the first workspace takes the place of all that the other one held. -/
theorem restored_occupied :
    let restored := occupied.restore (shop.snapshot ⟨7, 0, 0⟩).1 ⟨8, 0, 0⟩
    occupied.settings = { propagateConnections := false } ∧
      Restored shop (shop.snapshot ⟨7, 0, 0⟩).1 restored ∧
      shop.canvas.edges.map Edge.provenance = [.manual 1] ∧
      occupied.canvas.edges.map Edge.provenance = [.manual 1] ∧
      occupied.canvas.selected = some "manual-1" ∧
      occupied.canvas.seeds.entries.map Prod.fst = ["a", "b"] ∧
      (restored.canvas.nodes.map fun n => (n.id, n.position.x, n.position.y)) =
        [("a", 150, 80), ("b", -20, 5)] ∧
      restored.canvas.edges.map Edge.handles = [⟨"x-left-source", "y-right-target"⟩] ∧
      (restored.snapshot ⟨9, 0, 0⟩).1.name = some "shop" ∧
      (restored.snapshot ⟨9, 0, 0⟩).1.createdAt = some ⟨7, 0, 0⟩ := by
  have hsettings : occupied.settings = { propagateConnections := false } :=
    (exists_run_canvas _ _ _).1
  have hrestored := restored_run { propagateConnections := false } shopText
    [.moveNode "b" ⟨-20, 5⟩, .clickEdge (Edge.derivedId ⟨⟨"a", "x"⟩, ⟨"b", "y"⟩⟩),
      .pressDelete .canvas, .connect "b" "a" ⟨Handle.right.id "y", Handle.left.id "x"⟩,
      .clickEdge "manual-1", .setProjectName "shop"] hsettings ⟨7, 0, 0⟩ ⟨8, 0, 0⟩
  refine ⟨hsettings, hrestored, ?_, ?_, ?_, ?_, ?_, ?_, ?_, ?_⟩
  · decide +kernel
  · decide +kernel
  · decide +kernel
  · decide +kernel
  · decide +kernel
  · decide +kernel
  · decide +kernel
  · decide +kernel

end Workspace

end SchemaDiagram
