import SchemaDiagram.Proofs.Diagram.Layout
import SchemaDiagram.Proofs.Diagram.Shown

/-!
# Bringing a canvas in line with a schema

What a canvas has after it was brought in line with a schema: its tables and relationships come from
the schema alone, and only positions, drawn edges and the selection come from the canvas that it was
before. `Reconciled` says which, and `Canvas.reconciled_sync` that it is so for every canvas whose
nodes have different names, which those are that operations lead to (`Canvas.coherent_run`).

Doing it twice is no different from doing it once (`Canvas.sync_sync`): the nodes are found where
they are, no position set aside is for one of them, the drawn edges that stay go on doing so, and
edges are attached where they were.
-/

namespace SchemaDiagram

/-- What is drawn by hand with an edge: its serial number and the columns that it connects. -/
def Edge.drawing? (e : Edge) : Option (Nat × Endpoints) :=
  e.serial?.map (·, e.endpoints)

namespace Canvas

/-- What is drawn by hand on a canvas. -/
def drawings (c : Canvas) : List (Nat × Endpoints) :=
  c.edges.filterMap Edge.drawing?

/-- What a canvas `c'` that was brought in line with a schema has from the schema, and what from the
canvas `c` that it was before. -/
structure Reconciled (c : Canvas) (schema : Schema) (c' : Canvas) : Prop where
  /-- It stays as it is when it is brought in line with the schema again. -/
  again : c'.sync schema = c'
  /-- The nodes show the first table of each name, in the order of the schema. -/
  tables : c'.shownTables = firsts Table.name schema.tables
  /-- The derived edges show the first relationship between any two columns, in that order. -/
  relationships : c'.shownRelationships = firsts Relationship.endpoints schema.relationships
  /-- Any other canvas that is brought in line with the schema shows the same. -/
  agrees : ∀ other : Canvas, (other.sync schema).shownTables = c'.shownTables ∧
    (other.sync schema).shownRelationships = c'.shownRelationships
  /-- A node that was there is where it was. -/
  stays : ∀ n ∈ c.nodes, ∀ n' ∈ c'.nodes, n'.id = n.id → n'.position = n.position
  /-- A new node has the position that was set aside for it. -/
  seeded : ∀ n' ∈ c'.nodes, n'.id ∉ c.ids → ∀ p, c.seeds.find? n'.id = some p → n'.position = p
  /-- Any other new node has the place of its index on the grid. -/
  onGrid : ∀ index n', c'.nodes[index]? = some n' → n'.id ∉ c.ids → c.seeds.find? n'.id = none →
    n'.position = c.grid.gridPosition index
  /-- No position is set aside any more for a new node. -/
  used : ∀ n' ∈ c'.nodes, n'.id ∉ c.ids → c'.seeds.find? n'.id = none
  /-- What is set aside for other names stays. -/
  unused : ∀ name, (name ∈ c'.ids → name ∈ c.ids) → c'.seeds.find? name = c.seeds.find? name
  /-- Drawn edges stay if their tables are on the canvas and no relationship connects their
  columns. -/
  drawings : c'.drawings = c.drawings.filter fun drawing =>
    drawing.2.source.table ∈ c'.ids ∧ drawing.2.target.table ∈ c'.ids ∧
      drawing.2 ∉ c'.shownRelationships.map Relationship.endpoints
  /-- The selection stays if there is still an edge of that identifier, and there is no other. -/
  selected : ∀ id, c'.selected = some id ↔ c.selected = some id ∧ ∃ e ∈ c'.edges, e.id = id
  /-- The next serial number is the same. -/
  nextSerial : c'.nextSerial = c.nextSerial

variable {c : Canvas} {schema : Schema}

/-! ## Nodes -/

/-- The nodes of a canvas that follows a schema have the names of its tables. -/
theorem ids_sync (c : Canvas) (schema : Schema) :
    (c.sync schema).ids = (keepFirst Table.name schema.tables).map Table.name :=
  map_id_nodesFor c _

/-- No two nodes of a canvas that follows a schema have the same name. -/
theorem nodup_ids_sync (c : Canvas) (schema : Schema) : (c.sync schema).ids.Nodup := by
  rw [ids_sync]
  exact nodup_map_keepFirst schema.tables

/-- The node of a given index on a canvas that follows a schema is where that index puts it. -/
theorem position_sync {index : Nat} {n : Node} (h : (c.sync schema).nodes[index]? = some n) :
    n.position = c.positionFor index n.id := by
  have hnodes : (c.sync schema).nodes = c.nodesFor (keepFirst Table.name schema.tables) := rfl
  rw [hnodes, nodesFor, List.getElem?_mapIdx, Option.map_eq_some_iff] at h
  obtain ⟨t, -, rfl⟩ := h
  rfl

/-- The position for a node that is there is its own. -/
theorem positionFor_of_mem (hids : c.ids.Nodup) {n : Node} (hn : n ∈ c.nodes) (index : Nat) :
    c.positionFor index n.id = n.position := by
  unfold positionFor
  rw [node?_of_mem hids hn]

/-- The position for a node that is not there is the one set aside for it, or else on the grid. -/
theorem positionFor_of_not_mem {name : String} (h : name ∉ c.ids) (index : Nat) :
    c.positionFor index name = (c.seeds.find? name).getD (c.grid.gridPosition index) := by
  unfold positionFor
  rw [node?_eq_none_iff.2 h]

/-- Nothing is set aside any more for nodes that are new on a canvas that follows a schema, and only
for those. -/
theorem find?_seeds_sync (c : Canvas) (schema : Schema) (name : String) :
    (c.sync schema).seeds.find? name =
      if name ∈ (c.sync schema).ids ∧ name ∉ c.ids then none else c.seeds.find? name := by
  have hnew : ((keepFirst Table.name schema.tables).any (·.name == name) &&
      (c.node? name).isNone) = true ↔ name ∈ (c.sync schema).ids ∧ name ∉ c.ids := by
    rw [ids_sync, Bool.and_eq_true, List.any_eq_true, Option.isNone_iff_eq_none, node?_eq_none_iff,
      List.mem_map]
    simp only [beq_iff_eq]
  have hseeds : (c.sync schema).seeds = c.seeds.remove fun name =>
      (keepFirst Table.name schema.tables).any (·.name == name) && (c.node? name).isNone := rfl
  rw [hseeds, Layout.find?_remove]
  exact if_congr hnew rfl rfl

/-! ## Drawn edges -/

/-- Nothing is drawn by hand with a derived edge. -/
theorem drawing?_of_derived {e : Edge} (h : e.isManual = false) : e.drawing? = none := by
  unfold Edge.drawing?
  rw [Edge.serial?_of_derived h]
  rfl

/-- With an edge drawn by hand its columns are drawn. -/
theorem exists_drawing?_of_manual {e : Edge} (h : e.isManual = true) :
    ∃ n, e.drawing? = some (n, e.endpoints) := by
  obtain ⟨endpoints, handles, provenance⟩ := e
  cases provenance with
  | derived cardinality => cases h
  | manual serial => exact ⟨serial, rfl⟩

/-- A drawn edge stays when its tables are on the canvas and no relationship connects its
columns. -/
theorem staysWith_iff (c : Canvas) (schema : Schema) {e : Edge} (h : e.isManual = true) :
    staysWith (keepFirst Table.name schema.tables) (derivedFor schema) e = true ↔
      e.endpoints.source.table ∈ (c.sync schema).ids ∧
        e.endpoints.target.table ∈ (c.sync schema).ids ∧
        e.endpoints ∉ (c.sync schema).shownRelationships.map Relationship.endpoints := by
  have hderived : (derivedFor schema).any (·.endpoints == e.endpoints) = true ↔
      e.endpoints ∈ (c.sync schema).shownRelationships.map Relationship.endpoints := by
    rw [shownRelationships_sync, ← keepFirst_eq_firsts, derivedFor, List.any_map, List.any_eq_true,
      List.mem_map]
    simp only [Function.comp_apply, beq_iff_eq]
    rfl
  have htable (name : String) :
      (keepFirst Table.name schema.tables).any (·.name == name) = true ↔
        name ∈ (c.sync schema).ids := by
    rw [ids_sync, List.any_eq_true, List.mem_map]
    simp only [beq_iff_eq]
  unfold staysWith
  rw [h, Bool.true_and, Bool.and_eq_true, Bool.and_eq_true, Bool.not_eq_true', htable, htable,
    ← Bool.not_eq_true, hderived]
  tauto

/-- What is drawn on a canvas that follows a schema was drawn before. -/
theorem drawings_sync (c : Canvas) (schema : Schema) :
    (c.sync schema).drawings = c.drawings.filter fun drawing =>
      drawing.2.source.table ∈ (c.sync schema).ids ∧ drawing.2.target.table ∈ (c.sync schema).ids ∧
        drawing.2 ∉ (c.sync schema).shownRelationships.map Relationship.endpoints := by
  have hderived : (derivedFor schema).filterMap Edge.drawing? = [] := by
    rw [List.filterMap_eq_nil_iff]
    exact fun e he => drawing?_of_derived (isManual_of_mem_derivedFor he)
  have hattached : (c.sync schema).drawings = (c.drawnFor schema).filterMap Edge.drawing? := by
    show ((derivedFor schema ++ c.drawnFor schema).map _).filterMap Edge.drawing? = _
    rw [List.filterMap_map, List.filterMap_append]
    exact congrArg (· ++ (c.drawnFor schema).filterMap Edge.drawing?) hderived
  rw [hattached, drawnFor, drawings, List.filterMap_filter, List.filter_filterMap]
  refine List.filterMap_congr fun e _ => ?_
  cases hmanual : e.isManual with
  | false => simp [drawing?_of_derived hmanual]
  | true =>
    obtain ⟨n, hn⟩ := exists_drawing?_of_manual hmanual
    have hstays := staysWith_iff c schema hmanual
    rw [hn, Option.filter_some]
    by_cases h : staysWith (keepFirst Table.name schema.tables) (derivedFor schema) e = true
    · rw [if_pos h, if_pos (decide_eq_true (hstays.1 h))]
    · rw [if_neg h, if_neg (by simpa using fun h' => h (hstays.2 h'))]

/-! ## Doing it again -/

/-- A canvas that shows a schema keeps its nodes when it follows it. -/
theorem Shows.nodes_sync (h : c.Shows schema) (hids : c.ids.Nodup) :
    (c.sync schema).nodes = c.nodes := by
  have htables : keepFirst Table.name schema.tables = c.shownTables := by
    rw [keepFirst_eq_firsts, h.tables]
  have hnames : ∀ t ∈ c.shownTables, t.name ∈ c.ids := by
    intro t ht
    obtain ⟨n, hn, rfl⟩ := List.mem_map.1 ht
    exact List.mem_map_of_mem hn
  show c.nodesFor (keepFirst Table.name schema.tables) = _
  rw [htables, nodesFor_eq_map hnames, map_nodeFor_shownTables hids]

/-- A canvas that follows a schema keeps its nodes when it follows the schema again. -/
theorem nodes_sync_sync (c : Canvas) (schema : Schema) :
    ((c.sync schema).sync schema).nodes = (c.sync schema).nodes :=
  (shows_sync c schema).nodes_sync (nodup_ids_sync c schema)

/-- Edges are attached by the nodes and their sizes. -/
theorem attach_congr {c' : Canvas} (hnodes : c'.nodes = c.nodes)
    (hmetrics : c'.metrics = c.metrics) : c'.attach = c.attach := by
  have hnode (id : String) : c'.node? id = c.node? id := by
    unfold node?
    rw [hnodes]
  funext e
  unfold attach handles
  rw [hnode, hnode, hmetrics]

/-- The drawn edges that stay go on staying. -/
theorem drawnFor_sync (c : Canvas) (schema : Schema) :
    (c.sync schema).drawnFor schema = (c.drawnFor schema).map (c.follow schema).attach := by
  have hderived : (derivedFor schema).filter
      (staysWith (keepFirst Table.name schema.tables) (derivedFor schema)) = [] := by
    rw [List.filter_eq_nil_iff]
    intro e he hstays
    obtain ⟨hmanual, -⟩ := of_staysWith hstays
    rw [isManual_of_mem_derivedFor he] at hmanual
    cases hmanual
  have hdrawn : (c.drawnFor schema).filter
      (staysWith (keepFirst Table.name schema.tables) (derivedFor schema)) = c.drawnFor schema :=
    List.filter_eq_self.2 fun e he => (List.mem_filter.1 he).2
  -- Whether an edge stays does not depend on how it is attached.
  show ((derivedFor schema ++ c.drawnFor schema).map (c.follow schema).attach).filter _ = _
  rw [List.filter_map]
  show ((derivedFor schema ++ c.drawnFor schema).filter
    (staysWith (keepFirst Table.name schema.tables) (derivedFor schema))).map _ = _
  rw [List.filter_append, hderived, hdrawn, List.nil_append]

/-- A canvas that follows a schema keeps its edges when it follows the schema again. -/
theorem edges_sync_sync (c : Canvas) (schema : Schema) :
    ((c.sync schema).sync schema).edges = (c.sync schema).edges := by
  have hattach : ((c.sync schema).follow schema).attach = (c.follow schema).attach :=
    attach_congr (nodes_sync_sync c schema) rfl
  have htwice (edges : List Edge) : (edges.map (c.follow schema).attach).map
      (c.follow schema).attach = edges.map (c.follow schema).attach := by
    rw [List.map_map]
    rfl
  show (derivedFor schema ++ (c.sync schema).drawnFor schema).map
      ((c.sync schema).follow schema).attach =
    (derivedFor schema ++ c.drawnFor schema).map (c.follow schema).attach
  rw [hattach, drawnFor_sync, List.map_append, List.map_append, htwice]

/-- The selection of a canvas that follows a schema is that of an edge. -/
theorem selected_sync_eq_some_iff (c : Canvas) (schema : Schema) (id : String) :
    (c.sync schema).selected = some id ↔
      c.selected = some id ∧ ∃ e ∈ (c.sync schema).edges, e.id = id := by
  have hedges : (∃ e ∈ (c.sync schema).edges, e.id = id) ↔
      (derivedFor schema ++ c.drawnFor schema).any (·.id == id) = true := by
    rw [List.any_eq_true]
    simp only [beq_iff_eq]
    -- The edges are attached anew, which does not change their identifiers.
    constructor
    · rintro ⟨e, he, rfl⟩
      obtain ⟨a, ha, rfl⟩ := List.mem_map.1 he
      exact ⟨a, ha, rfl⟩
    · rintro ⟨a, ha, rfl⟩
      exact ⟨(c.follow schema).attach a, List.mem_map_of_mem ha, rfl⟩
  have hselected : (c.sync schema).selected = c.selected.filter fun id =>
      (derivedFor schema ++ c.drawnFor schema).any (·.id == id) := rfl
  rw [hselected, hedges, Option.filter_eq_some_iff]

/-- A canvas that follows a schema keeps its selection when it follows the schema again. -/
theorem selected_sync_sync (c : Canvas) (schema : Schema) :
    ((c.sync schema).sync schema).selected = (c.sync schema).selected := by
  refine Option.ext fun id => ?_
  rw [selected_sync_eq_some_iff, edges_sync_sync]
  exact and_iff_left_of_imp fun h => ((selected_sync_eq_some_iff c schema id).1 h).2

/-- A canvas that follows a schema has nothing more to take from what is set aside. -/
theorem seeds_sync_sync (c : Canvas) (schema : Schema) :
    ((c.sync schema).sync schema).seeds = (c.sync schema).seeds := by
  have hseeds : ((c.sync schema).sync schema).seeds =
      (c.sync schema).seeds.remove fun name =>
        (keepFirst Table.name schema.tables).any (·.name == name) &&
          ((c.sync schema).node? name).isNone := rfl
  rw [hseeds]
  refine Layout.remove_of_forall fun name => ?_
  rw [Bool.and_eq_false_imp, List.any_eq_true]
  rintro ⟨t, ht, heq⟩
  have hmem : name ∈ (c.sync schema).ids := by
    rw [ids_sync, ← beq_iff_eq.1 heq]
    exact List.mem_map_of_mem ht
  rw [← Option.not_isSome, isSome_node?_iff.2 hmem]
  rfl

/-- Bringing a canvas in line with a schema twice is no different from doing it once. -/
theorem sync_sync (c : Canvas) (schema : Schema) :
    (c.sync schema).sync schema = c.sync schema := by
  have hnodes := nodes_sync_sync c schema
  have hedges := edges_sync_sync c schema
  have hselected := selected_sync_sync c schema
  have hseeds := seeds_sync_sync c schema
  calc (c.sync schema).sync schema
      = ⟨((c.sync schema).sync schema).nodes, ((c.sync schema).sync schema).edges,
          ((c.sync schema).sync schema).selected, c.nextSerial,
          ((c.sync schema).sync schema).seeds, c.grid, c.metrics⟩ := rfl
    _ = ⟨(c.sync schema).nodes, (c.sync schema).edges, (c.sync schema).selected, c.nextSerial,
          (c.sync schema).seeds, c.grid, c.metrics⟩ := by
        rw [hnodes, hedges, hselected, hseeds]
    _ = c.sync schema := rfl

/-! ## All together -/

/-- What a canvas that was brought in line with a schema has from the schema, and what from the
canvas that it was before, if no two nodes of that had the same name. -/
theorem reconciled_sync (hids : c.ids.Nodup) (schema : Schema) :
    Reconciled c schema (c.sync schema) := by
  have hposition {n' : Node} (hn' : n' ∈ (c.sync schema).nodes) :
      ∃ index, n'.position = c.positionFor index n'.id := by
    obtain ⟨index, hindex⟩ := List.mem_iff_getElem?.1 hn'
    exact ⟨index, position_sync hindex⟩
  constructor
  case again => exact sync_sync c schema
  case tables => exact shownTables_sync c schema
  case relationships => exact shownRelationships_sync c schema
  case agrees =>
    intro other
    rw [shownTables_sync, shownTables_sync, shownRelationships_sync, shownRelationships_sync]
    exact ⟨rfl, rfl⟩
  case stays =>
    intro n hn n' hn' hid
    obtain ⟨index, hindex⟩ := hposition hn'
    rw [hindex, hid, positionFor_of_mem hids hn]
  case seeded =>
    intro n' hn' hnew p hp
    obtain ⟨index, hindex⟩ := hposition hn'
    rw [hindex, positionFor_of_not_mem hnew, hp, Option.getD_some]
  case onGrid =>
    intro index n' hindex hnew hnone
    rw [position_sync hindex, positionFor_of_not_mem hnew, hnone, Option.getD_none]
  case used =>
    intro n' hn' hnew
    rw [find?_seeds_sync, if_pos ⟨List.mem_map_of_mem hn', hnew⟩]
  case unused =>
    intro name hold
    rw [find?_seeds_sync, if_neg fun h => h.2 (hold h.1)]
  case drawings => exact drawings_sync c schema
  case selected => exact selected_sync_eq_some_iff c schema
  case nextSerial => rfl

/-- What every canvas that operations lead to has after it was brought in line with a schema. -/
theorem reconciled_run (settings : CanvasSettings) (operations : List Operation)
    (schema : Schema) :
    Reconciled ((new settings).run operations) schema
      (((new settings).run operations).sync schema) :=
  reconciled_sync (coherent_run settings operations).ids schema

/-- Two tables change places, one that was not there before comes first, and one of the two edges
that were drawn is declared as a relationship. -/
def rearranged : Schema where
  tables := [⟨"c", []⟩, ⟨"b", [{ name := "y", type := "int" }]⟩, ⟨"d", []⟩,
    ⟨"a", [{ name := "x", type := "int" }]⟩, ⟨"b", []⟩]
  relationships := [⟨⟨⟨"a", "x"⟩, ⟨"b", "y"⟩⟩, .manyToOne⟩]

/-- Two edges are drawn between tables that change places afterwards. -/
def drawnBothWays : List Operation :=
  let handles (source target : String) : Handles := ⟨Handle.right.id source, Handle.left.id target⟩
  [.seed ⟨[("b", ⟨1, 2⟩), ("d", ⟨3, 4⟩), ("e", ⟨5, 6⟩)]⟩,
    .sync ⟨[⟨"a", [{ name := "x", type := "int" }]⟩, ⟨"b", [{ name := "y", type := "int" }]⟩], []⟩,
    .connect "a" "b" (handles "x" "y"), .connect "b" "a" (handles "y" "x"), .clickEdge "manual-2"]

/-- The tables come in the new order, one edge stays with the selection, and of the positions that
were set aside the one that no table has asked for is left. -/
theorem reconciled_rearranged :
    Reconciled ((new {}).run drawnBothWays) rearranged
        (((new {}).run drawnBothWays).sync rearranged) ∧
      (((new {}).run drawnBothWays).sync rearranged).ids = ["c", "b", "d", "a"] ∧
      (((new {}).run drawnBothWays).sync rearranged).edges.map Edge.provenance =
        [.derived .manyToOne, .manual 2] ∧
      (((new {}).run drawnBothWays).sync rearranged).selected = some "manual-2" ∧
      (((new {}).run drawnBothWays).sync rearranged).seeds.entries.map Prod.fst = ["e"] := by
  refine ⟨reconciled_run {} drawnBothWays rearranged, ?_, ?_, ?_, ?_⟩
  · decide +kernel
  · decide +kernel
  · decide +kernel
  · decide +kernel

end Canvas

end SchemaDiagram
