import SchemaDiagram.Proofs.Diagram.Handle
import SchemaDiagram.Proofs.Diagram.KeepFirst
import SchemaDiagram.Proofs.Diagram.Layout
import SchemaDiagram.Proofs.Schema.Basic

/-!
# What holds of every canvas

Whatever is done with a canvas, its lists stay `Coherent` (`Coherent.run`), and so does its
`Invariant` if the relationships of the schemas that it follows lead between columns that have names
(`Invariant.run`). An operation either follows a schema or is a `Change`, which says all that the
others can do, so that each statement is shown for these and for following a schema. Most of the
invariant does not depend on how edges are attached: `Consistent.route` adds the handles where all
edges are attached anew. The other operations keep the nodes, and with them the handles of the edges
that stay (`Invariant.of_edges`).
-/

namespace SchemaDiagram

/-- The serial number of an edge drawn by hand. -/
def Edge.serial? (e : Edge) : Option Nat :=
  match e.provenance with
  | .derived _ => none
  | .manual serial => some serial

/-- A derived edge has no serial number. -/
theorem Edge.serial?_of_derived {e : Edge} (h : e.isManual = false) : e.serial? = none := by
  obtain ⟨endpoints, handles, provenance⟩ := e
  cases provenance with
  | derived cardinality => rfl
  | manual serial => cases h

/-- A derived edge is known by the columns that it connects. -/
theorem Edge.id_of_derived {e : Edge} (h : e.isManual = false) :
    e.id = Edge.derivedId e.endpoints := by
  obtain ⟨endpoints, handles, provenance⟩ := e
  cases provenance with
  | derived cardinality => rfl
  | manual serial => cases h

/-- Serial numbers can be told from the identifiers that are made of them. -/
theorem Edge.manualId_injective : Function.Injective Edge.manualId := by
  intro m n h
  have htext := congrArg String.toList h
  unfold Edge.manualId at htext
  rw [String.toList_append, String.toList_append, List.append_cancel_left_eq, String.toList_ofList,
    String.toList_ofList] at htext
  have hdigits : Nat.toDigits 10 m = Nat.toDigits 10 n := htext
  calc m = Nat.ofDigitChars 10 (Nat.toDigits 10 m) 0 := Nat.ofDigitChars_ten_toDigits.symm
    _ = Nat.ofDigitChars 10 (Nat.toDigits 10 n) 0 := by rw [hdigits]
    _ = n := Nat.ofDigitChars_ten_toDigits

/-- A derived edge never has the identifier of one drawn by hand. -/
theorem Edge.derivedId_ne_manualId (e : Endpoints) (n : Nat) : derivedId e ≠ manualId n := by
  intro h
  have htext := congrArg String.toList h
  unfold derivedId manualId at htext
  rw [String.toList_append, String.toList_append] at htext
  have hhead : 'r' = 'm' := (List.cons.inj htext).1
  exact absurd hhead (by decide)

/-- An edge that has the identifier of a serial number has that serial number. -/
theorem Edge.serial?_of_id {e : Edge} {n : Nat} (h : e.id = manualId n) : e.serial? = some n := by
  obtain ⟨endpoints, handles, provenance⟩ := e
  cases provenance with
  | derived cardinality => exact absurd h (derivedId_ne_manualId endpoints n)
  | manual serial => exact congrArg some (manualId_injective h)

namespace Canvas

/-- The names of the nodes. -/
def ids (c : Canvas) : List String :=
  c.nodes.map Node.id

/-- The edges that come from relationships. -/
def derivedEdges (c : Canvas) : List Edge :=
  c.edges.filter (!·.isManual)

/-- The serial numbers of the edges drawn by hand. -/
def serials (c : Canvas) : List Nat :=
  c.edges.filterMap Edge.serial?

/-- What holds of the lists of a canvas, whichever schemas it follows and however its edges are
attached. -/
structure Coherent (c : Canvas) : Prop where
  /-- No two nodes have the same name. -/
  ids : c.ids.Nodup
  /-- Positions are only set aside for nodes that are not there. -/
  seeds : ∀ entry ∈ c.seeds.entries, entry.1 ∉ c.ids
  /-- No two derived edges connect the same columns. -/
  derived : (c.derivedEdges.map Edge.endpoints).Nodup
  /-- No two edges drawn by hand have the same serial number. -/
  serials : c.serials.Nodup
  /-- The serial numbers come before the next one. -/
  serials_lt : ∀ n ∈ c.serials, n < c.nextSerial
  /-- The tables of an edge drawn by hand are on the canvas. -/
  tables : ∀ e ∈ c.edges, e.isManual = true →
    e.endpoints.source.table ∈ c.ids ∧ e.endpoints.target.table ∈ c.ids
  /-- Behind an edge drawn by hand there is no derived one. -/
  order : c.edges.Pairwise fun a b => a.isManual = true → b.isManual = true
  /-- The selection is an edge. -/
  selected : ∀ id ∈ c.selected, ∃ e ∈ c.edges, e.id = id

/-- What holds of the lists of a canvas that follows schemas whose columns have names. -/
structure Consistent (c : Canvas) : Prop extends Coherent c where
  /-- Edges connect columns that have names. -/
  columns : ∀ e ∈ c.edges, e.endpoints.source.column ≠ "" ∧ e.endpoints.target.column ≠ ""

/-- What holds of every canvas. -/
structure Invariant (c : Canvas) : Prop extends Consistent c where
  /-- Every edge is attached to its columns. -/
  fit : ∀ e ∈ c.edges, e.handles.Fit e.endpoints
  /-- A derived edge between two nodes is attached where these face each other. -/
  between : ∀ e ∈ c.derivedEdges, ∀ source target,
    c.node? e.endpoints.source.table = some source →
      c.node? e.endpoints.target.table = some target →
        e.handles = .resolve (c.metrics.nodeBox source) (c.metrics.nodeBox target)
          c.metrics.nodeWidth e.endpoints
  /-- Any other derived edge has the standard handles. -/
  apart : ∀ e ∈ c.derivedEdges,
    e.endpoints.source.table ∉ c.ids ∨ e.endpoints.target.table ∉ c.ids →
      e.handles = .standard e.endpoints

/-- The canvas with an edge drawn by hand. -/
def draw (c : Canvas) (e : Endpoints) (handles : Handles) : Canvas :=
  { c with
    edges := c.edges ++ [⟨e, handles, .manual c.nextSerial⟩]
    nextSerial := c.nextSerial + 1 }

variable {c : Canvas}

/-! ## Nodes and their names -/

/-- There is a node of a name if the name is that of a node. -/
theorem isSome_node?_iff {id : String} : (c.node? id).isSome = true ↔ id ∈ c.ids := by
  unfold node? ids
  rw [List.find?_isSome, List.mem_map]
  simp only [beq_iff_eq]

/-- Without a node of a name there is none to find. -/
theorem node?_eq_none_iff {id : String} : c.node? id = none ↔ id ∉ c.ids := by
  rw [← isSome_node?_iff, Option.not_isSome_iff_eq_none]

/-- A node that is found has the name that was looked for. -/
theorem mem_of_node? {id : String} {n : Node} (h : c.node? id = some n) :
    n ∈ c.nodes ∧ n.id = id := by
  unfold node? at h
  have hid := List.find?_some h
  exact ⟨List.mem_of_find?_eq_some h, beq_iff_eq.1 hid⟩

/-- A node is the one that is found under its name. -/
theorem node?_of_mem (hids : c.ids.Nodup) {n : Node} (hn : n ∈ c.nodes) : c.node? n.id = some n := by
  have hsome : (c.node? n.id).isSome = true := isSome_node?_iff.2 (List.mem_map_of_mem hn)
  obtain ⟨m, hm⟩ := Option.isSome_iff_exists.1 hsome
  obtain ⟨hmem, hid⟩ := mem_of_node? hm
  rw [hm, List.inj_on_of_nodup_map hids hmem hn hid]

/-- The handles for an edge between two nodes. -/
theorem handles_of_some {e : Endpoints} {source target : Node}
    (hsource : c.node? e.source.table = some source)
    (htarget : c.node? e.target.table = some target) :
    c.handles e = .resolve (c.metrics.nodeBox source) (c.metrics.nodeBox target)
      c.metrics.nodeWidth e := by
  unfold handles
  rw [hsource, htarget]

/-- The handles for an edge one of whose tables is not on the canvas. -/
theorem handles_of_not_mem {e : Endpoints}
    (h : e.source.table ∉ c.ids ∨ e.target.table ∉ c.ids) : c.handles e = .standard e := by
  unfold handles
  rcases h with h | h
  · rw [node?_eq_none_iff.2 h]
  · rw [node?_eq_none_iff.2 h]
    cases c.node? e.source.table <;> rfl

/-- The handles for an edge fit it. -/
theorem fit_handles {e : Endpoints} (hsource : e.source.column ≠ "")
    (htarget : e.target.column ≠ "") : (c.handles e).Fit e := by
  unfold handles
  split
  · exact Handles.fit_resolve _ _ _ hsource htarget
  · exact Handles.fit_standard hsource htarget

/-! ## Attaching edges -/

/-- The edge attached anew. -/
def attach (c : Canvas) (e : Edge) : Edge :=
  { e with handles := c.handles e.endpoints }

/-- Attaching edges anew keeps which of them are derived. -/
theorem derivedEdges_route (c : Canvas) : c.route.derivedEdges = c.derivedEdges.map c.attach := by
  show (c.edges.map c.attach).filter _ = _
  rw [List.filter_map]
  rfl

/-- Attaching edges anew keeps their serial numbers. -/
theorem serials_route (c : Canvas) : c.route.serials = c.serials := by
  show (c.edges.map c.attach).filterMap Edge.serial? = _
  rw [List.filterMap_map]
  rfl

/-- The lists stay coherent when edges are attached anew. -/
theorem Coherent.route (h : Coherent c) : Coherent c.route := by
  constructor
  case ids => exact h.ids
  case seeds => exact h.seeds
  case derived =>
    rw [derivedEdges_route, List.map_map]
    exact h.derived
  case serials =>
    rw [serials_route]
    exact h.serials
  case serials_lt =>
    rw [serials_route]
    exact h.serials_lt
  case tables =>
    intro e he hmanual
    obtain ⟨a, ha, rfl⟩ := List.mem_map.1 he
    exact h.tables a ha hmanual
  case order => exact List.pairwise_map.2 h.order
  case selected =>
    intro id hid
    obtain ⟨a, ha, rfl⟩ := h.selected id hid
    exact ⟨c.attach a, List.mem_map_of_mem ha, rfl⟩

/-- A canvas whose lists are consistent satisfies the invariant once its edges are attached anew. -/
theorem Consistent.route (h : Consistent c) : Invariant c.route := by
  have hedge {e : Edge} (he : e ∈ c.route.edges) : ∃ a ∈ c.edges, c.attach a = e :=
    List.mem_map.1 he
  have hderived {e : Edge} (he : e ∈ c.route.derivedEdges) : e.handles = c.handles e.endpoints := by
    rw [derivedEdges_route] at he
    obtain ⟨a, -, rfl⟩ := List.mem_map.1 he
    rfl
  have hconsistent : Consistent c.route := by
    refine { h.toCoherent.route with columns := fun e he => ?_ }
    obtain ⟨a, ha, rfl⟩ := hedge he
    exact h.columns a ha
  refine ⟨hconsistent, fun e he => ?_, fun e he source target hsource htarget => ?_,
    fun e he hnot => ?_⟩
  · obtain ⟨a, ha, rfl⟩ := hedge he
    exact fit_handles (h.columns a ha).1 (h.columns a ha).2
  · rw [hderived he]
    exact handles_of_some hsource htarget
  · rw [hderived he]
    exact handles_of_not_mem hnot

/-- The invariant holds on if the nodes stay and there are no edges but old ones and ones that are
drawn by hand and fit. -/
theorem Invariant.of_edges {c' : Canvas} (h : Invariant c) (hc : Consistent c')
    (hnodes : c'.nodes = c.nodes) (hmetrics : c'.metrics = c.metrics)
    (hedges : ∀ e ∈ c'.edges, e ∈ c.edges ∨ (e.isManual = true ∧ e.handles.Fit e.endpoints)) :
    Invariant c' := by
  have hnode (id : String) : c'.node? id = c.node? id := by
    unfold node?
    rw [hnodes]
  have hids : c'.ids = c.ids := by
    unfold ids
    rw [hnodes]
  -- A derived edge is an old one, and its nodes are where they were.
  have hderived {e : Edge} (he : e ∈ c'.derivedEdges) : e ∈ c.derivedEdges := by
    obtain ⟨hmem, hnot⟩ := List.mem_filter.1 he
    refine List.mem_filter.2 ⟨(hedges e hmem).resolve_right fun hmanual => ?_, hnot⟩
    rw [hmanual.1] at hnot
    cases hnot
  refine ⟨hc, fun e he => ?_, fun e he source target hsource htarget => ?_, fun e he hnot => ?_⟩
  · rcases hedges e he with hold | hnew
    · exact h.fit e hold
    · exact hnew.2
  · rw [hnode] at hsource htarget
    rw [hmetrics]
    exact h.between e (hderived he) source target hsource htarget
  · rw [hids] at hnot
    exact h.apart e (hderived he) hnot

/-! ## The new canvas -/

/-- The lists of the new canvas are coherent. -/
theorem coherent_new (settings : CanvasSettings) : Coherent (new settings) := by
  constructor
  case ids => exact List.nodup_nil
  case seeds =>
    intro entry hentry
    cases hentry
  case derived => exact List.nodup_nil
  case serials => exact List.nodup_nil
  case serials_lt =>
    intro n hn
    cases hn
  case tables =>
    intro e he
    cases he
  case order => exact List.Pairwise.nil
  case selected =>
    intro id hid
    cases hid

/-- The invariant holds of the new canvas. -/
theorem invariant_new (settings : CanvasSettings) : Invariant (new settings) := by
  have hnone {P : Edge → Prop} : ∀ e ∈ (new settings).edges, P e := by
    intro e he
    cases he
  exact ⟨⟨coherent_new settings, hnone⟩, hnone, fun e he => (List.not_mem_nil he).elim,
    fun e he => (List.not_mem_nil he).elim⟩

/-! ## Following the schema -/

/-- The nodes for tables have their names. -/
theorem map_id_nodesFor (c : Canvas) (tables : List Table) :
    (c.nodesFor tables).map Node.id = tables.map Table.name := by
  unfold nodesFor
  refine List.ext_getElem? fun i => ?_
  rw [List.getElem?_map, List.getElem?_mapIdx, List.getElem?_map, Option.map_map]
  rfl

/-- The node that a canvas has for a table that it already shows. -/
def nodeFor (c : Canvas) (t : Table) : Node :=
  ⟨t.name, c.positionFor 0 t.name, t.columns⟩

/-- Tables that are already on the canvas keep their places, wherever they stand among the others. -/
theorem nodesFor_eq_map {tables : List Table} (h : ∀ t ∈ tables, t.name ∈ c.ids) :
    c.nodesFor tables = tables.map c.nodeFor := by
  unfold nodesFor
  refine List.ext_getElem (by simp) fun i hi hi' => ?_
  have hlt : i < tables.length := by simpa using hi'
  have hname := h tables[i] (List.getElem_mem hlt)
  rw [List.getElem_mapIdx, List.getElem_map]
  unfold nodeFor positionFor
  obtain ⟨n, hn⟩ := Option.isSome_iff_exists.1 (isSome_node?_iff.2 hname)
  rw [hn]

/-- An edge drawn by hand that stays was there, and it leads between two of the tables. -/
theorem of_staysWith {tables : List Table} {derived : List Edge} {e : Edge}
    (h : staysWith tables derived e = true) :
    e.isManual = true ∧ e.endpoints.source.table ∈ tables.map Table.name ∧
      e.endpoints.target.table ∈ tables.map Table.name := by
  unfold staysWith at h
  simp only [Bool.and_eq_true, List.any_eq_true, beq_iff_eq] at h
  obtain ⟨⟨⟨hmanual, -⟩, hsource⟩, htarget⟩ := h
  exact ⟨hmanual, List.mem_map.2 hsource, List.mem_map.2 htarget⟩

/-- The derived edges of a canvas that follows a schema, before they are attached. -/
def derivedFor (schema : Schema) : List Edge :=
  (keepFirst Relationship.endpoints schema.relationships).map Edge.ofRelationship

/-- The edges drawn by hand that stay on a canvas that follows a schema. -/
def drawnFor (c : Canvas) (schema : Schema) : List Edge :=
  c.edges.filter (staysWith (keepFirst Table.name schema.tables) (derivedFor schema))

/-- The canvas that follows a schema, before its edges are attached. -/
def follow (c : Canvas) (schema : Schema) : Canvas :=
  let tables := keepFirst Table.name schema.tables
  let edges := derivedFor schema ++ c.drawnFor schema
  { c with
    nodes := c.nodesFor tables
    edges
    selected := c.selected.filter fun id => edges.any (·.id == id)
    seeds := c.seeds.remove fun name =>
      tables.any (·.name == name) && (c.node? name).isNone }

/-- A canvas follows a schema and then has its edges attached. -/
theorem sync_eq (c : Canvas) (schema : Schema) : c.sync schema = (c.follow schema).route := rfl

variable {schema : Schema}

/-- The edges that follow from relationships are derived. -/
theorem isManual_of_mem_derivedFor {e : Edge} (h : e ∈ derivedFor schema) : e.isManual = false := by
  obtain ⟨r, -, rfl⟩ := List.mem_map.1 h
  rfl

/-- The edges drawn by hand that stay were there, and lead between tables of the schema. -/
theorem of_mem_drawnFor {e : Edge} (h : e ∈ c.drawnFor schema) :
    e ∈ c.edges ∧ e.isManual = true ∧ e.endpoints.source.table ∈ (c.follow schema).ids ∧
      e.endpoints.target.table ∈ (c.follow schema).ids := by
  obtain ⟨hmem, hstays⟩ := List.mem_filter.1 h
  have hids : (c.follow schema).ids = (keepFirst Table.name schema.tables).map Table.name :=
    map_id_nodesFor c _
  rw [hids]
  exact ⟨hmem, of_staysWith hstays⟩

/-- The derived edges of a canvas that follows a schema are those of its relationships. -/
theorem derivedEdges_follow (c : Canvas) (schema : Schema) :
    (c.follow schema).derivedEdges = derivedFor schema := by
  have hderived : (derivedFor schema).filter (!·.isManual) = derivedFor schema := by
    rw [List.filter_eq_self]
    intro e he
    rw [isManual_of_mem_derivedFor he]
    rfl
  have hdrawn : (c.drawnFor schema).filter (!·.isManual) = [] := by
    rw [List.filter_eq_nil_iff]
    intro e he
    rw [(of_mem_drawnFor he).2.1]
    exact Bool.false_ne_true
  show (derivedFor schema ++ c.drawnFor schema).filter _ = _
  rw [List.filter_append, hderived, hdrawn, List.append_nil]

/-- Following a schema brings in no serial numbers. -/
theorem serials_follow (c : Canvas) (schema : Schema) :
    (c.follow schema).serials.Sublist c.serials := by
  have hderived : (derivedFor schema).filterMap Edge.serial? = [] := by
    rw [List.filterMap_eq_nil_iff]
    exact fun e he => Edge.serial?_of_derived (isManual_of_mem_derivedFor he)
  show ((derivedFor schema ++ c.drawnFor schema).filterMap Edge.serial?).Sublist _
  rw [List.filterMap_append, hderived, List.nil_append]
  exact List.filter_sublist.filterMap Edge.serial?

/-- No serial number comes onto a canvas that follows a schema. -/
theorem serials_sync (c : Canvas) (schema : Schema) :
    (c.sync schema).serials.Sublist c.serials := by
  rw [sync_eq, serials_route]
  exact serials_follow c schema

/-- Behind an edge drawn by hand there is no derived one on a canvas that follows a schema. -/
theorem order_follow (c : Canvas) (schema : Schema) :
    (c.follow schema).edges.Pairwise fun a b => a.isManual = true → b.isManual = true := by
  refine List.pairwise_append.2 ⟨?_, ?_, ?_⟩
  · refine List.pairwise_of_forall_mem_list fun a ha b _ hdrawn => ?_
    rw [isManual_of_mem_derivedFor ha] at hdrawn
    cases hdrawn
  · exact List.pairwise_of_forall_mem_list fun a _ b hb _ => (of_mem_drawnFor hb).2.1
  · exact fun a _ b hb _ => (of_mem_drawnFor hb).2.1

/-- A canvas that follows a schema has no positions set aside for its nodes. -/
theorem seeds_follow (hseeds : ∀ entry ∈ c.seeds.entries, entry.1 ∉ c.ids) :
    ∀ entry ∈ (c.follow schema).seeds.entries, entry.1 ∉ (c.follow schema).ids := by
  intro entry hentry hmem
  obtain ⟨hseed, hnew⟩ := List.mem_filter.1 hentry
  -- A position set aside for a table of the schema has been used up, unless the table was on the
  -- canvas before, and then no position was set aside for it.
  have hold : entry.1 ∈ c.ids := by
    have hname : entry.1 ∈ (keepFirst Table.name schema.tables).map Table.name :=
      map_id_nodesFor c _ ▸ hmem
    obtain ⟨t, ht, heq⟩ := List.mem_map.1 hname
    have hany : (keepFirst Table.name schema.tables).any (·.name == entry.1) = true :=
      List.any_eq_true.2 ⟨t, ht, beq_iff_eq.2 heq⟩
    rw [← isSome_node?_iff]
    simpa [hany, Option.isSome_iff_ne_none] using hnew
  exact hseeds entry hseed hold

/-- The lists stay coherent when the canvas follows a schema. -/
theorem Coherent.follow (h : Coherent c) (schema : Schema) : Coherent (c.follow schema) := by
  have hserials := serials_follow c schema
  constructor
  case ids =>
    show ((c.nodesFor (keepFirst Table.name schema.tables)).map Node.id).Nodup
    rw [map_id_nodesFor]
    exact nodup_map_keepFirst schema.tables
  case seeds => exact seeds_follow h.seeds
  case derived =>
    rw [derivedEdges_follow, derivedFor, List.map_map]
    exact nodup_map_keepFirst schema.relationships
  case serials => exact h.serials.sublist hserials
  case serials_lt => exact fun n hn => h.serials_lt n (hserials.subset hn)
  case tables =>
    intro e he hdrawn
    rcases List.mem_append.1 he with he | he
    · rw [isManual_of_mem_derivedFor he] at hdrawn
      cases hdrawn
    · exact (of_mem_drawnFor he).2.2
  case order => exact order_follow c schema
  case selected =>
    intro id hid
    obtain ⟨-, hany⟩ := Option.mem_filter_iff.1 hid
    obtain ⟨e, he, heq⟩ := List.any_eq_true.1 hany
    exact ⟨e, he, beq_iff_eq.1 heq⟩

/-- The invariant holds on when the canvas follows a schema whose columns have names. -/
theorem Invariant.sync (h : Invariant c)
    (hcolumns : ∀ r ∈ schema.relationships,
      r.endpoints.source.column ≠ "" ∧ r.endpoints.target.column ≠ "") :
    Invariant (c.sync schema) := by
  rw [sync_eq]
  -- Edges are attached last, so the handles need not be followed.
  apply Consistent.route
  refine { h.toCoherent.follow schema with columns := fun e he => ?_ }
  rcases List.mem_append.1 he with he | he
  · obtain ⟨r, hr, rfl⟩ := List.mem_map.1 he
    exact hcolumns r ((sublist_keepFirst _).subset hr)
  · exact h.columns e (of_mem_drawnFor he).1

/-! ## Positions -/

/-- Placing a node keeps the names of the nodes. -/
theorem ids_place (c : Canvas) (id : String) (p : Position) : (c.place id p).ids = c.ids := by
  have hid (n : Node) : Node.id { n with position := p } = Node.id n := rfl
  exact map_updateFirst hid c.nodes

/-- The lists stay coherent when a node is placed. -/
theorem Coherent.place (h : Coherent c) (id : String) (p : Position) :
    Coherent (c.place id p) := by
  have hids := ids_place c id p
  constructor
  case ids =>
    rw [hids]
    exact h.ids
  case seeds =>
    rw [hids]
    exact h.seeds
  case derived => exact h.derived
  case serials => exact h.serials
  case serials_lt => exact h.serials_lt
  case tables =>
    rw [hids]
    exact h.tables
  case order => exact h.order
  case selected => exact h.selected

/-- The lists stay coherent when a position is given to a name. -/
theorem Coherent.seedOne (h : Coherent c) (id : String) (p : Position) :
    Coherent (c.seedOne id p) := by
  unfold Canvas.seedOne
  split_ifs with hnode
  · exact h.place id p
  · refine { h with seeds := fun entry hentry => ?_ }
    rcases Layout.mem_insertEntry hentry with rfl | hold
    · exact fun hmem => hnode (isSome_node?_iff.2 hmem)
    · exact h.seeds entry hold

/-- A position that is given to a name leaves the edges as they are. -/
theorem edges_seedOne (c : Canvas) (id : String) (p : Position) :
    (c.seedOne id p).edges = c.edges := by
  unfold seedOne
  split <;> rfl

/-- The lists stay consistent when a position is given to a name. -/
theorem Consistent.seedOne (h : Consistent c) (id : String) (p : Position) :
    Consistent (c.seedOne id p) := by
  refine { h.toCoherent.seedOne id p with columns := ?_ }
  rw [edges_seedOne]
  exact h.columns

/-- What holds on when a position is given to a name holds on when the canvas takes the positions of
a layout, up to the edges that are attached anew then. -/
theorem seed_induction {P : Canvas → Prop} (hone : ∀ c id p, P c → P (c.seedOne id p)) (h : P c)
    (l : Layout) : P (l.entries.foldl (fun c (id, p) => c.seedOne id p) c) := by
  induction l.entries generalizing c with
  | nil => exact h
  | cons entry entries ih => exact ih (hone c entry.1 entry.2 h)

/-- The lists stay coherent when the canvas takes the positions of a layout. -/
theorem Coherent.seed (h : Coherent c) (l : Layout) : Coherent (c.seed l) :=
  (seed_induction (fun c id p (hc : Coherent c) => hc.seedOne id p) h l).route

/-- The invariant holds on when the canvas takes the positions of a layout. -/
theorem Invariant.seed (h : Invariant c) (l : Layout) : Invariant (c.seed l) := by
  have hseeded := seed_induction (fun c id p (hc : Consistent c) => hc.seedOne id p) h.toConsistent l
  -- Only after the last position are the edges attached anew.
  exact hseeded.route

/-! ## Edges -/

/-- The lists stay coherent when edges are taken away and none stays selected. -/
theorem Coherent.of_sublist (h : Coherent c) {edges : List Edge}
    (hsub : edges.Sublist c.edges) : Coherent { c with edges, selected := none } := by
  have hserials : (edges.filterMap Edge.serial?).Sublist c.serials := hsub.filterMap Edge.serial?
  constructor
  case ids => exact h.ids
  case seeds => exact h.seeds
  case derived => exact h.derived.sublist ((hsub.filter _).map Edge.endpoints)
  case serials => exact h.serials.sublist hserials
  case serials_lt => exact fun n hn => h.serials_lt n (hserials.subset hn)
  case tables => exact fun e he => h.tables e (hsub.subset he)
  case order => exact h.order.sublist hsub
  case selected =>
    intro id hid
    cases hid

/-- A connection that is not refused leads from handle to handle between two nodes. -/
theorem endpoints?_eq_some {sourceNode targetNode : String} {handles : Handles} {e : Endpoints}
    (h : c.endpoints? sourceNode targetNode handles = some e) :
    handles.Fit e ∧ e.source.table ∈ c.ids ∧ e.target.table ∈ c.ids := by
  -- A column is one of a node.
  have hnode {r : ColumnRef} (hcolumn : c.hasColumn r = true) : r.table ∈ c.ids := by
    rw [← isSome_node?_iff]
    unfold hasColumn at hcolumn
    cases hfind : c.node? r.table with
    | none =>
      rw [hfind] at hcolumn
      cases hcolumn
    | some n => rfl
  unfold endpoints? at h
  split at h
  · next sourceColumn sourceKind targetColumn targetKind hsource htarget =>
    simp only [Option.ite_none_right_eq_some, Bool.and_eq_true, Bool.not_eq_true',
      Option.some.injEq] at h
    obtain ⟨⟨⟨⟨hgoes, hcomes⟩, hfrom⟩, hto⟩, rfl⟩ := h
    exact ⟨⟨⟨sourceKind, hsource, hgoes⟩, ⟨targetKind, htarget, hcomes⟩⟩, hnode hfrom, hnode hto⟩
  · cases h

/-- An edge drawn by hand at the end is not one of the derived edges. -/
theorem derivedEdges_concat (c : Canvas) {e : Edge} (hmanual : e.isManual = true) :
    (c.edges ++ [e]).filter (!·.isManual) = c.derivedEdges := by
  have hlast : [e].filter (!·.isManual) = [] := by
    simp [hmanual]
  rw [List.filter_append, hlast, List.append_nil]
  rfl

/-- An edge drawn by hand at the end brings in its serial number. -/
theorem serials_concat (c : Canvas) {e : Edge} {n : Nat} (hserial : e.provenance = .manual n) :
    (c.edges ++ [e]).filterMap Edge.serial? = c.serials ++ [n] := by
  have hlast : [e].filterMap Edge.serial? = [n] := by
    simp [Edge.serial?, hserial]
  rw [List.filterMap_append, hlast]
  rfl

/-- The next serial number is that of no edge. -/
theorem Coherent.nextSerial_notMem (h : Coherent c) : c.nextSerial ∉ c.serials :=
  fun hn => absurd (h.serials_lt _ hn) (Nat.lt_irrefl _)

/-- The lists stay coherent when an edge is drawn between two nodes. -/
theorem Coherent.draw (h : Coherent c) {e : Endpoints} (hsource : e.source.table ∈ c.ids)
    (htarget : e.target.table ∈ c.ids) (handles : Handles) : Coherent (c.draw e handles) := by
  -- The new edge is the last one, and the only one with the next serial number.
  have hmem {a : Edge} (ha : a ∈ (c.draw e handles).edges) :
      a ∈ c.edges ∨ a = ⟨e, handles, .manual c.nextSerial⟩ := by
    simpa [Canvas.draw] using ha
  have hserials : (c.draw e handles).serials = c.serials ++ [c.nextSerial] :=
    serials_concat c rfl
  have hderived : (c.draw e handles).derivedEdges = c.derivedEdges := derivedEdges_concat c rfl
  constructor
  case ids => exact h.ids
  case seeds => exact h.seeds
  case derived =>
    rw [hderived]
    exact h.derived
  case serials =>
    rw [hserials, List.nodup_append_comm, List.singleton_append, List.nodup_cons]
    exact ⟨h.nextSerial_notMem, h.serials⟩
  case serials_lt =>
    intro n hn
    show n < c.nextSerial + 1
    rw [hserials, List.mem_append, List.mem_singleton] at hn
    rcases hn with hold | rfl
    · exact Nat.lt_succ_of_lt (h.serials_lt n hold)
    · exact Nat.lt_succ_self _
  case tables =>
    intro a ha hdrawn
    rcases hmem ha with hold | rfl
    · exact h.tables a hold hdrawn
    · exact ⟨hsource, htarget⟩
  case order =>
    refine List.pairwise_append.2 ⟨h.order, List.pairwise_singleton _ _, fun a _ b hb _ => ?_⟩
    rw [List.mem_singleton.1 hb]
    rfl
  case selected =>
    intro id hid
    obtain ⟨a, ha, heq⟩ := h.selected id hid
    exact ⟨a, List.mem_append_left _ ha, heq⟩

/-- A drawn edge is found under its identifier, since no other edge has its serial number. -/
theorem Coherent.edge?_draw (h : Coherent c) (e : Endpoints) (handles : Handles) :
    (c.draw e handles).edge? (Edge.manualId c.nextSerial) =
      some ⟨e, handles, .manual c.nextSerial⟩ := by
  have hnone : c.edges.find? (·.id == Edge.manualId c.nextSerial) = none := by
    refine List.find?_eq_none.2 fun a ha hid => ?_
    exact h.nextSerial_notMem
      (List.mem_filterMap.2 ⟨a, ha, Edge.serial?_of_id (beq_iff_eq.1 hid)⟩)
  show (c.edges ++ [_]).find? _ = _
  rw [List.find?_append, hnone, Option.none_or]
  exact List.find?_cons_of_pos (beq_self_eq_true _)

/-! ## Changes -/

/-- What can become of a canvas unless it follows a schema. -/
inductive Change (c : Canvas) : Canvas → Prop where
  /-- Nothing changes. -/
  | same : Change c c
  /-- It takes the positions of a layout. -/
  | seed (l : Layout) : Change c (c.seed l)
  /-- A node is placed, and edges are attached anew. -/
  | place (id : String) (p : Position) : Change c (c.place id p).route
  /-- An edge is drawn from handle to handle between two nodes. -/
  | draw {e : Endpoints} {handles : Handles} (hfit : handles.Fit e)
      (hsource : e.source.table ∈ c.ids) (htarget : e.target.table ∈ c.ids) :
      Change c (c.draw e handles)
  /-- The selection changes, to an edge that is there. -/
  | select {selected : Option String} (h : ∀ id ∈ selected, ∃ e ∈ c.edges, e.id = id) :
      Change c { c with selected }
  /-- Edges are taken away, and none stays selected. -/
  | delete {edges : List Edge} (h : edges.Sublist c.edges) :
      Change c { c with edges, selected := none }

/-- A node may be moved. -/
theorem change_moveNode (c : Canvas) (id : String) (p : Position) :
    Change c (c.moveNode id p).2 := by
  unfold moveNode
  split_ifs
  · exact .place id p
  · exact .same

/-- A connection may be drawn. -/
theorem change_connect (c : Canvas) (sourceNode targetNode : String) (handles : Handles) :
    Change c (c.connect sourceNode targetNode handles).2 := by
  unfold connect
  split
  · exact .same
  · next e he =>
    obtain ⟨hfit, hsource, htarget⟩ := endpoints?_eq_some he
    exact .draw hfit hsource htarget

/-- An edge may be clicked. -/
theorem change_clickEdge (c : Canvas) (id : String) : Change c (c.clickEdge id).2 := by
  unfold clickEdge
  split_ifs with hselected hedge
  · refine .select fun i hi => ?_
    cases hi
  · obtain ⟨e, he, hid⟩ := List.find?_isSome.1 hedge
    refine .select fun i hi => ⟨e, he, ?_⟩
    rw [← Option.some.inj hi]
    exact beq_iff_eq.1 hid
  · exact .same

/-- The selection may be taken away. -/
theorem change_clickPane (c : Canvas) : Change c c.clickPane := by
  refine .select fun i hi => ?_
  cases hi

/-- The selected edge may be deleted. -/
theorem change_deleteSelected (c : Canvas) (focus : Focus) :
    Change c (c.deleteSelected focus).2 := by
  unfold deleteSelected
  split
  · exact .delete List.eraseP_sublist
  · exact .same

/-- The lists stay coherent through any change. -/
theorem Coherent.change {c' : Canvas} (h : Coherent c) (hchange : Change c c') : Coherent c' := by
  cases hchange with
  | same => exact h
  | seed l => exact h.seed l
  | place id p => exact (h.place id p).route
  | draw hfit hsource htarget => exact h.draw hsource htarget _
  | select hselected => exact { h with selected := hselected }
  | delete hsub => exact h.of_sublist hsub

/-- The invariant holds on through any change. -/
theorem Invariant.change {c' : Canvas} (h : Invariant c) (hchange : Change c c') :
    Invariant c' := by
  have hc := h.toCoherent.change hchange
  cases hchange with
  | same => exact h
  | seed l => exact h.seed l
  | place id p =>
    have hplaced : Consistent (c.place id p) := { h.toCoherent.place id p with columns := h.columns }
    exact hplaced.route
  | @draw e handles hfit hsource htarget =>
    -- The new edge is attached where it was drawn, so nothing is attached anew.
    have hmem {a : Edge} (ha : a ∈ (c.draw e handles).edges) :
        a ∈ c.edges ∨ a = ⟨e, handles, .manual c.nextSerial⟩ := by
      simpa [Canvas.draw] using ha
    refine h.of_edges { hc with columns := fun a ha => ?_ } rfl rfl fun a ha => ?_
    · rcases hmem ha with hold | rfl
      · exact h.columns a hold
      · exact hfit.columns_ne
    · rcases hmem ha with hold | rfl
      · exact .inl hold
      · exact .inr ⟨rfl, hfit⟩
  | select hselected =>
    exact h.of_edges { hc with columns := h.columns } rfl rfl fun _ he => .inl he
  | delete hsub =>
    exact h.of_edges { hc with columns := fun e he => h.columns e (hsub.subset he) } rfl rfl
      fun e he => .inl (hsub.subset he)

/-! ## Runs -/

/-- What can be done with a canvas. -/
inductive Operation where
  /-- It follows a schema. -/
  | sync (schema : Schema)
  /-- It takes the positions of a layout. -/
  | seed (layout : Layout)
  /-- A node is moved. -/
  | moveNode (id : String) (position : Position)
  /-- A connection is drawn. -/
  | connect (sourceNode targetNode : String) (handles : Handles)
  /-- An edge is clicked. -/
  | clickEdge (id : String)
  /-- The pane behind the nodes is clicked. -/
  | clickPane
  /-- The key that deletes is pressed. -/
  | deleteSelected (focus : Focus)

/-- In a schema that a canvas follows, relationships lead between columns that have names. -/
def Operation.Admissible : Operation → Prop
  | sync schema => ∀ r ∈ schema.relationships,
      r.endpoints.source.column ≠ "" ∧ r.endpoints.target.column ≠ ""
  | _ => True

/-- The canvas after an operation. -/
def step (c : Canvas) : Operation → Canvas
  | .sync schema => c.sync schema
  | .seed layout => c.seed layout
  | .moveNode id position => (c.moveNode id position).2
  | .connect sourceNode targetNode handles => (c.connect sourceNode targetNode handles).2
  | .clickEdge id => (c.clickEdge id).2
  | .clickPane => c.clickPane
  | .deleteSelected focus => (c.deleteSelected focus).2

/-- The canvas after one operation after another. -/
def run (c : Canvas) (operations : List Operation) : Canvas :=
  operations.foldl step c

/-- An operation is a change, unless the canvas follows a schema. -/
theorem change_step (c : Canvas) {operation : Operation} (h : ∀ schema, operation ≠ .sync schema) :
    Change c (c.step operation) := by
  cases operation with
  | sync schema => exact absurd rfl (h schema)
  | seed layout => exact .seed layout
  | moveNode id position => exact c.change_moveNode id position
  | connect sourceNode targetNode handles => exact c.change_connect sourceNode targetNode handles
  | clickEdge id => exact c.change_clickEdge id
  | clickPane => exact c.change_clickPane
  | deleteSelected focus => exact c.change_deleteSelected focus

/-- The lists stay coherent after any operation. -/
theorem Coherent.step (h : Coherent c) (operation : Operation) : Coherent (c.step operation) := by
  by_cases hsync : ∃ schema, operation = .sync schema
  · obtain ⟨schema, rfl⟩ := hsync
    exact (h.follow schema).route
  · exact h.change (change_step c (not_exists.1 hsync))

/-- The lists stay coherent through any operations. -/
theorem Coherent.run (h : Coherent c) (operations : List Operation) :
    Coherent (c.run operations) := by
  -- By induction on the operations, from any canvas whose lists are coherent.
  induction operations generalizing c with
  | nil => exact h
  | cons operation operations ih => exact ih (h.step operation)

/-- The lists of every canvas that operations lead to are coherent. -/
theorem coherent_run (settings : CanvasSettings) (operations : List Operation) :
    Coherent ((new settings).run operations) :=
  (coherent_new settings).run operations

/-- The invariant holds on after any operation. -/
theorem Invariant.step (h : Invariant c) {operation : Operation} (hop : operation.Admissible) :
    Invariant (c.step operation) := by
  by_cases hsync : ∃ schema, operation = .sync schema
  · obtain ⟨schema, rfl⟩ := hsync
    exact h.sync hop
  · exact h.change (change_step c (not_exists.1 hsync))

/-- The invariant holds on through any operations. -/
theorem Invariant.run (h : Invariant c) {operations : List Operation}
    (hops : ∀ operation ∈ operations, operation.Admissible) : Invariant (c.run operations) := by
  -- By induction on the operations, from any canvas of which the invariant holds.
  induction operations generalizing c with
  | nil => exact h
  | cons operation operations ih =>
    have hstep := h.step (hops operation List.mem_cons_self)
    exact ih hstep fun next hnext => hops next (List.mem_cons_of_mem _ hnext)

/-- The invariant holds of every canvas that operations lead to. -/
theorem invariant_run (settings : CanvasSettings) {operations : List Operation}
    (hops : ∀ operation ∈ operations, operation.Admissible) :
    Invariant ((new settings).run operations) :=
  (invariant_new settings).run hops

/-- A connection is drawn and clicked before the schema declares it as a relationship. -/
def drawnBeforeDeclared : List Operation :=
  let tables : List Table := [⟨"a", [{ name := "x-left", type := "int" }]⟩,
    ⟨"b", [{ name := "y", type := "int" }]⟩, ⟨"a", []⟩]
  let handles : Handles := ⟨Handle.right.id "x-left", Handle.left.id "y"⟩
  [.seed ⟨[("b", ⟨0, 0⟩), ("c", ⟨0, 0⟩)]⟩, .sync ⟨tables, []⟩, .connect "a" "b" handles,
    .clickEdge "manual-1", .connect "b" "a" ⟨Handle.right.id "y", Handle.left.id "x-left"⟩,
    .sync ⟨tables, [⟨⟨⟨"a", "x-left"⟩, ⟨"b", "y"⟩⟩, .oneToMany⟩]⟩]

/-- The drawn edge gives way to the derived one, and with it the selection; the other edge stays. -/
theorem invariant_drawnBeforeDeclared :
    Invariant ((new {}).run drawnBeforeDeclared) ∧
      ((new {}).run drawnBeforeDeclared).ids = ["a", "b"] ∧
      ((new {}).run drawnBeforeDeclared).edges.map Edge.provenance =
        [.derived .oneToMany, .manual 2] ∧
      ((new {}).run drawnBeforeDeclared).selected = none ∧
      ((new {}).run drawnBeforeDeclared).seeds.entries.map Prod.fst = ["c"] := by
  have hops : ∀ operation ∈ drawnBeforeDeclared, operation.Admissible := by
    intro operation hmem
    simp only [drawnBeforeDeclared, List.mem_cons, List.not_mem_nil, or_false] at hmem
    rcases hmem with rfl | rfl | rfl | rfl | rfl | rfl
    · trivial
    · simp [Operation.Admissible]
    · trivial
    · trivial
    · trivial
    · simp [Operation.Admissible]
  refine ⟨invariant_run {} hops, ?_, ?_, ?_, ?_⟩
  · decide +kernel
  · decide +kernel
  · decide +kernel
  · decide +kernel

end Canvas

end SchemaDiagram
