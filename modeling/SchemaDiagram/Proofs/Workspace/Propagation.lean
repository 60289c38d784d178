import SchemaDiagram.Proofs.Schema.Append
import SchemaDiagram.Proofs.Workspace

/-!
# Connections that become references

A workspace keeps the settings it began with. If they say that connections are written into the
text, a drawn edge lands there as the last reference, and the edge derived from it takes its place,
so that no edge on the canvas is ever one drawn by hand (`Workspace.reached_run`). That the
reference is read back needs two things: the text before it takes nothing of its line, and its four
names are identifiers, since the columns that a connection leads between were read from the text.
Otherwise a drawn edge stays on the canvas, with a serial number that no other edge has, and text
and schema stay as they are. `Workspace.connect_run` states both.
-/

namespace SchemaDiagram

/-- The node with its first column of the given name flagged as a foreign key. -/
def Node.markForeignKey (n : Node) (column : String) : Node :=
  { n with columns := (n.table.markForeignKey column).columns }

namespace Canvas

variable {c : Canvas} {schema : Schema}

/-! ## Drawn edges -/

/-- A drawn edge shows nothing of the schema. -/
theorem Shows.draw (h : c.Shows schema) (e : Endpoints) (handles : Handles) :
    (c.draw e handles).Shows schema := by
  have hnone : (c.draw e handles).shownRelationships = c.shownRelationships := by
    show (c.edges ++ [_]).filterMap Edge.relationship? = _
    rw [List.filterMap_append]
    exact List.append_nil _
  refine h.of_sublist rfl ?_
  rw [hnone]

/-- Without serial numbers on the canvas no edge is drawn by hand, and the other way round. -/
theorem serials_eq_nil_iff : c.serials = [] ↔ ∀ a ∈ c.edges, a.isManual = false := by
  unfold serials
  rw [List.filterMap_eq_nil_iff]
  refine forall₂_congr fun a _ => ?_
  obtain ⟨endpoints, handles, provenance⟩ := a
  cases provenance with
  | derived cardinality => exact iff_of_true rfl rfl
  | manual serial => exact iff_of_false (Option.some_ne_none serial) Bool.noConfusion

/-- No serial number comes onto a canvas that takes the positions of a layout. -/
theorem serials_seed (c : Canvas) (l : Layout) : (c.seed l).serials = c.serials := by
  have hone (c : Canvas) (id : String) (p : Position) : (c.seedOne id p).serials = c.serials := by
    unfold seedOne
    split <;> rfl
  unfold seed
  rw [serials_route]
  exact seed_induction (P := fun c' => c'.serials = c.serials)
    (fun c' id p h => (hone c' id p).trans h) rfl l

/-- Nor onto one on which a node is moved. -/
theorem serials_moveNode (c : Canvas) (id : String) (p : Position) :
    (c.moveNode id p).2.serials = c.serials := by
  unfold moveNode
  split
  · exact serials_route _
  · rfl

/-- Nor onto one on which an edge is clicked. -/
theorem serials_clickEdge (c : Canvas) (id : String) : (c.clickEdge id).2.serials = c.serials := by
  unfold clickEdge
  split_ifs <;> rfl

/-- Nor onto one from which an edge is deleted. -/
theorem serials_deleteSelected (c : Canvas) (focus : Focus) :
    (c.deleteSelected focus).2.serials.Sublist c.serials := by
  unfold deleteSelected
  split
  · exact List.eraseP_sublist.filterMap Edge.serial?
  · exact List.Sublist.refl _

/-! ## Connections that are not refused -/

/-- What a connection between two handles leads between. -/
structure Leads (sourceNode targetNode : String) (handles : Handles) (e : Endpoints) : Prop where
  /-- It starts at the one node. -/
  source : e.source.table = sourceNode
  /-- It leads to the other one. -/
  target : e.target.table = targetNode
  /-- It goes from handle to handle. -/
  fit : handles.Fit e

/-- A connection that is not refused leads between columns of the two nodes. -/
theorem leads_of_endpoints? {sourceNode targetNode : String} {handles : Handles} {e : Endpoints}
    (h : c.endpoints? sourceNode targetNode handles = some e) :
    Leads sourceNode targetNode handles e ∧ c.hasColumn e.source = true ∧
      c.hasColumn e.target = true := by
  obtain ⟨hfit, -, -⟩ := endpoints?_eq_some h
  unfold endpoints? at h
  split at h
  · simp only [Option.ite_none_right_eq_some, Bool.and_eq_true, Option.some.injEq] at h
    obtain ⟨⟨⟨-, hsource⟩, htarget⟩, rfl⟩ := h
    exact ⟨⟨rfl, rfl, hfit⟩, hsource, htarget⟩
  · cases h

/-- A column of a node of a canvas that shows a schema has a name from that schema. -/
theorem Shows.isIdentifier_of_hasColumn (hshows : c.Shows schema) (hnames : schema.IdentifierNames)
    {r : ColumnRef} (h : c.hasColumn r = true) :
    IsIdentifier r.table.toList ∧ IsIdentifier r.column.toList := by
  unfold hasColumn at h
  obtain ⟨n, hn, hcolumn⟩ := (Option.any_eq_true _ _).1 h
  obtain ⟨column, hmem, hname⟩ := List.any_eq_true.1 hcolumn
  obtain ⟨hnode, hid⟩ := mem_of_node? hn
  -- The node shows a table of the schema.
  have htable : n.table ∈ schema.tables := by
    have hshown : n.table ∈ c.shownTables := List.mem_map_of_mem hnode
    rw [hshows.tables] at hshown
    exact (sublist_firsts _).subset hshown
  obtain ⟨htableName, hcolumns⟩ := hnames.tables _ htable
  rw [← hid, ← beq_iff_eq.1 hname]
  exact ⟨htableName, hcolumns column hmem⟩

/-! ## A schema with one more relationship -/

/-- Each relationship of the schema has an edge on a canvas that follows it. -/
theorem exists_derived_of_mem {r : Relationship} (h : r ∈ schema.relationships) :
    ∃ a ∈ derivedFor schema, a.endpoints = r.endpoints := by
  have hkept : ∃ first ∈ keepFirst Relationship.endpoints schema.relationships,
      first.endpoints = r.endpoints := exists_mem_keepFirst h
  obtain ⟨first, hfirst, hkey⟩ := hkept
  exact ⟨.ofRelationship first, List.mem_map_of_mem hfirst, hkey⟩

/-- The edge of a relationship is found on a canvas that follows the schema. -/
theorem exists_edge_sync (c : Canvas) {r : Relationship} (h : r ∈ schema.relationships) :
    ∃ a ∈ (c.sync schema).edges, a.endpoints = r.endpoints ∧ a.isManual = false := by
  obtain ⟨a, ha, hendpoints⟩ := exists_derived_of_mem h
  have hderived : a.isManual = false := isManual_of_mem_derivedFor ha
  rw [sync_eq]
  exact ⟨(c.follow schema).attach a, List.mem_map_of_mem (List.mem_append_left _ ha), hendpoints,
    hderived⟩

/-- No drawn edge stays on a canvas that follows a schema if each connects the columns of one of its
relationships. -/
theorem isManual_sync (hdrawn : ∀ a ∈ c.edges, a.isManual = true →
      ∃ r ∈ schema.relationships, r.endpoints = a.endpoints) :
    ∀ a ∈ (c.sync schema).edges, a.isManual = false := by
  intro a ha
  rw [sync_eq] at ha
  obtain ⟨b, hb, rfl⟩ := List.mem_map.1 ha
  show b.isManual = false
  rcases List.mem_append.1 hb with hderived | hstays
  · exact isManual_of_mem_derivedFor hderived
  · -- A derived edge with the same endpoints would have taken its place.
    obtain ⟨hmem, hmanual, -, -⟩ := of_mem_drawnFor hstays
    obtain ⟨r, hr, hendpoints⟩ := hdrawn b hmem hmanual
    obtain ⟨d, hd, hsame⟩ := exists_derived_of_mem hr
    have hany : (derivedFor schema).any (·.endpoints == b.endpoints) = true :=
      List.any_eq_true.2 ⟨d, hd, beq_iff_eq.2 (hsame.trans hendpoints)⟩
    obtain ⟨-, hstay⟩ := List.mem_filter.1 hstays
    unfold staysWith at hstay
    rw [hany] at hstay
    simp at hstay

/-! ## Nodes whose columns are flagged -/

/-- When one more relationship starts at a column, the nodes stay and that column is flagged. -/
theorem nodes_sync_markForeignKey (hshows : c.Shows schema) (hids : c.ids.Nodup)
    (source : ColumnRef) (relationships : List Relationship) :
    (c.sync ⟨Schema.markForeignKey schema.tables source, relationships⟩).nodes =
      updateFirst (·.id == source.table) (·.markForeignKey source.column) c.nodes := by
  have hkept : keepFirst Table.name schema.tables = c.nodes.map Node.table := by
    rw [keepFirst_eq_firsts]
    exact hshows.tables.symm
  have hmark : keepFirst Table.name (Schema.markForeignKey schema.tables source) =
      updateFirst (·.name == source.table) (·.markForeignKey source.column)
        (c.nodes.map Node.table) := by
    have hname (t : Table) : (t.markForeignKey source.column).name = t.name := rfl
    rw [← hkept]
    exact keepFirst_updateFirst hname source.table schema.tables
  have hnames : ∀ t ∈ keepFirst Table.name (Schema.markForeignKey schema.tables source),
      t.name ∈ c.ids := by
    intro t ht
    have hmap : (keepFirst Table.name (Schema.markForeignKey schema.tables source)).map
        Table.name = c.ids := by
      have hname (t : Table) : (t.markForeignKey source.column).name = t.name := rfl
      rw [hmark, map_updateFirst hname, List.map_map]
      rfl
    rw [← hmap]
    exact List.mem_map_of_mem ht
  have hsame : (c.nodes.map Node.table).map c.nodeFor = c.nodes := map_nodeFor_shownTables hids
  calc (c.sync ⟨Schema.markForeignKey schema.tables source, relationships⟩).nodes
      = c.nodesFor (keepFirst Table.name (Schema.markForeignKey schema.tables source)) := rfl
    _ = (updateFirst (·.name == source.table) (·.markForeignKey source.column)
          (c.nodes.map Node.table)).map c.nodeFor := by
        rw [nodesFor_eq_map hnames, hmark]
    _ = updateFirst (·.id == source.table) (·.markForeignKey source.column)
          ((c.nodes.map Node.table).map c.nodeFor) := by
        have hid (t : Table) : ((c.nodeFor t).id == source.table) = (t.name == source.table) := rfl
        have hflag (t : Table) : (c.nodeFor t).markForeignKey source.column =
            c.nodeFor (t.markForeignKey source.column) := rfl
        exact (updateFirst_map (g := c.nodeFor) hid hflag _).symm
    _ = updateFirst (·.id == source.table) (·.markForeignKey source.column) c.nodes := by
        rw [hsame]

end Canvas

namespace Workspace

variable {w : Workspace}

/-! ## What holds in every run -/

/-- No operation changes the settings. -/
theorem settings_step (w : Workspace) (operation : Operation) :
    (w.step operation).settings = w.settings := by
  cases operation with
  | connect sourceNode targetNode handles =>
    show (w.connect sourceNode targetNode handles).2.settings = _
    rcases connect_cases w sourceNode targetNode handles with heq | ⟨text, heq⟩ | ⟨-, heq⟩
    · rw [heq]
    · rw [heq]
      rfl
    · rw [heq]
  | importContent format content =>
    show (w.importContent format content).2.settings = _
    unfold Workspace.importContent
    split <;> rfl
  | openShareLink url =>
    show (w.openShareLink url).2.settings = _
    unfold Workspace.openShareLink
    split <;> rfl
  | setProjectName name =>
    show (w.setProjectName name).settings = _
    unfold Workspace.setProjectName
    split <;> rfl
  | setText text => rfl
  | deleteNode id => rfl
  | moveNode id position => rfl
  | clickEdge id => rfl
  | clickPane => rfl
  | pressDelete focus => rfl
  | snapshot now => rfl
  | restore saved now => rfl

/-- Setting the text keeps the invariant of the canvas. -/
theorem invariant_setText (h : w.canvas.Invariant) (text : String) :
    (w.setText text).canvas.Invariant := by
  refine h.sync fun r hr => ?_
  -- The columns of a relationship that was read have names.
  have hsafe := (Schema.identifierNames_parse text).relationships r hr
  have hne {name : String} (hname : IsIdentifier name.toList) : name ≠ "" := by
    rintro rfl
    exact hname.1 rfl
  exact ⟨hne hsafe.sourceColumn, hne hsafe.targetColumn⟩

/-- A connection that is refused changes nothing. -/
theorem connect_of_none {sourceNode targetNode : String} {handles : Handles}
    (h : w.canvas.endpoints? sourceNode targetNode handles = none) :
    w.connect sourceNode targetNode handles = (none, w) := by
  unfold connect Canvas.connect
  rw [h]

/-- The workspace with an edge drawn by hand and then written into the text. -/
def landed (w : Workspace) (e : Endpoints) (handles : Handles) : Workspace :=
  { w with canvas := w.canvas.draw e handles }.setText
    (SchemaText.appendReference w.text (e.relationship .manyToOne))

/-- A connection that is not refused is drawn, and then written into the text if the settings say
so: the drawn edge is found there. -/
theorem connect_of_some (hw : w.canvas.Coherent) {sourceNode targetNode : String} {handles : Handles}
    {e : Endpoints} (h : w.canvas.endpoints? sourceNode targetNode handles = some e) :
    w.connect sourceNode targetNode handles =
      if w.settings.propagateConnections then
        (some (if ((w.landed e handles).canvas.edge? (Edge.derivedId e)).isSome then
          Edge.derivedId e else Edge.manualId w.canvas.nextSerial), w.landed e handles)
      else (some (Edge.manualId w.canvas.nextSerial),
        { w with canvas := w.canvas.draw e handles }) := by
  let drawn : Edge := ⟨e, handles, .manual w.canvas.nextSerial⟩
  have hdraw : w.canvas.connect sourceNode targetNode handles =
      (some drawn, w.canvas.draw e handles) := by
    unfold Canvas.connect
    rw [h]
    rfl
  have hfound : (w.canvas.draw e handles).edge? drawn.id = some drawn :=
    hw.edge?_draw e handles
  unfold connect
  rw [hdraw]
  dsimp only
  rw [hfound]
  rfl

/-- The invariant of the canvas holds on through any operation. -/
theorem invariant_step (h : w.canvas.Invariant) (operation : Operation) :
    (w.step operation).canvas.Invariant := by
  cases operation with
  | setText text => exact invariant_setText h text
  | deleteNode id => exact invariant_setText h _
  | connect sourceNode targetNode handles =>
    have hdrawn := h.change (w.canvas.change_connect sourceNode targetNode handles)
    show (w.connect sourceNode targetNode handles).2.canvas.Invariant
    rcases connect_cases w sourceNode targetNode handles with heq | ⟨text, heq⟩ | ⟨-, heq⟩
    · rw [heq]
      exact h
    · rw [heq]
      exact invariant_setText (w := { w with canvas := _ }) hdrawn text
    · rw [heq]
      exact hdrawn
  | moveNode id position => exact h.change (w.canvas.change_moveNode id position)
  | clickEdge id => exact h.change (w.canvas.change_clickEdge id)
  | clickPane => exact h.change w.canvas.change_clickPane
  | pressDelete focus => exact h.change (w.canvas.change_deleteSelected focus)
  | importContent format content =>
    show (w.importContent format content).2.canvas.Invariant
    unfold Workspace.importContent Workspace.adopt
    split
    · refine invariant_setText (w := { w with canvas := _ }) ?_ _
      split
      · exact h.seed _
      · exact h
    · exact h
  | openShareLink url =>
    show (w.openShareLink url).2.canvas.Invariant
    unfold Workspace.openShareLink
    split
    · exact invariant_setText h _
    · exact h
  | setProjectName name =>
    show (w.setProjectName name).canvas.Invariant
    unfold Workspace.setProjectName
    split <;> exact h
  | snapshot now => exact h
  | restore saved now =>
    have hnew := (Canvas.invariant_new w.settings.canvas).seed saved.layout
    exact invariant_setText (w := { w with canvas := _ }) hnew saved.text

/-! ## Where a connection lands -/

/-- What a connection that is written into the text leaves of a workspace. -/
structure Propagated (w : Workspace) (e : Endpoints) (w' : Workspace) : Prop where
  /-- The text has one more line at its end. -/
  text : w'.text = SchemaText.appendReference w.text (e.relationship .manyToOne)
  /-- The schema has one more relationship, with its foreign key flagged. -/
  schema : w'.schema = ⟨Schema.markForeignKey w.schema.tables e.source,
    w.schema.relationships ++ [e.relationship .manyToOne]⟩
  /-- The canvas has a derived edge of that identifier between these columns. -/
  edge : ∃ a ∈ w'.canvas.edges, a.endpoints = e ∧ a.isManual = false ∧ a.id = Edge.derivedId e
  /-- The nodes are where they were. -/
  places : w'.canvas.nodes.map (fun n => (n.id, n.position)) =
    w.canvas.nodes.map fun n => (n.id, n.position)
  /-- They show what they showed, and the foreign key. -/
  nodes : w'.canvas.nodes =
    updateFirst (·.id == e.source.table) (·.markForeignKey e.source.column) w.canvas.nodes

/-- A connection that is not refused has names that can be written. -/
theorem textSafe_of_endpoints? (h : InStep w) {sourceNode targetNode : String} {handles : Handles}
    {e : Endpoints} (he : w.canvas.endpoints? sourceNode targetNode handles = some e) :
    TextSafeRelationship (e.relationship .manyToOne) := by
  have hnames : w.schema.IdentifierNames := by
    rw [h.schema]
    exact Schema.identifierNames_parse w.text
  obtain ⟨-, hsource, htarget⟩ := Canvas.leads_of_endpoints? he
  obtain ⟨hsourceTable, hsourceColumn⟩ := h.shows.isIdentifier_of_hasColumn hnames hsource
  obtain ⟨htargetTable, htargetColumn⟩ := h.shows.isIdentifier_of_hasColumn hnames htarget
  exact ⟨hsourceTable, hsourceColumn, htargetTable, htargetColumn⟩

/-- The schema of a text with a line for a connection. -/
theorem schema_landed (h : InStep w) {e : Endpoints}
    (he : TextSafeRelationship (e.relationship .manyToOne)) (handles : Handles) :
    (w.landed e handles).schema = ⟨Schema.markForeignKey w.schema.tables e.source,
      w.schema.relationships ++ [e.relationship .manyToOne]⟩ := by
  show Schema.parse (SchemaText.appendReference w.text (e.relationship .manyToOne)) = _
  rw [Schema.parse_appendReference he, h.schema]
  rfl

/-- A connection that is written into the text lands there, and as a derived edge on the canvas. -/
theorem propagated_landed (h : InStep w) (hids : w.canvas.ids.Nodup) {e : Endpoints}
    (he : TextSafeRelationship (e.relationship .manyToOne)) (handles : Handles) :
    Propagated w e (w.landed e handles) := by
  have hschema := schema_landed h he handles
  have hmem : e.relationship .manyToOne ∈ (w.landed e handles).schema.relationships := by
    rw [hschema]
    exact List.mem_append_right _ (List.mem_singleton_self _)
  have hdrawn := h.shows.draw e handles
  have hnodes : (w.landed e handles).canvas.nodes =
      updateFirst (·.id == e.source.table) (·.markForeignKey e.source.column) w.canvas.nodes := by
    show ((w.canvas.draw e handles).sync (w.landed e handles).schema).nodes = _
    rw [hschema]
    exact Canvas.nodes_sync_markForeignKey hdrawn hids e.source _
  constructor
  case text => rfl
  case schema => exact hschema
  case edge =>
    obtain ⟨a, ha, hendpoints, hderived⟩ :=
      Canvas.exists_edge_sync (w.canvas.draw e handles) hmem
    refine ⟨a, ha, hendpoints, hderived, ?_⟩
    rw [Edge.id_of_derived hderived, hendpoints]
    rfl
  case places =>
    have hplace (n : Node) : ((n.markForeignKey e.source.column).id,
        (n.markForeignKey e.source.column).position) = (n.id, n.position) := rfl
    rw [hnodes, map_updateFirst hplace]
  case nodes => exact hnodes

/-- No drawn edge stays on the canvas when a connection has landed in the text. -/
theorem serials_landed (h : InStep w) (hnone : w.canvas.serials = []) {e : Endpoints}
    (he : TextSafeRelationship (e.relationship .manyToOne)) (handles : Handles) :
    (w.landed e handles).canvas.serials = [] := by
  have hmem : e.relationship .manyToOne ∈ (w.landed e handles).schema.relationships := by
    rw [schema_landed h he]
    exact List.mem_append_right _ (List.mem_singleton_self _)
  rw [Canvas.serials_eq_nil_iff] at hnone ⊢
  refine Canvas.isManual_sync (c := w.canvas.draw e handles) fun a ha hmanual => ?_
  -- The only drawn edge is the new one, and the text has its relationship now.
  rcases List.mem_append.1 ha with hold | hnew
  · rw [hnone a hold] at hmanual
    cases hmanual
  · obtain rfl := List.mem_singleton.1 hnew
    exact ⟨_, hmem, rfl⟩

/-- When connections are written into the text, no operation leaves a drawn edge on the canvas. -/
theorem serials_step (h : InStep w) (hw : w.canvas.Coherent)
    (hpropagate : w.settings.propagateConnections = true) (hnone : w.canvas.serials = [])
    (operation : Operation) :
    (w.step operation).canvas.serials = [] := by
  have hset {canvas : Canvas} (hcanvas : canvas.serials = []) (text : String) :
      ({ w with canvas }.setText text).canvas.serials = [] :=
    List.sublist_nil.1 (hcanvas ▸ canvas.serials_sync (Schema.parse text))
  cases operation with
  | setText text => exact hset hnone text
  | deleteNode id => exact hset hnone _
  | connect sourceNode targetNode handles =>
    show (w.connect sourceNode targetNode handles).2.canvas.serials = []
    cases he : w.canvas.endpoints? sourceNode targetNode handles with
    | none =>
      rw [connect_of_none he]
      exact hnone
    | some e =>
      rw [connect_of_some hw he, if_pos hpropagate]
      exact serials_landed h hnone (textSafe_of_endpoints? h he) handles
  | moveNode id position => exact (w.canvas.serials_moveNode id position).trans hnone
  | clickEdge id => exact (w.canvas.serials_clickEdge id).trans hnone
  | clickPane => exact hnone
  | pressDelete focus =>
    exact List.sublist_nil.1 (hnone ▸ w.canvas.serials_deleteSelected focus)
  | importContent format content =>
    show (w.importContent format content).2.canvas.serials = []
    unfold Workspace.importContent Workspace.adopt
    split
    · refine hset ?_ _
      split
      · exact (w.canvas.serials_seed _).trans hnone
      · exact hnone
    · exact hnone
  | openShareLink url =>
    show (w.openShareLink url).2.canvas.serials = []
    unfold Workspace.openShareLink
    split
    · exact hset hnone _
    · exact hnone
  | setProjectName name =>
    show (w.setProjectName name).canvas.serials = []
    unfold Workspace.setProjectName
    split <;> exact hnone
  | snapshot now => exact hnone
  | restore saved now =>
    have hnew : ((Canvas.new w.settings.canvas).seed saved.layout).serials = [] :=
      Canvas.serials_seed _ _
    exact hset hnew saved.text

/-- What holds of every workspace that operations lead to. -/
structure Reached (w : Workspace) : Prop where
  /-- Text, schema and canvas agree. -/
  inStep : InStep w
  /-- The invariant of the canvas holds. -/
  invariant : w.canvas.Invariant
  /-- No edge is drawn by hand if connections are written into the text. -/
  serials : w.settings.propagateConnections = true → w.canvas.serials = []

/-- A workspace that is reached leads to others that are. -/
theorem Reached.step (h : Reached w) (operation : Operation) : Reached (w.step operation) := by
  constructor
  · exact h.inStep.step operation
  · exact invariant_step h.invariant operation
  · intro hpropagate
    rw [settings_step] at hpropagate
    exact serials_step h.inStep h.invariant.toCoherent hpropagate (h.serials hpropagate) operation

/-- Every workspace that operations lead to is reached. -/
theorem reached_run (settings : Settings) (text : String) (operations : List Operation) :
    Reached ((withText settings text).run operations) := by
  have hstart : Reached (withText settings text) := by
    constructor
    · exact inStep_setText (blank settings) text
    · exact invariant_setText (w := blank settings) (Canvas.invariant_new settings.canvas) text
    · intro _
      exact List.sublist_nil.1 ((Canvas.new settings.canvas).serials_sync (Schema.parse text))
  have hrun {w : Workspace} (h : Reached w) : Reached (w.run operations) := by
    -- By induction on the operations, from any workspace that is reached.
    induction operations generalizing w with
    | nil => exact h
    | cons operation operations ih => exact ih (h.step operation)
  exact hrun hstart

/-- A connection is refused and changes nothing, or it is accepted. With propagation the answer is
then the derived edge that takes the place of the drawn one, which the new last reference of the
text declares, and no edge is ever drawn by hand. Without propagation the answer is the drawn edge,
which is the only thing that is new and has a serial number of its own. -/
theorem connect_run (settings : Settings) (text : String) (operations : List Operation) :
    let w := (withText settings text).run operations
    (w.settings.propagateConnections = true → ∀ a ∈ w.canvas.edges, a.isManual = false) ∧
      ∀ sourceNode targetNode handles,
        (w.canvas.endpoints? sourceNode targetNode handles = none ∧
          w.connect sourceNode targetNode handles = (none, w)) ∨
        ∃ e, w.canvas.endpoints? sourceNode targetNode handles = some e ∧
          Canvas.Leads sourceNode targetNode handles e ∧
          (w.settings.propagateConnections = true →
            ∃ w', w.connect sourceNode targetNode handles = (some (Edge.derivedId e), w') ∧
              Propagated w e w') ∧
          (w.settings.propagateConnections = false →
            w.connect sourceNode targetNode handles =
              (some (Edge.manualId w.canvas.nextSerial),
                { w with canvas := w.canvas.draw e handles }) ∧
              w.canvas.nextSerial ∉ w.canvas.serials) := by
  intro w
  obtain ⟨hstep, hinvariant, hserials⟩ := reached_run settings text operations
  have hcoherent : w.canvas.Coherent := hinvariant.toCoherent
  refine ⟨fun hpropagate => Canvas.serials_eq_nil_iff.1 (hserials hpropagate),
    fun sourceNode targetNode handles => ?_⟩
  cases he : w.canvas.endpoints? sourceNode targetNode handles with
  | none => exact .inl ⟨rfl, connect_of_none he⟩
  | some e =>
    have hlanded := propagated_landed hstep hinvariant.ids (textSafe_of_endpoints? hstep he) handles
    -- The edge of the new reference is the one that is looked for.
    have hedge : ((w.landed e handles).canvas.edge? (Edge.derivedId e)).isSome = true := by
      obtain ⟨a, ha, -, -, hid⟩ := hlanded.edge
      exact List.find?_isSome.2 ⟨a, ha, beq_iff_eq.2 hid⟩
    refine .inr ⟨e, rfl, (Canvas.leads_of_endpoints? he).1, fun hpropagate => ?_, fun hnot => ?_⟩
    · rw [connect_of_some hcoherent he, if_pos hpropagate, if_pos hedge]
      exact ⟨w.landed e handles, rfl, hlanded⟩
    · rw [connect_of_some hcoherent he, if_neg (by simp [hnot])]
      exact ⟨rfl, hcoherent.nextSerial_notMem⟩

/-- A text with two tables that ends in a third one that is still being typed. -/
def unfinishedText : String :=
  "Table a \x7b\n  table int\n\x7d\nTable ref \x7b\n  y int\n\x7d\nTable b \x7b\n  Ref: a."

/-- Handles of the columns that the first two tables have. -/
def connection : Handles :=
  ⟨Handle.right.id "table", Handle.left.id "y"⟩

/-- A workspace without propagation in which those columns are connected. -/
def drawnOnce : Workspace :=
  (withText { propagateConnections := false } unfinishedText).run
    [.connect "a" "ref" connection]

/-- With propagation the connection becomes the only reference of that text, whose last table stays
unfinished. Without propagation the columns can be connected again by hand. -/
theorem connect_unfinishedText :
    (∃ w', (withText {} unfinishedText).connect "a" "ref" connection =
        (some (Edge.derivedId ⟨⟨"a", "table"⟩, ⟨"ref", "y"⟩⟩), w') ∧
      Propagated (withText {} unfinishedText) ⟨⟨"a", "table"⟩, ⟨"ref", "y"⟩⟩ w' ∧
      w'.text = unfinishedText ++ "\nRef: a.table > ref.y\n" ∧
      w'.canvas.edges.map Edge.provenance = [.derived .manyToOne]) ∧
    drawnOnce.connect "a" "ref" connection = (some "manual-2",
      { drawnOnce with
        canvas := drawnOnce.canvas.draw ⟨⟨"a", "table"⟩, ⟨"ref", "y"⟩⟩ connection }) ∧
    drawnOnce.canvas.serials = [1] := by
  have hpropagated : (withText {} unfinishedText).canvas.endpoints? "a" "ref" connection =
      some ⟨⟨"a", "table"⟩, ⟨"ref", "y"⟩⟩ := by decide +kernel
  have hdrawn : drawnOnce.canvas.endpoints? "a" "ref" connection =
      some ⟨⟨"a", "table"⟩, ⟨"ref", "y"⟩⟩ := by decide +kernel
  obtain ⟨-, hconnect⟩ := connect_run {} unfinishedText []
  obtain ⟨-, hconnectOnce⟩ := connect_run { propagateConnections := false } unfinishedText
    [.connect "a" "ref" connection]
  constructor
  · rcases hconnect "a" "ref" connection with ⟨hnone, -⟩ | ⟨e, hsome, -, hon, -⟩
    · cases hpropagated.symm.trans hnone
    · obtain rfl := Option.some.inj (hpropagated.symm.trans hsome)
      obtain ⟨w', hw', hlands⟩ := hon rfl
      have heq : w' = ((withText {} unfinishedText).connect "a" "ref" connection).2 :=
        (congrArg Prod.snd hw').symm
      refine ⟨w', hw', hlands, hlands.text.trans (by decide +kernel), ?_⟩
      rw [heq]
      decide +kernel
  · rcases hconnectOnce "a" "ref" connection with ⟨hnone, -⟩ | ⟨e, hsome, -, -, hoff⟩
    · cases hdrawn.symm.trans hnone
    · obtain rfl := Option.some.inj (hdrawn.symm.trans hsome)
      have hsettings : drawnOnce.settings.propagateConnections = false := by
        unfold drawnOnce run
        rw [List.foldl_cons, List.foldl_nil, settings_step]
        rfl
      obtain ⟨hanswer, -⟩ := hoff hsettings
      have hid : Edge.manualId drawnOnce.canvas.nextSerial = "manual-2" := by decide +kernel
      refine ⟨hanswer.trans ?_, by decide +kernel⟩
      rw [← hid]
      rfl

end Workspace

end SchemaDiagram
