import SchemaDiagram.Proofs.Diagram.Canvas

/-!
# What a canvas shows

A canvas `Shows` a schema if its nodes are the first tables of each name and its derived edges are
relationships, each the first one between its columns. That is so right after the canvas was brought
in line with the schema, when no relationship is missing (`shownTables_sync`,
`shownRelationships_sync`), and whatever is done with it then.
-/

namespace SchemaDiagram

/-- The table that a node shows. -/
def Node.table (n : Node) : Table :=
  ⟨n.id, n.columns⟩

/-- The relationship that a derived edge shows. -/
def Edge.relationship? (e : Edge) : Option Relationship :=
  match e.provenance with
  | .derived cardinality => some ⟨e.endpoints, cardinality⟩
  | .manual _ => none

/-- An edge drawn by hand shows no relationship. -/
theorem Edge.relationship?_of_manual {e : Edge} (h : e.isManual = true) :
    e.relationship? = none := by
  obtain ⟨endpoints, handles, provenance⟩ := e
  cases provenance with
  | derived cardinality => cases h
  | manual serial => rfl

namespace Canvas

/-- The tables that the nodes show. -/
def shownTables (c : Canvas) : List Table :=
  c.nodes.map Node.table

/-- The relationships that the derived edges show. -/
def shownRelationships (c : Canvas) : List Relationship :=
  c.edges.filterMap Edge.relationship?

/-- The canvas shows the first table of each name, and of the first relationships between any two
columns those whose edges have not been deleted. -/
structure Shows (c : Canvas) (schema : Schema) : Prop where
  /-- The nodes show the first table of each name. -/
  tables : c.shownTables = firsts Table.name schema.tables
  /-- The derived edges show first relationships, in their order. -/
  relationships : c.shownRelationships.Sublist
    (firsts Relationship.endpoints schema.relationships)

variable {c : Canvas} {schema : Schema}

/-- The derived edges lead between the columns of the relationships that they show. -/
theorem map_endpoints_derivedEdges (c : Canvas) :
    c.derivedEdges.map Edge.endpoints = c.shownRelationships.map Relationship.endpoints := by
  unfold derivedEdges shownRelationships
  induction c.edges with
  | nil => rfl
  | cons e edges ih =>
    obtain ⟨endpoints, handles, provenance⟩ := e
    cases provenance with
    | derived cardinality => exact congrArg (endpoints :: ·) ih
    | manual serial => exact ih

/-- The canvas goes on showing a schema if its nodes show the same and no derived edge is new. -/
theorem Shows.of_sublist {c' : Canvas} (h : c.Shows schema)
    (htables : c'.shownTables = c.shownTables)
    (hrelationships : c'.shownRelationships.Sublist c.shownRelationships) : c'.Shows schema := by
  constructor
  · rw [htables]
    exact h.tables
  · exact hrelationships.trans h.relationships

/-- Attaching edges anew does not change what they show. -/
theorem shownRelationships_route (c : Canvas) :
    c.route.shownRelationships = c.shownRelationships := by
  unfold shownRelationships route
  rw [List.filterMap_map]
  rfl

/-- Right after a canvas has followed a schema, its nodes show the first tables. -/
theorem shownTables_sync (c : Canvas) (schema : Schema) :
    (c.sync schema).shownTables = firsts Table.name schema.tables := by
  rw [← keepFirst_eq_firsts]
  show (c.nodesFor (keepFirst Table.name schema.tables)).map Node.table = _
  unfold nodesFor
  -- Whatever position a node gets, it has the name and the columns of its table.
  refine List.ext_getElem? fun i => ?_
  rw [List.getElem?_map, List.getElem?_mapIdx, Option.map_map]
  exact Option.map_id'

/-- A canvas that already shows its tables has its nodes for them. -/
theorem map_nodeFor_shownTables (hids : c.ids.Nodup) : c.shownTables.map c.nodeFor = c.nodes := by
  unfold shownTables
  rw [List.map_map, List.map_congr_left, List.map_id]
  intro n hn
  show (⟨n.id, c.positionFor 0 n.id, n.columns⟩ : Node) = n
  unfold positionFor
  rw [node?_of_mem hids hn]

/-- Right after a canvas has followed a schema, its derived edges show the first relationships. -/
theorem shownRelationships_sync (c : Canvas) (schema : Schema) :
    (c.sync schema).shownRelationships =
      firsts Relationship.endpoints schema.relationships := by
  have hderived : (derivedFor schema).filterMap Edge.relationship? =
      keepFirst Relationship.endpoints schema.relationships := by
    unfold derivedFor
    rw [List.filterMap_map]
    exact List.filterMap_some
  have hdrawn : (c.drawnFor schema).filterMap Edge.relationship? = [] := by
    rw [List.filterMap_eq_nil_iff]
    exact fun e he => Edge.relationship?_of_manual (of_mem_drawnFor he).2.1
  calc (c.sync schema).shownRelationships
      = (derivedFor schema ++ c.drawnFor schema).filterMap Edge.relationship? := by
        rw [sync_eq, shownRelationships_route]
        rfl
    _ = keepFirst Relationship.endpoints schema.relationships := by
        rw [List.filterMap_append, hderived, hdrawn, List.append_nil]
    _ = firsts Relationship.endpoints schema.relationships := keepFirst_eq_firsts _

/-- A canvas that has followed a schema shows it. -/
theorem shows_sync (c : Canvas) (schema : Schema) : (c.sync schema).Shows schema := by
  constructor
  · exact shownTables_sync c schema
  · rw [shownRelationships_sync]

/-- Moving a node does not change what the canvas shows. -/
theorem Shows.moveNode (h : c.Shows schema) (id : String) (p : Position) :
    (c.moveNode id p).2.Shows schema := by
  unfold Canvas.moveNode
  split_ifs
  · have htable (n : Node) : Node.table { n with position := p } = Node.table n := rfl
    have htables : (c.place id p).shownTables = c.shownTables := map_updateFirst htable c.nodes
    refine h.of_sublist htables ?_
    rw [shownRelationships_route]
    exact List.Sublist.refl _
  · exact h

/-- A drawn edge shows no relationship. -/
theorem Shows.connect (h : c.Shows schema) (sourceNode targetNode : String) (handles : Handles) :
    (c.connect sourceNode targetNode handles).2.Shows schema := by
  unfold Canvas.connect
  split
  · exact h
  · next endpoints _ =>
    let e : Edge := ⟨endpoints, handles, .manual c.nextSerial⟩
    -- The new edge is drawn by hand.
    have hnone : (c.edges ++ [e]).filterMap Edge.relationship? = c.shownRelationships := by
      rw [List.filterMap_append]
      exact List.append_nil _
    refine h.of_sublist rfl ?_
    show ((c.edges ++ [e]).filterMap Edge.relationship?).Sublist _
    rw [hnone]

/-- Clicking an edge does not change what the canvas shows. -/
theorem Shows.clickEdge (h : c.Shows schema) (id : String) : (c.clickEdge id).2.Shows schema := by
  unfold Canvas.clickEdge
  split_ifs
  · exact h.of_sublist rfl (List.Sublist.refl _)
  · exact h.of_sublist rfl (List.Sublist.refl _)
  · exact h

/-- Clicking the pane does not change what the canvas shows. -/
theorem Shows.clickPane (h : c.Shows schema) : c.clickPane.Shows schema :=
  h.of_sublist rfl (List.Sublist.refl _)

/-- Deleting an edge takes at most its relationship from what the canvas shows. -/
theorem Shows.deleteSelected (h : c.Shows schema) (focus : Focus) :
    (c.deleteSelected focus).2.Shows schema := by
  unfold Canvas.deleteSelected
  split
  · exact h.of_sublist rfl (List.eraseP_sublist.filterMap Edge.relationship?)
  · exact h

end Canvas

end SchemaDiagram
