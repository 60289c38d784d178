import SchemaDiagram.Proofs.Diagram.Shown

/-!
# Positions from a layout

A canvas that takes the positions of a layout puts each of its names there when it follows a
schema: a node that is there is moved, and the position of any other name is set aside
(`Canvas.positionFor_seed`). With the layout of a canvas that shows the same schema, its nodes are
those of that canvas, whatever it held before (`Canvas.nodes_sync_seed_layout`).
-/

namespace SchemaDiagram.Canvas

variable {c : Canvas} {schema : Schema}

/-! ## Taking positions -/

/-- A node is found where it was placed, and any other one where it was. -/
theorem node?_place (c : Canvas) (id : String) (p : Position) (name : String) :
    (c.place id p).node? name =
      if name = id then (c.node? id).map fun n => { n with position := p } else c.node? name := by
  have hid (n : Node) : (Node.id { n with position := p } == name) = (n.id == name) := rfl
  unfold place node?
  split_ifs with hname
  · subst hname
    exact find?_updateFirst_self hid c.nodes
  · refine find?_updateFirst_of_ne hid (fun n hn => ?_) c.nodes
    rw [beq_eq_false_iff_ne]
    exact fun heq => hname (heq.symm.trans (beq_iff_eq.1 hn))

/-- A name that is given a position gets it, and any other one the position that it would have
got. -/
theorem positionFor_seedOne (c : Canvas) (id : String) (p : Position) (index : Nat)
    (name : String) :
    (c.seedOne id p).positionFor index name =
      if name = id then p else c.positionFor index name := by
  unfold seedOne
  by_cases hnode : (c.node? id).isSome = true
  · obtain ⟨n, hn⟩ := Option.isSome_iff_exists.1 hnode
    rw [if_pos hnode]
    unfold positionFor
    rw [node?_place]
    split_ifs with hname
    · rw [hn]
      rfl
    · rfl
  · rw [if_neg hnode]
    have hnone : c.node? id = none := Option.not_isSome_iff_eq_none.1 hnode
    have hsame : ({ c with seeds := c.seeds.insert id p } : Canvas).node? name = c.node? name := rfl
    unfold positionFor
    rw [hsame, Layout.find?_insert]
    split_ifs with hname
    · rw [hname, hnone]
      rfl
    · rfl

/-- The names of a layout get their positions, and any other name the position that it would have
got. -/
theorem positionFor_seed (c : Canvas) {l : Layout} (h : l.Sorted) (index : Nat) (name : String) :
    (c.seed l).positionFor index name = (l.find? name).getD (c.positionFor index name) := by
  have hfold (entries : List (String × Position)) (h : (entries.map Prod.fst).Nodup) :
      (entries.foldl (fun c entry => c.seedOne entry.1 entry.2) c).positionFor index name =
        (entries.lookup name).getD (c.positionFor index name) := by
    induction entries generalizing c with
    | nil => rfl
    | cons entry entries ih =>
      obtain ⟨n, p⟩ := entry
      obtain ⟨hn, hentries⟩ := List.nodup_cons.1 h
      rw [List.foldl_cons, ih _ hentries, positionFor_seedOne, List.lookup_cons]
      by_cases hname : name = n
      · -- The name does not come again.
        have hnone : entries.lookup name = none := by
          rw [List.lookup_eq_none_iff]
          intro entry hentry
          rw [hname, bne_iff_ne]
          exact fun heq => hn (List.mem_map.2 ⟨entry, hentry, heq.symm⟩)
        rw [hnone, if_pos hname, beq_iff_eq.2 hname]
        rfl
      · rw [if_neg hname, beq_eq_false_iff_ne.2 hname]
  exact hfold l.entries h.nodup

/-! ## The layout of a canvas -/

/-- The layout of a canvas is sorted. -/
theorem sorted_layout (c : Canvas) : c.layout.Sorted :=
  Layout.sorted_foldl_insert Node.id Node.position c.nodes

/-- The layout of a canvas has the positions of its nodes. -/
theorem exists_node_of_mem_layout {entry : String × Position} (h : entry ∈ c.layout.entries) :
    ∃ n ∈ c.nodes, entry = (n.id, n.position) := by
  have hfold (nodes : List Node) (h : entry ∈
      (nodes.foldl (fun l n => l.insert n.id n.position) Layout.empty).entries) :
      ∃ n ∈ nodes, entry = (n.id, n.position) := by
    induction nodes using List.reverseRecOn with
    | nil => cases h
    | append_singleton nodes n ih =>
      rw [List.foldl_append] at h
      rcases Layout.mem_insertEntry h with rfl | hmem
      · exact ⟨n, List.mem_append_right _ List.mem_cons_self, rfl⟩
      · obtain ⟨m, hm, heq⟩ := ih hmem
        exact ⟨m, List.mem_append_left _ hm, heq⟩
  exact hfold c.nodes h

/-- The position of a name in the layout of a canvas is that of its node. -/
theorem find?_layout (hids : c.ids.Nodup) {n : Node} (hn : n ∈ c.nodes) :
    c.layout.find? n.id = some n.position := by
  have hfold (nodes : List Node) (hids : (nodes.map Node.id).Nodup) (hn : n ∈ nodes) :
      (nodes.foldl (fun l n => l.insert n.id n.position) Layout.empty).find? n.id =
        some n.position := by
    induction nodes using List.reverseRecOn with
    | nil => cases hn
    | append_singleton nodes m ih =>
      rw [List.map_append, List.nodup_append] at hids
      obtain ⟨hnodes, -, hlast⟩ := hids
      rw [List.foldl_append]
      show (Layout.insert _ m.id m.position).find? n.id = _
      rw [Layout.find?_insert]
      rcases List.mem_append.1 hn with hmem | hmem
      · rw [if_neg (hlast n.id (List.mem_map_of_mem hmem) m.id List.mem_cons_self), ih hnodes hmem]
      · rw [List.mem_singleton.1 hmem, if_pos rfl]
  exact hfold c.nodes hids hn

/-- A canvas that takes the layout of another one and follows the schema that the other one shows
has the same nodes. -/
theorem nodes_sync_seed_layout (hids : c.ids.Nodup) (hshows : c.Shows schema) (other : Canvas) :
    ((other.seed c.layout).sync schema).nodes = c.nodes := by
  have htables : keepFirst Table.name schema.tables = c.shownTables := by
    rw [keepFirst_eq_firsts, hshows.tables]
  show (other.seed c.layout).nodesFor (keepFirst Table.name schema.tables) = _
  rw [htables]
  unfold nodesFor shownTables
  refine List.ext_getElem? fun index => ?_
  rw [List.getElem?_mapIdx, List.getElem?_map, Option.map_map]
  cases hn : c.nodes[index]? with
  | none => rfl
  | some n =>
    have hmem : n ∈ c.nodes := List.mem_of_getElem? hn
    have hposition : (other.seed c.layout).positionFor index n.id = n.position := by
      rw [positionFor_seed other c.sorted_layout, find?_layout hids hmem, Option.getD_some]
    show some (⟨n.id, (other.seed c.layout).positionFor index n.id, n.columns⟩ : Node) = some n
    rw [hposition]

end SchemaDiagram.Canvas
