import SchemaDiagram.Proofs.Diagram.Reconciliation

/-!
# The life of an edge

What becomes of edges while a canvas is worked with (`Canvas.lifecycle_run`). But for following a
schema, operations do little with them: one takes some away or draws one with the next serial number
(`Canvas.Change.detachedEdges`), and the rest is how they are attached. So serial numbers only come
from the counter, which only goes up (`Canvas.mem_serials_run`), and none is used twice. Derived
edges come from the schema alone whenever the canvas follows one, whether or not they were deleted
before.
-/

namespace SchemaDiagram

namespace Edge

/-- The edge as it is, whichever handles it is attached to. -/
def detached (e : Edge) : Edge :=
  { e with handles := .standard e.endpoints }

end Edge

namespace Canvas

/-! ## Edges, however they are attached -/

/-- The edges, whichever handles they are attached to. -/
def detachedEdges (c : Canvas) : List Edge :=
  c.edges.map Edge.detached

/-- The identifiers of the edges. -/
def edgeIds (c : Canvas) : List String :=
  c.edges.map Edge.id

/-- Whether a derived edge leads between the given columns. -/
def Derives (c : Canvas) (e : Endpoints) : Prop :=
  ∃ a ∈ c.edges, a.isManual = false ∧ a.endpoints = e

variable {c : Canvas} {schema : Schema}

/-- The serial numbers do not depend on the handles. -/
theorem serials_eq_filterMap (c : Canvas) :
    c.serials = c.detachedEdges.filterMap Edge.serial? := by
  unfold detachedEdges
  rw [List.filterMap_map]
  rfl

/-- What the derived edges show does not depend on the handles. -/
theorem shownRelationships_eq_filterMap (c : Canvas) :
    c.shownRelationships = c.detachedEdges.filterMap Edge.relationship? := by
  unfold detachedEdges
  rw [List.filterMap_map]
  rfl

/-- Attaching edges anew leaves them as they are. -/
theorem detachedEdges_route (c : Canvas) : c.route.detachedEdges = c.detachedEdges := by
  unfold detachedEdges route
  rw [List.map_map]
  rfl

/-- A canvas derives an edge exactly when it shows a relationship between its columns. -/
theorem derives_iff {e : Endpoints} :
    c.Derives e ↔ e ∈ c.shownRelationships.map Relationship.endpoints := by
  unfold Derives shownRelationships
  rw [List.mem_map]
  constructor
  · rintro ⟨⟨endpoints, handles, provenance⟩, ha, hderived, rfl⟩
    cases provenance with
    | derived cardinality =>
      exact ⟨⟨endpoints, cardinality⟩, List.mem_filterMap.2 ⟨_, ha, rfl⟩, rfl⟩
    | manual serial => cases hderived
  · rintro ⟨r, hr, rfl⟩
    obtain ⟨⟨endpoints, handles, provenance⟩, ha, hshown⟩ := List.mem_filterMap.1 hr
    cases provenance with
    | derived cardinality =>
      refine ⟨_, ha, rfl, ?_⟩
      rw [← Option.some.inj hshown]
    | manual serial => cases hshown

/-- A canvas that follows a schema derives an edge exactly when the schema has a relationship
between its columns. -/
theorem derives_sync_iff {e : Endpoints} :
    (c.sync schema).Derives e ↔ ∃ r ∈ schema.relationships, r.endpoints = e := by
  rw [derives_iff, shownRelationships_sync, ← keepFirst_eq_firsts, List.mem_map]
  constructor
  · rintro ⟨r, hr, rfl⟩
    exact ⟨r, (sublist_keepFirst _).subset hr, rfl⟩
  · rintro ⟨r, hr, rfl⟩
    exact exists_mem_keepFirst hr

/-! ## One operation -/

/-- A canvas that takes the positions of a layout has other nodes and other positions set aside, and
its edges attached anew. -/
theorem exists_seed_eq_route (c : Canvas) (l : Layout) :
    ∃ nodes seeds, c.seed l = { c with nodes, seeds }.route := by
  have hseeded := seed_induction (P := fun c' => ∃ nodes seeds, c' = { c with nodes, seeds })
    (fun c' id p ⟨nodes, seeds, h⟩ => ?_) ⟨c.nodes, c.seeds, rfl⟩ l
  · obtain ⟨nodes, seeds, h⟩ := hseeded
    exact ⟨nodes, seeds, congrArg route h⟩
  · subst h
    unfold seedOne
    split
    · exact ⟨_, seeds, rfl⟩
    · exact ⟨nodes, _, rfl⟩

/-- What a change does with the edges: it takes some away, or it draws one with the next serial
number. -/
theorem Change.detachedEdges {c' : Canvas} (h : Change c c') :
    (c'.detachedEdges.Sublist c.detachedEdges ∧ c'.nextSerial = c.nextSerial) ∨
      ∃ e : Edge, e.provenance = .manual c.nextSerial ∧
        c'.detachedEdges = c.detachedEdges ++ [e] ∧ c'.nextSerial = c.nextSerial + 1 := by
  have hsame {c' : Canvas} (hedges : c'.detachedEdges = c.detachedEdges)
      (hserial : c'.nextSerial = c.nextSerial) :
      c'.detachedEdges.Sublist c.detachedEdges ∧ c'.nextSerial = c.nextSerial :=
    ⟨hedges ▸ List.Sublist.refl _, hserial⟩
  cases h with
  | same => exact .inl (hsame rfl rfl)
  | seed l =>
    obtain ⟨nodes, seeds, hseed⟩ := exists_seed_eq_route c l
    left
    rw [hseed]
    exact hsame (detachedEdges_route _) rfl
  | place id p => exact .inl (hsame (detachedEdges_route _) rfl)
  | draw hfit hsource htarget => exact .inr ⟨_, rfl, List.map_append, rfl⟩
  | select hselected => exact .inl (hsame rfl rfl)
  | delete hsub => exact .inl ⟨hsub.map Edge.detached, rfl⟩

/-- After an operation the serial numbers are some of those before, or the next one has come behind
them. -/
theorem serials_step (c : Canvas) (operation : Operation) :
    ((c.step operation).serials.Sublist c.serials ∧
        (c.step operation).nextSerial = c.nextSerial) ∨
      ((c.step operation).serials = c.serials ++ [c.nextSerial] ∧
        (c.step operation).nextSerial = c.nextSerial + 1) := by
  by_cases hsync : ∃ schema, operation = .sync schema
  · obtain ⟨schema, rfl⟩ := hsync
    exact .inl ⟨serials_sync c schema, rfl⟩
  · rw [serials_eq_filterMap, serials_eq_filterMap]
    rcases (change_step c (not_exists.1 hsync)).detachedEdges with
      ⟨hsub, hnext⟩ | ⟨e, he, hedges, hnext⟩
    · exact .inl ⟨hsub.filterMap Edge.serial?, hnext⟩
    · have hlast : [e].filterMap Edge.serial? = [c.nextSerial] := by
        simp [Edge.serial?, he]
      refine .inr ⟨?_, hnext⟩
      rw [hedges, List.filterMap_append, hlast]

/-- No relationship comes to be shown by an operation, unless the canvas follows a schema. -/
theorem shownRelationships_step (c : Canvas) {operation : Operation}
    (h : ∀ schema, operation ≠ .sync schema) :
    (c.step operation).shownRelationships.Sublist c.shownRelationships := by
  rw [shownRelationships_eq_filterMap, shownRelationships_eq_filterMap]
  rcases (change_step c h).detachedEdges with ⟨hsub, -⟩ | ⟨e, he, hedges, -⟩
  · exact hsub.filterMap Edge.relationship?
  · have hlast : [e].filterMap Edge.relationship? = [] := by
      simp [Edge.relationship?, he]
    rw [hedges, List.filterMap_append, hlast, List.append_nil]

/-! ## One operation after another -/

/-- Operations one after another are those at first and then the others. -/
theorem run_append (c : Canvas) (operations later : List Operation) :
    c.run (operations ++ later) = (c.run operations).run later :=
  List.foldl_append

/-- The next serial number never goes down. -/
theorem nextSerial_le_run (c : Canvas) (operations : List Operation) :
    c.nextSerial ≤ (c.run operations).nextSerial := by
  induction operations generalizing c with
  | nil => exact Nat.le_refl _
  | cons operation operations ih =>
    have hstep : c.nextSerial ≤ (c.step operation).nextSerial := by
      rcases serials_step c operation with ⟨-, hnext⟩ | ⟨-, hnext⟩ <;> omega
    exact hstep.trans (ih _)

/-- A serial number on a later canvas was there before, or it is a new one. -/
theorem mem_serials_run {n : Nat} {operations : List Operation}
    (h : n ∈ (c.run operations).serials) : n ∈ c.serials ∨ c.nextSerial ≤ n := by
  induction operations generalizing c with
  | nil => exact .inl h
  | cons operation operations ih =>
    rcases serials_step c operation with ⟨hsub, hnext⟩ | ⟨hserials, hnext⟩
    · rcases ih h with hold | hnew
      · exact .inl (hsub.subset hold)
      · exact .inr (hnext ▸ hnew)
    · rcases ih h with hold | hnew
      · rw [hserials, List.mem_append, List.mem_singleton] at hold
        exact hold.imp_right fun heq => heq.ge
      · exact .inr (by omega)

/-- No relationship comes to be shown as long as the canvas follows no schema. -/
theorem shownRelationships_run (c : Canvas) {operations : List Operation}
    (h : ∀ schema, .sync schema ∉ operations) :
    (c.run operations).shownRelationships.Sublist c.shownRelationships := by
  induction operations generalizing c with
  | nil => exact List.Sublist.refl _
  | cons operation operations ih =>
    have hstep := shownRelationships_step c fun schema heq =>
      h schema (heq ▸ List.mem_cons_self)
    exact (ih _ fun schema hmem => h schema (List.mem_cons_of_mem _ hmem)).trans hstep

/-! ## All together -/

/-- What deleting does on a canvas where an identifier is selected, and what becomes of the edge `e`
that is deleted, with `before` in front of it and `after` behind. -/
structure Deletes (c : Canvas) (id : String) (before : List Edge) (e : Edge) (after : List Edge) :
    Prop where
  /-- The edge is one of the edges. -/
  edges : c.edges = before ++ e :: after
  /-- It has the selected identifier. -/
  selected : e.id = id
  /-- It is the first one that has it. -/
  first : ∀ a ∈ before, a.id ≠ id
  /-- It is the answer, and it and the selection are all that goes away. -/
  result : c.deleteSelected .canvas =
    (some e, { c with edges := before ++ after, selected := none })
  /-- If it was derived, none is derived between its columns until the canvas follows a schema. -/
  absent : e.isManual = false → ∀ operations, (∀ schema, .sync schema ∉ operations) →
    ¬ ((c.deleteSelected .canvas).2.run operations).Derives e.endpoints
  /-- Then one is exactly if that schema has a relationship between them. -/
  back : e.isManual = false → ∀ operations, (∀ schema, .sync schema ∉ operations) → ∀ schema,
    (((c.deleteSelected .canvas).2.run operations).sync schema).Derives e.endpoints ↔
      ∃ r ∈ schema.relationships, r.endpoints = e.endpoints

/-- What becomes of edges on the canvas that operations lead to. -/
structure Lifecycle (settings : CanvasSettings) (operations : List Operation) (c : Canvas) :
    Prop where
  /-- An edge that is drawn has an identifier that none ever had. -/
  fresh : ∀ sourceNode targetNode handles e, (c.connect sourceNode targetNode handles).1 = some e →
    ∀ earlier, earlier <+: operations → e.id ∉ ((new settings).run earlier).edgeIds
  /-- No two edges drawn by hand have the same serial number. -/
  serials : c.serials.Nodup
  /-- A serial number that has left the canvas never comes back. -/
  gone : ∀ earlier, earlier <+: operations → ∀ n ∈ ((new settings).run earlier).serials,
    n ∉ c.serials → ∀ later, n ∉ (c.run later).serials
  /-- If an identifier is selected, one edge can be deleted. -/
  deletes : ∀ id, c.selected = some id → ∃ before e after, Deletes c id before e after

/-- Deleting takes the first edge with the selected identifier away, and if it was derived it is
gone until the canvas follows a schema. -/
theorem Coherent.exists_deletes (h : Coherent c) {id : String}
    (hselected : c.selected = some id) : ∃ before e after, Deletes c id before e after := by
  obtain ⟨a, ha, hid⟩ := h.selected id hselected
  have hsome : (c.edge? id).isSome = true := List.find?_isSome.2 ⟨a, ha, beq_iff_eq.2 hid⟩
  obtain ⟨e, he⟩ := Option.isSome_iff_exists.1 hsome
  obtain ⟨hmatch, before, after, hedges, hbefore⟩ := List.find?_eq_some_iff_append.1 he
  have hne : ∀ a ∈ before, ¬ (a.id == id) = true := by
    intro a ha
    simpa using hbefore a ha
  have herase : c.edges.eraseP (·.id == id) = before ++ after := by
    rw [hedges, List.eraseP_append_right _ hne, List.eraseP_cons, hmatch, cond_true]
  have hresult : c.deleteSelected .canvas =
      (some e, { c with edges := before ++ after, selected := none }) := by
    unfold deleteSelected
    rw [hselected, ← he, ← herase]
  have hshown : (c.deleteSelected .canvas).2.shownRelationships =
      (before ++ after).filterMap Edge.relationship? := by
    rw [hresult]
    rfl
  refine ⟨before, e, after, hedges, beq_iff_eq.1 hmatch, fun a ha => ?_, hresult, ?_, ?_⟩
  · simpa using hne a ha
  · intro hderived operations hsync
    rw [derives_iff]
    refine fun hmem => ?_
    have hmem' := ((shownRelationships_run _ hsync).map Relationship.endpoints).subset hmem
    -- No relationship between the same columns is shown besides that of the deleted edge.
    have hdistinct := h.derived
    rw [map_endpoints_derivedEdges] at hdistinct
    obtain ⟨endpoints, handles, provenance⟩ := e
    cases provenance with
    | manual serial => cases hderived
    | derived cardinality =>
      have hall : c.shownRelationships = before.filterMap Edge.relationship? ++
          ⟨endpoints, cardinality⟩ :: after.filterMap Edge.relationship? := by
        unfold shownRelationships
        rw [hedges, List.filterMap_append]
        rfl
      rw [hall, List.map_append, List.map_cons, List.nodup_middle, List.nodup_cons,
        ← List.map_append, ← List.filterMap_append, ← hshown] at hdistinct
      exact hdistinct.1 hmem'
  · exact fun _ _ _ schema => derives_sync_iff

/-- What becomes of edges on every canvas that operations lead to. -/
theorem lifecycle_run (settings : CanvasSettings) (operations : List Operation) :
    Lifecycle settings operations ((new settings).run operations) := by
  have hcoherent (earlier : List Operation) := coherent_run settings earlier
  constructor
  case fresh =>
    rintro sourceNode targetNode handles e hconnect earlier ⟨rest, rfl⟩ hmem
    have hid : e.id = Edge.manualId ((new settings).run (earlier ++ rest)).nextSerial := by
      unfold connect at hconnect
      split at hconnect
      · cases hconnect
      · rw [← Option.some.inj hconnect]
        rfl
    rw [hid] at hmem
    obtain ⟨a, ha, haid⟩ := List.mem_map.1 hmem
    have hserial := List.mem_filterMap.2 ⟨a, ha, Edge.serial?_of_id haid⟩
    have hlt := (hcoherent earlier).serials_lt _ hserial
    have hle := nextSerial_le_run ((new settings).run earlier) rest
    rw [← run_append] at hle
    omega
  case serials => exact (hcoherent operations).serials
  case gone =>
    rintro earlier ⟨rest, rfl⟩ n hearlier hgone later hlater
    have hlt := (hcoherent earlier).serials_lt n hearlier
    have hle := nextSerial_le_run ((new settings).run earlier) rest
    rw [← run_append] at hle
    rcases mem_serials_run hlater with hmem | hnew
    · exact hgone hmem
    · omega
  case deletes => exact fun id hselected => (hcoherent operations).exists_deletes hselected

end Canvas

end SchemaDiagram
