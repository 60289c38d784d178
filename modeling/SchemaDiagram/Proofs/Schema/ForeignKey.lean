import SchemaDiagram.Proofs.Schema.Names

/-!
# The flags of foreign keys

A relationship says by two names where it starts. The column that is `Meant` is the first of its
name in the first table of its name, and that one is flagged. So in a schema whose flags come from
its relationships alone, it can be told from those whether a column is flagged, and neither their
order nor flagging again makes a difference (`Schema.flagsExact_markForeignKeys`).
-/

namespace SchemaDiagram

/-- The schema without the flags of foreign keys. -/
def Schema.unflagged (s : Schema) : Schema :=
  { s with tables := s.tables.map Table.unflagged }

/-- Without flags a schema is the same before foreign keys are flagged and afterwards. -/
theorem Schema.unflagged_markForeignKeys (s : Schema) :
    s.markForeignKeys.unflagged = s.unflagged :=
  congrArg (Schema.mk · s.relationships) s.map_unflagged_markForeignKeys

/-! ## The order of flagging -/

/-- It does not matter which of two columns of a table is flagged first. -/
theorem Table.markForeignKey_comm (t : Table) (a b : String) :
    (t.markForeignKey a).markForeignKey b = (t.markForeignKey b).markForeignKey a := by
  refine congrArg (Table.mk t.name) ?_
  refine updateFirst_comm ?_ ?_ ?_ t.columns <;> exact fun _ => rfl

/-- Foreign keys are flagged alike in whichever order the relationships are. -/
theorem Schema.tables_markForeignKeys_of_perm {tables : List Table} {rs rs' : List Relationship}
    (h : rs.Perm rs') : (Schema.mk tables rs).markForeignKeys.tables =
      (Schema.mk tables rs').markForeignKeys.tables := by
  have hcomm : RightCommutative fun (tables : List Table) (r : Relationship) =>
      markForeignKey tables r.endpoints.source := by
    constructor
    intro tables r r'
    refine updateFirst_comm ?_ ?_ (fun t => ?_) tables
    · exact fun _ => rfl
    · exact fun _ => rfl
    · exact t.markForeignKey_comm _ _
  exact h.foldl_eq tables

/-- Flagging a column of a table again changes nothing. -/
theorem Table.markForeignKey_markForeignKey (t : Table) (column : String) :
    (t.markForeignKey column).markForeignKey column = t.markForeignKey column := by
  refine congrArg (Table.mk t.name) ?_
  refine updateFirst_updateFirst ?_ ?_ t.columns <;> exact fun _ => rfl

/-- Flagging the foreign keys of a schema again changes nothing. -/
theorem Schema.markForeignKeys_markForeignKeys (s : Schema) :
    s.markForeignKeys.markForeignKeys = s.markForeignKeys := by
  have hagain (tables : List Table) (source : ColumnRef) :
      markForeignKey (markForeignKey tables source) source = markForeignKey tables source := by
    refine updateFirst_updateFirst ?_ (fun t => ?_) tables
    · exact fun _ => rfl
    · exact t.markForeignKey_markForeignKey source.column
  -- A relationship that has its column flagged can as well have been the last one.
  have hmember : ∀ r ∈ s.relationships,
      markForeignKey s.markForeignKeys.tables r.endpoints.source = s.markForeignKeys.tables := by
    intro r hr
    obtain ⟨before, behind, hsplit⟩ := List.append_of_mem hr
    have hperm : s.relationships.Perm (before ++ behind ++ [r]) := by
      rw [hsplit, List.append_assoc]
      exact List.Perm.append_left before (List.perm_append_singleton r behind).symm
    have hmoved : s.markForeignKeys.tables =
        (Schema.mk s.tables (before ++ behind ++ [r])).markForeignKeys.tables :=
      tables_markForeignKeys_of_perm hperm
    have hlast : s.markForeignKeys.tables =
        markForeignKey (Schema.mk s.tables (before ++ behind)).markForeignKeys.tables
          r.endpoints.source := hmoved.trans (List.foldl_concat _ _ _ _)
    rw [hlast, hagain]
  have hfold (rs : List Relationship) (hrs : ∀ r ∈ rs, r ∈ s.relationships) :
      rs.foldl (fun tables r => markForeignKey tables r.endpoints.source)
        s.markForeignKeys.tables = s.markForeignKeys.tables := by
    induction rs with
    | nil => rfl
    | cons r rs ih =>
      obtain ⟨hr, hrs⟩ := List.forall_mem_cons.1 hrs
      rw [List.foldl_cons, hmember r hr, ih hrs]
  exact congrArg (Schema.mk · s.relationships) (hfold s.relationships fun _ hr => hr)

/-! ## Which columns are flagged -/

/-- The column at place `j` of a table is flagged. -/
def Table.Flagged (t : Table) (j : Nat) : Prop :=
  ∃ c, t.columns[j]? = some c ∧ c.isForeignKey = true

/-- Flagging a column of a table flags the first one of that name. -/
theorem Table.flagged_markForeignKey {t : Table} {column : String} {j : Nat} :
    (t.markForeignKey column).Flagged j ↔
      t.Flagged j ∨ t.columns.findIdx? (·.name == column) = some j := by
  unfold Flagged markForeignKey
  simp only [getElem?_updateFirst, Option.map_eq_some_iff]
  constructor
  · rintro ⟨_, ⟨c, hc, rfl⟩, hflag⟩
    split at hflag
    · next hfirst => exact .inr hfirst
    · exact .inl ⟨c, hc, hflag⟩
  · rintro (⟨c, hc, hflag⟩ | hfirst)
    · refine ⟨_, ⟨c, hc, rfl⟩, ?_⟩
      split
      · rfl
      · exact hflag
    · obtain ⟨hj, -⟩ := List.findIdx?_eq_some_iff_getElem.1 hfirst
      exact ⟨_, ⟨_, List.getElem?_eq_getElem hj, rfl⟩, by rw [if_pos hfirst]⟩

namespace Schema

/-- The column at place `j` of the table at place `i` is flagged. -/
def Flagged (tables : List Table) (i j : Nat) : Prop :=
  ∃ t, tables[i]? = some t ∧ t.Flagged j

/-- The column at place `j` of the table at place `i` is the one that is meant by two names. -/
def Meant (tables : List Table) (source : ColumnRef) (i j : Nat) : Prop :=
  tables.findIdx? (·.name == source.table) = some i ∧
    ∃ t, tables[i]? = some t ∧ t.columns.findIdx? (·.name == source.column) = some j

variable {tables : List Table} {source : ColumnRef} {i j : Nat}

/-- The first table of a name and its first column of a name are meant. -/
theorem meant_iff {t : Table} {c : Column} (ht : tables[i]? = some t)
    (hc : t.columns[j]? = some c) :
    Meant tables source i j ↔ (∀ other ∈ tables.take i, other.name ≠ t.name) ∧
      (∀ other ∈ t.columns.take j, other.name ≠ c.name) ∧ source = ⟨t.name, c.name⟩ := by
  obtain ⟨table, column⟩ := source
  unfold Meant
  rw [findIdx?_eq_some_iff_of_getElem? ht]
  simp only [ht, Option.some.injEq, exists_eq_left', findIdx?_eq_some_iff_of_getElem? hc,
    beq_iff_eq, beq_eq_false_iff_ne, ColumnRef.mk.injEq]
  constructor
  · rintro ⟨⟨rfl, htables⟩, rfl, hcolumns⟩
    exact ⟨htables, hcolumns, rfl, rfl⟩
  · rintro ⟨htables, hcolumns, rfl, rfl⟩
    exact ⟨⟨rfl, htables⟩, rfl, hcolumns⟩

/-- Which column is meant does not depend on flags. -/
theorem meant_congr {tables' : List Table}
    (h : tables.map Table.unflagged = tables'.map Table.unflagged) :
    Meant tables source i j ↔ Meant tables' source i j := by
  have hunflagged (tables : List Table) :
      Meant tables source i j ↔ Meant (tables.map Table.unflagged) source i j := by
    unfold Meant
    simp only [List.findIdx?_map, List.getElem?_map, Option.map_eq_some_iff,
      exists_exists_and_eq_and, Table.unflagged, Function.comp_def]
  rw [hunflagged tables, h, ← hunflagged]

/-- Flagging the column that two names mean flags that one. -/
theorem flagged_markForeignKey :
    Flagged (markForeignKey tables source) i j ↔ Flagged tables i j ∨ Meant tables source i j := by
  unfold Flagged Meant markForeignKey
  simp only [getElem?_updateFirst, Option.map_eq_some_iff, exists_exists_and_eq_and]
  by_cases hfirst : tables.findIdx? (·.name == source.table) = some i
  · simp only [hfirst, if_true, Table.flagged_markForeignKey, true_and]
    rw [← exists_or]
    exact exists_congr fun t => and_or_left
  · simp only [hfirst, if_false, false_and, or_false]

/-- Flagging where relationships start flags the columns that their names mean. -/
theorem flagged_foldl (rs : List Relationship) :
    Flagged (rs.foldl (fun tables r => markForeignKey tables r.endpoints.source) tables) i j ↔
      Flagged tables i j ∨ ∃ r ∈ rs, Meant tables r.endpoints.source i j := by
  induction rs generalizing tables with
  | nil => simp
  | cons r rs ih =>
    have hsame (source : ColumnRef) : Meant (markForeignKey tables r.endpoints.source) source i j ↔
        Meant tables source i j :=
      meant_congr (map_updateFirst (fun t => t.unflagged_markForeignKey _) tables)
    rw [List.foldl_cons, ih, flagged_markForeignKey, or_assoc]
    simp only [hsame, List.exists_mem_cons_iff]

/-- In a schema the flags say what the relationships say. -/
structure FlagsExact (s : Schema) : Prop where
  /-- A column is flagged if it is the first one of its name in the first table of that table's name
  and a relationship starts there, and no other one is. -/
  isForeignKey_iff : ∀ {i j : Nat} {t : Table} {c : Column}, s.tables[i]? = some t →
    t.columns[j]? = some c → (c.isForeignKey = true ↔
      (∀ other ∈ s.tables.take i, other.name ≠ t.name) ∧
      (∀ other ∈ t.columns.take j, other.name ≠ c.name) ∧
      ∃ r ∈ s.relationships, r.endpoints.source = ⟨t.name, c.name⟩)
  /-- To flag the foreign keys again changes nothing. -/
  markForeignKeys : s.markForeignKeys = s
  /-- If the flags are set anew with the relationships in another order, they are the same. -/
  of_perm : ∀ rs, rs.Perm s.relationships →
    (Schema.mk s.unflagged.tables rs).markForeignKeys = ⟨s.tables, rs⟩

/-- If nothing was flagged before, then flagging the foreign keys makes the flags exact. -/
theorem flagsExact_markForeignKeys {s : Schema} (hs : s.unflagged = s) :
    s.markForeignKeys.FlagsExact where
  isForeignKey_iff := by
    intro i j t c ht hc
    have hmeant (source : ColumnRef) :
        Meant s.tables source i j ↔ Meant s.markForeignKeys.tables source i j :=
      meant_congr s.map_unflagged_markForeignKeys.symm
    have hbefore : ¬Flagged s.tables i j := by
      rintro ⟨t, ht, c, hc, hflag⟩
      rw [← hs] at ht
      obtain ⟨t, -, rfl⟩ := List.mem_map.1 (List.mem_of_getElem? ht)
      obtain ⟨c, -, rfl⟩ := List.mem_map.1 (List.mem_of_getElem? hc)
      cases hflag
    calc c.isForeignKey = true
      _ ↔ Flagged s.markForeignKeys.tables i j := by
        simp [Flagged, Table.Flagged, ht, hc]
      _ ↔ ∃ r ∈ s.relationships, Meant s.tables r.endpoints.source i j :=
        (flagged_foldl s.relationships).trans (or_iff_right hbefore)
      _ ↔ _ := by
        simp only [hmeant, meant_iff ht hc]
        constructor
        · rintro ⟨r, hr, htables, hcolumns, hsource⟩
          exact ⟨htables, hcolumns, r, hr, hsource⟩
        · rintro ⟨htables, hcolumns, r, hr, hsource⟩
          exact ⟨r, hr, htables, hcolumns, hsource⟩
  markForeignKeys := s.markForeignKeys_markForeignKeys
  of_perm := by
    intro rs hrs
    rw [s.unflagged_markForeignKeys, hs]
    exact congrArg (Schema.mk · rs) (tables_markForeignKeys_of_perm hrs)

end Schema

/-! ## Schema text -/

/-- A line declares a column without the flag. -/
theorem Column.isForeignKey_of_ofLine? {line : List Char} {c : Column}
    (h : Column.ofLine? line = some c) : c.isForeignKey = false := by
  have hsettings (c : Column) (list : List Char) :
      (c.applySettings list).isForeignKey = c.isForeignKey :=
    c.applySettings_eq_of_apply (fun _ setting => by cases setting <;> rfl) list
  unfold Column.ofLine? at h
  simp only [Option.bind_eq_bind, Option.bind_eq_some_iff] at h
  obtain ⟨-, -, ⟨name, behind⟩, -, blanks, -, ⟨type, behind⟩, -, hc⟩ := h
  split at hc
  · cases hc
    exact hsettings _ _
  · cases hc
    rfl

/-- Nothing that a text declares has the flag. -/
theorem Schema.unflagged_declaredBy (s : List Char) :
    (Schema.declaredBy s).unflagged = Schema.declaredBy s := by
  have htable (b : TableBlock) : b.table.unflagged = b.table := by
    refine congrArg (Table.mk _) ((List.map_congr_left fun c hc => ?_).trans (List.map_id _))
    obtain ⟨line, -, hline⟩ := List.mem_filterMap.1 hc
    show ({ c with isForeignKey := false } : Column) = c
    rw [← Column.isForeignKey_of_ofLine? hline]
  refine congrArg (Schema.mk · _) ?_
  show ((constructs _ _ s).map TableBlock.table).map Table.unflagged = _
  rw [List.map_map]
  exact List.map_congr_left fun b _ => htable b

end SchemaDiagram
