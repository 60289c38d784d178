import SchemaDiagram.Proofs.Schema.Basic
import SchemaDiagram.Proofs.Schema.Reference

/-!
# The names in a schema that was read

Whatever text a schema is read from, its names are identifiers: the readers of table blocks, column
lines and references take nothing else for a name, and flagging foreign keys leaves names alone
(`Schema.identifierNames_parse`). A relationship between columns of such a schema can therefore be
written as a line of schema text.
-/

namespace SchemaDiagram

open Character

/-! ## What is read -/

/-- A construct that is found in a text was read somewhere. -/
theorem exists_of_mem_constructs {α : Type} {keyword : Keyword}
    {reader : List Char → Option α × List Char} {s : List Char} {v : α}
    (h : v ∈ constructs keyword reader s) : ∃ t, (reader t).1 = some v := by
  -- The construct is the first one that is found or a later one.
  have hoccurs (c : Cursor) :
      ∀ o ∈ c.occurrences keyword reader, ∃ t, (reader t).1 = some o.value := by
    induction c using Cursor.search_induction keyword reader with
    | done c hi =>
      intro o ho
      rw [Cursor.occurrences_eq, hi] at ho
      cases ho
    | found c i hi ih =>
      intro o ho
      rw [Cursor.occurrences_eq, hi] at ho
      rcases List.mem_append.1 ho with hfirst | hlater
      · obtain ⟨v, hv, rfl⟩ := List.mem_map.1 hfirst
        exact ⟨_, Option.mem_toList.1 hv⟩
      · exact ih o hlater
  obtain ⟨o, ho, rfl⟩ := List.mem_map.1 h
  exact hoccurs _ o ho

/-- A construct that is found with a reader that may fail was read by it. -/
theorem exists_of_mem_constructs_orStay {α : Type} {keyword : Keyword}
    {read? : List Char → Option (α × List Char)} {s : List Char} {v : α}
    (h : v ∈ constructs keyword (Scan.orStay read?) s) : ∃ t rest, read? t = some (v, rest) := by
  obtain ⟨t, ht⟩ := exists_of_mem_constructs h
  unfold Scan.orStay at ht
  cases hread : read? t with
  | none =>
    rw [hread] at ht
    cases ht
  | some found =>
    obtain ⟨value, rest⟩ := found
    rw [hread] at ht
    cases ht
    exact ⟨t, rest, hread⟩

/-- What is read as an identifier is one. -/
theorem Scan.isIdentifier_of_ident? {s w rest : List Char} (h : Scan.ident? s = some (w, rest)) :
    IsIdentifier w := by
  unfold Scan.ident? at h
  cases htake : s.takeWhile isIdent with
  | nil =>
    rw [htake] at h
    cases h
  | cons c t =>
    rw [htake] at h
    cases h
    have hall : ∀ x ∈ s.takeWhile isIdent, isIdent x = true := fun x hx => List.mem_takeWhile_imp hx
    rw [htake] at hall
    exact ⟨List.cons_ne_nil c t, hall⟩

/-- The name of a table block is an identifier. -/
theorem TableBlock.isIdentifier_name {s rest : List Char} {b : TableBlock}
    (h : TableBlock.tail? s = some (b, rest)) : IsIdentifier b.name := by
  unfold TableBlock.tail? at h
  simp only [Option.bind_eq_bind, Option.bind_eq_some_iff] at h
  obtain ⟨behind, -, ⟨name, behind⟩, hname, brace, -, ⟨body, behind⟩, -, hb⟩ := h
  cases hb
  exact Scan.isIdentifier_of_ident? hname

/-- The two names of a column of a table are identifiers. -/
theorem Reference.isIdentifier_columnRef {s rest : List Char} {r : ColumnRef}
    (h : Reference.columnRef? s = some (r, rest)) :
    IsIdentifier r.table.toList ∧ IsIdentifier r.column.toList := by
  unfold Reference.columnRef? at h
  simp only [Option.bind_eq_bind, Option.bind_eq_some_iff] at h
  obtain ⟨⟨table, behind⟩, htable, point, -, ⟨column, behind⟩, hcolumn, hr⟩ := h
  cases hr
  rw [String.toList_ofList, String.toList_ofList]
  exact ⟨Scan.isIdentifier_of_ident? htable, Scan.isIdentifier_of_ident? hcolumn⟩

/-- The names of a relationship that is read are identifiers. -/
theorem Reference.textSafe_of_tail? {s rest : List Char} {r : Relationship}
    (h : Reference.tail? s = some (r, rest)) : TextSafeRelationship r := by
  unfold Reference.tail? at h
  simp only [Option.bind_eq_bind, Option.bind_eq_some_iff] at h
  obtain ⟨colon, -, ⟨source, behind⟩, hsource, ⟨cardinality, behind⟩, -, ⟨target, behind⟩, htarget,
    hr⟩ := h
  cases hr
  obtain ⟨hsourceTable, hsourceColumn⟩ := Reference.isIdentifier_columnRef hsource
  obtain ⟨htargetTable, htargetColumn⟩ := Reference.isIdentifier_columnRef htarget
  exact ⟨hsourceTable, hsourceColumn, htargetTable, htargetColumn⟩

/-- What every setting leaves of a column a list of settings leaves of it. -/
theorem Column.applySettings_eq_of_apply {β : Type} {f : Column → β}
    (h : ∀ (c : Column) (setting : Setting), f (setting.apply c) = f c) (c : Column)
    (list : List Char) : f (c.applySettings list) = f c := by
  have hfold (settings : List (List Char)) (c : Column) :
      f (settings.foldl (fun c s => (Setting.ofText s).apply c) c) = f c := by
    induction settings generalizing c with
    | nil => rfl
    | cons s settings ih => rw [List.foldl_cons, ih, h]
  exact hfold _ c

/-- Settings leave the name of a column as it is. -/
theorem Column.name_applySettings (c : Column) (list : List Char) :
    (c.applySettings list).name = c.name :=
  applySettings_eq_of_apply (fun _ setting => by cases setting <;> rfl) c list

/-- Settings leave the type of a column as it is. -/
theorem Column.type_applySettings (c : Column) (list : List Char) :
    (c.applySettings list).type = c.type :=
  applySettings_eq_of_apply (fun _ setting => by cases setting <;> rfl) c list

/-- The name of a column that a line declares is an identifier. -/
theorem Column.isIdentifier_of_ofLine? {line : List Char} {c : Column}
    (h : Column.ofLine? line = some c) : IsIdentifier c.name.toList := by
  unfold Column.ofLine? at h
  simp only [Option.bind_eq_bind, Option.bind_eq_some_iff] at h
  obtain ⟨-, -, ⟨name, behind⟩, hname, blanks, -, ⟨type, behind⟩, -, hc⟩ := h
  have hident := Scan.isIdentifier_of_ident? hname
  split at hc
  · cases hc
    rw [Column.name_applySettings, String.toList_ofList]
    exact hident
  · cases hc
    rw [String.toList_ofList]
    exact hident

/-! ## Schemas -/

/-- The schema that a text declares, before foreign keys are flagged. -/
def Schema.declaredBy (s : List Char) : Schema where
  tables := (constructs TableBlock.keyword (Scan.orStay TableBlock.tail?) s).map TableBlock.table
  relationships := constructs Reference.keyword (Scan.orStay Reference.tail?) s

/-- Foreign keys are flagged in what a text declares. -/
theorem Schema.parse_eq (text : String) :
    Schema.parse text = (Schema.declaredBy text.toList).markForeignKeys := by
  unfold Schema.parse Schema.declaredBy constructs
  rw [List.map_map]
  rfl

/-- The names of a table and of its columns are identifiers. -/
structure Table.IdentifierNames (t : Table) : Prop where
  /-- The table has an identifier for a name. -/
  name : IsIdentifier t.name.toList
  /-- Its columns have identifiers for names. -/
  columns : ∀ c ∈ t.columns, IsIdentifier c.name.toList

/-- All names in a schema are identifiers. -/
structure Schema.IdentifierNames (s : Schema) : Prop where
  /-- Those of tables and columns are. -/
  tables : ∀ t ∈ s.tables, t.IdentifierNames
  /-- Those in relationships are. -/
  relationships : ∀ r ∈ s.relationships, TextSafeRelationship r

/-- The table without the flags of foreign keys. -/
def Table.unflagged (t : Table) : Table :=
  { t with columns := t.columns.map ({ · with isForeignKey := false }) }

/-- Flagging a foreign key changes nothing but the flag. -/
theorem Table.unflagged_markForeignKey (t : Table) (column : String) :
    (t.markForeignKey column).unflagged = t.unflagged := by
  have hcolumns := map_updateFirst (p := (·.name == column))
    (f := fun c : Column => { c with isForeignKey := true })
    (g := fun c : Column => { c with isForeignKey := false }) (fun _ => rfl) t.columns
  unfold Table.unflagged Table.markForeignKey
  rw [hcolumns]

/-- Flagging the foreign keys of a schema changes nothing in its tables but the flags. -/
theorem Schema.map_unflagged_markForeignKeys (s : Schema) :
    s.markForeignKeys.tables.map Table.unflagged = s.tables.map Table.unflagged :=
  s.map_tables_markForeignKeys Table.unflagged_markForeignKey

/-- What does not depend on the flags of foreign keys is not changed when they are set. -/
theorem Schema.map_markForeignKeys {β : Type} {g : Table → β} (hg : ∀ t, g t.unflagged = g t)
    (s : Schema) : s.markForeignKeys.tables.map g = s.tables.map g := by
  have hunflagged (tables : List Table) : tables.map g = (tables.map Table.unflagged).map g := by
    rw [List.map_map]
    exact List.map_congr_left fun t _ => (hg t).symm
  rw [hunflagged, Schema.map_unflagged_markForeignKeys, ← hunflagged]

/-- The names of a table do not depend on its flags. -/
theorem Table.identifierNames_unflagged {t : Table} :
    t.unflagged.IdentifierNames ↔ t.IdentifierNames := by
  constructor
  · rintro ⟨hname, hcolumns⟩
    refine ⟨hname, fun c hc => ?_⟩
    exact hcolumns { c with isForeignKey := false } (List.mem_map_of_mem hc)
  · rintro ⟨hname, hcolumns⟩
    refine ⟨hname, fun c hc => ?_⟩
    obtain ⟨a, ha, rfl⟩ := List.mem_map.1 hc
    exact hcolumns a ha

/-- The names of what a text declares are identifiers. -/
theorem Schema.identifierNames_declaredBy (s : List Char) :
    (Schema.declaredBy s).IdentifierNames := by
  constructor
  · intro t ht
    obtain ⟨b, hb, rfl⟩ := List.mem_map.1 ht
    obtain ⟨text, rest, hread⟩ := exists_of_mem_constructs_orStay hb
    constructor
    · show IsIdentifier (String.ofList b.name).toList
      rw [String.toList_ofList]
      exact TableBlock.isIdentifier_name hread
    · intro c hc
      obtain ⟨line, -, hline⟩ := List.mem_filterMap.1 hc
      exact Column.isIdentifier_of_ofLine? hline
  · intro r hr
    obtain ⟨text, rest, hread⟩ := exists_of_mem_constructs_orStay hr
    exact Reference.textSafe_of_tail? hread

/-- The names in the schema of a text are identifiers. -/
theorem Schema.identifierNames_parse (text : String) : (Schema.parse text).IdentifierNames := by
  rw [Schema.parse_eq]
  obtain ⟨htables, hrelationships⟩ := Schema.identifierNames_declaredBy text.toList
  refine ⟨fun t ht => ?_, hrelationships⟩
  -- A table has the names of the one it was before the flags.
  have hmem : t.unflagged ∈ (Schema.declaredBy text.toList).tables.map Table.unflagged := by
    rw [← Schema.map_unflagged_markForeignKeys]
    exact List.mem_map_of_mem ht
  obtain ⟨a, ha, heq⟩ := List.mem_map.1 hmem
  rw [← Table.identifierNames_unflagged, ← heq, Table.identifierNames_unflagged]
  exact htables a ha

end SchemaDiagram
