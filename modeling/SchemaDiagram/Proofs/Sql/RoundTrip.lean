import SchemaDiagram.Proofs.Schema.Basic
import SchemaDiagram.Proofs.Sql.Statement

/-!
# A schema through SQL and back

What is read from the script of a schema is known exactly: `readSchema` has the tables that have
columns, with all their columns in order, and all relationships, many-to-one. Columns keep their
names, flags and defaults, lose their notes, and have the types that the written types stand for.

If only the names and defaults matter, more schemas will do: `givenSchema` is what is read whatever
the defaults are called like, and whether or not columns have different names.
-/

namespace SchemaDiagram.Sql

open Character

/-! ## What comes back -/

/-- The column that comes back for a column. -/
def readColumn (d : Dialect) (c : Column) : Column :=
  { definedColumn d c with isPrimaryKey := c.isPrimaryKey }

/-- A column keeps its name. -/
theorem readColumn_name (d : Dialect) (c : Column) : (readColumn d c).name = c.name := by
  unfold readColumn definedColumn
  rfl

/-- The table that comes back for a table. -/
def readTable (d : Dialect) (t : Table) : Table :=
  ⟨t.name, t.columns.map (readColumn d)⟩

/-- The schema that comes back for a schema. -/
def readSchema (d : Dialect) (s : Schema) : Schema :=
  Schema.markForeignKeys
    { tables := (s.tables.filter (·.columns ≠ [])).map (readTable d)
      relationships := s.relationships.map fun r =>
        manyToOne r.endpoints.source r.endpoints.target }

/-- The statement that is read for a table. -/
def readStatement (d : Dialect) (t : Table) : CreateTable :=
  ⟨t.name.toList, bareBody d t⟩

variable {d : Dialect} {s : List Char}

/-! ## The statements of a script -/

/-- A table with columns is a statement that creates it, between line breaks. -/
theorem bareTable_append {t : Table} (hne : t.columns ≠ []) (d : Dialect) (s : List Char) :
    bareTable d t ++ s = '\n' :: '\n' :: ("CREATE".toList ++
      (createText d t.name.toList (bareBody d t) ++ '\n' :: s)) := by
  have hhead : "\n\nCREATE TABLE ".toList =
      '\n' :: '\n' :: ("CREATE".toList ++ " TABLE ".toList) := rfl
  have hfoot : ");\n".toList = ");".toList ++ ['\n'] := rfl
  unfold bareTable createText
  rw [if_neg hne, hhead, hfoot]
  simp only [List.append_assoc, List.cons_append, List.nil_append]

/-- A relationship is a statement that adds the constraint for its foreign key, between line
breaks. -/
theorem bareRelationship_append (d : Dialect) (r : Relationship) (s : List Char) :
    bareRelationship d r ++ s =
      '\n' :: '\n' :: ("ALTER".toList ++ (alterText d r.endpoints.source.table.toList
        (addedConstraint d (constraintName r) (foreignKeyOf r)) ++ '\n' :: s)) := by
  have hhead : "ALTER TABLE ".toList = "ALTER".toList ++ " TABLE ".toList := rfl
  unfold bareRelationship alterText
  rw [bareConstraint_eq, hhead]
  simp only [List.append_assoc, List.cons_append, List.nil_append]

/-- A table with columns is read as one statement. -/
theorem constructs_create_bareTable {t : Table} (ht : WritableTable t) (d : Dialect)
    (s : List Char) :
    constructs CreateTable.keyword (Scan.orStay CreateTable.tail?) (bareTable d t ++ s) =
      (if t.columns = [] then [] else [readStatement d t]) ++
        constructs CreateTable.keyword (Scan.orStay CreateTable.tail?) s := by
  have h := twoWords_create
  -- A table without columns has left three line breaks.
  by_cases hnil : t.columns = []
  · unfold bareTable
    rw [if_pos hnil, if_pos hnil]
    exact h.constructs_words [] (by decide +kernel) rfl (by simp) s
  · rw [bareTable_append hnil, constructs_cons h.first rfl, constructs_cons h.first rfl,
      constructs_create_createText ht.name (semicolon_not_mem_bareBody ht d),
      constructs_cons h.first rfl, if_neg hnil]
    rfl

/-- A relationship is no statement that creates a table. -/
theorem constructs_create_bareRelationship {r : Relationship} (hr : PortableRelationship r)
    (d : Dialect) (s : List Char) :
    constructs CreateTable.keyword (Scan.orStay CreateTable.tail?) (bareRelationship d r ++ s) =
      constructs CreateTable.keyword (Scan.orStay CreateTable.tail?) s := by
  have h := twoWords_create
  rw [bareRelationship_append, constructs_cons h.first rfl, constructs_cons h.first rfl,
    constructs_create_alterText hr.sourceTable (isIdentifier_constraintName hr)
      (writable_foreignKeyOf hr), constructs_cons h.first rfl]

/-- A table is no statement that alters one. -/
theorem constructs_alter_bareTable {t : Table} (ht : WritableTable t) (d : Dialect)
    (s : List Char) :
    constructs alterKeyword alterTail.on (bareTable d t ++ s) =
      constructs alterKeyword alterTail.on s := by
  have h := twoWords_alter
  by_cases hnil : t.columns = []
  · unfold bareTable
    rw [if_pos hnil]
    exact h.constructs_words [] (by decide +kernel) rfl (by simp) s
  · rw [bareTable_append hnil, constructs_cons h.first rfl, constructs_cons h.first rfl,
      constructs_alter_createText ht.name
        (fun _ => h.constructs_bareBody ht d (by decide) (by decide)), constructs_cons h.first rfl]

/-- A relationship is read as one statement. -/
theorem constructs_alter_bareRelationship {r : Relationship} (hr : PortableRelationship r)
    (d : Dialect) (s : List Char) :
    constructs alterKeyword alterTail.on (bareRelationship d r ++ s) =
      (r.endpoints.source.table.toList, bareConstraint d r) ::
        constructs alterKeyword alterTail.on s := by
  have h := twoWords_alter
  have hsemicolon := semicolon_not_mem_addedConstraint (isIdentifier_constraintName hr)
    (writable_foreignKeyOf hr) d
  rw [bareRelationship_append, constructs_cons h.first rfl, constructs_cons h.first rfl,
    constructs_alter_alterText hr.sourceTable hsemicolon (by simp [head?_addedConstraint]),
    constructs_cons h.first rfl, bareConstraint_eq]

/-- The statements that create tables are those of the tables with columns. -/
theorem findAll_bareScript {schema : Schema} (hs : WritableSchema schema) (d : Dialect) :
    CreateTable.findAll (bareScript d schema) =
      (schema.tables.filter (·.columns ≠ [])).map (readStatement d) := by
  have htables := constructs_flatMap
    fun t ht s => constructs_create_bareTable (hs.tables t ht) d s
  have hrelationships := constructs_flatMap_idle
    (fun r hr s => constructs_create_bareRelationship (hs.relationships r hr) d s) []
  rw [List.append_nil, constructs_nil] at hrelationships
  have hfilter (tables : List Table) :
      (tables.flatMap fun t => if t.columns = [] then [] else [readStatement d t]) =
        (tables.filter (·.columns ≠ [])).map (readStatement d) := by
    induction tables with
    | nil => rfl
    | cons t tables ih =>
      rw [List.flatMap_cons, ih, List.filter_cons]
      by_cases hnil : t.columns = []
      · simp [hnil]
      · simp [hnil]
  show constructs _ _ (bareScript d schema) = _
  unfold bareScript
  rw [htables, hrelationships, List.append_nil, hfilter]

/-- The statements that alter tables are those of the relationships. -/
theorem constructs_alter_bareScript {schema : Schema} (hs : WritableSchema schema) (d : Dialect) :
    constructs alterKeyword alterTail.on (bareScript d schema) =
      schema.relationships.map fun r =>
        (r.endpoints.source.table.toList, bareConstraint d r) := by
  have htables := constructs_flatMap_idle
    fun t ht s => constructs_alter_bareTable (hs.tables t ht) d s
  have hrelationships := constructs_flatMap
    (g := fun r => [(r.endpoints.source.table.toList, bareConstraint d r)])
    (fun r hr s => constructs_alter_bareRelationship (hs.relationships r hr) d s) []
  rw [List.append_nil, constructs_nil, List.append_nil, ← List.map_eq_flatMap] at hrelationships
  unfold bareScript
  rw [htables, hrelationships]

/-! ## The table of a statement -/

/-- Keys that are other names do not change the first column. -/
theorem foldl_markPrimaryKey_cons {c : Column} {keys : List (List Char)} (columns : List Column)
    (h : ∀ key ∈ keys, Text.sameLetters c.name.toList key = false) :
    keys.foldl CreateTable.markPrimaryKey (c :: columns) =
      c :: keys.foldl CreateTable.markPrimaryKey columns := by
  induction keys generalizing columns with
  | nil => rfl
  | cons key keys ih =>
    have hkey : CreateTable.markPrimaryKey (c :: columns) key =
        c :: CreateTable.markPrimaryKey columns key :=
      updateFirst_of_neg columns (h key List.mem_cons_self)
    rw [List.foldl_cons, hkey, ih _ fun k hk => h k (List.mem_cons_of_mem _ hk), List.foldl_cons]

/-- The names of the key put just its columns into the primary key. -/
theorem foldl_markPrimaryKey (d : Dialect) {columns : List Column}
    (hdistinct : columns.Pairwise fun a b =>
      Text.sameLetters a.name.toList b.name.toList = false) :
    ((columns.filter (·.isPrimaryKey)).map (·.name.toList)).foldl CreateTable.markPrimaryKey
      (columns.map (definedColumn d)) = columns.map (readColumn d) := by
  induction columns with
  | nil => rfl
  | cons c columns ih =>
    obtain ⟨hc, hrest⟩ := List.pairwise_cons.1 hdistinct
    have hother : ∀ key ∈ (columns.filter (·.isPrimaryKey)).map (·.name.toList),
        Text.sameLetters (readColumn d c).name.toList key = false := by
      intro key hkey
      obtain ⟨b, hb, rfl⟩ := List.mem_map.1 hkey
      rw [readColumn_name]
      exact hc b (List.mem_of_mem_filter hb)
    rw [List.filter_cons, List.map_cons, List.map_cons]
    -- The first column is marked by its own name and not found by those of the others.
    split
    · next hprimary =>
      have hmark : CreateTable.markPrimaryKey (definedColumn d c :: columns.map (definedColumn d))
          c.name.toList = readColumn d c :: columns.map (definedColumn d) := by
        unfold CreateTable.markPrimaryKey readColumn
        rw [updateFirst_of_pos _ (by simp [definedColumn, Text.sameLetters]), hprimary]
      rw [List.map_cons, List.foldl_cons, hmark, foldl_markPrimaryKey_cons _ hother, ih hrest]
    · next hprimary =>
      have hsame : definedColumn d c = readColumn d c := by
        unfold readColumn
        rw [Bool.not_eq_true] at hprimary
        rw [hprimary]
        rfl
      rw [hsame, foldl_markPrimaryKey_cons _ hother, ih hrest]

/-- The columns of a statement are those of its table. -/
theorem columns_readStatement {t : Table} (ht : WritableTable t) (d : Dialect)
    (hne : t.columns ≠ []) :
    (readStatement d t).columns = t.columns.map fun c => (givenColumn d c, none) :=
  declared_bareBody ht d hne

/-- The table that is read from the statement of a table. -/
def givenTable (d : Dialect) (t : Table) : Table :=
  ⟨t.name, (keyNames t).foldl CreateTable.markPrimaryKey (t.columns.map (givenColumn d))⟩

/-- The table of a statement is read from its columns and from the names of its key. -/
theorem table_readStatement {t : Table} (ht : WritableTable t) (d : Dialect)
    (hne : t.columns ≠ []) : (readStatement d t).table = givenTable d t := by
  have hkeys : (readStatement d t).primaryKeys = keyNames t := by
    have hconstructs := constructs_primary_bareBody ht d
    have hflatten := primaryKeys_eq (readStatement d t)
    rw [hflatten]
    show (constructs _ _ (bareBody d t)).flatten = _
    rw [hconstructs]
    split
    · next hnil => rw [hnil, List.flatten_nil]
    · simp
  have hfirst : (t.columns.map fun c => (givenColumn d c, (none : Option ColumnRef))).map (·.1) =
      t.columns.map (givenColumn d) := by
    simp
  unfold CreateTable.table givenTable
  rw [hkeys, columns_readStatement ht d hne, hfirst]
  show Table.mk (String.ofList t.name.toList) _ = _
  rw [String.ofList_toList]

/-- All of a table is read back if SQL gives it back. -/
theorem givenTable_eq {t : Table} (ht : PortableTable t) (d : Dialect) :
    givenTable d t = readTable d t := by
  have hcolumns : t.columns.map (givenColumn d) = t.columns.map (definedColumn d) :=
    List.map_congr_left fun c hc => givenColumn_eq (ht.columns c hc) d
  unfold givenTable readTable
  rw [hcolumns, keyNames, foldl_markPrimaryKey d ht.distinct]

/-- A statement that creates a table declares no relationships. -/
theorem relationships_readStatement {t : Table} (ht : WritableTable t) (d : Dialect)
    (hne : t.columns ≠ []) : (readStatement d t).relationships = [] := by
  have h := twoWords_foreign
  have hforeign : constructs ForeignKey.keyword ForeignKey.tail.on (bareBody d t) = [] := by
    have hbody := h.constructs_bareBody ht d (by decide) (by decide) (NotAhead.nil h.second)
    rwa [List.append_nil, constructs_nil] at hbody
  have hkeys : foreignKeys (readStatement d t).name (readStatement d t).body =
      (constructs ForeignKey.keyword ForeignKey.tail.on (bareBody d t)).flatMap
        (·.relationships t.name.toList) := rfl
  unfold CreateTable.relationships
  rw [hkeys, hforeign, columns_readStatement ht d hne]
  simp

/-- The relationship of a statement is read back, many-to-one. -/
theorem foreignKeys_bareConstraint {r : Relationship} (hr : PortableRelationship r) (d : Dialect) :
    foreignKeys r.endpoints.source.table.toList (bareConstraint d r) =
      [manyToOne r.endpoints.source r.endpoints.target] := by
  rw [bareConstraint_eq, foreignKeys_addedConstraint (isIdentifier_constraintName hr)
    (writable_foreignKeyOf hr)]
  simp [foreignKeyOf, ForeignKey.relationships]

/-! ## The schema of a script -/

/-- The schema that is read from the script of a schema. -/
def givenSchema (d : Dialect) (s : Schema) : Schema :=
  Schema.markForeignKeys
    { tables := (s.tables.filter (·.columns ≠ [])).map (givenTable d)
      relationships := s.relationships.map fun r =>
        manyToOne r.endpoints.source r.endpoints.target }

/-- What of a column is read back whatever its default is called like. -/
def entry (c : Column) : String × Option String :=
  (c.name, c.defaultValue)

/-- The columns of a table that is read keep their names and defaults. -/
theorem map_entry_givenTable {t : Table} (ht : WritableTable t) (d : Dialect) :
    (givenTable d t).columns.map entry = t.columns.map entry := by
  have hkey (c : Column) : entry { c with isPrimaryKey := true } = entry c := rfl
  have hmark (keys : List (List Char)) (columns : List Column) :
      (keys.foldl CreateTable.markPrimaryKey columns).map entry = columns.map entry := by
    induction keys generalizing columns with
    | nil => rfl
    | cons key keys ih => exact (ih _).trans (map_updateFirst hkey columns)
  unfold givenTable
  rw [hmark, List.map_map]
  refine List.map_congr_left fun c hc => ?_
  show (_, _) = _
  rw [name_givenColumn, defaultValue_givenColumn (ht.columns c hc)]
  rfl

/-- The tables and relationships of a bare script are read back. -/
theorem schemaOf_bareScript_of_writable {schema : Schema} (hs : WritableSchema schema)
    (d : Dialect) : schemaOf (bareScript d schema) = givenSchema d schema := by
  have hwritable : ∀ t ∈ schema.tables.filter (·.columns ≠ []),
      WritableTable t ∧ t.columns ≠ [] := by
    intro t ht
    obtain ⟨hmem, hne⟩ := List.mem_filter.1 ht
    exact ⟨hs.tables t hmem, by simpa using hne⟩
  have htables : (((schema.tables.filter (·.columns ≠ [])).map (readStatement d)).map
      CreateTable.table).filter (·.columns ≠ []) =
        (schema.tables.filter (·.columns ≠ [])).map (givenTable d) := by
    rw [List.map_map, List.filter_eq_self.2]
    · exact List.map_congr_left fun t ht =>
        table_readStatement (hwritable t ht).1 d (hwritable t ht).2
    · intro t ht
      obtain ⟨u, hu, rfl⟩ := List.mem_map.1 ht
      obtain ⟨hw, hne⟩ := hwritable u hu
      rw [Function.comp_apply, table_readStatement hw d hne, decide_eq_true_iff]
      intro hnil
      have hentries := map_entry_givenTable hw d
      rw [hnil, List.map_nil] at hentries
      exact hne (List.map_eq_nil_iff.1 hentries.symm)
  -- All relationships come from the statements that alter tables.
  have hdeclared : ((schema.tables.filter (·.columns ≠ [])).map (readStatement d)).flatMap
      CreateTable.relationships = [] := by
    rw [List.flatMap_map, List.flatMap_eq_nil_iff]
    intro t ht
    exact relationships_readStatement (hwritable t ht).1 d (hwritable t ht).2
  have haltered : alteredForeignKeys (bareScript d schema) = schema.relationships.map fun r =>
      manyToOne r.endpoints.source r.endpoints.target := by
    calc alteredForeignKeys (bareScript d schema)
        = schema.relationships.flatMap fun r =>
            foreignKeys r.endpoints.source.table.toList (bareConstraint d r) := by
          rw [alteredForeignKeys_eq, constructs_alter_bareScript hs, List.flatMap_map]
      _ = schema.relationships.flatMap fun r =>
            [manyToOne r.endpoints.source r.endpoints.target] :=
          List.flatMap_congr fun r hr => foreignKeys_bareConstraint (hs.relationships r hr) d
      _ = schema.relationships.map fun r => manyToOne r.endpoints.source r.endpoints.target :=
          List.map_eq_flatMap.symm
  unfold schemaOf givenSchema
  simp only [findAll_bareScript hs, htables, hdeclared, haltered, List.nil_append]

/-- The schema of a bare script is read back if SQL gives it back. -/
theorem schemaOf_bareScript {schema : Schema} (hs : PortableSchema schema) (d : Dialect) :
    schemaOf (bareScript d schema) = readSchema d schema := by
  have htables : (schema.tables.filter (·.columns ≠ [])).map (givenTable d) =
      (schema.tables.filter (·.columns ≠ [])).map (readTable d) :=
    List.map_congr_left fun t ht => givenTable_eq (hs.tables t (List.mem_of_mem_filter ht)) d
  rw [schemaOf_bareScript_of_writable hs.writable]
  unfold givenSchema readSchema
  rw [htables]

/-- A line break in front of a script does not change its schema. -/
theorem schemaOf_cons (script : List Char) : schemaOf ('\n' :: script) = schemaOf script := by
  have hcreate : CreateTable.findAll ('\n' :: script) = CreateTable.findAll script :=
    constructs_cons twoWords_create.first rfl
  have haltered : alteredForeignKeys ('\n' :: script) = alteredForeignKeys script := by
    rw [alteredForeignKeys_eq, alteredForeignKeys_eq, constructs_cons twoWords_alter.first rfl]
  unfold schemaOf
  rw [hcreate, haltered]

/-- What is read from the script of a schema, in any dialect. -/
theorem parse_print_of_portable {s : Schema} (hs : PortableSchema s) (d : Dialect)
    (hcolumns : ∃ t ∈ s.tables, t.columns ≠ []) : parse (print d s) = .ok (readSchema d s) := by
  obtain ⟨t, ht, hne⟩ := hcolumns
  have hscript : schemaOf (stripComments (print d s).toList) = readSchema d s := by
    calc schemaOf (stripComments (print d s).toList)
        = schemaOf ('\n' :: stripComments (print d s).toList) := (schemaOf_cons _).symm
      _ = schemaOf (bareScript d s) := by rw [stripComments_print hs d (List.ne_nil_of_mem ht)]
      _ = readSchema d s := schemaOf_bareScript hs d
  -- A table with columns is left, so the script is not refused.
  have htables : (readSchema d s).tables ≠ [] := by
    intro hnil
    have hlength := Schema.length_tables_markForeignKeys
      { tables := (s.tables.filter (·.columns ≠ [])).map (readTable d)
        relationships := s.relationships.map fun r =>
          manyToOne r.endpoints.source r.endpoints.target }
    unfold readSchema at hnil
    rw [hnil, List.length_nil, List.length_map] at hlength
    have hmem : t ∈ s.tables.filter (·.columns ≠ []) := List.mem_filter.2 ⟨ht, by simpa using hne⟩
    exact absurd hlength.symm (Nat.pos_iff_ne_zero.1 (List.length_pos_of_mem hmem))
  unfold parse
  simp only [hscript]
  rw [if_neg htables]

/-- A schema whose names, types and defaults are words of SQL. -/
def keywordSchema : Schema :=
  { tables :=
      [⟨"table", [
        { name := "primary", type := "integer", isPrimaryKey := true, isIncrement := true },
        { name := "key", type := "alter", isPrimaryKey := true, isUnique := true,
          defaultValue := some "\x60references()\x60", note := some "it's -- a\nnote" }]⟩,
      ⟨"create", []⟩]
    relationships := [⟨⟨⟨"table", "key"⟩, ⟨"create", "foreign"⟩⟩, .oneToOne⟩] }

/-- Words of SQL come back as the names, types and defaults that they were. -/
theorem parse_print_keywordSchema :
    parse (print .mySql keywordSchema) = .ok
      { tables :=
          [⟨"table", [
            { name := "primary", type := "integer", isPrimaryKey := true, isIncrement := true },
            { name := "key", type := "alter", isPrimaryKey := true, isForeignKey := true,
              isUnique := true, defaultValue := some "\x60references()\x60" }]⟩]
        relationships := [⟨⟨⟨"table", "key"⟩, ⟨"create", "foreign"⟩⟩, .manyToOne⟩] } := by
  have hcall : PortableDefault "\x60references()\x60".toList :=
    PortableDefault.call (f := "references".toList) (by decide) (List.all_eq_true.1 rfl) (by decide)
  have hportable : PortableSchema keywordSchema := by
    refine ⟨fun t ht => ?_, fun r hr => ?_⟩
    · simp only [keywordSchema, List.mem_cons, List.not_mem_nil, or_false] at ht
      rcases ht with rfl | rfl
      · refine ⟨isIdentifier_of_all rfl, fun c hc => ?_, by decide⟩
        simp only [List.mem_cons, List.not_mem_nil, or_false] at hc
        rcases hc with rfl | rfl
        · exact ⟨isIdentifier_of_all rfl, by decide, List.all_eq_true.1 rfl, by simp⟩
        · refine ⟨isIdentifier_of_all rfl, by decide, List.all_eq_true.1 rfl, fun v hv => ?_⟩
          rw [← Option.some.inj hv]
          exact hcall
      · exact ⟨isIdentifier_of_all rfl, by simp, List.Pairwise.nil⟩
    · rw [List.mem_singleton.1 hr]
      exact ⟨isIdentifier_of_all rfl, isIdentifier_of_all rfl, isIdentifier_of_all rfl,
        isIdentifier_of_all rfl⟩
  rw [parse_print_of_portable hportable .mySql ⟨_, List.mem_cons_self, List.cons_ne_nil _ _⟩]
  decide +kernel

end SchemaDiagram.Sql
