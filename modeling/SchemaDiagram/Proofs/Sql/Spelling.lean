import SchemaDiagram.Proofs.Sql.Draft

/-!
# Three spellings of a foreign key

A column that refers to another one can do so in its own definition, through a foreign key among the
definitions of its table, or through a foreign key that is added to the table afterwards. However
the columns are put together in foreign keys, the two spellings with foreign keys give the same
schema (`parse_spellings`). The first one gives it, too, just if the words of the references are
`Quiet`: otherwise the definition of the column is taken to say more than that it refers.
-/

namespace SchemaDiagram.Sql

open Character

/-! ## What a reference is taken for -/

/-- The words of a reference behind `REFERENCES`, in upper case. -/
def Target.words (r : Target) : List (List Char) :=
  [Text.upper r.table.text.toList, Text.upper r.column.text.toList]

/-- The words that number the values of a column. -/
def numberingWords : List String :=
  ["AUTO_INCREMENT", "AUTOINCREMENT", "IDENTITY"]

/-- A reference in the definition of a column of the given type is not taken for a flag or a
default. -/
structure Target.Quiet (type : Identifier) (r : Target) : Prop where
  /-- Its words are not those of a primary key. -/
  primaryKey : r.words ≠ ["PRIMARY", "KEY"].map String.toList
  /-- They are not those of a column that must have a value. -/
  notNull : r.words ≠ ["NOT", "NULL"].map String.toList
  /-- The word for distinct values is none of them. -/
  unique : "UNIQUE".toList ∉ r.words
  /-- The words for numbering are none of them, unless the type means that anyway. -/
  increment : isSerialType type.text.toList = true ∨ ∀ word ∈ numberingWords, word.toList ∉ r.words
  /-- The name of the table is not the word in front of a default. -/
  table : Text.sameLetters r.table.text.toList "default".toList = false
  /-- Nor is the name of the column. -/
  column : Text.sameLetters r.column.text.toList "default".toList = false

/-- The reference of a column, if it has one, is not taken for a flag or a default. -/
def ColumnDraft.Quiet (c : ColumnDraft) : Prop :=
  ∀ r ∈ c.target, r.Quiet c.type

/-- Whether a reference is quiet is found out from its words. -/
instance (type : Identifier) (r : Target) : Decidable (r.Quiet type) :=
  decidable_of_iff (r.words ≠ ["PRIMARY", "KEY"].map String.toList ∧
      r.words ≠ ["NOT", "NULL"].map String.toList ∧ (∀ word ∈ r.words, word ≠ "UNIQUE".toList) ∧
      (isSerialType type.text.toList = true ∨
        ∀ numbering ∈ numberingWords, ∀ word ∈ r.words, word ≠ numbering.toList) ∧
      Text.sameLetters r.table.text.toList "default".toList = false ∧
      Text.sameLetters r.column.text.toList "default".toList = false)
    ⟨fun ⟨hp, hn, hu, hi, ht, hc⟩ => ⟨hp, hn, fun hmem => hu _ hmem rfl,
        hi.imp_right fun h numbering hmem hword => h numbering hmem _ hword rfl, ht, hc⟩,
      fun ⟨hp, hn, hu, hi, ht, hc⟩ => ⟨hp, hn, fun _ hmem heq => hu (heq ▸ hmem),
        hi.imp_right fun h numbering hmem _ hword heq => h numbering hmem (heq ▸ hword), ht, hc⟩⟩

/-- So it is of the reference of a column. -/
instance (c : ColumnDraft) : Decidable c.Quiet :=
  inferInstanceAs (Decidable (∀ r ∈ c.target, r.Quiet c.type))

/-- The column that has its name and its type and nothing else. -/
def ColumnDraft.plainColumn (c : ColumnDraft) : Column where
  name := c.name.text
  type := String.ofList (canonicalType c.type.text.toList)
  isIncrement := isSerialType c.type.text.toList

variable {d : Dialect} {s : List Char}

/-- The words of the clause that refers to a column. -/
theorem upperWords_referenceClause (r : Target) :
    upperWords (blankQuoted false (referenceClause d (some r))) =
      "REFERENCES".toList :: r.words := by
  have hquote : '\'' ∉ referenceClause d (some r) :=
    not_mem_referenceClause (by decide) (by decide) (some r)
  have hword : identifiers " REFERENCES ".toList = ["REFERENCES".toList] := by decide +kernel
  have hparen : identifiers " (".toList = [] := by decide +kernel
  have hclose : identifiers [')'] = [] := by decide +kernel
  have hclause : identifiers (referenceClause d (some r)) =
      ["REFERENCES".toList, r.table.text.toList, r.column.text.toList] := by
    show identifiers (" REFERENCES ".toList ++ targetList d _ _) = _
    unfold targetList
    rw [List.map_singleton, commaSeparated_singleton, identifiers_append (Breaks.of_last rfl),
      identifiers_quote r.table.isIdentifier, identifiers_append (Breaks.of_last rfl),
      identifiers_quote r.column.isIdentifier, hword, hparen, hclose]
    rfl
  have hupper : Text.upper "REFERENCES".toList = "REFERENCES".toList := by decide +kernel
  rw [blankQuoted_of_not_mem hquote]
  show (identifiers _).map Text.upper = _
  rw [hclause, List.map_cons, hupper]
  rfl

/-- One word is a phrase of a reference if it is one of its words. -/
theorem hasPhrase_reference_singleton (r : Target) {w : String}
    (h : w.toList ≠ "REFERENCES".toList) :
    hasPhrase ("REFERENCES".toList :: r.words) [w] = true ↔ w.toList ∈ r.words := by
  unfold hasPhrase
  rw [Text.occursIn_iff, List.map_singleton, List.singleton_infix_iff, List.mem_cons,
    or_iff_right h]

/-- Two words are a phrase of a reference if they are its words. -/
theorem hasPhrase_reference (r : Target) {a b : String} (ha : "REFERENCES".toList ≠ a.toList) :
    hasPhrase ("REFERENCES".toList :: r.words) [a, b] = true ↔
      r.words = [a, b].map String.toList := by
  unfold hasPhrase Target.words
  rw [Text.occursIn_iff]
  exact Text.pair_infix_iff ha

/-- What comes behind the keyword of a default at once is one, if no single quote begins. -/
theorem defaultOf?_ne_none {x : Char} (hblank : isBlank x = false) (hquote : x ≠ '\'')
    {t : List Char} (h : Cursor.behind? "default".toList s = some (x :: t)) :
    defaultOf? s ≠ none := by
  obtain ⟨place, behind, hfind, hahead⟩ := WritableDefault.exists_of_behind h
  have hskip : Scan.skipBlanks behind.ahead = x :: t := by
    rw [hahead, Scan.skipBlanks_of_not hblank]
  unfold defaultOf?
  rw [hfind]
  simp only [Option.bind_eq_bind, Option.bind_some, hskip]
  split
  · next rest hcons => exact absurd (List.cons.inj hcons).1 hquote
  · rw [List.takeWhile_cons_of_pos (by simp [hblank])]
    simp only
    split <;> exact Option.some_ne_none _

/-- A reference has a default if one of its names is the word in front of defaults. -/
theorem defaultOf?_referenceClause (r : Target) :
    defaultOf? (referenceClause d (some r)) = none ↔
      Text.sameLetters r.table.text.toList "default".toList = false ∧
        Text.sameLetters r.column.text.toList "default".toList = false := by
  have hword : IsWord "default".toList := isWord_of_all rfl
  have hclose : d.closingQuote ≠ '\'' := by cases d <;> decide
  let columns := " (".toList ++ (d.quote r.column.text.toList ++ [')'])
  have htable : Cursor.behind? "default".toList (referenceClause d (some r)) =
      if Text.sameLetters r.table.text.toList "default".toList then
        some (d.closingQuote :: columns)
      else Cursor.behind? "default".toList columns := by
    show Cursor.behind? _ (" REFERENCES ".toList ++ targetList d _ _) = _
    unfold targetList
    rw [Cursor.behind?_append hword (by decide +kernel) (Breaks.of_last rfl),
      behind?_quote hword r.table.isIdentifier, List.map_singleton, commaSeparated_singleton]
  have hcolumn : Cursor.behind? "default".toList columns =
      if Text.sameLetters r.column.text.toList "default".toList then
        some (d.closingQuote :: [')'])
      else none := by
    simp only [columns]
    rw [Cursor.behind?_append hword (by decide +kernel) (Breaks.of_last rfl),
      behind?_quote hword r.column.isIdentifier]
    rfl
  cases ht : Text.sameLetters r.table.text.toList "default".toList with
  | true =>
    rw [ht, if_pos rfl] at htable
    simpa using defaultOf?_ne_none (isBlank_closingQuote d) hclose htable
  | false =>
    rw [ht, if_neg Bool.false_ne_true, hcolumn] at htable
    cases hc : Text.sameLetters r.column.text.toList "default".toList with
    | true =>
      rw [hc, if_pos rfl] at htable
      simpa using defaultOf?_ne_none (isBlank_closingQuote d) hclose htable
    | false =>
      rw [hc, if_neg Bool.false_ne_true] at htable
      simpa using WritableDefault.defaultOf?_none htable

/-- The column of a definition has just its name and its type if none of the phrases for flags and
no default is found in the reference. -/
theorem column_eq_plainColumn_of_target (name type : Identifier) (r : Target) :
    (ColumnDraft.mk name type (some r)).column d =
        (ColumnDraft.mk name type (some r)).plainColumn ↔
      hasPhrase ("REFERENCES".toList :: r.words) ["PRIMARY", "KEY"] = false ∧
        hasPhrase ("REFERENCES".toList :: r.words) ["NOT", "NULL"] = false ∧
        hasPhrase ("REFERENCES".toList :: r.words) ["UNIQUE"] = false ∧
        (isSerialType type.text.toList = true ∨ ∀ word ∈ numberingWords,
          hasPhrase ("REFERENCES".toList :: r.words) [word] = false) ∧
        defaultOf? (referenceClause d (some r)) = none := by
  show columnOf name.text.toList type.text.toList (referenceClause d (some r)) = _ ↔ _
  unfold columnOf ColumnDraft.plainColumn numberingWords
  simp only [upperWords_referenceClause, Column.mk.injEq, String.ofList_toList, true_and,
    and_true, Option.map_eq_none_iff]
  cases isSerialType type.text.toList <;> simp [and_assoc]

/-- A column is read with just its name and its type if and only if its reference is quiet. -/
theorem column_eq_plainColumn (c : ColumnDraft) : c.column d = c.plainColumn ↔ c.Quiet := by
  obtain ⟨name, type, target⟩ := c
  cases target with
  | none =>
    refine iff_of_true ?_ nofun
    have hwords : upperWords (blankQuoted false []) = [] := congrArg _ identifiers_nil
    have hdefault : defaultOf? [] = none := rfl
    show columnOf name.text.toList type.text.toList [] = _
    unfold columnOf
    simp only [hwords, hdefault]
    simp [hasPhrase, Text.occursIn, ColumnDraft.plainColumn]
  | some r =>
    have hprimary := hasPhrase_reference r (a := "PRIMARY") (b := "KEY") (by decide)
    have hnotNull := hasPhrase_reference r (a := "NOT") (b := "NULL") (by decide)
    have hunique := hasPhrase_reference_singleton r (w := "UNIQUE") (by decide)
    have hne : ∀ word ∈ numberingWords, word.toList ≠ "REFERENCES".toList := by decide
    have hnumbering (word : String) (hword : word ∈ numberingWords) :=
      hasPhrase_reference_singleton r (hne word hword)
    have hdefault := defaultOf?_referenceClause (d := d) r
    have hquiet : (ColumnDraft.mk name type (some r)).Quiet ↔ r.Quiet type :=
      ⟨fun h => h r rfl, fun h _ hmem => Option.some.inj hmem ▸ h⟩
    rw [column_eq_plainColumn_of_target, hquiet]
    constructor
    · rintro ⟨hp, hn, hu, hi, hd⟩
      rw [Bool.eq_false_iff] at hp hn hu
      constructor
      case primaryKey => exact mt hprimary.2 hp
      case notNull => exact mt hnotNull.2 hn
      case unique => exact mt hunique.2 hu
      case increment =>
        refine hi.imp id fun hnone word hword => ?_
        exact mt (hnumbering word hword).2 (Bool.eq_false_iff.1 (hnone word hword))
      case table => exact (hdefault.1 hd).1
      case column => exact (hdefault.1 hd).2
    · intro hr
      refine ⟨?_, ?_, ?_, hr.increment.imp id fun hnone word hword => ?_,
        hdefault.2 ⟨hr.table, hr.column⟩⟩
      · exact Bool.eq_false_iff.2 (mt hprimary.1 hr.primaryKey)
      · exact Bool.eq_false_iff.2 (mt hnotNull.1 hr.notNull)
      · exact Bool.eq_false_iff.2 (mt hunique.1 hr.unique)
      · exact Bool.eq_false_iff.2 (mt (hnumbering word hword).1 (hnone word hword))

/-! ## The spellings -/

/-- A table some columns of which refer to others, and foreign keys that stand for these
references. -/
structure ReferringTable where
  /-- The name of the table. -/
  name : Identifier
  /-- The columns, with what they refer to. -/
  columns : List ColumnDraft
  /-- There are columns. -/
  columns_ne_nil : columns ≠ []
  /-- Foreign keys among the definitions of the table. -/
  clauses : List KeyDraft
  /-- They stand for the references of the columns, in their order. -/
  references_clauses :
    clauses.flatMap KeyDraft.references = columns.filterMap ColumnDraft.reference?
  /-- Foreign keys that are added to the table, each with the name of its constraint. -/
  constraints : List (Identifier × KeyDraft)
  /-- They stand for the references of the columns, too. -/
  references_constraints :
    constraints.flatMap (fun c => c.2.references) = columns.filterMap ColumnDraft.reference?

/-- The column without what it refers to. -/
def ColumnDraft.withoutTarget (c : ColumnDraft) : ColumnDraft :=
  { c with target := none }

/-- The table that has the given columns and then the given foreign keys. -/
def tableOf (name : Identifier) (columns : List ColumnDraft) (keys : List KeyDraft) : TableDraft :=
  ⟨name, columns.map Definition.column ++ keys.map Definition.key⟩

namespace ReferringTable

/-- The table whose columns refer in their own definitions. -/
def withTargets (t : ReferringTable) : TableDraft :=
  tableOf t.name t.columns []

/-- The table with foreign keys among its definitions. -/
def withClauses (t : ReferringTable) : TableDraft :=
  tableOf t.name (t.columns.map ColumnDraft.withoutTarget) t.clauses

/-- The table without its references. -/
def bare (t : ReferringTable) : TableDraft :=
  tableOf t.name (t.columns.map ColumnDraft.withoutTarget) []

/-- The foreign keys that are added to the table. -/
def alterations (t : ReferringTable) : List Alteration :=
  t.constraints.map fun c => ⟨t.name, c.1, c.2⟩

/-- The script in which columns refer in their own definitions. -/
def targetScript (ts : List ReferringTable) : ScriptDraft :=
  ⟨ts.map withTargets, []⟩

/-- The script with foreign keys in the tables. -/
def clauseScript (ts : List ReferringTable) : ScriptDraft :=
  ⟨ts.map withClauses, []⟩

/-- The script that adds the foreign keys after all tables. -/
def alterScript (ts : List ReferringTable) : ScriptDraft :=
  ⟨ts.map bare, ts.flatMap alterations⟩

/-- The tables, with columns that have just their names and types, and a relationship for each
reference. -/
def plainSchema (ts : List ReferringTable) : Schema where
  tables := ts.map fun t => ⟨t.name.text, t.columns.map ColumnDraft.plainColumn⟩
  relationships := ts.flatMap fun t =>
    relationshipsOf t.name (t.columns.filterMap ColumnDraft.reference?)

end ReferringTable

/-! ## What the spellings declare -/

/-- The columns of a table are the given ones. -/
theorem columns_tableOf (name : Identifier) (columns : List ColumnDraft) (keys : List KeyDraft) :
    (tableOf name columns keys).columns = columns := by
  have hcolumns : Definition.column? ∘ Definition.column = some := rfl
  have hkeys : Definition.column? ∘ Definition.key = fun _ => none := rfl
  unfold tableOf TableDraft.columns
  rw [List.filterMap_append, List.filterMap_map, List.filterMap_map, hcolumns, hkeys]
  simp

/-- The references in a table are those of the given columns and foreign keys. -/
theorem references_tableOf (name : Identifier) (columns : List ColumnDraft)
    (keys : List KeyDraft) : (tableOf name columns keys).references =
      columns.filterMap ColumnDraft.reference? ++ keys.flatMap KeyDraft.references := by
  have hcolumns : Definition.key? ∘ Definition.column = fun _ => none := rfl
  have hkeys : Definition.key? ∘ Definition.key = some := rfl
  have hall : (tableOf name columns keys).definitions.filterMap Definition.key? = keys := by
    unfold tableOf
    rw [List.filterMap_append, List.filterMap_map, List.filterMap_map, hcolumns, hkeys]
    simp
  unfold TableDraft.references
  rw [columns_tableOf, hall]

/-- Columns without what they refer to have no references. -/
theorem reference?_withoutTarget (columns : List ColumnDraft) :
    (columns.map ColumnDraft.withoutTarget).filterMap ColumnDraft.reference? = [] := by
  rw [List.filterMap_map, List.filterMap_eq_nil_iff]
  exact fun _ _ => rfl

/-- Nothing but its name and its type is read of a column that refers to no other one. -/
theorem column_withoutTarget (c : ColumnDraft) : c.withoutTarget.column d = c.plainColumn :=
  (column_eq_plainColumn c.withoutTarget).2 nofun

/-- Tables that have columns are all read. -/
theorem tables_declared {f : ReferringTable → TableDraft} (h : ∀ t, (f t).columns ≠ [])
    (ts : List ReferringTable) (alterations : List Alteration) :
    ((ScriptDraft.mk (ts.map f) alterations).declared d).tables =
      ts.map fun t => (f t).table d := by
  unfold ScriptDraft.declared
  rw [List.map_map, List.filter_eq_self.2]
  · rfl
  · intro table hmem
    obtain ⟨t, -, rfl⟩ := List.mem_map.1 hmem
    simpa [TableDraft.table] using h t

namespace ReferringTable

/-- The table without references has columns. -/
theorem columns_bare (t : ReferringTable) (keys : List KeyDraft) :
    (tableOf t.name (t.columns.map ColumnDraft.withoutTarget) keys).columns ≠ [] := by
  rw [columns_tableOf]
  simpa using t.columns_ne_nil

/-- Without references in its columns a table is read with just their names and types. -/
theorem table_bare (t : ReferringTable) (keys : List KeyDraft) :
    (tableOf t.name (t.columns.map ColumnDraft.withoutTarget) keys).table d =
      ⟨t.name.text, t.columns.map ColumnDraft.plainColumn⟩ := by
  unfold TableDraft.table
  rw [columns_tableOf, List.map_map]
  exact congrArg _ (List.map_congr_left fun c _ => column_withoutTarget c)

/-- The script with foreign keys in the tables declares the plain schema. -/
theorem declared_clauseScript (ts : List ReferringTable) :
    (clauseScript ts).declared d = plainSchema ts := by
  have htables := tables_declared (d := d) (fun t => t.columns_bare t.clauses) ts []
  have hrelationships : ((clauseScript ts).declared d).relationships =
      (plainSchema ts).relationships := by
    unfold clauseScript ScriptDraft.declared plainSchema
    rw [List.flatMap_nil, List.append_nil, List.flatMap_map]
    refine List.flatMap_congr fun t _ => ?_
    unfold withClauses
    rw [references_tableOf, reference?_withoutTarget, List.nil_append, t.references_clauses]
    rfl
  simp only [table_bare] at htables
  exact congrArg₂ Schema.mk htables hrelationships

/-- The script that adds the foreign keys after all tables declares it, too. -/
theorem declared_alterScript (ts : List ReferringTable) :
    (alterScript ts).declared d = plainSchema ts := by
  have htables := tables_declared (d := d) (fun t => t.columns_bare []) ts
    (ts.flatMap alterations)
  have hnone : (ts.map bare).flatMap (fun t => relationshipsOf t.name t.references) = [] := by
    rw [List.flatMap_map, List.flatMap_eq_nil_iff]
    intro t _
    unfold bare
    rw [references_tableOf, reference?_withoutTarget]
    rfl
  have hrelationships : ((alterScript ts).declared d).relationships =
      (plainSchema ts).relationships := by
    unfold alterScript ScriptDraft.declared plainSchema
    rw [hnone, List.nil_append, List.flatMap_assoc]
    refine List.flatMap_congr fun t _ => ?_
    unfold alterations relationshipsOf
    rw [List.flatMap_map, ← t.references_constraints, List.map_flatMap]
  simp only [table_bare] at htables
  exact congrArg₂ Schema.mk htables hrelationships

/-- The script in which columns refer in their own definitions declares the same relationships. -/
theorem relationships_targetScript (ts : List ReferringTable) :
    ((targetScript ts).declared d).relationships = (plainSchema ts).relationships := by
  unfold targetScript ScriptDraft.declared plainSchema
  rw [List.flatMap_nil, List.append_nil, List.flatMap_map]
  refine List.flatMap_congr fun t _ => ?_
  unfold withTargets
  rw [references_tableOf, List.flatMap_nil, List.append_nil]
  rfl

/-- It declares the plain schema just if all references are quiet. -/
theorem declared_targetScript_iff (ts : List ReferringTable) :
    (targetScript ts).declared d = plainSchema ts ↔ ∀ t ∈ ts, ∀ c ∈ t.columns, c.Quiet := by
  have hcolumns (t : ReferringTable) : t.withTargets.columns ≠ [] := by
    unfold withTargets
    rw [columns_tableOf]
    exact t.columns_ne_nil
  have htables := tables_declared (d := d) hcolumns ts []
  have hrelationships := relationships_targetScript (d := d) ts
  have htable (t : ReferringTable) :
      t.withTargets.table d = ⟨t.name.text, t.columns.map ColumnDraft.plainColumn⟩ ↔
        ∀ c ∈ t.columns, c.Quiet := by
    unfold withTargets TableDraft.table
    rw [columns_tableOf, Table.mk.injEq, List.map_inj_left]
    simp only [tableOf, true_and, column_eq_plainColumn]
  calc (targetScript ts).declared d = plainSchema ts
      ↔ ((targetScript ts).declared d).tables = (plainSchema ts).tables :=
        ⟨congrArg Schema.tables, fun h => congrArg₂ Schema.mk h hrelationships⟩
    _ ↔ ∀ t ∈ ts, t.withTargets.table d = ⟨t.name.text, t.columns.map ColumnDraft.plainColumn⟩ := by
        rw [targetScript, htables]
        exact List.map_inj_left
    _ ↔ ∀ t ∈ ts, ∀ c ∈ t.columns, c.Quiet := by
        simp only [htable]

end ReferringTable

/-! ## The schema of the spellings -/

/-- The schemas that two scripts declare are equal if they are so with foreign keys flagged. -/
theorem markForeignKeys_declared_inj (a b : ScriptDraft) :
    (a.declared d).markForeignKeys = (b.declared d).markForeignKeys ↔
      a.declared d = b.declared d := by
  have hunflagged (a : ScriptDraft) :
      (a.declared d).markForeignKeys.unflagged = a.declared d := by
    rw [Schema.unflagged_markForeignKeys, ← declaredBy_text, unflagged_declaredBy]
  constructor
  · intro h
    rw [← hunflagged a, h, hunflagged b]
  · exact congrArg _

open ReferringTable in
/-- With foreign keys in the tables or added to them, the script of tables gives their plain schema
with foreign keys flagged; with columns that refer in their own definitions it does so if and only
if all references are quiet. -/
theorem parse_spellings {ts : List ReferringTable} (hne : ts ≠ []) (d : Dialect) :
    parse (String.ofList ((clauseScript ts).text d)) = .ok (plainSchema ts).markForeignKeys ∧
      parse (String.ofList ((alterScript ts).text d)) = .ok (plainSchema ts).markForeignKeys ∧
      (parse (String.ofList ((targetScript ts).text d)) = .ok (plainSchema ts).markForeignKeys ↔
        ∀ t ∈ ts, ∀ c ∈ t.columns, c.Quiet) := by
  obtain ⟨t, rest, rfl⟩ := List.exists_cons_of_ne_nil hne
  have hclauses := parse_text (d := d) (clauseScript (t :: rest))
    ⟨t.withClauses, List.mem_cons_self, t.columns_bare t.clauses⟩
  have halter := parse_text (d := d) (alterScript (t :: rest))
    ⟨t.bare, List.mem_cons_self, t.columns_bare []⟩
  have htargets := parse_text (d := d) (targetScript (t :: rest))
    ⟨t.withTargets, List.mem_cons_self, by
      unfold withTargets
      rw [columns_tableOf]
      exact t.columns_ne_nil⟩
  refine ⟨?_, ?_, ?_⟩
  · rw [hclauses, declared_clauseScript]
  · rw [halter, declared_alterScript]
  · rw [htargets, Except.ok.injEq, ← declared_clauseScript (d := d), markForeignKeys_declared_inj,
      declared_clauseScript, declared_targetScript_iff]

/-- Branches whose shop is known by two columns, and which may have another branch above them. -/
def branchTable : ReferringTable :=
  let id : Identifier := ⟨"id", isIdentifier_of_all rfl⟩
  let int : Identifier := ⟨"int", isIdentifier_of_all rfl⟩
  let branch : Identifier := ⟨"branch", isIdentifier_of_all rfl⟩
  let shop : Identifier := ⟨"shop", isIdentifier_of_all rfl⟩
  let region : Identifier := ⟨"region", isIdentifier_of_all rfl⟩
  let parent : Identifier := ⟨"foreign", isIdentifier_of_all rfl⟩
  { name := branch
    columns := [⟨id, ⟨"serial", isIdentifier_of_all rfl⟩, none⟩, ⟨shop, int, some ⟨shop, id⟩⟩,
      ⟨region, int, some ⟨shop, region⟩⟩, ⟨parent, int, some ⟨branch, id⟩⟩]
    columns_ne_nil := List.cons_ne_nil _ _
    clauses := [⟨shop, [(shop, id), (region, region)], List.cons_ne_nil _ _⟩,
      ⟨branch, [(parent, id)], List.cons_ne_nil _ _⟩]
    references_clauses := rfl
    constraints := [(shop, ⟨shop, [(shop, id)], List.cons_ne_nil _ _⟩),
      (region, ⟨shop, [(region, region)], List.cons_ne_nil _ _⟩),
      (parent, ⟨branch, [(parent, id)], List.cons_ne_nil _ _⟩)]
    references_constraints := rfl }

/-- The schema of that table. -/
def branchSchema : Schema where
  tables := [⟨"branch", [{ name := "id", type := "integer", isIncrement := true },
    { name := "shop", type := "integer", isForeignKey := true },
    { name := "region", type := "integer", isForeignKey := true },
    { name := "foreign", type := "integer", isForeignKey := true }]⟩]
  relationships := [manyToOne ⟨"branch", "shop"⟩ ⟨"shop", "id"⟩,
    manyToOne ⟨"branch", "region"⟩ ⟨"shop", "region"⟩,
    manyToOne ⟨"branch", "foreign"⟩ ⟨"branch", "id"⟩]

/-- A table with a column that refers to a table that is named like a flag. -/
def uniqueTable : ReferringTable :=
  let a : Identifier := ⟨"a", isIdentifier_of_all rfl⟩
  let id : Identifier := ⟨"id", isIdentifier_of_all rfl⟩
  let unique : Identifier := ⟨"unique", isIdentifier_of_all rfl⟩
  { name := ⟨"t", isIdentifier_of_all rfl⟩
    columns := [⟨a, ⟨"int", isIdentifier_of_all rfl⟩, some ⟨unique, id⟩⟩]
    columns_ne_nil := List.cons_ne_nil _ _
    clauses := [⟨unique, [(a, id)], List.cons_ne_nil _ _⟩]
    references_clauses := rfl
    constraints := [(unique, ⟨unique, [(a, id)], List.cons_ne_nil _ _⟩)]
    references_constraints := rfl }

open ReferringTable in
/-- The three scripts of the first table give one schema; of the second table, the script whose
column refers in its own definition gives another one, in which the column is unique. -/
theorem parse_spellings_branchTable :
    (parse (String.ofList ((clauseScript [branchTable]).text .postgreSql)) = .ok branchSchema ∧
      parse (String.ofList ((alterScript [branchTable]).text .postgreSql)) = .ok branchSchema ∧
      parse (String.ofList ((targetScript [branchTable]).text .postgreSql)) = .ok branchSchema) ∧
    parse (String.ofList ((targetScript [uniqueTable]).text .postgreSql)) ≠
      parse (String.ofList ((clauseScript [uniqueTable]).text .postgreSql)) ∧
    parse (String.ofList ((targetScript [uniqueTable]).text .postgreSql)) = .ok
      { tables := [⟨"t", [
          { name := "a", type := "integer", isForeignKey := true, isUnique := true }]⟩]
        relationships := [manyToOne ⟨"t", "a"⟩ ⟨"unique", "id"⟩] } := by
  have hschema : (plainSchema [branchTable]).markForeignKeys = branchSchema := by decide +kernel
  have hquiet : ∀ t ∈ [branchTable], ∀ c ∈ t.columns, c.Quiet := by decide +kernel
  have hloud : ¬∀ t ∈ [uniqueTable], ∀ c ∈ t.columns, c.Quiet := by decide +kernel
  obtain ⟨hclauses, halter, htargets⟩ :=
    parse_spellings (List.cons_ne_nil branchTable []) .postgreSql
  obtain ⟨hkeys, -, hown⟩ := parse_spellings (List.cons_ne_nil uniqueTable []) .postgreSql
  rw [hschema] at hclauses halter htargets
  refine ⟨⟨hclauses, halter, htargets.2 hquiet⟩, ?_, by decide +kernel⟩
  rw [hkeys]
  exact mt hown.1 hloud

end SchemaDiagram.Sql
