import SchemaDiagram.Proofs.Sql.Concatenation
import SchemaDiagram.Proofs.Sql.Statement

/-!
# Scripts from drafts

A `ScriptDraft` says what a script declares: tables with definitions of columns and of foreign keys,
and foreign keys that are added to tables. Columns may refer to others by themselves. All names in
it are identifiers, whatever words of SQL they are. Written in the quotes of a dialect, the script
declares what the draft says (`declaredBy_text`), and each column is read from its type and from the
clause that refers to another column.
-/

namespace SchemaDiagram.Sql

open Character

/-! ## Drafts -/

/-- A name that can be written in quotes. -/
structure Identifier where
  /-- The name. -/
  text : String
  /-- It is an identifier. -/
  isIdentifier : IsIdentifier text.toList

/-- A column of a table that another column refers to. -/
structure Target where
  /-- The name of the table. -/
  table : Identifier
  /-- The name of the column. -/
  column : Identifier

/-- A target without what is known of its names. -/
def Target.ref (r : Target) : ColumnRef :=
  ⟨r.table.text, r.column.text⟩

/-- A column of a table. -/
structure ColumnDraft where
  /-- The name of the column. -/
  name : Identifier
  /-- The type of the column, without a size. -/
  type : Identifier
  /-- The column that its definition refers to. -/
  target : Option Target

/-- A foreign key. -/
structure KeyDraft where
  /-- The table that is referred to. -/
  target : Identifier
  /-- The columns that refer, each with the one that it refers to. -/
  pairs : List (Identifier × Identifier)
  /-- There are such columns. -/
  pairs_ne_nil : pairs ≠ []

/-- What a table is made of. -/
inductive Definition where
  /-- A column. -/
  | column (c : ColumnDraft)
  /-- A foreign key. -/
  | key (k : KeyDraft)

/-- A table. -/
structure TableDraft where
  /-- The name of the table. -/
  name : Identifier
  /-- What it is made of. -/
  definitions : List Definition

/-- A foreign key that is added to a table. -/
structure Alteration where
  /-- The table. -/
  table : Identifier
  /-- The name of the constraint. -/
  constraint : Identifier
  /-- The foreign key. -/
  key : KeyDraft

/-- What a script declares. -/
structure ScriptDraft where
  /-- The tables that it creates. -/
  tables : List TableDraft
  /-- The foreign keys that it adds afterwards. -/
  alterations : List Alteration

/-! ## Their text -/

variable (d : Dialect)

/-- The clause behind the type of a column that refers to another one. -/
def referenceClause : Option Target → List Char
  | none => []
  | some r => " REFERENCES ".toList ++ targetList d r.table.text.toList [r.column.text.toList]

/-- The definition of a column. -/
def ColumnDraft.text (c : ColumnDraft) : List Char :=
  "  ".toList ++ (d.quote c.name.text.toList ++
    ' ' :: (c.type.text.toList ++ referenceClause d c.target))

/-- The clause that declares a foreign key. -/
def KeyDraft.key (k : KeyDraft) : ForeignKey :=
  ⟨k.pairs.map (·.1.text.toList), k.target.text.toList, k.pairs.map (·.2.text.toList)⟩

/-- A definition, which is on lines of its own. -/
def Definition.text : Definition → List Char
  | column c => c.text d
  | key k => foreignClause d k.key

/-- A definition without a note. -/
def Definition.unnoted (x : Definition) : List Char × Option String :=
  (x.text d, none)

/-- The text in the parentheses of a table. -/
def TableDraft.body (t : TableDraft) : List Char :=
  bareDefinitions (t.definitions.map (Definition.unnoted d)) ++ ['\n']

/-- The statement that creates a table. -/
def TableDraft.text (t : TableDraft) : List Char :=
  "CREATE".toList ++ (createText d t.name.text.toList (t.body d) ++ ['\n'])

/-- The constraint of a foreign key that is added. -/
def Alteration.statement (a : Alteration) : List Char :=
  addedConstraint d a.constraint.text.toList a.key.key

/-- The statement that adds a foreign key. -/
def Alteration.text (a : Alteration) : List Char :=
  "ALTER".toList ++ (alterText d a.table.text.toList (a.statement d) ++ ['\n'])

/-- A script: the tables, and then the foreign keys that are added. -/
def ScriptDraft.text (s : ScriptDraft) : List Char :=
  s.tables.flatMap (·.text d) ++ s.alterations.flatMap (·.text d)

/-! ## What they declare -/

/-- The column that is read, with the flags and the default that its clause is taken for. -/
def ColumnDraft.column (c : ColumnDraft) : Column :=
  columnOf c.name.text.toList c.type.text.toList (referenceClause d c.target)

/-- The reference of a column, if it has one. -/
def ColumnDraft.reference? (c : ColumnDraft) : Option (Identifier × Target) :=
  c.target.map (c.name, ·)

/-- The references that a foreign key stands for. -/
def KeyDraft.references (k : KeyDraft) : List (Identifier × Target) :=
  k.pairs.map fun (column, target) => (column, ⟨k.target, target⟩)

/-- The relationships of a table with the given references. -/
def relationshipsOf (table : Identifier) (references : List (Identifier × Target)) :
    List Relationship :=
  references.map fun (column, target) => manyToOne ⟨table.text, column.text⟩ target.ref

/-- The column of a definition. -/
def Definition.column? : Definition → Option ColumnDraft
  | column c => some c
  | key _ => none

/-- The foreign key of a definition. -/
def Definition.key? : Definition → Option KeyDraft
  | column _ => none
  | key k => some k

/-- The columns of a table. -/
def TableDraft.columns (t : TableDraft) : List ColumnDraft :=
  t.definitions.filterMap Definition.column?

/-- The references in a table: those of its columns, and then those of its foreign keys. -/
def TableDraft.references (t : TableDraft) : List (Identifier × Target) :=
  t.columns.filterMap ColumnDraft.reference? ++
    (t.definitions.filterMap Definition.key?).flatMap KeyDraft.references

/-- The table that is read. -/
def TableDraft.table (t : TableDraft) : Table :=
  ⟨t.name.text, t.columns.map (·.column d)⟩

/-- The tables and relationships that are read. A table without columns is not. -/
def ScriptDraft.declared (s : ScriptDraft) : Schema where
  tables := (s.tables.map (·.table d)).filter (·.columns ≠ [])
  relationships := (s.tables.flatMap fun t => relationshipsOf t.name t.references) ++
    s.alterations.flatMap fun a => relationshipsOf a.table a.key.references

variable {d} {s : List Char}

/-! ## Reading a column -/

/-- The marks in the clause that refers to a column. -/
def referenceMarks : List Char :=
  ' ' :: '(' :: ')' :: quoteMarks

/-- No other mark is in the clause that refers to a column. -/
theorem not_mem_referenceClause {x : Char} (hident : isIdent x = false)
    (hmark : x ∉ referenceMarks) (target : Option Target) : x ∉ referenceClause d target := by
  have hquote {name : Identifier} : x ∉ d.quote name.text.toList :=
    not_mem_quote name.isIdentifier hident fun hmem => hmark (by simp [referenceMarks, hmem])
  cases target with
  | none => exact List.not_mem_nil
  | some r =>
    unfold referenceClause targetList
    simp only [List.map_singleton, commaSeparated_singleton, List.mem_append, not_or]
    exact ⟨not_mem_of_marks hident hmark rfl, hquote, not_mem_of_marks hident hmark rfl, hquote,
      not_mem_of_marks hident hmark rfl⟩

/-- The clause that refers to a column is spaced. -/
theorem spaced_referenceClause (target : Option Target) : Spaced (referenceClause d target) := by
  cases target <;> rfl

/-- The column that a clause refers to is read back. -/
theorem referenceOf?_referenceClause (target : Option Target) :
    referenceOf? (referenceClause d target) = target.map Target.ref := by
  cases target with
  | none => rfl
  | some r =>
    have hword : IsWord "references".toList := isWord_of_all rfl
    have hbehind : Cursor.behind? "references".toList (referenceClause d (some r)) =
        some (' ' :: targetList d r.table.text.toList [r.column.text.toList]) := by
      show Cursor.behind? _ (' ' :: ("REFERENCES".toList ++ ' ' :: targetList d _ _)) = _
      rw [Cursor.behind?_cons hword rfl, Cursor.behind?_self hword (by decide) (stops_cons.2 rfl)]
    have hread := referenceTarget_append r.table.isIdentifier (List.cons_ne_nil _ _)
      (List.forall_mem_singleton.2 r.column.isIdentifier) d []
    rw [List.append_nil] at hread
    rw [← Cursor.findKeyword?_start, Option.map_eq_some_iff] at hbehind
    obtain ⟨⟨place, behind⟩, hfind, hahead⟩ := hbehind
    have hahead : behind.ahead = _ := hahead
    unfold referenceOf?
    rw [hfind]
    simp only [Option.bind_eq_bind, Option.bind_some, hahead, hread, List.head?_cons,
      String.ofList_toList]
    rfl

/-- No blanks come behind the definition of a column. -/
theorem trim_columnDraft (c : ColumnDraft) : Text.trim (c.text d) =
    d.quote c.name.text.toList ++ ' ' :: (c.type.text.toList ++ referenceClause d c.target) := by
  have hquote : EndsTight (d.quote c.name.text.toList) := by
    rw [quote_eq]
    exact EndsTight.append_left (d.openingQuote :: c.name.text.toList) (List.cons_ne_nil _ _)
      (by simp [EndsTight, isBlank_closingQuote])
  have htype : EndsTight (' ' :: c.type.text.toList) :=
    EndsTight.append_left [' '] c.type.isIdentifier.1
      (EndsTight.of_forall fun x hx => isBlank_of_isIdent (c.type.isIdentifier.2 x hx))
  have hclause : EndsTight (referenceClause d c.target) := by
    cases c.target with
    | none => rfl
    | some r =>
      unfold referenceClause targetList
      simp only [← List.append_assoc]
      exact EndsTight.append_left _ (List.cons_ne_nil _ _) rfl
  unfold ColumnDraft.text
  rw [Text.trim_blanks_append (by simp [isBlank])]
  refine Text.trim_of_ends ?_ (hquote.append (htype.append hclause))
  simp [quote_eq, isBlank_openingQuote]

/-- The definition of a column is read as that column and the column that it refers to. -/
theorem columnDefinition?_columnDraft (c : ColumnDraft) :
    columnDefinition? (Text.trim (c.text d)) = some (c.column d, c.target.map Target.ref) := by
  have hspaced := spaced_referenceClause (d := d) c.target
  have hquote : '\'' ∉ referenceClause d c.target :=
    not_mem_referenceClause (by decide) (by decide) c.target
  have hblanks (s : List Char) : Scan.blanks? (' ' :: (c.type.text.toList ++ s)) =
      some (c.type.text.toList ++ s) := by
    rw [Scan.blanks?_cons rfl, Scan.skipBlanks_identifier c.type.isIdentifier]
  have hsize : skipSize (referenceClause d c.target) = referenceClause d c.target :=
    skipSize_append (show [] ∈ sizes by simp [sizes]) hspaced
  rw [trim_columnDraft]
  unfold columnDefinition?
  rw [ident_quote c.name.isIdentifier]
  simp only [Option.bind_eq_bind, Option.bind_some, hblanks,
    Scan.ident?_append c.type.isIdentifier hspaced.stops, hsize, blankQuoted_of_not_mem hquote,
    referenceOf?_referenceClause]
  rfl

/-- The definition of a column declares that column. -/
theorem declared_columnDraft (c : ColumnDraft) :
    declared (Text.trimmedPieces ',' (c.text d)) = [(c.column d, c.target.map Target.ref)] := by
  have hcomma : ',' ∉ c.text d := by
    have htype : ',' ∉ c.type.text.toList := fun h =>
      absurd (c.type.isIdentifier.2 ',' h) (by decide)
    unfold ColumnDraft.text
    simp only [List.mem_append, List.mem_cons, not_or]
    exact ⟨by decide, not_mem_quote c.name.isIdentifier rfl (by decide), by decide, htype,
      not_mem_referenceClause rfl (by decide) c.target⟩
  exact declared_of_definition hcomma (trim_columnDraft c) (columnDefinition?_columnDraft c)

/-! ## Looking for constructs in a table -/

/-- Foreign keys can be written. -/
theorem KeyDraft.writable_key (k : KeyDraft) : k.key.Writable := by
  constructor
  case columns_ne_nil => simpa [KeyDraft.key] using k.pairs_ne_nil
  case targetColumns_ne_nil => simpa [KeyDraft.key] using k.pairs_ne_nil
  case target => exact k.target.isIdentifier
  case columns =>
    intro name hname
    obtain ⟨pair, -, rfl⟩ := List.mem_map.1 hname
    exact pair.1.isIdentifier
  case targetColumns =>
    intro name hname
    obtain ⟨pair, -, rfl⟩ := List.mem_map.1 hname
    exact pair.2.isIdentifier

section constructs

variable {α : Type} {keyword : Keyword} {word : List Char}
  {reader : List Char → Option α × List Char}

/-- The definition of a column adds no construct, whatever its names and its type are, unless that
begins with the word of its clause. -/
theorem TwoWords.constructs_columnDraft (h : TwoWords keyword word reader)
    (hfirst : Text.sameLetters "REFERENCES".toList keyword.letters = false)
    (hsecond : Text.sameLetters "REFERENCES".toList word = false) (c : ColumnDraft) (hs : Stops s)
    (hn : NotAhead word s) :
    constructs keyword reader (c.text d ++ s) = constructs keyword reader s := by
  have hclause : constructs keyword reader (referenceClause d c.target ++ s) =
      constructs keyword reader s := by
    cases c.target with
    | none => rfl
    | some r =>
      unfold referenceClause
      rw [List.append_assoc, h.constructs_words ["REFERENCES"] (by decide +kernel) rfl
          (List.forall_mem_singleton.2 hfirst),
        h.constructs_targetList r.table.isIdentifier
          (List.forall_mem_singleton.2 r.column.isIdentifier)]
  have hnext : NotAhead word (referenceClause d c.target ++ s) := by
    cases c.target with
    | none => exact hn
    | some r =>
      have hsplit : referenceClause d (some r) ++ s = ' ' :: ("REFERENCES".toList ++
          ' ' :: (targetList d r.table.text.toList [r.column.text.toList] ++ s)) := rfl
      rw [hsplit]
      exact NotAhead.blank rfl (NotAhead.of_word h.second (isIdentifier_of_all rfl)
        (stops_cons.2 rfl) hsecond)
  have htype := h.constructs_identifier c.type.isIdentifier.2
    ((spaced_referenceClause c.target).stops_append hs) hnext
  unfold ColumnDraft.text
  simp only [List.append_assoc, List.cons_append]
  rw [h.constructs_words [] (by decide +kernel) rfl (by simp),
    h.constructs_quote c.name.isIdentifier, constructs_cons h.first rfl, htype, hclause]

/-- The body of a table adds no construct that does not begin with a word of its definitions. -/
theorem TwoWords.constructs_draftBody (h : TwoWords keyword word reader)
    (hfirst : ∀ w ∈ ["FOREIGN", "KEY", "REFERENCES"],
      Text.sameLetters w.toList keyword.letters = false)
    (hsecond : Text.sameLetters "REFERENCES".toList word = false) (t : TableDraft)
    (hn : NotAhead word s) :
    constructs keyword reader (t.body d ++ s) = constructs keyword reader s := by
  have hitems : ∀ x ∈ t.definitions, ∀ s, Stops s → NotAhead word s →
      constructs keyword reader (x.text d ++ s) = [] ++ constructs keyword reader s := by
    intro x _ s hs hn
    cases x with
    | column c => exact h.constructs_columnDraft (hfirst _ (by simp)) hsecond c hs hn
    | key k => exact h.constructs_foreignClause k.writable_key hfirst d s
  have hbreak : isBlank '\n' = true := rfl
  have hbody := h.constructs_bareDefinitions (f := Definition.unnoted d) (g := fun _ => []) hitems
    (stops_cons.2 (isIdent_of_isBlank hbreak)) (NotAhead.blank hbreak hn)
  rw [List.flatMap_eq_nil_iff.2 fun _ _ => rfl, List.nil_append] at hbody
  unfold TableDraft.body
  rw [List.append_assoc]
  exact hbody.trans (constructs_cons h.first rfl)

end constructs

/-- The foreign keys in the body of a table are those of its definitions. -/
theorem constructs_foreign_draftBody (t : TableDraft) :
    constructs ForeignKey.keyword ForeignKey.tail.on (t.body d) =
      (t.definitions.filterMap Definition.key?).map KeyDraft.key := by
  have h := twoWords_foreign
  let found (x : Definition) : List ForeignKey := (x.key?.map KeyDraft.key).toList
  have hitems : ∀ x ∈ t.definitions, ∀ s, Stops s → NotAhead "key".toList s →
      constructs ForeignKey.keyword ForeignKey.tail.on (x.text d ++ s) =
        found x ++ constructs ForeignKey.keyword ForeignKey.tail.on s := by
    intro x _ s hs hn
    cases x with
    | column c => exact h.constructs_columnDraft (by decide) (by decide) c hs hn
    | key k => exact constructs_foreign_foreignClause k.writable_key d s
  have hfound (definitions : List Definition) :
      definitions.flatMap found = (definitions.filterMap Definition.key?).map KeyDraft.key := by
    induction definitions with
    | nil => rfl
    | cons x definitions ih =>
      rw [List.flatMap_cons, ih]
      cases x <;> rfl
  have hbreak : isBlank '\n' = true := rfl
  have hbody := h.constructs_bareDefinitions (f := Definition.unnoted d) hitems
    (stops_cons.2 (isIdent_of_isBlank hbreak)) (NotAhead.blank hbreak (NotAhead.nil h.second))
  rw [hfound, constructs_cons h.first rfl, constructs_nil, List.append_nil] at hbody
  exact hbody

/-! ## Reading a table -/

/-- The foreign key of a clause declares no column. -/
theorem declared_foreignClause {k : ForeignKey} (hk : k.Writable) :
    declared (Text.trimmedPieces ',' (foreignClause d k)) = [] := by
  have hhead : Columnless "  FOREIGN KEY (".toList :=
    columnless_constraint (b := "  ".toList) (w := "FOREIGN".toList) (p := "KEY (".toList)
      (List.all_eq_true.1 rfl) (isIdentifier_of_all rfl) rfl rfl (by decide)
  -- Between the two lists there is no comma, so nothing of that is at the front of a piece.
  have hbetween : ',' ∉ "\n  REFERENCES ".toList ++ (d.quote k.target ++ " (".toList) := by
    simp only [List.mem_append, not_or]
    exact ⟨by decide, not_mem_quote hk.target rfl (by decide), by decide⟩
  have hsplit : foreignClause d k = "  FOREIGN KEY (".toList ++
      (commaSeparated (k.columns.map d.quote) ++ ')' ::
        (("\n  REFERENCES ".toList ++ (d.quote k.target ++ " (".toList)) ++
          (commaSeparated (k.targetColumns.map d.quote) ++ [')']))) := by
    have hforeign : "  FOREIGN KEY (".toList = "  FOREIGN".toList ++ " KEY (".toList := rfl
    have hreferences : ")\n  REFERENCES ".toList = ')' :: "\n  REFERENCES ".toList := rfl
    unfold foreignClause foreignClauseTail targetList
    simp only [hforeign, hreferences, List.append_assoc, List.cons_append]
  obtain ⟨first, hfirst⟩ := Text.exists_trimmedPieces_append hbetween
    (commaSeparated (k.targetColumns.map d.quote) ++ [')'])
  rw [hsplit, hhead.declared_pieces, declared_tail_names hk.columns_ne_nil hk.columns, hfirst,
    List.tail_cons, declared_tail_names hk.targetColumns_ne_nil hk.targetColumns]
  rfl

/-- The body of a table declares its columns, and what they refer to. -/
theorem declared_draftBody (t : TableDraft) :
    declared (Text.trimmedPieces ',' (t.body d)) =
      t.columns.map fun c => (c.column d, c.target.map Target.ref) := by
  have hdefinition (x : Definition) : declared (Text.trimmedPieces ',' (x.unnoted d).1) =
      (x.column?.map fun c => (c.column d, c.target.map Target.ref)).toList := by
    cases x with
    | column c => exact declared_columnDraft c
    | key k => exact declared_foreignClause k.writable_key
  unfold TableDraft.body TableDraft.columns
  generalize t.definitions = definitions
  rcases definitions with - | ⟨x, definitions⟩
  · rfl
  · rw [trimmedPieces_bareDefinitions (by simp), declared_flatMap, List.flatMap_map]
    simp only [hdefinition]
    generalize x :: definitions = definitions
    induction definitions with
    | nil => rfl
    | cons x definitions ih =>
      rw [List.flatMap_cons, ih]
      cases x <;> rfl

/-- A semicolon is not in the body of a table. -/
theorem semicolon_not_mem_draftBody (t : TableDraft) : ';' ∉ t.body d := by
  have hdefs : ∀ e ∈ t.definitions.map (Definition.unnoted d), ';' ∉ e.1 := by
    intro e he
    obtain ⟨x, -, rfl⟩ := List.mem_map.1 he
    cases x with
    | column c =>
      have htype : ';' ∉ c.type.text.toList := fun h =>
        absurd (c.type.isIdentifier.2 ';' h) (by decide)
      show ';' ∉ c.text d
      unfold ColumnDraft.text
      simp only [List.mem_append, List.mem_cons, not_or]
      exact ⟨by decide, not_mem_quote c.name.isIdentifier rfl (by decide), by decide, htype,
        not_mem_referenceClause rfl (by decide) c.target⟩
    | key k => exact semicolon_not_mem_foreignClause k.writable_key d
  unfold TableDraft.body
  rw [List.mem_append, not_or]
  exact ⟨semicolon_not_mem_bareDefinitions hdefs, by decide⟩

/-- The statement that is read for a table. -/
def TableDraft.created (d : Dialect) (t : TableDraft) : CreateTable :=
  ⟨t.name.text.toList, t.body d⟩

/-- The relationships of a foreign key are those of its references. -/
theorem relationships_key (table : Identifier) (k : KeyDraft) :
    k.key.relationships table.text.toList = relationshipsOf table k.references := by
  unfold KeyDraft.key ForeignKey.relationships relationshipsOf KeyDraft.references
  rw [List.zip_map', List.map_map, List.map_map]
  refine List.map_congr_left fun pair _ => ?_
  simp only [Function.comp_apply, String.ofList_toList, Target.ref]

/-- The table of a statement has the columns of the draft and no primary key. -/
theorem table_created (t : TableDraft) : (t.created d).table = t.table d := by
  have h := twoWords_primary
  have hcolumns : (t.created d).columns =
      t.columns.map fun c => (c.column d, c.target.map Target.ref) := declared_draftBody t
  have hkeys : (t.created d).primaryKeys = [] := by
    have hbody := h.constructs_draftBody (d := d) (by decide) (by decide) t (NotAhead.nil h.second)
    rw [List.append_nil, constructs_nil] at hbody
    rw [primaryKeys_eq]
    exact congrArg List.flatten hbody
  unfold CreateTable.table TableDraft.table
  rw [hkeys, hcolumns, List.map_map]
  exact congrArg (Table.mk · _) String.ofList_toList

/-- The relationships of a statement are those of the references in the draft. -/
theorem relationships_created (t : TableDraft) :
    (t.created d).relationships = relationshipsOf t.name t.references := by
  have hcolumns : (t.created d).columns =
      t.columns.map fun c => (c.column d, c.target.map Target.ref) := declared_draftBody t
  have hinline : ((t.created d).columns.filterMap fun entry => entry.2.map fun target =>
      manyToOne ⟨String.ofList (t.created d).name, entry.1.name⟩ target) =
        relationshipsOf t.name (t.columns.filterMap ColumnDraft.reference?) := by
    unfold relationshipsOf
    rw [hcolumns, List.filterMap_map, List.map_filterMap]
    refine List.filterMap_congr fun c _ => ?_
    have hname : (c.column d).name = c.name.text := String.ofList_toList
    have htable : String.ofList (t.created d).name = t.name.text := String.ofList_toList
    simp only [Function.comp_apply, ColumnDraft.reference?, Option.map_map, hname, htable]
    rfl
  have hkeys : foreignKeys (t.created d).name (t.created d).body = relationshipsOf t.name
      ((t.definitions.filterMap Definition.key?).flatMap KeyDraft.references) := by
    show (constructs _ _ (t.body d)).flatMap (ForeignKey.relationships t.name.text.toList) = _
    rw [constructs_foreign_draftBody, List.flatMap_map]
    simp only [relationships_key]
    exact (List.map_flatMap ..).symm
  unfold CreateTable.relationships TableDraft.references
  exact (congrArg₂ (· ++ ·) hinline hkeys).trans List.map_append.symm

/-! ## Reading a script -/

/-- A table is read as one statement. -/
theorem constructs_create_table (t : TableDraft) (s : List Char) :
    constructs CreateTable.keyword (Scan.orStay CreateTable.tail?) (t.text d ++ s) =
      [t.created d] ++ constructs CreateTable.keyword (Scan.orStay CreateTable.tail?) s := by
  unfold TableDraft.text
  rw [List.append_assoc, List.append_assoc, constructs_create_createText t.name.isIdentifier
    (semicolon_not_mem_draftBody t)]
  exact congrArg (_ :: ·) (constructs_cons twoWords_create.first rfl)

/-- A table is no statement that alters one. -/
theorem constructs_alter_table (t : TableDraft) (s : List Char) :
    constructs alterKeyword alterTail.on (t.text d ++ s) =
      constructs alterKeyword alterTail.on s := by
  have h := twoWords_alter
  unfold TableDraft.text
  rw [List.append_assoc, List.append_assoc, constructs_alter_createText t.name.isIdentifier
    fun _ hn => h.constructs_draftBody (by decide) (by decide) t hn]
  exact constructs_cons h.first rfl

/-- A foreign key that is added is no statement that creates a table. -/
theorem constructs_create_alteration (a : Alteration) (s : List Char) :
    constructs CreateTable.keyword (Scan.orStay CreateTable.tail?) (a.text d ++ s) =
      constructs CreateTable.keyword (Scan.orStay CreateTable.tail?) s := by
  unfold Alteration.text Alteration.statement
  rw [List.append_assoc, List.append_assoc, constructs_create_alterText a.table.isIdentifier
    a.constraint.isIdentifier a.key.writable_key]
  exact constructs_cons twoWords_create.first rfl

/-- A foreign key that is added is read as one statement. -/
theorem constructs_alter_alteration (a : Alteration) (s : List Char) :
    constructs alterKeyword alterTail.on (a.text d ++ s) =
      [(a.table.text.toList, a.statement d)] ++ constructs alterKeyword alterTail.on s := by
  have hsemicolon : ';' ∉ a.statement d :=
    semicolon_not_mem_addedConstraint a.constraint.isIdentifier a.key.writable_key d
  have hhead : (a.statement d).head? ≠ some '.' := by
    unfold Alteration.statement
    rw [head?_addedConstraint]
    decide
  unfold Alteration.text
  rw [List.append_assoc, List.append_assoc,
    constructs_alter_alterText a.table.isIdentifier hsemicolon hhead]
  exact congrArg (_ :: ·) (constructs_cons twoWords_alter.first rfl)

/-- The statements that create tables are those of the draft. -/
theorem findAll_text (s : ScriptDraft) :
    CreateTable.findAll (s.text d) = s.tables.map (·.created d) := by
  have htables := constructs_flatMap fun (t : TableDraft) (_ : t ∈ s.tables) =>
    constructs_create_table (d := d) t
  have halterations := constructs_flatMap_idle (fun (a : Alteration) (_ : a ∈ s.alterations) =>
    constructs_create_alteration (d := d) a) []
  rw [List.append_nil, constructs_nil] at halterations
  show constructs _ _ (s.text d) = _
  unfold ScriptDraft.text
  rw [htables, halterations, List.append_nil, List.map_eq_flatMap]

/-- The foreign keys of altered tables are those that the draft adds. -/
theorem alteredForeignKeys_text (s : ScriptDraft) : alteredForeignKeys (s.text d) =
    s.alterations.flatMap fun a => relationshipsOf a.table a.key.references := by
  have htables := constructs_flatMap_idle fun (t : TableDraft) (_ : t ∈ s.tables) =>
    constructs_alter_table (d := d) t
  have halterations := constructs_flatMap (fun (a : Alteration) (_ : a ∈ s.alterations) =>
    constructs_alter_alteration (d := d) a) []
  rw [List.append_nil, constructs_nil, List.append_nil, ← List.map_eq_flatMap] at halterations
  rw [alteredForeignKeys_eq]
  unfold ScriptDraft.text
  rw [htables, halterations, List.flatMap_map]
  refine List.flatMap_congr fun a _ => ?_
  exact (foreignKeys_addedConstraint a.constraint.isIdentifier a.key.writable_key d _).trans
    (relationships_key a.table a.key)

/-- A script declares what its draft says. -/
theorem declaredBy_text (s : ScriptDraft) : declaredBy (s.text d) = s.declared d := by
  unfold declaredBy ScriptDraft.declared
  rw [findAll_text, alteredForeignKeys_text, List.map_map, List.flatMap_map]
  simp only [Function.comp_def, table_created, relationships_created]

/-! ## Scripts without comments -/

/-- The definition of a column is plain. -/
theorem plain_columnDraft (c : ColumnDraft) : Plain (c.text d) := by
  have hclause : Plain (referenceClause d c.target) := by
    cases c.target with
    | none => exact Plain.nil
    | some r =>
      have hcolumn := List.forall_mem_singleton.2 r.column.isIdentifier
      exact (Plain.of_all rfl).append (plain_targetList r.table.isIdentifier hcolumn d)
  exact (Plain.of_all rfl).append ((plain_quote d c.name.isIdentifier).append
    (Plain.cons rfl ((Plain.identifier c.type.isIdentifier).append hclause)))

/-- The statement that creates a table is plain. -/
theorem plain_table (t : TableDraft) : Plain (t.text d) := by
  have hdefs : ∀ e ∈ t.definitions.map (Definition.unnoted d), Plain e.1 := by
    intro e he
    obtain ⟨x, -, rfl⟩ := List.mem_map.1 he
    cases x with
    | column c => exact plain_columnDraft c
    | key k => exact plain_foreignClause k.writable_key d
  have hbody : Plain (t.body d) := (plain_bareDefinitions hdefs).append (Plain.of_all rfl)
  have hname : Plain (d.quote t.name.text.toList) := plain_quote d t.name.isIdentifier
  exact (Plain.of_all rfl).append (((Plain.of_all rfl).append (hname.append
    ((Plain.of_all rfl).append (hbody.append (Plain.of_all rfl))))).append (Plain.of_all rfl))

/-- The statement that adds a foreign key is plain. -/
theorem plain_alteration (a : Alteration) : Plain (a.text d) := by
  have hstatement : Plain (a.statement d) :=
    plain_addedConstraint a.constraint.isIdentifier a.key.writable_key d
  have htable : Plain (d.quote a.table.text.toList) := plain_quote d a.table.isIdentifier
  exact (Plain.of_all rfl).append (((Plain.of_all rfl).append (htable.append
    (hstatement.append (Plain.of_all rfl)))).append (Plain.of_all rfl))

/-- There are no comments in the script of a draft. -/
theorem stripComments_text (s : ScriptDraft) : stripComments (s.text d) = s.text d := by
  have hplain : Plain (s.text d) :=
    (Plain.flatMap fun t _ => plain_table t).append (Plain.flatMap fun a _ => plain_alteration a)
  have hstrip := hplain []
  rw [List.append_nil] at hstrip
  exact hstrip.trans (List.append_nil _)

/-- What is read from the script of a draft, if there is a table with columns in it. -/
theorem parse_text (s : ScriptDraft) (hcolumns : ∃ t ∈ s.tables, t.columns ≠ []) :
    parse (String.ofList (s.text d)) = .ok (s.declared d).markForeignKeys := by
  obtain ⟨t, ht, hne⟩ := hcolumns
  have hschema : schemaOf (stripComments (String.ofList (s.text d)).toList) =
      (s.declared d).markForeignKeys := by
    rw [String.toList_ofList, stripComments_text, schemaOf_eq, declaredBy_text]
  have hdeclared : (s.declared d).tables ≠ [] := by
    have hmem : t.table d ∈ (s.declared d).tables := by
      refine List.mem_filter.2 ⟨List.mem_map_of_mem ht, ?_⟩
      simpa [TableDraft.table] using hne
    exact List.ne_nil_of_mem hmem
  have htables : (s.declared d).markForeignKeys.tables ≠ [] := by
    intro hnil
    have hlength := Schema.length_tables_markForeignKeys (s.declared d)
    rw [hnil] at hlength
    exact hdeclared (List.length_eq_zero_iff.1 hlength.symm)
  unfold parse
  rw [hschema]
  exact if_neg htables

end SchemaDiagram.Sql
