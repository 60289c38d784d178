import SchemaDiagram.Proofs.Sql.ColumnDefinition
import SchemaDiagram.Proofs.Sql.Comment

/-!
# Scripts without their comments

The script of a schema has comments for the names of its tables, for its relationships and for the
notes of its columns. `bareScript` is the script without them, with each line break in front of its
line. Notes may hold anything: they come last in their lines, and their own line breaks are written
as spaces, so leaving out the comments leaves just the bare script (`strip_print`).
-/

namespace SchemaDiagram.Sql

open Character

/-- The tables that SQL gives back. -/
structure PortableTable (t : Table) : Prop where
  /-- The name is an identifier. -/
  name : IsIdentifier t.name.toList
  /-- The columns are such that SQL gives them back. -/
  columns : ∀ c ∈ t.columns, PortableColumn c
  /-- The names of columns differ also when the case of letters is ignored. -/
  distinct : t.columns.Pairwise fun a b => Text.sameLetters a.name.toList b.name.toList = false

/-- The relationships that SQL gives back. -/
structure PortableRelationship (r : Relationship) : Prop where
  /-- The name of the first table is an identifier. -/
  sourceTable : IsIdentifier r.endpoints.source.table.toList
  /-- The name of the first column is an identifier. -/
  sourceColumn : IsIdentifier r.endpoints.source.column.toList
  /-- The name of the second table is an identifier. -/
  targetTable : IsIdentifier r.endpoints.target.table.toList
  /-- The name of the second column is an identifier. -/
  targetColumn : IsIdentifier r.endpoints.target.column.toList

/-- The schemas that SQL gives back. -/
structure PortableSchema (s : Schema) : Prop where
  /-- The tables are such that SQL gives them back. -/
  tables : ∀ t ∈ s.tables, PortableTable t
  /-- The relationships are such that SQL gives them back. -/
  relationships : ∀ r ∈ s.relationships, PortableRelationship r

/-- The tables that can be written in SQL. -/
structure WritableTable (t : Table) : Prop where
  /-- The name is an identifier. -/
  name : IsIdentifier t.name.toList
  /-- The columns can be written in SQL. -/
  columns : ∀ c ∈ t.columns, WritableColumn c

/-- The schemas that can be written in SQL. -/
structure WritableSchema (s : Schema) : Prop where
  /-- The tables can be written in SQL. -/
  tables : ∀ t ∈ s.tables, WritableTable t
  /-- The relationships are such that SQL gives them back. -/
  relationships : ∀ r ∈ s.relationships, PortableRelationship r

/-- A table that SQL gives back can be written in it. -/
theorem PortableTable.writable {t : Table} (ht : PortableTable t) : WritableTable t :=
  ⟨ht.name, fun c hc => (ht.columns c hc).writable⟩

/-- A schema that SQL gives back can be written in it. -/
theorem PortableSchema.writable {s : Schema} (hs : PortableSchema s) : WritableSchema s :=
  ⟨fun t ht => (hs.tables t ht).writable, hs.relationships⟩

/-! ## The bare script -/

/-- What is left of a note: the space in front of it. -/
def bareNote : Option String → List Char
  | some _ => [' ']
  | none => []

/-- The names of the columns in the primary key of a table. -/
def keyNames (t : Table) : List (List Char) :=
  (t.columns.filter (·.isPrimaryKey)).map (·.name.toList)

/-- The definition of the primary key of a table. -/
def keyDefinition (d : Dialect) (t : Table) : List Char :=
  "  PRIMARY KEY (".toList ++ (commaSeparated ((keyNames t).map d.quote) ++ [')'])

/-- The lines of definitions without their notes. -/
def bareDefinitions : List (List Char × Option String) → List Char
  | [] => []
  | [(definition, note)] => '\n' :: (definition ++ bareNote note)
  | (definition, note) :: rest =>
    '\n' :: (definition ++ ',' :: (bareNote note ++ bareDefinitions rest))

/-- The text in the parentheses of a table, without notes. -/
def bareBody (d : Dialect) (t : Table) : List Char :=
  bareDefinitions (definitions d t) ++ ['\n']

/-- The lines of a table without comments. -/
def bareTable (d : Dialect) (t : Table) : List Char :=
  if t.columns = [] then "\n\n\n".toList
  else "\n\nCREATE TABLE ".toList ++ (d.quote t.name.toList ++
    (" (".toList ++ (bareBody d t ++ ");\n".toList)))

/-- The name of the constraint of a relationship. -/
def constraintName (r : Relationship) : List Char :=
  "fk_".toList ++ r.endpoints.source.table.toList ++ ['_'] ++ r.endpoints.source.column.toList

/-- The statement that adds the constraint of a relationship, behind the name of the table. -/
def bareConstraint (d : Dialect) (r : Relationship) : List Char :=
  '\n' :: ("  ADD CONSTRAINT ".toList ++ (d.quote (constraintName r) ++
    '\n' :: ("  FOREIGN KEY (".toList ++ (d.quote r.endpoints.source.column.toList ++
      ')' :: '\n' :: ("  REFERENCES ".toList ++ (d.quote r.endpoints.target.table.toList ++
        (" (".toList ++ (d.quote r.endpoints.target.column.toList ++ [')']))))))))

/-- The lines of a relationship without comments. -/
def bareRelationship (d : Dialect) (r : Relationship) : List Char :=
  '\n' :: '\n' :: ("ALTER TABLE ".toList ++ (d.quote r.endpoints.source.table.toList ++
    (bareConstraint d r ++ [';', '\n'])))

/-- The script of a schema without comments, with a line break in front. -/
def bareScript (d : Dialect) (s : Schema) : List Char :=
  s.tables.flatMap (bareTable d) ++ s.relationships.flatMap (bareRelationship d)

/-! ## What is plain -/

/-- Names in quotes are plain. -/
theorem plain_quote (d : Dialect) {name : List Char} (hname : IsIdentifier name) :
    Plain (d.quote name) := by
  rw [quote_eq]
  -- The quotes of the dialects are for names, not for texts.
  refine Plain.cons (by cases d <;> rfl) ((Plain.identifier hname).append (Plain.of_forall ?_))
  rw [List.forall_mem_singleton]
  cases d <;> rfl

/-- Lists of names in quotes are plain. -/
theorem plain_commaSeparated (d : Dialect) {names : List (List Char)}
    (hnames : ∀ name ∈ names, IsIdentifier name) :
    Plain (commaSeparated (names.map d.quote)) := by
  have hquote : ∀ item ∈ names.map d.quote, Plain item := by
    intro item hitem
    obtain ⟨name, hname, rfl⟩ := List.mem_map.1 hitem
    exact plain_quote d (hnames name hname)
  refine Text.comma_induction Plain.nil hquote fun a ha s hs => ?_
  exact (hquote a ha).append (Plain.cons rfl (Plain.cons rfl hs))

/-- The definition of a column is plain. -/
theorem plain_columnDefinition {c : Column} (hc : WritableColumn c) (d : Dialect) :
    Plain (columnDefinition d c) := by
  obtain ⟨hident, hsize⟩ := written_of_writable (d := d) hc
  have hsizePlain : Plain (writtenSize d c) := by
    have hall : ∀ size ∈ sizes, ∀ x ∈ size, isPlain x = true := by simp [sizes, isPlain]
    exact Plain.of_forall (hall _ hsize)
  have hflags : Plain (flagClauses d c) := by
    unfold flagClauses
    refine Plain.append (Plain.append (Plain.of_forall ?_) (Plain.of_forall ?_))
      (Plain.of_forall ?_)
    · unfold incrementClause
      split <;> exact List.all_eq_true.1 rfl
    · split <;> exact List.all_eq_true.1 rfl
    · split <;> exact List.all_eq_true.1 rfl
  have hdefault : Plain (defaultClause c) := by
    unfold defaultClause
    split
    · next value h =>
      exact (Plain.of_all rfl).append (hc.default value h).plain_expression
    · exact Plain.nil
  rw [columnDefinition_eq]
  exact (Plain.of_all rfl).append ((plain_quote d hc.name).append
    (Plain.cons rfl ((Plain.identifier hident).append
      (hsizePlain.append (hflags.append hdefault)))))

/-- Plain definitions are plain in their lines. -/
theorem plain_bareDefinitions {defs : List (List Char × Option String)}
    (h : ∀ e ∈ defs, Plain e.1) : Plain (bareDefinitions defs) := by
  have hnote (note : Option String) : Plain (bareNote note) := by
    cases note with
    | none => exact Plain.nil
    | some note => exact Plain.of_all rfl
  induction defs with
  | nil => exact Plain.nil
  | cons e defs ih =>
    obtain ⟨definition, note⟩ := e
    have hdef : Plain definition := h (definition, note) List.mem_cons_self
    cases defs with
    | nil => exact Plain.cons rfl (hdef.append (hnote note))
    | cons next defs =>
      have hrest := ih fun e he => h e (List.mem_cons_of_mem _ he)
      exact Plain.cons rfl (hdef.append (Plain.cons rfl ((hnote note).append hrest)))

/-- The definitions in a table are those of its columns and that of its primary key. -/
theorem definitions_eq (d : Dialect) (t : Table) :
    definitions d t = (t.columns.map fun c => (columnDefinition d c, c.note)) ++
      if keyNames t = [] then [] else [(keyDefinition d t, none)] := by
  unfold definitions keyDefinition keyNames
  simp only [List.map_map, List.map_eq_nil_iff, List.append_assoc]
  rfl

/-- The names in the primary key are identifiers. -/
theorem isIdentifier_of_mem_keyNames {t : Table} (ht : WritableTable t) :
    ∀ name ∈ keyNames t, IsIdentifier name := by
  intro name hname
  obtain ⟨c, hc, rfl⟩ := List.mem_map.1 hname
  exact (ht.columns c (List.mem_of_mem_filter hc)).name

/-- The definitions in a table are plain. -/
theorem plain_definitions {t : Table} (ht : WritableTable t) (d : Dialect) :
    ∀ e ∈ definitions d t, Plain e.1 := by
  intro e he
  rw [definitions_eq, List.mem_append] at he
  rcases he with he | he
  · obtain ⟨c, hc, rfl⟩ := List.mem_map.1 he
    exact plain_columnDefinition (ht.columns c hc) d
  · split at he
    · cases he
    · rw [List.mem_singleton.1 he]
      exact (Plain.of_all rfl).append
        ((plain_commaSeparated d (isIdentifier_of_mem_keyNames ht)).append
          (Plain.of_all rfl))

/-! ## Leaving comments out -/

/-- Lines with a break in front of each. -/
def brokenLines (lines : List (List Char)) : List Char :=
  lines.flatMap ('\n' :: ·)

variable {s : List Char}

/-- In front of lines a line ends. -/
theorem endsLine_brokenLines (lines : List (List Char)) (hs : EndsLine s) :
    EndsLine (brokenLines lines ++ s) := by
  cases lines with
  | nil => exact hs
  | cons line lines => rfl

/-- Of a note the space in front of it is left. -/
theorem strip_noteComment (note : Option String) (hs : EndsLine s) :
    stripCommentsFrom .code (noteComment note ++ s) =
      bareNote note ++ stripCommentsFrom .code s := by
  cases note with
  | none => rfl
  | some note =>
    let written := note.toList.map fun c => if c = '\n' then ' ' else c
    -- The line breaks of a note are written as spaces, so the comment ends where its line does.
    have hbreak : '\n' ∉ ' ' :: written := by
      intro h
      rcases List.mem_cons.1 h with h | h
      · exact absurd h (by decide)
      · obtain ⟨c, -, hc⟩ := List.mem_map.1 h
        split at hc
        · exact absurd hc (by decide)
        · next hne => exact hne hc
    show stripCommentsFrom .code (' ' :: ("--".toList ++ (' ' :: written) ++ s)) = _
    rw [strip_cons rfl, strip_lineComment hbreak hs]
    rfl

/-- A plain line is kept. -/
theorem strip_plainLine {line : List Char} (hline : Plain line) (lines : List (List Char)) :
    stripCommentsFrom .code (brokenLines (line :: lines) ++ s) =
      '\n' :: (line ++ stripCommentsFrom .code (brokenLines lines ++ s)) := by
  unfold brokenLines
  rw [List.flatMap_cons, List.append_assoc, List.cons_append, strip_cons rfl, hline]

/-- Of a comment on a line of its own the line break in front is left. -/
theorem strip_commentLine {text : List Char} (htext : '\n' ∉ text) (lines : List (List Char))
    (hs : EndsLine s) :
    stripCommentsFrom .code (brokenLines (("--".toList ++ text) :: lines) ++ s) =
      '\n' :: stripCommentsFrom .code (brokenLines lines ++ s) := by
  have hends := endsLine_brokenLines lines hs
  unfold brokenLines at *
  rw [List.flatMap_cons, List.append_assoc, List.cons_append, strip_cons rfl,
    strip_lineComment htext hends]

/-- Of the lines of definitions the notes are left out. -/
theorem strip_definitionLines {defs : List (List Char × Option String)}
    (hdefs : ∀ e ∈ defs, Plain e.1) {lines : List (List Char)} (hs : EndsLine s) :
    stripCommentsFrom .code (brokenLines (definitionLines defs ++ lines) ++ s) =
      bareDefinitions defs ++ stripCommentsFrom .code (brokenLines lines ++ s) := by
  induction defs with
  | nil => rfl
  | cons e defs ih =>
    obtain ⟨definition, note⟩ := e
    have hplain : Plain definition := hdefs (definition, note) List.mem_cons_self
    -- All definitions but the last have a comma in front of the note.
    cases defs with
    | nil =>
      have hends := endsLine_brokenLines lines hs
      show stripCommentsFrom .code
        (brokenLines ((definition ++ noteComment note) :: lines) ++ s) = _
      unfold brokenLines at *
      rw [List.flatMap_cons, List.append_assoc, List.cons_append, strip_cons rfl,
        List.append_assoc, hplain, strip_noteComment note hends]
      simp [bareDefinitions]
    | cons next defs =>
      have hrest := ih fun e he => hdefs e (List.mem_cons_of_mem _ he)
      have hends := endsLine_brokenLines (definitionLines (next :: defs) ++ lines) hs
      show stripCommentsFrom .code (brokenLines ((definition ++ ',' :: noteComment note) ::
        (definitionLines (next :: defs) ++ lines)) ++ s) = _
      unfold brokenLines at *
      rw [List.flatMap_cons, List.append_assoc, List.cons_append, strip_cons rfl,
        List.append_assoc, hplain, List.cons_append, strip_cons rfl, strip_noteComment note hends,
        hrest]
      simp [bareDefinitions]

/-- Of the lines of a table the comments are left out. -/
theorem strip_tableLines {t : Table} (ht : WritableTable t) (d : Dialect) (hs : EndsLine s) :
    stripCommentsFrom .code (brokenLines (tableLines d t) ++ s) =
      bareTable d t ++ stripCommentsFrom .code s := by
  have hname : '\n' ∉ " Table: ".toList ++ t.name.toList := by
    rw [List.mem_append, not_or]
    exact ⟨by decide, ht.name.not_mem rfl⟩
  have htitle : "-- Table: ".toList ++ t.name.toList =
      "--".toList ++ (" Table: ".toList ++ t.name.toList) := rfl
  have hskipped : "-- (no columns, skipped)".toList =
      "--".toList ++ " (no columns, skipped)".toList := rfl
  -- The title is left out; a table without columns has another comment, one with columns a
  -- statement.
  unfold tableLines bareTable
  rw [htitle, strip_commentLine hname _ hs]
  split
  · rw [hskipped, strip_commentLine (by decide) _ hs, strip_plainLine Plain.nil]
    rfl
  · have hhead : Plain ("CREATE TABLE ".toList ++ d.quote t.name.toList ++ " (".toList) :=
      ((Plain.of_all rfl).append (plain_quote d ht.name)).append
        (Plain.of_all rfl)
    have hfoot : Plain ");".toList := Plain.of_all rfl
    rw [List.cons_append, strip_plainLine hhead, strip_definitionLines (plain_definitions ht d) hs,
      strip_plainLine hfoot, strip_plainLine Plain.nil]
    simp only [bareBody, brokenLines, List.append_assoc, List.flatMap_nil, List.nil_append]
    rfl

/-- The name of a constraint is an identifier. -/
theorem isIdentifier_constraintName {r : Relationship} (hr : PortableRelationship r) :
    IsIdentifier (constraintName r) := by
  have hprefix : ∀ c ∈ "fk_".toList, isIdent c = true := List.all_eq_true.1 rfl
  refine ⟨by simp [constraintName], fun c hc => ?_⟩
  unfold constraintName at hc
  simp only [List.mem_append] at hc
  rcases hc with ((hc | hc) | hc) | hc
  · exact hprefix c hc
  · exact hr.sourceTable.2 c hc
  · rw [List.mem_singleton.1 hc]
    rfl
  · exact hr.sourceColumn.2 c hc

/-- The title of a relationship, behind the hyphens. -/
def relationshipTitle (r : Relationship) : List Char :=
  " Foreign Key: ".toList ++ (r.endpoints.source.table.toList ++
    '.' :: (r.endpoints.source.column.toList ++ (" -> ".toList ++
      (r.endpoints.target.table.toList ++ '.' :: r.endpoints.target.column.toList))))

/-- The title of a relationship is on one line. -/
theorem break_not_mem_relationshipTitle {r : Relationship} (hr : PortableRelationship r) :
    '\n' ∉ relationshipTitle r := by
  unfold relationshipTitle
  simp only [List.mem_append, List.mem_cons, not_or]
  exact ⟨by decide, hr.sourceTable.not_mem rfl, by decide, hr.sourceColumn.not_mem rfl, by decide,
    hr.targetTable.not_mem rfl, by decide, hr.targetColumn.not_mem rfl⟩

/-- The lines of a relationship are its title and the lines of its statement. -/
theorem relationshipLines_eq (d : Dialect) (r : Relationship) :
    relationshipLines d r = ["--".toList ++ relationshipTitle r,
      "ALTER TABLE ".toList ++ d.quote r.endpoints.source.table.toList,
      "  ADD CONSTRAINT ".toList ++ d.quote (constraintName r),
      "  FOREIGN KEY (".toList ++ d.quote r.endpoints.source.column.toList ++ [')'],
      "  REFERENCES ".toList ++ d.quote r.endpoints.target.table.toList ++ " (".toList ++
        d.quote r.endpoints.target.column.toList ++ [')', ';'],
      []] := by
  have hdashes : "-- Foreign Key: ".toList = "--".toList ++ " Foreign Key: ".toList := rfl
  have hfoot : ");".toList = [')', ';'] := rfl
  unfold relationshipLines constraintName relationshipTitle
  simp only [hdashes, hfoot, List.append_assoc, List.cons_append, List.nil_append]

/-- Of the lines of a relationship the comment is left out. -/
theorem strip_relationshipLines {r : Relationship} (hr : PortableRelationship r) (d : Dialect)
    (hs : EndsLine s) :
    stripCommentsFrom .code (brokenLines (relationshipLines d r) ++ s) =
      bareRelationship d r ++ stripCommentsFrom .code s := by
  -- Behind the title each line of the statement is plain.
  have hAlter := (Plain.of_all (p := "ALTER TABLE ".toList) rfl).append
    (plain_quote d hr.sourceTable)
  have hAdd := (Plain.of_all (p := "  ADD CONSTRAINT ".toList) rfl).append
    (plain_quote d (isIdentifier_constraintName hr))
  have hForeign := ((Plain.of_all (p := "  FOREIGN KEY (".toList) rfl).append
    (plain_quote d hr.sourceColumn)).append (Plain.of_all (p := [')']) rfl)
  have hReferences := ((((Plain.of_all (p := "  REFERENCES ".toList) rfl).append
    (plain_quote d hr.targetTable)).append (Plain.of_all (p := " (".toList) rfl)).append
    (plain_quote d hr.targetColumn)).append (Plain.of_all (p := [')', ';']) rfl)
  rw [relationshipLines_eq, strip_commentLine (break_not_mem_relationshipTitle hr) _ hs,
    strip_plainLine hAlter, strip_plainLine hAdd, strip_plainLine hForeign,
    strip_plainLine hReferences, strip_plainLine Plain.nil]
  simp only [bareRelationship, bareConstraint, brokenLines, List.append_assoc, List.flatMap_nil,
    List.nil_append, List.cons_append]

/-- Of the lines of several parts the comments are left out part by part. -/
theorem strip_flatMap {α : Type} {lines : α → List (List Char)} {bare : α → List Char}
    {parts : List α} (h : ∀ part ∈ parts, ∀ s, EndsLine s →
      stripCommentsFrom .code (brokenLines (lines part) ++ s) =
        bare part ++ stripCommentsFrom .code s) (hs : EndsLine s) :
    stripCommentsFrom .code (brokenLines (parts.flatMap lines) ++ s) =
      parts.flatMap bare ++ stripCommentsFrom .code s := by
  induction parts with
  | nil => rfl
  | cons part parts ih =>
    have hrest := ih fun p hp => h p (List.mem_cons_of_mem _ hp)
    have hsplit : brokenLines ((part :: parts).flatMap lines) ++ s =
        brokenLines (lines part) ++ (brokenLines (parts.flatMap lines) ++ s) := by
      simp [brokenLines]
    rw [hsplit, h part List.mem_cons_self _ (endsLine_brokenLines _ hs), hrest]
    simp

/-- Without its comments the script of a schema is the bare script. -/
theorem strip_print {schema : Schema} (hschema : WritableSchema schema) (d : Dialect)
    (hne : schema.tables ≠ []) :
    stripCommentsFrom .code ('\n' :: (print d schema).toList) = bareScript d schema := by
  have hlines : schema.tables.flatMap (tableLines d) ++
      schema.relationships.flatMap (relationshipLines d) ≠ [] := by
    obtain ⟨t, tables, h⟩ := List.exists_cons_of_ne_nil hne
    have ht : tableLines d t ≠ [] := List.cons_ne_nil _ _
    rw [h, List.flatMap_cons]
    exact List.append_ne_nil_of_left_ne_nil (List.append_ne_nil_of_left_ne_nil ht _) _
  -- With one more line break in front, each line of the script has its own.
  have hbroken : '\n' :: (print d schema).toList =
      brokenLines (schema.tables.flatMap (tableLines d)) ++
        (brokenLines (schema.relationships.flatMap (relationshipLines d)) ++ []) := by
    unfold print
    rw [String.toList_ofList, cons_intercalate hlines]
    simp [brokenLines]
  have htables (s : List Char) (hs : EndsLine s) := strip_flatMap
    (fun t ht s hs => strip_tableLines (hschema.tables t ht) d hs) hs
  have hrelationships := strip_flatMap
    (fun r hr s hs => strip_relationshipLines (hschema.relationships r hr) d hs) (s := []) rfl
  calc stripCommentsFrom .code ('\n' :: (print d schema).toList)
      = schema.tables.flatMap (bareTable d) ++ stripCommentsFrom .code
          (brokenLines (schema.relationships.flatMap (relationshipLines d)) ++ []) := by
        rw [hbroken, htables _ (endsLine_brokenLines _ (s := []) rfl)]
    _ = schema.tables.flatMap (bareTable d) ++
          (schema.relationships.flatMap (bareRelationship d) ++ []) := by
        rw [hrelationships]
        rfl
    _ = bareScript d schema := by
        rw [List.append_nil]
        rfl

/-- The script of a schema that SQL gives back is the bare one without its comments, but for the
line break in front. -/
theorem stripComments_print {schema : Schema} (hschema : PortableSchema schema) (d : Dialect)
    (hne : schema.tables ≠ []) :
    '\n' :: stripComments (print d schema).toList = bareScript d schema :=
  (strip_cons rfl _).symm.trans (strip_print hschema.writable d hne)

end SchemaDiagram.Sql
