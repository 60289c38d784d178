import SchemaDiagram.Proofs.Schema.Basic
import SchemaDiagram.Proofs.Schema.ColumnLine

/-!
# A schema through its text and back

What is read from the canonical text of a schema is known exactly: the same tables in the same
order, with the columns that their lines declare, and the same relationships (`Schema.declared`).
Foreign keys are flagged where those relationships start.
-/

namespace SchemaDiagram

open Character

/-- A table that is read back. -/
structure TextSafeTable (t : Table) : Prop where
  /-- Its name is an identifier. -/
  name : IsIdentifier t.name.toList
  /-- Its columns are read back. -/
  columns : ∀ c ∈ t.columns, TextSafeColumn c

/-- A schema that is read back. -/
structure TextSafeSchema (s : Schema) : Prop where
  /-- Its tables are read back. -/
  tables : ∀ t ∈ s.tables, TextSafeTable t
  /-- The names in its relationships are identifiers. -/
  relationships : ∀ r ∈ s.relationships, TextSafeRelationship r

/-- The table as its block declares it. -/
def Table.declared (t : Table) : Table :=
  ⟨t.name, t.columns.map Column.declared⟩

/-- The schema as its text declares it, without foreign keys. -/
def Schema.declared (s : Schema) : Schema :=
  ⟨s.tables.map Table.declared, s.relationships⟩

/-! ## Blocks -/

/-- The lines of a text in which each line is ended are these lines and an empty one. -/
theorem lines_flatMap {ls : List (List Char)} (h : ∀ l ∈ ls, '\n' ∉ l) :
    Text.lines (ls.flatMap (· ++ ['\n'])) = ls ++ [[]] := by
  unfold Text.lines
  rw [List.splitOn_eq_splitOnP]
  induction ls with
  | nil => rfl
  | cons l ls ih =>
    -- No line has a break in it, so each is cut off at its own.
    have hl : ∀ c ∈ l, (c == '\n') = false := by
      intro c hc
      rw [beq_eq_false_iff_ne]
      rintro rfl
      exact h l List.mem_cons_self hc
    rw [List.flatMap_cons, List.append_assoc, List.singleton_append,
      List.splitOnP_append_cons_of_forall_mem hl '\n' (beq_self_eq_true '\n'),
      ih fun x hx => h x (List.mem_cons_of_mem _ hx), List.cons_append]

/-- The text between the braces of the block of a table. -/
def Table.body (t : Table) : List Char :=
  '\n' :: (t.columns.map Column.declaration).flatMap (· ++ ['\n'])

/-- The block of a table behind its keyword. -/
def Table.behindKeyword (t : Table) : List Char :=
  ' ' :: (t.name.toList ++ ' ' :: '\x7b' :: (t.body ++ ['\x7d']))

/-- The block of a table is its keyword, what comes behind it, and the end of the line. -/
theorem Table.block_eq (t : Table) : t.block = "Table".toList ++ (t.behindKeyword ++ ['\n']) := by
  have hkeyword : "Table ".toList = "Table".toList ++ [' '] := rfl
  have hopen : " \x7b\n".toList = [' ', '\x7b', '\n'] := rfl
  have hclose : "\x7d\n".toList = ['\x7d', '\n'] := rfl
  have hlines : t.columns.flatMap Column.line =
      (t.columns.map Column.declaration).flatMap (· ++ ['\n']) := by
    rw [List.flatMap_map]
    exact List.flatMap_congr fun c _ => Column.line_eq c
  unfold Table.block Table.behindKeyword Table.body
  rw [hlines, hkeyword, hopen, hclose]
  simp only [List.append_assoc, List.cons_append, List.nil_append]

/-- The lines of the block of a table, with the empty one behind it. -/
def Table.lines (t : Table) : List (List Char) :=
  ("Table".toList ++ ' ' :: (t.name.toList ++ [' ', '\x7b'])) ::
    (t.columns.map Column.declaration ++ [['\x7d'], []])

/-- The block of a table and the break behind it are its lines, each of which is ended. -/
theorem Table.block_eq_lines (t : Table) : t.block ++ ['\n'] = t.lines.flatMap (· ++ ['\n']) := by
  rw [Table.block_eq]
  unfold Table.behindKeyword Table.body Table.lines
  simp

/-- No brace is in the body of a block if none is in the declarations of its columns. -/
theorem Table.brace_not_mem_body_of {t : Table} (ht : ∀ c ∈ t.columns, '\x7d' ∉ c.declaration) :
    '\x7d' ∉ t.body := by
  unfold Table.body
  intro hmem
  rcases List.mem_cons.1 hmem with hmem | hmem
  · exact absurd hmem (by decide)
  · obtain ⟨l, hl, hmem⟩ := List.mem_flatMap.1 hmem
    obtain ⟨c, hc, rfl⟩ := List.mem_map.1 hl
    rcases List.mem_append.1 hmem with hmem | hmem
    · exact ht c hc hmem
    · exact absurd (List.mem_singleton.1 hmem) (by decide)

/-- The body of a block ends at the brace behind it. -/
theorem brace_not_mem_body {t : Table} (ht : TextSafeTable t) : '\x7d' ∉ t.body :=
  Table.brace_not_mem_body_of fun c hc hmem =>
    (Column.not_mem_declaration (ht.columns c hc) _ hmem).2 rfl

/-- The block of a table is read behind its keyword if no brace comes too early. -/
theorem TableBlock.tail?_behindKeyword {t : Table} (hname : IsIdentifier t.name.toList)
    (hbody : '\x7d' ∉ t.body) (s : List Char) :
    TableBlock.tail? (t.behindKeyword ++ s) = some (⟨t.name.toList, t.body⟩, s) := by
  have hsplit : t.behindKeyword ++ s =
      ' ' :: (t.name.toList ++ ' ' :: '\x7b' :: (t.body ++ '\x7d' :: s)) := by
    unfold Table.behindKeyword
    simp only [List.append_assoc, List.cons_append, List.nil_append]
  have hident : Scan.ident? (t.name.toList ++ ' ' :: '\x7b' :: (t.body ++ '\x7d' :: s)) =
      some (t.name.toList, ' ' :: '\x7b' :: (t.body ++ '\x7d' :: s)) :=
    Scan.ident?_append hname (stops_cons.2 rfl)
  have hbrace : Scan.skipBlanks (' ' :: '\x7b' :: (t.body ++ '\x7d' :: s)) =
      '\x7b' :: (t.body ++ '\x7d' :: s) := by
    rw [Scan.skipBlanks_cons rfl, Scan.skipBlanks_of_not rfl]
  unfold TableBlock.tail?
  rw [hsplit, Scan.blanks?_cons rfl, Scan.skipBlanks_identifier hname]
  simp only [Option.bind_eq_bind, Option.bind_some, hident, hbrace, Scan.char?_self,
    Scan.until?_singleton hbody]
  rfl

/-- The table with the columns that the lines of its columns declare. -/
def Table.reread (t : Table) : Table :=
  ⟨t.name, t.columns.filterMap fun c => Column.ofLine? c.declaration⟩

/-- The block of a table is read line by line. -/
theorem TableBlock.table_eq_reread {t : Table} (ht : ∀ c ∈ t.columns, '\n' ∉ c.declaration) :
    TableBlock.table ⟨t.name.toList, t.body⟩ = t.reread := by
  have hlines : Text.lines t.body = [] :: (t.columns.map Column.declaration ++ [[]]) := by
    have hbreak : ∀ l ∈ [] :: t.columns.map Column.declaration, '\n' ∉ l := by
      intro l hl
      rcases List.mem_cons.1 hl with rfl | hl
      · exact List.not_mem_nil
      · obtain ⟨c, hc, rfl⟩ := List.mem_map.1 hl
        exact ht c hc
    exact lines_flatMap hbreak
  -- The empty lines at both ends declare nothing.
  have hnil : Column.ofLine? [] = none := rfl
  unfold TableBlock.table Table.reread
  rw [hlines, String.ofList_toList, List.filterMap_cons_none hnil, List.filterMap_append,
    List.filterMap_cons_none hnil, List.filterMap_nil, List.append_nil, List.filterMap_map]
  rfl

/-- The block of a table declares it. -/
theorem TableBlock.table_body {t : Table} (ht : TextSafeTable t) :
    TableBlock.table ⟨t.name.toList, t.body⟩ = t.declared := by
  have hbreak : ∀ c ∈ t.columns, '\n' ∉ c.declaration := fun c hc hmem =>
    (Column.not_mem_declaration (ht.columns c hc) _ hmem).1 rfl
  rw [TableBlock.table_eq_reread hbreak]
  unfold Table.reread Table.declared
  rw [List.filterMap_eq_map_iff_forall_eq_some.2]
  exact fun c hc => Column.ofLine?_declaration (ht.columns c hc).legible

/-- The block of a table is read as one block if no brace comes too early. -/
theorem TableBlock.constructs_block {t : Table} (hname : IsIdentifier t.name.toList)
    (hbody : '\x7d' ∉ t.body) (s : List Char) :
    constructs TableBlock.keyword (Scan.orStay TableBlock.tail?) (t.block ++ '\n' :: s) =
      ⟨t.name.toList, t.body⟩ ::
        constructs TableBlock.keyword (Scan.orStay TableBlock.tail?) s := by
  have hread : Scan.orStay TableBlock.tail? (t.behindKeyword ++ '\n' :: '\n' :: s) =
      (some ⟨t.name.toList, t.body⟩, '\n' :: '\n' :: s) := by
    unfold Scan.orStay
    rw [TableBlock.tail?_behindKeyword hname hbody]
  have hself := constructs_self TableBlock.isWord_keyword (w := "Table".toList) (by decide)
    (by exact stops_cons.2 rfl) hread (Breaks.of_stops (stops_cons.2 rfl))
  rw [Table.block_eq]
  simp only [List.append_assoc, List.cons_append, List.nil_append]
  rw [hself, constructs_cons TableBlock.isWord_keyword rfl,
    constructs_cons TableBlock.isWord_keyword rfl]
  rfl

/-- The references of a block are those of its lines. -/
theorem Reference.constructs_block_of {t : Table} {g : Column → List Relationship}
    (hname : IsIdentifier t.name.toList)
    (hlines : ∀ c ∈ t.columns, ∀ s,
      constructs Reference.keyword (Scan.orStay Reference.tail?) (c.declaration ++ '\n' :: s) =
        g c ++ constructs Reference.keyword (Scan.orStay Reference.tail?) s) (s : List Char) :
    constructs Reference.keyword (Scan.orStay Reference.tail?) (t.block ++ '\n' :: s) =
      t.columns.flatMap g ++ constructs Reference.keyword (Scan.orStay Reference.tail?) s := by
  have hword := Reference.isWord_keyword
  have hcolumns : ∀ c ∈ t.columns, ∀ s,
      constructs Reference.keyword (Scan.orStay Reference.tail?)
          ((c.declaration ++ ['\n']) ++ s) =
        g c ++ constructs Reference.keyword (Scan.orStay Reference.tail?) s := by
    intro c hc s
    rw [List.append_assoc, List.singleton_append]
    exact hlines c hc s
  have hsplit : t.block ++ '\n' :: s = "Table".toList ++ ' ' :: (t.name.toList ++
      ' ' :: '\x7b' :: '\n' :: (t.columns.flatMap (fun c => c.declaration ++ ['\n']) ++
        '\x7d' :: '\n' :: '\n' :: s)) := by
    rw [Table.block_eq]
    unfold Table.behindKeyword Table.body
    rw [List.flatMap_map]
    simp only [List.append_assoc, List.cons_append, List.nil_append]
  -- No colon follows the keyword of the block or the name of the table, even if it is `ref`.
  rw [hsplit, constructs_orStay hword (isIdentifier_of_all rfl) (stops_cons.2 rfl)
      (Reference.tail?_of_ne (by simp)), constructs_cons hword rfl,
    constructs_orStay hword hname (stops_cons.2 rfl) (Reference.tail?_of_ne (by simp)),
    constructs_cons hword rfl, constructs_cons hword rfl, constructs_cons hword rfl,
    constructs_flatMap hcolumns, constructs_cons hword rfl, constructs_cons hword rfl,
    constructs_cons hword rfl]

/-- The block of a table has no references. -/
theorem noReference_block {t : Table} (ht : TextSafeTable t) : NoReference t.block := by
  have hlines {cs : List Column} (hcs : ∀ c ∈ cs, TextSafeColumn c) :
      NoReference ((cs.map Column.declaration).flatMap (· ++ ['\n']) ++ ['\x7d', '\n']) := by
    induction cs with
    | nil => exact NoReference.of_not_mem (by simp)
    | cons c cs ih =>
      rw [List.map_cons, List.flatMap_cons, List.append_assoc, List.append_assoc,
        List.singleton_append, noReference_append_cons (by decide)]
      exact ⟨Column.noReference_declaration (hcs c List.mem_cons_self),
        ih fun x hx => hcs x (List.mem_cons_of_mem _ hx)⟩
  -- The spaces, braces and breaks of a block divide it into its keyword, its name and its lines.
  have hkeyword : NoReference "Table".toList := NoReference.identifier (isIdentifier_of_all rfl)
  rw [Table.block_eq]
  unfold Table.behindKeyword Table.body
  simp only [List.append_assoc, List.cons_append, List.nil_append]
  rw [noReference_append_cons (by decide), noReference_append_cons (by decide),
    noReference_cons (by decide), noReference_cons (by decide)]
  exact ⟨hkeyword, NoReference.identifier ht.name, hlines ht.columns⟩

/-- The block of a table adds no reference. -/
theorem Reference.constructs_block {t : Table} (ht : TextSafeTable t) (s : List Char) :
    constructs Reference.keyword (Scan.orStay Reference.tail?) (t.block ++ '\n' :: s) =
      constructs Reference.keyword (Scan.orStay Reference.tail?) s := by
  -- A line break follows the block, so no colon does.
  rw [constructs_of_noReference (noReference_block ht) (stops_cons.2 rfl) (by simp),
    constructs_cons Reference.isWord_keyword rfl]

/-! ## The text of a schema -/

/-- The table blocks of the text of a schema are those of its tables if no brace comes too early. -/
theorem TableBlock.constructs_print_of {ts : List Table} {rs : List Relationship}
    (hts : ∀ t ∈ ts, IsIdentifier t.name.toList ∧ '\x7d' ∉ t.body)
    (hrs : ∀ r ∈ rs, TextSafeRelationship r) :
    constructs TableBlock.keyword (Scan.orStay TableBlock.tail?)
      (ts.flatMap (fun t => t.block ++ ['\n']) ++ rs.flatMap Relationship.line) =
        ts.map fun t => ⟨t.name.toList, t.body⟩ := by
  have hblock : ∀ t ∈ ts, ∀ s : List Char,
      constructs TableBlock.keyword (Scan.orStay TableBlock.tail?) (t.block ++ ['\n'] ++ s) =
        [⟨t.name.toList, t.body⟩] ++
          constructs TableBlock.keyword (Scan.orStay TableBlock.tail?) s := by
    intro t ht s
    rw [List.append_assoc, List.singleton_append,
      TableBlock.constructs_block (hts t ht).1 (hts t ht).2]
    rfl
  rw [constructs_flatMap hblock, TableBlock.constructs_lines hrs, List.append_nil,
    List.map_eq_flatMap]

/-- The table blocks of the text of a schema are those of its tables. -/
theorem TableBlock.constructs_print {ts : List Table} {rs : List Relationship}
    (hts : ∀ t ∈ ts, TextSafeTable t) (hrs : ∀ r ∈ rs, TextSafeRelationship r) :
    constructs TableBlock.keyword (Scan.orStay TableBlock.tail?)
      (ts.flatMap (fun t => t.block ++ ['\n']) ++ rs.flatMap Relationship.line) =
        ts.map fun t => ⟨t.name.toList, t.body⟩ :=
  TableBlock.constructs_print_of
    (fun t ht => ⟨(hts t ht).name, brace_not_mem_body (hts t ht)⟩) hrs

/-- The references of the text of a schema are those of its blocks and its relationships. -/
theorem Reference.constructs_print_of {ts : List Table} {rs : List Relationship}
    {g : Table → List Relationship}
    (hts : ∀ t ∈ ts, ∀ s,
      constructs Reference.keyword (Scan.orStay Reference.tail?) (t.block ++ '\n' :: s) =
        g t ++ constructs Reference.keyword (Scan.orStay Reference.tail?) s)
    (hrs : ∀ r ∈ rs, TextSafeRelationship r) :
    constructs Reference.keyword (Scan.orStay Reference.tail?)
      (ts.flatMap (fun t => t.block ++ ['\n']) ++ rs.flatMap Relationship.line) =
        ts.flatMap g ++ rs := by
  have hblock : ∀ t ∈ ts, ∀ s : List Char,
      constructs Reference.keyword (Scan.orStay Reference.tail?) (t.block ++ ['\n'] ++ s) =
        g t ++ constructs Reference.keyword (Scan.orStay Reference.tail?) s := by
    intro t ht s
    rw [List.append_assoc, List.singleton_append, hts t ht]
  rw [constructs_flatMap hblock, Reference.constructs_lines hrs]

/-- The references of the text of a schema are its relationships if its blocks have none. -/
theorem Reference.constructs_print_idle {ts : List Table} {rs : List Relationship}
    (hts : ∀ t ∈ ts, ∀ s,
      constructs Reference.keyword (Scan.orStay Reference.tail?) (t.block ++ '\n' :: s) =
        constructs Reference.keyword (Scan.orStay Reference.tail?) s)
    (hrs : ∀ r ∈ rs, TextSafeRelationship r) :
    constructs Reference.keyword (Scan.orStay Reference.tail?)
      (ts.flatMap (fun t => t.block ++ ['\n']) ++ rs.flatMap Relationship.line) = rs := by
  rw [Reference.constructs_print_of (g := fun _ => []) hts hrs]
  simp

/-- The references of the text of a schema are its relationships. -/
theorem Reference.constructs_print {ts : List Table} {rs : List Relationship}
    (hts : ∀ t ∈ ts, TextSafeTable t) (hrs : ∀ r ∈ rs, TextSafeRelationship r) :
    constructs Reference.keyword (Scan.orStay Reference.tail?)
      (ts.flatMap (fun t => t.block ++ ['\n']) ++ rs.flatMap Relationship.line) = rs :=
  Reference.constructs_print_idle (fun t ht s => Reference.constructs_block (hts t ht) s) hrs

/-- What is read from the canonical text of a schema. -/
theorem Schema.parse_print_of_textSafe {s : Schema} (hs : TextSafeSchema s) :
    Schema.parse s.print = s.declared.markForeignKeys := by
  have hblocks : (TableBlock.findAll s.print.toList).map (·.value) =
      s.tables.map fun t => ⟨t.name.toList, t.body⟩ := by
    unfold Schema.print
    rw [String.toList_ofList]
    exact TableBlock.constructs_print hs.tables hs.relationships
  have hreferences : (Reference.findAll s.print.toList).map (·.value) = s.relationships := by
    unfold Schema.print
    rw [String.toList_ofList]
    exact Reference.constructs_print hs.tables hs.relationships
  have htables : (TableBlock.findAll s.print.toList).map (·.value.table) =
      s.tables.map Table.declared := by
    calc (TableBlock.findAll s.print.toList).map (·.value.table)
        = ((TableBlock.findAll s.print.toList).map (·.value)).map TableBlock.table := by
          rw [List.map_map]
          rfl
      _ = s.tables.map fun t => TableBlock.table ⟨t.name.toList, t.body⟩ := by
          rw [hblocks, List.map_map]
          rfl
      _ = s.tables.map Table.declared :=
          List.map_congr_left fun t ht => TableBlock.table_body (hs.tables t ht)
  unfold Schema.parse Schema.declared
  rw [htables, hreferences]

/-- A schema whose names are words of schema text, with quotes and commas in its settings. -/
def wordSchema : Schema :=
  { tables :=
      [⟨"table", [
        { name := "ref", type := "table", isPrimaryKey := true, isNotNull := true },
        { name := "note", type := "ref", isForeignKey := true, isNotNull := true,
          defaultValue := some "f('a,b')", note := some "it's: a, b" }]⟩,
      ⟨"ref", []⟩,
      ⟨"table", []⟩]
    relationships := [⟨⟨⟨"table", "ref"⟩, ⟨"ref", "table"⟩⟩, .manyToMany⟩] }

/-- The default in that schema is read back. -/
theorem safeDefault_wordSchema : SafeDefault "f('a,b')".toList := by
  have hcall : Setting.Balanced "f(".toList := (Setting.balanced_of_plain rfl).1
  have hclose : Setting.Balanced ")".toList := (Setting.balanced_of_plain rfl).1
  have hquoted : Setting.Balanced ('\'' :: ("a,b".toList ++ '\'' :: ")".toList)) :=
    Setting.Balanced.quoted rfl (by decide) hclose
  constructor
  · rfl
  · exact within_of_all rfl
  · exact hcall.append hquoted
  · exact NoReference.of_not_mem (by decide)

/-- The note in that schema is read back. -/
theorem safeNote_wordSchema : SafeNote "it's: a, b".toList := by
  constructor
  · exact within_of_all rfl
  · decide
  · unfold NoReference
    decide

/-- That schema is read back. -/
theorem textSafe_wordSchema : TextSafeSchema wordSchema := by
  have htable : IsIdentifier "table".toList := isIdentifier_of_all rfl
  have href : IsIdentifier "ref".toList := isIdentifier_of_all rfl
  constructor
  · intro t ht
    simp only [wordSchema, List.mem_cons, List.not_mem_nil, or_false] at ht
    rcases ht with rfl | rfl | rfl
    · refine ⟨htable, fun c hc => ?_⟩
      simp only [List.mem_cons, List.not_mem_nil, or_false] at hc
      rcases hc with rfl | rfl
      · exact ⟨href, htable, by decide +kernel, by simp, by simp⟩
      · refine ⟨isIdentifier_of_all rfl, href, by decide +kernel, fun value hvalue => ?_,
          fun note hnote => ?_⟩
        · rw [← Option.some.inj hvalue]
          exact safeDefault_wordSchema
        · rw [← Option.some.inj hnote]
          exact safeNote_wordSchema
    · exact ⟨href, by simp⟩
    · exact ⟨htable, by simp⟩
  · intro r hr
    rw [List.mem_singleton.1 hr]
    exact ⟨htable, href, href, htable⟩

/-- The names and settings come back as they were. -/
theorem parse_print_wordSchema :
    Schema.parse wordSchema.print =
      { tables :=
          [⟨"table", [
            { name := "ref", type := "table", isPrimaryKey := true, isForeignKey := true },
            { name := "note", type := "ref", isNotNull := true,
              defaultValue := some "f('a,b')", note := some "it's: a, b" }]⟩,
          ⟨"ref", []⟩,
          ⟨"table", []⟩]
        relationships := [⟨⟨⟨"table", "ref"⟩, ⟨"ref", "table"⟩⟩, .manyToMany⟩] } := by
  rw [Schema.parse_print_of_textSafe textSafe_wordSchema]
  decide +kernel

end SchemaDiagram
