import SchemaDiagram.Proofs.Schema.Names
import SchemaDiagram.Proofs.Text.Boundary
import SchemaDiagram.Schema.Edit

/-!
# A reference added at the end of a text

The line of a relationship is set off from the text before it by a line break, and the readers of
references and of table blocks take nothing of it, whatever construct the text leaves unfinished
(`Reference.confined_tail?`, `TableBlock.confined_tail?`). So the text with the line declares the
tables it declared before, and one more relationship (`Schema.declaredBy_endLine`), which is all
that its schema gains (`Schema.gains_appendReference`).
-/

namespace SchemaDiagram

open Character

variable {p s : List Char}

/-! ## What stops the readers -/

/-- The reader of operators takes nothing of a text that does not begin with one of their
characters. -/
theorem Reference.confined_operator? (hs : s.head?.any isOperatorChar = false) :
    Scan.Confined operator? s := by
  intro p
  obtain ⟨htake, hdrop⟩ := Scan.takeWhile_append_of_head? hs p
  unfold operator?
  rw [htake, hdrop]
  cases p.takeWhile isOperatorChar <;> rfl

/-- The reader of columns takes nothing of a text that begins neither with an identifier nor with a
point. -/
theorem Reference.confined_columnRef? (hs : Stops s) (hpoint : s.head? ≠ some '.') :
    Scan.Confined columnRef? s := by
  intro p
  unfold columnRef?
  simp only [Option.bind_eq_bind, Scan.confined_ident? hs p, Option.bind_map]
  cases hp : Scan.ident? p with
  | none => rfl
  | some found =>
    simp only [Option.bind_some, Function.comp_apply, Scan.char?_append hpoint, Option.bind_map]
    cases Scan.char? '.' found.2 with
    | none => rfl
    | some behind =>
      simp only [Option.bind_some, Function.comp_apply, Scan.confined_ident? hs behind,
        Option.bind_map]
      cases Scan.ident? behind <;> rfl

/-- What can stand behind an unfinished reference without being taken for its next part. -/
structure Reference.Stopped (s : List Char) : Prop where
  /-- No identifier goes on. -/
  stops : Stops s
  /-- No colon follows the keyword. -/
  colon : s.head? ≠ some ':'
  /-- No point follows the name of a table. -/
  point : s.head? ≠ some '.'
  /-- No operator goes on. -/
  operator : s.head?.any isOperatorChar = false
  /-- Nor does one follow behind blanks. -/
  operatorBehind : (Scan.skipBlanks s).head?.any isOperatorChar = false
  /-- No column follows behind blanks. -/
  columnBehind : columnRef? (Scan.skipBlanks s) = none

/-- The reader of references takes nothing of a text that stops it. -/
theorem Reference.confined_tail? (hs : Reference.Stopped s) : Scan.Confined tail? s := by
  have hoperatorBehind : operator? (Scan.skipBlanks s) = none := by
    have htake : (Scan.skipBlanks s).takeWhile isOperatorChar = [] :=
      (Scan.takeWhile_append_of_head? hs.operatorBehind []).1
    unfold operator?
    rw [htake]
  have hcolumn := (confined_columnRef? hs.stops hs.point).skipBlanks rfl hs.columnBehind
  have hoperator := (confined_operator? hs.operator).skipBlanks rfl hoperatorBehind
  intro p
  unfold tail?
  simp only [Option.bind_eq_bind, Scan.char?_append hs.colon, Option.bind_map]
  -- Each part is read as without `s`, with `s` behind what remains.
  cases Scan.char? ':' p with
  | none => rfl
  | some behindColon =>
    simp only [Option.bind_some, Function.comp_apply, hcolumn behindColon, Option.bind_map]
    cases columnRef? (Scan.skipBlanks behindColon) with
    | none => rfl
    | some source =>
      simp only [Option.bind_some, Function.comp_apply, hoperator source.2, Option.bind_map]
      cases operator? (Scan.skipBlanks source.2) with
      | none => rfl
      | some operator =>
        simp only [Option.bind_some, Function.comp_apply, hcolumn operator.2, Option.bind_map]
        cases columnRef? (Scan.skipBlanks operator.2) <;> rfl

/-- Reads a block from its name on. -/
def TableBlock.fromName? (s : List Char) : Option (TableBlock × List Char) := do
  let (name, s) ← Scan.ident? s
  let s ← Scan.char? '{' (Scan.skipBlanks s)
  let (body, s) ← Scan.until? ['}'] s
  return (⟨name, body⟩, s)

/-- Behind its keyword and blanks a block is read from its name on. -/
theorem TableBlock.tail?_eq (s : List Char) : tail? s = (Scan.blanks? s).bind fromName? := rfl

/-- A mark that no reference goes on with stops the reader of references. -/
theorem Reference.stopped_cons {m : Char} (hident : isIdent m = false) (hblank : isBlank m = false)
    (hmark : m ∉ [':', '.', '<', '>', '-']) (s : List Char) : Reference.Stopped (m :: s) := by
  have hoperator : isOperatorChar m = false := by
    simp only [List.mem_cons, List.not_mem_nil, or_false, not_or] at hmark
    simp [isOperatorChar, hmark]
  have hskip : Scan.skipBlanks (m :: s) = m :: s := Scan.skipBlanks_of_not hblank
  constructor
  case stops => exact stops_cons.2 hident
  case colon =>
    intro h
    obtain rfl : m = ':' := Option.some.inj h
    exact hmark (by decide)
  case point =>
    intro h
    obtain rfl : m = '.' := Option.some.inj h
    exact hmark (by decide)
  case operator => simpa using hoperator
  case operatorBehind =>
    rw [hskip]
    simpa using hoperator
  case columnBehind =>
    rw [hskip]
    unfold columnRef?
    rw [Scan.ident?_of_stops (stops_cons.2 hident)]
    rfl

/-- Such a mark divides a text into parts whose references are all there are. -/
theorem Reference.constructs_append_cons {m : Char} (hident : isIdent m = false)
    (hblank : isBlank m = false) (hmark : m ∉ [':', '.', '<', '>', '-']) (p s : List Char) :
    constructs keyword (Scan.orStay tail?) (p ++ m :: s) =
      constructs keyword (Scan.orStay tail?) p ++ constructs keyword (Scan.orStay tail?) s := by
  have hstopped := Reference.stopped_cons hident hblank hmark s
  rw [constructs_append_of_apart isWord_keyword (confined_tail? hstopped).apart
    (Breaks.of_stops hstopped.stops), constructs_cons isWord_keyword hident]

/-- What can stand behind an unfinished table block without being taken for its next part. -/
structure TableBlock.Stopped (s : List Char) : Prop where
  /-- No identifier goes on. -/
  stops : Stops s
  /-- No body is opened behind blanks. -/
  brace : (Scan.skipBlanks s).head? ≠ some '{'
  /-- No table follows behind blanks. -/
  block : fromName? (Scan.skipBlanks s) = none
  /-- No body ends. -/
  close : '}' ∉ s

/-- The reader of table blocks takes nothing of a text that stops it. -/
theorem TableBlock.confined_tail? (hs : TableBlock.Stopped s) : Scan.Confined tail? s := by
  have hname : Scan.Confined fromName? s := by
    intro p
    unfold fromName?
    simp only [Option.bind_eq_bind, Scan.confined_ident? hs.stops p, Option.bind_map]
    cases Scan.ident? p with
    | none => rfl
    | some name =>
      simp only [Option.bind_some, Function.comp_apply, Scan.char?_skipBlanks_append hs.brace,
        Option.bind_map]
      cases Scan.char? '{' (Scan.skipBlanks name.2) with
      | none => rfl
      | some behindBrace =>
        simp only [Option.bind_some, Function.comp_apply, Scan.confined_until? hs.close behindBrace,
          Option.bind_map]
        cases Scan.until? ['}'] behindBrace <;> rfl
  have hbehind := hname.skipBlanks rfl hs.block
  intro p
  rw [tail?_eq, tail?_eq]
  -- Blanks come first, from the text itself or from `s`.
  cases p with
  | nil =>
    have hnone : (Scan.blanks? s).bind fromName? = none := by
      cases s with
      | nil => rfl
      | cons c s =>
        cases hc : isBlank c with
        | true =>
          rw [Scan.blanks?_cons hc, Option.bind_some, ← Scan.skipBlanks_cons hc]
          exact hs.block
        | false => rw [Scan.blanks?_of_not hc, Option.bind_none]
    rw [List.nil_append, hnone]
    rfl
  | cons c p =>
    cases hc : isBlank c with
    | true =>
      rw [List.cons_append, Scan.blanks?_cons hc, Scan.blanks?_cons hc]
      exact hbehind p
    | false =>
      rw [List.cons_append, Scan.blanks?_of_not hc, Scan.blanks?_of_not hc]
      rfl

/-! ## Behind a line break -/

/-- A line break that nothing follows stops the reader of references. -/
theorem Reference.stopped_break : Reference.Stopped ['\n'] where
  stops := stops_cons.2 rfl
  colon := by simp
  point := by simp
  operator := rfl
  operatorBehind := rfl
  columnBehind := rfl

/-- A line break that nothing follows stops the reader of table blocks. -/
theorem TableBlock.stopped_break : TableBlock.Stopped ['\n'] where
  stops := stops_cons.2 rfl
  brace := by decide
  block := rfl
  close := by decide

variable {r : Relationship}

/-- What is ahead behind the line break before the line of a relationship. -/
theorem skipBlanks_break_line (r : Relationship) : Scan.skipBlanks ('\n' :: r.line) = r.line := by
  rw [Scan.skipBlanks_cons rfl, Relationship.line_eq]
  exact Scan.skipBlanks_identifier (isIdentifier_of_all rfl)

/-- The line of a relationship on a new line stops the reader of references. -/
theorem Reference.stopped_line (r : Relationship) : Reference.Stopped ('\n' :: r.line) where
  stops := stops_cons.2 rfl
  colon := by simp
  point := by simp
  operator := rfl
  operatorBehind := by
    rw [skipBlanks_break_line]
    rfl
  columnBehind := by
    have hident : Scan.ident? r.line = some ("Ref".toList, r.behindKeyword ++ ['\n']) := by
      rw [Relationship.line_eq]
      exact Scan.ident?_append (isIdentifier_of_all rfl) (stops_cons.2 rfl)
    rw [skipBlanks_break_line]
    unfold columnRef?
    rw [hident]
    rfl

/-- No brace is in the line of a relationship. -/
theorem Relationship.brace_not_mem_line (hr : TextSafeRelationship r) : '}' ∉ r.line := by
  have hname {w : List Char} (hw : IsIdentifier w) : '}' ∉ w :=
    fun hmem => absurd (hw.2 _ hmem) (by decide)
  have hoperator : '}' ∉ r.cardinality.operator := by
    cases r.cardinality <;> decide
  unfold Relationship.line ColumnRef.dotted
  simp [hname hr.sourceTable, hname hr.sourceColumn, hname hr.targetTable, hname hr.targetColumn,
    hoperator]

/-- The line of a relationship on a new line stops the reader of table blocks. -/
theorem TableBlock.stopped_line (hr : TextSafeRelationship r) :
    TableBlock.Stopped ('\n' :: r.line) where
  stops := stops_cons.2 rfl
  brace := by
    rw [skipBlanks_break_line]
    exact fun h => absurd (Option.some.inj h) (by decide)
  block := by
    have hident : Scan.ident? r.line = some ("Ref".toList, r.behindKeyword ++ ['\n']) := by
      rw [Relationship.line_eq]
      exact Scan.ident?_append (isIdentifier_of_all rfl) (stops_cons.2 rfl)
    rw [skipBlanks_break_line]
    unfold fromName?
    rw [hident]
    rfl
  close := by
    simp [Relationship.brace_not_mem_line hr]

/-! ## The text with the line -/

/-- What a text declares in front of one that stops its readers is declared by the two texts. -/
theorem Schema.declaredBy_append (hreference : Reference.Stopped s) (hblock : TableBlock.Stopped s)
    (p : List Char) : Schema.declaredBy (p ++ s) =
      ⟨(Schema.declaredBy p).tables ++ (Schema.declaredBy s).tables,
        (Schema.declaredBy p).relationships ++ (Schema.declaredBy s).relationships⟩ := by
  have hbreaks : Breaks p s := Breaks.of_stops hreference.stops
  unfold Schema.declaredBy
  rw [constructs_append_of_apart TableBlock.isWord_keyword
      (TableBlock.confined_tail? hblock).apart hbreaks,
    constructs_append_of_apart Reference.isWord_keyword
      (Reference.confined_tail? hreference).apart hbreaks, List.map_append]

/-- The line of a relationship declares it, and no table. -/
theorem Schema.declaredBy_line (hr : TextSafeRelationship r) :
    Schema.declaredBy ('\n' :: r.line) = ⟨[], [r]⟩ := by
  have hblock : constructs TableBlock.keyword (Scan.orStay TableBlock.tail?) r.line = [] := by
    simpa using TableBlock.constructs_line hr (s := []) rfl
  have hreference : constructs Reference.keyword (Scan.orStay Reference.tail?) r.line = [r] := by
    simpa using Reference.constructs_line hr []
  unfold Schema.declaredBy
  rw [constructs_cons TableBlock.isWord_keyword rfl, constructs_cons Reference.isWord_keyword rfl,
    hblock, hreference]
  rfl

/-- A line break at the end of a text declares nothing. -/
theorem Schema.declaredBy_break (p : List Char) :
    Schema.declaredBy (p ++ ['\n']) = Schema.declaredBy p := by
  have hbreak : Schema.declaredBy ['\n'] = ⟨[], []⟩ := by
    unfold Schema.declaredBy
    rw [constructs_cons TableBlock.isWord_keyword rfl, constructs_cons Reference.isWord_keyword rfl,
      constructs_nil, constructs_nil]
    rfl
  rw [Schema.declaredBy_append Reference.stopped_break TableBlock.stopped_break, hbreak,
    List.append_nil, List.append_nil]

/-- The text with the line of a relationship at its end declares what it declared, and the
relationship. -/
theorem Schema.declaredBy_endLine (hr : TextSafeRelationship r) (p : List Char) :
    Schema.declaredBy (SchemaText.endLine p ++ r.line) =
      ⟨(Schema.declaredBy p).tables, (Schema.declaredBy p).relationships ++ [r]⟩ := by
  have hline (p : List Char) : Schema.declaredBy (p ++ '\n' :: r.line) =
      ⟨(Schema.declaredBy p).tables, (Schema.declaredBy p).relationships ++ [r]⟩ := by
    rw [Schema.declaredBy_append (Reference.stopped_line r) (TableBlock.stopped_line hr),
      Schema.declaredBy_line hr, List.append_nil]
  -- A line break comes before the line unless the text is empty, and it may be the last character.
  induction p using List.reverseRecOn with
  | nil =>
    have hstart : Schema.declaredBy ('\n' :: r.line) = Schema.declaredBy r.line := by
      unfold Schema.declaredBy
      rw [constructs_cons TableBlock.isWord_keyword rfl,
        constructs_cons Reference.isWord_keyword rfl]
    exact hstart ▸ hline []
  | append_singleton p c _ =>
    unfold SchemaText.endLine
    rw [List.getLast?_concat]
    by_cases hc : c = '\n'
    · rw [hc]
      simp only [if_true]
      rw [List.append_assoc, List.singleton_append, hline, Schema.declaredBy_break]
    · simp only [if_neg hc]
      rw [List.append_assoc _ ['\n'], List.singleton_append]
      exact hline _

/-- The schema of a text with the line of a relationship at its end has the tables it had, with the
foreign key flagged, and one more relationship. -/
theorem Schema.parse_appendReference (hr : TextSafeRelationship r) (text : String) :
    Schema.parse (SchemaText.appendReference text r) =
      ⟨Schema.markForeignKey (Schema.parse text).tables r.endpoints.source,
        (Schema.parse text).relationships ++ [r]⟩ := by
  unfold SchemaText.appendReference
  rw [Schema.parse_eq, Schema.parse_eq, String.toList_ofList, Schema.declaredBy_endLine hr]
  unfold Schema.markForeignKeys
  simp only [List.foldl_append, List.foldl_cons, List.foldl_nil]

/-- What can become of a column of a table when a relationship starts at `source`. -/
def ColumnRef.Flags (source : ColumnRef) (table : String) (c c' : Column) : Prop :=
  c' = c ∨ (source = ⟨table, c.name⟩ ∧ c' = { c with isForeignKey := true })

/-- What a schema `s'` has of a schema `s` that gains a relationship. -/
structure Schema.Gains (s : Schema) (r : Relationship) (s' : Schema) : Prop where
  /-- The relationship comes behind those there were. -/
  relationships : s'.relationships = s.relationships ++ [r]
  /-- The tables get the flags that the relationship alone would give them, besides their own. -/
  tables : s'.tables = (Schema.markForeignKeys ⟨s.tables, [r]⟩).tables
  /-- Tables and columns stay what they were, but that a column where the relationship starts may
  be flagged. -/
  columns : List.Forall₂ (fun t t' : Table => t'.name = t.name ∧
    List.Forall₂ (r.endpoints.source.Flags t.name) t.columns t'.columns) s.tables s'.tables

/-- Flagging the column where a relationship starts changes no other column. -/
theorem Schema.forall₂_markForeignKey (source : ColumnRef) (tables : List Table) :
    List.Forall₂ (fun t t' : Table => t'.name = t.name ∧
      List.Forall₂ (source.Flags t.name) t.columns t'.columns)
      tables (Schema.markForeignKey tables source) := by
  refine (forall₂_updateFirst tables).imp fun t t' ht => ?_
  rcases ht with rfl | ⟨htable, rfl⟩
  · exact ⟨rfl, List.forall₂_same.2 fun c _ => .inl rfl⟩
  · refine ⟨rfl, (forall₂_updateFirst t.columns).imp fun c c' hc => ?_⟩
    rcases hc with rfl | ⟨hcolumn, rfl⟩
    · exact .inl rfl
    · rw [beq_iff_eq] at htable hcolumn
      exact .inr ⟨by rw [htable, hcolumn], rfl⟩

/-- Whatever the text is, and whatever it leaves unfinished, its schema gains the relationship that
is appended, and nothing else. -/
theorem Schema.gains_appendReference (hr : TextSafeRelationship r) (text : String) :
    Schema.Gains (Schema.parse text) r
      (Schema.parse (SchemaText.appendReference text r)) := by
  rw [Schema.parse_appendReference hr]
  constructor
  case relationships => rfl
  case tables => rfl
  case columns => exact Schema.forall₂_markForeignKey r.endpoints.source _

/-- A text that ends in a reference without its second column, in a table that is not closed. -/
def danglingText : String :=
  "Table a \x7b\n  x int\n  z int\n\x7d\nRef: a.x > ref.table\nTable b \x7b\n  Ref: a.z <"

/-- A relationship between columns whose names are keywords. -/
def keywordRelationship : Relationship :=
  ⟨⟨⟨"a", "z"⟩, ⟨"table", "ref"⟩⟩, .manyToMany⟩

/-- The line of the relationship does not complete that reference: the schema gains the relationship
and the flag of its column. -/
theorem Schema.gains_danglingText :
    TextSafeRelationship keywordRelationship ∧
      Schema.Gains (Schema.parse danglingText) keywordRelationship
        (Schema.parse (SchemaText.appendReference danglingText keywordRelationship)) ∧
      SchemaText.appendReference danglingText keywordRelationship =
        danglingText ++ "\nRef: a.z <> table.ref\n" ∧
      Schema.parse (SchemaText.appendReference danglingText keywordRelationship) =
        { tables := [⟨"a", [{ name := "x", type := "int", isForeignKey := true },
            { name := "z", type := "int", isForeignKey := true }]⟩]
          relationships :=
            [⟨⟨⟨"a", "x"⟩, ⟨"ref", "table"⟩⟩, .manyToOne⟩, keywordRelationship] } := by
  have hsafe : TextSafeRelationship keywordRelationship := by
    constructor <;> exact isIdentifier_of_all rfl
  refine ⟨hsafe, Schema.gains_appendReference hsafe danglingText, ?_, ?_⟩
  · decide +kernel
  · decide +kernel

end SchemaDiagram
