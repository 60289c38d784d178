import SchemaDiagram.Proofs.Schema.Append
import SchemaDiagram.Proofs.Schema.RoundTrip
import SchemaDiagram.Proofs.Text.LowerCase

/-!
# The outline of a schema through its text

The names of tables and columns and the relationships of a schema are read back from its canonical
text even where types and defaults are not (`Schema.outline_parse_print`): a type only has to begin
with an identifier character. What can get in the way is a default, if it has a brace that ends the
table too early, a line that looks like a column, or a reference. A default that has none of these
is quiet (`QuietDefault`).
-/

namespace SchemaDiagram

open Character

/-- A column whose name and type are read back from its line. It has no note. -/
structure LineSafeColumn (c : Column) : Prop where
  /-- Its name is an identifier. -/
  name : IsIdentifier c.name.toList
  /-- Its type begins with an identifier character, and only such characters and the dot that a
  capital letter can leave in lower case follow. -/
  type : ∃ x rest, c.type.toList = x :: rest ∧ isIdent x = true ∧
    ∀ y ∈ rest, isIdent y = true ∨ y = combiningDot
  /-- Nothing is remarked about it. -/
  note : c.note = none

/-- A schema whose names and types are read back. -/
structure LineSafeSchema (s : Schema) : Prop where
  /-- The names of its tables are identifiers. -/
  tables : ∀ t ∈ s.tables, IsIdentifier t.name.toList
  /-- The names and types of its columns are read back. -/
  columns : ∀ t ∈ s.tables, ∀ c ∈ t.columns, LineSafeColumn c
  /-- The names in its relationships are identifiers. -/
  relationships : ∀ r ∈ s.relationships, TextSafeRelationship r

/-- Flagging the foreign keys of a schema leaves names and types as they are. -/
theorem LineSafeSchema.markForeignKeys {s : Schema} (h : LineSafeSchema s) :
    LineSafeSchema s.markForeignKeys := by
  have hfold (rs : List Relationship) (tables : List Table)
      (htables : ∀ t ∈ tables, IsIdentifier t.name.toList ∧ ∀ c ∈ t.columns, LineSafeColumn c) :
      ∀ t ∈ rs.foldl (fun tables r => Schema.markForeignKey tables r.endpoints.source) tables,
        IsIdentifier t.name.toList ∧ ∀ c ∈ t.columns, LineSafeColumn c := by
    induction rs generalizing tables with
    | nil => exact htables
    | cons r rs ih =>
      refine ih _ (forall_mem_updateFirst (fun t ht => ?_) htables)
      exact ⟨ht.1, forall_mem_updateFirst (fun c hc => ⟨hc.name, hc.type, hc.note⟩) ht.2⟩
  have hmarked := hfold s.relationships s.tables fun t ht => ⟨h.tables t ht, h.columns t ht⟩
  exact ⟨fun t ht => (hmarked t ht).1, fun t ht => (hmarked t ht).2, h.relationships⟩


/-- A default that is passed over when names and relationships are read back. -/
structure QuietDefault (value : List Char) : Prop where
  /-- It does not end the table. -/
  brace : '\x7d' ∉ value
  /-- No line that it begins declares a column. The last one ends with the list of settings. -/
  lines : ∀ l ∈ (Text.lines (value ++ [']'])).tail, Column.ofLine? l = none
  /-- No reference is read in it. -/
  references : constructs Reference.keyword (Scan.orStay Reference.tail?) value = []

/-- The names of the tables of a schema and of their columns. -/
def Schema.outline (s : Schema) : List (String × List String) :=
  s.tables.map fun t => (t.name, t.columns.map Column.name)

/-! ## Lines -/

namespace Text

/-- A break divides a text into the lines before it and those behind it. -/
theorem lines_append_break (p s : List Char) : lines (p ++ '\n' :: s) = lines p ++ lines s := by
  unfold lines
  simp only [List.splitOn_eq_splitOnP]
  exact List.splitOnP_append_cons p s (beq_self_eq_true '\n')

/-- What comes in front of a text without a break belongs to its first line. -/
theorem lines_append {p : List Char} (hp : '\n' ∉ p) (s : List Char) :
    lines (p ++ s) = (lines s).modifyHead (p ++ ·) := by
  unfold lines
  simp only [List.splitOn_eq_splitOnP]
  induction p with
  | nil =>
    rw [List.nil_append]
    cases s.splitOnP (· == '\n') <;> rfl
  | cons c p ih =>
    rw [List.mem_cons, not_or] at hp
    have hc : (c == '\n') = false := beq_eq_false_iff_ne.2 (Ne.symm hp.1)
    rw [List.cons_append, List.splitOnP_cons_eq_if_modifyHead, hc, ih hp.2]
    cases s.splitOnP (· == '\n') <;> rfl

/-- A text without a break is a single line. -/
theorem lines_of_not_mem {s : List Char} (hs : '\n' ∉ s) : lines s = [s] := by
  have happend := lines_append hs []
  rw [List.append_nil] at happend
  exact happend.trans (congrArg (fun l => [l]) (List.append_nil s))

end Text

namespace Column

variable {c : Column}

/-- A line with the name of a column, a blank and what begins like its type declares a column of
that name, whatever comes behind. -/
theorem name_of_ofLine? (hc : LineSafeColumn c) (s : List Char) :
    ∃ column, ofLine? ("  ".toList ++ (c.name.toList ++ ' ' :: (c.type.toList ++ s))) =
      some column ∧ column.name = c.name := by
  obtain ⟨x, rest, htype, hx, -⟩ := hc.type
  -- Blanks at the end of the line do not reach the type.
  have htrim : ∃ t, Text.trim ("  ".toList ++ (c.name.toList ++ ' ' :: (c.type.toList ++ s))) =
      c.name.toList ++ ' ' :: x :: t := by
    obtain ⟨y, name, hcons⟩ := List.exists_cons_of_ne_nil hc.name.1
    have hhead : ((c.name.toList ++ [' ']) ++ [x]).head?.any isBlank = false := by
      rw [hcons]
      exact isBlank_of_isIdent (hc.name.2 y (hcons ▸ List.mem_cons_self))
    obtain ⟨t, ht⟩ := Text.exists_trim_append hhead (by simp [isBlank_of_isIdent hx]) (rest ++ s)
    refine ⟨t, ?_⟩
    rw [Text.trim_blanks_append (by simp [isBlank]), htype]
    simpa using ht
  obtain ⟨t, htrim⟩ := htrim
  have hname : Scan.ident? (c.name.toList ++ ' ' :: x :: t) = some (c.name.toList, ' ' :: x :: t) :=
    Scan.ident?_append hc.name (stops_cons.2 rfl)
  have hblanks : Scan.blanks? (' ' :: x :: t) = some (x :: t) := by
    rw [Scan.blanks?_cons rfl, Scan.skipBlanks_of_not (isBlank_of_isIdent hx)]
  obtain ⟨type, behind, hident⟩ : ∃ type behind, Scan.ident? (x :: t) = some (type, behind) := by
    unfold Scan.ident?
    rw [List.takeWhile_cons_of_pos hx]
    exact ⟨_, _, rfl⟩
  unfold ofLine?
  simp only [htrim, not_comment hc.name, Bool.false_eq_true, not_false_eq_true, guard_true,
    Option.bind_eq_bind, Option.bind_some, Option.pure_def, hname, hblanks, hident]
  split
  · refine ⟨_, rfl, ?_⟩
    rw [name_applySettings, String.ofList_toList]
  · refine ⟨_, rfl, ?_⟩
    exact String.ofList_toList

/-! ## Settings -/

/-- The text of a column without a note, up to its default: its flags, each with a comma behind it. -/
def flagTexts (c : Column) : List (List Char) :=
  (if c.isPrimaryKey then ["primary key".toList] else []) ++
    (if c.isUnique then ["unique".toList] else []) ++
    (if c.isIncrement then ["increment".toList] else []) ++
    (if c.isNotNull && !c.isPrimaryKey then ["not null".toList] else [])

/-- The settings of a column without a note are its flags and its default. -/
theorem settings_of_note (hnote : c.note = none) : c.settings =
    c.flagTexts ++ c.defaultValue.toList.map fun value => "default: ".toList ++ value.toList := by
  unfold settings flagTexts
  rw [hnote]
  exact List.append_nil _

/-- A flag of a column is one of the flags there are. -/
theorem exists_of_mem_flagTexts {s : List Char} (h : s ∈ c.flagTexts) :
    ∃ flag ∈ Setting.flags, s = flag.toList := by
  have hmem : s ∈ settings { c with defaultValue := none, note := none } := by
    rw [settings_of_note rfl]
    exact List.mem_append_left _ h
  rcases mem_settings hmem with hflag | ⟨value, hvalue, -⟩ | ⟨note, hnote, -⟩
  · exact hflag
  · cases hvalue
  · cases hnote

/-- The characters that a flag does not have. -/
theorem not_mem_flag {flag : String} (h : flag ∈ Setting.flags) :
    '\n' ∉ flag.toList ∧ '\x7d' ∉ flag.toList ∧ ':' ∉ flag.toList := by
  have hall : ∀ flag ∈ Setting.flags,
      '\n' ∉ flag.toList ∧ '\x7d' ∉ flag.toList ∧ ':' ∉ flag.toList := by decide +kernel
  exact hall flag h

/-- No reference is read in a setting if none is read in the default. -/
theorem constructs_setting (hc : LineSafeColumn c)
    (hquiet : ∀ value ∈ c.defaultValue, QuietDefault value.toList) {s : List Char}
    (h : s ∈ c.settings) :
    constructs Reference.keyword (Scan.orStay Reference.tail?) s = [] := by
  have hword := Reference.isWord_keyword
  rcases mem_settings h with ⟨flag, hflag, rfl⟩ | ⟨value, hvalue, rfl⟩ | ⟨note, hnote, -⟩
  · exact (NoReference.of_not_mem (not_mem_flag hflag).2.2).constructs_eq_nil
  · have hkey : ∀ w ∈ identifiers "default: ".toList,
        Text.sameLetters w Reference.keyword.letters = false := by decide
    have hbreaks : Breaks "default: ".toList value.toList := fun hlast =>
      absurd hlast (by decide)
    rw [constructs_append hword hkey hbreaks]
    exact (hquiet value hvalue).references
  · rw [hc.note] at hnote
    cases hnote

/-- No setting ends the table if the default does not. -/
theorem brace_not_mem_setting (hc : LineSafeColumn c)
    (hquiet : ∀ value ∈ c.defaultValue, QuietDefault value.toList) {s : List Char}
    (h : s ∈ c.settings) : '\x7d' ∉ s := by
  rcases mem_settings h with ⟨flag, hflag, rfl⟩ | ⟨value, hvalue, rfl⟩ | ⟨note, hnote, -⟩
  · exact (not_mem_flag hflag).2.1
  · have hbrace := (hquiet value hvalue).brace
    simp [hbrace]
  · rw [hc.note] at hnote
    cases hnote

/-! ## Declarations -/

/-- The characters of the name and the type of a column. -/
theorem not_mem_name_type (hc : LineSafeColumn c) {m : Char} (hident : isIdent m = false)
    (hdot : m ≠ combiningDot) : m ∉ c.name.toList ∧ m ∉ c.type.toList := by
  constructor
  · exact hc.name.not_mem hident
  · obtain ⟨x, rest, htype, hx, hrest⟩ := hc.type
    rw [htype, List.mem_cons, not_or]
    constructor
    · exact (ne_of_isIdent hx hident).symm
    · intro hmem
      rcases hrest m hmem with hin | rfl
      · exact ne_of_isIdent hin hident rfl
      · exact hdot rfl

/-- No brace is in the declaration of a column with a quiet default. -/
theorem brace_not_mem_declaration (hc : LineSafeColumn c)
    (hquiet : ∀ value ∈ c.defaultValue, QuietDefault value.toList) : '\x7d' ∉ c.declaration := by
  obtain ⟨hname, htype⟩ := not_mem_name_type hc (m := '\x7d') (by decide) (by decide)
  have hlist : '\x7d' ∉ ", ".toList.intercalate c.settings := by
    refine Text.comma_induction (P := fun s => '\x7d' ∉ s) List.not_mem_nil
      (fun a ha => brace_not_mem_setting hc hquiet ha) fun a ha s hs => ?_
    simp [brace_not_mem_setting hc hquiet ha, hs]
  have hsettings : '\x7d' ∉ c.settingList := by
    rcases settingList_cases c with ⟨-, h⟩ | ⟨-, h⟩
    · rw [h]
      exact List.not_mem_nil
    · rw [h]
      simpa using hlist
  unfold declaration
  simp [hname, htype, hsettings]

/-- No reference is read in the line of a column with a quiet default. -/
theorem constructs_declaration (hc : LineSafeColumn c)
    (hquiet : ∀ value ∈ c.defaultValue, QuietDefault value.toList) (s : List Char) :
    constructs Reference.keyword (Scan.orStay Reference.tail?) (c.declaration ++ '\n' :: s) =
      constructs Reference.keyword (Scan.orStay Reference.tail?) s := by
  have hword := Reference.isWord_keyword
  obtain ⟨hname, htype⟩ := not_mem_name_type hc (m := ':') (by decide) (by decide)
  have hspaces : "  ".toList = [' ', ' '] := rfl
  have hfront : NoReference ("  ".toList ++ (c.name.toList ++ ' ' :: (c.type.toList ++ []))) :=
    NoReference.of_not_mem (by simp [hspaces, hname, htype])
  have hbreak (s : List Char) : ('\n' :: s).head? ≠ some ':' := by simp
  rcases settingList_cases c with ⟨-, h⟩ | ⟨-, h⟩
  · unfold declaration
    rw [h, constructs_of_noReference hfront (stops_cons.2 rfl) (hbreak s), constructs_cons hword rfl]
  · have hlist : constructs Reference.keyword (Scan.orStay Reference.tail?)
        (", ".toList.intercalate c.settings) = [] := by
      refine Text.comma_induction
        (P := fun s => constructs Reference.keyword (Scan.orStay Reference.tail?) s = [])
        constructs_nil (fun a ha => constructs_setting hc hquiet ha) fun a ha s hs => ?_
      rw [Reference.constructs_append_cons rfl rfl (by decide), constructs_setting hc hquiet ha,
        constructs_cons hword rfl, hs]
      rfl
    have hsplit : c.declaration ++ '\n' :: s =
        ("  ".toList ++ (c.name.toList ++ ' ' :: (c.type.toList ++ []))) ++
          ' ' :: '[' :: (", ".toList.intercalate c.settings ++ ']' :: '\n' :: s) := by
      unfold declaration
      rw [h]
      simp
    -- The brackets are where one part ends and the next one begins.
    rw [hsplit, constructs_of_noReference hfront (stops_cons.2 rfl) (by simp),
      constructs_cons hword rfl, constructs_cons hword rfl,
      Reference.constructs_append_cons rfl rfl (by decide), hlist, constructs_cons hword rfl]
    rfl

/-- The last member of a list stands at the end of the joined list, and if no break comes in the
others then none comes before it. -/
theorem exists_intercalate_concat {items : List (List Char)} (h : ∀ a ∈ items, '\n' ∉ a)
    (s : List Char) : ∃ p, '\n' ∉ p ∧ ", ".toList.intercalate (items ++ [s]) = p ++ s := by
  induction items with
  | nil => exact ⟨[], List.not_mem_nil, List.intercalate_singleton⟩
  | cons a items ih =>
    obtain ⟨p, hp, heq⟩ := ih fun x hx => h x (List.mem_cons_of_mem _ hx)
    have ha := h a List.mem_cons_self
    have hcons : ", ".toList.intercalate (a :: (items ++ [s])) =
        a ++ ", ".toList ++ ", ".toList.intercalate (items ++ [s]) := by
      cases items with
      | nil => exact List.intercalate_cons_cons
      | cons b items => exact List.intercalate_cons_cons
    refine ⟨a ++ ", ".toList ++ p, by simp [ha, hp], ?_⟩
    rw [List.cons_append, hcons, heq, List.append_assoc _ p]

/-- The list of settings of a column without a default is on one line. With a default it begins on
the line of the default. -/
theorem settingList_lines (hnote : c.note = none) :
    (c.defaultValue = none ∧ '\n' ∉ c.settingList) ∨ ∃ value p, c.defaultValue = some value ∧
      '\n' ∉ p ∧ c.settingList = p ++ (value.toList ++ [']']) := by
  have hflags : ∀ a ∈ c.flagTexts, '\n' ∉ a := by
    intro a ha
    obtain ⟨flag, hflag, rfl⟩ := exists_of_mem_flagTexts ha
    exact (not_mem_flag hflag).1
  have hsettings := settings_of_note hnote
  cases hdefault : c.defaultValue with
  | none =>
    refine .inl ⟨rfl, ?_⟩
    rw [hdefault] at hsettings
    have hlist : '\n' ∉ ", ".toList.intercalate c.flagTexts := by
      refine Text.comma_induction (P := fun s => '\n' ∉ s) List.not_mem_nil hflags
        fun a ha s hs => ?_
      simp [hflags a ha, hs]
    rcases settingList_cases c with ⟨-, h⟩ | ⟨-, h⟩
    · rw [h]
      exact List.not_mem_nil
    · rw [h, hsettings]
      simpa using hlist
  | some value =>
    rw [hdefault] at hsettings
    obtain ⟨p, hp, heq⟩ := exists_intercalate_concat hflags ("default: ".toList ++ value.toList)
    have hjoined : ", ".toList.intercalate c.settings = p ++ ("default: ".toList ++ value.toList) := by
      rw [hsettings]
      exact heq
    have hne : c.settings ≠ [] := by
      rw [hsettings]
      exact List.append_ne_nil_of_right_ne_nil _ (List.cons_ne_nil _ _)
    refine .inr ⟨value, " [".toList ++ p ++ "default: ".toList, rfl, by simp [hp], ?_⟩
    unfold settingList
    rw [if_neg hne, hjoined]
    simp only [List.append_assoc]

/-- The lines of the declaration of a column with a quiet default declare one column, which has its
name. -/
theorem map_name_lines_declaration (hc : LineSafeColumn c)
    (hquiet : ∀ value ∈ c.defaultValue, QuietDefault value.toList) :
    ((Text.lines c.declaration).filterMap ofLine?).map Column.name = [c.name] := by
  obtain ⟨hname, htype⟩ := not_mem_name_type hc (m := '\n') (by decide) (by decide)
  rcases settingList_lines hc.note with ⟨-, hlist⟩ | ⟨value, p, hvalue, hp, hlist⟩
  · have hbreak : '\n' ∉ c.declaration := by
      unfold declaration
      simp [hname, htype, hlist]
    obtain ⟨column, hline, hcolumn⟩ := name_of_ofLine? hc c.settingList
    have hdeclared : ofLine? c.declaration = some column := hline
    rw [Text.lines_of_not_mem hbreak, List.filterMap_cons_some hdeclared, List.filterMap_nil,
      List.map_singleton, hcolumn]
  · have hfront : '\n' ∉ "  ".toList ++ (c.name.toList ++ ' ' :: (c.type.toList ++ p)) := by
      simp [hname, htype, hp]
    have hsplit : c.declaration =
        ("  ".toList ++ (c.name.toList ++ ' ' :: (c.type.toList ++ p))) ++
          (value.toList ++ [']']) := by
      unfold declaration
      rw [hlist]
      simp only [List.append_assoc, List.cons_append]
    -- The name and the type are on the first line, and the others are those of the default.
    have hothers := (hquiet value hvalue).lines
    obtain ⟨first, others, hlines⟩ := List.exists_cons_of_ne_nil
      (List.splitOnP_ne_nil (· == '\n') (value.toList ++ [']']))
    have hlines' : Text.lines (value.toList ++ [']']) = first :: others := by
      unfold Text.lines
      rw [List.splitOn_eq_splitOnP, hlines]
    rw [hlines'] at hothers
    obtain ⟨column, hline, hcolumn⟩ := name_of_ofLine? hc (p ++ first)
    have hhead : ofLine? (("  ".toList ++ (c.name.toList ++ ' ' :: (c.type.toList ++ p))) ++ first) =
        some column := by
      rw [← hline]
      simp only [List.append_assoc, List.cons_append]
    have hnone : others.filterMap ofLine? = [] := List.filterMap_eq_nil_iff.2 hothers
    rw [hsplit, Text.lines_append hfront, hlines', List.modifyHead_cons,
      List.filterMap_cons_some hhead, hnone, List.map_singleton, hcolumn]

end Column

/-! ## Tables -/

/-- What is read back of a table: its name and its columns, whose defaults are quiet. -/
structure OutlineSafeTable (t : Table) : Prop where
  /-- The name is an identifier. -/
  name : IsIdentifier t.name.toList
  /-- The names and types of the columns are read back. -/
  columns : ∀ c ∈ t.columns, LineSafeColumn c
  /-- Their defaults are quiet. -/
  defaults : ∀ c ∈ t.columns, ∀ value ∈ c.defaultValue, QuietDefault value.toList

variable {t : Table}

/-- No brace is in the body of such a table. -/
theorem OutlineSafeTable.brace_not_mem_body (ht : OutlineSafeTable t) : '\x7d' ∉ t.body :=
  Table.brace_not_mem_body_of fun c hc =>
    Column.brace_not_mem_declaration (ht.columns c hc) (ht.defaults c hc)

/-- The block of such a table declares a table of its name with columns of their names. -/
theorem OutlineSafeTable.outline_table (ht : OutlineSafeTable t) :
    (TableBlock.table ⟨t.name.toList, t.body⟩).name = t.name ∧
      (TableBlock.table ⟨t.name.toList, t.body⟩).columns.map Column.name =
        t.columns.map Column.name := by
  have hcolumns (cs : List Column) (hcs : ∀ c ∈ cs, LineSafeColumn c)
      (hdefaults : ∀ c ∈ cs, ∀ value ∈ c.defaultValue, QuietDefault value.toList) :
      ((Text.lines ((cs.map Column.declaration).flatMap (· ++ ['\n']))).filterMap
        Column.ofLine?).map Column.name = cs.map Column.name := by
    induction cs with
    | nil => rfl
    | cons c cs ih =>
      have hrest := ih (fun x hx => hcs x (List.mem_cons_of_mem _ hx))
        fun x hx => hdefaults x (List.mem_cons_of_mem _ hx)
      have hfirst := Column.map_name_lines_declaration (hcs c List.mem_cons_self)
        (hdefaults c List.mem_cons_self)
      rw [List.map_cons, List.flatMap_cons, List.append_assoc, List.singleton_append,
        Text.lines_append_break, List.filterMap_append, List.map_append, hfirst, hrest]
      rfl
  constructor
  · exact String.ofList_toList
  · have hnil : Column.ofLine? [] = none := rfl
    have hlines : Text.lines t.body =
        [] :: Text.lines ((t.columns.map Column.declaration).flatMap (· ++ ['\n'])) :=
      Text.lines_append_break [] _
    unfold TableBlock.table
    rw [hlines, List.filterMap_cons_none hnil]
    exact hcolumns t.columns ht.columns ht.defaults

/-- No reference is read in the block of such a table. -/
theorem OutlineSafeTable.constructs_block (ht : OutlineSafeTable t) (s : List Char) :
    constructs Reference.keyword (Scan.orStay Reference.tail?) (t.block ++ '\n' :: s) =
      constructs Reference.keyword (Scan.orStay Reference.tail?) s := by
  rw [Reference.constructs_block_of (g := fun _ => []) ht.name fun c hc s =>
    Column.constructs_declaration (ht.columns c hc) (ht.defaults c hc) s]
  simp

/-! ## The text of a schema -/

/-- Flagging foreign keys does not change the outline. -/
theorem Schema.outline_markForeignKeys (s : Schema) : s.markForeignKeys.outline = s.outline := by
  refine Schema.map_markForeignKeys (fun t => ?_) s
  show (t.name, (t.columns.map _).map Column.name) = _
  rw [List.map_map]
  rfl

variable {s : Schema}

/-- The table blocks of the text of a schema with quiet defaults are those of its tables. -/
theorem TableBlock.constructs_outline (htables : ∀ t ∈ s.tables, OutlineSafeTable t)
    (hrelationships : ∀ r ∈ s.relationships, TextSafeRelationship r) :
    constructs TableBlock.keyword (Scan.orStay TableBlock.tail?) s.print.toList =
      s.tables.map fun t => ⟨t.name.toList, t.body⟩ := by
  unfold Schema.print
  rw [String.toList_ofList]
  exact TableBlock.constructs_print_of
    (fun t ht => ⟨(htables t ht).name, (htables t ht).brace_not_mem_body⟩) hrelationships

/-- The references of the text of a schema with quiet defaults are its relationships. -/
theorem Reference.constructs_outline (htables : ∀ t ∈ s.tables, OutlineSafeTable t)
    (hrelationships : ∀ r ∈ s.relationships, TextSafeRelationship r) :
    constructs Reference.keyword (Scan.orStay Reference.tail?) s.print.toList =
      s.relationships := by
  unfold Schema.print
  rw [String.toList_ofList]
  exact Reference.constructs_print_idle (fun t ht s => (htables t ht).constructs_block s)
    hrelationships

/-- The names of tables and columns and the relationships are read from the text of a schema with
quiet defaults, also behind a text without the two keywords. -/
theorem Schema.outline_parse_print (hs : LineSafeSchema s)
    (hquiet : ∀ t ∈ s.tables, ∀ c ∈ t.columns, ∀ value ∈ c.defaultValue,
      QuietDefault value.toList) {header : String}
    (htable : ∀ w ∈ identifiers header.toList,
      Text.sameLetters w TableBlock.keyword.letters = false)
    (hreference : ∀ w ∈ identifiers header.toList,
      Text.sameLetters w Reference.keyword.letters = false)
    (hlast : header.toList.getLast?.any isIdent = false) :
    (Schema.parse (header ++ s.print)).outline = s.outline ∧
      (Schema.parse (header ++ s.print)).relationships = s.relationships := by
  have htables : ∀ t ∈ s.tables, OutlineSafeTable t :=
    fun t ht => ⟨hs.tables t ht, hs.columns t ht, hquiet t ht⟩
  have hbreaks : Breaks header.toList s.print.toList := by
    intro h
    rw [hlast] at h
    cases h
  have hblocks : (Schema.declaredBy (header ++ s.print).toList).tables =
      s.tables.map fun t => TableBlock.table ⟨t.name.toList, t.body⟩ := by
    unfold Schema.declaredBy
    rw [String.toList_append, constructs_append TableBlock.isWord_keyword htable hbreaks,
      TableBlock.constructs_outline htables hs.relationships, List.map_map]
    rfl
  have hreferences : (Schema.declaredBy (header ++ s.print).toList).relationships =
      s.relationships := by
    unfold Schema.declaredBy
    rw [String.toList_append, constructs_append Reference.isWord_keyword hreference hbreaks,
      Reference.constructs_outline htables hs.relationships]
  rw [Schema.parse_eq, Schema.outline_markForeignKeys]
  refine ⟨?_, hreferences⟩
  unfold Schema.outline
  rw [hblocks, List.map_map]
  refine List.map_congr_left fun t ht => ?_
  obtain ⟨hname, hcolumns⟩ := (htables t ht).outline_table
  show (_, _) = _
  rw [hname, hcolumns]

end SchemaDiagram
