import SchemaDiagram.Proofs.Schema.ReadColumn

/-!
# Canonical text

The canonical text of a schema text is the text of the schema that it declares (`Schema.canonical`).
It is read table by table and line by line (`Schema.declaredBy_print`), so all that can change when it
is made canonical again is the line of a column, or that a reference is read in one. It stays as it is
if and only if each column is settled (`Schema.canonical_canonical`): its line declares a column with
the same line, and no reference is read in it.

Not every column that is read is settled. A type may keep a dot that no identifier has, a quote that is
left open in a default may hide the comma in front of the note, the quotes around a note may be closed
by quotes in it, and the text of a default or a note may be that of a reference. In a plain column there
is none of this; text-safe columns are plain, and plain ones are settled (`ReadColumn.settled`).
-/

namespace SchemaDiagram

open Character

/-- The canonical text of a schema text. -/
def Schema.canonical (text : String) : String :=
  (Schema.parse text).print

/-- The columns of a schema. -/
def Schema.columns (s : Schema) : List Column :=
  s.tables.flatMap Table.columns

namespace Column

/-- The references that are read in the line of a column. -/
def references (c : Column) : List Relationship :=
  constructs Reference.keyword (Scan.orStay Reference.tail?) c.declaration

/-- A column whose line comes back. -/
structure Settled (c : Column) : Prop where
  /-- Its line declares a column with the same line. -/
  line : (ofLine? c.declaration).map declaration = some c.declaration
  /-- No reference is read in its line. -/
  references : c.references = []

/-- A column that is written without what is read differently. -/
structure Plain (c : Column) : Prop where
  /-- No dot is left in its type from a capital letter. -/
  type : combiningDot ∉ c.type.toList
  /-- No quote is left open in its default if a note comes behind it. -/
  default : c.note ≠ none → ∀ value ∈ c.defaultValue, Setting.Balanced value.toList
  /-- No comma stands outside quotes in its note, with the quotes around it. -/
  note : ∀ note ∈ c.note, Setting.IsWhole (quoteNote note.toList)
  /-- No reference is read in its line. -/
  references : c.references = []

end Column

/-- A schema as it is read. -/
structure ReadSchema (s : Schema) : Prop where
  /-- The names of its tables are identifiers. -/
  tables : ∀ t ∈ s.tables, IsIdentifier t.name.toList
  /-- Its columns are such as are read. -/
  columns : ∀ t ∈ s.tables, ∀ c ∈ t.columns, ReadColumn c
  /-- The names in its relationships are identifiers. -/
  relationships : ∀ r ∈ s.relationships, TextSafeRelationship r

/-- What a text declares is a schema as it is read. -/
theorem Schema.readSchema_declaredBy (s : List Char) : ReadSchema (Schema.declaredBy s) where
  tables t ht := ((Schema.identifierNames_declaredBy s).tables t ht).name
  columns := Schema.readColumn_declaredBy s
  relationships := (Schema.identifierNames_declaredBy s).relationships

/-! ## Lines of columns -/

namespace ReadColumn

variable {c : Column}

/-- The name and the type of a column that is read are read again. -/
theorem lineSafe (h : ReadColumn c) : LineSafeColumn { c with note := none } where
  name := h.name
  type := by
    obtain ⟨w, hw, htype⟩ := h.type
    obtain ⟨x, rest, hlower, hx, hrest⟩ := Text.lower_identifier hw.1 hw.2
    exact ⟨x, rest, htype.trans hlower, hx, hrest⟩
  note := rfl

/-- The line of a column that is read declares a column of its name. -/
theorem exists_ofLine?_declaration (h : ReadColumn c) :
    ∃ column, Column.ofLine? c.declaration = some column ∧ column.name = c.name :=
  Column.name_of_ofLine? h.lineSafe c.settingList

/-- Nothing in the settings of a column that is read ends the line, their list or the table. -/
theorem within_settings (h : ReadColumn c) {s : List Char} (hs : s ∈ c.settings) :
    ∀ x ∈ s, isClosing x = false := by
  rcases Column.mem_settings hs with ⟨flag, hflag, rfl⟩ | ⟨value, hvalue, rfl⟩ | ⟨note, hnote, rfl⟩
  · exact (Setting.safeSetting_flag hflag).within
  · obtain ⟨-, hkey⟩ := Setting.balanced_of_plain (s := "default: ".toList) rfl
    exact List.forall_mem_append.2 ⟨hkey, (h.default value hvalue).within⟩
  · obtain ⟨-, hkey⟩ := Setting.balanced_of_plain (s := "note: ".toList) rfl
    obtain ⟨q, hq, hquoted⟩ := Setting.quoteNote_eq note.toList
    have hclosing : isClosing q = false := by
      rcases Setting.quote_cases hq with rfl | rfl | rfl <;> rfl
    have hinner := List.forall_mem_append.2 ⟨h.note note hnote, List.forall_mem_singleton.2 hclosing⟩
    rw [hquoted]
    exact List.forall_mem_append.2 ⟨hkey, List.forall_mem_cons.2 ⟨hclosing, hinner⟩⟩

/-- Nothing in the declaration of a column that is read ends its line or the table. -/
theorem not_mem_declaration (h : ReadColumn c) : '\n' ∉ c.declaration ∧ '\x7d' ∉ c.declaration := by
  have hend := Column.not_mem_declaration_of h.name (fun x hx => ⟨?_, ?_⟩) fun s hs =>
    h.within_settings hs
  · exact ⟨fun hmem => (hend _ hmem).1 rfl, fun hmem => (hend _ hmem).2 rfl⟩
  · rintro rfl
    exact (Column.not_mem_name_type h.lineSafe (by decide) (by decide)).2 hx
  · rintro rfl
    exact (Column.not_mem_name_type h.lineSafe (by decide) (by decide)).2 hx

/-- The references of the line of a column that is read are read in that line alone. -/
theorem constructs_declaration (h : ReadColumn c) (s : List Char) :
    constructs Reference.keyword (Scan.orStay Reference.tail?) (c.declaration ++ '\n' :: s) =
      c.references ++ constructs Reference.keyword (Scan.orStay Reference.tail?) s := by
  have hword := Reference.isWord_keyword
  rcases Column.settingList_cases c with ⟨-, hlist⟩ | ⟨-, hlist⟩
  · -- Without settings there is no colon in the line.
    obtain ⟨hname, htype⟩ : ':' ∉ c.name.toList ∧ ':' ∉ c.type.toList :=
      Column.not_mem_name_type h.lineSafe (by decide) (by decide)
    have hspaces : "  ".toList = [' ', ' '] := rfl
    have hnone : NoReference c.declaration := by
      refine NoReference.of_not_mem ?_
      unfold Column.declaration
      simp [hspaces, hname, htype, hlist]
    have hreferences : c.references = [] := hnone.constructs_eq_nil
    rw [hreferences, List.nil_append,
      constructs_of_noReference hnone (stops_cons.2 rfl) (by simp), constructs_cons hword rfl]
  · -- No reference goes on behind the bracket at the end of the line.
    obtain ⟨p, hp⟩ : ∃ p, c.declaration = p ++ [']'] := by
      unfold Column.declaration
      rw [hlist]
      exact ⟨"  ".toList ++ (c.name.toList ++ ' ' :: (c.type.toList ++
        ' ' :: '[' :: ", ".toList.intercalate c.settings)), by simp⟩
    unfold Column.references
    rw [hp, List.append_assoc, List.singleton_append,
      Reference.constructs_append_cons rfl rfl (by decide),
      Reference.constructs_append_cons rfl rfl (by decide), constructs_cons hword rfl,
      constructs_nil, List.append_nil]

end ReadColumn

/-! ## Reading canonical text -/

/-- The schema that the text of a schema declares. -/
def Schema.reread (s : Schema) : Schema :=
  ⟨s.tables.map Table.reread, s.columns.flatMap Column.references ++ s.relationships⟩

/-- The text of a schema as it is read is read table by table. -/
theorem Schema.declaredBy_print {s : Schema} (hs : ReadSchema s) :
    Schema.declaredBy s.print.toList = s.reread := by
  have hdeclaration {t : Table} (ht : t ∈ s.tables) {c : Column} (hc : c ∈ t.columns) :=
    (hs.columns t ht c hc).not_mem_declaration
  have hblocks := TableBlock.constructs_print_of (fun t ht => ⟨hs.tables t ht,
    Table.brace_not_mem_body_of fun c hc => (hdeclaration ht hc).2⟩) hs.relationships
  have hreferences := Reference.constructs_print_of (fun t ht rest =>
    Reference.constructs_block_of (hs.tables t ht)
      (fun c hc rest => (hs.columns t ht c hc).constructs_declaration rest) rest) hs.relationships
  have htables : (s.tables.map fun t => (⟨t.name.toList, t.body⟩ : TableBlock)).map
      TableBlock.table = s.tables.map Table.reread := by
    rw [List.map_map]
    exact List.map_congr_left fun t ht =>
      TableBlock.table_eq_reread fun c hc => (hdeclaration ht hc).1
  unfold Schema.declaredBy Schema.reread Schema.print Schema.columns
  rw [String.toList_ofList, hblocks, hreferences, htables, List.flatMap_assoc]

/-- The tables and columns of that schema have the names they had. -/
theorem Schema.outline_reread {s : Schema} (hs : ReadSchema s) : s.reread.outline = s.outline := by
  unfold Schema.outline Schema.reread
  rw [List.map_map]
  refine List.map_congr_left fun t ht => ?_
  have hnames : t.reread.columns.map Column.name = t.columns.map Column.name := by
    unfold Table.reread
    rw [List.map_filterMap, List.filterMap_eq_map_iff_forall_eq_some]
    intro c hc
    obtain ⟨column, hcolumn, hname⟩ := (hs.columns t ht c hc).exists_ofLine?_declaration
    rw [hcolumn, Option.map_some, hname]
  exact congrArg (Prod.mk t.name) hnames

/-- Flags of foreign keys are not written. -/
theorem Schema.print_markForeignKeys (s : Schema) : s.markForeignKeys.print = s.print := by
  have hblock (t : Table) : t.unflagged.block ++ ['\n'] = t.block ++ ['\n'] := by
    unfold Table.block Table.unflagged
    rw [List.flatMap_map]
    rfl
  have hblocks := Schema.map_markForeignKeys (g := fun t => t.block ++ ['\n']) hblock s
  unfold Schema.print
  rw [List.flatMap_def, List.flatMap_def, hblocks]
  rfl

/-- Canonical text is the text of what a text declares. -/
theorem Schema.canonical_eq (text : String) :
    Schema.canonical text = (Schema.declaredBy text.toList).print := by
  unfold Schema.canonical
  rw [Schema.parse_eq, Schema.print_markForeignKeys]

/-! ## The lines of canonical text -/

/-- The lines of the text of a schema. -/
def Schema.lines (s : Schema) : List (List Char) :=
  s.tables.flatMap Table.lines ++
    s.relationships.map fun r => "Ref".toList ++ r.behindKeyword

/-- The text of a schema is its lines, each of which is ended. -/
theorem Schema.print_eq (s : Schema) : s.print.toList = s.lines.flatMap (· ++ ['\n']) := by
  have hblocks : s.tables.flatMap (fun t => t.block ++ ['\n']) =
      s.tables.flatMap fun t => t.lines.flatMap (· ++ ['\n']) :=
    List.flatMap_congr fun t _ => t.block_eq_lines
  have hlines : s.relationships.flatMap Relationship.line =
      s.relationships.flatMap fun r => ("Ref".toList ++ r.behindKeyword) ++ ['\n'] := by
    refine List.flatMap_congr fun r _ => ?_
    rw [Relationship.line_eq, List.append_assoc]
  unfold Schema.print Schema.lines
  rw [String.toList_ofList, List.flatMap_append, List.flatMap_assoc, List.flatMap_map, hblocks,
    hlines]

/-- No line of the text of a schema as it is read has a break. -/
theorem ReadSchema.break_not_mem_lines {s : Schema} (hs : ReadSchema s) :
    ∀ l ∈ s.lines, '\n' ∉ l := by
  intro l hl
  rcases List.mem_append.1 hl with hl | hl
  · obtain ⟨t, ht, hl⟩ := List.mem_flatMap.1 hl
    simp only [Table.lines, List.mem_cons, List.mem_append, List.mem_map, List.not_mem_nil,
      or_false] at hl
    rcases hl with rfl | ⟨c, hc, rfl⟩ | rfl | rfl
    · have hname : '\n' ∉ t.name.toList := (hs.tables t ht).not_mem rfl
      simp [hname]
    · exact (hs.columns t ht c hc).not_mem_declaration.1
    · decide
    · exact List.not_mem_nil
  · obtain ⟨r, hr, rfl⟩ := List.mem_map.1 hl
    simpa using Relationship.break_not_mem_behindKeyword (hs.relationships r hr)

/-- Schemas as they are read have the same text if they have the same lines. -/
theorem Schema.print_eq_iff {s t : Schema} (hs : ReadSchema s) (ht : ReadSchema t) :
    s.print = t.print ↔ s.lines = t.lines := by
  constructor
  · intro h
    have hlines := congrArg Text.lines (congrArg String.toList h)
    rw [Schema.print_eq, Schema.print_eq, lines_flatMap hs.break_not_mem_lines,
      lines_flatMap ht.break_not_mem_lines] at hlines
    exact List.append_cancel_right hlines
  · intro h
    rw [← String.toList_inj, Schema.print_eq, Schema.print_eq, h]

/-- Texts that are put together of parts of the same lengths are the same if the parts are. -/
theorem flatMap_eq_flatMap_iff {α β : Type} {f g : α → List β} {l : List α}
    (h : ∀ x ∈ l, (f x).length = (g x).length) :
    l.flatMap f = l.flatMap g ↔ ∀ x ∈ l, f x = g x := by
  induction l with
  | nil => simp
  | cons a l ih =>
    have hrest := ih fun x hx => h x (List.mem_cons_of_mem a hx)
    rw [List.flatMap_cons, List.flatMap_cons, List.forall_mem_cons, ← hrest]
    constructor
    · exact fun heq => List.append_inj heq (h a List.mem_cons_self)
    · rintro ⟨hfirst, hrest⟩
      rw [hfirst, hrest]

/-- The block of a table is read to as many lines as it has. -/
theorem Table.length_lines_reread {t : Table} (ht : ∀ c ∈ t.columns, ReadColumn c) :
    t.reread.lines.length = t.lines.length := by
  have hcolumns : t.reread.columns =
      t.columns.map fun c => (Column.ofLine? c.declaration).getD c := by
    refine List.filterMap_eq_map_iff_forall_eq_some.2 fun c hc => ?_
    obtain ⟨column, hcolumn, -⟩ := (ht c hc).exists_ofLine?_declaration
    rw [hcolumn, Option.getD_some]
  unfold Table.lines
  simp [hcolumns]

/-- The block of a table keeps its lines if each column keeps its line. -/
theorem Table.lines_reread_iff (t : Table) : t.reread.lines = t.lines ↔
    ∀ c ∈ t.columns, (Column.ofLine? c.declaration).map Column.declaration = some c.declaration := by
  have hname : t.reread.name = t.name := rfl
  have hcolumns : t.reread.columns = t.columns.filterMap fun c => Column.ofLine? c.declaration := rfl
  unfold Table.lines
  rw [hname, hcolumns, List.cons_inj_right, List.append_cancel_right_eq, List.map_filterMap,
    List.filterMap_eq_map_iff_forall_eq_some]

/-- The text of a schema keeps its lines if each column is settled. -/
theorem Schema.lines_reread_iff {s : Schema} (hs : ReadSchema s) :
    s.reread.lines = s.lines ↔ ∀ c ∈ s.columns, c.Settled := by
  have hlength : ∀ t ∈ s.tables, t.reread.lines.length = t.lines.length :=
    fun t ht => Table.length_lines_reread (hs.columns t ht)
  have htables : (s.tables.map Table.reread).flatMap Table.lines =
      s.tables.flatMap fun t => t.reread.lines := List.flatMap_map _ _ _
  have hlengths : (s.tables.flatMap fun t => t.reread.lines).length =
      (s.tables.flatMap Table.lines).length := by
    rw [List.length_flatMap, List.length_flatMap, List.map_congr_left hlength]
  -- The blocks have as many lines as before, so the lines of the relationships stand apart.
  have hapart : s.reread.lines = s.lines ↔
      (s.tables.flatMap fun t => t.reread.lines) = s.tables.flatMap Table.lines ∧
        s.columns.flatMap Column.references = [] := by
    unfold Schema.lines Schema.reread
    rw [htables, List.map_append]
    constructor
    · intro h
      obtain ⟨hblocks, hlines⟩ := List.append_inj h hlengths
      exact ⟨hblocks, List.map_eq_nil_iff.1 (List.append_left_eq_self.1 hlines)⟩
    · rintro ⟨hblocks, hnone⟩
      rw [hblocks, hnone, List.map_nil, List.nil_append]
  have hlines : (∀ t ∈ s.tables, t.reread.lines = t.lines) ↔ ∀ c ∈ s.columns,
      (Column.ofLine? c.declaration).map Column.declaration = some c.declaration := by
    unfold Schema.columns
    rw [List.forall_mem_flatMap]
    exact forall₂_congr fun t _ => t.lines_reread_iff
  rw [hapart, flatMap_eq_flatMap_iff hlength, hlines, List.flatMap_eq_nil_iff]
  constructor
  · rintro ⟨hline, hnone⟩ c hc
    exact ⟨hline c hc, hnone c hc⟩
  · intro h
    exact ⟨fun c hc => (h c hc).line, fun c hc => (h c hc).references⟩

/-! ## Plain columns -/

/-- Settings that balance are told apart from a last one that may leave a quote open. -/
theorem Setting.split_concat {front : List (List Char)} {last : List Char}
    (hfront : ∀ s ∈ front, Balanced s) (hlast : IsWhole last)
    (htrim : ∀ s ∈ front ++ [last], Text.trim s ≠ []) :
    split (", ".toList.intercalate (front ++ [last])) = (front ++ [last]).map Text.trim := by
  refine split_intercalate ?_ ?_ htrim
  · rw [List.dropLast_concat]
    exact hfront
  · rw [List.getLast?_concat]
    rintro s ⟨⟩
    exact hlast

/-- What is not said of a column that is declared is not written either. -/
theorem Column.declaration_declared (c : Column) : c.declared.declaration = c.declaration := by
  have hsettings : c.declared.settings = c.settings := by
    unfold settings declared
    cases c.isNotNull <;> cases c.isPrimaryKey <;> rfl
  unfold declaration settingList
  rw [hsettings]
  rfl

namespace ReadColumn

variable {c : Column}

/-- The settings of a plain column are told apart. -/
theorem split_settings (h : ReadColumn c) (hplain : c.Plain) :
    Setting.split (", ".toList.intercalate c.settings) = c.settings.map Text.trim := by
  have hflags : ∀ s ∈ c.flagTexts, Setting.SafeSetting s := by
    intro s hs
    obtain ⟨flag, hflag, rfl⟩ := Column.exists_of_mem_flagTexts hs
    exact Setting.safeSetting_flag hflag
  obtain ⟨hdefaultKey, -⟩ := Setting.balanced_of_plain (s := "default: ".toList) rfl
  obtain ⟨hnoteKey, -⟩ := Setting.balanced_of_plain (s := "note: ".toList) rfl
  have hnonblank : ∀ s ∈ c.settings, Text.trim s ≠ [] :=
    fun s hs => Column.trim_ne_nil_of_mem_settings hs
  -- A quote may be left open in the last setting, which is the note, the default or a flag.
  cases hnote : c.note with
  | some note =>
    have hsettings : c.settings = (c.flagTexts ++ c.defaultValue.toList.map fun value =>
        "default: ".toList ++ value.toList) ++ ["note: ".toList ++ Column.quoteNote note.toList] := by
      unfold Column.settings Column.flagTexts
      rw [hnote]
      rfl
    have hdefault : ∀ s ∈ c.defaultValue.toList.map fun value =>
        "default: ".toList ++ value.toList, Setting.Balanced s := by
      intro s hs
      obtain ⟨value, hvalue, rfl⟩ := List.mem_map.1 hs
      exact hdefaultKey.append (hplain.default (by simp [hnote]) value (Option.mem_toList.1 hvalue))
    rw [hsettings] at hnonblank ⊢
    refine Setting.split_concat (fun s hs => ?_) (hnoteKey.isWhole_append (hplain.note note hnote))
      hnonblank
    rcases List.mem_append.1 hs with hs | hs
    · exact (hflags s hs).balanced
    · exact hdefault s hs
  | none =>
    have hsettings := Column.settings_of_note hnote
    cases hdefault : c.defaultValue with
    | some value =>
      rw [hdefault, Option.toList_some, List.map_singleton] at hsettings
      rw [hsettings] at hnonblank ⊢
      exact Setting.split_concat (fun s hs => (hflags s hs).balanced)
        (hdefaultKey.isWhole_append (h.default value hdefault).whole) hnonblank
    | none =>
      rw [hdefault, Option.toList_none, List.map_nil, List.append_nil] at hsettings
      rw [hsettings]
      refine Setting.split_intercalate (fun s hs => ?_) (fun s hs => ?_) fun s hs => (hflags s hs).nonblank
      · exact (hflags s (List.mem_of_mem_dropLast hs)).balanced
      · exact (hflags s (List.mem_of_getLast? hs)).balanced.isWhole

/-- A plain column that is read is legible. -/
theorem legible (h : ReadColumn c) (hplain : c.Plain) : LegibleColumn c where
  name := h.name
  type := by
    obtain ⟨x, rest, htype, hx, hrest⟩ := h.lineSafe.type
    have htype : c.type.toList = x :: rest := htype
    have hdot := hplain.type
    rw [htype] at hdot ⊢
    refine ⟨List.cons_ne_nil x rest, List.forall_mem_cons.2 ⟨hx, fun y hy => ?_⟩⟩
    rcases hrest y hy with hy' | rfl
    · exact hy'
    · exact absurd (List.mem_cons_of_mem x hy) hdot
  lower := by
    obtain ⟨w, -, htype⟩ := h.type
    rw [htype, Text.lower_lower]
  trimmed value hvalue := (h.default value hvalue).trimmed
  bracket hmem := by
    have hclosing := Setting.within_intercalate (fun s hs => h.within_settings hs) _ hmem
    cases hclosing
  settings := h.split_settings hplain

/-- A plain column that is read is settled: its line declares what it declared before. -/
theorem settled (h : ReadColumn c) (hplain : c.Plain) : c.Settled where
  line := by
    rw [Column.ofLine?_declaration (h.legible hplain), Option.map_some, Column.declaration_declared]
  references := hplain.references

end ReadColumn

/-- A text-safe column is plain. -/
theorem TextSafeColumn.plain {c : Column} (hc : TextSafeColumn c) : c.Plain where
  type hmem := by
    have hident := hc.type.2 _ hmem
    exact absurd hident (by decide +kernel)
  default _ value hvalue := (hc.default value hvalue).balanced
  note note hnote := by
    obtain ⟨q, hq, hnot, hquoted⟩ := Setting.exists_quoteNote (hc.note note hnote).quotable
    rw [hquoted]
    exact (Setting.Balanced.quoted hq hnot Setting.Balanced.nil).isWhole
  references := (Column.noReference_declaration hc).constructs_eq_nil

/-! ## Canonical text made canonical -/

/-- Whether a column is settled does not depend on its flag of foreign keys. -/
theorem Column.settled_unflagged (c : Column) :
    Settled { c with isForeignKey := false } ↔ c.Settled :=
  ⟨fun h => ⟨h.line, h.references⟩, fun h => ⟨h.line, h.references⟩⟩

/-- Whether a column is plain does not depend on it either. -/
theorem Column.plain_unflagged (c : Column) : Plain { c with isForeignKey := false } ↔ c.Plain :=
  ⟨fun h => ⟨h.type, h.default, h.note, h.references⟩,
    fun h => ⟨h.type, h.default, h.note, h.references⟩⟩

/-- Flagging the foreign keys of a schema changes nothing in its columns but the flags. -/
theorem Schema.map_columns_markForeignKeys (s : Schema) :
    (s.markForeignKeys.columns.map fun c => { c with isForeignKey := false }) =
      s.columns.map fun c => { c with isForeignKey := false } := by
  have hunflagged (tables : List Table) :
      ((tables.flatMap Table.columns).map fun c => { c with isForeignKey := false }) =
        (tables.map Table.unflagged).flatMap Table.columns := by
    rw [List.flatMap_map, List.map_flatMap]
    rfl
  unfold Schema.columns
  rw [hunflagged, hunflagged, Schema.map_unflagged_markForeignKeys]

/-- What does not depend on the flag of foreign keys holds of all columns when they are flagged. -/
theorem Schema.forall_columns_markForeignKeys {P : Column → Prop}
    (hP : ∀ c, P { c with isForeignKey := false } ↔ P c) (s : Schema) :
    (∀ c ∈ s.markForeignKeys.columns, P c) ↔ ∀ c ∈ s.columns, P c := by
  have hunflagged (columns : List Column) : (∀ c ∈ columns, P c) ↔
      ∀ c ∈ columns.map fun c => { c with isForeignKey := false }, P c := by
    rw [List.forall_mem_map]
    exact forall₂_congr fun c _ => (hP c).symm
  rw [hunflagged, Schema.map_columns_markForeignKeys, ← hunflagged]

/-- The references in the lines of the columns stay the same when foreign keys are flagged. -/
theorem Schema.references_markForeignKeys (s : Schema) :
    s.markForeignKeys.columns.flatMap Column.references =
      s.columns.flatMap Column.references := by
  have hunflagged (columns : List Column) : columns.flatMap Column.references =
      (columns.map fun c => { c with isForeignKey := false }).flatMap Column.references := by
    rw [List.flatMap_map]
    rfl
  rw [hunflagged, Schema.map_columns_markForeignKeys, ← hunflagged]

/-- Canonical text stays as it is when it is made canonical again if and only if the columns that it
is made from are settled, and the plain ones are. In any case it declares the same tables and columns
by name, and the same relationships behind those that are read in the lines of columns. -/
theorem Schema.canonical_canonical (text : String) :
    (Schema.canonical (Schema.canonical text) = Schema.canonical text ↔
      ∀ c ∈ (Schema.parse text).columns, c.Settled) ∧
    (∀ c ∈ (Schema.parse text).columns, c.Plain → c.Settled) ∧
    (Schema.parse (Schema.canonical text)).outline = (Schema.parse text).outline ∧
    (Schema.parse (Schema.canonical text)).relationships =
      (Schema.parse text).columns.flatMap Column.references ++
        (Schema.parse text).relationships := by
  have hread := Schema.readSchema_declaredBy text.toList
  have hagain := Schema.readSchema_declaredBy (Schema.declaredBy text.toList).print.toList
  rw [Schema.declaredBy_print hread] at hagain
  have hparse : Schema.parse (Schema.canonical text) =
      (Schema.declaredBy text.toList).reread.markForeignKeys := by
    rw [Schema.parse_eq, Schema.canonical_eq, Schema.declaredBy_print hread]
  rw [hparse, Schema.parse_eq text]
  refine ⟨?_, ?_, ?_, ?_⟩
  · rw [Schema.canonical, hparse, Schema.print_markForeignKeys, Schema.canonical_eq,
      Schema.print_eq_iff hagain hread, Schema.lines_reread_iff hread]
    exact (Schema.forall_columns_markForeignKeys Column.settled_unflagged _).symm
  · refine (Schema.forall_columns_markForeignKeys
      (fun c => imp_congr c.plain_unflagged c.settled_unflagged) _).2 fun c hc => ?_
    obtain ⟨t, ht, hc⟩ := List.mem_flatMap.1 hc
    exact (hread.columns t ht c hc).settled
  · rw [Schema.outline_markForeignKeys, Schema.outline_markForeignKeys, Schema.outline_reread hread]
  · rw [Schema.references_markForeignKeys]
    rfl

/-- Each of the four conditions on plain columns is needed: canonical text changes where a dot is left in
a type, a quote is left open in front of a note, a comma stands outside the quotes of a note, or a
reference is in one. -/
example : ∀ text ∈ ["Table t \x7b\n  a int\u0130\n\x7d",
    "Table t \x7b\n  a int [note: 'a, b', default: it's]\n\x7d",
    "Table t \x7b\n  a int [note: \x60it's \"a, b\x60]\n\x7d",
    "Table t \x7b\n  a int [note: 'Ref: a.b > c.d']\n\x7d"],
    Schema.canonical (Schema.canonical text) ≠ Schema.canonical text := by
  decide +kernel

end SchemaDiagram
