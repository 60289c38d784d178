import SchemaDiagram.Proofs.Schema.Reference
import SchemaDiagram.Proofs.Schema.Setting

/-!
# Column lines that are read back

The line of a column declares it again (`ofLine?_declaration`), except that a primary key is not said
to be not null, if the column is legible: its name and type are identifiers, and its settings are
told apart in their list. This is so when the column is text-safe, that is, when nothing in its
default and its note ends the line, the list of settings or the table. Each of its settings is then
a `SafeSetting`.
-/

namespace SchemaDiagram

open Character

/-- The characters that end a line, a list of settings or a table. -/
def isClosing (c : Char) : Bool :=
  c == '\n' || c == ']' || c == '}'

/-- Nothing in a text is closing if no character is. -/
theorem within_of_all {s : List Char} (h : s.all (!isClosing ·) = true) :
    ∀ c ∈ s, isClosing c = false := by
  intro c hc
  simpa using List.all_eq_true.1 h c hc

/-- A default that is read back. -/
structure SafeDefault (value : List Char) : Prop where
  /-- It has no blanks around it. -/
  trimmed : Text.trim value = value
  /-- Nothing in it ends the line, the settings or the table. -/
  within : ∀ c ∈ value, isClosing c = false
  /-- Its quotes are closed, and its commas stand in quotes. -/
  balanced : Setting.Balanced value
  /-- It does not look like a reference. -/
  noReference : NoReference value

/-- A note that is read back. -/
structure SafeNote (note : List Char) : Prop where
  /-- Nothing in it ends the line, the settings or the table. -/
  within : ∀ c ∈ note, isClosing c = false
  /-- One of the two kinds of quotes is left to stand around it. -/
  quotable : ¬('\'' ∈ note ∧ '"' ∈ note)
  /-- It does not look like a reference. -/
  noReference : NoReference note

/-- A column that is read back. -/
structure TextSafeColumn (c : Column) : Prop where
  /-- Its name is an identifier. -/
  name : IsIdentifier c.name.toList
  /-- Its type is an identifier. -/
  type : IsIdentifier c.type.toList
  /-- Its type is in lower case. -/
  lower : Text.lower c.type.toList = c.type.toList
  /-- Its default is one that is read back. -/
  default : ∀ value ∈ c.defaultValue, SafeDefault value.toList
  /-- Its note is one that is read back. -/
  note : ∀ note ∈ c.note, SafeNote note.toList

/-- A column whose line is read as it was written. -/
structure LegibleColumn (c : Column) : Prop where
  /-- Its name is an identifier. -/
  name : IsIdentifier c.name.toList
  /-- Its type is an identifier. -/
  type : IsIdentifier c.type.toList
  /-- Its type is in lower case. -/
  lower : Text.lower c.type.toList = c.type.toList
  /-- Its default has no blanks around it. -/
  trimmed : ∀ value ∈ c.defaultValue, Text.trim value.toList = value.toList
  /-- Its list of settings ends at the bracket behind it. -/
  bracket : ']' ∉ ", ".toList.intercalate c.settings
  /-- Its settings are told apart in the list. -/
  settings : Setting.split (", ".toList.intercalate c.settings) = c.settings.map Text.trim

namespace Setting

variable {s : List Char}

/-- A setting that is read back among others. -/
structure SafeSetting (s : List Char) : Prop where
  /-- Its quotes are closed, and its commas stand in quotes. -/
  balanced : Balanced s
  /-- It is not blank. -/
  nonblank : Text.trim s ≠ []
  /-- Nothing in it ends the line, the settings or the table. -/
  within : ∀ c ∈ s, isClosing c = false
  /-- It does not look like a reference. -/
  noReference : NoReference s

/-- The flags that a column may have, as they are written. -/
def flags : List String :=
  ["primary key", "unique", "increment", "not null"]

/-- A text with a character that is not blank is not trimmed away. -/
theorem trim_ne_nil {c : Char} (hc : isBlank c = false) (h : c ∈ s) : Text.trim s ≠ [] := by
  intro htrim
  have hstart : ∀ x ∈ Text.trimStart s, isBlank x = true := by
    unfold Text.trim Text.trimEnd at htrim
    rw [List.reverse_eq_nil_iff, List.dropWhile_eq_nil_iff] at htrim
    exact fun x hx => htrim x (List.mem_reverse.2 hx)
  -- Without its blanks in front the text does not begin with a blank.
  have hnil : Text.trimStart s = [] := by
    cases hs : Text.trimStart s with
    | nil => rfl
    | cons x t =>
      have hhead := Text.head?_dropWhile_any (p := isBlank) s
      have hx := hstart x (by simp [hs])
      unfold Text.trimStart at hs
      rw [hs] at hhead
      rw [List.head?_cons, Option.any_some, hx] at hhead
      cases hhead
  unfold Text.trimStart at hnil
  rw [List.dropWhile_eq_nil_iff] at hnil
  rw [hnil c h] at hc
  cases hc

/-- The characters that neither quote nor end anything in a list of settings. -/
def isPlain (c : Char) : Bool :=
  !isQuote c && c != ',' && !isClosing c

/-- A plain text balances, and ends nothing. -/
theorem balanced_of_plain (h : s.all isPlain = true) :
    Balanced s ∧ ∀ c ∈ s, isClosing c = false := by
  have hplain : ∀ c ∈ s, (isQuote c = false ∧ c ≠ ',') ∧ isClosing c = false := by
    intro c hc
    simpa [isPlain] using List.all_eq_true.1 h c hc
  exact ⟨Balanced.of_forall fun c hc => (hplain c hc).1, fun c hc => (hplain c hc).2⟩

/-- Each flag is read back among others. -/
theorem safeSetting_flag {flag : String} (h : flag ∈ flags) : SafeSetting flag.toList := by
  have hplain : ∀ flag ∈ flags, flag.toList.all isPlain = true := by decide +kernel
  have hnonblank : ∀ flag ∈ flags, flag.toList.any (!isBlank ·) = true := by decide +kernel
  have hcolon : ∀ flag ∈ flags, flag.toList.all (· != ':') = true := by decide +kernel
  obtain ⟨hbalanced, hwithin⟩ := balanced_of_plain (hplain flag h)
  obtain ⟨c, hc, hblank⟩ := List.any_eq_true.1 (hnonblank flag h)
  constructor
  · exact hbalanced
  · exact trim_ne_nil (by simpa using hblank) hc
  · exact hwithin
  · refine NoReference.of_not_mem fun hmem => ?_
    exact absurd (List.all_eq_true.1 (hcolon flag h) ':' hmem) (by decide)

/-- A default that is read back is so among other settings. -/
theorem safeSetting_default {value : List Char} (h : SafeDefault value) :
    SafeSetting ("default: ".toList ++ value) := by
  obtain ⟨hbalanced, hwithin⟩ := balanced_of_plain (s := "default: ".toList) rfl
  have hsplit : "default: ".toList ++ value = "default:".toList ++ ' ' :: value := rfl
  constructor
  · exact hbalanced.append h.balanced
  · exact trim_ne_nil (c := 'd') (by decide) (by simp)
  · intro c hc
    rcases List.mem_append.1 hc with hc | hc
    · exact hwithin c hc
    · exact h.within c hc
  · have hkey : NoReference "default:".toList := by
      unfold NoReference
      decide
    rw [hsplit]
    exact (noReference_append_cons (by decide)).2 ⟨hkey, h.noReference⟩

/-- A note that is read back is so among other settings. -/
theorem safeSetting_note {note : List Char} (h : SafeNote note) :
    SafeSetting ("note: ".toList ++ Column.quoteNote note) := by
  obtain ⟨hbalanced, hwithin⟩ := balanced_of_plain (s := "note: ".toList) rfl
  obtain ⟨q, hq, hnot, hquoted⟩ := exists_quoteNote h.quotable
  have hclosing : isClosing q = false := by
    rcases quote_cases hq with rfl | rfl | rfl <;> rfl
  have hletter : q.toLower ∉ "ref:".toList := by
    rcases quote_cases hq with rfl | rfl | rfl <;> decide
  rw [hquoted]
  -- The quotes around the note close each other and are no part of a reference.
  constructor
  · exact hbalanced.append (Balanced.quoted hq hnot Balanced.nil)
  · exact trim_ne_nil (c := 'n') (by decide) (by simp)
  · intro c hc
    simp only [List.mem_append, List.mem_cons, List.not_mem_nil, or_false] at hc
    rcases hc with hc | rfl | hc | rfl
    · exact hwithin c hc
    · exact hclosing
    · exact h.within c hc
    · exact hclosing
  · have hkey : NoReference "note: ".toList := by
      unfold NoReference
      decide
    refine (noReference_append_cons hletter).2 ⟨hkey, ?_⟩
    exact (noReference_append_cons hletter).2
      ⟨h.noReference, NoReference.of_not_mem List.not_mem_nil⟩

/-- Commas between settings end nothing. -/
theorem within_intercalate {settings : List (List Char)}
    (h : ∀ s ∈ settings, ∀ c ∈ s, isClosing c = false) :
    ∀ c ∈ ", ".toList.intercalate settings, isClosing c = false := by
  refine Text.comma_induction (P := fun s => ∀ c ∈ s, isClosing c = false)
    (fun c hc => (List.not_mem_nil hc).elim) h fun a ha s hs c hc => ?_
  simp only [List.mem_append, List.mem_cons] at hc
  rcases hc with hc | rfl | rfl | hc
  · exact h a ha c hc
  · rfl
  · rfl
  · exact hs c hc

/-- References are not joined by commas. -/
theorem noReference_intercalate {settings : List (List Char)}
    (h : ∀ s ∈ settings, NoReference s) : NoReference (", ".toList.intercalate settings) := by
  refine Text.comma_induction (NoReference.of_not_mem List.not_mem_nil) h fun a ha s hs => ?_
  exact (noReference_append_cons (by decide)).2 ⟨h a ha, (noReference_cons (by decide)).2 hs⟩

end Setting

namespace Column

open Setting

variable {c : Column}

/-! ## The settings of a column -/

/-- A setting of a column is one of its flags, its default or its note. -/
theorem mem_settings {s : List Char} (h : s ∈ c.settings) :
    (∃ flag ∈ flags, s = flag.toList) ∨
      (∃ value ∈ c.defaultValue, s = "default: ".toList ++ value.toList) ∨
        ∃ note ∈ c.note, s = "note: ".toList ++ quoteNote note.toList := by
  have hflag {b : Bool} {flag : String} (hmem : flag ∈ flags)
      (h : s ∈ (if b then [flag.toList] else [])) : ∃ flag ∈ flags, s = flag.toList := by
    split at h
    · exact ⟨flag, hmem, List.mem_singleton.1 h⟩
    · cases h
  unfold settings at h
  simp only [List.mem_append, List.mem_map, Option.mem_toList, or_assoc] at h
  rcases h with h | h | h | h | ⟨value, hvalue, rfl⟩ | ⟨note, hnote, rfl⟩
  · exact .inl (hflag (by decide) h)
  · exact .inl (hflag (by decide) h)
  · exact .inl (hflag (by decide) h)
  · exact .inl (hflag (by decide) h)
  · exact .inr (.inl ⟨value, hvalue, rfl⟩)
  · exact .inr (.inr ⟨note, hnote, rfl⟩)

/-- No setting of a column is blank. -/
theorem trim_ne_nil_of_mem_settings {s : List Char} (h : s ∈ c.settings) : Text.trim s ≠ [] := by
  rcases mem_settings h with ⟨flag, hflag, rfl⟩ | ⟨value, -, rfl⟩ | ⟨note, -, rfl⟩
  · exact (safeSetting_flag hflag).nonblank
  · exact trim_ne_nil (c := 'd') (by decide) (by simp)
  · exact trim_ne_nil (c := 'n') (by decide) (by simp)

/-- The settings of a text-safe column are read back among each other. -/
theorem safeSetting_of_mem (hc : TextSafeColumn c) {s : List Char} (h : s ∈ c.settings) :
    SafeSetting s := by
  rcases mem_settings h with ⟨flag, hflag, rfl⟩ | ⟨value, hvalue, rfl⟩ | ⟨note, hnote, rfl⟩
  · exact safeSetting_flag hflag
  · exact safeSetting_default (hc.default value hvalue)
  · exact safeSetting_note (hc.note note hnote)

/-- What the settings of a column say. -/
def sayings (c : Column) : List Setting :=
  (if c.isPrimaryKey then [primaryKey] else []) ++ (if c.isUnique then [unique] else []) ++
    (if c.isIncrement then [increment] else []) ++
    (if c.isNotNull && !c.isPrimaryKey then [notNull] else []) ++
    (c.defaultValue.toList.map fun value => Setting.defaultValue value.toList) ++
    (c.note.toList.map fun note => Setting.note note.toList)

/-- Each setting says what it was written for. -/
theorem map_ofText_settings
    (htrim : ∀ value ∈ c.defaultValue, Text.trim value.toList = value.toList) :
    (c.settings.map Text.trim).map ofText = c.sayings := by
  have hflag (b : Bool) {flag : List Char} {setting : Setting}
      (h : ofText (Text.trim flag) = setting) :
      ((if b then [flag] else []).map Text.trim).map ofText = if b then [setting] else [] := by
    cases b
    · rfl
    · rw [← h]
      rfl
  have hdefault : ((c.defaultValue.toList.map fun value =>
      "default: ".toList ++ value.toList).map Text.trim).map ofText =
        c.defaultValue.toList.map fun value => Setting.defaultValue value.toList := by
    rw [List.map_map, List.map_map]
    refine List.map_congr_left fun value hvalue => ?_
    rw [Function.comp_apply, Function.comp_apply,
      ofText_default (htrim value (Option.mem_toList.1 hvalue))]
  have hnote : ((c.note.toList.map fun note =>
      "note: ".toList ++ quoteNote note.toList).map Text.trim).map ofText =
        c.note.toList.map fun note => Setting.note note.toList := by
    rw [List.map_map, List.map_map]
    refine List.map_congr_left fun note _ => ?_
    rw [Function.comp_apply, Function.comp_apply, ofText_note]
  unfold settings sayings
  simp only [List.map_append]
  -- The flags are fixed texts.
  have hprimaryKey : ofText (Text.trim "primary key".toList) = primaryKey := by decide +kernel
  have hunique : ofText (Text.trim "unique".toList) = unique := by decide +kernel
  have hincrement : ofText (Text.trim "increment".toList) = increment := by decide +kernel
  have hnotNull : ofText (Text.trim "not null".toList) = notNull := by decide +kernel
  rw [hflag _ hprimaryKey, hflag _ hunique, hflag _ hincrement, hflag _ hnotNull, hdefault, hnote]

/-- The column as its line declares it: a primary key is not said to be not null, and nothing is
said of foreign keys. -/
def declared (c : Column) : Column :=
  { c with isNotNull := c.isNotNull && !c.isPrimaryKey, isForeignKey := false }

/-- Applied to a plain column, the settings of a column give that column. -/
theorem foldl_apply_sayings (c : Column) :
    c.sayings.foldl Setting.apply { name := c.name, type := c.type } = c.declared := by
  obtain ⟨name, type, pk, fk, nn, uq, inc, default, note⟩ := c
  unfold sayings declared
  -- Each setting sets its own field, so it is enough to know which ones there are.
  cases pk <;> cases nn <;> cases uq <;> cases inc <;> cases default <;> cases note <;>
    simp [Setting.apply]

/-- The settings of a column, applied to a plain column, give that column. -/
theorem applySettings_settings (hc : LegibleColumn c) :
    applySettings { name := c.name, type := c.type } (", ".toList.intercalate c.settings) =
      c.declared := by
  unfold applySettings
  -- The settings are split again, and each of them says what it was written for.
  rw [hc.settings, ← foldl_apply_sayings, ← map_ofText_settings hc.trimmed,
    List.foldl_map (f := ofText)]

/-! ## The line of a column -/

/-- The list of settings behind the type of a column. -/
def settingList (c : Column) : List Char :=
  if c.settings = [] then [] else " [".toList ++ ", ".toList.intercalate c.settings ++ [']']

/-- The line of a column without the end of the line. -/
def declaration (c : Column) : List Char :=
  "  ".toList ++ (c.name.toList ++ ' ' :: (c.type.toList ++ c.settingList))

/-- The line of a column is its declaration and the end of the line. -/
theorem line_eq (c : Column) : c.line = c.declaration ++ ['\n'] := by
  unfold line declaration settingList
  simp only [List.append_assoc, List.cons_append, List.nil_append]

/-- The list of settings is empty, or it stands in brackets behind a blank. -/
theorem settingList_cases (c : Column) :
    (c.settings = [] ∧ c.settingList = []) ∨ (c.settings ≠ [] ∧
      c.settingList = ' ' :: '[' :: (", ".toList.intercalate c.settings ++ [']'])) := by
  unfold settingList
  split
  · next h => exact .inl ⟨h, rfl⟩
  · next h => exact .inr ⟨h, rfl⟩

/-- The list of settings stops the type of a column. -/
theorem stops_settingList (c : Column) : Stops c.settingList := by
  rcases settingList_cases c with ⟨-, h⟩ | ⟨-, h⟩
  · rw [h]
    exact stops_nil
  · rw [h]
    exact stops_cons.2 rfl

/-- Nothing in the declaration of a column ends its line or the table if nothing in its type and its
settings does. -/
theorem not_mem_declaration_of (hname : IsIdentifier c.name.toList)
    (htype : ∀ x ∈ c.type.toList, x ≠ '\n' ∧ x ≠ '\x7d')
    (hsettings : ∀ s ∈ c.settings, ∀ x ∈ s, isClosing x = false) :
    ∀ x ∈ c.declaration, x ≠ '\n' ∧ x ≠ '\x7d' := by
  -- The brackets and commas of the list are fixed, and its settings end nothing.
  have hlist : ∀ x ∈ c.settingList, x ≠ '\n' ∧ x ≠ '\x7d' := by
    have hwithin := within_intercalate hsettings
    intro x hx
    rcases settingList_cases c with ⟨-, h⟩ | ⟨-, h⟩
    · rw [h] at hx
      cases hx
    · simp only [h, List.mem_cons, List.mem_append, List.not_mem_nil, or_false] at hx
      rcases hx with rfl | rfl | hx | rfl
      · exact ⟨by decide, by decide⟩
      · exact ⟨by decide, by decide⟩
      · have hopen := hwithin x hx
        constructor
        · rintro rfl
          exact absurd hopen (by decide)
        · rintro rfl
          exact absurd hopen (by decide)
      · exact ⟨by decide, by decide⟩
  have hspaces : "  ".toList = [' ', ' '] := rfl
  intro x hx
  unfold declaration at hx
  simp only [hspaces, List.cons_append, List.nil_append, List.mem_cons, List.mem_append] at hx
  rcases hx with rfl | rfl | hx | rfl | hx | hx
  · exact ⟨by decide, by decide⟩
  · exact ⟨by decide, by decide⟩
  · exact ⟨ne_of_isIdent (hname.2 x hx) rfl, ne_of_isIdent (hname.2 x hx) rfl⟩
  · exact ⟨by decide, by decide⟩
  · exact htype x hx
  · exact hlist x hx

/-- Nothing in the declaration of a text-safe column ends its line or the table. -/
theorem not_mem_declaration (hc : TextSafeColumn c) :
    ∀ x ∈ c.declaration, x ≠ '\n' ∧ x ≠ '\x7d' := by
  refine not_mem_declaration_of hc.name (fun x hx => ?_) fun s hs => (safeSetting_of_mem hc hs).within
  exact ⟨ne_of_isIdent (hc.type.2 x hx) rfl, ne_of_isIdent (hc.type.2 x hx) rfl⟩

/-- The declaration of a column has no references. -/
theorem noReference_declaration (hc : TextSafeColumn c) : NoReference c.declaration := by
  -- The marks of a declaration are not of `ref:`, so they divide it.
  have hlist : NoReference c.settingList := by
    rcases settingList_cases c with ⟨-, h⟩ | ⟨-, h⟩
    · rw [h]
      exact NoReference.of_not_mem List.not_mem_nil
    · have hsettings := noReference_intercalate fun s hs => (safeSetting_of_mem hc hs).noReference
      rw [h, noReference_cons (by decide), noReference_cons (by decide),
        noReference_append_cons (by decide)]
      exact ⟨hsettings, NoReference.of_not_mem List.not_mem_nil⟩
  have hspaces : "  ".toList = [' ', ' '] := rfl
  have htype : NoReference (c.type.toList ++ c.settingList) := by
    rcases settingList_cases c with ⟨-, h⟩ | ⟨-, h⟩
    · rw [h, List.append_nil]
      exact NoReference.identifier hc.type
    · rw [h, noReference_cons (by decide)] at hlist
      rw [h, noReference_append_cons (by decide)]
      exact ⟨NoReference.identifier hc.type, hlist⟩
  unfold declaration
  rw [hspaces, List.cons_append, List.cons_append, List.nil_append, noReference_cons (by decide),
    noReference_cons (by decide), noReference_append_cons (by decide)]
  exact ⟨NoReference.identifier hc.name, htype⟩

/-- The settings behind a type are found in their brackets. -/
theorem until?_settingList (hc : LegibleColumn c) :
    (Scan.char? '[' (Scan.skipBlanks c.settingList) >>= Scan.until? [']']) =
      if c.settings = [] then none else some (", ".toList.intercalate c.settings, []) := by
  rcases settingList_cases c with ⟨hnil, h⟩ | ⟨hne, h⟩
  · rw [h, if_pos hnil]
    rfl
  · rw [h, if_neg hne, Scan.skipBlanks_cons rfl, Scan.skipBlanks_of_not rfl, Scan.char?_self]
    exact Scan.until?_singleton hc.bracket

/-- The declaration of a column without the blanks around it begins with its name. -/
theorem trim_declaration (hc : LegibleColumn c) :
    Text.trim c.declaration = c.name.toList ++ ' ' :: (c.type.toList ++ c.settingList) := by
  have hlast : (c.type.toList ++ c.settingList).getLast?.any isBlank = false := by
    rcases settingList_cases c with ⟨-, h⟩ | ⟨-, h⟩
    · rw [h, List.append_nil, List.getLast?_eq_some_getLast hc.type.1]
      exact isBlank_of_isIdent (hc.type.2 _ (List.getLast_mem _))
    · rw [h, List.getLast?_append, List.getLast?_cons_cons, ← List.cons_append,
        List.getLast?_concat]
      rfl
  unfold declaration
  rw [Text.trim_blanks_append (by simp [isBlank])]
  -- In front stands the name, and behind it the type or a bracket.
  apply Text.trim_of_ends
  · obtain ⟨x, name, hname⟩ := List.exists_cons_of_ne_nil hc.name.1
    rw [hname]
    exact isBlank_of_isIdent (hc.name.2 x (hname ▸ List.mem_cons_self))
  · obtain ⟨y, type, htype⟩ := List.exists_cons_of_ne_nil hc.type.1
    rw [htype, List.cons_append] at hlast ⊢
    rwa [List.getLast?_append, List.getLast?_cons_cons, List.getLast?_cons,
      Option.some_or, ← List.getLast?_cons]

/-- A text that begins with an identifier is no comment. -/
theorem not_comment {w s : List Char} (hw : IsIdentifier w) :
    "//".toList.isPrefixOf (w ++ s) = false := by
  obtain ⟨x, w, rfl⟩ := List.exists_cons_of_ne_nil hw.1
  have hslash : ('/' == x) = false := by
    rw [beq_eq_false_iff_ne]
    exact (ne_of_isIdent (hw.2 x List.mem_cons_self) rfl).symm
  show ('/' == x && _) = false
  rw [hslash, Bool.false_and]

/-- The line of a column declares it. -/
theorem ofLine?_declaration (hc : LegibleColumn c) :
    ofLine? c.declaration = some c.declared := by
  have hname : Scan.ident? (c.name.toList ++ ' ' :: (c.type.toList ++ c.settingList)) =
      some (c.name.toList, ' ' :: (c.type.toList ++ c.settingList)) :=
    Scan.ident?_append hc.name (stops_cons.2 rfl)
  have hblanks : Scan.blanks? (' ' :: (c.type.toList ++ c.settingList)) =
      some (c.type.toList ++ c.settingList) := by
    rw [Scan.blanks?_cons rfl, Scan.skipBlanks_identifier hc.type]
  have htype := Scan.ident?_append hc.type (stops_settingList c)
  have hlist := until?_settingList hc
  rw [Option.bind_eq_bind] at hlist
  unfold ofLine?
  rw [trim_declaration hc]
  simp only [not_comment hc.name, Bool.false_eq_true, not_false_eq_true, guard_true,
    Option.bind_eq_bind, Option.bind_some, Option.pure_def, hname, hblanks, htype, hc.lower,
    String.ofList_toList, hlist]
  split_ifs with hnil
  · -- Without settings the line declares a plain column.
    have hplain := foldl_apply_sayings c
    rw [← map_ofText_settings hc.trimmed, hnil] at hplain
    exact congrArg some hplain
  · exact congrArg some (applySettings_settings hc)

end Column

/-- A text-safe column is legible. -/
theorem TextSafeColumn.legible {c : Column} (hc : TextSafeColumn c) : LegibleColumn c where
  name := hc.name
  type := hc.type
  lower := hc.lower
  trimmed value hvalue := (hc.default value hvalue).trimmed
  bracket hmem := by
    have hclosing := Setting.within_intercalate
      (fun s hs => (Column.safeSetting_of_mem hc hs).within) _ hmem
    cases hclosing
  settings := by
    have hsafe {s : List Char} (hs : s ∈ c.settings) := Column.safeSetting_of_mem hc hs
    refine Setting.split_intercalate (fun s hs => ?_) (fun s hs => ?_) fun s hs =>
      Column.trim_ne_nil_of_mem_settings hs
    · exact (hsafe (List.mem_of_mem_dropLast hs)).balanced
    · exact (hsafe (List.mem_of_getLast? hs)).balanced.isWhole

end SchemaDiagram
