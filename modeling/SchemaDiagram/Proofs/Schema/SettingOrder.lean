import SchemaDiagram.Proofs.Schema.BodyLine

/-!
# The order of settings

The settings of a column can be listed in any order. Each quote in them has to be closed and each
comma has to be quoted, so that they are told apart in the list, and at most one of them may be a
note and at most one a default, as of several the first or the last one would count (`Orderless`).
Then any two of them commute (`Setting.apply_comm`), and the line of the column can be exchanged in
the body of a table for the same line with the settings in another order
(`Column.settingLine_of_perm`).
-/

namespace SchemaDiagram

open Character

namespace Setting

variable {s : List Char} {settings settings' : List (List Char)}

/-! ## Two settings -/

/-- The key of a setting of which only one counts. -/
def key? : Setting → Option String
  | note _ => some "note"
  | defaultValue _ => some "default"
  | _ => none

/-- Settings commute if they do not have the same key. -/
theorem apply_comm {x y : Setting} (h : x.key? = none ∨ x.key? ≠ y.key?) (c : Column) :
    y.apply (x.apply c) = x.apply (y.apply c) := by
  -- Each of them sets another field, or both set the same flag.
  cases x with
  | note text =>
    cases y with
    | note _ => simp [key?] at h
    | _ => rfl
  | defaultValue value =>
    cases y with
    | defaultValue _ => simp [key?] at h
    | _ => rfl
  | _ => cases y <;> rfl

/-- Only settings of two kinds have a key. -/
theorem mem_of_key? {x : Setting} {key : String} (h : x.key? = some key) :
    key ∈ ["note", "default"] := by
  cases x <;> cases h <;> decide

/-- A flag has no key. -/
theorem key?_of_flag? {x : Setting} (h : flag? s = some x) : x.key? = none := by
  unfold flag? at h
  simp only at h
  split_ifs at h <;> cases h <;> rfl

/-- In the text of a setting with a key there is a value for that key. -/
theorem isSome_valueOf?_of_key? {key : String} (h : (ofText s).key? = some key) :
    (valueOf? key.toList s).isSome = true := by
  unfold ofText at h
  split at h
  · next hflag =>
    rw [key?_of_flag? hflag] at h
    cases h
  · split at h
    · next hnote =>
      cases h
      rw [hnote]
      rfl
    · split at h
      · next hdefault =>
        cases h
        rw [hdefault]
        rfl
      · cases h

/-- Blanks around a setting do not change the value in it. -/
theorem valueOf?_trim (key s : List Char) : valueOf? key (Text.trim s) = valueOf? key s := by
  obtain ⟨a, b, ha, hb, hs⟩ := Text.exists_blanks_trim s
  have hblanks {b : List Char} (hb : ∀ c ∈ b, isBlank c = true) : ':' ∉ b :=
    fun h => absurd (hb _ h) (by decide)
  have hnone {t : List Char} (ht : ':' ∉ t) : valueOf? key t = none := by
    have hdrop : t.dropWhile (· != ':') = [] := by
      refine List.dropWhile_eq_nil_iff.2 fun c hc => ?_
      rw [bne_iff_ne]
      rintro rfl
      exact ht hc
    unfold valueOf?
    rw [hdrop]
  by_cases hmem : ':' ∈ Text.trim s
  · obtain ⟨front, value, htrim, hfront⟩ := List.eq_append_cons_of_mem hmem
    have hsplit : s = (a ++ front) ++ ':' :: (value ++ b) := by
      rw [hs, htrim]
      simp
    calc valueOf? key (Text.trim s)
      _ = valueOf? key (front ++ ':' :: value) := by rw [htrim]
      _ = valueOf? key ((a ++ front) ++ ':' :: (value ++ b)) := by
        rw [valueOf?_append hfront, valueOf?_append (by simp [hfront, hblanks ha]),
          Text.trim_blanks_append ha, Text.trim_append_blanks hb]
      _ = valueOf? key s := by rw [← hsplit]
  · have hs' : ':' ∉ s := by
      rw [hs]
      simp [hmem, hblanks ha, hblanks hb]
    rw [hnone hmem, hnone hs']

/-! ## Lists of settings -/

/-- A list of settings whose order does not count. -/
structure Orderless (settings : List (List Char)) : Prop where
  /-- Their quotes are closed, and their commas stand in quotes. -/
  balanced : ∀ s ∈ settings, Balanced s
  /-- Nothing in them ends the line, the list or the table. -/
  within : ∀ s ∈ settings, ∀ c ∈ s, isClosing c = false
  /-- At most one of them is a note, and at most one a default. -/
  single : ∀ key ∈ ["note", "default"],
    (settings.filter fun s => (valueOf? key.toList s).isSome).length ≤ 1

namespace Orderless

/-- The settings in another order are such a list, too. -/
theorem perm (h : Orderless settings) (hperm : settings.Perm settings') : Orderless settings' where
  balanced s hs := h.balanced s (hperm.mem_iff.2 hs)
  within s hs := h.within s (hperm.mem_iff.2 hs)
  single key hkey := (hperm.filter _).length_eq ▸ h.single key hkey

/-- There is only one setting with a key. -/
theorem eq_of_key? (h : Orderless settings) {a b : List Char} (ha : a ∈ settings)
    (hb : b ∈ settings) {key : String} (hkeya : (ofText (Text.trim a)).key? = some key)
    (hkeyb : (ofText (Text.trim b)).key? = some key) : a = b := by
  have hmem {s : List Char} (hs : s ∈ settings) (hkey : (ofText (Text.trim s)).key? = some key) :
      s ∈ settings.filter fun s => (valueOf? key.toList s).isSome := by
    have hvalue := isSome_valueOf?_of_key? hkey
    rw [valueOf?_trim] at hvalue
    exact List.mem_filter.2 ⟨hs, hvalue⟩
  have hina := hmem ha hkeya
  have hinb := hmem hb hkeyb
  have hone := Nat.le_antisymm (h.single key (mem_of_key? hkeya)) (List.length_pos_of_mem hina)
  obtain ⟨x, hx⟩ := List.length_eq_one_iff.1 hone
  rw [hx, List.mem_singleton] at hina hinb
  rw [hina, hinb]

end Orderless

/-- The settings of a list are found again, but blank ones and the blanks around them. -/
theorem split_of_balanced (h : ∀ s ∈ settings, Balanced s) :
    split (", ".toList.intercalate settings) = (settings.map Text.trim).filter (· ≠ []) := by
  rcases eq_or_ne settings [] with rfl | hne
  · rfl
  · unfold split
    rw [map_trim_splitUnquoted_intercalate hne
      (fun s hs => h s (List.mem_of_mem_dropLast hs))
      fun s hs => (h s (List.mem_of_getLast? hs)).isWhole]

end Setting

namespace Column

variable {settings settings' : List (List Char)} {name type : List Char}

/-- The order of settings does not count. -/
theorem applySettings_of_perm (h : Setting.Orderless settings) (hperm : settings.Perm settings')
    (c : Column) : c.applySettings (", ".toList.intercalate settings) =
      c.applySettings (", ".toList.intercalate settings') := by
  unfold applySettings
  rw [Setting.split_of_balanced h.balanced, Setting.split_of_balanced (h.perm hperm).balanced]
  refine ((hperm.map Text.trim).filter _).foldl_eq' (fun s hs t ht c => ?_) c
  obtain ⟨a, ha, rfl⟩ := List.mem_map.1 (List.mem_filter.1 hs).1
  obtain ⟨b, hb, rfl⟩ := List.mem_map.1 (List.mem_filter.1 ht).1
  rcases eq_or_ne a b with rfl | hne
  · rfl
  refine Setting.apply_comm ?_ c
  cases hkey : (Setting.ofText (Text.trim a)).key? with
  | none => exact .inl rfl
  | some key => exact .inr fun hkey' => hne (h.eq_of_key? ha hb hkey hkey'.symm)

/-! ## The line of a column -/

/-- The line of a column with a list of settings. -/
def settingLine (name type : List Char) (settings : List (List Char)) : List Char :=
  name ++ ' ' :: (type ++ ' ' :: '[' :: (", ".toList.intercalate settings ++ [']']))

/-- The line declares the column with the settings, whatever comes behind its bracket. -/
theorem ofLine?_settingLine (hname : IsIdentifier name) (htype : IsIdentifier type)
    (hsettings : ∀ s ∈ settings, ∀ c ∈ s, isClosing c = false) (t : List Char) :
    ofLine? (settingLine name type settings ++ t) =
      some (applySettings { name := String.ofList name, type := String.ofList (Text.lower type) }
        (", ".toList.intercalate settings)) := by
  have hbracket : ']' ∉ ", ".toList.intercalate settings :=
    fun hmem => absurd (Setting.within_intercalate hsettings _ hmem) (by decide)
  have hhead : (settingLine name type settings).head?.any isBlank = false := by
    obtain ⟨c, w, rfl⟩ := List.exists_cons_of_ne_nil hname.1
    exact isBlank_of_isIdent (hname.2 c List.mem_cons_self)
  have hlast : (settingLine name type settings).getLast?.any isBlank = false := by
    have hsplit : settingLine name type settings =
        (name ++ ' ' :: (type ++ ' ' :: '[' :: ", ".toList.intercalate settings)) ++ [']'] := by
      simp [settingLine]
    rw [hsplit, List.getLast?_concat]
    rfl
  obtain ⟨rest, htrim⟩ := Text.exists_trim_append hhead hlast t
  have hline : settingLine name type settings ++ rest = name ++ ' ' :: (type ++ ' ' :: '[' ::
      (", ".toList.intercalate settings ++ ']' :: rest)) := by
    simp [settingLine]
  have hblanks (s : List Char) : Scan.blanks? (' ' :: (type ++ s)) = some (type ++ s) := by
    rw [Scan.blanks?_cons rfl, Scan.skipBlanks_identifier htype]
  have hskip (s : List Char) : Scan.skipBlanks (' ' :: '[' :: s) = '[' :: s := by
    rw [Scan.skipBlanks_cons rfl, Scan.skipBlanks_of_not rfl]
  have hword {w : List Char} (hw : IsIdentifier w) (s : List Char) :
      Scan.ident? (w ++ ' ' :: s) = some (w, ' ' :: s) := Scan.ident?_append hw (stops_cons.2 rfl)
  unfold ofLine?
  rw [htrim, hline]
  simp only [not_comment hname, Bool.false_eq_true, not_false_eq_true, guard_true,
    Option.bind_eq_bind, Option.bind_some, Option.pure_def, hword hname, hblanks, hword htype,
    hskip, Scan.char?_self, Scan.until?_singleton hbracket]

/-- A line and the same one with its settings in another order can stand for each other. -/
theorem interchangeable_settingLine (hname : IsIdentifier name) (htype : IsIdentifier type)
    (h : Setting.Orderless settings) (hperm : settings.Perm settings') :
    LinePlace.Interchangeable (settingLine name type settings)
      (settingLine name type settings') := by
  have hident {w : List Char} (hw : IsIdentifier w) : ∀ c ∈ w, c ≠ '\n' ∧ c ≠ '}' :=
    fun c hc => ⟨ne_of_isIdent (hw.2 c hc) rfl, ne_of_isIdent (hw.2 c hc) rfl⟩
  have hwithin {settings : List (List Char)} (h : Setting.Orderless settings) :
      ∀ c ∈ settingLine name type settings, c ≠ '\n' ∧ c ≠ '}' := by
    have hlist := Setting.within_intercalate h.within
    intro c hc
    simp only [settingLine, List.mem_append, List.mem_cons, List.not_mem_nil, or_false] at hc
    rcases hc with hc | rfl | hc | rfl | rfl | hc | rfl
    · exact hident hname c hc
    · exact ⟨by decide, by decide⟩
    · exact hident htype c hc
    · exact ⟨by decide, by decide⟩
    · exact ⟨by decide, by decide⟩
    · have hopen := hlist c hc
      constructor
      · rintro rfl
        exact absurd hopen (by decide)
      · rintro rfl
        exact absurd hopen (by decide)
    · exact ⟨by decide, by decide⟩
  refine ⟨hwithin h, hwithin (h.perm hperm), fun t => ?_⟩
  rw [ofLine?_settingLine hname htype h.within,
    ofLine?_settingLine hname htype (h.perm hperm).within, applySettings_of_perm h hperm]

end Column

/-! ## References in settings -/

/-- The references in a list of settings are those in the settings. -/
theorem Reference.constructs_intercalate (settings : List (List Char)) :
    constructs Reference.keyword (Scan.orStay Reference.tail?) (", ".toList.intercalate settings) =
      settings.flatMap (constructs Reference.keyword (Scan.orStay Reference.tail?)) := by
  induction settings with
  | nil => exact constructs_nil
  | cons a settings ih =>
    cases settings with
    | nil => rw [List.intercalate_singleton, List.flatMap_singleton]
    | cons b settings =>
      have hsplit : ", ".toList.intercalate (a :: b :: settings) =
          a ++ ',' :: ' ' :: ", ".toList.intercalate (b :: settings) := by
        rw [List.intercalate_cons_cons, List.append_assoc]
        rfl
      rw [hsplit, Reference.constructs_append_cons rfl rfl (by decide),
        constructs_cons Reference.isWord_keyword rfl, ih, ← List.flatMap_cons]

/-- With the settings of a line in another order a text has the same references in another order. -/
theorem Reference.perm_constructs_settingLine {settings settings' : List (List Char)}
    (hperm : settings.Perm settings') (name type p s : List Char) :
    (constructs Reference.keyword (Scan.orStay Reference.tail?)
      (p ++ (Column.settingLine name type settings ++ s))).Perm
        (constructs Reference.keyword (Scan.orStay Reference.tail?)
          (p ++ (Column.settingLine name type settings' ++ s))) := by
  have hparts (settings : List (List Char)) : constructs keyword (Scan.orStay tail?)
      (p ++ (Column.settingLine name type settings ++ s)) =
        constructs keyword (Scan.orStay tail?) (p ++ (name ++ ' ' :: (type ++ [' ']))) ++
          (settings.flatMap (constructs keyword (Scan.orStay tail?)) ++
            constructs keyword (Scan.orStay tail?) s) := by
    have hsplit : p ++ (Column.settingLine name type settings ++ s) =
        (p ++ (name ++ ' ' :: (type ++ [' ']))) ++ '[' ::
          (", ".toList.intercalate settings ++ ']' :: s) := by
      simp [Column.settingLine]
    rw [hsplit, constructs_append_cons rfl rfl (by decide),
      constructs_append_cons rfl rfl (by decide), constructs_intercalate]
  rw [hparts, hparts]
  exact ((hperm.flatMap_right _).append_right _).append_left _

/-! ## The text with the line -/

/-- The settings in a list are told apart, and with the list in another order the line of a column
declares the same column, whatever comes behind it. In the body of a table the column is found in
the schema of the whole text. There the tables and their flags are the same with the list in either
order, and of the relationships at most the order changes. -/
theorem Column.settingLine_of_perm {name type : List Char} (hname : IsIdentifier name)
    (htype : IsIdentifier type) {settings settings' : List (List Char)}
    (h : Setting.Orderless settings) (hperm : settings.Perm settings') (place : LinePlace) :
    Setting.split (", ".toList.intercalate settings) =
        (settings.map Text.trim).filter (· ≠ []) ∧
      (∃ c : Column, c.name = String.ofList name ∧ c.type = String.ofList (Text.lower type) ∧
        (∀ s, ofLine? (settingLine name type settings ++ s) = some c ∧
          ofLine? (settingLine name type settings' ++ s) = some c) ∧
        ∃ t ∈ (place.schema (settingLine name type settings)).tables, c ∈ t.unflagged.columns) ∧
      (place.schema (settingLine name type settings)).tables =
        (place.schema (settingLine name type settings')).tables ∧
      (place.schema (settingLine name type settings)).relationships.Perm
        (place.schema (settingLine name type settings')).relationships := by
  have hlines := interchangeable_settingLine hname htype h hperm
  have hsplit (settings : List (List Char)) : place.text (settingLine name type settings) =
      (place.before ++ (place.front.text ++ (place.above ++ place.indent))) ++
        (settingLine name type settings ++ (place.below ++ '}' :: place.behind)) := by
    simp [LinePlace.text, LinePlace.block, LinePlace.body]
  have hreferences : (Schema.declaredBy
      (place.text (settingLine name type settings))).relationships.Perm
        (Schema.declaredBy (place.text (settingLine name type settings'))).relationships := by
    rw [hsplit, hsplit]
    exact Reference.perm_constructs_settingLine hperm name type _ _
  have hline := ofLine?_settingLine hname htype h.within
  let plain : Column := { name := String.ofList name, type := String.ofList (Text.lower type) }
  let list := ", ".toList.intercalate settings
  exact ⟨Setting.split_of_balanced h.balanced,
    ⟨plain.applySettings list, plain.name_applySettings list, plain.type_applySettings list,
      fun s => ⟨hline s, (hlines.same s).symm.trans (hline s)⟩,
      place.exists_mem_schema hlines.within hline⟩,
    place.schema_congr hlines hreferences⟩

/-- Settings of all kinds. There are commas, colons, quotes and a reference in quotes, and one
setting that is not known begins like a table. -/
def mixedSettings : List (List Char) :=
  ["Note: 'Ref: t.id > a.x, pk: \"5\"'".toList, " NOT  NULL ".toList,
    "default: \x60a,b\x60".toList, [], "Table u \x7b".toList]

/-- The place of a line in a block inside another one that is left open. -/
def openPlace : LinePlace where
  before := "Table open \x7b\n".toList
  front := plainFront ['t'] (isIdentifier_of_all rfl)
  above := ['\n']
  indent := [' ', ' ']
  below := " // more\n".toList
  behind := "\nRef: t.id > open.id".toList
  begins := rfl
  isBlank_indent := by simp [isBlank]
  break_not_mem_indent := by decide
  brace_not_mem_above := by decide
  brace_not_mem_below := by decide
  alone := .inl rfl

/-- The settings are told apart and can be listed backwards. -/
theorem Column.settingLine_of_perm_backwards :
    Setting.Orderless mixedSettings ∧
      Setting.split (", ".toList.intercalate mixedSettings) =
        ["Note: 'Ref: t.id > a.x, pk: \"5\"'".toList, "NOT  NULL".toList,
          "default: \x60a,b\x60".toList, "Table u \x7b".toList] ∧
      (openPlace.schema (settingLine "id".toList "INT".toList mixedSettings)).tables =
        (openPlace.schema (settingLine "id".toList "INT".toList mixedSettings.reverse)).tables := by
  have hplain (text : String) (h : text.toList.all Setting.isPlain = true) :
      Setting.Balanced text.toList := (Setting.balanced_of_plain h).1
  have hbalanced : ∀ s ∈ mixedSettings, Setting.Balanced s := by
    have hnote : Setting.Balanced ("Note: ".toList ++
        '\'' :: ("Ref: t.id > a.x, pk: \"5\"".toList ++ '\'' :: [])) :=
      (hplain "Note: " (by decide)).append (.quoted (by decide) (by decide) .nil)
    have hdefault : Setting.Balanced
        ("default: ".toList ++ '\x60' :: ("a,b".toList ++ '\x60' :: [])) :=
      (hplain "default: " (by decide)).append (.quoted (by decide) (by decide) .nil)
    intro s hs
    simp only [mixedSettings, List.mem_cons, List.not_mem_nil, or_false] at hs
    rcases hs with rfl | rfl | rfl | rfl | rfl
    · exact hnote
    · exact hplain _ (by decide)
    · exact hdefault
    · exact .nil
    · exact hplain _ (by decide)
  have hwithin : mixedSettings.all (·.all (!isClosing ·)) = true := by decide +kernel
  have horderless : Setting.Orderless mixedSettings := by
    refine ⟨hbalanced, fun s hs => within_of_all (List.all_eq_true.1 hwithin s hs), ?_⟩
    decide +kernel
  have hname : IsIdentifier "id".toList := isIdentifier_of_all rfl
  have htype : IsIdentifier "INT".toList := isIdentifier_of_all rfl
  obtain ⟨hsplit, -, htables, -⟩ := settingLine_of_perm hname htype horderless
    (List.reverse_perm mixedSettings).symm openPlace
  exact ⟨horderless, hsplit.trans (by decide +kernel), htables⟩

end SchemaDiagram
