import SchemaDiagram.Proofs.Schema.Outline
import SchemaDiagram.Proofs.Sql.Reader

/-!
# The names in the schema of a script

All that the readers of SQL take for a name is an identifier (`Reader.Yields`), in quotes or not,
and a type is the lower case of one, or a canonical name. So whatever a script defines can be
written in schema text as far as names and types go (`lineSafe_schemaOf`); only its defaults can be
anything.
-/

namespace SchemaDiagram

open Character

namespace Sql

/-! ## What readers yield -/

namespace Reader

variable {α β : Type} {r : Reader α} {f : α → Reader β} {P : α → Prop} {Q : β → Prop}

/-- Whatever the reader finds in any text satisfies `P`. -/
def Yields (r : Reader α) (P : α → Prop) : Prop :=
  ∀ s v, (r.on s).1 = some v → P v

/-- What is found by a reader behind another one. -/
theorem Yields.bind (hr : r.Yields P) (hf : ∀ v, P v → (f v).Yields Q) : (r >>= f).Yields Q := by
  intro s v h
  rw [on_bind] at h
  split at h
  · next a t hon =>
    have ha : P a := hr s a (by rw [hon])
    exact hf a ha t v h
  · cases h

/-- A reader that finds what it is given. -/
theorem Yields.pure {v : α} (h : P v) : (pure v : Reader α).Yields P := by
  intro s w hw
  exact Option.some.inj hw ▸ h

/-- Nothing is said of what a reader finds. -/
theorem Yields.trivial (r : Reader α) : r.Yields fun _ => True :=
  fun _ _ _ => True.intro

end Reader

open Reader

/-- A name is an identifier. -/
theorem yields_ident : ident.Yields IsIdentifier := by
  intro s v h
  have hon : (ident.on s).1 = (Scan.ident? (dropOne isOpeningQuote s)).map Prod.fst := by
    show (ident s).1 = _
    unfold ident
    simp only
    cases Scan.ident? (dropOne isOpeningQuote s) <;> rfl
  rw [hon] at h
  obtain ⟨found, hfound, rfl⟩ := Option.map_eq_some_iff.1 h
  exact Scan.isIdentifier_of_ident? hfound

/-- The last of the identifiers between points is found by going from point to point. -/
theorem lastOfDotted_eq (s : List Char) :
    lastOfDotted s = match ident.on s with
      | (none, rest) => (none, rest)
      | (some name, rest) => match Scan.char? '.' rest with
        | some rest' => lastOfDotted rest'
        | none => (some name, rest) := by
  rw [lastOfDotted]
  split
  · next rest h => rw [h]
  · next name rest h =>
    split
    · next rest' h' => simp only [h, h']
    · next h' => simp only [h, h']

/-- The name of a table is an identifier. -/
theorem yields_tableName : tableName.Yields IsIdentifier := by
  intro s v h
  have hlast : (lastOfDotted s).1 = some v := h
  clear h
  -- By induction on the points: the name is found behind the last one.
  fun_induction lastOfDotted s with
  | case1 s rest hident => cases hlast
  | case2 s name rest hident rest' hpoint _ ih => exact ih hlast
  | case3 s name rest hident hpoint =>
    cases hlast
    exact yields_ident s v (by rw [hident])

/-- The names of a list are identifiers. -/
theorem yields_identList : identList.Yields fun names => ∀ w ∈ names, IsIdentifier w := by
  refine (Yields.trivial _).bind fun _ _ => (Yields.trivial _).bind fun inner _ => ?_
  refine Yields.pure fun w hw => ?_
  obtain ⟨part, -, hpart⟩ := List.mem_filterMap.1 hw
  exact yields_ident _ w hpart

/-- The names of the columns that are referred to are identifiers, and so is that of their table. -/
theorem yields_referenceTarget : ForeignKey.referenceTarget.Yields fun target =>
    IsIdentifier target.1 ∧ ∀ w ∈ target.2, IsIdentifier w := by
  refine (Yields.trivial _).bind fun _ _ => yields_tableName.bind fun table htable => ?_
  refine (Yields.trivial _).bind fun _ _ => yields_identList.bind fun columns hcolumns => ?_
  exact Yields.pure ⟨htable, hcolumns⟩

/-- The names in a clause for foreign keys are identifiers. -/
structure ForeignKey.IdentifierNames (k : ForeignKey) : Prop where
  /-- The columns that refer have identifiers for names. -/
  columns : ∀ w ∈ k.columns, IsIdentifier w
  /-- The table that they refer to has one. -/
  target : IsIdentifier k.target
  /-- The columns that they refer to have them, too. -/
  targetColumns : ∀ w ∈ k.targetColumns, IsIdentifier w

/-- The names in a clause that is read are identifiers. -/
theorem yields_foreignKeyTail : ForeignKey.tail.Yields ForeignKey.IdentifierNames := by
  refine (Yields.trivial _).bind fun _ _ => (Yields.trivial _).bind fun _ _ => ?_
  refine (Yields.trivial _).bind fun _ _ => yields_identList.bind fun columns hcolumns => ?_
  refine (Yields.trivial _).bind fun _ _ => (Yields.trivial _).bind fun _ _ => ?_
  refine yields_referenceTarget.bind fun target htarget => ?_
  exact Yields.pure ⟨hcolumns, htarget.1, htarget.2⟩

/-- The table that is altered has an identifier for a name. -/
theorem yields_alterTail : alterTail.Yields fun altered => IsIdentifier altered.1 := by
  refine (Yields.trivial _).bind fun _ _ => (Yields.trivial _).bind fun _ _ => ?_
  refine (Yields.trivial _).bind fun _ _ => (Yields.trivial _).bind fun _ _ => ?_
  refine yields_tableName.bind fun table htable => (Yields.trivial _).bind fun statement _ => ?_
  exact Yields.pure htable

/-- The table that is created has an identifier for a name. -/
theorem yields_createTail : CreateTable.tail.Yields fun t => IsIdentifier t.name := by
  refine (Yields.trivial _).bind fun _ _ => (Yields.trivial _).bind fun _ _ => ?_
  refine (Yields.trivial _).bind fun _ _ => (Yields.trivial _).bind fun _ _ => ?_
  refine yields_tableName.bind fun name hname => (Yields.trivial _).bind fun _ _ => ?_
  refine (Yields.trivial _).bind fun _ _ => (Yields.trivial _).bind fun body _ => ?_
  exact Yields.pure hname

/-! ## Relationships -/

/-- The relationship between two columns whose names are identifiers can be written. -/
theorem textSafe_manyToOne {source target : ColumnRef}
    (hsource : IsIdentifier source.table.toList ∧ IsIdentifier source.column.toList)
    (htarget : IsIdentifier target.table.toList ∧ IsIdentifier target.column.toList) :
    TextSafeRelationship (manyToOne source target) :=
  ⟨hsource.1, hsource.2, htarget.1, htarget.2⟩

/-- A name that is an identifier stays one as a string. -/
theorem isIdentifier_ofList {w : List Char} (h : IsIdentifier w) :
    IsIdentifier (String.ofList w).toList := by
  rwa [String.toList_ofList]

/-- The foreign keys of a table can be written if its name is an identifier. -/
theorem textSafe_foreignKeys {table : List Char} (htable : IsIdentifier table) (s : List Char) :
    ∀ r ∈ foreignKeys table s, TextSafeRelationship r := by
  intro r hr
  obtain ⟨k, hk, hmem⟩ := List.mem_flatMap.1 hr
  obtain ⟨t, ht⟩ := exists_of_mem_constructs hk
  obtain ⟨hcolumns, htarget, htargetColumns⟩ := yields_foreignKeyTail t k ht
  obtain ⟨⟨column, targetColumn⟩, hpair, rfl⟩ := List.mem_map.1 hmem
  obtain ⟨hcolumn, htargetColumn⟩ := List.of_mem_zip hpair
  exact textSafe_manyToOne
    ⟨isIdentifier_ofList htable, isIdentifier_ofList (hcolumns _ hcolumn)⟩
    ⟨isIdentifier_ofList htarget, isIdentifier_ofList (htargetColumns _ htargetColumn)⟩

/-- The foreign keys of altered tables can be written. -/
theorem textSafe_alteredForeignKeys (script : List Char) :
    ∀ r ∈ alteredForeignKeys script, TextSafeRelationship r := by
  intro r hr
  obtain ⟨o, ho, hmem⟩ := List.mem_flatMap.1 hr
  obtain ⟨t, ht⟩ := exists_of_mem_constructs (List.mem_map_of_mem ho)
  exact textSafe_foreignKeys (yields_alterTail t o.value ht) _ r hmem

/-! ## Columns -/

/-- The canonical name of a type that is an identifier. -/
theorem canonicalType_identifier {type : List Char} (h : IsIdentifier type) :
    ∃ x rest, canonicalType type = x :: rest ∧ isIdent x = true ∧
      ∀ y ∈ rest, isIdent y = true ∨ y = combiningDot := by
  obtain ⟨x, rest, hlower, hx, hrest⟩ := Text.lower_identifier h.1 h.2
  have hall : ∀ y ∈ x :: rest, y ≠ '(' ∧ isBlank y = false := by
    intro y hy
    have hy' : isIdent y = true ∨ y = combiningDot := by
      rcases List.mem_cons.1 hy with rfl | hy
      · exact .inl hx
      · exact hrest y hy
    rcases hy' with hident | rfl
    · exact ⟨ne_of_isIdent hident rfl, isBlank_of_isIdent hident⟩
    · exact ⟨by decide, by decide⟩
  have hbase : Text.trim ((Text.lower type).takeWhile (· != '(')) = x :: rest := by
    have htake : (x :: rest).takeWhile (· != '(') = x :: rest :=
      List.takeWhile_eq_self_iff.2 fun y hy => bne_iff_ne.2 (hall y hy).1
    rw [hlower, htake]
    refine Text.trim_of_ends (hall x List.mem_cons_self).2 ?_
    rw [List.getLast?_eq_some_getLast (List.cons_ne_nil x rest)]
    exact (hall _ (List.getLast_mem _)).2
  unfold canonicalType
  rw [hbase]
  simp only
  split
  · next canonical types hfind =>
    -- The canonical names are identifiers.
    have hcanonical : ∀ entry ∈ canonicalTypes,
        (!entry.1.toList.isEmpty && entry.1.toList.all isIdent) = true := by decide +kernel
    have hident := isIdentifier_of_all (hcanonical _ (List.mem_of_find?_eq_some hfind))
    obtain ⟨y, name, hname⟩ := List.exists_cons_of_ne_nil hident.1
    refine ⟨y, name, hname, hident.2 y (hname ▸ List.mem_cons_self), fun z hz => ?_⟩
    exact .inl (hident.2 z (hname ▸ List.mem_cons_of_mem _ hz))
  · exact ⟨x, rest, rfl, hx, hrest⟩

/-- The column of a definition is read back but for its default, and what it refers to has
identifiers for names. -/
theorem lineSafe_columnDefinition? {s : List Char} {c : Column} {target : Option ColumnRef}
    (h : columnDefinition? s = some (c, target)) : LineSafeColumn c ∧
      ∀ r ∈ target, IsIdentifier r.table.toList ∧ IsIdentifier r.column.toList := by
  unfold columnDefinition? at h
  simp only [Option.bind_eq_bind, Option.bind_eq_some_iff] at h
  obtain ⟨name, hname, blanks, -, ⟨type, rest⟩, htype, heq⟩ := h
  cases heq
  constructor
  · constructor
    · exact isIdentifier_ofList (yields_ident _ _ hname)
    · show ∃ x rest, (String.ofList (canonicalType type)).toList = x :: rest ∧ _
      rw [String.toList_ofList]
      exact canonicalType_identifier (Scan.isIdentifier_of_ident? htype)
    · rfl
  · intro r hr
    unfold referenceOf? at hr
    simp only [Option.mem_def, Option.bind_eq_bind, Option.bind_eq_some_iff] at hr
    obtain ⟨⟨place, behind⟩, -, ⟨table, columns⟩, hread, column, hcolumn, heq⟩ := hr
    cases heq
    obtain ⟨htable, hcolumns⟩ := yields_referenceTarget _ _ hread
    exact ⟨isIdentifier_ofList htable,
      isIdentifier_ofList (hcolumns column (List.mem_of_mem_head? hcolumn))⟩

/-! ## The schema of a script -/

/-- The columns of a statement that is read are read back but for their defaults. -/
theorem lineSafe_table (t : CreateTable) : ∀ c ∈ t.table.columns, LineSafeColumn c := by
  have hcolumns : ∀ c ∈ t.columns.map Prod.fst, LineSafeColumn c := by
    intro c hc
    obtain ⟨entry, hentry, rfl⟩ := List.mem_map.1 hc
    obtain ⟨piece, -, hpiece⟩ := List.mem_filterMap.1 hentry
    exact (lineSafe_columnDefinition? hpiece).1
  have hmark (keys : List (List Char)) (columns : List Column)
      (hcolumns : ∀ c ∈ columns, LineSafeColumn c) :
      ∀ c ∈ keys.foldl CreateTable.markPrimaryKey columns, LineSafeColumn c := by
    induction keys generalizing columns with
    | nil => exact hcolumns
    | cons key keys ih =>
      exact ih _ (forall_mem_updateFirst (fun c hc => ⟨hc.name, hc.type, hc.note⟩) hcolumns)
  exact hmark _ _ hcolumns

/-- The relationships of a statement can be written if the name of its table is an identifier. -/
theorem textSafe_relationships {t : CreateTable} (hname : IsIdentifier t.name) :
    ∀ r ∈ t.relationships, TextSafeRelationship r := by
  intro r hr
  rcases List.mem_append.1 hr with hcolumn | hconstraint
  · obtain ⟨⟨c, target⟩, hmem, heq⟩ := List.mem_filterMap.1 hcolumn
    obtain ⟨piece, -, hpiece⟩ := List.mem_filterMap.1 hmem
    obtain ⟨hc, htarget⟩ := lineSafe_columnDefinition? hpiece
    obtain ⟨target', rfl, rfl⟩ := Option.map_eq_some_iff.1 heq
    exact textSafe_manyToOne ⟨isIdentifier_ofList hname, hc.name⟩ (htarget target' rfl)
  · exact textSafe_foreignKeys hname _ r hconstraint

/-- The names and types in the schema of a script are read back. -/
theorem lineSafe_schemaOf (script : List Char) : LineSafeSchema (schemaOf script) := by
  have hname : ∀ t ∈ CreateTable.findAll script, IsIdentifier t.name := by
    intro t ht
    obtain ⟨s, rest, hread⟩ := exists_of_mem_constructs_orStay ht
    unfold CreateTable.tail? at hread
    split at hread
    · next statement rest' hon =>
      cases hread
      exact yields_createTail s t (by rw [hon])
    · cases hread
  refine LineSafeSchema.markForeignKeys ⟨fun t ht => ?_, fun t ht => ?_, fun r hr => ?_⟩
  · obtain ⟨statement, hstatement, rfl⟩ := List.mem_map.1 (List.mem_filter.1 ht).1
    exact isIdentifier_ofList (hname statement hstatement)
  · obtain ⟨statement, -, rfl⟩ := List.mem_map.1 (List.mem_filter.1 ht).1
    exact lineSafe_table statement
  · rcases List.mem_append.1 hr with hcreated | haltered
    · obtain ⟨statement, hstatement, hmem⟩ := List.mem_flatMap.1 hcreated
      exact textSafe_relationships (hname statement hstatement) r hmem
    · exact textSafe_alteredForeignKeys script r haltered

end Sql

end SchemaDiagram
