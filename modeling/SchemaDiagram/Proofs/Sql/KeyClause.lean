import SchemaDiagram.Proofs.Sql.Script

/-!
# Clauses for foreign keys

The clause for a foreign key (`foreignClause`) lists the columns that refer, and behind a table the
columns that they refer to. It stands among the definitions of a table, or behind the name of the
constraint that a statement adds to one (`addedConstraint`). All of the key is read back
(`foreignKeyTail_append`), and it is the only construct of the clause: a search for anything else
passes over it (`TwoWords.constructs_foreignClause`).
-/

namespace SchemaDiagram.Sql

open Character

/-- The foreign keys that can be written. -/
structure ForeignKey.Writable (k : ForeignKey) : Prop where
  /-- There are columns that refer. -/
  columns_ne_nil : k.columns ≠ []
  /-- Their names are identifiers. -/
  columns : ∀ name ∈ k.columns, IsIdentifier name
  /-- So is the name of the table that they refer to. -/
  target : IsIdentifier k.target
  /-- There are columns that they refer to. -/
  targetColumns_ne_nil : k.targetColumns ≠ []
  /-- The names of those are identifiers, too. -/
  targetColumns : ∀ name ∈ k.targetColumns, IsIdentifier name

/-- The table and the columns that a foreign key refers to. -/
def targetList (d : Dialect) (table : List Char) (columns : List (List Char)) : List Char :=
  d.quote table ++ (" (".toList ++ (commaSeparated (columns.map d.quote) ++ [')']))

/-- The clause for a foreign key behind its first word. -/
def foreignClauseTail (d : Dialect) (k : ForeignKey) : List Char :=
  " KEY (".toList ++ (commaSeparated (k.columns.map d.quote) ++
    (")\n  REFERENCES ".toList ++ targetList d k.target k.targetColumns))

/-- The clause for a foreign key. -/
def foreignClause (d : Dialect) (k : ForeignKey) : List Char :=
  "  FOREIGN".toList ++ foreignClauseTail d k

/-- The constraint of the given name that a statement adds to a table, behind the name of that. -/
def addedConstraint (d : Dialect) (name : List Char) (k : ForeignKey) : List Char :=
  "\n  ADD CONSTRAINT ".toList ++ (d.quote name ++ '\n' :: foreignClause d k)

/-- The foreign key of a relationship. -/
def foreignKeyOf (r : Relationship) : ForeignKey :=
  ⟨[r.endpoints.source.column.toList], r.endpoints.target.table.toList,
    [r.endpoints.target.column.toList]⟩

/-- The foreign key of a relationship can be written. -/
theorem writable_foreignKeyOf {r : Relationship} (hr : PortableRelationship r) :
    (foreignKeyOf r).Writable :=
  ⟨List.cons_ne_nil _ _, List.forall_mem_singleton.2 hr.sourceColumn, hr.targetTable,
    List.cons_ne_nil _ _, List.forall_mem_singleton.2 hr.targetColumn⟩

/-- The constraint of a relationship is one for its foreign key. -/
theorem bareConstraint_eq (d : Dialect) (r : Relationship) :
    bareConstraint d r = addedConstraint d (constraintName r) (foreignKeyOf r) := by
  have hadd : "\n  ADD CONSTRAINT ".toList = '\n' :: "  ADD CONSTRAINT ".toList := rfl
  have hforeign : "  FOREIGN KEY (".toList = "  FOREIGN".toList ++ " KEY (".toList := rfl
  have hreferences : ")\n  REFERENCES ".toList = ')' :: '\n' :: "  REFERENCES ".toList := rfl
  unfold bareConstraint addedConstraint foreignClause foreignClauseTail targetList
  simp only [foreignKeyOf, List.map_cons, List.map_nil, commaSeparated_singleton, hadd, hforeign,
    hreferences, List.append_assoc, List.cons_append]

variable {d : Dialect} {k : ForeignKey} {s : List Char}

/-! ## Reading a clause -/

/-- The table and the columns that a foreign key refers to are read back. -/
theorem referenceTarget_append {table : List Char} {columns : List (List Char)}
    (htable : IsIdentifier table) (hne : columns ≠ [])
    (hcolumns : ∀ name ∈ columns, IsIdentifier name) (d : Dialect) (s : List Char) :
    ForeignKey.referenceTarget.on (' ' :: (targetList d table columns ++ s)) =
      (some (table, columns), s) := by
  let list := '(' :: (commaSeparated (columns.map d.quote) ++ ')' :: s)
  have hsplit : targetList d table columns ++ s = d.quote table ++ ' ' :: list := by
    unfold targetList
    simp only [List.append_assoc]
    rfl
  have hskip : Reader.blanks.on (' ' :: (d.quote table ++ ' ' :: list)) =
      (some (), d.quote table ++ ' ' :: list) := by
    rw [Reader.on_blanks, Scan.skipBlanks_cons rfl, skipBlanks_quote]
  have hname : tableName.on (d.quote table ++ ' ' :: list) = (some table, ' ' :: list) :=
    tableName_quote htable (by simp)
  have hspace : Reader.blanks.on (' ' :: list) = (some (), list) := rfl
  have hlist : identList.on list = (some columns, s) := identList_quote hne hcolumns
  unfold ForeignKey.referenceTarget
  rw [hsplit, Reader.on_bind_of_some hskip, Reader.on_bind_of_some hname,
    Reader.on_bind_of_some hspace, Reader.on_bind_of_some hlist]
  rfl

/-- A foreign key is read back behind the first word of its clause. -/
theorem foreignKeyTail_append (hk : k.Writable) (d : Dialect) (s : List Char) :
    ForeignKey.tail.on (foreignClauseTail d k ++ s) = (some k, s) := by
  let target := targetList d k.target k.targetColumns ++ s
  let references := "REFERENCES".toList ++ ' ' :: target
  let columns := '(' :: (commaSeparated (k.columns.map d.quote) ++
    ')' :: '\n' :: ' ' :: ' ' :: references)
  -- The words, the two lists and the name are read one behind the other.
  have hsplit : foreignClauseTail d k ++ s = " KEY ".toList ++ columns := by
    unfold foreignClauseTail
    simp only [List.append_assoc]
    rfl
  have hstart : Reader.blanks.on (" KEY ".toList ++ columns) =
      (some (), "KEY".toList ++ ' ' :: columns) := rfl
  have hkey : (Reader.keyword "key").on ("KEY".toList ++ ' ' :: columns) =
      (some (), ' ' :: columns) := Reader.on_keyword (by decide) (stops_cons.2 rfl)
  have hcolumns : Reader.blanks.on (' ' :: columns) = (some (), columns) := rfl
  have hlist : identList.on columns = (some k.columns, '\n' :: ' ' :: ' ' :: references) :=
    identList_quote hk.columns_ne_nil hk.columns
  have hblanks : Reader.blanks.on ('\n' :: ' ' :: ' ' :: references) = (some (), references) := rfl
  have hreferences : (Reader.keyword "references").on references = (some (), ' ' :: target) :=
    Reader.on_keyword (by decide) (stops_cons.2 rfl)
  have htarget : ForeignKey.referenceTarget.on (' ' :: target) =
      (some (k.target, k.targetColumns), s) :=
    referenceTarget_append hk.target hk.targetColumns_ne_nil hk.targetColumns d s
  unfold ForeignKey.tail
  rw [hsplit, Reader.on_bind_of_some hstart, Reader.on_bind_of_some hkey,
    Reader.on_bind_of_some hcolumns, Reader.on_bind_of_some hlist, Reader.on_bind_of_some hblanks,
    Reader.on_bind_of_some hreferences, Reader.on_bind_of_some htarget]
  rfl

/-! ## Looking for constructs in a clause -/

section constructs

variable {α : Type} {keyword : Keyword} {word : List Char}
  {reader : List Char → Option α × List Char}

/-- A text whose words are not the first word of a construct adds none. -/
theorem TwoWords.constructs_words (h : TwoWords keyword word reader) {p : List Char}
    (words : List String) (hp : identifiers p = words.map String.toList)
    (hlast : p.getLast?.any isIdent = false)
    (hwords : ∀ w ∈ words, Text.sameLetters w.toList keyword.letters = false) (s : List Char) :
    constructs keyword reader (p ++ s) = constructs keyword reader s := by
  refine constructs_append h.first (fun w hw => ?_) (Breaks.of_last hlast)
  rw [hp] at hw
  obtain ⟨word, hword, rfl⟩ := List.mem_map.1 hw
  exact hwords word hword

/-- The table and the columns that a foreign key refers to add no construct. -/
theorem TwoWords.constructs_targetList (h : TwoWords keyword word reader) {table : List Char}
    {columns : List (List Char)} (htable : IsIdentifier table)
    (hcolumns : ∀ name ∈ columns, IsIdentifier name) (d : Dialect) (s : List Char) :
    constructs keyword reader (targetList d table columns ++ s) =
      constructs keyword reader s := by
  unfold targetList
  simp only [List.append_assoc]
  rw [h.constructs_quote htable, h.constructs_words [] (by decide +kernel) rfl (by simp),
    h.constructs_commaSeparated hcolumns]
  exact constructs_cons h.first rfl

/-- A clause for a foreign key adds no construct that does not begin with one of its words. -/
theorem TwoWords.constructs_foreignClause (h : TwoWords keyword word reader) (hk : k.Writable)
    (hwords : ∀ w ∈ ["FOREIGN", "KEY", "REFERENCES"],
      Text.sameLetters w.toList keyword.letters = false) (d : Dialect) (s : List Char) :
    constructs keyword reader (foreignClause d k ++ s) = constructs keyword reader s := by
  have hhead : "  FOREIGN".toList ++ " KEY (".toList = "  FOREIGN KEY (".toList := rfl
  unfold foreignClause foreignClauseTail
  rw [← List.append_assoc "  FOREIGN".toList, hhead]
  simp only [List.append_assoc]
  rw [h.constructs_words ["FOREIGN", "KEY"] (by decide +kernel) rfl fun w hw =>
      hwords w (List.mem_of_mem_take (i := 2) hw),
    h.constructs_commaSeparated hk.columns,
    h.constructs_words ["REFERENCES"] (by decide +kernel) rfl fun w hw =>
      hwords w (List.mem_of_mem_drop (i := 2) hw),
    h.constructs_targetList hk.target hk.targetColumns]

/-- In front of its clause the constraint that a statement adds has no constructs. -/
theorem TwoWords.constructs_addedConstraint (h : TwoWords keyword word reader) {name : List Char}
    (hname : IsIdentifier name) (hwords : ∀ w ∈ ["ADD", "CONSTRAINT"],
      Text.sameLetters w.toList keyword.letters = false) (d : Dialect) (k : ForeignKey)
    (s : List Char) :
    constructs keyword reader (addedConstraint d name k ++ s) =
      constructs keyword reader (foreignClause d k ++ s) := by
  unfold addedConstraint
  rw [List.append_assoc, h.constructs_words ["ADD", "CONSTRAINT"] (by decide +kernel) rfl
    hwords, List.append_assoc, h.constructs_quote hname, List.cons_append,
    constructs_cons h.first rfl]

end constructs

/-- The foreign key of a clause is the only one in it. -/
theorem constructs_foreign_foreignClause (hk : k.Writable) (d : Dialect) (s : List Char) :
    constructs ForeignKey.keyword ForeignKey.tail.on (foreignClause d k ++ s) =
      k :: constructs ForeignKey.keyword ForeignKey.tail.on s := by
  have h := twoWords_foreign
  -- It is behind the only word `FOREIGN` that the word `KEY` follows.
  have hlast : (foreignClauseTail d k).getLast?.any isIdent = false := by
    unfold foreignClauseTail targetList
    simp only [← List.append_assoc]
    rw [List.getLast?_concat]
    rfl
  have hself := constructs_self h.first (w := "FOREIGN".toList) (by decide) (stops_cons.2 rfl)
    (foreignKeyTail_append hk d s) (Breaks.of_last hlast)
  show constructs _ _ (' ' :: ' ' :: ("FOREIGN".toList ++ foreignClauseTail d k ++ s)) = _
  rw [constructs_cons h.first rfl, constructs_cons h.first rfl, List.append_assoc, hself]
  rfl

/-! ## The characters of a clause -/

/-- The constraint that a statement adds begins on a new line. -/
theorem head?_addedConstraint (d : Dialect) (name : List Char) (k : ForeignKey) :
    (addedConstraint d name k).head? = some '\n' := rfl

/-- The table and the columns that a foreign key refers to are plain. -/
theorem plain_targetList {table : List Char} {columns : List (List Char)}
    (htable : IsIdentifier table) (hcolumns : ∀ name ∈ columns, IsIdentifier name) (d : Dialect) :
    Plain (targetList d table columns) :=
  (plain_quote d htable).append ((Plain.of_all rfl).append
    ((plain_commaSeparated d hcolumns).append (Plain.of_all rfl)))

/-- The clause for a foreign key is plain. -/
theorem plain_foreignClause (hk : k.Writable) (d : Dialect) : Plain (foreignClause d k) := by
  have hreferences : Plain (")\n  REFERENCES ".toList ++ targetList d k.target k.targetColumns) :=
    (Plain.of_all rfl).append (plain_targetList hk.target hk.targetColumns d)
  exact (Plain.of_all rfl).append ((Plain.of_all rfl).append
    ((plain_commaSeparated d hk.columns).append hreferences))

/-- The constraint that a statement adds is plain. -/
theorem plain_addedConstraint {name : List Char} (hname : IsIdentifier name) (hk : k.Writable)
    (d : Dialect) : Plain (addedConstraint d name k) :=
  (Plain.of_all rfl).append
    ((plain_quote d hname).append (Plain.cons rfl (plain_foreignClause hk d)))

/-- A semicolon is not in the table and the columns that a foreign key refers to. -/
theorem semicolon_not_mem_targetList {table : List Char} {columns : List (List Char)}
    (htable : IsIdentifier table) (hcolumns : ∀ name ∈ columns, IsIdentifier name) (d : Dialect) :
    ';' ∉ targetList d table columns := by
  unfold targetList
  simp only [List.mem_append, not_or]
  exact ⟨not_mem_quote htable rfl (by decide), by decide,
    not_mem_commaSeparated_quote hcolumns rfl (by decide), by decide⟩

/-- A semicolon is not in the clause for a foreign key. -/
theorem semicolon_not_mem_foreignClause (hk : k.Writable) (d : Dialect) :
    ';' ∉ foreignClause d k := by
  unfold foreignClause foreignClauseTail
  simp only [List.mem_append, not_or]
  exact ⟨by decide, by decide, not_mem_commaSeparated_quote hk.columns rfl (by decide), by decide,
    semicolon_not_mem_targetList hk.target hk.targetColumns d⟩

/-- A semicolon is not in the constraint that a statement adds. -/
theorem semicolon_not_mem_addedConstraint {name : List Char} (hname : IsIdentifier name)
    (hk : k.Writable) (d : Dialect) : ';' ∉ addedConstraint d name k := by
  unfold addedConstraint
  simp only [List.mem_append, List.mem_cons, not_or]
  exact ⟨by decide, not_mem_quote hname rfl (by decide), by decide,
    semicolon_not_mem_foreignClause hk d⟩

end SchemaDiagram.Sql
