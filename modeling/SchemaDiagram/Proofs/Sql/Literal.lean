import SchemaDiagram.Proofs.Sql.Confined
import SchemaDiagram.Proofs.Sql.Statement

/-!
# What a literal in the body of a table does

The content of a literal is inert if it does not close the literal, divide a body, end a statement or
spell one of the phrases that statements and clauses begin with (`InertContent`). In the body of a
table the readers of columns blank literals, and those of keys and foreign keys pass over what is
inert. So what a body defines apart from defaults does not depend on an inert content
(`withoutDefaults_literal`), if the literal stands in a place where all readers are outside quotes
and lists (`LiteralPlace`).
-/

namespace SchemaDiagram

open Character

namespace Sql

/-! ## Literals -/

/-- The literal with the given content. -/
def literal (content : List Char) : List Char :=
  '\'' :: (content ++ ['\''])

/-- A literal begins and ends with a quote. -/
theorem literal_append (u s : List Char) : literal u ++ s = '\'' :: (u ++ '\'' :: s) := by
  simp [literal]

/-- At a place of a text two words stand behind each other, with nothing but blanks between them. -/
def phraseAt (first second p s : List Char) : Bool :=
  !p.getLast?.any isIdent &&
    (Scan.keyword? first s).any fun rest => (Scan.keyword? second (Scan.skipBlanks rest)).isSome

/-- The phrases that statements and clauses begin with. -/
def phrases : List (List Char × List Char) :=
  [(CreateTable.keyword.letters, "table".toList), (alterKeyword.letters, "table".toList),
    (CreateTable.primaryKeyword.letters, "key".toList), (ForeignKey.keyword.letters, "key".toList)]

/-- What may stand between the quotes of a literal without being taken for anything else. -/
structure InertContent (u : List Char) : Prop where
  /-- It does not close the literal. -/
  quote : '\'' ∉ u
  /-- It does not divide the body of a table. -/
  comma : ',' ∉ u
  /-- It does not end a statement. -/
  semicolon : ';' ∉ u
  /-- None of the phrases stands in it. -/
  phrase : ∀ e ∈ phrases, ∀ p s, u = p ++ s → phraseAt e.1 e.2 p s = false

section TwoWords

variable {α : Type} {keyword : Keyword} {reader : List Char → Option α × List Char}
  {word u s : List Char}

/-- A word that is not ahead is not ahead either if a quote comes behind. -/
theorem NotAhead.append_quote (hword : IsWord word) (h : NotAhead word s) (x : List Char) :
    NotAhead word (s ++ '\'' :: x) := by
  have hskip : Scan.skipBlanks (s ++ '\'' :: x) = Scan.skipBlanks s ++ '\'' :: x :=
    (Scan.takeWhile_append_of_head? (s := '\'' :: x) rfl s).2
  unfold NotAhead at *
  rw [hskip, Scan.keyword?_append_of_stops hword (stops_quote x), h]
  rfl

/-- A literal in which the two words do not stand behind each other adds no construct. -/
theorem TwoWords.constructs_literal (h : TwoWords keyword word reader)
    (hu : ∀ p s, u = p ++ s → phraseAt keyword.letters word p s = false) (s : List Char) :
    constructs keyword reader (literal u ++ s) = constructs keyword reader s := by
  -- The content is followed piece by piece; no identifier runs into what is left of it.
  have hinside (p t : List Char) (hsplit : u = p ++ t) (hbreaks : Breaks p t) :
      constructs keyword reader (t ++ '\'' :: s) = constructs keyword reader s := by
    induction t using text_induction generalizing p with
    | nil => exact constructs_cons h.first rfl
    | cons c t hc ih =>
      rw [List.cons_append, constructs_cons h.first hc]
      exact ih (p ++ [c]) (by simpa using hsplit) fun hl => by simp [hc] at hl
    | word w t hw ht ih =>
      have hstops : Stops (t ++ '\'' :: s) := by cases t <;> assumption
      have hrest := ih (p ++ w) (by simpa using hsplit) (Breaks.of_stops ht)
      rw [List.append_assoc]
      cases hsame : Text.sameLetters w keyword.letters with
      | false => rw [constructs_word h.first hw.2 hstops hsame, hrest]
      | true =>
        have hphrase := hu p (w ++ t) hsplit
        unfold phraseAt at hphrase
        rw [hbreaks.front hw, Scan.keyword?_append hsame ht] at hphrase
        have hnext : NotAhead word t := by simpa [NotAhead] using hphrase
        rw [h.constructs_identifier hw.2 hstops (hnext.append_quote h.second _), hrest]
  rw [literal_append, constructs_cons h.first rfl]
  exact hinside [] u rfl Breaks.nil

end TwoWords

/-! ## Columns -/

/-- A column and what it refers to, without the default of the column. -/
def eraseDefault (e : Column × Option ColumnRef) : Column × Option ColumnRef :=
  (e.1.withoutDefault, e.2)

/-- What blanking leaves of two parts, the first of which has an even number of quotes, is what it
leaves of each. -/
theorem blankQuoted_append_of_even {p : List Char} (hp : Even (p.count '\'')) (s : List Char) :
    blankQuoted false (p ++ s) = blankQuoted false p ++ blankQuoted false s := by
  have hall (inQuotes : Bool) (p : List Char) : blankQuoted inQuotes (p ++ s) =
      blankQuoted inQuotes p ++
        blankQuoted (if Even (p.count '\'') then inQuotes else !inQuotes) s := by
    induction p generalizing inQuotes with
    | nil => cases inQuotes <;> rfl
    | cons c p ih =>
      by_cases hc : c = '\''
      · -- A quote turns code into the inside of a literal, and the reverse.
        rw [hc, List.count_cons_self]
        by_cases hn : Even (p.count '\'') <;> cases inQuotes <;>
          simp [blankQuoted, ih, hn, Nat.even_add_one]
      · have hne : (c != '\'') = true := bne_iff_ne.2 hc
        rw [List.count_cons_of_ne hc]
        cases inQuotes <;> simp [blankQuoted, hc, hne, ih]
  rw [hall, if_pos hp]

/-- What a literal between two parts says does not matter where literals are blanked. -/
theorem blankQuoted_literal {u p : List Char} (hu : '\'' ∉ u) (hp : Even (p.count '\''))
    (s : List Char) :
    blankQuoted false (p ++ (literal u ++ s)) = blankQuoted false p ++ ' ' :: blankQuoted false s := by
  have heven : Even ((literal u).count '\'') := by
    simp [literal, List.count_append, List.count_eq_zero_of_not_mem hu]
  have hblank : blankQuoted false (literal u) = [' '] := blankQuoted_quoted hu
  rw [blankQuoted_append_of_even hp, blankQuoted_append_of_even heven, hblank]
  rfl

/-- The same name, type and constraints define the same column and refer to the same one, whatever
a literal in the constraints says, but for the default. -/
theorem definedBy_literal (head : List Char × List Char) {u v p : List Char} (hu : '\'' ∉ u)
    (hv : '\'' ∉ v) (hp : Even (p.count '\'')) (s : List Char) :
    eraseDefault (definedBy head (p ++ (literal u ++ s))) =
      eraseDefault (definedBy head (p ++ (literal v ++ s))) := by
  have hblank : blankQuoted false (p ++ (literal u ++ s)) =
      blankQuoted false (p ++ (literal v ++ s)) := by
    rw [blankQuoted_literal hu hp, blankQuoted_literal hv hp]
  simp only [eraseDefault, definedBy, columnOf, Column.withoutDefault, hblank]

/-- A piece of a body in which a literal stands behind an even number of quotes defines the same
column whatever the literal says, but for the default. -/
theorem columnDefinition?_literal {u v p : List Char} (hu : '\'' ∉ u) (hv : '\'' ∉ v)
    (hp : Even (p.count '\'')) (s : List Char) :
    (columnDefinition? (p ++ (literal u ++ s))).map eraseDefault =
      (columnDefinition? (p ++ (literal v ++ s))).map eraseDefault := by
  obtain ⟨q, hq, hquote, -⟩ := avoids_definitionHead.passed p
  have hconfined (x : List Char) := avoids_definitionHead.confined p x
  have heven : Even ((definitionHead.on p).2.count '\'') := by
    rw [hq, List.count_append, List.count_eq_zero_of_not_mem hquote, Nat.zero_add] at hp
    exact hp
  rw [columnDefinition?_eq, columnDefinition?_eq, literal_append, literal_append, hconfined,
    hconfined, ← literal_append, ← literal_append, Option.map_map, Option.map_map]
  congr 1
  funext head
  exact definedBy_literal head hu hv heven s

/-- Whether a piece is a constraint is decided in front of the first quote. -/
theorem isConstraint_append_quote (p x : List Char) :
    CreateTable.isConstraint (p ++ '\'' :: x) = CreateTable.isConstraint p := by
  unfold CreateTable.isConstraint
  rw [(Scan.takeWhile_append_of_head? (s := '\'' :: x) rfl p).1]

/-- The blanks around a text in which a literal stands are cut off in front of the literal and
behind it. -/
theorem exists_trim_literal (p s : List Char) : ∃ a q t, p = a ++ q ∧ '\'' ∉ a ∧
    ∀ u, Text.trim (p ++ (literal u ++ s)) = q ++ (literal u ++ t) := by
  refine ⟨p.takeWhile isBlank, p.dropWhile isBlank, Text.trimEnd s,
    List.takeWhile_append_dropWhile.symm, ?_, fun u => ?_⟩
  · intro h
    exact absurd (List.mem_takeWhile_imp h) (by decide)
  · have hstart : Text.trimStart (p ++ (literal u ++ s)) =
        p.dropWhile isBlank ++ (literal u ++ s) :=
      (Scan.takeWhile_append_of_head? (s := literal u ++ s) rfl p).2
    have hreverse : (p.dropWhile isBlank ++ (literal u ++ s)).reverse =
        s.reverse ++ '\'' :: (u.reverse ++ '\'' :: (p.dropWhile isBlank).reverse) := by
      simp [literal]
    unfold Text.trim
    rw [hstart]
    unfold Text.trimEnd
    rw [hreverse, (Scan.takeWhile_append_of_head? (s := '\'' :: _) rfl s.reverse).2]
    simp [literal]

/-- A piece that is not empty declares a column if it is not a constraint. -/
theorem declared_singleton {piece : List Char} (h : piece ≠ []) :
    declared [piece] =
      bif CreateTable.isConstraint piece then [] else (columnDefinition? piece).toList := by
  unfold declared
  cases hconstraint : CreateTable.isConstraint piece with
  | true => simp [hconstraint]
  | false =>
    rw [List.filter_cons_of_pos (by simp [h, hconstraint])]
    cases hcolumn : columnDefinition? piece <;> simp [hcolumn]

/-- A piece of a body declares the same columns whatever a literal in it says. -/
theorem declared_literal {u v p : List Char} (hu : '\'' ∉ u) (hv : '\'' ∉ v)
    (hp : Even (p.count '\'')) (s : List Char) :
    (declared [Text.trim (p ++ (literal u ++ s))]).map eraseDefault =
      (declared [Text.trim (p ++ (literal v ++ s))]).map eraseDefault := by
  obtain ⟨a, q, t, rfl, ha, htrim⟩ := exists_trim_literal p s
  have hq : Even (q.count '\'') := by
    rw [List.count_append, List.count_eq_zero_of_not_mem ha, Nat.zero_add] at hp
    exact hp
  have hne (w : List Char) : q ++ (literal w ++ t) ≠ [] := by simp [literal]
  have hconstraint (w : List Char) :
      CreateTable.isConstraint (q ++ (literal w ++ t)) = CreateTable.isConstraint q := by
    rw [literal_append, isConstraint_append_quote]
  have hcolumn := columnDefinition?_literal hu hv hq t
  rw [htrim, htrim, declared_singleton (hne u), declared_singleton (hne v), hconstraint, hconstraint]
  cases CreateTable.isConstraint q with
  | true => rfl
  | false => rw [cond_false, cond_false, ← Option.toList_map, ← Option.toList_map, hcolumn]

/-- A literal without a comma belongs to one piece of a body: that which begins behind the last
comma in front of it. -/
theorem exists_pieces_literal (p s : List Char) : ∃ front q t back,
    (q = p ∨ ∃ a, p = a ++ ',' :: q) ∧ ',' ∉ q ∧
    ∀ u, ',' ∉ u → Text.trimmedPieces ',' (p ++ (literal u ++ s)) =
      front ++ Text.trim (q ++ (literal u ++ t)) :: back := by
  -- First what comes behind the literal, then what comes in front of it.
  have hbehind : ∃ t back, ∀ q, ',' ∉ q → ∀ u, ',' ∉ u →
      Text.trimmedPieces ',' (q ++ (literal u ++ s)) = Text.trim (q ++ (literal u ++ t)) :: back := by
    have hfree {q u t : List Char} (hq : ',' ∉ q) (hu : ',' ∉ u) (ht : ',' ∉ t) :
        ',' ∉ q ++ (literal u ++ t) := by
      simp [literal, hq, hu, ht]
    by_cases hs : ',' ∈ s
    · obtain ⟨t, back, rfl, ht⟩ := List.eq_append_cons_of_mem hs
      refine ⟨t, Text.trimmedPieces ',' back, fun q hq u hu => ?_⟩
      rw [← List.append_assoc (literal u), ← List.append_assoc, Text.trimmedPieces_cons,
        Text.trimmedPieces_of_not_mem (hfree hq hu ht)]
      rfl
    · exact ⟨s, [], fun q hq u hu => Text.trimmedPieces_of_not_mem (hfree hq hu hs)⟩
  obtain ⟨t, back, hback⟩ := hbehind
  by_cases hp : ',' ∈ p
  · obtain ⟨q, a, hrev, hq⟩ := List.eq_append_cons_of_mem (List.mem_reverse.2 hp)
    have heq : p = a.reverse ++ ',' :: q.reverse := by
      rw [← List.reverse_reverse p, hrev]
      simp
    have hq' : ',' ∉ q.reverse := by simpa using hq
    refine ⟨Text.trimmedPieces ',' a.reverse, q.reverse, t, back, .inr ⟨_, heq⟩, hq',
      fun u hu => ?_⟩
    rw [heq, List.append_assoc, List.cons_append, Text.trimmedPieces_cons, hback _ hq' u hu]
  · exact ⟨[], p, t, back, .inl rfl, hp, hback p hp⟩

/-- What a body declares does not depend on what a literal in it says, but for defaults. -/
theorem map_declared_literal {u v p : List Char} (hu : '\'' ∉ u ∧ ',' ∉ u) (hv : '\'' ∉ v ∧ ',' ∉ v)
    (hp : Even (p.count '\'')) (hcomma : ∀ a q, p = a ++ ',' :: q → ',' ∉ q → Even (q.count '\''))
    (s : List Char) :
    (declared (Text.trimmedPieces ',' (p ++ (literal u ++ s)))).map eraseDefault =
      (declared (Text.trimmedPieces ',' (p ++ (literal v ++ s)))).map eraseDefault := by
  obtain ⟨front, q, t, back, hsplit, hq, hpieces⟩ := exists_pieces_literal p s
  have heven : Even (q.count '\'') := by
    rcases hsplit with rfl | ⟨a, ha⟩
    · exact hp
    · exact hcomma a q ha hq
  have hparts (w : List Char) : declared (front ++ Text.trim (q ++ (literal w ++ t)) :: back) =
      declared front ++ (declared [Text.trim (q ++ (literal w ++ t))] ++ declared back) := by
    rw [declared_append, List.singleton_append.symm, declared_append]
  rw [hpieces u hu.2, hpieces v hv.2, hparts, hparts]
  simp only [List.map_append, declared_literal hu.1 hv.1 heven t]

/-! ## Statements -/

/-- A part of the body of a table behind which the content of a literal does not matter. -/
structure LiteralPlace (p : List Char) : Prop where
  /-- Its end is outside quotes. -/
  code : Even (p.count '\'')
  /-- Its last comma is outside quotes. -/
  comma : ∀ a q, p = a ++ ',' :: q → ',' ∉ q → Even (q.count '\'')
  /-- No list of a primary key is open. -/
  primary : ∀ x, Apart CreateTable.primaryKeyword CreateTable.primaryKeyTail.on p ('\'' :: x)
  /-- No foreign key is open. -/
  foreign : ∀ x, Apart ForeignKey.keyword ForeignKey.tail.on p ('\'' :: x)

/-- What a statement says apart from defaults: its table and its relationships. -/
def CreateTable.withoutDefaults (t : CreateTable) : Table × List Relationship :=
  (t.table.withoutDefaults, t.relationships)

section literal

variable {u v p : List Char}

/-- The constructs around a literal are those in front of it and those behind it. -/
theorem TwoWords.constructs_around {α : Type} {keyword : Keyword}
    {reader : List Char → Option α × List Char} {word : List Char}
    (h : TwoWords keyword word reader) (hp : ∀ x, Apart keyword reader p ('\'' :: x))
    (hu : ∀ p s, u = p ++ s → phraseAt keyword.letters word p s = false) (s : List Char) :
    constructs keyword reader (p ++ (literal u ++ s)) =
      constructs keyword reader p ++ constructs keyword reader s := by
  have hapart : Apart keyword reader p (literal u ++ s) := hp _
  have hbreaks : Breaks p (literal u ++ s) := Breaks.of_stops (stops_quote _)
  rw [constructs_append_of_apart h.first hapart hbreaks, h.constructs_literal hu]

/-- The foreign keys around a literal do not depend on what it says. -/
theorem foreignKeys_literal (hp : ∀ x, Apart ForeignKey.keyword ForeignKey.tail.on p ('\'' :: x))
    (hu : InertContent u) (hv : InertContent v) (table s : List Char) :
    foreignKeys table (p ++ (literal u ++ s)) = foreignKeys table (p ++ (literal v ++ s)) := by
  have hmem : (ForeignKey.keyword.letters, "key".toList) ∈ phrases := by simp [phrases]
  have hfind {w : List Char} (hw : InertContent w) := twoWords_foreign.constructs_around hp
    (hw.phrase _ hmem) s
  have heq : ForeignKey.findAll (p ++ (literal u ++ s)) =
      ForeignKey.findAll (p ++ (literal v ++ s)) := (hfind hu).trans (hfind hv).symm
  unfold foreignKeys
  rw [heq]

/-- Primary keys are marked whether or not there are defaults. -/
theorem map_withoutDefault_foldl_markPrimaryKey (keys : List (List Char)) (columns : List Column) :
    (keys.foldl CreateTable.markPrimaryKey columns).map Column.withoutDefault =
      keys.foldl CreateTable.markPrimaryKey (columns.map Column.withoutDefault) := by
  induction keys generalizing columns with
  | nil => rfl
  | cons key keys ih =>
    rw [List.foldl_cons, List.foldl_cons, ih]
    congr 1
    refine (updateFirst_map (g := Column.withoutDefault) ?_ ?_ columns).symm <;> exact fun _ => rfl

/-- The relationships that columns declare for a table. -/
def columnRelationships (table : List Char) (columns : List (Column × Option ColumnRef)) :
    List Relationship :=
  columns.filterMap fun (c, target) =>
    target.map fun target => manyToOne ⟨String.ofList table, c.name⟩ target

/-- Apart from defaults a statement says what its columns without defaults, its primary keys and its
foreign keys say. -/
theorem withoutDefaults_eq (t : CreateTable) : t.withoutDefaults =
    (⟨String.ofList t.name, t.primaryKeys.foldl CreateTable.markPrimaryKey
        ((t.columns.map eraseDefault).map Prod.fst)⟩,
      columnRelationships t.name (t.columns.map eraseDefault) ++ foreignKeys t.name t.body) := by
  have hcolumns : (t.columns.map Prod.fst).map Column.withoutDefault =
      (t.columns.map eraseDefault).map Prod.fst := by
    rw [List.map_map, List.map_map]
    rfl
  have hrelationships : columnRelationships t.name (t.columns.map eraseDefault) =
      columnRelationships t.name t.columns := by
    unfold columnRelationships
    rw [List.filterMap_map]
    rfl
  rw [hrelationships, ← hcolumns, ← map_withoutDefault_foldl_markPrimaryKey]
  rfl

/-- What a statement says apart from defaults does not depend on what a literal in it says. -/
theorem withoutDefaults_literal (hp : LiteralPlace p) (hu : InertContent u) (hv : InertContent v)
    (name s : List Char) :
    CreateTable.withoutDefaults ⟨name, p ++ (literal u ++ s)⟩ =
      CreateTable.withoutDefaults ⟨name, p ++ (literal v ++ s)⟩ := by
  have hmem : (CreateTable.primaryKeyword.letters, "key".toList) ∈ phrases := by simp [phrases]
  have hfind {w : List Char} (hw : InertContent w) := twoWords_primary.constructs_around hp.primary
    (hw.phrase _ hmem) s
  have hkeys : CreateTable.primaryKeys ⟨name, p ++ (literal u ++ s)⟩ =
      CreateTable.primaryKeys ⟨name, p ++ (literal v ++ s)⟩ := by
    rw [primaryKeys_eq, primaryKeys_eq]
    exact congrArg List.flatten ((hfind hu).trans (hfind hv).symm)
  have hcolumns : (CreateTable.columns ⟨name, p ++ (literal u ++ s)⟩).map eraseDefault =
      (CreateTable.columns ⟨name, p ++ (literal v ++ s)⟩).map eraseDefault :=
    map_declared_literal ⟨hu.quote, hu.comma⟩ ⟨hv.quote, hv.comma⟩ hp.code hp.comma s
  rw [withoutDefaults_eq, withoutDefaults_eq, hkeys, hcolumns,
    foreignKeys_literal hp.foreign hu hv name s]

end literal

end Sql

end SchemaDiagram
