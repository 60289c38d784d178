import SchemaDiagram.Proofs.Sql.Comment
import SchemaDiagram.Proofs.Sql.ForeignKey

/-!
# Scripts behind each other

The schema of a script behind another one is put together from the schemas of both
(`parse_append`), if the first one ends with `);` in code. A statement that is not complete there
does not take anything of the second script: all that stands in front of the text of a statement
ends at a closing parenthesis at the latest, and the text itself at the `);` or the semicolon of it.
So the readers of statements are `ClosedBy` that end.
-/

namespace SchemaDiagram

open Character

/-! ## Two schemas -/

/-- The tables of one schema and then those of another, without flags, and the relationships of
both. -/
def Schema.beside (a b : Schema) : Schema :=
  ⟨a.unflagged.tables ++ b.unflagged.tables, a.relationships ++ b.relationships⟩

namespace Sql

/-! ## Readers that are done at an end -/

variable {α β : Type} {stop : List Char}

/-- What comes behind an end makes no difference to a reader that begins in front of it. -/
def ClosedBy (stop : List Char) (reader : List Char → Option α × List Char) : Prop :=
  ∀ p s, reader (p ++ stop ++ s) = ((reader (p ++ stop)).1, (reader (p ++ stop)).2 ++ s)

/-- A reader that is done at an end is done at a longer one. -/
theorem ClosedBy.prepend {reader : List Char → Option α × List Char} (h : ClosedBy stop reader)
    (front : List Char) : ClosedBy (front ++ stop) reader := by
  intro p s
  rw [← List.append_assoc]
  exact h (p ++ front) s

/-- The text up to a stop is read in front of one. -/
theorem closedBy_before (stop : String) : ClosedBy stop.toList (Reader.before stop).on := by
  intro p s
  obtain ⟨taken, rest, h⟩ := Scan.exists_until?_append stop.toList p
  rw [Reader.on_before h, Reader.on_before (Scan.until?_append_of_some h s)]

/-- In front of a stop there is no need of anything else. -/
theorem closedBy_before_orElse (stop : String) (u : Reader (List Char)) :
    ClosedBy stop.toList (Reader.before stop <|> u).on := by
  intro p s
  obtain ⟨taken, rest, h⟩ := Scan.exists_until?_append stop.toList p
  rw [Reader.on_orElse_of_some (Reader.on_before h),
    Reader.on_orElse_of_some (Reader.on_before (Scan.until?_append_of_some h s))]

/-- What is made of what was read makes no difference. -/
theorem ClosedBy.bind_pure {r : Reader α} (h : ClosedBy stop r.on) (f : α → β) :
    ClosedBy stop (r >>= fun v => pure (f v)).on := by
  intro p s
  have hread := h p s
  rcases hon : r.on (p ++ stop) with ⟨v | v, t⟩
  · rw [hon] at hread
    rw [Reader.on_bind_of_none hon, Reader.on_bind_of_none hread]
  · rw [hon] at hread
    rw [Reader.on_bind_of_some hon, Reader.on_bind_of_some hread]
    rfl

/-- Behind a reader that does not get past the first character of the end another one is done at the
end if it always is. -/
theorem Avoids.closedBy {q : Char} {r : Reader α} {next : α → Reader β} (hr : Avoids q r.on)
    (hnext : ∀ v, ClosedBy (q :: stop) (next v).on) : ClosedBy (q :: stop) (r >>= next).on := by
  intro p s
  have hend := hr.confined p stop
  have hbehind := hr.confined p (stop ++ s)
  have hsplit (t : List Char) : t ++ (q :: stop) ++ s = t ++ q :: (stop ++ s) :=
    List.append_assoc _ _ _
  rw [hsplit]
  rcases hon : r.on p with ⟨v | v, t⟩
  · rw [hon] at hend hbehind
    rw [Reader.on_bind_of_none hend, Reader.on_bind_of_none hbehind, hsplit]
  · rw [hon] at hend hbehind
    rw [Reader.on_bind_of_some hend, Reader.on_bind_of_some hbehind, ← hsplit]
    exact hnext v t s

/-- A reader that is done at an end keeps a text with that end apart from what comes behind. -/
theorem ClosedBy.apart {keyword : Keyword} {reader : List Char → Option α × List Char}
    (h : ClosedBy stop reader) (hword : IsWord keyword.letters)
    (hstop : ∀ c ∈ stop, isIdent c = false) (p s : List Char) :
    Apart keyword reader (p ++ stop) s := by
  intro a w t hsplit _ hsame
  have hw := hword.isIdentifier hsame
  rw [← List.append_assoc] at hsplit
  rcases List.append_eq_append_iff.1 hsplit with ⟨x, hx, hrest⟩ | ⟨y, -, hrest⟩
  · -- The keyword cannot reach into the end.
    rcases List.eq_nil_or_concat x with rfl | ⟨x, c, rfl⟩
    · rw [show t = stop from hrest.symm]
      exact h [] s
    · have hlast : w.getLast hw.1 = c := by
        have hconcat := congrArg List.getLast? hx
        rw [List.getLast?_append_of_ne_nil _ hw.1, List.concat_eq_append, ← List.append_assoc,
          List.getLast?_concat, List.getLast?_eq_some_getLast hw.1] at hconcat
        exact Option.some.inj hconcat
      have hident := hw.2 _ (List.getLast_mem hw.1)
      rw [hlast, hstop c (by simp [hrest])] at hident
      cases hident
  · rw [hrest]
    exact h y s

/-! ## The statements of two scripts -/

/-- The end of a statement. -/
def statementEnd : List Char :=
  [')', ';']

/-- A statement that creates a table is done at its end. -/
theorem closedBy_createTail : ClosedBy statementEnd (Scan.orStay CreateTable.tail?) := by
  have htail : ClosedBy statementEnd CreateTable.tail.on := by
    rw [createTail_eq]
    exact (avoids_createHead isBarrier_paren).closedBy fun name =>
      (closedBy_before ");").bind_pure (CreateTable.mk name)
  intro p s
  have hread := htail p s
  unfold Scan.orStay CreateTable.tail?
  rw [hread]
  rcases CreateTable.tail.on (p ++ statementEnd) with ⟨v | v, t⟩ <;> rfl

/-- A statement that alters a table is done there, too. -/
theorem closedBy_alterTail : ClosedBy statementEnd alterTail.on := by
  have hstatement (table : List Char) := (closedBy_before_orElse ";" get).bind_pure (table, ·)
  rw [alterTail_eq]
  exact (avoids_alterHead isBarrier_paren).closedBy fun table => (hstatement table).prepend [')']

/-- The end of a statement has no identifier in it. -/
theorem isIdent_of_mem_statementEnd : ∀ c ∈ statementEnd, isIdent c = false :=
  List.forall_mem_cons.2 ⟨rfl, List.forall_mem_singleton.2 rfl⟩

/-- Behind the end of a statement no identifier goes on. -/
theorem breaks_statementEnd (p s : List Char) : Breaks (p ++ statementEnd) s := by
  have hend : Breaks statementEnd s := Breaks.of_forall isIdent_of_mem_statementEnd
  exact hend.prepend fun h => absurd h (List.cons_ne_nil _ _)

/-- Behind the end of a statement other statements create other tables. -/
theorem findAll_append (p s : List Char) :
    CreateTable.findAll (p ++ statementEnd ++ s) =
      CreateTable.findAll (p ++ statementEnd) ++ CreateTable.findAll s :=
  constructs_append_of_apart twoWords_create.first
    (closedBy_createTail.apart twoWords_create.first isIdent_of_mem_statementEnd p s)
    (breaks_statementEnd p s)

/-- Other statements declare other foreign keys there. -/
theorem alteredForeignKeys_append (p s : List Char) :
    alteredForeignKeys (p ++ statementEnd ++ s) =
      alteredForeignKeys (p ++ statementEnd) ++ alteredForeignKeys s := by
  have hconstructs := constructs_append_of_apart twoWords_alter.first
    (closedBy_alterTail.apart twoWords_alter.first isIdent_of_mem_statementEnd p s)
    (breaks_statementEnd p s)
  rw [alteredForeignKeys_eq, hconstructs, List.flatMap_append, ← alteredForeignKeys_eq,
    ← alteredForeignKeys_eq]

/-- Two scripts behind each other declare the tables of both. -/
theorem tables_declaredBy_append (p s : List Char) :
    (declaredBy (p ++ statementEnd ++ s)).tables =
      (declaredBy (p ++ statementEnd)).tables ++ (declaredBy s).tables := by
  unfold declaredBy
  rw [findAll_append, List.map_append, List.filter_append]

/-- They declare the relationships of both, those in the statements that create tables first. -/
theorem relationships_declaredBy_append (p s : List Char) :
    (declaredBy (p ++ statementEnd ++ s)).relationships.Perm
      ((declaredBy (p ++ statementEnd)).relationships ++ (declaredBy s).relationships) := by
  unfold declaredBy
  rw [findAll_append, List.flatMap_append, alteredForeignKeys_append]
  -- The first altered foreign keys change places with the columns and constraints of the second.
  simp only [List.append_assoc]
  refine List.Perm.append_left _ ?_
  rw [← List.append_assoc, ← List.append_assoc]
  exact List.Perm.append_right _ List.perm_append_comm

/-! ## Scripts with comments -/

/-- A script that ends a statement in code ends it without its comments, and those of another script
behind it are left out as if that stood alone. -/
theorem exists_stripComments_append {script : List Char} (hend : statementEnd <:+ script)
    (hcode : placeBehind .code script = .code) :
    ∃ p, stripComments script = p ++ statementEnd ∧
      ∀ s, stripComments (script ++ s) = p ++ statementEnd ++ stripComments s := by
  obtain ⟨front, rfl⟩ := hend
  have hfront : placeBehind .code front = .code := by
    rw [show front ++ statementEnd = front ++ ')' :: [';'] from rfl,
      placeBehind_append_cons (by decide) (by decide)] at hcode
    cases hplace : placeBehind .code front with
    | code => rfl
    | quoted | lineComment | blockComment => simp [hplace, placeBehind] at hcode
  have hplain : Plain statementEnd :=
    Plain.of_all rfl
  have hstrip (s : List Char) : stripComments (front ++ (statementEnd ++ s)) =
      stripComments front ++ (statementEnd ++ stripComments s) := by
    have hdivided := strip_append_cons (c := ')') (by decide) (by decide) .code front (';' :: s)
    rw [hfront] at hdivided
    have hend := hplain s
    exact hdivided.trans (congrArg (stripComments front ++ ·) hend)
  refine ⟨stripComments front, ?_, fun s => ?_⟩
  · have hnil := hstrip []
    rw [List.append_nil] at hnil
    exact hnil
  · rw [List.append_assoc, hstrip, List.append_assoc]

/-- The schema of a script that ends a statement in code and of another script behind it has the
tables of both and the relationships of both, and those of its columns are flagged as foreign keys
where relationships of either one start. -/
theorem parse_append {script other : String} {a b : Schema} (hend : statementEnd <:+ script.toList)
    (hcode : placeBehind .code script.toList = .code) (ha : parse script = .ok a)
    (hb : parse other = .ok b) :
    ∃ s, parse (script ++ other) = .ok s ∧
      s.unflagged.tables = a.unflagged.tables ++ b.unflagged.tables ∧
      s.relationships.Perm (a.relationships ++ b.relationships) ∧
      s.tables = (a.beside b).markForeignKeys.tables := by
  obtain ⟨rfl, hne⟩ := eq_of_parse ha
  obtain ⟨rfl, -⟩ := eq_of_parse hb
  obtain ⟨p, hscript, hboth⟩ := exists_stripComments_append hend hcode
  rw [hscript] at hne ⊢
  let first := declaredBy (p ++ statementEnd)
  let second := declaredBy (stripComments other.toList)
  let both := declaredBy (p ++ statementEnd ++ stripComments other.toList)
  have htables : both.tables = first.tables ++ second.tables := tables_declaredBy_append _ _
  have hrelationships : both.relationships.Perm (first.relationships ++ second.relationships) :=
    relationships_declaredBy_append _ _
  have hunflagged (script : List Char) :
      (declaredBy script).markForeignKeys.unflagged = declaredBy script :=
    (Schema.unflagged_markForeignKeys _).trans (unflagged_declaredBy script)
  have hbeside : first.markForeignKeys.beside second.markForeignKeys =
      ⟨first.tables ++ second.tables, first.relationships ++ second.relationships⟩ := by
    unfold Schema.beside
    rw [hunflagged, hunflagged]
    rfl
  have hok : both.markForeignKeys.tables ≠ [] := by
    intro hnil
    have hlength := congrArg List.length hnil
    rw [Schema.length_tables_markForeignKeys, htables, List.length_append] at hlength
    have hpos := List.length_pos_iff.2 hne
    rw [Schema.length_tables_markForeignKeys] at hpos
    have hzero : first.tables.length + second.tables.length = 0 := hlength
    have hfirst : 0 < first.tables.length := hpos
    omega
  refine ⟨both.markForeignKeys, ?_, ?_, hrelationships, ?_⟩
  · unfold parse
    rw [String.toList_append, hboth, schemaOf_eq]
    exact if_neg hok
  · rw [hunflagged, hunflagged, hunflagged]
    exact htables
  · rw [hbeside, ← htables]
    exact Schema.tables_markForeignKeys_of_perm hrelationships

/-- A script at whose end a table gets a foreign key that it does not create. -/
def alteringScript : String :=
  "CREATE TABLE a (x int); -- it's all\nALTER TABLE b ADD FOREIGN KEY (y) REFERENCES a (x);"

/-- The schema of that script. -/
def alteringSchema : Schema where
  tables := [⟨"a", [{ name := "x", type := "integer" }]⟩]
  relationships := [⟨⟨⟨"b", "y"⟩, ⟨"a", "x"⟩⟩, .manyToOne⟩]

/-- A script that creates that table with another foreign key. -/
def creatingScript : String :=
  "CREATE TABLE b (y int, z int REFERENCES a (x));"

/-- The schema of that script. -/
def creatingSchema : Schema where
  tables := [⟨"b", [{ name := "y", type := "integer" },
    { name := "z", type := "integer", isForeignKey := true }]⟩]
  relationships := [⟨⟨⟨"b", "z"⟩, ⟨"a", "x"⟩⟩, .manyToOne⟩]

/-- Behind each other both columns have the flag, and the relationships change places. -/
theorem parse_append_alteringScript :
    ∃ s, parse (alteringScript ++ creatingScript) = .ok s ∧
      s.unflagged.tables = alteringSchema.unflagged.tables ++ creatingSchema.unflagged.tables ∧
      s.relationships.Perm (alteringSchema.relationships ++ creatingSchema.relationships) ∧
      s.tables = (alteringSchema.beside creatingSchema).markForeignKeys.tables ∧
      s.relationships = creatingSchema.relationships ++ alteringSchema.relationships := by
  have haltering : parse alteringScript = .ok alteringSchema := by decide +kernel
  have hcreating : parse creatingScript = .ok creatingSchema := by decide +kernel
  obtain ⟨s, hs, htables, hrelationships, hflags⟩ :=
    parse_append (by decide) (by decide +kernel) haltering hcreating
  have hboth : (parse (alteringScript ++ creatingScript)).map Schema.relationships =
      .ok (creatingSchema.relationships ++ alteringSchema.relationships) := by decide +kernel
  rw [hs] at hboth
  exact ⟨s, hs, htables, hrelationships, hflags, Except.ok.inj hboth⟩

end Sql

end SchemaDiagram
