import SchemaDiagram.Proofs.Sql.KeyClause

/-!
# Statements that are read back

In the bare script of a schema, the search for a construct passes over everything that only looks
like one: over quoted names that are keywords, and over types and functions that are called like
one. The statement of a table is read up to its end (`createTail_append`) and declares the columns
of the table (`declared_bareBody`) and its primary key (`constructs_primary_bareBody`). The
statement of a relationship is read likewise (`alterTail_append`) and has one foreign key
(`foreignKeys_bareConstraint`).
-/

namespace SchemaDiagram.Sql

open Character

variable {d : Dialect} {s : List Char}

/-! ## Constructs that are not in definitions -/

section idle

variable {α : Type} {keyword : Keyword} {word : List Char}
  {reader : List Char → Option α × List Char}

/-- The second word of a construct is not the next one behind a clause of one word. -/
theorem TwoWords.notAhead_clause (h : TwoWords keyword word reader) {w : String}
    (hw : w ∈ definitionWords) (hident : IsIdentifier w.toList) (hs : Stops s) :
    NotAhead word (' ' :: (w.toList ++ s)) :=
  NotAhead.blank rfl (NotAhead.of_word h.second hident hs (h.apart w hw).2)

/-- The second word of a construct is not the next one behind the name of a type. -/
theorem TwoWords.notAhead_size (h : TwoWords keyword word reader) {size : List Char}
    (hsize : size ∈ sizes) (hn : NotAhead word s) : NotAhead word (size ++ s) := by
  have hall : ∀ size ∈ sizes, size = [] ∨ size.head? = some '(' := by simp [sizes]
  rcases hall size hsize with rfl | hhead
  · exact hn
  · obtain ⟨t, rfl⟩ := List.head?_eq_some_iff.1 hhead
    exact NotAhead.mark h.second rfl rfl

/-- The second word of a construct is not the first one of the clauses of a column. -/
theorem TwoWords.notAhead_flagClauses (h : TwoWords keyword word reader) (c : Column)
    (hs : Stops s) (hn : NotAhead word s) : NotAhead word (flagClauses d c ++ s) := by
  have hword {w : String} (hw : w ∈ definitionWords) (hident : (w.toList.all isIdent) = true)
      (hne : w.toList ≠ []) {t : List Char} (ht : Stops t) :
      NotAhead word (' ' :: (w.toList ++ t)) :=
    h.notAhead_clause hw ⟨hne, List.all_eq_true.1 hident⟩ ht
  -- From the last clause to the first, each begins with its own word, or what comes next is ahead.
  have hnotNullStops := (spaced_notNull c).stops_append hs
  have hnotNull : NotAhead word ((if c.isNotNull then " NOT NULL".toList else []) ++ s) := by
    split
    · exact hword (w := "NOT") (by decide) rfl (by decide)
        (t := " NULL".toList ++ s) (stops_cons.2 rfl)
    · exact hn
  have hunique : NotAhead word ((if c.isUnique then " UNIQUE".toList else []) ++
      ((if c.isNotNull then " NOT NULL".toList else []) ++ s)) := by
    split
    · exact hword (w := "UNIQUE") (by decide) rfl (by decide) hnotNullStops
    · exact hnotNull
  have huniqueStops := (spaced_unique c).stops_append hnotNullStops
  unfold flagClauses incrementClause
  rw [List.append_assoc, List.append_assoc]
  split
  · exact hword (w := "AUTO_INCREMENT") (by decide) rfl (by decide) huniqueStops
  · exact hword (w := "IDENTITY") (by decide) rfl (by decide) huniqueStops
  · exact hunique

/-- The second word of a construct is not the first one of the clause for a default. -/
theorem TwoWords.notAhead_defaultClause (h : TwoWords keyword word reader) (c : Column)
    (hn : NotAhead word s) : NotAhead word (defaultClause c ++ s) := by
  unfold defaultClause
  split
  · next value _ =>
    exact h.notAhead_clause (w := "DEFAULT") (by decide) ⟨by decide, List.all_eq_true.1 rfl⟩
      (stops_cons.2 rfl)
  · exact hn

/-- The words of sizes and clauses are words of definitions. -/
theorem mem_definitionWords {size : List Char} (hsize : size ∈ sizes) (d : Dialect) (c : Column) :
    ∀ w ∈ identifiers (size ++ flagClauses d c), String.ofList w ∈ definitionWords := by
  have hall : ∀ size ∈ sizes, ∀ w ∈ identifiers size, String.ofList w ∈ definitionWords := by
    decide +kernel
  intro w hw
  rw [identifiers_append (Breaks.of_stops (spaced_flagClauses d c).stops), List.mem_append] at hw
  rcases hw with hw | hw
  · exact hall size hsize w hw
  · -- The words of these clauses are among those that are read for the constraints.
    have hkept : w ∈ identifiers (keptClauses d c) := by
      unfold keptClauses
      rw [identifiers_append (Breaks.of_stops (spaced_flagClauses d c).stops)]
      exact List.mem_append_right _ hw
    rw [identifiers_keptClauses] at hkept
    obtain ⟨clause, hclause, rfl⟩ := List.mem_map.1 hkept
    have hsub := clauseWords_subset d c clause hclause
    rw [String.ofList_toList]
    simp only [List.mem_cons, List.not_mem_nil, or_false] at hsub
    rcases hsub with rfl | rfl | rfl | rfl | rfl | rfl <;> decide

/-- The definition of a column adds no construct, whatever its names, type and default are. -/
theorem TwoWords.constructs_columnDefinition (h : TwoWords keyword word reader) {c : Column}
    (hc : WritableColumn c) (d : Dialect) (hs : Stops s) (hn : NotAhead word s) :
    constructs keyword reader (columnDefinition d c ++ s) = constructs keyword reader s := by
  obtain ⟨hident, hsize⟩ := written_of_writable (d := d) hc
  have hdefaultStops := (spaced_defaultClause c).stops_append hs
  have hclausesStops := (spaced_flagClauses d c).stops_append hdefaultStops
  have hdefault : constructs keyword reader (defaultClause c ++ s) =
      constructs keyword reader s := by
    unfold defaultClause
    split
    · next value hvalue =>
      show constructs keyword reader
        (' ' :: ("DEFAULT".toList ++ ' ' :: (defaultExpression value.toList ++ s))) = _
      rw [constructs_cons h.first rfl, constructs_word h.first (List.all_eq_true.1 rfl)
        (stops_cons.2 rfl) (h.apart "DEFAULT" (by decide)).1, constructs_cons h.first rfl]
      exact WritableDefault.constructs_expression h (hc.default value hvalue) hs
    · rfl
  -- The type may be called like the first word; what follows it is not the second one.
  have htype := h.constructs_identifier hident.2 (stops_size hsize hclausesStops)
    (h.notAhead_size hsize (h.notAhead_flagClauses (d := d) c hdefaultStops
      (h.notAhead_defaultClause c hn)))
  have hclauses : constructs keyword reader
      ((writtenSize d c ++ flagClauses d c) ++ (defaultClause c ++ s)) =
        constructs keyword reader (defaultClause c ++ s) := by
    refine constructs_append h.first (fun w hw => ?_) (Breaks.of_stops hdefaultStops)
    have hmem := h.apart _ (mem_definitionWords hsize d c w hw)
    rw [String.toList_ofList] at hmem
    exact hmem.1
  have hspaces : "  ".toList = [' ', ' '] := rfl
  rw [columnDefinition_eq, hspaces]
  simp only [List.append_assoc, List.cons_append, List.nil_append] at hclauses ⊢
  rw [constructs_cons h.first rfl, constructs_cons h.first rfl, h.constructs_quote hc.name,
    constructs_cons h.first rfl, htype, hclauses, hdefault]

/-- The definition of a primary key adds no construct that does not begin with its words. -/
theorem TwoWords.constructs_keyDefinition (h : TwoWords keyword word reader) {t : Table}
    (ht : WritableTable t) (d : Dialect)
    (hprimary : Text.sameLetters "PRIMARY".toList keyword.letters = false)
    (hkey : Text.sameLetters "KEY".toList keyword.letters = false) (s : List Char) :
    constructs keyword reader (keyDefinition d t ++ s) = constructs keyword reader s := by
  have hhead : constructs keyword reader ("  PRIMARY KEY (".toList ++
      (commaSeparated ((keyNames t).map d.quote) ++ ')' :: s)) =
        constructs keyword reader (commaSeparated ((keyNames t).map d.quote) ++ ')' :: s) := by
    show constructs keyword reader (' ' :: ' ' :: ("PRIMARY".toList ++ ' ' :: ("KEY".toList ++
      ' ' :: '(' :: (commaSeparated ((keyNames t).map d.quote) ++ ')' :: s)))) = _
    rw [constructs_cons h.first rfl, constructs_cons h.first rfl,
      constructs_word h.first (List.all_eq_true.1 rfl) (stops_cons.2 rfl) hprimary,
      constructs_cons h.first rfl,
      constructs_word h.first (List.all_eq_true.1 rfl) (stops_cons.2 rfl) hkey,
      constructs_cons h.first rfl, constructs_cons h.first rfl]
  unfold keyDefinition
  rw [List.append_assoc, List.append_assoc]
  show constructs keyword reader ("  PRIMARY KEY (".toList ++
    (commaSeparated ((keyNames t).map d.quote) ++ ')' :: s)) = _
  rw [hhead, h.constructs_commaSeparated (isIdentifier_of_mem_keyNames ht),
    constructs_cons h.first rfl]

/-- The space that is left of a note adds no construct. -/
theorem TwoWords.constructs_bareNote (h : TwoWords keyword word reader) (note : Option String)
    (s : List Char) :
    constructs keyword reader (bareNote note ++ s) = constructs keyword reader s := by
  cases note with
  | none => rfl
  | some note => exact constructs_cons h.first rfl

/-- The constructs of definitions are those that each of them adds in its line. -/
theorem TwoWords.constructs_bareDefinitions (h : TwoWords keyword word reader) {β : Type}
    {items : List β} {f : β → List Char × Option String} {g : β → List α}
    (hitems : ∀ x ∈ items, ∀ s, Stops s → NotAhead word s →
      constructs keyword reader ((f x).1 ++ s) = g x ++ constructs keyword reader s)
    (hs : Stops s) (hn : NotAhead word s) :
    constructs keyword reader (bareDefinitions (items.map f) ++ s) =
      items.flatMap g ++ constructs keyword reader s := by
  induction items with
  | nil => rfl
  | cons x items ih =>
    have hitem := hitems x List.mem_cons_self
    rcases hx : f x with ⟨definition, note⟩
    rw [hx] at hitem
    -- A comma follows a definition unless it is the last one; then the text behind all follows.
    cases items with
    | nil =>
      have hspace : Spaced (bareNote note) := by
        cases note with
        | none => rfl
        | some note => rfl
      have hnote : NotAhead word (bareNote note ++ s) := by
        cases note with
        | none => exact hn
        | some note => exact NotAhead.blank rfl hn
      rw [List.map_singleton, hx, List.flatMap_singleton]
      show constructs keyword reader ('\n' :: (definition ++ bareNote note) ++ s) = _
      rw [List.cons_append, List.append_assoc, constructs_cons h.first rfl,
        hitem _ (hspace.stops_append hs) hnote, h.constructs_bareNote]
    | cons next items =>
      have hrest := ih fun y hy => hitems y (List.mem_cons_of_mem _ hy)
      rw [List.map_cons, hx, List.flatMap_cons, List.append_assoc, ← hrest]
      show constructs keyword reader ('\n' :: (definition ++ ',' :: (bareNote note ++
        bareDefinitions ((next :: items).map f))) ++ s) = _
      rw [List.cons_append, List.append_assoc, constructs_cons h.first rfl, List.cons_append,
        hitem _ (stops_cons.2 rfl) (NotAhead.mark h.second rfl rfl), constructs_cons h.first rfl,
        List.append_assoc, h.constructs_bareNote]

/-- Definitions that add no construct add none in their lines. -/
theorem TwoWords.constructs_bareDefinitions_idle (h : TwoWords keyword word reader)
    {defs : List (List Char × Option String)}
    (hdefs : ∀ e ∈ defs, ∀ s, Stops s → NotAhead word s →
      constructs keyword reader (e.1 ++ s) = constructs keyword reader s)
    (hs : Stops s) (hn : NotAhead word s) :
    constructs keyword reader (bareDefinitions defs ++ s) = constructs keyword reader s := by
  have hall := h.constructs_bareDefinitions (f := id) (g := fun _ => []) hdefs hs hn
  rwa [List.map_id, List.flatMap_eq_nil_iff.2 fun _ _ => rfl, List.nil_append] at hall

/-- Of definitions that add no construct but the last, the last one counts. -/
theorem TwoWords.constructs_bareDefinitions_append (h : TwoWords keyword word reader)
    {defs : List (List Char × Option String)}
    (hdefs : ∀ e ∈ defs, ∀ s, Stops s → NotAhead word s →
      constructs keyword reader (e.1 ++ s) = constructs keyword reader s)
    (last s : List Char) :
    constructs keyword reader (bareDefinitions (defs ++ [(last, none)]) ++ s) =
      constructs keyword reader ('\n' :: (last ++ s)) := by
  induction defs with
  | nil =>
    show constructs keyword reader ('\n' :: (last ++ []) ++ s) = _
    rw [List.append_nil]
    rfl
  | cons e defs ih =>
    obtain ⟨definition, note⟩ := e
    have hdef := hdefs (definition, note) List.mem_cons_self
    have hrest := ih fun e he => hdefs e (List.mem_cons_of_mem _ he)
    have hcons : bareDefinitions ((definition, note) :: defs ++ [(last, none)]) =
        '\n' :: (definition ++ ',' :: (bareNote note ++
          bareDefinitions (defs ++ [(last, none)]))) := by
      cases defs with
      | nil => rfl
      | cons next defs => rfl
    rw [hcons, List.cons_append, List.append_assoc, constructs_cons h.first rfl, List.cons_append,
      hdef _ (stops_cons.2 rfl) (NotAhead.mark h.second rfl rfl), constructs_cons h.first rfl,
      List.append_assoc, h.constructs_bareNote, hrest]

/-- The definitions of the columns of a table add no construct. -/
theorem TwoWords.constructs_columnDefinitions (h : TwoWords keyword word reader) {t : Table}
    (ht : WritableTable t) (d : Dialect) :
    ∀ e ∈ t.columns.map fun c => (columnDefinition d c, c.note), ∀ s, Stops s → NotAhead word s →
      constructs keyword reader (e.1 ++ s) = constructs keyword reader s := by
  intro e he s hs hn
  obtain ⟨c, hc, rfl⟩ := List.mem_map.1 he
  exact h.constructs_columnDefinition (ht.columns c hc) d hs hn

/-- The body of a table adds no construct that does not begin with the words of its key. -/
theorem TwoWords.constructs_bareBody (h : TwoWords keyword word reader) {t : Table}
    (ht : WritableTable t) (d : Dialect)
    (hprimary : Text.sameLetters "PRIMARY".toList keyword.letters = false)
    (hkey : Text.sameLetters "KEY".toList keyword.letters = false) (hn : NotAhead word s) :
    constructs keyword reader (bareBody d t ++ s) = constructs keyword reader s := by
  have hdefs : ∀ e ∈ definitions d t, ∀ s, Stops s → NotAhead word s →
      constructs keyword reader (e.1 ++ s) = constructs keyword reader s := by
    intro e he s hs hn
    rw [definitions_eq, List.mem_append] at he
    rcases he with he | he
    · exact h.constructs_columnDefinitions ht d e he s hs hn
    · split at he
      · cases he
      · rw [List.mem_singleton.1 he]
        exact h.constructs_keyDefinition ht d hprimary hkey s
  unfold bareBody
  rw [List.append_assoc, List.cons_append, List.nil_append,
    h.constructs_bareDefinitions_idle hdefs (stops_cons.2 rfl) (NotAhead.blank rfl hn)]
  exact constructs_cons h.first rfl

end idle

/-! ## The primary key of a table -/

/-- The names in a primary key are read back. -/
theorem primaryKeyTail_append {t : Table} (ht : WritableTable t) (hne : keyNames t ≠ [])
    (d : Dialect) (s : List Char) :
    CreateTable.primaryKeyTail.on (" KEY (".toList ++
      (commaSeparated ((keyNames t).map d.quote) ++ ')' :: s)) = (some (keyNames t), s) := by
  have hkey : (Reader.keyword "key").on ("KEY".toList ++
      (" (".toList ++ (commaSeparated ((keyNames t).map d.quote) ++ ')' :: s))) =
        (some (), " (".toList ++ (commaSeparated ((keyNames t).map d.quote) ++ ')' :: s)) :=
    Reader.on_keyword (by decide) (stops_cons.2 rfl)
  unfold CreateTable.primaryKeyTail
  rw [Reader.on_bind_of_some (Reader.on_blanks _)]
  show (do
    Reader.keyword "key"
    Reader.blanks
    identList : Reader _).on ("KEY".toList ++ (" (".toList ++
      (commaSeparated ((keyNames t).map d.quote) ++ ')' :: s))) = _
  rw [Reader.on_bind_of_some hkey, Reader.on_bind_of_some (Reader.on_blanks _)]
  exact identList_quote hne (isIdentifier_of_mem_keyNames ht)

/-- In the body of a table the names of its primary key are found. -/
theorem constructs_primary_bareBody {t : Table} (ht : WritableTable t) (d : Dialect) :
    constructs CreateTable.primaryKeyword CreateTable.primaryKeyTail.on (bareBody d t) =
      if keyNames t = [] then [] else [keyNames t] := by
  have h := twoWords_primary
  have hcolumns := h.constructs_columnDefinitions ht d
  unfold bareBody
  rw [definitions_eq]
  -- Without a key there is nothing to find, and a key is the last definition.
  split
  · next hnil =>
    rw [List.append_nil, h.constructs_bareDefinitions_idle hcolumns (stops_cons.2 rfl)
      (NotAhead.blank rfl (NotAhead.nil h.second)), constructs_cons h.first rfl, constructs_nil]
  · next hne =>
    let list := " KEY (".toList ++ (commaSeparated ((keyNames t).map d.quote) ++ [')'])
    have hread : CreateTable.primaryKeyTail.on (list ++ ['\n']) = (some (keyNames t), ['\n']) := by
      simp only [list, List.append_assoc]
      exact primaryKeyTail_append ht hne d ['\n']
    have hself := constructs_self h.first (w := "PRIMARY".toList) (p := list) (by decide)
      (stops_cons.2 rfl) hread (Breaks.of_stops (stops_cons.2 rfl))
    rw [h.constructs_bareDefinitions_append hcolumns]
    show constructs _ _ ('\n' :: ' ' :: ' ' :: ("PRIMARY".toList ++ (list ++ ['\n']))) = _
    rw [constructs_cons h.first rfl, constructs_cons h.first rfl, constructs_cons h.first rfl,
      hself, constructs_cons h.first rfl, constructs_nil]
    rfl

/-! ## The columns of a table -/

/-- The columns that a piece of a body declares. -/
def declared (pieces : List (List Char)) : List (Column × Option ColumnRef) :=
  (pieces.filter fun piece => piece ≠ [] && !CreateTable.isConstraint piece).filterMap
    columnDefinition?

/-- The pieces of several texts declare what they declare each. -/
theorem declared_append (a b : List (List Char)) :
    declared (a ++ b) = declared a ++ declared b := by
  unfold declared
  rw [List.filter_append, List.filterMap_append]

/-- A name in quotes declares a column only if a type comes behind it. -/
theorem columnDefinition?_quote {name : List Char} (hname : IsIdentifier name)
    (hs : Scan.blanks? s = none) : columnDefinition? (d.quote name ++ s) = none := by
  unfold columnDefinition?
  rw [ident_quote hname]
  simp only [Option.bind_eq_bind, Option.bind_some, hs, Option.bind_none]

/-- A piece that declares no column adds none. -/
theorem declared_of_none {piece : List Char} (h : columnDefinition? piece = none) :
    declared [piece] = [] := by
  unfold declared
  rw [List.filterMap_eq_nil_iff]
  intro x hx
  rw [List.mem_singleton.1 (List.mem_of_mem_filter hx), h]

/-- Of a list of names with several members the first one is a piece of its own. -/
theorem trimmedPieces_names {a b : List Char} (ha : IsIdentifier a) {names : List (List Char)}
    {s : List Char} :
    Text.trimmedPieces ',' (commaSeparated ((a :: b :: names).map d.quote) ++ s) =
      d.quote a :: Text.trimmedPieces ',' (commaSeparated ((b :: names).map d.quote) ++ s) := by
  have hcomma := not_mem_quote (d := d) ha (c := ',') rfl (by decide)
  have hspace : Text.trimmedPieces ','
      (' ' :: (commaSeparated ((b :: names).map d.quote) ++ s)) =
        Text.trimmedPieces ',' (commaSeparated ((b :: names).map d.quote) ++ s) :=
    Text.trimmedPieces_blanks_append (b := [' ']) rfl (List.forall_mem_singleton.2 rfl)
  rw [List.map_cons, List.map_cons, commaSeparated_cons_cons, List.append_assoc, List.cons_append,
    List.cons_append, Text.trimmedPieces_cons, ← List.map_cons, hspace,
    Text.trimmedPieces_of_not_mem hcomma, trim_quote]
  rfl

/-- A piece that is a constraint adds no column. -/
theorem declared_of_isConstraint {piece : List Char} (h : CreateTable.isConstraint piece = true) :
    declared [piece] = [] := by
  unfold declared
  rw [List.filter_cons_of_neg (by simp [h])]
  rfl

/-- A text without commas such that a piece that begins with it declares no column. -/
def Columnless (p : List Char) : Prop :=
  ',' ∉ p ∧ ∀ s, declared [Text.trim (p ++ s)] = []

/-- What declares no column ends at the first comma behind it. -/
theorem Columnless.declared_pieces {p : List Char} (hp : Columnless p) (s : List Char) :
    declared (Text.trimmedPieces ',' (p ++ s)) = declared (Text.trimmedPieces ',' s).tail := by
  obtain ⟨first, hfirst⟩ := Text.exists_trimmedPieces_append hp.1 s
  rw [hfirst, ← List.singleton_append, declared_append, hp.2, List.nil_append]

/-- A name in quotes at a closing parenthesis is no column. -/
theorem columnless_quote {name : List Char} (hname : IsIdentifier name) (d : Dialect) :
    Columnless (d.quote name ++ [')']) := by
  constructor
  · rw [List.mem_append, not_or]
    exact ⟨not_mem_quote hname rfl (by decide), by decide⟩
  · intro s
    obtain ⟨rest, hrest⟩ := Text.exists_trim_append (s := d.quote name ++ [')'])
      (by simp [quote_eq, isBlank_openingQuote]) (by simp [isBlank]) s
    rw [hrest, List.append_assoc]
    exact declared_of_none (columnDefinition?_quote hname rfl)

/-- The word of a constraint is no column, nor are blanks in front of it. -/
theorem columnless_constraint {b w p : List Char} (hb : ∀ c ∈ b, isBlank c = true)
    (hw : IsIdentifier w) (hword : CreateTable.isConstraint w = true)
    (hp : EndsTight (' ' :: p)) (hcomma : ',' ∉ b ++ (w ++ ' ' :: p)) :
    Columnless (b ++ (w ++ ' ' :: p)) := by
  refine ⟨hcomma, fun s => ?_⟩
  obtain ⟨x, v, hv⟩ := List.exists_cons_of_ne_nil hw.1
  have hhead : (w ++ ' ' :: p).head?.any isBlank = false := by
    rw [hv]
    exact isBlank_of_isIdent (hw.2 x (hv ▸ List.mem_cons_self))
  obtain ⟨rest, hrest⟩ := Text.exists_trim_append hhead
    (EndsTight.append_left w (List.cons_ne_nil _ _) hp) s
  have hself : w.takeWhile isIdent = w := List.takeWhile_eq_self_iff.2 hw.2
  have hfront : (w ++ ' ' :: (p ++ rest)).takeWhile isIdent = w :=
    Scan.takeWhile_isIdent hw.2 (stops_cons.2 rfl)
  rw [List.append_assoc, Text.trim_blanks_append hb, hrest, List.append_assoc, List.cons_append]
  refine declared_of_isConstraint ?_
  unfold CreateTable.isConstraint at hword ⊢
  rwa [hfront, ← hself]

/-- The names of a list in parentheses declare no columns. -/
theorem declared_names {names : List (List Char)} (hne : names ≠ [])
    (hnames : ∀ name ∈ names, IsIdentifier name) (s : List Char) :
    declared (Text.trimmedPieces ',' (commaSeparated (names.map d.quote) ++ ')' :: s)) =
      declared (Text.trimmedPieces ',' s).tail := by
  induction names with
  | nil => exact absurd rfl hne
  | cons a names ih =>
    have ha := hnames a List.mem_cons_self
    -- Each name is a piece of its own; the last one has the parenthesis behind it.
    cases names with
    | nil =>
      have hlast := (columnless_quote ha d).declared_pieces s
      rw [List.append_assoc] at hlast
      rw [List.map_singleton, commaSeparated_singleton]
      exact hlast
    | cons b names =>
      have hrest := ih (List.cons_ne_nil _ _) fun name hname =>
        hnames name (List.mem_cons_of_mem _ hname)
      have hfirst : columnDefinition? (d.quote a) = none := by
        rw [← List.append_nil (d.quote a)]
        exact columnDefinition?_quote ha rfl
      rw [trimmedPieces_names ha, ← List.singleton_append, declared_append, hrest,
        declared_of_none hfirst]
      rfl

/-- Behind a text with the first name of a list the others declare no columns. -/
theorem declared_tail_names {names : List (List Char)} (hne : names ≠ [])
    (hnames : ∀ name ∈ names, IsIdentifier name) (s : List Char) :
    declared (Text.trimmedPieces ',' (commaSeparated (names.map d.quote) ++ ')' :: s)).tail =
      declared (Text.trimmedPieces ',' s).tail := by
  obtain ⟨a, names, rfl⟩ := List.exists_cons_of_ne_nil hne
  have ha := hnames a List.mem_cons_self
  cases names with
  | nil =>
    obtain ⟨first, hfirst⟩ := Text.exists_trimmedPieces_append (columnless_quote ha d).1 s
    rw [List.append_assoc] at hfirst
    rw [List.map_singleton, commaSeparated_singleton]
    exact congrArg (fun pieces => declared pieces.tail) hfirst
  | cons b names =>
    rw [trimmedPieces_names ha, List.tail_cons]
    exact declared_names (List.cons_ne_nil _ _) (fun name hname =>
      hnames name (List.mem_cons_of_mem _ hname)) s

/-- The definition of a primary key declares no columns. -/
theorem declared_keyDefinition {t : Table} (ht : WritableTable t) (d : Dialect)
    (hne : keyNames t ≠ []) :
    declared (Text.trimmedPieces ',' (keyDefinition d t)) = [] := by
  have hhead : Columnless "  PRIMARY KEY (".toList :=
    columnless_constraint (b := "  ".toList) (w := "PRIMARY".toList) (p := "KEY (".toList)
      (List.all_eq_true.1 rfl) (isIdentifier_of_all rfl) rfl rfl (by decide)
  unfold keyDefinition
  rw [hhead.declared_pieces, declared_tail_names hne (isIdentifier_of_mem_keyNames ht)]
  rfl

/-- A text that begins with a name in quotes declares what is read from it, up to a comma. -/
theorem declared_of_definition {definition name rest : List Char} (hcomma : ',' ∉ definition)
    (htrim : Text.trim definition = d.quote name ++ rest)
    {found : Column × Option ColumnRef}
    (hread : columnDefinition? (Text.trim definition) = some found) :
    declared (Text.trimmedPieces ',' definition) = [found] := by
  have hne : Text.trim definition ≠ [] := by
    rw [htrim, quote_eq]
    exact List.cons_ne_nil _ _
  -- It begins with a quote, so its first word is not that of a constraint.
  have hconstraint : CreateTable.isConstraint (Text.trim definition) = false := by
    have hword : (Text.trim definition).takeWhile isIdent = [] := by
      rw [htrim, quote_eq]
      exact Scan.takeWhile_isIdent (w := []) (by simp) (stops_cons.2 (isIdent_openingQuote d))
    unfold CreateTable.isConstraint
    rw [hword]
    rfl
  rw [Text.trimmedPieces_of_not_mem hcomma]
  unfold declared
  rw [List.filter_cons_of_pos (by simp [hne, hconstraint])]
  show [Text.trim definition].filterMap columnDefinition? = _
  rw [List.filterMap_cons_some hread]
  rfl

/-- The definition of a column declares that column. -/
theorem declared_columnDefinition {c : Column} (hc : WritableColumn c) (d : Dialect) :
    declared (Text.trimmedPieces ',' (columnDefinition d c)) = [(givenColumn d c, none)] :=
  declared_of_definition (not_mem_columnDefinition hc d rfl (by decide))
    (trim_columnDefinition hc d) (columnDefinition?_columnDefinition hc d)

/-- The space that is left of a note is a blank. -/
theorem isBlank_bareNote (note : Option String) : ∀ c ∈ bareNote note, isBlank c = true := by
  cases note with
  | none => exact fun c hc => nomatch hc
  | some note => exact List.forall_mem_singleton.2 rfl

/-- Each definition has its own pieces in the body of a table. -/
theorem trimmedPieces_bareDefinitions {defs : List (List Char × Option String)} (hne : defs ≠ []) :
    Text.trimmedPieces ',' (bareDefinitions defs ++ ['\n']) =
      defs.flatMap fun e => Text.trimmedPieces ',' e.1 := by
  induction defs with
  | nil => exact absurd rfl hne
  | cons e defs ih =>
    obtain ⟨definition, note⟩ := e
    have hbreak (p : List Char) :
        Text.trimmedPieces ',' ('\n' :: p) = Text.trimmedPieces ',' p :=
      Text.trimmedPieces_blanks_append (b := ['\n']) rfl (List.forall_mem_singleton.2 rfl)
    -- The space that is left of a note belongs to the next piece, or to the last one.
    cases defs with
    | nil =>
      have hblanks : ∀ c ∈ bareNote note ++ ['\n'], isBlank c = true := by
        intro c hc
        rcases List.mem_append.1 hc with hc | hc
        · exact isBlank_bareNote note c hc
        · rw [List.mem_singleton.1 hc]
          rfl
      show Text.trimmedPieces ',' ('\n' :: (definition ++ bareNote note) ++ ['\n']) = _
      rw [List.cons_append, hbreak, List.append_assoc, Text.trimmedPieces_append_blanks rfl hblanks]
      simp
    | cons next defs =>
      have hrest := ih (List.cons_ne_nil _ _)
      show Text.trimmedPieces ',' ('\n' :: (definition ++ ',' :: (bareNote note ++
        bareDefinitions (next :: defs))) ++ ['\n']) = _
      rw [List.cons_append, hbreak, List.append_assoc, List.cons_append, Text.trimmedPieces_cons,
        List.append_assoc, Text.trimmedPieces_blanks_append rfl (isBlank_bareNote note), hrest]
      simp

/-- The pieces of several texts declare what those of each text declare. -/
theorem declared_flatMap {α : Type} (f : α → List (List Char)) (l : List α) :
    declared (l.flatMap f) = l.flatMap fun x => declared (f x) := by
  induction l with
  | nil => rfl
  | cons x l ih => rw [List.flatMap_cons, declared_append, ih, List.flatMap_cons]

/-- The body of a table declares its columns. -/
theorem declared_bareBody {t : Table} (ht : WritableTable t) (d : Dialect) (hne : t.columns ≠ []) :
    declared (Text.trimmedPieces ',' (bareBody d t)) =
      t.columns.map fun c => (givenColumn d c, none) := by
  have hdefs : definitions d t ≠ [] := by
    rw [definitions_eq]
    exact List.append_ne_nil_of_left_ne_nil (by simpa using hne) _
  have hcolumns : (t.columns.flatMap fun c =>
      declared (Text.trimmedPieces ',' (columnDefinition d c))) =
        t.columns.map fun c => (givenColumn d c, none) := by
    rw [List.map_eq_flatMap]
    exact List.flatMap_congr fun c hc => declared_columnDefinition (ht.columns c hc) d
  unfold bareBody
  rw [trimmedPieces_bareDefinitions hdefs, declared_flatMap, definitions_eq, List.flatMap_append,
    List.flatMap_map, hcolumns]
  split
  · simp
  · next hkey => simp [declared_keyDefinition ht d hkey]

/-! ## Statements -/

/-- A semicolon that is in no definition is not in all of them together. -/
theorem semicolon_not_mem_bareDefinitions {defs : List (List Char × Option String)}
    (h : ∀ e ∈ defs, ';' ∉ e.1) : ';' ∉ bareDefinitions defs := by
  induction defs with
  | nil => exact List.not_mem_nil
  | cons e defs ih =>
    obtain ⟨definition, note⟩ := e
    have hdef := h (definition, note) List.mem_cons_self
    have hnote : ';' ∉ bareNote note := by
      intro hmem
      exact absurd (isBlank_bareNote note ';' hmem) (by decide)
    cases defs with
    | nil =>
      simp only [bareDefinitions, List.mem_cons, List.mem_append, not_or]
      exact ⟨by decide, hdef, hnote⟩
    | cons next defs =>
      have hrest := ih fun e he => h e (List.mem_cons_of_mem _ he)
      simp only [bareDefinitions, List.mem_cons, List.mem_append, not_or]
      exact ⟨by decide, hdef, by decide, hnote, hrest⟩

/-- A semicolon is not in the body of a table. -/
theorem semicolon_not_mem_bareBody {t : Table} (ht : WritableTable t) (d : Dialect) :
    ';' ∉ bareBody d t := by
  have hdefs : ∀ e ∈ definitions d t, ';' ∉ e.1 := by
    intro e he
    rw [definitions_eq, List.mem_append] at he
    rcases he with he | he
    · obtain ⟨c, hc, rfl⟩ := List.mem_map.1 he
      exact not_mem_columnDefinition (ht.columns c hc) d rfl (by decide)
    · split at he
      · cases he
      · rw [List.mem_singleton.1 he]
        unfold keyDefinition
        simp only [List.mem_append, not_or]
        exact ⟨by decide, not_mem_commaSeparated_quote (isIdentifier_of_mem_keyNames ht) rfl
          (by decide), by decide⟩
  unfold bareBody
  rw [List.mem_append, not_or]
  exact ⟨semicolon_not_mem_bareDefinitions hdefs, by decide⟩

/-- Behind `TABLE` the name of a table is ahead. -/
theorem on_tableWord {α : Type} (r : Reader α) (d : Dialect) (name s : List Char) :
    Reader.on (do Reader.blanks; Reader.keyword "table"; Reader.blanks; r)
      (" TABLE ".toList ++ (d.quote name ++ s)) = r.on (d.quote name ++ s) := by
  have hstart : Reader.blanks.on (" TABLE ".toList ++ (d.quote name ++ s)) =
      (some (), "TABLE".toList ++ ' ' :: (d.quote name ++ s)) := rfl
  have htable : (Reader.keyword "table").on ("TABLE".toList ++ ' ' :: (d.quote name ++ s)) =
      (some (), ' ' :: (d.quote name ++ s)) := Reader.on_keyword (by decide) (stops_cons.2 rfl)
  have hblanks : Reader.blanks.on (' ' :: (d.quote name ++ s)) = (some (), d.quote name ++ s) := by
    rw [Reader.on_blanks, Scan.skipBlanks_cons rfl, skipBlanks_quote]
  rw [Reader.on_bind_of_some hstart, Reader.on_bind_of_some htable, Reader.on_bind_of_some hblanks]

/-- The text of the statement that creates a table with the given body, behind its first word. -/
def createText (d : Dialect) (name body : List Char) : List Char :=
  " TABLE ".toList ++ (d.quote name ++ (" (".toList ++ (body ++ ");".toList)))

/-- The statement that creates a table is read back. -/
theorem createTail_append {name body : List Char} (hname : IsIdentifier name) (hbody : ';' ∉ body)
    (d : Dialect) (s : List Char) :
    Scan.orStay CreateTable.tail? (createText d name body ++ s) = (some ⟨name, body⟩, s) := by
  let behind := " (".toList ++ (body ++ (");".toList ++ s))
  have hsplit : createText d name body ++ s = " TABLE ".toList ++ (d.quote name ++ behind) := by
    unfold createText
    simp only [List.append_assoc, behind]
  -- The name in quotes is not the word `IF`.
  have hif : CreateTable.ifNotExists.on (d.quote name ++ behind) =
      (some (), d.quote name ++ behind) := by
    unfold CreateTable.ifNotExists
    rw [Reader.on_skipping, keyword?_quote (isWord_of_all rfl)]
  have htable : tableName.on (d.quote name ++ behind) = (some name, behind) :=
    tableName_quote hname (by simp [behind])
  have hblanks : Reader.blanks.on behind = (some (), '(' :: (body ++ (");".toList ++ s))) := rfl
  -- The statement ends at its own parenthesis and semicolon, since no other semicolon is in it.
  have huntil : Scan.until? ");".toList (body ++ (");".toList ++ s)) = some (body, s) := by
    have h := Scan.until?_append (a := [')']) (s := s) hbody (by decide)
    rwa [List.append_assoc] at h
  have htail : CreateTable.tail.on (" TABLE ".toList ++ (d.quote name ++ behind)) =
      (some ⟨name, body⟩, s) := by
    unfold CreateTable.tail
    rw [on_tableWord, Reader.on_bind_of_some hif, Reader.on_bind_of_some htable,
      Reader.on_bind_of_some hblanks, Reader.on_bind_of_some (Reader.on_char _ _),
      Reader.on_bind_of_some (Reader.on_before huntil)]
    rfl
  unfold Scan.orStay CreateTable.tail?
  rw [hsplit, htail]

/-- A statement that creates a table is one construct. -/
theorem constructs_create_createText {name body : List Char} (hname : IsIdentifier name)
    (hbody : ';' ∉ body) (d : Dialect) (s : List Char) :
    constructs CreateTable.keyword (Scan.orStay CreateTable.tail?)
      ("CREATE".toList ++ (createText d name body ++ s)) =
        ⟨name, body⟩ :: constructs CreateTable.keyword (Scan.orStay CreateTable.tail?) s := by
  have hlast : (createText d name body).getLast?.any isIdent = false := by
    have hfoot : ");".toList = [')'] ++ [';'] := rfl
    unfold createText
    rw [hfoot]
    simp only [← List.append_assoc]
    rw [List.getLast?_concat]
    rfl
  exact constructs_self twoWords_create.first (by decide) (stops_cons.2 rfl)
    (createTail_append hname hbody d s) (Breaks.of_last hlast)

/-- A statement that creates a table is no statement that alters one. -/
theorem constructs_alter_createText {name body : List Char} (hname : IsIdentifier name)
    (hbody : ∀ s, NotAhead "table".toList s →
      constructs alterKeyword alterTail.on (body ++ s) = constructs alterKeyword alterTail.on s)
    (d : Dialect) (s : List Char) :
    constructs alterKeyword alterTail.on ("CREATE".toList ++ (createText d name body ++ s)) =
      constructs alterKeyword alterTail.on s := by
  have h := twoWords_alter
  have hhead : "CREATE".toList ++ " TABLE ".toList = "CREATE TABLE ".toList := rfl
  have hfoot : NotAhead "table".toList (");".toList ++ s) := NotAhead.mark h.second rfl rfl
  unfold createText
  rw [← List.append_assoc, ← List.append_assoc, hhead]
  simp only [List.append_assoc]
  rw [h.constructs_words ["CREATE", "TABLE"] (by decide +kernel) rfl (by decide),
    h.constructs_quote hname, h.constructs_words [] (by decide +kernel) rfl (by simp),
    hbody _ hfoot]
  exact h.constructs_words [] (by decide +kernel) rfl (by simp) s

/-- The text of the statement that alters a table, behind its first word. -/
def alterText (d : Dialect) (name statement : List Char) : List Char :=
  " TABLE ".toList ++ (d.quote name ++ (statement ++ [';']))

/-- The statement that alters a table is read back. -/
theorem alterTail_append {name statement : List Char} (hname : IsIdentifier name)
    (hstatement : ';' ∉ statement) (hpoint : statement.head? ≠ some '.') (d : Dialect)
    (s : List Char) :
    alterTail.on (alterText d name statement ++ s) = (some (name, statement), s) := by
  let behind := statement ++ ';' :: s
  have hsplit : alterText d name statement ++ s = " TABLE ".toList ++ (d.quote name ++ behind) := by
    unfold alterText
    simp only [List.append_assoc, List.cons_append, List.nil_append, behind]
  have honly : (Reader.optionalKeyword "only").on (d.quote name ++ behind) =
      (some (), d.quote name ++ behind) :=
    Reader.on_optionalKeyword_of_none (keyword?_quote (isWord_of_all rfl) d name behind)
  have hhead : behind.head? ≠ some '.' := by
    cases statement with
    | nil => simp [behind]
    | cons c statement => exact hpoint
  have htable : tableName.on (d.quote name ++ behind) = (some name, behind) :=
    tableName_quote hname hhead
  have hread : (Reader.before ";" <|> get).on behind = (some statement, s) :=
    Reader.on_orElse_of_some (Reader.on_before (Scan.until?_singleton hstatement))
  unfold alterTail
  rw [hsplit, on_tableWord, Reader.on_bind_of_some honly, Reader.on_bind_of_some htable,
    Reader.on_bind_of_some hread]
  rfl

/-- A statement that alters a table is one construct. -/
theorem constructs_alter_alterText {name statement : List Char} (hname : IsIdentifier name)
    (hstatement : ';' ∉ statement) (hpoint : statement.head? ≠ some '.') (d : Dialect)
    (s : List Char) :
    constructs alterKeyword alterTail.on ("ALTER".toList ++ (alterText d name statement ++ s)) =
      (name, statement) :: constructs alterKeyword alterTail.on s := by
  have hlast : (alterText d name statement).getLast?.any isIdent = false := by
    unfold alterText
    simp only [← List.append_assoc]
    rw [List.getLast?_concat]
    rfl
  exact constructs_self twoWords_alter.first (by decide) (stops_cons.2 rfl)
    (alterTail_append hname hstatement hpoint d s) (Breaks.of_last hlast)

/-- A statement that adds a constraint to a table is no statement that creates one. -/
theorem constructs_create_alterText {name constraint : List Char} {k : ForeignKey}
    (hname : IsIdentifier name) (hconstraint : IsIdentifier constraint) (hk : k.Writable)
    (d : Dialect) (s : List Char) :
    constructs CreateTable.keyword (Scan.orStay CreateTable.tail?)
      ("ALTER".toList ++ (alterText d name (addedConstraint d constraint k) ++ s)) =
        constructs CreateTable.keyword (Scan.orStay CreateTable.tail?) s := by
  have h := twoWords_create
  have hhead : "ALTER".toList ++ " TABLE ".toList = "ALTER TABLE ".toList := rfl
  unfold alterText
  rw [← List.append_assoc, ← List.append_assoc, hhead]
  simp only [List.append_assoc]
  rw [h.constructs_words ["ALTER", "TABLE"] (by decide +kernel) rfl (by decide),
    h.constructs_quote hname, h.constructs_addedConstraint hconstraint (by decide),
    h.constructs_foreignClause hk (by decide)]
  exact constructs_cons h.first rfl

/-- The foreign key of the constraint that a statement adds is declared for the table. -/
theorem foreignKeys_addedConstraint {name : List Char} {k : ForeignKey} (hname : IsIdentifier name)
    (hk : k.Writable) (d : Dialect) (table : List Char) :
    foreignKeys table (addedConstraint d name k) = k.relationships table := by
  have h := twoWords_foreign
  have hclause := constructs_foreign_foreignClause hk d []
  have hadded := h.constructs_addedConstraint hname (by decide) d k []
  rw [List.append_nil, constructs_nil] at hclause
  rw [List.append_nil, List.append_nil, hclause] at hadded
  show (constructs _ _ (addedConstraint d name k)).flatMap _ = _
  rw [hadded, List.flatMap_singleton]

end SchemaDiagram.Sql
