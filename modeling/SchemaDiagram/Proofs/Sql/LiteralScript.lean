import SchemaDiagram.Proofs.Sql.Literal

/-!
# Scripts that differ in a literal

Two scripts that differ in the content of one literal define the same schema but for defaults
(`parse_literal`). The proviso is that neither content spells one of the `phrases`, and that what the
literals in front of this one say has not misled the readers (`LiteralScript`). It is needed because
only the constraints of columns are read with literals blanked: a literal that says
`primary key (id)` makes a key of the column `id` (`parse_keyScript`).
-/

namespace SchemaDiagram

open Character

namespace Sql

section literal

variable {u v p : List Char}

/-! ## Up to the end of a statement -/

/-- A stop that has a semicolon is looked for in front of a literal and behind it. -/
theorem until?_literal {stop : List Char} (hquote : '\'' ∉ stop) (hsemicolon : ';' ∈ stop)
    (hu : ';' ∉ u) (p s : List Char) : Scan.until? stop (p ++ (literal u ++ s)) =
      ((Scan.until? stop p).map fun (taken, rest) => (taken, rest ++ (literal u ++ s))).or
        ((Scan.until? stop s).map fun (taken, rest) => (p ++ (literal u ++ taken), rest)) := by
  have hne : stop ≠ [] := List.ne_nil_of_mem hsemicolon
  have hinside : Scan.until? stop u = none := by
    rw [Option.eq_none_iff_forall_not_mem]
    intro found hfound
    rw [Scan.eq_append_of_until? hfound] at hu
    exact hu (by simp [hsemicolon])
  rw [literal_append, Scan.until?_append_cons hquote hne, Scan.until?_append_cons hquote hne u,
    hinside]
  simp only [Option.map_none, Option.none_or, Option.map_map]
  congr 2
  funext found
  simp [literal]

/-- A reader of the text up to the end of a statement does alike whatever a literal in that text
says, as far as the image of the text does not depend on it. -/
theorem readsAlike_upTo {α β : Type} (make : List Char → α) {f : α → β} {r : Reader (List Char)}
    (stop : List Char) (fallback : List Char → Option (List Char))
    (hr : ∀ s, r.on s = match Scan.until? stop s with
      | some (taken, rest) => (some taken, rest)
      | none => (fallback s, s))
    (hquote : '\'' ∉ stop) (hsemicolon : ';' ∈ stop) (hstop : ∀ s, Breaks stop s)
    (hu : ';' ∉ u) (hv : ';' ∉ v)
    (hsame : Scan.until? stop p = none →
      ∀ s, f (make (p ++ (literal u ++ s))) = f (make (p ++ (literal v ++ s))))
    (s : List Char)
    (hfallback : (fallback (p ++ (literal u ++ s))).map (f ∘ make) =
      (fallback (p ++ (literal v ++ s))).map (f ∘ make)) :
    ReadsAlike f (r >>= fun text => pure (make text)).on p (literal u ++ s) (literal v ++ s) := by
  have hon (s : List Char) : (r >>= fun text => (pure (make text) : Reader α)).on s =
      match Scan.until? stop s with
      | some (taken, rest) => (some (make taken), rest)
      | none => ((fallback s).map make, s) := by
    rw [Reader.on_bind, hr]
    cases Scan.until? stop s with
    | some found => rfl
    | none => cases fallback s <;> rfl
  have hbreaks (taken rest : List Char) : Breaks (taken ++ stop) rest :=
    (hstop rest).prepend fun h => absurd h (List.ne_nil_of_mem hsemicolon)
  have huntil {w : List Char} (hw : ';' ∉ w) := until?_literal hquote hsemicolon hw p s
  cases hfront : Scan.until? stop p with
  | some found =>
    obtain ⟨taken, rest⟩ := found
    have hp := Scan.eq_append_of_until? hfront
    refine .within (p := taken ++ stop) (r := rest) (v := some (make taken))
      (w := some (make taken)) ?_ (hbreaks taken rest) ?_ ?_ rfl
    · rw [List.append_assoc]
      exact hp
    · rw [hon, huntil hu, hfront]
      rfl
    · rw [hon, huntil hv, hfront]
      rfl
  | none =>
    cases hback : Scan.until? stop s with
    | some found =>
      obtain ⟨taken, rest⟩ := found
      have hs := Scan.eq_append_of_until? hback
      refine .beyond (p := p ++ (literal u ++ taken) ++ stop) (q := p ++ (literal v ++ taken) ++ stop)
        (r := rest) ?_ ?_ (hbreaks _ rest) (hbreaks _ rest) ?_ ?_ (hsame hfront taken)
      · rw [hs]
        simp only [List.append_assoc]
      · rw [hs]
        simp only [List.append_assoc]
      · rw [hon, huntil hu, hfront, hback]
        rfl
      · rw [hon, huntil hv, hfront, hback]
        rfl
    | none =>
      refine .within (p := []) (r := p) rfl Breaks.nil ?_ ?_
        (v := (fallback (p ++ (literal u ++ s))).map make)
        (w := (fallback (p ++ (literal v ++ s))).map make) ?_
      · rw [hon, huntil hu, hfront, hback]
        rfl
      · rw [hon, huntil hv, hfront, hback]
        rfl
      · rwa [Option.map_map, Option.map_map]

end literal

/-! ## The bodies of tables -/

/-- A place in the body of a table that is created: behind the head of the statement, with a quote in
between and no end. -/
def InBody (a : List Char) : Prop :=
  ∃ b w z d, a = b ++ (w ++ (z ++ '\'' :: d)) ∧ b.getLast?.any isIdent = false ∧
    Text.sameLetters w CreateTable.keyword.letters = true ∧ Stops z ∧
    (createHead.on z).1.isSome = true ∧ ¬");".toList <:+: z ++ '\'' :: d

/-- A statement that creates a table is its head and the text up to its end. -/
theorem tail?_createTable (s : List Char) : CreateTable.tail? s =
    match createHead.on s with
    | (some name, t) => (Scan.until? ");".toList t).map fun (body, rest) => (⟨name, body⟩, rest)
    | (none, _) => none := by
  unfold CreateTable.tail?
  rw [createTail_eq, Reader.on_bind]
  rcases createHead.on s with ⟨name | name, t⟩
  · rfl
  · have hbefore : (Reader.before ");").on t = Scan.orStay (Scan.until? ");".toList) t :=
      Reader.on_ofOption _ t
    simp only [Reader.on_bind, hbefore, Scan.orStay]
    cases Scan.until? ");".toList t <;> rfl

/-- What is taken of a statement ends with its end. -/
theorem exists_of_tail?_createTable {t rest : List Char} {statement : CreateTable}
    (h : CreateTable.tail? t = some (statement, rest)) : ∃ q, t = q ++ (");".toList ++ rest) := by
  obtain ⟨p, hp, -, -⟩ := (avoids_createHead isBarrier_quote).passed t
  rw [tail?_createTable] at h
  rcases hhead : createHead.on t with ⟨name | name, behind⟩
  · rw [hhead] at h
    cases h
  · rw [hhead] at h hp
    obtain ⟨⟨body, rest'⟩, huntil, heq⟩ := Option.map_eq_some_iff.1 h
    obtain ⟨-, rfl⟩ := Prod.mk.inj heq
    refine ⟨p ++ body, ?_⟩
    rw [hp, Scan.eq_append_of_until? huntil, List.append_assoc]

/-- There is no text up to a stop exactly if the stop is nowhere in the text. -/
theorem until?_eq_none_iff {stop s : List Char} : Scan.until? stop s = none ↔ ¬stop <:+: s := by
  constructor
  · rintro h ⟨p, rest, rfl⟩
    obtain ⟨taken, behind, hself⟩ := Scan.exists_until?_append stop p
    rw [Scan.until?_append_of_some hself rest] at h
    cases h
  · intro h
    by_contra hne
    obtain ⟨⟨taken, rest⟩, hs⟩ := Option.ne_none_iff_exists'.1 hne
    exact h ⟨taken, rest, by rw [Scan.eq_append_of_until? hs, List.append_assoc]⟩

/-- If the search comes to a place in the body of a table, then no statement ends behind it. -/
theorem InBody.tail?_eq_none {p x a w s : List Char} (h : InBody a)
    (hreaches : Reaches CreateTable.keyword (Scan.orStay CreateTable.tail?) p x a (w ++ s)) :
    CreateTable.tail? (s ++ x) = none := by
  obtain ⟨b, v, z, d, hsplit, hb, hsame, hz, hhead, hnot⟩ := h
  have hstop : ∀ c ∈ ");".toList, isIdent c = false :=
    List.forall_mem_cons.2 ⟨rfl, List.forall_mem_singleton.2 rfl⟩
  have hz' : Stops (z ++ '\'' :: d) := by
    cases z with
    | nil => exact stops_quote d
    | cons c z => exact stops_cons.2 (stops_cons.1 hz)
  have hnone := hreaches.eq_none twoWords_create.first
    (fun _ _ _ htaken => exists_of_tail?_createTable htaken) hstop hsplit hb hsame hz' hnot
  -- The head of the statement is read, so it is the end that is missing.
  have hend : ¬");".toList <:+: s ++ x := by
    rw [List.append_assoc, List.cons_append, tail?_createTable,
      (avoids_createHead isBarrier_quote).confined] at hnone
    rcases hon : createHead.on z with ⟨name | name, r⟩
    · rw [hon] at hhead
      cases hhead
    · rw [hon] at hnone
      have huntil := until?_eq_none_iff.1 (Option.map_eq_none_iff.1 hnone)
      refine fun hstop => huntil (hstop.trans (List.IsSuffix.isInfix ⟨r ++ '\'' :: (d ++ w), ?_⟩))
      simp
  by_contra hne
  obtain ⟨⟨statement, rest⟩, htaken⟩ := Option.ne_none_iff_exists'.1 hne
  obtain ⟨q, hq⟩ := exists_of_tail?_createTable htaken
  exact hend ⟨q, rest, by rw [hq, List.append_assoc]⟩

/-! ## Scripts -/

/-- A part of a script behind which a literal may stand. But for the first condition this is about what
the literals in that part say, since readers of statements and clauses do not skip them. -/
structure LiteralScript (script : List Char) : Prop where
  /-- Its end is outside quotes and comments. -/
  code : placeBehind .code script = .code
  /-- `CREATE TABLE` stands outside quotes, unless it is in the body of a table. -/
  create : ∀ a s, stripComments script = a ++ s →
    phraseAt CreateTable.keyword.letters "table".toList a s = true →
      Even (a.count '\'') ∨ InBody a
  /-- The last comma stands outside quotes, unless a statement has ended behind it. -/
  comma : ∀ a s, stripComments script = a ++ ',' :: s → ',' ∉ s →
    Even (a.count '\'') ∨ ");".toList <:+: s
  /-- No list of a primary key is open. -/
  primary : ∀ x, Apart CreateTable.primaryKeyword CreateTable.primaryKeyTail.on
    (stripComments script) ('\'' :: x)
  /-- No foreign key is open. -/
  foreign : ∀ x, Apart ForeignKey.keyword ForeignKey.tail.on (stripComments script) ('\'' :: x)

section script

variable {script u v : List Char}

/-- A part of a script behind which a literal does not matter has an even number of quotes. -/
theorem LiteralScript.even_count (h : LiteralScript script) :
    Even ((stripComments script).count '\'') :=
  (even_count_quote .code script).2 (by simp [h.code])

/-- Where the body of a table begins outside quotes and has not ended, the rest of the script is a place
for the literal. -/
theorem LiteralScript.place (h : LiteralScript script) {a b : List Char}
    (hsplit : stripComments script = a ++ b) (hbreaks : Breaks a b) (ha : Even (a.count '\''))
    (hend : Scan.until? ");".toList b = none) : LiteralPlace b := by
  have hall := h.even_count
  have hbehind {a b : List Char} (hsplit : stripComments script = a ++ b)
      (ha : Even (a.count '\'')) : Even (b.count '\'') := by
    rw [hsplit, List.count_append, Nat.even_add] at hall
    exact hall.1 ha
  refine ⟨hbehind hsplit ha, fun c q hc hq => ?_, fun x => ?_, fun x => ?_⟩
  · have hcomma : stripComments script = (a ++ c) ++ ',' :: q := by
      rw [hsplit, hc, List.append_assoc]
    have hopen : ¬");".toList <:+: q := fun hstop => until?_eq_none_iff.1 hend
      (hstop.trans (List.IsSuffix.isInfix ⟨c ++ [','], by simp [hc]⟩))
    have heven := hbehind hcomma ((h.comma _ q hcomma hq).resolve_right hopen)
    rwa [List.count_cons_of_ne (by decide)] at heven
  · exact Apart.of_append (isWord_of_all rfl) (hsplit ▸ h.primary x) hbreaks
  · exact Apart.of_append (isWord_of_all rfl) (hsplit ▸ h.foreign x) hbreaks

/-- A statement that is read begins with its two words. -/
theorem phraseAt_of_createHead {a w s b name : List Char} (hfront : a.getLast?.any isIdent = false)
    (hsame : Text.sameLetters w CreateTable.keyword.letters = true) (hs : Stops s)
    (hread : createHead.on s = (some name, b)) :
    phraseAt CreateTable.keyword.letters "table".toList a (w ++ s) = true := by
  have hahead : ¬NotAhead "table".toList s := by
    intro hnot
    obtain ⟨p, rest, -, -, hnone⟩ := needs_keyword "table" _ s hnot
    have hnone' : createHead.on s = (none, rest) := hnone
    rw [hread] at hnone'
    cases hnone'
  unfold phraseAt
  rw [hfront, Scan.keyword?_append hsame hs]
  simpa [NotAhead, Option.isSome_iff_ne_none] using hahead

/-- A reader that stays where it is when it fails does alike if it does so otherwise. -/
theorem readsAlike_tail? {β : Type} {f : CreateTable → β} {s x y : List Char}
    (h : ReadsAlike f CreateTable.tail.on s x y) :
    ReadsAlike f (Scan.orStay CreateTable.tail?) s x y := by
  have hsome {t rest : List Char} {value : CreateTable}
      (hon : CreateTable.tail.on t = (some value, rest)) :
      Scan.orStay CreateTable.tail? t = (some value, rest) := by
    unfold Scan.orStay CreateTable.tail?
    rw [hon]
  have hnone {t rest : List Char} (hon : CreateTable.tail.on t = (none, rest)) :
      Scan.orStay CreateTable.tail? t = (none, t) := by
    unfold Scan.orStay CreateTable.tail?
    rw [hon]
  cases h with
  | @within passed rest v w split breaks left right same =>
    cases v with
    | none =>
      cases w with
      | none =>
        exact .within (p := []) (r := s) rfl Breaks.nil (hnone left) (hnone right) rfl
      | some value => cases same
    | some value =>
      cases w with
      | none => cases same
      | some value' => exact .within split breaks (hsome left) (hsome right) same
  | beyond splitLeft splitRight breaksLeft breaksRight left right same =>
    exact .beyond splitLeft splitRight breaksLeft breaksRight (hsome left) (hsome right) same

/-- Behind `CREATE` the same is read whatever the literal says, but for defaults. -/
theorem LiteralScript.readsAlike_create (h : LiteralScript script) (hu : InertContent u)
    (hv : InertContent v) (c : List Char) {a w s : List Char}
    (hleft : Reaches CreateTable.keyword (Scan.orStay CreateTable.tail?) (stripComments script)
      (literal u ++ c) a (w ++ s))
    (hright : Reaches CreateTable.keyword (Scan.orStay CreateTable.tail?) (stripComments script)
      (literal v ++ c) a (w ++ s))
    (hsame : Text.sameLetters w CreateTable.keyword.letters = true) (hs : Stops s) :
    ReadsAlike CreateTable.withoutDefaults (Scan.orStay CreateTable.tail?) s (literal u ++ c)
      (literal v ++ c) := by
  have hsplit := hleft.text
  have hfront := hleft.breaks.front (twoWords_create.first.isIdentifier hsame)
  by_cases hbody : InBody a
  · -- Nothing is taken in either text.
    refine .within (p := []) (r := s) (v := none) (w := none) rfl Breaks.nil ?_ ?_ rfl
    · rw [Scan.orStay, hbody.tail?_eq_none hleft]
    · rw [Scan.orStay, hbody.tail?_eq_none hright]
  have hword : '\'' ∉ w :=
    isBarrier_quote.not_mem (Scan.isIdent_of_sameLetters twoWords_create.first.2 hsame)
  refine readsAlike_tail? ?_
  rw [createTail_eq, literal_append, literal_append]
  refine (avoids_createHead isBarrier_quote).readsAlike fun name z b hz hquote hbreaks hread => ?_
  rw [← literal_append, ← literal_append]
  have hplaced : stripComments script = (a ++ (w ++ z)) ++ b := by
    rw [hsplit, hz]
    simp only [List.append_assoc]
  -- The body begins outside quotes, since the statement does and its head has none.
  have heven : Even ((a ++ (w ++ z)).count '\'') := by
    have hphrase := phraseAt_of_createHead hfront hsame hs hread
    have hcreate := (h.create a (w ++ s) hsplit hphrase).resolve_right hbody
    simpa [List.count_append, List.count_eq_zero_of_not_mem hword,
      List.count_eq_zero_of_not_mem hquote] using hcreate
  have hinto : Breaks (a ++ (w ++ z)) b := by
    rw [← List.append_assoc]
    exact hbreaks.prepend_of_stops (hz ▸ hs)
  have hplace := h.place hplaced hinto heven
  have hstop : ∀ x ∈ ");".toList, isIdent x = false :=
    List.forall_mem_cons.2 ⟨rfl, List.forall_mem_singleton.2 rfl⟩
  refine readsAlike_upTo (CreateTable.mk name) ");".toList (fun _ => none) (fun s => ?_) (by decide)
    (by decide) (fun s => Breaks.of_forall hstop) hu.semicolon hv.semicolon
    (fun hend => withoutDefaults_literal (hplace hend) hu hv name) c rfl
  unfold Reader.before
  rw [Reader.on_ofOption, Scan.orStay]
  cases Scan.until? ");".toList s <;> rfl

/-- Behind `ALTER` the same is read whatever the literal says, as far as foreign keys go. -/
theorem LiteralScript.readsAlike_alter (h : LiteralScript script) (hu : InertContent u)
    (hv : InertContent v) (c : List Char) {a w s : List Char}
    (hsplit : stripComments script = a ++ (w ++ s)) (hs : Stops s) :
    ReadsAlike (fun t : List Char × List Char => foreignKeys t.1 t.2) alterTail.on s (literal u ++ c)
      (literal v ++ c) := by
  rw [alterTail_eq, literal_append, literal_append]
  refine (avoids_alterHead isBarrier_quote).readsAlike fun table z b hz hquote hbreaks hread => ?_
  rw [← literal_append, ← literal_append]
  have hbody : stripComments script = (a ++ (w ++ z)) ++ b := by
    rw [hsplit, hz]
    simp only [List.append_assoc]
  have hinto : Breaks (a ++ (w ++ z)) b := by
    rw [← List.append_assoc]
    exact hbreaks.prepend_of_stops (hz ▸ hs)
  have hforeign (x : List Char) :=
    Apart.of_append (isWord_of_all rfl) (hbody ▸ h.foreign x) hinto
  have hsame := foreignKeys_literal hforeign hu hv table
  have hstop : ∀ x ∈ ";".toList, isIdent x = false := List.forall_mem_singleton.2 rfl
  refine readsAlike_upTo (Prod.mk table) ";".toList some (fun s => ?_) (by decide) (by decide)
    (fun s => Breaks.of_forall hstop) hu.semicolon hv.semicolon (fun _ => hsame) c
    (congrArg some (hsame c))
  have hbefore : (Reader.before ";").on s = Scan.orStay (Scan.until? ";".toList) s :=
    Reader.on_ofOption _ s
  cases huntil : Scan.until? ";".toList s with
  | some found =>
    rw [Scan.orStay, huntil] at hbefore
    exact Reader.on_orElse_of_some hbefore
  | none =>
    rw [Scan.orStay, huntil] at hbefore
    exact Reader.on_orElse_of_none hbefore

/-- The tables that are created and their relationships do not depend on what the literal says. -/
theorem LiteralScript.map_findAll (h : LiteralScript script) (hu : InertContent u)
    (hv : InertContent v) (c : List Char) :
    (CreateTable.findAll (stripComments script ++ (literal u ++ c))).map
        CreateTable.withoutDefaults =
      (CreateTable.findAll (stripComments script ++ (literal v ++ c))).map
        CreateTable.withoutDefaults := by
  have hmem : (CreateTable.keyword.letters, "table".toList) ∈ phrases := by simp [phrases]
  have hend {w : List Char} (hw : InertContent w) :=
    twoWords_create.constructs_literal (hw.phrase _ hmem) c
  refine map_constructs_congr twoWords_create.first (stops_quote _) (stops_quote _) ?_
    fun _ _ _ hleft hright hsame hs => h.readsAlike_create hu hv c hleft hright hsame hs
  exact congrArg (List.map CreateTable.withoutDefaults) ((hend hu).trans (hend hv).symm)

/-- The foreign keys of altered tables do not depend on what the literal says. -/
theorem LiteralScript.alteredForeignKeys_eq (h : LiteralScript script) (hu : InertContent u)
    (hv : InertContent v) (c : List Char) :
    alteredForeignKeys (stripComments script ++ (literal u ++ c)) =
      alteredForeignKeys (stripComments script ++ (literal v ++ c)) := by
  have hmem : (alterKeyword.letters, "table".toList) ∈ phrases := by simp [phrases]
  have hend {w : List Char} (hw : InertContent w) :=
    twoWords_alter.constructs_literal (hw.phrase _ hmem) c
  have hmap := map_constructs_congr twoWords_alter.first (stops_quote _) (stops_quote _)
    (congrArg (List.map fun t => foreignKeys t.1 t.2) ((hend hu).trans (hend hv).symm))
    fun _ _ _ hleft _ _ hs => h.readsAlike_alter hu hv c hleft.text hs
  rw [Sql.alteredForeignKeys_eq, Sql.alteredForeignKeys_eq, List.flatMap_def, List.flatMap_def]
  exact congrArg List.flatten hmap

/-- What a script defines apart from defaults. -/
theorem withoutDefaults_schemaOf (script : List Char) : (Sql.schemaOf script).withoutDefaults =
    Schema.markForeignKeys
      { tables := (((CreateTable.findAll script).map CreateTable.withoutDefaults).map
          Prod.fst).filter (·.columns ≠ [])
        relationships := ((CreateTable.findAll script).map
          CreateTable.withoutDefaults).flatMap Prod.snd ++ alteredForeignKeys script } := by
  have htables (tables : List Table) : (tables.filter (·.columns ≠ [])).map Table.withoutDefaults =
      (tables.map Table.withoutDefaults).filter (·.columns ≠ []) := by
    rw [List.filter_map]
    congr 2
    funext t
    simp [Table.withoutDefaults]
  unfold Sql.schemaOf
  rw [Schema.withoutDefaults_markForeignKeys]
  unfold Schema.withoutDefaults
  simp only [htables, List.map_map, List.flatMap_map]
  rfl

/-- What a script defines apart from defaults does not depend on what the literal says. -/
theorem LiteralScript.schemaOf (h : LiteralScript script) (hu : InertContent u)
    (hv : InertContent v) (c : List Char) :
    (schemaOf (stripComments script ++ (literal u ++ c))).withoutDefaults =
      (schemaOf (stripComments script ++ (literal v ++ c))).withoutDefaults := by
  have hcreate := h.map_findAll hu hv c
  have haltered := h.alteredForeignKeys_eq hu hv c
  rw [withoutDefaults_schemaOf, withoutDefaults_schemaOf, hcreate, haltered]

end script

/-- Scripts that differ in the content of one literal both define no table, or they define schemas
that are equal but for defaults: the same tables and columns with the same types and flags, and the
same relationships. -/
theorem parse_literal {p u v : String} (hp : LiteralScript p.toList) (hu : InertContent u.toList)
    (hv : InertContent v.toList) (s : String) :
    (parse (p ++ "'" ++ u ++ "'" ++ s)).map Schema.withoutDefaults =
      (parse (p ++ "'" ++ v ++ "'" ++ s)).map Schema.withoutDefaults := by
  have hstrip {w : String} (hw : InertContent w.toList) :
      stripComments (p ++ "'" ++ w ++ "'" ++ s).toList =
        stripComments p.toList ++ (literal w.toList ++ stripComments s.toList) := by
    have htext : (p ++ "'" ++ w ++ "'" ++ s).toList =
        p.toList ++ '\'' :: (w.toList ++ '\'' :: s.toList) := by
      simp [String.toList_append]
    have hplain := Plain.quoted hw.quote s.toList
    unfold stripComments
    rw [htext, strip_append_cons (by decide) (by decide), hp.code, ← literal_append]
    exact congrArg (stripComments p.toList ++ ·) hplain
  have hschema := hp.schemaOf hu hv (stripComments s.toList)
  have hempty (s : Schema) : s.tables = [] ↔ s.withoutDefaults.tables = [] :=
    List.map_eq_nil_iff.symm
  unfold parse
  rw [hstrip hu, hstrip hv]
  simp only
  by_cases hu' : (schemaOf (stripComments p.toList ++
      (literal u.toList ++ stripComments s.toList))).tables = []
  · have hv' := (hempty _).2 (hschema ▸ (hempty _).1 hu')
    rw [if_pos hu', if_pos hv']
  · have hv' := fun h => hu' ((hempty _).2 (hschema ▸ (hempty _).1 h))
    rw [if_neg hu', if_neg hv']
    exact congrArg Except.ok hschema

/-- What holds wherever a text is divided can be tested place by place. -/
theorem forall_append_of_forall_le {P : List Char → List Char → Prop} {l : List Char}
    (h : ∀ n ≤ l.length, P (l.take n) (l.drop n)) : ∀ a s, l = a ++ s → P a s := by
  rintro a s rfl
  have hplace := h a.length (by simp)
  rwa [List.take_left, List.drop_left] at hplace

/-- A script up to a literal, with a quote in a comment, and with a comma and the beginning of a
statement in another literal. -/
def openScript : String :=
  "-- it's\nCREATE TABLE t (id int, note text DEFAULT 'create table, b', kind text NOT NULL DEFAULT "

/-- That literal is in the body of a table. -/
theorem inBody_openScript :
    InBody "\nCREATE TABLE t (id int, note text DEFAULT '".toList :=
  ⟨['\n'], "CREATE".toList, " TABLE t (id int, note text DEFAULT ".toList, [], by decide +kernel,
    by decide +kernel, by decide +kernel, stops_cons.2 rfl, by decide +kernel, by decide +kernel⟩

/-- Behind that part of a script a literal may stand. -/
theorem literalScript_openScript : LiteralScript openScript.toList := by
  have hprimary : ∀ n < (stripComments openScript.toList).length, Text.sameLetters
      (((stripComments openScript.toList).drop n).take CreateTable.primaryKeyword.letters.length)
      CreateTable.primaryKeyword.letters = false := by decide +kernel
  have hforeign : ∀ n < (stripComments openScript.toList).length, Text.sameLetters
      (((stripComments openScript.toList).drop n).take ForeignKey.keyword.letters.length)
      ForeignKey.keyword.letters = false := by decide +kernel
  have hcomma : ∀ a s, stripComments openScript.toList = a ++ s →
      s.head? = some ',' → ',' ∉ s.tail → Even (a.count '\'') ∨ ");".toList <:+: s.tail :=
    forall_append_of_forall_le (by decide +kernel)
  have hcreate : ∀ a s, stripComments openScript.toList = a ++ s →
      phraseAt CreateTable.keyword.letters "table".toList a s = true → Even (a.count '\'') ∨
        a = "\nCREATE TABLE t (id int, note text DEFAULT '".toList :=
    forall_append_of_forall_le (by decide +kernel)
  refine ⟨by decide +kernel, fun a s hs hphrase => ?_, fun a s hs => hcomma a (',' :: s) hs rfl,
    fun x => ?_, fun x => ?_⟩
  · rcases hcreate a s hs hphrase with heven | rfl
    · exact .inl heven
    · exact .inr inBody_openScript
  · refine (apart_iff (isWord_of_all rfl)).2 fun n hn _ hsame => ?_
    rw [hprimary n hn] at hsame
    cases hsame
  · refine (apart_iff (isWord_of_all rfl)).2 fun n hn _ hsame => ?_
    rw [hforeign n hn] at hsame
    cases hsame

/-- Words that are flags elsewhere are inert. -/
theorem inertContent_unique : InertContent "unique (primary)".toList :=
  ⟨by decide, by decide, by decide, fun e he p s h =>
    forall_append_of_forall_le (P := fun p s => ∀ e ∈ phrases, phraseAt e.1 e.2 p s = false)
      (by decide +kernel) p s h e he⟩

/-- The empty content is inert. -/
theorem inertContent_empty : InertContent "".toList :=
  ⟨by decide, by decide, by decide, fun e he p s h =>
    forall_append_of_forall_le (P := fun p s => ∀ e ∈ phrases, phraseAt e.1 e.2 p s = false)
      (by decide +kernel) p s h e he⟩

/-- In that script a literal may say anything that is inert. -/
theorem parse_literal_openScript :
    (parse (openScript ++ "'" ++ "unique (primary)" ++ "'" ++ ", PRIMARY KEY (id));")).map
        Schema.withoutDefaults =
      (parse (openScript ++ "'" ++ "" ++ "'" ++ ", PRIMARY KEY (id));")).map
        Schema.withoutDefaults :=
  parse_literal literalScript_openScript inertContent_unique inertContent_empty _

/-- A script with a literal in it. -/
def keyScript (content : String) : String :=
  "CREATE TABLE t (id int, x text DEFAULT '" ++ content ++ "');"

/-- The schema of that script, in which the first column is in the primary key or not. -/
def keySchema (isKey : Bool) (content : String) : Schema :=
  { tables :=
      [⟨"t", [
        { name := "id", type := "integer", isPrimaryKey := isKey },
        { name := "x", type := "text", defaultValue := some ("'" ++ content ++ "'") }]⟩]
    relationships := [] }

/-- Whether the first column is in the primary key depends on what the literal says. -/
theorem parse_keyScript :
    parse (keyScript "primary key (id)") = .ok (keySchema true "primary key (id)") ∧
      parse (keyScript "") = .ok (keySchema false "") := by
  decide +kernel

end Sql

end SchemaDiagram
