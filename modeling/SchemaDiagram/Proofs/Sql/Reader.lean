import SchemaDiagram.Proofs.Text.Blank
import SchemaDiagram.Proofs.Text.Search
import SchemaDiagram.Sql.Parse
import SchemaDiagram.Sql.Print

/-!
# What the readers of SQL take

A `Reader` runs its parts one behind the other and stops at the first one that fails (`on_bind`,
`on_bind_of_some`, `on_bind_of_none`). A name in the quotes of a dialect is read back
(`ident_quote`), alone, as the name of a table and in a list.

All constructs of SQL begin with two words (`TwoWords`). A reader that `Needs` the second one gets
no further than over blanks without it, so a first word that stands alone, in quotes for instance,
adds no construct (`TwoWords.constructs_identifier`).
-/

namespace SchemaDiagram.Sql

open Character

/-! ## Readers in sequence -/

namespace Reader

variable {α β : Type} {r : Reader α} {f : α → Reader β} {s t : List Char} {a : α}

/-- A reader in front of another hands it what it found, or stops both. -/
theorem on_bind (r : Reader α) (f : α → Reader β) (s : List Char) :
    (r >>= f).on s = match r.on s with
      | (some a, t) => (f a).on t
      | (none, t) => (none, t) := by
  show (match r s with | (a, t) => _ : Id (Option β × List Char)) = _
  unfold on OptionT.run
  cases h : r s with
  | mk a t => cases a <;> (simp [bind, OptionT.bind, OptionT.mk, StateT.bind, h]; try rfl)

/-- Behind a reader that found something the next one goes on. -/
theorem on_bind_of_some (h : r.on s = (some a, t)) : (r >>= f).on s = (f a).on t := by
  rw [on_bind, h]

/-- Behind a reader that failed no other one goes on. -/
theorem on_bind_of_none (h : r.on s = (none, t)) : (r >>= f).on s = (none, t) := by
  rw [on_bind, h]

/-- An alternative is not tried if the first reader found something. -/
theorem on_orElse_of_some {u : Reader α} (h : r.on s = (some a, t)) :
    (r <|> u).on s = (some a, t) := by
  have hr : r s = (some a, t) := h
  unfold on OptionT.run
  simp [HOrElse.hOrElse, OrElse.orElse, Alternative.orElse, OptionT.orElse, OptionT.mk, bind,
    StateT.bind, hr]
  rfl

/-- An alternative is tried where the first reader stopped if that failed. -/
theorem on_orElse_of_none {u : Reader α} (h : r.on s = (none, t)) : (r <|> u).on s = u.on t := by
  have hr : r s = (none, t) := h
  unfold on OptionT.run
  simp [HOrElse.hOrElse, OrElse.orElse, Alternative.orElse, OptionT.orElse, OptionT.mk, bind,
    StateT.bind, hr]

/-- A reader that is an optional step finds what that finds, or stays. -/
theorem on_ofOption (read? : List Char → Option (α × List Char)) (s : List Char) :
    (ofOption read?).on s = Scan.orStay read? s := rfl

/-- A reader that passes over something finds nothing else. -/
theorem on_skipping (skip : List Char → List Char) (s : List Char) :
    (skipping skip).on s = (some (), skip s) := rfl

/-- Blanks are always passed over. -/
theorem on_blanks (s : List Char) : blanks.on s = (some (), Scan.skipBlanks s) := rfl

/-- A keyword is read if it is ahead. -/
theorem on_keyword {word : String} {w s : List Char}
    (h : Text.sameLetters w word.toList = true) (hs : Stops s) :
    (keyword word).on (w ++ s) = (some (), s) := by
  unfold keyword
  rw [on_ofOption, Scan.orStay, Scan.keyword?_append h hs]
  rfl

/-- Where a keyword is not ahead, its reader stays. -/
theorem on_keyword_of_none {word : String} (h : Scan.keyword? word.toList s = none) :
    (keyword word).on s = (none, s) := by
  unfold keyword
  rw [on_ofOption, Scan.orStay, h]
  rfl

/-- Where an optional keyword is not ahead, nothing is passed over. -/
theorem on_optionalKeyword_of_none {word : String} (h : Scan.keyword? word.toList s = none) :
    (optionalKeyword word).on s = (some (), s) := by
  unfold optionalKeyword
  rw [on_skipping, h]

/-- A character is read if it is ahead. -/
theorem on_char (c : Char) (s : List Char) : (char c).on (c :: s) = (some (), s) := by
  unfold char
  rw [on_ofOption, Scan.orStay, Scan.char?, if_pos (beq_self_eq_true c)]
  rfl

/-- The text before a stop is read. -/
theorem on_before {stop : String} {p : List Char} (h : Scan.until? stop.toList s = some (p, t)) :
    (before stop).on s = (some p, t) := by
  unfold before
  rw [on_ofOption, Scan.orStay, h]

end Reader

/-! ## Names in quotes -/

/-- The character that a dialect opens quotes with. -/
def Dialect.openingQuote : Dialect → Char
  | .mySql => '\x60'
  | .sqlServer => '['
  | .postgreSql | .sqlite => '"'

/-- The character that a dialect closes quotes with. -/
def Dialect.closingQuote : Dialect → Char
  | .mySql => '\x60'
  | .sqlServer => ']'
  | .postgreSql | .sqlite => '"'

/-- A name in quotes stands between the two quotes of the dialect. -/
theorem quote_eq (d : Dialect) (name : List Char) :
    d.quote name = d.openingQuote :: (name ++ [d.closingQuote]) := by
  cases d <;> rfl

/-- An opening quote is known as one. -/
theorem isOpeningQuote_openingQuote (d : Dialect) : isOpeningQuote d.openingQuote = true := by
  cases d <;> rfl

/-- A closing quote is known as one. -/
theorem isClosingQuote_closingQuote (d : Dialect) : isClosingQuote d.closingQuote = true := by
  cases d <;> rfl

/-- Opening quotes are no identifier characters. -/
theorem isIdent_openingQuote (d : Dialect) : isIdent d.openingQuote = false := by
  cases d <;> decide

/-- Closing quotes are no identifier characters. -/
theorem isIdent_closingQuote (d : Dialect) : isIdent d.closingQuote = false := by
  cases d <;> decide

/-- Opening quotes are no blanks. -/
theorem isBlank_openingQuote (d : Dialect) : isBlank d.openingQuote = false := by
  cases d <;> decide

/-- Closing quotes are no blanks. -/
theorem isBlank_closingQuote (d : Dialect) : isBlank d.closingQuote = false := by
  cases d <;> decide

variable {d : Dialect} {name s : List Char}

/-- The marks that one dialect or another quotes names with. -/
def quoteMarks : List Char :=
  ['"', '\x60', '[', ']']

/-- A character that is neither such a mark nor of identifiers is not in a name in quotes. -/
theorem not_mem_quote (hname : IsIdentifier name) {c : Char} (hc : isIdent c = false)
    (hmark : c ∉ quoteMarks) : c ∉ d.quote name := by
  have hmarks : d.openingQuote ∈ quoteMarks ∧ d.closingQuote ∈ quoteMarks := by
    cases d <;> decide
  rw [quote_eq]
  intro h
  rcases List.mem_cons.1 h with rfl | h
  · exact hmark hmarks.1
  · rcases List.mem_append.1 h with h | h
    · rw [hname.2 c h] at hc
      cases hc
    · exact hmark (List.mem_singleton.1 h ▸ hmarks.2)

/-- A name in quotes is trimmed. -/
theorem trim_quote (d : Dialect) (name : List Char) : Text.trim (d.quote name) = d.quote name := by
  rw [quote_eq]
  refine Text.trim_of_ends ?_ ?_
  · simp [isBlank_openingQuote]
  · simp [List.getLast?_cons, isBlank_closingQuote]

/-- Blanks do not come in front of a name in quotes. -/
theorem skipBlanks_quote (d : Dialect) (name s : List Char) :
    Scan.skipBlanks (d.quote name ++ s) = d.quote name ++ s := by
  rw [quote_eq]
  exact Scan.skipBlanks_of_not (isBlank_openingQuote d)

/-- A name in quotes is no keyword. -/
theorem keyword?_quote {word : List Char} (hword : IsWord word) (d : Dialect)
    (name s : List Char) : Scan.keyword? word (d.quote name ++ s) = none := by
  rw [quote_eq]
  exact Scan.keyword?_of_stops hword.1 hword.2 (stops_cons.2 (isIdent_openingQuote d))

/-- A name in quotes is an identifier of its text. -/
theorem identifiers_quote {name : List Char} (hname : IsIdentifier name) :
    identifiers (d.quote name ++ s) = name :: identifiers s := by
  have hclose : isIdent d.closingQuote = false := isIdent_closingQuote d
  rw [quote_eq, List.cons_append, identifiers_cons (isIdent_openingQuote d), List.append_assoc,
    List.singleton_append, identifiers_word hname (stops_cons.2 hclose), identifiers_cons hclose]

/-- The search for a keyword ends at a name in quotes that is the keyword. -/
theorem behind?_quote {word name : List Char} (hword : IsWord word) (hname : IsIdentifier name) :
    Cursor.behind? word (d.quote name ++ s) =
      if Text.sameLetters name word then some (d.closingQuote :: s)
      else Cursor.behind? word s := by
  have hclose : isIdent d.closingQuote = false := isIdent_closingQuote d
  rw [quote_eq, List.cons_append, Cursor.behind?_cons hword (isIdent_openingQuote d),
    List.append_assoc, List.singleton_append]
  cases h : Text.sameLetters name word with
  | true => exact Cursor.behind?_self hword h (stops_cons.2 hclose)
  | false =>
    rw [Cursor.behind?_word hword hname.2 (stops_cons.2 hclose) h,
      Cursor.behind?_cons hword hclose]
    rfl

/-- A name in quotes is read as an identifier. -/
theorem ident_quote (hname : IsIdentifier name) :
    ident.on (d.quote name ++ s) = (some name, s) := by
  have hstop : Stops (d.closingQuote :: s) := stops_cons.2 (isIdent_closingQuote d)
  -- The opening quote is dropped, the identifier ends at the closing one, and that is dropped too.
  have hinner : dropOne isOpeningQuote (d.quote name ++ s) = name ++ d.closingQuote :: s := by
    simp [quote_eq, dropOne, isOpeningQuote_openingQuote]
  have hhead : (d.quote name ++ s).head?.any isOpeningQuote = true := by
    simp [quote_eq, isOpeningQuote_openingQuote]
  show ident (d.quote name ++ s) = _
  unfold ident
  simp only [hinner, Scan.ident?_append hname hstop, hhead, if_true]
  simp [dropOne, isClosingQuote_closingQuote]

/-- A name in quotes that no point follows is read as the name of a table. -/
theorem tableName_quote (hname : IsIdentifier name) (hs : s.head? ≠ some '.') :
    tableName.on (d.quote name ++ s) = (some name, s) := by
  -- Without a point the name is not taken for that of a schema.
  have hpoint : Scan.char? '.' s = none := by
    cases s with
    | nil => rfl
    | cons c s =>
      have hc : c ≠ '.' := by simpa using hs
      simp [Scan.char?, hc]
  show lastOfDotted (d.quote name ++ s) = _
  unfold lastOfDotted
  split
  · next rest h =>
    rw [ident_quote hname] at h
    cases h
  · next n rest h =>
    rw [ident_quote hname, Prod.mk.injEq, Option.some.injEq] at h
    obtain ⟨rfl, rfl⟩ := h
    split
    · next rest' h' =>
      rw [hpoint] at h'
      cases h'
    · rfl

/-! ## Lists with commas -/

/-- A comma and a space stand between the first two members of a list. -/
theorem commaSeparated_cons_cons (a b : List Char) (items : List (List Char)) :
    commaSeparated (a :: b :: items) = a ++ ',' :: ' ' :: commaSeparated (b :: items) := by
  unfold commaSeparated
  rw [List.intercalate_cons_cons, List.append_assoc]
  rfl

/-- A list with one member is that. -/
theorem commaSeparated_singleton (a : List Char) : commaSeparated [a] = a :=
  List.intercalate_singleton

/-- What is in no member of a list, and no comma and no space, is not in the list. -/
theorem not_mem_commaSeparated {items : List (List Char)} {c : Char} (hcomma : c ≠ ',')
    (hspace : c ≠ ' ') (h : ∀ item ∈ items, c ∉ item) : c ∉ commaSeparated items := by
  refine Text.comma_induction (P := (c ∉ ·)) List.not_mem_nil h fun a ha s hs => ?_
  simp only [List.mem_append, List.mem_cons, not_or]
  exact ⟨h a ha, hcomma, hspace, hs⟩

/-- A character that is neither of names in quotes nor of the separator is not in a list of such
names. -/
theorem not_mem_commaSeparated_quote {names : List (List Char)}
    (hnames : ∀ name ∈ names, IsIdentifier name) {c : Char} (hc : isIdent c = false)
    (hmark : c ∉ ',' :: ' ' :: quoteMarks) : c ∉ commaSeparated (names.map d.quote) := by
  simp only [List.mem_cons, not_or] at hmark
  obtain ⟨hcomma, hspace, hquote⟩ := hmark
  refine not_mem_commaSeparated hcomma hspace fun item hitem => ?_
  obtain ⟨name, hname, rfl⟩ := List.mem_map.1 hitem
  exact not_mem_quote (hnames name hname) hc (by simpa [quoteMarks] using hquote)

/-- The trimmed pieces of a list with commas are its members. -/
theorem trimmedPieces_commaSeparated {items : List (List Char)} (hne : items ≠ [])
    (h : ∀ item ∈ items, ',' ∉ item) :
    Text.trimmedPieces ',' (commaSeparated items) = items.map Text.trim := by
  induction items with
  | nil => exact absurd rfl hne
  | cons a items ih =>
    have ha := Text.trimmedPieces_of_not_mem (h a (by simp))
    cases items with
    | nil => rw [commaSeparated_singleton, ha, List.map_singleton]
    | cons b items =>
      -- The space behind a comma belongs to the member that comes next and is trimmed.
      have hspace : Text.trimmedPieces ',' (' ' :: commaSeparated (b :: items)) =
          Text.trimmedPieces ',' (commaSeparated (b :: items)) :=
        Text.trimmedPieces_blanks_append (b := [' ']) (by decide) (List.forall_mem_singleton.2 rfl)
      rw [commaSeparated_cons_cons, Text.trimmedPieces_cons, ha, hspace,
        ih (by simp) fun item hitem => h item (List.mem_cons_of_mem _ hitem)]
      rfl

/-- A list of names in quotes is read back. -/
theorem identList_quote {names : List (List Char)} (hne : names ≠ [])
    (hnames : ∀ name ∈ names, IsIdentifier name) :
    identList.on ('(' :: (commaSeparated (names.map d.quote) ++ ')' :: s)) = (some names, s) := by
  -- The list ends at its own parenthesis, and it is cut at its own commas, since no name has any.
  have hparen : ')' ∉ commaSeparated (names.map d.quote) :=
    not_mem_commaSeparated_quote hnames rfl (by decide)
  have hpieces : Text.trimmedPieces ',' (commaSeparated (names.map d.quote)) =
      names.map d.quote := by
    rw [trimmedPieces_commaSeparated (by simpa using hne)]
    · simp [trim_quote]
    · intro item hitem
      obtain ⟨name, hname, rfl⟩ := List.mem_map.1 hitem
      exact not_mem_quote (hnames name hname) rfl (by decide)
  have hread : (names.map d.quote).filterMap (fun part => (ident.on part).1) = names := by
    rw [List.filterMap_map]
    have hsome : ∀ name ∈ names, ((fun part => (ident.on part).1) ∘ d.quote) name = some name := by
      intro name hname
      have h := ident_quote (d := d) (s := []) (hnames name hname)
      rw [List.append_nil] at h
      rw [Function.comp_apply, h]
    rw [List.filterMap_congr hsome, List.filterMap_some]
  have hbefore : (Reader.before ")").on (commaSeparated (names.map d.quote) ++ ')' :: s) =
      (some (commaSeparated (names.map d.quote)), s) :=
    Reader.on_before (Scan.until?_singleton hparen)
  unfold identList
  rw [Reader.on_bind_of_some (Reader.on_char _ _), Reader.on_bind_of_some hbefore]
  refine congrArg (fun found => (some found, s)) ?_
  calc _ = (Text.trimmedPieces ',' (commaSeparated (names.map d.quote))).filterMap
        (fun part => (ident.on part).1) := List.filterMap_map.symm
    _ = names := by rw [hpieces, hread]

/-! ## Constructs that begin with two words -/

/-- The word is not the next one behind the blanks in front of a text. -/
def NotAhead (word s : List Char) : Prop :=
  Scan.keyword? word (Scan.skipBlanks s) = none

/-- Without the word next to the place where it starts, the reader finds nothing, and it stops
behind some characters that are not of identifiers. -/
def Needs {α : Type} (word : List Char) (reader : List Char → Option α × List Char) : Prop :=
  ∀ s, NotAhead word s → ∃ p rest, s = p ++ rest ∧ (∀ c ∈ p, isIdent c = false) ∧
    reader s = (none, rest)

section NotAhead

variable {word : List Char}

/-- Blanks in front of a text do not change its next word. -/
theorem NotAhead.blank {c : Char} (hc : isBlank c = true) (h : NotAhead word s) :
    NotAhead word (c :: s) := by
  unfold NotAhead
  rw [Scan.skipBlanks_cons hc]
  exact h

/-- A mark has no word at its place. -/
theorem NotAhead.mark (hword : IsWord word) {c : Char} (hblank : isBlank c = false)
    (hident : isIdent c = false) : NotAhead word (c :: s) := by
  unfold NotAhead
  rw [Scan.skipBlanks_of_not hblank]
  exact Scan.keyword?_of_stops hword.1 hword.2 (stops_cons.2 hident)

/-- A word that is another one is ahead. -/
theorem NotAhead.of_word {w : List Char} (hword : IsWord word) (hw : IsIdentifier w) (hs : Stops s)
    (h : Text.sameLetters w word = false) : NotAhead word (w ++ s) := by
  unfold NotAhead
  rw [Scan.skipBlanks_identifier hw]
  exact Scan.keyword?_of_ne hword.2 hw.2 hs h

/-- No word is ahead of a name in quotes. -/
theorem NotAhead.quote (hword : IsWord word) : NotAhead word (d.quote name ++ s) := by
  rw [quote_eq]
  exact NotAhead.mark hword (isBlank_openingQuote d) (isIdent_openingQuote d)

/-- At the end of a text no word is ahead. -/
theorem NotAhead.nil (hword : IsWord word) : NotAhead word [] :=
  Scan.keyword?_of_stops hword.1 hword.2 stops_nil

end NotAhead

section Needs

variable {α : Type}

/-- A reader that begins with a word behind blanks needs it. -/
theorem needs_keyword (word : String) (r : Reader α) :
    Needs word.toList (Reader.on do Reader.blanks; Reader.keyword word; r) := by
  intro s h
  -- The characters that are passed before the reader fails are the blanks.
  refine ⟨s.takeWhile isBlank, Scan.skipBlanks s, List.takeWhile_append_dropWhile.symm, ?_, ?_⟩
  · intro c hc
    exact isIdent_of_isBlank (List.mem_takeWhile_imp hc)
  · rw [Reader.on_bind_of_some (Reader.on_blanks s)]
    exact Reader.on_bind_of_none (Reader.on_keyword_of_none h)

/-- The words of column definitions besides names, types and functions. -/
def definitionWords : List String :=
  ["255", "1", "36", "MAX", "AUTO_INCREMENT", "IDENTITY", "UNIQUE", "NOT", "NULL", "DEFAULT"]

/-- Constructs that begin with two words, neither of which is a word of column definitions. -/
structure TwoWords (keyword : Keyword) (word : List Char)
    (reader : List Char → Option α × List Char) : Prop where
  /-- The first word consists of letters. -/
  first : IsWord keyword.letters
  /-- The second word consists of letters. -/
  second : IsWord word
  /-- The reader behind the first word needs the second one. -/
  needs : Needs word reader
  /-- The two words are not words of column definitions. -/
  apart : ∀ w ∈ definitionWords, Text.sameLetters w.toList keyword.letters = false ∧
    Text.sameLetters w.toList word = false

variable {keyword : Keyword} {reader : List Char → Option α × List Char} {word w : List Char}

/-- An identifier that the second word does not follow adds no construct, whatever it is. -/
theorem TwoWords.constructs_identifier (h : TwoWords keyword word reader)
    (hw : ∀ c ∈ w, isIdent c = true) (hs : Stops s) (hnext : NotAhead word s) :
    constructs keyword reader (w ++ s) = constructs keyword reader s := by
  obtain ⟨p, rest, rfl, hp, hr⟩ := h.needs s hnext
  exact constructs_stuck h.first hw hs hp hr

/-- An identifier between two marks adds no construct, whatever it is. -/
theorem TwoWords.constructs_between (h : TwoWords keyword word reader)
    (hw : ∀ c ∈ w, isIdent c = true) {a b : Char} (ha : isIdent a = false) (hb : isIdent b = false)
    (hblank : isBlank b = false) :
    constructs keyword reader (a :: (w ++ b :: s)) = constructs keyword reader s := by
  rw [constructs_cons h.first ha,
    h.constructs_identifier hw (stops_cons.2 hb) (NotAhead.mark h.second hblank hb),
    constructs_cons h.first hb]

/-- A name in quotes adds no construct. -/
theorem TwoWords.constructs_quote (h : TwoWords keyword word reader) (hname : IsIdentifier name) :
    constructs keyword reader (d.quote name ++ s) = constructs keyword reader s := by
  rw [quote_eq, List.cons_append, List.append_assoc]
  exact h.constructs_between hname.2 (isIdent_openingQuote d) (isIdent_closingQuote d)
    (isBlank_closingQuote d)

/-- A list of names in quotes adds no construct. -/
theorem TwoWords.constructs_commaSeparated (h : TwoWords keyword word reader)
    {names : List (List Char)} (hnames : ∀ name ∈ names, IsIdentifier name) :
    constructs keyword reader (commaSeparated (names.map d.quote) ++ s) =
      constructs keyword reader s := by
  have hquote (s : List Char) : ∀ item ∈ names.map d.quote,
      constructs keyword reader (item ++ s) = constructs keyword reader s := by
    intro item hitem
    obtain ⟨name, hname, rfl⟩ := List.mem_map.1 hitem
    exact h.constructs_quote (hnames name hname)
  refine Text.comma_induction
    (P := fun p => constructs keyword reader (p ++ s) = constructs keyword reader s)
    rfl (hquote s) fun a ha p hp => ?_
  rw [List.append_assoc, hquote _ a ha, List.cons_append, constructs_cons h.first rfl,
    List.cons_append, constructs_cons h.first rfl, hp]

end Needs

/-- `CREATE TABLE` statements begin with two words. -/
theorem twoWords_create :
    TwoWords CreateTable.keyword "table".toList (Scan.orStay CreateTable.tail?) := by
  refine ⟨isWord_of_all rfl, isWord_of_all rfl, ?_, by decide⟩
  intro s h
  obtain ⟨p, rest, -, -, hr⟩ := needs_keyword "table" _ s h
  have htail : CreateTable.tail.on s = (none, rest) := hr
  -- This reader goes back to where it started when it fails, so it passes over nothing.
  refine ⟨[], s, rfl, by simp, ?_⟩
  unfold Scan.orStay CreateTable.tail?
  rw [htail]

/-- `ALTER TABLE` statements begin with two words. -/
theorem twoWords_alter : TwoWords alterKeyword "table".toList alterTail.on :=
  ⟨isWord_of_all rfl, isWord_of_all rfl, needs_keyword "table" _, by decide⟩

/-- Foreign keys begin with two words. -/
theorem twoWords_foreign : TwoWords ForeignKey.keyword "key".toList ForeignKey.tail.on :=
  ⟨isWord_of_all rfl, isWord_of_all rfl, needs_keyword "key" _, by decide⟩

/-- Primary keys begin with two words. -/
theorem twoWords_primary :
    TwoWords CreateTable.primaryKeyword "key".toList CreateTable.primaryKeyTail.on :=
  ⟨isWord_of_all rfl, isWord_of_all rfl, needs_keyword "key" _, by decide⟩

/-- The primary keys of a body are the members of its clauses. -/
theorem primaryKeys_eq (t : CreateTable) : t.primaryKeys =
    (constructs CreateTable.primaryKeyword CreateTable.primaryKeyTail.on t.body).flatten :=
  rfl

/-- The statements that alter tables declare foreign keys for them. -/
theorem alteredForeignKeys_eq (script : List Char) :
    alteredForeignKeys script = (constructs alterKeyword alterTail.on script).flatMap fun v =>
      foreignKeys v.1 v.2 := by
  unfold constructs
  rw [List.flatMap_map]
  rfl

end SchemaDiagram.Sql
