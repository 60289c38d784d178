import SchemaDiagram.Proofs.Sql.Names
import SchemaDiagram.Proofs.Text.Alike

/-!
# Readers that stop at a barrier

No name, blank or keyword of SQL has a single quote in it, nor a closing parenthesis. A reader of
such things `Avoids` a character that is a barrier in this way: it stops in front of the first one
at the latest, and what comes behind that makes no difference. Readers in sequence do so if each of
them does (`Avoids.bind`). The heads of the statements that have names in front of their text are
readers of this kind (`createHead`, `alterHead`).
-/

namespace SchemaDiagram

open Character

namespace Sql

variable {α β : Type}

/-- A character that neither stands in names or between them nor encloses them. -/
structure IsBarrier (q : Char) : Prop where
  /-- It is no identifier character. -/
  ident : isIdent q = false
  /-- It is no blank. -/
  blank : isBlank q = false
  /-- It opens no quoted identifier. -/
  opening : isOpeningQuote q = false
  /-- It closes none. -/
  closing : isClosingQuote q = false
  /-- It opens no parentheses. -/
  paren : q ≠ '('
  /-- It does not divide a name. -/
  point : q ≠ '.'

/-- A single quote is a barrier. -/
theorem isBarrier_quote : IsBarrier '\'' := by
  constructor <;> decide

/-- A closing parenthesis is a barrier. -/
theorem isBarrier_paren : IsBarrier ')' := by
  constructor <;> decide

/-- A reader that does not get past a character. -/
structure Avoids (q : Char) (reader : List Char → Option α × List Char) : Prop where
  /-- What it passes over does not have that character and ends where no identifier goes on. -/
  passed : ∀ s, ∃ p, s = p ++ (reader s).2 ∧ q ∉ p ∧ Breaks p (reader s).2
  /-- In front of that character it does what it does at the end of a text. -/
  confined : ∀ s x, reader (s ++ q :: x) = ((reader s).1, (reader s).2 ++ q :: x)

/-- No identifier goes on in front of a quote. -/
theorem stops_quote (x : List Char) : Stops ('\'' :: x) := rfl

/-- No identifier goes on in front of a barrier. -/
theorem IsBarrier.stops {q : Char} (hq : IsBarrier q) (x : List Char) : Stops (q :: x) :=
  stops_cons.2 hq.ident

/-- A barrier is not in an identifier. -/
theorem IsBarrier.not_mem {q : Char} (hq : IsBarrier q) {w : List Char}
    (hw : ∀ c ∈ w, isIdent c = true) : q ∉ w :=
  fun h => Bool.false_ne_true (hq.ident.symm.trans (hw q h))

namespace Avoids

variable {q : Char}

/-- A reader that always finds something and passes over nothing. -/
theorem pure (v : α) : Avoids q (Pure.pure v : Reader α).on :=
  ⟨fun _ => ⟨[], rfl, List.not_mem_nil, Breaks.nil⟩, fun _ _ => rfl⟩

/-- One reader behind another. -/
theorem bind {r : Reader α} {next : α → Reader β} (hr : Avoids q r.on)
    (hnext : ∀ v, Avoids q (next v).on) : Avoids q (r >>= next).on := by
  constructor
  · intro s
    obtain ⟨p, hp, hnot, hbreaks⟩ := hr.passed s
    rcases hon : r.on s with ⟨v | v, t⟩
    · rw [hon] at hp hbreaks
      rw [Reader.on_bind_of_none hon]
      exact ⟨p, hp, hnot, hbreaks⟩
    · rw [hon] at hp hbreaks
      obtain ⟨p', hp', hnot', hbreaks'⟩ := (hnext v).passed t
      rw [Reader.on_bind_of_some hon]
      refine ⟨p ++ p', ?_, by simp [hnot, hnot'], hbreaks'.prepend fun hnil => ?_⟩
      · rw [List.append_assoc, ← hp']
        exact hp
      · rw [hnil, List.nil_append] at hp'
        rw [← hp']
        exact hbreaks
  · intro s x
    have hread := hr.confined s x
    rcases hon : r.on s with ⟨v | v, t⟩
    · rw [hon] at hread
      rw [Reader.on_bind_of_none hon, Reader.on_bind_of_none hread]
    · rw [hon] at hread
      rw [Reader.on_bind_of_some hon, Reader.on_bind_of_some hread]
      exact (hnext v).confined t x

/-- An optional step. -/
theorem ofOption {read? : List Char → Option (α × List Char)}
    (hpassed : ∀ s v rest, read? s = some (v, rest) →
      ∃ p, s = p ++ rest ∧ q ∉ p ∧ Breaks p rest)
    (hconfined : ∀ x, Scan.Confined read? (q :: x)) : Avoids q (Reader.ofOption read?).on := by
  constructor
  · intro s
    rw [Reader.on_ofOption, Scan.orStay]
    cases hread : read? s with
    | none => exact ⟨[], rfl, List.not_mem_nil, Breaks.nil⟩
    | some found => exact hpassed s found.1 found.2 hread
  · intro s x
    rw [Reader.on_ofOption, Reader.on_ofOption, Scan.orStay, Scan.orStay, hconfined x s]
    cases read? s <;> rfl

/-- A keyword. -/
theorem keyword (hq : IsBarrier q) (word : String) (hword : IsWord word.toList) :
    Avoids q (Reader.keyword word).on := by
  refine ofOption (fun s v rest h => ?_) fun x s => ?_
  · obtain ⟨t, ht, heq⟩ := Option.map_eq_some_iff.1 h
    cases heq
    obtain ⟨w, hw, hsame, hstops⟩ := Scan.keyword?_eq_some_iff.1 ht
    have hident := Scan.isIdent_of_sameLetters hword.2 hsame
    exact ⟨w, hw, hq.not_mem hident, Breaks.of_stops hstops⟩
  · simp only [Scan.keyword?_append_of_stops hword (hq.stops x), Option.map_map]
    rfl

/-- Another character. -/
theorem char {c : Char} (hc : c ≠ q) (hident : isIdent c = false) :
    Avoids q (Reader.char c).on := by
  refine ofOption (fun s v rest h => ?_) fun x s => ?_
  · obtain ⟨t, ht, heq⟩ := Option.map_eq_some_iff.1 h
    cases heq
    rw [Scan.eq_cons_of_char? ht]
    exact ⟨[c], rfl, by simpa using Ne.symm hc, Breaks.of_forall (by simpa using hident)⟩
  · have hne : (q :: x).head? ≠ some c := fun h => hc (Option.some.inj h).symm
    simp only [Scan.char?_append hne, Option.map_map]
    rfl

/-! ## Passing over what is optional -/

/-- Passing over something, which never fails. -/
theorem skipping {skip : List Char → List Char}
    (hpassed : ∀ s, ∃ p, s = p ++ skip s ∧ q ∉ p ∧ Breaks p (skip s))
    (hconfined : ∀ s x, skip (s ++ q :: x) = skip s ++ q :: x) :
    Avoids q (Reader.skipping skip).on :=
  ⟨hpassed, fun s x => congrArg (some (), ·) (hconfined s x)⟩

/-- Blanks. -/
theorem blanks (hq : IsBarrier q) : Avoids q Reader.blanks.on := by
  refine skipping (fun s => ⟨s.takeWhile isBlank, List.takeWhile_append_dropWhile.symm, ?_, ?_⟩)
    fun s x => ?_
  · intro h
    exact Bool.false_ne_true (hq.blank.symm.trans (List.mem_takeWhile_imp h))
  · exact Breaks.of_forall fun c hc => isIdent_of_isBlank (List.mem_takeWhile_imp hc)
  · exact (Scan.takeWhile_append_of_head? (s := q :: x) (by simpa using hq.blank) s).2

/-- One thing behind another. -/
theorem comp {f g : List Char → List Char} (hf : Avoids q (Reader.skipping f).on)
    (hg : Avoids q (Reader.skipping g).on) :
    Avoids q (Reader.skipping fun s => g (f s)).on :=
  hf.bind fun _ => hg

/-- What comes behind a keyword, if that is ahead. -/
theorem optional (hq : IsBarrier q) {word : List Char} (hword : IsWord word)
    {skip : List Char → List Char} (hskip : Avoids q (Reader.skipping skip).on) :
    Avoids q (Reader.skipping fun s =>
      ((Scan.keyword? word s).map skip).getD s).on := by
  refine skipping (fun s => ?_) fun s x => ?_
  · cases hread : Scan.keyword? word s with
    | none => exact ⟨[], rfl, List.not_mem_nil, Breaks.nil⟩
    | some t =>
      obtain ⟨w, rfl, hsame, hstops⟩ := Scan.keyword?_eq_some_iff.1 hread
      have hident := Scan.isIdent_of_sameLetters hword.2 hsame
      obtain ⟨p, hp, hnot, hbreaks⟩ := hskip.passed t
      refine ⟨w ++ p, ?_, ?_, ?_⟩
      · rw [List.append_assoc]
        exact congrArg (w ++ ·) hp
      · simp [hq.not_mem hident, hnot]
      · exact hbreaks.prepend_of_stops (hp ▸ hstops)
  · rw [Scan.keyword?_append_of_stops hword (hq.stops x)]
    cases Scan.keyword? word s with
    | none => rfl
    | some t => exact congrArg Prod.snd (hskip.confined t x)

/-- A keyword and the blanks behind it, or nothing. -/
theorem optionalKeyword (hq : IsBarrier q) (word : String) (hword : IsWord word.toList) :
    Avoids q (Reader.optionalKeyword word).on := by
  have heq : Reader.optionalKeyword word = Reader.skipping fun s =>
      ((Scan.keyword? word.toList s).map Scan.skipBlanks).getD s := by
    unfold Reader.optionalKeyword
    congr 1
    funext s
    cases Scan.keyword? word.toList s <;> rfl
  rw [heq]
  exact optional hq hword (blanks hq)

/-- The words that may stand in front of the name of a table that is created. -/
theorem ifNotExists (hq : IsBarrier q) : Avoids q CreateTable.ifNotExists.on := by
  have hskip (word : String) (hword : IsWord word.toList) :
      Avoids q (Reader.skipping (Scan.skipKeyword word.toList)).on := by
    have heq : Scan.skipKeyword word.toList = fun s =>
        ((Scan.keyword? word.toList s).map id).getD s := by
      funext s
      rw [Option.map_id]
      rfl
    rw [heq]
    exact optional hq hword (skipping (fun s => ⟨[], rfl, List.not_mem_nil, Breaks.nil⟩)
      fun _ _ => rfl)
  have hblanks := blanks hq
  have hnot := hskip "not" (isWord_of_all rfl)
  have hexists := hskip "exists" (isWord_of_all rfl)
  have heq : CreateTable.ifNotExists = Reader.skipping fun s =>
      ((Scan.keyword? "if".toList s).map fun rest => Scan.skipBlanks (Scan.skipKeyword
        "exists".toList (Scan.skipBlanks (Scan.skipKeyword "not".toList
          (Scan.skipBlanks rest))))).getD s := by
    unfold CreateTable.ifNotExists
    congr 1
    funext s
    cases Scan.keyword? "if".toList s <;> rfl
  rw [heq]
  have hwords := (((hblanks.comp hnot).comp hblanks).comp hexists).comp hblanks
  exact optional hq (isWord_of_all rfl) hwords

/-! ## Names -/

/-- A character that may be dropped from the front of a text. -/
theorem dropOne {accepts : Char → Bool} (hnot : accepts q = false)
    (hident : ∀ c, accepts c = true → isIdent c = false) :
    Avoids q (Reader.skipping (dropOne accepts)).on := by
  refine skipping (fun s => ?_) fun s x => ?_
  · cases s with
    | nil => exact ⟨[], rfl, List.not_mem_nil, Breaks.nil⟩
    | cons c s =>
      rw [Sql.dropOne]
      split
      · next hc =>
        refine ⟨[c], rfl, ?_, Breaks.of_forall (by simpa using hident c hc)⟩
        rintro h
        rw [← List.mem_singleton.1 h, hnot] at hc
        cases hc
      · exact ⟨[], rfl, List.not_mem_nil, Breaks.nil⟩
  · cases s with
    | nil => simp [Sql.dropOne, hnot]
    | cons c s =>
      simp only [List.cons_append, Sql.dropOne]
      split <;> rfl

/-- An opening quote is no identifier character. -/
theorem isIdent_of_isOpeningQuote {c : Char} (h : isOpeningQuote c = true) : isIdent c = false := by
  simp only [isOpeningQuote, Bool.or_eq_true, beq_iff_eq] at h
  rcases h with (rfl | rfl) | rfl <;> rfl

/-- A closing quote is no identifier character. -/
theorem isIdent_of_isClosingQuote {c : Char} (h : isClosingQuote c = true) : isIdent c = false := by
  simp only [isClosingQuote, Bool.or_eq_true, beq_iff_eq] at h
  rcases h with (rfl | rfl) | rfl <;> rfl

/-- The run of identifier characters that a name is. -/
theorem ident? (hq : IsBarrier q) : Avoids q (Reader.ofOption Scan.ident?).on := by
  refine ofOption (fun s v rest h => ?_) fun x => Scan.confined_ident? (hq.stops x)
  unfold Scan.ident? at h
  split at h
  · cases h
  · cases h
    refine ⟨s.takeWhile isIdent, List.takeWhile_append_dropWhile.symm, ?_, ?_⟩
    · exact hq.not_mem fun c hc => List.mem_takeWhile_imp hc
    · refine Breaks.of_stops ?_
      have hhead := Text.head?_dropWhile_any (p := isIdent) s
      unfold Stops
      simpa using hhead

/-- A name, which may stand in quotes of other kinds. -/
theorem ident (hq : IsBarrier q) : Avoids q Sql.ident.on := by
  -- Once it is known whether there is an opening quote, the parts come one behind the other.
  let parts (isOpen : Bool) : Reader (List Char) :=
    Reader.skipping (Sql.dropOne isOpeningQuote) >>= fun _ =>
      Reader.ofOption Scan.ident? >>= fun name =>
        (bif isOpen then Reader.skipping (Sql.dropOne isClosingQuote) else Pure.pure ()) >>= fun _ =>
          Pure.pure name
  have hparts (isOpen : Bool) : Avoids q (parts isOpen).on := by
    have hopening := dropOne hq.opening fun c => isIdent_of_isOpeningQuote
    have hclosing := dropOne hq.closing fun c => isIdent_of_isClosingQuote
    refine hopening.bind fun _ => (ident? hq).bind fun name => bind ?_ fun _ => pure name
    cases isOpen with
    | true => exact hclosing
    | false => exact pure ()
  have heq (s : List Char) : Sql.ident.on s = (parts (s.head?.any isOpeningQuote)).on s := by
    simp only [parts, Reader.on_bind, Reader.on_ofOption, Scan.orStay]
    show Sql.ident s = _
    unfold Sql.ident
    simp only [Reader.on, Reader.skipping, OptionT.run]
    cases Scan.ident? (Sql.dropOne isOpeningQuote s) with
    | none => rfl
    | some found => cases s.head?.any isOpeningQuote <;> rfl
  constructor
  · intro s
    rw [heq]
    exact (hparts _).passed s
  · intro s x
    have hhead : (s ++ q :: x).head?.any isOpeningQuote = s.head?.any isOpeningQuote := by
      cases s with
      | nil => simpa using hq.opening
      | cons c s => rfl
    rw [heq, heq, hhead]
    exact (hparts _).confined s x

/-- The name of a table. -/
theorem tableName (hq : IsBarrier q) : Avoids q Sql.tableName.on := by
  constructor
  · intro s
    show ∃ p, s = p ++ (lastOfDotted s).2 ∧ _ ∧ Breaks p (lastOfDotted s).2
    -- By induction on the points: behind each one another name is read.
    fun_induction lastOfDotted s with
    | case1 s rest hident =>
      obtain ⟨p, hp, hnot, hbreaks⟩ := (ident hq).passed s
      rw [hident] at hp hbreaks
      exact ⟨p, hp, hnot, hbreaks⟩
    | case2 s name rest hident rest' hpoint _ ih =>
      obtain ⟨p, hp, hnot, -⟩ := (ident hq).passed s
      obtain ⟨p', hp', hnot', hbreaks'⟩ := ih
      simp only [hident, Scan.eq_cons_of_char? hpoint] at hp
      refine ⟨p ++ '.' :: p', ?_, by simp [hnot, hnot', hq.point], ?_⟩
      · rw [List.append_assoc, List.cons_append, ← hp']
        exact hp
      · rw [List.append_cons]
        exact hbreaks'.prepend fun _ hl => by simp [isIdent] at hl
    | case3 s name rest hident hpoint =>
      obtain ⟨p, hp, hnot, hbreaks⟩ := (ident hq).passed s
      rw [hident] at hp hbreaks
      exact ⟨p, hp, hnot, hbreaks⟩
  · intro s x
    show lastOfDotted (s ++ q :: x) = ((lastOfDotted s).1, (lastOfDotted s).2 ++ q :: x)
    have hne : (q :: x).head? ≠ some '.' := fun h => hq.point (Option.some.inj h)
    fun_induction lastOfDotted s with
    | case1 s rest hident => rw [lastOfDotted_eq, (ident hq).confined s x, hident]
    | case2 s name rest hident rest' hpoint _ ih =>
      rw [lastOfDotted_eq, (ident hq).confined s x, hident]
      simp only [Scan.char?_append hne, hpoint]
      exact ih
    | case3 s name rest hident hpoint =>
      rw [lastOfDotted_eq, (ident hq).confined s x, hident]
      simp only [Scan.char?_append hne, hpoint]
      rfl

end Avoids

/-! ## What comes behind -/

/-- Behind a reader that avoids quotes, readers do alike in texts that go on with quotes, if the next
one does where that stops. -/
theorem Avoids.readsAlike {α β γ : Type} {f : β → γ} {r : Reader α} {next : α → Reader β}
    {s x y : List Char} (hr : Avoids '\'' r.on)
    (h : ∀ value a b, s = a ++ b → '\'' ∉ a → Breaks a b → r.on s = (some value, b) →
      ReadsAlike f (next value).on b ('\'' :: x) ('\'' :: y)) :
    ReadsAlike f (r >>= next).on s ('\'' :: x) ('\'' :: y) := by
  obtain ⟨a, ha, hquote, hbreaks⟩ := hr.passed s
  have hread (x : List Char) := hr.confined s x
  rcases hon : r.on s with ⟨value | value, b⟩
  · rw [hon] at ha hbreaks
    refine .within (v := none) (w := none) ha hbreaks ?_ ?_ rfl
    · exact Reader.on_bind_of_none ((hread x).trans (by rw [hon]))
    · exact Reader.on_bind_of_none ((hread y).trans (by rw [hon]))
  · rw [hon] at ha hbreaks
    have hnext := h value a b ha hquote hbreaks hon
    have hbehind (x : List Char) :
        (r >>= next).on (a ++ b ++ '\'' :: x) = (next value).on (b ++ '\'' :: x) := by
      refine Reader.on_bind_of_some ?_
      have := hread x
      rw [hon] at this
      rw [← this]
      exact congrArg (fun s => r.on (s ++ '\'' :: x)) ha.symm
    have halike := hnext.behind (stops_quote x) (stops_quote y) hbreaks (hbehind x) (hbehind y)
    rwa [← show s = a ++ b from ha] at halike

/-! ## Statements with names in front of their text -/

/-- Reads what stands in front of the body of a table that is created. -/
def createHead : Reader (List Char) := do
  Reader.blanks
  Reader.keyword "table"
  Reader.blanks
  CreateTable.ifNotExists
  let name ← tableName
  Reader.blanks
  Reader.char '('
  return name

/-- Reads what stands in front of the changes to a table that is altered. -/
def alterHead : Reader (List Char) := do
  Reader.blanks
  Reader.keyword "table"
  Reader.blanks
  Reader.optionalKeyword "only"
  tableName

/-- The body of a table comes behind its head. -/
theorem createTail_eq : CreateTable.tail =
    createHead >>= fun name => Reader.before ");" >>= fun body => pure ⟨name, body⟩ := by
  simp only [CreateTable.tail, createHead, bind_assoc, pure_bind]

/-- The changes to a table come behind their head. -/
theorem alterTail_eq : alterTail =
    alterHead >>= fun table => (Reader.before ";" <|> get) >>= fun statement =>
      pure (table, statement) := by
  simp only [alterTail, alterHead, bind_assoc]

/-- No barrier is passed in front of the body of a table. -/
theorem avoids_createHead {q : Char} (hq : IsBarrier q) : Avoids q createHead.on := by
  have hblanks := Avoids.blanks hq
  have htable := Avoids.keyword hq "table" (isWord_of_all rfl)
  have hparen := Avoids.char (c := '(') hq.paren.symm rfl
  have hname (name : List Char) := hblanks.bind fun _ => hparen.bind fun _ => Avoids.pure name
  exact hblanks.bind fun _ => htable.bind fun _ => hblanks.bind fun _ =>
    (Avoids.ifNotExists hq).bind fun _ => (Avoids.tableName hq).bind hname

/-- No barrier is passed in front of the changes to a table. -/
theorem avoids_alterHead {q : Char} (hq : IsBarrier q) : Avoids q alterHead.on := by
  have hblanks := Avoids.blanks hq
  have htable := Avoids.keyword hq "table" (isWord_of_all rfl)
  have honly := Avoids.optionalKeyword hq "only" (isWord_of_all rfl)
  exact hblanks.bind fun _ => htable.bind fun _ => hblanks.bind fun _ =>
    honly.bind fun _ => Avoids.tableName hq

/-! ## The head of a column definition -/

/-- The name and the type that a definition begins with. -/
def definitionHead : Reader (List Char × List Char) := do
  let name ← ident
  Reader.ofOption fun s => (Scan.blanks? s).map ((), ·)
  let type ← Reader.ofOption Scan.ident?
  Reader.skipping skipSize
  return (name, type)

/-- The column that a name, a type and constraints define, and what it refers to. -/
def definedBy (head : List Char × List Char) (constraints : List Char) :
    Column × Option ColumnRef :=
  (columnOf head.1 head.2 constraints, referenceOf? (blankQuoted false constraints))

/-- A definition begins with a name, blanks and a type. -/
theorem on_definitionHead (s : List Char) : definitionHead.on s =
    match ident.on s with
    | (none, rest) => (none, rest)
    | (some name, rest) => match Scan.blanks? rest with
      | none => (none, rest)
      | some rest => match Scan.ident? rest with
        | none => (none, rest)
        | some (type, rest) => (some (name, type), skipSize rest) := by
  unfold definitionHead
  rw [Reader.on_bind]
  rcases ident.on s with ⟨name | name, rest⟩
  · rfl
  · simp only [Reader.on_bind, Reader.on_ofOption, Scan.orStay]
    cases Scan.blanks? rest with
    | none => rfl
    | some rest =>
      simp only [Option.map_some]
      cases Scan.ident? rest <;> rfl

/-- The constraints of a column come behind its name and its type. -/
theorem columnDefinition?_eq (s : List Char) : columnDefinition? s =
    (definitionHead.on s).1.map fun head => definedBy head (definitionHead.on s).2 := by
  rw [on_definitionHead]
  unfold columnDefinition?
  rcases ident.on s with ⟨name | name, rest⟩
  · rfl
  · simp only [Option.bind_eq_bind, Option.bind_some]
    cases Scan.blanks? rest with
    | none => rfl
    | some rest =>
      simp only [Option.bind_some]
      cases Scan.ident? rest <;> rfl

/-- A size has no quote. -/
theorem avoids_skipSize : Avoids '\'' (Reader.skipping skipSize).on := by
  refine Avoids.skipping (fun s => ?_) fun s x => ?_
  · have hstay : ∃ p, s = p ++ s ∧ '\'' ∉ p ∧ Breaks p s :=
      ⟨[], rfl, List.not_mem_nil, Breaks.nil⟩
    unfold skipSize
    split
    · next size rest h =>
      split
      · next hsize =>
        obtain ⟨t, ht, hread⟩ := Option.bind_eq_some_iff.1 h
        refine ⟨'(' :: (size ++ [')']), ?_, ?_, ?_⟩
        · rw [Scan.eq_cons_of_char? ht, Scan.eq_append_of_until? hread]
          simp
        · have hquote : '\'' ∉ size := fun hmem => by
            have := List.all_eq_true.1 hsize _ hmem
            revert this
            decide
          simp [hquote]
        · have hparen : Breaks [')'] rest := Breaks.of_forall (List.forall_mem_singleton.2 rfl)
          rw [← List.cons_append]
          exact hparen.prepend fun h => absurd h (List.cons_ne_nil _ _)
      · exact hstay
    · exact hstay
  · have hne : ('\'' :: x).head? ≠ some '(' := fun h => absurd (Option.some.inj h) (by decide)
    unfold skipSize
    rw [Scan.char?_append hne]
    cases Scan.char? '(' s with
    | none => rfl
    | some t =>
      have hquote : '\'' ∉ [')'] := by decide
      have huntil := Scan.until?_append_cons hquote (by decide) t x
      simp only [Option.map_some, Option.bind_eq_bind, Option.bind_some, huntil]
      cases Scan.until? [')'] t with
      | some found =>
        simp only [Option.map_some, Option.some_or]
        split <;> rfl
      | none =>
        -- What is taken across the quote has the quote in it, so it is no size.
        simp only [Option.map_none, Option.none_or]
        cases Scan.until? [')'] x with
        | none => rfl
        | some found =>
          simp

/-- No quote is passed in front of the constraints. -/
theorem avoids_definitionHead : Avoids '\'' definitionHead.on := by
  have hblanks : Avoids '\'' (Reader.ofOption fun s => (Scan.blanks? s).map ((), ·)).on := by
    refine Avoids.ofOption (fun s v rest h => ?_) fun x s => ?_
    · obtain ⟨t, ht, heq⟩ := Option.map_eq_some_iff.1 h
      cases heq
      obtain ⟨p, hp, hquote, hbreaks⟩ := (Avoids.blanks isBarrier_quote).passed s
      have hrest : Scan.skipBlanks s = rest := by
        cases s with
        | nil => cases ht
        | cons c s =>
          by_cases hc : isBlank c = true
          · rw [Scan.blanks?_cons hc] at ht
            rw [Scan.skipBlanks_cons hc]
            exact Option.some.inj ht
          · rw [Scan.blanks?_of_not (by simpa using hc)] at ht
            cases ht
      exact ⟨p, hrest ▸ hp, hquote, hrest ▸ hbreaks⟩
    · cases s with
      | nil => rfl
      | cons c s =>
        simp only [List.cons_append, Scan.blanks?]
        split
        · have hskip := congrArg Prod.snd ((Avoids.blanks isBarrier_quote).confined s x)
          exact congrArg (fun t => some ((), t)) hskip
        · rfl
  have hrest (name type : List Char) := avoids_skipSize.bind fun _ => Avoids.pure (name, type)
  exact (Avoids.ident isBarrier_quote).bind fun name => hblanks.bind fun _ =>
    (Avoids.ident? isBarrier_quote).bind fun type => hrest name type

end Sql

end SchemaDiagram
