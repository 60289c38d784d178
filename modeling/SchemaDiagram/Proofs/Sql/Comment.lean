import SchemaDiagram.Proofs.Text.Scan
import SchemaDiagram.Sql.Comment

/-!
# What remains of a script without its comments

A character that begins no comment leads to the next place and remains or not, as the place says
(`strip_step`); what holds behind each of these steps holds of every script (`place_induction`).

A piece of a script is `Plain` if it is kept as it is and what follows it is still code, whatever
that is. Plain pieces join (`Plain.append`), so a script is kept up to where a comment begins. A
comment at the end of a line leaves the line break (`strip_lineComment`).

The first part of a script leads from one place to another (`placeBehind`). The script can be
divided there (`strip_append`), unless what begins a comment is torn apart, and the number of quotes
that are kept of the first part tells whether its end is within quotes (`even_count_quote`).
-/

namespace SchemaDiagram.Sql

/-- A piece of code that is kept and in front of which code goes on. -/
def Plain (p : List Char) : Prop :=
  ∀ s, stripCommentsFrom .code (p ++ s) = p ++ stripCommentsFrom .code s

/-- A text at which a line ends: the end of the script, or a line break. -/
def EndsLine (s : List Char) : Prop :=
  s.head?.all (· == '\n') = true

/-- The characters with which neither comments nor quotes begin. -/
def isPlain (c : Char) : Bool :=
  c != '-' && c != '/' && c != '\''

/-- Identifier characters begin neither comments nor quotes. -/
theorem isPlain_of_isIdent {c : Char} (h : Character.isIdent c = true) : isPlain c = true := by
  have hhyphen : c ≠ '-' := Character.ne_of_isIdent h rfl
  have hslash : c ≠ '/' := Character.ne_of_isIdent h rfl
  have hquote : c ≠ '\'' := Character.ne_of_isIdent h rfl
  simp [isPlain, hhyphen, hslash, hquote]

/-! ## One character of a script -/

/-- What begins a comment stands across the border between two parts of a script. -/
def Torn (p s : List Char) : Prop :=
  (p.getLast? = some '-' ∧ s.head? = some '-') ∨ (p.getLast? = some '/' ∧ s.head? = some '*')

/-- What is torn at the end of a part is torn at the end of a longer one. -/
theorem Torn.cons {p s : List Char} (h : Torn p s) (c : Char) : Torn (c :: p) s := by
  cases p with
  | nil => simp [Torn] at h
  | cons d p => exact h

/-- What is not torn at the end of a part is not torn at the end of a shorter one. -/
theorem not_torn_of_cons {c : Char} {p s : List Char} (h : ¬Torn (c :: p) s) : ¬Torn p s :=
  fun htorn => h (htorn.cons c)

/-- Nothing is torn in front of a character that is not the second one of what begins a comment. -/
theorem not_torn_cons {c : Char} (hhyphen : c ≠ '-') (hstar : c ≠ '*') (p s : List Char) :
    ¬Torn p (c :: s) := by
  rintro (⟨-, hc⟩ | ⟨-, hc⟩)
  · exact hhyphen (Option.some.inj hc)
  · exact hstar (Option.some.inj hc)

/-- A character begins a comment with what follows it in its own part of a script, or with the next
part. -/
theorem not_torn_append {c : Char} {p s : List Char} (hp : ¬Torn [c] p) (hs : ¬Torn (c :: p) s) :
    ¬Torn [c] (p ++ s) := by
  cases p with
  | nil => exact hs
  | cons d p => exact hp

/-- The place behind a character that begins no comment with the next one. -/
def Place.behind : Place → Char → Place
  | .code, c => if c = '\'' then .quoted else .code
  | .quoted, c => if c = '\'' then .code else .quoted
  | .lineComment, c => if c = '\n' then .code else .lineComment
  | .blockComment afterStar, c =>
    if afterStar = true ∧ c = '/' then .code else .blockComment (c = '*')

/-- What remains of a character that begins no comment with the next one. -/
def Place.remains : Place → Char → List Char
  | .code, c => [c]
  | .quoted, c => [c]
  | .lineComment, c => if c = '\n' then [c] else []
  | .blockComment _, _ => []

/-- A character that begins no comment leads to the next place. -/
theorem strip_step {place : Place} {c : Char} {s : List Char}
    (h : place = .code → ¬Torn [c] s) :
    stripCommentsFrom place (c :: s) =
      place.remains c ++ stripCommentsFrom (place.behind c) s := by
  cases place with
  | code =>
    rw [stripCommentsFrom]
    · rfl
    · rintro r rfl rfl
      exact h rfl (.inl ⟨rfl, rfl⟩)
    · rintro r rfl rfl
      exact h rfl (.inr ⟨rfl, rfl⟩)
  | quoted =>
    rw [stripCommentsFrom]
    rfl
  | lineComment =>
    rw [stripCommentsFrom, Place.remains, Place.behind]
    split_ifs with hc
    · rw [hc]
      rfl
    · rfl
  | blockComment afterStar =>
    rw [stripCommentsFrom, Place.remains, Place.behind]
    split_ifs
    · rfl
    · rfl

/-- What holds of the empty rest of a script at every place, and of a longer one if it holds of what
follows what begins a comment or a single character, holds of every rest of a script. -/
theorem place_induction {motive : Place → List Char → Prop} (nil : ∀ place, motive place [])
    (line : ∀ s, motive .lineComment s → motive .code ('-' :: '-' :: s))
    (block : ∀ s, motive (.blockComment false) s → motive .code ('/' :: '*' :: s))
    (step : ∀ place c s, (place = .code → ¬Torn [c] s) → motive (place.behind c) s →
      motive place (c :: s))
    (place : Place) (s : List Char) : motive place s := by
  fun_induction stripCommentsFrom place s with
  | case1 place => exact nil place
  | case2 rest ih => exact line rest ih
  | case3 rest ih => exact block rest ih
  | case4 c rest hline hblock ih =>
    refine step .code c rest (fun _ => ?_) ih
    rintro (⟨hc, hs⟩ | ⟨hc, hs⟩)
    · obtain ⟨r, rfl⟩ := List.head?_eq_some_iff.1 hs
      exact hline r (Option.some.inj hc) rfl
    · obtain ⟨r, rfl⟩ := List.head?_eq_some_iff.1 hs
      exact hblock r (Option.some.inj hc) rfl
  | case5 c rest ih => exact step .quoted c rest (by simp) ih
  | case6 rest ih => exact step .lineComment '\n' rest (by simp) ih
  | case7 c rest hc ih =>
    exact step .lineComment c rest (by simp) (by rwa [Place.behind, if_neg hc])
  | case8 afterStar c rest hend ih =>
    exact step (.blockComment afterStar) c rest (by simp) (by rwa [Place.behind, if_pos hend])
  | case9 afterStar c rest hend ih =>
    exact step (.blockComment afterStar) c rest (by simp) (by rwa [Place.behind, if_neg hend])

/-- A character with which neither a comment nor a quote begins is kept in code. -/
theorem strip_cons {c : Char} (hc : isPlain c = true) (s : List Char) :
    stripCommentsFrom .code (c :: s) = c :: stripCommentsFrom .code s := by
  have hne : c ≠ '-' ∧ c ≠ '/' ∧ c ≠ '\'' := by simpa [isPlain, and_assoc] using hc
  obtain ⟨hhyphen, hslash, hquote⟩ := hne
  have hkept : ¬Torn [c] s := by
    rintro (⟨h, -⟩ | ⟨h, -⟩)
    · exact hhyphen (Option.some.inj h)
    · exact hslash (Option.some.inj h)
  rw [strip_step fun _ => hkept, Place.behind, if_neg hquote]
  rfl

/-! ## Plain code -/

/-- The empty piece is plain. -/
theorem Plain.nil : Plain [] :=
  fun _ => rfl

/-- Plain pieces behind each other are plain. -/
theorem Plain.append {p q : List Char} (hp : Plain p) (hq : Plain q) : Plain (p ++ q) := by
  intro s
  rw [List.append_assoc, hp, hq, List.append_assoc]

/-- Code in which neither comments nor quotes begin is plain. -/
theorem Plain.of_forall {p : List Char} (hp : ∀ c ∈ p, isPlain c = true) : Plain p := by
  induction p with
  | nil => exact Plain.nil
  | cons c p ih =>
    intro s
    rw [List.cons_append, strip_cons (hp c (by simp)), ih fun x hx => hp x (by simp [hx])]
    rfl

/-- So is code of which that is checked character by character. -/
theorem Plain.of_all {p : List Char} (hp : p.all isPlain = true) : Plain p :=
  Plain.of_forall (List.all_eq_true.1 hp)

/-- Plain code behind such a character is plain. -/
theorem Plain.cons {c : Char} {p : List Char} (hc : isPlain c = true) (hp : Plain p) :
    Plain (c :: p) := by
  intro s
  rw [List.cons_append, strip_cons hc, hp]
  rfl

/-- Plain parts behind each other are plain. -/
theorem Plain.flatMap {α : Type} {parts : List α} {f : α → List Char}
    (h : ∀ part ∈ parts, Plain (f part)) : Plain (parts.flatMap f) := by
  induction parts with
  | nil => exact Plain.nil
  | cons part parts ih =>
    rw [List.flatMap_cons]
    exact (h part List.mem_cons_self).append (ih fun p hp => h p (List.mem_cons_of_mem _ hp))

/-- An identifier is plain. -/
theorem Plain.identifier {w : List Char} (hw : IsIdentifier w) : Plain w :=
  Plain.of_forall fun c hc => isPlain_of_isIdent (hw.2 c hc)

/-- A text in single quotes is plain. -/
theorem Plain.quoted {w : List Char} (hw : '\'' ∉ w) : Plain ('\'' :: w ++ ['\'']) := by
  -- Inside the quotes everything is kept up to the quote that closes them.
  have hinside (w s : List Char) (hw : '\'' ∉ w) :
      stripCommentsFrom .quoted (w ++ '\'' :: s) = w ++ '\'' :: stripCommentsFrom .code s := by
    induction w with
    | nil => exact strip_step (by simp)
    | cons c w ih =>
      rw [List.mem_cons, not_or] at hw
      have hplace : Place.behind .quoted c = .quoted := if_neg (Ne.symm hw.1)
      calc stripCommentsFrom .quoted (c :: (w ++ '\'' :: s))
          = c :: stripCommentsFrom (Place.behind .quoted c) (w ++ '\'' :: s) := strip_step (by simp)
        _ = c :: (w ++ '\'' :: stripCommentsFrom .code s) := by rw [hplace, ih hw.2]
  intro s
  have hopen : ¬Torn ['\''] (w ++ '\'' :: s) := by
    rintro (⟨hquote, -⟩ | ⟨hquote, -⟩) <;> cases hquote
  calc stripCommentsFrom .code ('\'' :: w ++ ['\''] ++ s)
      = stripCommentsFrom .code ('\'' :: (w ++ '\'' :: s)) := by simp
    _ = '\'' :: stripCommentsFrom .quoted (w ++ '\'' :: s) := by
        exact strip_step fun _ => hopen
    _ = '\'' :: w ++ ['\''] ++ stripCommentsFrom .code s := by simp [hinside w s hw]

/-- A single hyphen is plain if no other one follows. -/
theorem Plain.hyphen {c : Char} {p : List Char} (hc : c ≠ '-') (hp : Plain (c :: p)) :
    Plain ('-' :: c :: p) := by
  intro s
  -- The character behind the hyphen decides that no comment begins.
  have hkept : ¬Torn ['-'] (c :: p ++ s) := by
    rintro (⟨-, hhead⟩ | ⟨hslash, -⟩)
    · exact hc (Option.some.inj hhead)
    · cases hslash
  calc stripCommentsFrom .code ('-' :: c :: p ++ s)
      = '-' :: stripCommentsFrom .code (c :: p ++ s) := strip_step fun _ => hkept
    _ = '-' :: c :: p ++ stripCommentsFrom .code s := congrArg ('-' :: ·) (hp s)

/-! ## Comments -/

/-- The end of a line is kept. -/
theorem strip_of_endsLine {s : List Char} (hs : EndsLine s) :
    stripCommentsFrom .lineComment s = stripCommentsFrom .code s := by
  cases s with
  | nil => rfl
  | cons c s =>
    have hc : c = '\n' := by simpa [EndsLine] using hs
    rw [hc, strip_cons (by decide)]
    exact strip_step (by simp)

/-- A comment at the end of a line is left out. -/
theorem strip_lineComment {note s : List Char} (hnote : '\n' ∉ note) (hs : EndsLine s) :
    stripCommentsFrom .code ("--".toList ++ note ++ s) = stripCommentsFrom .code s := by
  -- Inside the comment everything is left out up to the end of the line.
  have hinside (note : List Char) (h : '\n' ∉ note) :
      stripCommentsFrom .lineComment (note ++ s) = stripCommentsFrom .code s := by
    induction note with
    | nil => exact strip_of_endsLine hs
    | cons c note ih =>
      rw [List.mem_cons, not_or] at h
      have hplace : Place.behind .lineComment c = .lineComment := if_neg (Ne.symm h.1)
      have hremains : Place.remains .lineComment c = [] := if_neg (Ne.symm h.1)
      calc stripCommentsFrom .lineComment (c :: (note ++ s))
          = Place.remains .lineComment c ++
              stripCommentsFrom (Place.behind .lineComment c) (note ++ s) := strip_step (by simp)
        _ = stripCommentsFrom .code s := by rw [hplace, hremains, ih h.2, List.nil_append]
  exact hinside note hnote

/-- With one more line break in front, each line of a script has its own break in front. -/
theorem cons_intercalate {lines : List (List Char)} (h : lines ≠ []) :
    '\n' :: ['\n'].intercalate lines = lines.flatMap ('\n' :: ·) := by
  induction lines with
  | nil => exact absurd rfl h
  | cons line lines ih =>
    cases lines with
    | nil => simp
    | cons next lines =>
      rw [List.intercalate_cons_cons, List.flatMap_cons, ← ih (by simp)]
      simp

/-! ## A script in two parts -/

/-- The place at the end of a part of a script that begins at the given place. -/
def placeBehind : Place → List Char → Place
  | place, [] => place
  | .code, '-' :: '-' :: rest => placeBehind .lineComment rest
  | .code, '/' :: '*' :: rest => placeBehind (.blockComment false) rest
  | .code, c :: rest => placeBehind (if c = '\'' then .quoted else .code) rest
  | .quoted, c :: rest => placeBehind (if c = '\'' then .code else .quoted) rest
  | .lineComment, c :: rest =>
    if c = '\n' then placeBehind .code rest else placeBehind .lineComment rest
  | .blockComment afterStar, c :: rest =>
    if afterStar ∧ c = '/' then placeBehind .code rest
    else placeBehind (.blockComment (c = '*')) rest

/-- A character that begins no comment leads to the next place. -/
theorem placeBehind_step {place : Place} {c : Char} {s : List Char}
    (h : place = .code → ¬Torn [c] s) :
    placeBehind place (c :: s) = placeBehind (place.behind c) s := by
  cases place with
  | code =>
    rw [placeBehind]
    · rfl
    · rintro r rfl rfl
      exact h rfl (.inl ⟨rfl, rfl⟩)
    · rintro r rfl rfl
      exact h rfl (.inr ⟨rfl, rfl⟩)
  | quoted =>
    rw [placeBehind]
    rfl
  | lineComment =>
    rw [placeBehind, Place.behind]
    split_ifs <;> rfl
  | blockComment afterStar =>
    rw [placeBehind, Place.behind]
    split_ifs <;> rfl

/-- A script can be divided where nothing is torn: the comments of the first part end in it, or go
on at the place that is reached. -/
theorem strip_append {p s : List Char} (h : ¬Torn p s) (place : Place) :
    stripCommentsFrom place (p ++ s) =
      stripCommentsFrom place p ++ stripCommentsFrom (placeBehind place p) s := by
  induction place, p using place_induction with
  | nil place => cases place <;> rfl
  | line p ih => exact ih (not_torn_of_cons (not_torn_of_cons h))
  | block p ih => exact congrArg (' ' :: ·) (ih (not_torn_of_cons (not_torn_of_cons h)))
  | step place c p hkept ih =>
    rw [List.cons_append, strip_step fun hcode => not_torn_append (hkept hcode) h,
      strip_step hkept, placeBehind_step hkept, ih (not_torn_of_cons h), List.append_assoc]

/-- So it can be in front of a character that is not the second one of what begins a comment. -/
theorem strip_append_cons {c : Char} (hhyphen : c ≠ '-') (hstar : c ≠ '*') (place : Place)
    (p s : List Char) :
    stripCommentsFrom place (p ++ c :: s) =
      stripCommentsFrom place p ++ stripCommentsFrom (placeBehind place p) (c :: s) :=
  strip_append (not_torn_cons hhyphen hstar p s) place

/-- The place behind a script that is divided where nothing is torn is the one behind the second
part. -/
theorem placeBehind_append {p s : List Char} (h : ¬Torn p s) (place : Place) :
    placeBehind place (p ++ s) = placeBehind (placeBehind place p) s := by
  induction place, p using place_induction with
  | nil place => cases place <;> rfl
  | line p ih => exact ih (not_torn_of_cons (not_torn_of_cons h))
  | block p ih => exact ih (not_torn_of_cons (not_torn_of_cons h))
  | step place c p hkept ih =>
    rw [List.cons_append, placeBehind_step fun hcode => not_torn_append (hkept hcode) h,
      placeBehind_step hkept, ih (not_torn_of_cons h)]

/-- So is the one behind a script that is divided in front of such a character. -/
theorem placeBehind_append_cons {c : Char} (hhyphen : c ≠ '-') (hstar : c ≠ '*') (place : Place)
    (p s : List Char) :
    placeBehind place (p ++ c :: s) = placeBehind (placeBehind place p) (c :: s) :=
  placeBehind_append (not_torn_cons hhyphen hstar p s) place

/-- One quote leads into a literal or out of it, and no other character does. -/
theorem even_count_remains (place : Place) (c : Char) :
    Even ((place.remains c).count '\'') ↔ (place = .quoted ↔ place.behind c = .quoted) := by
  cases place with
  | code =>
    rw [Place.remains, Place.behind]
    by_cases hc : c = '\'' <;> simp [hc]
  | quoted =>
    rw [Place.remains, Place.behind]
    by_cases hc : c = '\'' <;> simp [hc]
  | lineComment =>
    rw [Place.remains, Place.behind]
    by_cases hc : c = '\n' <;> simp [hc]
  | blockComment afterStar =>
    rw [Place.remains, Place.behind]
    split_ifs <;> simp

/-- Quotes are kept, and each one opens or closes a literal: their number is even if and only if
the place at the end is within quotes just when that at the beginning is. -/
theorem even_count_quote (place : Place) (p : List Char) :
    Even ((stripCommentsFrom place p).count '\'') ↔
      (place = .quoted ↔ placeBehind place p = .quoted) := by
  induction place, p using place_induction with
  | nil place => cases place <;> exact iff_of_true Even.zero Iff.rfl
  | line p ih =>
    show Even ((stripCommentsFrom .lineComment p).count '\'') ↔
      (Place.code = .quoted ↔ placeBehind .lineComment p = .quoted)
    rw [ih]
    simp
  | block p ih =>
    show Even ((' ' :: stripCommentsFrom (.blockComment false) p).count '\'') ↔
      (Place.code = .quoted ↔ placeBehind (.blockComment false) p = .quoted)
    rw [List.count_cons_of_ne (by decide), ih]
    simp
  | step place c p hkept ih =>
    rw [strip_step hkept, placeBehind_step hkept, List.count_append, Nat.even_add,
      even_count_remains, ih]
    by_cases hbehind : place.behind c = .quoted
    · simp only [hbehind, iff_true, true_iff]
    · simp only [hbehind, iff_false, false_iff, not_iff_not]

end SchemaDiagram.Sql
