import SchemaDiagram.Proofs.Sql.Comment
import SchemaDiagram.Proofs.Sql.Reader
import SchemaDiagram.Proofs.Text.Case

/-!
# Defaults that SQL gives back

A default can be written in SQL if it is a name in single quotes, a decimal number or a call without
arguments (`WritableDefault`). Written behind `DEFAULT`, where schema text puts backticks around a
call and SQL does not, it is read back as it was (`WritableDefault.defaultOf?_expression`). Its
words are of ASCII, and at most those of a number are several. If a call is not named like a flag
(`PortableDefault`), none of them is taken for a constraint.
-/

namespace SchemaDiagram.Sql

open Character

/-- The words in the constraints of a column that set a flag by themselves. -/
def flagWords : List String :=
  ["UNIQUE", "AUTO_INCREMENT", "AUTOINCREMENT", "IDENTITY"]

/-- The defaults that SQL gives back. -/
inductive PortableDefault : List Char → Prop
  /-- A name, or nothing, in single quotes. -/
  | quoted {w : List Char} (hw : ∀ c ∈ w, isIdent c = true) :
    PortableDefault ('\'' :: w ++ ['\''])
  /-- A decimal number. -/
  | number {sign digits fraction : List Char} (hsign : sign = [] ∨ sign = ['-'])
    (hne : digits ≠ []) (hdigits : ∀ c ∈ digits, c.isDigit = true)
    (hfraction : fraction = [] ∨ ∃ ds, fraction = '.' :: ds ∧ ∀ c ∈ ds, c.isDigit = true) :
    PortableDefault (sign ++ digits ++ fraction)
  /-- A call of a function that is not named like a flag. -/
  | call {f : List Char} (hne : f ≠ []) (hf : ∀ c ∈ f, isAsciiIdent c = true)
    (hfree : ∀ word ∈ flagWords, Text.sameLetters f word.toList = false) :
    PortableDefault ('\x60' :: f ++ "()\x60".toList)

/-- The defaults that can be written in SQL. If a function is named like a flag, its call sets that
flag, too. -/
inductive WritableDefault : List Char → Prop
  /-- A name, or nothing, in single quotes. -/
  | quoted {w : List Char} (hw : ∀ c ∈ w, isIdent c = true) :
    WritableDefault ('\'' :: w ++ ['\''])
  /-- A decimal number. -/
  | number {sign digits fraction : List Char} (hsign : sign = [] ∨ sign = ['-'])
    (hne : digits ≠ []) (hdigits : ∀ c ∈ digits, c.isDigit = true)
    (hfraction : fraction = [] ∨ ∃ ds, fraction = '.' :: ds ∧ ∀ c ∈ ds, c.isDigit = true) :
    WritableDefault (sign ++ digits ++ fraction)
  /-- A call of a function. -/
  | call {f : List Char} (hne : f ≠ []) (hf : ∀ c ∈ f, isAsciiIdent c = true) :
    WritableDefault ('\x60' :: f ++ "()\x60".toList)

/-- A default that SQL gives back can be written in it. -/
theorem PortableDefault.writable {v : List Char} (hv : PortableDefault v) : WritableDefault v := by
  cases hv with
  | quoted hw => exact .quoted hw
  | number hsign hne hdigits hfraction => exact .number hsign hne hdigits hfraction
  | call hne hf hfree => exact .call hne hf

/-- The parts of a decimal number. -/
structure IsDecimal (sign digits fraction : List Char) : Prop where
  /-- There is no sign but a hyphen. -/
  signed : sign = [] ∨ sign = ['-']
  /-- There are digits. -/
  digits_ne_nil : digits ≠ []
  /-- They are digits of ASCII. -/
  isDigit : ∀ c ∈ digits, c.isDigit = true
  /-- A point with more digits may follow. -/
  pointed : fraction = [] ∨ ∃ ds, fraction = '.' :: ds ∧ ∀ c ∈ ds, c.isDigit = true

/-! ## Quotes in constraints -/

/-- What stands outside quotes is not changed. -/
theorem blankQuoted_append {p : List Char} (hp : '\'' ∉ p) (s : List Char) :
    blankQuoted false (p ++ s) = p ++ blankQuoted false s := by
  induction p with
  | nil => rfl
  | cons c p ih =>
    rw [List.mem_cons, not_or] at hp
    rw [List.cons_append, blankQuoted, if_neg (Ne.symm hp.1), ih hp.2]
    rfl

/-- A text without quotes is not changed. -/
theorem blankQuoted_of_not_mem {p : List Char} (hp : '\'' ∉ p) : blankQuoted false p = p := by
  have h := blankQuoted_append hp []
  rwa [List.append_nil, blankQuoted, List.append_nil] at h

/-- Of a text in quotes a space is left. -/
theorem blankQuoted_quoted {w : List Char} (hw : '\'' ∉ w) :
    blankQuoted false ('\'' :: w ++ ['\'']) = [' '] := by
  -- The space is put in place of the opening quote, and the rest up to the closing one is left out.
  have hinside : blankQuoted true (w ++ ['\'']) = [] := by
    induction w with
    | nil => rfl
    | cons c w ih =>
      rw [List.mem_cons, not_or] at hw
      rw [List.cons_append, blankQuoted, bne_iff_ne.2 (Ne.symm hw.1), ih hw.2]
  rw [List.cons_append, blankQuoted, if_pos rfl, hinside]

namespace WritableDefault

variable {v s : List Char}

/-! ## The expression of a default -/

/-- A text in single quotes is its own expression. -/
theorem expression_quoted (w : List Char) :
    defaultExpression ('\'' :: w ++ ['\'']) = '\'' :: w ++ ['\''] := rfl

/-- A number is its own expression. -/
theorem expression_number {sign digits fraction : List Char} (h : IsDecimal sign digits fraction) :
    defaultExpression (sign ++ digits ++ fraction) = sign ++ digits ++ fraction := by
  rcases h.signed with rfl | rfl
  · -- The first digit is no backtick.
    obtain ⟨c, digits, rfl⟩ := List.exists_cons_of_ne_nil h.digits_ne_nil
    have hc : c ≠ '\x60' := by
      rintro rfl
      exact absurd (h.isDigit '\x60' (by simp)) (by decide)
    unfold defaultExpression
    split
    · next h => exact absurd (List.cons.inj h).1 hc
    · rfl
  · rfl

/-- The expression of a call comes without the backticks. -/
theorem expression_call (f : List Char) :
    defaultExpression ('\x60' :: f ++ "()\x60".toList) = f ++ "()".toList := by
  have hlast : (f ++ "()\x60".toList).getLast? = some '\x60' := by simp
  unfold defaultExpression
  rw [List.cons_append]
  simp only [hlast, if_true]
  rw [show "()\x60".toList = "()".toList ++ ['\x60'] from rfl, ← List.append_assoc,
    List.dropLast_concat]

/-- A digit is an identifier character. -/
theorem isIdent_of_isDigit {c : Char} (h : c.isDigit = true) : isIdent c = true :=
  isIdent_of_isAsciiIdent (isAsciiIdent_of_isDigit h)

/-- A number consists of digits, a hyphen and a point. -/
theorem mem_number {sign digits fraction : List Char} (h : IsDecimal sign digits fraction)
    {c : Char} (hc : c ∈ sign ++ digits ++ fraction) : c.isDigit = true ∨ c = '-' ∨ c = '.' := by
  rw [List.mem_append, List.mem_append] at hc
  rcases hc with (hc | hc) | hc
  · rcases h.signed with rfl | rfl
    · cases hc
    · exact .inr (.inl (List.mem_singleton.1 hc))
  · exact .inl (h.isDigit c hc)
  · rcases h.pointed with rfl | ⟨ds, rfl, hds⟩
    · cases hc
    · rcases List.mem_cons.1 hc with rfl | hc
      · exact .inr (.inr rfl)
      · exact .inl (hds c hc)

/-- No quotes are in a number. -/
theorem quote_not_mem_number {sign digits fraction : List Char}
    (h : IsDecimal sign digits fraction) : '\'' ∉ sign ++ digits ++ fraction := by
  intro hc
  rcases mem_number h hc with hc | hc | hc
  · exact absurd hc (by decide)
  · exact absurd hc (by decide)
  · exact absurd hc (by decide)

/-- No quotes are in a call. -/
theorem quote_not_mem_call {f : List Char} (hf : ∀ c ∈ f, isAsciiIdent c = true) :
    '\'' ∉ f ++ "()".toList := by
  intro h
  rcases List.mem_append.1 h with h | h
  · exact absurd (hf '\'' h) (by decide)
  · exact absurd h (by decide)

/-- Expressions consist of identifier characters and of five marks. -/
theorem mem_expression (hv : WritableDefault v) {c : Char} (hc : c ∈ defaultExpression v) :
    isIdent c = true ∨ c ∈ ['\'', '-', '.', '(', ')'] := by
  cases hv with
  | @quoted w hw =>
    rw [expression_quoted] at hc
    simp only [List.cons_append, List.mem_cons, List.mem_append, List.not_mem_nil, or_false] at hc
    rcases hc with rfl | hc | rfl
    · exact .inr (by simp)
    · exact .inl (hw c hc)
    · exact .inr (by simp)
  | @number sign digits fraction hsign hne hdigits hfraction =>
    have hn : IsDecimal sign digits fraction := ⟨hsign, hne, hdigits, hfraction⟩
    rw [expression_number hn] at hc
    rcases mem_number hn hc with h | rfl | rfl
    · exact .inl (isIdent_of_isDigit h)
    · exact .inr (by simp)
    · exact .inr (by simp)
  | @call f hne hf =>
    rw [expression_call, List.mem_append] at hc
    rcases hc with hc | hc
    · exact .inl (isIdent_of_isAsciiIdent (hf c hc))
    · have hparen : c = '(' ∨ c = ')' := by simpa using hc
      rcases hparen with rfl | rfl
      · exact .inr (by simp)
      · exact .inr (by simp)

/-- No other mark is in an expression. -/
theorem not_mem_expression (hv : WritableDefault v) {c : Char} (hident : isIdent c = false)
    (hmark : c ∉ ['\'', '-', '.', '(', ')']) : c ∉ defaultExpression v := by
  intro hc
  rcases hv.mem_expression hc with h | h
  · rw [hident] at h
    cases h
  · exact hmark h

/-- Expressions have no blanks. -/
theorem isBlank_expression (hv : WritableDefault v) :
    ∀ c ∈ defaultExpression v, isBlank c = false := by
  intro c hc
  rcases hv.mem_expression hc with h | h
  · exact isBlank_of_isIdent h
  · have hall : ∀ c ∈ ['\'', '-', '.', '(', ')'], isBlank c = false := by
      simp [isBlank]
    exact hall c h

/-- No expression is empty. -/
theorem expression_ne_nil (hv : WritableDefault v) : defaultExpression v ≠ [] := by
  cases hv with
  | quoted hw =>
    rw [expression_quoted]
    exact List.cons_ne_nil _ _
  | @number sign digits fraction hsign hne hdigits hfraction =>
    rw [expression_number ⟨hsign, hne, hdigits, hfraction⟩]
    simp [hne]
  | call hne hf =>
    rw [expression_call]
    exact List.append_ne_nil_of_left_ne_nil hne _

/-- Neither comments nor quotes that stay open begin in an expression. -/
theorem plain_expression (hv : WritableDefault v) : Plain (defaultExpression v) := by
  cases hv with
  | @quoted w hw =>
    rw [expression_quoted]
    refine Plain.quoted fun h => ?_
    exact absurd (hw '\'' h) (by decide)
  | @number sign digits fraction hsign hne hdigits hfraction =>
    -- Only the sign could begin a comment.
    have hplain : ∀ c ∈ digits ++ fraction, isPlain c = true := by
      intro c hc
      rcases List.mem_append.1 hc with hc | hc
      · exact isPlain_of_isIdent (isIdent_of_isDigit (hdigits c hc))
      · rcases hfraction with rfl | ⟨ds, rfl, hds⟩
        · cases hc
        · rcases List.mem_cons.1 hc with rfl | hc
          · rfl
          · exact isPlain_of_isIdent (isIdent_of_isDigit (hds c hc))
    rw [expression_number ⟨hsign, hne, hdigits, hfraction⟩, List.append_assoc]
    rcases hsign with rfl | rfl
    · exact Plain.of_forall hplain
    · -- A digit follows the hyphen, so it does not begin a comment.
      obtain ⟨c, digits, rfl⟩ := List.exists_cons_of_ne_nil hne
      refine Plain.hyphen ?_ (Plain.of_forall hplain)
      rintro rfl
      exact absurd (hdigits '-' (by simp)) (by decide)
  | @call f hne hf =>
    rw [expression_call]
    refine Plain.append (Plain.of_forall fun c hc => ?_) (Plain.of_all rfl)
    exact isPlain_of_isIdent (isIdent_of_isAsciiIdent (hf c hc))

/-! ## The words of an expression -/

/-- The expression of a default without what is in quotes. -/
def bare (v : List Char) : List Char :=
  blankQuoted false (defaultExpression v)

/-- The words of the expression of a default, outside quotes. -/
def words (v : List Char) : List (List Char) :=
  identifiers (bare v)

/-- The words of a number consist of digits. -/
theorem isDigit_of_mem_number {sign digits fraction w : List Char}
    (h : IsDecimal sign digits fraction) (hw : w ∈ identifiers (sign ++ digits ++ fraction)) :
    ∀ c ∈ w, c.isDigit = true := by
  intro c hc
  -- The marks of a number are not part of its words.
  have hident := (isIdentifier_of_mem_identifiers hw).2 c hc
  rcases mem_number h (mem_of_mem_identifiers hw c hc) with hdigit | rfl | rfl
  · exact hdigit
  · exact absurd hident (by decide)
  · exact absurd hident (by decide)

/-- Of a text in quotes a space is left, which has no words. -/
theorem words_quoted {w : List Char} (hw : ∀ c ∈ w, isIdent c = true) :
    words ('\'' :: w ++ ['\'']) = [] := by
  have hquote : '\'' ∉ w := by
    intro h
    exact absurd (hw '\'' h) (by decide)
  unfold words bare
  rw [expression_quoted, blankQuoted_quoted hquote,
    identifiers_of_forall (List.forall_mem_singleton.2 rfl)]

/-- The words of a default that is a number consist of digits. -/
theorem isDigit_of_mem_words {sign digits fraction w : List Char}
    (h : IsDecimal sign digits fraction) (hw : w ∈ words (sign ++ digits ++ fraction)) :
    ∀ c ∈ w, c.isDigit = true := by
  unfold words bare at hw
  rw [expression_number h, blankQuoted_of_not_mem (quote_not_mem_number h)] at hw
  exact isDigit_of_mem_number h hw

/-- In a call nothing is in quotes. -/
theorem bare_call {f : List Char} (hf : ∀ c ∈ f, isAsciiIdent c = true) :
    bare ('\x60' :: f ++ "()\x60".toList) = f ++ "()".toList := by
  unfold bare
  rw [expression_call, blankQuoted_of_not_mem (quote_not_mem_call hf)]

/-- The words are those of a number, or the expression is a call. -/
theorem words_cases (hv : WritableDefault v) :
    (∀ w ∈ words v, ∀ c ∈ w, c.isDigit = true) ∨
      ∃ f, f ≠ [] ∧ bare v = f ++ "()".toList ∧ ∀ c ∈ f, isAsciiIdent c = true := by
  cases hv with
  | quoted hw =>
    left
    rw [words_quoted hw]
    exact fun w hw => absurd hw List.not_mem_nil
  | number hsign hne hdigits hfraction =>
    exact .inl fun w hw => isDigit_of_mem_words ⟨hsign, hne, hdigits, hfraction⟩ hw
  | @call f hne hf => exact .inr ⟨f, hne, bare_call hf, hf⟩

/-- The only word of a call is the name of the function. -/
theorem words_call {f : List Char} (hne : f ≠ []) (hf : ∀ c ∈ f, isAsciiIdent c = true)
    (hbare : bare v = f ++ "()".toList) : words v = [f] := by
  have hident : IsIdentifier f := ⟨hne, fun c hc => isIdent_of_isAsciiIdent (hf c hc)⟩
  have hparens : ∀ c ∈ "()".toList, isIdent c = false := by
    intro c hc
    have hc : c = '(' ∨ c = ')' := by simpa using hc
    rcases hc with rfl | rfl
    · rfl
    · rfl
  unfold words
  rw [hbare, identifiers_word hident (show Stops "()".toList from rfl),
    identifiers_of_forall hparens]

/-- A letter is no digit. -/
theorem isDigit_of_isAlpha {c : Char} (h : c.isAlpha = true) : c.isDigit = false := by
  rw [isAlpha_iff, toNat_toLower] at h
  unfold Char.isDigit
  -- The digits of ASCII come before its letters.
  have hlt : ¬c.toNat ≤ 57 := by
    split at h <;> omega
  rw [Bool.and_eq_false_iff]
  right
  exact decide_eq_false hlt

/-- The words are of ASCII. -/
theorem lt_of_mem_words (hv : WritableDefault v) {w : List Char} (hw : w ∈ words v) :
    ∀ c ∈ w, c.toNat < 0x80 := by
  intro c hc
  rcases hv.words_cases with h | ⟨f, hne, hbare, hf⟩
  · exact lt_of_isAsciiIdent (isAsciiIdent_of_isDigit (h w hw c hc))
  · rw [words_call hne hf hbare, List.mem_singleton] at hw
    exact lt_of_isAsciiIdent (hf c (hw ▸ hc))

/-- A word that consists of digits has not the letters of one that begins with a letter. -/
theorem sameLetters_of_isDigit {w word : List Char} (hw : ∀ c ∈ w, c.isDigit = true)
    (hword : word.head?.any Char.isAlpha = true) : Text.sameLetters w word = false := by
  rw [Bool.eq_false_iff]
  intro h
  cases word with
  | nil => cases hword
  | cons a word =>
    cases w with
    | nil => cases h
    | cons c w =>
      -- The first characters would agree, but one is a digit and the other one a letter.
      have hlower : c.toLower = a.toLower := by
        have hmap : (c :: w).map Char.toLower = (a :: word).map Char.toLower := by
          simpa [Text.sameLetters] using h
        exact (List.cons.inj hmap).1
      have halpha := isAlpha_of_toLower_eq (by simpa using hword) hlower
      have hdigit := hw c (by simp)
      rw [isDigit_of_isAlpha halpha] at hdigit
      cases hdigit

/-- No two consecutive words of an expression spell a phrase that begins with a letter. -/
theorem not_phrase (hv : WritableDefault v) {a b : List Char}
    (ha : a.head?.any Char.isAlpha = true) : ¬[a, b] <:+: (words v).map Text.upper := by
  intro h
  rcases hv.words_cases with hdigits | ⟨f, hne, hbare, hf⟩
  · obtain ⟨w, hw, hwa⟩ := List.mem_map.1 (h.subset (List.mem_cons_self : a ∈ [a, b]))
    have hsame : Text.sameLetters w a = true := by
      rw [← Text.sameLetters_upper (hv.lt_of_mem_words hw), hwa]
      simp [Text.sameLetters]
    rw [sameLetters_of_isDigit (hdigits w hw) ha] at hsame
    cases hsame
  -- A call has only one word.
  · have hlen := h.length_le
    rw [words_call hne hf hbare] at hlen
    exact absurd hlen (by simp)

/-! ## Reading a default back -/

/-- A number is known as one. -/
theorem isLiteral_number {sign digits fraction : List Char}
    (hn : IsDecimal sign digits fraction) : isLiteral (sign ++ digits ++ fraction) = true := by
  obtain ⟨hsign, hne, hdigits, hfraction⟩ := hn
  -- Behind the sign, the digits are taken up to the point and the rest behind it.
  have hunsigned : Decimal.isUnsigned (digits ++ fraction) = true := by
    have hempty : digits.isEmpty = false := by simpa using hne
    unfold Decimal.isUnsigned
    rw [List.takeWhile_append_of_pos hdigits, List.dropWhile_append_of_pos hdigits]
    rcases hfraction with rfl | ⟨ds, rfl, hds⟩
    · simp [hempty]
    · have htake : ds.takeWhile Char.isDigit = ds := List.takeWhile_eq_self_iff.2 hds
      have hdrop : ds.dropWhile Char.isDigit = [] := List.dropWhile_eq_nil_iff.2 hds
      have hpoint : Char.isDigit '.' = false := rfl
      simp [hpoint, htake, hdrop, hne]
  have hnumber : Decimal.isNumber (sign ++ digits ++ fraction) = true := by
    unfold Decimal.isNumber
    rcases hsign with rfl | rfl
    · -- The first digit is not taken for a sign.
      obtain ⟨c, digits, rfl⟩ := List.exists_cons_of_ne_nil hne
      have hc := hdigits c (by simp)
      rw [List.nil_append]
      split
      · next h =>
        rw [(List.cons.inj h).1] at hc
        exact absurd hc (by decide)
      · next h =>
        rw [(List.cons.inj h).1] at hc
        exact absurd hc (by decide)
      · simp only [hunsigned, Bool.true_or]
    · show (Decimal.isUnsigned (digits ++ fraction) || _) = true
      rw [hunsigned]
      rfl
  unfold isLiteral
  rw [hnumber]
  rfl

/-- Digits have no parentheses among them. -/
theorem not_mem_of_isDigit {ds : List Char} (h : ∀ c ∈ ds, c.isDigit = true) : '(' ∉ ds :=
  fun hmem => absurd (h '(' hmem) (by decide)

/-- An exponent has no parentheses. -/
theorem not_mem_of_isExponent {s : List Char} (h : Decimal.isExponent s = true) : '(' ∉ s := by
  cases s with
  | nil => exact List.not_mem_nil
  | cons e s =>
    unfold Decimal.isExponent at h
    rw [Bool.and_eq_true, Bool.and_eq_true] at h
    obtain ⟨⟨he, -⟩, hdigits⟩ := h
    have hfirst : '(' ≠ e := by
      rintro rfl
      exact absurd he (by decide)
    rw [List.mem_cons, not_or]
    refine ⟨hfirst, ?_⟩
    split at hdigits
    · simpa using not_mem_of_isDigit (List.all_eq_true.1 hdigits)
    · simpa using not_mem_of_isDigit (List.all_eq_true.1 hdigits)
    · exact not_mem_of_isDigit (List.all_eq_true.1 hdigits)

/-- A number without a sign has no parentheses. -/
theorem not_mem_of_isUnsigned {s : List Char} (h : Decimal.isUnsigned s = true) : '(' ∉ s := by
  have htake (s : List Char) : '(' ∉ s.takeWhile Char.isDigit :=
    not_mem_of_isDigit fun _ hc => List.mem_takeWhile_imp hc
  have hrest {s : List Char} (h : (s.isEmpty || Decimal.isExponent s) = true) : '(' ∉ s := by
    rw [Bool.or_eq_true] at h
    rcases h with h | h
    · rw [List.isEmpty_iff.1 h]
      exact List.not_mem_nil
    · exact not_mem_of_isExponent h
  -- The digits in front have no parenthesis, so one would be in what comes behind them.
  have hsplit : s = s.takeWhile Char.isDigit ++ s.dropWhile Char.isDigit :=
    List.takeWhile_append_dropWhile.symm
  unfold Decimal.isUnsigned at h
  rw [hsplit, List.mem_append, not_or]
  refine ⟨htake s, ?_⟩
  generalize s.dropWhile Char.isDigit = t at h
  dsimp only at h
  split at h
  · next sign t =>
    have hfraction : t = t.takeWhile Char.isDigit ++ t.dropWhile Char.isDigit :=
      List.takeWhile_append_dropWhile.symm
    rw [Bool.and_eq_true] at h
    rw [List.mem_cons, not_or, hfraction, List.mem_append, not_or]
    exact ⟨by decide, htake t, hrest h.2⟩
  · rw [Bool.and_eq_true] at h
    exact hrest h.2

/-- What has the letters of a word without parentheses has none. -/
theorem not_mem_of_sameLetters {s word : List Char} (hword : '(' ∉ word.map Char.toLower)
    (h : Text.sameLetters s word = true) : '(' ∉ s := by
  have hmap : s.map Char.toLower = word.map Char.toLower := by simpa [Text.sameLetters] using h
  intro hmem
  rw [← hmap] at hword
  exact hword (List.mem_map_of_mem (f := Char.toLower) hmem)

/-- A number has no parentheses. -/
theorem not_mem_of_isNumber {s : List Char} (h : Decimal.isNumber s = true) : '(' ∉ s := by
  have hmagnitude {s : List Char}
      (h : (Decimal.isUnsigned s || Decimal.isSpecial s) = true) : '(' ∉ s := by
    rw [Bool.or_eq_true] at h
    rcases h with h | h
    · exact not_mem_of_isUnsigned h
    · unfold Decimal.isSpecial at h
      intro hmem
      have hlower := List.mem_map_of_mem (f := Char.toLower) hmem
      have hcases : s.map Char.toLower = "inf".toList ∨ s.map Char.toLower = "infinity".toList ∨
          s.map Char.toLower = "nan".toList := by simpa using h
      rcases hcases with h | h | h
      · exact absurd (h ▸ hlower) (by decide)
      · exact absurd (h ▸ hlower) (by decide)
      · exact absurd (h ▸ hlower) (by decide)
  unfold Decimal.isNumber at h
  dsimp only at h
  split at h
  · simpa using hmagnitude h
  · simpa using hmagnitude h
  · exact hmagnitude h

/-- A call is no literal. -/
theorem isLiteral_call (f : List Char) : isLiteral (f ++ "()".toList) = false := by
  -- Its parentheses tell a call from numbers and from the words for truth values and for nothing.
  have hmem : '(' ∈ f ++ "()".toList := by simp
  have hwords : ∀ word ∈ ["true", "false", "null"], '(' ∉ word.toList.map Char.toLower := by
    simp
  rw [Bool.eq_false_iff]
  intro h
  unfold isLiteral at h
  rw [Bool.or_eq_true, List.any_eq_true] at h
  rcases h with h | ⟨word, hword, h⟩
  · exact not_mem_of_isNumber h hmem
  · exact not_mem_of_sameLetters (hwords word hword) h hmem

/-- The search for the keyword of a default finds what comes behind it. -/
theorem exists_of_behind (h : Cursor.behind? "default".toList s = some v) :
    ∃ place behind, (Cursor.start s).findKeyword? "default".toList = some (place, behind) ∧
      behind.ahead = v := by
  rw [← Cursor.findKeyword?_start, Option.map_eq_some_iff] at h
  obtain ⟨⟨place, behind⟩, hfind, hahead⟩ := h
  exact ⟨place, behind, hfind, hahead⟩

/-- Behind its keyword a text in single quotes is read with them. -/
theorem defaultOf?_quoted {w : List Char} (hw : '\'' ∉ w)
    (h : Cursor.behind? "default".toList s = some (' ' :: '\'' :: w ++ ['\''])) :
    defaultOf? s = some ('\'' :: w ++ ['\'']) := by
  obtain ⟨place, behind, hfind, hahead⟩ := exists_of_behind h
  have hskip : Scan.skipBlanks behind.ahead = '\'' :: (w ++ ['\'']) := by
    rw [hahead]
    exact Scan.skipBlanks_of_not (c := '\'') rfl
  unfold defaultOf?
  rw [hfind]
  simp only [Option.bind_eq_bind, Option.bind_some, hskip, Scan.until?_singleton hw]
  rfl

/-- Behind its keyword a text without blanks is read as a literal or as an expression. -/
theorem defaultOf?_bare {e : List Char} (hne : e ≠ []) (hquote : e.head? ≠ some '\'')
    (hblank : ∀ c ∈ e, isBlank c = false)
    (h : Cursor.behind? "default".toList s = some (' ' :: e)) :
    defaultOf? s = some (if isLiteral e then e else '\x60' :: e ++ ['\x60']) := by
  obtain ⟨place, behind, hfind, hahead⟩ := exists_of_behind h
  obtain ⟨c, t, rfl⟩ := List.exists_cons_of_ne_nil hne
  have hskip : Scan.skipBlanks behind.ahead = c :: t := by
    rw [hahead, Scan.skipBlanks_cons rfl, Scan.skipBlanks_of_not (hblank c (by simp))]
  -- The expression has no blanks, so all of it is taken.
  have htake : (c :: t).takeWhile (fun c => !isBlank c) = c :: t :=
    List.takeWhile_eq_self_iff.2 fun x hx => by simp [hblank x hx]
  unfold defaultOf?
  rw [hfind]
  simp only [Option.bind_eq_bind, Option.bind_some, hskip]
  split
  · next rest hcons => exact absurd (congrArg List.head? hcons) hquote
  · rw [htake]
    simp only
    split
    · rfl
    · rfl

/-- Behind its keyword a default is read back. -/
theorem defaultOf?_expression (hv : WritableDefault v)
    (h : Cursor.behind? "default".toList s = some (' ' :: defaultExpression v)) :
    defaultOf? s = some v := by
  have hne := hv.expression_ne_nil
  have hblank := hv.isBlank_expression
  cases hv with
  | @quoted w hw =>
    refine defaultOf?_quoted (fun h => ?_) h
    exact absurd (hw '\'' h) (by decide)
  | @number sign digits fraction hsign hdne hdigits hfraction =>
    have hn : IsDecimal sign digits fraction := ⟨hsign, hdne, hdigits, hfraction⟩
    rw [expression_number hn] at h hne hblank
    rw [defaultOf?_bare hne ?_ hblank h, isLiteral_number hn]
    · rfl
    · intro hhead
      exact quote_not_mem_number hn (List.mem_of_head? hhead)
  | @call f hfne hf =>
    rw [expression_call] at h hne hblank
    rw [defaultOf?_bare hne ?_ hblank h, isLiteral_call]
    · simp
    · intro hhead
      exact quote_not_mem_call hf (List.mem_of_head? hhead)

/-- Without its keyword there is no default. -/
theorem defaultOf?_none (h : Cursor.behind? "default".toList s = none) :
    defaultOf? s = none := by
  rw [← Cursor.findKeyword?_start, Option.map_eq_none_iff] at h
  unfold defaultOf?
  rw [h]
  rfl

/-! ## What an expression is not taken for -/

/-- Behind `references` there is nothing, or the parentheses of a call. -/
theorem behind?_references (hv : WritableDefault v) :
    Cursor.behind? "references".toList (bare v) = none ∨
      Cursor.behind? "references".toList (bare v) = some "()".toList := by
  have hword : IsWord "references".toList := isWord_of_all rfl
  rcases hv.words_cases with h | ⟨f, hne, hbare, hf⟩
  · -- The words consist of digits, so the search passes over everything.
    left
    have hnot : ∀ w ∈ identifiers (bare v), Text.sameLetters w "references".toList = false :=
      fun w hw => sameLetters_of_isDigit (h w hw) rfl
    have happend := Cursor.behind?_append hword hnot (Breaks.of_stops stops_nil)
    rwa [List.append_nil, Cursor.behind?_nil] at happend
  · have hstop : Stops "()".toList := rfl
    have hident : ∀ c ∈ f, isIdent c = true := fun c hc => isIdent_of_isAsciiIdent (hf c hc)
    rw [hbare]
    by_cases hsame : Text.sameLetters f "references".toList = true
    · right
      exact Cursor.behind?_self hword hsame hstop
    · left
      rw [Cursor.behind?_word hword hident hstop (by simpa using hsame)]
      show Cursor.behind? "references".toList ['(', ')'] = none
      rw [Cursor.behind?_cons hword (by decide), Cursor.behind?_cons hword (by decide),
        Cursor.behind?_nil]

/-- A function that is called `references` refers to no column. -/
theorem referenceTarget_call : (ForeignKey.referenceTarget.on "()".toList).1 = none := by
  decide +kernel

/-- The identifiers of an expression add no constructs. -/
theorem constructs_expression {α : Type} {keyword : Keyword} {word : List Char}
    {reader : List Char → Option α × List Char} (h : TwoWords keyword word reader)
    (hv : WritableDefault v) (hs : Stops s) :
    constructs keyword reader (defaultExpression v ++ s) = constructs keyword reader s := by
  cases hv with
  | @quoted w hw =>
    -- The second word does not follow an identifier at whose end the quote closes.
    rw [expression_quoted, List.cons_append, List.cons_append, List.append_assoc]
    exact h.constructs_between hw (by decide) (by decide) (by decide)
  | @number sign digits fraction hsign hne hdigits hfraction =>
    have hn : IsDecimal sign digits fraction := ⟨hsign, hne, hdigits, hfraction⟩
    rw [expression_number hn]
    refine constructs_append h.first (fun w hw => ?_) (Breaks.of_stops hs)
    exact sameLetters_of_isDigit (isDigit_of_mem_number hn hw) h.first.head?
  | @call f hne hf =>
    -- Nor does it follow one at whose end a parenthesis opens.
    have hident : ∀ c ∈ f, isIdent c = true := fun c hc => isIdent_of_isAsciiIdent (hf c hc)
    rw [expression_call, List.append_assoc]
    show constructs keyword reader (f ++ '(' :: ')' :: s) = _
    rw [h.constructs_identifier hident (stops_cons.2 (by decide))
      (NotAhead.mark h.second (by decide) (by decide)), constructs_cons h.first (by decide),
      constructs_cons h.first (by decide)]

end WritableDefault

/-- None of the words of a default that SQL gives back sets a flag. -/
theorem PortableDefault.not_flag {v w : List Char} (hv : PortableDefault v)
    (hw : w ∈ WritableDefault.words v) {word : String} (hword : word ∈ flagWords) :
    Text.sameLetters w word.toList = false := by
  have hhead : ∀ word ∈ flagWords, word.toList.head?.any Char.isAlpha = true :=
    List.all_eq_true.1 rfl
  cases hv with
  | quoted hquoted =>
    rw [WritableDefault.words_quoted hquoted] at hw
    cases hw
  | number hsign hne hdigits hfraction =>
    have hdigit := WritableDefault.isDigit_of_mem_words ⟨hsign, hne, hdigits, hfraction⟩ hw
    exact WritableDefault.sameLetters_of_isDigit hdigit (hhead word hword)
  | call hne hf hfree =>
    rw [WritableDefault.words_call hne hf (WritableDefault.bare_call hf), List.mem_singleton] at hw
    exact hw ▸ hfree word hword

end SchemaDiagram.Sql
