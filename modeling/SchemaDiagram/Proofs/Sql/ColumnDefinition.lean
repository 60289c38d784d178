import SchemaDiagram.Proofs.Sql.Default

/-!
# Column definitions that are read back

A written column definition is a name in quotes, a type with or without a size, the clauses that set
flags, and the default. Whatever the names are, they and the default are read back
(`columnDefinition?_columnDefinition`). So is all of the column, with the type that the written one
stands for and without the note, unless its default calls a function that is named like a flag
(`givenColumn_eq`).
-/

namespace SchemaDiagram.Sql

open Character

/-- The columns that SQL gives back. -/
structure PortableColumn (c : Column) : Prop where
  /-- The name is an identifier. -/
  name : IsIdentifier c.name.toList
  /-- The type has characters. -/
  type_ne_nil : c.type.toList ≠ []
  /-- The type consists of identifier characters of ASCII. -/
  type : ∀ x ∈ c.type.toList, isAsciiIdent x = true
  /-- The default is one that SQL gives back. -/
  default : ∀ v, c.defaultValue = some v → PortableDefault v.toList

/-- The columns that can be written in SQL. -/
structure WritableColumn (c : Column) : Prop where
  /-- The name is an identifier. -/
  name : IsIdentifier c.name.toList
  /-- The type has characters. -/
  type_ne_nil : c.type.toList ≠ []
  /-- The type consists of identifier characters of ASCII. -/
  type : ∀ x ∈ c.type.toList, isAsciiIdent x = true
  /-- The default is one that can be written in SQL. -/
  default : ∀ v, c.defaultValue = some v → WritableDefault v.toList

/-- A column that SQL gives back can be written in it. -/
theorem PortableColumn.writable {c : Column} (hc : PortableColumn c) : WritableColumn c :=
  ⟨hc.name, hc.type_ne_nil, hc.type, fun v hv => (hc.default v hv).writable⟩

/-! ## The parts of a definition -/

/-- The type that is written for a column, without its size. -/
def writtenType (d : Dialect) (c : Column) : List Char :=
  (columnType d c).takeWhile isIdent

/-- The size of the type that is written for a column, in its parentheses. -/
def writtenSize (d : Dialect) (c : Column) : List Char :=
  (columnType d c).dropWhile isIdent

/-- The clauses that set the flags of a column. -/
def flagClauses (d : Dialect) (c : Column) : List Char :=
  incrementClause d c ++ (if c.isUnique then " UNIQUE".toList else []) ++
    (if c.isNotNull then " NOT NULL".toList else [])

/-- The clause that gives the default of a column. -/
def defaultClause (c : Column) : List Char :=
  match c.defaultValue with
  | some value => " DEFAULT ".toList ++ defaultExpression value.toList
  | none => []

/-- The sizes of types, in their parentheses. -/
def sizes : List (List Char) :=
  ["", "(255)", "(1)", "(36)", "(MAX)"].map String.toList

/-- The size that is not passed over: the one that is not a number. -/
def keptSize (size : List Char) : List Char :=
  if size = "(MAX)".toList then size else []

variable {d : Dialect} {c : Column}

/-- A written type is its name and its size. -/
theorem columnType_eq (d : Dialect) (c : Column) :
    columnType d c = writtenType d c ++ writtenSize d c :=
  List.takeWhile_append_dropWhile.symm

/-- A definition is made of its parts. -/
theorem columnDefinition_eq (d : Dialect) (c : Column) :
    columnDefinition d c = "  ".toList ++ (d.quote c.name.toList ++
      ' ' :: (writtenType d c ++ (writtenSize d c ++ (flagClauses d c ++ defaultClause c)))) := by
  unfold columnDefinition flagClauses defaultClause
  rw [columnType_eq]
  simp only [List.append_assoc]
  rfl

/-- The type that is written for a column has a name, and a size of the list. -/
theorem written_of_writable (hc : WritableColumn c) :
    IsIdentifier (writtenType d c) ∧ writtenSize d c ∈ sizes := by
  unfold writtenType writtenSize columnType
  -- The type for numbering, a type from the table of the dialect, or the given one in upper case.
  split
  · refine ⟨⟨by decide, fun x hx => List.mem_takeWhile_imp hx⟩, by decide⟩
  · unfold dialectType
    split
    · next written h =>
      have hall : ∀ e ∈ dialectTypes d, e.2.toList.takeWhile isIdent ≠ [] ∧
          e.2.toList.dropWhile isIdent ∈ sizes := by
        cases d <;> decide +kernel
      have hmem : (c.type, written) ∈ dialectTypes d := by
        obtain ⟨before, after, heq, -⟩ := List.lookup_eq_some_iff.1 h
        rw [heq]
        exact List.mem_append_right _ List.mem_cons_self
      obtain ⟨hne, hsize⟩ := hall _ hmem
      exact ⟨⟨hne, fun x hx => List.mem_takeWhile_imp hx⟩, hsize⟩
    · have hident : ∀ x ∈ Text.upper c.type.toList, isIdent x = true := by
        rw [Text.upper_of_ascii fun x hx => lt_of_isAsciiIdent (hc.type x hx)]
        intro x hx
        obtain ⟨y, hy, rfl⟩ := List.mem_map.1 hx
        exact isIdent_of_isAsciiIdent (isAsciiIdent_toUpper (hc.type y hy))
      have hne : Text.upper c.type.toList ≠ [] := by
        rw [Text.upper_of_ascii fun x hx => lt_of_isAsciiIdent (hc.type x hx)]
        simpa using hc.type_ne_nil
      rw [List.takeWhile_eq_self_iff.2 hident, List.dropWhile_eq_nil_iff.2 hident]
      exact ⟨⟨hne, hident⟩, by simp [sizes]⟩

/-- A text that is empty or begins with a space. -/
def Spaced (s : List Char) : Prop :=
  s.head?.all (· == ' ') = true

/-- Spaced texts behind each other are spaced. -/
theorem Spaced.append {s t : List Char} (hs : Spaced s) (ht : Spaced t) : Spaced (s ++ t) := by
  cases s with
  | nil => exact ht
  | cons x s => exact hs

/-- No identifier goes on into a spaced text in front of one that stops identifiers. -/
theorem Spaced.stops_append {s t : List Char} (hs : Spaced s) (ht : Stops t) : Stops (s ++ t) := by
  cases s with
  | nil => exact ht
  | cons x s =>
    have hx : x = ' ' := by simpa [Spaced] using hs
    rw [hx]
    exact stops_cons.2 rfl

/-- No identifier goes on into a spaced text. -/
theorem Spaced.stops {s : List Char} (hs : Spaced s) : Stops s := by
  rw [← List.append_nil s]
  exact hs.stops_append stops_nil

/-- The clause for numbering is spaced. -/
theorem spaced_increment (d : Dialect) (c : Column) : Spaced (incrementClause d c) := by
  unfold incrementClause
  split <;> rfl

/-- The clause for distinct values is spaced. -/
theorem spaced_unique (c : Column) : Spaced (if c.isUnique then " UNIQUE".toList else []) := by
  split <;> rfl

/-- The clause for columns that must have a value is spaced. -/
theorem spaced_notNull (c : Column) : Spaced (if c.isNotNull then " NOT NULL".toList else []) := by
  split <;> rfl

/-- The clauses for flags are spaced. -/
theorem spaced_flagClauses (d : Dialect) (c : Column) : Spaced (flagClauses d c) :=
  ((spaced_increment d c).append (spaced_unique c)).append (spaced_notNull c)

/-- The clause for a default is spaced. -/
theorem spaced_defaultClause (c : Column) : Spaced (defaultClause c) := by
  unfold defaultClause
  split <;> rfl

/-- Parentheses are passed over if digits and commas stand in them. -/
theorem skipSize_parens {inner : List Char} (hinner : ')' ∉ inner) (s : List Char) :
    skipSize ('(' :: (inner ++ ')' :: s)) =
      if inner.all fun c => c.isDigit || c == ',' then s else '(' :: (inner ++ ')' :: s) := by
  have hchar : Scan.char? '(' ('(' :: (inner ++ ')' :: s)) = some (inner ++ ')' :: s) := by
    simp [Scan.char?]
  unfold skipSize
  rw [hchar, Option.bind_eq_bind, Option.bind_some, Scan.until?_singleton hinner]

/-- A size is passed over if it is a number. -/
theorem skipSize_append {size s : List Char} (hsize : size ∈ sizes)
    (hs : Spaced s) : skipSize (size ++ s) = keptSize size ++ s := by
  have hcases : size = [] ∨ size = '(' :: ("255".toList ++ [')']) ∨
      size = '(' :: ("1".toList ++ [')']) ∨ size = '(' :: ("36".toList ++ [')']) ∨
      size = '(' :: ("MAX".toList ++ [')']) := by
    simpa [sizes] using hsize
  have hparens (inner : List Char) :
      '(' :: (inner ++ [')']) ++ s = '(' :: (inner ++ ')' :: s) := by simp
  -- Without a size the space is looked at, and of the sizes only `MAX` is no number.
  rcases hcases with rfl | rfl | rfl | rfl | rfl
  · cases s with
    | nil => rfl
    | cons c s =>
      have hc : c = ' ' := by simpa [Spaced] using hs
      rw [hc]
      rfl
  · rw [hparens, skipSize_parens (by decide)]
    rfl
  · rw [hparens, skipSize_parens (by decide)]
    rfl
  · rw [hparens, skipSize_parens (by decide)]
    rfl
  · rw [hparens, skipSize_parens (by decide)]
    rfl

/-- The name of a type ends where its size or a clause begins. -/
theorem stops_size {size s : List Char} (hsize : size ∈ sizes) (hs : Stops s) :
    Stops (size ++ s) := by
  have hall : ∀ size ∈ sizes, size = [] ∨ size.head? = some '(' := by simp [sizes]
  rcases hall size hsize with rfl | h
  · exact hs
  · obtain ⟨t, rfl⟩ := List.head?_eq_some_iff.1 h
    exact stops_cons.2 rfl

/-! ## The words of the constraints -/

/-- The text behind the type of a column that is read for its constraints. -/
def keptClauses (d : Dialect) (c : Column) : List Char :=
  keptSize (writtenSize d c) ++ flagClauses d c

/-- The words of that text. -/
def clauseWords (d : Dialect) (c : Column) : List String :=
  (if writtenSize d c = "(MAX)".toList then ["MAX"] else []) ++
    (match c.isIncrement, d with
      | true, .mySql => ["AUTO_INCREMENT"]
      | true, .sqlServer => ["IDENTITY"]
      | _, _ => []) ++
    (if c.isUnique then ["UNIQUE"] else []) ++ (if c.isNotNull then ["NOT", "NULL"] else [])

/-- The words of the clauses are the identifiers in them. -/
theorem identifiers_keptClauses (d : Dialect) (c : Column) :
    identifiers (keptClauses d c) = (clauseWords d c).map String.toList := by
  -- Each clause has its words, and the space in front of a clause separates it from the one before.
  have hsize : identifiers (keptSize (writtenSize d c)) =
      (if writtenSize d c = "(MAX)".toList then ["MAX"] else []).map String.toList := by
    unfold keptSize
    split
    · next h =>
      rw [h]
      decide +kernel
    · simp
  have hincrement : identifiers (incrementClause d c) =
      (match c.isIncrement, d with
        | true, .mySql => ["AUTO_INCREMENT"]
        | true, .sqlServer => ["IDENTITY"]
        | _, _ => []).map String.toList := by
    unfold incrementClause
    cases c.isIncrement <;> cases d <;> decide +kernel
  have hunique : identifiers (if c.isUnique then " UNIQUE".toList else []) =
      (if c.isUnique then ["UNIQUE"] else []).map String.toList := by
    cases c.isUnique <;> decide +kernel
  have hnotNull : identifiers (if c.isNotNull then " NOT NULL".toList else []) =
      (if c.isNotNull then ["NOT", "NULL"] else []).map String.toList := by
    cases c.isNotNull <;> decide +kernel
  unfold keptClauses clauseWords
  rw [identifiers_append (Breaks.of_stops (spaced_flagClauses d c).stops)]
  unfold flagClauses
  rw [identifiers_append (Breaks.of_stops (spaced_notNull c).stops),
    identifiers_append (Breaks.of_stops (spaced_unique c).stops), hsize, hincrement, hunique,
    hnotNull, ← List.map_append, ← List.map_append, ← List.map_append, List.append_assoc,
    List.append_assoc, List.append_assoc]

/-- The words that clauses are made of. -/
theorem clauseWords_subset (d : Dialect) (c : Column) :
    ∀ word ∈ clauseWords d c,
      word ∈ ["MAX", "AUTO_INCREMENT", "IDENTITY", "UNIQUE", "NOT", "NULL"] := by
  unfold clauseWords
  intro word hword
  simp only [List.mem_append] at hword
  rcases hword with ((h | h) | h) | h
  · split at h
    · simp [List.mem_singleton.1 h]
    · cases h
  · split at h
    · simp [List.mem_singleton.1 h]
    · simp [List.mem_singleton.1 h]
    · cases h
  · split at h
    · simp [List.mem_singleton.1 h]
    · cases h
  · split at h
    · rcases List.mem_cons.1 h with rfl | h
      · simp
      · simp [List.mem_singleton.1 h]
    · cases h

/-- There are no quotes in the clauses. -/
theorem quote_not_mem_keptClauses (d : Dialect) (c : Column) : '\'' ∉ keptClauses d c := by
  have hsize : '\'' ∉ keptSize (writtenSize d c) := by
    unfold keptSize
    split
    · next h =>
      rw [h]
      decide
    · exact List.not_mem_nil
  have hincrement : '\'' ∉ incrementClause d c := by
    unfold incrementClause
    split <;> decide
  have hunique : '\'' ∉ (if c.isUnique then " UNIQUE".toList else []) := by
    split <;> decide
  have hnotNull : '\'' ∉ (if c.isNotNull then " NOT NULL".toList else []) := by
    split <;> decide
  unfold keptClauses flagClauses
  simp only [List.mem_append, not_or]
  exact ⟨hsize, ⟨hincrement, hunique⟩, hnotNull⟩

/-- The words of the clauses are in upper case. -/
theorem upper_clauseWords (d : Dialect) (c : Column) :
    ((clauseWords d c).map String.toList).map Text.upper = (clauseWords d c).map String.toList := by
  have hall : ∀ word ∈ ["MAX", "AUTO_INCREMENT", "IDENTITY", "UNIQUE", "NOT", "NULL"],
      Text.upper word.toList = word.toList := by
    decide +kernel
  rw [List.map_map]
  exact List.map_congr_left fun word hword => hall word (clauseWords_subset d c word hword)

/-- The clause for a default without what is in quotes. -/
theorem blankQuoted_defaultClause {value : String} (h : c.defaultValue = some value) :
    blankQuoted false (defaultClause c) =
      ' ' :: ("DEFAULT".toList ++ ' ' :: WritableDefault.bare value.toList) := by
  unfold defaultClause
  rw [h]
  simp only
  rw [blankQuoted_append (by decide)]
  rfl

/-- The words of a default clause. -/
def defaultWords (c : Column) : List (List Char) :=
  match c.defaultValue with
  | some value => "DEFAULT".toList :: (WritableDefault.words value.toList).map Text.upper
  | none => []

/-- The words of a default clause are its identifiers outside quotes, in upper case. -/
theorem upperWords_defaultClause (c : Column) :
    upperWords (blankQuoted false (defaultClause c)) = defaultWords c := by
  show (identifiers (blankQuoted false (defaultClause c))).map Text.upper = _
  unfold defaultWords
  cases h : c.defaultValue with
  | none =>
    unfold defaultClause
    rw [h]
    simp [blankQuoted]
  | some value =>
    have hword : IsIdentifier "DEFAULT".toList := ⟨by decide, List.all_eq_true.1 rfl⟩
    have hupper : Text.upper "DEFAULT".toList = "DEFAULT".toList := by decide +kernel
    rw [blankQuoted_defaultClause h, identifiers_cons rfl,
      identifiers_word hword (stops_cons.2 rfl), identifiers_cons rfl, List.map_cons, hupper]
    rfl

/-- The words of the constraints are those of the clauses and then those of the default. -/
theorem upperWords_constraints (d : Dialect) (c : Column) :
    upperWords (blankQuoted false (keptClauses d c ++ defaultClause c)) =
      (clauseWords d c).map String.toList ++ defaultWords c := by
  have hstops : Stops (blankQuoted false (defaultClause c)) := by
    cases h : c.defaultValue with
    | none =>
      unfold defaultClause
      rw [h]
      exact stops_nil
    | some value =>
      rw [blankQuoted_defaultClause h]
      exact stops_cons.2 rfl
  rw [blankQuoted_append (quote_not_mem_keptClauses d c)]
  show (identifiers _).map Text.upper = _
  rw [identifiers_append (Breaks.of_stops hstops), List.map_append, identifiers_keptClauses,
    upper_clauseWords]
  exact congrArg _ (upperWords_defaultClause c)

/-! ## The flags -/

/-- A phrase without `DEFAULT` is in the constraints if it is in the clauses or in the default. -/
theorem hasPhrase_constraints (d : Dialect) (c : Column) {phrase : List String}
    (hdefault : "DEFAULT" ∉ phrase) :
    hasPhrase (upperWords (blankQuoted false (keptClauses d c ++ defaultClause c))) phrase = true ↔
      phrase <:+: clauseWords d c ∨ ∃ value, c.defaultValue = some value ∧
        phrase.map String.toList <:+: (WritableDefault.words value.toList).map Text.upper := by
  -- A phrase without `DEFAULT` stands on one side of it.
  have hinj : Function.Injective String.toList := fun a b h => String.toList_inj.1 h
  have hnot : "DEFAULT".toList ∉ phrase.map String.toList := by
    intro h
    obtain ⟨word, hword, heq⟩ := List.mem_map.1 h
    exact hdefault (hinj heq ▸ hword)
  have hclauses : phrase.map String.toList <:+: (clauseWords d c).map String.toList ↔
      phrase <:+: clauseWords d c := by
    rw [List.infix_map_iff]
    constructor
    · rintro ⟨part, hpart, heq⟩
      rwa [hinj.list_map heq]
    · intro h
      exact ⟨phrase, h, rfl⟩
  unfold hasPhrase
  rw [Text.occursIn_iff, upperWords_constraints]
  unfold defaultWords
  cases c.defaultValue with
  | none =>
    rw [List.append_nil, hclauses]
    simp
  | some value =>
    simp only
    rw [Text.infix_append_cons hnot, hclauses]
    simp

/-- A word that sets a flag is in the constraints only if it is in the clauses. -/
theorem hasPhrase_flag (hc : PortableColumn c) (d : Dialect) (word : String)
    (hword : word ∈ flagWords) :
    hasPhrase (upperWords (blankQuoted false (keptClauses d c ++ defaultClause c))) [word] = true ↔
      word ∈ clauseWords d c := by
  have hdefault : "DEFAULT" ∉ [word] := by
    rw [List.mem_singleton]
    rintro rfl
    exact absurd hword (by decide)
  rw [hasPhrase_constraints d c hdefault, List.singleton_infix_iff]
  constructor
  · rintro (h | ⟨value, hvalue, h⟩)
    · exact h
    · -- A word of the default would have the letters of the flag.
      have hv := hc.default value hvalue
      rw [List.map_singleton, List.singleton_infix_iff] at h
      obtain ⟨w, hw, hupper⟩ := List.mem_map.1 h
      have hsame := hv.not_flag hw hword
      rw [← Text.sameLetters_upper (hv.writable.lt_of_mem_words hw), hupper] at hsame
      simp [Text.sameLetters] at hsame
  · exact .inl

/-- A phrase of two words is in the constraints only if it is in the clauses. -/
theorem hasPhrase_pair (hc : PortableColumn c) (d : Dialect) {a b : String}
    (ha : a.toList.head?.any Char.isAlpha = true) (hdefault : "DEFAULT" ∉ [a, b]) :
    hasPhrase (upperWords (blankQuoted false (keptClauses d c ++ defaultClause c))) [a, b] = true ↔
      [a, b] <:+: clauseWords d c := by
  rw [hasPhrase_constraints d c hdefault]
  constructor
  · rintro (h | ⟨value, hvalue, h⟩)
    · exact h
    -- The default would have both words.
    · exact absurd h ((hc.default value hvalue).writable.not_phrase ha)
  · exact .inl

/-- The word for distinct values is in the clauses if the flag is set. -/
theorem mem_clauseWords_unique : "UNIQUE" ∈ clauseWords d c ↔ c.isUnique = true := by
  unfold clauseWords
  simp only [List.mem_append]
  constructor
  · rintro (((h | h) | h) | h)
    · split at h <;> simp at h
    · split at h <;> simp at h
    · split at h
      · next hunique => exact hunique
      · cases h
    · split at h <;> simp at h
  · intro h
    rw [if_pos h]
    exact .inl (.inr List.mem_cons_self)

/-- The words for columns that must have a value are in the clauses of those. -/
theorem infix_clauseWords_notNull : ["NOT", "NULL"] <:+: clauseWords d c ↔ c.isNotNull = true := by
  constructor
  · intro h
    have hmem : "NOT" ∈ clauseWords d c := h.subset List.mem_cons_self
    unfold clauseWords at hmem
    simp only [List.mem_append] at hmem
    rcases hmem with ((h | h) | h) | h
    · split at h <;> simp at h
    · split at h <;> simp at h
    · split at h <;> simp at h
    · split at h
      · next hnotNull => exact hnotNull
      · cases h
  · intro h
    unfold clauseWords
    rw [if_pos h]
    exact (List.suffix_append _ _).isInfix

/-- No primary key is declared in the clauses of a column. -/
theorem not_infix_clauseWords_primary : ¬["PRIMARY", "KEY"] <:+: clauseWords d c := by
  intro h
  have hmem := clauseWords_subset d c "PRIMARY" (h.subset List.mem_cons_self)
  simp at hmem

/-- One of the words for numbering is in the clauses if there is a clause for it. -/
theorem mem_clauseWords_increment :
    ("AUTO_INCREMENT" ∈ clauseWords d c ∨ "AUTOINCREMENT" ∈ clauseWords d c ∨
      "IDENTITY" ∈ clauseWords d c) ↔
      (c.isIncrement && (d == .mySql || d == .sqlServer)) = true := by
  have hauto : "AUTOINCREMENT" ∉ clauseWords d c := by
    intro h
    have hmem := clauseWords_subset d c _ h
    simp at hmem
  -- The words of the other clauses are none of the three.
  have hother (word : String) (hword : word ∉ ["MAX", "UNIQUE", "NOT", "NULL"]) :
      word ∈ clauseWords d c ↔ word ∈ (match c.isIncrement, d with
        | true, .mySql => ["AUTO_INCREMENT"]
        | true, .sqlServer => ["IDENTITY"]
        | _, _ => []) := by
    unfold clauseWords
    simp only [List.mem_append]
    constructor
    · rintro (((h | h) | h) | h)
      · split at h
        · simp [List.mem_singleton.1 h] at hword
        · cases h
      · exact h
      · split at h
        · simp [List.mem_singleton.1 h] at hword
        · cases h
      · split at h
        · rcases List.mem_cons.1 h with rfl | h
          · simp at hword
          · simp [List.mem_singleton.1 h] at hword
        · cases h
    · intro h
      exact .inl (.inl (.inr h))
  rw [hother "AUTO_INCREMENT" (by simp), hother "IDENTITY" (by simp), or_iff_right hauto]
  cases c.isIncrement <;> cases d <;> simp

/-! ## Reading a definition back -/

/-- The column that is read from the definition of a column. -/
def givenColumn (d : Dialect) (c : Column) : Column :=
  columnOf c.name.toList (writtenType d c) (keptClauses d c ++ defaultClause c)

/-- That column, if no function in its default is named like a flag. -/
def definedColumn (d : Dialect) (c : Column) : Column :=
  { name := c.name
    type := String.ofList (canonicalType (writtenType d c))
    isNotNull := c.isNotNull
    isUnique := c.isUnique
    isIncrement := isSerialType (writtenType d c) ||
      (c.isIncrement && (d == .mySql || d == .sqlServer))
    defaultValue := c.defaultValue }

/-- A keyword that is no word of the clauses is only looked for in the default. -/
theorem behind?_constraints {word : List Char} (hword : IsWord word) (d : Dialect) (c : Column)
    (h : ∀ w ∈ ["MAX", "AUTO_INCREMENT", "IDENTITY", "UNIQUE", "NOT", "NULL"],
      Text.sameLetters w.toList word = false) {s : List Char} (hs : Stops s) :
    Cursor.behind? word (keptClauses d c ++ s) = Cursor.behind? word s := by
  -- The search passes over the clauses, since the keyword is not among their words.
  refine Cursor.behind?_append hword (fun w hw => ?_) (Breaks.of_stops hs)
  rw [identifiers_keptClauses] at hw
  obtain ⟨clause, hclause, rfl⟩ := List.mem_map.1 hw
  exact h clause (clauseWords_subset d c clause hclause)

/-- The default of a column is found in its constraints. -/
theorem defaultOf?_constraints (hc : WritableColumn c) (d : Dialect) :
    defaultOf? (keptClauses d c ++ defaultClause c) = c.defaultValue.map String.toList := by
  have hword : IsWord "default".toList := isWord_of_all rfl
  have hclauses := behind?_constraints hword d c (by simp [Text.sameLetters])
    (spaced_defaultClause c).stops
  cases h : c.defaultValue with
  | none =>
    refine WritableDefault.defaultOf?_none ?_
    rw [hclauses, defaultClause, h]
    rfl
  | some value =>
    refine (hc.default value h).defaultOf?_expression ?_
    rw [hclauses, defaultClause, h]
    show Cursor.behind? _ (' ' :: ("DEFAULT".toList ++ ' ' :: defaultExpression value.toList)) = _
    rw [Cursor.behind?_cons hword rfl, Cursor.behind?_self hword (by decide) (stops_cons.2 rfl)]

/-- The constraints of a column refer to no column. -/
theorem referenceOf?_constraints (hc : WritableColumn c) (d : Dialect) :
    referenceOf? (blankQuoted false (keptClauses d c ++ defaultClause c)) = none := by
  have hword : IsWord "references".toList := isWord_of_all rfl
  have hnone {s : List Char} (h : Cursor.behind? "references".toList s = none) :
      referenceOf? s = none := by
    rw [← Cursor.findKeyword?_start, Option.map_eq_none_iff] at h
    unfold referenceOf?
    rw [h]
    rfl
  rw [blankQuoted_append (quote_not_mem_keptClauses d c)]
  cases h : c.defaultValue with
  | none =>
    refine hnone ?_
    rw [defaultClause, h]
    exact behind?_constraints hword d c (by simp [Text.sameLetters]) stops_nil
  | some value =>
    have hbehind : Cursor.behind? "references".toList
        (keptClauses d c ++ blankQuoted false (defaultClause c)) =
          Cursor.behind? "references".toList (WritableDefault.bare value.toList) := by
      rw [blankQuoted_defaultClause h, behind?_constraints hword d c (by simp [Text.sameLetters])
        (stops_cons.2 rfl), Cursor.behind?_cons hword rfl,
        Cursor.behind?_word hword (List.all_eq_true.1 rfl) (stops_cons.2 rfl) (by decide),
        Cursor.behind?_cons hword rfl]
    -- If the default calls a function that is named like the keyword, no column follows the name.
    rcases (hc.default value h).behind?_references with hb | hb
    · exact hnone (hbehind.trans hb)
    · rw [hb, ← Cursor.findKeyword?_start, Option.map_eq_some_iff] at hbehind
      obtain ⟨⟨place, behind⟩, hfind, hahead⟩ := hbehind
      have hahead : behind.ahead = "()".toList := hahead
      unfold referenceOf?
      rw [hfind]
      simp only [Option.bind_eq_bind, Option.bind_some, hahead,
        WritableDefault.referenceTarget_call, Option.bind_none]

/-- The name of a column is read back. -/
theorem name_givenColumn (d : Dialect) (c : Column) : (givenColumn d c).name = c.name :=
  String.ofList_toList

/-- The default of a column is read back. -/
theorem defaultValue_givenColumn (hc : WritableColumn c) (d : Dialect) :
    (givenColumn d c).defaultValue = c.defaultValue := by
  show (defaultOf? (keptClauses d c ++ defaultClause c)).map String.ofList = c.defaultValue
  rw [defaultOf?_constraints hc]
  cases c.defaultValue with
  | none => rfl
  | some value => exact congrArg some String.ofList_toList

/-- All of a column is read back from its constraints if SQL gives it back. -/
theorem givenColumn_eq (hc : PortableColumn c) (d : Dialect) :
    givenColumn d c = definedColumn d c := by
  -- Each flag that is read is a phrase in the clauses, and those are written for the flags.
  have hprimary := hasPhrase_pair hc d (a := "PRIMARY") (b := "KEY") rfl (by simp)
  rw [iff_false_right not_infix_clauseWords_primary, Bool.not_eq_true] at hprimary
  have hnotNull := hasPhrase_pair hc d (a := "NOT") (b := "NULL") rfl (by simp)
  rw [infix_clauseWords_notNull, ← Bool.eq_iff_iff] at hnotNull
  have hunique := hasPhrase_flag hc d "UNIQUE" (by simp [flagWords])
  rw [mem_clauseWords_unique, ← Bool.eq_iff_iff] at hunique
  have hauto := hasPhrase_flag hc d "AUTO_INCREMENT" (by simp [flagWords])
  have hauto' := hasPhrase_flag hc d "AUTOINCREMENT" (by simp [flagWords])
  have hidentity := hasPhrase_flag hc d "IDENTITY" (by simp [flagWords])
  have hincrement := mem_clauseWords_increment (d := d) (c := c)
  rw [← hauto, ← hauto', ← hidentity, ← Bool.or_eq_true, ← Bool.or_eq_true, ← Bool.eq_iff_iff]
    at hincrement
  unfold givenColumn columnOf definedColumn
  simp only [hprimary, hnotNull, hunique, Bool.or_assoc, hincrement,
    defaultOf?_constraints hc.writable d, String.ofList_toList]
  cases c.defaultValue with
  | none => rfl
  | some value => simp

/-- The marks in the definitions of columns. -/
def definitionMarks : List Char :=
  [' ', '"', '\x60', '[', ']', '(', ')', '\'', '-', '.']

/-- A character that is neither a mark of a list nor of identifiers is not in a text of those. -/
theorem not_mem_of_marks {p marks : List Char} {x : Char} (hident : isIdent x = false)
    (hmark : x ∉ marks) (h : (p.all fun y => isIdent y || marks.contains y) = true) : x ∉ p := by
  intro hx
  have hy := List.all_eq_true.1 h x hx
  rw [hident, Bool.false_or, List.contains_iff_mem] at hy
  exact hmark hy

/-- No other mark is in the clauses for the flags of a column. -/
theorem not_mem_flagClauses (d : Dialect) (c : Column) {x : Char} (hident : isIdent x = false)
    (hmark : x ∉ definitionMarks) : x ∉ flagClauses d c := by
  have hincrement : x ∉ incrementClause d c := by
    unfold incrementClause
    split
    · exact not_mem_of_marks hident hmark rfl
    · exact not_mem_of_marks hident hmark rfl
    · exact List.not_mem_nil
  have hunique : x ∉ if c.isUnique then " UNIQUE".toList else [] := by
    split
    · exact not_mem_of_marks hident hmark rfl
    · exact List.not_mem_nil
  have hnotNull : x ∉ if c.isNotNull then " NOT NULL".toList else [] := by
    split
    · exact not_mem_of_marks hident hmark rfl
    · exact List.not_mem_nil
  unfold flagClauses
  simp only [List.mem_append, not_or]
  exact ⟨⟨hincrement, hunique⟩, hnotNull⟩

/-- No other mark is in the clause for the default of a column. -/
theorem not_mem_defaultClause (hc : WritableColumn c) {x : Char} (hident : isIdent x = false)
    (hmark : x ∉ definitionMarks) : x ∉ defaultClause c := by
  have hsub : ['\'', '-', '.', '(', ')'] ⊆ definitionMarks := by simp [definitionMarks]
  unfold defaultClause
  split
  · next value hvalue =>
    have hexpression := (hc.default value hvalue).not_mem_expression hident
      fun hmem => hmark (hsub hmem)
    rw [List.mem_append, not_or]
    exact ⟨not_mem_of_marks hident hmark rfl, hexpression⟩
  · exact List.not_mem_nil

/-- No other mark is in the definition of a column. -/
theorem not_mem_columnDefinition (hc : WritableColumn c) (d : Dialect) {x : Char}
    (hident : isIdent x = false) (hmark : x ∉ definitionMarks) : x ∉ columnDefinition d c := by
  obtain ⟨hwritten, hsize⟩ := written_of_writable (d := d) hc
  have hsizes : ∀ size ∈ sizes,
      (size.all fun y => isIdent y || definitionMarks.contains y) = true := by
    decide +kernel
  have hquote : x ∉ d.quote c.name.toList := by
    have hsub : quoteMarks ⊆ definitionMarks := by simp [quoteMarks, definitionMarks]
    exact not_mem_quote hc.name hident fun hmem => hmark (hsub hmem)
  have hspace : x ≠ ' ' := by
    rintro rfl
    exact hmark List.mem_cons_self
  have htype : x ∉ writtenType d c := by
    intro h
    rw [hwritten.2 x h] at hident
    cases hident
  rw [columnDefinition_eq]
  simp only [List.mem_append, List.mem_cons, not_or]
  exact ⟨not_mem_of_marks hident hmark rfl, hquote, hspace, htype,
    not_mem_of_marks hident hmark (hsizes _ hsize), not_mem_flagClauses d c hident hmark,
    not_mem_defaultClause hc hident hmark⟩

/-- The end of a text is no blank. -/
def EndsTight (s : List Char) : Prop :=
  s.getLast?.any isBlank = false

/-- Behind each other, texts with tight ends have a tight end. -/
theorem EndsTight.append {s t : List Char} (hs : EndsTight s) (ht : EndsTight t) :
    EndsTight (s ++ t) := by
  unfold EndsTight at *
  rw [List.getLast?_append]
  cases h : t.getLast? with
  | none => exact hs
  | some x => rwa [h] at ht

/-- A tight end behind anything is a tight end. -/
theorem EndsTight.append_left (s : List Char) {t : List Char} (hne : t ≠ []) (ht : EndsTight t) :
    EndsTight (s ++ t) := by
  unfold EndsTight at *
  rw [List.getLast?_append, List.getLast?_eq_some_getLast hne] at *
  exact ht

/-- A text without blanks has a tight end. -/
theorem EndsTight.of_forall {s : List Char} (h : ∀ c ∈ s, isBlank c = false) : EndsTight s := by
  unfold EndsTight
  cases hl : s.getLast? with
  | none => rfl
  | some x => exact h x (List.mem_of_getLast? hl)

/-- No blanks come behind a definition. -/
theorem trim_columnDefinition (hc : WritableColumn c) (d : Dialect) :
    Text.trim (columnDefinition d c) = d.quote c.name.toList ++
      ' ' :: (writtenType d c ++ (writtenSize d c ++ (flagClauses d c ++ defaultClause c))) := by
  obtain ⟨hident, hsize⟩ := written_of_writable (d := d) hc
  -- Each part of the definition has a tight end, so the definition has one.
  have hclauses : EndsTight (flagClauses d c) := by
    unfold flagClauses
    refine EndsTight.append (EndsTight.append ?_ ?_) ?_
    · unfold incrementClause
      split <;> rfl
    · split <;> rfl
    · split <;> rfl
  have hdefault : EndsTight (defaultClause c) := by
    unfold defaultClause
    split
    · next value h =>
      have hv := hc.default value h
      exact EndsTight.append_left _ hv.expression_ne_nil (EndsTight.of_forall hv.isBlank_expression)
    · rfl
  have hwritten : EndsTight (' ' :: writtenType d c) :=
    EndsTight.append_left [' '] hident.1
      (EndsTight.of_forall fun x hx => isBlank_of_isIdent (hident.2 x hx))
  have hsizeEnd : EndsTight (writtenSize d c) := by
    have hall : ∀ size ∈ sizes, EndsTight size := by simp [sizes, EndsTight, isBlank]
    exact hall _ hsize
  have hquote : EndsTight (d.quote c.name.toList) := by
    rw [quote_eq]
    exact EndsTight.append_left (d.openingQuote :: c.name.toList) (List.cons_ne_nil _ _)
      (by simp [EndsTight, isBlank_closingQuote])
  rw [columnDefinition_eq, Text.trim_blanks_append (by simp [isBlank])]
  refine Text.trim_of_ends ?_ ?_
  · simp [quote_eq, isBlank_openingQuote]
  · exact hquote.append (hwritten.append (hsizeEnd.append (hclauses.append hdefault)))

/-- A definition is read back. -/
theorem columnDefinition?_columnDefinition (hc : WritableColumn c) (d : Dialect) :
    columnDefinition? (Text.trim (columnDefinition d c)) = some (givenColumn d c, none) := by
  obtain ⟨hident, hsize⟩ := written_of_writable (d := d) hc
  have hspaced : Spaced (flagClauses d c ++ defaultClause c) :=
    (spaced_flagClauses d c).append (spaced_defaultClause c)
  have hstops := stops_size hsize hspaced.stops
  have hblanks (s : List Char) :
      Scan.blanks? (' ' :: (writtenType d c ++ s)) = some (writtenType d c ++ s) := by
    rw [Scan.blanks?_cons rfl, Scan.skipBlanks_identifier hident]
  -- The name, the type and its size are read in turn, and the rest is what the constraints are read
  -- from.
  rw [trim_columnDefinition hc]
  unfold columnDefinition?
  rw [ident_quote hc.name]
  simp only [Option.bind_eq_bind, Option.bind_some, hblanks, Scan.ident?_append hident hstops,
    skipSize_append hsize hspaced]
  rw [← List.append_assoc, ← keptClauses, referenceOf?_constraints hc]
  rfl

end SchemaDiagram.Sql
