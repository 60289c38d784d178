import SchemaDiagram.Text.Cursor

/-!
# Reading SQL

A `Reader` takes something off the front of a text. Unlike the readers of schema text it remembers
where it stopped also when it fails, because the search for the next clause goes on from there.

Identifiers may stand in backticks, double quotes or square brackets; the closing quote need not
match the opening one and may be missing. The name of a table may be preceded by those of schemas,
each with a point behind it.
-/

namespace SchemaDiagram.Sql

/-- Takes something off the front of a text, if it is there. -/
abbrev Reader (α : Type) :=
  OptionT (StateM (List Char)) α

namespace Reader

/-- What a reader finds in a text, and what remains behind the place where it stopped. -/
def on {α : Type} (r : Reader α) (s : List Char) : Option α × List Char :=
  r.run s

/-- The reader that takes what `read?` finds, and stays where it is if that finds nothing. -/
def ofOption {α : Type} (read? : List Char → Option (α × List Char)) : Reader α :=
  fun s => Scan.orStay read? s

/-- Passes over what `skip` passes over. -/
def skipping (skip : List Char → List Char) : Reader Unit :=
  fun s => (some (), skip s)

/-- Passes over blanks. -/
def blanks : Reader Unit :=
  skipping Scan.skipBlanks

/-- Reads a keyword. -/
def keyword (word : String) : Reader Unit :=
  ofOption fun s => (Scan.keyword? word.toList s).map ((), ·)

/-- Passes over a keyword and the blanks behind it, if it is ahead. -/
def optionalKeyword (word : String) : Reader Unit :=
  skipping fun s => match Scan.keyword? word.toList s with
    | some rest => Scan.skipBlanks rest
    | none => s

/-- Reads the given character. -/
def char (c : Char) : Reader Unit :=
  ofOption fun s => (Scan.char? c s).map ((), ·)

/-- Reads the text before the next occurrence of `stop`, and that occurrence. -/
def before (stop : String) : Reader (List Char) :=
  ofOption (Scan.until? stop.toList)

end Reader

/-- The characters that may open a quoted identifier. -/
def isOpeningQuote (c : Char) : Bool :=
  c == '\x60' || c == '"' || c == '['

/-- The characters that may close a quoted identifier. -/
def isClosingQuote (c : Char) : Bool :=
  c == '\x60' || c == '"' || c == ']'

/-- The text behind its first character, if that is one that `accepts` accepts. -/
def dropOne (accepts : Char → Bool) : List Char → List Char
  | [] => []
  | c :: rest => if accepts c then rest else c :: rest

/-- Reads an identifier, which may be quoted. -/
def ident : Reader (List Char) := fun s =>
  let inner := dropOne isOpeningQuote s
  match Scan.ident? inner with
  | none => (none, inner)
  | some (name, rest) =>
    (some name, if s.head?.any isOpeningQuote then dropOne isClosingQuote rest else rest)

/-- Reading an identifier does not lengthen the text. -/
theorem length_ident_le (s : List Char) : (ident.on s).2.length ≤ s.length := by
  have drop (p : Char → Bool) (t : List Char) : (dropOne p t).length ≤ t.length := by
    cases t with
    | nil => simp [dropOne]
    | cons c rest => simp only [dropOne]; split <;> simp
  have inner := drop isOpeningQuote s
  simp only [Reader.on, OptionT.run, ident]
  split
  · exact inner
  · next name rest h =>
    have : rest.length ≤ (dropOne isOpeningQuote s).length := by
      simp only [Scan.ident?] at h
      split at h <;> simp at h
      obtain ⟨-, rfl⟩ := h
      exact (List.dropWhile_suffix _).length_le
    have := drop isClosingQuote rest
    split <;> simp only <;> omega

/-- Reading one character shortens the text. -/
theorem length_char?_lt {c : Char} {s rest : List Char} (h : Scan.char? c s = some rest) :
    rest.length < s.length := by
  match s with
  | [] => simp [Scan.char?] at h
  | d :: tail =>
    simp only [Scan.char?] at h
    split at h <;> simp at h
    simp [h]

/-- The last of the identifiers between points at the front of a text. -/
def lastOfDotted (s : List Char) : Option (List Char) × List Char :=
  match h : ident.on s with
  | (none, rest) => (none, rest)
  | (some name, rest) =>
    match h' : Scan.char? '.' rest with
    | some rest' =>
      have : rest'.length < s.length := by
        have := length_char?_lt h'
        have := length_ident_le s
        simp only [h] at this
        omega
      lastOfDotted rest'
    | none => (some name, rest)
termination_by s.length

/-- Reads the name of a table: the last of the identifiers between points. -/
def tableName : Reader (List Char) :=
  lastOfDotted

/-- Reads a list of identifiers in parentheses. What does not begin with an identifier between two
commas is left out. -/
def identList : Reader (List (List Char)) := do
  Reader.char '('
  let inner ← Reader.before ")"
  return (inner.splitOn ',').filterMap fun part => (ident.on (Text.trim part)).1

end SchemaDiagram.Sql
