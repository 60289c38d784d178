import SchemaDiagram.Toml.Scalar

/-!
# Reading TOML

A document is a sequence of lines: entries, headers, comments and blank lines. `read?` gives the
table that a document stands for, unless its text is not TOML or defines something twice.
-/

namespace SchemaDiagram.Toml

/-! ## Values -/

/-- Reads an entry: a key, an equals sign and a value. -/
def pair? (value : Reader Item) (s : List Char) : Option ((Key × Item) × List Char) := do
  let (key, s) ← key? s
  let (item, s) ← value (skipBlanks (← Scan.char? '=' s))
  return ((key, item), skipBlanks s)

/-- Reads an element of an array, with blanks, line breaks and comments around it. -/
def element? (value : Reader Item) (s : List Char) : Option (Item × List Char) := do
  let (item, s) ← value (← skipLines? false s)
  return (item, ← skipLines? false s)

/-- Reads an array behind its bracket. A comma may follow its last element. -/
def array? (value : Reader Item) (s : List Char) : Option (Item × List Char) := do
  let (items, s) := match separated? ',' (element? value) s with
    | some (items, s) => (items, (Scan.char? ',' s).getD s)
    | none => ([], s)
  return (.array items, ← Scan.char? ']' (← skipLines? false s))

/-- Reads an inline table behind its brace. -/
def inlineTable? (value : Reader Item) (s : List Char) : Option (Item × List Char) := do
  let (entries, s) := (separated? ',' (pair? value) s).getD ([], s)
  let s ← Scan.char? '\x7d' (skipBlanks s)
  return (.table .inline (← addAll? [] entries), s)

/-- Reads a value in which arrays and inline tables are nested at most `depth` deep. -/
def value? : (depth : Nat) → Reader Item
  | 0, s => scalar? s
  | depth + 1, s =>
    match s with
    | '[' :: rest => array? (value? depth) rest
    | '\x7b' :: rest => inlineTable? (value? depth) rest
    | s => scalar? s

/-! ## Documents -/

/-- A line of a document, or several lines that belong together. -/
inductive Line where
  /-- A line without a content. -/
  | blank
  /-- A header. -/
  | header (header : Header)
  /-- An entry. -/
  | entry (key : Key) (item : Item)

/-- Reads a header behind its first bracket. -/
def header? : Reader Header
  | '[' :: s => do
    let (key, s) ← key? s
    return (.element key, ← Scan.char? ']' (← Scan.char? ']' s))
  | s => do
    let (key, s) ← key? s
    return (.table key, ← Scan.char? ']' s)

/-- Reads a line without its end. -/
def line? (s : List Char) : Option (Line × List Char) :=
  match s with
  | [] => some (.blank, [])
  | c :: rest =>
    if c = '#' ∨ c = '\n' ∨ c = '\r' then some (.blank, s)
    else if c = '[' then (header? rest).map fun (header, s) => (.header header, s)
    else (pair? (value? (limit - 1)) s).map fun ((key, item), s) => (.entry key item, s)

/-- Reads the lines of a document. -/
def lines (s : List Char) : Option (List Line) :=
  match s with
  | [] => some []
  | c :: rest => do
    let (line, s) ← line? (skipBlanks (c :: rest))
    let s ← lineEnd? s
    if s.length ≤ rest.length then return line :: (← lines s) else none
termination_by s.length

/-- The table that lines stand for, if `entries` of the section below `header` have been read. -/
def build? (document : Table) (header : Header) (entries : List (Key × Item)) :
    List Line → Option Table
  | [] => addSection? document header entries
  | .blank :: rest => build? document header entries rest
  | .entry key item :: rest => build? document header (entries ++ [(key, item)]) rest
  | .header next :: rest => do
    build? (← addSection? document header entries) next [] rest

/-- The text without a mark of the byte order in front. -/
def skipMark : List Char → List Char
  | '\ufeff' :: rest => rest
  | s => s

/-- The table that a text stands for. -/
def read? (text : String) : Option Table := do
  build? [] .root [] (← lines (skipMark text.toList))

end SchemaDiagram.Toml
