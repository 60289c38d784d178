import SchemaDiagram.Text.Blank

/-!
# Reading from the front of a text

Each reader looks at the characters ahead and returns what it took together with what remains, or
nothing when it cannot read. Keywords are ASCII words in any case, and `keyword?` only accepts one
that no identifier character continues.
-/

namespace SchemaDiagram.Scan

open Character

/-- What remains behind any blanks. -/
def skipBlanks (s : List Char) : List Char :=
  s.dropWhile isBlank

/-- What remains behind one or more blanks. -/
def blanks? : List Char → Option (List Char)
  | c :: rest => if isBlank c then some (skipBlanks rest) else none
  | [] => none

/-- What remains behind the given character. -/
def char? (expected : Char) : List Char → Option (List Char)
  | c :: rest => if c == expected then some rest else none
  | [] => none

/-- An identifier: the longest run of identifier characters, which must not be empty. -/
def ident? (s : List Char) : Option (List Char × List Char) :=
  match s.takeWhile isIdent with
  | [] => none
  | name => some (name, s.dropWhile isIdent)

/-- The text before the first occurrence of `stop`, and what remains behind that occurrence. -/
def until? (stop : List Char) : List Char → Option (List Char × List Char)
  | [] => if stop.isEmpty then some ([], []) else none
  | c :: rest =>
    match stop.isPrefixOf? (c :: rest) with
    | some remaining => some ([], remaining)
    | none => (until? stop rest).map fun (taken, remaining) => (c :: taken, remaining)

/-- What remains behind the letters of `word`, in any ASCII case. -/
def letters? : (word s : List Char) → Option (List Char)
  | [], s => some s
  | w :: word, c :: rest => if c.toLower == w.toLower then letters? word rest else none
  | _ :: _, [] => none

/-- What remains behind `word`, in any ASCII case, if no identifier character follows it. -/
def keyword? (word s : List Char) : Option (List Char) :=
  (letters? word s).filter fun rest => !rest.head?.any isIdent

/-- What remains behind `word` if that keyword is ahead, and otherwise everything. -/
def skipKeyword (word s : List Char) : List Char :=
  (keyword? word s).getD s

end SchemaDiagram.Scan
