import SchemaDiagram.Text.Cursor

/-!
# Table blocks

Schema text declares a table by a block `Table name { … }`, wherever it stands in the text and with
the keyword in any case. The body of a block ends at the first closing brace. What does not complete
a block is passed over, and the search goes on behind its keyword.
-/

namespace SchemaDiagram

/-- A table block: the name it declares and the text between its braces. -/
structure TableBlock where
  /-- The name of the table. -/
  name : List Char
  /-- The text between the braces. -/
  body : List Char
deriving DecidableEq, Repr

namespace TableBlock

/-- The keyword of a table block. -/
def keyword : Keyword :=
  ⟨"table".toList, by decide⟩

/-- Reads a block behind its keyword: blanks, the name, and the body in braces. -/
def tail? (s : List Char) : Option (TableBlock × List Char) := do
  let s ← Scan.blanks? s
  let (name, s) ← Scan.ident? s
  let s ← Scan.char? '{' (Scan.skipBlanks s)
  let (body, s) ← Scan.until? ['}'] s
  return (⟨name, body⟩, s)

/-- The table blocks of a text, from left to right. -/
def findAll (s : List Char) : List (Occurrence TableBlock) :=
  (Cursor.start s).occurrences keyword (Scan.orStay tail?)

end TableBlock

end SchemaDiagram
