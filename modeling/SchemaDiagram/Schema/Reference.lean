import SchemaDiagram.Schema.Basic
import SchemaDiagram.Text.Cursor

/-!
# References

Schema text declares a relationship by `Ref: table.column > table.column`, wherever it stands in the
text and with the keyword in any case. The operator between the two columns is a run of angle
brackets and hyphens. What does not complete a reference is passed over, and the search goes on
behind its keyword.
-/

namespace SchemaDiagram

namespace Reference

/-- The keyword of a reference. -/
def keyword : Keyword :=
  ⟨"ref".toList, by decide⟩

/-- Reads `table.column`. -/
def columnRef? (s : List Char) : Option (ColumnRef × List Char) := do
  let (table, s) ← Scan.ident? s
  let s ← Scan.char? '.' s
  let (column, s) ← Scan.ident? s
  return (⟨String.ofList table, String.ofList column⟩, s)

/-- The characters of operators. -/
def isOperatorChar (c : Char) : Bool :=
  c == '<' || c == '>' || c == '-'

/-- Reads the operator between the two columns. -/
def operator? (s : List Char) : Option (Cardinality × List Char) :=
  match s.takeWhile isOperatorChar with
  | [] => none
  | operator => some (.ofOperator operator, s.dropWhile isOperatorChar)

/-- Reads a reference behind its keyword. The colon follows at once. -/
def tail? (s : List Char) : Option (Relationship × List Char) := do
  let s ← Scan.char? ':' s
  let (source, s) ← columnRef? (Scan.skipBlanks s)
  let (cardinality, s) ← operator? (Scan.skipBlanks s)
  let (target, s) ← columnRef? (Scan.skipBlanks s)
  return (⟨⟨source, target⟩, cardinality⟩, s)

/-- The references of a text, from left to right. -/
def findAll (s : List Char) : List (Occurrence Relationship) :=
  (Cursor.start s).occurrences keyword (Scan.orStay tail?)

end Reference

end SchemaDiagram
