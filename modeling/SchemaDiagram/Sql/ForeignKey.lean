import SchemaDiagram.Schema.Basic
import SchemaDiagram.Sql.Reader

/-!
# Foreign keys

A foreign key is declared for one column by `REFERENCES t (c)` behind it, and for several at once
by `FOREIGN KEY (a, b) REFERENCES t (c, d)` in the body of a table or in an `ALTER TABLE`
statement. Each pair of columns gives a many-to-one relationship.
-/

namespace SchemaDiagram.Sql

/-- The many-to-one relationship between two columns. -/
def manyToOne (source target : ColumnRef) : Relationship :=
  ⟨⟨source, target⟩, .manyToOne⟩

/-- A clause that declares foreign keys. -/
structure ForeignKey where
  /-- The columns that refer. -/
  columns : List (List Char)
  /-- The table they refer to. -/
  target : List Char
  /-- The columns they refer to. -/
  targetColumns : List (List Char)
deriving DecidableEq, Repr

namespace ForeignKey

/-- The keyword of a clause. -/
def keyword : Keyword :=
  ⟨"foreign".toList, by decide⟩

/-- Reads a table and columns of it. -/
def referenceTarget : Reader (List Char × List (List Char)) := do
  Reader.blanks
  let table ← tableName
  Reader.blanks
  let columns ← identList
  return (table, columns)

/-- Reads a clause behind its keyword. -/
def tail : Reader ForeignKey := do
  Reader.blanks
  Reader.keyword "key"
  Reader.blanks
  let columns ← identList
  Reader.blanks
  Reader.keyword "references"
  let (target, targetColumns) ← referenceTarget
  return ⟨columns, target, targetColumns⟩

/-- The relationships that a clause declares for a table. Columns without a partner declare none. -/
def relationships (table : List Char) (k : ForeignKey) : List Relationship :=
  (k.columns.zip k.targetColumns).map fun (column, targetColumn) =>
    manyToOne ⟨String.ofList table, String.ofList column⟩
      ⟨String.ofList k.target, String.ofList targetColumn⟩

/-- The clauses in a text, from left to right. -/
def findAll (s : List Char) : List ForeignKey :=
  ((Cursor.start s).occurrences keyword tail.on).map (·.value)

end ForeignKey

/-- The relationships that the clauses in a text declare for a table. -/
def foreignKeys (table s : List Char) : List Relationship :=
  (ForeignKey.findAll s).flatMap (·.relationships table)

/-- The keyword that `ALTER TABLE` begins with. -/
def alterKeyword : Keyword :=
  ⟨"alter".toList, by decide⟩

/-- Reads an `ALTER TABLE` statement behind its first keyword: the table and the text up to the
semicolon. Without a semicolon that is everything ahead, which is then looked at again. -/
def alterTail : Reader (List Char × List Char) := do
  Reader.blanks
  Reader.keyword "table"
  Reader.blanks
  Reader.optionalKeyword "only"
  let table ← tableName
  let statement ← Reader.before ";" <|> get
  return (table, statement)

/-- The relationships that the `ALTER TABLE` statements of a script declare. -/
def alteredForeignKeys (script : List Char) : List Relationship :=
  ((Cursor.start script).occurrences alterKeyword alterTail.on).flatMap fun o =>
    foreignKeys o.value.1 o.value.2

end SchemaDiagram.Sql
