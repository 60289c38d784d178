import SchemaDiagram.Sql.ColumnDefinition
import SchemaDiagram.Sql.Comment

/-!
# Reading SQL scripts

The schema that the `CREATE TABLE` and `ALTER TABLE` statements of a script define. The body of a
table ends at the first `);` and is divided at every comma, also at those within parentheses. A
piece that begins with the word of a table constraint declares no column. What is not recognised
is passed over; only a script without any table that has a column is refused.
-/

namespace SchemaDiagram.Sql

/-- Why a script has no schema: it defines no table with a column. -/
structure NoTables where
deriving DecidableEq, Repr

/-- The message about a script without tables. -/
def NoTables.message (_ : NoTables) : String :=
  "no tables found"

/-- A `CREATE TABLE` statement: the name of the table and the text in its parentheses. -/
structure CreateTable where
  /-- The name of the table. -/
  name : List Char
  /-- The text that declares its columns and constraints. -/
  body : List Char
deriving DecidableEq, Repr

namespace CreateTable

/-- The keyword that a statement begins with. -/
def keyword : Keyword :=
  ⟨"create".toList, by decide⟩

/-- Passes over `IF NOT EXISTS`, of which the last two words may be missing. -/
def ifNotExists : Reader Unit :=
  Reader.skipping fun s => match Scan.keyword? "if".toList s with
    | none => s
    | some rest =>
      let rest := Scan.skipKeyword "not".toList (Scan.skipBlanks rest)
      let rest := Scan.skipKeyword "exists".toList (Scan.skipBlanks rest)
      Scan.skipBlanks rest

/-- Reads a statement behind its first keyword. -/
def tail : Reader CreateTable := do
  Reader.blanks
  Reader.keyword "table"
  Reader.blanks
  ifNotExists
  let name ← tableName
  Reader.blanks
  Reader.char '('
  let body ← Reader.before ");"
  return ⟨name, body⟩

/-- Reads a statement behind its first keyword, or stays where it is. -/
def tail? (s : List Char) : Option (CreateTable × List Char) :=
  match tail.on s with
  | (some statement, rest) => some (statement, rest)
  | (none, _) => none

/-- The statements of a script, from left to right. -/
def findAll (script : List Char) : List CreateTable :=
  ((Cursor.start script).occurrences keyword (Scan.orStay tail?)).map (·.value)

/-- The words that a table constraint may begin with. -/
def constraintWords : List String :=
  ["PRIMARY", "FOREIGN", "UNIQUE", "CHECK", "CONSTRAINT", "KEY", "INDEX"]

/-- Whether a piece of a body is a table constraint. -/
def isConstraint (piece : List Char) : Bool :=
  constraintWords.any fun word => Text.sameLetters (piece.takeWhile Character.isIdent) word.toList

/-- The columns that a body declares, each with the column that it refers to. -/
def columns (t : CreateTable) : List (Column × Option ColumnRef) :=
  (((t.body.splitOn ',').map Text.trim).filter fun piece =>
    piece ≠ [] && !isConstraint piece).filterMap columnDefinition?

/-- The keyword of primary keys. -/
def primaryKeyword : Keyword :=
  ⟨"primary".toList, by decide⟩

/-- Reads a list of key columns behind the first keyword. -/
def primaryKeyTail : Reader (List (List Char)) := do
  Reader.blanks
  Reader.keyword "key"
  Reader.blanks
  identList

/-- The columns that the constraints of a body put into the primary key. -/
def primaryKeys (t : CreateTable) : List (List Char) :=
  ((Cursor.start t.body).occurrences primaryKeyword primaryKeyTail.on).flatMap (·.value)

/-- The columns with the first of the given name, in any ASCII case, put into the primary key. -/
def markPrimaryKey (columns : List Column) (key : List Char) : List Column :=
  updateFirst (fun c => Text.sameLetters c.name.toList key) ({ · with isPrimaryKey := true })
    columns

/-- The table that a statement defines. -/
def table (t : CreateTable) : Table :=
  ⟨String.ofList t.name, t.primaryKeys.foldl markPrimaryKey (t.columns.map (·.1))⟩

/-- The relationships that a statement declares: those of its columns, then those of its
constraints. -/
def relationships (t : CreateTable) : List Relationship :=
  (t.columns.filterMap fun (c, target) =>
    target.map fun target => manyToOne ⟨String.ofList t.name, c.name⟩ target) ++
  foreignKeys t.name t.body

end CreateTable

/-- The schema that a script without comments defines, which may lack tables. -/
def schemaOf (script : List Char) : Schema :=
  let statements := CreateTable.findAll script
  Schema.markForeignKeys
    { tables := (statements.map CreateTable.table).filter (·.columns ≠ [])
      relationships := statements.flatMap CreateTable.relationships ++ alteredForeignKeys script }

/-- The schema that a script defines. -/
def parse (script : String) : Except NoTables Schema :=
  let schema := schemaOf (stripComments script.toList)
  if schema.tables = [] then .error ⟨⟩ else .ok schema

end SchemaDiagram.Sql
