import SchemaDiagram.Schema.Basic
import SchemaDiagram.Sql.Type

/-!
# Writing SQL

The statements that create a schema in a dialect: `CREATE TABLE` for each table, with its notes as
comments and its primary key as a constraint of its own, and then `ALTER TABLE` for each
relationship. A table without columns is only mentioned.
-/

namespace SchemaDiagram.Sql

/-- A default as an expression: without the backticks that schema text puts around it. -/
def defaultExpression (value : List Char) : List Char :=
  match value with
  | '\x60' :: rest => if rest.getLast? = some '\x60' then rest.dropLast else value
  | _ => value

/-- The type of a column. PostgreSQL has a type of its own for integers that are numbered. -/
def columnType (d : Dialect) (c : Column) : List Char :=
  if c.isIncrement ∧ d = .postgreSql ∧ c.type = "integer" then "SERIAL".toList
  else dialectType d c.type

/-- The clause that has a column numbered, in the dialects that have one. -/
def incrementClause (d : Dialect) (c : Column) : List Char :=
  match c.isIncrement, d with
  | true, .mySql => " AUTO_INCREMENT".toList
  | true, .sqlServer => " IDENTITY".toList
  | _, _ => []

/-- The definition of a column. -/
def columnDefinition (d : Dialect) (c : Column) : List Char :=
  "  ".toList ++ d.quote c.name.toList ++ [' '] ++ columnType d c ++ incrementClause d c ++
    (if c.isUnique then " UNIQUE".toList else []) ++
    (if c.isNotNull then " NOT NULL".toList else []) ++
    (match c.defaultValue with
      | some value => " DEFAULT ".toList ++ defaultExpression value.toList
      | none => [])

/-- A list with commas between its members. -/
def commaSeparated (items : List (List Char)) : List Char :=
  ", ".toList.intercalate items

/-- The definitions in a table, each with the note behind it: its columns and its primary key. -/
def definitions (d : Dialect) (t : Table) : List (List Char × Option String) :=
  let keys := (t.columns.filter (·.isPrimaryKey)).map fun c => d.quote c.name.toList
  (t.columns.map fun c => (columnDefinition d c, c.note)) ++
    if keys = [] then [] else [("  PRIMARY KEY (".toList ++ commaSeparated keys ++ [')'], none)]

/-- A note as a comment on one line. -/
def noteComment : Option String → List Char
  | some note => " -- ".toList ++ note.toList.map fun c => if c = '\n' then ' ' else c
  | none => []

/-- The lines of definitions: a comma follows all but the last, before the note. -/
def definitionLines : List (List Char × Option String) → List (List Char)
  | [] => []
  | [(definition, note)] => [definition ++ noteComment note]
  | (definition, note) :: rest => (definition ++ ',' :: noteComment note) :: definitionLines rest

/-- The lines of a table. -/
def tableLines (d : Dialect) (t : Table) : List (List Char) :=
  ("-- Table: ".toList ++ t.name.toList) ::
    if t.columns = [] then ["-- (no columns, skipped)".toList, []]
    else
      ("CREATE TABLE ".toList ++ d.quote t.name.toList ++ " (".toList) ::
        definitionLines (definitions d t) ++ [");".toList, []]

/-- The lines of a relationship. -/
def relationshipLines (d : Dialect) (r : Relationship) : List (List Char) :=
  let source := r.endpoints.source
  let target := r.endpoints.target
  ["-- Foreign Key: ".toList ++ source.table.toList ++ ['.'] ++ source.column.toList ++
      " -> ".toList ++ target.table.toList ++ ['.'] ++ target.column.toList,
    "ALTER TABLE ".toList ++ d.quote source.table.toList,
    "  ADD CONSTRAINT ".toList ++
      d.quote ("fk_".toList ++ source.table.toList ++ ['_'] ++ source.column.toList),
    "  FOREIGN KEY (".toList ++ d.quote source.column.toList ++ [')'],
    "  REFERENCES ".toList ++ d.quote target.table.toList ++ " (".toList ++
      d.quote target.column.toList ++ ");".toList,
    []]

/-- The script that creates a schema. -/
def print (d : Dialect) (s : Schema) : String :=
  String.ofList <| ['\n'].intercalate <|
    s.tables.flatMap (tableLines d) ++ s.relationships.flatMap (relationshipLines d)

end SchemaDiagram.Sql
