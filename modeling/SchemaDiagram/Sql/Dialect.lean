import SchemaDiagram.Text.Blank
import SchemaDiagram.Text.Case

/-!
# SQL dialects

The four dialects that SQL is written in, their names, how they quote identifiers, and how the
dialect of a script is guessed from words that only occur in one of them.
-/

namespace SchemaDiagram.Sql

/-- A dialect of SQL. -/
inductive Dialect where
  | postgreSql
  | mySql
  | sqlite
  | sqlServer
deriving DecidableEq, Repr

/-- A name that no dialect has. -/
structure UnknownDialect where
  /-- The name. -/
  name : String
deriving DecidableEq, Repr

namespace Dialect

/-- All dialects. -/
def all : List Dialect :=
  [postgreSql, mySql, sqlite, sqlServer]

/-- The dialect that is meant when none is named. -/
def standard : Dialect :=
  postgreSql

/-- The name of a dialect. -/
def name : Dialect → String
  | postgreSql => "postgresql"
  | mySql => "mysql"
  | sqlite => "sqlite"
  | sqlServer => "sqlserver"

/-- The names that a dialect goes by. -/
def aliases : Dialect → List String
  | postgreSql => ["postgres", "postgresql", "pg"]
  | mySql => ["mysql", "mariadb"]
  | sqlite => ["sqlite"]
  | sqlServer => ["sqlserver", "mssql", "tsql"]

/-- The dialect of exactly the given name. -/
def ofName? (name : String) : Option Dialect :=
  all.find? (·.name == name)

/-- The dialect that goes by a name, in any case. -/
def parse (name : String) : Except UnknownDialect Dialect :=
  match all.find? (·.aliases.contains (String.ofList (Text.lower name.toList))) with
  | some d => .ok d
  | none => .error ⟨name⟩

/-- An identifier in the quotes of the dialect. -/
def quote (d : Dialect) (ident : List Char) : List Char :=
  match d with
  | mySql => '\x60' :: ident ++ ['\x60']
  | sqlServer => '[' :: ident ++ [']']
  | postgreSql | sqlite => '"' :: ident ++ ['"']

/-- The marks of the dialects: the first text that occurs in a script decides. -/
def marks : List (String × Dialect) :=
  [("postgresql database dump", postgreSql), ("pg_dump", postgreSql),
    ("mysql dump", mySql), ("mysqldump", mySql),
    ("nvarchar", sqlServer), ("uniqueidentifier", sqlServer), ("identity", sqlServer),
    ("create table [", sqlServer),
    ("auto_increment", mySql), ("engine=", mySql), ("unsigned", mySql), ("\x60", mySql),
    ("autoincrement", sqlite), ("without rowid", sqlite)]

/-- The dialect that a script is probably written in. -/
def detect (script : String) : Dialect :=
  let text := Text.lower script.toList
  match marks.find? fun (mark, _) => Text.occursIn mark.toList text with
  | some (_, d) => d
  | none => standard

end Dialect

/-- The message about an unknown dialect. -/
def UnknownDialect.message (e : UnknownDialect) : String :=
  "unknown dialect: " ++ e.name ++ " (expected one of " ++
    ", ".intercalate (Dialect.all.map Dialect.name) ++ ")"

end SchemaDiagram.Sql
