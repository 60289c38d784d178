import SchemaDiagram.Diagram.Layout
import SchemaDiagram.Schema.Print
import SchemaDiagram.Sql.Parse

/-!
# Importing files

A file can hold schema text, an SQL script or a diagram document in JSON. Whatever it holds, what
is imported is schema text, because that is what is edited; a document may also bring positions for
its nodes. The format of a file follows from the extension of its name, or else from its content.
-/

namespace SchemaDiagram

/-- The format of a file. -/
inductive FileFormat where
  /-- Schema text. -/
  | dbml
  /-- A script of SQL statements. -/
  | sql
  /-- A diagram document. -/
  | json
deriving DecidableEq, Repr

namespace FileFormat

/-- The name of a format, which is also the extension of its files. -/
def name : FileFormat → String
  | dbml => "dbml"
  | sql => "sql"
  | json => "json"

/-- The format of a name. -/
def ofName? (name : String) : Option FileFormat :=
  [dbml, sql, json].find? (·.name == name)

/-- The last component of a path, if it names a file. -/
def fileName? (path : List Char) : Option (List Char) :=
  match ((path.splitOn '/').filter fun part => part ≠ [] && part ≠ ['.']).getLast? with
  | some part => if part = ['.', '.'] then none else some part
  | none => none

/-- What follows the last dot of a file name, unless that dot comes first. -/
def extension? (fileName : List Char) : Option (List Char) :=
  match fileName.reverse.dropWhile (· ≠ '.') with
  | _ :: _ :: _ => some (fileName.reverse.takeWhile (· ≠ '.')).reverse
  | _ => none

/-- The format of a file with the given path, if its extension is a known one. -/
def ofPath? (path : String) : Option FileFormat := do
  let fileName ← fileName? path.toList
  let extension ← extension? fileName
  ofName? (String.ofList (Text.lower extension))

/-- The format that a content probably has. -/
def detect (content : String) : FileFormat :=
  let s := content.toList
  if (Text.trimStart s).head? = some '{' && Text.occursIn "\"dbmlCode\"".toList s then json
  else if Text.occursIn "create table".toList (Text.lower s) then sql
  else dbml

/-- The dialect that a content is written in, if it is SQL. -/
def dialect? (format : FileFormat) (content : String) : Option Sql.Dialect :=
  match format with
  | sql => some (Sql.Dialect.detect content)
  | dbml | json => none

end FileFormat

/-- What an import yields. -/
structure Imported where
  /-- The schema text. -/
  text : String
  /-- Positions for nodes, if the file has them. -/
  layout : Option Layout := none

namespace Imported

/-- Why a file cannot be imported. -/
inductive Fault where
  /-- There is no table in schema text. -/
  | noTableDefinitions
  /-- There is no table in a script. -/
  | noTables
  /-- A document lacks a field. -/
  | missingField (key : String)
  /-- A document is not JSON of the right form. -/
  | json (fault : Json.Fault)
deriving DecidableEq, Repr

/-- The message about a fault. -/
def Fault.message : Fault → String
  | noTableDefinitions => "no table definitions found"
  | noTables => Sql.NoTables.message ⟨⟩
  | missingField key => "missing required field: " ++ key
  | json fault => "failed to parse JSON: " ++ fault.message

/-- Imports schema text, which is taken as it is if it seems to declare a table. -/
def ofDbml (content : String) : Except Fault Imported :=
  let s := content.toList
  if Text.occursIn "Table ".toList s || Text.occursIn "table ".toList s then .ok ⟨content, none⟩
  else .error .noTableDefinitions

/-- The line that says where text comes from, and an empty one. -/
def sqlHeader : String :=
  "// Imported from SQL\n\n"

/-- Imports a script: the canonical text of the schema that it defines. -/
def ofSql (script : String) : Except Fault Imported :=
  match Sql.parse script with
  | .ok schema => .ok ⟨sqlHeader ++ schema.print, none⟩
  | .error _ => .error .noTables

/-- The key of the schema text in a document. -/
def textKey : String :=
  "dbmlCode"

/-- Reads the schema text and the positions of a document, either of which may be missing. -/
def documentReader : Json.Reader (Option String × Option Layout) :=
  (Json.Record.of (fun text layout => ((text, layout) : Option String × Option Layout))
    |>.optional textKey (Json.Reader.option Json.Reader.text) none
    |>.optional "nodePositions" (Json.Reader.option Layout.reader) none).reader

/-- Imports a document, whose text must be there and not be empty. -/
def ofJson (content : String) : Except Fault Imported :=
  match documentReader.run content with
  | .error fault => .error (.json fault)
  | .ok (none, _) => .error (.missingField textKey)
  | .ok (some text, layout) =>
    if text = "" then .error (.missingField textKey) else .ok ⟨text, layout⟩

/-- Imports a content of the given format. -/
def ofContent : FileFormat → String → Except Fault Imported
  | .dbml => ofDbml
  | .sql => ofSql
  | .json => ofJson

end Imported

end SchemaDiagram
