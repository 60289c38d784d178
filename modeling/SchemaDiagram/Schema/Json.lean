import SchemaDiagram.Json.Basic
import SchemaDiagram.Json.Record
import SchemaDiagram.Schema.Basic

/-!
# Schemas as JSON

The JSON form of a schema. A column writes the flags `isUnique` and `isIncrement` only when they are
set, and its default and note only when it has them; when it is read, what is missing is not set.
-/

namespace SchemaDiagram

open Json (Record Reader)

/-- The cardinality of a name. -/
def Cardinality.ofName? (name : String) : Option Cardinality :=
  [oneToOne, oneToMany, manyToOne, manyToMany].find? (·.name == name)

namespace Column

/-- A member for a flag, if it is set. -/
def flagMember (key : String) (flag : Bool) : List (String × Json) :=
  if flag then [(key, .bool true)] else []

/-- The JSON form of a column. -/
def toJson (c : Column) : Json :=
  .object <|
    [("name", .string c.name), ("type", .string c.type), ("isPrimaryKey", .bool c.isPrimaryKey),
      ("isForeignKey", .bool c.isForeignKey), ("isNotNull", .bool c.isNotNull)] ++
    flagMember "isUnique" c.isUnique ++
    flagMember "isIncrement" c.isIncrement ++
    Json.optionalMember "default" .string c.defaultValue ++
    Json.optionalMember "note" .string c.note

/-- Reads a column. -/
def reader : Reader Column :=
  (Record.of Column.mk
    |>.required "name" Reader.text
    |>.required "type" Reader.text
    |>.required "isPrimaryKey" Reader.boolean
    |>.required "isForeignKey" Reader.boolean
    |>.required "isNotNull" Reader.boolean
    |>.optional "isUnique" Reader.boolean false
    |>.optional "isIncrement" Reader.boolean false
    |>.optional "default" (Reader.option Reader.text) none
    |>.optional "note" (Reader.option Reader.text) none).reader

end Column

namespace Table

/-- The JSON form of a table. -/
def toJson (t : Table) : Json :=
  .object [("name", .string t.name), ("columns", .array (t.columns.map Column.toJson))]

/-- Reads a table. -/
def reader : Reader Table :=
  (Record.of Table.mk
    |>.required "name" Reader.text
    |>.required "columns" (Reader.list Column.reader)).reader

end Table

namespace ColumnRef

/-- The JSON form of a column reference. -/
def toJson (r : ColumnRef) : Json :=
  .object [("table", .string r.table), ("column", .string r.column)]

/-- Reads a column reference. -/
def reader : Reader ColumnRef :=
  (Record.of ColumnRef.mk
    |>.required "table" Reader.text
    |>.required "column" Reader.text).reader

end ColumnRef

namespace Relationship

/-- The JSON form of a relationship. -/
def toJson (r : Relationship) : Json :=
  .object [("from", r.endpoints.source.toJson), ("to", r.endpoints.target.toJson),
    ("type", .string r.cardinality.name)]

/-- Reads a relationship. -/
def reader : Reader Relationship :=
  (Record.of (fun source target cardinality => (⟨⟨source, target⟩, cardinality⟩ : Relationship))
    |>.required "from" ColumnRef.reader
    |>.required "to" ColumnRef.reader
    |>.required "type" (Reader.choice Cardinality.ofName?)).reader

end Relationship

namespace Schema

/-- The JSON form of a schema. -/
def toJson (s : Schema) : Json :=
  .object [("tables", .array (s.tables.map Table.toJson)),
    ("relationships", .array (s.relationships.map Relationship.toJson))]

/-- Reads a schema. -/
def reader : Reader Schema :=
  (Record.of Schema.mk
    |>.required "tables" (Reader.list Table.reader)
    |>.required "relationships" (Reader.list Relationship.reader)).reader

end Schema

end SchemaDiagram
