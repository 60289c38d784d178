import SchemaDiagram.Schema.ColumnLine

/-!
# Writing schema text

The canonical text of a schema: a block for each table with a line for each column, and then a line
for each relationship. Settings come in a fixed order, and a primary key is not said to be not null.
-/

namespace SchemaDiagram

namespace Column

/-- A note in quotes: double ones if it contains a single quote. -/
def quoteNote (note : List Char) : List Char :=
  let quote := if '\'' ∈ note then '"' else '\''
  quote :: note ++ [quote]

/-- The settings of a column in canonical order. -/
def settings (c : Column) : List (List Char) :=
  (if c.isPrimaryKey then ["primary key".toList] else []) ++
    (if c.isUnique then ["unique".toList] else []) ++
    (if c.isIncrement then ["increment".toList] else []) ++
    (if c.isNotNull && !c.isPrimaryKey then ["not null".toList] else []) ++
    (c.defaultValue.toList.map fun value => "default: ".toList ++ value.toList) ++
    (c.note.toList.map fun note => "note: ".toList ++ quoteNote note.toList)

/-- The line that declares a column. -/
def line (c : Column) : List Char :=
  "  ".toList ++ c.name.toList ++ [' '] ++ c.type.toList ++
    (if c.settings = [] then [] else " [".toList ++ ", ".toList.intercalate c.settings ++ [']']) ++
    ['\n']

end Column

/-- The block that declares a table. -/
def Table.block (t : Table) : List Char :=
  "Table ".toList ++ t.name.toList ++ " \x7b\n".toList ++ t.columns.flatMap Column.line ++
    "\x7d\n".toList

/-- The text `table.column`. -/
def ColumnRef.dotted (r : ColumnRef) : List Char :=
  r.table.toList ++ ['.'] ++ r.column.toList

/-- The line that declares a relationship. -/
def Relationship.line (r : Relationship) : List Char :=
  "Ref: ".toList ++ r.endpoints.source.dotted ++ [' '] ++ r.cardinality.operator ++ [' '] ++
    r.endpoints.target.dotted ++ ['\n']

/-- The canonical text of a schema. -/
def Schema.print (s : Schema) : String :=
  String.ofList
    (s.tables.flatMap (fun t => t.block ++ ['\n']) ++ s.relationships.flatMap Relationship.line)

end SchemaDiagram
