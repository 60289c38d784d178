import SchemaDiagram.Schema.Block
import SchemaDiagram.Schema.ColumnLine
import SchemaDiagram.Schema.Reference

/-!
# Reading schema text

Every text has a schema: its table blocks give the tables, their lines the columns, and its
references the relationships. What is none of these is passed over, so that a text that is still
being typed shows what it declares so far.
-/

namespace SchemaDiagram

/-- The lines of a text. -/
def Text.lines (s : List Char) : List (List Char) :=
  s.splitOn '\n'

/-- The table that a block declares. -/
def TableBlock.table (b : TableBlock) : Table :=
  ⟨String.ofList b.name, (Text.lines b.body).filterMap Column.ofLine?⟩

/-- The schema that a text declares. -/
def Schema.parse (text : String) : Schema :=
  Schema.markForeignKeys
    { tables := (TableBlock.findAll text.toList).map (·.value.table)
      relationships := (Reference.findAll text.toList).map (·.value) }

end SchemaDiagram
