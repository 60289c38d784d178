import SchemaDiagram.Diagram.Layout
import SchemaDiagram.Schema.Json

/-!
# Diagram documents

The JSON document that a diagram is exported as: the schema text, the schema read from it, the
positions of the nodes, and when it was written. Only the text and the positions count when a
document is imported again.
-/

namespace SchemaDiagram

open Json (Record Reader)

/-- A diagram document. -/
structure Document where
  /-- The version of the form of documents. -/
  version : String
  /-- The schema text. -/
  text : String
  /-- The schema of the text. -/
  schema : Schema
  /-- The positions of the nodes. -/
  layout : Option Layout
  /-- When the document was written. -/
  exportedAt : String

namespace Document

/-- The version that documents are written in. -/
def currentVersion : String :=
  "1.0"

/-- The document of a diagram. -/
def ofDiagram (text : String) (schema : Schema) (layout : Option Layout) (exportedAt : String) :
    Document :=
  ⟨currentVersion, text, schema, layout, exportedAt⟩

/-- The JSON form of a document. -/
def toJson (d : Document) : Json :=
  .object <|
    [("version", .string d.version), ("dbmlCode", .string d.text),
      ("parsedDBML", d.schema.toJson)] ++
    Json.optionalMember "nodePositions" Layout.toJson d.layout ++
    [("exportedAt", .string d.exportedAt)]

/-- Reads a document. -/
def reader : Reader Document :=
  (Record.of Document.mk
    |>.required "version" Reader.text
    |>.required "dbmlCode" Reader.text
    |>.required "parsedDBML" Schema.reader
    |>.optional "nodePositions" (Reader.option Layout.reader) none
    |>.required "exportedAt" Reader.text).reader

/-- The text of a document, with an item a line. -/
def print (d : Document) : String :=
  d.toJson.pretty

end Document

end SchemaDiagram
