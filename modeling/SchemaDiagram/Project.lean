import SchemaDiagram.Diagram.Edge
import SchemaDiagram.Diagram.Layout
import SchemaDiagram.Time.Read

/-!
# Projects and snapshots

A `Project` is the identity of a saved diagram, which it gets when it is saved for the first time. A
`Snapshot` is what is saved: the schema text, the positions of the nodes and the project. All that
concerns the project may be missing in a snapshot that comes from elsewhere.
-/

namespace SchemaDiagram

open Json (Record Reader)

/-- The identity of a saved diagram. -/
structure Project where
  /-- The identifier. -/
  id : String
  /-- The name. -/
  name : String
  /-- When the diagram was saved for the first time. -/
  createdAt : Instant
deriving DecidableEq, Repr

namespace Project

/-- The name of a project that has been given none. -/
def untitled : String :=
  "Untitled Project"

/-- The identifier of a project that begins at the given moment. -/
def idAt (now : Instant) : String :=
  "project-" ++ String.ofList (shortHash (Utf8.encode (now.print .nanos).toList))

/-- A project that begins at the given moment. -/
def new (name : Option String) (now : Instant) : Project :=
  ⟨idAt now, name.getD untitled, now⟩

end Project

/-- What is saved of a diagram. -/
structure Snapshot where
  /-- The identifier of the project. -/
  id : Option String := none
  /-- The name of the project. -/
  name : Option String := none
  /-- The schema text. -/
  text : String
  /-- The positions of the nodes. -/
  layout : Layout := .empty
  /-- When the project was saved for the first time. -/
  createdAt : Option Instant := none
  /-- When the project was saved last. -/
  updatedAt : Option Instant := none

namespace Snapshot

/-- The project of a snapshot, if it has an identifier. A project whose beginning is not known
begins at the given moment. -/
def project? (s : Snapshot) (now : Instant) : Option Project :=
  s.id.map fun id => ⟨id, s.name.getD Project.untitled, s.createdAt.getD now⟩

/-- The JSON form of a moment. -/
def instantJson (t : Instant) : Json :=
  .string (t.print .asNeeded)

/-- The JSON form of a snapshot. -/
def toJson (s : Snapshot) : Json :=
  .object <|
    Json.optionalMember "id" .string s.id ++
    Json.optionalMember "name" .string s.name ++
    [("dbmlCode", .string s.text), ("nodePositions", s.layout.toJson)] ++
    Json.optionalMember "createdAt" instantJson s.createdAt ++
    Json.optionalMember "updatedAt" instantJson s.updatedAt

/-- Reads a moment. -/
def instantReader : Reader Instant :=
  Reader.textWith Instant.read?

/-- Reads a snapshot. -/
def reader : Reader Snapshot :=
  (Record.of Snapshot.mk
    |>.optional "id" (Reader.option Reader.text) none
    |>.optional "name" (Reader.option Reader.text) none
    |>.required "dbmlCode" Reader.text
    |>.optional "nodePositions" Layout.reader .empty
    |>.optional "createdAt" (Reader.option instantReader) none
    |>.optional "updatedAt" (Reader.option instantReader) none).reader

end Snapshot

end SchemaDiagram
