import SchemaDiagram.Bytes.Hex
import SchemaDiagram.Bytes.Sha256
import SchemaDiagram.Bytes.Utf8
import SchemaDiagram.Diagram.Route
import SchemaDiagram.Json.Basic
import SchemaDiagram.Schema.Json

/-!
# Edges

An edge connects two columns on the canvas. It is either derived from a relationship of the schema
or drawn by hand. The identifier of a derived edge is a hash of the four names it connects, so
that it stays the same when the schema is read again; an edge drawn by hand has a serial number.
-/

namespace SchemaDiagram

/-- The names of the endpoints as bytes, each with a zero byte behind it. -/
def Endpoints.bytes (e : Endpoints) : List UInt8 :=
  [e.source.table, e.source.column, e.target.table, e.target.column].flatMap fun name =>
    Utf8.encode name.toList ++ [0]

/-- The endpoints of a relationship with the given cardinality. -/
def Endpoints.relationship (e : Endpoints) (cardinality : Cardinality) : Relationship :=
  ⟨e, cardinality⟩

/-- The JSON form of endpoints. -/
def Endpoints.toJson (e : Endpoints) : Json :=
  .object [("source", e.source.toJson), ("target", e.target.toJson)]

/-- The JSON form of handles. -/
def Handles.toJson (h : Handles) : Json :=
  .object [("sourceHandle", .string h.source), ("targetHandle", .string h.target)]

/-- The first eight bytes of the hash of a message, in hexadecimal digits. -/
def shortHash (message : List UInt8) : List Char :=
  Hex.encode ((Sha256.hash message).take 8)

/-- Where an edge comes from. -/
inductive Provenance where
  /-- From a relationship of the schema. -/
  | derived (cardinality : Cardinality)
  /-- Drawn by hand, with a serial number. -/
  | manual (serial : Nat)
deriving DecidableEq, Repr

/-- The name of a provenance. -/
def Provenance.name : Provenance → String
  | derived _ => "derived"
  | manual _ => "manual"

/-- A connection between two columns on the canvas. -/
structure Edge where
  /-- The columns that it connects. -/
  endpoints : Endpoints
  /-- The handles that it is attached to. -/
  handles : Handles
  /-- Where it comes from. -/
  provenance : Provenance
deriving DecidableEq, Repr

namespace Edge

/-- The identifier of a derived edge. -/
def derivedId (e : Endpoints) : String :=
  "rel-" ++ String.ofList (shortHash e.bytes)

/-- The identifier of an edge drawn by hand. -/
def manualId (serial : Nat) : String :=
  "manual-" ++ String.ofList (Decimal.digits serial)

/-- The identifier of an edge. -/
def id (e : Edge) : String :=
  match e.provenance with
  | .derived _ => derivedId e.endpoints
  | .manual serial => manualId serial

/-- Whether an edge was drawn by hand. -/
def isManual (e : Edge) : Bool :=
  match e.provenance with
  | .derived _ => false
  | .manual _ => true

/-- The derived edge of a relationship. -/
def ofRelationship (r : Relationship) : Edge :=
  ⟨r.endpoints, .standard r.endpoints, .derived r.cardinality⟩

end Edge

end SchemaDiagram
