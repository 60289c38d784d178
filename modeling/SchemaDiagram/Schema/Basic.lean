/-!
# Schemas

A schema is a list of tables with their columns, and a list of relationships between columns. Names
need not be unique and relationships need not lead to existing columns: a schema is whatever a text
declares, in the order of the text.

A column is a foreign key when a relationship starts at it. `Schema.markForeignKeys` sets that flag;
where several tables or columns share a name, the first one is meant.
-/

namespace SchemaDiagram

/-- A column of a table. -/
structure Column where
  /-- The name of the column. -/
  name : String
  /-- The name of its type. -/
  type : String
  /-- Whether it belongs to the primary key. -/
  isPrimaryKey : Bool := false
  /-- Whether a relationship starts at it. -/
  isForeignKey : Bool := false
  /-- Whether it must have a value. -/
  isNotNull : Bool := false
  /-- Whether its values are distinct. -/
  isUnique : Bool := false
  /-- Whether its values are numbered automatically. -/
  isIncrement : Bool := false
  /-- The default value, as it is written. -/
  defaultValue : Option String := none
  /-- A remark. -/
  note : Option String := none
deriving DecidableEq, Repr

/-- A table. -/
structure Table where
  /-- The name of the table. -/
  name : String
  /-- Its columns in order. -/
  columns : List Column
deriving DecidableEq, Repr

/-- A column named by its table and its own name. -/
structure ColumnRef where
  /-- The name of the table. -/
  table : String
  /-- The name of the column. -/
  column : String
deriving DecidableEq, Repr

/-- How many rows on each side of a relationship belong together. -/
inductive Cardinality where
  | oneToOne
  | oneToMany
  | manyToOne
  | manyToMany
deriving DecidableEq, Repr

/-- The two columns that something connects. -/
structure Endpoints where
  /-- Where it starts. -/
  source : ColumnRef
  /-- Where it leads. -/
  target : ColumnRef
deriving DecidableEq, Repr

/-- A relationship between two columns. -/
structure Relationship where
  /-- The columns it connects. -/
  endpoints : Endpoints
  /-- How many rows belong together. -/
  cardinality : Cardinality
deriving DecidableEq, Repr

/-- Tables and the relationships between their columns. -/
structure Schema where
  /-- The tables in order. -/
  tables : List Table
  /-- The relationships in order. -/
  relationships : List Relationship
deriving DecidableEq, Repr

/-- The operator that stands for a cardinality in schema text. -/
def Cardinality.operator : Cardinality → List Char
  | .manyToOne => ['>']
  | .oneToMany => ['<']
  | .oneToOne => ['-']
  | .manyToMany => ['<', '>']

/-- The cardinality that an operator stands for; one that is not known means one-to-many. -/
def Cardinality.ofOperator (operator : List Char) : Cardinality :=
  if operator = ['>'] then .manyToOne
  else if operator = ['-'] then .oneToOne
  else if operator = ['<', '>'] then .manyToMany
  else .oneToMany

/-- The name of a cardinality. -/
def Cardinality.name : Cardinality → String
  | .oneToOne => "one-to-one"
  | .oneToMany => "one-to-many"
  | .manyToOne => "many-to-one"
  | .manyToMany => "many-to-many"

/-- The list with its first element that satisfies `p` changed by `f`. -/
def updateFirst {α : Type} (p : α → Bool) (f : α → α) : List α → List α
  | [] => []
  | x :: rest => if p x then f x :: rest else x :: updateFirst p f rest

/-- The table with its first column of the given name flagged as a foreign key. -/
def Table.markForeignKey (t : Table) (column : String) : Table :=
  { t with columns := updateFirst (·.name == column) ({ · with isForeignKey := true }) t.columns }

namespace Schema

/-- The schema without tables. -/
def empty : Schema :=
  ⟨[], []⟩

/-- The first table of the given name. -/
def table? (s : Schema) (name : String) : Option Table :=
  s.tables.find? (·.name == name)

/-- The tables with the column flagged where a relationship starts. -/
def markForeignKey (tables : List Table) (source : ColumnRef) : List Table :=
  updateFirst (·.name == source.table) (·.markForeignKey source.column) tables

/-- The schema with the columns flagged where its relationships start. -/
def markForeignKeys (s : Schema) : Schema :=
  { s with
    tables := s.relationships.foldl (fun tables r => markForeignKey tables r.endpoints.source)
      s.tables }

end Schema

end SchemaDiagram
