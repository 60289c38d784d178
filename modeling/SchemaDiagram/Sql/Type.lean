import SchemaDiagram.Sql.Dialect

/-!
# Column types in SQL

A schema names column types in a canonical way that stands for several types of SQL: all integers,
for instance, are `integer`, whatever their width. `canonicalType` maps a type of SQL to its
canonical name, and `dialectType` maps a canonical name to the type that a dialect writes for it.
Types that are not known keep their name, in lower case in a schema and in upper case in SQL.
-/

namespace SchemaDiagram.Sql

/-- The canonical types, each with the types of SQL that it stands for. -/
def canonicalTypes : List (String × List String) :=
  [("integer", ["int", "integer", "bigint", "smallint", "tinyint", "mediumint", "int2", "int4",
      "int8", "serial", "bigserial", "smallserial"]),
    ("float", ["float", "double", "real", "float4", "float8"]),
    ("decimal", ["decimal", "numeric", "money"]),
    ("varchar", ["varchar", "nvarchar", "char", "nchar", "character"]),
    ("text", ["text", "ntext", "longtext", "mediumtext", "tinytext"]),
    ("timestamp", ["datetime", "datetime2", "timestamp", "timestamptz", "date", "time"]),
    ("boolean", ["bit", "bool", "boolean"]),
    ("uuid", ["uuid", "uniqueidentifier"])]

/-- The canonical name of a type of SQL, whose size in parentheses is ignored. -/
def canonicalType (type : List Char) : List Char :=
  let base := Text.trim ((Text.lower type).takeWhile (· != '('))
  match canonicalTypes.find? (·.2.contains (String.ofList base)) with
  | some (canonical, _) => canonical.toList
  | none => base

/-- Whether a type of SQL numbers its values automatically. -/
def isSerialType (type : List Char) : Bool :=
  String.ofList (Text.lower type) ∈ ["serial", "bigserial", "smallserial"]

/-- The types that a dialect writes for the canonical ones. -/
def dialectTypes : Dialect → List (String × String)
  | .postgreSql =>
    [("integer", "INTEGER"), ("varchar", "VARCHAR(255)"), ("text", "TEXT"),
      ("timestamp", "TIMESTAMP"), ("boolean", "BOOLEAN"), ("float", "REAL"),
      ("decimal", "DECIMAL"), ("uuid", "UUID")]
  | .mySql =>
    [("integer", "INT"), ("varchar", "VARCHAR(255)"), ("text", "TEXT"),
      ("timestamp", "TIMESTAMP"), ("boolean", "TINYINT(1)"), ("float", "FLOAT"),
      ("decimal", "DECIMAL"), ("uuid", "CHAR(36)")]
  | .sqlite =>
    [("integer", "INTEGER"), ("varchar", "TEXT"), ("text", "TEXT"), ("timestamp", "TEXT"),
      ("boolean", "INTEGER"), ("float", "REAL"), ("decimal", "REAL"), ("uuid", "TEXT")]
  | .sqlServer =>
    [("integer", "INT"), ("varchar", "NVARCHAR(255)"), ("text", "NVARCHAR(MAX)"),
      ("timestamp", "DATETIME2"), ("boolean", "BIT"), ("float", "FLOAT"),
      ("decimal", "DECIMAL"), ("uuid", "UNIQUEIDENTIFIER")]

/-- The type that a dialect writes for a canonical one. -/
def dialectType (d : Dialect) (type : String) : List Char :=
  match (dialectTypes d).lookup type with
  | some written => written.toList
  | none => Text.upper type.toList

end SchemaDiagram.Sql
