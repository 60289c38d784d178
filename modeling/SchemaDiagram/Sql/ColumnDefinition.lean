import SchemaDiagram.Decimal.Literal
import SchemaDiagram.Sql.ForeignKey
import SchemaDiagram.Sql.Type

/-!
# Column definitions

A column definition names a column and its type, which a size in parentheses may follow, and then
its constraints in any order. Constraints are found by their words, which do not count inside
single quotes. A default that is neither quoted nor a number, a truth value or null is kept in
backticks, as schema text writes expressions.
-/

namespace SchemaDiagram.Sql

/-- A text with everything in single quotes replaced by a space for each opening quote. -/
def blankQuoted : (inQuotes : Bool) → List Char → List Char
  | _, [] => []
  | false, c :: rest =>
    if c = '\'' then ' ' :: blankQuoted true rest else c :: blankQuoted false rest
  | true, c :: rest => blankQuoted (c != '\'') rest

/-- The words of a text in upper case: its runs of identifier characters. -/
def upperWords (s : List Char) : List (List Char) :=
  (Text.pieces (fun c => !Character.isIdent c) s).map Text.upper

/-- Whether consecutive words spell a phrase. -/
def hasPhrase (words : List (List Char)) (phrase : List String) : Bool :=
  Text.occursIn (phrase.map String.toList) words

/-- Whether a default is a literal that schema text writes as it is. -/
def isLiteral (value : List Char) : Bool :=
  Decimal.isNumber value ||
    ["true", "false", "null"].any fun word => Text.sameLetters value word.toList

/-- The default that constraints give: a text in single quotes with them, or what comes before the
next blank. -/
def defaultOf? (constraints : List Char) : Option (List Char) := do
  let (_, behind) ← (Cursor.start constraints).findKeyword? "default".toList
  match Scan.skipBlanks behind.ahead with
  | '\'' :: rest =>
    let (text, _) ← Scan.until? ['\''] rest
    return '\'' :: text ++ ['\'']
  | s =>
    match s.takeWhile fun c => !Character.isBlank c with
    | [] => none
    | value => if isLiteral value then return value else return '\x60' :: value ++ ['\x60']

/-- The column that constraints refer to: the first one of the list behind `REFERENCES`. -/
def referenceOf? (constraints : List Char) : Option ColumnRef := do
  let (_, behind) ← (Cursor.start constraints).findKeyword? "references".toList
  let (table, columns) ← (ForeignKey.referenceTarget.on behind.ahead).1
  let column ← columns.head?
  return ⟨String.ofList table, String.ofList column⟩

/-- What remains behind a size, if one is ahead: digits and commas in parentheses. -/
def skipSize (s : List Char) : List Char :=
  match Scan.char? '(' s >>= Scan.until? [')'] with
  | some (size, rest) => if size.all fun c => c.isDigit || c == ',' then rest else s
  | none => s

/-- The column of the given name and type with the given constraints. -/
def columnOf (name type constraints : List Char) : Column :=
  let words := upperWords (blankQuoted false constraints)
  { name := String.ofList name
    type := String.ofList (canonicalType type)
    isPrimaryKey := hasPhrase words ["PRIMARY", "KEY"]
    isNotNull := hasPhrase words ["NOT", "NULL"]
    isUnique := hasPhrase words ["UNIQUE"]
    isIncrement := isSerialType type || hasPhrase words ["AUTO_INCREMENT"] ||
      hasPhrase words ["AUTOINCREMENT"] || hasPhrase words ["IDENTITY"]
    defaultValue := (defaultOf? constraints).map String.ofList }

/-- The column that a definition declares, and the column that it refers to. -/
def columnDefinition? (s : List Char) : Option (Column × Option ColumnRef) := do
  let (name, rest) := ident.on s
  let name ← name
  let rest ← Scan.blanks? rest
  let (type, rest) ← Scan.ident? rest
  let constraints := skipSize rest
  return (columnOf name type constraints, referenceOf? (blankQuoted false constraints))

end SchemaDiagram.Sql
