import SchemaDiagram.Schema.Basic
import SchemaDiagram.Text.Case
import SchemaDiagram.Text.Scan

/-!
# Column lines

A line of a table block declares a column by its name and its type, which may be followed by a list
of settings in square brackets. Settings are separated by commas outside quotes. A flag such as
`primary key` is recognised in any case and with any blanks between its words; `note` and `default`
take a value behind a colon. The first note and the last default count, and settings that are not
known are ignored.
-/

namespace SchemaDiagram

/-- What one setting says about its column. -/
inductive Setting where
  | primaryKey
  | notNull
  | unique
  | increment
  | note (text : List Char)
  | defaultValue (value : List Char)
  | unknown
deriving DecidableEq, Repr

namespace Setting

/-- The quotes that a value may stand in. -/
def isQuote (c : Char) : Bool :=
  c == '\'' || c == '"' || c == '\x60'

/-- The value without the quotes around it, if the same quote begins and ends it. -/
def unquote (value : List Char) : List Char :=
  match value with
  | quote :: rest => if isQuote quote && rest.getLast? == some quote then rest.dropLast else value
  | [] => []

/-- The value behind the first colon, if the text before that colon is `key` in any ASCII case. -/
def valueOf? (key s : List Char) : Option (List Char) :=
  match s.dropWhile (· != ':') with
  | _ :: value =>
    if Text.sameLetters (Text.trim (s.takeWhile (· != ':'))) key then some (Text.trim value)
    else none
  | [] => none

/-- The words of a flag in lower case with single spaces between them. -/
def normalize (s : List Char) : List Char :=
  Text.lower ([' '].intercalate (Text.words s))

/-- The flag that a setting sets. -/
def flag? (s : List Char) : Option Setting :=
  let flag := normalize s
  if flag = "pk".toList ∨ flag = "primary key".toList ∨ flag = "primarykey".toList then
    some primaryKey
  else if flag = "not null".toList ∨ flag = "notnull".toList then some notNull
  else if flag = "unique".toList then some unique
  else if flag = "increment".toList then some increment
  else none

/-- What a setting says. -/
def ofText (s : List Char) : Setting :=
  match flag? s with
  | some setting => setting
  | none =>
    match valueOf? "note".toList s with
    | some value => note (unquote value)
    | none =>
      match valueOf? "default".toList s with
      | some value => defaultValue value
      | none => unknown

/-- The column with a setting applied. A note that is already there stays. -/
def apply (c : Column) : Setting → Column
  | primaryKey => { c with isPrimaryKey := true }
  | notNull => { c with isNotNull := true }
  | unique => { c with isUnique := true }
  | increment => { c with isIncrement := true }
  | note text => { c with note := c.note <|> some (String.ofList text) }
  | defaultValue value => { c with defaultValue := some (String.ofList value) }
  | unknown => c

/-- The pieces of a text between commas outside quotes, where `quote` is the quote that is open. -/
def splitUnquoted : (quote : Option Char) → List Char → List (List Char)
  | _, [] => [[]]
  | some quote, c :: rest =>
    (splitUnquoted (if c == quote then none else some quote) rest).modifyHead (c :: ·)
  | none, c :: rest =>
    if c == ',' then [] :: splitUnquoted none rest
    else (splitUnquoted (if isQuote c then some c else none) rest).modifyHead (c :: ·)

/-- The settings of a list, without the blanks around them and without empty ones. -/
def split (list : List Char) : List (List Char) :=
  ((splitUnquoted none list).map Text.trim).filter (· ≠ [])

end Setting

namespace Column

/-- The column with the settings of a list applied in order. -/
def applySettings (c : Column) (list : List Char) : Column :=
  (Setting.split list).foldl (fun c s => (Setting.ofText s).apply c) c

/-- The column that a line declares. Blank lines and comments declare none, nor does a line that
does not start with two identifiers. -/
def ofLine? (line : List Char) : Option Column := do
  let line := Text.trim line
  guard (¬"//".toList.isPrefixOf line)
  let (name, s) ← Scan.ident? line
  let s ← Scan.blanks? s
  let (type, s) ← Scan.ident? s
  let column : Column := { name := String.ofList name, type := String.ofList (Text.lower type) }
  match Scan.char? '[' (Scan.skipBlanks s) >>= Scan.until? [']'] with
  | some (list, _) => return column.applySettings list
  | none => return column

end Column

end SchemaDiagram
