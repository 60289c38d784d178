import SchemaDiagram.Bytes.Hex
import SchemaDiagram.Text.Scan
import SchemaDiagram.Toml.Item

/-!
# Blanks, strings and keys of TOML

The smallest parts of a TOML document. Strings stand in double quotes, where a backslash escapes,
or in single quotes, where nothing does; in three quotes of either kind they may run over several
lines. Control characters other than the tab are not allowed anywhere, and a carriage return only
as a part of a line break.
-/

namespace SchemaDiagram.Toml

/-- Takes something off the front of a text. -/
abbrev Reader (α : Type) :=
  List Char → Option (α × List Char)

/-! ## Blanks, comments and lines -/

/-- The blanks within a line. -/
def isBlank (c : Char) : Bool :=
  c == ' ' || c == '\t'

/-- The characters that a line may have. -/
def isPrintable (c : Char) : Bool :=
  c == '\t' || (' ' ≤ c && c != '\x7f')

/-- What remains behind blanks. -/
def skipBlanks (s : List Char) : List Char :=
  s.dropWhile isBlank

/-- What remains behind a line break. -/
def lineBreak? : List Char → Option (List Char)
  | '\n' :: rest | '\r' :: '\n' :: rest => some rest
  | _ => none

/-- What remains behind a comment, if there is one. -/
def skipComment (s : List Char) : List Char :=
  if s.head? = some '#' then s.dropWhile isPrintable else s

/-- What remains behind the end of a line: blanks, a comment, and a line break unless the text
ends. -/
def lineEnd? (s : List Char) : Option (List Char) :=
  match skipComment (skipBlanks s) with
  | [] => some []
  | s => lineBreak? s

/-- What remains behind blanks, line breaks and comments. Within a comment only its line break is
looked for, and it must be there. -/
def skipLines? (inComment : Bool) : List Char → Option (List Char)
  | '\n' :: rest | '\r' :: '\n' :: rest => skipLines? false rest
  | c :: rest =>
    if inComment then if isPrintable c then skipLines? true rest else none
    else if isBlank c then skipLines? false rest
    else if c = '#' then skipLines? true rest
    else some (c :: rest)
  | [] => if inComment then none else some []

/-- Reads one or more items with a separator between them. -/
def separated? {α : Type} (separator : Char) (item : Reader α) (s : List Char) :
    Option (List α × List Char) := do
  let (x, rest) ← item s
  match rest with
  | c :: rest' =>
    if c = separator ∧ rest'.length < s.length then
      match separated? separator item rest' with
      | some (xs, rest) => some (x :: xs, rest)
      | none => some ([x], rest)
    else some ([x], rest)
  | [] => some ([x], [])
termination_by s.length

/-! ## Strings -/

/-- The character with the code that hexadecimal digits give. -/
def charOfDigits? (digits : List Char) : Option Char := do
  let values ← digits.mapM Hex.value?
  let code := values.foldl (fun n d => 16 * n + d) 0
  if code.isValidChar then some (Char.ofNat code) else none

/-- Reads what follows a backslash. -/
def escape? : Reader Char
  | [] => none
  | c :: rest =>
    if c = '"' ∨ c = '\\' then some (c, rest)
    else if c = 'b' then some ('\x08', rest)
    else if c = 't' then some ('\t', rest)
    else if c = 'n' then some ('\n', rest)
    else if c = 'f' then some ('\x0c', rest)
    else if c = 'r' then some ('\r', rest)
    else if c = 'u' ∧ 4 ≤ rest.length then
      (charOfDigits? (rest.take 4)).map fun x => (x, rest.drop 4)
    else if c = 'U' ∧ 8 ≤ rest.length then
      (charOfDigits? (rest.take 8)).map fun x => (x, rest.drop 8)
    else none

/-- Reads a string of one line behind its double quote. -/
def quoted? (s : List Char) : Option (List Char × List Char) :=
  match s with
  | [] => none
  | c :: rest =>
    if c = '"' then some ([], rest)
    else if c = '\\' then
      match escape? rest with
      | none => none
      | some (x, rest') =>
        if rest'.length ≤ rest.length then
          (quoted? rest').map fun (xs, rest) => (x :: xs, rest)
        else none
    else if isPrintable c then (quoted? rest).map fun (xs, rest) => (c :: xs, rest)
    else none
termination_by s.length

/-- Reads a string of one line behind its single quote. -/
def literal? (s : List Char) : Option (List Char × List Char) :=
  match s.dropWhile fun c => isPrintable c && c != '\'' with
  | '\'' :: rest => some (s.takeWhile fun c => isPrintable c && c != '\'', rest)
  | _ => none

/-- Reads the end of a string of several lines, whose last characters may be one or two quotes. -/
def closing? (quote : Char) : Reader (List Char)
  | a :: b :: c :: rest =>
    if a = quote ∧ b = quote ∧ c = quote then
      let more := (rest.take 2).takeWhile (· = quote)
      some (more, rest.drop more.length)
    else none
  | _ => none

/-- What remains behind blanks and line breaks. -/
def skipBlankLines : List Char → List Char
  | ' ' :: rest | '\t' :: rest | '\n' :: rest | '\r' :: '\n' :: rest => skipBlankLines rest
  | s => s

/-- What remains behind a line break that a backslash escapes, with the blanks around it and all
blank lines behind. -/
def escapedBreak? (s : List Char) : Option (List Char) :=
  (lineBreak? (skipBlanks s)).map skipBlankLines

/-- Reads a string of several lines, which stands in quotes of the given kind. A backslash escapes
if they are double ones. -/
def lines? (quote : Char) (s : List Char) : Option (List Char × List Char) :=
  match closing? quote s with
  | some found => some found
  | none =>
    match s with
    | [] => none
    | c :: rest =>
      let (taken, remaining) : Option (List Char) × List Char :=
        if c = '\\' ∧ quote = '"' then
          match escapedBreak? rest, escape? rest with
          | some rest, _ => (some [], rest)
          | none, some (x, rest) => (some [x], rest)
          | none, none => (none, rest)
        else
          match lineBreak? (c :: rest) with
          | some rest => (some ['\n'], rest)
          | none => (if isPrintable c then some [c] else none, rest)
      match taken with
      | none => none
      | some taken =>
        if remaining.length ≤ rest.length then
          (lines? quote remaining).map fun (xs, rest) => (taken ++ xs, rest)
        else none
termination_by s.length

/-- Reads a string of several lines behind its three quotes. A line break right behind them is no
part of it. -/
def block? (quote : Char) (s : List Char) : Option (List Char × List Char) :=
  lines? quote ((lineBreak? s).getD s)

/-- Reads a string. -/
def string? : Reader (List Char)
  | '"' :: '"' :: '"' :: rest => block? '"' rest
  | '\'' :: '\'' :: '\'' :: rest => block? '\'' rest
  | '"' :: rest => quoted? rest
  | '\'' :: rest => literal? rest
  | _ => none

/-! ## Keys -/

/-- The characters of keys without quotes. -/
def isBare (c : Char) : Bool :=
  c.isAlphanum || c == '_' || c == '-'

/-- Reads a part of a key, with blanks around it. -/
def part? (s : List Char) : Option (String × List Char) := do
  let (name, rest) ← match skipBlanks s with
    | '"' :: rest => quoted? rest
    | '\'' :: rest => literal? rest
    | s => if (s.takeWhile isBare).isEmpty then none else some (s.span isBare)
  return (String.ofList name, skipBlanks rest)

/-- The number of parts that no key reaches, and the depth that no value reaches. -/
def limit : Nat :=
  80

/-- Reads a key: its parts, with dots between them. -/
def key? (s : List Char) : Option (Key × List Char) := do
  let (parts, rest) ← separated? '.' part? s
  let name ← parts.getLast?
  if parts.length < limit then some (⟨parts.dropLast, name⟩, rest) else none

end SchemaDiagram.Toml
