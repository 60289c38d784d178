import SchemaDiagram.Decimal.Text

/-!
# JSON values and how they are written

`Json` is a JSON value whose objects keep the order of their members. A value is written in one of
two layouts: `compact` has no blanks at all, and `pretty` puts each item on a line of its own,
indented by two spaces for every level. Both are instances of one function, `write`.
-/

namespace SchemaDiagram

/-- A JSON value. A number is kept as it is written. -/
inductive Json where
  | null
  | bool (value : Bool)
  | number (literal : List Char)
  | string (value : String)
  | array (items : List Json)
  | object (members : List (String × Json))

namespace Json

/-- A number, or `null` if it is not finite. -/
def ofFloat (x : Float) : Json :=
  match Decimal.ofFloat? x with
  | some literal => number literal
  | none => null

/-- A natural number. -/
def ofNat (n : Nat) : Json :=
  number (Decimal.digits n)

/-- A member, if there is a value for it. -/
def optionalMember {α : Type} (key : String) (toJson : α → Json) (value : Option α) :
    List (String × Json) :=
  value.toList.map fun v => (key, toJson v)

/-! ## Strings -/

/-- The hexadecimal digit of a number below sixteen, in lower case. -/
def hexDigit (n : Nat) : Char :=
  Nat.digitChar n

/-- A character as it stands inside quotes. Quotes, backslashes and control characters are escaped,
the usual five control characters by a letter and the others by their code. -/
def escape (c : Char) : List Char :=
  if c = '"' then ['\\', '"']
  else if c = '\\' then ['\\', '\\']
  else if c = '\x08' then ['\\', 'b']
  else if c = '\t' then ['\\', 't']
  else if c = '\n' then ['\\', 'n']
  else if c = '\x0c' then ['\\', 'f']
  else if c = '\r' then ['\\', 'r']
  else if c.toNat < 0x20 then
    ['\\', 'u', '0', '0', hexDigit (c.toNat / 16), hexDigit (c.toNat % 16)]
  else [c]

/-- A string in quotes. -/
def quote (s : List Char) : List Char :=
  '"' :: s.flatMap escape ++ ['"']

/-! ## Layouts -/

/-- Where blanks go. -/
structure Layout where
  /-- What comes before each item of an array or object, and before its closing bracket, at the
  given depth. -/
  newLine : Nat → List Char
  /-- What comes between the colon and the value of a member. -/
  afterColon : List Char

/-- No blanks. -/
def Layout.compact : Layout :=
  ⟨fun _ => [], []⟩

/-- One item a line, indented by two spaces for every level. -/
def Layout.pretty : Layout :=
  ⟨fun depth => '\n' :: List.replicate (2 * depth) ' ', [' ']⟩

mutual

/-- A value as it is written at the given depth. -/
def write (layout : Layout) (depth : Nat) : Json → List Char
  | null => "null".toList
  | bool true => "true".toList
  | bool false => "false".toList
  | number literal => literal
  | string value => quote value.toList
  | array [] => ['[', ']']
  | array (item :: items) =>
    '[' :: layout.newLine (depth + 1) ++ write layout (depth + 1) item ++
      writeItems layout (depth + 1) items ++ layout.newLine depth ++ [']']
  | object [] => ['{', '}']
  | object (member :: members) =>
    '{' :: layout.newLine (depth + 1) ++ writeMember layout (depth + 1) member ++
      writeMembers layout (depth + 1) members ++ layout.newLine depth ++ ['}']

/-- The items of an array behind the first, each behind a comma. -/
def writeItems (layout : Layout) (depth : Nat) : List Json → List Char
  | [] => []
  | item :: items =>
    ',' :: layout.newLine depth ++ write layout depth item ++ writeItems layout depth items

/-- A member of an object. -/
def writeMember (layout : Layout) (depth : Nat) : String × Json → List Char
  | (key, value) => quote key.toList ++ ':' :: layout.afterColon ++ write layout depth value

/-- The members of an object behind the first, each behind a comma. -/
def writeMembers (layout : Layout) (depth : Nat) : List (String × Json) → List Char
  | [] => []
  | member :: members =>
    ',' :: layout.newLine depth ++ writeMember layout depth member ++
      writeMembers layout depth members

end

/-- The text of a value without blanks. -/
def compact (value : Json) : String :=
  String.ofList (write .compact 0 value)

/-- The text of a value with an item a line. -/
def pretty (value : Json) : String :=
  String.ofList (write .pretty 0 value)

end Json

end SchemaDiagram
