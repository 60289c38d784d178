import SchemaDiagram.Decimal.Nearest
import SchemaDiagram.Time.Calendar
import SchemaDiagram.Toml.Text

/-!
# Numbers, dates and words of TOML

The values of TOML that are neither strings nor made up of others. Underscores may stand between
the digits of a number. Of a date or time only its form is checked, and that there is such a day;
nothing here needs to know which one it is.
-/

namespace SchemaDiagram.Toml

/-! ## Numbers -/

/-- The longest run of digits with single underscores between them. -/
def digitRun (isDigit : Char → Bool) : List Char → List Char × List Char
  | '_' :: c :: rest =>
    if isDigit c then
      let (ds, rest) := digitRun isDigit rest
      (c :: ds, rest)
    else ([], '_' :: c :: rest)
  | c :: rest =>
    if isDigit c then
      let (ds, rest) := digitRun isDigit rest
      (c :: ds, rest)
    else ([], c :: rest)
  | [] => ([], [])

/-- Reads digits, the first of which must come at once. -/
def digits? (isDigit : Char → Bool) (s : List Char) : Option (List Char × List Char) :=
  if s.head?.any isDigit then some (digitRun isDigit s) else none

/-- Reads a sign, if there is one: whether it is a minus. -/
def sign : List Char → Bool × List Char
  | '-' :: rest => (true, rest)
  | '+' :: rest => (false, rest)
  | s => (false, s)

/-- Reads the digits of a decimal number. One that begins with a zero has no other digit. -/
def whole? : Reader (List Char)
  | '0' :: rest => some (['0'], rest)
  | s => digits? Char.isDigit s

/-- The number that digits stand for in the given base. -/
def valueOf (base : Nat) (ds : List Char) : Nat :=
  ds.foldl (fun n d => base * n + (Hex.value? d).getD 0) 0

/-- The integer of the given sign and magnitude, if it fits into sixty-four bits. -/
def fitting? (negative : Bool) (magnitude : Nat) : Option Item :=
  if magnitude ≤ 0x7FFFFFFFFFFFFFFF ∨ (negative ∧ magnitude = 0x8000000000000000) then
    some (.integer (if negative then -(magnitude : Int) else magnitude))
  else none

/-- Reads the digits of an integer behind the two characters that announce its base. -/
def based? (base : Nat) (s : List Char) : Option (Item × List Char) := do
  let (ds, rest) ← digits? (fun c => (Hex.value? c).any (· < base)) s
  return (← fitting? false (valueOf base ds), rest)

/-- Reads an integer. -/
def integer? : Reader Item
  | '0' :: 'x' :: rest => based? 16 rest
  | '0' :: 'o' :: rest => based? 8 rest
  | '0' :: 'b' :: rest => based? 2 rest
  | s => do
    let (negative, s) := sign s
    let (ds, rest) ← whole? s
    return (← fitting? negative (valueOf 10 ds), rest)

/-- Reads the point and the digits behind it. -/
def fraction? : Reader (List Char)
  | '.' :: rest => digits? Char.isDigit rest
  | _ => none

/-- Reads an exponent. -/
def exponent? : Reader Int
  | c :: rest =>
    if c = 'e' ∨ c = 'E' then do
      let (negative, s) := sign rest
      let (ds, rest) ← digits? Char.isDigit s
      let n : Int := valueOf 10 ds
      return (if negative then -n else n, rest)
    else none
  | [] => none

/-- A number of the given sign. One that is too large is refused, and one that is too small in the
negative direction is infinite. -/
def signed? (negative : Bool) (magnitude : Float) : Option Item :=
  if negative then some (.float (-magnitude))
  else if magnitude.isInf then none
  else some (.float magnitude)

/-- Reads a number with a fraction, an exponent or both. -/
def decimal? (s : List Char) : Option (Item × List Char) := do
  let (negative, s) := sign s
  let (ds, s) ← whole? s
  let (fs, exponent, rest) ← match fraction? s with
    | some (fs, rest) => match exponent? rest with
      | some (n, rest) => some (fs, n, rest)
      | none => some (fs, 0, rest)
    | none => (exponent? s).map fun (n, rest) => ([], n, rest)
  let magnitude : Decimal := ⟨valueOf 10 (ds ++ fs), exponent - fs.length⟩
  return (← signed? negative magnitude.toFloat, rest)

/-- Reads one of the words for numbers that are not finite. -/
def special? (s : List Char) : Option (Item × List Char) :=
  let (negative, s) := sign s
  let x : Float := 1 / 0
  match List.isPrefixOf? "inf".toList s, List.isPrefixOf? "nan".toList s with
  | some rest, _ => some (.float (if negative then -x else x), rest)
  | none, some rest => some (.float (x - x), rest)
  | none, none => none

/-! ## Dates and times -/

/-- Reads exactly so many digits as a number. -/
def number? (count : Nat) (s : List Char) : Option (Nat × List Char) :=
  let ds := s.take count
  if ds.length = count ∧ ds.all Char.isDigit then some (valueOf 10 ds, s.drop count) else none

/-- What remains behind a number of two digits, if it is at most `most`. -/
def upTo? (most : Nat) (s : List Char) : Option (List Char) :=
  (number? 2 s).bind fun (n, rest) => if n ≤ most then some rest else none

/-- What remains behind a date. -/
def day? (s : List Char) : Option (List Char) := do
  let (year, s) ← number? 4 s
  let (month, s) ← number? 2 (← Scan.char? '-' s)
  let (day, s) ← number? 2 (← Scan.char? '-' s)
  if (⟨year, month, day⟩ : Date).isValid then some s else none

/-- What remains behind a time of day. -/
def time? (s : List Char) : Option (List Char) := do
  let s ← upTo? 23 s
  let s ← upTo? 59 (← Scan.char? ':' s)
  let s ← upTo? 60 (← Scan.char? ':' s)
  match s with
  | '.' :: rest =>
    return if rest.head?.any Char.isDigit then rest.dropWhile Char.isDigit else s
  | s => return s

/-- What remains behind the distance from universal time. -/
def offset? : List Char → Option (List Char)
  | [] => none
  | c :: rest =>
    if c = 'Z' ∨ c = 'z' then some rest
    else if c = '+' ∨ c = '-' then do upTo? 59 (← Scan.char? ':' (← upTo? 23 rest))
    else none

/-- What remains behind a time that follows a date, with an offset or without. -/
def timeOfDay? : List Char → Option (List Char)
  | [] => none
  | c :: rest =>
    if c = 'T' ∨ c = 't' ∨ c = ' ' then do
      let rest ← time? rest
      return (offset? rest).getD rest
    else none

/-- Reads a date, a time or both. -/
def date? (s : List Char) : Option (Item × List Char) :=
  match day? s with
  | some rest => some (.date, (timeOfDay? rest).getD rest)
  | none => (time? s).map fun rest => (.date, rest)

/-! ## Scalars -/

/-- Reads a truth value. -/
def boolean? (s : List Char) : Option (Item × List Char) :=
  match List.isPrefixOf? "true".toList s, List.isPrefixOf? "false".toList s with
  | some rest, _ => some (.boolean true, rest)
  | none, some rest => some (.boolean false, rest)
  | none, none => none

/-- Reads a value that is not made up of others. -/
def scalar? (s : List Char) : Option (Item × List Char) :=
  ((string? s).map fun (value, rest) => (.string (String.ofList value), rest)) <|>
    boolean? s <|> date? s <|> decimal? s <|> special? s <|> integer? s

end SchemaDiagram.Toml
