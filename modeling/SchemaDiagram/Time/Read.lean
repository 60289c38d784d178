import SchemaDiagram.Text.Scan
import SchemaDiagram.Time.Instant

/-!
# Reading instants

Moments are read from texts such as `2020-01-02T03:04:05.678+02:00`: a date, a letter T or a
space, a time with seconds, and the distance from universal time or a letter Z for none. Blanks
may precede every part, numbers need not be filled up with zeros, a year may have a sign and then
any number of digits, and the word `UTC` stands for a Z. Of a fraction nine digits count. The
second 60 is a leap second, in any minute.
-/

namespace SchemaDiagram.Instant

open Scan (skipBlanks)

/-- Reads a number of at most `width` digits. -/
def number? (width : Nat) (s : List Char) : Option (Nat × List Char) :=
  let ds := (s.take width).takeWhile Char.isDigit
  if ds.isEmpty then none else some (Nat.ofDigitChars 10 ds 0, s.drop ds.length)

/-- Reads a year: four digits at most, or a sign and any number of them. -/
def year? (s : List Char) : Option (Int × List Char) :=
  match s with
  | '-' :: rest => (number? rest.length rest).map fun (n, rest) => (-(n : Int), rest)
  | '+' :: rest => (number? rest.length rest).map fun (n, rest) => ((n : Int), rest)
  | s => (number? 4 s).map fun (n, rest) => ((n : Int), rest)

/-- Reads a number of at most two digits behind blanks. -/
def part? (s : List Char) : Option (Nat × List Char) :=
  number? 2 (skipBlanks s)

/-- Reads a separator behind blanks, and the part behind it. -/
def partAfter? (separator : Char) (s : List Char) : Option (Nat × List Char) := do
  part? (← Scan.char? separator (skipBlanks s))

/-- Reads a date. -/
def date? (s : List Char) : Option (Date × List Char) := do
  let (year, s) ← year? (skipBlanks s)
  let (month, s) ← partAfter? '-' s
  let (day, s) ← partAfter? '-' s
  let date : Date := ⟨year, month, day⟩
  if date.isValid then some (date, s) else none

/-- Reads a fraction of a second in nanoseconds, if there is one. -/
def fraction? : List Char → Option (Nat × List Char)
  | '.' :: s =>
    match s.takeWhile Char.isDigit with
    | [] => none
    | ds =>
      let kept := ds.take 9 ++ List.replicate (9 - ds.length) '0'
      some (Nat.ofDigitChars 10 kept 0, s.dropWhile Char.isDigit)
  | s => some (0, s)

/-- Reads a time of day: the seconds since midnight and the nanoseconds. -/
def time? (s : List Char) : Option ((Nat × Nat) × List Char) := do
  let (hour, s) ← part? s
  let (minute, s) ← partAfter? ':' s
  let (second, s) ← partAfter? ':' s
  let (nano, s) ← fraction? s
  if 23 < hour ∨ 59 < minute ∨ 60 < second then none
  else
    let start := 3600 * hour + 60 * minute
    if second = 60 then some ((start + 59, nanosPerSecond + nano), s)
    else some ((start + second, nano), s)

/-- Reads two digits. -/
def twoDigits? : List Char → Option (Nat × List Char)
  | a :: b :: rest =>
    if a.isDigit && b.isDigit then some (Nat.ofDigitChars 10 [a, b] 0, rest) else none
  | _ => none

/-- Reads the sign of an offset: whether it is a minus. -/
def sign? : List Char → Option (Bool × List Char)
  | [] => none
  | c :: rest =>
    if c = '+' then some (false, rest)
    else if c = '-' ∨ c = '−' then some (true, rest)
    else none

/-- Reads the distance from universal time in hours and minutes, as a number of seconds. -/
def distance? (s : List Char) : Option (Int × List Char) := do
  let (negative, s) ← sign? s
  let (hours, s) ← twoDigits? s
  let (minutes, s) ← twoDigits? (s.dropWhile fun c => c == ':' || Character.isBlank c)
  if 23 < hours ∨ 59 < minutes then none
  else
    let seconds : Int := (3600 * hours + 60 * minutes : Nat)
    some (if negative then -seconds else seconds, s)

/-- Reads the offset behind a time. -/
def offset? (s : List Char) : Option (Int × List Char) :=
  match Scan.letters? "UTC".toList s <|> Scan.letters? ['Z'] s with
  | some rest => some (0, rest)
  | none => distance? s

/-- Reads the character between a date and a time. -/
def separator? : List Char → Option (List Char)
  | [] => none
  | c :: rest => if c = 'T' ∨ c = 't' ∨ c = ' ' then some rest else none

/-- The moment that a text stands for. -/
def read? (text : String) : Option Instant := do
  let (date, s) ← date? text.toList
  let s ← separator? s
  let ((second, nano), s) ← time? s
  let (offset, s) ← offset? (skipBlanks s)
  let t := (⟨date.number, second, nano⟩ : Instant).minusSeconds offset
  if Date.isYear (Date.ofNumber t.day).year && (skipBlanks s).isEmpty then some t else none

end SchemaDiagram.Instant
