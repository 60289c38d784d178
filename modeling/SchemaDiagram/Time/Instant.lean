import SchemaDiagram.Decimal.Text
import SchemaDiagram.Time.Calendar

/-!
# Instants

An `Instant` is a moment in universal time, to the nanosecond. It is written as
`2020-01-02T03:04:05Z` with a fraction of a second in front of the `Z` as `Precision` asks for it.
A leap second counts as a part of the second before it, whose fraction is then at least one.
-/

namespace SchemaDiagram

/-- A moment in universal time. -/
structure Instant where
  /-- The number of the day. -/
  day : Int
  /-- The seconds since midnight. -/
  second : Nat
  /-- The nanoseconds since the beginning of that second. -/
  nano : Nat
deriving DecidableEq, Repr

/-- How a fraction of a second is written. -/
inductive Precision where
  /-- With as many groups of three digits as it needs. -/
  | asNeeded
  /-- With three digits. -/
  | millis
  /-- With nine digits. -/
  | nanos
deriving DecidableEq, Repr

namespace Instant

/-- A billion, the nanoseconds of a second. -/
def nanosPerSecond : Nat :=
  1000000000

/-- The seconds of a day. -/
def secondsPerDay : Nat :=
  86400

/-- The moment so many nanoseconds after the beginning of day zero. -/
def ofNanos (n : Int) : Instant :=
  let seconds := n / nanosPerSecond
  ⟨seconds / secondsPerDay, (seconds % secondsPerDay).toNat, (n % nanosPerSecond).toNat⟩

/-- The moment so many seconds earlier. -/
def minusSeconds (t : Instant) (seconds : Int) : Instant :=
  let moved := t.second - seconds
  { t with day := t.day + moved / secondsPerDay, second := (moved % secondsPerDay).toNat }

/-- The digits of a number with zeros in front, up to the given width. -/
def padded (width n : Nat) : List Char :=
  let ds := Decimal.digits n
  List.replicate (width - ds.length) '0' ++ ds

/-- A year. One that needs more than four digits or is negative has a sign. -/
def yearText (year : Int) : List Char :=
  if 0 ≤ year ∧ year ≤ 9999 then padded 4 year.toNat
  else (if year < 0 then '-' else '+') :: padded 4 year.natAbs

/-- A fraction of a second. -/
def fractionText (precision : Precision) (nano : Nat) : List Char :=
  match precision with
  | .millis => '.' :: padded 3 (nano / 1000000)
  | .nanos => '.' :: padded 9 nano
  | .asNeeded =>
    if nano = 0 then []
    else if nano % 1000000 = 0 then '.' :: padded 3 (nano / 1000000)
    else if nano % 1000 = 0 then '.' :: padded 6 (nano / 1000)
    else '.' :: padded 9 nano

/-- The text of a moment. -/
def print (precision : Precision) (t : Instant) : String :=
  let date := Date.ofNumber t.day
  let second := t.second % 60 + t.nano / nanosPerSecond
  String.ofList <|
    yearText date.year ++ '-' :: padded 2 date.month ++ '-' :: padded 2 date.day ++
    'T' :: padded 2 (t.second / 3600) ++ ':' :: padded 2 (t.second / 60 % 60) ++
    ':' :: padded 2 second ++ fractionText precision (t.nano % nanosPerSecond) ++ ['Z']

end Instant

end SchemaDiagram
