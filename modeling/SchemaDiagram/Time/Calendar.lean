/-!
# The calendar

Days of the Gregorian calendar, extended to all years, and their numbers: day zero is 1 January
1970. The calendar repeats every four hundred years, and it is simplest to count the years from
March on, so that a leap day is the last day of its year.
-/

namespace SchemaDiagram

/-- A day of the calendar. -/
structure Date where
  /-- The year. -/
  year : Int
  /-- The month, from one on. -/
  month : Nat
  /-- The day of the month, from one on. -/
  day : Nat
deriving DecidableEq, Repr

namespace Date

/-- Whether a year has a leap day. -/
def isLeapYear (year : Int) : Bool :=
  year % 4 = 0 && (year % 100 ≠ 0 || year % 400 = 0)

/-- The number of days of a month. -/
def monthLength (year : Int) (month : Nat) : Nat :=
  if month = 2 then (if isLeapYear year then 29 else 28)
  else if month ∈ [4, 6, 9, 11] then 30
  else 31

/-- The years that are told apart from all others; further ones are out of range. -/
def isYear (year : Int) : Bool :=
  -262143 ≤ year && year ≤ 262142

/-- Whether there is such a day. -/
def isValid (d : Date) : Bool :=
  isYear d.year && 1 ≤ d.month && d.month ≤ 12 && 1 ≤ d.day && d.day ≤ monthLength d.year d.month

/-- The number of days before 1 March of the year zero, counted from day zero. -/
def marchOfYearZero : Int :=
  -719468

/-- The number of days of a year before the given month, where months are counted from March on. -/
def daysBeforeMonth (month : Nat) : Nat :=
  (153 * month + 2) / 5

/-- The number of days of four hundred years before the given year of them. -/
def daysBeforeYear (year : Nat) : Nat :=
  365 * year + year / 4 - year / 100

/-- The number of a day. -/
def number (d : Date) : Int :=
  let year := if d.month ≤ 2 then d.year - 1 else d.year
  let month := (d.month + 9) % 12
  marchOfYearZero + 146097 * (year / 400) +
    (daysBeforeYear (year % 400).toNat + daysBeforeMonth month + d.day - 1 : Nat)

/-- The day of the given number. -/
def ofNumber (n : Int) : Date :=
  let shifted := n - marchOfYearZero
  let rest := (shifted % 146097).toNat
  let year := (rest - rest / 1460 + rest / 36524 - rest / 146096) / 365
  let dayOfYear := rest - daysBeforeYear year
  let month := (5 * dayOfYear + 2) / 153
  let fullYear := 400 * (shifted / 146097) + year
  { year := if 10 ≤ month then fullYear + 1 else fullYear
    month := (month + 2) % 12 + 1
    day := dayOfYear - daysBeforeMonth month + 1 }

end Date

end SchemaDiagram
