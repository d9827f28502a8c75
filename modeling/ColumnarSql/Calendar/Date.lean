/-!
# Dates

Dates of the proleptic Gregorian calendar, with a year `0` and negative years.
`dayNumber` counts days so that 1 January of year 1, a Monday, is day 1;
weekdays and weeks are read off it.
-/

set_option autoImplicit false

namespace ColumnarSql

namespace Calendar

def isLeapYear (year : Int) : Bool := year % 4 = 0 && (year % 100 ≠ 0 || year % 400 = 0)

/-- Days of a month, `1` to `12`; no other number has days. -/
def daysInMonth (year : Int) (month : Nat) : Nat :=
  match month with
  | 1 | 3 | 5 | 7 | 8 | 10 | 12 => 31
  | 4 | 6 | 9 | 11 => 30
  | 2 => if isLeapYear year then 29 else 28
  | _ => 0

/-- First year that has dates. -/
def minYear : Int := -262143

/-- Last year that has dates. -/
def maxYear : Int := 262142

/-- Whether a year, a month and a day name a date; a month without days names none. -/
def IsDate (year : Int) (month day : Nat) : Prop :=
  minYear ≤ year ∧ year ≤ maxYear ∧ 1 ≤ day ∧ day ≤ daysInMonth year month

instance (year : Int) (month day : Nat) : Decidable (IsDate year month day) := by
  unfold IsDate; infer_instance

end Calendar

/-- A calendar date. -/
structure Date where
  year : Int
  month : Nat
  day : Nat
  isDate : Calendar.IsDate year month day
deriving DecidableEq

namespace Date

open Calendar

/-- The date of a year, month and day, if they name one. -/
def ofParts? (year : Int) (month day : Nat) : Option Date :=
  if h : IsDate year month day then some ⟨year, month, day, h⟩ else none

/-- Increases with the date. -/
def orderKey (d : Date) : Int := (d.year * 12 + d.month) * 31 + d.day

/-- Days of the year before the date's month. -/
def daysBeforeMonth (year : Int) (month : Nat) : Nat :=
  (List.range month).foldl (fun n m => n + daysInMonth year m) 0

/-- Day of the year, from `1`. -/
def ordinal (d : Date) : Nat := daysBeforeMonth d.year d.month + d.day

/-- Days before 1 January of a year, counted from 1 January of year 1. -/
def daysBeforeYear (year : Int) : Int :=
  let y := year - 1
  365 * y + y / 4 - y / 100 + y / 400

/-- Number of the day; 1 January of year 1 is day `1`. -/
def dayNumber (d : Date) : Int := daysBeforeYear d.year + d.ordinal

/-- Days since the last Sunday: `0` on Sunday, `6` on Saturday. -/
def daysFromSunday (d : Date) : Nat := (d.dayNumber % 7).toNat

/-- Whole weeks begun on a Sunday, with the days before the first one in week `0`. -/
def weekOfYear (d : Date) : Nat := (d.ordinal + 6 - d.daysFromSunday) / 7

def quarter (d : Date) : Nat := (d.month - 1) / 3 + 1

/-- Number of ISO weeks of a year: 53 iff it has 53 Thursdays, that is, iff it
begins on a Thursday or is a leap year that begins on a Wednesday. -/
def isoWeeksInYear (year : Int) : Nat :=
  let first := (daysBeforeYear year + 1) % 7
  if first = 4 ∨ (first = 3 ∧ isLeapYear year) then 53 else 52

/-- ISO year and week: weeks begin on Monday and belong to the year of their Thursday. -/
def isoWeek (d : Date) : Int × Nat :=
  let monday := (d.daysFromSunday + 6) % 7
  let week := (d.ordinal + 9 - monday) / 7
  if week = 0 then (d.year - 1, isoWeeksInYear (d.year - 1))
  else if isoWeeksInYear d.year < week then (d.year + 1, 1)
  else (d.year, week)

/-- The next day; none after the last date. -/
def next? (d : Date) : Option Date :=
  if d.day < daysInMonth d.year d.month then ofParts? d.year d.month (d.day + 1)
  else if d.month < 12 then ofParts? d.year (d.month + 1) 1
  else ofParts? (d.year + 1) 1 1

/-- The day before; none before the first date. -/
def previous? (d : Date) : Option Date :=
  if 1 < d.day then ofParts? d.year d.month (d.day - 1)
  else if 1 < d.month then ofParts? d.year (d.month - 1) (daysInMonth d.year (d.month - 1))
  else ofParts? (d.year - 1) 12 31

end Date

end ColumnarSql
