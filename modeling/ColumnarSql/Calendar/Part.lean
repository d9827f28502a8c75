import ColumnarSql.Error
import ColumnarSql.Text.Blank

/-!
# Parts of a date

The parts EXTRACT knows by name, and the number each part of a date is. Names
are read without the blanks around them and without regard to ASCII case.
-/

set_option autoImplicit false

namespace ColumnarSql

inductive Weekday where
  | sunday
  | monday
  | tuesday
  | wednesday
  | thursday
  | friday
  | saturday
deriving DecidableEq

namespace Weekday

def name : Weekday → String
  | sunday => "SUNDAY"
  | monday => "MONDAY"
  | tuesday => "TUESDAY"
  | wednesday => "WEDNESDAY"
  | thursday => "THURSDAY"
  | friday => "FRIDAY"
  | saturday => "SATURDAY"

def all : List Weekday := [sunday, monday, tuesday, wednesday, thursday, friday, saturday]

end Weekday

inductive DatePart where
  | dayOfWeek
  | day
  | dayOfYear
  | week
  | weekStarting (first : Weekday)
  | isoWeek
  | month
  | quarter
  | year
  | isoYear
deriving DecidableEq

namespace DatePart

def name : DatePart → String
  | dayOfWeek => "DAYOFWEEK"
  | day => "DAY"
  | dayOfYear => "DAYOFYEAR"
  | week => "WEEK"
  | weekStarting d => "WEEK(" ++ d.name ++ ")"
  | isoWeek => "ISOWEEK"
  | month => "MONTH"
  | quarter => "QUARTER"
  | year => "YEAR"
  | isoYear => "ISOYEAR"

def all : List DatePart :=
  [dayOfWeek, day, dayOfYear, week, isoWeek, month, quarter, year, isoYear] ++
    Weekday.all.map weekStarting

/-- The part of a name. An error shows the name as it was looked up. -/
def parse (s : String) : Except Error DatePart :=
  let name := Text.asciiUpper (String.ofList (Text.trim s.toList))
  match all.find? fun p => p.name = name with
  | some p => .ok p
  | none => .error (.unknownDatePart name)

/-- The number a part of a date is. Sunday is day 1 of the week, and days before
the first Sunday of the year are in week 0. -/
def extract (d : Date) : DatePart → Int
  | dayOfWeek => d.daysFromSunday + 1
  | day => d.day
  | dayOfYear => d.ordinal
  | week | weekStarting _ => d.weekOfYear
  | isoWeek => d.isoWeek.2
  | month => d.month
  | quarter => d.quarter
  | year => d.year
  | isoYear => d.isoWeek.1

end DatePart

end ColumnarSql
