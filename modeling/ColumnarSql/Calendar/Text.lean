import ColumnarSql.Calendar.Moment

/-!
# Text of dates and moments

Years `0` to `9999` have four digits; other years have a sign and at least
four. Fractions of a second are absent when zero, else 3, 6 or 9 digits.
-/

set_option autoImplicit false

namespace ColumnarSql

namespace Calendar

/-- A number in at least `width` digits. -/
def padded (width n : Nat) : String :=
  let ds := Nat.toDigits 10 n
  String.ofList (List.replicate (width - ds.length) '0' ++ ds)

def yearText (year : Int) : String :=
  if year < 0 then "-" ++ padded 4 year.natAbs
  else if 9999 < year then "+" ++ padded 4 year.natAbs
  else padded 4 year.natAbs

/-- The fraction of a second with its point; empty when it is zero. -/
def fractionText (nano : Nat) : String :=
  if nano = 0 then ""
  else if nano % 1000000 = 0 then "." ++ padded 3 (nano / 1000000)
  else if nano % 1000 = 0 then "." ++ padded 6 (nano / 1000)
  else "." ++ padded 9 nano

end Calendar

open Calendar

def Date.render (d : Date) : String :=
  yearText d.year ++ "-" ++ padded 2 d.month ++ "-" ++ padded 2 d.day

def Clock.render (c : Clock) : String :=
  padded 2 c.hour ++ ":" ++ padded 2 c.minute ++ ":" ++ padded 2 c.shownSecond ++
    fractionText c.shownNano

/-- Date and time with a mark between them. -/
def Moment.render (mark : String) (m : Moment) : String :=
  m.date.render ++ mark ++ m.clock.render

end ColumnarSql
