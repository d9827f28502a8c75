import ColumnarSql.Calendar.Moment
import ColumnarSql.Number.Reading
import ColumnarSql.Text.Blank

/-!
# Dates and moments read from text

The free form is `year-month-day` and, after blanks or a `T`, `hour:minute:second`
with an optional fraction. Blanks may stand before every number; an unsigned year
has at most four digits, the other numbers at most two. The strict form has fixed
widths and ends in `Z` or an offset from UTC. Second 60 is a leap second.
-/

set_option autoImplicit false

namespace ColumnarSql.Calendar

open Text

/-- Reads off the front of a text. -/
abbrev Reader (α : Type) := List Char → Option (α × List Char)

/-- At least `least` and at most `most` digits. -/
def number (least most : Nat) : Reader Nat := fun s =>
  let ds := (s.take most).takeWhile Char.isDigit
  if ds.length < least ∨ ds = [] then none
  else some (Reading.natOfDigits ds, s.drop ds.length)

/-- One given character. -/
def mark (c : Char) : List Char → Option (List Char)
  | [] => none
  | d :: r => if d = c then some r else none

/-- A number of one or two digits after blanks. -/
def field : Reader Nat := fun s => number 1 2 (trimLeft s)

/-- A year after blanks; with a sign it may have any number of digits. -/
def year : Reader Int := fun s =>
  match trimLeft s with
  | '-' :: r => (number 1 r.length r).map fun (n, r) => (-(n : Int), r)
  | '+' :: r => (number 1 r.length r).map fun (n, r) => ((n : Int), r)
  | r => (number 1 4 r).map fun (n, r) => ((n : Int), r)

/-- Nanoseconds of an optional fraction; digits after the ninth are dropped. -/
def fraction : Reader Nat := fun s =>
  match s with
  | '.' :: r =>
    (number 1 9 r).map fun (n, rest) =>
      (n * Nat.pow 10 (9 - (r.length - rest.length)), rest.dropWhile Char.isDigit)
  | r => some (0, r)

/-- A clock from written seconds, where second 60 is the leap second. -/
def clockOf? (hour minute second nano : Nat) : Option Clock :=
  if second = 60 then Clock.ofParts? hour minute 59 (nano + nanosPerSecond)
  else Clock.ofParts? hour minute second nano

/-- `year-month-day` in the free form. -/
def freeDate : Reader Date := fun s => do
  let (y, s) ← year s
  let s ← mark '-' s
  let (m, s) ← field s
  let s ← mark '-' s
  let (d, s) ← field s
  let date ← Date.ofParts? y m d
  return (date, s)

/-- `hour:minute:second` in the free form. -/
def freeClock : Reader Clock := fun s => do
  let (h, s) ← field s
  let s ← mark ':' s
  let (m, s) ← field s
  let s ← mark ':' s
  let (sec, s) ← field s
  let (nano, s) ← fraction s
  let clock ← clockOf? h m sec nano
  return (clock, s)

/-- What a reader gives for a whole text. -/
def whole {α : Type} (r : Reader α) (s : List Char) : Option α :=
  match r s with
  | some (a, []) => some a
  | _ => none

/-- A date with blanks around it. -/
def date? (s : List Char) : Option Date := whole freeDate (trim s)

/-- A date, something between, and a time of day. -/
def freeMoment (between : List Char → Option (List Char)) : Reader Moment := fun s => do
  let (date, s) ← freeDate s
  let s ← between s
  let (clock, s) ← freeClock s
  return (⟨date, clock⟩, s)

/-- A moment with blanks around it; a date alone is its midnight. -/
def datetime? (s : List Char) : Option Moment :=
  let s := trim s
  (whole (freeMoment fun r => some (trimLeft r)) s).or
    ((whole (freeMoment (mark 'T')) s).or ((date? s).map Moment.ofDate))

/-- An offset from UTC in minutes: `Z`, or a sign with `hour:minute`. -/
def offset : Reader Int := fun s =>
  let digits (negative : Bool) (r : List Char) : Option (Int × List Char) := do
    let (h, r) ← number 2 2 r
    let r ← mark ':' r
    let (m, r) ← number 2 2 r
    let n : Int := (h * 60 + m : Nat)
    if 60 ≤ m ∨ 24 ≤ h then none else some (if negative then -n else n, r)
  match s with
  | 'Z' :: r | 'z' :: r => some (0, r)
  | '+' :: r => digits false r
  | '-' :: r | '−' :: r => digits true r
  | _ => none

/-- The strict form with its offset. -/
def strictMoment : Reader Moment := fun s => do
  let (y, s) ← number 4 4 s
  let s ← mark '-' s
  let (m, s) ← number 2 2 s
  let s ← mark '-' s
  let (d, s) ← number 2 2 s
  let s ← (mark 'T' s).or ((mark 't' s).or (mark ' ' s))
  let (h, s) ← number 2 2 s
  let s ← mark ':' s
  let (min, s) ← number 2 2 s
  let s ← mark ':' s
  let (sec, s) ← number 2 2 s
  let (nano, s) ← fraction s
  let (minutes, s) ← offset s
  let date ← Date.ofParts? y m d
  let clock ← clockOf? h min sec nano
  let moment ← Moment.minusMinutes? ⟨date, clock⟩ minutes
  return (moment, s)

/-- A point in time: the strict form, or the free form taken as UTC with an
optional ` UTC` or `+00` after it. -/
def timestamp? (s : List Char) : Option Moment :=
  let s := trim s
  (whole strictMoment s).or
    (datetime? (((dropEnding? s " UTC".toList).or (dropEnding? s "+00".toList)).getD s))

end ColumnarSql.Calendar
