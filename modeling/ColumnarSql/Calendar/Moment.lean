import ColumnarSql.Calendar.Date

/-!
# Times of day and moments

A clock with a thousand million nanoseconds or more stands in the leap second that follows its
second. A moment is a date with a time of day; read as UTC it is a point in time.
-/

set_option autoImplicit false

namespace ColumnarSql

namespace Calendar

/-- Nanoseconds of a second. -/
def nanosPerSecond : Nat := 1000000000

/-- Whether the numbers name a time of day; a leap second may follow any second. -/
def IsClock (hour minute second nano : Nat) : Prop :=
  hour < 24 ∧ minute < 60 ∧ second < 60 ∧ nano < 2 * nanosPerSecond

instance (hour minute second nano : Nat) : Decidable (IsClock hour minute second nano) := by
  unfold IsClock; infer_instance

end Calendar

/-- A time of day. -/
structure Clock where
  hour : Nat
  minute : Nat
  second : Nat
  nano : Nat
  isClock : Calendar.IsClock hour minute second nano
deriving DecidableEq

namespace Clock

/-- In a leap second that does not end a minute. -/
def LeapsEarly (c : Clock) : Prop := Calendar.nanosPerSecond ≤ c.nano ∧ c.second ≠ 59

instance (c : Clock) : Decidable c.LeapsEarly := by
  unfold LeapsEarly; infer_instance

/-- A clock by its numbers, which name a leap second at the end of a minute only. -/
def ofParts? (hour minute second nano : Nat) : Option Clock :=
  if h : Calendar.IsClock hour minute second nano then
    let c : Clock := ⟨hour, minute, second, nano, h⟩
    if c.LeapsEarly then none else some c
  else none

def midnight : Clock := ⟨0, 0, 0, 0, by decide⟩

def secondOfDay (c : Clock) : Nat := (c.hour * 60 + c.minute) * 60 + c.second

/-- Whole seconds as written: a leap second is the next one, at the end of a minute second 60. -/
def shownSecond (c : Clock) : Nat := c.second + c.nano / Calendar.nanosPerSecond

/-- Nanoseconds as written after the second. -/
def shownNano (c : Clock) : Nat := c.nano % Calendar.nanosPerSecond

end Clock

/-- A date and a time of day. -/
structure Moment where
  date : Date
  clock : Clock
deriving DecidableEq

namespace Moment

def ofDate (d : Date) : Moment := ⟨d, .midnight⟩

/-- Increases with the moment; a leap second comes before the next second. -/
def orderKey (m : Moment) : Int :=
  (m.date.orderKey * 86400 + m.clock.secondOfDay) * (2 * Calendar.nanosPerSecond : Nat) +
    m.clock.nano

/-- The moment some minutes earlier, by less than a day; the second is kept. -/
def minusMinutes? (m : Moment) (minutes : Int) : Option Moment := do
  let t : Int := (m.clock.hour * 60 + m.clock.minute : Nat) - minutes
  let date ←
    if t < 0 then m.date.previous? else if 1440 ≤ t then m.date.next? else some m.date
  let u := (t % 1440).toNat
  have hclock : Calendar.IsClock (u / 60) (u % 60) m.clock.second m.clock.nano := by
    obtain ⟨-, -, hsecond, hnano⟩ := m.clock.isClock
    exact ⟨by omega, by omega, hsecond, hnano⟩
  return ⟨date, ⟨u / 60, u % 60, m.clock.second, m.clock.nano, hclock⟩⟩

end Moment

end ColumnarSql
