import ColumnarSql.Text.Utf8
import ColumnarSql.Value.Order

/-!
# Digests

The digest of a value is what a hash table reads of it: the rank of its kind,
then its content. A table finds a key only under an equal digest, so values that
are equal need equal digests: numbers of both kinds are read as doubles, with
one pattern for the two zeros and one for all NaNs.
-/

set_option autoImplicit false

namespace ColumnarSql

/-- A step of reading a value: a byte, a pattern of 64 bits, a length, a run of
bytes, or a number of the calendar. -/
inductive DigestPart where
  | octet (b : UInt8)
  | word (w : UInt64)
  | length (n : Nat)
  | bytes (bs : List UInt8)
  | number (n : Int)
deriving DecidableEq

namespace Value

/-- Pattern of a double, the same for equal doubles. -/
def digestBits (x : Float) : UInt64 :=
  if Binary64.isZero x then 0
  else if Binary64.isNaN x then 0x7ff8000000000000
  else x.toBits

/-- A date is read as the number of its day, a clock as its second and its nanosecond. -/
def digestMoment (m : Moment) : List DigestPart :=
  [.number m.date.dayNumber, .number m.clock.secondOfDay, .number m.clock.nano]

mutual

/-- What follows the rank of a value. -/
def digestContent : Value → List DigestPart
  | .null => []
  | .boolean b => [.octet b.toUInt8]
  | .integer i => [.word (digestBits (floatOfInteger i))]
  | .float x => [.word (digestBits x)]
  | .string s => [.bytes (Utf8.encode s), .octet 0xff]
  | .bytes bs => [.length bs.length, .bytes bs]
  | .date d => [.number d.dayNumber]
  | .datetime m => digestMoment m
  | .timestamp m => digestMoment m
  | .array vs => .length vs.length :: digestAll vs
  | .struct vs => .length vs.length :: digestAll vs

/-- The digests of some values, one after the other. -/
def digestAll : List Value → List DigestPart
  | [] => []
  | v :: vs => .octet v.rank.toUInt8 :: (digestContent v ++ digestAll vs)

end

def digest (v : Value) : List DigestPart := .octet v.rank.toUInt8 :: v.digestContent

/-- The digest of a key of several values. -/
def digestKey (key : List Value) : List DigestPart := .length key.length :: digestAll key

end Value

end ColumnarSql
