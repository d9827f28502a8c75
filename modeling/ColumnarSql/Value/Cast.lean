import ColumnarSql.Calendar.Reading
import ColumnarSql.Error
import ColumnarSql.Number.Integer

/-!
# Casts

A cast keeps NULL and values of the target type. Otherwise it converts between
numbers, reads and writes text, and moves between dates, datetimes and
timestamps; a value that has no image is an error.
-/

set_option autoImplicit false

namespace ColumnarSql.Value

/-- A double as an integer, a half rounded away from zero. -/
def integerOfFloat? (x : Float) : Option Value :=
  if Binary64.isFinite x then (Integer.ofInt? (Binary64.roundHalfAway x)).map .integer else none

/-- Reads a text without the blanks at its ends. -/
def readAs? (s : String) : ScalarType → Option Value
  | .boolean =>
    let word := Text.asciiLower (String.ofList (Text.trim s.toList))
    if word = "true" then some (.boolean true)
    else if word = "false" then some (.boolean false) else none
  | .integer => ((Reading.integer? (Text.trim s.toList)).bind Integer.ofInt?).map .integer
  | .float => (Reading.float? (Text.trim s.toList)).map .float
  | .string => some (.string s)
  | .bytes => some (.bytes (Utf8.encode s))
  | .date => (Calendar.date? s.toList).map .date
  | .datetime => (Calendar.datetime? s.toList).map .datetime
  | .timestamp => (Calendar.timestamp? s.toList).map .timestamp

/-- The image of a value that is not NULL and not of the target type. -/
def convert? : Value → ScalarType → Option Value
  | v, .string => some (.string v.render)
  | .string s, t => readAs? s t
  | .float x, .integer => integerOfFloat? x
  | .boolean b, .integer => some (.integer (if b then 1 else 0))
  | .integer i, .float => some (.float (floatOfInteger i))
  | .integer i, .boolean => some (.boolean (i != 0))
  | .datetime m, .date => some (.date m.date)
  | .timestamp m, .date => some (.date m.date)
  | .date d, .datetime => some (.datetime (.ofDate d))
  | .timestamp m, .datetime => some (.datetime m)
  | .date d, .timestamp => some (.timestamp (.ofDate d))
  | .datetime m, .timestamp => some (.timestamp m)
  | _, _ => none

/-- The value as a member of a scalar type. -/
def cast (v : Value) (target : ScalarType) : Except Error Value :=
  if v.isNull then .ok .null
  else if v.scalarType? = some target then .ok v
  else
    match v.convert? target with
    | some w => .ok w
    | none => .error (.badCast v target)

end ColumnarSql.Value
