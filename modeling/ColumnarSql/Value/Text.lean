import ColumnarSql.Calendar.Text
import ColumnarSql.Number.Layout
import ColumnarSql.Text.Quoted
import ColumnarSql.Text.Utf8
import ColumnarSql.Value.Basic

/-!
# Text of values

`render` is the text a cast to STRING gives. `describe` is the form used in
messages: it names the kind of every value and quotes strings.
-/

set_option autoImplicit false

namespace ColumnarSql.Value

/-- Text of a timestamp, which is in UTC. -/
def renderTimestamp (m : Moment) : String := m.render " " ++ "+00"

mutual

def render : Value → String
  | .null => "NULL"
  | .boolean b => if b then "true" else "false"
  | .integer i => toString i.toInt
  | .float x => Layout.plain.render x
  | .string s => s
  | .bytes b => Utf8.decodeLossy b
  | .date d => d.render
  | .datetime m => m.render " "
  | .timestamp m => renderTimestamp m
  | .array vs => "[" ++ Text.joined ", " (renderAll vs) ++ "]"
  | .struct vs => "(" ++ Text.joined ", " (renderAll vs) ++ ")"

def renderAll : List Value → List String
  | [] => []
  | v :: vs => v.render :: renderAll vs

end

mutual

def describe : Value → String
  | .null => "Null"
  | .boolean b => "Boolean(" ++ (if b then "true" else "false") ++ ")"
  | .integer i => "Integer(" ++ toString i.toInt ++ ")"
  | .float x => "Float(" ++ Layout.detailed.render x ++ ")"
  | .string s => "String(" ++ Text.quoted s ++ ")"
  | .bytes b => "Bytes([" ++ Text.joined ", " (b.map fun n => toString n.toNat) ++ "])"
  | .date d => "Date(" ++ d.render ++ ")"
  | .datetime m => "Datetime(" ++ m.render "T" ++ ")"
  | .timestamp m => "Timestamp(" ++ m.render "T" ++ "Z)"
  | .array vs => "Array([" ++ Text.joined ", " (describeAll vs) ++ "])"
  | .struct vs => "Struct([" ++ Text.joined ", " (describeAll vs) ++ "])"

def describeAll : List Value → List String
  | [] => []
  | v :: vs => v.describe :: describeAll vs

end

end ColumnarSql.Value
