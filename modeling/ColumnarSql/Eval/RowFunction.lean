import ColumnarSql.Eval.Operator
import ColumnarSql.Pattern.Regex.Parse
import ColumnarSql.Value.Cast

/-!
# Row functions

The functions that map rows. NULL in any argument makes NULL, except that the
current time needs no argument.
-/

set_option autoImplicit false

namespace ColumnarSql.SqlFunction

/-- The remainder has the sign of the dividend. -/
def modulo (a b : Value) : Except Error Value :=
  match a, b with
  | .integer x, .integer y =>
    if y = 0 then .error (.modByZero a b)
    else .ok (.integer (Int64.ofInt (x.toInt.tmod y.toInt)))
  | _, _ =>
    match a.float?, b.float? with
    | some x, some y =>
      if Binary64.isZero y then .error (.modByZero a b)
      else .ok (.float (Binary64.remainder x y))
    | _, _ => .error (.functionValue mod.name a)

/-- The value without its sign. -/
def absolute : Value → Except Error Value
  | .integer i =>
    match Integer.ofInt? i.toInt.natAbs with
    | some j => .ok (.integer j)
    | none => .error (.absOverflow i)
  | .float x => .ok (.float (Binary64.abs x))
  | v => .error (.functionValue abs.name v)

/-- Characters of a text, or bytes. -/
def lengthOf : Value → Except Error Value
  | .string s => .ok (.integer (Int64.ofNat s.length))
  | .bytes b => .ok (.integer (Int64.ofNat b.length))
  | v => .error (.functionValue length.name v)

/-- Whether a pattern occurs in a text. -/
def patternOccurs (text pattern : Value) : Except Error Value :=
  match text, pattern with
  | .string s, .string p =>
    match Regex.parse? p with
    | some r => .ok (.boolean (r.occursIn s))
    | none => .error (.badPattern p)
  | v, _ => .error (.functionValue regexpContains.name v)

def textOf (v : Value) : String := v.string?.getD ""

/-- A row function on arguments none of which is NULL. -/
def onPresent (f : SqlFunction) (type : ColumnType) (args : List Value) : Except Error Value :=
  match f, args with
  | mod, [a, b] => (modulo a b).map (·.widen type)
  | concat, vs => .ok (.string (Text.joined "" (vs.map textOf)))
  | timestamp, [v] => v.cast .timestamp
  | abs, [v] => absolute v
  | lower, [v] => .ok (.string (Text.lower (textOf v)))
  | upper, [v] => .ok (.string (Text.upper (textOf v)))
  | length, [v] => lengthOf v
  | regexpContains, [text, pattern] => patternOccurs text pattern
  | rowNumber, _ => .error .rowNumberWithoutOver
  | f, _ => .error (.notRowWise f.name)

/-- A row function on a row of arguments. -/
def onRow (f : SqlFunction) (now : Moment) (type : ColumnType) (args : List Value) :
    Except Error Value :=
  if f = currentTimestamp then .ok (.timestamp now)
  else if args.any Value.isNull then .ok .null
  else f.onPresent type args

end ColumnarSql.SqlFunction

namespace ColumnarSql.Evaluated

variable {σ : Type}

/-- A call of a row function on the results of its arguments. -/
def callRows (e : Expr σ) (f : SqlFunction) (now : Moment) (args : List Evaluated) :
    Except Error Evaluated := do
  let t ← f.resultType (args.map type)
  mapRows e t (f.onRow now t) args

end ColumnarSql.Evaluated
