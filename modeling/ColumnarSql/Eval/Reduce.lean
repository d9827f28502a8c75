import ColumnarSql.Evaluated
import ColumnarSql.Number.Integer

/-!
# Reducing functions

The functions that make one value of a group. NULLs are skipped, except by
`ARRAY_AGG`; SUM, MIN, MAX and AVG of nothing are NULL, and COUNT is zero.
-/

set_option autoImplicit false

namespace ColumnarSql

namespace Reduce

/-- The values that are not NULL. -/
def present (vs : List Value) : List Value := vs.filter fun v => !v.isNull

/-- A running total that stays in the range of integers at every step. -/
def sumIntegers (total : Int64) : List Value → Except Error Int64
  | [] => .ok total
  | v :: vs =>
    match Integer.ofInt? (total.toInt + (v.integer?.getD 0).toInt) with
    | some t => sumIntegers t vs
    | none => .error (.sumOverflow total)

/-- Left to right from negative zero, the neutral element of addition. -/
def sumFloats (vs : List Value) : Float := (vs.filterMap Value.float?).foldl (· + ·) (-0.0)

def sum (type : ColumnType) (vs : List Value) : Except Error Value :=
  match present vs with
  | [] => .ok .null
  | vs =>
    if type = some .integer then (sumIntegers 0 vs).map .integer
    else .ok (.float (sumFloats vs))

/-- The sum of the numbers, from zero, by how many there are. -/
def average (vs : List Value) : Value :=
  match vs.filterMap Value.float? with
  | [] => .null
  | xs => .float (xs.foldl (· + ·) 0.0 / Binary64.ofInt xs.length)

/-- The smaller value, the first one if they are equal. -/
def smaller (a b : Value) : Value := if (a.compare b).isGT then b else a

/-- The greater value, the second one if they are equal. -/
def greater (a b : Value) : Value := if (a.compare b).isGT then a else b

/-- The values folded from the first one; NULL if there is none. -/
def fold (pick : Value → Value → Value) : List Value → Value
  | [] => .null
  | v :: vs => vs.foldl pick v

def collect (o : ArrayAggOptions) (element : ColumnType) (vs : List Value) : Value :=
  let vs := if o.ignoreNulls then present vs else vs
  let vs := if o.distinct then Value.distinct vs else vs
  .array (vs.map (·.widen element))

/-- Element type of an array type. -/
def elementOf : ColumnType → ColumnType
  | some (.array t) => some t
  | _ => none

end Reduce

namespace SqlFunction

open Reduce

/-- Fails for words inside a call that have no evaluation. -/
def checkOptions : SqlFunction → Except Error Unit
  | arrayAgg o =>
    if o.ordered then .error .arrayAggOrder
    else if o.limited then .error .arrayAggLimit else .ok ()
  | _ => .ok ()

/-- The value a function makes of a group, of the given type. -/
def reduce (f : SqlFunction) (type : ColumnType) (vs : List Value) : Except Error Value :=
  match f with
  | count false => .ok (.integer (Int64.ofNat (present vs).length))
  | count true => .ok (.integer (Int64.ofNat (Value.distinct (present vs)).length))
  | sum => Reduce.sum type vs
  | avg => .ok (average vs)
  | min => .ok ((fold smaller (present vs)).widen type)
  | max => .ok ((fold greater (present vs)).widen type)
  | arrayAgg o => .ok (collect o (elementOf type) vs)
  | f => .error (.notAggregating f.name)

end SqlFunction

namespace Evaluated

/-- The groups of values a reducing call sees, given the result of its argument
and the frame it is evaluated in. -/
def groupsOf (f : Frame) : Evaluated → List (List Value)
  | grouped _ c groups => groups.map fun g => g.map c.cell
  | constant v _ =>
    match f.groups with
    | some groups => groups.map fun g => List.replicate g.length v
    | none => [List.replicate f.numRows v]
  | column c => [c.values]

/-- A reducing call on the result of its argument: one value for each group. -/
def reduce (f : SqlFunction) (frame : Frame) (arg : Evaluated) : Except Error Evaluated := do
  let t ← f.resultType [arg.type]
  return column ⟨← (groupsOf frame arg).mapM (f.reduce t), t⟩

end Evaluated

end ColumnarSql
