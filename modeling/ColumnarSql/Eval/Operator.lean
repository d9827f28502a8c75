import ColumnarSql.Evaluated
import ColumnarSql.Number.Integer
import ColumnarSql.Pattern.Like

/-!
# Operators

What the operators do to values and to results. Arithmetic on integers is exact
or fails; a comparison with NULL is NULL; AND and OR have three truth values.
-/

set_option autoImplicit false

namespace ColumnarSql

namespace BinaryOp

def isArithmetic : BinaryOp → Bool
  | add | sub | mul | div => true
  | _ => false

def isComparison : BinaryOp → Bool
  | eq | ne | lt | le | gt | ge => true
  | _ => false

/-! ## On values -/

/-- Exact arithmetic of integers; other operators have no result here. -/
def onIntegers? (op : BinaryOp) (x y : Int) : Option Int64 :=
  match op with
  | add => Integer.ofInt? (x + y)
  | sub => Integer.ofInt? (x - y)
  | mul => Integer.ofInt? (x * y)
  | _ => none

def onFloats (op : BinaryOp) (x y : Float) : Float :=
  match op with
  | add => x + y
  | sub => x - y
  | mul => x * y
  | _ => x / y

/-- Arithmetic with a double on one side at least. -/
def floatArithmetic (op : BinaryOp) (x y : Float) : Except Error Value :=
  if op = div && Binary64.isZero y then .error (.divisionByZero (.float x) (.float y))
  else .ok (.float (op.onFloats x y))

/-- NULL makes NULL. The quotient of integers is a double. -/
def arithmetic (op : BinaryOp) : Value → Value → Except Error Value
  | .null, _ | _, .null => .ok .null
  | .integer x, .integer y =>
    if op = div then
      if y = 0 then .error (.divisionByZero (.integer x) (.integer y))
      else .ok (.float (Value.floatOfInteger x / Value.floatOfInteger y))
    else
      match op.onIntegers? x.toInt y.toInt with
      | some i => .ok (.integer i)
      | none => .error (.integerOverflow op.symbol x y)
  | a, b =>
    match a.float?, b.float? with
    | some x, some y => op.floatArithmetic x y
    | _, _ => .error (.operandValues op.symbol a b)

/-- Whether the order of two values satisfies a comparison. -/
def holds (op : BinaryOp) (c : Ordering) : Bool :=
  match op with
  | eq => c.isEq
  | ne => c.isNe
  | lt => c.isLT
  | le => c.isLE
  | gt => c.isGT
  | _ => c.isGE

def comparison (op : BinaryOp) (a b : Value) : Value :=
  if a.isNull || b.isNull then .null else .boolean (op.holds (a.compare b))

/-- A false side decides AND, a true side decides OR. -/
def logic (op : BinaryOp) (a b : Value) : Value :=
  let decisive : Bool := op = or
  match a.boolean?, b.boolean? with
  | some x, some y => .boolean (if op = and then x && y else x || y)
  | some x, none | none, some x => if x = decisive then .boolean x else .null
  | none, none => .null

def matching (op : BinaryOp) (a b : Value) : Value :=
  match a.string?, b.string? with
  | some text, some pattern => .boolean (Like.isMatch pattern text != (op = notLike))
  | _, _ => .null

def concatenation (a b : Value) : Value :=
  match a.string?, b.string? with
  | some x, some y => .string (x ++ y)
  | _, _ => .null

/-- The value of an operator on two values. -/
def apply (op : BinaryOp) (a b : Value) : Except Error Value :=
  match op with
  | add | sub | mul | div => op.arithmetic a b
  | eq | ne | lt | le | gt | ge => .ok (op.comparison a b)
  | and | or => .ok (op.logic a b)
  | like | notLike => .ok (op.matching a b)
  | concat => .ok (concatenation a b)

/-! ## On types -/

/-- What the operands must be; comparisons accept all types that coerce. -/
def operandClass? : BinaryOp → Option OperandClass
  | add | sub | mul | div => some .numeric
  | and | or => some .boolean
  | like | notLike | concat => some .string
  | _ => none

/-- Type of the result once the operands are accepted. -/
def typeOfAccepted (op : BinaryOp) (l r : ColumnType) : Except Error ColumnType :=
  match op with
  | add | sub | mul => l.coerce r
  | div => .ok (some .float)
  | concat => .ok (some .string)
  | eq | ne | lt | le | gt | ge => (l.coerce r).map fun _ => some .boolean
  | and | or | like | notLike => .ok (some .boolean)

/-- Type of the result for operand types. -/
def resultType (op : BinaryOp) (l r : ColumnType) : Except Error ColumnType :=
  match op.operandClass? with
  | some c =>
    if c.admits l && c.admits r then op.typeOfAccepted l r
    else .error (.operandTypes op.symbol c l r)
  | none => op.typeOfAccepted l r

end BinaryOp

/-- A function of one value as a function of a row. -/
def onOne (f : Value → Except Error Value) : List Value → Except Error Value
  | [a] => f a
  | _ => .ok .null

/-- A function of two values as a function of a row. -/
def onTwo (f : Value → Value → Except Error Value) : List Value → Except Error Value
  | [a, b] => f a b
  | _ => .ok .null

namespace Evaluated

variable {σ : Type}

/-- The operator of `e` on the results of its operands. -/
def binary (e : Expr σ) (op : BinaryOp) (l r : Evaluated) : Except Error Evaluated := do
  let type ← op.resultType l.type r.type
  mapRows e type (onTwo op.apply) [l, r]

/-- Logical negation. -/
def not (e : Expr σ) (a : Evaluated) : Except Error Evaluated :=
  if OperandClass.boolean.admits a.type then
    mapRows e (some .boolean)
      (onOne fun v => .ok (v.boolean?.elim .null fun b => .boolean !b)) [a]
  else .error (.notOperandType a.type)

/-- The value with the other sign. -/
def negateValue : Value → Except Error Value
  | .integer i =>
    match Integer.ofInt? (-i.toInt) with
    | some j => .ok (.integer j)
    | none => .error (.negationOverflow i)
  | .float x => .ok (.float (-x))
  | _ => .ok .null

/-- Change of sign. -/
def negate (e : Expr σ) (a : Evaluated) : Except Error Evaluated :=
  if OperandClass.numeric.admits a.type then mapRows e a.type (onOne negateValue) [a]
  else .error (.negationType a.type)

def nullCheck (e : Expr σ) (negated : Bool) (a : Evaluated) : Except Error Evaluated :=
  mapRows e (some .boolean) (onOne fun v => .ok (.boolean (v.isNull != negated))) [a]

/-- Whether the first value is among the others; NULL is never found. -/
def isAmong : List Value → Bool
  | [] => false
  | v :: vs => !v.isNull && vs.any fun w => !w.isNull && w == v

/-- Membership of the first result in the others. -/
def inList (e : Expr σ) (negated : Bool) (args : List Evaluated) : Except Error Evaluated := do
  let _ ← ColumnType.coerceAll (args.map type)
  mapRows e (some .boolean) (fun row => .ok (.boolean (isAmong row != negated))) args

end Evaluated

end ColumnarSql
