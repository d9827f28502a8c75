import ColumnarSql.DataType.Coercion

/-!
# Functions

The callable functions, their names, how many arguments they take and the type
of their result. A function either maps rows or reduces a group of rows.
-/

set_option autoImplicit false

namespace ColumnarSql

inductive FunctionKind where
  | rowWise
  | aggregating
deriving DecidableEq

/-- Words that may stand inside an `ARRAY_AGG` call. -/
structure ArrayAggOptions where
  distinct : Bool
  ignoreNulls : Bool
  ordered : Bool
  limited : Bool
deriving DecidableEq

inductive SqlFunction where
  | sum
  | min
  | max
  | avg
  | count (distinct : Bool)
  | arrayAgg (options : ArrayAggOptions)
  | mod
  | concat
  | timestamp
  | currentTimestamp
  | rowNumber
  | abs
  | lower
  | upper
  | length
  | regexpContains
deriving DecidableEq

namespace SqlFunction

def name : SqlFunction → String
  | sum => "SUM"
  | min => "MIN"
  | max => "MAX"
  | avg => "AVG"
  | count _ => "COUNT"
  | arrayAgg _ => "ARRAY_AGG"
  | mod => "MOD"
  | concat => "CONCAT"
  | timestamp => "TIMESTAMP"
  | currentTimestamp => "CURRENT_TIMESTAMP"
  | rowNumber => "ROW_NUMBER"
  | abs => "ABS"
  | lower => "LOWER"
  | upper => "UPPER"
  | length => "LENGTH"
  | regexpContains => "REGEXP_CONTAINS"

/-- Every function as its bare name calls it. -/
def all : List SqlFunction :=
  [sum, min, max, avg, count false, arrayAgg ⟨false, false, false, false⟩, mod, concat,
    timestamp, currentTimestamp, rowNumber, abs, lower, upper, length, regexpContains]

/-- The function of a name, without regard to ASCII case. -/
def lookup (s : String) : Except Error SqlFunction :=
  let name := Text.asciiUpper s
  match all.find? fun f => f.name = name with
  | some f => .ok f
  | none => .error (.unknownFunction name)

def kind : SqlFunction → FunctionKind
  | sum | min | max | avg | count _ | arrayAgg _ => .aggregating
  | _ => .rowWise

def isAggregating (f : SqlFunction) : Bool := f.kind = .aggregating

/-- Least and, if there is one, greatest number of arguments. -/
def arity : SqlFunction → Nat × Option Nat
  | currentTimestamp | rowNumber => (0, some 0)
  | mod | regexpContains => (2, some 2)
  | concat => (1, none)
  | _ => (1, some 1)

/-- The accepted numbers of arguments in words. -/
def arityText (f : SqlFunction) : String :=
  match f.arity with
  | (least, none) => "at least " ++ toString least
  | (least, some most) =>
    if least = most then toString least else toString least ++ " to " ++ toString most

/-- Checks the number of arguments; reducing functions take exactly one. -/
def checkArity (f : SqlFunction) (count : Nat) : Except Error Unit :=
  if f.isAggregating && count ≠ 1 then .error .aggregateArity
  else if count < f.arity.1 || f.arity.2.any (· < count) then
    .error (.argumentCount f.name f.arityText count)
  else .ok ()

/-- What the arguments must be; `none` where every type is accepted. -/
def argumentClass? : SqlFunction → Option OperandClass
  | sum | mod | abs | avg => some .numeric
  | concat | lower | upper | regexpContains => some .string
  | length => some .stringOrBytes
  | timestamp => some .stringOrTemporal
  | _ => none

/-- The type of the result, once the arguments are accepted. -/
def typeOfAccepted (f : SqlFunction) (args : List ColumnType) : Except Error ColumnType :=
  match f with
  | sum | mod | abs | min | max => ColumnType.coerceAll args
  | avg => .ok (some .float)
  | count _ | rowNumber | length => .ok (some .integer)
  | arrayAgg _ => do
    match ← ColumnType.coerceAll args with
    | some (.scalar s) => .ok (some (.array (.scalar s)))
    | t => .error (.arrayAggElement t)
  | concat | lower | upper => .ok (some .string)
  | timestamp | currentTimestamp => .ok (some .timestamp)
  | regexpContains => .ok (some .boolean)

/-- The type of the result for argument types. -/
def resultType (f : SqlFunction) (args : List ColumnType) : Except Error ColumnType :=
  match f.argumentClass? with
  | some c =>
    if args.all c.admits then f.typeOfAccepted args
    else .error (.argumentTypes f.name c args)
  | none => f.typeOfAccepted args

end SqlFunction

end ColumnarSql
