import ColumnarSql.Calendar.Part
import ColumnarSql.Eval.Operator
import ColumnarSql.Value.Cast

/-!
# Conditionals, casts and composite values

CASE and IF give the result of the first true condition, widened to the common
type of all results. Structs and arrays check their parts against the declared
types, if there are any.
-/

set_option autoImplicit false

namespace ColumnarSql.Evaluated

variable {σ : Type}

/-! ## Conditionals -/

/-- Fails unless a condition is BOOLEAN or NULL. -/
def requireCondition (construct : String) (a : Evaluated) : Except Error Unit :=
  if OperandClass.boolean.admits a.type then .ok ()
  else .error (.conditionType construct a.type)

/-- The result after the first true condition, or the last value. -/
def choose : List Value → Value
  | .boolean true :: v :: _ => v
  | _ :: _ :: rest => choose rest
  | [v] => v
  | [] => .null

/-- The results among conditions and results: every second one, and the last. -/
def resultsOf {α : Type} : List α → List α
  | _ :: r :: rest => r :: resultsOf rest
  | [r] => [r]
  | [] => []

/-- Conditions and results in turn, and a last result. -/
def conditional (e : Expr σ) (args : List Evaluated) : Except Error Evaluated := do
  let t ← ColumnType.coerceAll ((resultsOf args).map type)
  mapRows e t (fun row => .ok ((choose row).widen t)) args

/-! ## Casts and parts of dates -/

def cast (e : Expr σ) (target : ScalarType) (a : Evaluated) : Except Error Evaluated :=
  mapRows e (some (.scalar target)) (onOne (·.cast target)) [a]

/-- The date of a date, a datetime or a timestamp. -/
def dateOf? : Value → Option Date
  | .date d => some d
  | .datetime m | .timestamp m => some m.date
  | _ => none

/-- Types that have a date. -/
def hasDate (t : ColumnType) : Bool :=
  t.all fun t => t.scalar?.any fun s => [ScalarType.date, .datetime, .timestamp].contains s

/-- The part of a date as a value. -/
def partValue (part : DatePart) (v : Value) : Value :=
  (dateOf? v).elim .null fun d => .integer (Int64.ofInt (part.extract d))

def extract (e : Expr σ) (part : DatePart) (a : Evaluated) : Except Error Evaluated :=
  if !hasDate a.type then .error (.extractType a.type)
  else
    match part with
    | .weekStarting _ => .error (.extractPart part.name)
    | _ => mapRows e (some .integer) (onOne fun v => .ok (partValue part v)) [a]

/-! ## Structs -/

/-- The fields of a struct with the declared fields from position `i` on. -/
def declaredFields (i : Nat) : List (Field DataType) → List ColumnType →
    Except Error (List (Field DataType))
  | ⟨n, some t⟩ :: fs, a :: as =>
    if ColumnType.coercesTo a t then
      (declaredFields (i + 1) fs as).map (⟨n, some t⟩ :: ·)
    else .error (.structFieldType i a t)
  | ⟨n, none⟩ :: fs, a :: as => (declaredFields (i + 1) fs as).map (⟨n, a⟩ :: ·)
  | _, _ => .ok []

/-- The fields of a struct of the given types; without a declaration they have
no names. -/
def structFields (declared : Option (List (Field DataType))) (types : List ColumnType) :
    Except Error (List (Field DataType)) :=
  match declared with
  | none => .ok (types.map fun t => ⟨none, t⟩)
  | some fs =>
    if fs.length ≠ types.length then .error (.structArity fs.length types.length)
    else declaredFields 1 fs types

def struct (e : Expr σ) (declared : Option (List (Field DataType))) (args : List Evaluated) :
    Except Error Evaluated := do
  let fields ← structFields declared (args.map type)
  mapRows e (some (.struct fields)) (fun row => .ok (.struct (Value.widenFields row fields)))
    args

/-! ## Arrays -/

/-- The element type of an array of the given types. -/
def elementType (declared : ColumnType) (types : List ColumnType) : Except Error DataType := do
  if (declared :: types).any fun t => t.any DataType.isArray then throw .nestedArray
  let computed ← ColumnType.coerceAll types
  match declared, computed with
  | some t, _ =>
    if ColumnType.coercesTo computed t then return t
    else throw (.arrayElementType t computed)
  | none, some t => return t
  | none, none => throw .arrayOfNull

/-- The array of a row; the empty literal ignores the row. -/
def arrayValue (t : DataType) (empty : Bool) (row : List Value) : Value :=
  .array (if empty then [] else Value.widenAll row (some t))

def array (e : Expr σ) (declared : ColumnType) (empty : Bool) (args : List Evaluated) :
    Except Error Evaluated := do
  let t ← elementType declared (args.map type)
  mapRows e (some (.array t)) (fun row => .ok (arrayValue t empty row)) args

end ColumnarSql.Evaluated
