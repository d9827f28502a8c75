import ColumnarSql.Calendar.Moment
import ColumnarSql.Number.Binary64
import ColumnarSql.DataType.Basic

/-!
# Values

A cell of a column. Arrays hold elements of one type, structs hold fields by
position. `conforms` says which values belong to a column type, and `widen`
turns integers into doubles where the target type asks for it.
-/

set_option autoImplicit false

namespace ColumnarSql

inductive Value where
  | null
  | boolean (b : Bool)
  | integer (i : Int64)
  | float (x : Float)
  | string (s : String)
  | bytes (b : List UInt8)
  | date (d : Date)
  | datetime (m : Moment)
  | timestamp (m : Moment)
  | array (items : List Value)
  | struct (items : List Value)

namespace Value

instance : Inhabited Value := ⟨.null⟩

def isNull : Value → Bool
  | .null => true
  | _ => false

def boolean? : Value → Option Bool
  | .boolean b => some b
  | _ => none

def integer? : Value → Option Int64
  | .integer i => some i
  | _ => none

/-- The double nearest to an integer. -/
def floatOfInteger (i : Int64) : Float := Binary64.ofInt i.toInt

/-- A number as a double. -/
def float? : Value → Option Float
  | .integer i => some (floatOfInteger i)
  | .float x => some x
  | _ => none

def string? : Value → Option String
  | .string s => some s
  | _ => none

/-- The scalar type of a value; NULL, arrays and structs have none. -/
def scalarType? : Value → Option ScalarType
  | .boolean _ => some .boolean
  | .integer _ => some .integer
  | .float _ => some .float
  | .string _ => some .string
  | .bytes _ => some .bytes
  | .date _ => some .date
  | .datetime _ => some .datetime
  | .timestamp _ => some .timestamp
  | .null | .array _ | .struct _ => none

/-! ## Belonging to a type -/

mutual

/-- NULL belongs to every type, and the unknown type holds nothing else. -/
def conforms : Value → ColumnType → Bool
  | .null, _ => true
  | _, none => false
  | .array vs, some (.array t) => conformsAll vs (some t)
  | .struct vs, some (.struct fs) => conformsFields vs fs
  | v, some (.scalar s) => v.scalarType? = some s
  | _, _ => false

def conformsAll : List Value → ColumnType → Bool
  | [], _ => true
  | v :: vs, t => v.conforms t && conformsAll vs t

/-- Values belong to fields position by position. -/
def conformsFields : List Value → List (Field DataType) → Bool
  | [], [] => true
  | v :: vs, f :: fs => v.conforms f.type && conformsFields vs fs
  | _, _ => false

end

/-! ## Widening -/

mutual

/-- The value as a member of a type its own type coerces to. -/
def widen : Value → ColumnType → Value
  | .integer i, some (.scalar .float) => .float (floatOfInteger i)
  | .array vs, some (.array t) => .array (widenAll vs (some t))
  | .struct vs, some (.struct fs) => .struct (widenFields vs fs)
  | v, _ => v

def widenAll : List Value → ColumnType → List Value
  | [], _ => []
  | v :: vs, t => v.widen t :: widenAll vs t

def widenFields : List Value → List (Field DataType) → List Value
  | v :: vs, f :: fs => v.widen f.type :: widenFields vs fs
  | _, _ => []

end

/-! ## Inferred type -/

mutual

/-- The type of a value by itself. An array takes the type of the first element
that has one; NULL and arrays without such an element have none. -/
def inferType : Value → ColumnType
  | .array vs => (inferFirst vs).map .array
  | .struct vs => some (.struct (inferFields vs))
  | v => v.scalarType?.map .scalar

def inferFirst : List Value → ColumnType
  | [] => none
  | v :: vs => v.inferType.or (inferFirst vs)

def inferFields : List Value → List (Field DataType)
  | [] => []
  | v :: vs => ⟨none, v.inferType⟩ :: inferFields vs

end

end Value

end ColumnarSql
