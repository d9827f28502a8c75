import ColumnarSql.Error

/-!
# Implicit coercion

Two column types may have a least common type: the unknown type joins with
anything, INTEGER and FLOAT join to FLOAT, arrays join by element and structs
field by field, where a missing name or type takes the other side's. A list of
types is joined from the left.
-/

set_option autoImplicit false

namespace ColumnarSql

/-- The name both sides agree on; a missing name agrees with any. -/
def commonName? : Option String → Option String → Option (Option String)
  | some a, some b => if a = b then some (some a) else none
  | some a, none => some (some a)
  | none, b => some b

namespace DataType

mutual

/-- The least type both types coerce to. -/
def common? : DataType → DataType → Option DataType
  | .scalar s, .scalar t =>
    if s = t then some (.scalar s)
    else if s.isNumeric && t.isNumeric then some .float else none
  | .array a, .array b => (common? a b).map .array
  | .struct f, .struct g => (commonFields? f g).map .struct
  | _, _ => none

/-- Fields join position by position, and only as many as there are on both sides. -/
def commonFields? : List (Field DataType) → List (Field DataType) →
    Option (List (Field DataType))
  | [], [] => some []
  | ⟨n, some a⟩ :: f, ⟨m, some b⟩ :: g => do
    let name ← commonName? n m
    let type ← common? a b
    let rest ← commonFields? f g
    return ⟨name, some type⟩ :: rest
  | ⟨n, some a⟩ :: f, ⟨m, none⟩ :: g => do
    let name ← commonName? n m
    let rest ← commonFields? f g
    return ⟨name, some a⟩ :: rest
  | ⟨n, none⟩ :: f, ⟨m, b⟩ :: g => do
    let name ← commonName? n m
    let rest ← commonFields? f g
    return ⟨name, b⟩ :: rest
  | _, _ => none

end

end DataType

namespace ColumnType

/-- The least column type both coerce to; the unknown type is below all. -/
def common? : ColumnType → ColumnType → Option ColumnType
  | none, t => some t
  | some t, none => some (some t)
  | some s, some t => (s.common? t).map some

/-- The common type of two column types. -/
def coerce (s t : ColumnType) : Except Error ColumnType :=
  match common? s t with
  | some u => .ok u
  | none => .error (.noCommonType [s, t])

/-- The common type of a list from a start, if there is one. -/
def commonFrom? : ColumnType → List ColumnType → Option ColumnType
  | t, [] => some t
  | t, u :: us => (common? t u).bind fun v => commonFrom? v us

/-- The common type of a list. An error names the whole list, and the common
type of no types is unknown. -/
def coerceAll (ts : List ColumnType) : Except Error ColumnType :=
  match commonFrom? none ts with
  | some t => .ok t
  | none => .error (.noCommonType ts)

/-- Whether values of one type are accepted where another is declared. -/
def coercesTo (actual : ColumnType) (declared : DataType) : Bool :=
  common? (some declared) actual = some (some declared)

end ColumnType

end ColumnarSql
