import ColumnarSql.Value.Basic

/-!
# Order of values

One order over all values: by kind first, with integers and doubles as one kind
compared as doubles, and arrays and structs compared item by item. Two values
are equal when the order says so; grouping, joining and sorting all use it.
-/

set_option autoImplicit false

namespace ColumnarSql.Value

/-- Place of a value's kind in the order. -/
def rank : Value → Nat
  | .null => 0
  | .boolean _ => 1
  | .integer _ | .float _ => 2
  | .string _ => 3
  | .bytes _ => 4
  | .date _ => 5
  | .datetime _ => 6
  | .timestamp _ => 7
  | .array _ => 8
  | .struct _ => 9

mutual

protected def compare : Value → Value → Ordering
  | .boolean a, .boolean b => Ord.compare a b
  | .integer a, .integer b => Ord.compare a.toInt b.toInt
  | .integer a, .float b => Binary64.compareFloat (floatOfInteger a) b
  | .float a, .integer b => Binary64.compareFloat a (floatOfInteger b)
  | .float a, .float b => Binary64.compareFloat a b
  | .string a, .string b => Ord.compare a b
  | .bytes a, .bytes b => Ord.compare a b
  | .date a, .date b => Ord.compare a.orderKey b.orderKey
  | .datetime a, .datetime b => Ord.compare a.orderKey b.orderKey
  | .timestamp a, .timestamp b => Ord.compare a.orderKey b.orderKey
  | .array a, .array b => compareItems a b
  | .struct a, .struct b => compareItems a b
  | a, b => Ord.compare a.rank b.rank

/-- The first difference decides; a list comes after its beginnings. -/
def compareItems : List Value → List Value → Ordering
  | [], [] => .eq
  | [], _ :: _ => .lt
  | _ :: _, [] => .gt
  | a :: as, b :: bs => (a.compare b).then (compareItems as bs)

end

instance : Ord Value := ⟨Value.compare⟩

/-- Equality by the order: `1` equals `1.0`, and NaN equals itself. -/
instance : BEq Value := ⟨fun a b => (a.compare b).isEq⟩

/-- The values without repetitions, each at its first place. -/
def distinct (vs : List Value) : List Value := vs.eraseDups

end ColumnarSql.Value
