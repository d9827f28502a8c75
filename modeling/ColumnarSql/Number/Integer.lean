/-!
# Integers of 64 bits

Arithmetic is exact in `Int`; a result outside the range has no integer.
-/

set_option autoImplicit false

namespace ColumnarSql.Integer

/-- The 64-bit integer of that value, if there is one. -/
def ofInt? (i : Int) : Option Int64 :=
  if Int64.minValue.toInt ≤ i ∧ i ≤ Int64.maxValue.toInt then some (Int64.ofInt i) else none

end ColumnarSql.Integer
