/-!
# Runs of code points

Tables describe a set of characters by runs of code points with a fixed step, in
ascending order.
-/

set_option autoImplicit false

namespace ColumnarSql.Text

/-- The code points `first, first + step, …, last`. -/
structure CodeRun where
  first : Nat
  last : Nat
  step : Nat

def CodeRun.contains (r : CodeRun) (n : Nat) : Bool :=
  r.first ≤ n && n ≤ r.last && (n - r.first) % r.step = 0

/-- Whether a character lies in one of the runs. -/
def inRuns (runs : List CodeRun) (c : Char) : Bool := runs.any (·.contains c.toNat)

end ColumnarSql.Text
