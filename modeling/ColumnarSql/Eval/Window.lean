import ColumnarSql.Buckets
import ColumnarSql.Eval.Reduce
import ColumnarSql.Eval.RowFunction

/-!
# Windows

A call over a window sorts the rows, splits them into partitions of equal keys
and applies the function to each partition. Every row keeps its place, so the
result has one value for each row.
-/

set_option autoImplicit false

namespace ColumnarSql.Window

/-- Sorted rows split by their keys, in order of first appearance. Without keys
all rows are one partition, even if there are none. -/
def partitions (keys : List Column) (rows : List Nat) : List (List Nat) :=
  if keys.isEmpty then [rows]
  else (Buckets.byAppearance (fun i => keys.map (·.cell i)) rows).map Bucket.rows

/-- Values of a partition, each with its row. -/
def partitionValues (f : SqlFunction) (now : Moment) (type : ColumnType) (args : List Column)
    (rows : List Nat) : Except Error (List (Nat × Value)) :=
  if f = .rowNumber then
    .ok (rows.zipIdx.map fun p => (p.1, .integer (Int64.ofNat (p.2 + 1))))
  else if f.isAggregating then do
    let v ← f.reduce type ((args.head?.elim [] fun c => rows.map c.cell))
    return rows.map fun i => (i, v)
  else rows.mapM fun i => do return (i, ← f.onRow now type (args.map (·.cell i)))

/-- The call over the window as a column. -/
def apply (f : SqlFunction) (now : Moment) (args partitionBy : List Column)
    (orderBy : List (Column × SortOrder)) (numRows : Nat) : Except Error Column := do
  let type ← f.resultType (args.map Column.type)
  let parts := partitions partitionBy (Sorting.rowOrder orderBy numRows)
  let placed ← parts.mapM (partitionValues f now type args)
  return ⟨(List.range numRows).map fun i => (placed.flatten.lookup i).getD .null, type⟩

end ColumnarSql.Window
