import ColumnarSql.Eval.Expr
import ColumnarSql.Expr.Marking

/-!
# GROUP BY

A grouping key is a field, the name of a selected expression or a position in
the SELECT list. A key that names a computed expression is evaluated and joins
the frame as a column of that name. The rows are then split by the key columns,
and the selected expressions are marked.

The frame is the state of the whole step: what was added to it before a failure
stays.
-/

set_option autoImplicit false

namespace ColumnarSql

/-- A computation that may change the frame, also when it fails. -/
abbrev FrameM := EStateM Error Frame

namespace Grouping

/-- A result without a change of the frame. -/
def lift {α : Type} : Except Error α → FrameM α
  | .ok a => pure a
  | .error e => throw e

/-- The path of the key column for a written path: a column, else the computed
expression of that name. -/
def keyPath (now : Moment) (outer : List Frame) (selectors : List (Selector Plan))
    (path : List String) : FrameM String := do
  match ← lift (Scope.tryResolve ⟨← get, outer⟩ path) with
  | some p => return p
  | none =>
    let name := Text.dotted path
    let named := fun s : Selector Plan => path.length = 1 && s.name.toOption = some name
    match selectors.find? named with
    | none => throw (.unknownGroupField name (← get).paths)
    | some s =>
      let frame ← get
      let result ← lift (s.expr.eval now ⟨frame, outer⟩)
      let column ← lift (result.toColumn frame.numRows)
      set (← lift (frame.addColumn none name column))
      return name

/-- The selector at a position that counts from 1. -/
def selectorAt? (selectors : List (Selector Plan)) (position : Int64) :
    Option (Selector Plan) :=
  if 0 < position.toInt then selectors[position.toInt.toNat - 1]? else none

/-- The path of the key column for a key. -/
def keyOf (now : Moment) (outer : List Frame) (selectors : List (Selector Plan)) :
    Expr Plan → FrameM String
  | .field path => keyPath now outer selectors path
  | .literal l =>
    match l.integer? with
    | none => throw (.groupByConstant l.render)
    | some position =>
      match selectorAt? selectors position with
      | none => throw (.groupByPosition position.toInt selectors.length)
      | some s => do keyPath now outer selectors [← lift s.name]
  | e => throw (.groupByTarget e.render)

/-- The groups of rows with equal values in the columns, keys ascending. -/
def groupsOf (columns : List Column) (numRows : Nat) : Partition :=
  (Buckets.byOrder (fun i => columns.map (·.cell i)) (List.range numRows)).map Bucket.rows

/-- Whether a path names one of the key columns. -/
def isKey (s : Scope) (paths : List String) (path : List String) : Except Error Bool := do
  match ← s.tryResolve path with
  | some p => return paths.contains p
  | none => return false

/-- Groups the frame by the keys and gives the marked expressions. -/
def groupBy (now : Moment) (outer : List Frame) (selectors : List (Selector Plan))
    (keys : List (Expr Plan)) : FrameM (List (Expr Plan)) := do
  let paths ← keys.mapM (keyOf now outer selectors)
  let frame ← get
  let columns ← lift (paths.mapM fun p => frame.column (Text.splitFirst p))
  let grouped := { frame with groups := some (groupsOf columns frame.numRows) }
  set grouped
  let marked ← lift (selectors.mapM fun s => s.toExpr.mark (isKey ⟨grouped, outer⟩ paths))
  set { grouped with groupPaths := paths }
  return marked

end Grouping

end ColumnarSql
