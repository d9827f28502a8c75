import ColumnarSql.Buckets
import ColumnarSql.Eval.Expr
import ColumnarSql.Query.Basic

/-!
# Joins

The frame of a FROM clause. Items are evaluated on their own and joined from
left to right. A join is a list of row pairs in the order of the left rows; the
right row of a pair is absent where a left join found no match.
-/

set_option autoImplicit false

namespace ColumnarSql

/-- A table and, for a bare table reference, its name. -/
abbrev NamedTable := Table × Option String

/-- A condition as one flag for each row; only TRUE sets the flag. -/
def Evaluated.truthMask (clause : String) (length : Nat) (a : Evaluated) :
    Except Error (List Bool) := do
  match a.type with
  | none | some (.scalar .boolean) => pure ()
  | some t => throw (.clauseType clause t)
  match a with
  | .grouped .. => throw (.ungroupedClause clause)
  | a => return (← a.toColumn length).values.map fun v => v.boolean? = some true

namespace Join

/-- A left row and its right row, if there is one. -/
abbrev RowPair := Nat × Option Nat

/-- All pairs of rows, by left rows first. -/
def product (left right : Nat) : List (Nat × Nat) :=
  (List.range left).flatMap fun i => (List.range right).map fun j => (i, j)

/-- The row pairs of a join from the matches of each left row. A left join keeps
a left row without matches once. -/
def pairsOf (kind : JoinKind) (found : List (List Nat)) : List RowPair :=
  found.zipIdx.flatMap fun p =>
    if p.1.isEmpty && kind = .left then [(p.2, none)] else p.1.map fun j => (p.2, some j)

/-- Rows of two frames side by side. -/
def combine (f g : Frame) (pairs : List RowPair) : Frame :=
  f.combine g (pairs.map (·.1)) (pairs.map (·.2))

def cross (f g : Frame) : Frame :=
  combine f g ((product f.numRows g.numRows).map fun p => (p.1, some p.2))

/-- The matches of each left row by a condition over all pairs of rows. -/
def onMatches (now : Moment) (condition : Expr Plan) (f g : Frame) :
    Except Error (List (List Nat)) := do
  let joined := cross f g
  let mask ← (← condition.eval now ⟨joined, []⟩).truthMask "ON" joined.numRows
  let kept := Column.keep mask (product f.numRows g.numRows)
  return (List.range f.numRows).map fun i => (kept.filter (·.1 = i)).map (·.2)

/-- The columns of both frames that USING names, name by name. -/
def usingColumns (f g : Frame) : List String → Except Error (List (Column × Column))
  | [] => .ok []
  | n :: ns => do
    let l ← f.column [n]
    let r ← g.column [n]
    return (l, r) :: (← usingColumns f g ns)

/-- The matches of each left row by equal values in the named columns; a key with
NULL has none. -/
def usingMatches (f g : Frame) (names : List String) : Except Error (List (List Nat)) := do
  let columns ← usingColumns f g names
  let leftKey := fun i => columns.map fun c => c.1.cell i
  let rightKey := fun j => columns.map fun c => c.2.cell j
  let present := fun key : List Value => !key.any Value.isNull
  let rows := (List.range g.numRows).filter fun j => present (rightKey j)
  let buckets := Buckets.byAppearance rightKey rows
  return (List.range f.numRows).map fun i =>
    if present (leftKey i) then Buckets.find (leftKey i) buckets else []

/-- The frame of an item, under its alias or else the name of its table. -/
def itemFrame (item : FromItem (Except Error NamedTable)) : Except Error Frame := do
  let (table, name) ← item.query
  return Frame.ofTable table (item.label.or name)

/-- A frame joined with one more item. USING drops the named columns on the right. -/
def extend (now : Moment) (f : Frame) (j : JoinOf Plan (Except Error NamedTable)) :
    Except Error Frame := do
  let g ← itemFrame j.item
  match j.condition with
  | .none => return cross f g
  | .on condition => return combine f g (pairsOf j.kind (← onMatches now condition f g))
  | .using names =>
    let pairs := pairsOf j.kind (← usingMatches f g names)
    return (combine f g pairs).dropNamed f.columns.length names

/-- The frame of a FROM clause. -/
def sourceFrame (now : Moment) (s : SourceOf Plan (Except Error NamedTable)) :
    Except Error Frame := do
  s.joins.foldlM (extend now) (← itemFrame s.first)

end Join

end ColumnarSql
