import ColumnarSql.Grouping
import ColumnarSql.Join
import ColumnarSql.Query.Build

/-!
# SELECT

FROM gives a frame, WHERE filters its rows, stars are expanded, GROUP BY splits
the rows, the fields are evaluated, and HAVING filters the result.
-/

set_option autoImplicit false

namespace ColumnarSql

namespace Star

variable {σ : Type}

/-- The columns of a star, each as a field under its own name. -/
def columns (f : Frame) (s : Star σ) : Except Error (List (Selector σ)) :=
  match s.of with
  | none =>
    .ok (f.columns.map fun c => ⟨.field (c.table.toList ++ [c.name]), some c.name, none⟩)
  | some (.field [t]) =>
    match f.columnsOf? t with
    | some names => .ok (names.map fun n => ⟨.field [t, n], some n, none⟩)
    | none => .error (.tableNotInFrom t)
  | some e => .error (.starOfExpression e.render)

/-- The field of a column after the replacements. -/
def replaced (s : Star σ) (c : Selector σ) : Selector σ :=
  match s.replace.find? fun r => some r.2 = c.label with
  | some r => ⟨r.1, some r.2, none⟩
  | none => c

/-- The fields a star stands for. -/
def selectors (f : Frame) (s : Star σ) : Except Error (List (Selector σ)) :=
  (s.columns f).map fun cs =>
    (cs.filter fun c => !c.label.any s.except.contains).map s.replaced

end Star

namespace SelectOf

/-- The fields with every star expanded; they share its position. -/
def expand {σ : Type} (f : Frame) (fields : List (SelectField σ)) :
    Except Error (List (Selector σ)) := do
  let parts ← fields.zipIdx.mapM fun p =>
    match p.1 with
    | .one s => .ok [s]
    | .star s => (s.selectors f).map fun ss =>
      ss.map fun c => { c with position := some (p.2 + 1) }
  return parts.flatten

/-- The column and name of a field, whose expression may be marked. -/
def fieldColumn (now : Moment) (scope : Scope) (selector : Selector Plan) (e : Expr Plan) :
    Except Error (String × Column) := do
  match ← e.eval now scope with
  | .grouped .. => throw (.ungroupedOperands selector.render)
  | a =>
    let column ← a.toColumn scope.frame.outputLength
    return (← selector.name, column)

/-- The table of the fields. -/
def fieldsTable (now : Moment) (scope : Scope) (selectors : List (Selector Plan))
    (exprs : List (Expr Plan)) : Except Error Table := do
  let fields ← (selectors.zip exprs).mapM fun p => fieldColumn now scope p.1 p.2
  Table.ofColumns (fields.map (·.1)) (fields.map (·.2)) scope.frame.outputLength

/-- The scope of HAVING: the result's columns, inside the grouped scope, whose
groups reducing calls use. -/
def havingScope (result : Table) (grouped : Scope) : Scope :=
  ⟨{ Frame.ofTable result none with inheritsGroups := true }, grouped.frames⟩

/-- The result's rows for which the condition is true. -/
def applyHaving (now : Moment) (condition : Expr Plan) (result : Table) (grouped : Scope) :
    Except Error Table := do
  let scope := havingScope result grouped
  let marked ← condition.mark (Grouping.isKey scope grouped.frame.groupPaths)
  match ← marked.eval now scope with
  | .grouped .. => throw (.ungroupedHaving condition.render)
  | a => return result.filter (← a.truthMask "HAVING" result.numRows)

/-- The scope of FROM and WHERE. -/
def inputScope (now : Moment) (s : SelectOf Plan (Except Error Frame)) (outer : List Frame) :
    Except Error Scope := do
  let frame ← s.source.getD (.ok (Frame.ofRows 1))
  match s.condition with
  | none => return ⟨frame, outer⟩
  | some c =>
    let mask ← (← c.eval now ⟨frame, outer⟩).truthMask "WHERE" frame.numRows
    return ⟨frame.filter mask, outer⟩

/-- The grouped scope and the marked fields. Without keys all rows are one group
if HAVING or a reducing call asks for it. -/
def groupedFields (now : Moment) (s : SelectOf Plan (Except Error Frame)) (scope : Scope)
    (selectors : List (Selector Plan)) : Except Error (Scope × List (Expr Plan)) :=
  if s.groupBy.isEmpty then
    let frame :=
      if s.having.isSome || selectors.any (·.expr.containsAggregate) then scope.frame.groupAll
      else scope.frame
    .ok (⟨frame, scope.outer⟩, selectors.map Selector.toExpr)
  else
    match Grouping.groupBy now scope.outer selectors s.groupBy scope.frame with
    | .ok exprs frame => .ok (⟨frame, scope.outer⟩, exprs)
    | .error e _ => .error e

/-- A SELECT whose subqueries and source are planned, as a plan. -/
def run (now : Moment) (s : SelectOf Plan (Except Error Frame)) : Plan := fun outer => do
  if s.distinct then throw .selectDistinct
  let scope ← s.inputScope now outer
  let selectors ← expand scope.frame s.fields
  let (grouped, exprs) ← s.groupedFields now scope selectors
  let result ← fieldsTable now grouped selectors exprs
  match s.having with
  | none => return result
  | some c => applyHaving now c result grouped

end SelectOf

end ColumnarSql
