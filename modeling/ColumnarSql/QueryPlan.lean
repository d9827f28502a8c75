import ColumnarSql.Query.Reference
import ColumnarSql.SelectPlan

/-!
# Queries

Set operations, ORDER BY and LIMIT, and the plan of a whole query. Planning
replaces every subquery by its plan, from the innermost outward, and is one
structural recursion over queries.
-/

set_option autoImplicit false

namespace ColumnarSql

/-- What a query is evaluated in: the tables and the current time. -/
structure Session where
  catalog : Catalog
  now : Moment

/-! ## Set operations -/

namespace SetOperator

/-- The common types of columns, one by one. -/
def columnTypes (left right : Table) : Except Error (List ColumnType) :=
  (left.types.zip right.types).mapM fun p => p.1.coerce p.2

/-- Columns of two tables one after the other, under their common types. -/
def concat (left right : Table) (types : List ColumnType) : List Column :=
  ((left.columns.zip right.columns).zip types).map fun p => p.1.1.concat p.1.2 p.2

/-- The rows of the left table, then those of the right one, under the names of
the left; only `UNION ALL` is evaluated. -/
def run (op : SetOperator) (left right : Table) : Except Error Table := do
  if left.columns.length ≠ right.columns.length then
    throw (.unionWidth left.columns.length right.columns.length)
  let types ← columnTypes left right
  if op ≠ unionAll then throw (.setOperator op.name)
  Table.ofColumns left.names (concat left right types) (left.numRows + right.numRows)

end SetOperator

/-! ## ORDER BY and LIMIT -/

namespace Table

/-- Rows sorted by columns; keys outside the table are left out. -/
def sort (t : Table) (keys : List (Nat × SortOrder)) : Table :=
  let columns := keys.filterMap fun k => (t.columnAt? k.1).map fun c => (c, k.2)
  t.take (Sorting.rowOrder columns t.numRows)

end Table

namespace OrderedOf

variable {σ : Type}

/-- The column of a position that counts from 1. -/
def positionIndex (t : Table) (position : Int64) : Except Error Nat :=
  let p := position.toInt
  if 0 < p ∧ p.toNat ≤ t.columns.length then .ok (p.toNat - 1)
  else .error (.orderByPosition p t.columns.length)

/-- The column of a sort key: a field by the last part of its path, or a position. -/
def keyIndex (t : Table) (frame : Frame) : Expr σ → Except Error Nat
  | .field path => do
    let p ← Scope.resolve ⟨frame, []⟩ path
    match t.names.idxOf? (Text.afterLastDot p) with
    | some i => return i
    | none => throw (.orderFieldNotFound p)
  | .literal l =>
    match l.integer? with
    | some position => positionIndex t position
    | none => .error (.orderByConstant l.render)
  | e => .error (.orderByTarget e.render)

/-- The table sorted by the keys, whose fields may be written with its name. -/
def sorted (keys : List (Expr σ × SortOrder)) (t : NamedTable) : Except Error Table :=
  if keys.isEmpty then .ok t.1
  else do
    let frame := Frame.ofTable t.1 t.2
    let indices ← keys.mapM fun k => do return (← keyIndex t.1 frame k.1, k.2)
    return t.1.sort indices

/-- A number of rows written as a constant expression. -/
def constantCount (now : Moment) (clause : String) (e : Expr Plan) : Except Error Nat := do
  let value ← match ← e.eval now ⟨Frame.ofRows 1, []⟩ with
    | .constant v _ => pure v
    | .column c =>
      if c.length = 1 then pure (c.cell 0) else throw (.notConstantCount clause e.render)
    | .grouped .. => throw (.notConstantCount clause e.render)
  match value with
  | .integer n => if 0 ≤ n.toInt then return n.toInt.toNat else throw (.badCount clause value)
  | v => throw (.badCount clause v)

/-- The rows that LIMIT and OFFSET keep; without LIMIT all of them. -/
def limited (now : Moment) (limit offset : Option (Expr Plan)) (t : Table) :
    Except Error Table :=
  match limit with
  | none => .ok t
  | some l => do
    let count ← constantCount now "LIMIT" l
    let start ← match offset with
      | some o => constantCount now "OFFSET" o
      | none => pure 0
    return t.slice start count

/-- An ordered query whose parts are planned. -/
def run (now : Moment) (q : OrderedOf Plan (Except Error NamedTable)) :
    Except Error Table := do
  if !q.bindings.isEmpty then throw .withBinding
  limited now q.limit q.offset (← sorted q.orderBy (← q.base))

end OrderedOf

/-! ## Planning -/

mutual

/-- The plan of a SELECT. -/
def Select.plan (env : Session) : Select → Plan
  | ⟨distinct, fields, source, condition, groupBy, having⟩ =>
    SelectOf.run env.now ⟨distinct, planFields env fields, planSource? env source,
      planExpr? env condition, planExprs env groupBy, planExpr? env having⟩

/-- The table of a query, with the name of a bare table reference. -/
def Query.run (env : Session) : Query → Except Error NamedTable
  | .table r => r.run env.catalog
  | .select s => do return (← s.plan env [], none)
  | .combined op left right => do
    let (l, _) ← left.run env
    let (r, _) ← right.run env
    return (← op.run l r, none)
  | .ordered ⟨bindings, base, orderBy, limit, offset⟩ => do
    return (← OrderedOf.run env.now ⟨runBindings env bindings, base.run env,
      planKeys env orderBy, planExpr? env limit, planExpr? env offset⟩, none)

def planExpr (env : Session) : Expr Select → Expr Plan
  | .literal l => .literal l
  | .field p => .field p
  | .exists s => .exists (s.plan env)
  | .binary op l r => .binary op (planExpr env l) (planExpr env r)
  | .not e => .not (planExpr env e)
  | .negate e => .negate (planExpr env e)
  | .nullCheck n e => .nullCheck n (planExpr env e)
  | .inList n e es => .inList n (planExpr env e) (planExprs env es)
  | .case bs o => .case (planBranches env bs) (planExpr env o)
  | .conditional c p n => .conditional (planExpr env c) (planExpr env p) (planExpr env n)
  | .cast e t => .cast (planExpr env e) t
  | .extract p e => .extract p (planExpr env e)
  | .struct d es => .struct d (planExprs env es)
  | .array t es empty => .array t (planExprs env es) empty
  | .call f args => .call f (planExprs env args)
  | .analytic f args ps os =>
    .analytic f (planExprs env args) (planExprs env ps) (planKeys env os)
  | .selector e label position => .selector (planExpr env e) label position
  | .groupedBy e => .groupedBy (planExpr env e)

def planExprs (env : Session) : List (Expr Select) → List (Expr Plan)
  | [] => []
  | e :: es => planExpr env e :: planExprs env es

def planExpr? (env : Session) : Option (Expr Select) → Option (Expr Plan)
  | none => none
  | some e => some (planExpr env e)

def planBranches (env : Session) : List (Expr Select × Expr Select) → List (Expr Plan × Expr Plan)
  | [] => []
  | (c, r) :: bs => (planExpr env c, planExpr env r) :: planBranches env bs

def planKeys (env : Session) : List (Expr Select × SortOrder) → List (Expr Plan × SortOrder)
  | [] => []
  | (e, o) :: ks => (planExpr env e, o) :: planKeys env ks

def planReplacements (env : Session) : List (Expr Select × String) → List (Expr Plan × String)
  | [] => []
  | (e, n) :: rs => (planExpr env e, n) :: planReplacements env rs

def planFields (env : Session) : List (SelectField Select) → List (SelectField Plan)
  | [] => []
  | .one ⟨e, label, position⟩ :: fs =>
    .one ⟨planExpr env e, label, position⟩ :: planFields env fs
  | .star ⟨e, except, replace⟩ :: fs =>
    .star ⟨planExpr? env e, except, planReplacements env replace⟩ :: planFields env fs

def planSource? (env : Session) : Option Source → Option (Except Error Frame)
  | none => none
  | some ⟨⟨q, label⟩, joins⟩ =>
    some (Join.sourceFrame env.now ⟨⟨q.run env, label⟩, planJoins env joins⟩)

def planJoins (env : Session) :
    List (JoinOf Select Query) → List (JoinOf Plan (Except Error NamedTable))
  | [] => []
  | ⟨kind, ⟨q, label⟩, .none⟩ :: js => ⟨kind, ⟨q.run env, label⟩, .none⟩ :: planJoins env js
  | ⟨kind, ⟨q, label⟩, .on e⟩ :: js =>
    ⟨kind, ⟨q.run env, label⟩, .on (planExpr env e)⟩ :: planJoins env js
  | ⟨kind, ⟨q, label⟩, .using names⟩ :: js =>
    ⟨kind, ⟨q.run env, label⟩, .using names⟩ :: planJoins env js

def runBindings (env : Session) :
    List (String × Query) → List (String × Except Error NamedTable)
  | [] => []
  | (n, q) :: bs => (n, q.run env) :: runBindings env bs

end

/-- The table of a query. -/
def Query.execute (env : Session) (q : Query) : Except Error Table :=
  (q.run env).map (·.1)

end ColumnarSql
