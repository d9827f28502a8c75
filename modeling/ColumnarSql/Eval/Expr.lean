import ColumnarSql.Eval.Construct
import ColumnarSql.Eval.Window

/-!
# Evaluation of expressions

Here a subquery is a plan: what it gives for the frames around it. Evaluation is
then one structural recursion over expressions, and a scope decides all names.
-/

set_option autoImplicit false

namespace ColumnarSql

/-- A query as a function of the frames of the enclosing queries. -/
abbrev Plan := List Frame → Except Error Table

/-- Whether a plan gives rows, for each ungrouped row of a scope as its nearest
enclosing frame. -/
def Plan.existsRows (plan : Plan) (s : Scope) : Except Error Evaluated := do
  let values ← (List.range s.frame.numRows).mapM fun i => do
    let t ← plan (s.frame.row i :: s.outer)
    return Value.boolean (0 < t.numRows)
  return s.frame.read ⟨values, some .boolean⟩

/-- A result as an input column of a window call. -/
def Evaluated.windowColumn {σ : Type} (call : Expr σ) (length : Nat) :
    Evaluated → Except Error Column
  | .grouped .. => .error (.windowOverGroups call.render)
  | a => a.toColumn length

namespace Expr

mutual

/-- The result of an expression in a scope, at the time `now`. -/
def eval (now : Moment) : Expr Plan → Scope → Except Error Evaluated
  | literal l, _ => .ok (.constant l.value l.type)
  | field path, s => s.lookup path
  | .exists plan, s => plan.existsRows s
  | binary op l r, s => do
    let a ← l.eval now s
    let b ← r.eval now s
    Evaluated.binary (binary op l r) op a b
  | not e, s => do Evaluated.not (not e) (← e.eval now s)
  | negate e, s => do Evaluated.negate (negate e) (← e.eval now s)
  | nullCheck n e, s => do Evaluated.nullCheck (nullCheck n e) n (← e.eval now s)
  | inList n e es, s => do
    let a ← e.eval now s
    Evaluated.inList (inList n e es) n (a :: (← evalAll now es s))
  | case bs o, s => do
    let args ← evalBranches now bs s
    Evaluated.conditional (case bs o) (args ++ [← o.eval now s])
  | conditional c p n, s => do
    let a ← c.eval now s
    a.requireCondition "IF"
    Evaluated.conditional (conditional c p n) [a, ← p.eval now s, ← n.eval now s]
  | cast e t, s => do Evaluated.cast (cast e t) t (← e.eval now s)
  | extract p e, s => do Evaluated.extract (extract p e) p (← e.eval now s)
  | struct d es, s => do Evaluated.struct (struct d es) d (← evalAll now es s)
  | array t es empty, s => do Evaluated.array (array t es empty) t empty (← evalAll now es s)
  | call f args, s =>
    if f.isAggregating then do
      f.checkOptions
      Evaluated.reduce f s.reducing.frame (← evalFirst now args s.reducing)
    else do Evaluated.callRows (call f args) f now (← evalAll now args s)
  | analytic f args ps os, s => do
    f.checkOptions
    let whole := analytic f args ps os
    let columns ← evalColumns now whole args s
    let partitionBy ← evalColumns now whole ps s
    let orderBy ← evalKeys now whole os s
    return .column (← Window.apply f now columns partitionBy orderBy s.frame.numRows)
  | selector e _ _, s => e.eval now s
  | groupedBy e, s => return (← e.eval now s).firstOfGroups

def evalAll (now : Moment) : List (Expr Plan) → Scope → Except Error (List Evaluated)
  | [], _ => .ok []
  | e :: es, s => return (← e.eval now s) :: (← evalAll now es s)

/-- The first of the arguments; a reducing call has no other. -/
def evalFirst (now : Moment) : List (Expr Plan) → Scope → Except Error Evaluated
  | [], _ => .ok (.constant .null none)
  | e :: _, s => e.eval now s

/-- Conditions and results in turn; each condition is checked before its result
is evaluated. -/
def evalBranches (now : Moment) :
    List (Expr Plan × Expr Plan) → Scope → Except Error (List Evaluated)
  | [], _ => .ok []
  | (c, r) :: bs, s => do
    let a ← c.eval now s
    a.requireCondition "CASE"
    let b ← r.eval now s
    return a :: b :: (← evalBranches now bs s)

/-- Input columns of a window call. -/
def evalColumns (now : Moment) (whole : Expr Plan) :
    List (Expr Plan) → Scope → Except Error (List Column)
  | [], _ => .ok []
  | e :: es, s => do
    let c ← (← e.eval now s).windowColumn whole s.frame.numRows
    return c :: (← evalColumns now whole es s)

/-- Sort keys of a window call. -/
def evalKeys (now : Moment) (whole : Expr Plan) :
    List (Expr Plan × SortOrder) → Scope → Except Error (List (Column × SortOrder))
  | [], _ => .ok []
  | (e, o) :: ks, s => do
    let c ← (← e.eval now s).windowColumn whole s.frame.numRows
    return (c, o) :: (← evalKeys now whole ks s)

end

end Expr

end ColumnarSql
