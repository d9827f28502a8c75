import ColumnarSql.Calendar.Part
import ColumnarSql.Sorting
import ColumnarSql.SqlFunction

/-!
# Expressions

Expressions over a type `σ` of subqueries. Subqueries are leaves, so everything
that does not run them is defined for every `σ`. `children` lists the direct
parts of an expression and `mapChildren` replaces them.
-/

set_option autoImplicit false

namespace ColumnarSql

inductive BinaryOp where
  | add
  | sub
  | mul
  | div
  | eq
  | ne
  | lt
  | le
  | gt
  | ge
  | and
  | or
  | like
  | notLike
  | concat
deriving DecidableEq

namespace BinaryOp

def symbol : BinaryOp → String
  | add => "+"
  | sub => "-"
  | mul => "*"
  | div => "/"
  | eq => "="
  | ne => "!="
  | lt => "<"
  | le => "<="
  | gt => ">"
  | ge => ">="
  | and => "AND"
  | or => "OR"
  | like => "LIKE"
  | notLike => "NOT LIKE"
  | concat => "||"

def all : List BinaryOp :=
  [add, sub, mul, div, eq, ne, lt, le, gt, ge, and, or, like, notLike, concat]

/-- The operator written with a symbol. -/
def ofSymbol? (s : String) : Option BinaryOp := all.find? fun op => op.symbol = s

end BinaryOp

/-- A constant and its declared type. -/
structure Literal where
  value : Value
  type : ColumnType

namespace Literal

def null : Literal := ⟨.null, none⟩

/-- A constant under the type inferred from it. -/
def ofValue (v : Value) : Literal := ⟨v, v.inferType⟩

/-- A constant under a declared type. NULL alone has no type, and every other
constant belongs to its type. -/
def typed (v : Value) (t : ColumnType) : Except Error Literal :=
  if v.isNull ≠ t.isNone then .error (.literalNullness v t)
  else if !v.conforms t then .error (.literalMismatch v t)
  else .ok ⟨v, t⟩

/-- The integer of an INTEGER constant. -/
def integer? (l : Literal) : Option Int64 :=
  if l.type = some .integer then l.value.integer? else none

end Literal

inductive Expr (σ : Type) where
  | literal (l : Literal)
  | field (path : List String)
  | exists (sub : σ)
  | binary (op : BinaryOp) (left right : Expr σ)
  | not (e : Expr σ)
  | negate (e : Expr σ)
  | nullCheck (negated : Bool) (e : Expr σ)
  | inList (negated : Bool) (e : Expr σ) (elements : List (Expr σ))
  | case (branches : List (Expr σ × Expr σ)) (otherwise : Expr σ)
  | conditional (condition positive negative : Expr σ)
  | cast (e : Expr σ) (target : ScalarType)
  | extract (part : DatePart) (e : Expr σ)
  | struct (declared : Option (List (Field DataType))) (fields : List (Expr σ))
  | array (element : ColumnType) (elements : List (Expr σ)) (empty : Bool)
  | call (f : SqlFunction) (args : List (Expr σ))
  | analytic (f : SqlFunction) (args partitionBy : List (Expr σ))
      (orderBy : List (Expr σ × SortOrder))
  | selector (e : Expr σ) (label : Option String) (position : Option Nat)
  | groupedBy (e : Expr σ)

/-- An expression of a SELECT list. Its position counts from 1. -/
structure Selector (σ : Type) where
  expr : Expr σ
  label : Option String
  position : Option Nat

namespace Expr

variable {σ τ : Type}

/-! ## Parts -/

/-- Both expressions of every branch, in order. -/
def branchParts : List (Expr σ × Expr σ) → List (Expr σ)
  | [] => []
  | b :: bs => b.1 :: b.2 :: branchParts bs

/-- Direct parts, in the order they are written; subqueries are no parts. -/
def children : Expr σ → List (Expr σ)
  | literal _ | field _ | .exists _ => []
  | binary _ l r => [l, r]
  | not e | negate e | nullCheck _ e | cast e _ | extract _ e | selector e _ _
  | groupedBy e => [e]
  | inList _ e es => e :: es
  | case bs o => branchParts bs ++ [o]
  | conditional c p n => [c, p, n]
  | struct _ es => es
  | array _ es _ => es
  | call _ args => args
  | analytic _ args ps os => args ++ ps ++ os.map (·.1)

/-- The expression with every direct part replaced, from the first to the last. -/
def mapChildren {m : Type → Type} [Monad m] (f : Expr σ → m (Expr σ)) : Expr σ → m (Expr σ)
  | literal l => pure (literal l)
  | field p => pure (field p)
  | .exists s => pure (.exists s)
  | binary op l r => return binary op (← f l) (← f r)
  | not e => return not (← f e)
  | negate e => return negate (← f e)
  | nullCheck n e => return nullCheck n (← f e)
  | inList n e es => return inList n (← f e) (← es.mapM f)
  | case bs o => return case (← bs.mapM fun b => return (← f b.1, ← f b.2)) (← f o)
  | conditional c p n => return conditional (← f c) (← f p) (← f n)
  | cast e t => return cast (← f e) t
  | extract p e => return extract p (← f e)
  | struct d es => return struct d (← es.mapM f)
  | array t es b => return array t (← es.mapM f) b
  | call g args => return call g (← args.mapM f)
  | analytic g args ps os =>
    return analytic g (← args.mapM f) (← ps.mapM f) (← os.mapM fun k => return (← f k.1, k.2))
  | selector e a p => return selector (← f e) a p
  | groupedBy e => return groupedBy (← f e)

/-! ## Properties -/

mutual

/-- Whether a reducing call without a window occurs; subqueries are not searched. -/
def containsAggregate : Expr σ → Bool
  | literal _ | field _ | .exists _ => false
  | binary _ l r => l.containsAggregate || r.containsAggregate
  | not e | negate e | nullCheck _ e | cast e _ | extract _ e | selector e _ _
  | groupedBy e => e.containsAggregate
  | inList _ e es => e.containsAggregate || anyAggregate es
  | case bs o => anyAggregateBranch bs || o.containsAggregate
  | conditional c p n => c.containsAggregate || p.containsAggregate || n.containsAggregate
  | struct _ es => anyAggregate es
  | array _ es _ => anyAggregate es
  | call f args => f.isAggregating || anyAggregate args
  | analytic _ args ps os => anyAggregate args || anyAggregate ps || anyAggregateKey os

def anyAggregate : List (Expr σ) → Bool
  | [] => false
  | e :: es => e.containsAggregate || anyAggregate es

def anyAggregateBranch : List (Expr σ × Expr σ) → Bool
  | [] => false
  | (a, b) :: bs => a.containsAggregate || b.containsAggregate || anyAggregateBranch bs

def anyAggregateKey : List (Expr σ × SortOrder) → Bool
  | [] => false
  | (e, _) :: ks => e.containsAggregate || anyAggregateKey ks

end

/-- The column name an expression gives without an alias of its own. -/
def inferredName : Expr σ → Option String
  | field path => path.getLast?
  | selector e a p => a.or (p.map fun n => (inferredName e).getD ("_f" ++ toString n))
  | groupedBy e => inferredName e
  | _ => none

/-! ## Subqueries -/

mutual

/-- The expression with every subquery replaced. -/
def mapSub (f : σ → τ) : Expr σ → Expr τ
  | literal l => literal l
  | field p => field p
  | .exists s => .exists (f s)
  | binary op l r => binary op (mapSub f l) (mapSub f r)
  | not e => not (mapSub f e)
  | negate e => negate (mapSub f e)
  | nullCheck n e => nullCheck n (mapSub f e)
  | inList n e es => inList n (mapSub f e) (mapSubAll f es)
  | case bs o => case (mapSubBranches f bs) (mapSub f o)
  | conditional c p n => conditional (mapSub f c) (mapSub f p) (mapSub f n)
  | cast e t => cast (mapSub f e) t
  | extract p e => extract p (mapSub f e)
  | struct d es => struct d (mapSubAll f es)
  | array t es b => array t (mapSubAll f es) b
  | call g args => call g (mapSubAll f args)
  | analytic g args ps os =>
    analytic g (mapSubAll f args) (mapSubAll f ps) (mapSubKeys f os)
  | selector e a p => selector (mapSub f e) a p
  | groupedBy e => groupedBy (mapSub f e)

def mapSubAll (f : σ → τ) : List (Expr σ) → List (Expr τ)
  | [] => []
  | e :: es => mapSub f e :: mapSubAll f es

def mapSubBranches (f : σ → τ) : List (Expr σ × Expr σ) → List (Expr τ × Expr τ)
  | [] => []
  | (a, b) :: bs => (mapSub f a, mapSub f b) :: mapSubBranches f bs

def mapSubKeys (f : σ → τ) : List (Expr σ × SortOrder) → List (Expr τ × SortOrder)
  | [] => []
  | (e, o) :: ks => (mapSub f e, o) :: mapSubKeys f ks

end

end Expr

end ColumnarSql
