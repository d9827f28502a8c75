import ColumnarSql.Expr.Build

/-!
# Queries

The parts of a query are generic in what stands for a subquery and for a source,
so that a query before and after planning has the same shape. `Select` and
`Query` tie the knot: their expressions hold SELECTs and their sources hold
queries.
-/

set_option autoImplicit false

namespace ColumnarSql

/-! ## Parts -/

/-- `*`, or `e.*` for the columns of one table, without the excepted names and
with some names bound to other expressions. -/
structure Star (σ : Type) where
  of : Option (Expr σ)
  except : List String
  replace : List (Expr σ × String)

inductive SelectField (σ : Type) where
  | one (s : Selector σ)
  | star (s : Star σ)

/-- A SELECT over subqueries `σ` and a source `φ`. -/
structure SelectOf (σ φ : Type) where
  distinct : Bool
  fields : List (SelectField σ)
  source : Option φ
  condition : Option (Expr σ)
  groupBy : List (Expr σ)
  having : Option (Expr σ)

inductive JoinKind where
  | cross
  | inner
  | left
deriving DecidableEq

inductive JoinCondition (σ : Type) where
  | none
  | on (e : Expr σ)
  | using (names : List String)

/-- A query `q` in FROM with an optional alias. -/
structure FromItem (q : Type) where
  query : q
  label : Option String

structure JoinOf (σ q : Type) where
  kind : JoinKind
  item : FromItem q
  condition : JoinCondition σ

/-- A first item and the joins after it, from left to right. -/
structure SourceOf (σ q : Type) where
  first : FromItem q
  joins : List (JoinOf σ q)

inductive SetOperator where
  | unionAll
  | unionDistinct
  | intersectDistinct
  | exceptDistinct
deriving DecidableEq

/-- What follows a base query `q`: bindings, sort keys and row limits. -/
structure OrderedOf (σ q : Type) where
  bindings : List (String × q)
  base : q
  orderBy : List (Expr σ × SortOrder)
  limit : Option (Expr σ)
  offset : Option (Expr σ)

/-- A table path of one to three parts, none of them empty. -/
structure TableReference where
  path : List String
  one_to_three : 1 ≤ path.length ∧ path.length ≤ 3
  no_empty_part : ∀ p ∈ path, p ≠ ""

/-! ## The whole -/

mutual

inductive Select where
  | mk (body : SelectOf Select (SourceOf Select Query))

inductive Query where
  | table (r : TableReference)
  | select (s : Select)
  | combined (op : SetOperator) (left right : Query)
  | ordered (body : OrderedOf Select Query)

end

abbrev Source := SourceOf Select Query

/-! ## Names and text -/

namespace JoinKind

def name : JoinKind → String
  | cross => "CROSS JOIN"
  | inner => "INNER JOIN"
  | left => "LEFT OUTER JOIN"

end JoinKind

namespace SetOperator

def name : SetOperator → String
  | unionAll => "UNION ALL"
  | unionDistinct => "UNION DISTINCT"
  | intersectDistinct => "INTERSECT DISTINCT"
  | exceptDistinct => "EXCEPT DISTINCT"

def all : List SetOperator := [unionAll, unionDistinct, intersectDistinct, exceptDistinct]

def ofName? (s : String) : Option SetOperator := all.find? fun op => op.name = s

end SetOperator

namespace TableReference

/-- A reference by its written parts; a single part is split at its dots. -/
def ofParts (parts : List String) : Except Error TableReference :=
  let path := match parts with
    | [p] => Text.pathOf p
    | ps => ps
  if h : (1 ≤ path.length ∧ path.length ≤ 3) ∧ ∀ p ∈ path, p ≠ "" then
    .ok ⟨path, h.1, h.2⟩
  else .error (.invalidTablePath parts)

/-- The last part. -/
def tableName (r : TableReference) : String := r.path.getLastD ""

def render (r : TableReference) : String := Text.dotted r.path

end TableReference

namespace Star

variable {σ : Type}

def render (s : Star σ) : String :=
  s.of.elim "*" (fun e => e.render ++ ".*") ++
    (if s.except.isEmpty then "" else " EXCEPT (" ++ Text.joined ", " s.except ++ ")") ++
    (if s.replace.isEmpty then ""
     else " REPLACE (" ++
      Text.joined ", " (s.replace.map fun r => renderAs r.1.render (some r.2)) ++ ")")

end Star

end ColumnarSql
