import ColumnarSql.Expr.Text

/-!
# Grouping marks

After grouping, a part of an expression that names a grouping key is marked to
be read once per group. Constants, subqueries, reducing calls and marked parts
stay as they are; elsewhere the marks are set inside. `eraseMarks` takes every
mark away.
-/

set_option autoImplicit false

namespace ColumnarSql.Expr

variable {σ : Type}

mutual

/-- Sets the marks; `isKey` says whether a path names a grouping key. -/
def mark (isKey : List String → Except Error Bool) : Expr σ → Except Error (Expr σ)
  | literal l => .ok (literal l)
  | .exists s => .ok (.exists s)
  | groupedBy e => .ok (groupedBy e)
  | field path => do
    if ← isKey path then return groupedBy (field path) else return field path
  | selector e label position => do
    let name ← Selector.name ⟨e, label, position⟩
    if ← isKey [name] then return groupedBy (selector e label position)
    else return selector (← e.mark isKey) label position
  | binary op l r => return binary op (← l.mark isKey) (← r.mark isKey)
  | not e => return not (← e.mark isKey)
  | negate e => return negate (← e.mark isKey)
  | nullCheck n e => return nullCheck n (← e.mark isKey)
  | inList n e es => return inList n (← e.mark isKey) (← markAll isKey es)
  | case bs o => return case (← markBranches isKey bs) (← o.mark isKey)
  | conditional c p n =>
    return conditional (← c.mark isKey) (← p.mark isKey) (← n.mark isKey)
  | cast e t => return cast (← e.mark isKey) t
  | extract p e => return extract p (← e.mark isKey)
  | struct d es => return struct d (← markAll isKey es)
  | array t es empty => return array t (← markAll isKey es) empty
  | call f args =>
    if f.isAggregating then .ok (call f args) else return call f (← markAll isKey args)
  | analytic f args ps os =>
    return analytic f (← markAll isKey args) (← markAll isKey ps) (← markKeys isKey os)

def markAll (isKey : List String → Except Error Bool) :
    List (Expr σ) → Except Error (List (Expr σ))
  | [] => .ok []
  | e :: es => return (← e.mark isKey) :: (← markAll isKey es)

def markBranches (isKey : List String → Except Error Bool) :
    List (Expr σ × Expr σ) → Except Error (List (Expr σ × Expr σ))
  | [] => .ok []
  | (a, b) :: bs => return (← a.mark isKey, ← b.mark isKey) :: (← markBranches isKey bs)

def markKeys (isKey : List String → Except Error Bool) :
    List (Expr σ × SortOrder) → Except Error (List (Expr σ × SortOrder))
  | [] => .ok []
  | (e, o) :: ks => return (← e.mark isKey, o) :: (← markKeys isKey ks)

end

mutual

/-- The expression without grouping marks. -/
def eraseMarks : Expr σ → Expr σ
  | literal l => literal l
  | .exists s => .exists s
  | field path => field path
  | groupedBy e => e.eraseMarks
  | selector e label position => selector e.eraseMarks label position
  | binary op l r => binary op l.eraseMarks r.eraseMarks
  | not e => not e.eraseMarks
  | negate e => negate e.eraseMarks
  | nullCheck n e => nullCheck n e.eraseMarks
  | inList n e es => inList n e.eraseMarks (eraseMarksAll es)
  | case bs o => case (eraseMarksBranches bs) o.eraseMarks
  | conditional c p n => conditional c.eraseMarks p.eraseMarks n.eraseMarks
  | cast e t => cast e.eraseMarks t
  | extract p e => extract p e.eraseMarks
  | struct d es => struct d (eraseMarksAll es)
  | array t es empty => array t (eraseMarksAll es) empty
  | call f args => call f (eraseMarksAll args)
  | analytic f args ps os =>
    analytic f (eraseMarksAll args) (eraseMarksAll ps) (eraseMarksKeys os)

def eraseMarksAll : List (Expr σ) → List (Expr σ)
  | [] => []
  | e :: es => e.eraseMarks :: eraseMarksAll es

def eraseMarksBranches : List (Expr σ × Expr σ) → List (Expr σ × Expr σ)
  | [] => []
  | (a, b) :: bs => (a.eraseMarks, b.eraseMarks) :: eraseMarksBranches bs

def eraseMarksKeys : List (Expr σ × SortOrder) → List (Expr σ × SortOrder)
  | [] => []
  | (e, o) :: ks => (e.eraseMarks, o) :: eraseMarksKeys ks

end

end ColumnarSql.Expr
