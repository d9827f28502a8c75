import ColumnarSql.Query.Basic

/-!
# Building queries

Constructors that check what a query must satisfy before it is evaluated.
-/

set_option autoImplicit false

namespace ColumnarSql

namespace SelectField

variable {σ : Type}

/-- A field under its place in the SELECT list, which counts from 1. -/
def placed (position : Nat) : SelectField σ → SelectField σ
  | one s => one { s with position := some position }
  | star s => star s

end SelectField

namespace SelectOf

variable {σ φ : Type}

/-- The first sort of key that no grouping accepts: a constant that is no integer. -/
def checkGroupBy : List (Expr σ) → Except Error Unit
  | [] => .ok ()
  | .literal l :: es =>
    if l.integer?.isNone then .error (.groupByConstant l.render) else checkGroupBy es
  | _ :: es => checkGroupBy es

/-- A SELECT whose fields take their places and whose grouping keys are checked. -/
def build (s : SelectOf σ φ) : Except Error (SelectOf σ φ) := do
  checkGroupBy s.groupBy
  return { s with fields := s.fields.zipIdx.map fun p => p.1.placed (p.2 + 1) }

end SelectOf

namespace JoinOf

variable {σ q : Type}

/-- A cross join takes no condition, and every other join needs one. -/
def build (kind : JoinKind) (item : FromItem q) (condition : JoinCondition σ) :
    Except Error (JoinOf σ q) :=
  match kind, condition with
  | .cross, .none => .ok ⟨kind, item, .none⟩
  | .cross, _ => .error .crossJoinCondition
  | kind, .none => .error (.joinWithoutCondition kind.name)
  | kind, condition => .ok ⟨kind, item, condition⟩

/-- A cross join written with a comma. -/
def comma (item : FromItem q) : JoinOf σ q := ⟨.cross, item, .none⟩

end JoinOf

end ColumnarSql
