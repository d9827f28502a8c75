import ColumnarSql.Proofs.Kernel
import ColumnarSql.Proofs.Parts
import ColumnarSql.QueryPlan

/-!
# Planned expressions

Planning replaces subqueries and nothing else, so the parts of a planned expression are the
planned parts (`children_planExpr`). `Query.exprs` lists the expressions a query evaluates,
apart from those of its subqueries in expressions.
-/

set_option autoImplicit false

namespace ColumnarSql

/-! ## Expressions of a query -/

/-- The expressions of a field of a SELECT list. -/
def SelectField.exprs {σ : Type} : SelectField σ → List (Expr σ)
  | one s => [s.expr]
  | star s => s.of.toList ++ s.replace.map (·.1)

/-- The expressions of a SELECT, without its source. -/
def SelectOf.exprs {σ φ : Type} (s : SelectOf σ φ) : List (Expr σ) :=
  s.fields.flatMap SelectField.exprs ++ s.condition.toList ++ s.groupBy ++ s.having.toList

def JoinCondition.exprs {σ : Type} : JoinCondition σ → List (Expr σ)
  | on e => [e]
  | _ => []

mutual

/-- The expressions of a query and of the queries in its FROM clauses. Bindings are left
out, since no query with bindings is evaluated. -/
def Query.exprs : Query → List (Expr Select)
  | .table _ => []
  | .select s => s.exprs
  | .combined _ left right => left.exprs ++ right.exprs
  | .ordered ⟨_, base, orderBy, limit, offset⟩ =>
    base.exprs ++ orderBy.map (·.1) ++ limit.toList ++ offset.toList

def Select.exprs : Select → List (Expr Select)
  | ⟨distinct, fields, source, condition, groupBy, having⟩ =>
    sourceExprs? source ++
      (⟨distinct, fields, none, condition, groupBy, having⟩ : SelectOf Select Unit).exprs

def sourceExprs? : Option Source → List (Expr Select)
  | none => []
  | some ⟨⟨q, _⟩, joins⟩ => q.exprs ++ joinExprs joins

def joinExprs : List (JoinOf Select Query) → List (Expr Select)
  | [] => []
  | ⟨_, ⟨q, _⟩, condition⟩ :: js => q.exprs ++ condition.exprs ++ joinExprs js

end

/-! ## Planned parts -/

variable (env : Session)

theorem planExprs_eq_map : ∀ es : List (Expr Select), planExprs env es = es.map (planExpr env)
  | [] => rfl
  | e :: es => by simp [planExprs, planExprs_eq_map es]

theorem branchParts_planBranches : ∀ bs : List (Expr Select × Expr Select),
    Expr.branchParts (planBranches env bs) = (Expr.branchParts bs).map (planExpr env)
  | [] => rfl
  | (c, r) :: bs => by simp [planBranches, Expr.branchParts, branchParts_planBranches bs]

theorem planBranches_eq_map : ∀ bs : List (Expr Select × Expr Select),
    planBranches env bs = bs.map fun b => (planExpr env b.1, planExpr env b.2)
  | [] => rfl
  | (c, r) :: bs => by simp [planBranches, planBranches_eq_map bs]

theorem planKeys_eq_map : ∀ ks : List (Expr Select × SortOrder),
    planKeys env ks = ks.map fun k => (planExpr env k.1, k.2)
  | [] => rfl
  | (e, o) :: ks => by simp [planKeys, planKeys_eq_map ks]

theorem planReplacements_eq_map : ∀ rs : List (Expr Select × String),
    planReplacements env rs = rs.map fun r => (planExpr env r.1, r.2)
  | [] => rfl
  | (e, n) :: rs => by simp [planReplacements, planReplacements_eq_map rs]

theorem children_planExpr (e : Expr Select) :
    (planExpr env e).children = e.children.map (planExpr env) := by
  cases e <;>
    simp [planExpr, Expr.children, planExprs_eq_map, branchParts_planBranches, planKeys_eq_map]

/-- What holds of every part of an expression holds of the planned parts. -/
theorem every_planExpr {p : Expr Select → Prop} {q : Expr Plan → Prop}
    (hpq : ∀ e, p e → q (planExpr env e)) {e : Expr Select} (h : e.Every p) :
    (planExpr env e).Every q := by
  induction h with
  | @intro e self _ ih =>
    refine .intro (hpq e self) ?_
    rw [children_planExpr, List.forall_mem_map]
    exact ih

/-- What holds of the expression or of a part of it holds of the planned one. -/
theorem contains_planExpr {p : Expr Select → Prop} {q : Expr Plan → Prop}
    (hpq : ∀ e, p e → q (planExpr env e)) {e : Expr Select} (h : e.Contains p) :
    (planExpr env e).Contains q := by
  induction h with
  | self h => exact .self (hpq _ h)
  | part hc _ ih =>
    refine .part ?_ ih
    rw [children_planExpr]
    exact List.mem_map_of_mem hc

theorem takes_planExprs {f : SqlFunction} {args : List (Expr Select)} (h : f.Takes args) :
    f.Takes (planExprs env args) := by
  obtain ⟨written, harity, rfl⟩ := h
  refine ⟨planExprs env written, by simpa [planExprs_eq_map] using harity, ?_⟩
  cases written <;> rfl

theorem isBuilt_planExpr {e : Expr Select} (h : e.IsBuilt) : (planExpr env e).IsBuilt := by
  cases e with
  | call f args => exact takes_planExprs env h
  | analytic f args ps os => exact takes_planExprs env h
  | _ => trivial

theorem isOperation_planExpr (e : Expr Select) : (planExpr env e).isOperation = e.isOperation := by
  cases e <;> rfl

/-- An expression whose subqueries have the same plans in two sessions has the same plan. -/
theorem planExpr_congr {env' : Session} {e : Expr Select}
    (he : e.Every fun d => ∀ s, d = .exists s → s.plan env = s.plan env') :
    planExpr env e = planExpr env' e := by
  induction he with
  | @intro e self _ ih =>
    have hmap : ∀ es : List (Expr Select), (∀ c ∈ es, c ∈ e.children) →
        es.map (planExpr env) = es.map (planExpr env') :=
      fun es hes => List.map_congr_left fun c hc => ih c (hes c hc)
    cases e with
    | «exists» s => rw [planExpr, planExpr, self s rfl]
    | literal l | field path => rfl
    | inList n e es =>
      simp only [planExpr, planExprs_eq_map, ih e (by simp [Expr.children]),
        hmap es (by simp +contextual [Expr.children])]
    | case bs o =>
      have hbranches : bs.map (fun b => (planExpr env b.1, planExpr env b.2)) =
          bs.map fun b => (planExpr env' b.1, planExpr env' b.2) :=
        List.map_congr_left fun b hb => by
          obtain ⟨hc, hr⟩ := Expr.mem_branchParts hb
          rw [ih b.1 (by simp [Expr.children, hc]), ih b.2 (by simp [Expr.children, hr])]
      simp only [planExpr, planBranches_eq_map, hbranches, ih o (by simp [Expr.children])]
    | struct d es | array t es empty | call f es =>
      simp only [planExpr, planExprs_eq_map, hmap es (by simp [Expr.children])]
    | analytic f args ps os =>
      have hkeys : os.map (fun k => (planExpr env k.1, k.2)) =
          os.map fun k => (planExpr env' k.1, k.2) :=
        List.map_congr_left fun k hk => by
          rw [ih k.1 (by simpa [Expr.children] using .inr (.inr ⟨k.2, hk⟩))]
      simp only [planExpr, planExprs_eq_map, planKeys_eq_map, hkeys,
        hmap args (by simp +contextual [Expr.children]),
        hmap ps (by simp +contextual [Expr.children])]
    | not e | negate e | nullCheck n e | cast e t | extract p e | selector e l p | groupedBy e =>
      simp only [planExpr, ih e (by simp [Expr.children])]
    | binary op l r =>
      simp only [planExpr, ih l (by simp [Expr.children]), ih r (by simp [Expr.children])]
    | conditional c p n =>
      simp only [planExpr, ih c (by simp [Expr.children]), ih p (by simp [Expr.children]),
        ih n (by simp [Expr.children])]

/-- A field whose subqueries are planned. -/
def SelectField.planned : SelectField Select → SelectField Plan
  | .one x => .one ⟨planExpr env x.expr, x.label, x.position⟩
  | .star x => .star ⟨x.of.map (planExpr env), x.except,
      x.replace.map fun r => (planExpr env r.1, r.2)⟩

theorem planExpr?_eq_map (e? : Option (Expr Select)) :
    planExpr? env e? = e?.map (planExpr env) := by
  cases e? <;> rfl

theorem planFields_eq_map : ∀ fs : List (SelectField Select),
    planFields env fs = fs.map (SelectField.planned env)
  | [] => rfl
  | .one _ :: fs => by simp [planFields, SelectField.planned, planFields_eq_map fs]
  | .star _ :: fs => by
    simp [planFields, SelectField.planned, planFields_eq_map fs, planExpr?_eq_map,
      planReplacements_eq_map]

theorem planFields_append (fs gs : List (SelectField Select)) :
    planFields env (fs ++ gs) = planFields env fs ++ planFields env gs := by
  simp [planFields_eq_map]

def JoinCondition.planned : JoinCondition Select → JoinCondition Plan
  | .none => .none
  | .on e => .on (planExpr env e)
  | .using names => .using names

/-- A join whose item is evaluated and whose condition is planned. -/
def JoinOf.planned (j : JoinOf Select Query) : JoinOf Plan (Except Error NamedTable) :=
  ⟨j.kind, ⟨j.item.query.run env, j.item.label⟩, j.condition.planned env⟩

theorem planJoins_eq_map : ∀ js : List (JoinOf Select Query),
    planJoins env js = js.map (JoinOf.planned env)
  | [] => rfl
  | ⟨_, _, condition⟩ :: js => by
    cases condition <;> simp [planJoins, planJoins_eq_map js, JoinOf.planned, JoinCondition.planned]

/-- Only whether there are bindings is ever looked at. -/
theorem isEmpty_runBindings (bs : List (String × Query)) :
    (runBindings env bs).isEmpty = bs.isEmpty := by
  cases bs <;> simp [runBindings]

theorem flatMap_exprs_planFields : ∀ fs : List (SelectField Select),
    (planFields env fs).flatMap SelectField.exprs =
      (fs.flatMap SelectField.exprs).map (planExpr env)
  | [] => rfl
  | .one ⟨e, label, position⟩ :: fs => by
    simp [planFields, SelectField.exprs, flatMap_exprs_planFields fs]
  | .star ⟨e?, except, replace⟩ :: fs => by
    cases e? <;>
      simp [planFields, SelectField.exprs, planExpr?, planReplacements_eq_map,
        flatMap_exprs_planFields fs]

/-! ## Planned queries -/

namespace SelectOf

/-- A SELECT whose subqueries and source are planned. -/
def planned (env : Session) (s : SelectOf Select Source) : SelectOf Plan (Except Error Frame) where
  distinct := s.distinct
  fields := planFields env s.fields
  source := planSource? env s.source
  condition := planExpr? env s.condition
  groupBy := planExprs env s.groupBy
  having := planExpr? env s.having

theorem plan_mk (env : Session) (s : SelectOf Select Source) :
    (Select.mk s).plan env = run env.now (s.planned env) := by
  rw [Select.plan]
  rfl

end SelectOf

end ColumnarSql
