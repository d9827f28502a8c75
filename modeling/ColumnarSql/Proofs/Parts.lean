import ColumnarSql.Expr.Build
import ColumnarSql.Proofs.Success

/-!
# Properties of every part

`Every p e` says that `p` holds of `e` and of all parts inside it. Its induction is
the induction over an expression through `children`, so a theorem about expressions
needs one case for the leaves and one for the nodes. `Contains p e` says that `p` holds of
`e` or of some part inside it.
-/

set_option autoImplicit false

namespace ColumnarSql

/-- What the arguments of a call are once it is built: as many as the function takes, with one
constant in the place of none. -/
def SqlFunction.Takes {σ : Type} (f : SqlFunction) (args : List (Expr σ)) : Prop :=
  ∃ written : List (Expr σ), f.checkArity written.length = .ok () ∧
    args = if written.isEmpty then [Expr.ofValue (.integer 1)] else written

/-- A reducing function takes exactly one argument. -/
theorem SqlFunction.Takes.one {σ : Type} {f : SqlFunction} {args : List (Expr σ)}
    (h : f.Takes args) (hf : f.isAggregating) : ∃ e, args = [e] := by
  obtain ⟨written, harity, rfl⟩ := h
  have hone : written.length = 1 := by
    by_contra hne
    simp [checkArity, hf, hne] at harity
  obtain ⟨e, rfl⟩ := List.length_eq_one_iff.mp hone
  exact ⟨e, rfl⟩

namespace Expr

variable {σ : Type}

/-- A property of an expression and of all its parts; subqueries are not searched. -/
inductive Every (p : Expr σ → Prop) : Expr σ → Prop where
  | intro {e : Expr σ} (self : p e) (parts : ∀ c ∈ e.children, Every p c) : Every p e

theorem Every.self {p : Expr σ → Prop} {e : Expr σ} : e.Every p → p e
  | .intro h _ => h

theorem Every.part {p : Expr σ → Prop} {e c : Expr σ} : e.Every p → c ∈ e.children → c.Every p
  | .intro _ h, hc => h c hc

theorem Every.leaf {p : Expr σ → Prop} {e : Expr σ} (h : p e) (hc : e.children = []) :
    e.Every p :=
  .intro h (by simp [hc])

theorem Every.mono {p q : Expr σ → Prop} (hpq : ∀ e, p e → q e) {e : Expr σ}
    (h : e.Every p) : e.Every q := by
  induction h with
  | intro self _ ih => exact .intro (hpq _ self) ih

/-- What follows from a property of all parts holds of all parts. -/
theorem Every.of_every {p q : Expr σ → Prop} (hpq : ∀ e, e.Every p → q e) {e : Expr σ}
    (h : e.Every p) : e.Every q := by
  induction h with
  | intro self parts ih => exact .intro (hpq _ (.intro self parts)) ih

theorem Every.and {p q : Expr σ → Prop} {e : Expr σ} (hp : e.Every p) (hq : e.Every q) :
    e.Every fun d => p d ∧ q d := by
  induction hp with
  | intro self _ ih => exact .intro ⟨self, hq.self⟩ fun c hc => ih c hc (hq.part hc)

/-- A property of the expression or of a part inside it; subqueries are not searched. -/
inductive Contains (p : Expr σ → Prop) : Expr σ → Prop where
  | self {e : Expr σ} (h : p e) : Contains p e
  | part {e c : Expr σ} (hc : c ∈ e.children) (h : Contains p c) : Contains p e

theorem mem_branchParts {b : Expr σ × Expr σ} : ∀ {bs : List (Expr σ × Expr σ)}, b ∈ bs →
    b.1 ∈ branchParts bs ∧ b.2 ∈ branchParts bs
  | b' :: bs, h => by
    rcases List.mem_cons.mp h with rfl | h
    · simp [branchParts]
    · simp [branchParts, mem_branchParts h]

theorem exists_of_mem_branchParts {c : Expr σ} : ∀ {bs : List (Expr σ × Expr σ)},
    c ∈ branchParts bs → ∃ b ∈ bs, c = b.1 ∨ c = b.2
  | b :: bs, h => by
    rcases List.mem_cons.mp h with rfl | h
    · exact ⟨b, List.mem_cons_self, .inl rfl⟩
    · rcases List.mem_cons.mp h with rfl | h
      · exact ⟨b, List.mem_cons_self, .inr rfl⟩
      · obtain ⟨b', hb', hc⟩ := exists_of_mem_branchParts h
        exact ⟨b', List.mem_cons_of_mem b hb', hc⟩

theorem sizeOf_lt_of_mem_children {e c : Expr σ} (h : c ∈ e.children) : sizeOf c < sizeOf e := by
  cases e with
  | literal | field | «exists» => simp [children] at h
  | not | negate | nullCheck | cast | extract | selector | groupedBy =>
    obtain rfl := List.mem_singleton.mp h
    simp +arith
  | binary op l r =>
    rcases by simpa [children] using h with rfl | rfl
    all_goals simp +arith
  | conditional a p n =>
    rcases by simpa [children] using h with rfl | rfl | rfl
    all_goals simp +arith
  | struct d es | call f es | array t es empty =>
    have hlt := List.sizeOf_lt_of_mem h
    simp only [children, struct.sizeOf_spec, call.sizeOf_spec, array.sizeOf_spec] at hlt ⊢
    omega
  | inList n e es =>
    rcases List.mem_cons.mp h with rfl | h
    · simp +arith
    · have hlt := List.sizeOf_lt_of_mem h
      simp only [inList.sizeOf_spec]
      omega
  | case bs o =>
    rcases List.mem_append.mp h with h | h
    · obtain ⟨⟨d, r⟩, hb, rfl | rfl⟩ := exists_of_mem_branchParts h
      all_goals
        have hlt := List.sizeOf_lt_of_mem hb
        simp only [Prod.mk.sizeOf_spec, case.sizeOf_spec] at hlt ⊢
        omega
    · obtain rfl := List.mem_singleton.mp h
      simp +arith
  | analytic f args ps os =>
    rcases List.mem_append.mp h with h | h
    · rcases List.mem_append.mp h with h | h
      all_goals
        have hlt := List.sizeOf_lt_of_mem h
        simp only [analytic.sizeOf_spec]
        omega
    · obtain ⟨⟨e, o⟩, hk, rfl⟩ := List.mem_map.mp h
      have hlt := List.sizeOf_lt_of_mem hk
      simp only [Prod.mk.sizeOf_spec, analytic.sizeOf_spec] at hlt ⊢
      omega

/-- Induction over an expression through its parts. -/
theorem parts_induction {motive : Expr σ → Prop}
    (step : ∀ e, (∀ c ∈ e.children, motive c) → motive e) (e : Expr σ) : motive e :=
  step e fun c _ => parts_induction step c
termination_by sizeOf e
decreasing_by exact sizeOf_lt_of_mem_children ‹_›

/-! ## Kinds of nodes -/

def isReducingCall : Expr σ → Bool
  | call f _ => f.isAggregating
  | _ => false

def isWindowCall : Expr σ → Bool
  | analytic .. => true
  | _ => false

def isMark : Expr σ → Bool
  | groupedBy _ => true
  | _ => false

def isSubquery : Expr σ → Bool
  | .exists _ => true
  | _ => false

/-- A node whose value in a row needs no other row. -/
def isRowWise (e : Expr σ) : Bool := !e.isReducingCall && !e.isWindowCall

/-- A call has the arguments that `callOf` gives it. -/
def IsBuilt : Expr σ → Prop
  | call f args => f.Takes args
  | analytic f args _ _ => f.Takes args
  | _ => True

theorem isBuilt_callOf {f : SqlFunction} {args : List (Expr σ)} {window : Option (Window σ)}
    {e : Expr σ} (h : callOf f args window = .ok e) : e.IsBuilt := by
  obtain ⟨u, harity, h⟩ := bind_eq_ok.mp h
  obtain rfl := pure_eq_ok.mp h
  cases window <;> exact ⟨args, harity, rfl⟩

/-! ## Reducing calls -/

theorem anyAggregate_eq_any : ∀ es : List (Expr σ), anyAggregate es = es.any containsAggregate
  | [] => rfl
  | e :: es => by rw [anyAggregate, anyAggregate_eq_any es, List.any_cons]

theorem anyAggregateBranch_eq_any : ∀ bs : List (Expr σ × Expr σ),
    anyAggregateBranch bs = (branchParts bs).any containsAggregate
  | [] => rfl
  | (c, r) :: bs => by
    rw [anyAggregateBranch, anyAggregateBranch_eq_any bs, branchParts, List.any_cons,
      List.any_cons, Bool.or_assoc]

theorem anyAggregateKey_eq_any : ∀ ks : List (Expr σ × SortOrder),
    anyAggregateKey ks = (ks.map (·.1)).any containsAggregate
  | [] => rfl
  | (e, o) :: ks => by
    rw [anyAggregateKey, anyAggregateKey_eq_any ks, List.map_cons, List.any_cons]

/-- A reducing call occurs at the node or in one of its parts. -/
theorem containsAggregate_eq (e : Expr σ) :
    e.containsAggregate = (e.isReducingCall || e.children.any containsAggregate) := by
  cases e <;>
    simp [containsAggregate, isReducingCall, children, anyAggregate_eq_any,
      anyAggregateBranch_eq_any, anyAggregateKey_eq_any, Bool.or_assoc]

/-- An expression of nodes that are no reducing calls contains none. -/
theorem containsAggregate_of_every {e : Expr σ} (h : e.Every fun d => d.isReducingCall = false) :
    e.containsAggregate = false := by
  induction h with
  | intro self _ ih =>
    rw [containsAggregate_eq, self, Bool.false_or, List.any_eq_false]
    exact fun c hc => by simp [ih c hc]

end Expr

end ColumnarSql
