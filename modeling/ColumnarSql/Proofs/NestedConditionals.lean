import ColumnarSql.Proofs.CoercionOrder
import ColumnarSql.Proofs.ResultShapes
import ColumnarSql.Proofs.Widening

/-!
# CASE as nested IFs

A conditional chooses a result in each row, widens it to the common type of all results, and has the
common shape of all its operands (`Evaluated.Chooses`). The first condition and the first result of
it can be split off: what is left is a conditional by itself, and stands as the last result of a
conditional with one condition (`chooses_cons_cons`). For that types are joined in another grouping,
and so are shapes, and a value is widened twice on the way. So CASE evaluates as the nested IFs of
its branches do (`Expr.eval_case_iff_nested`), in every scope of uniform frames.
-/

set_option autoImplicit false

namespace ColumnarSql

/-! ## Choices -/

namespace Evaluated

variable {σ : Type}

theorem choose_cons_cons {c : Value} (hc : c ≠ .boolean true) (r : Value) (rest : List Value) :
    choose (c :: r :: rest) = choose rest := by
  rw [choose]
  exact hc

/-- The later results may be chosen from first, and widened before the last widening. -/
theorem widen_choose_choose (c r : Value) (rest : List Value) {t u : ColumnType}
    (h : ColumnType.Below t u) :
    (choose [c, r, (choose rest).widen t]).widen u = (choose (c :: r :: rest)).widen u := by
  by_cases hc : c = .boolean true
  · subst hc
    rfl
  · rw [choose_cons_cons hc, choose_cons_cons hc, choose, Value.widen_widen _ h]

/-- The result of a conditional on conditions and results in turn, and a last result. -/
def Chooses (args : List Evaluated) (a : Evaluated) : Prop :=
  ∃ t, ColumnType.coerceAll ((resultsOf args).map type) = .ok t ∧
    ∃ s, Shape.joinAll? (args.map shape) = some s ∧
      s.fill t (fun i => (choose (row args i)).widen t) = a

theorem conditional_eq_ok_iff {e : Expr σ} {args : List Evaluated} {a : Evaluated} :
    conditional e args = .ok a ↔ Chooses args a := by
  simp only [conditional, bind_eq_ok, mapRows_eq_ok_iff, Chooses]

/-- The rows of the whole are rows of the operands that are left. -/
theorem hasRow_of_joinAll? {rows : Nat → Nat} {c r : Evaluated} {args : List Evaluated}
    (hspans : ∀ a ∈ c :: r :: args, a.Spans rows) {s w : Shape}
    (hw : Shape.joinAll? (args.map shape) = some w)
    (hs : Shape.joinAll? ((c :: r :: args).map shape) = some s) {i : Nat} (hi : s.HasRow i) :
    w.HasRow i := by
  obtain ⟨hc, hspans⟩ := List.forall_mem_cons.mp hspans
  obtain ⟨hr, hargs⟩ := List.forall_mem_cons.mp hspans
  obtain ⟨v, hv, hs⟩ := Option.bind_eq_some_iff.mp hs
  have hv : r.shape.join? w = some v := by simpa [hw] using hv
  have hwspans : w.Spans rows := Shape.spans_of_joinAll? (List.forall_mem_map.mpr hargs) hw
  have hvspans : v.Spans rows := Shape.spans_of_join? hr hwspans hv
  exact (Shape.HasRow.of_join? hr hwspans hv (Shape.HasRow.of_join? hc hvspans hs hi).2).2

/-- The values chosen from the results that are left first are those chosen from all. -/
theorem fill_choose_choose {rows : Nat → Nat} {c r : Evaluated} {args : List Evaluated}
    (hspans : ∀ a ∈ c :: r :: args, a.Spans rows) {t u : ColumnType} (h : ColumnType.Below t u)
    {s w : Shape} (hw : Shape.joinAll? (args.map shape) = some w)
    (hs : Shape.joinAll? ((c :: r :: args).map shape) = some s) :
    s.fill u (fun i =>
        (choose (row [c, r, w.fill t fun i => (choose (row args i)).widen t] i)).widen u) =
      s.fill u (fun i => (choose (row (c :: r :: args) i)).widen u) := by
  refine Shape.fill_congr fun i hi => ?_
  have hcell := cell_fill_row t (fun row => (choose row).widen t) hw
    (hasRow_of_joinAll? hspans hw hs hi)
  simp only [row, List.map_cons, List.map_nil] at hcell ⊢
  rw [hcell, widen_choose_choose _ _ _ h]

/-- A conditional is one on its first condition and result and the conditional on the others. -/
theorem chooses_cons_cons {rows : Nat → Nat} {c r : Evaluated} {args : List Evaluated}
    (hspans : ∀ a ∈ c :: r :: args, a.Spans rows) {a : Evaluated} :
    Chooses (c :: r :: args) a ↔ ∃ b, Chooses args b ∧ Chooses [c, r, b] a := by
  constructor
  · rintro ⟨u, hu, s, hs, rfl⟩
    obtain ⟨t, ht, hu⟩ := ColumnType.coerceAll_cons_eq_ok_iff.mp hu
    obtain ⟨v, hv, hcv⟩ := Option.bind_eq_some_iff.mp hs
    obtain ⟨w, hw, hrw⟩ := Option.bind_eq_some_iff.mp hv
    refine ⟨_, ⟨t, ht, w, hw, rfl⟩, u, by simpa [resultsOf] using hu, s, by simp [hrw, hcv], ?_⟩
    exact fill_choose_choose hspans (ColumnType.below_coerceAll hu (by simp)) hw hs
  · rintro ⟨-, ⟨t, ht, w, hw, rfl⟩, u, hu, s, hs, rfl⟩
    have hu : ColumnType.coerceAll [r.type, t] = .ok u := by simpa [resultsOf] using hu
    have hs : Shape.joinAll? ((c :: r :: args).map shape) = some s := by simpa [hw] using hs
    refine ⟨u, ColumnType.coerceAll_cons_eq_ok_iff.mpr ⟨t, ht, hu⟩, s, hs, ?_⟩
    exact (fill_choose_choose hspans (ColumnType.below_coerceAll hu (by simp)) hw hs).symm

end Evaluated

/-! ## Evaluation -/

namespace Expr

variable {now : Moment} {s : Scope} {a : Evaluated}

/-- IF for every branch, one inside the other. -/
def nested {σ : Type} : List (Expr σ × Expr σ) → Expr σ → Expr σ
  | [], o => o
  | (c, r) :: bs, o => conditional c r (nested bs o)

theorem eval_conditional_eq_ok_iff {c p n : Expr Plan} :
    (conditional c p n).eval now s = .ok a ↔
      ∃ x, c.eval now s = .ok x ∧ OperandClass.boolean.admits x.type ∧
        ∃ y, p.eval now s = .ok y ∧ ∃ z, n.eval now s = .ok z ∧ Evaluated.Chooses [x, y, z] a := by
  simp only [eval, bind_eq_ok, Evaluated.requireCondition_eq_ok, Evaluated.conditional_eq_ok_iff,
    exists_const]

theorem eval_case_eq_ok_iff {bs : List (Expr Plan × Expr Plan)} {o : Expr Plan} :
    (case bs o).eval now s = .ok a ↔
      ∃ args, evalBranches now bs s = .ok args ∧
        ∃ z, o.eval now s = .ok z ∧ Evaluated.Chooses (args ++ [z]) a := by
  simp only [eval, bind_eq_ok, Evaluated.conditional_eq_ok_iff]

theorem evalBranches_cons_eq_ok_iff {c r : Expr Plan} {bs : List (Expr Plan × Expr Plan)}
    {args : List Evaluated} :
    evalBranches now ((c, r) :: bs) s = .ok args ↔
      ∃ x, c.eval now s = .ok x ∧ OperandClass.boolean.admits x.type ∧
        ∃ y, r.eval now s = .ok y ∧ ∃ rest, evalBranches now bs s = .ok rest ∧
          x :: y :: rest = args := by
  simp only [evalBranches, bind_eq_ok, pure_eq_ok, Evaluated.requireCondition_eq_ok, exists_const]

theorem spans_evalBranches (hs : ∀ f ∈ s.frames, f.Uniform) :
    ∀ {bs : List (Expr Plan × Expr Plan)} {args : List Evaluated},
      evalBranches now bs s = .ok args → ∀ b ∈ args, b.Spans (rowsAt s.frames)
  | [], args, h => by
    obtain rfl := Except.ok.inj h
    simp
  | (c, r) :: bs, args, h => by
    obtain ⟨x, hx, -, y, hy, rest, hrest, rfl⟩ := evalBranches_cons_eq_ok_iff.mp h
    simp only [List.forall_mem_cons]
    exact ⟨eval_spans hs c hx, eval_spans hs r hy, spans_evalBranches hs hrest⟩

/-- CASE with one branch is IF. -/
theorem eval_case_one {c r o : Expr Plan} :
    (case [(c, r)] o).eval now s = .ok a ↔ (conditional c r o).eval now s = .ok a := by
  rw [eval_case_eq_ok_iff, eval_conditional_eq_ok_iff]
  constructor
  · rintro ⟨args, hargs, z, hz, h⟩
    obtain ⟨x, hx, hcondition, y, hy, rest, hrest, rfl⟩ := evalBranches_cons_eq_ok_iff.mp hargs
    obtain rfl := Except.ok.inj hrest
    exact ⟨x, hx, hcondition, y, hy, z, hz, h⟩
  · rintro ⟨x, hx, hcondition, y, hy, z, hz, h⟩
    have hargs : evalBranches now [(c, r)] s = .ok [x, y] :=
      evalBranches_cons_eq_ok_iff.mpr ⟨x, hx, hcondition, y, hy, [], rfl, rfl⟩
    exact ⟨[x, y], hargs, z, hz, h⟩

/-- The first branch of CASE can be split off as an IF. -/
theorem eval_case_cons (hs : ∀ f ∈ s.frames, f.Uniform) {c r o : Expr Plan}
    {bs : List (Expr Plan × Expr Plan)} :
    (case ((c, r) :: bs) o).eval now s = .ok a ↔
      (conditional c r (case bs o)).eval now s = .ok a := by
  have hsplit : ∀ {x y z : Evaluated} {rest : List Evaluated}, c.eval now s = .ok x →
      r.eval now s = .ok y → evalBranches now bs s = .ok rest → o.eval now s = .ok z →
        (Evaluated.Chooses (x :: y :: (rest ++ [z])) a ↔
          ∃ b, Evaluated.Chooses (rest ++ [z]) b ∧ Evaluated.Chooses [x, y, b] a) := by
    intro x y z rest hx hy hrest hz
    have hspans : ∀ b ∈ x :: y :: (rest ++ [z]), b.Spans (rowsAt s.frames) := by
      simp only [List.forall_mem_cons, List.forall_mem_append]
      exact ⟨eval_spans hs c hx, eval_spans hs r hy, spans_evalBranches hs hrest,
        eval_spans hs o hz, by simp⟩
    exact Evaluated.chooses_cons_cons hspans
  rw [eval_case_eq_ok_iff, eval_conditional_eq_ok_iff]
  constructor
  · rintro ⟨args, hargs, z, hz, h⟩
    obtain ⟨x, hx, hcondition, y, hy, rest, hrest, rfl⟩ := evalBranches_cons_eq_ok_iff.mp hargs
    obtain ⟨b, hb, h⟩ := (hsplit hx hy hrest hz).mp h
    exact ⟨x, hx, hcondition, y, hy, b, eval_case_eq_ok_iff.mpr ⟨rest, hrest, z, hz, hb⟩, h⟩
  · rintro ⟨x, hx, hcondition, y, hy, b, hb, h⟩
    obtain ⟨rest, hrest, z, hz, hb⟩ := eval_case_eq_ok_iff.mp hb
    have hargs : evalBranches now ((c, r) :: bs) s = .ok (x :: y :: rest) :=
      evalBranches_cons_eq_ok_iff.mpr ⟨x, hx, hcondition, y, hy, rest, hrest, rfl⟩
    exact ⟨x :: y :: rest, hargs, z, hz, (hsplit hx hy hrest hz).mpr ⟨b, hb, h⟩⟩

theorem eval_conditional_congr {c p n m : Expr Plan}
    (h : ∀ z, n.eval now s = .ok z ↔ m.eval now s = .ok z) :
    (conditional c p n).eval now s = .ok a ↔ (conditional c p m).eval now s = .ok a := by
  simp only [eval_conditional_eq_ok_iff, h]

/-- CASE is the nested IFs of its branches: where frames are uniform, grouped or not, one of them
has a result exactly if the other one has, and it is the same result. -/
theorem eval_case_iff_nested (hs : ∀ f ∈ s.frames, f.Uniform) (o : Expr Plan) :
    ∀ {bs : List (Expr Plan × Expr Plan)}, bs ≠ [] → ∀ a : Evaluated,
      (case bs o).eval now s = .ok a ↔ (nested bs o).eval now s = .ok a
  | [(c, r)], _, a => eval_case_one
  | (c, r) :: b :: bs, _, a => by
    have ih := eval_case_iff_nested hs o (List.cons_ne_nil b bs)
    rw [eval_case_cons hs, nested]
    exact eval_conditional_congr ih

/-- A frame of three rows in two groups. -/
def groupedRows : Frame :=
  { Frame.ofRows 3 with
    columns := [⟨some "t", "a", ⟨[.integer 1, .null, .integer 3], some .integer⟩⟩]
    groups := some [[0, 2], [1]] }

/-- On ungrouped rows, with results of two number types. -/
theorem eval_case_iff_nested_grouped :
    let now : Moment := .ofDate ⟨2024, 1, 1, by decide⟩
    let s : Scope := ⟨groupedRows, []⟩
    let bs : List (Expr Plan × Expr Plan) :=
      [(.nullCheck false (.field ["a"]), .literal (.ofValue (.integer 0))),
        (.binary .gt (.field ["a"]) (.literal (.ofValue (.integer 2))), .field ["a"])]
    let o : Expr Plan := .literal (.ofValue (.float 0.5))
    let a : Evaluated := .grouped 0
      ⟨[.float 0.5, .float (Value.floatOfInteger 0), .float (Value.floatOfInteger 3)], some .float⟩
      [[0, 2], [1]]
    ((∀ f ∈ s.frames, f.Uniform) ∧ bs ≠ []) ∧
      (case bs o).eval now s = .ok a ∧ (nested bs o).eval now s = .ok a := by
  intro now s bs o a
  have huniform : ∀ f ∈ s.frames, f.Uniform := by
    simp [s, Scope.frames, groupedRows, Frame.Uniform, Column.length, Frame.ofRows]
  have hbs : bs ≠ [] := List.cons_ne_nil _ _
  have hcase : (case bs o).eval now s = .ok a := rfl
  exact ⟨⟨huniform, hbs⟩, hcase, (eval_case_iff_nested huniform o hbs a).mp hcase⟩

end Expr

end ColumnarSql
