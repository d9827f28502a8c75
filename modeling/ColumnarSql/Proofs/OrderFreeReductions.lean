import Mathlib.Data.List.Perm.Subperm
import ColumnarSql.Proofs.DistinctValues
import ColumnarSql.Proofs.Timeless
import ColumnarSql.Proofs.WindowRows

/-!
# Reductions without regard to order

COUNT, COUNT(DISTINCT), MIN and MAX give equal values for all orders of a group
(`SqlFunction.reduce_perm`): MIN and MAX are a bound of all values and one of them
(`Reduce.PicksBound.foldl_bounds`), and distinct values are as many in every order
(`Value.length_distinct_of_perm`). The order of a window only permutes the rows of each
partition, so it does not change these functions over the window (`order_of_window_is_free`).

Constants that do not belong to their type may be equal to two unequal values, and the order decides
which of them is met first. CURRENT_TIMESTAMP may have another value when the second window is
evaluated. Both are left out, and both would be needed (`order_of_window_is_not_free`).
-/

set_option autoImplicit false

namespace ColumnarSql

/-! ## Equal values stay equal -/

namespace Value

/-- An integer is compared with a double as the double that it widens to. -/
theorem compare_widen_beside_double (i : Int64) (x : Float) (t : ColumnType) :
    ((integer i).widen t).compare (float x) = (integer i).compare (float x) ∧
      (float x).compare ((integer i).widen t) = (float x).compare (integer i) := by
  by_cases ht : t = some .float
  · subst ht
    exact ⟨rfl, rfl⟩
  · have hwiden : (integer i).widen t = integer i := by
      cases t with
      | none => rfl
      | some t =>
        cases t with
        | scalar s => cases s <;> first | rfl | exact absurd rfl ht
        | _ => rfl
    rw [hwiden]
    exact ⟨rfl, rfl⟩

mutual

/-- Equal values are equal under every type. -/
theorem widen_equal : ∀ {v w : Value} (t : ColumnType), v.compare w = .eq →
    (v.widen t).compare (w.widen t) = .eq
  | .array vs, w, t, h => by
    obtain ⟨ws, rfl, h⟩ := array_of_compare_eq h
    match t with
    | some (.array t) => exact widenAll_equal (some t) h
    | none | some (.scalar _) | some (.struct _) => simpa [widen] using h
  | .struct vs, w, t, h => by
    obtain ⟨ws, rfl, h⟩ := struct_of_compare_eq h
    match t with
    | some (.struct fs) => exact widenFields_equal fs h
    | none | some (.scalar _) | some (.array _) => simpa [widen] using h
  | .integer i, w, t, h => by
    have hrank := rank_eq_of_compare_eq h
    cases w <;> simp only [rank, reduceCtorEq, Nat.reduceEqDiff] at hrank
    · obtain rfl := Int64.toInt_inj.mp (eq_of_compare h)
      exact compare_self _
    · simpa [widen] using (compare_widen_beside_double i _ t).1.trans h
  | .float x, w, t, h => by
    have hrank := rank_eq_of_compare_eq h
    cases w <;> simp only [rank, reduceCtorEq, Nat.reduceEqDiff] at hrank
    · simpa [widen] using (compare_widen_beside_double _ x t).2.trans h
    · simpa [widen] using h
  | .null, w, t, h | .boolean _, w, t, h | .string _, w, t, h | .bytes _, w, t, h
  | .date _, w, t, h | .datetime _, w, t, h | .timestamp _, w, t, h => by
    rw [eq_of_compare_flat (by simp [rank]) (by simp [rank]) h]
    exact compare_self _

theorem widenAll_equal : ∀ {vs ws : List Value} (t : ColumnType),
    compareItems vs ws = .eq → compareItems (widenAll vs t) (widenAll ws t) = .eq
  | [], [], _, _ => rfl
  | [], _ :: _, _, h | _ :: _, [], _, h => by simp [compareItems] at h
  | v :: vs, w :: ws, t, h => by
    simp only [compareItems, widenAll, Ordering.then_eq_eq] at h ⊢
    exact ⟨widen_equal t h.1, widenAll_equal t h.2⟩

theorem widenFields_equal : ∀ {vs ws : List Value} (fs : List (Field DataType)),
    compareItems vs ws = .eq → compareItems (widenFields vs fs) (widenFields ws fs) = .eq
  | [], [], _, _ => by simp [widenFields, compareItems]
  | [], _ :: _, _, h | _ :: _, [], _, h => by simp [compareItems] at h
  | v :: vs, w :: ws, [], _ => by simp [widenFields, compareItems]
  | v :: vs, w :: ws, f :: fs, h => by
    simp only [compareItems, widenFields, Ordering.then_eq_eq] at h ⊢
    exact ⟨widen_equal f.type h.1, widenFields_equal fs h.2⟩

end

/-! ## Numbers of distinct values -/

variable {t : ColumnType}

theorem beq_symm {v w : Value} (h : v == w) : w == v := by
  rw [beq_iff_compare] at h ⊢
  rw [compare_swap v w, h]
  rfl

/-- Unequal values are at most as many as the values that they are equal to. -/
theorem length_le_of_covered : ∀ {vs ws : List Value}, (∀ v ∈ vs, v.conforms t) →
    (∀ w ∈ ws, w.conforms t) → vs.Pairwise (fun v w => ¬w == v) →
    (∀ v ∈ vs, ∃ w ∈ ws, v == w) → vs.length ≤ ws.length
  | [], _, _, _, _, _ => Nat.zero_le _
  | v :: vs, ws, htyped, htyped', hunequal, hcovers => by
    obtain ⟨hv, htyped⟩ := List.forall_mem_cons.mp htyped
    obtain ⟨hnew, hunequal⟩ := List.pairwise_cons.mp hunequal
    obtain ⟨⟨w, hw, hvw⟩, hcovers⟩ := List.forall_mem_cons.mp hcovers
    obtain ⟨before, after, rfl⟩ := List.append_of_mem hw
    have hrest : ∀ u ∈ vs, ∃ w' ∈ before ++ after, u == w' := by
      intro u hu
      obtain ⟨w', hw', huw⟩ := hcovers u hu
      refine ⟨w', ?_, huw⟩
      have hmem : w' = w ∨ w' ∈ before ++ after := by simpa [or_left_comm] using hw'
      refine hmem.resolve_left ?_
      rintro rfl
      have halike := alike_of_conforms w' v t (htyped' w' (by simp)) hv
      exact hnew u hu (beq_trans halike huw (beq_symm hvw))
    have hothers : ∀ w' ∈ before ++ after, w'.conforms t := fun w' hw' =>
      htyped' w' (by simpa using (List.mem_append.mp hw').imp_right .inr)
    have hle := length_le_of_covered htyped hothers hunequal hrest
    simp only [List.length_append, List.length_cons] at hle ⊢
    omega

/-- There are as many distinct values in every order of a list. -/
theorem length_distinct_of_perm {vs ws : List Value} (htyped : ∀ v ∈ vs, v.conforms t)
    (hperm : vs.Perm ws) : (distinct vs).length = (distinct ws).length := by
  have hle : ∀ {us us' : List Value}, (∀ v ∈ us, v.conforms t) → us.Perm us' →
      (distinct us).length ≤ (distinct us').length := by
    intro us us' hus h
    refine length_le_of_covered (fun v hv => hus v ((distinct_sublist us).subset hv))
      (fun w hw => hus w (h.symm.subset ((distinct_sublist us').subset hw)))
      (pairwise_distinct us) fun v hv => ?_
    exact exists_mem_distinct (h.subset ((distinct_sublist us).subset hv))
  exact Nat.le_antisymm (hle htyped hperm)
    (hle (fun v hv => htyped v (hperm.symm.subset hv)) hperm.symm)

end Value

/-! ## Least and greatest values -/

namespace Reduce

/-- A way to pick of two values, among those with a property, one that is a bound of both. -/
structure PicksBound (P : Value → Prop) (le : Value → Value → Prop)
    (pick : Value → Value → Value) : Prop where
  pick_eq (a b : Value) : pick a b = a ∨ pick a b = b
  bounds (a b : Value) : le (pick a b) a ∧ le (pick a b) b
  refl (a : Value) : le a a
  trans {a b c : Value} : P a → P b → P c → le a b → le b c → le a c
  antisymm {a b : Value} : le a b → le b a → a.compare b = .eq

variable {P : Value → Prop} {le : Value → Value → Prop} {pick : Value → Value → Value}

/-- The picked value is a bound of all values. -/
theorem PicksBound.foldl_bounds (h : PicksBound P le pick) : ∀ {vs : List Value} {v : Value},
    (∀ w ∈ v :: vs, P w) → ∀ w ∈ v :: vs, le (vs.foldl pick v) w
  | [], v, _, w, hw => by
    obtain rfl := List.mem_singleton.mp hw
    exact h.refl w
  | u :: vs, v, htyped, w, hw => by
    have hv : P v := htyped v List.mem_cons_self
    have hu : P u := htyped u (by simp)
    have hpick : P (pick v u) := by
      rcases h.pick_eq v u with heq | heq <;> rwa [heq]
    have htyped' : ∀ w ∈ pick v u :: vs, P w :=
      List.forall_mem_cons.mpr ⟨hpick, fun w hw => htyped w (by simp [hw])⟩
    have ih := h.foldl_bounds htyped'
    have hresult : P ((u :: vs).foldl pick v) := by
      rcases foldl_mem h.pick_eq vs (pick v u) with heq | hmem
      · exact heq ▸ hpick
      · exact htyped' _ (List.mem_cons_of_mem _ hmem)
    have hfirst : le ((u :: vs).foldl pick v) (pick v u) := ih _ List.mem_cons_self
    rcases List.mem_cons.mp hw with rfl | hw
    · exact h.trans hresult hpick hv hfirst (h.bounds w u).1
    · rcases List.mem_cons.mp hw with rfl | hw
      · exact h.trans hresult hpick hu hfirst (h.bounds v w).2
      · exact ih w (List.mem_cons_of_mem _ hw)

/-- In every order of a list an equal value is picked. -/
theorem PicksBound.fold_perm (h : PicksBound P le pick) {vs ws : List Value}
    (htyped : ∀ v ∈ vs, P v) (hperm : vs.Perm ws) :
    (fold pick vs).compare (fold pick ws) = .eq := by
  cases vs with
  | nil =>
    rw [← hperm.nil_eq]
    rfl
  | cons v vs =>
    cases ws with
    | nil => exact absurd hperm.eq_nil (by simp)
    | cons w ws =>
      have hmem : ∀ {u : Value} {us : List Value}, fold pick (u :: us) ∈ u :: us := by
        intro u us
        exact List.mem_cons.mpr (foldl_mem h.pick_eq us u)
      have htyped' : ∀ u ∈ w :: ws, P u := fun u hu => htyped u (hperm.symm.subset hu)
      exact h.antisymm (h.foldl_bounds htyped _ (hperm.symm.subset hmem))
        (h.foldl_bounds htyped' _ (hperm.subset hmem))

theorem eq_of_isLE {v w : Value} (h : (v.compare w).isLE) (h' : (w.compare v).isLE) :
    v.compare w = .eq := by
  rw [Value.compare_swap v w] at h'
  cases hvw : v.compare w <;> simp_all

theorem isLE_of_not_isGT {v w : Value} (h : ¬(v.compare w).isGT) : (v.compare w).isLE := by
  cases hvw : v.compare w <;> simp_all

theorem isLE_of_isGT {v w : Value} (h : (v.compare w).isGT) : (w.compare v).isLE := by
  rw [Value.compare_swap v w]
  cases hvw : v.compare w <;> simp_all

theorem isLE_self (v : Value) : (v.compare v).isLE := by
  rw [Value.compare_self]
  rfl

theorem picksBound_smaller (t : ColumnType) :
    PicksBound (·.conforms t) (fun v w => (v.compare w).isLE) smaller where
  pick_eq := smaller_eq
  bounds a b := by
    unfold smaller
    split
    · next h => exact ⟨isLE_of_isGT h, isLE_self b⟩
    · next h => exact ⟨isLE_self a, isLE_of_not_isGT h⟩
  refl := isLE_self
  trans ha hb hc := Value.isLE_trans_of_alike (Value.alike_of_conforms _ _ t ha hb)
    (Value.alike_of_conforms _ _ t hb hc) (Value.alike_of_conforms _ _ t ha hc)
  antisymm := eq_of_isLE

theorem picksBound_greater (t : ColumnType) :
    PicksBound (·.conforms t) (fun v w => (w.compare v).isLE) greater where
  pick_eq := greater_eq
  bounds a b := by
    unfold greater
    split
    · next h => exact ⟨isLE_self a, isLE_of_isGT h⟩
    · next h => exact ⟨isLE_of_not_isGT h, isLE_self b⟩
  refl := isLE_self
  trans ha hb hc hab hbc := Value.isLE_trans_of_alike (Value.alike_of_conforms _ _ t hc hb)
    (Value.alike_of_conforms _ _ t hb ha) (Value.alike_of_conforms _ _ t hc ha) hbc hab
  antisymm h h' := eq_of_isLE h' h

end Reduce

/-! ## Groups in any order -/

namespace SqlFunction

open Reduce

/-- The reducing functions that do not read the order of a group. -/
def ignoresOrder : SqlFunction → Bool
  | count _ | min | max => true
  | _ => false

variable {fn : SqlFunction} {t : ColumnType} {vs ws : List Value}

theorem isAggregating_of_ignoresOrder (h : fn.ignoresOrder) : fn.isAggregating := by
  cases fn <;> first | rfl | cases h

theorem exists_reduce_of_ignoresOrder (h : fn.ignoresOrder) (u : ColumnType) (vs : List Value) :
    ∃ v, fn.reduce u vs = .ok v := by
  cases fn with
  | count distinct => cases distinct <;> exact ⟨_, rfl⟩
  | min | max => exact ⟨_, rfl⟩
  | _ => cases h

/-- Values of one type reduce to equal values in every order. -/
theorem reduce_perm (h : fn.ignoresOrder) (htyped : ∀ v ∈ vs, v.conforms t)
    (hperm : vs.Perm ws) (u : ColumnType) :
    ∃ v w, fn.reduce u vs = .ok v ∧ fn.reduce u ws = .ok w ∧ v == w := by
  have hpresent : (present vs).Perm (present ws) := hperm.filter _
  have htyped' : ∀ v ∈ present vs, v.conforms t := fun v hv => htyped v (mem_of_mem_present hv).1
  cases fn with
  | count distinct =>
    cases distinct with
    | false =>
      refine ⟨_, _, rfl, rfl, ?_⟩
      rw [hpresent.length_eq]
      exact Value.beq_iff_compare.mpr (Value.compare_self _)
    | true =>
      refine ⟨_, _, rfl, rfl, ?_⟩
      rw [Value.length_distinct_of_perm htyped' hpresent]
      exact Value.beq_iff_compare.mpr (Value.compare_self _)
  | min =>
    refine ⟨_, _, rfl, rfl, Value.beq_iff_compare.mpr ?_⟩
    exact Value.widen_equal u ((picksBound_smaller t).fold_perm htyped' hpresent)
  | max =>
    refine ⟨_, _, rfl, rfl, Value.beq_iff_compare.mpr ?_⟩
    exact Value.widen_equal u ((picksBound_greater t).fold_perm htyped' hpresent)
  | _ => cases h

end SqlFunction

/-! ## Windows in any order -/

namespace Window

/-- Another order gives every row of a window an equal value. -/
theorem apply_of_ignoresOrder {fn : SqlFunction} (hfn : fn.ignoresOrder) {now : Moment}
    {arg c : Column} (harg : arg.Typed) {keys : List Column} (hkeys : ∀ k ∈ keys, k.Typed)
    {orderBy : List (Column × SortOrder)} {n : Nat}
    (hc : apply fn now [arg] keys orderBy n = .ok c) (later : Moment)
    (orderBy' : List (Column × SortOrder)) :
    ∃ d, apply fn later [arg] keys orderBy' n = .ok d ∧ c.type = d.type ∧ c.length = n ∧
      d.length = n ∧ ∀ i < n, c.cell i == d.cell i := by
  have hreducing := SqlFunction.isAggregating_of_ignoresOrder hfn
  obtain ⟨ht, hlen, hcells⟩ := cell_of_apply_reducing hreducing hkeys hc
  obtain ⟨d, hd⟩ : ∃ d, apply fn later [arg] keys orderBy' n = .ok d :=
    (exists_apply_reducing hreducing).mpr
      ⟨c.type, ht, fun g _ => SqlFunction.exists_reduce_of_ignoresOrder hfn _ _⟩
  obtain ⟨ht', hlen', hcells'⟩ := cell_of_apply_reducing hreducing hkeys hd
  have htypes : c.type = d.type := Except.ok.inj (ht.symm.trans ht')
  refine ⟨d, hd, htypes, hlen, hlen', fun i hi => ?_⟩
  have hrows := (Sorting.perm_rowOrder orderBy n).trans (Sorting.perm_rowOrder orderBy' n).symm
  have hperm := (perm_partitionOf keys hrows i).map arg.cell
  obtain ⟨v, w, hv, hw, hvw⟩ := SqlFunction.reduce_perm hfn (t := arg.type)
    (fun v hv => by
      obtain ⟨j, -, rfl⟩ := List.mem_map.mp hv
      exact harg.cell j) hperm c.type
  obtain rfl := Except.ok.inj (hv.symm.trans (hcells i hi))
  obtain rfl := Except.ok.inj (hw.symm.trans (htypes ▸ hcells' i hi))
  exact hvw

end Window

/-- Timeless expressions give the same columns at all times. -/
theorem Expr.GiveColumns.at_time {c : Catalog} {now later : Moment} {s : Scope} :
    ∀ {es : List (Expr Select)} {cs : List Column}, (∀ e ∈ es, e.Timeless) →
      GiveColumns now s (planExprs ⟨c, now⟩ es) cs →
        GiveColumns later s (planExprs ⟨c, later⟩ es) cs
  | [], _, _, .nil => .nil
  | e :: es, _, h, .cons hc hcs => by
    obtain ⟨he, hes⟩ := List.forall_mem_cons.mp h
    have heval : (planExpr ⟨c, later⟩ e).eval later = (planExpr ⟨c, now⟩ e).eval now := he.eval_at
    refine .cons ?_ (at_time hes hcs)
    rw [Expr.evalColumn, heval]
    exact hc

/-- COUNT, COUNT(DISTINCT), MIN and MAX give equal values for all orders of values of one type. So
over a window in a typed scope another order, whose keys can be evaluated, gives a column of the
same type with equal values, also at another time, if argument and partition keys are timeless and
their constants belong to their types. -/
theorem order_of_window_is_free {fn : SqlFunction} (hfn : fn.ignoresOrder) :
    (∀ (t u : ColumnType) (vs ws : List Value), (∀ v ∈ vs, v.conforms t) → vs.Perm ws →
      ∃ v w, fn.reduce u vs = .ok v ∧ fn.reduce u ws = .ok w ∧ v == w) ∧
    ∀ (cat : Catalog) (now later : Moment) (s : Scope), s.Typed →
      ∀ (e : Expr Select) (ks : List (Expr Select)),
        (∀ d ∈ e :: ks, d.Timeless ∧ d.ConstantsConform) →
        ∀ (os os' : List (Expr Select × SortOrder)) (a : Evaluated),
          (planExpr ⟨cat, now⟩ (.analytic fn [e] ks os)).eval now s = .ok a →
          (∃ orderBy, Expr.GiveKeys later s (planKeys ⟨cat, later⟩ os') orderBy) →
          ∃ c d, a = .column c ∧
            (planExpr ⟨cat, later⟩ (.analytic fn [e] ks os')).eval later s = .ok (.column d) ∧
            c.type = d.type ∧ c.length = s.frame.numRows ∧ d.length = s.frame.numRows ∧
            ∀ i < s.frame.numRows, c.cell i == d.cell i := by
  refine ⟨fun t u vs ws htyped hperm => SqlFunction.reduce_perm hfn htyped hperm u, ?_⟩
  intro cat now later s hs e ks hparts os os' a ha ⟨orderBy', horder'⟩
  obtain ⟨⟨hetime, he⟩, hks⟩ := List.forall_mem_cons.mp hparts
  obtain ⟨hoptions, columns, hcolumns, partitionBy, hpartition, orderBy, horder, c, hc, rfl⟩ :=
    Expr.eval_analytic_eq_ok.mp ha
  obtain ⟨arg, _, harg, hnil, rfl⟩ := List.forall₂_cons_left_iff.mp hcolumns
  obtain rfl := List.forall₂_nil_left_iff.mp hnil
  have hconform : ∀ k ∈ planExprs ⟨cat, now⟩ ks, k.ConstantsConform := by
    rw [planExprs_eq_map, List.forall_mem_map]
    exact fun k hk => constants_planExpr _ (hks k hk).2
  have hkeys := hpartition.typed hs hconform
  have htyped : arg.Typed := Expr.typed_evalColumn hs (constants_planExpr _ he) harg
  obtain ⟨d, hd, hsame⟩ := Window.apply_of_ignoresOrder hfn htyped hkeys hc later orderBy'
  have hargs : Expr.GiveColumns later s (planExprs ⟨cat, later⟩ [e]) [arg] :=
    Expr.GiveColumns.at_time (by simpa using hetime) hcolumns
  have hpartition' : Expr.GiveColumns later s (planExprs ⟨cat, later⟩ ks) partitionBy :=
    Expr.GiveColumns.at_time (fun k hk => (hks k hk).1) hpartition
  exact ⟨c, d, rfl, Expr.eval_analytic_eq_ok.mpr ⟨hoptions, [arg], hargs, partitionBy, hpartition',
    orderBy', horder', d, hd, rfl⟩, hsame⟩

/-- Two rows with the zeros of both signs. -/
def signedZeros : Frame where
  columns := [⟨none, "n", ⟨[.integer 1, .integer 2], some .integer⟩⟩,
    ⟨none, "v", ⟨[.float (Float.ofBits 0x8000000000000000), .float (Float.ofBits 0)],
      some .float⟩⟩]
  numRows := 2
  groupPaths := []
  groups := none
  inheritsGroups := false

/-- The least value is the zero that comes first, and both are equal. -/
theorem order_of_window_is_free_zeros :
    let negative := Value.float (Float.ofBits 0x8000000000000000)
    let positive := Value.float (Float.ofBits 0)
    let eve : Session := ⟨⟨[]⟩, .ofDate ⟨2023, 12, 31, by decide⟩⟩
    let day : Session := ⟨⟨[]⟩, .ofDate ⟨2024, 1, 1, by decide⟩⟩
    let s : Scope := ⟨signedZeros, []⟩
    (SqlFunction.ignoresOrder .min ∧ s.Typed ∧
      ∀ path, Expr.Timeless (.field path) ∧ Expr.ConstantsConform (.field path : Expr Select)) ∧
    (planExpr eve (.analytic .min [.field ["v"]] [] [])).eval eve.now s =
      .ok (.column ⟨[negative, negative], some .float⟩) ∧
    (planExpr day (.analytic .min [.field ["v"]] [] [(.field ["n"], .descending)])).eval day.now s =
      .ok (.column ⟨[positive, positive], some .float⟩) ∧
    negative == positive := by
  intro negative positive eve day s
  have htyped : s.Typed := by
    simp [s, Scope.Typed, Scope.frames, Frame.Typed, Column.Typed, signedZeros, Value.conforms,
      Value.scalarType?]
  have hfield : ∀ path,
      Expr.Timeless (.field path) ∧ Expr.ConstantsConform (.field path : Expr Select) :=
    fun _ => ⟨.leaf rfl rfl (by simp), .leaf rfl rfl⟩
  have hfirst : (planExpr eve (.analytic .min [.field ["v"]] [] [])).eval eve.now s =
      .ok (.column ⟨[negative, negative], some .float⟩) := rfl
  have hlast : (planExpr day (.analytic .min [.field ["v"]] []
      [(.field ["n"], .descending)])).eval day.now s =
        .ok (.column ⟨[positive, positive], some .float⟩) := rfl
  obtain ⟨-, hwindow⟩ := @order_of_window_is_free .min rfl
  obtain ⟨c, d, hc, hd, -, -, -, hcells⟩ := hwindow ⟨[]⟩ eve.now day.now s htyped (.field ["v"]) []
    (by simpa using hfield ["v"]) [] [(.field ["n"], .descending)] _ hfirst
    ⟨[(signedZeros.columns[0].column, .descending)], .cons ⟨rfl, rfl⟩ .nil⟩
  obtain rfl := Evaluated.column.inj hc
  obtain rfl := Evaluated.column.inj (Except.ok.inj (hlast.symm.trans hd))
  exact ⟨⟨rfl, htyped, hfield⟩, hfirst, hlast, hcells 0 (by decide)⟩

/-- Over typed rows, the order changes how many distinct values an argument has, and how many rows
are in a partition, if a constant stands outside its type. The greatest CURRENT_TIMESTAMP is another
one at another time. -/
theorem order_of_window_is_not_free :
    let eve : Session := ⟨⟨[]⟩, .ofDate ⟨2023, 12, 31, by decide⟩⟩
    let day : Session := ⟨⟨[]⟩, .ofDate ⟨2024, 1, 1, by decide⟩⟩
    let s : Scope := ⟨numberedRows, []⟩
    let row : Scope := ⟨.ofRows 1, []⟩
    let one : Expr Select := .ofValue (.integer 1)
    let up : List (Expr Select × SortOrder) := [(.field ["n"], .ascending)]
    let down : List (Expr Select × SortOrder) := [(.field ["n"], .descending)]
    let integers := fun vs => Evaluated.column ⟨vs, some .integer⟩
    s.Typed ∧
    ((planExpr eve (.analytic (.count true) [doubleFirst] [] up)).eval eve.now s =
        .ok (integers [.integer 1, .integer 1, .integer 1]) ∧
      (planExpr eve (.analytic (.count true) [doubleFirst] [] down)).eval eve.now s =
        .ok (integers [.integer 2, .integer 2, .integer 2])) ∧
    ((planExpr eve (.analytic (.count false) [one] [doubleFirst] up)).eval eve.now s =
        .ok (integers [.integer 3, .integer 3, .integer 3]) ∧
      (planExpr eve (.analytic (.count false) [one] [doubleFirst] down)).eval eve.now s =
        .ok (integers [.integer 2, .integer 1, .integer 2])) ∧
    ∃ v w, v ≠ w ∧
      (planExpr eve (.analytic .max [.call .currentTimestamp [one]] [] [])).eval eve.now row =
        .ok (.column ⟨[v], some .timestamp⟩) ∧
      (planExpr day (.analytic .max [.call .currentTimestamp [one]] [] [(one, .ascending)])).eval
        day.now row = .ok (.column ⟨[w], some .timestamp⟩) := by
  intro eve day s row one up down integers
  have htyped : s.Typed := by
    simp [s, Scope.Typed, Scope.frames, Frame.Typed, Column.Typed, numberedRows, Frame.ofTable,
      Frame.tableColumns, Value.conforms, Value.scalarType?]
  have hclock : eve.now ≠ day.now := by decide
  exact ⟨htyped, ⟨rfl, rfl⟩, ⟨rfl, rfl⟩, .timestamp eve.now, .timestamp day.now,
    fun h => hclock (Value.timestamp.inj h), rfl, rfl⟩

end ColumnarSql
