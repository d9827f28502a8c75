import ColumnarSql.Proofs.ColumnKeys
import ColumnarSql.Proofs.EvaluationTypes
import ColumnarSql.Proofs.GroupReduction
import ColumnarSql.Proofs.WindowRows

/-!
# Windows and groups

A reducing call over a window gives every row what its partition reduces to, and GROUP BY
gives every group what the group reduces to. Over typed key columns the partitions are the
groups, in another order (`Window.mem_partitions_iff`), so `f(e) OVER (PARTITION BY keys)` and
`f(e)` after `GROUP BY keys` succeed together and give every row the value of its group
(`window_agrees_with_groups`).
-/

set_option autoImplicit false

namespace ColumnarSql

/-! ## Rows without sort keys -/

namespace Sorting

theorem foldl_insertDescending_of_never {α : Type} :
    ∀ as bs : List α,
      as.foldl (fun sorted a => insertDescending (fun _ _ => false) a sorted) bs = as.reverse ++ bs
  | [], _ => rfl
  | a :: as, bs => by
    have hinsert : insertDescending (fun _ _ => false) a bs = a :: bs := by cases bs <;> rfl
    rw [List.foldl_cons, hinsert, foldl_insertDescending_of_never as, List.reverse_cons,
      List.append_assoc]
    rfl

/-- Without sort keys the rows keep their order. -/
theorem rowOrder_nil (n : Nat) : rowOrder [] n = List.range n := by
  change stable (fun _ _ => false) (List.range n) = _
  rw [stable, foldl_insertDescending_of_never, List.append_nil, List.reverse_reverse]

end Sorting

/-! ## Partitions -/

namespace Window

variable {keys : List Column} {n : Nat}

/-- The partitions of a window are the groups of GROUP BY. -/
theorem mem_partitions_iff (hne : keys ≠ []) (hkeys : ∀ c ∈ keys, c.Typed) (g : List Nat) :
    g ∈ partitions keys (List.range n) ↔ g ∈ Grouping.groupsOf keys n := by
  have hempty : keys.isEmpty = false := by simpa using hne
  simp only [partitions, hempty, Bool.false_eq_true, if_false, Grouping.groupsOf]
  exact Buckets.mem_byAppearance_iff_mem_byOrder (alikeKeys_of_typed hkeys _) g

end Window

namespace Frame

variable {f : Frame} {outer : List Frame}

/-- A frame under groups picks all rows for the frame without them. -/
theorem picks_ungrouped (hf : f.groups = none) (huniform : f.Uniform) (paths : List String)
    (gs : Partition) :
    Picks { f with groups := some gs, groupPaths := paths } (List.range f.numRows) f where
  columns_eq := by
    refine (List.map_id f.columns).symm.trans (List.map_congr_left fun c hc => ?_)
    have htake : c.column.take (List.range f.numRows) = c.column := by
      rw [← huniform c hc, Column.take_range _ (Nat.le_refl _), Column.length, List.take_length]
    simp [htake]
  numRows_eq := by simp
  in_range := by simp
  ungrouped _ := hf

end Frame

namespace Expr

variable {now : Moment} {f : Frame} {outer : List Frame}

theorem every_isRowLocal_of_isPlain (houter : ∀ o ∈ outer, o.SingleRow) {e : Expr Plan}
    (he : e.Every (·.isPlain)) (g : Frame) : e.Every (IsRowLocal g outer) :=
  every_isRowLocal houter <| he.mono fun e h => by simp_all [rowWiseIn, isPlain]

/-- Under groups a row by row expression succeeds when it does without them, with the same
values of the same type. -/
theorem eval_under_groups (hf : f.groups = none) (huniform : f.Uniform)
    (houter : ∀ o ∈ outer, o.SingleRow) {e : Expr Plan} (he : e.Every (·.isPlain))
    (paths : List String) (gs : Partition) :
    (∀ b, e.eval now ⟨{ f with groups := some gs, groupPaths := paths }, outer⟩ = .ok b →
      ∃ a, e.eval now ⟨f, outer⟩ = .ok a ∧ a.Over f.numRows none ∧ a.type = b.type ∧
        ∀ i < f.numRows, a.cell i = b.cell i) ∧
    ((∃ a, e.eval now ⟨f, outer⟩ = .ok a) →
      ∃ b, e.eval now ⟨{ f with groups := some gs, groupPaths := paths }, outer⟩ = .ok b) := by
  have hpicks := Frame.picks_ungrouped hf huniform paths gs
  generalize hG : { f with groups := some gs, groupPaths := paths } = G at hpicks
  have hlocal := every_isRowLocal_of_isPlain houter he G
  have hGuniform : G.Uniform := hG ▸ huniform
  have hrows : G.numRows = f.numRows := by rw [← hG]
  constructor
  · intro b hb
    refine ⟨_, (eval_pick hGuniform hlocal hb).2 _ f hpicks, ?_, by simp, fun i hi => ?_⟩
    · simpa [hf] using Evaluated.over_pick f.groups (List.range f.numRows) b
    rw [Evaluated.cell_pick _ b (by simpa using hi), List.getElem_range]
  · rintro ⟨a, ha⟩
    have hcovered : G.CoveredBy [(List.range f.numRows, f)] := by
      refine ⟨by simp, by simpa using hpicks, fun i hi => ?_⟩
      exact ⟨_, List.mem_singleton_self _, List.mem_range.mpr (hrows ▸ hi)⟩
    exact exists_eval_of_picks hGuniform hcovered hlocal (by simpa using ⟨a, ha⟩)

theorem evalColumns_fields (hf : f.groups = none) (huniform : f.Uniform) (whole : Expr Plan)
    {paths : List (List String)} {cs : List ScopeColumn}
    (h : List.Forall₂ (fun path c => f.find path = .ok (some c)) paths cs) :
    evalColumns now whole (paths.map .field) ⟨f, outer⟩ = .ok (cs.map (·.column)) := by
  induction h with
  | nil => rfl
  | @cons path c paths cs hc _ ih =>
    have hlen : c.column.length = f.numRows := huniform c (Frame.mem_of_find hc).1
    have hread : (field path).eval now ⟨f, outer⟩ = .ok (.column c.column) := by
      simp only [eval, Scope.lookup, Scope.lookupFrom_of_find outer hc, Frame.read, hf]
      rfl
    simp [evalColumns, hread, Evaluated.windowColumn, Evaluated.toColumn, hlen, ih]

/-- A reducing call over a window partitioned by columns of the frame. -/
theorem eval_window_eq_ok (hf : f.groups = none) (huniform : f.Uniform) {fn : SqlFunction}
    {e : Expr Plan} {paths : List (List String)} {cs : List ScopeColumn}
    (h : List.Forall₂ (fun path c => f.find path = .ok (some c)) paths cs) {a : Evaluated} :
    (analytic fn [e] (paths.map .field) []).eval now ⟨f, outer⟩ = .ok a ↔
      fn.checkOptions = .ok () ∧ ∃ b, e.eval now ⟨f, outer⟩ = .ok b ∧
        ∃ c, b.toColumn f.numRows = .ok c ∧
          ∃ d, Window.apply fn now [c] (cs.map (·.column)) [] f.numRows = .ok d ∧
            .column d = a := by
  simp only [eval, evalColumns_fields hf huniform _ h, evalColumns, evalKeys, bind_eq_ok,
    pure_eq_ok, windowColumn_eq_ok, Except.ok.injEq, exists_eq_left']
  constructor
  · rintro ⟨_, hoptions, _, ⟨b, hb, c, hc, rfl⟩, d, hd, rfl⟩
    exact ⟨hoptions, b, hb, c, hc, d, hd, rfl⟩
  · rintro ⟨hoptions, b, hb, c, hc, d, hd, rfl⟩
    exact ⟨(), hoptions, [c], ⟨b, hb, c, hc, rfl⟩, d, hd, rfl⟩

/-! ## Agreement -/

/-- All groups of rows can be reduced. -/
def Reduces (fn : SqlFunction) (gs : Partition) (b : Evaluated) : Prop :=
  fn.checkOptions = .ok () ∧ ∃ t, fn.resultType [b.type] = .ok t ∧
    ∀ g ∈ gs, ∃ v, fn.reduce t (g.map fun i => b.cell i) = .ok v

theorem reduces_congr {fn : SqlFunction} {gs : Partition} {n : Nat} {a b : Evaluated}
    (hgs : ∀ g ∈ gs, ∀ i ∈ g, i < n) (htype : a.type = b.type)
    (hcells : ∀ i < n, a.cell i = b.cell i) : Reduces fn gs a ↔ Reduces fn gs b := by
  have hvalues : ∀ g ∈ gs, (g.map fun i => a.cell i) = g.map fun i => b.cell i :=
    fun g hg => List.map_congr_left fun i hi => hcells i (hgs g hg i hi)
  unfold Reduces
  rw [htype]
  refine and_congr_right fun _ => exists_congr fun t => and_congr_right fun _ => ?_
  exact forall₂_congr fun g hg => by rw [hvalues g hg]

/-- The window call succeeds when all groups reduce, and gives each row the value of its
group. -/
theorem eval_window_iff (hf : f.groups = none) (huniform : f.Uniform) (htyped : f.Typed)
    {fn : SqlFunction} (hfn : fn.isAggregating) {e : Expr Plan} {paths : List (List String)}
    (hne : paths ≠ []) {cs : List ScopeColumn}
    (h : List.Forall₂ (fun path c => f.find path = .ok (some c)) paths cs) {b : Evaluated}
    (hb : e.eval now ⟨f, outer⟩ = .ok b) (hover : b.Over f.numRows none) :
    ((∃ a, (analytic fn [e] (paths.map .field) []).eval now ⟨f, outer⟩ = .ok a) ↔
      Reduces fn (Grouping.groupsOf (cs.map (·.column)) f.numRows) b) ∧
    ∀ a, (analytic fn [e] (paths.map .field) []).eval now ⟨f, outer⟩ = .ok a →
      ∃ c, a = .column c ∧ c.length = f.numRows ∧ fn.resultType [b.type] = .ok c.type ∧
        ∀ g ∈ Grouping.groupsOf (cs.map (·.column)) f.numRows, ∀ i ∈ g,
          fn.reduce c.type (g.map fun i => b.cell i) = .ok (c.cell i) := by
  obtain ⟨c, hc, -, htype, hcells⟩ := Evaluated.toColumn_of_over hover
  have hkeys : ∀ k ∈ cs.map (·.column), k.Typed := by
    intro k hk
    obtain ⟨d, hd, rfl⟩ := List.mem_map.mp hk
    obtain ⟨i, hi, rfl⟩ := List.getElem_of_mem hd
    exact htyped _ (Frame.mem_of_find (h.get (h.length_eq ▸ hi) hi)).1
  have hne' : cs.map (·.column) ≠ [] := by
    intro hnil
    rw [List.map_eq_nil_iff] at hnil
    exact hne (List.length_eq_zero_iff.mp (by rw [h.length_eq, hnil, List.length_nil]))
  have hparts := Window.mem_partitions_iff (n := f.numRows) hne' hkeys
  have hvalues : ∀ g ∈ Grouping.groupsOf (cs.map (·.column)) f.numRows,
      g.map c.cell = g.map fun i => b.cell i :=
    fun g hg => List.map_congr_left fun i hi => hcells i (Grouping.lt_of_mem_groupsOf hg hi)
  constructor
  · have hreduces : Reduces fn (Grouping.groupsOf (cs.map (·.column)) f.numRows) b ↔
        fn.checkOptions = .ok () ∧
          ∃ d, Window.apply fn now [c] (cs.map (·.column)) [] f.numRows = .ok d := by
      rw [Window.exists_apply_reducing hfn, Sorting.rowOrder_nil]
      simp only [Reduces, hparts, htype]
      refine and_congr_right fun _ => exists_congr fun t => and_congr_right fun _ => ?_
      exact forall₂_congr fun g hg => by rw [hvalues g hg]
    rw [hreduces]
    constructor
    · rintro ⟨a, ha⟩
      obtain ⟨hoptions, b', hb', c', hc', d, hd, -⟩ := (eval_window_eq_ok hf huniform h).mp ha
      obtain rfl := Except.ok.inj (hb.symm.trans hb')
      obtain rfl := Except.ok.inj (hc.symm.trans hc')
      exact ⟨hoptions, d, hd⟩
    · rintro ⟨hoptions, d, hd⟩
      exact ⟨_, (eval_window_eq_ok hf huniform h).mpr ⟨hoptions, b, hb, c, hc, d, hd, rfl⟩⟩
  · intro a ha
    obtain ⟨-, b', hb', c', hc', d, hd, rfl⟩ := (eval_window_eq_ok hf huniform h).mp ha
    obtain rfl := Except.ok.inj (hb.symm.trans hb')
    obtain rfl := Except.ok.inj (hc.symm.trans hc')
    obtain ⟨ht, hlen, hreduce⟩ := Window.cell_of_apply_reducing hfn hkeys hd
    refine ⟨d, rfl, hlen, htype ▸ ht, fun g hg i hi => ?_⟩
    have hpartition := ((Window.mem_partitions hkeys).mp ⟨(hparts g).mpr hg, hi⟩).2
    rw [← hvalues g hg, hpartition, ← Sorting.rowOrder_nil]
    exact hreduce i (Grouping.lt_of_mem_groupsOf hg hi)

/-- The call under groups succeeds when all groups reduce, and gives each group its value. -/
theorem eval_grouped_iff {gs : Partition} (hf : f.groups = some gs) (huniform : f.Uniform)
    {fn : SqlFunction} (hfn : fn.isAggregating) {e : Expr Plan}
    (he : e.Every (IsRowLocal f outer)) {b : Evaluated} (hb : e.eval now ⟨f, outer⟩ = .ok b) :
    ((∃ a, (call fn [e]).eval now ⟨f, outer⟩ = .ok a) ↔ Reduces fn gs b) ∧
    ∀ a, (call fn [e]).eval now ⟨f, outer⟩ = .ok a →
      ∃ d, a = .column d ∧ d.length = gs.length ∧ fn.resultType [b.type] = .ok d.type ∧
        ∀ j (hj : j < gs.length),
          fn.reduce d.type (gs[j].map fun i => b.cell i) = .ok (d.cell j) := by
  have hcall := fun a => eval_reducing_groups_eq_ok (a := a) hfn hf huniform he hb
  constructor
  · constructor
    · rintro ⟨a, ha⟩
      obtain ⟨hoptions, t, ht, vs, hvs, -⟩ := (hcall a).mp ha
      refine ⟨hoptions, t, ht, fun g hg => ?_⟩
      obtain ⟨j, hj, rfl⟩ := List.getElem_of_mem hg
      exact ⟨_, hvs.get hj (hvs.length_eq ▸ hj)⟩
    · rintro ⟨hoptions, t, ht, hreduce⟩
      obtain ⟨vs, hvs⟩ := exists_mapM_eq_ok gs hreduce
      exact ⟨_, (hcall _).mpr ⟨hoptions, t, ht, vs, (mapM_eq_ok_iff _ _ _).mp hvs, rfl⟩⟩
  · intro a ha
    obtain ⟨-, t, ht, vs, hvs, rfl⟩ := (hcall a).mp ha
    refine ⟨⟨vs, t⟩, rfl, hvs.length_eq.symm, ht, fun j hj => ?_⟩
    have hj' : j < vs.length := hvs.length_eq ▸ hj
    simpa [Column.cell, hj'] using hvs.get hj hj'

end Expr

/-- A reducing call over a window partitioned by columns, and the same call after GROUP BY
over these columns: both succeed or neither, and every row has the value of its group. -/
theorem window_agrees_with_groups {now : Moment} {outer : List Frame} {f : Frame}
    (hungrouped : f.groups = none) (huniform : f.Uniform) (htyped : f.Typed)
    (hdots : f.DotFree) (houter : ∀ o ∈ outer, o.SingleRow) {paths : List (List String)}
    (hne : paths ≠ []) (hpaths : ∀ path ∈ paths, ∃ c, f.find path = .ok (some c))
    {fn : SqlFunction} (hfn : fn.isAggregating) {e : Expr Plan} (he : e.Every (·.isPlain)) :
    (∃ G, Grouping.groupBy now outer [] (paths.map .field) f = .ok [] G) ∧
    ∀ (selectors : List (Selector Plan)) (marked : List (Expr Plan)) (G : Frame),
      Grouping.groupBy now outer selectors (paths.map .field) f = .ok marked G →
      ∃ gs, G.groups = some gs ∧ gs.flatten.Perm (List.range f.numRows) ∧
        ((∃ a, (Expr.analytic fn [e] (paths.map .field) []).eval now ⟨f, outer⟩ = .ok a) ↔
          ∃ b, (Expr.call fn [e]).eval now ⟨G, outer⟩ = .ok b) ∧
        ∀ a b, (Expr.analytic fn [e] (paths.map .field) []).eval now ⟨f, outer⟩ = .ok a →
          (Expr.call fn [e]).eval now ⟨G, outer⟩ = .ok b →
          ∃ c d, a = .column c ∧ b = .column d ∧ c.length = f.numRows ∧
            d.length = gs.length ∧ c.type = d.type ∧
            ∀ j (hj : j < gs.length), ∀ i ∈ gs[j], c.cell i = d.cell j := by
  obtain ⟨cs, hcs⟩ := Frame.exists_columns hpaths
  refine ⟨⟨_, (Grouping.groupBy_columns hdots hcs).mpr ⟨rfl, rfl⟩⟩, fun selectors marked G hG => ?_⟩
  obtain ⟨rfl, -⟩ := (Grouping.groupBy_columns hdots hcs).mp hG
  refine ⟨_, rfl, Grouping.perm_groupsOf _ _, ?_⟩
  obtain ⟨hungroup, hgroup⟩ := Expr.eval_under_groups hungrouped huniform houter he
    (cs.map (·.path)) (Grouping.groupsOf (cs.map (·.column)) f.numRows)
  rcases exists_ok_or_error (e.eval now
    ⟨Grouping.grouped f (cs.map (·.path)) (cs.map (·.column)), outer⟩) with ⟨b, hb⟩ | ⟨x, hx⟩
  · obtain ⟨b', hb', hover, htype, hcells⟩ := hungroup b hb
    obtain ⟨hwindow, hrows⟩ :=
      Expr.eval_window_iff hungrouped huniform htyped hfn hne hcs hb' hover
    obtain ⟨hcall, hgroups⟩ := Expr.eval_grouped_iff
      (f := Grouping.grouped f (cs.map (·.path)) (cs.map (·.column))) rfl huniform hfn
      (Expr.every_isRowLocal_of_isPlain houter he _) hb
    have hin : ∀ g ∈ Grouping.groupsOf (cs.map (·.column)) f.numRows, ∀ i ∈ g, i < f.numRows :=
      fun _ hg _ hi => Grouping.lt_of_mem_groupsOf hg hi
    refine ⟨hwindow.trans ((Expr.reduces_congr hin htype hcells).trans hcall.symm), ?_⟩
    intro a a' ha ha'
    obtain ⟨c, rfl, hclen, hct, hc⟩ := hrows a ha
    obtain ⟨d, rfl, hdlen, hdt, hd⟩ := hgroups a' ha'
    have htypes : c.type = d.type := by
      rw [htype] at hct
      exact Except.ok.inj (hct.symm.trans hdt)
    refine ⟨c, d, rfl, rfl, hclen, hdlen, htypes, fun j hj i hi => ?_⟩
    have hg := List.getElem_mem hj
    have hvalues : (Grouping.groupsOf (cs.map (·.column)) f.numRows)[j].map (b'.cell ·) =
        (Grouping.groupsOf (cs.map (·.column)) f.numRows)[j].map (b.cell ·) :=
      List.map_congr_left fun i hi => hcells i (hin _ hg i hi)
    have hci := hc _ hg i hi
    rw [hvalues, htypes] at hci
    exact Except.ok.inj (hci.symm.trans (hd j hj))
  · -- the argument fails under groups, so it fails without them, and both calls fail
    have hnoWindow : ∀ a,
        (Expr.analytic fn [e] (paths.map .field) []).eval now ⟨f, outer⟩ ≠ .ok a := by
      intro a ha
      obtain ⟨-, b, hb, -⟩ := (Expr.eval_window_eq_ok hungrouped huniform hcs).mp ha
      obtain ⟨b', hb'⟩ := hgroup ⟨b, hb⟩
      exact absurd (hx.symm.trans hb') nofun
    have hnoCall : ∀ a, (Expr.call fn [e]).eval now
        ⟨Grouping.grouped f (cs.map (·.path)) (cs.map (·.column)), outer⟩ ≠ .ok a := by
      intro a ha
      obtain ⟨-, b, hb, -⟩ := (Expr.eval_reducing_eq_ok hfn rfl).mp ha
      exact absurd (hx.symm.trans hb) nofun
    refine ⟨⟨?_, ?_⟩, fun a _ ha => absurd ha (hnoWindow a)⟩
    · rintro ⟨a, ha⟩
      exact absurd ha (hnoWindow a)
    · rintro ⟨a, ha⟩
      exact absurd ha (hnoCall a)

theorem window_agrees_with_groups_sum :
    (keyedRows.groups = none ∧ keyedRows.Uniform ∧ keyedRows.Typed ∧ keyedRows.DotFree ∧
      (∀ o ∈ ([] : List Frame), o.SingleRow) ∧
      (∀ path ∈ [["k"]], ∃ c, keyedRows.find path = .ok (some c)) ∧
      SqlFunction.sum.isAggregating ∧ Expr.Every (·.isPlain) (.field ["v"])) ∧
    (Expr.analytic .sum [.field ["v"]] [.field ["k"]] []).eval
        (.ofDate ⟨2024, 1, 1, by decide⟩) ⟨keyedRows, []⟩ =
      .ok (.column ⟨[.integer 40, .integer 20, .integer 40], some .integer⟩) ∧
    ∃ b, (Expr.call .sum [.field ["v"]]).eval (.ofDate ⟨2024, 1, 1, by decide⟩)
      ⟨groupedRows, []⟩ = .ok (.column b) ∧ b.cell 0 = .integer 40 := by
  have huniform : keyedRows.Uniform := by simp [Frame.Uniform, keyedRows, Column.length]
  have htyped : keyedRows.Typed := by
    simp [Frame.Typed, Column.Typed, keyedRows, Value.conforms, Value.scalarType?]
  have hdots : keyedRows.DotFree := by
    simp [Frame.DotFree, ScopeColumn.DotFree, keyedRows]
  have houter : ∀ o ∈ ([] : List Frame), o.SingleRow := by simp
  have hpaths : ∀ path ∈ [["k"]], ∃ c, keyedRows.find path = .ok (some c) := by
    intro path hpath
    obtain rfl := List.mem_singleton.mp hpath
    exact ⟨_, rfl⟩
  have hplain : Expr.Every (·.isPlain) (.field ["v"]) := .leaf rfl rfl
  have hwindow : (Expr.analytic .sum [.field ["v"]] [.field ["k"]] []).eval
      (.ofDate ⟨2024, 1, 1, by decide⟩) ⟨keyedRows, []⟩ =
        .ok (.column ⟨[.integer 40, .integer 20, .integer 40], some .integer⟩) := rfl
  obtain ⟨-, hagree⟩ := @window_agrees_with_groups (.ofDate ⟨2024, 1, 1, by decide⟩) [] keyedRows
    rfl huniform htyped hdots houter [["k"]] (by simp) hpaths .sum rfl _ hplain
  obtain ⟨gs, hgs, -, hiff, hrows⟩ := hagree [] [] groupedRows rfl
  obtain rfl : [[0, 2], [1]] = gs := Option.some.inj hgs
  obtain ⟨b, hb⟩ := hiff.mp ⟨_, hwindow⟩
  obtain ⟨c, d, hc, rfl, -, -, -, hcells⟩ := hrows _ b hwindow hb
  obtain rfl := Evaluated.column.inj hc
  exact ⟨⟨rfl, huniform, htyped, hdots, houter, hpaths, rfl, hplain⟩, hwindow, d, hb,
    (hcells 0 (by decide) 2 (by simp)).symm⟩

end ColumnarSql
