import ColumnarSql.Proofs.GroupKeys
import ColumnarSql.Proofs.RowByRow

/-!
# Reducing group by group

A reducing call evaluates its argument over all rows and then reduces the values of each
group. That is the same as cutting the frame down to the rows of a group, making them one
group and reducing there (`reduce_group_by_group`): the argument is evaluated row by row,
so each group sees its own values in their order.
-/

set_option autoImplicit false

namespace ColumnarSql

namespace Evaluated

/-- The values of the groups of a frame, for a result over its rows. -/
theorem groupsOf_of_over {f : Frame} {gs : Partition} {n : Nat} {a : Evaluated}
    (hf : f.groups = some gs) (h : a.Over n (some gs)) :
    a.groupsOf f = gs.map fun g => g.map fun i => a.cell i := by
  cases h with
  | constant v t => simp [groupsOf, hf, cell]
  | rows c hc => rfl

end Evaluated

namespace Frame

/-- The rows of one group of a grouped frame, as one group. -/
def ofGroup (f : Frame) (g : List Nat) : Frame := (f.take g).groupAll

theorem groups_ofGroup (f : Frame) (g : List Nat) :
    (f.ofGroup g).groups = some [List.range g.length] :=
  rfl

theorem picks_ofGroup {f : Frame} {g : List Nat} (hf : f.groups.isSome)
    (h : ∀ i ∈ g, i < f.numRows) : f.Picks g (f.ofGroup g) where
  columns_eq := rfl
  numRows_eq := rfl
  in_range := h
  ungrouped hnone := by simp [hnone] at hf

end Frame

namespace Expr

variable {now : Moment} {f : Frame} {outer : List Frame}

/-- In a grouped frame a reducing call reduces the values of the groups. -/
theorem eval_reducing_eq_ok {fn : SqlFunction} (hfn : fn.isAggregating) {e : Expr Plan}
    {gs : Partition} (hf : f.groups = some gs) {a : Evaluated} :
    (call fn [e]).eval now ⟨f, outer⟩ = .ok a ↔
      fn.checkOptions = .ok () ∧ ∃ b, e.eval now ⟨f, outer⟩ = .ok b ∧
        ∃ t, fn.resultType [b.type] = .ok t ∧
          ∃ vs, (b.groupsOf f).mapM (fn.reduce t) = .ok vs ∧ .column ⟨vs, t⟩ = a := by
  have hreducing : Scope.reducing ⟨f, outer⟩ = ⟨f, outer⟩ := by
    cases outer <;> simp [Scope.reducing, Scope.reducingFrom, hf]
  simp only [eval, hfn, if_true, hreducing, evalFirst, Evaluated.reduce, bind_eq_ok, pure_eq_ok]
  constructor
  · rintro ⟨u, hu, h⟩
    exact ⟨hu, h⟩
  · rintro ⟨hu, h⟩
    exact ⟨(), hu, h⟩

/-- A node whose value in a row needs no other row and no grouping. -/
def isPlain (e : Expr Plan) : Bool := e.isRowWise && !e.isMark

/-- The one group of a cut down frame holds the values of the group. -/
theorem groupsOf_pick_ofGroup (g : List Nat) (b : Evaluated) :
    (b.pick (f.ofGroup g).groups g).groupsOf (f.ofGroup g) = [g.map fun i => b.cell i] := by
  rw [f.groups_ofGroup g,
    Evaluated.groupsOf_of_over (f.groups_ofGroup g) (Evaluated.over_pick _ g b)]
  simp only [List.map_cons, List.map_nil, List.cons.injEq, and_true]
  refine List.ext_getElem (by simp) fun k hk _ => ?_
  have hk' : k < g.length := by simpa using hk
  simp [Evaluated.cell_pick _ b hk']

variable {gs : Partition} {fn : SqlFunction} {e : Expr Plan}

/-- A reducing call on the rows of one group alone. -/
theorem eval_reducing_ofGroup_eq_ok (hfn : fn.isAggregating) (hf : f.groups = some gs)
    (huniform : f.Uniform) (he : e.Every (IsRowLocal f outer))
    {b : Evaluated} (hb : e.eval now ⟨f, outer⟩ = .ok b) {g : List Nat}
    (hg : ∀ i ∈ g, i < f.numRows) {a : Evaluated} :
    (call fn [e]).eval now ⟨f.ofGroup g, outer⟩ = .ok a ↔
      fn.checkOptions = .ok () ∧ ∃ t, fn.resultType [b.type] = .ok t ∧
        ∃ v, fn.reduce t (g.map fun i => b.cell i) = .ok v ∧ .column ⟨[v], t⟩ = a := by
  have hpick := (eval_pick huniform he hb).2 g (f.ofGroup g)
    (Frame.picks_ofGroup (by simp [hf]) hg)
  rw [eval_reducing_eq_ok hfn (f.groups_ofGroup g)]
  simp only [hpick, Except.ok.injEq, exists_eq_left', Evaluated.type_pick, groupsOf_pick_ofGroup]
  simp only [List.mapM_cons, List.mapM_nil, bind_eq_ok, pure_eq_ok]
  constructor
  · rintro ⟨hoptions, t, ht, vs, ⟨v, hv, -, rfl, rfl⟩, rfl⟩
    exact ⟨hoptions, t, ht, v, hv, rfl⟩
  · rintro ⟨hoptions, t, ht, v, hv, rfl⟩
    exact ⟨hoptions, t, ht, [v], ⟨v, hv, [], rfl, rfl⟩, rfl⟩

/-- A reducing call on all groups at once gives one value for each group. -/
theorem eval_reducing_groups_eq_ok (hfn : fn.isAggregating) (hf : f.groups = some gs)
    (huniform : f.Uniform) (he : e.Every (IsRowLocal f outer))
    {b : Evaluated} (hb : e.eval now ⟨f, outer⟩ = .ok b) {a : Evaluated} :
    (call fn [e]).eval now ⟨f, outer⟩ = .ok a ↔
      fn.checkOptions = .ok () ∧ ∃ t, fn.resultType [b.type] = .ok t ∧
        ∃ vs, List.Forall₂ (fun g v => fn.reduce t (g.map fun i => b.cell i) = .ok v) gs vs ∧
          .column ⟨vs, t⟩ = a := by
  have hover := (eval_pick huniform he hb).1
  rw [hf] at hover
  rw [eval_reducing_eq_ok hfn hf]
  simp only [hb, Except.ok.injEq, exists_eq_left', Evaluated.groupsOf_of_over hf hover,
    mapM_eq_ok_iff, List.forall₂_map_left_iff]

end Expr

/-- The results of a reducing call group by group, and over all groups at once. -/
theorem reduce_of_groups {now : Moment} {f : Frame} {outer : List Frame} {gs : Partition}
    {fn : SqlFunction} {e : Expr Plan} (hfn : fn.isAggregating) (hf : f.groups = some gs)
    (huniform : f.Uniform) (houter : ∀ o ∈ outer, o.SingleRow) (he : e.Every (·.isPlain))
    (hrows : ∀ g ∈ gs, ∀ i ∈ g, i < f.numRows) (hcover : ∀ i < f.numRows, ∃ g ∈ gs, i ∈ g) :
    (∀ a, (Expr.call fn [e]).eval now ⟨f, outer⟩ = .ok a →
      ∃ c, a = .column c ∧ c.length = gs.length ∧ ∀ j (hj : j < gs.length),
        (Expr.call fn [e]).eval now ⟨f.ofGroup gs[j], outer⟩ =
          .ok (.column ⟨[c.cell j], c.type⟩)) ∧
    (gs ≠ [] → (∀ g ∈ gs, ∃ a, (Expr.call fn [e]).eval now ⟨f.ofGroup g, outer⟩ = .ok a) →
      ∃ a, (Expr.call fn [e]).eval now ⟨f, outer⟩ = .ok a) := by
  have he' : e.Every (Expr.IsRowLocal f outer) := Expr.every_isRowLocal houter <|
    he.mono fun e h => by simp_all [Expr.rowWiseIn, Expr.isPlain]
  constructor
  · intro a ha
    obtain ⟨-, b, hb, -⟩ := (Expr.eval_reducing_eq_ok hfn hf).mp ha
    obtain ⟨hoptions, t, ht, vs, hvs, rfl⟩ :=
      (Expr.eval_reducing_groups_eq_ok hfn hf huniform he' hb).mp ha
    refine ⟨⟨vs, t⟩, rfl, hvs.length_eq.symm, fun j hj => ?_⟩
    have hj' : j < vs.length := hvs.length_eq ▸ hj
    refine (Expr.eval_reducing_ofGroup_eq_ok hfn hf huniform he' hb
      (hrows _ (List.getElem_mem hj))).mpr ⟨hoptions, t, ht, vs[j], hvs.get hj hj', ?_⟩
    simp [Column.cell, hj']
  · intro hne hok
    obtain ⟨b, hb⟩ : ∃ b, e.eval now ⟨f, outer⟩ = .ok b := by
      have hparts : f.CoveredBy (gs.map fun g => (g, f.ofGroup g)) := by
        refine ⟨by simpa using hne, ?_, ?_⟩
        · intro p hp
          obtain ⟨g, hg, rfl⟩ := List.mem_map.mp hp
          exact Frame.picks_ofGroup (by simp [hf]) (hrows g hg)
        · intro i hi
          obtain ⟨g, hg, hmem⟩ := hcover i hi
          exact ⟨(g, f.ofGroup g), List.mem_map_of_mem hg, hmem⟩
      refine Expr.exists_eval_of_picks huniform hparts he' fun p hp => ?_
      obtain ⟨g, hg, rfl⟩ := List.mem_map.mp hp
      obtain ⟨a, ha⟩ := hok g hg
      obtain ⟨-, b, hb, -⟩ := (Expr.eval_reducing_eq_ok hfn (f.groups_ofGroup g)).mp ha
      exact ⟨b, hb⟩
    have hvalues : ∀ g ∈ gs, fn.checkOptions = .ok () ∧ ∃ t, fn.resultType [b.type] = .ok t ∧
        ∃ v, fn.reduce t (g.map fun i => b.cell i) = .ok v := by
      intro g hg
      obtain ⟨a, ha⟩ := hok g hg
      obtain ⟨hoptions, t, ht, v, hv, -⟩ :=
        (Expr.eval_reducing_ofGroup_eq_ok hfn hf huniform he' hb (hrows g hg)).mp ha
      exact ⟨hoptions, t, ht, v, hv⟩
    obtain ⟨g, hg⟩ := List.exists_mem_of_ne_nil gs hne
    obtain ⟨hoptions, t, ht, -⟩ := hvalues g hg
    have hreduced : ∀ g ∈ gs, ∃ v, fn.reduce t (g.map fun i => b.cell i) = .ok v := by
      intro g hg
      obtain ⟨-, t', ht', hv⟩ := hvalues g hg
      rw [ht, Except.ok.injEq] at ht'
      exact ht' ▸ hv
    obtain ⟨vs, hvs⟩ := exists_mapM_eq_ok gs hreduced
    exact ⟨_, (Expr.eval_reducing_groups_eq_ok hfn hf huniform he' hb).mpr
      ⟨hoptions, t, ht, vs, (mapM_eq_ok_iff _ _ _).mp hvs, rfl⟩⟩

/-- After any successful GROUP BY of an ungrouped frame, a reducing call gives for each
group the value it gives on the rows of the group alone, and it succeeds if it does so on
every group. -/
theorem reduce_group_by_group {now : Moment} {outer : List Frame}
    {selectors : List (Selector Plan)} {keys marked : List (Expr Plan)} {f G : Frame}
    {fn : SqlFunction} {e : Expr Plan} (huniform : f.Uniform)
    (houter : ∀ o ∈ outer, o.SingleRow)
    (hgroup : Grouping.groupBy now outer selectors keys f = .ok marked G)
    (hfn : fn.isAggregating) (he : e.Every (·.isPlain)) :
    ∃ gs, G.groups = some gs ∧
      (∀ a, (Expr.call fn [e]).eval now ⟨G, outer⟩ = .ok a →
        ∃ c, a = .column c ∧ c.length = gs.length ∧ ∀ j (hj : j < gs.length),
          (Expr.call fn [e]).eval now ⟨(G.take gs[j]).groupAll, outer⟩ =
            .ok (.column ⟨[c.cell j], c.type⟩)) ∧
      (gs ≠ [] →
        (∀ g ∈ gs, ∃ a, (Expr.call fn [e]).eval now ⟨(G.take g).groupAll, outer⟩ = .ok a) →
        ∃ a, (Expr.call fn [e]).eval now ⟨G, outer⟩ = .ok a) := by
  obtain ⟨g, paths, columns, hkeyed, -, rfl, -⟩ := Grouping.groupBy_eq_ok hgroup
  exact ⟨_, rfl, reduce_of_groups hfn rfl (hkeyed.extends.uniform huniform) houter he
    (fun _ hg _ hi => Grouping.lt_of_mem_groupsOf hg hi)
    (fun _ hi => Grouping.exists_group_of_lt hi)⟩

/-- Three rows with a key and a value. -/
def keyedRows : Frame where
  columns := [⟨none, "k", ⟨[.integer 1, .integer 2, .integer 1], some .integer⟩⟩,
    ⟨none, "v", ⟨[.integer 10, .integer 20, .integer 30], some .integer⟩⟩]
  numRows := 3
  groupPaths := []
  groups := none
  inheritsGroups := false

/-- The rows of `keyedRows` grouped by key. -/
def groupedRows : Frame := { keyedRows with groups := some [[0, 2], [1]], groupPaths := ["k"] }

theorem reduce_group_by_group_sum :
    (keyedRows.Uniform ∧ (∀ o ∈ ([] : List Frame), o.SingleRow) ∧
      Grouping.groupBy (.ofDate ⟨2024, 1, 1, by decide⟩) [] [] [.field ["k"]] keyedRows =
        .ok [] groupedRows ∧
      SqlFunction.sum.isAggregating ∧ Expr.Every (·.isPlain) (.field ["v"])) ∧
    (Expr.call .sum [.field ["v"]]).eval (.ofDate ⟨2024, 1, 1, by decide⟩)
        ⟨(groupedRows.take [0, 2]).groupAll, []⟩ =
      .ok (.column ⟨[.integer 40], some .integer⟩) := by
  have huniform : keyedRows.Uniform := by simp [Frame.Uniform, keyedRows, Column.length]
  have hgroup : Grouping.groupBy (.ofDate ⟨2024, 1, 1, by decide⟩) [] [] [.field ["k"]]
      keyedRows = .ok [] groupedRows := rfl
  have hplain : Expr.Every (·.isPlain) (.field ["v"]) := .leaf rfl rfl
  have houter : ∀ o ∈ ([] : List Frame), o.SingleRow := by simp
  obtain ⟨gs, hgs, hsum, -⟩ := reduce_group_by_group huniform houter hgroup
    (show SqlFunction.sum.isAggregating from rfl) hplain
  obtain rfl : [[0, 2], [1]] = gs := Option.some.inj hgs
  obtain ⟨c, hc, -, hvalues⟩ := hsum (.column ⟨[.integer 40, .integer 20], some .integer⟩) rfl
  obtain rfl : ⟨[.integer 40, .integer 20], some .integer⟩ = c := Evaluated.column.inj hc
  exact ⟨⟨huniform, houter, hgroup, rfl, hplain⟩, hvalues 0 (by decide)⟩

end ColumnarSql
