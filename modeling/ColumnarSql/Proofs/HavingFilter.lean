import ColumnarSql.Proofs.AddedField
import ColumnarSql.Proofs.HavingScope
import ColumnarSql.Proofs.Masks
import ColumnarSql.Proofs.Planning

/-!
# HAVING as a filter

HAVING keeps the rows of the result for which its condition would be TRUE if it had been
selected (`having_is_filter`). The condition is evaluated over the result inside the grouped
scope, a field in the grouped scope itself, and both give the same column.
-/

set_option autoImplicit false

namespace ColumnarSql

/-- The rows of a table for which a column of it is TRUE. -/
def Table.whereTrue (t : Table) (c : Column) : Table :=
  t.take ((List.range t.numRows).filter fun i => (c.cell i).boolean? = some true)

theorem Table.filter_eq_whereTrue {t : Table} (ht : t.Rectangular) {c : Column}
    (hc : c.length = t.numRows) :
    t.filter (c.values.map fun v => decide (v.boolean? = some true)) = t.whereTrue c := by
  have hmask : c.values.map (fun v => decide (v.boolean? = some true)) =
      (List.range t.numRows).map fun i => decide ((c.cell i).boolean? = some true) := by
    rw [c.values_eq, List.map_map, hc]
    rfl
  rw [filter_eq_take ht (by simpa [Column.length] using hc), hmask, rowsOf_map_range]
  rfl

theorem Evaluated.toColumn_outward {n : Nat} {a : Evaluated} :
    a.outward.toColumn n = a.toColumn n := by
  cases a <;> rfl

namespace SelectOf

variable {now : Moment} {result t : Table} {f : Frame} {outer : List Frame} {c : Expr Plan}

theorem applyHaving_eq_ok_iff {grouped : Scope} :
    applyHaving now c result grouped = .ok t ↔
      ∃ m a mask, c.mark (Grouping.isKey (havingScope result grouped) grouped.frame.groupPaths) =
          .ok m ∧ m.eval now (havingScope result grouped) = .ok a ∧
        a.truthMask "HAVING" result.numRows = .ok mask ∧ result.filter mask = t := by
  unfold applyHaving
  simp only [bind_eq_ok, exists_and_left]
  refine exists_congr fun m => and_congr_right fun _ => exists_congr fun a =>
    and_congr_right fun _ => ?_
  cases a with
  | grouped level d gs => simp [Evaluated.truthMask_eq_ok, Evaluated.toColumn]
  | _ => simp only [bind_eq_ok, pure_eq_ok]

/-- HAVING filters by the column that its condition has as a field. -/
theorem applyHaving_eq_ok_iff_field (hf : f.groups.isSome) (hresult : result.Rectangular)
    (hc : c.GroupCondition) :
    applyHaving now c result ⟨f, outer⟩ = .ok t ↔
      ∃ m a column, c.mark (Grouping.isKey ⟨f, outer⟩ f.groupPaths) = .ok m ∧
        m.eval now ⟨f, outer⟩ = .ok a ∧ a.toColumn result.numRows = .ok column ∧
        ColumnType.isTruth column.type ∧ result.whereTrue column = t := by
  rw [applyHaving_eq_ok_iff, mark_havingScope hc]
  constructor
  · rintro ⟨m, b, mask, hm, hb, hmask, rfl⟩
    obtain ⟨a, ha, rfl⟩ := (eval_havingScope hf hc hm b).mp hb
    obtain ⟨htruth, column, hcolumn, rfl⟩ := Evaluated.truthMask_eq_ok.mp hmask
    rw [Evaluated.toColumn_outward] at hcolumn
    rw [Evaluated.type_outward] at htruth
    obtain ⟨hlen, htype⟩ := Evaluated.length_toColumn hcolumn
    exact ⟨m, a, column, hm, ha, hcolumn, htype ▸ htruth,
      (Table.filter_eq_whereTrue hresult hlen).symm⟩
  · rintro ⟨m, a, column, hm, ha, hcolumn, htruth, rfl⟩
    obtain ⟨hlen, htype⟩ := Evaluated.length_toColumn hcolumn
    refine ⟨m, a.outward, _, hm, (eval_havingScope hf hc hm _).mpr ⟨a, ha, rfl⟩,
      Evaluated.truthMask_eq_ok.mpr ⟨?_, column, ?_, rfl⟩, Table.filter_eq_whereTrue hresult hlen⟩
    · rwa [Evaluated.type_outward, ← htype]
    · rwa [Evaluated.toColumn_outward]

/-- Under HAVING a planned SELECT has the rows for which the condition is TRUE as a field. -/
theorem run_withHaving_eq_ok_iff {s : SelectOf Plan (Except Error Frame)} {t₀ : Table}
    (hkeys : s.groupBy ≠ []) (hhaving : s.having = none) (h : s.run now outer = .ok t₀)
    (hc : c.GroupCondition) {name : String} (hfresh : s.IsFresh outer t₀ name)
    (position : Option Nat) :
    (∀ t, (s.added c name position).run now outer = .ok t →
      ∃ column, t = ⟨t₀.names ++ [name], t₀.columns ++ [column], t₀.numRows⟩) ∧
    ∀ t, (s.withHaving c).run now outer = .ok t ↔
      ∃ column, (s.added c name position).run now outer =
          .ok ⟨t₀.names ++ [name], t₀.columns ++ [column], t₀.numRows⟩ ∧
        ColumnType.isTruth column.type ∧ t = t₀.whereTrue column := by
  obtain ⟨input, selectors, marked, G, result, hsteps, hlast⟩ :=
    (run_of_keys_eq_ok_iff hkeys).mp h
  obtain rfl : result = t₀ := by simpa [hhaving] using hlast
  have hfield := hsteps.run_added hkeys hhaving hfresh c position
  constructor
  · intro t ht
    obtain ⟨m, a, column, -, -, -, rfl⟩ := (hfield t).mp ht
    exact ⟨column, rfl⟩
  · intro t
    rw [hsteps.run_withHaving hkeys,
      applyHaving_eq_ok_iff_field hsteps.isSome_groups (rectangular_run h) hc]
    constructor
    · rintro ⟨m, a, column, hm, ha, hcolumn, htruth, rfl⟩
      exact ⟨column, (hfield _).mpr ⟨m, a, column, hm, ha, hcolumn, rfl⟩, htruth, rfl⟩
    · rintro ⟨column, hadded, htruth, rfl⟩
      obtain ⟨m, a, column', hm, ha, hcolumn, heq⟩ := (hfield _).mp hadded
      obtain ⟨-, hcolumns, -⟩ := Table.mk.inj heq
      obtain rfl := List.singleton_inj.mp (List.append_cancel_left hcolumns)
      exact ⟨m, a, column', hm, ha, hcolumn, htruth, rfl⟩

end SelectOf

/-! ## Queries -/

theorem groupCondition_planExpr (env : Session) {c : Expr Select} (hc : c.GroupCondition) :
    (planExpr env c).GroupCondition := by
  induction hc with
  | literal l => exact .literal l
  | field table name => exact .field table name
  | reducing args h => exact .reducing _ h
  | operation h _ ih =>
    refine .operation ((isOperation_planExpr env _).trans h) ?_
    rw [children_planExpr, List.forall_mem_map]
    exact ih

/-- HAVING is a filter on the condition as if it had been selected. Let a SELECT with keys and
without HAVING give `t₀`, let the condition consist of constants, columns named by table and
column, reducing calls, and operations on these, and let no field, column of FROM or column of
an enclosing query have the name. Then the SELECT with the condition as one more field gives
`t₀` with one more column, and the SELECT under HAVING succeeds exactly when that column exists
and is BOOLEAN or of the type of NULL; it gives the rows of `t₀` for which the column is TRUE. -/
theorem having_is_filter {env : Session} {outer : List Frame} {s : SelectOf Select Source}
    {t₀ : Table} {c : Expr Select} {name : String} (position : Option Nat)
    (hkeys : s.groupBy ≠ []) (hhaving : s.having = none)
    (h : (Select.mk s).plan env outer = .ok t₀) (hc : c.GroupCondition)
    (hsource : ∀ f, planSource? env s.source = some (.ok f) → f.Lacks name)
    (houter : ∀ f ∈ outer, f.Lacks name) (hfields : name ∉ t₀.names) :
    (∀ t, (Select.mk (s.added c name position)).plan env outer = .ok t →
      ∃ column, t = ⟨t₀.names ++ [name], t₀.columns ++ [column], t₀.numRows⟩) ∧
    ∀ t, (Select.mk (s.withHaving c)).plan env outer = .ok t ↔
      ∃ column, (Select.mk (s.added c name position)).plan env outer =
          .ok ⟨t₀.names ++ [name], t₀.columns ++ [column], t₀.numRows⟩ ∧
        (column.type = none ∨ column.type = some .boolean) ∧
        t = t₀.take ((List.range t₀.numRows).filter fun i =>
          (column.cell i).boolean? = some true) := by
  have hadded : (s.added c name position).planned env =
      (s.planned env).added (planExpr env c) name position := by
    simp [SelectOf.planned, SelectOf.added, planFields_append, planFields]
  have hwith : (s.withHaving c).planned env = (s.planned env).withHaving (planExpr env c) := rfl
  rw [SelectOf.plan_mk, hadded, SelectOf.plan_mk, hwith]
  rw [SelectOf.plan_mk] at h
  have hkeys' : (s.planned env).groupBy ≠ [] := by
    simpa [SelectOf.planned, planExprs_eq_map] using hkeys
  have hhaving' : (s.planned env).having = none := by
    simp [SelectOf.planned, hhaving, planExpr?]
  exact SelectOf.run_withHaving_eq_ok_iff hkeys' hhaving' h (groupCondition_planExpr env hc)
    ⟨hsource, houter, hfields⟩ position

/-- A table `u` of three rows. -/
def pairsTable : Session where
  catalog := ⟨[(⟨"p", "d", "u"⟩, ⟨["a", "b"],
    [⟨[.integer 1, .integer 2, .integer 1], some .integer⟩,
      ⟨[.integer 10, .integer 20, .integer 30], some .integer⟩], 3⟩)]⟩
  now := .ofDate ⟨2024, 6, 1, by decide⟩

/-- `SELECT a FROM u GROUP BY a`. -/
def keysOnly : SelectOf Select Source :=
  ⟨false, [.one ⟨.field ["a"], some "a", some 1⟩],
    some ⟨⟨.table ⟨["u"], by decide, by decide⟩, none⟩, []⟩, none, [.field ["a"]], none⟩

/-- `SUM(u.b) > 25`. -/
def largeSum : Expr Select :=
  .binary .gt (.call .sum [.field ["u", "b"]]) (.literal ⟨.integer 25, some .integer⟩)

theorem having_is_filter_sum :
    (keysOnly.groupBy ≠ [] ∧ keysOnly.having = none ∧
      (Select.mk keysOnly).plan pairsTable [] =
        .ok ⟨["a"], [⟨[.integer 1, .integer 2], some .integer⟩], 2⟩ ∧ largeSum.GroupCondition ∧
      (∀ f, planSource? pairsTable keysOnly.source = some (.ok f) → f.Lacks "h") ∧
      (∀ f ∈ ([] : List Frame), f.Lacks "h") ∧ "h" ∉ ["a"]) ∧
    (Select.mk (keysOnly.withHaving largeSum)).plan pairsTable [] =
      .ok ⟨["a"], [⟨[.integer 1], some .integer⟩], 1⟩ := by
  have hrun : (Select.mk keysOnly).plan pairsTable [] =
      .ok ⟨["a"], [⟨[.integer 1, .integer 2], some .integer⟩], 2⟩ := rfl
  have hsum : largeSum.GroupCondition := by
    refine .operation rfl fun e he => ?_
    rcases List.mem_pair.mp he with rfl | rfl
    · exact .reducing _ rfl
    · exact .literal _
  have hsource : ∀ f, planSource? pairsTable keysOnly.source = some (.ok f) → f.Lacks "h" := by
    intro f hf
    obtain rfl := Except.ok.inj (Option.some.inj hf)
    intro c hc
    rcases List.mem_pair.mp hc with rfl | rfl <;> decide
  have hadded : (Select.mk (keysOnly.added largeSum "h" (some 2))).plan pairsTable [] =
      .ok ⟨["a", "h"], [⟨[.integer 1, .integer 2], some .integer⟩,
        ⟨[.boolean true, .boolean false], some .boolean⟩], 2⟩ := rfl
  have hfilter := having_is_filter (some 2) (List.cons_ne_nil _ _) rfl hrun hsum hsource
    (by simp) (by decide)
  exact ⟨⟨List.cons_ne_nil _ _, rfl, hrun, hsum, hsource, by simp, by decide⟩,
    (hfilter.2 _).mpr ⟨_, hadded, .inr rfl, rfl⟩⟩

end ColumnarSql
