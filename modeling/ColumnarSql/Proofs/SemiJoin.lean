import ColumnarSql.Proofs.CorrelatedRows
import ColumnarSql.Proofs.Masks
import ColumnarSql.Proofs.Planning

/-!
# Semi-joins

`WHERE EXISTS (SELECT 1 FROM r WHERE c)` keeps the rows of the outer table that the inner join
on `c` pairs with a row, and the left join pads exactly the others (`exists_is_semi_join`).
Both come from one table of flags: whether `c` holds for a row of the second table inside a row
of the first (`Expr.holdsAt`). A pair without a right row is padded with NULL
(`Join.cells_combine`).
-/

set_option autoImplicit false

namespace ColumnarSql

/-! ## Pairs of rows -/

namespace Join

/-- Pairs listed by their left rows: those of one left row stand together. -/
theorem filter_flatMap_range {β : Type} {F : Nat → List (Nat × β)}
    (hF : ∀ i, ∀ p ∈ F i, p.1 = i) (i : Nat) :
    ∀ n, ((List.range n).flatMap F).filter (·.1 = i) = if i < n then F i else []
  | 0 => by simp
  | n + 1 => by
    have ih := filter_flatMap_range hF i n
    rw [List.range_succ, List.flatMap_append, List.filter_append, ih, List.flatMap_singleton]
    by_cases hni : n = i
    · subst hni
      have hall : (F n).filter (·.1 = n) = F n :=
        List.filter_eq_self.mpr fun p hp => by simpa using hF n p hp
      simp [hall]
    · have hnone : (F n).filter (·.1 = i) = [] :=
        List.filter_eq_nil_iff.mpr fun p hp => by simpa [hF n p hp] using hni
      simp only [hnone, List.append_nil]
      exact if_congr (by omega) rfl rfl

/-- The pairs of a left row with its matches. -/
def rowPairs (kind : JoinKind) (matchesOf : Nat → List Nat) (i : Nat) : List RowPair :=
  if (matchesOf i).isEmpty && kind = .left then [(i, none)]
  else (matchesOf i).map fun j => (i, some j)

theorem fst_of_mem_rowPairs {kind : JoinKind} {matchesOf : Nat → List Nat} (i : Nat) :
    ∀ p ∈ rowPairs kind matchesOf i, p.1 = i := by
  intro p hp
  unfold rowPairs at hp
  split at hp
  · simp_all
  · obtain ⟨j, -, rfl⟩ := List.mem_map.mp hp
    rfl

theorem pairsOf_eq_flatMap (kind : JoinKind) (matchesOf : Nat → List Nat) (n : Nat) :
    pairsOf kind ((List.range n).map matchesOf) =
      (List.range n).flatMap (rowPairs kind matchesOf) := by
  have hzip : ((List.range n).map matchesOf).zipIdx =
      (List.range n).map fun i => (matchesOf i, i) :=
    List.ext_getElem (by simp) fun i _ _ => by simp
  rw [pairsOf, hzip, List.flatMap_map]
  rfl

theorem mem_product {n m : Nat} {p : Nat × Nat} : p ∈ product n m ↔ p.1 < n ∧ p.2 < m := by
  obtain ⟨i, j⟩ := p
  simp [product]

/-- The pairs of rows that a condition keeps, left row by left row. -/
theorem matches_of_product {p : Nat × Nat → Bool} (n m : Nat) :
    ((List.range n).map fun i =>
        (((product n m).filter p).filter (·.1 = i)).map (·.2)) =
      (List.range n).map fun i => (List.range m).filter fun j => p (i, j) := by
  refine List.map_congr_left fun i hi => ?_
  have hrows : (product n m).filter p = (List.range n).flatMap fun i =>
      ((List.range m).map fun j => (i, j)).filter p := by
    rw [product, List.filter_flatMap]
  rw [hrows, filter_flatMap_range (by simp +contextual), if_pos (List.mem_range.mp hi),
    List.filter_map, List.map_map]
  exact List.map_id _

@[simp] theorem numRows_combine (f g : Frame) (pairs : List RowPair) :
    (combine f g pairs).numRows = pairs.length :=
  List.length_map _

/-- The joined row of a pair; an absent right row is padded with NULL. -/
theorem cells_combine (f g : Frame) {pairs : List RowPair} {k : Nat} (hk : k < pairs.length) :
    (combine f g pairs).columns.map (·.column.cell k) =
      (f.columns.map (·.column.cell pairs[k].1)) ++
        g.columns.map fun c => pairs[k].2.elim .null c.column.cell := by
  have hleft : k < (pairs.map (·.1)).length := by simpa using hk
  have hright : k < (pairs.map (·.2)).length := by simpa using hk
  simp [combine, Frame.combine, Frame.take, Frame.mapColumns, Function.comp_def,
    Column.cell_take _ hleft, Column.cell_takePadded _ hright]

/-- The left rows, of so many, that some pair holds. -/
def leftRows (n : Nat) (pairs : List RowPair) : List Nat :=
  (List.range n).filter fun i => pairs.any (·.1 = i)

variable {matchesOf : Nat → List Nat} {n i : Nat}

/-- The pairs of a left row in an inner join. -/
theorem filter_inner_pairs (hi : i < n) :
    ((List.range n).flatMap (rowPairs .inner matchesOf)).filter (·.1 = i) =
      (matchesOf i).map fun j => (i, some j) := by
  rw [filter_flatMap_range fst_of_mem_rowPairs, if_pos hi]
  simp [rowPairs]

theorem forall_mem_inner_pairs (matchesOf : Nat → List Nat) {n m : Nat}
    (hm : ∀ i, ∀ j ∈ matchesOf i, j < m) :
    ∀ p ∈ (List.range n).flatMap (rowPairs .inner matchesOf),
      ∃ i < n, ∃ j < m, p = (i, some j) := by
  intro p hp
  obtain ⟨i, hi, hp⟩ := List.mem_flatMap.mp hp
  rw [rowPairs, if_neg (by simp)] at hp
  obtain ⟨j, hj, rfl⟩ := List.mem_map.mp hp
  exact ⟨i, List.mem_range.mp hi, j, hm i j hj, rfl⟩

/-- The left rows of an inner join are those with a match. -/
theorem leftRows_inner (matchesOf : Nat → List Nat) (n : Nat) :
    leftRows n ((List.range n).flatMap (rowPairs .inner matchesOf)) =
      (List.range n).filter fun i => matchesOf i ≠ [] := by
  refine List.filter_congr fun i hi => ?_
  have hany : ((List.range n).flatMap (rowPairs .inner matchesOf)).any (·.1 = i) ↔
      ((List.range n).flatMap (rowPairs .inner matchesOf)).filter (·.1 = i) ≠ [] := by
    simp only [List.any_eq_true, ne_eq, List.filter_eq_nil_iff, not_forall, not_not, exists_prop]
  rw [filter_inner_pairs (List.mem_range.mp hi)] at hany
  rw [Bool.eq_iff_iff, hany]
  simp

/-- A left join keeps the pairs of the inner join and pads the left rows without one. -/
theorem left_pairs_eq (matchesOf : Nat → List Nat) (n : Nat) :
    let inner := (List.range n).flatMap (rowPairs .inner matchesOf)
    (List.range n).flatMap (rowPairs .left matchesOf) =
      (List.range n).flatMap fun i =>
        if i ∈ leftRows n inner then inner.filter (·.1 = i) else [(i, none)] := by
  intro inner
  refine List.flatMap_congr fun i hi => ?_
  rw [leftRows_inner, filter_inner_pairs (List.mem_range.mp hi)]
  by_cases hmatch : matchesOf i = []
  · simp [rowPairs, hmatch]
  · simp [rowPairs, hmatch, List.mem_range.mp hi]

end Join

/-! ## Flags of a condition on two tables -/

namespace Expr

/-- Whether a condition is TRUE in a row of a scope. -/
def holdsAt (now : Moment) (c : Expr Plan) (s : Scope) (j : Nat) : Bool :=
  match c.eval now s with
  | .ok a => decide ((a.cell j).boolean? = some true)
  | .error _ => false

theorem holdsAt_of_eval {now : Moment} {c : Expr Plan} {s : Scope} {a : Evaluated}
    (h : c.eval now s = .ok a) :
    c.holdsAt now s = fun j => decide ((a.cell j).boolean? = some true) := by
  funext j
  rw [holdsAt, h]

variable {now : Moment} {f g : Frame} {outer : List Frame} {c : Expr Plan}

/-- The result of a condition on two frames is over their pairs of rows. -/
theorem over_pairs_of_correlated {pairs : List Join.RowPair} (hc : c.Every (IsCorrelated f g))
    {a : Evaluated} (ha : c.eval now ⟨Join.combine f g pairs, []⟩ = .ok a) :
    a.Over pairs.length none := by
  have hlocal : c.Every (IsRowLocal (Join.combine f g pairs) []) :=
    every_isRowLocal (by simp) (hc.mono fun e he => by simpa [rowWiseIn] using ⟨he.1, .inl rfl⟩)
  have hover := (eval_pick (Join.plain_combine f g pairs).uniform hlocal ha).1
  rwa [Join.numRows_combine] at hover

/-- The matches of ON are the rows for which the condition holds inside each left row. -/
theorem onMatches_of_correlated (huniform : g.Uniform) (hgroups : g.groups = none)
    (hc : c.Every (IsCorrelated f g))
    (hrows : ∀ i < f.numRows, ∃ b, c.eval now ⟨g, f.row i :: outer⟩ = .ok b)
    {found : List (List Nat)} (h : Join.onMatches now c f g = .ok found) :
    found = (List.range f.numRows).map fun i =>
      (List.range g.numRows).filter (c.holdsAt now ⟨g, f.row i :: outer⟩) := by
  simp only [Join.onMatches, bind_eq_ok, pure_eq_ok] at h
  obtain ⟨a, ha, mask, hmask, rfl⟩ := h
  set pairs := (Join.product f.numRows g.numRows).map fun p => (p.1, some p.2) with hpairs
  have hover : a.Over pairs.length none := over_pairs_of_correlated hc ha
  rw [show (Join.cross f g).numRows = pairs.length from Join.numRows_combine f g pairs,
    Evaluated.truthMask_of_over hover] at hmask
  have hflags : mask = (Join.product f.numRows g.numRows).map fun p =>
      c.holdsAt now ⟨g, f.row p.1 :: outer⟩ p.2 := by
    rw [hmask.2]
    refine List.ext_getElem (by simp [hpairs]) fun k hk _ => ?_
    have hk : k < pairs.length := by simpa using hk
    have hk' : k < (Join.product f.numRows g.numRows).length := by simpa [hpairs] using hk
    obtain ⟨hi, hj⟩ := Join.mem_product.mp (List.getElem_mem hk')
    obtain ⟨b, hb⟩ := hrows _ hi
    have hagree := eval_correlated huniform hgroups hc ha hb
    have hcell := hagree.cell_eq k hk _ hj (by simp)
    rw [List.getElem_map, List.getElem_map, List.getElem_range, hcell, holdsAt_of_eval hb]
  rw [hflags, keep_map_eq_filter]
  exact Join.matches_of_product _ _

end Expr

/-! ## The subquery -/

namespace SelectOf

/-- A SELECT list, with what follows WHERE, over another source and condition. -/
def reading (s : SelectOf Select Source) (source : Source) (condition : Option (Expr Select)) :
    Select :=
  .mk { s with source := some source, condition := condition }

/-- A SELECT list, with what follows WHERE, over the rows of a frame. -/
def overFrame (env : Session) (s : SelectOf Select Source) (f : Frame) : Plan :=
  run env.now { s.planned env with source := some (.ok f), condition := none }

/-- `SELECT 1 FROM item WHERE c`. -/
def one (item : FromItem Query) (c : Expr Select) : SelectOf Select Source where
  distinct := false
  fields := [.one ⟨.literal (.ofValue (.integer 1)), none, some 1⟩]
  source := some ⟨item, []⟩
  condition := some c
  groupBy := []
  having := none

variable {now : Moment} {s : SelectOf Plan (Except Error Frame)} {outer : List Frame} {t : Table}

theorem numRows_fieldsTable {scope : Scope} {selectors : List (Selector Plan)}
    {exprs : List (Expr Plan)} (h : fieldsTable now scope selectors exprs = .ok t) :
    t.numRows = scope.frame.outputLength := by
  obtain ⟨fields, -, h⟩ := bind_eq_ok.mp h
  obtain ⟨-, -, rfl⟩ := Table.ofColumns_eq_ok h
  rfl

/-- The rows of FROM and WHERE. -/
theorem inputScope_eq_ok {f : Frame} {c : Expr Plan} {scope : Scope}
    (hsource : s.source = some (.ok f)) (hcondition : s.condition = some c) :
    s.inputScope now outer = .ok scope ↔ ∃ a, c.eval now ⟨f, outer⟩ = .ok a ∧
      ∃ mask, a.truthMask "WHERE" f.numRows = .ok mask ∧ ⟨f.filter mask, outer⟩ = scope := by
  simp [inputScope, hsource, hcondition]

/-- WHERE leaves the rest of a SELECT to the rows it keeps. -/
theorem run_of_where {f : Frame} {c : Expr Plan} (hsource : s.source = some (.ok f))
    (hcondition : s.condition = some c) {a : Evaluated} (ha : c.eval now ⟨f, outer⟩ = .ok a)
    {mask : List Bool} (hmask : a.truthMask "WHERE" f.numRows = .ok mask) :
    s.run now outer =
      run now { s with source := some (.ok (f.filter mask)), condition := none } outer := by
  have hinput : s.inputScope now outer = .ok ⟨f.filter mask, outer⟩ :=
    (inputScope_eq_ok hsource hcondition).mpr ⟨a, ha, mask, hmask, rfl⟩
  unfold run
  rw [hinput]
  rfl

end SelectOf

/-- A FROM item gives a table under a name. -/
def FromItem.Reads (env : Session) (item : FromItem Query) (t : Table) (name : String) : Prop :=
  ∃ own, item.query.run env = .ok (t, own) ∧ item.label.or own = some name

variable {env : Session} {left right : FromItem Query} {c : Expr Select} {outer : List Frame}

theorem itemFrame_of_reads {item : FromItem Query} {t : Table} {name : String}
    (h : item.Reads env t name) :
    Join.itemFrame ⟨item.query.run env, item.label⟩ = .ok (.ofTable t (some name)) := by
  obtain ⟨own, hrun, hname⟩ := h
  simp [Join.itemFrame, hrun, hname]

/-- The subquery has the rows for which the condition holds. -/
theorem numRows_one {g : Frame}
    (hitem : Join.itemFrame ⟨right.query.run env, right.label⟩ = .ok g) {t : Table}
    (h : (Select.mk (.one right c)).plan env outer = .ok t) :
    ∃ b, (planExpr env c).eval env.now ⟨g, outer⟩ = .ok b ∧
      ∃ mask, b.truthMask "WHERE" g.numRows = .ok mask ∧ t.numRows = mask.count true := by
  rw [SelectOf.plan_mk] at h
  obtain ⟨scope, selectors, grouped, marked, result, hscope, hselectors, hgrouped, hresult,
    hlast⟩ := SelectOf.steps_of_run h
  obtain rfl : result = t := Except.ok.inj hlast
  have hsource : (SelectOf.planned env (.one right c)).source = some (.ok g) := by
    simp [SelectOf.planned, SelectOf.one, planSource?, Join.sourceFrame, planJoins, hitem]
  obtain ⟨b, hb, mask, hmask, rfl⟩ := (SelectOf.inputScope_eq_ok hsource rfl).mp hscope
  refine ⟨b, hb, mask, hmask, ?_⟩
  have hselectors' : selectors = [⟨.literal (.ofValue (.integer 1)), none, some 1⟩] := by
    simpa [SelectOf.expand, SelectOf.planned, SelectOf.one, planFields, planExpr, eq_comm]
      using hselectors
  have hframe : grouped.frame = g.filter mask := by
    simp only [SelectOf.groupedFields, SelectOf.planned, SelectOf.one, planExprs, planExpr?,
      hselectors', Expr.containsAggregate, List.isEmpty_nil, if_true, Option.isSome_none,
      List.any_cons, List.any_nil, Bool.or_false, Bool.false_eq_true, if_false,
      Except.ok.injEq, Prod.mk.injEq] at hgrouped
    rw [← hgrouped.1]
  rw [SelectOf.numRows_fieldsTable hresult, hframe]
  rfl

/-! ## EXISTS and the joins -/

/-- A node of a condition on columns of two tables under names. -/
def OnColumns (f g : Frame) (l r : String) (e : Expr Select) : Prop :=
  e.isRowWise ∧ e.isSubquery = false ∧ ∀ path, e = .field path →
    (∃ x d, path = [l, x] ∧ f.find path = .ok (some d)) ∨
      ∃ y d, path = [r, y] ∧ g.find path = .ok (some d)

/-- A table has no columns under the name of another one. -/
theorem find_ofTable_of_ne (t : Table) {l r : String} (h : l ≠ r) (x : String) :
    (Frame.ofTable t (some r)).find [l, x] = .ok none := by
  refine Frame.find_eq_none_iff.mpr fun c hc => ?_
  obtain ⟨p, -, rfl⟩ := List.mem_map.mp hc
  simp [ScopeColumn.answers, h.symm]

theorem isCorrelated_planExpr {tl tr : Table} {l r : String} (hlr : l ≠ r)
    (hc : c.Every (OnColumns (.ofTable tl (some l)) (.ofTable tr (some r)) l r)) :
    (planExpr env c).Every
      (Expr.IsCorrelated (.ofTable tl (some l)) (.ofTable tr (some r))) := by
  refine every_planExpr env (fun e he => ?_) hc
  obtain ⟨hrowWise, hsubquery, hfields⟩ := he
  refine ⟨?_, ?_, fun path hpath => ?_⟩
  · cases e <;> exact hrowWise
  · cases e <;> first | rfl | exact hsubquery
  · obtain rfl : e = .field path := by
      cases e <;> simp_all [planExpr]
    rcases hfields path rfl with ⟨x, d, rfl, hd⟩ | ⟨y, d, rfl, hd⟩
    · exact .inl ⟨d, hd, find_ofTable_of_ne tr hlr x⟩
    · exact .inr ⟨d, find_ofTable_of_ne tl hlr.symm y, hd⟩

/-- EXISTS over the subquery says whether the condition holds in some row. -/
theorem holdsIn_one {g row : Frame}
    (hitem : Join.itemFrame ⟨right.query.run env, right.label⟩ = .ok g)
    (hover : ∀ b, (planExpr env c).eval env.now ⟨g, row :: outer⟩ = .ok b →
      b.Over g.numRows none)
    {v : Value} (h : Plan.holdsIn ((Select.mk (.one right c)).plan env) outer row = .ok v) :
    (∃ b, (planExpr env c).eval env.now ⟨g, row :: outer⟩ = .ok b) ∧
      v = .boolean ((List.range g.numRows).any
        ((planExpr env c).holdsAt env.now ⟨g, row :: outer⟩)) := by
  obtain ⟨t, ht, h⟩ := bind_eq_ok.mp h
  obtain ⟨b, hb, mask, hmask, hrows⟩ := numRows_one hitem ht
  refine ⟨⟨b, hb⟩, ?_⟩
  rw [Evaluated.truthMask_of_over (hover b hb)] at hmask
  have hpos : 0 < t.numRows ↔ (List.range g.numRows).any
      ((planExpr env c).holdsAt env.now ⟨g, row :: outer⟩) := by
    rw [hrows, List.count_pos_iff, hmask.2, Expr.holdsAt_of_eval hb]
    simp
  rw [← pure_eq_ok.mp h]
  simp only [hpos, Bool.decide_eq_true]

/-- WHERE EXISTS keeps the rows in which the subquery gives rows. -/
theorem filter_of_existsRows {plan : Plan} {f : Frame} (hf : f.Plain) {B : Nat → Bool}
    (hB : ∀ i < f.numRows, ∀ v, plan.holdsIn outer (f.row i) = .ok v → v = .boolean (B i))
    {a : Evaluated} (ha : plan.existsRows ⟨f, outer⟩ = .ok a) {mask : List Bool}
    (hmask : a.truthMask "WHERE" f.numRows = .ok mask) :
    f.filter mask = f.take ((List.range f.numRows).filter B) := by
  obtain ⟨vs, ⟨hlen, hvs⟩, rfl⟩ := Plan.existsRows_eq_ok.mp ha
  rw [Frame.read_eq_ofColumn, hf.ungrouped,
    Evaluated.truthMask_of_over (.rows ⟨vs, some .boolean⟩ hlen)] at hmask
  have hmask' : mask = (List.range f.numRows).map B := by
    rw [hmask.2]
    refine List.map_congr_left fun i hi => ?_
    have hi : i < vs.length := hlen ▸ List.mem_range.mp hi
    have hcell := hB i (hlen ▸ hi) _ (hvs i hi)
    simp [Evaluated.ofColumn, Evaluated.cell, Column.cell, List.getD, hi, hcell, Value.boolean?]
  rw [Frame.filter_eq_take hf.uniform (by simp [hmask']), hmask', rowsOf_map_range]

theorem sourceFrame_on {now : Moment} {first second : FromItem (Except Error NamedTable)}
    {f g frame : Frame} (hfirst : Join.itemFrame first = .ok f)
    (hsecond : Join.itemFrame second = .ok g) {kind : JoinKind} {condition : Expr Plan} :
    Join.sourceFrame now ⟨first, [⟨kind, second, .on condition⟩]⟩ = .ok frame ↔
      ∃ found, Join.onMatches now condition f g = .ok found ∧
        Join.combine f g (Join.pairsOf kind found) = frame := by
  simp [Join.sourceFrame, Join.extend, hfirst, hsecond]

/-- Without WHERE a SELECT list is read over the frame of its source. -/
theorem SelectOf.reading_eq_overFrame {s : SelectOf Select Source} {source : Source} {f : Frame}
    (h : planSource? env (some source) = some (.ok f)) :
    (s.reading source none).plan env = s.overFrame env f := by
  simp only [SelectOf.reading, SelectOf.plan_mk, SelectOf.overFrame, SelectOf.planned, h]
  rfl

/-- `left kind JOIN right ON c` has these pairs of rows, whatever is selected from it. -/
def JoinsPairs (env : Session) (left right : FromItem Query) (c : Expr Select) (f g : Frame)
    (kind : JoinKind) (pairs : List Join.RowPair) : Prop :=
  ∀ s : SelectOf Select Source,
    (s.reading ⟨left, [⟨kind, right, .on c⟩]⟩ none).plan env =
      s.overFrame env (Join.combine f g pairs)

theorem joinsPairs_of_onMatches {f g : Frame}
    (hleft : Join.itemFrame ⟨left.query.run env, left.label⟩ = .ok f)
    (hright : Join.itemFrame ⟨right.query.run env, right.label⟩ = .ok g)
    {found : List (List Nat)} (h : Join.onMatches env.now (planExpr env c) f g = .ok found)
    (kind : JoinKind) :
    JoinsPairs env left right c f g kind (Join.pairsOf kind found) := fun _ =>
  SelectOf.reading_eq_overFrame
    (congrArg some ((sourceFrame_on hleft hright).mpr ⟨found, h, rfl⟩))

/-- The matches of a join that succeeds. -/
theorem onMatches_of_run {f g : Frame}
    (hleft : Join.itemFrame ⟨left.query.run env, left.label⟩ = .ok f)
    (hright : Join.itemFrame ⟨right.query.run env, right.label⟩ = .ok g)
    {s : SelectOf Select Source} {kind : JoinKind} {t : Table}
    (h : (s.reading ⟨left, [⟨kind, right, .on c⟩]⟩ none).plan env outer = .ok t) :
    ∃ found, Join.onMatches env.now (planExpr env c) f g = .ok found := by
  rw [SelectOf.reading, SelectOf.plan_mk] at h
  obtain ⟨scope, _, _, _, _, hscope, -⟩ := SelectOf.steps_of_run h
  obtain ⟨frame, hframe, -⟩ := bind_eq_ok.mp hscope
  obtain ⟨found, hfound, -⟩ := (sourceFrame_on hleft hright).mp hframe
  exact ⟨found, hfound⟩

/-- WHERE EXISTS keeps the rows for which the condition holds in some row of the second
table. -/
theorem run_of_exists {f g : Frame} (hf : f.Plain)
    (hleft : Join.itemFrame ⟨left.query.run env, left.label⟩ = .ok f)
    (hright : Join.itemFrame ⟨right.query.run env, right.label⟩ = .ok g)
    (hover : ∀ i < f.numRows, ∀ b, (planExpr env c).eval env.now ⟨g, f.row i :: outer⟩ = .ok b →
      b.Over g.numRows none)
    {s : SelectOf Select Source} {t : Table}
    (h : (s.reading ⟨left, []⟩ (some (.exists (.mk (.one right c))))).plan env outer = .ok t) :
    (∀ i < f.numRows, ∃ b, (planExpr env c).eval env.now ⟨g, f.row i :: outer⟩ = .ok b) ∧
      ∀ s : SelectOf Select Source,
        (s.reading ⟨left, []⟩ (some (.exists (.mk (.one right c))))).plan env outer =
          s.overFrame env (f.take ((List.range f.numRows).filter fun i =>
            (List.range g.numRows).any
              ((planExpr env c).holdsAt env.now ⟨g, f.row i :: outer⟩))) outer := by
  have hsource : planSource? env (some ⟨left, []⟩) = some (.ok f) := by
    simp [planSource?, Join.sourceFrame, planJoins, hleft]
  have hplanned : ∀ s : SelectOf Select Source, (SelectOf.planned env { s with
      source := some ⟨left, []⟩
      condition := some (.exists (.mk (.one right c))) }).source = some (.ok f) := fun s => hsource
  rw [SelectOf.reading, SelectOf.plan_mk] at h
  obtain ⟨scope, _, _, _, _, hscope, -⟩ := SelectOf.steps_of_run h
  obtain ⟨a, ha, mask, hmask, -⟩ := (SelectOf.inputScope_eq_ok (hplanned s) rfl).mp hscope
  obtain ⟨vs, ⟨hlen, hvs⟩, -⟩ := Plan.existsRows_eq_ok.mp ha
  refine ⟨fun i hi => ?_, fun s => ?_⟩
  · exact (holdsIn_one hright (hover i hi) (hvs i (hlen ▸ hi))).1
  · rw [SelectOf.reading, SelectOf.plan_mk, SelectOf.run_of_where (hplanned s) rfl ha hmask,
      filter_of_existsRows hf (fun i hi v hv => (holdsIn_one hright (hover i hi) hv).2) ha hmask]
    rfl

/-- A correlated EXISTS is a semi-join. If it succeeds and the inner join on its condition does,
it keeps the rows of the left table that occur in a pair of the join, in order, and the left
join has the pairs of these rows and every other row once, padded with NULL. -/
theorem exists_is_semi_join {tl tr : Table} {l r : String} (hleft : left.Reads env tl l)
    (hright : right.Reads env tr r) (hlr : l ≠ r) (hl : tl.Rectangular) (hr : tr.Rectangular)
    (hc : c.Every (OnColumns (.ofTable tl (some l)) (.ofTable tr (some r)) l r))
    {s s' : SelectOf Select Source} {t t' : Table} {outer' : List Frame}
    (hexists : (s.reading ⟨left, []⟩ (some (.exists (.mk (.one right c))))).plan env outer =
      .ok t)
    (hinner : (s'.reading ⟨left, [⟨.inner, right, .on c⟩]⟩ none).plan env outer' = .ok t') :
    ∃ found, Join.onMatches env.now (planExpr env c) (.ofTable tl (some l))
        (.ofTable tr (some r)) = .ok found ∧
      (∀ kind, JoinsPairs env left right c (.ofTable tl (some l)) (.ofTable tr (some r)) kind
        (Join.pairsOf kind found)) ∧
      let inner := Join.pairsOf .inner found
      let kept := Join.leftRows tl.numRows inner
      (∀ p ∈ inner, ∃ i < tl.numRows, ∃ j < tr.numRows, p = (i, some j)) ∧
      (s.reading ⟨left, []⟩ (some (.exists (.mk (.one right c))))).plan env outer =
        s.overFrame env ((Frame.ofTable tl (some l)).take kept) outer ∧
      Join.pairsOf .left found = (List.range tl.numRows).flatMap fun i =>
        if i ∈ kept then inner.filter (·.1 = i) else [(i, none)] := by
  set f := Frame.ofTable tl (some l)
  set g := Frame.ofTable tr (some r)
  have hf : f.Plain := Frame.plain_ofTable hl _
  have hg : g.Plain := Frame.plain_ofTable hr _
  have hcorrelated : (planExpr env c).Every (Expr.IsCorrelated f g) :=
    isCorrelated_planExpr hlr hc
  obtain ⟨found, hfound⟩ := onMatches_of_run (itemFrame_of_reads hleft)
    (itemFrame_of_reads hright) hinner
  have hover : ∀ i < f.numRows, ∀ b,
      (planExpr env c).eval env.now ⟨g, f.row i :: outer⟩ = .ok b → b.Over g.numRows none := by
    intro i _ b hb
    obtain ⟨a, ha, -⟩ := bind_eq_ok.mp hfound
    exact (Expr.eval_correlated hg.uniform hg.ungrouped hcorrelated ha hb).over_rows
  obtain ⟨hrows, hsemi⟩ := run_of_exists hf (itemFrame_of_reads hleft)
    (itemFrame_of_reads hright) hover hexists
  have hjoins := joinsPairs_of_onMatches (itemFrame_of_reads hleft) (itemFrame_of_reads hright)
    hfound
  -- both queries read one table of flags: the rows of `g` that match row `i` of `f`
  set matchesOf := fun i =>
    (List.range g.numRows).filter ((planExpr env c).holdsAt env.now ⟨g, f.row i :: outer⟩)
  have hmatches : found = (List.range tl.numRows).map matchesOf :=
    Expr.onMatches_of_correlated hg.uniform hg.ungrouped hcorrelated hrows hfound
  have hpairs : ∀ kind, Join.pairsOf kind found =
      (List.range tl.numRows).flatMap (Join.rowPairs kind matchesOf) := fun kind => by
    rw [hmatches, Join.pairsOf_eq_flatMap]
  refine ⟨found, hfound, hjoins, ?_, ?_, ?_⟩
  · rw [hpairs]
    exact Join.forall_mem_inner_pairs matchesOf fun i j hj =>
      List.mem_range.mp (List.mem_filter.mp hj).1
  · have hkept : ∀ i ∈ List.range f.numRows, (List.range g.numRows).any
        ((planExpr env c).holdsAt env.now ⟨g, f.row i :: outer⟩) = decide (matchesOf i ≠ []) := by
      intro i _
      rw [Bool.eq_iff_iff, decide_eq_true_eq]
      simp only [matchesOf, List.any_eq_true, ne_eq, List.filter_eq_nil_iff, not_forall, not_not,
        exists_prop]
    rw [hsemi s, hpairs, Join.leftRows_inner, List.filter_congr hkept]
    rfl
  · rw [hpairs, hpairs]
    exact Join.left_pairs_eq matchesOf tl.numRows

/-- The table `l`. -/
def tableL : Table := ⟨["x"], [⟨[.integer 1, .integer 2, .null], some .integer⟩], 3⟩

/-- The table `r`. -/
def tableR : Table := ⟨["y"], [⟨[.integer 2, .integer 2], some .integer⟩], 2⟩

def twoTables : Session where
  catalog := ⟨[(⟨"p", "d", "l"⟩, tableL), (⟨"p", "d", "r"⟩, tableR)]⟩
  now := .ofDate ⟨2024, 7, 1, by decide⟩

def itemL : FromItem Query := ⟨.table ⟨["l"], by decide, by decide⟩, none⟩

def itemR : FromItem Query := ⟨.table ⟨["r"], by decide, by decide⟩, none⟩

/-- `l.x = r.y`. -/
def sameKey : Expr Select := .binary .eq (.field ["l", "x"]) (.field ["r", "y"])

/-- `SELECT l.x`. -/
def selectX : SelectOf Select Source :=
  ⟨false, [.one ⟨.field ["l", "x"], some "x", some 1⟩], none, none, [], none⟩

theorem exists_is_semi_join_keys :
    (itemL.Reads twoTables tableL "l" ∧ itemR.Reads twoTables tableR "r" ∧ "l" ≠ "r" ∧
      tableL.Rectangular ∧ tableR.Rectangular ∧
      sameKey.Every (OnColumns (.ofTable tableL (some "l")) (.ofTable tableR (some "r")) "l" "r") ∧
      (selectX.reading ⟨itemL, []⟩ (some (.exists (.mk (.one itemR sameKey))))).plan twoTables [] =
        .ok ⟨["x"], [⟨[.integer 2], some .integer⟩], 1⟩ ∧
      (selectX.reading ⟨itemL, [⟨.inner, itemR, .on sameKey⟩]⟩ none).plan twoTables [] =
        .ok ⟨["x"], [⟨[.integer 2, .integer 2], some .integer⟩], 2⟩) ∧
    (selectX.reading ⟨itemL, []⟩ (some (.exists (.mk (.one itemR sameKey))))).plan twoTables [] =
      selectX.overFrame twoTables ((Frame.ofTable tableL (some "l")).take [1]) [] ∧
    Join.pairsOf .left [[], [0, 1], []] = [(0, none), (1, some 0), (1, some 1), (2, none)] := by
  have hl : itemL.Reads twoTables tableL "l" := ⟨some "l", rfl, rfl⟩
  have hr : itemR.Reads twoTables tableR "r" := ⟨some "r", rfl, rfl⟩
  have hrows : tableL.Rectangular ∧ tableR.Rectangular := by
    simp [Table.Rectangular, tableL, tableR, Column.length]
  have hkey : sameKey.Every
      (OnColumns (.ofTable tableL (some "l")) (.ofTable tableR (some "r")) "l" "r") := by
    refine .intro ⟨rfl, rfl, by simp [sameKey]⟩ fun e he => ?_
    rcases List.mem_pair.mp he with rfl | rfl
    · refine .leaf ⟨rfl, rfl, fun path hpath => ?_⟩ rfl
      obtain rfl := Expr.field.inj hpath
      exact .inl ⟨"x", _, rfl, rfl⟩
    · refine .leaf ⟨rfl, rfl, fun path hpath => ?_⟩ rfl
      obtain rfl := Expr.field.inj hpath
      exact .inr ⟨"y", _, rfl, rfl⟩
  have hexists : (selectX.reading ⟨itemL, []⟩
      (some (.exists (.mk (.one itemR sameKey))))).plan twoTables [] =
        .ok ⟨["x"], [⟨[.integer 2], some .integer⟩], 1⟩ := rfl
  have hinner : (selectX.reading ⟨itemL, [⟨.inner, itemR, .on sameKey⟩]⟩ none).plan twoTables [] =
      .ok ⟨["x"], [⟨[.integer 2, .integer 2], some .integer⟩], 2⟩ := rfl
  have hmatches : Join.onMatches twoTables.now (planExpr twoTables sameKey)
      (.ofTable tableL (some "l")) (.ofTable tableR (some "r")) = .ok [[], [0, 1], []] := rfl
  obtain ⟨found, hfound, -, -, hkept, hpadded⟩ :=
    exists_is_semi_join hl hr (by decide) hrows.1 hrows.2 hkey hexists hinner
  obtain rfl := Except.ok.inj (hmatches.symm.trans hfound)
  exact ⟨⟨hl, hr, by decide, hrows.1, hrows.2, hkey, hexists, hinner⟩, hkept, hpadded⟩

end ColumnarSql
