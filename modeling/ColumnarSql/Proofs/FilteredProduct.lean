import Mathlib.Data.List.Nodup
import ColumnarSql.Proofs.EnclosingFrames
import ColumnarSql.Proofs.SemiJoin

/-!
# Inner joins as filtered products

An inner join on a condition has the rows of the product for which the condition holds, in
their order (`Join.sourceFrame_inner`). So it is a cross join under WHERE with the same
condition, with one difference: ON is evaluated before the enclosing queries are at hand, WHERE
inside them. The join succeeds exactly when the condition can be evaluated without them and the
filtered product succeeds, and then they agree (`inner_join_is_filtered_product`). A condition
on a column of an enclosing query fails under ON (`correlated_on_fails`).
-/

set_option autoImplicit false

namespace ColumnarSql

/-! ## Kept pairs -/

theorem Column.keep_map {α β : Type} (F : α → β) :
    ∀ (mask : List Bool) (as : List α), keep mask (as.map F) = (keep mask as).map F
  | [], _ => by simp [keep]
  | _ :: _, [] => by simp [keep]
  | b :: mask, a :: as => by cases b <;> simp [keep, keep_map F mask as]

/-- The flags of distinct entries are a property of them. -/
theorem exists_flag {α : Type} [DecidableEq α] {as : List α} (has : as.Nodup) {mask : List Bool}
    (h : mask.length = as.length) : ∃ p : α → Bool, as.map p = mask := by
  refine ⟨fun a => mask.getD (as.idxOf a) false, List.ext_getElem (by simp [h]) fun i hi _ => ?_⟩
  have hi : i < as.length := by simpa using hi
  simp [has.idxOf_getElem i hi, List.getD, h, hi]

namespace Join

theorem nodup_product (n m : Nat) : (product n m).Nodup :=
  List.Nodup.product List.nodup_range List.nodup_range

/-- The inner pairs of the kept matches are the kept pairs of the product. -/
theorem pairsOf_inner {n m : Nat} {mask : List Bool} (h : mask.length = (product n m).length) :
    pairsOf .inner ((List.range n).map fun i =>
        ((Column.keep mask (product n m)).filter (·.1 = i)).map (·.2)) =
      Column.keep mask ((product n m).map fun p => (p.1, some p.2)) := by
  obtain ⟨p, rfl⟩ := exists_flag (nodup_product n m) h
  rw [Column.keep_map, keep_map_eq_filter, matches_of_product, pairsOf_eq_flatMap, product,
    List.filter_flatMap, List.map_flatMap]
  refine List.flatMap_congr fun i _ => ?_
  simp [rowPairs, List.filter_map, Function.comp_def]

/-- Keeping joined rows is joining the kept pairs. -/
theorem filter_combine (f g : Frame) {pairs : List RowPair} {mask : List Bool}
    (h : mask.length = pairs.length) :
    (combine f g pairs).filter mask = combine f g (Column.keep mask pairs) := by
  have hcount : mask.count true = (Column.keep mask pairs).length := by
    rw [Column.length_keep, ← h, List.take_length]
  simp [combine, Frame.combine, Frame.filter, Frame.take, Frame.mapColumns, Frame.ofRows,
    Column.filter, Column.take, Column.takePadded, Column.keep_map, hcount, Function.comp_def]

/-- ON keeps the rows of the product for which the condition holds over the product alone. -/
theorem combine_onMatches {now : Moment} {f g frame : Frame} {condition : Expr Plan} :
    (∃ found, onMatches now condition f g = .ok found ∧
        combine f g (pairsOf .inner found) = frame) ↔
      ∃ a, condition.eval now ⟨cross f g, []⟩ = .ok a ∧
        ∃ mask, a.truthMask "WHERE" (cross f g).numRows = .ok mask ∧
          (cross f g).filter mask = frame := by
  have hrows : (cross f g).numRows = (product f.numRows g.numRows).length := by
    simp [cross]
  have hframe : ∀ mask : List Bool, mask.length = (cross f g).numRows →
      combine f g (pairsOf .inner ((List.range f.numRows).map fun i =>
        ((Column.keep mask (product f.numRows g.numRows)).filter (·.1 = i)).map (·.2))) =
      (cross f g).filter mask := by
    intro mask hmask
    rw [pairsOf_inner (hmask.trans hrows), cross, filter_combine f g (by simp [hmask, hrows])]
  simp only [onMatches, bind_eq_ok, pure_eq_ok]
  constructor
  · rintro ⟨-, ⟨a, ha, mask, hmask, rfl⟩, rfl⟩
    exact ⟨a, ha, mask, Evaluated.truthMask_eq_ok.mpr (Evaluated.truthMask_eq_ok.mp hmask),
      (hframe mask (Evaluated.length_truthMask hmask)).symm⟩
  · rintro ⟨a, ha, mask, hmask, rfl⟩
    exact ⟨_, ⟨a, ha, mask, Evaluated.truthMask_eq_ok.mpr (Evaluated.truthMask_eq_ok.mp hmask),
      rfl⟩, hframe mask (Evaluated.length_truthMask hmask)⟩

end Join

/-! ## Queries -/

namespace SelectOf

theorem exists_frame_of_run {now : Moment} {s : SelectOf Plan (Except Error Frame)}
    {outer : List Frame} {t : Table} {source : Except Error Frame}
    (hsource : s.source = some source) (h : s.run now outer = .ok t) :
    ∃ f, source = .ok f := by
  obtain ⟨scope, _, _, _, _, hscope, -⟩ := steps_of_run h
  obtain ⟨f, hf, -⟩ := bind_eq_ok.mp hscope
  exact ⟨f, by simpa [hsource] using hf⟩

/-- `left INNER JOIN right ON c`, without WHERE. -/
def innerJoin (s : SelectOf Select Source) (left right : FromItem Query) (c : Expr Select) :
    Select :=
  s.reading ⟨left, [⟨.inner, right, .on c⟩]⟩ none

/-- `left CROSS JOIN right WHERE c`. -/
def filteredProduct (s : SelectOf Select Source) (left right : FromItem Query)
    (c : Expr Select) : Select :=
  s.reading ⟨left, [⟨.cross, right, .none⟩]⟩ (some c)

end SelectOf

/-- The rows of two FROM items side by side. -/
def productFrame (env : Session) (left right : FromItem Query) : Except Error Frame := do
  let f ← Join.itemFrame ⟨left.query.run env, left.label⟩
  let g ← Join.itemFrame ⟨right.query.run env, right.label⟩
  return Join.cross f g

/-- The product of two items and the flags of a condition over it, inside these frames. -/
def productFlags (env : Session) (left right : FromItem Query) (c : Expr Select)
    (outer : List Frame) : Except Error (Frame × List Bool) := do
  let f ← productFrame env left right
  let a ← (planExpr env c).eval env.now ⟨f, outer⟩
  return (f, ← a.truthMask "WHERE" f.numRows)

variable {env : Session} {left right : FromItem Query} {c : Expr Select} {outer : List Frame}

theorem productFlags_eq_ok_iff {f : Frame} {mask : List Bool} :
    productFlags env left right c outer = .ok (f, mask) ↔
      productFrame env left right = .ok f ∧
        ∃ a, (planExpr env c).eval env.now ⟨f, outer⟩ = .ok a ∧
          a.truthMask "WHERE" f.numRows = .ok mask := by
  simp only [productFlags, bind_eq_ok, pure_eq_ok, Prod.mk.injEq]
  constructor
  · rintro ⟨f, hf, a, ha, mask, hmask, rfl, rfl⟩
    exact ⟨hf, a, ha, hmask⟩
  · rintro ⟨hf, a, ha, hmask⟩
    exact ⟨f, hf, a, ha, mask, hmask, rfl, rfl⟩

theorem sourceFrame_inner {frame : Frame} :
    Join.sourceFrame env.now ⟨⟨left.query.run env, left.label⟩,
        planJoins env [⟨.inner, right, .on c⟩]⟩ = .ok frame ↔
      ∃ f mask, productFlags env left right c [] = .ok (f, mask) ∧ f.filter mask = frame := by
  simp only [productFlags_eq_ok_iff, productFrame, bind_eq_ok, pure_eq_ok, planJoins,
    Join.sourceFrame, Join.extend, List.foldlM_cons, List.foldlM_nil]
  constructor
  · rintro ⟨f, hf, frame, ⟨g, hg, found, hfound, rfl⟩, rfl⟩
    obtain ⟨a, ha, mask, hmask, hframe⟩ := Join.combine_onMatches.mp ⟨found, hfound, rfl⟩
    exact ⟨_, mask, ⟨⟨f, hf, g, hg, rfl⟩, a, ha, hmask⟩, hframe⟩
  · rintro ⟨-, mask, ⟨⟨f, hf, g, hg, rfl⟩, a, ha, hmask⟩, rfl⟩
    obtain ⟨found, hfound, hframe⟩ := Join.combine_onMatches.mpr ⟨a, ha, mask, hmask, rfl⟩
    exact ⟨f, hf, _, ⟨g, hg, found, hfound, rfl⟩, hframe⟩

theorem sourceFrame_cross {frame : Frame} :
    Join.sourceFrame env.now ⟨⟨left.query.run env, left.label⟩,
        planJoins env [⟨.cross, right, .none⟩]⟩ = .ok frame ↔
      productFrame env left right = .ok frame := by
  simp [productFrame, planJoins, Join.sourceFrame, Join.extend]

/-- The condition can be evaluated over the product without any enclosing frame. -/
def EvaluatesAlone (env : Session) (left right : FromItem Query) (c : Expr Select) : Prop :=
  ∃ f a, productFrame env left right = .ok f ∧ (planExpr env c).eval env.now ⟨f, []⟩ = .ok a

/-- A condition has the flags that it has by itself inside enclosing frames, and no others if it
has any by itself. -/
theorem productFlags_inside (hc : (planExpr env c).StableIn outer) {p : Frame × List Bool} :
    productFlags env left right c [] = .ok p ↔
      EvaluatesAlone env left right c ∧ productFlags env left right c outer = .ok p := by
  obtain ⟨f, mask⟩ := p
  have hinside : ∀ {f a}, productFrame env left right = .ok f →
      (planExpr env c).eval env.now ⟨f, []⟩ = .ok a →
        (planExpr env c).eval env.now ⟨f, outer⟩ = .ok a := by
    intro f a hf ha
    simp only [productFrame, bind_eq_ok, pure_eq_ok] at hf
    obtain ⟨_, -, _, -, rfl⟩ := hf
    exact Expr.eval_inside hc (Scope.anchored_of_frame rfl) ha
  simp only [productFlags_eq_ok_iff]
  constructor
  · rintro ⟨hf, a, ha, hmask⟩
    exact ⟨⟨f, a, hf, ha⟩, hf, a, hinside hf ha, hmask⟩
  · rintro ⟨⟨f', a, hf', ha⟩, hf, b, hb, hmask⟩
    obtain rfl := Except.ok.inj (hf'.symm.trans hf)
    obtain rfl := Except.ok.inj ((hinside hf ha).symm.trans hb)
    exact ⟨hf, a, ha, hmask⟩

namespace SelectOf

variable {s : SelectOf Select Source} {t : Table}

/-- The inner join reads the rows that its condition keeps by itself. -/
theorem innerJoin_eq_ok_iff :
    (s.innerJoin left right c).plan env outer = .ok t ↔
      ∃ f mask, productFlags env left right c [] = .ok (f, mask) ∧
        s.overFrame env (f.filter mask) outer = .ok t := by
  constructor
  · intro h
    have hrun := h
    rw [innerJoin, reading, plan_mk] at hrun
    obtain ⟨frame, hframe⟩ := exists_frame_of_run rfl hrun
    obtain ⟨f, mask, hflags, rfl⟩ := sourceFrame_inner.mp hframe
    rw [innerJoin, reading_eq_overFrame (congrArg some hframe)] at h
    exact ⟨f, mask, hflags, h⟩
  · rintro ⟨f, mask, hflags, h⟩
    rwa [innerJoin, reading_eq_overFrame
      (congrArg some (sourceFrame_inner.mpr ⟨f, mask, hflags, rfl⟩))]

/-- The filtered product reads the rows that its condition keeps inside the enclosing frames. -/
theorem filteredProduct_eq_ok_iff :
    (s.filteredProduct left right c).plan env outer = .ok t ↔
      ∃ f mask, productFlags env left right c outer = .ok (f, mask) ∧
        s.overFrame env (f.filter mask) outer = .ok t := by
  rw [filteredProduct, reading, plan_mk]
  have hsource : ∀ f, productFrame env left right = .ok f →
      (SelectOf.planned env { s with
        source := some ⟨left, [⟨.cross, right, .none⟩]⟩, condition := some c }).source =
          some (.ok f) :=
    fun f hf => congrArg some (sourceFrame_cross.mpr hf)
  constructor
  · intro h
    obtain ⟨f, hframe⟩ := exists_frame_of_run rfl h
    have hf := sourceFrame_cross.mp hframe
    obtain ⟨scope, _, _, _, _, hscope, -⟩ := steps_of_run h
    obtain ⟨a, ha, mask, hmask, -⟩ := (inputScope_eq_ok (hsource f hf) rfl).mp hscope
    rw [run_of_where (hsource f hf) rfl ha hmask] at h
    exact ⟨f, mask, productFlags_eq_ok_iff.mpr ⟨hf, a, ha, hmask⟩, h⟩
  · rintro ⟨f, mask, hflags, h⟩
    obtain ⟨hf, a, ha, hmask⟩ := productFlags_eq_ok_iff.mp hflags
    rwa [run_of_where (hsource f hf) rfl ha hmask]

end SelectOf

/-- An inner join is the product filtered by its condition. In no enclosing query they give the
same tables. Inside enclosing queries the join gives a table when the condition can be evaluated
without them and the filtered product gives that table, for subqueries of the condition that are
the same there. -/
theorem inner_join_is_filtered_product (s : SelectOf Select Source) (left right : FromItem Query)
    (c : Expr Select) (t : Table) :
    ((s.innerJoin left right c).plan env [] = .ok t ↔
      (s.filteredProduct left right c).plan env [] = .ok t) ∧
    ∀ outer, (planExpr env c).StableIn outer →
      ((s.innerJoin left right c).plan env outer = .ok t ↔
        EvaluatesAlone env left right c ∧
          (s.filteredProduct left right c).plan env outer = .ok t) := by
  refine ⟨?alone, fun outer hc => ?inside⟩
  case alone => rw [SelectOf.innerJoin_eq_ok_iff, SelectOf.filteredProduct_eq_ok_iff]
  case inside =>
    simp only [SelectOf.innerJoin_eq_ok_iff, SelectOf.filteredProduct_eq_ok_iff,
      productFlags_inside hc, and_assoc, exists_and_left]

/-- A row of an enclosing query with a column `o.z`. -/
def enclosingRow : Frame := .ofTable ⟨["z"], [⟨[.integer 2], some .integer⟩], 1⟩ (some "o")

theorem inner_join_is_filtered_product_keys :
    ((planExpr twoTables sameKey).StableIn [enclosingRow] ∧
      (selectX.innerJoin itemL itemR sameKey).plan twoTables [enclosingRow] =
        .ok ⟨["x"], [⟨[.integer 2, .integer 2], some .integer⟩], 2⟩) ∧
    EvaluatesAlone twoTables itemL itemR sameKey ∧
      (selectX.filteredProduct itemL itemR sameKey).plan twoTables [enclosingRow] =
        .ok ⟨["x"], [⟨[.integer 2, .integer 2], some .integer⟩], 2⟩ := by
  have hstable : (planExpr twoTables sameKey).StableIn [enclosingRow] := by
    refine .intro (by simp [planExpr, sameKey]) fun e he => ?_
    rcases List.mem_pair.mp he with rfl | rfl <;> exact .leaf (by simp [planExpr]) rfl
  have hjoin : (selectX.innerJoin itemL itemR sameKey).plan twoTables [enclosingRow] =
      .ok ⟨["x"], [⟨[.integer 2, .integer 2], some .integer⟩], 2⟩ := rfl
  exact ⟨⟨hstable, hjoin⟩,
    ((inner_join_is_filtered_product selectX itemL itemR sameKey _).2 _ hstable).mp hjoin⟩

/-- `l.x = o.z`, on a column of the enclosing query. -/
def outerKey : Expr Select := .binary .eq (.field ["l", "x"]) (.field ["o", "z"])

/-- A condition on a column of an enclosing query is evaluated under WHERE and fails under ON. -/
theorem correlated_on_fails :
    (selectX.innerJoin itemL itemR outerKey).plan twoTables [enclosingRow] =
        .error (.unknownField ["o", "z"] ["l.x", "r.y"]) ∧
      (selectX.filteredProduct itemL itemR outerKey).plan twoTables [enclosingRow] =
        .ok ⟨["x"], [⟨[.integer 2, .integer 2], some .integer⟩], 2⟩ :=
  ⟨rfl, rfl⟩

end ColumnarSql
