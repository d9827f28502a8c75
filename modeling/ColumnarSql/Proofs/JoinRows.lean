import Mathlib.Data.List.Nodup
import ColumnarSql.Proofs.SameSchema
import ColumnarSql.Proofs.SemiJoin

/-!
# The rows of a join

The product of `n` left rows and `m` right rows has the pair of `i` and `j` in row `i * m + j`
(`Join.range_mul`), so a result over the product says which right rows match a left row
(`Evaluated.matchesOf`). A join on a condition has, left row by left row, the left row beside
each of its matches, and a left join has a left row without matches once, beside NULL
(`join_on_rows`). It takes every TRUE, FALSE or NULL result that is a constant or has one value
for each pair; a condition that reduces the product has one value in all and is refused
(`join_on_reduction_fails`).
-/

set_option autoImplicit false

namespace ColumnarSql

/-! ## Rows of a frame -/

namespace Frame

/-- The values of a row. -/
def cells (f : Frame) (i : Nat) : List Value := f.columns.map (·.column.cell i)

/-- The values of all rows. -/
def rows (f : Frame) : List (List Value) := (List.range f.numRows).map f.cells

/-- A row of NULL. -/
def nullRow (f : Frame) : List Value := f.columns.map fun _ => .null

end Frame

/-! ## Matches -/

namespace Evaluated

/-- A result that is a column of some rows is over them. -/
theorem over_of_toColumn {n : Nat} {a : Evaluated} {c : Column} (h : a.toColumn n = .ok c) :
    a.Over n none := by
  cases a with
  | constant v t => exact .constant v t
  | grouped level d gs => simp [toColumn] at h
  | column d =>
    rw [toColumn, ite_error_eq_ok] at h
    exact .rows d h.1

/-- The right rows, of so many, for which a condition over the product is TRUE beside a left
row. -/
def matchesOf (a : Evaluated) (m i : Nat) : List Nat :=
  (List.range m).filter fun j => (a.cell (i * m + j)).boolean? = some true

end Evaluated

namespace Join

/-- The rows of a product, by their pairs. -/
theorem range_mul (m : Nat) :
    ∀ n, List.range (n * m) = (product n m).map fun p => p.1 * m + p.2
  | 0 => by simp [product]
  | n + 1 => by
    have ih := range_mul m n
    have hproduct : product (n + 1) m = product n m ++ (List.range m).map fun j => (n, j) := by
      simp [product, List.range_succ]
    rw [Nat.succ_mul, List.range_add, ih, hproduct, List.map_append, List.map_map]
    rfl

theorem length_product (n m : Nat) : (product n m).length = n * m := by
  have h := congrArg List.length (range_mul m n)
  simpa using h.symm

variable {now : Moment} {f g : Frame} {condition : Expr Plan} {a : Evaluated}

@[simp] theorem numRows_cross (f g : Frame) : (cross f g).numRows = f.numRows * g.numRows := by
  simp [cross, length_product]

/-- A condition gives matches when it is a condition for each pair of rows. -/
theorem onMatches_eq_ok_iff (ha : condition.eval now ⟨cross f g, []⟩ = .ok a)
    {found : List (List Nat)} :
    onMatches now condition f g = .ok found ↔
      a.type.isTruth ∧ a.Over (f.numRows * g.numRows) none ∧
        found = (List.range f.numRows).map (a.matchesOf g.numRows) := by
  -- The flags of the pairs of the product, in its order.
  have hmatches : ∀ mask, mask = (List.range (f.numRows * g.numRows)).map
        (fun k => decide ((a.cell k).boolean? = some true)) →
      ((List.range f.numRows).map fun i =>
        ((Column.keep mask (product f.numRows g.numRows)).filter (·.1 = i)).map (·.2)) =
          (List.range f.numRows).map (a.matchesOf g.numRows) := by
    rintro mask rfl
    rw [range_mul, List.map_map, keep_map_eq_filter]
    exact matches_of_product _ _
  simp only [onMatches, bind_eq_ok, pure_eq_ok, ha, Except.ok.injEq, exists_eq_left', numRows_cross]
  constructor
  · rintro ⟨mask, hmask, rfl⟩
    obtain ⟨-, c, hc, -⟩ := Evaluated.truthMask_eq_ok.mp hmask
    have hover := Evaluated.over_of_toColumn hc
    obtain ⟨htruth, hmask⟩ := (Evaluated.truthMask_of_over hover).mp hmask
    exact ⟨htruth, hover, hmatches mask hmask⟩
  · rintro ⟨htruth, hover, rfl⟩
    exact ⟨_, (Evaluated.truthMask_of_over hover).mpr ⟨htruth, rfl⟩, hmatches _ rfl⟩

/-! ## Joined rows -/

/-- The values of a pair of rows. -/
def pairCells (f g : Frame) (p : RowPair) : List Value :=
  f.cells p.1 ++ p.2.elim g.nullRow g.cells

theorem rows_combine (f g : Frame) (pairs : List RowPair) :
    (combine f g pairs).rows = pairs.map (pairCells f g) := by
  refine List.ext_getElem (by simp [Frame.rows]) fun k _ hk => ?_
  have hk : k < pairs.length := by simpa using hk
  have hcells := cells_combine f g hk
  simp only [Frame.rows, List.getElem_map, List.getElem_range]
  refine hcells.trans ?_
  rw [pairCells, Frame.cells]
  cases pairs[k].2 <;> rfl

/-- Row `i * m + j` of the product is the pair of `i` and `j`. -/
theorem getElem_product {n m i j : Nat} (hi : i < n) (hj : j < m)
    (hk : i * m + j < (product n m).length) : (product n m)[i * m + j] = (i, j) := by
  have hnodup : ((product n m).map fun p => p.1 * m + p.2).Nodup :=
    range_mul m n ▸ List.nodup_range
  have hplace : (product n m)[i * m + j].1 * m + (product n m)[i * m + j].2 = i * m + j := by
    have hrow := List.getElem_of_eq (range_mul m n) (by simpa [length_product] using hk)
    rw [List.getElem_range, List.getElem_map] at hrow
    exact hrow.symm
  exact List.inj_on_of_nodup_map hnodup (List.getElem_mem hk) (mem_product.mpr ⟨hi, hj⟩) hplace

/-- Row `i * m + j` of the product has left row `i` beside right row `j`. -/
theorem cells_cross (f g : Frame) {i j : Nat} (hi : i < f.numRows) (hj : j < g.numRows) :
    (cross f g).cells (i * g.numRows + j) = f.cells i ++ g.cells j := by
  have hk : i * g.numRows + j < (product f.numRows g.numRows).length := by
    rw [length_product]
    calc i * g.numRows + j < (i + 1) * g.numRows := by rw [Nat.succ_mul]; omega
      _ ≤ f.numRows * g.numRows := Nat.mul_le_mul_right _ hi
  have hcells := @cells_combine f g ((product f.numRows g.numRows).map fun p => (p.1, some p.2))
    (i * g.numRows + j) (by simpa using hk)
  rw [List.getElem_map, getElem_product hi hj hk] at hcells
  exact hcells

/-- The values of the pairs of a left row with its matches; a left join keeps a left row without
matches once. -/
theorem map_pairCells_rowPairs (f g : Frame) (kind : JoinKind) (matchesOf : Nat → List Nat)
    (i : Nat) : (rowPairs kind matchesOf i).map (pairCells f g) =
      if matchesOf i = [] ∧ kind = .left then [f.cells i ++ g.nullRow]
      else (matchesOf i).map fun j => f.cells i ++ g.cells j := by
  unfold rowPairs
  rw [apply_ite (List.map (pairCells f g)), List.map_map]
  exact if_congr (by simp) rfl rfl

end Join

/-- A join on a condition. The condition is evaluated over the product, whose row `i * m + j` is
left row `i` beside right row `j`. The join succeeds when the condition is TRUE, FALSE or NULL
for each pair, and then has the left columns before the right ones and, for each left row, the
pairs for which the condition is TRUE by ascending right row; a left join has a left row without
any of them once, beside NULL. -/
theorem join_on_rows {now : Moment} {f g : Frame} {item : FromItem (Except Error NamedTable)}
    (hitem : Join.itemFrame item = .ok g) {condition : Expr Plan} {a : Evaluated}
    (ha : condition.eval now ⟨Join.cross f g, []⟩ = .ok a) (kind : JoinKind) :
    (∀ i < f.numRows, ∀ j < g.numRows,
      (Join.cross f g).cells (i * g.numRows + j) = f.cells i ++ g.cells j) ∧
    ((∃ h, Join.extend now f ⟨kind, item, .on condition⟩ = .ok h) ↔
      a.type.isTruth ∧ a.Over (f.numRows * g.numRows) none) ∧
    ∀ h, Join.extend now f ⟨kind, item, .on condition⟩ = .ok h →
      h.Plain ∧ h.schema = f.schema ++ g.schema ∧
        h.rows = (List.range f.numRows).flatMap fun i =>
          if a.matchesOf g.numRows i = [] ∧ kind = .left then [f.cells i ++ g.nullRow]
          else (a.matchesOf g.numRows i).map fun j => f.cells i ++ g.cells j := by
  have hextend : ∀ h, Join.extend now f ⟨kind, item, .on condition⟩ = .ok h ↔
      (a.type.isTruth ∧ a.Over (f.numRows * g.numRows) none) ∧
        Join.combine f g ((List.range f.numRows).flatMap
          (Join.rowPairs kind (a.matchesOf g.numRows))) = h := by
    intro h
    simp only [Join.extend, hitem, bind_eq_ok, pure_eq_ok, Except.ok.injEq, exists_eq_left',
      Join.onMatches_eq_ok_iff ha, ← Join.pairsOf_eq_flatMap]
    constructor
    · rintro ⟨_, ⟨htruth, hover, rfl⟩, rfl⟩
      exact ⟨⟨htruth, hover⟩, rfl⟩
    · rintro ⟨⟨htruth, hover⟩, rfl⟩
      exact ⟨_, ⟨htruth, hover, rfl⟩, rfl⟩
  refine ⟨fun i hi j hj => Join.cells_cross f g hi hj, ?succeeds, fun h hh => ?rows⟩
  case succeeds => simp [hextend]
  case rows =>
    obtain ⟨-, rfl⟩ := (hextend h).mp hh
    refine ⟨Join.plain_combine f g _, f.schema_combine g _ _, ?_⟩
    rw [Join.rows_combine, List.map_flatMap]
    exact List.flatMap_congr fun i _ => Join.map_pairCells_rowPairs f g kind _ i

/-- The rows of `l` in FROM. -/
def frameL : Frame := .ofTable tableL (some "l")

/-- The rows of `r` in FROM. -/
def frameR : Frame := .ofTable tableR (some "r")

/-- `r` as a FROM item that is evaluated. -/
def plannedR : FromItem (Except Error NamedTable) := ⟨.ok (tableR, some "r"), none⟩

theorem join_on_rows_keys :
    (Join.itemFrame plannedR = .ok frameR ∧
      (planExpr twoTables sameKey).eval twoTables.now ⟨Join.cross frameL frameR, []⟩ =
        .ok (.column ⟨[.boolean false, .boolean false, .boolean true, .boolean true, .null, .null],
          some .boolean⟩)) ∧
    ∃ h, Join.extend twoTables.now frameL ⟨.left, plannedR, .on (planExpr twoTables sameKey)⟩ =
        .ok h ∧
      h.rows = [[.integer 1, .null], [.integer 2, .integer 2], [.integer 2, .integer 2],
        [.null, .null]] := by
  have hitem : Join.itemFrame plannedR = .ok frameR := rfl
  have heval : (planExpr twoTables sameKey).eval twoTables.now ⟨Join.cross frameL frameR, []⟩ =
      .ok (.column ⟨[.boolean false, .boolean false, .boolean true, .boolean true, .null, .null],
        some .boolean⟩) := rfl
  obtain ⟨-, hsucceeds, hrows⟩ := join_on_rows hitem heval .left
  obtain ⟨h, hh⟩ := hsucceeds.mpr ⟨.inr rfl, .rows ⟨_, some .boolean⟩ rfl⟩
  exact ⟨⟨hitem, heval⟩, h, hh, (hrows h hh).2.2⟩

/-- `COUNT(*) > 0`. -/
def pairsCounted : Expr Plan :=
  .binary .gt (.call (.count false) [.literal (.ofValue (.integer 1))])
    (.literal (.ofValue (.integer 0)))

/-- A condition that reduces the product is BOOLEAN and has one value for all pairs. -/
theorem join_on_reduction_fails :
    Join.itemFrame plannedR = .ok frameR ∧
      pairsCounted.eval twoTables.now ⟨Join.cross frameL frameR, []⟩ =
        .ok (.column ⟨[.boolean true], some .boolean⟩) ∧
      Join.extend twoTables.now frameL ⟨.inner, plannedR, .on pairsCounted⟩ =
        .error (.resultLength 1 6) :=
  ⟨rfl, rfl, rfl⟩

end ColumnarSql
