import ColumnarSql.Proofs.Partition
import ColumnarSql.Proofs.UsingJoin
import Mathlib.Data.List.Basic

/-!
# Rows that are read

A computation reads only some rows of a column if it gives the same for every column of the same
type with the same values in these rows, whatever its length and its other rows (`ReadsOnly`). Each
function that takes values of columns by row has such rows: those of the selection for
`Column.take`, the rows `0, 1, …` for operations, sorting and grouping, those of the groups for
reducing calls, and those of the partitions for a window call (`Window.readsOnly_apply`).
-/

set_option autoImplicit false

namespace ColumnarSql

/-- The same type, and the same values in these rows. -/
structure Column.AgreeAt (rows : List Nat) (c d : Column) : Prop where
  type_eq : c.type = d.type
  cell_eq : ∀ i ∈ rows, c.cell i = d.cell i

/-- What is computed from a column depends on no other rows of it. -/
def ReadsOnly {β : Type} (rows : List Nat) (compute : Column → β) : Prop :=
  ∀ ⦃c d : Column⦄, c.AgreeAt rows d → compute c = compute d

/-- A column that is read: what is computed from it, and at which rows. -/
structure Reading where
  {β : Type}
  compute : Column → β
  column : Column
  rows : List Nat

/-- These rows are all that is read, and the column has them. -/
structure Reading.InBounds (r : Reading) : Prop where
  only : ReadsOnly r.rows r.compute
  lt : ∀ i ∈ r.rows, i < r.column.length

/-- A reading of rows of the column is in its bounds, if it reads only these. -/
theorem Reading.InBounds.of_length {r : Reading} {n : Nat} (only : ReadsOnly r.rows r.compute)
    (hlength : r.column.length = n) (hrows : ∀ i ∈ r.rows, i < n) : r.InBounds :=
  ⟨only, fun i hi => hlength ▸ hrows i hi⟩

/-! ## Selections -/

namespace Column

/-- Picking rows reads the picked ones. -/
theorem readsOnly_take {rows : List Nat} : ReadsOnly rows fun c => c.take rows := by
  intro c d h
  have hvalues : rows.map c.cell = rows.map d.cell := List.map_congr_left h.cell_eq
  simp only [take, hvalues, h.type_eq]

/-- Picking rows and gaps reads the rows. -/
theorem readsOnly_takePadded {rows : List (Option Nat)} :
    ReadsOnly (rows.filterMap id) fun c => c.takePadded rows := by
  intro c d h
  have hvalues : (rows.map fun r => r.elim .null c.cell) = rows.map fun r => r.elim .null d.cell :=
    List.map_congr_left fun r hr => by
      cases r with
      | none => rfl
      | some i => exact h.cell_eq i (List.mem_filterMap.mpr ⟨some i, hr, rfl⟩)
  simp only [takePadded, hvalues, h.type_eq]

/-- A cell is read at its row. -/
theorem readsOnly_cell {i : Nat} : ReadsOnly [i] fun c => c.cell i :=
  fun _ _ h => h.cell_eq i List.mem_cons_self

end Column

namespace Column.AgreeAt

variable {rows : List Nat} {c d : Column}

/-- A row of columns, of which one is read in this row. -/
theorem map_cell (h : c.AgreeAt rows d) (before after : List Column) {i : Nat} (hi : i ∈ rows) :
    (before ++ c :: after).map (·.cell i) = (before ++ d :: after).map (·.cell i) := by
  simp [h.cell_eq i hi]

/-- Columns that agree at some rows have one type. -/
theorem map_type (h : c.AgreeAt rows d) (before after : List Column) :
    (before ++ c :: after).map Column.type = (before ++ d :: after).map Column.type := by
  simp [h.type_eq]

/-- Columns that agree at some rows agree at fewer. -/
theorem mono (h : c.AgreeAt rows d) {fewer : List Nat} (hfewer : ∀ i ∈ fewer, i ∈ rows) :
    c.AgreeAt fewer d :=
  ⟨h.type_eq, fun i hi => h.cell_eq i (hfewer i hi)⟩

end Column.AgreeAt

/-! ## Operations -/

namespace Evaluated

/-- A column as a result: ungrouped rows so many frames outward, or one value for each row. -/
def inGroups (groups : Option (Nat × Partition)) (c : Column) : Evaluated :=
  groups.elim (.column c) fun p => .grouped p.1 c p.2

/-- Attaching groups leaves the cells. -/
theorem cell_inGroups (groups : Option (Nat × Partition)) (c : Column) (i : Nat) :
    (inGroups groups c).cell i = c.cell i := by
  cases groups <;> rfl

/-- An operation reads its operands in the rows that it maps over. -/
theorem readsOnly_rowValues {before after : List Evaluated} {groups : Option (Nat × Partition)}
    {f : List Value → Except Error Value} {n : Nat} :
    ReadsOnly (List.range n) fun c => rowValues (before ++ inGroups groups c :: after) f n := by
  intro c d h
  refine mapM_congr_left fun i hi => congrArg f ?_
  simp [row, cell_inGroups, h.cell_eq i hi]

/-- The values of a group are read at its first row. -/
theorem readsOnly_firstOfGroups (level : Nat) (groups : Partition) :
    ReadsOnly (groups.filterMap List.head?) fun c => (grouped level c groups).firstOfGroups := by
  intro c d h
  have hvalues : (groups.map fun g => g.head?.elim Value.null c.cell) =
      groups.map fun g => g.head?.elim Value.null d.cell :=
    List.map_congr_left fun g hg => by
      cases hfirst : g.head? with
      | none => rfl
      | some i => exact h.cell_eq i (List.mem_filterMap.mpr ⟨g, hg, hfirst⟩)
  simp only [firstOfGroups, hvalues, h.type_eq]

/-- A reducing call reads the rows of all groups. -/
theorem readsOnly_reduce {f : SqlFunction} {frame : Frame} {level : Nat} {groups : Partition} :
    ReadsOnly groups.flatten fun c => reduce f frame (grouped level c groups) := by
  intro c d h
  have hvalues : (groups.map fun g => g.map c.cell) = groups.map fun g => g.map d.cell :=
    List.map_congr_left fun g hg => List.map_congr_left fun i hi =>
      h.cell_eq i (List.mem_flatten.mpr ⟨g, hg, hi⟩)
  simp only [reduce, groupsOf, type, hvalues, h.type_eq]

end Evaluated

/-! ## Sorting and grouping -/

namespace Sorting

/-- An insertion only asks for the order of the rows it has. -/
theorem insertDescending_congr {α : Type} {p q : α → α → Bool} {a : α} :
    ∀ {bs : List α}, (∀ b ∈ bs, p a b = q a b) → insertDescending p a bs = insertDescending q a bs
  | [], _ => rfl
  | b :: bs, h => by
    obtain ⟨hb, hbs⟩ := List.forall_mem_cons.mp h
    rw [insertDescending, insertDescending, hb, insertDescending_congr hbs]

/-- So does a sort by insertion. -/
theorem foldl_insertDescending_congr {α : Type} {p q : α → α → Bool} :
    ∀ (as bs : List α), (∀ a ∈ as ++ bs, ∀ b ∈ as ++ bs, p a b = q a b) →
      as.foldl (fun sorted a => insertDescending p a sorted) bs =
        as.foldl (fun sorted a => insertDescending q a sorted) bs
  | [], _, _ => rfl
  | a :: as, bs, h => by
    have hinsert : insertDescending p a bs = insertDescending q a bs :=
      insertDescending_congr fun b hb => h a (by simp) b (by simp [hb])
    have hmem : ∀ b ∈ as ++ insertDescending q a bs, b ∈ a :: as ++ bs := by
      intro b hb
      have hperm := ((perm_insertDescending q a bs).append_left as).trans List.perm_middle
      simpa using hperm.mem_iff.mp hb
    rw [List.foldl_cons, List.foldl_cons, hinsert]
    exact foldl_insertDescending_congr as _ fun b hb c hc => h b (hmem b hb) c (hmem c hc)

/-- Sorting compares elements of the list only. -/
theorem stable_congr {α : Type} {p q : α → α → Bool} {as : List α}
    (h : ∀ a ∈ as, ∀ b ∈ as, p a b = q a b) : stable p as = stable q as := by
  rw [stable, stable, foldl_insertDescending_congr as [] (by simpa using h)]

/-- A sort reads each key column at the rows it sorts. -/
theorem readsOnly_rowOrder {before after : List (Column × SortOrder)} {o : SortOrder} {n : Nat} :
    ReadsOnly (List.range n) fun c => rowOrder (before ++ (c, o) :: after) n := by
  intro c d h
  refine stable_congr fun i hi j hj => ?_
  simp only [compareRows, List.foldr_append, List.foldr_cons, h.cell_eq i hi, h.cell_eq j hj]

end Sorting

namespace Buckets

variable {key other : Nat → List Value} {rows : List Nat}

/-- Buckets by appearance only ask for the keys of the rows. -/
theorem byAppearance_congr (h : ∀ i ∈ rows, key i = other i) :
    byAppearance key rows = byAppearance other rows :=
  List.foldl_ext _ _ _ fun bs i hi => by rw [h i hi]

/-- So do buckets by key. -/
theorem byOrder_congr (h : ∀ i ∈ rows, key i = other i) :
    byOrder key rows = byOrder other rows :=
  List.foldl_ext _ _ _ fun bs i hi => by rw [h i hi]

end Buckets

/-- GROUP BY reads each key column at the rows it groups. -/
theorem Grouping.readsOnly_groupsOf {before after : List Column} {n : Nat} :
    ReadsOnly (List.range n) fun c => groupsOf (before ++ c :: after) n := by
  intro c d h
  have hbuckets := Buckets.byOrder_congr fun i hi => h.map_cell before after hi
  simp only [groupsOf, hbuckets]

/-! ## Windows -/

namespace Window

/-- PARTITION BY reads each of its columns at the rows of the window. -/
theorem readsOnly_partitions {before after : List Column} {rows : List Nat} :
    ReadsOnly rows fun c => partitions (before ++ c :: after) rows := by
  intro c d h
  have hbuckets := Buckets.byAppearance_congr fun i hi => h.map_cell before after hi
  have hkeys (e : Column) : (before ++ e :: after).isEmpty = false := by simp
  simp only [partitions, hkeys, hbuckets]

/-- A window function reads each argument at the rows of its partition. -/
theorem readsOnly_partitionValues {f : SqlFunction} {now : Moment} {type : ColumnType}
    {before after : List Column} {rows : List Nat} :
    ReadsOnly rows fun c => partitionValues f now type (before ++ c :: after) rows := by
  intro c d h
  have hfirst : ((before ++ c :: after).head?.elim [] fun e => rows.map e.cell) =
      (before ++ d :: after).head?.elim [] fun e => rows.map e.cell := by
    cases before with
    | nil => exact List.map_congr_left h.cell_eq
    | cons b before => rfl
  unfold partitionValues
  dsimp only
  split
  · rfl
  · split
    · rw [hfirst]
    · exact mapM_congr_left fun i hi => by rw [h.map_cell before after hi]

/-- A window call reads its arguments in the rows of the partitions. -/
theorem readsOnly_apply {f : SqlFunction} {now : Moment} {before after partitionBy : List Column}
    {orderBy : List (Column × SortOrder)} {n : Nat} :
    ReadsOnly (partitions partitionBy (Sorting.rowOrder orderBy n)).flatten
      fun c => apply f now (before ++ c :: after) partitionBy orderBy n := by
  intro c d h
  have hparts (type : ColumnType) :
      (partitions partitionBy (Sorting.rowOrder orderBy n)).mapM
          (partitionValues f now type (before ++ c :: after)) =
        (partitions partitionBy (Sorting.rowOrder orderBy n)).mapM
          (partitionValues f now type (before ++ d :: after)) :=
    mapM_congr_left fun rows hrows => readsOnly_partitionValues
      (h.mono fun i hi => List.mem_flatten.mpr ⟨rows, hrows, hi⟩)
  simp only [apply, h.map_type, hparts]

end Window

/-! ## USING -/

namespace Join

/-- The right rows that each left row finds by equal values in pairs of columns. -/
def foundRows (columns : List (Column × Column)) (left right : Nat) : List (List Nat) :=
  (List.range left).map fun i =>
    if !(leftKey columns i).any Value.isNull then
      Buckets.find (leftKey columns i)
        (Buckets.byAppearance (rightKey columns) (presentRows columns right))
    else []

/-- USING finds rows in the columns it names, and reads no others. -/
theorem usingMatches_eq_foundRows {f g : Frame} {names : List String}
    {columns : List (Column × Column)} (h : usingColumns f g names = .ok columns) :
    usingMatches f g names = .ok (foundRows columns f.numRows g.numRows) :=
  usingMatches_eq h

/-- What is found depends on the keys of the left rows and of the right ones. -/
theorem foundRows_congr {columns others : List (Column × Column)} {left right : Nat}
    (hleft : ∀ i < left, leftKey columns i = leftKey others i)
    (hright : ∀ j < right, rightKey columns j = rightKey others j) :
    foundRows columns left right = foundRows others left right := by
  have hpresent : presentRows columns right = presentRows others right :=
    List.filter_congr fun j hj => by rw [hright j (List.mem_range.mp hj)]
  have hbuckets : Buckets.byAppearance (rightKey columns) (presentRows others right) =
      Buckets.byAppearance (rightKey others) (presentRows others right) :=
    Buckets.byAppearance_congr fun j hj =>
      hright j (List.mem_range.mp (List.mem_of_mem_filter hj))
  refine List.map_congr_left fun i hi => ?_
  rw [hleft i (List.mem_range.mp hi), hpresent, hbuckets]

/-- USING reads its columns of the left table at the rows of the left table. -/
theorem readsOnly_foundRows_left {before after : List (Column × Column)} {r : Column}
    {left right : Nat} :
    ReadsOnly (List.range left) fun c => foundRows (before ++ (c, r) :: after) left right := by
  intro c d h
  refine foundRows_congr (fun i hi => ?_) fun j _ => by simp [rightKey]
  simp [leftKey, h.cell_eq i (List.mem_range.mpr hi)]

/-- USING reads its columns of the right table at the rows of the right table. -/
theorem readsOnly_foundRows_right {before after : List (Column × Column)} {l : Column}
    {left right : Nat} :
    ReadsOnly (List.range right) fun c => foundRows (before ++ (l, c) :: after) left right := by
  intro c d h
  refine foundRows_congr (fun i _ => by simp [leftKey]) fun j hj => ?_
  simp [rightKey, h.cell_eq j (List.mem_range.mpr hj)]

end Join

end ColumnarSql
