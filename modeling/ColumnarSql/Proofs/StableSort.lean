import ColumnarSql.Proofs.EvaluationTypes
import ColumnarSql.Proofs.ValueOrder
import ColumnarSql.QueryPlan

/-!
# Stable sorting by several keys

Over columns of one type each, comparing rows by several keys is a preorder
(`transCmp_compareRows`), whatever keys descend. Rows that come one by one in ascending order
are inserted so that the sorted list ascends by the comparison and, among equal rows, by
number (`pairwise_stable`). That is a strict order, so no other arrangement of the rows has
this property (`eq_of_before`): a sorted table is already in the order of its keys
(`Table.sort_stable`).
-/

set_option autoImplicit false

namespace ColumnarSql

/-! ## Rows of typed columns -/

/-- Among values of one type the order is transitive. -/
theorem Column.Typed.transCmp {c : Column} (h : c.Typed) :
    Std.TransCmp fun i j => (c.cell i).compare (c.cell j) where
  eq_swap := Value.compare_swap _ _
  isLE_trans :=
    have halike : ∀ i j, (c.cell i).alike (c.cell j) := fun i j =>
      Value.alike_of_conforms _ _ c.type (h.cell i) (h.cell j)
    Value.isLE_trans_of_alike (halike _ _) (halike _ _) (halike _ _)

/-- A direction keeps an order transitive. -/
theorem SortOrder.transCmp_apply {α : Type} {cmp : α → α → Ordering} (h : Std.TransCmp cmp) :
    ∀ o : SortOrder, Std.TransCmp fun a b => o.apply (cmp a b)
  | .ascending => h
  | .descending => by
    have hswap : (fun a b => SortOrder.descending.apply (cmp a b)) = fun a b => cmp b a :=
      funext₂ fun _ _ => h.eq_swap.symm
    rw [hswap]
    exact Std.TransCmp.opposite

namespace Sorting

/-- The order of rows by typed keys is transitive. -/
theorem transCmp_compareRows : ∀ {keys : List (Column × SortOrder)},
    (∀ k ∈ keys, k.1.Typed) → Std.TransCmp (compareRows keys)
  | [], _ => { eq_swap := rfl, isLE_trans := fun _ _ => rfl }
  | k :: keys, h => by
    obtain ⟨hk, hkeys⟩ := List.forall_mem_cons.mp h
    have := k.2.transCmp_apply hk.transCmp
    have := transCmp_compareRows hkeys
    exact inferInstanceAs (Std.TransCmp (compareLex
      (fun i j => k.2.apply ((k.1.cell i).compare (k.1.cell j))) (compareRows keys)))

/-! ## Inserting rows in ascending order -/

variable {cmp : Nat → Nat → Ordering}

/-- The first row is less by the comparison, or equal and has the smaller number. -/
def Before (cmp : Nat → Nat → Ordering) (i j : Nat) : Prop :=
  cmp i j = .lt ∨ cmp i j = .eq ∧ i < j

/-- Coming before is transitive. -/
theorem Before.trans [Std.TransCmp cmp] {i j k : Nat} (hij : Before cmp i j)
    (hjk : Before cmp j k) : Before cmp i k := by
  rcases hij with hij | ⟨hij, hlt⟩
  · rcases hjk with hjk | ⟨hjk, -⟩
    · exact .inl (Std.TransCmp.lt_trans hij hjk)
    · exact .inl (Std.TransCmp.lt_of_lt_of_eq hij hjk)
  · rcases hjk with hjk | ⟨hjk, hlt'⟩
    · exact .inl (Std.TransCmp.lt_of_eq_of_lt hij hjk)
    · exact .inr ⟨Std.TransCmp.eq_trans hij hjk, Nat.lt_trans hlt hlt'⟩

theorem Before.asymm [Std.OrientedCmp cmp] {i j : Nat} (hij : Before cmp i j) :
    ¬Before cmp j i := by
  have hswap : cmp i j = (cmp j i).swap := Std.OrientedCmp.eq_swap
  rintro (hji | ⟨hji, hlt⟩)
  · rw [Before, hswap, hji] at hij
    simp at hij
  · rw [Before, hswap, hji] at hij
    rcases hij with hij | ⟨-, hlt'⟩
    · simp at hij
    · exact Nat.lt_asymm hlt hlt'

/-- An insertion adds the one row. -/
theorem mem_insertDescending {precedes : Nat → Nat → Bool} {i j : Nat} {rows : List Nat} :
    j ∈ insertDescending precedes i rows ↔ j = i ∨ j ∈ rows := by
  rw [(perm_insertDescending precedes i rows).mem_iff, List.mem_cons]

/-- A row with a greater number than the others finds its place: before the rows it is not
less than. -/
theorem pairwise_insertDescending [Std.TransCmp cmp] {i : Nat} :
    ∀ {rows : List Nat}, (∀ j ∈ rows, j < i) → rows.Pairwise (fun j k => Before cmp k j) →
      (insertDescending (fun a b => (cmp a b).isLT) i rows).Pairwise fun j k => Before cmp k j
  | [], _, _ => List.pairwise_singleton _ _
  | j :: rows, hlast, h => by
    obtain ⟨hj, hlast⟩ := List.forall_mem_cons.mp hlast
    obtain ⟨hfirst, hrest⟩ := List.pairwise_cons.mp h
    unfold insertDescending
    split
    · next hlt =>
      refine List.pairwise_cons.mpr ⟨fun k hk => ?_, pairwise_insertDescending hlast hrest⟩
      rcases mem_insertDescending.mp hk with rfl | hk
      · exact .inl (Ordering.isLT_iff_eq_lt.mp hlt)
      · exact hfirst k hk
    · next hnot =>
      have hji : Before cmp j i := by
        have hswap : cmp j i = (cmp i j).swap := Std.OrientedCmp.eq_swap
        cases hij : cmp i j with
        | lt => simp [hij] at hnot
        | eq => exact .inr ⟨by rw [hswap, hij]; rfl, hj⟩
        | gt => exact .inl (by rw [hswap, hij]; rfl)
      refine List.pairwise_cons.mpr ⟨fun k hk => ?_, h⟩
      rcases List.mem_cons.mp hk with rfl | hk
      · exact hji
      · exact (hfirst k hk).trans hji

/-- Inserting rows in turn keeps them in descending order, equal ones by row. -/
theorem pairwise_foldl_insertDescending [Std.TransCmp cmp] :
    ∀ {rows sorted : List Nat}, rows.Pairwise (· < ·) → (∀ j ∈ sorted, ∀ i ∈ rows, j < i) →
      sorted.Pairwise (fun j k => Before cmp k j) →
      (rows.foldl (fun sorted i => insertDescending (fun a b => (cmp a b).isLT) i sorted)
        sorted).Pairwise fun j k => Before cmp k j
  | [], _, _, _, h => h
  | i :: rows, sorted, hascend, hlast, h => by
    obtain ⟨hi, hascend⟩ := List.pairwise_cons.mp hascend
    rw [List.foldl_cons]
    refine pairwise_foldl_insertDescending hascend (fun j hj k hk => ?_)
      (pairwise_insertDescending (fun j hj => hlast j hj i List.mem_cons_self) h)
    rcases mem_insertDescending.mp hj with rfl | hj
    · exact hi k hk
    · exact hlast j hj k (List.mem_cons_of_mem i hk)

/-- Rows in ascending order are sorted by the comparison, equal ones by number. -/
theorem pairwise_stable [Std.TransCmp cmp] {rows : List Nat} (h : rows.Pairwise (· < ·)) :
    (stable (fun a b => (cmp a b).isLT) rows).Pairwise (Before cmp) := by
  rw [stable, List.pairwise_reverse]
  exact pairwise_foldl_insertDescending h (by simp) List.Pairwise.nil

/-- There is one such arrangement of the rows. -/
theorem eq_of_before [Std.OrientedCmp cmp] {rows rows' : List Nat} (hperm : rows.Perm rows')
    (h : rows.Pairwise (Before cmp)) (h' : rows'.Pairwise (Before cmp)) : rows = rows' :=
  hperm.eq_of_pairwise (fun _ _ _ _ hij hji => absurd hji hij.asymm) h h'

variable {keys : List (Column × SortOrder)} {n : Nat}

theorem pairwise_rowOrder (h : ∀ k ∈ keys, k.1.Typed) :
    (rowOrder keys n).Pairwise (Before (compareRows keys)) := by
  have := transCmp_compareRows h
  exact pairwise_stable List.pairwise_lt_range

/-- Rows that ascend already stay where they are. -/
theorem rowOrder_of_pairwise (h : ∀ k ∈ keys, k.1.Typed)
    (hrows : (List.range n).Pairwise (Before (compareRows keys))) :
    rowOrder keys n = List.range n := by
  have := transCmp_compareRows h
  exact eq_of_before (perm_rowOrder keys n) (pairwise_rowOrder h) hrows

end Sorting

/-! ## Tables -/

namespace Table

variable {t : Table} {keys : List (Nat × SortOrder)} {i j : Nat}

/-- Row `i` comes before row `j` by the sort keys: the first key column in which the rows
differ decides, and keys outside the table are passed over. -/
inductive Precedes (t : Table) (i j : Nat) : List (Nat × SortOrder) → Prop where
  | ascending {n : Nat} {c : Column} {keys : List (Nat × SortOrder)}
      (column : t.columnAt? n = some c) (less : (c.cell i).compare (c.cell j) = .lt) :
      Precedes t i j ((n, .ascending) :: keys)
  | descending {n : Nat} {c : Column} {keys : List (Nat × SortOrder)}
      (column : t.columnAt? n = some c) (greater : (c.cell i).compare (c.cell j) = .gt) :
      Precedes t i j ((n, .descending) :: keys)
  | equal {n : Nat} {o : SortOrder} {c : Column} {keys : List (Nat × SortOrder)}
      (column : t.columnAt? n = some c) (equal : (c.cell i).compare (c.cell j) = .eq)
      (rest : Precedes t i j keys) : Precedes t i j ((n, o) :: keys)
  | outside {n : Nat} {o : SortOrder} {keys : List (Nat × SortOrder)}
      (outside : t.columnAt? n = none) (rest : Precedes t i j keys) :
      Precedes t i j ((n, o) :: keys)

/-- Two rows have equal values in all key columns. -/
def Ties (t : Table) (i j : Nat) (keys : List (Nat × SortOrder)) : Prop :=
  ∀ k ∈ keys, ∀ c, t.columnAt? k.1 = some c → (c.cell i).compare (c.cell j) = .eq

/-- The key columns inside the table. -/
def keyColumns (t : Table) (keys : List (Nat × SortOrder)) : List (Column × SortOrder) :=
  keys.filterMap fun k => (t.columnAt? k.1).map fun c => (c, k.2)

/-- The rows in the order of the sort keys. -/
def sortedRows (t : Table) (keys : List (Nat × SortOrder)) : List Nat :=
  Sorting.rowOrder (t.keyColumns keys) t.numRows

theorem sort_eq (t : Table) (keys : List (Nat × SortOrder)) :
    t.sort keys = t.take (t.sortedRows keys) := rfl

theorem keyColumns_cons_of_some {n : Nat} {o : SortOrder} {c : Column}
    (h : t.columnAt? n = some c) :
    t.keyColumns ((n, o) :: keys) = (c, o) :: t.keyColumns keys := by
  simp [keyColumns, h]

theorem keyColumns_cons_of_none {n : Nat} {o : SortOrder} (h : t.columnAt? n = none) :
    t.keyColumns ((n, o) :: keys) = t.keyColumns keys := by
  simp [keyColumns, h]

theorem compareRows_eq_lt_iff :
    ∀ {keys : List (Nat × SortOrder)},
      Sorting.compareRows (t.keyColumns keys) i j = .lt ↔ t.Precedes i j keys
  | [] => ⟨nofun, nofun⟩
  | (n, o) :: keys => by
    have ih := @compareRows_eq_lt_iff keys
    cases hc : t.columnAt? n with
    | none =>
      rw [keyColumns_cons_of_none hc, ih]
      refine ⟨.outside hc, fun h => ?_⟩
      cases h <;> simp_all
    | some c =>
      rw [keyColumns_cons_of_some hc]
      change (o.apply ((c.cell i).compare (c.cell j))).then
        (Sorting.compareRows (t.keyColumns keys) i j) = .lt ↔ _
      rw [Ordering.then_eq_lt, ih]
      constructor
      · rintro (h | ⟨h, hrest⟩)
        · cases o with
          | ascending => exact .ascending hc h
          | descending => exact .descending hc (by simpa [SortOrder.apply] using h)
        · refine .equal hc ?_ hrest
          cases o <;> simpa [SortOrder.apply] using h
      · intro h
        cases h <;> simp_all [SortOrder.apply]
        cases o <;> simp_all

theorem compareRows_eq_eq_iff :
    ∀ {keys : List (Nat × SortOrder)},
      Sorting.compareRows (t.keyColumns keys) i j = .eq ↔ t.Ties i j keys
  | [] => by simp [Ties, keyColumns, Sorting.compareRows]
  | (n, o) :: keys => by
    have ih := @compareRows_eq_eq_iff keys
    have hcons : t.Ties i j ((n, o) :: keys) ↔
        (∀ c, t.columnAt? n = some c → (c.cell i).compare (c.cell j) = .eq) ∧
          t.Ties i j keys := List.forall_mem_cons
    cases hc : t.columnAt? n with
    | none => simp [keyColumns_cons_of_none hc, ih, hcons, hc]
    | some c =>
      rw [keyColumns_cons_of_some hc, hcons]
      change (o.apply ((c.cell i).compare (c.cell j))).then
        (Sorting.compareRows (t.keyColumns keys) i j) = .eq ↔ _
      rw [Ordering.then_eq_eq, ih]
      cases o <;> simp [SortOrder.apply, hc]

theorem mem_columns_of_keyColumns {k : Column × SortOrder} (h : k ∈ t.keyColumns keys) :
    k.1 ∈ t.columns := by
  obtain ⟨⟨n, o⟩, -, hk⟩ := List.mem_filterMap.mp h
  obtain ⟨c, hc, rfl⟩ := Option.map_eq_some_iff.mp hk
  exact List.mem_of_getElem? hc

theorem typed_keyColumns (ht : ∀ c ∈ t.columns, c.Typed) (keys : List (Nat × SortOrder)) :
    ∀ k ∈ t.keyColumns keys, k.1.Typed :=
  fun k hk => ht k.1 (mem_columns_of_keyColumns hk)

/-! ## Sorting twice -/

theorem keyColumns_take (rows : List Nat) :
    (t.take rows).keyColumns keys = (t.keyColumns keys).map fun k => (k.1.take rows, k.2) := by
  simp [keyColumns, List.map_filterMap, columnAt?, take, Function.comp_def]

theorem compareRows_take {rows : List Nat} (hi : i < rows.length) (hj : j < rows.length) :
    Sorting.compareRows ((t.take rows).keyColumns keys) i j =
      Sorting.compareRows (t.keyColumns keys) rows[i] rows[j] := by
  simp only [keyColumns_take, Sorting.compareRows, List.foldr_map, Column.cell_take _ hi,
    Column.cell_take _ hj]

@[simp] theorem length_sortedRows (t : Table) (keys : List (Nat × SortOrder)) :
    (t.sortedRows keys).length = t.numRows :=
  (Sorting.perm_rowOrder _ _).length_eq.trans List.length_range

/-- A sorted table has its rows in the order of the sort keys. -/
theorem sortedRows_sort (ht : ∀ c ∈ t.columns, c.Typed) :
    (t.sort keys).sortedRows keys = List.range t.numRows := by
  have hlen : (t.sort keys).numRows = t.numRows := length_sortedRows t keys
  have htyped : ∀ c ∈ (t.sort keys).columns, c.Typed := by
    simp only [sort_eq, take, List.forall_mem_map]
    exact fun c hc => (ht c hc).take _
  rw [sortedRows, hlen]
  refine Sorting.rowOrder_of_pairwise (typed_keyColumns htyped keys) ?_
  have hsorted := List.pairwise_iff_getElem.mp
    (Sorting.pairwise_rowOrder (n := t.numRows) (typed_keyColumns ht keys))
  refine List.pairwise_iff_getElem.mpr fun i j hi hj hij => ?_
  simp only [List.length_range, ← hlen] at hi hj
  simp only [List.getElem_range]
  rcases hsorted i j hi hj hij with hlt | ⟨heq, -⟩
  · exact .inl ((compareRows_take hi hj).trans hlt)
  · exact .inr ⟨(compareRows_take hi hj).trans heq, hij⟩

theorem take_range {n : Nat} (h : ∀ c ∈ t.columns, c.length = n) (hn : t.numRows = n) :
    t.take (List.range n) = t := by
  have hcolumns : t.columns.map (·.take (List.range n)) = t.columns := by
    refine (List.map_congr_left fun c hc => ?_).trans (List.map_id _)
    rw [Column.take_range c (Nat.le_of_eq (h c hc).symm), ← h c hc, Column.length,
      List.take_length]
    rfl
  rw [take, hcolumns, List.length_range, ← hn]

/-- Sorting is a stable sort by several keys: the sorted rows are the rows of the table, none
comes after a row that the keys place behind it, rows equal in all key columns stay in their
order, and a sorted table is not changed by sorting it again. -/
theorem sort_stable (t : Table) (ht : ∀ c ∈ t.columns, c.Typed) (keys : List (Nat × SortOrder)) :
    t.sort keys = t.take (t.sortedRows keys) ∧
      (t.sortedRows keys).Perm (List.range t.numRows) ∧
      (t.sortedRows keys).Pairwise (fun i j => ¬t.Precedes j i keys) ∧
      (t.sortedRows keys).Pairwise (fun i j => t.Ties i j keys → i < j) ∧
      (t.sort keys).sort keys = t.sort keys := by
  have horder := Sorting.pairwise_rowOrder (n := t.numRows) (typed_keyColumns ht keys)
  have := Sorting.transCmp_compareRows (typed_keyColumns ht keys)
  refine ⟨rfl, Sorting.perm_rowOrder _ _, horder.imp fun hij hji => ?_,
    horder.imp fun hij hties => ?_, ?_⟩
  · exact hij.asymm (.inl (compareRows_eq_lt_iff.mpr hji))
  · rcases hij with hlt | ⟨-, hlt⟩
    · rw [compareRows_eq_eq_iff.mpr hties] at hlt
      contradiction
    · exact hlt
  · rw [sort_eq (t.sort keys), sortedRows_sort ht]
    refine take_range (fun c hc => ?_) (length_sortedRows t keys)
    obtain ⟨d, -, rfl⟩ := List.mem_map.mp hc
    exact (Column.length_take _ _).trans (length_sortedRows t keys)

/-- Two columns, of integers and of strings, with equal cells and NULLs. -/
def mixedRows : Table where
  names := ["a", "b"]
  columns := [
    ⟨[.integer 2, .null, .integer 2, .integer 1, .integer 2], some .integer⟩,
    ⟨[.string "x", .string "y", .null, .string "x", .string "x"], some .string⟩]
  numRows := 5

/-- `a` descends and `b` ascends; the key between them is outside the table. -/
theorem sort_stable_mixedRows :
    (∀ c ∈ mixedRows.columns, c.Typed) ∧
      mixedRows.sortedRows [(0, .descending), (7, .ascending), (1, .ascending)] =
        [2, 0, 4, 3, 1] ∧
      [2, 0, 4, 3, 1].Perm (List.range 5) ∧
      ¬mixedRows.Precedes 0 2 [(0, .descending), (7, .ascending), (1, .ascending)] := by
  have htyped : ∀ c ∈ mixedRows.columns, c.Typed := by
    simp [mixedRows, Column.Typed, Value.conforms, Value.scalarType?]
  have hrows : mixedRows.sortedRows [(0, .descending), (7, .ascending), (1, .ascending)] =
      [2, 0, 4, 3, 1] := by decide
  obtain ⟨-, hperm, horder, -⟩ :=
    sort_stable mixedRows htyped [(0, .descending), (7, .ascending), (1, .ascending)]
  rw [hrows] at hperm horder
  exact ⟨htyped, hrows, hperm, (List.pairwise_cons.mp horder).1 0 (by decide)⟩

end Table

end ColumnarSql
