import ColumnarSql.Proofs.Picking
import ColumnarSql.Table

/-!
# Slices of a table

A table has at most `maxRows` rows, so the place where a sum of offset and limit stays when it
passes the largest word is not before the last row. A slice therefore takes what dropping
`offset` and keeping `limit` leaves of all row numbers (`slice_eq_take`), and what holds of lists
holds of tables: a slice of a slice is a slice (`slice_slice`), and pages of one size are the
table cut into pieces (`flatMap_pages`).
-/

set_option autoImplicit false

namespace ColumnarSql.Table

variable {t : Table}

/-! ## Rows of taken rows -/

theorem toRows_take (t : Table) (rows : List Nat) :
    (t.take rows).toRows = rows.map fun i => t.columns.map (·.cell i) := by
  refine List.ext_getElem (by simp) fun i hi hi' => ?_
  have hlen : i < rows.length := by simpa using hi
  simp [toRows, take, Column.cell_take _ hlen]

/-- Dropping and keeping taken rows is dropping and keeping their numbers. -/
theorem take_take_drop (t : Table) (rows : List Nat) (offset limit : Nat) :
    (t.take rows).take (((List.range rows.length).drop offset).take limit) =
      t.take ((rows.drop offset).take limit) := by
  have hlt : ∀ k ∈ ((List.range rows.length).drop offset).take limit, k < rows.length :=
    fun k hk => List.mem_range.mp (List.mem_of_mem_drop (List.mem_of_mem_take hk))
  have hrows : (List.range rows.length).map (fun k => rows.getD k 0) = rows :=
    List.ext_getElem (by simp) fun i _ hi => by simp [hi]
  have hpicked : (((List.range rows.length).drop offset).take limit).map
      (fun k => rows.getD k 0) = (rows.drop offset).take limit := by
    rw [List.map_take, List.map_drop, hrows]
  have hcolumns : ∀ c : Column, (c.take rows).take
      (((List.range rows.length).drop offset).take limit) =
        c.take ((rows.drop offset).take limit) := fun c => by
    rw [Column.take_take c hlt, hpicked]
  simp [take, hcolumns]

/-! ## Slices -/

/-- The sum that stays at `maxRows` cuts off no row. -/
theorem slice_eq_take (h : t.numRows ≤ maxRows) (offset limit : Nat) :
    t.slice offset limit = t.take (((List.range t.numRows).drop offset).take limit) := by
  have hstop : min (endOfRows offset limit) t.numRows = min (offset + limit) t.numRows := by
    unfold endOfRows
    omega
  have hrows : List.range' (min offset t.numRows)
      (min (offset + limit) t.numRows - min offset t.numRows) =
        ((List.range t.numRows).drop offset).take limit := by
    refine List.ext_getElem (by simp; omega) fun i hi _ => ?_
    rw [List.length_range'] at hi
    simp
    omega
  rw [slice, hstop, hrows]

theorem toRows_slice (h : t.numRows ≤ maxRows) (offset limit : Nat) :
    (t.slice offset limit).toRows = (t.toRows.drop offset).take limit := by
  rw [slice_eq_take h, toRows_take, List.map_take, List.map_drop]
  rfl

/-- A slice of a slice starts at the sum of the offsets and ends where the first one ends at the
latest. It is empty if the second offset passes the first limit. -/
theorem slice_slice (h : t.numRows ≤ maxRows) (offset limit offset' limit' : Nat) :
    (t.slice offset limit).slice offset' limit' =
      t.slice (offset + offset') (min limit' (limit - offset')) := by
  have hkept : (t.slice offset limit).numRows ≤ maxRows := by
    rw [numRows_slice h]
    omega
  rw [slice_eq_take hkept, slice_eq_take h, slice_eq_take h, numRows_take, take_take_drop,
    List.drop_take, List.take_take, List.drop_drop]

/-- Consecutive pieces of one size make up the part of a list that they cover. -/
theorem flatMap_range_pieces {α : Type} (xs : List α) (size : Nat) :
    ∀ pieces : Nat,
      (List.range pieces).flatMap (fun k => (xs.drop (k * size)).take size) =
        xs.take (pieces * size)
  | 0 => by simp
  | pieces + 1 => by
    rw [List.range_succ, List.flatMap_append, flatMap_range_pieces xs size pieces,
      List.flatMap_singleton, ← List.take_add, Nat.succ_mul]

/-- Enough pages of one size are the whole table. -/
theorem flatMap_pages (h : t.numRows ≤ maxRows) {size pages : Nat}
    (hpages : t.numRows ≤ pages * size) :
    (List.range pages).flatMap (fun k => (t.slice (k * size) size).toRows) = t.toRows := by
  simp only [toRows_slice h]
  rw [flatMap_range_pieces, List.take_of_length_le (by simpa using hpages)]

/-- LIMIT and OFFSET keep exactly the rows that dropping `offset` and taking `limit` leaves, under
the names and types of the table, also when the sum of the two is no word. So slices compose, and
consecutive pages of a positive size are the whole table; there is one page for each full or
begun number of rows of that size. -/
theorem slice_exact (h : t.numRows ≤ maxRows) :
    (∀ offset limit,
      (t.slice offset limit).names = t.names ∧ (t.slice offset limit).types = t.types ∧
        (t.slice offset limit).toRows = (t.toRows.drop offset).take limit) ∧
    (∀ offset limit offset' limit',
      (t.slice offset limit).slice offset' limit' =
          t.slice (offset + offset') (min limit' (limit - offset')) ∧
        (limit ≤ offset' → ((t.slice offset limit).slice offset' limit').toRows = [])) ∧
    ∀ size, 0 < size →
      (List.range ((t.numRows + size - 1) / size)).flatMap
        (fun k => (t.slice (k * size) size).toRows) = t.toRows := by
  refine ⟨fun offset limit => ⟨rfl, types_take _ _, toRows_slice h offset limit⟩,
    fun offset limit offset' limit' => ⟨slice_slice h offset limit offset' limit', fun hle => ?_⟩,
    fun size hsize => flatMap_pages h ?_⟩
  · rw [slice_slice h, toRows_slice h, Nat.sub_eq_zero_of_le hle, Nat.min_zero, List.take_zero]
  · have hdiv := Nat.div_add_mod (t.numRows + size - 1) size
    have hmod := Nat.mod_lt (t.numRows + size - 1) hsize
    rw [Nat.mul_comm]
    omega

/-- A column `n` of three numbers. -/
def threeRows : Table :=
  ⟨["n"], [⟨[.integer 1, .integer 2, .integer 3], some .integer⟩], 3⟩

/-- All rows after the first, with the largest limit, and the pages of two rows. -/
theorem slice_exact_threeRows :
    threeRows.numRows ≤ maxRows ∧ maxRows < 1 + maxRows ∧
      (threeRows.slice 1 maxRows).toRows = [[.integer 2], [.integer 3]] ∧
      (List.range 2).flatMap (fun k => (threeRows.slice (k * 2) 2).toRows) =
        threeRows.toRows := by
  have hwords : threeRows.numRows ≤ maxRows := by decide
  obtain ⟨hrows, -, hpages⟩ := slice_exact hwords
  refine ⟨hwords, by decide, (hrows 1 maxRows).2.2.trans ?_, hpages 2 (by decide)⟩
  exact List.take_of_length_le (by decide)

end ColumnarSql.Table
