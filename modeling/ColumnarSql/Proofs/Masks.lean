import ColumnarSql.Proofs.RectangularTables
import ColumnarSql.Proofs.RowByRow

/-!
# Masks

A condition sets the flags of the rows where its value is TRUE (`truthMask_of_over`), and
keeping the rows of the set flags is taking them by number (`Frame.filter_eq_take`,
`Table.filter_eq_take`).
-/

set_option autoImplicit false

namespace ColumnarSql

/-! ## Rows of a mask -/

/-- The rows whose flag is set. -/
def rowsOf (mask : List Bool) : List Nat :=
  (List.range mask.length).filter fun i => mask.getD i false

theorem rowsOf_cons (b : Bool) (mask : List Bool) :
    rowsOf (b :: mask) = (if b then [0] else []) ++ (rowsOf mask).map (· + 1) := by
  simp only [rowsOf, List.length_cons, List.range_succ_eq_map, List.filter_cons, List.filter_map]
  cases b <;> simp [Function.comp_def]

theorem keep_eq_map {α : Type} (default : α) :
    ∀ (mask : List Bool) (as : List α), mask.length = as.length →
      Column.keep mask as = (rowsOf mask).map fun i => as.getD i default
  | [], as, h => by simp [Column.keep, rowsOf]
  | _ :: _, [], h => by simp at h
  | b :: mask, a :: as, h => by
    have ih := keep_eq_map default mask as (by simpa using h)
    rw [rowsOf_cons, List.map_append, List.map_map]
    cases b <;> simp [Column.keep, ih, Function.comp_def]

theorem count_eq_length_rowsOf : ∀ mask : List Bool, mask.count true = (rowsOf mask).length
  | [] => rfl
  | b :: mask => by
    rw [rowsOf_cons, List.count_cons, count_eq_length_rowsOf mask]
    cases b <;> simp

/-- The rows of a mask computed from the row numbers. -/
theorem rowsOf_map_range (p : Nat → Bool) (n : Nat) :
    rowsOf ((List.range n).map p) = (List.range n).filter p := by
  rw [rowsOf, List.length_map, List.length_range]
  exact List.filter_congr fun i hi => by simp [List.getD, List.mem_range.mp hi]

/-- A mask computed from the entries themselves keeps what satisfies it. -/
theorem keep_map_eq_filter {α : Type} (p : α → Bool) :
    ∀ as : List α, Column.keep (as.map p) as = as.filter p
  | [] => rfl
  | a :: as => by
    have ih := keep_map_eq_filter p as
    cases h : p a <;> simp [Column.keep, h, ih]

theorem Column.values_eq (c : Column) : c.values = (List.range c.length).map c.cell :=
  List.ext_getElem (by simp [length]) fun i hi _ => by simp [cell, List.getD, hi]

theorem Column.filter_eq_take {c : Column} {mask : List Bool} (h : mask.length = c.length) :
    c.filter mask = c.take (rowsOf mask) := by
  simp only [Column.filter, Column.take, keep_eq_map .null mask c.values h]
  rfl

theorem Frame.filter_eq_take {f : Frame} (hf : f.Uniform) {mask : List Bool}
    (h : mask.length = f.numRows) : f.filter mask = f.take (rowsOf mask) := by
  have hcolumns : (f.columns.map fun c => { c with column := c.column.filter mask }) =
      f.columns.map fun c => { c with column := c.column.take (rowsOf mask) } :=
    List.map_congr_left fun c hc => by rw [Column.filter_eq_take (h.trans (hf c hc).symm)]
  simp only [Frame.filter, Frame.take, Frame.mapColumns, hcolumns, count_eq_length_rowsOf]

theorem Table.filter_eq_take {t : Table} (ht : t.Rectangular) {mask : List Bool}
    (h : mask.length = t.numRows) : t.filter mask = t.take (rowsOf mask) := by
  have hcolumns : (t.columns.map (·.filter mask)) = t.columns.map (·.take (rowsOf mask)) :=
    List.map_congr_left fun c hc => Column.filter_eq_take (h.trans (ht c hc).symm)
  simp only [Table.filter, Table.take, hcolumns, count_eq_length_rowsOf]

/-! ## Flags of a condition -/

namespace Evaluated

/-- The flags of a condition over the rows of a frame. -/
theorem truthMask_of_over {clause : String} {n : Nat} {a : Evaluated} {mask : List Bool}
    (h : a.Over n none) :
    a.truthMask clause n = .ok mask ↔ ColumnType.isTruth a.type ∧
      mask = (List.range n).map fun i => decide ((a.cell i).boolean? = some true) := by
  obtain ⟨c, hc, hlen, -, hcells⟩ := toColumn_of_over h
  have hmask : c.values.map (fun v => decide (v.boolean? = some true)) =
      (List.range n).map fun i => decide ((a.cell i).boolean? = some true) := by
    rw [c.values_eq, List.map_map, hlen]
    exact List.map_congr_left fun i hi => by simp [hcells i (List.mem_range.mp hi)]
  rw [truthMask_eq_ok, ← hmask]
  simp only [hc, Except.ok.injEq, exists_eq_left']
  rw [eq_comm (a := mask)]

end Evaluated

end ColumnarSql
