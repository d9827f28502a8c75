import ColumnarSql.Proofs.RectangularTables

/-!
# Uniform tables

A table is uniform if it has one name for each column and in every column one value for each row.
The constructors give uniform tables (`Made.uniform`), and taking, slicing and sorting rows keep
them so for all arguments. Filtering counts the set flags of the whole mask, so it keeps a table
with columns uniform exactly if no flag after the last row is set (`uniform_filter_iff`). A
sequence of operations therefore leads through uniform tables only if every mask fits the table
that it meets, and then always (`uniform_throughout_iff`).
-/

set_option autoImplicit false

namespace ColumnarSql.Table

/-- One name for each column, and in every column one value for each row. -/
structure Uniform (t : Table) : Prop where
  names_length : t.names.length = t.columns.length
  lengths : t.Rectangular

/-! ## Constructors -/

/-- A table as one of the constructors gives it. -/
inductive Made : Table → Prop where
  | ofRows {schema : List (String × DataType)} {rows : List (List Value)} {t : Table}
      (h : Table.ofRows schema rows = .ok t) : Made t
  | ofNamedColumns {names : List String} {columns : List Column} {t : Table}
      (h : Table.ofNamedColumns names columns = .ok t) : Made t
  | ofColumns {names : List String} {columns : List Column} {numRows : Nat} {t : Table}
      (h : Table.ofColumns names columns numRows = .ok t) : Made t
  | singleRow : Made singleRow

theorem uniform_ofColumns {names : List String} {columns : List Column} {n : Nat} {t : Table}
    (h : Table.ofColumns names columns n = .ok t) : t.Uniform := by
  obtain ⟨hnames, hlengths, rfl⟩ := ofColumns_eq_ok h
  exact ⟨hnames, hlengths⟩

/-- Every constructor ends in the check of names and lengths, or gives no columns. -/
theorem Made.uniform {t : Table} (h : t.Made) : t.Uniform := by
  cases h with
  | ofRows h =>
    obtain ⟨_, -, h⟩ := bind_eq_ok.mp h
    obtain ⟨columns, -, h⟩ := bind_eq_ok.mp h
    exact uniform_ofColumns h
  | ofNamedColumns h => exact uniform_ofColumns h
  | ofColumns h => exact uniform_ofColumns h
  | singleRow => exact ⟨rfl, nofun⟩

/-! ## Operations -/

/-- What can be done with a table. Slicing is also what LIMIT does. -/
inductive Operation where
  | take (rows : List Nat)
  | filter (mask : List Bool)
  | slice (offset limit : Nat)
  | sort (keys : List (Nat × SortOrder))

variable {t : Table} {mask : List Bool}

namespace Operation

def apply (t : Table) : Operation → Table
  | take rows => t.take rows
  | filter mask => t.filter mask
  | slice offset limit => t.slice offset limit
  | sort keys => t.sort keys

/-- A mask of a table with columns sets no flag after the last row. -/
def Fits (t : Table) : Operation → Prop
  | filter mask => t.columns = [] ∨ true ∉ mask.drop t.numRows
  | _ => True

end Operation

theorem Uniform.rows?_eq (h : t.Uniform) : t.rows? = some t.toRows :=
  rows?_eq_some_iff.mpr ⟨fun c hc => Nat.le_of_eq (h.lengths c hc).symm, rfl⟩

theorem Uniform.take (h : t.Uniform) (rows : List Nat) : (t.take rows).Uniform :=
  ⟨by simpa [Table.take] using h.names_length, t.rectangular_take rows⟩

/-- The flags after the last row are counted, but no column has a value there. -/
theorem uniform_filter_iff (h : t.Uniform) :
    (t.filter mask).Uniform ↔ t.columns = [] ∨ true ∉ mask.drop t.numRows := by
  have hcount : ∀ c ∈ t.columns,
      (c.filter mask).length = mask.count true ↔ true ∉ mask.drop t.numRows := by
    intro c hc
    have hkept : (c.filter mask).length = (mask.take t.numRows).count true := by
      rw [← h.lengths c hc]
      exact Column.length_keep mask c.values
    have hsplit : mask.count true =
        (mask.take t.numRows).count true + (mask.drop t.numRows).count true := by
      rw [← List.count_append, List.take_append_drop]
    rw [hkept, hsplit, ← List.count_eq_zero]
    omega
  constructor
  · intro hfilter
    cases hcolumns : t.columns with
    | nil => exact .inl rfl
    | cons c cs =>
      have hc : c ∈ t.columns := by simp [hcolumns]
      exact .inr ((hcount c hc).mp (hfilter.lengths _ (List.mem_map_of_mem hc)))
  · intro hfits
    refine ⟨by simpa [Table.filter] using h.names_length, List.forall_mem_map.mpr fun c hc => ?_⟩
    exact (hcount c hc).mpr (hfits.resolve_left (List.ne_nil_of_mem hc))

/-- An operation keeps a table uniform exactly if it fits it. -/
theorem uniform_apply_iff (h : t.Uniform) (op : Operation) :
    (op.apply t).Uniform ↔ op.Fits t := by
  cases op with
  | filter mask => exact uniform_filter_iff h
  | take rows => exact iff_of_true (h.take rows) trivial
  | slice offset limit => exact iff_of_true (h.take _) trivial
  | sort keys => exact iff_of_true (h.take _) trivial

/-! ## Sequences of operations -/

/-- The tables that a sequence of operations leads through. -/
def states (t : Table) : List Operation → List Table
  | [] => [t]
  | op :: ops => t :: (op.apply t).states ops

/-- Every operation fits the table that it is applied to. -/
def AllFit (t : Table) : List Operation → Prop
  | [] => True
  | op :: ops => op.Fits t ∧ (op.apply t).AllFit ops

theorem mem_states_self (t : Table) : ∀ ops : List Operation, t ∈ t.states ops
  | [] => List.mem_singleton_self t
  | _ :: _ => List.mem_cons_self

theorem Uniform.states_iff : ∀ {t : Table} {ops : List Operation}, t.Uniform →
    ((∀ u ∈ t.states ops, u.Uniform) ↔ t.AllFit ops)
  | t, [], h => by simp [states, AllFit, h]
  | t, op :: ops, h => by
    rw [states, List.forall_mem_cons, AllFit, ← uniform_apply_iff h]
    constructor
    · rintro ⟨-, hrest⟩
      have hnext := hrest _ (mem_states_self _ ops)
      exact ⟨hnext, (states_iff hnext).mp hrest⟩
    · rintro ⟨hnext, hfit⟩
      exact ⟨h, (states_iff hnext).mpr hfit⟩

/-- From a table of one of the constructors, any operations in any order lead through uniform
tables exactly if no mask sets a flag after the last row of a table with columns. The places that
are taken, the bounds of slices and the sort keys do not matter, nor does the length of a mask. -/
theorem uniform_throughout_iff (h : t.Made) (ops : List Operation) :
    (∀ u ∈ t.states ops, u.Uniform) ↔ t.AllFit ops :=
  h.uniform.states_iff

/-- A column of three integers. -/
def threeNumbers : Table :=
  ⟨["n"], [⟨[.integer 3, .integer 1, .integer 2], some .integer⟩], 3⟩

theorem made_threeNumbers : threeNumbers.Made :=
  have hchecked : ofColumns threeNumbers.names threeNumbers.columns 3 = .ok threeNumbers := rfl
  .ofColumns hchecked

/-- Sorted, filtered by a mask that is too long and by one that is too short, and taken twice. -/
theorem uniform_throughout_threeNumbers :
    threeNumbers.Made ∧
      threeNumbers.AllFit [.sort [(0, .descending)], .filter [true, true, false, false],
        .filter [true], .take [0, 0]] ∧
      ∀ u ∈ threeNumbers.states [.sort [(0, .descending)], .filter [true, true, false, false],
        .filter [true], .take [0, 0]], u.Uniform := by
  have hmade := made_threeNumbers
  have hfit : threeNumbers.AllFit [.sort [(0, .descending)], .filter [true, true, false, false],
      .filter [true], .take [0, 0]] :=
    ⟨trivial, .inr (by decide), .inr (by decide), trivial, trivial⟩
  exact ⟨hmade, hfit, (uniform_throughout_iff hmade _).mpr hfit⟩

/-- A mask of four flags counts four rows of three: the table is not uniform any more, and one row
has no cell. -/
theorem filter_counts_past_last_row :
    threeNumbers.Made ∧ (threeNumbers.filter [true, true, true, true]).numRows = 4 ∧
      (threeNumbers.filter [true, true, true, true]).columns.map Column.length = [3] ∧
      ¬(threeNumbers.filter [true, true, true, true]).Uniform ∧
      (threeNumbers.filter [true, true, true, true]).rows? = none := by
  have hmade := made_threeNumbers
  refine ⟨hmade, rfl, rfl, fun h => ?_, rfl⟩
  rcases (uniform_filter_iff hmade.uniform).mp h with hcolumns | hflags
  · simp [threeNumbers] at hcolumns
  · exact hflags (by decide)

end ColumnarSql.Table
