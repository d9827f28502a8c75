import Mathlib.Algebra.Group.Nat.Defs
import ColumnarSql.Proofs.StableSort
import ColumnarSql.Proofs.WindowRows

/-!
# Row numbers

ROW_NUMBER gives a row its place in its partition, from one on (`Window.apply_rowNumber`). A
partition is a class of rows with equal keys in the order of the window, so the places of its
rows count up to its size (`Window.map_numberOf`), and of two rows the one that comes first
has the smaller number (`Window.numberOf_lt_iff`). `rowNumber_counts_classes` puts the three
together for a call in a typed scope whose keys have no constants outside their types; with such
constants rows are equal to two unequal ones (`rowNumber_miscounts_constants`).
-/

set_option autoImplicit false

namespace ColumnarSql

namespace Window

/-! ## Classes and order, by the cells alone -/

/-- The rows below `n` that are equal to row `i` on all keys. -/
def equalRows (keys : List Column) (n i : Nat) : List Nat :=
  (List.range n).filter fun j => keys.all fun k => k.cell j == k.cell i

/-- Row `i` comes before row `j`: the first key in which they differ decides, the other way
round if it descends, and rows that differ in no key stand in their own order. -/
inductive Precedes (i j : Nat) : List (Column × SortOrder) → Prop where
  | ascending {c : Column} {keys : List (Column × SortOrder)}
      (less : (c.cell i).compare (c.cell j) = .lt) : Precedes i j ((c, .ascending) :: keys)
  | descending {c : Column} {keys : List (Column × SortOrder)}
      (greater : (c.cell i).compare (c.cell j) = .gt) : Precedes i j ((c, .descending) :: keys)
  | equal {c : Column} {o : SortOrder} {keys : List (Column × SortOrder)}
      (equal : c.cell i == c.cell j) (rest : Precedes i j keys) : Precedes i j ((c, o) :: keys)
  | tie (earlier : i < j) : Precedes i j []

variable {keys : List Column} {orderBy : List (Column × SortOrder)} {rows : List Nat}
  {n i j : Nat}

theorem equalRows_eq (keys : List Column) (n i : Nat) :
    equalRows keys n i = partitionOf keys (List.range n) i := by
  refine List.filter_congr fun j _ => Bool.eq_iff_iff.mpr ?_
  rw [List.all_eq_true, Ordering.isEq_iff_eq_eq, Value.compareItems_map_eq]
  exact forall₂_congr fun k _ => Value.beq_iff_compare

/-- The order in which a window sorts its rows. -/
theorem before_iff_precedes :
    ∀ {orderBy : List (Column × SortOrder)},
      Sorting.Before (Sorting.compareRows orderBy) i j ↔ Precedes i j orderBy
  | [] => by
    constructor
    · rintro (h | ⟨-, h⟩)
      · cases h
      · exact .tie h
    · rintro ⟨⟩
      exact .inr ⟨rfl, ‹i < j›⟩
  | (c, o) :: orderBy => by
    have ih := @before_iff_precedes orderBy
    have hstep : Sorting.Before (Sorting.compareRows ((c, o) :: orderBy)) i j ↔
        o.apply ((c.cell i).compare (c.cell j)) = .lt ∨
          o.apply ((c.cell i).compare (c.cell j)) = .eq ∧
            Sorting.Before (Sorting.compareRows orderBy) i j := by
      change (o.apply ((c.cell i).compare (c.cell j))).then _ = .lt ∨
        (o.apply ((c.cell i).compare (c.cell j))).then _ = .eq ∧ i < j ↔ _
      rw [Ordering.then_eq_lt, Ordering.then_eq_eq, Sorting.Before, and_assoc, or_assoc,
        ← and_or_left]
      rfl
    rw [hstep, ih]
    constructor
    · rintro (h | ⟨h, hrest⟩)
      · cases o with
        | ascending => exact .ascending h
        | descending => exact .descending (by simpa [SortOrder.apply] using h)
      · refine .equal (Value.beq_iff_compare.mpr ?_) hrest
        cases o <;> simpa [SortOrder.apply] using h
    · rintro (h | h | ⟨h, hrest⟩)
      · exact .inl h
      · exact .inl (by simpa [SortOrder.apply] using h)
      · rw [Value.beq_iff_compare] at h
        exact .inr ⟨by cases o <;> simp [SortOrder.apply, h], hrest⟩

/-! ## Places in a partition -/

/-- The place of a row in its partition, from one on. -/
def numberOf (keys : List Column) (rows : List Nat) (i : Nat) : Nat :=
  (partitionOf keys rows i).idxOf i + 1

theorem numberOf_le (keys : List Column) (hi : i ∈ rows) : numberOf keys rows i ≤ rows.length :=
  Nat.le_trans (List.idxOf_lt_length_of_mem (mem_partitionOf_self keys hi))
    (List.length_filter_le _ _)

theorem partitionOf_eq (hkeys : ∀ c ∈ keys, c.Typed) (hi : i ∈ rows)
    (hj : j ∈ partitionOf keys rows i) : partitionOf keys rows i = partitionOf keys rows j :=
  have hmem := ((mem_partitions hkeys).mpr ⟨hi, rfl⟩).1
  ((mem_partitions hkeys).mp ⟨hmem, hj⟩).2

/-- The rows of a partition have the numbers from one up to its size. -/
theorem map_numberOf (hkeys : ∀ c ∈ keys, c.Typed) (hrows : rows.Nodup) (hi : i ∈ rows) :
    (partitionOf keys rows i).map (numberOf keys rows) =
      List.range' 1 (partitionOf keys rows i).length := by
  have hnodup : (partitionOf keys rows i).Nodup := nodup_partitionOf hrows
  refine List.ext_getElem (by simp) fun k hk hk' => ?_
  have hk : k < (partitionOf keys rows i).length := by simpa using hk
  have heq := partitionOf_eq hkeys hi (List.getElem_mem hk)
  rw [List.getElem_map, List.getElem_range', numberOf, ← heq, hnodup.idxOf_getElem k hk]
  omega

/-- In a partition the row that comes first has the smaller number. -/
theorem numberOf_lt_iff (hkeys : ∀ c ∈ keys, c.Typed) (horder : ∀ k ∈ orderBy, k.1.Typed)
    (hi : i < n) (hj : j ∈ partitionOf keys (Sorting.rowOrder orderBy n) i) :
    numberOf keys (Sorting.rowOrder orderBy n) i < numberOf keys (Sorting.rowOrder orderBy n) j ↔
      Precedes i j orderBy := by
  have hsorted : i ∈ Sorting.rowOrder orderBy n :=
    (Sorting.perm_rowOrder orderBy n).mem_iff.mpr (List.mem_range.mpr hi)
  have htrans := Sorting.transCmp_compareRows horder
  have hascend : (partitionOf keys (Sorting.rowOrder orderBy n) i).Pairwise
      (Sorting.Before (Sorting.compareRows orderBy)) :=
    (Sorting.pairwise_rowOrder horder).filter _
  rw [numberOf, numberOf, ← partitionOf_eq hkeys hsorted hj, Nat.add_lt_add_iff_right,
    ← before_iff_precedes]
  have hself := mem_partitionOf_self keys hsorted
  generalize partitionOf keys (Sorting.rowOrder orderBy n) i = g at hj hself hascend
  have hplaces : ∀ {k l : Nat}, k ∈ g → l ∈ g → g.idxOf k < g.idxOf l →
      Sorting.Before (Sorting.compareRows orderBy) k l := by
    intro k l hk hl hlt
    have hbefore := List.pairwise_iff_getElem.mp hascend _ _ (List.idxOf_lt_length_of_mem hk)
      (List.idxOf_lt_length_of_mem hl) hlt
    rwa [List.getElem_idxOf, List.getElem_idxOf] at hbefore
  constructor
  · exact hplaces hself hj
  · intro hbefore
    rcases Nat.lt_trichotomy (g.idxOf i) (g.idxOf j) with hlt | heq | hgt
    · exact hlt
    · obtain rfl := (List.idxOf_inj hself).mp heq
      exact absurd hbefore hbefore.asymm
    · exact absurd hbefore (hplaces hj hself hgt).asymm

/-! ## The call -/

theorem nodup_rowOrder (orderBy : List (Column × SortOrder)) (n : Nat) :
    (Sorting.rowOrder orderBy n).Nodup :=
  (Sorting.perm_rowOrder orderBy n).nodup_iff.mpr List.nodup_range

/-- Among the numbers of a partition each row has that of its place. -/
theorem eq_of_mem_numbers {g : List Nat} (hg : g.Nodup) {v : Value}
    (h : (i, v) ∈ g.zipIdx.map fun p => (p.1, Value.integer (Int64.ofNat (p.2 + 1)))) :
    v = .integer (Int64.ofNat (g.idxOf i + 1)) := by
  obtain ⟨p, hp, hpair⟩ := List.mem_map.mp h
  obtain ⟨rfl, rfl⟩ := Prod.mk.inj hpair
  obtain ⟨hk, hget⟩ := List.getElem?_eq_some_iff.mp (List.mem_zipIdx_iff_getElem?.mp hp)
  have hplace := hg.idxOf_getElem p.2 hk
  rw [hget] at hplace
  rw [hplace]

/-- ROW_NUMBER gives every row its place in its partition, whatever its arguments are. -/
theorem apply_rowNumber (hkeys : ∀ c ∈ keys, c.Typed) (now : Moment) (args : List Column)
    (orderBy : List (Column × SortOrder)) (n : Nat) :
    ∃ c, apply .rowNumber now args keys orderBy n = .ok c ∧ c.length = n ∧
      c.type = some .integer ∧ ∀ i < n, c.cell i =
        .integer (Int64.ofNat (numberOf keys (Sorting.rowOrder orderBy n) i)) := by
  obtain ⟨c, hc⟩ : ∃ c, apply .rowNumber now args keys orderBy n = .ok c :=
    exists_apply_iff.mpr ⟨some .integer, rfl, fun g _ => ⟨_, rfl⟩⟩
  obtain ⟨ht, hlen, hcells⟩ := cell_of_apply hkeys hc
  refine ⟨c, hc, hlen, (Except.ok.inj ht).symm, fun i hi => ?_⟩
  obtain ⟨ps, hps, hmem⟩ := hcells i hi
  obtain rfl := Except.ok.inj hps
  exact eq_of_mem_numbers (nodup_partitionOf (nodup_rowOrder orderBy n)) hmem

end Window

/-- ROW_NUMBER over a window in a typed scope, by keys whose constants belong to their types: there
are numbers, one for each row, so that each class of rows equal on the partition keys has exactly
the numbers from one to its size, in the order of the sort keys and of the rows. The call has the
one constant that `Expr.callOf` gives to calls without arguments. -/
theorem rowNumber_counts_classes {now : Moment} {s : Scope} (hs : s.Typed)
    {ps : List (Expr Plan)} (hps : ∀ e ∈ ps, e.ConstantsConform) {partitionBy : List Column}
    (hpartition : Expr.GiveColumns now s ps partitionBy)
    {os : List (Expr Plan × SortOrder)} (hos : ∀ o ∈ os, o.1.ConstantsConform)
    {orderBy : List (Column × SortOrder)} (horder : Expr.GiveKeys now s os orderBy) :
    ∃ c, (Expr.analytic .rowNumber [.ofValue (.integer 1)] ps os).eval now s = .ok (.column c) ∧
      c.length = s.frame.numRows ∧ c.type = some .integer ∧
      ∃ number : Nat → Nat,
        (∀ i < s.frame.numRows, c.cell i = .integer (Int64.ofNat (number i)) ∧
          (s.frame.numRows < 2 ^ 63 → (Int64.ofNat (number i)).toInt = number i)) ∧
        ∀ i < s.frame.numRows,
          ((Window.equalRows partitionBy s.frame.numRows i).map number).Perm
            (List.range' 1 (Window.equalRows partitionBy s.frame.numRows i).length) ∧
          ∀ j ∈ Window.equalRows partitionBy s.frame.numRows i,
            number i < number j ↔ Window.Precedes i j orderBy := by
  have hkeys := hpartition.typed hs hps
  have hsortKeys := horder.typed hs hos
  obtain ⟨ones, hones⟩ : ∃ ones, Expr.GiveColumns now s [.ofValue (.integer 1)] ones :=
    ⟨[_], .cons rfl .nil⟩
  generalize hn : s.frame.numRows = n
  obtain ⟨c, hc, hlen, htype, hcells⟩ := Window.apply_rowNumber hkeys now ones orderBy n
  have hperm := Sorting.perm_rowOrder orderBy n
  refine ⟨c, ?_, hlen, htype, Window.numberOf partitionBy (Sorting.rowOrder orderBy n), ?_, ?_⟩
  · exact Expr.eval_analytic_eq_ok.mpr
      ⟨rfl, ones, hones, partitionBy, hpartition, orderBy, horder, c, hn ▸ hc, rfl⟩
  · refine fun i hi => ⟨hcells i hi, fun hbound => ?_⟩
    have hle := Window.numberOf_le partitionBy (hperm.mem_iff.mpr (List.mem_range.mpr hi))
    rw [hperm.length_eq, List.length_range] at hle
    exact Int64.toInt_ofNat_of_lt (Nat.lt_of_le_of_lt hle hbound)
  · intro i hi
    have hsorted : i ∈ Sorting.rowOrder orderBy n := hperm.mem_iff.mpr (List.mem_range.mpr hi)
    rw [Window.equalRows_eq]
    have hclass := Window.perm_partitionOf partitionBy hperm i
    constructor
    · rw [← hclass.length_eq,
        ← Window.map_numberOf hkeys (Window.nodup_rowOrder orderBy n) hsorted]
      exact (hclass.map _).symm
    · intro j hj
      exact Window.numberOf_lt_iff hkeys hsortKeys hi (hclass.mem_iff.mpr hj)

/-- Four rows, of which the first and the last have the same key and the same value. -/
def tiedRows : Frame where
  columns := [⟨none, "k", ⟨[.integer 1, .null, .integer 1, .integer 1], some .integer⟩⟩,
    ⟨none, "v", ⟨[.integer 10, .integer 20, .integer 30, .integer 10], some .integer⟩⟩]
  numRows := 4
  groupPaths := []
  groups := none
  inheritsGroups := false

theorem rowNumber_counts_classes_tied :
    (Scope.Typed ⟨tiedRows, []⟩ ∧ Expr.ConstantsConform (.field ["k"] : Expr Plan) ∧
      Expr.ConstantsConform (.field ["v"] : Expr Plan)) ∧
    (Expr.analytic .rowNumber [.ofValue (.integer 1)] [.field ["k"]]
        [(.field ["v"], .descending)]).eval (.ofDate ⟨2024, 1, 1, by decide⟩) ⟨tiedRows, []⟩ =
      .ok (.column ⟨[.integer 2, .integer 1, .integer 1, .integer 3], some .integer⟩) ∧
    ∃ number : Nat → Nat, Value.integer (Int64.ofNat (number 3)) = .integer 3 ∧
      number 2 < number 0 ∧ number 0 < number 3 := by
  have htyped : Scope.Typed ⟨tiedRows, []⟩ := by
    simp [Scope.Typed, Scope.frames, Frame.Typed, Column.Typed, tiedRows, Value.conforms,
      Value.scalarType?]
  have hfield : ∀ path, Expr.ConstantsConform (.field path : Expr Plan) := fun _ => .leaf rfl rfl
  have heval : (Expr.analytic .rowNumber [.ofValue (.integer 1)] [.field ["k"]]
      [(.field ["v"], .descending)]).eval (.ofDate ⟨2024, 1, 1, by decide⟩) ⟨tiedRows, []⟩ =
        .ok (.column ⟨[.integer 2, .integer 1, .integer 1, .integer 3], some .integer⟩) := rfl
  obtain ⟨c, hc, -, -, number, hcells, hclasses⟩ :=
    @rowNumber_counts_classes (.ofDate ⟨2024, 1, 1, by decide⟩) ⟨tiedRows, []⟩ htyped
      [.field ["k"]] (by simpa using hfield ["k"]) [tiedRows.columns[0].column] (.cons rfl .nil)
      [(.field ["v"], .descending)] (by simpa using hfield ["v"])
      [(tiedRows.columns[1].column, .descending)] (.cons ⟨rfl, rfl⟩ .nil)
  obtain rfl := Evaluated.column.inj (Except.ok.inj (heval.symm.trans hc))
  have hzero := (hclasses 0 (by decide)).2
  have htwo := (hclasses 2 (by decide)).2
  refine ⟨⟨htyped, hfield _, hfield _⟩, heval, number, ((hcells 3 (by decide)).1).symm, ?_, ?_⟩
  · exact (htwo 0 (by decide)).mpr (.descending (by decide))
  · exact (hzero 3 (by decide)).mpr (.equal (by decide) (.tie (by decide)))

/-- A key of the numbered rows: `2 ^ 53 + 1`, then a double equal to it, then `2 ^ 53`. -/
def fallingKey : Expr Plan :=
  numberedArray (.integer 9007199254740993) blurringDouble (.integer 9007199254740992)

/-- Over typed rows, a sort key and a partition key that are constants outside their types. By the
sort key the last row comes before the first one, but has the greater number. In the partition of
the last row, which has two rows, the numbers are 1 and 3. -/
theorem rowNumber_miscounts_constants :
    let now : Moment := .ofDate ⟨2024, 1, 1, by decide⟩
    let numbers : Evaluated := .column ⟨[.integer 1, .integer 2, .integer 3], some .integer⟩
    Scope.Typed ⟨numberedRows, []⟩ ∧
    ((Expr.analytic .rowNumber [.ofValue (.integer 1)] [] [(fallingKey, .ascending)]).eval now
        ⟨numberedRows, []⟩ = .ok numbers ∧
      ∃ k, Expr.GiveKeys now ⟨numberedRows, []⟩ [(fallingKey, .ascending)] [k] ∧
        Window.Precedes 2 0 [k]) ∧
    (Expr.analytic .rowNumber [.ofValue (.integer 1)] [doubleFirst] []).eval now
        ⟨numberedRows, []⟩ = .ok numbers ∧
      ∃ c, Expr.GiveColumns now ⟨numberedRows, []⟩ [doubleFirst] [c] ∧
        Window.equalRows [c] 3 2 = [0, 2] := by
  intro now numbers
  have htyped : Scope.Typed ⟨numberedRows, []⟩ := by
    simp [Scope.Typed, Scope.frames, Frame.Typed, Column.Typed, numberedRows, Frame.ofTable,
      Frame.tableColumns, Value.conforms, Value.scalarType?]
  let arrays := fun vs : List Value =>
    (⟨vs.map fun v => .array [.integer 0, v], some (.array .integer)⟩ : Column)
  let falling := arrays [.integer 9007199254740993, blurringDouble, .integer 9007199254740992]
  let mixed := arrays [blurringDouble, .integer 9007199254740993, .integer 9007199254740992]
  have hfalling : fallingKey.evalColumn now ⟨numberedRows, []⟩ = .ok falling := rfl
  have hmixed : doubleFirst.evalColumn now ⟨numberedRows, []⟩ = .ok mixed := rfl
  have hrows : Window.equalRows [mixed] 3 2 = [0, 2] := by decide
  exact ⟨htyped, ⟨rfl, (falling, .ascending), .cons ⟨hfalling, rfl⟩ .nil,
    .ascending (by decide)⟩, rfl, mixed, .cons hmixed .nil, hrows⟩

end ColumnarSql
