import Mathlib.Algebra.Group.Nat.Defs
import Mathlib.Data.List.GetD
import ColumnarSql.Proofs.Hashing
import ColumnarSql.Proofs.ValueOrder
import ColumnarSql.Proofs.Widening

/-!
# Distinct values

Among values of one type the distinct ones are those at the first places: the places whose
value no earlier place has (`Value.distinct_eq_firsts`). Taking NULL away commutes with this
(`Value.distinct_present`), and members of an array keep their type, so ARRAY_AGG(DISTINCT),
COUNT(DISTINCT) and the distinct values of a column keep the same values, also NULL where it
first appears (`distinct_values_agree`).
-/

set_option autoImplicit false

namespace ColumnarSql

namespace Value

open Reduce (present)

/-! ## First places -/

/-- The places of a list whose value no earlier place has. -/
def firstPlaces (vs : List Value) : List Nat :=
  (List.range vs.length).filter fun i => ∀ j < i, ¬vs.getD i .null == vs.getD j .null

theorem exists_mem_iff_getD {vs : List Value} {v : Value} :
    (∃ w ∈ vs, v == w) ↔ ∃ j < vs.length, v == vs.getD j .null := by
  rw [List.exists_mem_iff_getElem]
  constructor
  · rintro ⟨j, hj, h⟩
    exact ⟨j, hj, by simpa [hj] using h⟩
  · rintro ⟨j, hj, h⟩
    exact ⟨j, hj, by simpa [hj] using h⟩

/-- The values at the first places, with one more value at the end. -/
theorem map_firstPlaces_concat (vs : List Value) (v : Value) :
    (firstPlaces (vs ++ [v])).map ((vs ++ [v]).getD · .null) =
      (firstPlaces vs).map (vs.getD · .null) ++ if ∃ w ∈ vs, v == w then [] else [v] := by
  have hearlier : ∀ i < vs.length, (vs ++ [v]).getD i .null = vs.getD i .null :=
    fun i hi => List.getD_append vs [v] .null i hi
  have hlast : (vs ++ [v]).getD vs.length .null = v := by simp
  have hbefore : (List.range vs.length).filter (fun i =>
      ∀ j < i, ¬(vs ++ [v]).getD i .null == (vs ++ [v]).getD j .null) = firstPlaces vs := by
    refine List.filter_congr fun i hi => decide_eq_decide.mpr ?_
    have hi := List.mem_range.mp hi
    refine forall₂_congr fun j hj => ?_
    rw [hearlier i hi, hearlier j (Nat.lt_trans hj hi)]
  have hnew : (∀ j < vs.length, ¬(vs ++ [v]).getD vs.length .null == (vs ++ [v]).getD j .null) ↔
      ¬∃ w ∈ vs, v == w := by
    rw [exists_mem_iff_getD, hlast]
    simp only [not_exists, not_and]
    exact forall₂_congr fun j hj => by rw [hearlier j hj]
  rw [firstPlaces, List.length_append, List.length_singleton, List.range_succ,
    List.filter_append, hbefore, List.map_append, List.filter_singleton]
  congr 1
  · refine List.map_congr_left fun i hi => hearlier i ?_
    exact List.mem_range.mp (List.mem_of_mem_filter hi)
  · by_cases h : ∃ w ∈ vs, v == w
    · rw [if_pos h, decide_eq_false (mt hnew.mp (not_not.mpr h)), cond_false, List.map_nil]
    · rw [if_neg h, decide_eq_true (hnew.mpr h), cond_true, List.map_singleton, hlast]

theorem beq_trans {u v w : Value} (halike : v.alike w) (huv : u == v) (hvw : v == w) : u == w := by
  rw [beq_iff_compare] at huv hvw ⊢
  rwa [← compare_congr u v w halike hvw]

/-- A value is equal to a kept one when it is equal to any. -/
theorem exists_mem_distinct_iff {vs : List Value} {v : Value}
    (halike : ∀ u ∈ vs, ∀ w ∈ vs, u.alike w) :
    (∃ w ∈ distinct vs, v == w) ↔ ∃ w ∈ vs, v == w := by
  constructor
  · rintro ⟨w, hw, h⟩
    exact ⟨w, (distinct_sublist vs).subset hw, h⟩
  · rintro ⟨u, hu, hvu⟩
    obtain ⟨w, hw, huw⟩ := exists_mem_distinct hu
    exact ⟨w, hw, beq_trans (halike u hu w ((distinct_sublist vs).subset hw)) hvu huw⟩

/-- Values that are alike are kept where they first appear. -/
theorem distinct_eq_firsts {vs : List Value} (halike : ∀ v ∈ vs, ∀ w ∈ vs, v.alike w) :
    distinct vs = (firstPlaces vs).map (vs.getD · .null) := by
  induction vs using List.reverseRecOn with
  | nil => rfl
  | append_singleton vs v ih =>
    have halike' : ∀ u ∈ vs, ∀ w ∈ vs, u.alike w := fun u hu w hw =>
      halike u (List.mem_append_left [v] hu) w (List.mem_append_left [v] hw)
    have hfound : (distinct vs).any (v == ·) ↔ ∃ w ∈ vs, v == w := by
      rw [List.any_eq_true, exists_mem_distinct_iff halike']
    rw [distinct_concat, map_firstPlaces_concat, ← ih halike']
    by_cases h : ∃ w ∈ vs, v == w <;> simp [hfound, h]

/-! ## Without NULL -/

theorem present_concat (vs : List Value) (v : Value) :
    present (vs ++ [v]) = present vs ++ if v.isNull then [] else [v] := by
  cases h : v.isNull <;> simp [present, h]

theorem isNull_iff {v : Value} : v.isNull ↔ v = .null := by
  cases v <;> simp [isNull]

theorem isNull_of_beq {v w : Value} (h : v == w) (hw : w.isNull) : v.isNull := by
  have hrank := rank_eq_of_compare_eq (beq_iff_compare.mp h)
  rw [isNull_iff.mp hw] at hrank
  cases v <;> simp_all [isNull, rank]

/-- Taking NULL away before or after the repetitions is the same. -/
theorem distinct_present (vs : List Value) : distinct (present vs) = present (distinct vs) := by
  induction vs using List.reverseRecOn with
  | nil => rfl
  | append_singleton vs v ih =>
    rw [present_concat, distinct_concat]
    cases hv : v.isNull with
    | true =>
      rw [if_pos rfl, List.append_nil, ih]
      split
      · rfl
      · simp [present_concat, hv]
    | false =>
      have hfound : (present (distinct vs)).any (v == ·) = (distinct vs).any (v == ·) := by
        rw [Bool.eq_iff_iff, List.any_eq_true, List.any_eq_true]
        refine exists_congr fun w => and_congr_left fun hvw => ?_
        have hw : w.isNull = false := by
          by_contra hnull
          exact absurd (isNull_of_beq hvw (by simpa using hnull)) (by simp [hv])
        simp [present, hw]
      rw [if_neg nofun, distinct_concat, ih, hfound]
      split
      · rfl
      · simp [present_concat, hv]

/-- Among values that are pairwise unequal NULL is at most once. -/
theorem countP_isNull_le_one : ∀ {vs : List Value}, vs.Pairwise (fun v w => ¬w == v) →
    vs.countP isNull ≤ 1
  | [], _ => Nat.zero_le 1
  | v :: vs, h => by
    obtain ⟨hv, h⟩ := List.pairwise_cons.mp h
    cases hnull : v.isNull with
    | false => simpa [hnull] using countP_isNull_le_one h
    | true =>
      obtain rfl := isNull_iff.mp hnull
      have hnone : vs.countP isNull = 0 := by
        refine List.countP_eq_zero.mpr fun w hw hwnull => hv w hw ?_
        rw [isNull_iff.mp hwnull]
        rfl
      simp [hnull, hnone]

end Value

/-! ## Reductions -/

namespace Reduce

theorem map_widen_of_conforms {t : ColumnType} {vs : List Value} (h : ∀ v ∈ vs, v.conforms t) :
    vs.map (·.widen t) = vs := by
  rw [List.map_congr_left fun v hv => Value.widen_of_conforms (h v hv), List.map_id']

end Reduce

/-- The three ways to keep distinct values agree. In a column of values of one scalar type the
distinct values are those at the first places, in their order and with at most one NULL, and a
walk with a hash table keeps them whatever the hash function is. ARRAY_AGG(DISTINCT) is the
array of them, with IGNORE NULLS of those that are not NULL, and COUNT(DISTINCT) is the number
of the latter, which are pairwise unequal and equal to all values but NULL. -/
theorem distinct_values_agree {s : ScalarType} {c : Column}
    (hc : ∀ v ∈ c.values, v.conforms (some (.scalar s))) (ordered limited : Bool) :
    let kept := Reduce.present c.distinct
    (c.distinct = (Value.firstPlaces c.values).map c.cell ∧ c.distinct.countP Value.isNull ≤ 1 ∧
      ∀ hash, c.distinct = Value.added hash [] c.values ∧
        kept = Value.added hash [] (Reduce.present c.values)) ∧
    (SqlFunction.arrayAgg ⟨true, false, ordered, limited⟩).reduce (some (.array (.scalar s)))
      c.values = .ok (.array c.distinct) ∧
    (SqlFunction.arrayAgg ⟨true, true, ordered, limited⟩).reduce (some (.array (.scalar s)))
      c.values = .ok (.array kept) ∧
    ((SqlFunction.count true).reduce (some .integer) c.values =
        .ok (.integer (Int64.ofNat kept.length)) ∧
      (c.length < 2 ^ 63 → (Int64.ofNat kept.length).toInt = kept.length)) ∧
    kept.Pairwise (fun v w => ¬w == v) ∧
    ∀ v ∈ c.values, ¬v.isNull → ∃ w ∈ kept, v == w := by
  intro kept
  have hkept : Value.distinct (Reduce.present c.values) = kept := Value.distinct_present c.values
  have halike : ∀ v ∈ c.values, ∀ w ∈ c.values, v.alike w := fun v hv w hw =>
    Value.alike_of_conforms v w _ (hc v hv) (hc w hw)
  have hdistinct : ∀ v ∈ c.distinct, v.conforms (some (.scalar s)) := fun v hv =>
    hc v ((Value.distinct_sublist c.values).subset hv)
  have hpairwise := Value.pairwise_distinct c.values
  refine ⟨⟨?firsts, Value.countP_isNull_le_one hpairwise, ?hashed⟩, ?all, ?notNull,
    ⟨?count, ?bound⟩, hpairwise.filter _, ?covers⟩
  case firsts => exact Value.distinct_eq_firsts halike
  case hashed =>
    exact fun hash => ⟨Value.distinct_eq_added hash _, hkept ▸ Value.distinct_eq_added hash _⟩
  case all =>
    change Except.ok (Value.array (c.distinct.map (·.widen (some (.scalar s))))) = _
    rw [Reduce.map_widen_of_conforms hdistinct]
  case notNull =>
    change Except.ok (Value.array
      ((Value.distinct (Reduce.present c.values)).map (·.widen (some (.scalar s))))) = _
    have hkeptTyped : ∀ v ∈ kept, v.conforms (some (.scalar s)) := fun v hv =>
      hdistinct v (List.mem_of_mem_filter hv)
    rw [hkept, Reduce.map_widen_of_conforms hkeptTyped]
  case count =>
    change Except.ok (Value.integer
      (Int64.ofNat (Value.distinct (Reduce.present c.values)).length)) = _
    rw [hkept]
  case bound =>
    intro hlength
    have hle : kept.length ≤ c.length :=
      Nat.le_trans (List.length_filter_le _ _) (Value.distinct_sublist c.values).length_le
    exact Int64.toInt_ofNat_of_lt (Nat.lt_of_le_of_lt hle hlength)
  case covers =>
    intro v hv hnull
    have hpresent : v ∈ Reduce.present c.values := List.mem_filter.mpr ⟨hv, by simpa using hnull⟩
    rw [← hkept]
    exact Value.exists_mem_distinct hpresent

/-- Zeros of both signs, NaNs of two patterns, and NULL. -/
theorem distinct_values_agree_zeros :
    let zero := Value.float (Float.ofBits 0)
    let nan := Value.float (Float.ofBits 0x7ff8000000000000)
    let c : Column := ⟨[zero, .null, .float (Float.ofBits 0x8000000000000000), nan, .null,
      .float (Float.ofBits 0xfff8000000000001)], some .float⟩
    (∀ v ∈ c.values, v.conforms (some .float)) ∧
      (SqlFunction.arrayAgg ⟨true, true, false, false⟩).reduce (some (.array .float)) c.values =
        .ok (.array [zero, nan]) ∧
      (SqlFunction.arrayAgg ⟨true, false, false, false⟩).reduce (some (.array .float)) c.values =
        .ok (.array [zero, .null, nan]) ∧
      (SqlFunction.count true).reduce (some .integer) c.values = .ok (.integer 2) := by
  intro zero nan c
  have hc : ∀ v ∈ c.values, v.conforms (some .float) := by
    simp [c, zero, nan, Value.conforms, Value.scalarType?]
  obtain ⟨-, hall, hnotNull, ⟨hcount, -⟩, -⟩ := distinct_values_agree hc false false
  have hdistinct : c.distinct = [zero, .null, nan] := rfl
  rw [hdistinct] at hall hnotNull hcount
  exact ⟨hc, hnotNull, hall, hcount⟩

end ColumnarSql
