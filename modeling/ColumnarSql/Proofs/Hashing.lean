import Mathlib.Data.List.Induction
import ColumnarSql.Proofs.EqualValues
import ColumnarSql.Value.Digest

/-!
# Digests and hash tables

Equal values have equal digests (`Value.digest_eq_of_compare`). Only numbers need an argument:
two doubles of one order key are both NaN, both zero, or the same double
(`Binary64.toBits_eq_of_orderKey`). So a hash table finds a value exactly when it holds an equal
one, whatever its hash function makes of the digest, and a walk that keeps the values which the
table does not hold yet keeps the distinct values (`Value.distinct_eq_added`).
-/

set_option autoImplicit false

namespace ColumnarSql

/-! ## Doubles -/

namespace Binary64

theorem isNaN_iff_orderKey (x : Float) : isNaN x ↔ orderKey x = signBit := by
  have hlt : magnitude x < signBit := Nat.mod_lt _ (by decide)
  unfold orderKey
  split
  · simp [*]
  · split <;> simp_all <;> omega

theorem isZero_iff_orderKey (x : Float) : isZero x ↔ orderKey x = 0 := by
  have hpos : 0 < signBit := by decide
  unfold orderKey isZero
  split
  · next h =>
    simp only [isNaN, decide_eq_true_eq] at h
    simp only [decide_eq_true_eq]
    omega
  · split <;> simp

/-- The pattern of a double is its magnitude and its sign. -/
theorem toNat_toBits (x : Float) :
    x.toBits.toNat = magnitude x + if isNegative x then signBit else 0 := by
  have hbits : x.toBits.toNat < 2 * signBit := x.toBits.toNat_lt
  simp only [magnitude, isNegative, decide_eq_true_eq]
  split
  · next h => rw [Nat.mod_eq_sub_mod h, Nat.mod_eq_of_lt (by omega), Nat.sub_add_cancel h]
  · next h => rw [Nat.mod_eq_of_lt (by omega), Nat.add_zero]

/-- A number other than zero is known by its order key. -/
theorem toBits_eq_of_orderKey {x y : Float} (hx : ¬isNaN x) (hzero : ¬isZero x)
    (h : orderKey x = orderKey y) : x.toBits = y.toBits := by
  have hy : ¬isNaN y := by rwa [isNaN_iff_orderKey, ← h, ← isNaN_iff_orderKey]
  have hpos : magnitude x ≠ 0 := by simpa [isZero] using hzero
  have hyzero : magnitude y ≠ 0 := by
    rw [isZero_iff_orderKey, h, ← isZero_iff_orderKey] at hzero
    simpa [isZero] using hzero
  apply UInt64.toNat_inj.mp
  rw [toNat_toBits, toNat_toBits]
  rw [orderKey, if_neg hx, orderKey, if_neg hy] at h
  -- the keys have the signs of the doubles, as neither magnitude is zero
  cases hsx : isNegative x <;> cases hsy : isNegative y <;>
    simp only [hsx, hsy, Bool.false_eq_true, if_false, if_true] at h ⊢ <;> omega

end Binary64

namespace Value

theorem digestBits_eq_of_compareFloat {x y : Float} (h : Binary64.compareFloat x y = .eq) :
    digestBits x = digestBits y := by
  have hkey : Binary64.orderKey x = Binary64.orderKey y := eq_of_compare h
  have hzero : Binary64.isZero x = Binary64.isZero y := by
    rw [Bool.eq_iff_iff, Binary64.isZero_iff_orderKey, Binary64.isZero_iff_orderKey, hkey]
  have hnan : Binary64.isNaN x = Binary64.isNaN y := by
    rw [Bool.eq_iff_iff, Binary64.isNaN_iff_orderKey, Binary64.isNaN_iff_orderKey, hkey]
  unfold digestBits
  rw [← hzero, ← hnan]
  split
  · rfl
  · split
    · rfl
    · exact Binary64.toBits_eq_of_orderKey ‹_› ‹_› hkey

/-! ## Values -/

theorem length_eq_of_compareItems : ∀ {vs ws : List Value}, compareItems vs ws = .eq →
    vs.length = ws.length
  | [], [], _ => rfl
  | [], _ :: _, h | _ :: _, [], h => by simp [compareItems] at h
  | v :: vs, w :: ws, h => by
    simp only [compareItems, Ordering.then_eq_eq] at h
    rw [List.length_cons, List.length_cons, length_eq_of_compareItems h.2]

mutual

theorem digestContent_eq_of_compare : ∀ {v w : Value}, v.compare w = .eq →
    v.digestContent = w.digestContent
  | .array vs, w, h => by
    obtain ⟨ws, rfl, h⟩ := array_of_compare_eq h
    simp only [digestContent, length_eq_of_compareItems h, digestAll_eq_of_compareItems h]
  | .struct vs, w, h => by
    obtain ⟨ws, rfl, h⟩ := struct_of_compare_eq h
    simp only [digestContent, length_eq_of_compareItems h, digestAll_eq_of_compareItems h]
  | .integer i, w, h => by
    have hrank := rank_eq_of_compare_eq h
    cases w <;> simp only [rank, reduceCtorEq, Nat.reduceEqDiff] at hrank
    · rw [Int64.toInt_inj.mp (eq_of_compare h)]
    · simp only [digestContent, digestBits_eq_of_compareFloat h]
  | .float x, w, h => by
    have hrank := rank_eq_of_compare_eq h
    cases w <;> simp only [rank, reduceCtorEq, Nat.reduceEqDiff] at hrank
    · simp only [digestContent, digestBits_eq_of_compareFloat h]
    · simp only [digestContent, digestBits_eq_of_compareFloat h]
  | .null, w, h | .boolean _, w, h | .string _, w, h | .bytes _, w, h | .date _, w, h
  | .datetime _, w, h | .timestamp _, w, h => by
    rw [eq_of_compare_flat (by simp [rank]) (by simp [rank]) h]

theorem digestAll_eq_of_compareItems : ∀ {vs ws : List Value}, compareItems vs ws = .eq →
    digestAll vs = digestAll ws
  | [], [], _ => rfl
  | [], _ :: _, h | _ :: _, [], h => by simp [compareItems] at h
  | v :: vs, w :: ws, h => by
    simp only [compareItems, Ordering.then_eq_eq] at h
    rw [digestAll, digestAll, rank_eq_of_compare_eq h.1, digestContent_eq_of_compare h.1,
      digestAll_eq_of_compareItems h.2]

end

/-- Equal values have equal digests. -/
theorem digest_eq_of_compare {v w : Value} (h : v.compare w = .eq) : v.digest = w.digest := by
  rw [digest, digest, rank_eq_of_compare_eq h, digestContent_eq_of_compare h]

/-! ## Hash tables -/

variable (hash : List DigestPart → UInt64)

/-- Whether a hash table with these values finds a value: under the same hash, an equal one. -/
def foundIn (seen : List Value) (v : Value) : Bool :=
  seen.any fun w => hash v.digest == hash w.digest && v == w

theorem foundIn_iff {seen : List Value} {v : Value} :
    foundIn hash seen v ↔ ∃ w ∈ seen, v == w := by
  simp only [foundIn, List.any_eq_true, Bool.and_eq_true, beq_iff_eq]
  refine exists_congr fun w => and_congr_right fun _ => and_iff_right_of_imp fun h => ?_
  rw [digest_eq_of_compare (beq_iff_compare.mp h)]

/-- The values that a walk adds to the table: those that are not found there. -/
def added (seen : List Value) : List Value → List Value
  | [] => []
  | v :: vs => if foundIn hash seen v then added seen vs else v :: added (seen ++ [v]) vs

/-- The distinct values are what a walk adds to an empty table. -/
theorem distinct_eq_added (vs : List Value) : distinct vs = added hash [] vs := by
  have hloop : ∀ (vs seen : List Value), List.eraseDupsBy.loop (· == ·) vs seen =
      seen.reverse ++ added hash seen.reverse vs := by
    intro vs
    induction vs with
    | nil => simp [List.eraseDupsBy.loop, added]
    | cons v vs ih =>
      intro seen
      have hfound : seen.any (v == ·) = foundIn hash seen.reverse v := by
        rw [Bool.eq_iff_iff, foundIn_iff]
        simp
      rw [List.eraseDupsBy.loop, hfound, added]
      cases foundIn hash seen.reverse v <;> simp [ih]
  exact hloop vs []

theorem added_append : ∀ (vs ws seen : List Value),
    added hash seen (vs ++ ws) = added hash seen vs ++ added hash (seen ++ added hash seen vs) ws
  | [], ws, seen => by simp [added]
  | v :: vs, ws, seen => by
    rw [List.cons_append, added, added]
    split
    · exact added_append vs ws seen
    · simp [added_append vs ws]

/-- One more value is kept if no kept value is equal to it. -/
theorem distinct_concat (vs : List Value) (v : Value) :
    distinct (vs ++ [v]) =
      if (distinct vs).any (v == ·) then distinct vs else distinct vs ++ [v] := by
  have hfound : (distinct vs).any (v == ·) = foundIn (fun _ => 0) (distinct vs) v := by
    rw [Bool.eq_iff_iff, foundIn_iff]
    simp
  rw [hfound, distinct_eq_added (fun _ => 0), distinct_eq_added (fun _ => 0), added_append]
  simp only [added, List.nil_append]
  split <;> simp

theorem distinct_sublist (vs : List Value) : (distinct vs).Sublist vs := by
  induction vs using List.reverseRecOn with
  | nil => exact List.Sublist.refl []
  | append_singleton vs v ih =>
    rw [distinct_concat]
    split
    · exact ih.trans (List.sublist_append_left vs [v])
    · exact ih.append (List.Sublist.refl [v])

/-- No two kept values are equal. -/
theorem pairwise_distinct (vs : List Value) : (distinct vs).Pairwise fun v w => ¬w == v := by
  induction vs using List.reverseRecOn with
  | nil => exact List.Pairwise.nil
  | append_singleton vs v ih =>
    rw [distinct_concat]
    split
    · exact ih
    · next hnew =>
      simp only [List.any_eq_true, not_exists, not_and] at hnew
      refine List.pairwise_append.mpr ⟨ih, List.pairwise_singleton _ v, fun w hw u hu => ?_⟩
      obtain rfl := List.mem_singleton.mp hu
      exact hnew w hw

/-- Every value is equal to a kept one. -/
theorem exists_mem_distinct {vs : List Value} {v : Value} (hv : v ∈ vs) :
    ∃ w ∈ distinct vs, v == w := by
  induction vs using List.reverseRecOn with
  | nil => cases hv
  | append_singleton vs u ih =>
    rw [distinct_concat]
    rcases List.mem_append.mp hv with hv | hv
    · obtain ⟨w, hw, hvw⟩ := ih hv
      refine ⟨w, ?_, hvw⟩
      split
      · exact hw
      · exact List.mem_append_left [u] hw
    · obtain rfl := List.mem_singleton.mp hv
      split
      · next h => simpa using h
      · exact ⟨v, by simp, beq_iff_compare.mpr (compare_self v)⟩

end Value

end ColumnarSql
