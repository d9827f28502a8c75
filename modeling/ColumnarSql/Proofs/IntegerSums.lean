import ColumnarSql.Eval.Reduce
import ColumnarSql.Proofs.Coercion
import ColumnarSql.Proofs.Success
import Mathlib.Algebra.Group.Int.Defs

/-!
# Sums of integers

SUM adds integers one by one and fails at the first total that has no 64 bits. What it gives is the
exact sum, and it gives one if every total on the way fits (`sum_of_integers`). So the order of the
rows decides whether a sum that fits is found (`sum_overflows_on_the_way`). Some order finds it
(`exists_perm_totalsFit`): as long as the total is on one side of zero, take what is on the other.
Every order does if the positive integers alone and the negative ones alone have sums that fit,
since all totals are between these two (`sumOf_bounds`).
-/

set_option autoImplicit false

namespace ColumnarSql

/-! ## Numbers of 64 bits -/

namespace Integer

/-- The number is one of 64 bits. -/
def InRange (n : Int) : Prop := -2 ^ 63 ≤ n ∧ n < 2 ^ 63

instance (n : Int) : Decidable (InRange n) := inferInstanceAs (Decidable (_ ∧ _))

theorem inRange_toInt (i : Int64) : InRange i.toInt := ⟨Int64.le_toInt i, Int64.toInt_lt i⟩

theorem ofInt?_eq_some {n : Int} {i : Int64} (h : ofInt? n = some i) : i.toInt = n := by
  unfold ofInt? at h
  split at h
  · next hn =>
    obtain rfl := Option.some.inj h
    exact Int64.toInt_ofInt_of_le hn.1 (Int.lt_of_le_of_lt hn.2 (by decide))
  · cases h

/-- A sum has no integer only if it is out of range. -/
theorem ofInt?_eq_none {n : Int} (h : ofInt? n = none) : ¬InRange n := by
  have hmin : Int64.minValue.toInt = -2 ^ 63 := by decide
  have hmax : Int64.maxValue.toInt = 2 ^ 63 - 1 := by decide
  unfold ofInt? at h
  split at h
  · cases h
  · next hn =>
    rintro ⟨hlow, hhigh⟩
    omega

end Integer

namespace Reduce

open Integer

/-! ## Totals on the way -/

/-- The integers among the values. -/
def integersOf (vs : List Value) : List Int64 := vs.filterMap Value.integer?

/-- The exact sum. -/
def sumOf : List Int64 → Int
  | [] => 0
  | i :: is => i.toInt + sumOf is

@[simp] theorem sumOf_nil : sumOf [] = 0 := rfl

@[simp] theorem sumOf_cons (i : Int64) (is : List Int64) :
    sumOf (i :: is) = i.toInt + sumOf is := rfl

/-- The exact sum does not depend on the order. -/
theorem sumOf_perm {is js : List Int64} (h : is.Perm js) : sumOf is = sumOf js := by
  induction h with
  | nil => rfl
  | cons i _ ih => rw [sumOf_cons, sumOf_cons, ih]
  | swap i j is =>
    simp only [sumOf_cons]
    omega
  | trans _ _ ih ih' => exact ih.trans ih'

/-- Every total on the way from `n` is a number of 64 bits. -/
def TotalsFit (n : Int) (is : List Int64) : Prop := ∀ k, InRange (n + sumOf (is.take k))

/-- The total from `n` has come to `t`, and the next one does not fit. -/
def OverflowsAfter (t n : Int) (is : List Int64) : Prop :=
  ∃ k, TotalsFit n (is.take k) ∧ t = n + sumOf (is.take k) ∧ ¬InRange (n + sumOf (is.take (k + 1)))

@[simp] theorem totalsFit_nil {n : Int} : TotalsFit n [] ↔ InRange n := by simp [TotalsFit]

@[simp] theorem totalsFit_cons {n : Int} {i : Int64} {is : List Int64} :
    TotalsFit n (i :: is) ↔ InRange n ∧ TotalsFit (n + i.toInt) is := by
  constructor
  · intro h
    exact ⟨by simpa using h 0, fun k => by simpa [Int.add_assoc] using h (k + 1)⟩
  · rintro ⟨hn, h⟩ k
    cases k with
    | zero => simpa using hn
    | succ k => simpa [Int.add_assoc] using h k

/-- Totals that fit end with a sum that fits. -/
theorem TotalsFit.sum {n : Int} {is : List Int64} (h : TotalsFit n is) :
    InRange (n + sumOf is) := by
  simpa using h is.length

/-- Where a total overflows, not all totals fit. -/
theorem OverflowsAfter.not_totalsFit {t n : Int} {is : List Int64} (h : OverflowsAfter t n is) :
    ¬TotalsFit n is := by
  obtain ⟨k, -, -, hk⟩ := h
  exact fun hfit => hk (hfit (k + 1))

/-- A total that overflows after the rest overflows after the whole. -/
theorem OverflowsAfter.cons {t n : Int} {i : Int64} {is : List Int64} (hn : InRange n)
    (h : OverflowsAfter t (n + i.toInt) is) : OverflowsAfter t n (i :: is) := by
  obtain ⟨k, hfit, rfl, hk⟩ := h
  exact ⟨k + 1, by simpa using ⟨hn, hfit⟩, by simp [Int.add_assoc],
    by simpa [Int.add_assoc] using hk⟩

/-- Adding up either comes to the exact sum, with every total on the way in range, or stops at the
first one that is not. -/
theorem sumIntegers_cases : ∀ (is : List Int64) (n : Int64),
    (TotalsFit n.toInt is ∧ ∃ s, sumIntegers n (is.map .integer) = .ok s ∧
        s.toInt = n.toInt + sumOf is) ∨
      ∃ t, sumIntegers n (is.map .integer) = .error (.sumOverflow t) ∧
        OverflowsAfter t.toInt n.toInt is
  | [], n => .inl ⟨totalsFit_nil.mpr (inRange_toInt n), n, rfl, by simp⟩
  | i :: is, n => by
    have hn := inRange_toInt n
    simp only [List.map_cons, sumIntegers, Value.integer?, Option.getD_some]
    cases hi : ofInt? (n.toInt + i.toInt) with
    | none =>
      refine .inr ⟨n, rfl, 0, by simpa using hn, by simp, ?_⟩
      simpa using ofInt?_eq_none hi
    | some m =>
      have hm := ofInt?_eq_some hi
      rcases sumIntegers_cases is m with ⟨hfit, s, hs, hsum⟩ | ⟨t, ht, hover⟩
      · rw [hm] at hfit hsum
        exact .inl ⟨totalsFit_cons.mpr ⟨hn, hfit⟩, s, hs, by rw [hsum, sumOf_cons, Int.add_assoc]⟩
      · rw [hm] at hover
        exact .inr ⟨t, ht, hover.cons hn⟩

/-! ## Orders of the integers -/

def positives (is : List Int64) : List Int64 := is.filter fun i => 0 < i.toInt

def negatives (is : List Int64) : List Int64 := is.filter fun i => i.toInt < 0

@[simp] theorem sumOf_positives_cons (i : Int64) (is : List Int64) :
    sumOf (positives (i :: is)) = max i.toInt 0 + sumOf (positives is) := by
  unfold positives
  by_cases h : 0 < i.toInt
  · simp [h, Int.max_eq_left (Int.le_of_lt h)]
  · simp [h, Int.max_eq_right (Int.not_lt.mp h)]

@[simp] theorem sumOf_negatives_cons (i : Int64) (is : List Int64) :
    sumOf (negatives (i :: is)) = min i.toInt 0 + sumOf (negatives is) := by
  unfold negatives
  by_cases h : i.toInt < 0
  · simp [h, Int.min_eq_left (Int.le_of_lt h)]
  · simp [h, Int.min_eq_right (Int.not_lt.mp h)]

/-- No part of a list has a sum beyond that of the positive or of the negative members. -/
theorem sumOf_bounds {is js : List Int64} (h : js.Sublist is) :
    sumOf (negatives is) ≤ sumOf js ∧ sumOf js ≤ sumOf (positives is) := by
  induction h with
  | slnil => exact ⟨Int.le_refl 0, Int.le_refl 0⟩
  | cons i _ ih =>
    rw [sumOf_negatives_cons, sumOf_positives_cons]
    omega
  | cons_cons i _ ih =>
    rw [sumOf_negatives_cons, sumOf_positives_cons, sumOf_cons]
    omega

theorem sumOf_nonneg {is : List Int64} (h : ∀ i ∈ is, 0 ≤ i.toInt) : 0 ≤ sumOf is := by
  have hnone : negatives is = [] := by simpa [negatives] using h
  simpa [hnone] using (sumOf_bounds (List.Sublist.refl is)).1

theorem sumOf_nonpos {is : List Int64} (h : ∀ i ∈ is, i.toInt ≤ 0) : sumOf is ≤ 0 := by
  have hnone : positives is = [] := by simpa [positives] using h
  simpa [hnone] using (sumOf_bounds (List.Sublist.refl is)).2

/-- From a number in range towards a total in range, some member leads to another number in
range. -/
theorem exists_mem_inRange {n : Int} {is : List Int64} (hn : InRange n)
    (hsum : InRange (n + sumOf is)) (hne : is ≠ []) : ∃ i ∈ is, InRange (n + i.toInt) := by
  by_cases hback : ∃ i ∈ is, (0 ≤ n ∧ i.toInt < 0) ∨ (n < 0 ∧ 0 < i.toInt)
  · obtain ⟨i, hi, hsign⟩ := hback
    have hrange := inRange_toInt i
    unfold InRange at *
    exact ⟨i, hi, by omega⟩
  · -- all members lead away from zero, so the first one leads no further than all of them
    obtain ⟨i, is, rfl⟩ := List.exists_cons_of_ne_nil hne
    refine ⟨i, List.mem_cons_self, ?_⟩
    rw [sumOf_cons] at hsum
    rcases Int.lt_or_le n 0 with hneg | hpos
    · have hrest : ∀ j ∈ i :: is, j.toInt ≤ 0 := fun j hj =>
        Int.not_lt.mp fun h => hback ⟨j, hj, .inr ⟨hneg, h⟩⟩
      have hi := hrest i List.mem_cons_self
      have htail := sumOf_nonpos fun j hj => hrest j (List.mem_cons_of_mem i hj)
      unfold InRange at *
      omega
    · have hrest : ∀ j ∈ i :: is, 0 ≤ j.toInt := fun j hj =>
        Int.not_lt.mp fun h => hback ⟨j, hj, .inl ⟨hpos, h⟩⟩
      have hi := hrest i List.mem_cons_self
      have htail := sumOf_nonneg fun j hj => hrest j (List.mem_cons_of_mem i hj)
      unfold InRange at *
      omega

/-- Integers with a total in range can be added up in some order. -/
theorem exists_perm_totalsFit {is : List Int64} {n : Int} (hn : InRange n)
    (hsum : InRange (n + sumOf is)) : ∃ js, js.Perm is ∧ TotalsFit n js := by
  induction hlen : is.length generalizing is n with
  | zero =>
    obtain rfl := List.eq_nil_of_length_eq_zero hlen
    exact ⟨[], .nil, totalsFit_nil.mpr hn⟩
  | succ m ih =>
    have hne : is ≠ [] := by
      rintro rfl
      cases hlen
    obtain ⟨i, hi, hnext⟩ := exists_mem_inRange hn hsum hne
    have hperm : is.Perm (i :: is.erase i) := List.perm_cons_erase hi
    rw [sumOf_perm hperm, sumOf_cons, ← Int.add_assoc] at hsum
    obtain ⟨js, hjs, hfit⟩ := ih hnext hsum (by rw [List.length_erase_of_mem hi, hlen]; rfl)
    exact ⟨i :: js, (hjs.cons i).trans hperm.symm, totalsFit_cons.mpr ⟨hn, hfit⟩⟩

/-- Integers can be added up in every order if those of one sign can. -/
theorem forall_perm_totalsFit_iff {is : List Int64} :
    (∀ js : List Int64, js.Perm is → TotalsFit 0 js) ↔
      InRange (sumOf (positives is)) ∧ InRange (sumOf (negatives is)) := by
  constructor
  · intro h
    have hstart : ∀ p : Int64 → Bool, InRange (sumOf (is.filter p)) := by
      intro p
      have hfirst := h _ (List.filter_append_perm p is) (is.filter p).length
      simpa using hfirst
    exact ⟨hstart _, hstart _⟩
  · rintro ⟨hpos, hneg⟩ js hjs k
    obtain ⟨hlow, hhigh⟩ := sumOf_bounds (List.take_sublist k js)
    rw [negatives, sumOf_perm (hjs.filter _)] at hlow
    rw [positives, sumOf_perm (hjs.filter _)] at hhigh
    unfold InRange positives negatives at *
    omega

/-! ## SUM -/

/-- Values of the type INTEGER, at least one of them no NULL. -/
structure IntegerRows (vs : List Value) : Prop where
  conforms : ∀ v ∈ vs, v.conforms (some .integer)
  present : ∃ v ∈ vs, v.isNull = false

/-- Rows of integers are that in every order. -/
theorem IntegerRows.perm {vs ws : List Value} (h : IntegerRows vs) (hws : ws.Perm vs) :
    IntegerRows ws := by
  obtain ⟨v, hv, hnull⟩ := h.present
  exact ⟨fun w hw => h.conforms w (hws.mem_iff.mp hw), v, hws.mem_iff.mpr hv, hnull⟩

theorem integersOf_perm {vs ws : List Value} (h : ws.Perm vs) :
    (integersOf ws).Perm (integersOf vs) :=
  h.filterMap _

/-- A value of the type INTEGER is NULL or an integer. -/
theorem conforms_integer_iff {v : Value} :
    v.conforms (some .integer) ↔ v = .null ∨ ∃ i, v = .integer i := by
  rw [DataType.integer, Value.conforms_scalar]
  cases v <;> simp [Value.scalarType?]

/-- The values of a column of integers are its integers, without the NULLs. -/
theorem present_of_integers : ∀ {vs : List Value}, (∀ v ∈ vs, v.conforms (some .integer)) →
    present vs = (integersOf vs).map .integer
  | [], _ => rfl
  | v :: vs, h => by
    obtain ⟨hv, hvs⟩ := List.forall_mem_cons.mp h
    have ih := present_of_integers hvs
    rcases conforms_integer_iff.mp hv with rfl | ⟨i, rfl⟩
    · exact ih
    · exact congrArg (Value.integer i :: ·) ih

theorem integersOf_map_integer (is : List Int64) : integersOf (is.map .integer) = is := by
  simp [integersOf, List.filterMap_map, Function.comp_def, Value.integer?]

/-- The rows can be put in an order in which their integers are in a given one. -/
theorem exists_perm_rows {vs : List Value} (hvs : ∀ v ∈ vs, v.conforms (some .integer))
    {js : List Int64} (hjs : js.Perm (integersOf vs)) :
    ∃ ws : List Value, ws.Perm vs ∧ integersOf ws = js := by
  have hrows : (present vs ++ vs.filter Value.isNull).Perm vs := by
    simpa [present] using List.filter_append_perm (fun v : Value => !v.isNull) vs
  have hnulls : integersOf (vs.filter Value.isNull) = [] := by
    refine List.filterMap_eq_nil_iff.mpr fun v hv => ?_
    rcases conforms_integer_iff.mp (hvs v (List.mem_of_mem_filter hv)) with rfl | ⟨i, rfl⟩
    · rfl
    · simp [Value.isNull] at hv
  refine ⟨js.map .integer ++ vs.filter Value.isNull, ?_, ?_⟩
  · rw [present_of_integers hvs] at hrows
    exact ((hjs.map Value.integer).append_right _).trans hrows
  · rw [integersOf, List.filterMap_append, ← integersOf, ← integersOf, hnulls,
      integersOf_map_integer, List.append_nil]

end Reduce

namespace SqlFunction

open Integer Reduce

variable {vs : List Value}

/-- SUM adds up the integers of the rows in their order. -/
theorem reduce_sum_eq (h : IntegerRows vs) :
    sum.reduce (some .integer) vs =
      (sumIntegers 0 ((integersOf vs).map .integer)).map .integer := by
  obtain ⟨v, hv, hnull⟩ := h.present
  have hmem : v ∈ present vs := List.mem_filter.mpr ⟨hv, by simp [hnull]⟩
  simp only [reduce, Reduce.sum]
  rw [← present_of_integers h.conforms]
  cases hpresent : present vs with
  | nil => simp [hpresent] at hmem
  | cons w ws => rfl

/-- SUM is the exact sum, and there is one if all totals on the way fit. -/
theorem reduce_sum_eq_ok_iff (h : IntegerRows vs) {v : Value} :
    sum.reduce (some .integer) vs = .ok v ↔
      TotalsFit 0 (integersOf vs) ∧ ∃ s, v = .integer s ∧ s.toInt = sumOf (integersOf vs) := by
  rw [reduce_sum_eq h]
  rcases sumIntegers_cases (integersOf vs) 0 with ⟨hfit, s, hs, hsum⟩ | ⟨t, ht, hover⟩
  · have hsum : s.toInt = sumOf (integersOf vs) := by simpa using hsum
    rw [hs]
    constructor
    · rintro h
      exact ⟨hfit, s, (Except.ok.inj h).symm, hsum⟩
    · rintro ⟨-, s', rfl, hs'⟩
      rw [Int64.toInt_inj.mp (hs'.trans hsum.symm)]
      rfl
  · have hfit : ¬TotalsFit 0 (integersOf vs) := hover.not_totalsFit
    simp [ht, hfit]

/-- The error of a SUM that fails names the last total that fits. -/
theorem reduce_sum_of_not_totalsFit (h : IntegerRows vs) (hfit : ¬TotalsFit 0 (integersOf vs)) :
    ∃ t, sum.reduce (some .integer) vs = .error (.sumOverflow t) ∧
      OverflowsAfter t.toInt 0 (integersOf vs) := by
  rw [reduce_sum_eq h]
  rcases sumIntegers_cases (integersOf vs) 0 with ⟨hfit', -⟩ | ⟨t, ht, hover⟩
  · exact absurd hfit' hfit
  · exact ⟨t, by rw [ht]; rfl, hover⟩

/-- Where the exact sum is out of range, SUM fails. -/
theorem reduce_sum_of_not_inRange (h : IntegerRows vs) (hsum : ¬InRange (sumOf (integersOf vs))) :
    ∃ t, sum.reduce (some .integer) vs = .error (.sumOverflow t) := by
  have hfit : ¬TotalsFit 0 (integersOf vs) := fun hfit => hsum (by simpa using hfit.sum)
  obtain ⟨t, ht, -⟩ := reduce_sum_of_not_totalsFit h hfit
  exact ⟨t, ht⟩

/-- SUM of a sum that fits gives it in every order of the rows that it gives anything in. -/
theorem reduce_sum_perm_iff (h : IntegerRows vs) {s : Int64} (hs : s.toInt = sumOf (integersOf vs))
    {ws : List Value} (hws : ws.Perm vs) {v : Value} :
    sum.reduce (some .integer) ws = .ok v ↔ TotalsFit 0 (integersOf ws) ∧ v = .integer s := by
  rw [reduce_sum_eq_ok_iff (h.perm hws), sumOf_perm (integersOf_perm hws), ← hs]
  refine and_congr_right fun _ => ⟨?_, fun hv => ⟨s, hv, rfl⟩⟩
  rintro ⟨s', rfl, hs'⟩
  rw [Int64.toInt_inj.mp hs']

/-- SUM of integers gives their exact sum if every total on the way fits in 64 bits, and overflows
otherwise. If the sum itself does not fit, it overflows in every order of the rows. If it does, no
order gives anything else, some order gives it, and every order does exactly if the positive
integers and the negative ones, each for themselves, have sums that fit. -/
theorem sum_of_integers (h : IntegerRows vs) :
    (∀ v, sum.reduce (some .integer) vs = .ok v ↔
      TotalsFit 0 (integersOf vs) ∧ ∃ s, v = .integer s ∧ s.toInt = sumOf (integersOf vs)) ∧
    (¬TotalsFit 0 (integersOf vs) →
      ∃ t, sum.reduce (some .integer) vs = .error (.sumOverflow t) ∧
        (Error.sumOverflow t).kind = .evaluation ∧ OverflowsAfter t.toInt 0 (integersOf vs)) ∧
    (¬InRange (sumOf (integersOf vs)) → ∀ ws : List Value, ws.Perm vs →
      ∃ t, sum.reduce (some .integer) ws = .error (.sumOverflow t)) ∧
    ∀ s : Int64, s.toInt = sumOf (integersOf vs) →
      (∀ ws : List Value, ws.Perm vs → ∀ v, sum.reduce (some .integer) ws = .ok v →
        v = .integer s) ∧
      (∃ ws : List Value, ws.Perm vs ∧ sum.reduce (some .integer) ws = .ok (.integer s)) ∧
      ((∀ ws : List Value, ws.Perm vs → sum.reduce (some .integer) ws = .ok (.integer s)) ↔
        InRange (sumOf (positives (integersOf vs))) ∧
          InRange (sumOf (negatives (integersOf vs)))) := by
  refine ⟨fun v => reduce_sum_eq_ok_iff h, fun hfit => ?_, fun hsum ws hws => ?_, fun s hs => ?_⟩
  · obtain ⟨t, ht, hover⟩ := reduce_sum_of_not_totalsFit h hfit
    exact ⟨t, ht, rfl, hover⟩
  · rw [← sumOf_perm (integersOf_perm hws)] at hsum
    exact reduce_sum_of_not_inRange (h.perm hws) hsum
  have hgives : ∀ {ws : List Value}, ws.Perm vs →
      (sum.reduce (some .integer) ws = .ok (.integer s) ↔ TotalsFit 0 (integersOf ws)) :=
    fun hws => (reduce_sum_perm_iff h hs hws).trans (and_iff_left rfl)
  refine ⟨fun ws hws v hv => ((reduce_sum_perm_iff h hs hws).mp hv).2, ?_, ?_⟩
  · have hrange : InRange (0 + sumOf (integersOf vs)) := by simpa [hs] using inRange_toInt s
    obtain ⟨js, hjs, hfit⟩ := exists_perm_totalsFit (inRange_toInt 0) hrange
    obtain ⟨ws, hws, rfl⟩ := exists_perm_rows h.conforms hjs
    exact ⟨ws, hws, (hgives hws).mpr hfit⟩
  · rw [← forall_perm_totalsFit_iff]
    constructor
    · intro hall js hjs
      obtain ⟨ws, hws, rfl⟩ := exists_perm_rows h.conforms hjs
      exact (hgives hws).mp (hall ws hws)
    · intro hall ws hws
      exact (hgives hws).mpr (hall _ (integersOf_perm hws))

/-- With the greatest integer, a NULL and `-1` in it, every order gives the sum. -/
theorem sum_of_integers_greatest :
    IntegerRows [.integer Int64.maxValue, .null, .integer (-1)] ∧
      ∀ ws : List Value, ws.Perm [.integer Int64.maxValue, .null, .integer (-1)] →
        sum.reduce (some .integer) ws = .ok (.integer 9223372036854775806) := by
  have h : IntegerRows [.integer Int64.maxValue, .null, .integer (-1)] :=
    ⟨by decide, .integer (-1), by simp, rfl⟩
  obtain ⟨-, -, -, horders⟩ := sum_of_integers h
  obtain ⟨-, -, hevery⟩ := horders 9223372036854775806 (by decide)
  exact ⟨h, hevery.mpr (by decide)⟩

/-- A sum that fits is not found when a total on the way does not: `1` before `-1` overflows the
greatest integer, `-1` before `1` does not. -/
theorem sum_overflows_on_the_way :
    let vs : List Value := [.integer Int64.maxValue, .integer 1, .integer (-1)]
    let ws : List Value := [.integer Int64.maxValue, .integer (-1), .integer 1]
    IntegerRows vs ∧ Int64.maxValue.toInt = sumOf (integersOf vs) ∧ ws.Perm vs ∧
      sum.reduce (some .integer) vs = .error (.sumOverflow Int64.maxValue) ∧
      sum.reduce (some .integer) ws = .ok (.integer Int64.maxValue) := by
  refine ⟨⟨by decide, .integer 1, by simp, rfl⟩, by decide, ?_, rfl, rfl⟩
  exact (List.Perm.swap _ _ _).cons _

end SqlFunction

end ColumnarSql
