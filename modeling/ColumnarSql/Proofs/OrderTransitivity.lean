import ColumnarSql.Proofs.Rounding
import ColumnarSql.Proofs.ValueOrder

/-!
# Where the order of values is transitive

The order compares an integer with a double after rounding the integer, and two integers
exactly. A double that two different integers round to is equal to both of them, which are
not equal to each other: the order is no preorder (`order_not_transitive`). Nothing else
stands in the way. Rounding keeps the order of the integers, so values are ordered as by a
total preorder as long as no place of them holds such a double and two such integers
(`compare_preorder`), which integers within `2 ^ 53` never are (`not_blurred_of_exact`).
-/

set_option autoImplicit false

namespace ColumnarSql.Value

/-! ## Numbers among the doubles -/

/-- The place of a number among the doubles. -/
def numberKey : Value → Int
  | .integer i => Binary64.orderKey (floatOfInteger i)
  | .float x => Binary64.orderKey x
  | _ => 0

def isInteger : Value → Bool
  | .integer _ => true
  | _ => false

theorem natAbs_toInt_lt (i : Int64) : i.toInt.natAbs < 2 ^ 64 := by
  have hlow := Int64.le_toInt i
  have hhigh := Int64.toInt_lt i
  omega

theorem numberKey_integer_le {i j : Int64} (h : i.toInt ≤ j.toInt) :
    (integer i).numberKey ≤ (integer j).numberKey :=
  Binary64.orderKey_ofInt_le (natAbs_toInt_lt i) (natAbs_toInt_lt j) h

/-- Unless both are integers, numbers are compared as doubles. -/
theorem compare_number {u v : Value} (hu : u.rank = 2) (hv : v.rank = 2)
    (h : ¬(u.isInteger ∧ v.isInteger)) : u.compare v = Ord.compare u.numberKey v.numberKey := by
  rcases number_of_rank hu with ⟨i, rfl⟩ | ⟨x, rfl⟩ <;>
    rcases number_of_rank hv with ⟨j, rfl⟩ | ⟨y, rfl⟩ <;>
    first
      | rfl
      | simp [isInteger] at h

/-- Two integers that are different doubles compare as these. -/
theorem compare_integers {i j : Int64} (h : (integer i).numberKey ≠ (integer j).numberKey) :
    (integer i).compare (.integer j) =
      Ord.compare (integer i).numberKey (integer j).numberKey := by
  rcases Int.lt_or_le i.toInt j.toInt with hlt | hge
  · have hkey := numberKey_integer_le (Int.le_of_lt hlt)
    rw [Int.compare_eq_lt.mpr (by omega)]
    exact Int.compare_eq_lt.mpr hlt
  · have hkey := numberKey_integer_le hge
    have hne : i.toInt ≠ j.toInt := fun heq => h (by rw [Int64.toInt_inj.mp heq])
    rw [Int.compare_eq_gt.mpr (by omega)]
    exact Int.compare_eq_gt.mpr (by omega)

theorem numberKey_le_of_compare_lt {u v : Value} (hu : u.rank = 2) (hv : v.rank = 2)
    (h : u.compare v = .lt) : u.numberKey ≤ v.numberKey := by
  by_cases hboth : u.isInteger ∧ v.isInteger
  · rcases number_of_rank hu with ⟨i, rfl⟩ | ⟨x, rfl⟩
    · rcases number_of_rank hv with ⟨j, rfl⟩ | ⟨y, rfl⟩
      · exact numberKey_integer_le (Int.le_of_lt (Int.compare_eq_lt.mp h))
      · simp [isInteger] at hboth
    · simp [isInteger] at hboth
  · rw [compare_number hu hv hboth, Int.compare_eq_lt] at h
    exact Int.le_of_lt h

theorem compare_lt_of_numberKey_lt {u v : Value} (hu : u.rank = 2) (hv : v.rank = 2)
    (h : u.numberKey < v.numberKey) : u.compare v = .lt := by
  by_cases hboth : u.isInteger ∧ v.isInteger
  · rcases number_of_rank hu with ⟨i, rfl⟩ | ⟨x, rfl⟩
    · rcases number_of_rank hv with ⟨j, rfl⟩ | ⟨y, rfl⟩
      · rw [compare_integers (by omega)]
        exact Int.compare_eq_lt.mpr h
      · simp [isInteger] at hboth
    · simp [isInteger] at hboth
  · rw [compare_number hu hv hboth]
    exact Int.compare_eq_lt.mpr h

/-- Numbers in order are in order, whatever doubles stand between integers. -/
theorem number_lt_trans {u v w : Value} (hu : u.rank = 2) (hv : v.rank = 2) (hw : w.rank = 2)
    (h : u.compare v = .lt) (h' : v.compare w = .lt) : u.compare w = .lt := by
  by_cases hboth : u.isInteger ∧ v.isInteger
  · by_cases hboth' : v.isInteger ∧ w.isInteger
    · have halike : ∀ {a b : Value}, a.isInteger → b.isInteger → a.alike b := by
        intro a b ha hb
        cases a <;> cases b <;> first
          | rfl
          | simp [isInteger] at ha hb
      exact compare_number_lt_trans hu hv hw (halike hboth.1 hboth.2)
        (halike hboth'.1 hboth'.2) h h'
    · rw [compare_number hv hw hboth', Int.compare_eq_lt] at h'
      have hle := numberKey_le_of_compare_lt hu hv h
      exact compare_lt_of_numberKey_lt hu hw (by omega)
  · rw [compare_number hu hv hboth, Int.compare_eq_lt] at h
    have hle := numberKey_le_of_compare_lt hv hw h'
    exact compare_lt_of_numberKey_lt hu hw (by omega)

/-! ## Blurred values -/

/-- Two different integers that are the same double as `x`. -/
def Meet (i j : Int64) (x : Float) : Prop :=
  i ≠ j ∧ (integer i).compare (.float x) = .eq ∧ (integer j).compare (.float x) = .eq

mutual

/-- At some place one of the three values has a double and the others have two different
integers equal to it. -/
inductive Blurred : Value → Value → Value → Prop where
  | first {i j : Int64} {x : Float} (h : Meet i j x) :
      Blurred (.float x) (.integer i) (.integer j)
  | second {i j : Int64} {x : Float} (h : Meet i j x) :
      Blurred (.integer i) (.float x) (.integer j)
  | third {i j : Int64} {x : Float} (h : Meet i j x) :
      Blurred (.integer i) (.integer j) (.float x)
  | array {us vs ws : List Value} (h : BlurredItems us vs ws) :
      Blurred (.array us) (.array vs) (.array ws)
  | struct {us vs ws : List Value} (h : BlurredItems us vs ws) :
      Blurred (.struct us) (.struct vs) (.struct ws)

inductive BlurredItems : List Value → List Value → List Value → Prop where
  | head {u v w : Value} {us vs ws : List Value} (h : Blurred u v w) :
      BlurredItems (u :: us) (v :: vs) (w :: ws)
  | tail {u v w : Value} {us vs ws : List Value} (h : BlurredItems us vs ws) :
      BlurredItems (u :: us) (v :: vs) (w :: ws)

end

theorem Meet.symm {i j : Int64} {x : Float} (h : Meet i j x) : Meet j i x :=
  ⟨h.1.symm, h.2.2, h.2.1⟩

mutual

/-- Blurred values are so in every order. -/
theorem Blurred.rotate : ∀ {u v w : Value}, Blurred u v w → Blurred v w u
  | _, _, _, .first h => .third h
  | _, _, _, .second h => .first h.symm
  | _, _, _, .third h => .second h.symm
  | _, _, _, .array h => .array h.rotate
  | _, _, _, .struct h => .struct h.rotate

theorem BlurredItems.rotate : ∀ {us vs ws : List Value}, BlurredItems us vs ws →
    BlurredItems vs ws us
  | _, _, _, .head h => .head h.rotate
  | _, _, _, .tail h => .tail h.rotate

end

/-! ## Equal values compare alike unless blurred -/

/-- Integers compare as doubles with a third number equal to one of them, unless blurred. -/
theorem compare_integers_of_not_meet {i j : Int64} {x : Float} (h : ¬Meet i j x)
    (hx : (integer i).compare (.float x) = .eq) :
    (integer i).compare (.integer j) = (Value.float x).compare (.integer j) := by
  have hkey : (integer i).numberKey = (Value.float x).numberKey := eq_of_compare hx
  rw [compare_number (u := .float x) rfl rfl (by simp [isInteger]), ← hkey]
  by_cases hj : (integer i).numberKey = (integer j).numberKey
  · have hmeet : (integer j).compare (.float x) = .eq := by
      rw [compare_number (v := .float x) rfl rfl (by simp [isInteger]), ← hj, hkey]
      exact Std.ReflCmp.compare_self
    have hij : i = j := by
      by_contra hne
      exact h ⟨hne, hx, hmeet⟩
    rw [hij, compare_self]
    exact Std.ReflCmp.compare_self.symm
  · exact compare_integers hj

theorem number_congr {u v w : Value} (hu : u.rank = 2) (hv : v.rank = 2) (hw : w.rank = 2)
    (hsharp : ¬Blurred u v w) (h : u.compare v = .eq) : u.compare w = v.compare w := by
  by_cases hboth : u.isInteger ∧ v.isInteger
  · cases u <;> cases v <;> simp only [isInteger, Bool.false_eq_true, and_false, false_and] at hboth
    rw [eq_of_compare_eq _ _ rfl rfl h]
  have hkey : u.numberKey = v.numberKey := by
    rw [compare_number hu hv hboth] at h
    exact eq_of_compare h
  by_cases huw : u.isInteger ∧ w.isInteger
  · cases u <;> cases w <;> simp only [isInteger, Bool.false_eq_true, and_false, false_and] at huw
    cases v <;> simp only [rank, isInteger, reduceCtorEq, Nat.reduceEqDiff, and_self,
      not_true_eq_false] at hv hboth
    exact compare_integers_of_not_meet (fun hm => hsharp (.second hm)) h
  by_cases hvw : v.isInteger ∧ w.isInteger
  · cases v <;> cases w <;> simp only [isInteger, Bool.false_eq_true, and_false, false_and] at hvw
    cases u <;> simp only [rank, isInteger, reduceCtorEq, Nat.reduceEqDiff, and_self,
      not_true_eq_false] at hu hboth
    refine (compare_integers_of_not_meet (fun hm => hsharp (.first hm)) ?_).symm
    rw [compare_swap, h]
    rfl
  · rw [compare_number hu hw huw, compare_number hv hw hvw, hkey]

theorem flat_congr {u v w : Value} (hu : u.rank < 8) (hsharp : ¬Blurred u v w)
    (h : u.compare v = .eq) : u.compare w = v.compare w := by
  have hrank := rank_eq_of_compare_eq h
  by_cases hnumber : u.rank = 2
  · by_cases hw : w.rank = 2
    · exact number_congr hnumber (hrank ▸ hnumber) hw hsharp h
    · rw [compare_of_rank_ne (by omega), compare_of_rank_ne (by omega), hrank]
  · rw [eq_of_compare_flat hu hnumber h]

mutual

/-- Equal values compare the same way with every third one, unless the three are blurred. -/
theorem compare_congr_of_not_blurred : ∀ u v w : Value, ¬Blurred u v w → u.compare v = .eq →
    u.compare w = v.compare w
  | .array us, v, w, hsharp, h => by
    obtain ⟨vs, rfl, h⟩ := array_of_compare_eq h
    cases w with
    | array ws =>
      exact compareItems_congr_of_not_blurred us vs ws (fun hb => hsharp (.array hb)) h
    | _ => rfl
  | .struct us, v, w, hsharp, h => by
    obtain ⟨vs, rfl, h⟩ := struct_of_compare_eq h
    cases w with
    | struct ws =>
      exact compareItems_congr_of_not_blurred us vs ws (fun hb => hsharp (.struct hb)) h
    | _ => rfl
  | .null, v, w, hsharp, h | .boolean _, v, w, hsharp, h | .integer _, v, w, hsharp, h
  | .float _, v, w, hsharp, h | .string _, v, w, hsharp, h | .bytes _, v, w, hsharp, h
  | .date _, v, w, hsharp, h | .datetime _, v, w, hsharp, h | .timestamp _, v, w, hsharp, h =>
    flat_congr (by simp [rank]) hsharp h

theorem compareItems_congr_of_not_blurred : ∀ us vs ws : List Value, ¬BlurredItems us vs ws →
    compareItems us vs = .eq → compareItems us ws = compareItems vs ws
  | [], [], _, _, _ => rfl
  | _ :: _, _ :: _, [], _, _ => rfl
  | u :: us, v :: vs, w :: ws, hsharp, h => by
    simp only [compareItems, Ordering.then_eq_eq] at h ⊢
    rw [compare_congr_of_not_blurred u v w (fun hb => hsharp (.head hb)) h.1,
      compareItems_congr_of_not_blurred us vs ws (fun hb => hsharp (.tail hb)) h.2]
  | [], _ :: _, _, _, h | _ :: _, [], _, _, h => by simp [compareItems] at h

end

/-- The same on the other side. -/
theorem compare_congr_right_of_not_blurred {u v w : Value} (hsharp : ¬Blurred u v w)
    (h : v.compare w = .eq) : u.compare v = u.compare w := by
  have hcongr := compare_congr_of_not_blurred v w u (fun hb => hsharp hb.rotate.rotate) h
  rw [compare_swap v u, compare_swap w u, hcongr]

/-! ## Transitivity -/

theorem alike_of_rank_ne {u v : Value} (h : u.rank < 8) (hne : u.rank ≠ 2) : u.alike v := by
  cases u <;> simp_all [rank, alike]

theorem flat_lt_trans {u v w : Value} (hu : u.rank < 8) (hv : u.rank = v.rank)
    (hw : v.rank = w.rank) (h : u.compare v = .lt) (h' : v.compare w = .lt) :
    u.compare w = .lt := by
  by_cases hnumber : u.rank = 2
  · exact number_lt_trans hnumber (hv ▸ hnumber) (hw ▸ hv ▸ hnumber) h h'
  · exact compare_flat_lt_trans hu hv hw (alike_of_rank_ne hu hnumber)
      (alike_of_rank_ne (hv ▸ hu) (hv ▸ hnumber)) h h'

mutual

theorem lt_trans_of_not_blurred : ∀ u v w : Value, ¬Blurred u v w → u.compare v = .lt →
    v.compare w = .lt → u.compare w = .lt
  | .array us, v, w, hsharp, h, h' => by
    by_cases hrank : (Value.array us).rank < w.rank
    · exact compare_lt_of_rank_lt hrank
    · have hv := rank_le_of_compare_lt h
      have hw := rank_le_of_compare_lt h'
      cases v <;> simp only [rank, Nat.reduceLeDiff] at hv
      all_goals
        cases w <;> simp only [rank, Nat.reduceLeDiff, Nat.reduceLT, not_true] at hw hrank
      exact itemsLt_trans_of_not_blurred us _ _ (fun hb => hsharp (.array hb)) h h'
  | .struct us, v, w, hsharp, h, h' => by
    have hv := rank_le_of_compare_lt h
    have hw := rank_le_of_compare_lt h'
    cases v <;> simp only [rank, Nat.reduceLeDiff] at hv
    cases w <;> simp only [rank, Nat.reduceLeDiff] at hw
    exact itemsLt_trans_of_not_blurred us _ _ (fun hb => hsharp (.struct hb)) h h'
  | .null, v, w, _, h, h' | .boolean _, v, w, _, h, h' | .integer _, v, w, _, h, h'
  | .float _, v, w, _, h, h' | .string _, v, w, _, h, h' | .bytes _, v, w, _, h, h'
  | .date _, v, w, _, h, h' | .datetime _, v, w, _, h, h' | .timestamp _, v, w, _, h, h' => by
    have hv := rank_le_of_compare_lt h
    have hw := rank_le_of_compare_lt h'
    rcases Nat.lt_or_eq_of_le (Nat.le_trans hv hw) with hrank | hrank
    · exact compare_lt_of_rank_lt hrank
    · refine flat_lt_trans (by simp [rank]) ?_ ?_ h h' <;> omega

theorem itemsLt_trans_of_not_blurred : ∀ us vs ws : List Value, ¬BlurredItems us vs ws →
    compareItems us vs = .lt → compareItems vs ws = .lt → compareItems us ws = .lt
  | [], _, _ :: _, _, _, _ => rfl
  | [], [], [], _, h, _ | _ :: _, [], _, _, h, _ => by simp [compareItems] at h
  | _, _ :: _, [], _, _, h' => by simp [compareItems] at h'
  | u :: us, v :: vs, w :: ws, hsharp, h, h' => by
    have hhead : ¬Blurred u v w := fun hb => hsharp (.head hb)
    simp only [compareItems, Ordering.then_eq_lt] at h h' ⊢
    rcases h with h | ⟨heq, h⟩
    · rcases h' with h' | ⟨heq', -⟩
      · exact .inl (lt_trans_of_not_blurred u v w hhead h h')
      · exact .inl (compare_congr_right_of_not_blurred hhead heq' ▸ h)
    · rw [compare_congr_of_not_blurred u v w hhead heq]
      rcases h' with h' | ⟨heq', h'⟩
      · exact .inl h'
      · exact .inr ⟨heq', itemsLt_trans_of_not_blurred us vs ws (fun hb => hsharp (.tail hb)) h h'⟩

end

theorem le_trans_of_not_blurred {u v w : Value} (hsharp : ¬Blurred u v w)
    (h : u.compare v ≠ .gt) (h' : v.compare w ≠ .gt) : u.compare w ≠ .gt := by
  cases huv : u.compare v with
  | gt => exact absurd huv h
  | eq => rwa [compare_congr_of_not_blurred u v w hsharp huv]
  | lt =>
    cases hvw : v.compare w with
    | gt => exact absurd hvw h'
    | eq => rwa [← compare_congr_right_of_not_blurred hsharp hvw]
    | lt => simp [lt_trans_of_not_blurred u v w hsharp huv hvw]

/-! ## Values that are never blurred -/

mutual

/-- Every integer in the value is a double. -/
def isExact : Value → Bool
  | .integer i => i.toInt.natAbs ≤ 2 ^ 53
  | .array vs | .struct vs => exactItems vs
  | _ => true

def exactItems : List Value → Bool
  | [] => true
  | v :: vs => v.isExact && exactItems vs

end

theorem not_meet_of_exact {i j : Int64} {x : Float} (hi : (integer i).isExact)
    (hj : (integer j).isExact) : ¬Meet i j x := by
  rintro ⟨hne, hix, hjx⟩
  have hkey : (integer i).numberKey = (integer j).numberKey :=
    (eq_of_compare hix).trans (eq_of_compare hjx).symm
  simp only [isExact, decide_eq_true_eq] at hi hj
  rcases lt_trichotomy i.toInt j.toInt with hlt | heq | hlt
  · exact absurd hkey (Int.ne_of_lt (Binary64.orderKey_ofInt_lt hi hj hlt))
  · exact hne (Int64.toInt_inj.mp heq)
  · exact absurd hkey (Int.ne_of_gt (Binary64.orderKey_ofInt_lt hj hi hlt))

mutual

/-- Values whose integers stay within `2 ^ 53` are never blurred. -/
theorem not_blurred_of_exact : ∀ {u v w : Value}, u.isExact → v.isExact → w.isExact →
    ¬Blurred u v w
  | _, _, _, _, hv, hw, .first h => not_meet_of_exact hv hw h
  | _, _, _, hu, _, hw, .second h => not_meet_of_exact hu hw h
  | _, _, _, hu, hv, _, .third h => not_meet_of_exact hu hv h
  | _, _, _, hu, hv, hw, .array h | _, _, _, hu, hv, hw, .struct h =>
    not_blurredItems_of_exact hu hv hw h

theorem not_blurredItems_of_exact : ∀ {us vs ws : List Value}, exactItems us →
    exactItems vs → exactItems ws → ¬BlurredItems us vs ws
  | _, _, _, hu, hv, hw, h => by
    cases h with
    | head h =>
      simp only [exactItems, Bool.and_eq_true] at hu hv hw
      exact not_blurred_of_exact hu.1 hv.1 hw.1 h
    | tail h =>
      simp only [exactItems, Bool.and_eq_true] at hu hv hw
      exact not_blurredItems_of_exact hu.2 hv.2 hw.2 h

end

/-! ## The order as a preorder -/

/-- The order of values is reflexive and oriented, and it is transitive, with equality, on
values that are not blurred. -/
theorem compare_preorder (u v w : Value) :
    u.compare u = .eq ∧ v.compare u = (u.compare v).swap ∧
      (¬Blurred u v w →
        (u.compare v ≠ .gt → v.compare w ≠ .gt → u.compare w ≠ .gt) ∧
        (u == v → v == w → u == w)) := by
  refine ⟨compare_self u, compare_swap u v, fun hsharp => ⟨?le, ?eq⟩⟩
  case le => exact le_trans_of_not_blurred hsharp
  case eq =>
    simp only [beq_iff_compare]
    intro h h'
    rw [compare_congr_of_not_blurred u v w hsharp h, h']

/-- A struct of an integer, the struct of the same double, and a struct after both. -/
theorem compare_preorder_structs :
    let u := Value.struct [.integer 2, .float (Float.ofBits 0x7ff8000000000000)]
    let v := Value.struct [.float (Binary64.ofInt 2), .float (Float.ofBits 0x7ff8000000000000)]
    let w := Value.struct [.integer 3, .null]
    ¬Blurred u v w ∧ u.compare v ≠ .gt ∧ v.compare w ≠ .gt ∧ u.compare w ≠ .gt := by
  intro u v w
  have hsharp : ¬Blurred u v w := not_blurred_of_exact rfl rfl rfl
  have h : u.compare v ≠ .gt := by
    rw [show u.compare v = .eq from rfl]
    decide
  have h' : v.compare w ≠ .gt := by
    rw [show v.compare w = .lt from rfl]
    decide
  exact ⟨hsharp, h, h', ((compare_preorder u v w).2.2 hsharp).1 h h'⟩

/-- The integers around `2 ^ 53`, and the double that two of them round to. -/
theorem order_not_transitive :
    (integer 9007199254740993).compare (.float (Binary64.ofInt 9007199254740992)) = .eq ∧
    (Value.float (Binary64.ofInt 9007199254740992)).compare (.integer 9007199254740992) = .eq ∧
    (integer 9007199254740993).compare (.integer 9007199254740992) = .gt :=
  ⟨rfl, rfl, rfl⟩

end ColumnarSql.Value
