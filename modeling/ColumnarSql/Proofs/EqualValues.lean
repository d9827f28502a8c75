import ColumnarSql.Value.Order

/-!
# Equal values

Every value is equal to itself (`compare_self`). Two equal values are the same value if
neither of them holds a double (`eq_of_compare_eq`): only zeros, NaNs and numbers of both
kinds can be equal and yet differ.
-/

set_option autoImplicit false

namespace ColumnarSql

/-! ## Dates and moments -/

theorem Calendar.daysInMonth_le (year : Int) (month : Nat) : daysInMonth year month ≤ 31 := by
  unfold daysInMonth
  split <;> try omega
  split <;> omega

theorem Calendar.month_of_days {year : Int} {month : Nat} (h : 0 < daysInMonth year month) :
    1 ≤ month ∧ month ≤ 12 := by
  unfold daysInMonth at h
  split at h <;> omega

theorem Date.eq_of_orderKey_eq {d e : Date} (h : d.orderKey = e.orderKey) : d = e := by
  obtain ⟨y, m, n, _, _, hn, hn'⟩ := d
  obtain ⟨y', m', n', _, _, hk, hk'⟩ := e
  have hm := Calendar.month_of_days (Nat.lt_of_lt_of_le hn hn')
  have hm' := Calendar.month_of_days (Nat.lt_of_lt_of_le hk hk')
  have hle := Calendar.daysInMonth_le y m
  have hle' := Calendar.daysInMonth_le y' m'
  simp only [orderKey] at h
  have hparts : y = y' ∧ m = m' ∧ n = n' := by omega
  obtain ⟨rfl, rfl, rfl⟩ := hparts
  rfl

theorem Moment.eq_of_orderKey_eq {m n : Moment} (h : m.orderKey = n.orderKey) : m = n := by
  obtain ⟨d, hour, minute, second, nano, hh, hm, hs, hnano⟩ := m
  obtain ⟨d', hour', minute', second', nano', hh', hm', hs', hnano'⟩ := n
  simp only [orderKey, Clock.secondOfDay, Calendar.nanosPerSecond] at h hnano hnano'
  obtain ⟨hd, rfl, rfl, rfl, rfl⟩ : d.orderKey = d'.orderKey ∧ hour = hour' ∧ minute = minute' ∧
      second = second' ∧ nano = nano' := by omega
  obtain rfl := Date.eq_of_orderKey_eq hd
  rfl

namespace Value

theorem beq_iff_compare {v w : Value} : v == w ↔ v.compare w = .eq := Ordering.isEq_iff_eq_eq

mutual

theorem compare_self : ∀ v : Value, v.compare v = .eq
  | .boolean b => by cases b <;> rfl
  | .array vs => compareItems_self vs
  | .struct vs => compareItems_self vs
  | .null => rfl
  | .integer i => by simp [Value.compare]
  | .float x => by simp [Value.compare, Binary64.compareFloat]
  | .string s => by simp [Value.compare]
  | .bytes b => by simp [Value.compare]
  | .date d => by simp [Value.compare]
  | .datetime m => by simp [Value.compare]
  | .timestamp m => by simp [Value.compare]

theorem compareItems_self : ∀ vs : List Value, compareItems vs vs = .eq
  | [] => rfl
  | v :: vs => by simp [compareItems, compare_self v, compareItems_self vs]

end

theorem compareItems_map_eq {α : Type} {f g : α → Value} :
    ∀ as : List α,
      compareItems (as.map f) (as.map g) = .eq ↔ ∀ a ∈ as, (f a).compare (g a) = .eq
  | [] => by simp [compareItems]
  | a :: as => by simp [compareItems, Ordering.then_eq_eq, compareItems_map_eq as]

/-! ## Values without doubles -/

mutual

def holdsDouble : Value → Bool
  | float _ => true
  | array vs => anyHoldsDouble vs
  | struct vs => anyHoldsDouble vs
  | _ => false

def anyHoldsDouble : List Value → Bool
  | [] => false
  | v :: vs => v.holdsDouble || anyHoldsDouble vs

end

theorem eq_of_compare {α : Type} [Ord α] [Std.LawfulEqOrd α] {a b : α}
    (h : Ord.compare a b = .eq) : a = b :=
  Std.LawfulEqOrd.eq_of_compare h

/-- Equal values are of one kind; integers and doubles are one kind. -/
theorem rank_eq_of_compare_eq {v w : Value} (h : v.compare w = .eq) : v.rank = w.rank := by
  cases v <;> cases w <;> first
    | rfl
    | exact eq_of_compare h

/-- What equals an array is an array of equal items. -/
theorem array_of_compare_eq {vs : List Value} {w : Value} (h : (array vs).compare w = .eq) :
    ∃ ws, w = array ws ∧ compareItems vs ws = .eq := by
  cases w with
  | array ws => exact ⟨ws, rfl, h⟩
  | _ => cases h

/-- What equals a struct is a struct of equal items. -/
theorem struct_of_compare_eq {vs : List Value} {w : Value} (h : (struct vs).compare w = .eq) :
    ∃ ws, w = struct ws ∧ compareItems vs ws = .eq := by
  cases w with
  | struct ws => exact ⟨ws, rfl, h⟩
  | _ => cases h

mutual

/-- Equal values without doubles are the same. -/
theorem eq_of_compare_eq : ∀ (v w : Value), v.holdsDouble = false → w.holdsDouble = false →
    v.compare w = .eq → v = w
  | .array vs, w, hv, hw, h => by
    obtain ⟨ws, rfl, h⟩ := array_of_compare_eq h
    rw [eq_of_compareItems_eq vs ws hv hw h]
  | .struct vs, w, hv, hw, h => by
    obtain ⟨ws, rfl, h⟩ := struct_of_compare_eq h
    rw [eq_of_compareItems_eq vs ws hv hw h]
  | .null, w, _, _, h => by
    have hrank := rank_eq_of_compare_eq h
    cases w <;> simp_all [rank]
  | .boolean a, w, _, _, h => by
    have hrank := rank_eq_of_compare_eq h
    cases w <;> simp_all [rank, Value.compare]
  | .integer a, w, _, _, h => by
    have hrank := rank_eq_of_compare_eq h
    cases w <;> simp_all [rank, Value.compare, holdsDouble, Int64.toInt_inj]
  | .string a, w, _, _, h => by
    have hrank := rank_eq_of_compare_eq h
    cases w <;> simp_all [rank, Value.compare]
  | .bytes a, w, _, _, h => by
    have hrank := rank_eq_of_compare_eq h
    cases w <;> simp_all [rank, Value.compare]
  | .date a, w, _, _, h => by
    have hrank := rank_eq_of_compare_eq h
    cases w <;> simp only [rank, reduceCtorEq, Nat.reduceEqDiff] at hrank
    rw [Date.eq_of_orderKey_eq (eq_of_compare h)]
  | .datetime a, w, _, _, h => by
    have hrank := rank_eq_of_compare_eq h
    cases w <;> simp only [rank, reduceCtorEq, Nat.reduceEqDiff] at hrank
    rw [Moment.eq_of_orderKey_eq (eq_of_compare h)]
  | .timestamp a, w, _, _, h => by
    have hrank := rank_eq_of_compare_eq h
    cases w <;> simp only [rank, reduceCtorEq, Nat.reduceEqDiff] at hrank
    rw [Moment.eq_of_orderKey_eq (eq_of_compare h)]
  | .float x, _, hv, _, _ => by simp [holdsDouble] at hv

theorem eq_of_compareItems_eq : ∀ (vs ws : List Value), anyHoldsDouble vs = false →
    anyHoldsDouble ws = false → compareItems vs ws = .eq → vs = ws
  | [], ws, _, _, h => by cases ws <;> simp_all [compareItems]
  | v :: vs, [], _, _, h => by simp [compareItems] at h
  | v :: vs, w :: ws, hv, hw, h => by
    simp only [anyHoldsDouble, Bool.or_eq_false_iff] at hv hw
    simp only [compareItems, Ordering.then_eq_eq] at h
    rw [eq_of_compare_eq v w hv.1 hw.1 h.1, eq_of_compareItems_eq vs ws hv.2 hw.2 h.2]

end

/-- Neither a number nor nested. -/
theorem no_double_of_rank {v : Value} (h : v.rank < 8) (hne : v.rank ≠ 2) :
    v.holdsDouble = false := by
  cases v <;> simp_all [rank, holdsDouble]

/-- Equal values that are neither numbers nor nested are the same. -/
theorem eq_of_compare_flat {v w : Value} (hv : v.rank < 8) (hne : v.rank ≠ 2)
    (h : v.compare w = .eq) : v = w :=
  have hrank := rank_eq_of_compare_eq h
  eq_of_compare_eq v w (no_double_of_rank hv hne) (no_double_of_rank (hrank ▸ hv) (hrank ▸ hne)) h

end Value

end ColumnarSql
