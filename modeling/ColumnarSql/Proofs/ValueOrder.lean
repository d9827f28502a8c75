import ColumnarSql.Proofs.Coercion
import ColumnarSql.Proofs.EqualValues

/-!
# The order of alike values

Integers and doubles are one kind and are compared as doubles, so over all values equality is
not transitive: one double can equal two integers. Values are alike if no integer of one
stands where the other has a double, as in values of one type (`alike_of_conforms`). Of alike
values, equal ones compare the same way with everything (`compare_congr`) and the order is
transitive (`compare_lt_trans`). Values that equal a common one are equal if no
double of it equals integers (`eq_of_common`).
-/

set_option autoImplicit false

namespace ColumnarSql.Value

/-! ## Kinds first -/

/-- Values of different kinds are ordered by their kinds. -/
theorem compare_of_rank_ne {v w : Value} (h : v.rank ≠ w.rank) :
    v.compare w = Ord.compare v.rank w.rank := by
  cases v <;> cases w <;> first
    | rfl
    | exact absurd rfl h

/-- A smaller value is of no greater kind. -/
theorem rank_le_of_compare_lt {v w : Value} (h : v.compare w = .lt) : v.rank ≤ w.rank := by
  by_cases hr : v.rank = w.rank
  · exact Nat.le_of_eq hr
  · rw [compare_of_rank_ne hr, Nat.compare_eq_lt] at h
    exact Nat.le_of_lt h

theorem compare_lt_of_rank_lt {v w : Value} (h : v.rank < w.rank) : v.compare w = .lt := by
  rw [compare_of_rank_ne (Nat.ne_of_lt h)]
  exact Nat.compare_eq_lt.mpr h

/-! ## Comparing the other way round -/

theorem swap_compare {α : Type} [Ord α] [Std.OrientedOrd α] (a b : α) :
    Ord.compare b a = (Ord.compare a b).swap :=
  Std.OrientedOrd.eq_swap

mutual

/-- Comparing the other way round swaps the order. -/
theorem compare_swap : ∀ v w : Value, w.compare v = (v.compare w).swap
  | .array vs, w => by
    cases w with
    | array ws => exact compareItems_swap vs ws
    | _ => rfl
  | .struct vs, w => by
    cases w with
    | struct ws => exact compareItems_swap vs ws
    | _ => rfl
  | .null, w | .boolean _, w | .integer _, w | .float _, w | .string _, w | .bytes _, w
  | .date _, w | .datetime _, w | .timestamp _, w => by
    cases w <;> first
      | rfl
      | exact swap_compare _ _

theorem compareItems_swap :
    ∀ vs ws : List Value, compareItems ws vs = (compareItems vs ws).swap
  | [], [] | [], _ :: _ | _ :: _, [] => rfl
  | v :: vs, w :: ws => by
    simp only [compareItems, compare_swap v w, compareItems_swap vs ws, Ordering.swap_then]

end

/-! ## Alike values -/

mutual

/-- No integer of one value stands where the other has a double. -/
def alike : Value → Value → Bool
  | .integer _, .float _ | .float _, .integer _ => false
  | .array vs, .array ws | .struct vs, .struct ws => alikeItems vs ws
  | _, _ => true

def alikeItems : List Value → List Value → Bool
  | v :: vs, w :: ws => v.alike w && alikeItems vs ws
  | _, _ => true

end

mutual

/-- Being alike is symmetric. -/
theorem alike_comm : ∀ v w : Value, w.alike v = v.alike w
  | .array vs, w => by
    cases w with
    | array ws => exact alikeItems_comm vs ws
    | _ => rfl
  | .struct vs, w => by
    cases w with
    | struct ws => exact alikeItems_comm vs ws
    | _ => rfl
  | .null, w | .boolean _, w | .integer _, w | .float _, w | .string _, w | .bytes _, w
  | .date _, w | .datetime _, w | .timestamp _, w => by cases w <;> rfl

theorem alikeItems_comm : ∀ vs ws : List Value, alikeItems ws vs = alikeItems vs ws
  | [], [] | [], _ :: _ | _ :: _, [] => rfl
  | v :: vs, w :: ws => by simp only [alikeItems, alike_comm v w, alikeItems_comm vs ws]

end

mutual

/-- Values of one type are alike. -/
theorem alike_of_conforms :
    ∀ (v w : Value) (t : ColumnType), v.conforms t → w.conforms t → v.alike w
  | .array vs, w, t, hv, hw => by
    cases w with
    | array ws =>
      match t with
      | some (.array t) => exact alikeItems_of_conformsAll vs ws (some t) hv hw
      | none | some (.scalar _) | some (.struct _) => simp [conforms, scalarType?] at hv
    | _ => rfl
  | .struct vs, w, t, hv, hw => by
    cases w with
    | struct ws =>
      match t with
      | some (.struct fs) => exact alikeItems_of_conformsFields vs ws fs hv hw
      | none | some (.scalar _) | some (.array _) => simp [conforms, scalarType?] at hv
    | _ => rfl
  | .integer i, w, t, hv, hw => by
    cases w with
    | float x =>
      match t with
      | some (.scalar s) =>
        simp only [conforms, scalarType?, decide_eq_true_eq, Option.some.injEq] at hv hw
        rw [← hv] at hw
        cases hw
      | none | some (.array _) | some (.struct _) => simp [conforms] at hv
    | _ => rfl
  | .float x, w, t, hv, hw => by
    cases w with
    | integer i =>
      match t with
      | some (.scalar s) =>
        simp only [conforms, scalarType?, decide_eq_true_eq, Option.some.injEq] at hv hw
        rw [← hv] at hw
        cases hw
      | none | some (.array _) | some (.struct _) => simp [conforms] at hv
    | _ => rfl
  | .null, w, _, _, _ | .boolean _, w, _, _, _ | .string _, w, _, _, _ | .bytes _, w, _, _, _
  | .date _, w, _, _, _ | .datetime _, w, _, _, _ | .timestamp _, w, _, _, _ => by
    cases w <;> rfl

/-- Items of one type are alike one by one. -/
theorem alikeItems_of_conformsAll : ∀ (vs ws : List Value) (t : ColumnType),
    conformsAll vs t → conformsAll ws t → alikeItems vs ws
  | [], _, _, _, _ | _ :: _, [], _, _, _ => by simp [alikeItems]
  | v :: vs, w :: ws, t, hv, hw => by
    simp only [conformsAll, Bool.and_eq_true] at hv hw
    simp only [alikeItems, Bool.and_eq_true]
    exact ⟨alike_of_conforms v w t hv.1 hw.1, alikeItems_of_conformsAll vs ws t hv.2 hw.2⟩

/-- So are the fields of two structs of one type. -/
theorem alikeItems_of_conformsFields : ∀ (vs ws : List Value) (fs : List (Field DataType)),
    conformsFields vs fs → conformsFields ws fs → alikeItems vs ws
  | [], _, _, _, _ | _ :: _, [], _, _, _ => by simp [alikeItems]
  | v :: vs, w :: ws, [], hv, _ => by simp [conformsFields] at hv
  | v :: vs, w :: ws, f :: fs, hv, hw => by
    simp only [conformsFields, Bool.and_eq_true] at hv hw
    simp only [alikeItems, Bool.and_eq_true]
    exact ⟨alike_of_conforms v w f.type hv.1 hw.1, alikeItems_of_conformsFields vs ws fs hv.2 hw.2⟩

end

/-- Columns of values are alike row by row. -/
theorem alikeItems_map {α : Type} {f g : α → Value} :
    ∀ as : List α, alikeItems (as.map f) (as.map g) ↔ ∀ a ∈ as, (f a).alike (g a)
  | [] => by simp [alikeItems]
  | a :: as => by simp [alikeItems, alikeItems_map as]

/-! ## Equal values compare alike -/

theorem compare_congr_of_rank_ne {u v w : Value} (hu : u.rank ≠ v.rank) (h : v.rank = w.rank) :
    u.compare v = u.compare w := by
  rw [compare_of_rank_ne hu, compare_of_rank_ne (h ▸ hu), h]

/-- The values of the number kind are integers and doubles. -/
theorem number_of_rank {v : Value} (h : v.rank = 2) :
    (∃ i, v = .integer i) ∨ ∃ x, v = .float x := by
  cases v <;> simp_all [rank]

/-- Alike equal numbers hold the same integer, or doubles with the same place in the order. -/
theorem compare_number_congr {u v w : Value} (hv : v.rank = 2) (halike : v.alike w)
    (h : v.compare w = .eq) : u.compare v = u.compare w := by
  have hw : w.rank = 2 := rank_eq_of_compare_eq h ▸ hv
  rcases number_of_rank hv with ⟨i, rfl⟩ | ⟨x, rfl⟩
  · rcases number_of_rank hw with ⟨j, rfl⟩ | ⟨y, rfl⟩
    · rw [eq_of_compare_eq _ _ rfl rfl h]
    · simp [alike] at halike
  · rcases number_of_rank hw with ⟨j, rfl⟩ | ⟨y, rfl⟩
    · simp [alike] at halike
    · have hkey := eq_of_compare h
      cases u <;> simp only [Value.compare, Binary64.compareFloat, hkey, rank]

/-- Equal values without parts compare the same way with every third one, if they are alike. -/
theorem compare_flat_congr {u v w : Value} (hv : v.rank < 8) (halike : v.alike w)
    (h : v.compare w = .eq) : u.compare v = u.compare w := by
  by_cases hnumber : v.rank = 2
  · exact compare_number_congr hnumber halike h
  · rw [eq_of_compare_flat hv hnumber h]

mutual

/-- Alike equal values compare the same way with every value. -/
theorem compare_congr : ∀ u v w : Value, v.alike w → v.compare w = .eq →
    u.compare v = u.compare w
  | .array us, v, w, halike, h => by
    have hrank := rank_eq_of_compare_eq h
    by_cases hu : (Value.array us).rank = v.rank
    · cases v <;> simp only [rank, reduceCtorEq, Nat.reduceEqDiff] at hu
      cases w <;> simp only [rank, reduceCtorEq, Nat.reduceEqDiff] at hrank
      exact compareItems_congr us _ _ halike h
    · exact compare_congr_of_rank_ne hu hrank
  | .struct us, v, w, halike, h => by
    have hrank := rank_eq_of_compare_eq h
    by_cases hu : (Value.struct us).rank = v.rank
    · cases v <;> simp only [rank, reduceCtorEq, Nat.reduceEqDiff] at hu
      cases w <;> simp only [rank, reduceCtorEq, Nat.reduceEqDiff] at hrank
      exact compareItems_congr us _ _ halike h
    · exact compare_congr_of_rank_ne hu hrank
  | .null, v, w, halike, h | .boolean _, v, w, halike, h | .integer _, v, w, halike, h
  | .float _, v, w, halike, h | .string _, v, w, halike, h | .bytes _, v, w, halike, h
  | .date _, v, w, halike, h | .datetime _, v, w, halike, h | .timestamp _, v, w, halike, h => by
    by_cases hv : v.rank < 8
    · exact compare_flat_congr hv halike h
    · refine compare_congr_of_rank_ne (fun hu => hv ?_) (rank_eq_of_compare_eq h)
      rw [← hu]
      simp [rank]

/-- Equal lists compare the same way with every third one, if they are alike. -/
theorem compareItems_congr : ∀ us vs ws : List Value, alikeItems vs ws →
    compareItems vs ws = .eq → compareItems us vs = compareItems us ws
  | _, [], [], _, _ => rfl
  | [], _ :: _, _ :: _, _, _ => rfl
  | u :: us, v :: vs, w :: ws, halike, h => by
    simp only [alikeItems, Bool.and_eq_true] at halike
    simp only [compareItems, Ordering.then_eq_eq] at h
    simp only [compareItems, compare_congr u v w halike.1 h.1,
      compareItems_congr us vs ws halike.2 h.2]
  | _, [], _ :: _, _, h | _, _ :: _, [], _, h => by simp [compareItems] at h

end

/-- Alike equal values compare the same way with every value on their right. -/
theorem compare_congr_left {u v w : Value} (halike : v.alike w) (h : v.compare w = .eq) :
    v.compare u = w.compare u := by
  rw [compare_swap u v, compare_swap u w, compare_congr u v w halike h]

theorem compareItems_congr_left {us vs ws : List Value} (halike : alikeItems vs ws)
    (h : compareItems vs ws = .eq) : compareItems vs us = compareItems ws us := by
  rw [compareItems_swap us vs, compareItems_swap us ws, compareItems_congr us vs ws halike h]

/-! ## Transitivity -/

/-- Less than is transitive. The instance fixes the comparison, which in the cases below could not be
read off the goal. -/
theorem ord_lt_trans {α : Type} [Ord α] [Std.TransOrd α] {a b c : α}
    (h : Ord.compare a b = .lt) (h' : Ord.compare b c = .lt) : Ord.compare a c = .lt :=
  Std.TransCmp.lt_trans h h'

/-- Among alike numbers the order is that of the integers, or that of the doubles. -/
theorem compare_number_lt_trans {u v w : Value} (hu : u.rank = 2) (hv : v.rank = 2)
    (hw : w.rank = 2) (huv : u.alike v) (hvw : v.alike w) (h : u.compare v = .lt)
    (h' : v.compare w = .lt) : u.compare w = .lt := by
  rcases number_of_rank hu with ⟨i, rfl⟩ | ⟨x, rfl⟩ <;>
    rcases number_of_rank hv with ⟨j, rfl⟩ | ⟨y, rfl⟩ <;>
    rcases number_of_rank hw with ⟨k, rfl⟩ | ⟨z, rfl⟩ <;>
    first
      | exact ord_lt_trans h h'
      | simp [alike] at huv hvw

/-- The order of values without parts is transitive among alike ones. -/
theorem compare_flat_lt_trans {u v w : Value} (hu : u.rank < 8) (hv : u.rank = v.rank)
    (hw : v.rank = w.rank) (huv : u.alike v) (hvw : v.alike w) (h : u.compare v = .lt)
    (h' : v.compare w = .lt) : u.compare w = .lt := by
  by_cases hnumber : u.rank = 2
  · exact compare_number_lt_trans hnumber (hv ▸ hnumber) (hw ▸ hv ▸ hnumber) huv hvw h h'
  · cases u <;> simp only [rank, reduceCtorEq, Nat.reduceLT, not_true] at hu hnumber hv
    all_goals
      cases v <;> simp only [rank, reduceCtorEq, Nat.reduceEqDiff] at hv hw
      cases w <;> simp only [reduceCtorEq, Nat.reduceEqDiff] at hw
      exact ord_lt_trans h h'

mutual

/-- The order of alike values is transitive. -/
theorem compare_lt_trans : ∀ u v w : Value, u.alike v → v.alike w → u.alike w →
    u.compare v = .lt → v.compare w = .lt → u.compare w = .lt
  | .array us, v, w, huv, hvw, huw, h, h' => by
    by_cases hrank : (Value.array us).rank < w.rank
    · exact compare_lt_of_rank_lt hrank
    · have hv := rank_le_of_compare_lt h
      have hw := rank_le_of_compare_lt h'
      cases v <;> simp only [rank, Nat.reduceLeDiff] at hv
      all_goals
        cases w <;> simp only [rank, Nat.reduceLeDiff, Nat.reduceLT, not_true] at hw hrank
      exact compareItems_lt_trans us _ _ huv hvw huw h h'
  | .struct us, v, w, huv, hvw, huw, h, h' => by
    have hv := rank_le_of_compare_lt h
    have hw := rank_le_of_compare_lt h'
    cases v <;> simp only [rank, Nat.reduceLeDiff] at hv
    cases w <;> simp only [rank, Nat.reduceLeDiff] at hw
    exact compareItems_lt_trans us _ _ huv hvw huw h h'
  | .null, v, w, huv, hvw, _, h, h' | .boolean _, v, w, huv, hvw, _, h, h'
  | .integer _, v, w, huv, hvw, _, h, h' | .float _, v, w, huv, hvw, _, h, h'
  | .string _, v, w, huv, hvw, _, h, h' | .bytes _, v, w, huv, hvw, _, h, h'
  | .date _, v, w, huv, hvw, _, h, h' | .datetime _, v, w, huv, hvw, _, h, h'
  | .timestamp _, v, w, huv, hvw, _, h, h' => by
    have hv := rank_le_of_compare_lt h
    have hw := rank_le_of_compare_lt h'
    rcases Nat.lt_or_eq_of_le (Nat.le_trans hv hw) with hrank | hrank
    · exact compare_lt_of_rank_lt hrank
    · refine compare_flat_lt_trans (by simp [rank]) ?_ ?_ huv hvw h h' <;> omega

/-- The order of lists is transitive among alike ones. -/
theorem compareItems_lt_trans : ∀ us vs ws : List Value, alikeItems us vs → alikeItems vs ws →
    alikeItems us ws → compareItems us vs = .lt → compareItems vs ws = .lt →
    compareItems us ws = .lt
  | [], _, _ :: _, _, _, _, _, _ => rfl
  | [], [], [], _, _, _, h, _ | _ :: _, [], _, _, _, _, h, _ => by simp [compareItems] at h
  | _, _ :: _, [], _, _, _, _, h' => by simp [compareItems] at h'
  | u :: us, v :: vs, w :: ws, huv, hvw, huw, h, h' => by
    simp only [alikeItems, Bool.and_eq_true] at huv hvw huw
    simp only [compareItems, Ordering.then_eq_lt] at h h' ⊢
    rcases h with h | ⟨heq, h⟩
    · rcases h' with h' | ⟨heq', -⟩
      · exact .inl (compare_lt_trans u v w huv.1 hvw.1 huw.1 h h')
      · exact .inl (compare_congr u v w hvw.1 heq' ▸ h)
    · rw [compare_congr_left huv.1 heq]
      rcases h' with h' | ⟨heq', h'⟩
      · exact .inl h'
      · exact .inr ⟨heq', compareItems_lt_trans us vs ws huv.2 hvw.2 huw.2 h h'⟩

end

/-- At most is transitive among alike values. -/
theorem isLE_trans_of_alike {u v w : Value} (huv : u.alike v) (hvw : v.alike w)
    (huw : u.alike w) (h : (u.compare v).isLE) (h' : (v.compare w).isLE) :
    (u.compare w).isLE := by
  rw [Ordering.isLE_iff_eq_lt_or_eq_eq] at h h' ⊢
  rcases h with h | h
  · rcases h' with h' | h'
    · exact .inl (compare_lt_trans u v w huv hvw huw h h')
    · exact .inl (compare_congr u v w hvw h' ▸ h)
  · rw [compare_congr_left huv h]
    exact h'

/-! ## Values that equal a common one -/

mutual

/-- No double of the first value stands where the second has an integer. -/
def distinguishes : Value → Value → Bool
  | .float _, .integer _ => false
  | .array vs, .array ws | .struct vs, .struct ws => distinguishesItems vs ws
  | _, _ => true

def distinguishesItems : List Value → List Value → Bool
  | v :: vs, w :: ws => v.distinguishes w && distinguishesItems vs ws
  | _, _ => true

end

/-- Columns of values are told apart row by row. -/
theorem distinguishesItems_map {α : Type} {f g : α → Value} :
    ∀ as : List α,
      distinguishesItems (as.map f) (as.map g) ↔ ∀ a ∈ as, (f a).distinguishes (g a)
  | [] => by simp [distinguishesItems]
  | a :: as => by simp [distinguishesItems, distinguishesItems_map as]

/-- Two numbers equal to a third are equal, if that one tells its equals apart. -/
theorem number_eq_of_common {u v w : Value} (hu : u.rank = 2) (hv : u.distinguishes v)
    (hvw : v.alike w) (h : u.compare v = .eq) (h' : u.compare w = .eq) : v.compare w = .eq := by
  rcases number_of_rank hu with ⟨i, rfl⟩ | ⟨x, rfl⟩ <;>
    rcases number_of_rank (rank_eq_of_compare_eq h ▸ hu) with ⟨j, rfl⟩ | ⟨y, rfl⟩ <;>
    rcases number_of_rank (rank_eq_of_compare_eq h' ▸ hu) with ⟨k, rfl⟩ | ⟨z, rfl⟩ <;>
    simp [distinguishes, alike] at hv hvw
  all_goals
    have hkey := eq_of_compare h
    have hkey' := eq_of_compare h'
    simp [Value.compare, Binary64.compareFloat, ← hkey, ← hkey']

mutual

/-- Values that equal a common one are equal, if no double of it equals integers. -/
theorem eq_of_common : ∀ u v w : Value, u.distinguishes v → v.alike w →
    u.compare v = .eq → u.compare w = .eq → v.compare w = .eq
  | .array us, v, w, hv, hvw, h, h' => by
    obtain ⟨vs, rfl, h⟩ := array_of_compare_eq h
    obtain ⟨ws, rfl, h'⟩ := array_of_compare_eq h'
    exact eqItems_of_common us vs ws hv hvw h h'
  | .struct us, v, w, hv, hvw, h, h' => by
    obtain ⟨vs, rfl, h⟩ := struct_of_compare_eq h
    obtain ⟨ws, rfl, h'⟩ := struct_of_compare_eq h'
    exact eqItems_of_common us vs ws hv hvw h h'
  | .integer i, v, w, hv, hvw, h, h' => number_eq_of_common rfl hv hvw h h'
  | .float x, v, w, hv, hvw, h, h' => number_eq_of_common rfl hv hvw h h'
  | .null, v, w, _, _, h, h' | .boolean _, v, w, _, _, h, h' | .string _, v, w, _, _, h, h'
  | .bytes _, v, w, _, _, h, h' | .date _, v, w, _, _, h, h' | .datetime _, v, w, _, _, h, h'
  | .timestamp _, v, w, _, _, h, h' => by
    rw [← eq_of_compare_flat (by simp [rank]) (by simp [rank]) h]
    exact h'

/-- The same of lists, item by item. -/
theorem eqItems_of_common : ∀ us vs ws : List Value, distinguishesItems us vs →
    alikeItems vs ws → compareItems us vs = .eq → compareItems us ws = .eq →
    compareItems vs ws = .eq
  | [], [], _, _, _, _, h' => h'
  | [], _ :: _, _, _, _, h, _ | _ :: _, [], _, _, _, h, _ => by simp [compareItems] at h
  | _ :: _, _ :: _, [], _, _, _, h' => by simp [compareItems] at h'
  | u :: us, v :: vs, w :: ws, hv, hvw, h, h' => by
    simp only [distinguishesItems, alikeItems, Bool.and_eq_true] at hv hvw
    simp only [compareItems, Ordering.then_eq_eq] at h h' ⊢
    exact ⟨eq_of_common u v w hv.1 hvw.1 h.1 h'.1, eqItems_of_common us vs ws hv.2 hvw.2 h.2 h'.2⟩

end

mutual

/-- Values of a type below another one distinguish the values of that one. -/
theorem distinguishes_of_below : ∀ (v w : Value) {s t : DataType}, s.Below t →
    v.conforms (some s) → w.conforms (some t) → v.distinguishes w
  | .float x, w, s, t, hst, hv, hw => by
    cases w with
    | integer i =>
      cases hst with
      | same s =>
        simp only [conforms, scalarType?, decide_eq_true_eq, Option.some.injEq] at hv hw
        exact absurd (hv.trans hw.symm) (by decide)
      | number _ =>
        simp only [conforms, scalarType?, decide_eq_true_eq, Option.some.injEq] at hw
        exact absurd hw (by decide)
      | _ => simp [conforms] at hv
    | _ => rfl
  | .array vs, w, s, t, hst, hv, hw => by
    cases w with
    | array ws =>
      cases hst with
      | array h => exact distinguishesItems_of_below vs ws h hv hw
      | _ => simp [conforms, scalarType?] at hv
    | _ => rfl
  | .struct vs, w, s, t, hst, hv, hw => by
    cases w with
    | struct ws =>
      cases hst with
      | struct h => exact distinguishesItems_of_fieldsBelow vs ws h hv hw
      | _ => simp [conforms, scalarType?] at hv
    | _ => rfl
  | .null, w, _, _, _, _, _ | .boolean _, w, _, _, _, _, _ | .integer _, w, _, _, _, _, _
  | .string _, w, _, _, _, _, _ | .bytes _, w, _, _, _, _, _ | .date _, w, _, _, _, _, _
  | .datetime _, w, _, _, _, _, _ | .timestamp _, w, _, _, _, _, _ => by cases w <;> rfl

/-- Items of a narrower type tell apart the items of a wider one. -/
theorem distinguishesItems_of_below : ∀ (vs ws : List Value) {s t : DataType}, s.Below t →
    conformsAll vs (some s) → conformsAll ws (some t) → distinguishesItems vs ws
  | [], _, _, _, _, _, _ | _ :: _, [], _, _, _, _, _ => by simp [distinguishesItems]
  | v :: vs, w :: ws, s, t, hst, hv, hw => by
    simp only [conformsAll, Bool.and_eq_true] at hv hw
    simp only [distinguishesItems, Bool.and_eq_true]
    exact ⟨distinguishes_of_below v w hst hv.1 hw.1,
      distinguishesItems_of_below vs ws hst hv.2 hw.2⟩

/-- So do the fields of a struct of a narrower type. -/
theorem distinguishesItems_of_fieldsBelow : ∀ (vs ws : List Value)
    {fs gs : List (Field DataType)}, DataType.FieldsBelow fs gs →
    conformsFields vs fs → conformsFields ws gs → distinguishesItems vs ws
  | [], _, _, _, _, _, _ | _ :: _, [], _, _, _, _, _ => by simp [distinguishesItems]
  | v :: vs, w :: ws, _, _, .nil, hv, _ => by simp [conformsFields] at hv
  | v :: vs, w :: ws, _, _, .typed h rest, hv, hw => by
    simp only [conformsFields, Bool.and_eq_true] at hv hw
    simp only [distinguishesItems, Bool.and_eq_true]
    exact ⟨distinguishes_of_below v w h hv.1 hw.1,
      distinguishesItems_of_fieldsBelow vs ws rest hv.2 hw.2⟩
  | v :: vs, w :: ws, _, _, .untyped rest, hv, hw => by
    simp only [conformsFields, Bool.and_eq_true] at hv hw
    simp only [distinguishesItems, Bool.and_eq_true]
    refine ⟨?_, distinguishesItems_of_fieldsBelow vs ws rest hv.2 hw.2⟩
    cases v with
    | null => cases w <;> rfl
    | _ => simp [conforms] at hv

end

/-- A value of a narrower type tells apart the values of a wider one. -/
theorem distinguishes_of_conforms {v w : Value} {s t : ColumnType} (hst : s.Below t)
    (hv : v.conforms s) (hw : w.conforms t) : v.distinguishes w := by
  cases hst with
  | unknown t =>
    cases v with
    | null => cases w <;> rfl
    | _ => simp [conforms] at hv
  | known h => exact distinguishes_of_below v w h hv hw

end ColumnarSql.Value
