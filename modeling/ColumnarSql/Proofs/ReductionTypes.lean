import ColumnarSql.Eval.Window
import ColumnarSql.Proofs.Hashing
import ColumnarSql.Proofs.KernelTypes

/-!
# The types of reductions and windows

The value that a reducing function makes of a group belongs to the type of the call when
the values of the group belong to the types of its arguments (`reduce_sound`). A call over
a window puts such values, numbers of rows or row values at its rows (`Window.typed_apply`).
-/

set_option autoImplicit false

namespace ColumnarSql

/-! ## Columns -/

namespace Column

/-- Every value belongs to the declared type. -/
def Typed (c : Column) : Prop := ∀ v ∈ c.values, v.conforms c.type

theorem Typed.cell {c : Column} (h : c.Typed) (i : Nat) : (c.cell i).conforms c.type := by
  by_cases hi : i < c.values.length
  · simpa [Column.cell, hi] using h _ (List.getElem_mem hi)
  · simp [Column.cell, hi]

theorem typed_of_cells {type : ColumnType} {rows : List Nat} {f : Nat → Value}
    (h : ∀ i ∈ rows, (f i).conforms type) : Typed ⟨rows.map f, type⟩ := by
  simpa [Typed] using h

end Column

/-! ## Reducing -/

namespace Reduce

theorem mem_of_mem_present {vs : List Value} {v : Value} (h : v ∈ present vs) :
    v ∈ vs ∧ v ≠ .null := by
  obtain ⟨hmem, hnull⟩ := List.mem_filter.mp h
  refine ⟨hmem, ?_⟩
  rintro rfl
  simp [Value.isNull] at hnull

theorem smaller_eq (a b : Value) : smaller a b = a ∨ smaller a b = b := by
  unfold smaller
  split <;> simp

theorem greater_eq (a b : Value) : greater a b = a ∨ greater a b = b := by
  unfold greater
  split <;> simp

theorem foldl_mem {pick : Value → Value → Value} (hpick : ∀ a b, pick a b = a ∨ pick a b = b) :
    ∀ (vs : List Value) (v : Value), vs.foldl pick v = v ∨ vs.foldl pick v ∈ vs
  | [], v => .inl rfl
  | w :: vs, v => by
    rcases foldl_mem hpick vs (pick v w) with h | h
    · rw [List.foldl_cons, h]
      rcases hpick v w with h' | h'
      · exact .inl h'
      · exact .inr (by simp [h'])
    · exact .inr (List.mem_cons_of_mem w h)

/-- Picking from the first value on gives NULL or one of the values. -/
theorem fold_mem {pick : Value → Value → Value} (hpick : ∀ a b, pick a b = a ∨ pick a b = b)
    (vs : List Value) : fold pick vs = .null ∨ fold pick vs ∈ vs := by
  cases vs with
  | nil => exact .inl rfl
  | cons v vs =>
    rcases foldl_mem hpick vs v with h | h
    · exact .inr (by simp [fold, h])
    · exact .inr (List.mem_cons_of_mem v h)

variable {types : List ColumnType} {t : ColumnType} {vs : List Value}

theorem sum_sound (hnumeric : ∀ u ∈ types, OperandClass.numeric.admits u)
    (ht : ColumnType.coerceAll types = .ok t) (hvs : ∀ v ∈ vs, ∃ u ∈ types, v.conforms u)
    {v : Value} (hv : Reduce.sum t vs = .ok v) : v.conforms t := by
  unfold Reduce.sum at hv
  split at hv
  · obtain rfl := Except.ok.inj hv
    simp
  · next hsome =>
    split at hv
    · next hinteger =>
      obtain ⟨i, -, rfl⟩ := map_eq_ok.mp hv
      rw [hinteger]
      rfl
    · next hinteger =>
      obtain rfl := Except.ok.inj hv
      obtain ⟨w, hw⟩ := List.exists_mem_of_ne_nil _ fun h => hsome h
      obtain ⟨hmem, hnull⟩ := mem_of_mem_present hw
      obtain ⟨u, hu, hconforms⟩ := hvs w hmem
      have hbelow := ColumnType.below_coerceAll ht hu
      have hfloat : t = some .float := by
        rcases Value.number_cases (hnumeric u hu) hconforms with h | ⟨i, -, rfl⟩ | ⟨x, -, rfl⟩
        · exact absurd h hnull
        · cases hbelow with
          | known h =>
            cases h with
            | same => exact absurd rfl hinteger
            | number => rfl
        · exact ColumnType.eq_float_of_below hbelow
      rw [hfloat]
      rfl

theorem fold_sound {pick : Value → Value → Value} (hpick : ∀ a b, pick a b = a ∨ pick a b = b)
    (ht : ColumnType.coerceAll types = .ok t) (hvs : ∀ v ∈ vs, ∃ u ∈ types, v.conforms u) :
    ((fold pick (present vs)).widen t).conforms t := by
  rcases fold_mem hpick (present vs) with h | h
  · simp [h, Value.widen]
  · obtain ⟨u, hu, hconforms⟩ := hvs _ (mem_of_mem_present h).1
    exact Value.conforms_widen (ColumnType.below_coerceAll ht hu) hconforms

theorem collect_sound (o : ArrayAggOptions) {d : DataType}
    (ht : ColumnType.coerceAll types = .ok (some d))
    (hvs : ∀ v ∈ vs, ∃ u ∈ types, v.conforms u) :
    (collect o (some d) vs).conforms (some (.array d)) := by
  have hmem : ∀ v ∈ (if o.distinct then
      Value.distinct (if o.ignoreNulls then present vs else vs)
      else if o.ignoreNulls then present vs else vs), v ∈ vs := by
    intro v hv
    have hpresent : v ∈ (if o.ignoreNulls then present vs else vs) := by
      split at hv
      · exact (Value.distinct_sublist _).subset hv
      · exact hv
    split at hpresent
    · exact (mem_of_mem_present hpresent).1
    · exact hpresent
  simp only [collect, Value.conforms, Value.conformsAll_iff, List.forall_mem_map]
  intro v hv
  obtain ⟨u, hu, hconforms⟩ := hvs v (hmem v hv)
  exact Value.conforms_widen (ColumnType.below_coerceAll ht hu) hconforms

theorem average_sound (vs : List Value) : (average vs).conforms (some .float) := by
  unfold average
  split <;> rfl

end Reduce

namespace SqlFunction

/-- The value made of a group belongs to the type of the call. -/
theorem reduce_sound {f : SqlFunction} {types : List ColumnType} {t : ColumnType}
    (ht : f.resultType types = .ok t) {vs : List Value}
    (hvs : ∀ v ∈ vs, ∃ u ∈ types, v.conforms u) {v : Value} (hv : f.reduce t vs = .ok v) :
    v.conforms t := by
  obtain ⟨htype, hclass⟩ := resultType_eq_ok ht
  unfold reduce at hv
  split at hv
  · obtain rfl := Except.ok.inj hv
    obtain rfl := Except.ok.inj htype
    rfl
  · obtain rfl := Except.ok.inj hv
    obtain rfl := Except.ok.inj htype
    rfl
  · exact Reduce.sum_sound (hclass _ rfl) htype hvs hv
  · obtain rfl := Except.ok.inj hv
    obtain rfl := Except.ok.inj htype
    exact Reduce.average_sound vs
  · obtain rfl := Except.ok.inj hv
    exact Reduce.fold_sound Reduce.smaller_eq htype hvs
  · obtain rfl := Except.ok.inj hv
    exact Reduce.fold_sound Reduce.greater_eq htype hvs
  · next o =>
    obtain rfl := Except.ok.inj hv
    simp only [typeOfAccepted, bind_eq_ok] at htype
    obtain ⟨u, hu, htype⟩ := htype
    split at htype
    · obtain rfl := Except.ok.inj htype
      exact Reduce.collect_sound o hu hvs
    · simp at htype
  · simp at hv

end SqlFunction

/-! ## Windows -/

namespace Window

theorem mem_of_lookup {i : Nat} {v : Value} {l : List (Nat × Value)} (h : l.lookup i = some v) :
    ∃ j, (j, v) ∈ l := by
  obtain ⟨before, after, rfl, -⟩ := List.lookup_eq_some_iff.mp h
  exact ⟨i, by simp⟩

variable {f : SqlFunction} {now : Moment} {args : List Column} {t : ColumnType}

theorem conforming_row (hargs : ∀ c ∈ args, c.Typed) (i : Nat) :
    Conforming (args.map (·.cell i)) (args.map Column.type) := by
  refine List.forall₂_map_left_iff.mpr (List.forall₂_map_right_iff.mpr ?_)
  exact List.forall₂_same.mpr fun c hc => (hargs c hc).cell i

theorem partitionValues_sound (ht : f.resultType (args.map Column.type) = .ok t)
    (hargs : ∀ c ∈ args, c.Typed) {rows : List Nat} {placed : List (Nat × Value)}
    (h : partitionValues f now t args rows = .ok placed) : ∀ p ∈ placed, p.2.conforms t := by
  unfold partitionValues at h
  split at h
  · next hf =>
    subst hf
    obtain rfl := Except.ok.inj h
    obtain rfl := Except.ok.inj (SqlFunction.resultType_eq_ok ht).1
    intro p hp
    obtain ⟨q, -, rfl⟩ := List.mem_map.mp hp
    rfl
  · split at h
    · obtain ⟨v, hv, h⟩ := bind_eq_ok.mp h
      obtain rfl := pure_eq_ok.mp h
      have hconforms : v.conforms t := by
        refine SqlFunction.reduce_sound ht (fun w hw => ?_) hv
        cases args with
        | nil => simp at hw
        | cons c args =>
          obtain ⟨i, -, rfl⟩ := List.mem_map.mp hw
          exact ⟨c.type, by simp, (hargs c List.mem_cons_self).cell i⟩
      intro p hp
      obtain ⟨i, -, rfl⟩ := List.mem_map.mp hp
      exact hconforms
    · intro p hp
      obtain ⟨i, -, hstep⟩ := exists_of_mem_mapM h hp
      obtain ⟨v, hv, hpair⟩ := bind_eq_ok.mp hstep
      obtain rfl := pure_eq_ok.mp hpair
      exact SqlFunction.onRow_sound ht (conforming_row hargs _) hv

/-- The column of a window call is typed. -/
theorem typed_apply {partitionBy : List Column} {orderBy : List (Column × SortOrder)} {n : Nat}
    {c : Column} (hargs : ∀ c ∈ args, c.Typed)
    (h : Window.apply f now args partitionBy orderBy n = .ok c) : c.Typed := by
  unfold Window.apply at h
  simp only [bind_eq_ok, pure_eq_ok] at h
  obtain ⟨t, ht, placed, hplaced, rfl⟩ := h
  refine Column.typed_of_cells fun i _ => ?_
  cases hv : placed.flatten.lookup i with
  | none => simp
  | some v =>
    obtain ⟨j, hmem⟩ := mem_of_lookup hv
    obtain ⟨part, hpart, hmem⟩ := List.mem_flatten.mp hmem
    obtain ⟨rows, -, hrows⟩ := exists_of_mem_mapM hplaced hpart
    exact partitionValues_sound ht hargs hrows _ hmem

end Window

end ColumnarSql
