import ColumnarSql.Proofs.CoercionOrder
import ColumnarSql.Proofs.EvaluationTypes

/-!
# Widening along coercions

A value is itself when widened to its own type, belongs, widened, to every type that its own
coerces to, and is the same whether it is widened step by step or at once
(`Value.widen_along_coercions`). The last of these holds of values of any type: types that coerce
have as many fields as each other, so all steps keep the same fields of a struct
(`Value.widen_widen`). Columns are widened value by value (`Column.Typed.widen_eq`).
-/

set_option autoImplicit false

namespace ColumnarSql

/-! ## Widening twice -/

namespace Value

open ColumnType DataType

mutual

/-- A value is already a member of its own type. -/
theorem widen_of_conforms : ∀ {v : Value} {t : ColumnType}, v.conforms t → v.widen t = v
  | .null, _, _ => by simp [widen]
  | .array vs, some (.array a), h => by
    simp only [conforms, widen] at h ⊢
    rw [widenAll_of_conforms h]
  | .struct vs, some (.struct f), h => by
    simp only [conforms, widen] at h ⊢
    rw [widenFields_of_conforms h]
  | v, some (.scalar s), h => by
    rcases conforms_scalar.mp h with rfl | h
    · simp [widen]
    · exact widen_of_scalarType h

theorem widenAll_of_conforms : ∀ {vs : List Value} {t : ColumnType}, conformsAll vs t →
    widenAll vs t = vs
  | [], _, _ => rfl
  | v :: vs, t, h => by
    simp only [conformsAll, Bool.and_eq_true] at h
    rw [widenAll, widen_of_conforms h.1, widenAll_of_conforms h.2]

theorem widenFields_of_conforms : ∀ {vs : List Value} {f : List (Field DataType)},
    conformsFields vs f → widenFields vs f = vs
  | [], _, _ => by simp [widenFields]
  | v :: vs, ⟨n, t⟩ :: f, h => by
    simp only [conformsFields, Bool.and_eq_true] at h
    rw [widenFields, widen_of_conforms h.1, widenFields_of_conforms h.2]

end

theorem widen_unknown (v : Value) : v.widen none = v := by
  cases v <;> simp [widen]

theorem widen_widen_scalar (v : Value) {s t : ScalarType}
    (h : DataType.Below (.scalar s) (.scalar t)) :
    (v.widen (some (.scalar s))).widen (some (.scalar t)) = v.widen (some (.scalar t)) := by
  cases v with
  | integer i =>
    cases h with
    | same | number _ => cases s <;> rfl
  | _ => simp [widen]

mutual

/-- A value widened step by step is the value widened at once. -/
theorem widen_widen : ∀ (v : Value) {t u : ColumnType}, ColumnType.Below t u →
    (v.widen t).widen u = v.widen u
  | v, none, _, _ => by rw [widen_unknown]
  | v, some (.scalar _), some (.scalar _), .known h => widen_widen_scalar v h
  | v, some (.array _), some (.array _), .known (.array h) => by
    cases v with
    | array vs =>
      simp only [widen]
      rw [widenAll_widenAll vs (.known h)]
    | _ => simp [widen]
  | v, some (.struct _), some (.struct _), .known (.struct h) => by
    cases v with
    | struct vs =>
      simp only [widen]
      rw [widenFields_widenFields vs h]
    | _ => simp [widen]

theorem widenAll_widenAll : ∀ (vs : List Value) {t u : ColumnType}, ColumnType.Below t u →
    widenAll (widenAll vs t) u = widenAll vs u
  | [], _, _, _ => rfl
  | v :: vs, t, u, h => by
    simp only [widenAll]
    rw [widen_widen v h, widenAll_widenAll vs h]

theorem widenFields_widenFields : ∀ (vs : List Value) {f g : List (Field DataType)},
    FieldsBelow f g → widenFields (widenFields vs f) g = widenFields vs g
  | [], _, _, _ => by simp [widenFields]
  | v :: vs, _, _, .nil => by simp [widenFields]
  | v :: vs, _, _, .typed h rest => by
    simp only [widenFields]
    rw [widen_widen v (.known h), widenFields_widenFields vs rest]
  | v :: vs, _, _, .untyped rest => by
    simp only [widenFields]
    rw [widen_widen v (.unknown _), widenFields_widenFields vs rest]

end

/-- Widening is sound and composes along coercions. -/
theorem widen_along_coercions {s t u : ColumnType} (hst : coerce s t = .ok t)
    (htu : coerce t u = .ok u) {v : Value} (hv : v.conforms s) :
    (v.widen t).conforms t ∧ v.widen s = v ∧ (v.widen t).widen u = v.widen u :=
  have below_st : ColumnType.Below s t := (below_coerce hst).1
  have below_tu : ColumnType.Below t u := (below_coerce htu).1
  ⟨conforms_widen below_st hv, widen_of_conforms hv, widen_widen v below_tu⟩

/-- A struct whose fields lack names, a type, or both, on the way from integers to doubles. -/
theorem widen_along_coercions_struct :
    let s : ColumnType := some (.struct [⟨none, some .integer⟩,
      ⟨none, some (.array .integer)⟩, ⟨none, none⟩])
    let t : ColumnType := some (.struct [⟨some "a", some .float⟩,
      ⟨none, some (.array .integer)⟩, ⟨none, some .string⟩])
    let u : ColumnType := some (.struct [⟨some "a", some .float⟩,
      ⟨some "b", some (.array .float)⟩, ⟨none, some .string⟩])
    let v : Value := .struct [.integer 1, .array [.integer 2, .null], .null]
    (coerce s t = .ok t ∧ coerce t u = .ok u ∧ v.conforms s) ∧
      (v.widen t).conforms t ∧ v.widen s = v ∧
      (v.widen t).widen u = .struct [.float (floatOfInteger 1),
        .array [.float (floatOfInteger 2), .null], .null] := by
  intro s t u v
  have hst : coerce s t = .ok t := rfl
  have htu : coerce t u = .ok u := rfl
  obtain ⟨hsound, hself, hstep⟩ := widen_along_coercions hst htu (v := v) rfl
  exact ⟨⟨hst, htu, rfl⟩, hsound, hself, hstep⟩

end Value

/-! ## Columns -/

namespace Column

theorem Typed.widen_eq {c : Column} (h : c.Typed) (t : ColumnType) :
    c.widen t = ⟨c.values.map (·.widen t), t⟩ := by
  unfold Column.widen
  split
  · next ht =>
    have hvalues : c.values.map (·.widen t) = c.values := by
      rw [List.map_congr_left fun v hv => Value.widen_of_conforms (ht ▸ h v hv), List.map_id']
    rw [hvalues, ← ht]
  · rfl

end Column

end ColumnarSql
