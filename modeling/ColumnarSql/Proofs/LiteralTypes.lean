import ColumnarSql.Expr.Build
import ColumnarSql.Proofs.Coercion

/-!
# Types of constants

A constant has the type inferred from it, and an array takes the type of its first element that
has one. NULL and arrays of nothing else, however nested, have no type
(`Value.inferType_eq_none_iff`). Another element belongs to the type of the first if the first
shows a type wherever the other holds a value (`Value.Informs`), and this is necessary
(`Value.informs_iff`). So a constant that informs itself stands under a type that it belongs to
(`Literal.ofValue_conforms`).
-/

set_option autoImplicit false

namespace ColumnarSql

namespace Value

/-! ## Values without a type -/

mutual

/-- NULL, and arrays of such values only. -/
def isUntyped : Value → Bool
  | .null => true
  | .array vs => areUntyped vs
  | _ => false

def areUntyped : List Value → Bool
  | [] => true
  | v :: vs => v.isUntyped && areUntyped vs

end

mutual

theorem inferType_eq_none_iff : ∀ v : Value, v.inferType = none ↔ v.isUntyped
  | .null => by simp [inferType, isUntyped, scalarType?]
  | .array vs => by simp [inferType, isUntyped, inferFirst_eq_none_iff vs]
  | .struct vs => by simp [inferType, isUntyped]
  | .boolean _ | .integer _ | .float _ | .string _ | .bytes _ | .date _ | .datetime _
  | .timestamp _ => by simp [inferType, isUntyped, scalarType?]

theorem inferFirst_eq_none_iff : ∀ vs : List Value, inferFirst vs = none ↔ areUntyped vs
  | [] => by simp [inferFirst, areUntyped]
  | v :: vs => by
    simp [inferFirst, areUntyped, inferType_eq_none_iff v, inferFirst_eq_none_iff vs]

end

/-! ## Values that show the types of others -/

mutual

/-- The first value has a type wherever the second has a value: in an array this is up to the
first element that has a type, in a struct to each field. -/
def informs : Value → Value → Bool
  | _, .null => true
  | .null, _ => false
  | .array ws, .array us => firstInforms ws us
  | .struct ws, .struct us => fieldsInform ws us
  | _, _ => true

/-- The first element that has a type informs all values. -/
def firstInforms : List Value → List Value → Bool
  | [], _ => false
  | w :: ws, us => if w.isUntyped then firstInforms ws us else us.all fun u => w.informs u

def fieldsInform : List Value → List Value → Bool
  | w :: ws, u :: us => w.informs u && fieldsInform ws us
  | _, _ => true

end

section first

variable {w : Value} {ws us : List Value}

theorem inferFirst_of_untyped (h : w.inferType = none) :
    inferFirst (w :: ws) = inferFirst ws := by
  rw [inferFirst, h, Option.none_or]

theorem inferFirst_of_typed {t : DataType} (h : w.inferType = some t) :
    inferFirst (w :: ws) = some t := by
  rw [inferFirst, h, Option.some_or]

theorem firstInforms_of_untyped (h : w.inferType = none) :
    firstInforms (w :: ws) us = firstInforms ws us := by
  rw [firstInforms, if_pos ((inferType_eq_none_iff w).mp h)]

theorem firstInforms_of_typed {t : DataType} (h : w.inferType = some t) :
    firstInforms (w :: ws) us ↔ ∀ u ∈ us, w.informs u := by
  have htyped : ¬w.isUntyped := by
    rw [← inferType_eq_none_iff w, h]
    exact Option.some_ne_none t
  rw [firstInforms, if_neg htyped, List.all_eq_true]

end first

/-- A scalar informs the values of its type. -/
theorem informs_scalar_iff {w u : Value} {s : ScalarType} (hw : w.scalarType? = some s)
    (hu : u.conforms (some (.scalar s))) : w.informs u ↔ u.conforms w.inferType := by
  have hinfer : w.inferType = some (.scalar s) := by
    cases w <;> simp_all [inferType, scalarType?]
  rw [hinfer]
  cases w <;> cases u <;> simp_all [informs, scalarType?]

mutual

/-- Among values of one type, those that a value informs are those of its inferred type. -/
theorem informs_iff : ∀ (w u : Value) (t : ColumnType), w.conforms t → u.conforms t →
    (w.informs u ↔ u.conforms w.inferType)
  | .null, u, _, _, _ => by cases u <;> simp [informs, inferType, scalarType?, conforms]
  | .array ws, u, t, hw, hu => by
    match t with
    | some (.array t) =>
      cases u with
      | null => simp [informs]
      | array us => exact firstInforms_iff ws us (some t) hw hu
      | _ => simp [conforms] at hu
    | none | some (.scalar _) | some (.struct _) => simp [conforms, scalarType?] at hw
  | .struct ws, u, t, hw, hu => by
    match t with
    | some (.struct fs) =>
      cases u with
      | null => simp [informs]
      | struct us => exact fieldsInform_iff ws us fs hw hu
      | _ => simp [conforms] at hu
    | none | some (.scalar _) | some (.array _) => simp [conforms, scalarType?] at hw
  | .boolean b, u, t, hw, hu | .integer i, u, t, hw, hu | .float x, u, t, hw, hu
  | .string s, u, t, hw, hu | .bytes b, u, t, hw, hu | .date d, u, t, hw, hu
  | .datetime m, u, t, hw, hu | .timestamp m, u, t, hw, hu => by
    match t with
    | some (.scalar s) =>
      exact informs_scalar_iff ((conforms_scalar.mp hw).resolve_left nofun) hu
    | none | some (.array _) | some (.struct _) => simp [conforms] at hw

theorem firstInforms_iff : ∀ (ws us : List Value) (t : ColumnType), conformsAll ws t →
    conformsAll us t → (firstInforms ws us ↔ (array us).conforms ((inferFirst ws).map .array))
  | [], us, _, _, _ => by simp [firstInforms, inferFirst, conforms]
  | w :: ws, us, t, hws, hus => by
    simp only [conformsAll, Bool.and_eq_true] at hws
    cases hw : w.inferType with
    | none =>
      rw [firstInforms_of_untyped hw, inferFirst_of_untyped hw]
      exact firstInforms_iff ws us t hws.2 hus
    | some s =>
      rw [firstInforms_of_typed hw, inferFirst_of_typed hw]
      refine Iff.trans ?_ conformsAll_iff.symm
      exact forall₂_congr fun u hu => hw ▸ informs_iff w u t hws.1 (conformsAll_iff.mp hus u hu)

theorem fieldsInform_iff : ∀ (ws us : List Value) (fs : List (Field DataType)),
    conformsFields ws fs → conformsFields us fs →
      (fieldsInform ws us ↔ conformsFields us (inferFields ws))
  | [], [], _, _, _ => by simp [fieldsInform, inferFields, conformsFields]
  | w :: ws, u :: us, f :: fs, hws, hus => by
    simp only [conformsFields, Bool.and_eq_true] at hws hus
    simp only [fieldsInform, inferFields, conformsFields, Bool.and_eq_true,
      informs_iff w u f.type hws.1 hus.1, fieldsInform_iff ws us fs hws.2 hus.2]
  | [], _ :: _, [], _, hus => by simp [conformsFields] at hus
  | [], _ :: _, _ :: _, hws, _ => by simp [conformsFields] at hws
  | _ :: _, [], [], hws, _ => by simp [conformsFields] at hws
  | _ :: _, [], _ :: _, _, hus => by simp [conformsFields] at hus
  | _ :: _, _ :: _, [], hws, _ => by simp [conformsFields] at hws

end

/-- A value belongs to its inferred type if it informs itself. -/
theorem conforms_inferType {v : Value} {t : ColumnType} (hv : v.conforms t) (h : v.informs v) :
    v.conforms v.inferType :=
  (informs_iff v v t hv hv).mp h

/-- Only NULL has the unknown type. -/
theorem inferType_ne_none_of_conforms {v : Value} (h : v.conforms v.inferType)
    (hnull : v.isNull = false) : v.inferType ≠ none := by
  intro hnone
  rw [hnone] at h
  cases v <;> simp [conforms, isNull] at h hnull

end Value

/-! ## Constants -/

namespace Literal

variable {σ : Type}

/-- A constant of some type has no inferred type only if it is an array of NULLs and of arrays
of nothing else. If it informs itself, it belongs to the type that it gets, and is accepted
under it. -/
theorem ofValue_conforms {v : Value} {t : ColumnType} (hv : v.conforms t)
    (hnull : v.isNull = false) :
    ((ofValue v).type = none ↔ v.isUntyped) ∧
      (v.informs v → ∃ s, (Expr.ofValue v : Expr σ) = .literal ⟨v, some s⟩ ∧
        v.conforms (some s) ∧ typed v (some s) = .ok ⟨v, some s⟩) := by
  refine ⟨Value.inferType_eq_none_iff v, fun h => ?_⟩
  have hconforms := Value.conforms_inferType hv h
  obtain ⟨s, hs⟩ := Option.ne_none_iff_exists'.mp
    (Value.inferType_ne_none_of_conforms hconforms hnull)
  rw [hs] at hconforms
  refine ⟨s, ?_, hconforms, ?_⟩
  · rw [Expr.ofValue, ofValue, hs]
  · simp [typed, hnull, hconforms]

/-- `[NULL, (1, [NULL, "a"]), (NULL, [])]` -/
def mixedArray : Value :=
  .array [.null, .struct [.integer 1, .array [.null, .string "a"]], .struct [.null, .array []]]

theorem ofValue_conforms_mixedArray :
    (mixedArray.conforms (some (.array (.struct [⟨none, some (.scalar .integer)⟩,
        ⟨none, some (.array (.scalar .string))⟩]))) ∧
      mixedArray.isNull = false ∧ mixedArray.informs mixedArray) ∧
    ∃ s, (Expr.ofValue mixedArray : Expr Empty) = .literal ⟨mixedArray, some s⟩ ∧
      mixedArray.conforms (some s) ∧
      typed mixedArray (some s) = .ok ⟨mixedArray, some s⟩ := by
  have hconforms : mixedArray.conforms (some (.array (.struct [⟨none, some (.scalar .integer)⟩,
      ⟨none, some (.array (.scalar .string))⟩]))) := rfl
  have hinforms : mixedArray.informs mixedArray := rfl
  exact ⟨⟨hconforms, rfl, hinforms⟩, (ofValue_conforms hconforms rfl).2 hinforms⟩

/-- The empty array belongs to every array type and is a constant without a type. -/
theorem ofValue_empty_array :
    (Value.array []).conforms (some (.array (.scalar .integer))) ∧
      (Value.array []).isNull = false ∧ (ofValue (.array [])).type = none ∧
      typed (.array []) (ofValue (.array [])).type =
        .error (.literalNullness (.array []) none) :=
  ⟨rfl, rfl, rfl, rfl⟩

-- `[(1, NULL), (2, "a")]` has a type, but gets one that it does not belong to: its first element
-- does not show the type of the second field.
example :
    let v : Value := .array [.struct [.integer 1, .null], .struct [.integer 2, .string "a"]]
    v.conforms (some (.array (.struct [⟨none, some .integer⟩, ⟨none, some .string⟩]))) ∧
      (ofValue v).type = some (.array (.struct [⟨none, some .integer⟩, ⟨none, none⟩])) ∧
      v.conforms (ofValue v).type = false ∧ v.informs v = false :=
  ⟨rfl, rfl, rfl, rfl⟩

end Literal

end ColumnarSql
