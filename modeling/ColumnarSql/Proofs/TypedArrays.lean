import ColumnarSql.Expr.Build
import ColumnarSql.Proofs.Coercion
import ColumnarSql.Proofs.Masks
import ColumnarSql.Proofs.ResultShapes

/-!
# Arrays of a declared type

An array of a declared element type accepts elements that are no arrays themselves, have a common
type that coerces to the declared one, and have a common shape. Each row then is the array of the
elements of this row, widened (`Evaluated.ArrayOf`). The empty array has one element, the constant
`1`, which gives its number of rows and is checked as all elements are. So the empty array is
accepted exactly under the types that INTEGER coerces to (`Expr.eval_arrayOf_declared`).
-/

set_option autoImplicit false

namespace ColumnarSql

/-! ## Declared element types -/

namespace ColumnType

theorem coercesTo_iff_coerce {u : ColumnType} {t : DataType} :
    coercesTo u t ↔ coerce (some t) u = .ok (some t) := by
  unfold coercesTo coerce
  rw [decide_eq_true_iff]
  split <;> simp [*]

/-- INTEGER coerces to itself and to FLOAT. -/
theorem coercesTo_integer_iff {t : DataType} :
    coercesTo (some .integer) t ↔ t = .integer ∨ t = .float := by
  cases t with
  | scalar s => cases s <;> decide
  | array t | struct fs => simp [coercesTo, common?, DataType.common?]

end ColumnType

namespace Evaluated

variable {σ : Type} {e : Expr σ} {t : DataType}

/-- The checks under a declared type, in their order. -/
theorem elementType_declared (t : DataType) (types : List ColumnType) :
    elementType (some t) types =
      if (some t :: types).any fun u => u.any DataType.isArray then .error .nestedArray
      else ColumnType.coerceAll types >>= fun u =>
        if ColumnType.coercesTo u t then .ok t else .error (.arrayElementType t u) := by
  unfold elementType
  split <;> rfl

theorem elementType_declared_eq_ok_iff {d : DataType} {types : List ColumnType} :
    elementType (some t) types = .ok d ↔
      (t.isArray = false ∧ ∀ u ∈ types, u.any DataType.isArray = false) ∧
        (∃ u, ColumnType.coerceAll types = .ok u ∧ ColumnType.coerce (some t) u = .ok (some t)) ∧
          t = d := by
  simp only [elementType_declared, error_ite_eq_ok, bind_eq_ok, ite_error_eq_ok, Except.ok.injEq,
    ColumnType.coercesTo_iff_coerce, List.any_eq_true, not_exists, not_and, Bool.not_eq_true,
    List.forall_mem_cons, Option.any_some, exists_and_right, ← and_assoc]

/-- The array with a row of elements in each row, under the declared type of the elements. -/
structure ArrayOf (t : DataType) (args : List Evaluated) (a : Evaluated) : Prop where
  noArray : ∀ x ∈ args, x.type.any DataType.isArray = false
  coerces : ∃ u, ColumnType.coerceAll (args.map type) = .ok u ∧
    ColumnType.coerce (some t) u = .ok (some t)
  shape_eq : Shape.joinAll? (args.map shape) = some a.shape
  type_eq : a.type = some (.array t)
  cell_eq : ∀ i, a.shape.HasRow i →
    a.cell i = .array (args.map fun x => (x.cell i).widen (some t))

/-- A result is made of its shape, its type and the values of its rows. -/
theorem fill_shape (a : Evaluated) : a.shape.fill a.type a.cell = a := by
  cases a with
  | constant v t => rfl
  | column c | grouped level c groups =>
    have hvalues : (List.range c.length).map c.cell = c.values := c.values_eq.symm
    simp only [shape, Shape.fill, type, cell, hvalues]

theorem arrayValue_row (t : DataType) (args : List Evaluated) (i : Nat) :
    arrayValue t false (row args i) = .array (args.map fun x => (x.cell i).widen (some t)) := by
  simp [arrayValue, row, Value.widenAll_eq_map, Function.comp_def]

theorem array_declared_eq_ok_iff {args : List Evaluated} {a : Evaluated} :
    array e (some t) false args = .ok a ↔ t.isArray = false ∧ ArrayOf t args a := by
  simp only [array, bind_eq_ok, elementType_declared_eq_ok_iff, List.forall_mem_map,
    mapRows_eq_ok_iff]
  constructor
  · rintro ⟨_, ⟨⟨ht, hargs⟩, hcoerces, rfl⟩, s, hs, rfl⟩
    refine ⟨ht, hargs, hcoerces, by rw [Shape.shape_fill, hs], Shape.type_fill _ _ s, ?_⟩
    intro i hi
    rw [Shape.shape_fill] at hi
    rw [cell_fill_row _ (arrayValue t false) hs hi, arrayValue_row]
  · rintro ⟨ht, h⟩
    refine ⟨t, ⟨⟨ht, h.noArray⟩, h.coerces, rfl⟩, a.shape, h.shape_eq, ?_⟩
    calc a.shape.fill (some (.array t)) (fun i => arrayValue t false (row args i))
        = a.shape.fill (some (.array t)) a.cell :=
          Shape.fill_congr fun i hi => by rw [arrayValue_row, h.cell_eq i hi]
      _ = a := by rw [← h.type_eq, fill_shape]

/-- The empty array is a constant, once the constant that sizes it is accepted. -/
theorem array_sized (v : Value) :
    array e (some t) true [.constant v (some .integer)] =
      (elementType (some t) [some .integer]).map fun d =>
        .constant (.array []) (some (.array d)) := by
  cases h : elementType (some t) [some .integer] with
  | error err => simp [array, type, h, bind, Except.bind, Except.map]
  | ok d =>
    simp only [array, type, List.map_cons, List.map_nil, h]
    rfl

/-- An INTEGER is an element under INTEGER and FLOAT. -/
theorem elementType_integer (t : DataType) :
    elementType (some t) [some .integer] =
      if t = .integer ∨ t = .float then .ok t
      else if t.isArray then .error .nestedArray
      else .error (.arrayElementType t (some .integer)) := by
  have hnested : [some t, some .integer].any (fun u => u.any DataType.isArray) = t.isArray := by
    simp [DataType.isArray]
  have hcommon : ColumnType.coerceAll [some .integer] = .ok (some .integer) := rfl
  rw [elementType_declared, hnested, hcommon]
  simp only [bind, Except.bind, ColumnType.coercesTo_integer_iff]
  by_cases ht : t = .integer ∨ t = .float
  · have harray : t.isArray = false := by
      rcases ht with rfl | rfl <;> rfl
    simp [ht, harray]
  · simp [ht]

end Evaluated

/-! ## Array literals -/

namespace Expr

/-- An array of a declared element type is accepted exactly if the type is no array and accepts the
elements. Without elements the sizing constant is the only one, so the types are INTEGER and
FLOAT. -/
theorem eval_arrayOf_declared (now : Moment) (s : Scope) (t : DataType) :
    (∀ es : List (Expr Plan), ∀ a : Evaluated, (arrayOf (some t) (some es)).eval now s = .ok a ↔
        t.isArray = false ∧ ∃ args, evalAll now es s = .ok args ∧ Evaluated.ArrayOf t args a) ∧
      (arrayOf (some t) none).eval now s =
        if t = .integer ∨ t = .float then .ok (.constant (.array []) (some (.array t)))
        else if t.isArray then .error .nestedArray
        else .error (.arrayElementType t (some .integer)) := by
  constructor
  · intro es a
    simp only [arrayOf, eval, bind_eq_ok, Evaluated.array_declared_eq_ok_iff]
    constructor
    · rintro ⟨args, hargs, ht, h⟩
      exact ⟨ht, args, hargs, h⟩
    · rintro ⟨ht, args, hargs, h⟩
      exact ⟨args, hargs, ht, h⟩
  · have hsized : (arrayOf (some t) none).eval now s =
        (Evaluated.elementType (some t) [some .integer]).map fun d =>
          .constant (.array []) (some (.array d)) := Evaluated.array_sized (.integer 1)
    rw [hsized, Evaluated.elementType_integer]
    split_ifs <;> rfl

/-- The empty array of strings is refused, for values of type INTEGER that it does not have. -/
theorem empty_array_of_strings :
    let now : Moment := .ofDate ⟨2024, 1, 1, by decide⟩
    let s : Scope := ⟨.ofRows 1, []⟩
    (arrayOf (some .string) none).eval now s = .error (.arrayElementType .string (some .integer)) ∧
      ¬∃ a, (arrayOf (some .string) none).eval now s = .ok a := by
  intro now s
  have herror : (arrayOf (some .string) none).eval now s =
      .error (.arrayElementType .string (some .integer)) := rfl
  refine ⟨herror, ?_⟩
  rintro ⟨a, ha⟩
  simp [herror] at ha

end Expr

end ColumnarSql
