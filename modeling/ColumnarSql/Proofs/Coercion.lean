import ColumnarSql.DataType.Coercion
import ColumnarSql.Value.Basic

/-!
# The order of coercion

A type is below another one when its values, widened, are values of the other: a number
type below FLOAT, arrays by element, structs field by field, and the unknown type below
everything (`conforms_widen`). A common type is above both of its sides (`below_common?`),
so values of every type in a list belong, widened, to the common type of the list.
-/

set_option autoImplicit false

namespace ColumnarSql

namespace DataType

mutual

/-- Values of the first type are, widened, values of the second. -/
inductive Below : DataType → DataType → Prop where
  | same (s : ScalarType) : Below (.scalar s) (.scalar s)
  | number {s : ScalarType} (h : s.isNumeric) : Below (.scalar s) .float
  | array {a b : DataType} (h : Below a b) : Below (.array a) (.array b)
  | struct {f g : List (Field DataType)} (h : FieldsBelow f g) : Below (.struct f) (.struct g)

/-- Field by field, whatever the names; a field without a type is below every field. -/
inductive FieldsBelow : List (Field DataType) → List (Field DataType) → Prop where
  | nil : FieldsBelow [] []
  | typed {n m : Option String} {a b : DataType} {f g : List (Field DataType)} (h : Below a b)
      (rest : FieldsBelow f g) : FieldsBelow (⟨n, some a⟩ :: f) (⟨m, some b⟩ :: g)
  | untyped {n m : Option String} {t : Option DataType} {f g : List (Field DataType)}
      (rest : FieldsBelow f g) : FieldsBelow (⟨n, none⟩ :: f) (⟨m, t⟩ :: g)

end

mutual

theorem Below.refl : ∀ a : DataType, a.Below a
  | .scalar s => .same s
  | .array a => .array (Below.refl a)
  | .struct f => .struct (FieldsBelow.refl f)

theorem FieldsBelow.refl : ∀ f : List (Field DataType), FieldsBelow f f
  | [] => .nil
  | ⟨_, some a⟩ :: f => .typed (Below.refl a) (FieldsBelow.refl f)
  | ⟨_, none⟩ :: f => .untyped (FieldsBelow.refl f)

end

mutual

theorem Below.trans : ∀ {a b c : DataType}, a.Below b → b.Below c → a.Below c
  | _, _, _, .same _, h => h
  | _, _, _, .number hs, .same _ => .number hs
  | _, _, _, .number hs, .number _ => .number hs
  | _, _, _, .array h, .array h' => .array (h.trans h')
  | _, _, _, .struct h, .struct h' => .struct (h.trans h')

theorem FieldsBelow.trans : ∀ {f g h : List (Field DataType)},
    FieldsBelow f g → FieldsBelow g h → FieldsBelow f h
  | _, _, _, .nil, .nil => .nil
  | _, _, _, .typed h rest, .typed h' rest' => .typed (h.trans h') (rest.trans rest')
  | _, _, _, .untyped rest, .typed _ rest' => .untyped (rest.trans rest')
  | _, _, _, .untyped rest, .untyped rest' => .untyped (rest.trans rest')

end

mutual

/-- A common type is above both sides. -/
theorem below_common? : ∀ {a b c : DataType}, a.common? b = some c → a.Below c ∧ b.Below c
  | .scalar s, .scalar t, c, h => by
    unfold common? at h
    split at h
    · next hst =>
      obtain rfl := Option.some.inj h
      exact ⟨.same s, hst ▸ .same s⟩
    · split at h
      · next hnumeric =>
        obtain rfl := Option.some.inj h
        rw [Bool.and_eq_true] at hnumeric
        exact ⟨.number hnumeric.1, .number hnumeric.2⟩
      · simp at h
  | .array a, .array b, c, h => by
    simp only [common?, Option.map_eq_some_iff] at h
    obtain ⟨d, hd, rfl⟩ := h
    obtain ⟨ha, hb⟩ := below_common? hd
    exact ⟨.array ha, .array hb⟩
  | .struct f, .struct g, c, h => by
    simp only [common?, Option.map_eq_some_iff] at h
    obtain ⟨d, hd, rfl⟩ := h
    obtain ⟨hf, hg⟩ := below_commonFields? hd
    exact ⟨.struct hf, .struct hg⟩
  | .scalar _, .array _, _, h | .scalar _, .struct _, _, h | .array _, .scalar _, _, h
  | .array _, .struct _, _, h | .struct _, .scalar _, _, h | .struct _, .array _, _, h => by
    simp [common?] at h

theorem below_commonFields? : ∀ {f g h : List (Field DataType)},
    commonFields? f g = some h → FieldsBelow f h ∧ FieldsBelow g h
  | [], [], h, heq => by
    obtain rfl := Option.some.inj heq
    exact ⟨.nil, .nil⟩
  | ⟨n, some a⟩ :: f, ⟨m, some b⟩ :: g, h, heq => by
    simp only [commonFields?, Option.bind_eq_bind, Option.bind_eq_some_iff, Option.pure_def,
      Option.some.injEq] at heq
    obtain ⟨-, -, c, hc, rest, hrest, rfl⟩ := heq
    obtain ⟨ha, hb⟩ := below_common? hc
    obtain ⟨hf, hg⟩ := below_commonFields? hrest
    exact ⟨.typed ha hf, .typed hb hg⟩
  | ⟨n, some a⟩ :: f, ⟨m, none⟩ :: g, h, heq => by
    simp only [commonFields?, Option.bind_eq_bind, Option.bind_eq_some_iff, Option.pure_def,
      Option.some.injEq] at heq
    obtain ⟨-, -, rest, hrest, rfl⟩ := heq
    obtain ⟨hf, hg⟩ := below_commonFields? hrest
    exact ⟨.typed (Below.refl a) hf, .untyped hg⟩
  | ⟨n, none⟩ :: f, ⟨m, b⟩ :: g, h, heq => by
    simp only [commonFields?, Option.bind_eq_bind, Option.bind_eq_some_iff, Option.pure_def,
      Option.some.injEq] at heq
    obtain ⟨-, -, rest, hrest, rfl⟩ := heq
    obtain ⟨hf, hg⟩ := below_commonFields? hrest
    refine ⟨.untyped hf, ?_⟩
    cases b with
    | none => exact .untyped hg
    | some b => exact .typed (Below.refl b) hg
  | [], _ :: _, _, heq | _ :: _, [], _, heq => by simp [commonFields?] at heq

end

end DataType

/-! ## Column types -/

namespace ColumnType

/-- The order of column types; the unknown type is below all. -/
inductive Below : ColumnType → ColumnType → Prop where
  | unknown (t : ColumnType) : Below none t
  | known {a b : DataType} (h : a.Below b) : Below (some a) (some b)

theorem Below.refl : ∀ t : ColumnType, Below t t
  | none => .unknown none
  | some a => .known (.refl a)

theorem Below.trans : ∀ {s t u : ColumnType}, Below s t → Below t u → Below s u
  | _, _, _, .unknown _, _ => .unknown _
  | _, _, _, .known h, .known h' => .known (h.trans h')

theorem below_common? : ∀ {s t u : ColumnType}, common? s t = some u → Below s u ∧ Below t u
  | none, t, u, h => by
    obtain rfl := Option.some.inj h
    exact ⟨.unknown t, .refl t⟩
  | some s, none, u, h => by
    obtain rfl := Option.some.inj h
    exact ⟨.refl _, .unknown _⟩
  | some s, some t, u, h => by
    simp only [common?, Option.map_eq_some_iff] at h
    obtain ⟨c, hc, rfl⟩ := h
    obtain ⟨hs, ht⟩ := DataType.below_common? hc
    exact ⟨.known hs, .known ht⟩

theorem below_coerce {s t u : ColumnType} (h : coerce s t = .ok u) : Below s u ∧ Below t u := by
  unfold coerce at h
  split at h
  · next v hv =>
    obtain rfl := Except.ok.inj h
    exact below_common? hv
  · simp at h

theorem below_commonFrom? : ∀ {t u : ColumnType} {us : List ColumnType},
    commonFrom? t us = some u → Below t u ∧ ∀ v ∈ us, Below v u
  | t, u, [], h => by
    obtain rfl := Option.some.inj h
    exact ⟨.refl t, by simp⟩
  | t, u, v :: us, h => by
    simp only [commonFrom?, Option.bind_eq_some_iff] at h
    obtain ⟨w, hw, h⟩ := h
    obtain ⟨ht, hv⟩ := below_common? hw
    obtain ⟨hwu, hus⟩ := below_commonFrom? h
    exact ⟨ht.trans hwu, List.forall_mem_cons.mpr ⟨hv.trans hwu, hus⟩⟩

/-- The common type of a list is above each of its types. -/
theorem below_coerceAll {ts : List ColumnType} {t u : ColumnType} (h : coerceAll ts = .ok u)
    (ht : t ∈ ts) : Below t u := by
  unfold coerceAll at h
  split at h
  · next v hv =>
    obtain rfl := Except.ok.inj h
    exact (below_commonFrom? hv).2 t ht
  · simp at h

theorem below_of_coercesTo {t : ColumnType} {d : DataType} (h : coercesTo t d) :
    Below t (some d) :=
  (below_common? (of_decide_eq_true h)).2

end ColumnType

/-! ## Widened values -/

namespace Value

open ColumnType DataType

@[simp] theorem conforms_null (t : ColumnType) : null.conforms t := by
  cases t <;> simp [conforms]

/-- The unknown type holds nothing but NULL. -/
theorem conforms_unknown {v : Value} (h : v.conforms none) : v = .null := by
  cases v <;> simp_all [conforms]

/-- A value of a scalar type is NULL or has that scalar type. -/
theorem conforms_scalar {v : Value} {s : ScalarType} :
    v.conforms (some (.scalar s)) ↔ v = .null ∨ v.scalarType? = some s := by
  cases v <;> simp [conforms, scalarType?]

theorem widen_of_scalarType {v : Value} {s : ScalarType} (h : v.scalarType? = some s) :
    v.widen (some (.scalar s)) = v := by
  cases v with
  | null | array vs | struct vs => simp [scalarType?] at h
  | _ =>
    obtain rfl := Option.some.inj h
    rfl

theorem conforms_widen_scalar {v : Value} {s t : ScalarType}
    (h : DataType.Below (.scalar s) (.scalar t)) (hv : v.scalarType? = some s) :
    (v.widen (some (.scalar t))).conforms (some (.scalar t)) := by
  cases h with
  | same => exact conforms_scalar.mpr (.inr (by rw [widen_of_scalarType hv, hv]))
  | number hs =>
    cases v with
    | null | array vs | struct vs => simp [scalarType?] at hv
    | integer i => rfl
    | float x => rfl
    | _ =>
      obtain rfl := Option.some.inj hv
      simp [ScalarType.isNumeric] at hs

theorem conformsAll_iff {t : ColumnType} {vs : List Value} :
    conformsAll vs t ↔ ∀ v ∈ vs, v.conforms t := by
  induction vs with
  | nil => simp [conformsAll]
  | cons v vs ih => simp [conformsAll, ih]

theorem widenAll_eq_map (t : ColumnType) (vs : List Value) :
    widenAll vs t = vs.map (·.widen t) := by
  induction vs with
  | nil => rfl
  | cons v vs ih => simp [widenAll, ih]

mutual

/-- A value belongs, widened, to every type above its own. -/
theorem conforms_widen : ∀ {v : Value} {s t : ColumnType}, ColumnType.Below s t →
    v.conforms s → (v.widen t).conforms t
  | .null, _, t, _, _ => by simp [widen]
  | .array vs, some (.array a), some (.array b), .known (.array h), hv => by
    simp only [conforms, widen] at hv ⊢
    exact conformsAll_widenAll (.known h) hv
  | .struct vs, some (.struct f), some (.struct g), .known (.struct h), hv => by
    simp only [conforms, widen] at hv ⊢
    exact conformsFields_widenFields h hv
  | v, some (.scalar s), some (.scalar t), .known h, hv => by
    rcases conforms_scalar.mp hv with rfl | hv
    · simp [widen]
    · exact conforms_widen_scalar h hv

theorem conformsAll_widenAll : ∀ {vs : List Value} {s t : ColumnType}, ColumnType.Below s t →
    conformsAll vs s → conformsAll (widenAll vs t) t
  | [], _, _, _, _ => rfl
  | v :: vs, s, t, h, hv => by
    simp only [conformsAll, widenAll, Bool.and_eq_true] at hv ⊢
    exact ⟨conforms_widen h hv.1, conformsAll_widenAll h hv.2⟩

theorem conformsFields_widenFields : ∀ {vs : List Value} {f g : List (Field DataType)},
    FieldsBelow f g → conformsFields vs f → conformsFields (widenFields vs g) g
  | [], _, _, .nil, _ => rfl
  | v :: vs, _, _, .typed h rest, hv => by
    simp only [conformsFields, widenFields, Bool.and_eq_true] at hv ⊢
    exact ⟨conforms_widen (.known h) hv.1, conformsFields_widenFields rest hv.2⟩
  | v :: vs, _, _, .untyped rest, hv => by
    simp only [conformsFields, widenFields, Bool.and_eq_true] at hv ⊢
    exact ⟨conforms_widen (.unknown _) hv.1, conformsFields_widenFields rest hv.2⟩

end

end Value

end ColumnarSql
