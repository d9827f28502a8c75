import ColumnarSql.Proofs.Coercion
import ColumnarSql.Proofs.Kernel

/-!
# The types of operations

Every operation states the type of its result and computes its values apart from each
other. For each of them the values belong to the type when the operands belong to theirs,
and `kernel_sound` puts them together: a row of the operand types gives a value of the
kernel's type.
-/

set_option autoImplicit false

namespace ColumnarSql

/-- Values that belong to the types at their places. -/
abbrev Conforming (row : List Value) (types : List ColumnType) : Prop :=
  List.Forall₂ (fun v t => v.conforms t) row types

/-! ## Numbers -/

/-- The numeric types, with that of NULL. -/
theorem OperandClass.admits_numeric {t : ColumnType} (h : numeric.admits t) :
    t = none ∨ t = some .integer ∨ t = some .float := by
  rcases t with _ | ⟨⟨s⟩⟩ <;> simp_all [admits, members, DataType.scalar?]

namespace Value

/-- A value of a number type is NULL, an integer of INTEGER or a double of FLOAT. -/
theorem number_cases {v : Value} {t : ColumnType} (ht : OperandClass.numeric.admits t)
    (hv : v.conforms t) :
    v = .null ∨ (∃ i, v = .integer i ∧ t = some .integer) ∨
      ∃ x, v = .float x ∧ t = some .float := by
  rcases OperandClass.admits_numeric ht with rfl | rfl | rfl
  · exact .inl (conforms_unknown hv)
  · cases v <;> simp_all [conforms, scalarType?]
  · cases v <;> simp_all [conforms, scalarType?]

end Value

namespace ColumnType

theorem coerce_integers : coerce (some .integer) (some .integer) = .ok (some .integer) := rfl

/-- A common type with FLOAT on one side is FLOAT. -/
theorem eq_float_of_below {t : ColumnType} (h : Below (some .float) t) : t = some .float := by
  cases h with
  | known h => cases h <;> rfl

end ColumnType

namespace BinaryOp

/-- Arithmetic takes numbers and gives their common type; a quotient is a double. -/
theorem resultType_arithmetic {op : BinaryOp} {l r t : ColumnType} (hop : op.isArithmetic)
    (ht : op.resultType l r = .ok t) :
    OperandClass.numeric.admits l ∧ OperandClass.numeric.admits r ∧
      (op = div ∧ some .float = t ∨ op ≠ div ∧ l.coerce r = .ok t) := by
  cases op <;> simp_all [isArithmetic, resultType, operandClass?, typeOfAccepted]

/-- Arithmetic of doubles gives doubles. -/
theorem floatArithmetic_sound {op : BinaryOp} {x y : Float} {v : Value}
    (hv : op.floatArithmetic x y = .ok v) : v.conforms (some .float) := by
  unfold floatArithmetic at hv
  split at hv
  · simp at hv
  · obtain rfl := Except.ok.inj hv
    rfl

/-- Arithmetic of integers gives integers, and quotients of integers are doubles. -/
theorem integerArithmetic_sound {op : BinaryOp} {x y : Int64} {v : Value}
    (hv : op.arithmetic (.integer x) (.integer y) = .ok v) :
    v.conforms (some (if op = div then .float else .integer)) := by
  unfold arithmetic at hv
  simp only at hv
  split at hv
  · next hop =>
    split at hv
    · simp at hv
    · obtain rfl := Except.ok.inj hv
      rw [if_pos hop]
      rfl
  · next hop =>
    split at hv
    · obtain rfl := Except.ok.inj hv
      rw [if_neg hop]
      rfl
    · simp at hv

/-- Arithmetic gives values of its result type. -/
theorem arithmetic_sound {op : BinaryOp} {l r t : ColumnType} (hop : op.isArithmetic)
    (ht : op.resultType l r = .ok t) {a b v : Value} (ha : a.conforms l) (hb : b.conforms r)
    (hv : op.arithmetic a b = .ok v) : v.conforms t := by
  obtain ⟨hl, hr, hres⟩ := resultType_arithmetic hop ht
  have hfloat : l = some .float ∨ r = some .float → t = some .float := by
    rintro hside
    rcases hres with ⟨-, rfl⟩ | ⟨-, hcommon⟩
    · rfl
    · obtain ⟨hlt, hrt⟩ := ColumnType.below_coerce hcommon
      rcases hside with rfl | rfl
      · exact ColumnType.eq_float_of_below hlt
      · exact ColumnType.eq_float_of_below hrt
  rcases Value.number_cases hl ha with rfl | ⟨i, rfl, rfl⟩ | ⟨x, rfl, rfl⟩
  · obtain rfl : Value.null = v := by simpa [arithmetic] using hv
    simp
  all_goals rcases Value.number_cases hr hb with rfl | ⟨j, rfl, rfl⟩ | ⟨y, rfl, rfl⟩
  · obtain rfl : Value.null = v := by simpa [arithmetic] using hv
    simp
  · have hvalue := integerArithmetic_sound hv
    rcases hres with ⟨rfl, rfl⟩ | ⟨hne, hcommon⟩
    · simpa using hvalue
    · obtain rfl := Except.ok.inj (ColumnType.coerce_integers.symm.trans hcommon)
      simpa [hne] using hvalue
  · rw [hfloat (.inr rfl)]
    exact floatArithmetic_sound hv
  · obtain rfl : Value.null = v := by simpa [arithmetic] using hv
    simp
  · rw [hfloat (.inl rfl)]
    exact floatArithmetic_sound hv
  · rw [hfloat (.inl rfl)]
    exact floatArithmetic_sound hv

/-- A comparison is TRUE, FALSE or NULL. -/
theorem conforms_comparison (op : BinaryOp) (a b : Value) :
    (op.comparison a b).conforms (some .boolean) := by
  unfold comparison
  split <;> rfl

theorem conforms_logic (op : BinaryOp) (a b : Value) :
    (op.logic a b).conforms (some .boolean) := by
  unfold logic
  dsimp only
  split
  · rfl
  · split <;> rfl
  · split <;> rfl
  · rfl

theorem conforms_matching (op : BinaryOp) (a b : Value) :
    (op.matching a b).conforms (some .boolean) := by
  unfold matching
  split <;> rfl

theorem conforms_concatenation (a b : Value) :
    (concatenation a b).conforms (some .string) := by
  unfold concatenation
  split <;> rfl

/-- Every other operator than arithmetic and concatenation has type BOOLEAN. -/
theorem resultType_boolean {op : BinaryOp} {l r t : ColumnType}
    (hop : op.isArithmetic = false) (hconcat : op ≠ concat) (ht : op.resultType l r = .ok t) :
    some .boolean = t := by
  cases op with
  | concat => exact absurd rfl hconcat
  | eq | ne | lt | le | gt | ge =>
    simp only [resultType, operandClass?, typeOfAccepted, map_eq_ok] at ht
    obtain ⟨-, -, ht⟩ := ht
    exact ht
  | _ => simp_all [isArithmetic, resultType, operandClass?, typeOfAccepted]

/-- An operator gives values of its result type. -/
theorem apply_sound {op : BinaryOp} {l r t : ColumnType} (ht : op.resultType l r = .ok t)
    {a b v : Value} (ha : a.conforms l) (hb : b.conforms r) (hv : op.apply a b = .ok v) :
    v.conforms t := by
  by_cases hop : op.isArithmetic
  · refine arithmetic_sound hop ht ha hb ?_
    cases op <;> simp_all [isArithmetic, apply]
  · by_cases hconcat : op = concat
    · subst hconcat
      obtain rfl := Except.ok.inj hv
      obtain rfl : some .string = t := by
        simp_all [resultType, operandClass?, typeOfAccepted]
      exact conforms_concatenation a b
    · rw [← resultType_boolean (by simpa using hop) hconcat ht]
      have hresult : op.comparison a b = v ∨ op.logic a b = v ∨ op.matching a b = v := by
        cases op <;> simp_all [isArithmetic, apply]
      rcases hresult with rfl | rfl | rfl
      · exact conforms_comparison op a b
      · exact conforms_logic op a b
      · exact conforms_matching op a b

end BinaryOp

/-! ## Casts -/

namespace Value

/-- A scalar belongs to its own type. -/
theorem conforms_of_scalarType {v : Value} {s : ScalarType} (h : v.scalarType? = some s) :
    v.conforms (some (.scalar s)) :=
  conforms_scalar.mpr (.inr h)

/-- A text is read as a member of the type that was asked for. -/
theorem scalarType_of_readAs? {s : String} {t : ScalarType} {v : Value}
    (h : readAs? s t = some v) : v.scalarType? = some t := by
  cases t with
  | boolean =>
    simp only [readAs?] at h
    split at h
    · obtain rfl := Option.some.inj h
      rfl
    · split at h
      · obtain rfl := Option.some.inj h
        rfl
      · simp at h
  | string | bytes =>
    obtain rfl := Option.some.inj h
    rfl
  | _ =>
    simp only [readAs?, Option.map_eq_some_iff] at h
    obtain ⟨_, -, rfl⟩ := h
    rfl

/-- A conversion gives a member of the type that was asked for. -/
theorem scalarType_of_convert? {v w : Value} {t : ScalarType} (h : v.convert? t = some w) :
    w.scalarType? = some t := by
  unfold convert? at h
  split at h
  · obtain rfl := Option.some.inj h
    rfl
  · exact scalarType_of_readAs? h
  · simp only [integerOfFloat?] at h
    split at h
    · obtain ⟨_, -, rfl⟩ := Option.map_eq_some_iff.mp h
      rfl
    · simp at h
  all_goals first
    | obtain rfl := Option.some.inj h; rfl
    | simp at h

/-- The image of a cast belongs to its target. -/
theorem cast_sound {v w : Value} {t : ScalarType} (h : v.cast t = .ok w) :
    w.conforms (some (.scalar t)) := by
  unfold cast at h
  split at h
  · obtain rfl := Except.ok.inj h
    simp
  · split at h
    · next hv =>
      obtain rfl := Except.ok.inj h
      exact conforms_of_scalarType hv
    · split at h
      · next hw =>
        obtain rfl := Except.ok.inj h
        exact conforms_of_scalarType (scalarType_of_convert? hw)
      · simp at h

end Value

/-! ## Conditionals, structs and arrays -/

namespace Evaluated

/-- A negated number belongs to the type of the number. -/
theorem negateValue_sound {t : ColumnType} (ht : OperandClass.numeric.admits t) {a v : Value}
    (ha : a.conforms t) (hv : negateValue a = .ok v) : v.conforms t := by
  rcases Value.number_cases ht ha with rfl | ⟨i, rfl, rfl⟩ | ⟨x, rfl, rfl⟩
  · obtain rfl := Except.ok.inj hv
    simp
  · simp only [negateValue] at hv
    split at hv
    · obtain rfl := Except.ok.inj hv
      rfl
    · simp at hv
  · obtain rfl := Except.ok.inj hv
    rfl

/-- The results of a list of branches are related as the branches are. -/
theorem forall₂_resultsOf {α β : Type} {R : α → β → Prop} :
    ∀ {as : List α} {bs : List β}, List.Forall₂ R as bs →
      List.Forall₂ R (resultsOf as) (resultsOf bs)
  | [], [], .nil => .nil
  | [_], [_], .cons h .nil => .cons h .nil
  | _ :: _ :: _, _ :: _ :: _, .cons _ (.cons h rest) => .cons h (forall₂_resultsOf rest)

/-- A conditional chooses one of its results. -/
theorem choose_mem : ∀ row : List Value, choose row = .null ∨ choose row ∈ resultsOf row
  | [] => .inl rfl
  | [v] => .inr (by simp [choose, resultsOf])
  | c :: v :: rest => by
    unfold choose
    split
    · next h =>
      obtain ⟨-, rfl, rfl⟩ : _ ∧ _ ∧ _ := by simpa using h
      exact .inr (by simp [resultsOf])
    · next h =>
      obtain ⟨-, -, rfl⟩ : _ ∧ _ ∧ _ := by simpa using h
      rcases choose_mem rest with hnull | hmem
      · exact .inl hnull
      · exact .inr (by simp [resultsOf, hmem])
    all_goals simp_all

/-- The chosen result belongs, widened, to the common type of the results. -/
theorem conforms_choose {types : List ColumnType} {t : ColumnType} {row : List Value}
    (ht : ColumnType.coerceAll (resultsOf types) = .ok t) (hrow : Conforming row types) :
    ((choose row).widen t).conforms t := by
  rcases choose_mem row with hnull | hmem
  · simp [hnull, Value.widen]
  · obtain ⟨i, hi, heq⟩ := List.getElem_of_mem hmem
    have hresults := forall₂_resultsOf hrow
    have hi' : i < (resultsOf types).length := hresults.length_eq ▸ hi
    have hvalue := hresults.get hi hi'
    rw [← heq]
    exact Value.conforms_widen (ColumnType.below_coerceAll ht (List.getElem_mem hi')) hvalue

/-- Values belong to the declared fields that their types coerce to. -/
theorem conforms_declaredFields :
    ∀ {i : Nat} {declared fields : List (Field DataType)} {types : List ColumnType}
      {row : List Value}, declaredFields i declared types = .ok fields →
      declared.length = types.length → Conforming row types →
      Value.conformsFields (Value.widenFields row fields) fields
  | i, [], fields, types, row, h, hlen, hrow => by
    obtain rfl := List.length_eq_zero_iff.mp hlen.symm
    cases hrow
    obtain rfl := Except.ok.inj h
    rfl
  | i, ⟨n, some t⟩ :: fs, fields, a :: types, _ :: _, h, hlen, .cons ha hrow => by
    simp only [declaredFields, ite_error_eq_ok, map_eq_ok] at h
    obtain ⟨hcoerces, rest, hrest, rfl⟩ := h
    simp only [Value.widenFields, Value.conformsFields, Bool.and_eq_true]
    exact ⟨Value.conforms_widen (ColumnType.below_of_coercesTo hcoerces) ha,
      conforms_declaredFields hrest (by simpa using hlen) hrow⟩
  | i, ⟨n, none⟩ :: fs, fields, a :: types, _ :: _, h, hlen, .cons ha hrow => by
    simp only [declaredFields, map_eq_ok] at h
    obtain ⟨rest, hrest, rfl⟩ := h
    simp only [Value.widenFields, Value.conformsFields, Bool.and_eq_true]
    exact ⟨Value.conforms_widen (.refl a) ha,
      conforms_declaredFields hrest (by simpa using hlen) hrow⟩

theorem conforms_unnamedFields :
    ∀ {types : List ColumnType} {row : List Value}, Conforming row types →
      Value.conformsFields (Value.widenFields row (types.map fun t => ⟨none, t⟩))
        (types.map fun t => ⟨none, t⟩)
  | [], [], .nil => rfl
  | t :: types, _ :: _, .cons h hrow => by
    simp only [List.map_cons, Value.widenFields, Value.conformsFields, Bool.and_eq_true]
    exact ⟨Value.conforms_widen (.refl t) h, conforms_unnamedFields hrow⟩

/-- A struct belongs to the fields that it is built with. -/
theorem conforms_structFields {declared : Option (List (Field DataType))}
    {types : List ColumnType} {fields : List (Field DataType)} {row : List Value}
    (h : structFields declared types = .ok fields) (hrow : Conforming row types) :
    (Value.struct (Value.widenFields row fields)).conforms (some (.struct fields)) := by
  simp only [Value.conforms]
  cases declared with
  | none =>
    obtain rfl := Except.ok.inj h
    exact conforms_unnamedFields hrow
  | some fs =>
    simp only [structFields, error_ite_eq_ok, ne_eq, not_not] at h
    exact conforms_declaredFields h.2 h.1 hrow

/-- Every type in an array is below its element type. -/
theorem below_elementType {declared t : ColumnType} {d : DataType} {types : List ColumnType}
    (h : elementType declared types = .ok d) (ht : t ∈ types) : ColumnType.Below t (some d) := by
  unfold elementType at h
  split at h
  · simp at h
  obtain ⟨computed, hcomputed, h⟩ := bind_eq_ok.mp h
  have hbelow := ColumnType.below_coerceAll hcomputed ht
  split at h
  · next d' =>
    split at h
    · next hcoerces =>
      obtain rfl := pure_eq_ok.mp h
      exact hbelow.trans (ColumnType.below_of_coercesTo hcoerces)
    · simp at h
  · obtain rfl := pure_eq_ok.mp h
    exact hbelow
  · simp at h

/-- An array belongs to the type of its elements. -/
theorem conforms_arrayValue {declared : ColumnType} {d : DataType} {types : List ColumnType}
    {row : List Value} (empty : Bool) (h : elementType declared types = .ok d)
    (hrow : Conforming row types) :
    (arrayValue d empty row).conforms (some (.array d)) := by
  cases empty with
  | true => rfl
  | false =>
    simp only [arrayValue, Bool.false_eq_true, if_false, Value.conforms, Value.conformsAll_iff,
      Value.widenAll_eq_map, List.forall_mem_map]
    intro v hv
    obtain ⟨i, hi, rfl⟩ := List.getElem_of_mem hv
    have hi' : i < types.length := hrow.length_eq ▸ hi
    exact Value.conforms_widen (below_elementType h (List.getElem_mem hi')) (hrow.get hi hi')

end Evaluated

/-! ## Row functions -/

namespace SqlFunction

/-- A result type is found once all arguments are of the right class. -/
theorem resultType_eq_ok {f : SqlFunction} {types : List ColumnType} {t : ColumnType}
    (h : f.resultType types = .ok t) :
    f.typeOfAccepted types = .ok t ∧
      ∀ c, f.argumentClass? = some c → ∀ u ∈ types, c.admits u := by
  unfold resultType at h
  split at h
  · next c hc =>
    rw [ite_error_eq_ok, List.all_eq_true] at h
    refine ⟨h.2, fun d hd u hu => ?_⟩
    obtain rfl : c = d := Option.some.inj (hc.symm.trans hd)
    exact h.1 u hu
  · next hnone => exact ⟨h, by simp [hnone]⟩

/-- A remainder belongs to the common type of its operands. -/
theorem modulo_sound {s t u : ColumnType} {a b v : Value} (hs : OperandClass.numeric.admits s)
    (ht : OperandClass.numeric.admits t) (hu : ColumnType.coerceAll [s, t] = .ok u)
    (ha : a.conforms s) (hb : b.conforms t) (hv : modulo a b = .ok v) :
    (v.widen u).conforms u := by
  have hsu := ColumnType.below_coerceAll hu (List.mem_cons_self ..)
  have htu := ColumnType.below_coerceAll hu (List.mem_cons_of_mem _ (List.mem_singleton_self _))
  have hfloat : ∀ x y : Float, (if Binary64.isZero y then .error (Error.modByZero a b)
      else .ok (.float (Binary64.remainder x y))) = Except.ok v →
      ColumnType.Below (some .float) u → (v.widen u).conforms u := by
    intro x y hxy hbelow
    rw [error_ite_eq_ok, Except.ok.injEq] at hxy
    obtain ⟨-, rfl⟩ := hxy
    exact Value.conforms_widen hbelow rfl
  rcases Value.number_cases hs ha with rfl | ⟨i, rfl, rfl⟩ | ⟨x, rfl, rfl⟩
  · simp [modulo, Value.float?] at hv
  all_goals rcases Value.number_cases ht hb with rfl | ⟨j, rfl, rfl⟩ | ⟨y, rfl, rfl⟩
  · simp [modulo, Value.float?] at hv
  · simp only [modulo, error_ite_eq_ok, Except.ok.injEq] at hv
    obtain ⟨-, rfl⟩ := hv
    exact Value.conforms_widen hsu rfl
  · exact hfloat _ _ hv htu
  · simp [modulo, Value.float?] at hv
  · exact hfloat _ _ hv hsu
  · exact hfloat _ _ hv hsu

theorem absolute_sound {t : ColumnType} {a v : Value} (ha : a.conforms t)
    (ht : OperandClass.numeric.admits t) (hv : absolute a = .ok v) : v.conforms t := by
  rcases Value.number_cases ht ha with rfl | ⟨i, rfl, rfl⟩ | ⟨x, rfl, rfl⟩
  · simp [absolute] at hv
  · simp only [absolute] at hv
    split at hv
    · obtain rfl := Except.ok.inj hv
      rfl
    · simp at hv
  · obtain rfl := Except.ok.inj hv
    rfl

theorem lengthOf_sound {a v : Value} (hv : lengthOf a = .ok v) : v.conforms (some .integer) := by
  unfold lengthOf at hv
  split at hv
  · obtain rfl := Except.ok.inj hv
    rfl
  · obtain rfl := Except.ok.inj hv
    rfl
  · simp at hv

theorem patternOccurs_sound {a b v : Value} (hv : patternOccurs a b = .ok v) :
    v.conforms (some .boolean) := by
  unfold patternOccurs at hv
  split at hv
  · split at hv
    · obtain rfl := Except.ok.inj hv
      rfl
    · simp at hv
  · simp at hv

/-- A function gives values of its result type on present arguments. -/
theorem onPresent_sound {f : SqlFunction} {types : List ColumnType} {t : ColumnType}
    (ht : f.resultType types = .ok t) {row : List Value} (hrow : Conforming row types) {v : Value}
    (hv : f.onPresent t row = .ok v) : v.conforms t := by
  obtain ⟨htype, hclass⟩ := resultType_eq_ok ht
  unfold onPresent at hv
  split at hv
  · obtain ⟨w, hw, rfl⟩ := map_eq_ok.mp hv
    cases hrow with
    | cons ha hrest =>
      cases hrest with
      | cons hb hnil =>
        cases hnil
        exact modulo_sound (hclass _ rfl _ (by simp)) (hclass _ rfl _ (by simp)) htype ha hb hw
  · obtain rfl := Except.ok.inj hv
    obtain rfl := Except.ok.inj htype
    rfl
  · obtain rfl := Except.ok.inj htype
    exact Value.cast_sound hv
  · cases hrow with
    | cons ha hrest =>
      cases hrest
      obtain rfl := Except.ok.inj htype
      exact absolute_sound ha (hclass _ rfl _ (by simp)) hv
  · obtain rfl := Except.ok.inj hv
    obtain rfl := Except.ok.inj htype
    rfl
  · obtain rfl := Except.ok.inj hv
    obtain rfl := Except.ok.inj htype
    rfl
  · obtain rfl := Except.ok.inj htype
    exact lengthOf_sound hv
  · obtain rfl := Except.ok.inj htype
    exact patternOccurs_sound hv
  · simp at hv
  · simp at hv

/-- A function gives values of its result type on every row. -/
theorem onRow_sound {f : SqlFunction} {now : Moment} {types : List ColumnType} {t : ColumnType}
    (ht : f.resultType types = .ok t) {row : List Value} (hrow : Conforming row types) {v : Value}
    (hv : f.onRow now t row = .ok v) : v.conforms t := by
  unfold onRow at hv
  split at hv
  · next hf =>
    subst hf
    obtain rfl := Except.ok.inj hv
    obtain rfl := Except.ok.inj (resultType_eq_ok ht).1
    rfl
  · split at hv
    · obtain rfl := Except.ok.inj hv
      simp
    · exact onPresent_sound ht hrow hv

end SqlFunction

/-! ## Kernels -/

theorem conforms_onOne {f : Value → Except Error Value} {s t : ColumnType} {row : List Value}
    {v : Value} (hf : ∀ a v, a.conforms s → f a = .ok v → v.conforms t)
    (hrow : Conforming row [s]) (hv : onOne f row = .ok v) : v.conforms t := by
  cases hrow with
  | cons ha hnil =>
    cases hnil
    exact hf _ v ha hv

namespace Expr

variable {σ : Type}

/-- A row that belongs to the operand types gives a value of the result type. -/
theorem kernel_sound {now : Moment} {e : Expr σ} {types : List ColumnType} {k : Kernel}
    (hk : e.kernel now types = .ok k) {row : List Value} (hrow : Conforming row types)
    {v : Value} (hv : k.2 row = .ok v) : v.conforms k.1 := by
  unfold kernel at hk
  split at hk
  · obtain ⟨t, ht, rfl⟩ := by simpa only [bind_eq_ok, pure_eq_ok] using hk
    cases hrow with
    | cons ha hrest =>
      cases hrest with
      | cons hb hnil =>
        cases hnil
        exact BinaryOp.apply_sound ht ha hb hv
  · obtain ⟨-, rfl⟩ := by simpa only [ite_error_eq_ok, Except.ok.injEq] using hk
    refine conforms_onOne (fun a w _ hw => ?_) hrow hv
    obtain rfl := Except.ok.inj hw
    cases a <;> rfl
  · obtain ⟨ht, rfl⟩ := by simpa only [ite_error_eq_ok, Except.ok.injEq] using hk
    exact conforms_onOne (fun a w ha hw => Evaluated.negateValue_sound ht ha hw) hrow hv
  · obtain rfl := Except.ok.inj hk
    refine conforms_onOne (fun a w _ hw => ?_) hrow hv
    obtain rfl := Except.ok.inj hw
    rfl
  · obtain ⟨-, -, rfl⟩ := by simpa only [bind_eq_ok, pure_eq_ok] using hk
    obtain rfl := Except.ok.inj hv
    rfl
  · obtain ⟨-, t, ht, rfl⟩ := conditionalKernel_eq_ok.mp hk
    obtain rfl := Except.ok.inj hv
    exact Evaluated.conforms_choose ht hrow
  · obtain ⟨-, t, ht, rfl⟩ := conditionalKernel_eq_ok.mp hk
    obtain rfl := Except.ok.inj hv
    exact Evaluated.conforms_choose ht hrow
  · obtain rfl := Except.ok.inj hk
    exact conforms_onOne (fun a w _ hw => Value.cast_sound hw) hrow hv
  · rw [error_ite_eq_ok] at hk
    obtain ⟨-, hk⟩ := hk
    split at hk
    · simp at hk
    · obtain rfl := Except.ok.inj hk
      refine conforms_onOne (fun a w _ hw => ?_) hrow hv
      obtain rfl := Except.ok.inj hw
      unfold Evaluated.partValue
      cases Evaluated.dateOf? a <;> rfl
  · obtain ⟨fields, hfields, rfl⟩ := by simpa only [bind_eq_ok, pure_eq_ok] using hk
    obtain rfl := Except.ok.inj hv
    exact Evaluated.conforms_structFields hfields hrow
  · obtain ⟨d, hd, rfl⟩ := by simpa only [bind_eq_ok, pure_eq_ok] using hk
    obtain rfl := Except.ok.inj hv
    exact Evaluated.conforms_arrayValue _ hd hrow
  · obtain ⟨t, ht, rfl⟩ := by simpa only [bind_eq_ok, pure_eq_ok] using hk
    exact SqlFunction.onRow_sound ht hrow hv
  · simp at hk

end Expr

end ColumnarSql
