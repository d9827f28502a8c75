import ColumnarSql.Eval.Expr
import ColumnarSql.Proofs.CoercionOrder
import ColumnarSql.Proofs.EvaluationTypes
import ColumnarSql.Proofs.ValueOrder
import ColumnarSql.Proofs.Widening

/-!
# Comparing widened values

A comparison asks for a common type of its operands, and then compares the values as they are. The
order has the rules for that: an integer is compared with a double as the double nearest to it, at
every depth of arrays and structs, and two integers are compared exactly. Widening to the common
type makes an integer a double only where the other side has doubles, so it changes no comparison
(`Value.compare_widen`). A type further up can change one, since two integers may have one nearest
double. The comparison operators therefore give on all operands what they give on the operands
widened to the common type (`Evaluated.binary_widen`).
-/

set_option autoImplicit false

namespace ColumnarSql

/-! ## The order -/

/-- Fields have a common type one by one. -/
theorem DataType.common?_of_commonFields? {p q : Field DataType} {f g k : List (Field DataType)}
    (h : commonFields? (p :: f) (q :: g) = some k) :
    ∃ r rest, k = r :: rest ∧ ColumnType.common? p.type q.type = some r.type ∧
      commonFields? f g = some rest := by
  obtain ⟨n, a⟩ := p
  obtain ⟨m, b⟩ := q
  cases a with
  | none =>
    simp only [commonFields?, Option.bind_eq_bind, Option.bind_eq_some_iff, Option.pure_def,
      Option.some.injEq] at h
    obtain ⟨name, -, rest, hrest, rfl⟩ := h
    exact ⟨_, rest, rfl, rfl, hrest⟩
  | some a =>
    cases b with
    | none =>
      simp only [commonFields?, Option.bind_eq_bind, Option.bind_eq_some_iff, Option.pure_def,
        Option.some.injEq] at h
      obtain ⟨name, -, rest, hrest, rfl⟩ := h
      exact ⟨_, rest, rfl, rfl, hrest⟩
    | some b =>
      simp only [commonFields?, Option.bind_eq_bind, Option.bind_eq_some_iff, Option.pure_def,
        Option.some.injEq] at h
      obtain ⟨name, -, c, hc, rest, hrest, rfl⟩ := h
      exact ⟨_, rest, rfl, by simp [ColumnType.common?, hc], hrest⟩

namespace Value

open ColumnType DataType

/-- Widening keeps the kind of a value. -/
theorem rank_widen (v : Value) (t : ColumnType) : (v.widen t).rank = v.rank := by
  unfold widen
  split <;> rfl

@[simp] theorem isNull_widen (v : Value) (t : ColumnType) : (v.widen t).isNull = v.isNull := by
  unfold widen
  split <;> rfl

theorem compare_widen_of_rank_ne {v w : Value} (t : ColumnType) (h : v.rank ≠ w.rank) :
    (v.widen t).compare (w.widen t) = v.compare w := by
  have h' : (v.widen t).rank ≠ (w.widen t).rank := by rwa [rank_widen, rank_widen]
  rw [compare_of_rank_ne h, compare_of_rank_ne h', rank_widen, rank_widen]

/-- A value beside a scalar of its kind is one too, and then its type is its scalar type. -/
theorem scalar_of_rank_eq {v w : Value} {s : ScalarType} {t : ColumnType}
    (hv : v.scalarType? = some s) (hrank : v.rank = w.rank) (hw : w.conforms t) :
    ∃ b, t = some (.scalar b) ∧ w.scalarType? = some b := by
  obtain ⟨b, hb⟩ : ∃ b, w.scalarType? = some b := by
    cases v <;> cases w <;> simp_all [rank, scalarType?]
  refine ⟨b, ?_, hb⟩
  cases w with
  | null | array ws | struct ws => simp [scalarType?] at hb
  | _ =>
    match t with
    | none | some (.array _) | some (.struct _) => simp [conforms] at hw
    | some (.scalar c) =>
      simp only [conforms, decide_eq_true_eq] at hw
      rw [← Option.some.inj (hw.symm.trans hb)]

/-- Scalars of one type are left as they are, and an integer beside a double is compared as the
double that it is widened to. -/
theorem compare_widen_scalar {v w : Value} {s t : ScalarType} {c : DataType}
    (hc : DataType.common? (.scalar s) (.scalar t) = some c) (hv : v.scalarType? = some s)
    (hw : w.scalarType? = some t) :
    (v.widen (some c)).compare (w.widen (some c)) = v.compare w := by
  unfold DataType.common? at hc
  split at hc
  · next hst =>
    obtain rfl := Option.some.inj hc
    rw [widen_of_scalarType hv, widen_of_scalarType (hst ▸ hw)]
  · next hne =>
    split at hc
    · obtain rfl := Option.some.inj hc
      cases v <;> cases w <;> first
        | rfl
        | simp_all [scalarType?]
    · simp at hc

mutual

/-- Values compare as they do widened to the common type of their types. -/
theorem compare_widen : ∀ {v w : Value} {s t u : ColumnType},
    ColumnType.common? s t = some u → v.conforms s → w.conforms t →
      (v.widen u).compare (w.widen u) = v.compare w
  | .null, w, s, t, u, _, _, _ => by
    cases w with
    | null => simp [widen]
    | _ => exact compare_widen_of_rank_ne u (by simp [rank])
  | .array vs, w, some (.array a), t, u, h, hv, hw => by
    cases w with
    | array ws =>
      match t with
      | some (.array b) =>
        simp only [ColumnType.common?, DataType.common?, Option.map_eq_some_iff] at h
        obtain ⟨-, ⟨c, hc, rfl⟩, rfl⟩ := h
        simp only [conforms, widen] at hv hw ⊢
        exact compareItems_widenAll (by simp [ColumnType.common?, hc]) hv hw
      | none | some (.scalar _) | some (.struct _) => simp [conforms, scalarType?] at hw
    | _ => exact compare_widen_of_rank_ne u (by simp [rank])
  | .struct vs, w, some (.struct f), t, u, h, hv, hw => by
    cases w with
    | struct ws =>
      match t with
      | some (.struct g) =>
        simp only [ColumnType.common?, DataType.common?, Option.map_eq_some_iff] at h
        obtain ⟨-, ⟨k, hk, rfl⟩, rfl⟩ := h
        simp only [conforms, widen] at hv hw ⊢
        exact compareItems_widenFields hk hv hw
      | none | some (.scalar _) | some (.array _) => simp [conforms, scalarType?] at hw
    | _ => exact compare_widen_of_rank_ne u (by simp [rank])
  | v, w, some (.scalar a), t, u, h, hv, hw => by
    by_cases hrank : v.rank = w.rank
    · rcases conforms_scalar.mp hv with rfl | hv
      · cases w with
        | null => simp [widen]
        | _ => simp [rank] at hrank
      · obtain ⟨b, rfl, hscalar⟩ := scalar_of_rank_eq hv hrank hw
        simp only [ColumnType.common?, Option.map_eq_some_iff] at h
        obtain ⟨c, hc, rfl⟩ := h
        exact compare_widen_scalar hc hv hscalar
    · exact compare_widen_of_rank_ne u hrank

theorem compareItems_widenAll : ∀ {vs ws : List Value} {s t u : ColumnType},
    ColumnType.common? s t = some u → conformsAll vs s → conformsAll ws t →
      compareItems (widenAll vs u) (widenAll ws u) = compareItems vs ws
  | [], [], _, _, _, _, _, _ | [], _ :: _, _, _, _, _, _, _ | _ :: _, [], _, _, _, _, _, _ => by
    simp [widenAll, compareItems]
  | v :: vs, w :: ws, s, t, u, h, hv, hw => by
    simp only [conformsAll, Bool.and_eq_true] at hv hw
    simp only [widenAll, compareItems]
    rw [compare_widen h hv.1 hw.1, compareItems_widenAll h hv.2 hw.2]

theorem compareItems_widenFields : ∀ {vs ws : List Value} {f g k : List (Field DataType)},
    commonFields? f g = some k → conformsFields vs f → conformsFields ws g →
      compareItems (widenFields vs k) (widenFields ws k) = compareItems vs ws
  | [], [], _, _, _, _, _, _ => by simp [widenFields]
  | v :: vs, w :: ws, p :: f, q :: g, k, h, hv, hw => by
    obtain ⟨r, rest, rfl, htype, hrest⟩ := common?_of_commonFields? h
    simp only [conformsFields, Bool.and_eq_true] at hv hw
    simp only [widenFields, compareItems]
    rw [compare_widen htype hv.1 hw.1, compareItems_widenFields hrest hv.2 hw.2]
  | [], w :: ws, [], q :: g, k, h, hv, hw | v :: vs, [], p :: f, [], k, h, hv, hw => by
    simp [commonFields?] at h

end

-- A type above the common one: two integers have one nearest double.
example :
    let v : Value := .array [.integer 9007199254740993]
    let w : Value := .array [.integer 9007199254740992]
    let float : ColumnType := some (.array .float)
    v.compare w = .gt ∧ (v.widen float).compare (w.widen float) = .eq :=
  ⟨rfl, rfl⟩

theorem comparison_widen (op : BinaryOp) {a b : Value} {s t u : ColumnType}
    (hu : ColumnType.common? s t = some u) (ha : a.conforms s) (hb : b.conforms t) :
    op.comparison (a.widen u) (b.widen u) = op.comparison a b := by
  simp only [BinaryOp.comparison, isNull_widen, compare_widen hu ha hb]

end Value

/-! ## The operators -/

namespace BinaryOp

variable {op : BinaryOp}

theorem apply_of_isComparison (h : op.isComparison) (a b : Value) :
    op.apply a b = .ok (op.comparison a b) := by
  cases op <;> simp [isComparison] at h <;> rfl

/-- A comparison is a BOOLEAN whenever its operands have a common type. -/
theorem resultType_of_isComparison (h : op.isComparison) (s t : ColumnType) :
    op.resultType s t = (s.coerce t).map fun _ => some .boolean := by
  cases op <;> simp [isComparison] at h <;> rfl

theorem comparison_eq (op : BinaryOp) (a b : Value) :
    op.comparison a b = .null ∨ ∃ x, op.comparison a b = .boolean x := by
  unfold comparison
  split
  · exact .inl rfl
  · exact .inr ⟨_, rfl⟩

end BinaryOp

namespace Evaluated

variable {σ : Type} {e : Expr σ}

/-- The result with each of its values widened. -/
def widen (u : ColumnType) : Evaluated → Evaluated
  | column c => column ⟨c.values.map (·.widen u), u⟩
  | constant v _ => constant (v.widen u) u
  | grouped level c groups => grouped level ⟨c.values.map (·.widen u), u⟩ groups

@[simp] theorem type_widen (u : ColumnType) (a : Evaluated) : (a.widen u).type = u := by
  cases a <;> rfl

@[simp] theorem cell_widen (u : ColumnType) (a : Evaluated) (i : Nat) :
    (a.widen u).cell i = (a.cell i).widen u := by
  have hnull : Value.null.widen u = .null := by simp [Value.widen]
  cases a with
  | constant v t => rfl
  | column c | grouped level c groups =>
    simp only [widen, cell, Column.cell, List.getD_eq_getElem?_getD, List.getElem?_map]
    cases c.values[i]? <;> simp [hnull]

/-- Widening keeps the shape of a result. -/
theorem extend_widen (s : Shape) (u : ColumnType) (a : Evaluated) :
    s.extend e (a.widen u) = s.extend e a := by
  have hlength (c : Column) : Column.length ⟨c.values.map (·.widen u), u⟩ = c.length := by
    simp [Column.length]
  cases s <;> cases a <;> simp only [widen, Shape.extend, hlength]

theorem ofOperands_widen (u : ColumnType) (args : List Evaluated) :
    Shape.ofOperands e (args.map (widen u)) = Shape.ofOperands e args := by
  simp only [Shape.ofOperands, List.foldlM_map, extend_widen]

/-- Results of the same shape with the same values row by row. -/
theorem mapRows_congr {t : ColumnType} {f g : List Value → Except Error Value}
    {as bs : List Evaluated} (hshape : Shape.ofOperands e as = Shape.ofOperands e bs)
    (hrow : ∀ i, f (row as i) = g (row bs i)) : mapRows e t f as = mapRows e t g bs := by
  simp only [mapRows, rowValues, hshape, hrow]

/-- A comparison of constants is the constant that it is for their values. -/
theorem binary_constant {op : BinaryOp} (hop : op.isComparison) {s t u : ColumnType}
    (hu : s.coerce t = .ok u) (a b : Value) :
    binary e op (.constant a s) (.constant b t) =
      .ok (.constant (op.comparison a b) (some .boolean)) := by
  have htype : op.resultType s t = .ok (some .boolean) := by
    rw [BinaryOp.resultType_of_isComparison hop, hu]
    rfl
  have hshape : Shape.ofOperands e [.constant a s, .constant b t] = .ok .constant := rfl
  have hrow : onTwo op.apply (row [.constant a s, .constant b t] 0) = .ok (op.comparison a b) :=
    BinaryOp.apply_of_isComparison hop a b
  simp [binary, type, htype, mapRows, hshape, hrow]

/-- For operands whose types have a common type, each comparison of two values is the comparison of
the values widened to it, and so is a comparison of two results in every row. -/
theorem binary_widen (e : Expr σ) {op : BinaryOp} (hop : op.isComparison) {s t u : ColumnType}
    (hu : s.coerce t = .ok u) :
    (∀ a b : Value, a.conforms s → b.conforms t →
      ∃ v : Value, (v = .null ∨ ∃ x, v = .boolean x) ∧
        binary e op (.constant a s) (.constant b t) = .ok (.constant v (some .boolean)) ∧
        binary e op (.constant (a.widen u) u) (.constant (b.widen u) u) =
          .ok (.constant v (some .boolean))) ∧
    ∀ l r : Evaluated, l.Typed → r.Typed → l.type = s → r.type = t →
      binary e op (l.widen u) (r.widen u) = binary e op l r := by
  have hcommon : ColumnType.common? s t = some u :=
    ColumnType.common?_eq_some_iff.mpr (ColumnType.coerce_eq_ok_iff.mp hu)
  have hself : u.coerce u = .ok u := by simp [ColumnType.coerce, ColumnType.common?_self]
  have hresults : ∀ l r : Evaluated, l.Typed → r.Typed → l.type = s → r.type = t →
      binary e op (l.widen u) (r.widen u) = binary e op l r := by
    rintro l r hl hr rfl rfl
    simp only [binary, type_widen, BinaryOp.resultType_of_isComparison hop, hu, hself]
    refine congrArg (_ >>= ·) (funext fun type => mapRows_congr (ofOperands_widen u [l, r]) ?_)
    intro i
    simp only [row, List.map_cons, List.map_nil, onTwo, cell_widen,
      BinaryOp.apply_of_isComparison hop, Value.comparison_widen op hcommon (hl.cell i) (hr.cell i)]
  refine ⟨fun a b ha hb => ?_, hresults⟩
  refine ⟨op.comparison a b, op.comparison_eq a b, binary_constant hop hu a b, ?_⟩
  have hwiden := hresults (.constant a s) (.constant b t) ha hb rfl rfl
  exact hwiden.trans (binary_constant hop hu a b)

/-- Structs that compare equal up to a NULL beside a NaN, each with types the other one lacks. -/
theorem binary_widen_structs :
    let e : Expr Plan := .binary .lt (.field ["x"]) (.field ["y"])
    let s : ColumnType := some (.struct [⟨none, some (.array .integer)⟩, ⟨some "n", none⟩])
    let t : ColumnType := some (.struct [⟨some "k", some (.array .float)⟩, ⟨none, some .string⟩])
    let u : ColumnType :=
      some (.struct [⟨some "k", some (.array .float)⟩, ⟨some "n", some .string⟩])
    let a : Value := .struct [.array [.integer 9007199254740993, .null], .null]
    let b : Value := .struct [.array [.float (Binary64.ofInt 9007199254740992),
      .float (Float.ofBits 0x7ff8000000000000)], .string "z"]
    (BinaryOp.lt.isComparison ∧ s.coerce t = .ok u ∧ a.conforms s ∧ b.conforms t) ∧
      (∃ v : Value, (v = .null ∨ ∃ x, v = .boolean x) ∧
        binary e .lt (.constant a s) (.constant b t) = .ok (.constant v (some .boolean)) ∧
        binary e .lt (.constant (a.widen u) u) (.constant (b.widen u) u) =
          .ok (.constant v (some .boolean))) ∧
      binary e .lt (.column ⟨[a.widen u, .null], u⟩) (.constant (b.widen u) u) =
        .ok (.column ⟨[.boolean true, .null], some .boolean⟩) := by
  intro e s t u a b
  have hop : BinaryOp.lt.isComparison := rfl
  have hu : s.coerce t = .ok u := rfl
  obtain ⟨hvalues, hresults⟩ := binary_widen e hop hu
  have hcolumn : Column.Typed ⟨[a, .null], s⟩ := by
    simp only [Column.Typed, List.forall_mem_cons, Value.conforms_null]
    exact ⟨rfl, trivial, by simp⟩
  refine ⟨⟨hop, hu, rfl, rfl⟩, hvalues a b rfl rfl, ?_⟩
  exact (hresults (.column ⟨[a, .null], s⟩) (.constant b t) hcolumn rfl rfl rfl).trans rfl

end Evaluated

end ColumnarSql
