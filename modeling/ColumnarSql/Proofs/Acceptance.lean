import ColumnarSql.Proofs.Parts
import ColumnarSql.Proofs.ReductionTypes

/-!
# Failures on values

A computation is accepted when it gives a result or fails by evaluation, as opposed to a refusal
for types, names or meaning. Once the operand types are accepted, an operation on values of these
types is refused by no value (`unrefused_kernel`), nor are a reduction and a call over a window.
The one exception is `ROW_NUMBER` without a window, which no value makes succeed.
-/

set_option autoImplicit false

namespace ColumnarSql

/-! ## Accepted computations -/

/-- The computation gives a result with the property, or fails by evaluation. -/
def Accepted {α : Type} (Q : α → Prop) : Except Error α → Prop
  | .ok a => Q a
  | .error x => x.kind = .evaluation

/-- A computation that gives a result or fails by evaluation. -/
abbrev Unrefused {α : Type} (x : Except Error α) : Prop := Accepted (fun _ => True) x

namespace Accepted

variable {α β : Type} {Q : α → Prop} {R : β → Prop}

theorem mono {P : α → Prop} (hPQ : ∀ a, P a → Q a) {x : Except Error α} (h : Accepted P x) :
    Accepted Q x := by
  cases x with
  | ok a => exact hPQ a h
  | error e => exact h

theorem bind {x : Except Error α} {f : α → Except Error β} (hx : Accepted Q x)
    (hf : ∀ a, x = .ok a → Q a → Accepted R (f a)) : Accepted R (x >>= f) := by
  cases x with
  | ok a => exact hf a rfl hx
  | error e => exact hx

theorem map {x : Except Error α} {f : α → β} (hx : Accepted Q x) (hf : ∀ a, Q a → R (f a)) :
    Accepted R (x.map f) := by
  cases x with
  | ok a => exact hf a hx
  | error e => exact hx

/-- A walk is accepted when its steps are. -/
theorem mapM {S : α → β → Prop} {f : α → Except Error β} :
    ∀ {as : List α}, (∀ a ∈ as, Accepted (S a) (f a)) → Accepted (List.Forall₂ S as) (as.mapM f)
  | [], _ => .nil
  | a :: as, h => by
    rw [List.mapM_cons]
    refine (h a List.mem_cons_self).bind fun b _ hb => ?_
    refine (mapM fun c hc => h c (List.mem_cons_of_mem a hc)).bind fun bs _ hbs => ?_
    exact .cons hb hbs

end Accepted

/-! ## Operators -/

namespace BinaryOp

theorem unrefused_floatArithmetic (op : BinaryOp) (x y : Float) :
    Unrefused (op.floatArithmetic x y) := by
  unfold floatArithmetic
  split
  · rfl
  · trivial

theorem unrefused_arithmetic (op : BinaryOp) {l r : ColumnType}
    (hl : OperandClass.numeric.admits l) (hr : OperandClass.numeric.admits r) {a b : Value}
    (ha : a.conforms l) (hb : b.conforms r) : Unrefused (op.arithmetic a b) := by
  rcases Value.number_cases hl ha with rfl | ⟨i, rfl, -⟩ | ⟨x, rfl, -⟩ <;>
    rcases Value.number_cases hr hb with rfl | ⟨j, rfl, -⟩ | ⟨y, rfl, -⟩
  case inr.inl.inr.inl =>
    unfold arithmetic
    dsimp only
    split
    · split
      · rfl
      · trivial
    · split
      · trivial
      · rfl
  case inr.inl.inr.inr | inr.inr.inr.inl | inr.inr.inr.inr =>
    exact op.unrefused_floatArithmetic _ _
  all_goals trivial

theorem unrefused_apply {op : BinaryOp} {l r t : ColumnType} (ht : op.resultType l r = .ok t)
    {a b : Value} (ha : a.conforms l) (hb : b.conforms r) :
    Unrefused (op.apply a b) := by
  by_cases hop : op.isArithmetic
  · obtain ⟨hl, hr, -⟩ := resultType_arithmetic hop ht
    have happly : op.apply a b = op.arithmetic a b := by
      cases op <;> simp_all [isArithmetic, apply]
    exact happly ▸ op.unrefused_arithmetic hl hr ha hb
  · cases op <;> simp_all [isArithmetic, apply, Accepted]

end BinaryOp

theorem Evaluated.unrefused_negateValue (v : Value) : Unrefused (negateValue v) := by
  unfold negateValue
  split
  · split
    · trivial
    · rfl
  · trivial
  · trivial

theorem Value.unrefused_cast (v : Value) (t : ScalarType) :
    Unrefused (v.cast t) := by
  unfold cast
  split
  · trivial
  · split
    · trivial
    · split
      · trivial
      · rfl

/-! ## Functions -/

namespace Value

theorem string_of_admits {v : Value} {t : ColumnType} (ht : OperandClass.string.admits t)
    (hv : v.conforms t) (hnull : v.isNull = false) : ∃ s, v = .string s := by
  rcases t with _ | ⟨⟨s⟩⟩ <;> cases v <;>
    simp_all [OperandClass.admits, OperandClass.members, DataType.scalar?, conforms,
      scalarType?, isNull]

theorem string_or_bytes_of_admits {v : Value} {t : ColumnType}
    (ht : OperandClass.stringOrBytes.admits t) (hv : v.conforms t) (hnull : v.isNull = false) :
    (∃ s, v = .string s) ∨ ∃ b, v = .bytes b := by
  rcases t with _ | ⟨⟨s⟩⟩
  · cases v <;> simp_all [conforms, isNull]
  · cases s <;> cases v <;>
      simp_all [OperandClass.admits, OperandClass.members, DataType.scalar?, conforms,
        scalarType?, isNull]
  · cases ht
  · cases ht

/-- A value of a number type that is not NULL is an integer or a double. -/
theorem number_of_admits {v : Value} {t : ColumnType} (ht : OperandClass.numeric.admits t)
    (hv : v.conforms t) (hnull : v.isNull = false) : (∃ i, v = .integer i) ∨ ∃ x, v = .float x := by
  rcases number_cases ht hv with rfl | ⟨i, rfl, -⟩ | ⟨x, rfl, -⟩
  · cases hnull
  · exact .inl ⟨i, rfl⟩
  · exact .inr ⟨x, rfl⟩

end Value

namespace SqlFunction

theorem unrefused_modulo {a b : Value} (ha : (∃ i, a = .integer i) ∨ ∃ x, a = .float x)
    (hb : (∃ i, b = .integer i) ∨ ∃ x, b = .float x) : Unrefused (modulo a b) := by
  rcases ha with ⟨i, rfl⟩ | ⟨x, rfl⟩ <;> rcases hb with ⟨j, rfl⟩ | ⟨y, rfl⟩ <;>
    · unfold modulo
      dsimp only [Value.float?]
      split
      · rfl
      · trivial

theorem unrefused_absolute {a : Value} (ha : (∃ i, a = .integer i) ∨ ∃ x, a = .float x) :
    Unrefused (absolute a) := by
  rcases ha with ⟨i, rfl⟩ | ⟨x, rfl⟩
  · unfold absolute
    dsimp only
    split
    · trivial
    · rfl
  · trivial

theorem unrefused_patternOccurs (s p : String) :
    Unrefused (patternOccurs (.string s) (.string p)) := by
  unfold patternOccurs
  dsimp only
  split
  · trivial
  · rfl

/-- Whether a function is called on rows alone. -/
def isRowFunction (f : SqlFunction) : Bool := !f.isAggregating && f ≠ rowNumber

theorem length_of_checkArity {f : SqlFunction} {n : Nat} {u : Unit} (h : f.checkArity n = .ok u) :
    f.arity.1 ≤ n ∧ ∀ m, f.arity.2 = some m → n ≤ m := by
  simp only [checkArity, error_ite_eq_ok, Bool.or_eq_true, decide_eq_true_eq, not_or, Nat.not_lt,
    Option.any_eq_true, not_exists, not_and] at h
  exact h.2.1

theorem unrefused_onPresent {f : SqlFunction} (hf : f.isRowFunction) (hnow : f ≠ currentTimestamp)
    {types : List ColumnType} {t : ColumnType} (ht : f.resultType types = .ok t)
    {row : List Value} (harity : f.checkArity row.length = .ok ()) (hrow : Conforming row types)
    (hnull : ∀ v ∈ row, v.isNull = false) : Unrefused (f.onPresent t row) := by
  obtain ⟨-, hclass⟩ := resultType_eq_ok ht
  obtain ⟨hleast, hmost⟩ := length_of_checkArity harity
  have hone : f.arity = (1, some 1) → ∃ a u, row = [a] ∧ types = [u] := by
    intro h
    rw [h] at hleast hmost
    obtain ⟨a, rfl⟩ := List.length_eq_one_iff.mp (Nat.le_antisymm (hmost 1 rfl) hleast)
    obtain ⟨u, us, -, hus, rfl⟩ := List.forall₂_cons_left_iff.mp hrow
    exact ⟨a, u, rfl, by rw [List.forall₂_nil_left_iff.mp hus]⟩
  have htwo : f.arity = (2, some 2) → ∃ a b u w, row = [a, b] ∧ types = [u, w] := by
    intro h
    rw [h] at hleast hmost
    obtain ⟨a, b, rfl⟩ := List.length_eq_two.mp (Nat.le_antisymm (hmost 2 rfl) hleast)
    obtain ⟨u, us, -, hus, rfl⟩ := List.forall₂_cons_left_iff.mp hrow
    obtain ⟨w, ws, -, hws, rfl⟩ := List.forall₂_cons_left_iff.mp hus
    exact ⟨a, b, u, w, rfl, by rw [List.forall₂_nil_left_iff.mp hws]⟩
  cases f with
  | mod =>
    obtain ⟨a, b, u, w, rfl, rfl⟩ := htwo rfl
    obtain ⟨ha, hb⟩ : a.conforms u ∧ b.conforms w := by simpa using hrow
    refine (unrefused_modulo ?_ ?_).map fun _ _ => trivial
    · exact Value.number_of_admits (hclass _ rfl u (by simp)) ha (hnull a (by simp))
    · exact Value.number_of_admits (hclass _ rfl w (by simp)) hb (hnull b (by simp))
  | timestamp =>
    obtain ⟨a, u, rfl, rfl⟩ := hone rfl
    exact a.unrefused_cast .timestamp
  | abs =>
    obtain ⟨a, u, rfl, rfl⟩ := hone rfl
    have ha : a.conforms u := by simpa using hrow
    exact unrefused_absolute
      (Value.number_of_admits (hclass _ rfl u (by simp)) ha (hnull a (by simp)))
  | lower | upper =>
    obtain ⟨a, u, rfl, rfl⟩ := hone rfl
    trivial
  | length =>
    obtain ⟨a, u, rfl, rfl⟩ := hone rfl
    have ha : a.conforms u := by simpa using hrow
    rcases Value.string_or_bytes_of_admits (hclass _ rfl u (by simp)) ha (hnull a (by simp)) with
      ⟨s, rfl⟩ | ⟨b, rfl⟩ <;> trivial
  | regexpContains =>
    obtain ⟨a, b, u, w, rfl, rfl⟩ := htwo rfl
    obtain ⟨ha, hb⟩ : a.conforms u ∧ b.conforms w := by simpa using hrow
    obtain ⟨s, rfl⟩ := Value.string_of_admits (hclass _ rfl u (by simp)) ha (hnull a (by simp))
    obtain ⟨p, rfl⟩ := Value.string_of_admits (hclass _ rfl w (by simp)) hb (hnull b (by simp))
    exact unrefused_patternOccurs s p
  | concat => trivial
  | currentTimestamp => exact absurd rfl hnow
  | _ => cases hf

/-- A row function refuses no row of its argument types. -/
theorem unrefused_onRow {f : SqlFunction} {now : Moment} {types : List ColumnType}
    {t : ColumnType} (hf : f.isRowFunction) (ht : f.resultType types = .ok t)
    {args : List Value} (harity : f ≠ currentTimestamp → f.checkArity args.length = .ok ())
    (hargs : Conforming args types) : Unrefused (f.onRow now t args) := by
  unfold onRow
  split
  · trivial
  · next hnow =>
    split
    · trivial
    · next hnull =>
      refine unrefused_onPresent hf hnow ht (harity hnow) hargs fun v hv => ?_
      simp only [List.any_eq_true, not_exists, not_and, Bool.not_eq_true] at hnull
      exact hnull v hv

/-- A reducing function refuses no values. -/
theorem unrefused_reduce {f : SqlFunction} (hf : f.isAggregating) (t : ColumnType)
    (vs : List Value) : Unrefused (f.reduce t vs) := by
  cases f with
  | count d => cases d <;> trivial
  | sum =>
    have hintegers : ∀ (vs : List Value) (n : Int64), Unrefused (Reduce.sumIntegers n vs) := by
      intro vs
      induction vs with
      | nil => exact fun n => trivial
      | cons v vs ih =>
        intro n
        unfold Reduce.sumIntegers
        split
        · exact ih _
        · rfl
    unfold reduce Reduce.sum
    dsimp only
    split
    · trivial
    · split
      · exact (hintegers _ 0).map fun _ _ => trivial
      · trivial
  | avg | min | max | arrayAgg o => trivial
  | _ => cases hf

/-- What a call is built with is what the function accepts, or a constant in its place. -/
theorem Takes.checkArity {σ : Type} {f : SqlFunction} {args : List (Expr σ)} (h : f.Takes args)
    (hf : f.isRowFunction) (hnow : f ≠ currentTimestamp) :
    f.checkArity args.length = .ok () := by
  obtain ⟨written, harity, rfl⟩ := h
  cases written with
  | nil =>
    have hleast : f.arity.1 = 0 := Nat.le_zero.mp (length_of_checkArity harity).1
    cases f <;> simp_all [arity, isRowFunction, isAggregating, kind]
  | cons e es => exact harity

end SqlFunction

/-! ## Operations -/

theorem unrefused_onOne {f : Value → Except Error Value} {t : ColumnType} {row : List Value}
    (hrow : Conforming row [t]) (hf : ∀ a, a.conforms t → Unrefused (f a)) :
    Unrefused (onOne f row) := by
  cases hrow with
  | cons ha hnil =>
    cases hnil
    exact hf _ ha

namespace Expr

variable {σ : Type}

/-- A call that no value makes succeed. -/
def isBareRowNumber : Expr σ → Bool
  | call .rowNumber _ => true
  | _ => false

/-- An operation refuses no row of the operand types it accepts. -/
theorem unrefused_kernel {now : Moment} {e : Expr σ} (he : e.isOperation) (hbuilt : e.IsBuilt)
    (hbare : e.isBareRowNumber = false) {types : List ColumnType} {k : Kernel}
    (hk : e.kernel now types = .ok k) {row : List Value} (hrow : Conforming row types)
    (hlen : row.length = e.children.length) : Unrefused (k.2 row) := by
  unfold kernel at hk
  split at hk
  · obtain ⟨t, ht, rfl⟩ := by simpa only [bind_eq_ok, pure_eq_ok] using hk
    cases hrow with
    | cons ha hrest =>
      cases hrest with
      | cons hb hnil =>
        cases hnil
        exact BinaryOp.unrefused_apply ht ha hb
  · obtain ⟨-, rfl⟩ := by simpa only [ite_error_eq_ok, Except.ok.injEq] using hk
    exact unrefused_onOne hrow fun _ _ => trivial
  · obtain ⟨-, rfl⟩ := by simpa only [ite_error_eq_ok, Except.ok.injEq] using hk
    exact unrefused_onOne hrow fun a _ => Evaluated.unrefused_negateValue a
  · obtain rfl := Except.ok.inj hk
    exact unrefused_onOne hrow fun _ _ => trivial
  · obtain ⟨-, -, rfl⟩ := by simpa only [bind_eq_ok, pure_eq_ok] using hk
    trivial
  · obtain ⟨-, -, -, rfl⟩ := conditionalKernel_eq_ok.mp hk
    trivial
  · obtain ⟨-, -, -, rfl⟩ := conditionalKernel_eq_ok.mp hk
    trivial
  · obtain rfl := Except.ok.inj hk
    exact unrefused_onOne hrow fun a _ => a.unrefused_cast _
  · rw [error_ite_eq_ok] at hk
    obtain ⟨-, hk⟩ := hk
    split at hk
    · simp at hk
    · obtain rfl := Except.ok.inj hk
      exact unrefused_onOne hrow fun _ _ => trivial
  · obtain ⟨-, -, rfl⟩ := by simpa only [bind_eq_ok, pure_eq_ok] using hk
    trivial
  · obtain ⟨-, -, rfl⟩ := by simpa only [bind_eq_ok, pure_eq_ok] using hk
    trivial
  · next f args =>
    obtain ⟨t, ht, rfl⟩ := by simpa only [bind_eq_ok, pure_eq_ok] using hk
    have hf : f.isRowFunction := by
      cases f <;> simp_all [isOperation, isBareRowNumber, SqlFunction.isRowFunction]
    refine SqlFunction.unrefused_onRow hf ht (fun hnow => ?_) hrow
    rw [hlen]
    exact SqlFunction.Takes.checkArity hbuilt hf hnow
  · simp at hk

end Expr

/-! ## Reductions and windows -/

/-- A reducing call on an accepted argument gives one value for each group. -/
theorem Evaluated.accepted_reduce {f : SqlFunction} (hf : f.isAggregating) {frame : Frame}
    {arg : Evaluated} {t : ColumnType} (ht : f.resultType [arg.type] = .ok t) :
    Accepted (fun a => ∃ c, a = .column c ∧ c.type = t ∧
      c.length = (arg.groupsOf frame).length) (Evaluated.reduce f frame arg) := by
  unfold Evaluated.reduce
  rw [ht]
  refine (Accepted.mapM fun vs _ => SqlFunction.unrefused_reduce hf t vs).bind fun vs _ hvs => ?_
  exact ⟨⟨vs, t⟩, rfl, rfl, hvs.length_eq.symm⟩

namespace Window

variable {f : SqlFunction} {now : Moment} {args : List Column} {t : ColumnType}

theorem unrefused_partitionValues
    (harity : f.isRowFunction → f ≠ .currentTimestamp → f.checkArity args.length = .ok ())
    (ht : f.resultType (args.map Column.type) = .ok t) (hargs : ∀ c ∈ args, c.Typed)
    (rows : List Nat) : Unrefused (partitionValues f now t args rows) := by
  unfold partitionValues
  split
  · trivial
  · next hnumber =>
    split
    · next hf => exact (SqlFunction.unrefused_reduce hf t _).bind fun _ _ _ => trivial
    · next hf =>
      have hrow : f.isRowFunction := by simpa [SqlFunction.isRowFunction, hf] using hnumber
      refine (Accepted.mapM (S := fun _ _ => True) fun i _ => ?_).mono fun _ _ => trivial
      refine Accepted.bind (Q := fun _ => True) ?_ fun _ _ _ => trivial
      refine SqlFunction.unrefused_onRow hrow ht (fun hnow => ?_) (conforming_row hargs i)
      rw [List.length_map]
      exact harity hrow hnow

/-- A call over a window on typed columns of accepted types gives a value for each row. -/
theorem accepted_apply
    (harity : f.isRowFunction → f ≠ .currentTimestamp → f.checkArity args.length = .ok ())
    (ht : f.resultType (args.map Column.type) = .ok t) (hargs : ∀ c ∈ args, c.Typed)
    (partitionBy : List Column) (orderBy : List (Column × SortOrder)) (n : Nat) :
    Accepted (fun c => c.type = t ∧ c.length = n) (apply f now args partitionBy orderBy n) := by
  unfold apply
  rw [ht]
  refine (Accepted.mapM (S := fun _ _ => True) fun rows _ => ?_).bind fun placed _ _ => ?_
  · exact unrefused_partitionValues harity ht hargs rows
  · exact ⟨rfl, by simp [Column.length]⟩

end Window

end ColumnarSql
