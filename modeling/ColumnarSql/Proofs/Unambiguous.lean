import ColumnarSql.Join
import ColumnarSql.Proofs.Acceptance

/-!
# Failures over ambiguous names

Names are looked up in frames, and nothing else fails over an ambiguous one: no operator,
function, reduction or window does, whatever its operands (`Expr.unambiguous_kernel`). So an
expression fails over an ambiguous name only if a field of it is one, or a subquery does
(`Expr.unambiguous_eval`).
-/

set_option autoImplicit false

namespace ColumnarSql

/-- Whether a failure is that of an ambiguous name. -/
def Error.isAmbiguity : Error → Bool
  | .ambiguousField .. => true
  | _ => false

/-- A computation that does not fail over an ambiguous name. -/
def Unambiguous {α : Type} : Except Error α → Prop
  | .ok _ => True
  | .error x => x.isAmbiguity = false

namespace Unambiguous

variable {α β : Type}

/-- A step after another one is unambiguous if both are. -/
theorem bind {x : Except Error α} {f : α → Except Error β} (hx : Unambiguous x)
    (hf : ∀ a, x = .ok a → Unambiguous (f a)) : Unambiguous (x >>= f) := by
  cases x with
  | ok a => exact hf a rfl
  | error e => exact hx

theorem map {x : Except Error α} (hx : Unambiguous x) (f : α → β) : Unambiguous (x.map f) := by
  cases x with
  | ok a => trivial
  | error e => exact hx

/-- A walk over a list is unambiguous if every member is. -/
theorem mapM {f : α → Except Error β} :
    ∀ {as : List α}, (∀ a ∈ as, Unambiguous (f a)) → Unambiguous (as.mapM f)
  | [], _ => trivial
  | a :: as, h => by
    rw [List.mapM_cons]
    refine (h a List.mem_cons_self).bind fun b _ => ?_
    exact (mapM fun c hc => h c (List.mem_cons_of_mem a hc)).bind fun _ _ => trivial

theorem foldlM {f : β → α → Except Error β} (h : ∀ b a, Unambiguous (f b a)) :
    ∀ (as : List α) (b : β), Unambiguous (as.foldlM f b)
  | [], _ => trivial
  | a :: as, b => by
    rw [List.foldlM_cons]
    exact (h b a).bind fun c _ => foldlM h as c

/-- A failure by evaluation is none over a name. -/
theorem of_accepted {Q : α → Prop} {x : Except Error α} (h : Accepted Q x) : Unambiguous x := by
  cases x with
  | ok a => trivial
  | error e => cases e <;> first | rfl | cases h

/-- What does not fail so does not fail with the error of an ambiguous field. -/
theorem ne_ambiguousField {x : Except Error α} (h : Unambiguous x) (path cs : List String) :
    x ≠ .error (.ambiguousField path cs) := by
  rintro rfl
  cases h

end Unambiguous

/-! ## Types and values -/

/-- Types that do not coerce are another error. -/
theorem ColumnType.unambiguous_coerce (s t : ColumnType) : Unambiguous (s.coerce t) := by
  unfold coerce
  split <;> trivial

theorem ColumnType.unambiguous_coerceAll (ts : List ColumnType) : Unambiguous (coerceAll ts) := by
  unfold coerceAll
  split <;> trivial

namespace BinaryOp

/-- An operator refuses types with another error. -/
theorem unambiguous_resultType (op : BinaryOp) (l r : ColumnType) :
    Unambiguous (op.resultType l r) := by
  have haccepted : Unambiguous (op.typeOfAccepted l r) := by
    cases op
    case add | sub | mul => exact ColumnType.unambiguous_coerce l r
    case eq | ne | lt | le | gt | ge => exact (ColumnType.unambiguous_coerce l r).map _
    all_goals trivial
  unfold resultType
  split
  · split
    · exact haccepted
    · trivial
  · exact haccepted

theorem unambiguous_arithmetic (op : BinaryOp) (a b : Value) :
    Unambiguous (op.arithmetic a b) := by
  unfold arithmetic
  split
  · trivial
  · trivial
  · split <;> split <;> trivial
  · split
    · exact .of_accepted (op.unrefused_floatArithmetic _ _)
    · trivial

theorem unambiguous_apply (op : BinaryOp) (a b : Value) : Unambiguous (op.apply a b) := by
  cases op
  case add | sub | mul | div => exact unambiguous_arithmetic _ a b
  all_goals trivial

end BinaryOp

namespace Evaluated

variable {σ : Type}

/-- A condition of the wrong type is another error. -/
theorem unambiguous_requireCondition (construct : String) (a : Evaluated) :
    Unambiguous (a.requireCondition construct) := by
  unfold requireCondition
  split <;> trivial

theorem unambiguous_declaredFields :
    ∀ (i : Nat) (fs : List (Field DataType)) (ts : List ColumnType),
      Unambiguous (declaredFields i fs ts)
  | i, ⟨n, some t⟩ :: fs, a :: as => by
    unfold declaredFields
    split
    · exact (unambiguous_declaredFields (i + 1) fs as).map _
    · trivial
  | i, ⟨n, none⟩ :: fs, a :: as => (unambiguous_declaredFields (i + 1) fs as).map _
  | _, [], _ => by simp only [declaredFields]; trivial
  | _, ⟨_, _⟩ :: _, [] => by simp only [declaredFields]; trivial

theorem unambiguous_structFields (declared : Option (List (Field DataType)))
    (ts : List ColumnType) : Unambiguous (structFields declared ts) := by
  unfold structFields
  split
  · trivial
  · split
    · trivial
    · exact unambiguous_declaredFields 1 _ ts

/-- Elements of different types are another error. -/
theorem unambiguous_elementType (declared : ColumnType) (ts : List ColumnType) :
    Unambiguous (elementType declared ts) := by
  unfold elementType
  split
  · trivial
  · refine (ColumnType.unambiguous_coerceAll ts).bind fun t _ => ?_
    split
    · split <;> trivial
    · trivial
    · trivial

end Evaluated

/-! ## Functions -/

namespace SqlFunction

/-- A function refuses types with another error. -/
theorem unambiguous_resultType (f : SqlFunction) (ts : List ColumnType) :
    Unambiguous (f.resultType ts) := by
  have haccepted : Unambiguous (f.typeOfAccepted ts) := by
    cases f
    case sum | mod | abs | min | max => exact ColumnType.unambiguous_coerceAll ts
    case arrayAgg =>
      refine (ColumnType.unambiguous_coerceAll ts).bind fun t _ => ?_
      split <;> trivial
    all_goals trivial
  unfold resultType
  split
  · split
    · exact haccepted
    · trivial
  · exact haccepted

theorem unambiguous_modulo (a b : Value) : Unambiguous (modulo a b) := by
  unfold modulo
  split
  · split <;> trivial
  · split
    · split <;> trivial
    · trivial

/-- A function fails on present values for other reasons. -/
theorem unambiguous_onPresent (f : SqlFunction) (t : ColumnType) (args : List Value) :
    Unambiguous (f.onPresent t args) := by
  unfold onPresent
  split
  · exact (unambiguous_modulo _ _).map _
  · trivial
  · exact .of_accepted (Value.unrefused_cast _ _)
  · unfold absolute
    split
    · split <;> trivial
    · trivial
    · trivial
  · trivial
  · trivial
  · unfold lengthOf
    split <;> trivial
  · unfold patternOccurs
    split
    · split <;> trivial
    · trivial
  · trivial
  · trivial

theorem unambiguous_onRow (f : SqlFunction) (now : Moment) (t : ColumnType)
    (args : List Value) : Unambiguous (f.onRow now t args) := by
  unfold onRow
  split
  · trivial
  · split
    · trivial
    · exact unambiguous_onPresent f t args

theorem unambiguous_checkOptions (f : SqlFunction) : Unambiguous f.checkOptions := by
  unfold checkOptions
  split
  · split
    · trivial
    · split <;> trivial
  · trivial

theorem unambiguous_reduce (f : SqlFunction) (t : ColumnType) (vs : List Value) :
    Unambiguous (f.reduce t vs) := by
  by_cases hf : f.isAggregating
  · exact .of_accepted (unrefused_reduce hf t vs)
  · cases f <;> trivial

end SqlFunction

/-! ## Operations -/

/-- A function of one operand is as unambiguous as its values. -/
theorem unambiguous_onOne {f : Value → Except Error Value} (hf : ∀ v, Unambiguous (f v))
    (row : List Value) : Unambiguous (onOne f row) := by
  unfold onOne
  split
  · exact hf _
  · trivial

theorem unambiguous_onTwo {f : Value → Value → Except Error Value}
    (hf : ∀ v w, Unambiguous (f v w)) (row : List Value) : Unambiguous (onTwo f row) := by
  unfold onTwo
  split
  · exact hf _ _
  · trivial

/-- A function of rows is unambiguous if it is on every row. -/
theorem Evaluated.unambiguous_mapRows {σ : Type} (e : Expr σ) (t : ColumnType)
    {f : List Value → Except Error Value} (hf : ∀ row, Unambiguous (f row))
    (args : List Evaluated) : Unambiguous (mapRows e t f args) := by
  have hshape : ∀ (s : Shape) (a : Evaluated), Unambiguous (s.extend e a) := by
    intro s a
    unfold Shape.extend
    split
    case h_4 | h_5 => split <;> trivial
    all_goals trivial
  have hrows : ∀ n, Unambiguous (rowValues args f n) := fun n => .mapM fun i _ => hf _
  unfold mapRows
  refine (Unambiguous.foldlM hshape args .constant).bind fun s _ => ?_
  split
  · exact (hf _).bind fun _ _ => trivial
  · exact (hrows _).bind fun _ _ => trivial
  · exact (hrows _).bind fun _ _ => trivial

namespace Expr

variable {σ : Type}

/-- Branches of different types are another error. -/
theorem unambiguous_conditionalKernel (construct : String) (ts : List ColumnType) :
    Unambiguous (conditionalKernel construct ts) := by
  unfold conditionalKernel
  split
  · trivial
  · exact (ColumnType.unambiguous_coerceAll _).bind fun _ _ => trivial

/-- No operation fails over a name, neither on the types of its operands nor on their values. -/
theorem unambiguous_kernel (now : Moment) (e : Expr σ) (ts : List ColumnType) :
    Unambiguous (e.kernel now ts) ∧
      ∀ k, e.kernel now ts = .ok k → ∀ row, Unambiguous (k.2 row) := by
  unfold kernel
  split
  · refine ⟨(BinaryOp.unambiguous_resultType _ _ _).bind fun _ _ => trivial, fun k hk row => ?_⟩
    obtain ⟨t, -, rfl⟩ := by simpa only [bind_eq_ok, pure_eq_ok] using hk
    exact unambiguous_onTwo (BinaryOp.unambiguous_apply _) row
  · refine ⟨by split <;> trivial, fun k hk row => ?_⟩
    obtain ⟨-, rfl⟩ := by simpa only [ite_error_eq_ok, Except.ok.injEq] using hk
    exact unambiguous_onOne (fun _ => by trivial) row
  · refine ⟨by split <;> trivial, fun k hk row => ?_⟩
    obtain ⟨-, rfl⟩ := by simpa only [ite_error_eq_ok, Except.ok.injEq] using hk
    exact unambiguous_onOne (fun v => .of_accepted (Evaluated.unrefused_negateValue v)) row
  · refine ⟨trivial, fun k hk row => ?_⟩
    obtain rfl := Except.ok.inj hk
    exact unambiguous_onOne (fun _ => by trivial) row
  · refine ⟨(ColumnType.unambiguous_coerceAll _).bind fun _ _ => trivial, fun k hk row => ?_⟩
    obtain ⟨-, -, rfl⟩ := by simpa only [bind_eq_ok, pure_eq_ok] using hk
    trivial
  · refine ⟨unambiguous_conditionalKernel _ _, fun k hk row => ?_⟩
    obtain ⟨-, -, -, rfl⟩ := conditionalKernel_eq_ok.mp hk
    trivial
  · refine ⟨unambiguous_conditionalKernel _ _, fun k hk row => ?_⟩
    obtain ⟨-, -, -, rfl⟩ := conditionalKernel_eq_ok.mp hk
    trivial
  · refine ⟨trivial, fun k hk row => ?_⟩
    obtain rfl := Except.ok.inj hk
    exact unambiguous_onOne (fun v => .of_accepted (v.unrefused_cast _)) row
  · refine ⟨by split <;> first | trivial | (split <;> trivial), fun k hk row => ?_⟩
    rw [error_ite_eq_ok] at hk
    obtain ⟨-, hk⟩ := hk
    split at hk
    · simp at hk
    · obtain rfl := Except.ok.inj hk
      exact unambiguous_onOne (fun _ => by trivial) row
  · refine ⟨(Evaluated.unambiguous_structFields _ _).bind fun _ _ => trivial, fun k hk row => ?_⟩
    obtain ⟨-, -, rfl⟩ := by simpa only [bind_eq_ok, pure_eq_ok] using hk
    trivial
  · refine ⟨(Evaluated.unambiguous_elementType _ _).bind fun _ _ => trivial, fun k hk row => ?_⟩
    obtain ⟨-, -, rfl⟩ := by simpa only [bind_eq_ok, pure_eq_ok] using hk
    trivial
  · refine ⟨(SqlFunction.unambiguous_resultType _ _).bind fun _ _ => trivial, fun k hk row => ?_⟩
    obtain ⟨t, -, rfl⟩ := by simpa only [bind_eq_ok, pure_eq_ok] using hk
    exact SqlFunction.unambiguous_onRow _ now t row
  · exact ⟨rfl, fun k hk => by simp at hk⟩

end Expr

theorem Evaluated.unambiguous_conditional {σ : Type} (e : Expr σ) (args : List Evaluated) :
    Unambiguous (conditional e args) :=
  (ColumnType.unambiguous_coerceAll _).bind fun t _ =>
    unambiguous_mapRows e t (fun _ => by trivial) args

/-! ## Reductions and windows -/

namespace Evaluated

/-- A column of the wrong length is another error. -/
theorem unambiguous_toColumn (n : Nat) (a : Evaluated) : Unambiguous (a.toColumn n) := by
  unfold toColumn
  split
  · split <;> trivial
  · trivial
  · trivial

theorem unambiguous_windowColumn {σ : Type} (e : Expr σ) (n : Nat) (a : Evaluated) :
    Unambiguous (a.windowColumn e n) := by
  unfold windowColumn
  split
  · trivial
  · exact unambiguous_toColumn n _

/-- A mask of the wrong type or length is another error. -/
theorem unambiguous_truthMask (clause : String) (n : Nat) (a : Evaluated) :
    Unambiguous (a.truthMask clause n) := by
  have hcolumn : ∀ a : Evaluated, Unambiguous (do
      return (← a.toColumn n).values.map fun v => decide (v.boolean? = some true)) :=
    fun a => (unambiguous_toColumn n a).bind fun _ _ => trivial
  unfold truthMask
  cases a <;> dsimp only <;> split <;> first | trivial | exact hcolumn _

theorem unambiguous_reduce (f : SqlFunction) (frame : Frame) (a : Evaluated) :
    Unambiguous (reduce f frame a) := by
  refine (f.unambiguous_resultType _).bind fun t _ => ?_
  exact (Unambiguous.mapM fun vs _ => f.unambiguous_reduce t vs).bind fun _ _ => trivial

end Evaluated

theorem Window.unambiguous_apply (f : SqlFunction) (now : Moment) (args partitionBy : List Column)
    (orderBy : List (Column × SortOrder)) (n : Nat) :
    Unambiguous (apply f now args partitionBy orderBy n) := by
  refine (f.unambiguous_resultType _).bind fun t _ => ?_
  refine Unambiguous.bind (.mapM fun rows _ => ?_) fun _ _ => trivial
  unfold partitionValues
  split
  · trivial
  · split
    · exact (f.unambiguous_reduce t _).bind fun _ _ => trivial
    · exact .mapM fun i _ => (f.unambiguous_onRow now t _).bind fun _ _ => trivial

/-! ## Names -/

namespace Scope

/-- A path is looked up without ambiguity when it is resolved so. -/
theorem unambiguous_lookupFrom : ∀ {f : Frame} {outer : List Frame} {path : List String},
    Unambiguous (tryResolveIn (f :: outer) path) → Unambiguous (lookupFrom f outer path)
  | f, [], path, h => by
    unfold tryResolveIn at h
    unfold lookupFrom
    generalize f.find path = found at h ⊢
    rcases found with x | _ | c
    · exact h
    · trivial
    · trivial
  | f, g :: gs, path, h => by
    unfold tryResolveIn at h
    unfold lookupFrom
    generalize f.find path = found at h ⊢
    rcases found with x | _ | c
    · exact h
    · exact (unambiguous_lookupFrom (f := g) h).bind fun _ _ => trivial
    · trivial

/-- Reducing twice is reducing once. -/
theorem reducing_reducingFrom : ∀ (f : Frame) (outer : List Frame),
    (reducingFrom f outer).reducing = reducingFrom f outer
  | f, [] => rfl
  | f, g :: gs => by
    unfold reducingFrom
    split
    · exact reducing_reducingFrom g gs
    · next hstop =>
      rw [reducing, reducingFrom]
      exact if_neg hstop

/-- Reducing calls inside reducing calls are evaluated in the same frame. -/
theorem reducing_reducing (s : Scope) : s.reducing.reducing = s.reducing :=
  reducing_reducingFrom s.frame s.outer

end Scope

/-! ## Evaluation -/

namespace Expr

variable {now : Moment} {s : Scope}

/-- A list of expressions is as unambiguous as its members. -/
theorem unambiguous_evalAll {es : List (Expr Plan)}
    (h : ∀ e ∈ es, Unambiguous (e.eval now s)) : Unambiguous (evalAll now es s) := by
  rw [evalAll_eq_mapM]
  exact .mapM h

/-- Branches are as unambiguous as their parts. -/
theorem unambiguous_evalBranches : ∀ {bs : List (Expr Plan × Expr Plan)},
    (∀ e ∈ branchParts bs, Unambiguous (e.eval now s)) → Unambiguous (evalBranches now bs s)
  | [], _ => trivial
  | (c, r) :: bs, h => by
    refine (h c (by simp [branchParts])).bind fun a _ => ?_
    refine (a.unambiguous_requireCondition "CASE").bind fun _ _ => ?_
    refine (h r (by simp [branchParts])).bind fun b _ => ?_
    exact (unambiguous_evalBranches fun e he => h e (by simp [branchParts, he])).bind
      fun _ _ => trivial

theorem unambiguous_windowInput {whole e : Expr Plan} (h : Unambiguous (e.eval now s)) :
    Unambiguous (windowInput now whole e s) :=
  h.bind fun a _ => a.unambiguous_windowColumn whole s.frame.numRows

/-- A field that is no ambiguous name, or a subquery that fails over one for no row. -/
def ClearIn (s : Scope) (e : Expr Plan) : Prop :=
  (∀ path, e = .field path → Unambiguous (s.tryResolve path)) ∧
    ∀ plan, e = .exists plan → ∀ i, Unambiguous (plan (s.frame.row i :: s.outer))

/-- A node fails over an ambiguous name only if it is one or a part of it does. -/
theorem unambiguous_node {e : Expr Plan} (hself : e.ClearIn s)
    (hparts : ∀ c ∈ e.children, Unambiguous (c.eval now s))
    (hreduced : ∀ c ∈ e.children, Unambiguous (c.eval now s.reducing)) :
    Unambiguous (e.eval now s) := by
  by_cases hop : e.isOperation
  · cases hconditional : e.isConditional with
    | false =>
      rw [eval_operation hop hconditional]
      refine (unambiguous_evalAll hparts).bind fun args _ => ?_
      obtain ⟨hkernel, hrows⟩ := unambiguous_kernel now e (args.map Evaluated.type)
      exact hkernel.bind fun k hk => Evaluated.unambiguous_mapRows e k.1 (hrows k hk) args
    | true =>
      cases e with
      | case bs o =>
        refine (unambiguous_evalBranches fun e he => hparts e (by simp [children, he])).bind
          fun args _ => ?_
        exact (hparts o (by simp [children])).bind fun a _ =>
          Evaluated.unambiguous_conditional _ _
      | conditional c p n =>
        refine (hparts c (by simp [children])).bind fun a _ => ?_
        refine (a.unambiguous_requireCondition "IF").bind fun _ _ => ?_
        refine (hparts p (by simp [children])).bind fun b _ => ?_
        exact (hparts n (by simp [children])).bind fun d _ =>
          Evaluated.unambiguous_conditional _ _
      | _ => cases hconditional
  · cases e with
    | literal l => trivial
    | field path => exact Scope.unambiguous_lookupFrom (hself.1 path rfl)
    | «exists» plan =>
      refine Unambiguous.bind (.mapM fun i _ => ?_) fun _ _ => trivial
      exact (hself.2 plan rfl i).bind fun _ _ => trivial
    | call f args =>
      have hf : f.isAggregating = true := by simpa [isOperation] using hop
      simp only [eval, hf, if_true]
      refine f.unambiguous_checkOptions.bind fun _ _ => ?_
      refine Unambiguous.bind ?_ fun a _ => Evaluated.unambiguous_reduce f _ a
      cases args with
      | nil => trivial
      | cons e es => exact hreduced e (by simp [children])
    | analytic f args ps os =>
      refine f.unambiguous_checkOptions.bind fun _ _ => ?_
      simp only [evalColumns_eq_mapM, evalKeys_eq_mapM]
      refine Unambiguous.bind (.mapM fun e he => ?_) fun columns _ => ?_
      · exact unambiguous_windowInput (hparts e (by simp [children, he]))
      refine Unambiguous.bind (.mapM fun e he => ?_) fun partitionBy _ => ?_
      · exact unambiguous_windowInput (hparts e (by simp [children, he]))
      refine Unambiguous.bind (.mapM fun k hk => ?_) fun orderBy _ => ?_
      · have hkey : k.1 ∈ os.map (·.1) := List.mem_map_of_mem hk
        have hpart := hparts k.1 (List.mem_append_right (args ++ ps) hkey)
        exact (unambiguous_windowInput hpart).bind fun _ _ => trivial
      · exact (Window.unambiguous_apply f now _ _ _ _).bind fun _ _ => trivial
    | selector e label position => exact hparts e (by simp [children])
    | groupedBy e => exact (hparts e (by simp [children])).bind fun _ _ => trivial
    | _ => exact absurd rfl hop

/-- An expression fails over an ambiguous name only if a field of it is one, in the scope or
where its reducing calls are evaluated, or a subquery does. -/
theorem unambiguous_eval {e : Expr Plan}
    (he : e.Every fun d => d.ClearIn s ∧ d.ClearIn s.reducing) : Unambiguous (e.eval now s) := by
  have hboth : Unambiguous (e.eval now s) ∧ Unambiguous (e.eval now s.reducing) := by
    induction he with
    | intro self _ ih =>
      have hreduced := fun c hc => (ih c hc).2
      refine ⟨unambiguous_node self.1 (fun c hc => (ih c hc).1) hreduced, ?_⟩
      refine unambiguous_node self.2 hreduced ?_
      rwa [Scope.reducing_reducing]
  exact hboth.1

end Expr

end ColumnarSql
