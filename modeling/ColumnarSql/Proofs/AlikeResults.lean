import ColumnarSql.Proofs.Acceptance
import ColumnarSql.Proofs.EvaluationTypes
import ColumnarSql.Proofs.RectangularTables

/-!
# Results of one shape

Two scopes give alike results when both are constants, columns or ungrouped rows, of one type. An
operation looks at the shapes and types of its operands before it looks at a value. So if it has a
result on some operands, it is accepted on operands alike to them, with a result alike to the first
one (`carriesOver_operation`), and so is a call over a window (`carriesOver_analytic`). A
conditional evaluates its parts in turn, and is accepted for each of them.
-/

set_option autoImplicit false

namespace ColumnarSql

/-- What follows the steps of a walk that succeeds follows the steps of another walk over the same
list. -/
theorem Accepted.along {α β γ : Type} {R : β → γ → Prop} {f : α → Except Error β}
    {g : α → Except Error γ} :
    ∀ {as : List α} {bs : List β}, as.mapM f = .ok bs →
      (∀ a ∈ as, ∀ b, f a = .ok b → Accepted (R b) (g a)) →
        Accepted (List.Forall₂ R bs) (as.mapM g)
  | [], bs, h, _ => by
    obtain rfl := pure_eq_ok.mp h
    exact .nil
  | a :: as, bs, h, hstep => by
    simp only [List.mapM_cons, bind_eq_ok, pure_eq_ok] at h ⊢
    obtain ⟨b, hb, bs, hbs, rfl⟩ := h
    refine (hstep a List.mem_cons_self b hb).bind fun c _ hc => ?_
    refine (along hbs fun d hd => hstep d (List.mem_cons_of_mem a hd)).bind fun cs _ hcs => ?_
    exact .cons hc hcs

/-! ## Shapes -/

/-- Results of one kind and type. Unless it is a constant, the second one has `n` values, or
ungrouped rows in `n` groups. -/
inductive Evaluated.Alike (n : Nat) : Evaluated → Evaluated → Prop where
  | constant {v w : Value} {t : ColumnType} : Alike n (.constant v t) (.constant w t)
  | column {c d : Column} (type : c.type = d.type) (length : d.length = n) :
      Alike n (.column c) (.column d)
  | grouped {level : Nat} {c d : Column} {gs hs : Partition} (type : c.type = d.type)
      (length : hs.length = n) : Alike n (.grouped level c gs) (.grouped level d hs)

namespace Evaluated.Alike

variable {n : Nat} {a b : Evaluated}

theorem type_eq (h : a.Alike n b) : a.type = b.type := by
  cases h with
  | constant => rfl
  | column type | grouped type => exact type

theorem map_type {as bs : List Evaluated} (h : List.Forall₂ (Evaluated.Alike n) as bs) :
    as.map Evaluated.type = bs.map Evaluated.type :=
  map_eq_map_of_forall₂ (h.imp fun _ _ => type_eq)

theorem firstOfGroups (h : a.Alike n b) : a.firstOfGroups.Alike n b.firstOfGroups := by
  cases h with
  | constant => exact .constant
  | column type length => exact .column type length
  | grouped type length => exact .column type (by simpa [Column.length] using length)

/-- What is a column of its length is one in the other scope. -/
theorem exists_toColumn (h : a.Alike n b) {m : Nat} {c : Column} (hc : a.toColumn m = .ok c) :
    ∃ d, b.toColumn n = .ok d ∧ c.type = d.type ∧ d.length = n := by
  cases h with
  | @constant v w t =>
    obtain rfl := Except.ok.inj hc
    exact ⟨.constant w t n, rfl, rfl, Column.length_constant w t n⟩
  | @column c' d type length =>
    simp only [toColumn, ite_error_eq_ok, Except.ok.injEq] at hc
    obtain ⟨-, rfl⟩ := hc
    exact ⟨d, by simp [toColumn, length], type, length⟩
  | grouped => simp [toColumn] at hc

theorem exists_windowColumn {σ : Type} {call : Expr σ} (h : a.Alike n b) {m : Nat} {c : Column}
    (hc : a.windowColumn call m = .ok c) :
    ∃ d, b.windowColumn call n = .ok d ∧ c.type = d.type := by
  cases a with
  | grouped level d gs => simp [windowColumn] at hc
  | _ =>
    obtain ⟨d, hd, htype, -⟩ := h.exists_toColumn hc
    cases h
    exact ⟨d, hd, htype⟩

theorem exists_truthMask (h : a.Alike n b) {clause : String} {m : Nat} {mask : List Bool}
    (hmask : a.truthMask clause m = .ok mask) : ∃ mask', b.truthMask clause n = .ok mask' := by
  obtain ⟨htype, c, hc, -⟩ := truthMask_eq_ok.mp hmask
  obtain ⟨d, hd, -, -⟩ := h.exists_toColumn hc
  exact ⟨_, truthMask_eq_ok.mpr ⟨h.type_eq ▸ htype, d, hd, rfl⟩⟩

end Evaluated.Alike

/-- Shapes of operands that are alike one by one. -/
inductive Shape.Alike (n : Nat) : Shape → Shape → Prop where
  | constant : Alike n constant constant
  | rows {m : Nat} : Alike n (rows m) (rows n)
  | grouped {level m k : Nat} {gs hs : Partition} (length : hs.length = n) :
      Alike n (grouped level m gs) (grouped level k hs)

namespace Shape

variable {σ : Type} {e : Expr σ} {n : Nat}

theorem Alike.extend {s s' t : Shape} {a b : Evaluated} (hs : s.Alike n s') (hab : a.Alike n b)
    (h : extend e s a = .ok t) : ∃ t', Shape.extend e s' b = .ok t' ∧ t.Alike n t' := by
  cases hab with
  | constant =>
    obtain rfl : s = t := by cases s <;> exact Except.ok.inj h
    exact ⟨s', by cases s' <;> rfl, hs⟩
  | column type length =>
    subst length
    cases hs with
    | constant =>
      obtain rfl := Except.ok.inj h
      exact ⟨_, rfl, .rows⟩
    | rows =>
      simp only [Shape.extend, ite_error_eq_ok, Except.ok.injEq] at h
      obtain ⟨-, rfl⟩ := h
      exact ⟨_, by simp [Shape.extend], .rows⟩
    | grouped => simp [Shape.extend] at h
  | grouped type length =>
    cases hs with
    | constant =>
      obtain rfl := Except.ok.inj h
      exact ⟨_, rfl, .grouped length⟩
    | rows => simp [Shape.extend] at h
    | grouped length' =>
      simp only [Shape.extend, ite_error_eq_ok, Except.ok.injEq] at h
      obtain ⟨rfl, rfl⟩ := h
      exact ⟨_, if_pos rfl, .grouped length'⟩

theorem Alike.foldlM {as bs : List Evaluated} (hab : List.Forall₂ (Evaluated.Alike n) as bs) :
    ∀ {s s' t : Shape}, s.Alike n s' → as.foldlM (Shape.extend e) s = .ok t →
      ∃ t', bs.foldlM (Shape.extend e) s' = .ok t' ∧ t.Alike n t' := by
  induction hab with
  | nil =>
    intro s s' t hs h
    obtain rfl := pure_eq_ok.mp h
    exact ⟨s', rfl, hs⟩
  | cons ha _ ih =>
    intro s s' t hs h
    obtain ⟨u, hu, h⟩ := bind_eq_ok.mp h
    obtain ⟨u', hu', huu⟩ := hs.extend ha hu
    obtain ⟨t', ht', htt⟩ := ih huu h
    exact ⟨t', bind_eq_ok.mpr ⟨u', hu', ht'⟩, htt⟩

end Shape

/-! ## Mapping rows -/

namespace Evaluated

variable {σ : Type} {e : Expr σ} {n : Nat} {as bs : List Evaluated} {a : Evaluated}

theorem accepted_rowValues {f : List Value → Except Error Value}
    (hf : ∀ i, Unrefused (f (row bs i))) (m : Nat) :
    Accepted (fun vs => vs.length = m) (rowValues bs f m) :=
  (Accepted.mapM fun i _ => hf i).mono fun vs hvs => by simpa using hvs.length_eq.symm

/-- A function that refuses no row is accepted on operands alike to some that it maps. -/
theorem accepted_mapRows {t : ColumnType} {f : List Value → Except Error Value}
    (hab : List.Forall₂ (Alike n) as bs) (hf : ∀ i, Unrefused (f (row bs i)))
    (ha : mapRows e t f as = .ok a) : Accepted (a.Alike n) (mapRows e t f bs) := by
  obtain ⟨shape, hshape, ha⟩ := bind_eq_ok.mp ha
  obtain ⟨shape', hshape', halike⟩ := Shape.Alike.foldlM hab .constant hshape
  have hops : Shape.ofOperands e bs = .ok shape' := hshape'
  unfold mapRows
  rw [hops]
  cases halike with
  | constant =>
    obtain ⟨v, -, ha⟩ := bind_eq_ok.mp ha
    obtain rfl := pure_eq_ok.mp ha
    exact (hf 0).bind fun w _ _ => .constant
  | rows =>
    obtain ⟨vs, -, ha⟩ := bind_eq_ok.mp ha
    obtain rfl := pure_eq_ok.mp ha
    exact (accepted_rowValues hf n).bind fun ws _ hws => .column rfl hws
  | grouped length =>
    obtain ⟨vs, -, ha⟩ := bind_eq_ok.mp ha
    obtain rfl := pure_eq_ok.mp ha
    exact (accepted_rowValues hf _).bind fun ws _ _ => .grouped rfl length

theorem accepted_conditional (hab : List.Forall₂ (Alike n) as bs)
    (ha : conditional e as = .ok a) : Accepted (a.Alike n) (conditional e bs) := by
  obtain ⟨t, ht, ha⟩ := bind_eq_ok.mp ha
  have htypes : (resultsOf as).map type = (resultsOf bs).map type := by
    rw [← Expr.resultsOf_map, ← Expr.resultsOf_map, Alike.map_type hab]
  have htotal : ∀ i,
      Unrefused ((fun r : List Value => Except.ok ((choose r).widen t)) (row bs i)) :=
    fun _ => trivial
  unfold conditional
  rw [← htypes, ht]
  exact accepted_mapRows hab htotal ha

end Evaluated

/-! ## Operations -/

namespace Expr

variable {now : Moment} {s t : Scope}

/-- Where the expression has a result in the first scope, it is accepted in the second one, with a
result alike. -/
def CarriesOver (now : Moment) (e : Expr Plan) (s t : Scope) : Prop :=
  ∀ ⦃a : Evaluated⦄, e.eval now s = .ok a →
    Accepted (a.Alike t.frame.outputLength) (e.eval now t)

theorem accepted_evalAll {es : List (Expr Plan)} {as : List Evaluated}
    (hes : ∀ e ∈ es, e.CarriesOver now s t) (h : evalAll now es s = .ok as) :
    Accepted (List.Forall₂ (Evaluated.Alike t.frame.outputLength) as) (evalAll now es t) := by
  rw [evalAll_eq_mapM] at h ⊢
  exact Accepted.along h fun e he a ha => hes e he ha

theorem accepted_requireCondition {n : Nat} {construct : String} {a b : Evaluated}
    (hab : a.Alike n b) {u : Unit} (h : a.requireCondition construct = .ok u) :
    Unrefused (b.requireCondition construct) := by
  have hb : b.requireCondition construct = .ok u :=
    Evaluated.requireCondition_eq_ok.mpr (hab.type_eq ▸ Evaluated.requireCondition_eq_ok.mp h)
  rw [hb]
  trivial

theorem accepted_evalBranches :
    ∀ {bs : List (Expr Plan × Expr Plan)} {as : List Evaluated},
      (∀ e ∈ branchParts bs, e.CarriesOver now s t) → evalBranches now bs s = .ok as →
        Accepted (List.Forall₂ (Evaluated.Alike t.frame.outputLength) as)
          (evalBranches now bs t)
  | [], as, _, h => by
    obtain rfl := Except.ok.inj h
    exact .nil
  | (c, r) :: bs, as, hparts, h => by
    simp only [evalBranches, bind_eq_ok, pure_eq_ok] at h
    obtain ⟨a, ha, _, hcondition, b, hb, rest, hrest, rfl⟩ := h
    simp only [branchParts, List.forall_mem_cons] at hparts
    obtain ⟨hc, hr, hbs⟩ := hparts
    refine (hc ha).bind fun a' _ haa => ?_
    refine (accepted_requireCondition haa hcondition).bind fun _ _ _ => ?_
    refine (hr hb).bind fun b' _ hbb => ?_
    refine (accepted_evalBranches hbs hrest).bind fun rest' _ hrests => ?_
    exact .cons haa (.cons hbb hrests)

/-- `ROW_NUMBER` without a window has no row to number. -/
theorem eval_bareRowNumber_ne_ok {e : Expr Plan} (hbuilt : e.IsBuilt) (hbare : e.isBareRowNumber)
    (a : Evaluated) : e.eval now s ≠ .ok a := by
  unfold isBareRowNumber at hbare
  split at hbare
  · next args =>
    obtain ⟨written, harity, rfl⟩ := hbuilt
    obtain rfl : written = [] := by
      have hmost := (SqlFunction.length_of_checkArity harity).2 0 rfl
      exact List.length_eq_zero_iff.mp (Nat.le_zero.mp hmost)
    intro h
    cases h
  · cases hbare

/-- An operation carries over when its parts do. -/
theorem carriesOver_operation {e : Expr Plan} (he : e.isOperation) (hbuilt : e.IsBuilt)
    (hconstants : ∀ c ∈ e.children, c.ConstantsConform) (ht : t.Typed)
    (hparts : ∀ c ∈ e.children, c.CarriesOver now s t) : e.CarriesOver now s t := by
  intro a ha
  -- `eval_operation` is not for conditionals: they check a condition before the next part.
  cases hc : e.isConditional with
  | true =>
    unfold isConditional at hc
    split at hc
    · next bs o =>
      simp only [children, List.forall_mem_append, List.forall_mem_singleton] at hparts
      simp only [eval, bind_eq_ok] at ha ⊢
      obtain ⟨as, has, b, hb, ha⟩ := ha
      refine (accepted_evalBranches hparts.1 has).bind fun as' _ haas => ?_
      refine (hparts.2 hb).bind fun b' _ hbb => ?_
      exact Evaluated.accepted_conditional (List.rel_append haas (.cons hbb .nil)) ha
    · next c p n =>
      simp only [children, List.forall_mem_cons] at hparts
      obtain ⟨hc, hp, hn, -⟩ := hparts
      simp only [eval, bind_eq_ok] at ha ⊢
      obtain ⟨b, hb, _, hcondition, d, hd, o, ho, ha⟩ := ha
      refine (hc hb).bind fun b' _ hbb => ?_
      refine (accepted_requireCondition hbb hcondition).bind fun _ _ _ => ?_
      refine (hp hd).bind fun d' _ hdd => ?_
      refine (hn ho).bind fun o' _ hoo => ?_
      exact Evaluated.accepted_conditional (.cons hbb (.cons hdd (.cons hoo .nil))) ha
    · cases hc
  | false =>
    have hbare : e.isBareRowNumber = false := by
      by_contra hbare
      exact eval_bareRowNumber_ne_ok hbuilt (by simpa using hbare) a ha
    obtain ⟨as, has, k, hk, hmap⟩ := (eval_operation_eq_ok he).mp ha
    rw [eval_operation he hc]
    refine (accepted_evalAll hparts has).bind fun bs hbs hab => ?_
    have hall := (evalAll_eq_ok_iff _ _).mp hbs
    have htyped := typed_evalAll (fun c hc => eval_typed (hconstants c hc) ht) hbs
    rw [← Evaluated.Alike.map_type hab, hk]
    refine Evaluated.accepted_mapRows hab (fun i => ?_) hmap
    rw [Evaluated.Alike.map_type hab] at hk
    exact unrefused_kernel he hbuilt hbare hk (conforming_row htyped i)
      (by simp [Evaluated.row, hall.length_eq])

/-! ## Calls over windows -/

/-- An input of a call over a window that has a column has one of that type in the other scope. -/
theorem accepted_windowInput {whole e : Expr Plan} {c : Column}
    (ht : t.frame.outputLength = t.frame.numRows) (he : e.CarriesOver now s t)
    (h : windowInput now whole e s = .ok c) :
    Accepted (fun d => c.type = d.type) (windowInput now whole e t) := by
  obtain ⟨a, ha, hc⟩ := windowInput_eq_ok_iff.mp h
  refine (he ha).bind fun b _ hab => ?_
  obtain ⟨d, hd, htype⟩ := hab.exists_windowColumn hc
  rw [← ht, hd]
  exact htype

/-- A call over a window carries over when its parts do. -/
theorem carriesOver_analytic {f : SqlFunction} {args ps : List (Expr Plan)}
    {os : List (Expr Plan × SortOrder)} (hbuilt : f.Takes args)
    (hconstants : ∀ c ∈ args, c.ConstantsConform) (htyped : t.Typed)
    (ht : t.frame.outputLength = t.frame.numRows)
    (hparts : ∀ c ∈ (analytic f args ps os).children, c.CarriesOver now s t) :
    (analytic f args ps os).CarriesOver now s t := by
  intro a ha
  simp only [children, List.mem_append] at hparts
  simp only [eval, evalColumns_eq_mapM, evalKeys_eq_mapM, bind_eq_ok, pure_eq_ok] at ha ⊢
  obtain ⟨u, hoptions, cs, hcs, partitionBy, hps, orderBy, hos, c, hc, rfl⟩ := ha
  rw [hoptions]
  have hinput : ∀ e, e ∈ args ∨ e ∈ ps → ∀ c : Column,
      windowInput now (analytic f args ps os) e s = .ok c →
        Accepted (fun d => c.type = d.type) (windowInput now (analytic f args ps os) e t) :=
    fun e he c hc => accepted_windowInput ht (hparts e (.inl he)) hc
  refine (Accepted.along hcs fun e he => hinput e (.inl he)).bind fun ds hds htypes => ?_
  refine (Accepted.along hps fun e he => hinput e (.inr he)).bind fun _ _ _ => ?_
  refine (Accepted.along (R := fun _ _ => True) hos fun k hk c hc => ?_).bind fun _ _ _ => ?_
  · obtain ⟨d, hd, -⟩ := bind_eq_ok.mp hc
    exact (accepted_windowInput ht (hparts k.1 (.inr (List.mem_map_of_mem hk))) hd).bind
      fun _ _ _ => trivial
  obtain ⟨type, htype, hc⟩ := bind_eq_ok.mp hc
  obtain ⟨placed, -, hc⟩ := bind_eq_ok.mp hc
  obtain rfl := pure_eq_ok.mp hc
  have hsame : cs.map Column.type = ds.map Column.type :=
    map_eq_map_of_forall₂ htypes
  have harity : f.isRowFunction → f ≠ .currentTimestamp → f.checkArity ds.length = .ok () := by
    intro hf hnow
    rw [← ((mapM_eq_ok_iff _ _ _).mp hds).length_eq]
    exact hbuilt.checkArity hf hnow
  have hcolumns : ∀ d ∈ ds, d.Typed := by
    intro d hd
    obtain ⟨e, he, hed⟩ := exists_of_mem_mapM hds hd
    exact typed_windowInput (eval_typed (hconstants e he) htyped) hed
  rw [hsame] at htype
  refine (Window.accepted_apply harity htype hcolumns _ _ _).bind fun d _ hd => ?_
  exact .column hd.1.symm (hd.2.trans ht.symm)

end Expr

end ColumnarSql
