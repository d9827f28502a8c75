import ColumnarSql.Eval.Expr
import ColumnarSql.Proofs.Success

/-!
# Operations

An operation is a node that computes its value in a row from the values of its parts
in that row. Its kernel is the type of the result and the function of a row, and both
depend only on the types of the parts. `eval_operation_eq_ok` reads the evaluation of
every operation as one scheme: evaluate the parts, take the kernel for their types, map
it over the rows.
-/

set_option autoImplicit false

namespace ColumnarSql

theorem Evaluated.requireCondition_eq_ok {construct : String} {a : Evaluated} {u : Unit} :
    a.requireCondition construct = .ok u ↔ OperandClass.boolean.admits a.type := by
  unfold requireCondition
  split <;> simp [*]

namespace Expr

variable {σ : Type}

/-- Whether a node computes its value in a row from the values of its parts in that row. -/
def isOperation : Expr σ → Bool
  | literal _ | field _ | .exists _ | analytic .. | selector .. | groupedBy _ => false
  | call f _ => !f.isAggregating
  | _ => true

/-- Conditions among conditions and results: every second one from the first, without the last. -/
def conditionsOf {α : Type} : List α → List α
  | c :: _ :: rest => c :: conditionsOf rest
  | _ => []

abbrev Kernel := ColumnType × (List Value → Except Error Value)

def conditionalKernel (construct : String) (types : List ColumnType) : Except Error Kernel := do
  match (conditionsOf types).find? fun t => !OperandClass.boolean.admits t with
  | some t => throw (.conditionType construct t)
  | none =>
    let t ← ColumnType.coerceAll (Evaluated.resultsOf types)
    return (t, fun row => .ok ((Evaluated.choose row).widen t))

/-- The type and the row function of an operation, for operands of the given types. -/
def kernel (now : Moment) : Expr σ → List ColumnType → Except Error Kernel
  | binary op _ _, [l, r] => do return (← op.resultType l r, onTwo op.apply)
  | not _, [t] =>
    if OperandClass.boolean.admits t then
      .ok (some .boolean, onOne fun v => .ok (v.boolean?.elim .null fun b => .boolean !b))
    else .error (.notOperandType t)
  | negate _, [t] =>
    if OperandClass.numeric.admits t then .ok (t, onOne Evaluated.negateValue)
    else .error (.negationType t)
  | nullCheck negated _, [_] =>
    .ok (some .boolean, onOne fun v => .ok (.boolean (v.isNull != negated)))
  | inList negated _ _, types => do
    let _ ← ColumnType.coerceAll types
    return (some .boolean, fun row => .ok (.boolean (Evaluated.isAmong row != negated)))
  | case _ _, types => conditionalKernel "CASE" types
  | conditional _ _ _, types => conditionalKernel "IF" types
  | cast _ target, [_] => .ok (some (.scalar target), onOne (·.cast target))
  | extract part _, [t] =>
    if !Evaluated.hasDate t then .error (.extractType t)
    else
      match part with
      | .weekStarting _ => .error (.extractPart part.name)
      | _ => .ok (some .integer, onOne fun v => .ok (Evaluated.partValue part v))
  | struct declared _, types => do
    let fields ← Evaluated.structFields declared types
    return (some (.struct fields), fun row => .ok (.struct (Value.widenFields row fields)))
  | array declared _ empty, types => do
    let t ← Evaluated.elementType declared types
    return (some (.array t), fun row => .ok (Evaluated.arrayValue t empty row))
  | call f _, types => do
    let t ← f.resultType types
    return (t, f.onRow now t)
  | e, _ => .error (.notRowWise e.render)

theorem conditionsOf_map {α β : Type} (f : α → β) :
    ∀ as : List α, conditionsOf (as.map f) = (conditionsOf as).map f
  | [] | [_] => rfl
  | _ :: _ :: rest => by simp [conditionsOf, conditionsOf_map f rest]

theorem resultsOf_map {α β : Type} (f : α → β) :
    ∀ as : List α, Evaluated.resultsOf (as.map f) = (Evaluated.resultsOf as).map f
  | [] | [_] => rfl
  | _ :: r :: rest => by simp [Evaluated.resultsOf, resultsOf_map f rest]

theorem conditionalKernel_eq_ok {construct : String} {types : List ColumnType} {k : Kernel} :
    conditionalKernel construct types = .ok k ↔
      (∀ t ∈ conditionsOf types, OperandClass.boolean.admits t) ∧
        ∃ t, ColumnType.coerceAll (Evaluated.resultsOf types) = .ok t ∧
          (t, fun row => .ok ((Evaluated.choose row).widen t)) = k := by
  unfold conditionalKernel
  split
  · next t h =>
    have hm := List.mem_of_find?_eq_some h
    have ht := List.find?_some h
    simp only [throw_ne_ok, false_iff, not_and]
    intro hall
    simp [hall t hm] at ht
  · next h =>
    simp only [bind_eq_ok, pure_eq_ok]
    have hall : ∀ t ∈ conditionsOf types, OperandClass.boolean.admits t := by simpa using h
    exact ⟨fun hk => ⟨hall, hk⟩, fun hk => hk.2⟩

/-! ## Evaluation of operations -/

@[simp] theorem evalAll_nil {now : Moment} {s : Scope} {as : List Evaluated} :
    evalAll now [] s = .ok as ↔ as = [] := by
  simp [evalAll, eq_comm]

@[simp] theorem evalAll_cons {now : Moment} {s : Scope} {e : Expr Plan} {es : List (Expr Plan)}
    {as : List Evaluated} :
    evalAll now (e :: es) s = .ok as ↔
      ∃ a, e.eval now s = .ok a ∧ ∃ bs, evalAll now es s = .ok bs ∧ as = a :: bs := by
  simp [evalAll, eq_comm (a := as)]

theorem evalAll_eq_mapM {now : Moment} {s : Scope} :
    ∀ es : List (Expr Plan), evalAll now es s = es.mapM fun e => e.eval now s
  | [] => rfl
  | e :: es => by rw [evalAll, List.mapM_cons, evalAll_eq_mapM es]

theorem evalAll_eq_ok_iff {now : Moment} {s : Scope} (es : List (Expr Plan))
    (as : List Evaluated) :
    evalAll now es s = .ok as ↔ List.Forall₂ (fun e a => e.eval now s = .ok a) es as := by
  rw [evalAll_eq_mapM, mapM_eq_ok_iff]

theorem exists_eval_of_evalAll {now : Moment} {s : Scope} {es : List (Expr Plan)}
    {as : List Evaluated} {e : Expr Plan} (h : evalAll now es s = .ok as) (he : e ∈ es) :
    ∃ a ∈ as, e.eval now s = .ok a := by
  rw [evalAll_eq_mapM] at h
  exact exists_of_mem_of_mapM (f := fun e => e.eval now s) h he

theorem evalAll_append {now : Moment} {s : Scope} {fs : List (Expr Plan)} {as : List Evaluated} :
    ∀ es : List (Expr Plan),
      evalAll now (es ++ fs) s = .ok as ↔
        ∃ bs, evalAll now es s = .ok bs ∧ ∃ cs, evalAll now fs s = .ok cs ∧ as = bs ++ cs
  | [] => by simp
  | e :: es => by
    simp only [List.cons_append, evalAll_cons, evalAll_append es]
    constructor
    · rintro ⟨a, ha, -, ⟨bs, hbs, cs, hcs, rfl⟩, rfl⟩
      exact ⟨a :: bs, ⟨a, ha, bs, hbs, rfl⟩, cs, hcs, rfl⟩
    · rintro ⟨-, ⟨a, ha, bs, hbs, rfl⟩, cs, hcs, rfl⟩
      exact ⟨a, ha, bs ++ cs, ⟨bs, hbs, cs, hcs, rfl⟩, rfl⟩

/-- CASE evaluates its branches in order and needs every condition to be BOOLEAN. -/
theorem evalBranches_eq_ok {now : Moment} {s : Scope} (o : Evaluated) :
    ∀ (bs : List (Expr Plan × Expr Plan)) (as : List Evaluated),
      evalBranches now bs s = .ok as ↔
        evalAll now (branchParts bs) s = .ok as ∧
          ∀ a ∈ conditionsOf (as ++ [o]), OperandClass.boolean.admits a.type
  | [], as => by
    simp only [evalBranches, branchParts, evalAll_nil, Except.ok.injEq]
    constructor
    · rintro rfl
      simp [conditionsOf]
    · rintro ⟨rfl, -⟩
      rfl
  | (c, r) :: bs, as => by
    simp only [evalBranches, branchParts, evalAll_cons, bind_eq_ok, pure_eq_ok,
      Evaluated.requireCondition_eq_ok, evalBranches_eq_ok o bs]
    constructor
    · rintro ⟨a, ha, -, hc, b, hb, cs, ⟨hcs, hall⟩, rfl⟩
      refine ⟨⟨a, ha, b :: cs, ⟨b, hb, cs, hcs, rfl⟩, rfl⟩, ?_⟩
      simpa [conditionsOf, hc] using hall
    · rintro ⟨⟨a, ha, -, ⟨b, hb, cs, hcs, rfl⟩, rfl⟩, hall⟩
      simp only [List.cons_append, conditionsOf, List.forall_mem_cons] at hall
      exact ⟨a, ha, (), hall.1, b, hb, cs, ⟨hcs, hall.2⟩, rfl⟩

/-- CASE and IF, which check a condition before they evaluate what follows it. -/
def isConditional : Expr σ → Bool
  | case .. | conditional .. => true
  | _ => false

/-- Any other operation evaluates all its parts first. -/
theorem eval_operation {now : Moment} {s : Scope} {e : Expr Plan} (he : e.isOperation)
    (hc : e.isConditional = false) :
    e.eval now s = (do
      let args ← evalAll now e.children s
      let k ← e.kernel now (args.map Evaluated.type)
      Evaluated.mapRows e k.1 k.2 args) := by
  rw [evalAll_eq_mapM]
  cases e with
  | binary op l r =>
    simp only [eval, children, List.mapM_cons, List.mapM_nil, bind_assoc, pure_bind, List.map_cons,
      List.map_nil, kernel, Evaluated.binary]
  | not e | negate e | nullCheck n e | cast e t =>
    simp only [eval, children, List.mapM_cons, List.mapM_nil, bind_assoc, pure_bind, List.map_cons,
      List.map_nil, kernel, Evaluated.not, Evaluated.negate, Evaluated.nullCheck, Evaluated.cast]
    refine bind_congr fun a => ?_
    try split
    all_goals rfl
  | extract p e =>
    simp only [eval, children, List.mapM_cons, List.mapM_nil, bind_assoc, pure_bind, List.map_cons,
      List.map_nil, kernel, Evaluated.extract]
    refine bind_congr fun a => ?_
    split
    · rfl
    · cases p <;> rfl
  | inList n e es =>
    simp only [eval, children, List.mapM_cons, bind_assoc, pure_bind, kernel, Evaluated.inList,
      evalAll_eq_mapM]
  | struct d es =>
    simp only [eval, children, kernel, Evaluated.struct, evalAll_eq_mapM, bind_assoc, pure_bind]
  | array t es empty =>
    simp only [eval, children, kernel, Evaluated.array, evalAll_eq_mapM, bind_assoc, pure_bind]
  | call f args =>
    have hf : f.isAggregating = false := by simpa [isOperation] using he
    simp only [eval, children, kernel, Evaluated.callRows, evalAll_eq_mapM, hf, bind_assoc,
      pure_bind]
    rfl
  | case | conditional => cases hc
  | _ => cases he

/-- An operation succeeds when its parts do, their types are accepted and its function
succeeds on every row. -/
theorem eval_operation_eq_ok {now : Moment} {s : Scope} {e : Expr Plan} {a : Evaluated}
    (he : e.isOperation) :
    e.eval now s = .ok a ↔
      ∃ args, evalAll now e.children s = .ok args ∧
        ∃ k, e.kernel now (args.map Evaluated.type) = .ok k ∧
          Evaluated.mapRows e k.1 k.2 args = .ok a := by
  cases hc : e.isConditional with
  | false => simp only [eval_operation he hc, bind_eq_ok]
  | true =>
    cases e with
    | case bs o =>
      simp only [eval, children, kernel, Evaluated.conditional, bind_eq_ok, evalAll_append,
        evalAll_cons, evalAll_nil, conditionalKernel_eq_ok, conditionsOf_map, resultsOf_map,
        List.forall_mem_map]
      constructor
      · rintro ⟨as, has, b, hb, t, ht, h⟩
        obtain ⟨has, hall⟩ := (evalBranches_eq_ok b bs as).mp has
        exact ⟨as ++ [b], ⟨as, has, [b], ⟨b, hb, [], rfl, rfl⟩, rfl⟩, _, ⟨hall, t, ht, rfl⟩, h⟩
      · rintro ⟨-, ⟨as, has, -, ⟨b, hb, -, rfl, rfl⟩, rfl⟩, -, ⟨hall, t, ht, rfl⟩, h⟩
        exact ⟨as, (evalBranches_eq_ok b bs as).mpr ⟨has, hall⟩, b, hb, t, ht, h⟩
    | conditional c p n =>
      simp only [eval, children, kernel, Evaluated.conditional, bind_eq_ok, evalAll_cons,
        evalAll_nil, conditionalKernel_eq_ok, Evaluated.requireCondition_eq_ok]
      constructor
      · rintro ⟨a, ha, -, hc, b, hb, d, hd, t, ht, h⟩
        exact ⟨[a, b, d], ⟨a, ha, [b, d], ⟨b, hb, [d], ⟨d, hd, [], rfl, rfl⟩, rfl⟩, rfl⟩, _,
          ⟨by simpa [conditionsOf] using hc, t, ht, rfl⟩, h⟩
      · rintro ⟨-, ⟨a, ha, -, ⟨b, hb, -, ⟨d, hd, -, rfl, rfl⟩, rfl⟩, rfl⟩, -, ⟨hc, t, ht, rfl⟩, h⟩
        exact ⟨a, ha, (), by simpa [conditionsOf] using hc, b, hb, d, hd, t, ht, h⟩
    | _ => cases hc

/-! ## Calls over windows -/

/-- The column that a call over a window reads from an expression. -/
def windowInput (now : Moment) (whole e : Expr Plan) (s : Scope) : Except Error Column := do
  (← e.eval now s).windowColumn whole s.frame.numRows

theorem windowInput_eq_ok_iff {now : Moment} {whole e : Expr Plan} {s : Scope} {c : Column} :
    windowInput now whole e s = .ok c ↔
      ∃ a, e.eval now s = .ok a ∧ a.windowColumn whole s.frame.numRows = .ok c :=
  bind_eq_ok

theorem evalColumns_eq_mapM {now : Moment} {whole : Expr Plan} {s : Scope} :
    ∀ es : List (Expr Plan), evalColumns now whole es s = es.mapM fun e => windowInput now whole e s
  | [] => rfl
  | e :: es => by
    rw [evalColumns, List.mapM_cons, evalColumns_eq_mapM es, windowInput, bind_assoc]

theorem evalKeys_eq_mapM {now : Moment} {whole : Expr Plan} {s : Scope} :
    ∀ ks : List (Expr Plan × SortOrder), evalKeys now whole ks s =
      ks.mapM fun k => do return (← windowInput now whole k.1 s, k.2)
  | [] => rfl
  | (e, o) :: ks => by
    rw [evalKeys, List.mapM_cons, evalKeys_eq_mapM ks]
    simp only [windowInput, bind_assoc, pure_bind]

end Expr
end ColumnarSql
