import ColumnarSql.Proofs.InsertedMarks
import ColumnarSql.Proofs.QueryTypes

/-!
# Queries without the current time

CURRENT_TIMESTAMP alone reads the clock, and evaluation takes the time that its calls read. An
expression without such a call has the same result at all times (`Expr.eval_at`), and marks do not
bring one in (`Expr.readsNoClock_mark`). A SELECT of such expressions is the same plan at all times
(`SelectOf.run_at`), so a query without them, its subqueries included, gives the same table whenever
it is run (`Query.run_at`). So a theorem that compares two evaluations of timeless expressions can
give each of them a time of its own.
-/

set_option autoImplicit false

namespace ColumnarSql

variable {now later : Moment}

/-! ## Calls -/

namespace SqlFunction

variable {f : SqlFunction}

/-- Every other function gives a row the same value at all times. -/
theorem onRow_at (hf : f ≠ .currentTimestamp) : f.onRow now = f.onRow later := by
  funext t args
  rw [onRow, onRow, if_neg hf, if_neg hf]

end SqlFunction

/-- A window call of another function than CURRENT_TIMESTAMP does not read the clock. -/
theorem Window.apply_at {f : SqlFunction} (hf : f ≠ .currentTimestamp) :
    apply f now = apply f later := by
  have hrow : f.onRow now = f.onRow later := SqlFunction.onRow_at hf
  have hvalues : partitionValues f now = partitionValues f later := by
    funext t args rows
    rw [partitionValues, partitionValues, hrow]
  funext args partitionBy orderBy n
  rw [apply, apply, hvalues]

namespace Expr

section

variable {σ : Type}

/-- A call of CURRENT_TIMESTAMP. -/
def readsClock : Expr σ → Bool
  | call f _ | analytic f _ _ _ => f = .currentTimestamp
  | _ => false

/-- No call of CURRENT_TIMESTAMP in the expression; its subqueries are not searched. -/
abbrev ReadsNoClock (e : Expr σ) : Prop := e.Every fun d => d.readsClock = false

theorem SameNode.readsClock_eq {e e' : Expr σ} (h : SameNode e e') :
    e.readsClock = e'.readsClock := by
  cases h <;> rfl

/-- A mark is no call. -/
theorem readsNoClock_mark {isKey : List String → Except Error Bool} {e e' : Expr σ}
    (he : e.ReadsNoClock) (h : e.mark isKey = .ok e') : e'.ReadsNoClock := by
  refine mark_induction (motive := fun e e' => e.ReadsNoClock → e'.ReadsNoClock) (fun _ _ he => he)
    (fun e _ _ he => .intro rfl (by simpa [children] using he)) ?_ e h he
  intro e e' _ _ node parts he
  refine .intro (node.readsClock_eq ▸ he.self) fun c' hc' => ?_
  obtain ⟨i, hi, rfl⟩ := List.getElem_of_mem hc'
  have hi' : i < e.children.length := parts.length_eq ▸ hi
  exact parts.get hi' hi (he.part (List.getElem_mem hi'))

end

/-! ## Expressions -/

section Lists

variable {es : List (Expr Plan)}

theorem evalAll_at (h : ∀ e ∈ es, e.eval now = e.eval later) :
    evalAll now es = evalAll later es := by
  funext s
  rw [evalAll_eq_mapM, evalAll_eq_mapM]
  exact mapM_congr_left fun e he => congrFun (h e he) s

theorem evalFirst_at (h : ∀ e ∈ es, e.eval now = e.eval later) :
    evalFirst now es = evalFirst later es := by
  funext s
  cases es with
  | nil => rfl
  | cons e es => rw [evalFirst, evalFirst, h e List.mem_cons_self]

theorem evalBranches_at : ∀ {bs : List (Expr Plan × Expr Plan)},
    (∀ e ∈ branchParts bs, e.eval now = e.eval later) → evalBranches now bs = evalBranches later bs
  | [], _ => rfl
  | (c, r) :: bs, h => by
    simp only [branchParts, List.forall_mem_cons] at h
    obtain ⟨hc, hr, hbs⟩ := h
    funext s
    rw [evalBranches, evalBranches, hc, hr, evalBranches_at hbs]

theorem windowInput_at {e : Expr Plan} (h : e.eval now = e.eval later) (whole : Expr Plan)
    (s : Scope) : windowInput now whole e s = windowInput later whole e s := by
  rw [windowInput, windowInput, h]

theorem evalColumns_at (h : ∀ e ∈ es, e.eval now = e.eval later) (whole : Expr Plan) :
    evalColumns now whole es = evalColumns later whole es := by
  funext s
  rw [evalColumns_eq_mapM, evalColumns_eq_mapM]
  exact mapM_congr_left fun e he => windowInput_at (h e he) whole s

theorem evalKeys_at {ks : List (Expr Plan × SortOrder)}
    (h : ∀ e ∈ ks.map (·.1), e.eval now = e.eval later) (whole : Expr Plan) :
    evalKeys now whole ks = evalKeys later whole ks := by
  funext s
  rw [evalKeys_eq_mapM, evalKeys_eq_mapM]
  refine mapM_congr_left fun k hk => ?_
  rw [windowInput_at (h k.1 (List.mem_map_of_mem hk))]

end Lists

/-- An expression without CURRENT_TIMESTAMP has the same result, or the same error, at all times. -/
theorem eval_at {e : Expr Plan} (he : e.ReadsNoClock) : e.eval now = e.eval later := by
  induction he with
  | @intro e self _ ih =>
    funext s
    cases e with
    | literal l | field path | «exists» plan => rfl
    | not e | negate e | nullCheck n e | cast e t | extract p e | selector e l p | groupedBy e =>
      simp only [eval, ih e (by simp [children])]
    | binary op l r =>
      simp only [eval, ih l (by simp [children]), ih r (by simp [children])]
    | conditional c p n =>
      simp only [eval, ih c (by simp [children]), ih p (by simp [children]),
        ih n (by simp [children])]
    | inList n e es =>
      simp only [children, List.forall_mem_cons] at ih
      simp only [eval, ih.1, evalAll_at ih.2]
    | struct d es | array t es empty =>
      simp only [children] at ih
      simp only [eval, evalAll_at ih]
    | case bs o =>
      simp only [children, List.forall_mem_append, List.forall_mem_singleton] at ih
      simp only [eval, evalBranches_at ih.1, ih.2]
    | call f args =>
      have hf : f ≠ .currentTimestamp := by simpa [readsClock] using self
      have hrow : f.onRow now = f.onRow later := SqlFunction.onRow_at hf
      simp only [children] at ih
      simp only [eval, evalFirst_at ih, evalAll_at ih, Evaluated.callRows, hrow]
    | analytic f args ps os =>
      have hf : f ≠ .currentTimestamp := by simpa [readsClock] using self
      have happly : Window.apply f now = Window.apply f later := Window.apply_at hf
      simp only [children, List.forall_mem_append] at ih
      simp only [eval, evalColumns_at ih.1.1, evalColumns_at ih.1.2, evalKeys_at ih.2, happly]

end Expr

/-! ## GROUP BY -/

namespace Grouping

variable {outer : List Frame} {selectors : List (Selector Plan)}

/-- A key path reads the clock only in the selector that it names. -/
theorem keyPath_at (h : ∀ x ∈ selectors, x.expr.ReadsNoClock) (path : List String) :
    keyPath now outer selectors path = keyPath later outer selectors path := by
  refine bind_congr fun f => bind_congr fun p? => ?_
  cases p? with
  | some p => rfl
  | none =>
    dsimp only
    split
    · rfl
    · next x hx =>
      rw [Expr.eval_at (h x (List.mem_of_find?_eq_some hx))]

/-- A key reads the clock only in the selector that it stands for. -/
theorem keyOf_at (h : ∀ x ∈ selectors, x.expr.ReadsNoClock) (key : Expr Plan) :
    keyOf now outer selectors key = keyOf later outer selectors key := by
  have hpath : keyPath now outer selectors = keyPath later outer selectors :=
    funext (keyPath_at h)
  cases key with
  | field path => exact keyPath_at h path
  | literal l => simp only [keyOf, hpath]
  | _ => rfl

/-- The keys are the same at all times, and only they are evaluated. -/
theorem groupBy_at (h : ∀ x ∈ selectors, x.expr.ReadsNoClock) (keys : List (Expr Plan)) :
    groupBy now outer selectors keys = groupBy later outer selectors keys := by
  have hkeys : keyOf now outer selectors = keyOf later outer selectors := funext (keyOf_at h)
  rw [groupBy, groupBy, hkeys]

end Grouping

/-! ## SELECT -/

namespace SelectOf

variable {s : SelectOf Plan (Except Error Frame)} {scope : Scope}
  {selectors : List (Selector Plan)} {exprs : List (Expr Plan)}

/-- Of FROM and WHERE, only the condition reads the clock. -/
theorem inputScope_at (h : ∀ c, s.condition = some c → c.ReadsNoClock) (outer : List Frame) :
    s.inputScope now outer = s.inputScope later outer := by
  refine bind_congr fun f => ?_
  cases hc : s.condition with
  | none => rfl
  | some c =>
    dsimp only
    rw [Expr.eval_at (h c hc)]

/-- Grouping reads the clock only in the selectors that keys stand for. -/
theorem groupedFields_at (h : ∀ x ∈ selectors, x.expr.ReadsNoClock) :
    s.groupedFields now scope selectors = s.groupedFields later scope selectors := by
  rw [groupedFields, groupedFields, Grouping.groupBy_at h]

/-- A table of fields reads the clock only in their expressions. -/
theorem fieldsTable_at (h : ∀ e ∈ exprs, e.ReadsNoClock) :
    fieldsTable now scope selectors exprs = fieldsTable later scope selectors exprs := by
  have hfields : (selectors.zip exprs).mapM (fun p => fieldColumn now scope p.1 p.2) =
      (selectors.zip exprs).mapM fun p => fieldColumn later scope p.1 p.2 := by
    refine mapM_congr_left fun p hp => ?_
    rw [fieldColumn, fieldColumn, Expr.eval_at (h p.2 (List.of_mem_zip hp).2)]
  rw [fieldsTable, fieldsTable, hfields]

/-- HAVING reads the clock only in its condition. -/
theorem applyHaving_at {c : Expr Plan} (hc : c.ReadsNoClock) (result : Table) (grouped : Scope) :
    applyHaving now c result grouped = applyHaving later c result grouped := by
  refine bind_congr_of_ok fun m hmark => ?_
  rw [Expr.eval_at (Expr.readsNoClock_mark hc hmark)]

/-- A SELECT of expressions without CURRENT_TIMESTAMP is the same plan at all times. -/
theorem run_at (h : ∀ e ∈ s.exprs, e.ReadsNoClock) : s.run now = s.run later := by
  have hfields : ∀ e ∈ s.fields.flatMap SelectField.exprs, e.ReadsNoClock :=
    fun e he => h e (by simp [exprs, he])
  have hcondition : ∀ c, s.condition = some c → c.ReadsNoClock :=
    fun c hc => h c (by simp [exprs, hc])
  have hhaving : ∀ c, s.having = some c → c.ReadsNoClock :=
    fun c hc => h c (by simp [exprs, hc])
  funext outer
  have hinput : s.inputScope now outer = s.inputScope later outer := inputScope_at hcondition outer
  rw [run, run, hinput]
  refine if_congr Iff.rfl rfl ?_
  refine bind_congr fun scope => bind_congr_of_ok fun selectors hexpand => ?_
  have hselectors : ∀ x ∈ selectors, x.expr.ReadsNoClock :=
    forall_expand (fun _ => .leaf rfl rfl) hfields hexpand
  rw [groupedFields_at hselectors]
  refine bind_congr_of_ok fun p hgrouped => ?_
  have hmarked : ∀ e ∈ p.2, e.ReadsNoClock :=
    forall_marked (fun _ _ _ => Expr.readsNoClock_mark)
      (fun x hx => .intro rfl (by simpa [Selector.toExpr, Expr.children] using hselectors x hx))
      hgrouped
  dsimp only
  rw [fieldsTable_at hmarked]
  refine bind_congr fun result => ?_
  cases hc : s.having with
  | none => rfl
  | some c => exact applyHaving_at (hhaving c hc) result p.1

end SelectOf

/-! ## FROM, ORDER BY and LIMIT -/

namespace Join

/-- ON reads the clock only in its condition. -/
theorem onMatches_at {e : Expr Plan} (he : e.ReadsNoClock) (f g : Frame) :
    onMatches now e f g = onMatches later e f g := by
  rw [onMatches, onMatches, Expr.eval_at he]

/-- A join reads the clock only in its condition. -/
theorem extend_at {j : JoinOf Plan (Except Error NamedTable)}
    (h : ∀ e ∈ j.condition.exprs, e.ReadsNoClock) (f : Frame) :
    extend now f j = extend later f j := by
  refine bind_congr fun g => ?_
  cases hj : j.condition with
  | none => rfl
  | «using» names => rfl
  | on e =>
    dsimp only
    rw [onMatches_at (h e (by simp [hj, JoinCondition.exprs]))]

theorem joins_at : ∀ {joins : List (JoinOf Plan (Except Error NamedTable))},
    (∀ j ∈ joins, ∀ e ∈ j.condition.exprs, e.ReadsNoClock) → ∀ f,
      joins.foldlM (extend now) f = joins.foldlM (extend later) f
  | [], _, _ => rfl
  | j :: js, h, f => by
    obtain ⟨hj, hjs⟩ := List.forall_mem_cons.mp h
    rw [List.foldlM_cons, List.foldlM_cons, extend_at hj]
    exact bind_congr fun g => joins_at hjs g

end Join

namespace OrderedOf

theorem constantCount_at {e : Expr Plan} (he : e.ReadsNoClock) (clause : String) :
    constantCount now clause e = constantCount later clause e := by
  rw [constantCount, constantCount, Expr.eval_at he]

theorem limited_at {limit offset : Option (Expr Plan)}
    (hlimit : ∀ e, limit = some e → e.ReadsNoClock)
    (hoffset : ∀ e, offset = some e → e.ReadsNoClock) (t : Table) :
    limited now limit offset t = limited later limit offset t := by
  cases limit with
  | none => rfl
  | some l =>
    have hcount : constantCount now "LIMIT" l = constantCount later "LIMIT" l :=
      constantCount_at (hlimit l rfl) _
    cases offset with
    | none => rw [limited, limited, hcount]
    | some o =>
      have hstart : constantCount now "OFFSET" o = constantCount later "OFFSET" o :=
        constantCount_at (hoffset o rfl) _
      rw [limited, limited, hcount]
      dsimp only
      rw [hstart]

/-- Of the bindings, only whether there are any matters. -/
theorem run_at {q : OrderedOf Plan (Except Error NamedTable)}
    {bindings : List (String × Except Error NamedTable)}
    (hbindings : bindings.isEmpty = q.bindings.isEmpty)
    (hlimit : ∀ e, q.limit = some e → e.ReadsNoClock)
    (hoffset : ∀ e, q.offset = some e → e.ReadsNoClock) :
    run now { q with bindings := bindings } = run later q := by
  rw [run, run, hbindings]
  refine if_congr Iff.rfl rfl ?_
  exact bind_congr fun p => bind_congr fun t => limited_at hlimit hoffset t

end OrderedOf

/-! ## Queries -/

/-- An expression that is planned alike at two times and has no call of CURRENT_TIMESTAMP outside
its subqueries. -/
structure Expr.PlannedAlike (c : Catalog) (now later : Moment) (e : Expr Select) : Prop where
  planExpr_eq : planExpr ⟨c, now⟩ e = planExpr ⟨c, later⟩ e
  readsNoClock : e.ReadsNoClock

variable {c : Catalog}

theorem readsNoClock_planExpr (env : Session) {e : Expr Select} (h : e.ReadsNoClock) :
    (planExpr env e).ReadsNoClock :=
  every_planExpr env (fun e he => by cases e <;> exact he) h

theorem planExpr?_at {e? : Option (Expr Select)}
    (h : ∀ e ∈ e?.toList, e.PlannedAlike c now later) :
    planExpr? ⟨c, now⟩ e? = planExpr? ⟨c, later⟩ e? := by
  cases e? with
  | none => rfl
  | some e => rw [planExpr?, planExpr?, (h e (by simp)).planExpr_eq]

theorem planExprs_at {es : List (Expr Select)} (h : ∀ e ∈ es, e.PlannedAlike c now later) :
    planExprs ⟨c, now⟩ es = planExprs ⟨c, later⟩ es := by
  rw [planExprs_eq_map, planExprs_eq_map]
  exact List.map_congr_left fun e he => (h e he).planExpr_eq

theorem planKeys_at {ks : List (Expr Select × SortOrder)}
    (h : ∀ e ∈ ks.map (·.1), e.PlannedAlike c now later) :
    planKeys ⟨c, now⟩ ks = planKeys ⟨c, later⟩ ks := by
  rw [planKeys_eq_map, planKeys_eq_map]
  refine List.map_congr_left fun k hk => ?_
  rw [(h k.1 (List.mem_map_of_mem hk)).planExpr_eq]

theorem planFields_at {fs : List (SelectField Select)}
    (h : ∀ e ∈ fs.flatMap SelectField.exprs, e.PlannedAlike c now later) :
    planFields ⟨c, now⟩ fs = planFields ⟨c, later⟩ fs := by
  rw [planFields_eq_map, planFields_eq_map]
  refine List.map_congr_left fun x hx => ?_
  have hexprs : ∀ e ∈ x.exprs, e.PlannedAlike c now later :=
    fun e he => h e (List.mem_flatMap.mpr ⟨x, hx, he⟩)
  cases x with
  | one s =>
    rw [SelectField.planned, SelectField.planned,
      (hexprs s.expr (by simp [SelectField.exprs])).planExpr_eq]
  | star s =>
    have hof : s.of.map (planExpr ⟨c, now⟩) = s.of.map (planExpr ⟨c, later⟩) :=
      Option.map_congr fun e he =>
        (hexprs e (by simp [SelectField.exprs, he])).planExpr_eq
    have hreplace : s.replace.map (fun r => (planExpr ⟨c, now⟩ r.1, r.2)) =
        s.replace.map fun r => (planExpr ⟨c, later⟩ r.1, r.2) := by
      refine List.map_congr_left fun r hr => ?_
      have hmem : r.1 ∈ (SelectField.star s).exprs := by
        simpa [SelectField.exprs] using .inr ⟨r.2, hr⟩
      rw [(hexprs r.1 hmem).planExpr_eq]
    rw [SelectField.planned, SelectField.planned, hof, hreplace]

/-- A SELECT whose expressions and source are planned alike has the same plan. -/
theorem SelectOf.plan_at {s : SelectOf Select Source}
    (h : ∀ e ∈ s.exprs, e.PlannedAlike c now later)
    (hsource : planSource? ⟨c, now⟩ s.source = planSource? ⟨c, later⟩ s.source) :
    (Select.mk s).plan ⟨c, now⟩ = (Select.mk s).plan ⟨c, later⟩ := by
  have hreads : ∀ e ∈ s.exprs, e.ReadsNoClock := fun e he => (h e he).readsNoClock
  simp only [exprs, List.mem_append] at h
  have hplanned : s.planned ⟨c, now⟩ = s.planned ⟨c, later⟩ := by
    rw [planned, planned, hsource, planFields_at fun e he => h e (.inl (.inl (.inl he))),
      planExpr?_at fun e he => h e (.inl (.inl (.inr he))),
      planExprs_at fun e he => h e (.inl (.inr he)), planExpr?_at fun e he => h e (.inr he)]
  rw [plan_mk, plan_mk, hplanned]
  refine run_at ?_
  rw [planned, exprs_planned ⟨c, later⟩ s.source, List.forall_mem_map]
  exact fun e he => readsNoClock_planExpr _ (hreads e he)

theorem readsNoClock_planJoins (env : Session) {joins : List (JoinOf Select Query)}
    (h : ∀ e ∈ joinExprs joins, e.ReadsNoClock) :
    ∀ j ∈ planJoins env joins, ∀ e ∈ j.condition.exprs, e.ReadsNoClock := by
  induction joins with
  | nil => simp [planJoins]
  | cons j js ih =>
    obtain ⟨kind, ⟨q, label⟩, condition⟩ := j
    simp only [joinExprs, List.mem_append] at h
    have hjs := ih fun e he => h e (.inr he)
    rw [planJoins_eq_map] at hjs ⊢
    rw [List.map_cons, List.forall_mem_cons]
    refine ⟨fun e he => ?_, hjs⟩
    cases condition with
    | none | «using» names =>
      simp [JoinOf.planned, JoinCondition.planned, JoinCondition.exprs] at he
    | on d =>
      obtain rfl : e = planExpr env d := by
        simpa [JoinOf.planned, JoinCondition.planned, JoinCondition.exprs] using he
      exact readsNoClock_planExpr env (h d (.inl (.inr (by simp [JoinCondition.exprs]))))

mutual

theorem planSource?_at : ∀ {source : Option Source},
    (∀ e ∈ sourceExprs? source, e.PlannedAlike c now later) →
      planSource? ⟨c, now⟩ source = planSource? ⟨c, later⟩ source
  | none, _ => by rw [planSource?, planSource?]
  | some ⟨⟨q, label⟩, joins⟩, h => by
    simp only [sourceExprs?, List.mem_append] at h
    have hq := run_of_plannedAlike fun e he => h e (.inl he)
    have hjoins := planJoins_at fun e he => h e (.inr he)
    have hclock := readsNoClock_planJoins ⟨c, later⟩ fun e he => (h e (.inr he)).readsNoClock
    rw [planSource?, planSource?, hq, hjoins, Join.sourceFrame, Join.sourceFrame]
    exact congrArg some (bind_congr fun f => Join.joins_at hclock f)

theorem planJoins_at : ∀ {joins : List (JoinOf Select Query)},
    (∀ e ∈ joinExprs joins, e.PlannedAlike c now later) →
      planJoins ⟨c, now⟩ joins = planJoins ⟨c, later⟩ joins
  | [], _ => by rw [planJoins, planJoins]
  | ⟨kind, ⟨q, label⟩, condition⟩ :: js, h => by
    simp only [joinExprs, List.mem_append] at h
    have hq := run_of_plannedAlike fun e he => h e (.inl (.inl he))
    have hjs := planJoins_at fun e he => h e (.inr he)
    cases condition with
    | none | «using» names => rw [planJoins, planJoins, hq, hjs]
    | on e =>
      have he := h e (.inl (.inr (by simp [JoinCondition.exprs])))
      rw [planJoins, planJoins, hq, hjs, he.planExpr_eq]

theorem plan_of_plannedAlike : ∀ {s : Select}, (∀ e ∈ s.exprs, e.PlannedAlike c now later) →
    s.plan ⟨c, now⟩ = s.plan ⟨c, later⟩
  | ⟨⟨distinct, fields, source, condition, groupBy, having⟩⟩, h => by
    simp only [Select.exprs, List.mem_append] at h
    have hsource := planSource?_at fun e he => h e (.inl he)
    exact SelectOf.plan_at (fun e he => h e (.inr he)) hsource

/-- A query whose expressions are planned alike gives the same table at both times. -/
theorem run_of_plannedAlike : ∀ {q : Query}, (∀ e ∈ q.exprs, e.PlannedAlike c now later) →
    q.run ⟨c, now⟩ = q.run ⟨c, later⟩
  | .table r, _ => by rw [Query.run, Query.run]
  | .select s, h => by
    rw [Query.run, Query.run, plan_of_plannedAlike h]
  | .combined op left right, h => by
    simp only [Query.exprs, List.mem_append] at h
    rw [Query.run, Query.run, run_of_plannedAlike fun e he => h e (.inl he),
      run_of_plannedAlike fun e he => h e (.inr he)]
  | .ordered ⟨bindings, base, orderBy, limit, offset⟩, h => by
    simp only [Query.exprs, List.mem_append, Option.mem_toList] at h
    have hbase := run_of_plannedAlike fun e he => h e (.inl (.inl (.inl he)))
    have hkeys := planKeys_at fun e he => h e (.inl (.inl (.inr he)))
    have hlimit : ∀ e ∈ limit.toList, e.PlannedAlike c now later :=
      fun e he => h e (.inl (.inr (by simpa using he)))
    have hoffset : ∀ e ∈ offset.toList, e.PlannedAlike c now later :=
      fun e he => h e (.inr (by simpa using he))
    have hbindings : (runBindings ⟨c, now⟩ bindings).isEmpty =
        (runBindings ⟨c, later⟩ bindings).isEmpty := by
      rw [isEmpty_runBindings, isEmpty_runBindings]
    have hclock : ∀ e? : Option (Expr Select), (∀ e ∈ e?.toList, e.PlannedAlike c now later) →
        ∀ e, planExpr? ⟨c, later⟩ e? = some e → e.ReadsNoClock := by
      intro e? he? e he
      rw [planExpr?_eq_map] at he
      obtain ⟨d, rfl, rfl⟩ := Option.map_eq_some_iff.mp he
      exact readsNoClock_planExpr _ (he? d (by simp)).readsNoClock
    rw [Query.run, Query.run, hbase, hkeys, planExpr?_at hlimit, planExpr?_at hoffset]
    rw [OrderedOf.run_at (q := ⟨_, _, _, _, _⟩) hbindings (hclock limit hlimit)
      (hclock offset hoffset)]

end

/-! ## Timeless expressions -/

/-- No call of CURRENT_TIMESTAMP in the expression, its subqueries included. -/
inductive Expr.Timeless : Expr Select → Prop where
  | intro {e : Expr Select} (self : e.readsClock = false) (parts : ∀ c ∈ e.children, c.Timeless)
      (asked : ∀ s, e = .exists s → ∀ d ∈ s.exprs, d.Timeless) : e.Timeless

namespace Expr

variable {e : Expr Select}

theorem Timeless.leaf (hclock : e.readsClock = false) (hparts : e.children = [])
    (hasked : ∀ s, e ≠ .exists s) : e.Timeless :=
  .intro hclock (by simp [hparts]) fun s hs => absurd hs (hasked s)

theorem Timeless.readsNoClock (h : e.Timeless) : e.ReadsNoClock := by
  induction h with
  | intro self _ _ ih _ => exact .intro self ih

/-- The subqueries of a timeless expression have the same plans at all times. -/
theorem Timeless.asks_alike (h : e.Timeless) :
    e.Every fun d => ∀ s, d = .exists s → s.plan ⟨c, now⟩ = s.plan ⟨c, later⟩ := by
  induction h with
  | intro _ _ asked ih ihasked =>
    refine .intro (fun s hs => plan_of_plannedAlike fun d hd => ?_) ih
    exact ⟨planExpr_congr _ (ihasked s hs d hd), (asked s hs d hd).readsNoClock⟩

theorem Timeless.plannedAlike (h : e.Timeless) : e.PlannedAlike c now later :=
  ⟨planExpr_congr _ h.asks_alike, h.readsNoClock⟩

/-- A timeless expression has the same result, or the same error, at all times. -/
theorem Timeless.eval_at (h : e.Timeless) :
    (planExpr ⟨c, now⟩ e).eval now = (planExpr ⟨c, later⟩ e).eval later := by
  rw [h.plannedAlike.planExpr_eq]
  exact Expr.eval_at (readsNoClock_planExpr _ h.readsNoClock)

end Expr

/-- A query of timeless expressions gives the same table, or the same error, at all times. -/
theorem Query.run_at {q : Query} (h : ∀ e ∈ q.exprs, e.Timeless) :
    q.run ⟨c, now⟩ = q.run ⟨c, later⟩ :=
  run_of_plannedAlike fun e he => (h e he).plannedAlike

end ColumnarSql
