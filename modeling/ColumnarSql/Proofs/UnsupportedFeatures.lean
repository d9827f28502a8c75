import ColumnarSql.Proofs.EnclosedSelect

/-!
# Unsupported features

Some written forms have no evaluation: SELECT DISTINCT, bindings, set operators other than
`UNION ALL`, words inside ARRAY_AGG, weeks that start on a named day, and stars over anything
but a table. `Query.Unsupported` says that one of them stands somewhere in a query. Nothing is
skipped in evaluation, neither over no rows nor in branches that no row takes: a successful
expression has evaluated all its parts (`Expr.evaluated_children`), also when its parts are marked
(`Expr.Contains.mark`), and a successful query all its clauses. So a query with an unsupported
form never succeeds (`run_ne_ok_of_unsupported`).
-/

set_option autoImplicit false

namespace ColumnarSql

/-! ## Expressions -/

namespace Expr

/-- A node that has no evaluation. -/
def isUnsupported {σ : Type} : Expr σ → Bool
  | call (.arrayAgg o) _ => o.ordered || o.limited
  | analytic (.arrayAgg o) _ _ _ => o.ordered || o.limited
  | extract (.weekStarting _) _ => true
  | _ => false

variable {now : Moment} {s : Scope} {e : Expr Plan}

theorem checkOptions_ne_ok {o : ArrayAggOptions} (h : o.ordered || o.limited) (u : Unit) :
    (SqlFunction.arrayAgg o).checkOptions ≠ .ok u := by
  unfold SqlFunction.checkOptions
  cases ho : o.ordered <;> cases hl : o.limited <;> simp_all

theorem eval_ne_ok_of_isUnsupported (h : e.isUnsupported) (a : Evaluated) :
    e.eval now s ≠ .ok a := by
  intro ha
  unfold isUnsupported at h
  split at h
  · obtain ⟨u, hu, -⟩ := bind_eq_ok.mp ha
    exact checkOptions_ne_ok h u hu
  · obtain ⟨u, hu, -⟩ := bind_eq_ok.mp ha
    exact checkOptions_ne_ok h u hu
  · obtain ⟨args, -, k, hk, -⟩ := (eval_operation_eq_ok rfl).mp ha
    rcases hts : args.map Evaluated.type with _ | ⟨t, _ | ⟨_, _⟩⟩ <;> simp [hts, kernel] at hk
  · cases h

/-- A successful evaluation has evaluated every part, in this scope or in that of the groups. -/
theorem evaluated_children (hbuilt : e.IsBuilt) {a : Evaluated} (h : e.eval now s = .ok a) :
    ∀ c ∈ e.children, ∃ s' b, c.eval now s' = .ok b := by
  have here : (∀ c ∈ e.children, ∃ b, c.eval now s = .ok b) →
      ∀ c ∈ e.children, ∃ s' b, c.eval now s' = .ok b :=
    fun hall c hc => ⟨s, hall c hc⟩
  by_cases hop : e.isOperation
  · exact here (evaluated_parts (.inl hop) h)
  · cases e with
    | literal l | field path | «exists» plan => simp [children]
    | selector e label position => exact here (by simpa [children] using ⟨a, h⟩)
    | groupedBy e =>
      obtain ⟨b, hb, -⟩ := bind_eq_ok.mp h
      exact here (by simpa [children] using ⟨b, hb⟩)
    | call f args =>
      have hf : f.isAggregating = true := by simpa [isOperation] using hop
      obtain ⟨c, rfl⟩ := SqlFunction.Takes.one hbuilt hf
      simp only [eval, hf, if_true, bind_eq_ok, evalFirst] at h
      obtain ⟨-, -, b, hb, -⟩ := h
      simpa [children] using ⟨s.reducing, b, hb⟩
    | analytic f args ps os => exact here (evaluated_parts (.inr rfl) h)
    | _ => exact absurd rfl hop

/-- An unsupported node anywhere makes the evaluation fail. -/
theorem eval_ne_ok_of_contains (hbuilt : e.Every IsBuilt) (h : e.Contains (·.isUnsupported)) :
    ∀ (s : Scope) (a : Evaluated), e.eval now s ≠ .ok a := by
  induction h with
  | self h => exact fun s a => eval_ne_ok_of_isUnsupported h a
  | part hc _ ih =>
    intro s a ha
    obtain ⟨s', b, hb⟩ := evaluated_children hbuilt.self ha _ hc
    exact ih (hbuilt.part hc) s' b hb

theorem isUnsupported_planExpr (env : Session) (e : Expr Select) :
    (planExpr env e).isUnsupported = e.isUnsupported := by
  cases e with
  | call f args => cases f <;> rfl
  | analytic f args ps os => cases f <;> rfl
  | extract p e => cases p <;> rfl
  | _ => rfl

theorem isUnsupported_mark {σ : Type} {isKey : List String → Except Error Bool} {e e' : Expr σ}
    (h : e.mark isKey = .ok e') (he : e.isUnsupported) : e'.isUnsupported := by
  unfold isUnsupported at he
  split at he
  · obtain rfl := Except.ok.inj h
    exact he
  · simp only [mark, bind_eq_ok, pure_eq_ok] at h
    obtain ⟨_, -, _, -, _, -, rfl⟩ := h
    exact he
  · simp only [mark, bind_eq_ok, pure_eq_ok] at h
    obtain ⟨_, -, rfl⟩ := h
    rfl
  · cases he

/-- Marks hide no unsupported node. -/
theorem mark_eval_ne_ok_of_contains {isKey : List String → Except Error Bool} {e' : Expr Plan}
    (hbuilt : e.Every IsBuilt) (h : e.Contains (·.isUnsupported)) (hmark : e.mark isKey = .ok e')
    (a : Evaluated) : e'.eval now s ≠ .ok a :=
  eval_ne_ok_of_contains
    (every_of_mark (fun _ _ => isBuilt_mark) (fun _ => trivial) hbuilt hmark)
    (h.mark (fun _ _ => isUnsupported_mark) hmark) s a

end Expr

/-! ## Clauses of SELECT -/

namespace SelectOf

variable {now : Moment} {s : SelectOf Plan (Except Error Frame)} {outer : List Frame} {t : Table}

/-- FROM has given a frame. -/
theorem source_of_run (h : s.run now outer = .ok t) {x : Except Error Frame}
    (hx : s.source = some x) : ∃ f, x = .ok f := by
  obtain ⟨scope, _, _, _, _, hscope, -⟩ := steps_of_run h
  obtain ⟨f, hf, -⟩ := bind_eq_ok.mp hscope
  exact ⟨f, by simpa [hx] using hf⟩

theorem condition_of_run (h : s.run now outer = .ok t) {c : Expr Plan}
    (hc : s.condition = some c) : ∃ scope a, c.eval now scope = .ok a := by
  obtain ⟨scope, _, _, _, _, hscope, -⟩ := steps_of_run h
  obtain ⟨f, -, hscope⟩ := bind_eq_ok.mp hscope
  simp only [hc, bind_eq_ok] at hscope
  obtain ⟨a, ha, -⟩ := hscope
  exact ⟨_, a, ha⟩

/-- A key of GROUP BY is a field or a constant. -/
theorem key_of_run (h : s.run now outer = .ok t) {k : Expr Plan} (hk : k ∈ s.groupBy) :
    (∃ path, k = .field path) ∨ ∃ l, k = .literal l := by
  obtain ⟨scope, selectors, grouped, marked, _, -, -, hgrouped, -⟩ := steps_of_run h
  rcases groupedFields_eq_ok_iff.mp hgrouped with ⟨hnone, -⟩ | ⟨-, G, hG, -⟩
  · simp [hnone] at hk
  · obtain ⟨paths, g, columns, hkeys, -⟩ := Grouping.groupBy_eq_ok_iff.mp hG
    obtain ⟨f, p, g, hkey⟩ := FrameM.exists_of_mem_of_mapM hkeys hk
    obtain ⟨path, htarget, -⟩ := Grouping.keyOf_eq_ok_iff.mp hkey
    unfold Grouping.keyTarget? at htarget
    split at htarget
    · exact .inl ⟨_, rfl⟩
    · exact .inr ⟨_, rfl⟩
    · cases htarget

theorem exists_zipIdx_of_mem {α : Type} {as : List α} {a : α} (h : a ∈ as) :
    ∃ i, (a, i) ∈ as.zipIdx := by
  obtain ⟨i, hi, ha⟩ := List.getElem_of_mem h
  exact ⟨i, List.mk_mem_zipIdx_iff_getElem?.mpr (List.getElem?_eq_some_iff.mpr ⟨hi, ha⟩)⟩

/-- A written field is one of the expanded list. -/
theorem mem_expand {f : Frame} {fields : List (SelectField Plan)}
    {selectors : List (Selector Plan)} (h : expand f fields = .ok selectors) {x : Selector Plan}
    (hx : .one x ∈ fields) : x ∈ selectors := by
  obtain ⟨parts, hparts, h⟩ := bind_eq_ok.mp h
  obtain rfl := pure_eq_ok.mp h
  obtain ⟨i, hi⟩ := exists_zipIdx_of_mem hx
  obtain ⟨part, hpart, hone⟩ := exists_of_mem_of_mapM hparts hi
  obtain rfl := Except.ok.inj hone
  exact List.mem_flatten.mpr ⟨_, hpart, List.mem_singleton_self x⟩

/-- A star stands for the columns of all tables or of a named one. -/
theorem star_of_run (h : s.run now outer = .ok t) {x : Star Plan} (hx : .star x ∈ s.fields)
    {e : Expr Plan} (he : x.of = some e) : ∃ name, e = .field [name] := by
  obtain ⟨scope, selectors, _, _, _, -, hselectors, -⟩ := steps_of_run h
  obtain ⟨parts, hparts, -⟩ := bind_eq_ok.mp hselectors
  obtain ⟨i, hi⟩ := exists_zipIdx_of_mem hx
  obtain ⟨part, -, hpart⟩ := exists_of_mem_of_mapM hparts hi
  obtain ⟨xs, hxs, -⟩ := map_eq_ok.mp hpart
  obtain ⟨cs, hcs, -⟩ := map_eq_ok.mp hxs
  unfold Star.columns at hcs
  split at hcs
  · next hnone => simp [hnone] at he
  · next name hname => exact ⟨name, Option.some.inj (he.symm.trans hname)⟩
  · cases hcs

/-- A written field is evaluated, as it is or marked. -/
theorem field_of_run (h : s.run now outer = .ok t) {x : Selector Plan} (hx : .one x ∈ s.fields) :
    ∃ e scope a, (e = x.toExpr ∨ ∃ isKey, x.toExpr.mark isKey = .ok e) ∧
      e.eval now scope = .ok a := by
  obtain ⟨scope, selectors, grouped, marked, _, -, hselectors, hgrouped, hresult, -⟩ :=
    steps_of_run h
  have hmem := mem_expand hselectors hx
  have hevaluated := evaluated_of_fieldsTable (length_groupedFields hgrouped) hresult
  rcases groupedFields_eq_ok_iff.mp hgrouped with ⟨-, rfl, -⟩ | ⟨-, G, hG, -⟩
  · obtain ⟨a, ha⟩ := hevaluated _ (List.mem_map_of_mem hmem)
    exact ⟨_, grouped, a, .inl rfl, ha⟩
  · obtain ⟨paths, g, columns, -, -, -, hmarked⟩ := Grouping.groupBy_eq_ok_iff.mp hG
    obtain ⟨e, he, hmark⟩ := exists_of_mem_of_mapM hmarked hmem
    obtain ⟨a, ha⟩ := hevaluated e he
    exact ⟨e, grouped, a, .inr ⟨_, hmark⟩, ha⟩

/-- HAVING is evaluated, marked. -/
theorem having_of_run (h : s.run now outer = .ok t) {c : Expr Plan} (hc : s.having = some c) :
    ∃ e isKey scope a, c.mark isKey = .ok e ∧ e.eval now scope = .ok a := by
  obtain ⟨scope, selectors, grouped, marked, result, -, -, -, -, h⟩ := steps_of_run h
  simp only [hc, Option.elim_some, applyHaving, bind_eq_ok] at h
  obtain ⟨e, hmark, a, ha, -⟩ := h
  exact ⟨e, _, _, a, hmark, ha⟩

end SelectOf

/-! ## FROM and ORDER BY -/

namespace Join

variable {now : Moment}

/-- Joining has evaluated the item and its condition. -/
theorem evaluated_of_extend {f g : Frame} {j : JoinOf Plan (Except Error NamedTable)}
    (h : extend now f j = .ok g) :
    (∃ p, j.item.query = .ok p) ∧
      ∀ e, j.condition = .on e → ∃ s a, e.eval now s = .ok a := by
  obtain ⟨k, hk, h⟩ := bind_eq_ok.mp h
  obtain ⟨p, hp, -⟩ := bind_eq_ok.mp hk
  refine ⟨⟨p, hp⟩, fun e he => ?_⟩
  simp only [he, bind_eq_ok, onMatches] at h
  obtain ⟨-, ⟨a, ha, -⟩, -⟩ := h
  exact ⟨_, a, ha⟩

theorem evaluated_of_joins : ∀ {joins : List (JoinOf Plan (Except Error NamedTable))} {f g : Frame},
    joins.foldlM (extend now) f = .ok g → ∀ j ∈ joins, ∃ f' g', extend now f' j = .ok g'
  | [], _, _, _ => by simp
  | j :: joins, f, g, h => by
    obtain ⟨f', hf', h⟩ := bind_eq_ok.mp h
    exact List.forall_mem_cons.mpr ⟨⟨f, f', hf'⟩, evaluated_of_joins h⟩

/-- FROM has evaluated the first item and all joins. -/
theorem evaluated_of_sourceFrame {s : SourceOf Plan (Except Error NamedTable)} {f : Frame}
    (h : sourceFrame now s = .ok f) :
    (∃ p, s.first.query = .ok p) ∧ ∀ j ∈ s.joins, ∃ f' g', extend now f' j = .ok g' := by
  obtain ⟨g, hg, h⟩ := bind_eq_ok.mp h
  obtain ⟨p, hp, -⟩ := bind_eq_ok.mp hg
  exact ⟨⟨p, hp⟩, evaluated_of_joins h⟩

end Join

namespace OrderedOf

variable {now : Moment} {q : OrderedOf Plan (Except Error NamedTable)} {t : Table}

/-- A sort key is a field or a constant. -/
theorem key_of_sorted {keys : List (Expr Plan × SortOrder)} {p : NamedTable}
    (h : sorted keys p = .ok t) {k : Expr Plan × SortOrder} (hk : k ∈ keys) :
    (∃ path, k.1 = .field path) ∨ ∃ l, k.1 = .literal l := by
  unfold sorted at h
  split at h
  · next hempty => simp [List.isEmpty_iff.mp hempty] at hk
  · obtain ⟨indices, hindices, -⟩ := bind_eq_ok.mp h
    obtain ⟨i, -, hi⟩ := exists_of_mem_of_mapM hindices hk
    obtain ⟨n, hn, -⟩ := bind_eq_ok.mp hi
    unfold keyIndex at hn
    split at hn
    · next path hpath => exact .inl ⟨path, hpath⟩
    · next l hl => exact .inr ⟨l, hl⟩
    · cases hn

theorem evaluated_of_limited {l : Expr Plan} {offset : Option (Expr Plan)} {s : Table}
    (h : limited now (some l) offset s = .ok t) :
    (∃ s a, l.eval now s = .ok a) ∧ ∀ o, offset = some o → ∃ s a, o.eval now s = .ok a := by
  have evaluated : ∀ {clause : String} {e : Expr Plan} {n : Nat},
      constantCount now clause e = .ok n → ∃ s a, e.eval now s = .ok a := by
    intro clause e n hn
    obtain ⟨a, ha, -⟩ := bind_eq_ok.mp hn
    exact ⟨_, a, ha⟩
  obtain ⟨count, hcount, h⟩ := bind_eq_ok.mp h
  refine ⟨evaluated hcount, fun o ho => ?_⟩
  obtain ⟨start, hstart, -⟩ := bind_eq_ok.mp (ho ▸ h)
  exact evaluated hstart

/-- There are no bindings, the base query has given a table, sort keys are fields or constants,
and the numbers of rows have been evaluated. -/
theorem steps_of_run (h : q.run now = .ok t) :
    q.bindings = [] ∧ (∃ p, q.base = .ok p) ∧
      (∀ k ∈ q.orderBy, (∃ path, k.1 = .field path) ∨ ∃ l, k.1 = .literal l) ∧
      ∀ l, q.limit = some l → (∃ s a, l.eval now s = .ok a) ∧
        ∀ o, q.offset = some o → ∃ s a, o.eval now s = .ok a := by
  unfold run at h
  by_cases hbindings : q.bindings = []
  · simp only [hbindings, List.isEmpty_nil, Bool.not_true, Bool.false_eq_true, if_false,
      bind_eq_ok] at h
    obtain ⟨p, hp, sorted, hsorted, hlimited⟩ := h
    exact ⟨hbindings, ⟨p, hp⟩, fun k hk => key_of_sorted hsorted hk,
      fun l hl => evaluated_of_limited (hl ▸ hlimited)⟩
  · simp [hbindings] at h

end OrderedOf

/-! ## Queries -/

/-- A form without evaluation stands somewhere in the query. The subqueries of EXISTS and the
replacements of a star are not searched. An OFFSET is written after a LIMIT. -/
inductive Query.Unsupported : Query → Prop where
  | distinct {s : SelectOf Select Source} (h : s.distinct = true) : Unsupported (.select (.mk s))
  | star {s : SelectOf Select Source} {x : Star Select} {e : Expr Select} (hx : .star x ∈ s.fields)
      (he : x.of = some e) (h : ∀ name, e ≠ .field [name]) : Unsupported (.select (.mk s))
  | field {s : SelectOf Select Source} {x : Selector Select} (hx : .one x ∈ s.fields)
      (h : x.expr.Contains (·.isUnsupported)) : Unsupported (.select (.mk s))
  | condition {s : SelectOf Select Source} {e : Expr Select} (he : s.condition = some e)
      (h : e.Contains (·.isUnsupported)) : Unsupported (.select (.mk s))
  | groupBy {s : SelectOf Select Source} {e : Expr Select} (he : e ∈ s.groupBy)
      (h : e.Contains (·.isUnsupported)) : Unsupported (.select (.mk s))
  | having {s : SelectOf Select Source} {e : Expr Select} (he : s.having = some e)
      (h : e.Contains (·.isUnsupported)) : Unsupported (.select (.mk s))
  | first {s : SelectOf Select Source} {src : Source} (hs : s.source = some src)
      (h : src.first.query.Unsupported) : Unsupported (.select (.mk s))
  | joined {s : SelectOf Select Source} {src : Source} {j : JoinOf Select Query}
      (hs : s.source = some src) (hj : j ∈ src.joins) (h : j.item.query.Unsupported) :
      Unsupported (.select (.mk s))
  | on {s : SelectOf Select Source} {src : Source} {j : JoinOf Select Query} {e : Expr Select}
      (hs : s.source = some src) (hj : j ∈ src.joins) (he : j.condition = .on e)
      (h : e.Contains (·.isUnsupported)) : Unsupported (.select (.mk s))
  | operator {op : SetOperator} {l r : Query} (h : op ≠ .unionAll) : Unsupported (.combined op l r)
  | left {op : SetOperator} {l r : Query} (h : l.Unsupported) : Unsupported (.combined op l r)
  | right {op : SetOperator} {l r : Query} (h : r.Unsupported) : Unsupported (.combined op l r)
  | bindings {q : OrderedOf Select Query} (h : q.bindings ≠ []) : Unsupported (.ordered q)
  | base {q : OrderedOf Select Query} (h : q.base.Unsupported) : Unsupported (.ordered q)
  | orderBy {q : OrderedOf Select Query} {k : Expr Select × SortOrder} (hk : k ∈ q.orderBy)
      (h : k.1.Contains (·.isUnsupported)) : Unsupported (.ordered q)
  | limit {q : OrderedOf Select Query} {e : Expr Select} (he : q.limit = some e)
      (h : e.Contains (·.isUnsupported)) : Unsupported (.ordered q)
  | offset {q : OrderedOf Select Query} {l e : Expr Select} (hl : q.limit = some l)
      (he : q.offset = some e) (h : e.Contains (·.isUnsupported)) : Unsupported (.ordered q)

theorem mem_exprs_select {s : SelectOf Select Source} {e : Expr Select} (he : e ∈ s.exprs) :
    e ∈ (Query.select (.mk s)).exprs := by
  simp only [Query.exprs, Select.exprs]
  exact List.mem_append_right _ he

/-- The expressions of FROM are expressions of the SELECT. -/
theorem exprs_source {s : SelectOf Select Source} {src : Source} (hs : s.source = some src) :
    ∀ e ∈ src.first.query.exprs ++ joinExprs src.joins, e ∈ (Query.select (.mk s)).exprs := by
  obtain ⟨⟨q, label⟩, joins⟩ := src
  intro e he
  simp only [Query.exprs, Select.exprs, sourceExprs?, hs]
  exact List.mem_append_left _ he

theorem exprs_join {j : JoinOf Select Query} : ∀ {js : List (JoinOf Select Query)}, j ∈ js →
    ∀ e ∈ j.item.query.exprs ++ j.condition.exprs, e ∈ joinExprs js
  | i :: js, hj, e, he => by
    simp only [joinExprs, List.mem_append] at he ⊢
    rcases List.mem_cons.mp hj with rfl | hj
    · exact .inl he
    · exact .inr (exprs_join hj e (List.mem_append.mpr he))

section Run

variable {env : Session} {p : NamedTable}

theorem planned_of_run_select {s : SelectOf Select Source}
    (h : (Query.select (.mk s)).run env = .ok p) : ∃ t, (s.planned env).run env.now [] = .ok t := by
  obtain ⟨t, ht, -⟩ := bind_eq_ok.mp h
  exact ⟨t, SelectOf.plan_mk env s ▸ ht⟩

theorem SelectOf.mem_planned {s : SelectOf Select Source} {x : SelectField Select}
    (hx : x ∈ s.fields) : x.planned env ∈ (s.planned env).fields := by
  rw [planned, planFields_eq_map]
  exact List.mem_map_of_mem hx

/-- The items of FROM are evaluated, and its conditions. -/
theorem evaluated_of_source {s : SelectOf Select Source} {src : Source} (hs : s.source = some src)
    (h : (Query.select (.mk s)).run env = .ok p) :
    (∃ p, src.first.query.run env = .ok p) ∧ ∀ j ∈ src.joins,
      (∃ p, j.item.query.run env = .ok p) ∧
        ∀ e, j.condition = .on e → ∃ s a, (planExpr env e).eval env.now s = .ok a := by
  obtain ⟨t, ht⟩ := planned_of_run_select h
  obtain ⟨f, hf⟩ := SelectOf.source_of_run ht (congrArg (planSource? env) hs)
  obtain ⟨hfirst, hjoins⟩ := Join.evaluated_of_sourceFrame hf
  refine ⟨hfirst, fun j hj => ?_⟩
  obtain ⟨f', g', hj'⟩ := hjoins (j.planned env) (by
    rw [planJoins_eq_map]
    exact List.mem_map_of_mem hj)
  obtain ⟨hitem, hon⟩ := Join.evaluated_of_extend hj'
  refine ⟨hitem, fun e he => hon _ ?_⟩
  simp [JoinOf.planned, JoinCondition.planned, he]

theorem planned_of_run_ordered {q : OrderedOf Select Query}
    (h : (Query.ordered q).run env = .ok p) :
    ∃ t, OrderedOf.run env.now ⟨runBindings env q.bindings, q.base.run env,
      planKeys env q.orderBy, planExpr? env q.limit, planExpr? env q.offset⟩ = .ok t := by
  obtain ⟨t, ht, -⟩ := bind_eq_ok.mp h
  exact ⟨t, ht⟩

theorem Expr.planned_ne_ok {e : Expr Select} (hbuilt : e.Every IsBuilt)
    (h : e.Contains (·.isUnsupported)) {s : Scope} {a : Evaluated} :
    (planExpr env e).eval env.now s ≠ .ok a :=
  eval_ne_ok_of_contains (every_planExpr env (fun _ => isBuilt_planExpr env) hbuilt)
    (contains_planExpr env (fun e he => (isUnsupported_planExpr env e).trans he) h) s a

theorem Expr.planned_mark_ne_ok {e : Expr Select} (hbuilt : e.Every IsBuilt)
    (h : e.Contains (·.isUnsupported)) {isKey : List String → Except Error Bool} {e' : Expr Plan}
    (hmark : (planExpr env e).mark isKey = .ok e') {s : Scope} {a : Evaluated} :
    e'.eval env.now s ≠ .ok a :=
  mark_eval_ne_ok_of_contains (every_planExpr env (fun _ => isBuilt_planExpr env) hbuilt)
    (contains_planExpr env (fun e he => (isUnsupported_planExpr env e).trans he) h) hmark a

/-- A field or a constant contains no unsupported form. -/
theorem not_unsupported_of_key {e : Expr Select}
    (h : (∃ path, planExpr env e = .field path) ∨ ∃ l, planExpr env e = .literal l) :
    ¬e.Contains (·.isUnsupported) := by
  intro hunsupported
  cases e with
  | literal l | field path =>
    rcases hunsupported with h | ⟨hc, -⟩
    · cases h
    · simp [Expr.children] at hc
  | _ => rcases h with ⟨_, h⟩ | ⟨_, h⟩ <;> cases h

end Run

variable {env : Session}

/-- A query with an unsupported form anywhere never succeeds, whatever the tables hold. -/
theorem run_ne_ok_of_unsupported {q : Query} (h : q.Unsupported)
    (hbuilt : ∀ e ∈ q.exprs, e.Every Expr.IsBuilt) (p : NamedTable) : q.run env ≠ .ok p := by
  intro hp
  induction h generalizing p with
  | @distinct s h =>
    obtain ⟨t, ht⟩ := planned_of_run_select hp
    exact absurd (SelectOf.run_eq_ok_iff.mp ht).1 (by simp [SelectOf.planned, h])
  | @star s x e hx he h =>
    obtain ⟨t, ht⟩ := planned_of_run_select hp
    obtain ⟨name, hname⟩ := SelectOf.star_of_run ht (SelectOf.mem_planned hx) (by rw [he]; rfl)
    cases e with
    | field path => exact h name (congrArg Expr.field (Expr.field.inj hname))
    | _ => cases hname
  | @field s x hx h =>
    obtain ⟨t, ht⟩ := planned_of_run_select hp
    have hmem : x.expr ∈ s.exprs := by
      simp only [SelectOf.exprs, List.mem_append, List.mem_flatMap]
      exact .inl (.inl (.inl ⟨_, hx, List.mem_singleton_self x.expr⟩))
    have hselector : Expr.Contains (·.isUnsupported) x.toExpr :=
      .part (List.mem_singleton_self x.expr) h
    have hselectorBuilt : x.toExpr.Every Expr.IsBuilt :=
      .intro trivial (List.forall_mem_singleton.mpr (hbuilt _ (mem_exprs_select hmem)))
    -- Under GROUP BY a mark may stand in front of the field, but it evaluates what it marks.
    obtain ⟨e, scope, a, he, ha⟩ := SelectOf.field_of_run ht (SelectOf.mem_planned hx)
    rcases he with rfl | ⟨isKey, hmark⟩
    · exact Expr.planned_ne_ok hselectorBuilt hselector ha
    · exact Expr.planned_mark_ne_ok hselectorBuilt hselector hmark ha
  | @condition s e he h =>
    obtain ⟨t, ht⟩ := planned_of_run_select hp
    obtain ⟨scope, a, ha⟩ := SelectOf.condition_of_run ht (congrArg (planExpr? env) he)
    exact Expr.planned_ne_ok (hbuilt _ (mem_exprs_select (by simp [SelectOf.exprs, he]))) h ha
  | @groupBy s e he h =>
    obtain ⟨t, ht⟩ := planned_of_run_select hp
    have hmem : planExpr env e ∈ (s.planned env).groupBy := by
      rw [SelectOf.planned, planExprs_eq_map]
      exact List.mem_map_of_mem he
    exact not_unsupported_of_key (SelectOf.key_of_run ht hmem) h
  | @having s e he h =>
    obtain ⟨t, ht⟩ := planned_of_run_select hp
    obtain ⟨e', isKey, scope, a, hmark, ha⟩ :=
      SelectOf.having_of_run ht (congrArg (planExpr? env) he)
    exact Expr.planned_mark_ne_ok (hbuilt _ (mem_exprs_select (by simp [SelectOf.exprs, he]))) h
      hmark ha
  | @first s src hs _ ih =>
    obtain ⟨⟨p', hp'⟩, -⟩ := evaluated_of_source hs hp
    exact ih (fun e he => hbuilt e (exprs_source hs e (List.mem_append_left _ he))) p' hp'
  | @joined s src j hs hj _ ih =>
    obtain ⟨⟨p', hp'⟩, -⟩ := (evaluated_of_source hs hp).2 j hj
    refine ih (fun e he => hbuilt e (exprs_source hs e (List.mem_append_right _ ?_))) p' hp'
    exact exprs_join hj e (List.mem_append_left _ he)
  | @on s src j e hs hj he h =>
    obtain ⟨scope, a, ha⟩ := ((evaluated_of_source hs hp).2 j hj).2 e he
    refine Expr.planned_ne_ok (hbuilt e (exprs_source hs e (List.mem_append_right _ ?_))) h ha
    exact exprs_join hj e (List.mem_append_right _ (by simp [JoinCondition.exprs, he]))
  | @operator op l r h =>
    obtain ⟨_, -, hp⟩ := bind_eq_ok.mp hp
    obtain ⟨_, -, hp⟩ := bind_eq_ok.mp hp
    obtain ⟨t, ht, -⟩ := bind_eq_ok.mp hp
    exact h (SetOperator.run_eq_ok_iff.mp ht).1
  | @left op l r _ ih =>
    obtain ⟨p', hp', -⟩ := bind_eq_ok.mp hp
    exact ih (fun e he => hbuilt e (by simp [Query.exprs, he])) p' hp'
  | @right op l r _ ih =>
    obtain ⟨_, -, hp⟩ := bind_eq_ok.mp hp
    obtain ⟨p', hp', -⟩ := bind_eq_ok.mp hp
    exact ih (fun e he => hbuilt e (by simp [Query.exprs, he])) p' hp'
  | @bindings q h =>
    obtain ⟨t, ht⟩ := planned_of_run_ordered hp
    have hnone := (OrderedOf.steps_of_run ht).1
    cases hq : q.bindings with
    | nil => exact h hq
    | cons b bs =>
      rw [hq] at hnone
      cases hnone
  | @base q _ ih =>
    obtain ⟨t, ht⟩ := planned_of_run_ordered hp
    obtain ⟨-, ⟨p', hp'⟩, -⟩ := OrderedOf.steps_of_run ht
    exact ih (fun e he => hbuilt e (by simp [Query.exprs, he])) p' hp'
  | @orderBy q k hk h =>
    obtain ⟨t, ht⟩ := planned_of_run_ordered hp
    obtain ⟨-, -, hkeys, -⟩ := OrderedOf.steps_of_run ht
    refine not_unsupported_of_key (hkeys (planExpr env k.1, k.2) ?_) h
    simp only [planKeys_eq_map]
    exact List.mem_map_of_mem (f := fun k => (planExpr env k.1, k.2)) hk
  | @limit q e he h =>
    obtain ⟨t, ht⟩ := planned_of_run_ordered hp
    obtain ⟨-, -, -, hlimit⟩ := OrderedOf.steps_of_run ht
    obtain ⟨⟨scope, a, ha⟩, -⟩ := hlimit _ (congrArg (planExpr? env) he)
    exact Expr.planned_ne_ok (hbuilt e (by simp [Query.exprs, he])) h ha
  | @offset q l e hl he h =>
    obtain ⟨t, ht⟩ := planned_of_run_ordered hp
    obtain ⟨-, -, -, hlimit⟩ := OrderedOf.steps_of_run ht
    obtain ⟨-, hoffset⟩ := hlimit _ (congrArg (planExpr? env) hl)
    obtain ⟨scope, a, ha⟩ := hoffset _ (congrArg (planExpr? env) he)
    exact Expr.planned_ne_ok (hbuilt e (by simp [Query.exprs, he])) h ha

/-- An empty table of dates under the path `p.d.days`. -/
def noDays : Session where
  catalog := ⟨[(⟨"p", "d", "days"⟩, ⟨["d"], [⟨[], some (.scalar .date)⟩], 0⟩)]⟩
  now := newYear

/-- `SELECT IF(FALSE, EXTRACT(WEEK(MONDAY) FROM d), 0) AS w FROM days`. -/
def weekInBranch : Query :=
  .select (.mk {
    distinct := false
    fields := [.one ⟨.conditional (.literal (.ofValue (.boolean false)))
      (.extract (.weekStarting .monday) (.field ["d"])) (.literal (.ofValue (.integer 0))),
      some "w", some 1⟩]
    source := some ⟨⟨.table ⟨["days"], by decide, by decide⟩, none⟩, []⟩
    condition := none
    groupBy := []
    having := none })

theorem run_ne_ok_of_unsupported_branch :
    (weekInBranch.Unsupported ∧ ∀ e ∈ weekInBranch.exprs, e.Every Expr.IsBuilt) ∧
      ∀ p, weekInBranch.run noDays ≠ .ok p := by
  have hunsupported : weekInBranch.Unsupported := by
    refine .field (List.mem_singleton_self _) ?_
    exact .part (c := .extract (.weekStarting .monday) (.field ["d"])) (by simp [Expr.children])
      (.self rfl)
  have hbuilt : ∀ e ∈ weekInBranch.exprs, e.Every Expr.IsBuilt := by
    intro e he
    obtain rfl := List.mem_singleton.mp he
    refine .intro trivial (List.forall_mem_cons.mpr ⟨.leaf trivial rfl, ?_⟩)
    refine List.forall_mem_cons.mpr ⟨.intro trivial ?_, ?_⟩
    · exact List.forall_mem_singleton.mpr (.leaf trivial rfl)
    · exact List.forall_mem_singleton.mpr (.leaf trivial rfl)
  exact ⟨⟨hunsupported, hbuilt⟩, run_ne_ok_of_unsupported hunsupported hbuilt⟩

end ColumnarSql
