import ColumnarSql.Proofs.OtherRows

/-!
# Acceptance without regard to the data

A query without EXISTS whose calls stand in their places is accepted by the schemas of its tables
alone: if it gives a table over one catalog, then over every catalog of the same schemas it gives a
table of the same names and types or fails by evaluation (`Query.run_of_sameSchema`). The places
are what the code leaves to the rows at hand, since it compares lengths of columns where it could
compare shapes. So a call in the wrong place is refused for some contents of the tables and not for
others, and so is the empty array as a constant, which belongs to no type (`acceptance_by_rows`).
-/

set_option autoImplicit false

namespace ColumnarSql

/-! ## The SELECTs of a query -/

mutual

/-- The SELECTs of a query, those in its FROM clauses included; subqueries in expressions are not
searched. -/
def Query.selects : Query → List (SelectOf Select Source)
  | .table _ => []
  | .select s => s.selects
  | .combined _ left right => left.selects ++ right.selects
  | .ordered ⟨_, base, _, _, _⟩ => base.selects

def Select.selects : Select → List (SelectOf Select Source)
  | ⟨distinct, fields, source, condition, groupBy, having⟩ =>
    ⟨distinct, fields, source, condition, groupBy, having⟩ :: sourceSelects? source

def sourceSelects? : Option Source → List (SelectOf Select Source)
  | none => []
  | some ⟨⟨q, _⟩, joins⟩ => q.selects ++ joinSelects joins

def joinSelects : List (JoinOf Select Query) → List (SelectOf Select Source)
  | [] => []
  | ⟨_, ⟨q, _⟩, _⟩ :: js => q.selects ++ joinSelects js

end

/-- Every call of a SELECT stands in its place, in the session of its tables. -/
structure SelectOf.CallsPlaced (env : Session) (s : SelectOf Select Source) : Prop where
  joins : ∀ source, s.source = some source → ∀ j ∈ source.joins, ∀ e, j.condition = .on e →
    (planExpr env e).Fits .rows
  clauses : ∀ f, (s.planned env).fromFrame = .ok f → (s.planned env).WellPlaced f

/-- Every call of a query stands in its place, in the session of its tables. -/
def Query.CallsPlaced (env : Session) (q : Query) : Prop := ∀ s ∈ q.selects, s.CallsPlaced env

/-! ## Planned expressions -/

namespace Expr

variable {e : Expr Select}

theorem regular_planExpr (env : Session) (h : e.Every IsRegular) :
    (planExpr env e).Every IsRegular := by
  refine every_planExpr env (fun d hd => ?_) h
  obtain ⟨hsubquery, hconstant, hbuilt⟩ := hd
  refine ⟨?_, ?_, isBuilt_planExpr env hbuilt⟩
  · cases d <;> first | rfl | cases hsubquery
  · cases d <;> first | rfl | exact hconstant

theorem planExpr_of_regular (env env' : Session) (h : e.Every IsRegular) :
    planExpr env e = planExpr env' e :=
  planExpr_congr env (h.mono fun _ hd s hs => by simpa [hs, isSubquery] using hd.noSubquery)

end Expr

/-! ## Catalogs -/

/-- Tables of the same schemas at the same paths. -/
def Catalog.SameSchema (c d : Catalog) : Prop :=
  List.Forall₂ (fun e e' => e.1 = e'.1 ∧ e.2.SameSchema e'.2) c.entries d.entries

namespace Catalog.SameSchema

variable {c d : Catalog}

theorem paths_eq (h : c.SameSchema d) : c.entries.map (·.1) = d.entries.map (·.1) :=
  map_eq_map_of_forall₂ (h.imp fun _ _ he => he.1)

theorem qualify_eq (h : c.SameSchema d) (r : TableReference) : r.qualify c = r.qualify d := by
  have hprojects : c.projectNames = d.projectNames := by
    have hmap := congrArg (List.map TablePath.project) h.paths_eq
    simp only [List.map_map] at hmap
    exact congrArg List.eraseDups hmap
  have hdatasets : ∀ project, c.datasetsOf project = d.datasetsOf project := by
    intro project
    have hnames : ∀ k : Catalog, k.datasetsOf project =
        (((k.entries.map (·.1)).filter (·.project = project)).map TablePath.dataset).eraseDups := by
      intro k
      simp [datasetsOf, List.filter_map, Function.comp_def]
    rw [hnames, hnames, h.paths_eq]
  simp only [TableReference.qualify, hprojects, hdatasets]

theorem exists_get? (h : c.SameSchema d) {path : TablePath} {t : Table}
    (ht : c.get? path = some t) : ∃ u, d.get? path = some u ∧ t.SameSchema u := by
  obtain ⟨entries⟩ := c
  obtain ⟨entries'⟩ := d
  change List.Forall₂ _ entries entries' at h
  unfold get? at ht ⊢
  dsimp only at ht ⊢
  induction h with
  | nil => simp at ht
  | @cons e e' es es' he _ ih =>
    rw [lookup_entry] at ht ⊢
    rw [← he.1]
    split at ht
    · next hpath =>
      obtain rfl := Option.some.inj ht
      exact ⟨e'.2, if_pos hpath, he.2⟩
    · next hpath =>
      rw [if_neg hpath]
      exact ih ht

end Catalog.SameSchema

/-! ## Steps of a query -/

theorem TableReference.reruns {c d : Catalog} (hd : d.WellFormed) (h : c.SameSchema d)
    (r : TableReference) : Join.Reruns (r.run c) (r.run d) := by
  intro p hp
  obtain ⟨path, t, hpath, ht, rfl⟩ := run_eq_ok_iff.mp hp
  obtain ⟨u, hu, hschema⟩ := h.exists_get? ht
  rw [run_eq_ok_iff.mpr ⟨path, u, h.qualify_eq r ▸ hpath, hu, rfl⟩]
  exact ⟨⟨hschema, hd.get? hu⟩, rfl⟩

/-- A set operation looks at types alone. -/
theorem SetOperator.accepted_run {op : SetOperator} {left right left' right' t : Table}
    (hl : left.OtherRows left') (hr : right.OtherRows right') (h : op.run left right = .ok t) :
    Accepted t.OtherRows (op.run left' right') := by
  obtain ⟨hop, hwidth, types, htypes, ht⟩ := run_eq_ok_iff.mp h
  obtain ⟨-, -, rfl⟩ := Table.ofColumns_eq_ok ht
  have hwidth' : left'.columns.length = right'.columns.length :=
    hl.length_columns ▸ hr.length_columns ▸ hwidth
  have htypes' : columnTypes left' right' = .ok types := by
    rw [columnTypes, ← hl.sameSchema.types, ← hr.sameSchema.types]
    exact htypes
  have hrun := run_eq_ok_iff.mpr
    ⟨hop, hwidth', types, htypes',
      ofColumns_concat hl.wellFormed hr.wellFormed hwidth' htypes'⟩
  have hconcat : ∀ {l r : Table}, columnTypes l r = .ok types →
      (concat l r types).map Column.type = types := by
    intro l r hlr
    have hlength := (columnTypes_eq_ok_iff.mp hlr).length_eq
    rw [concat, List.map_map]
    exact List.map_snd_zip (Nat.le_of_eq hlength.symm)
  rw [hrun]
  refine ⟨⟨hl.sameSchema.names, ?_⟩, wellFormed_run hl.wellFormed hr.wellFormed hrun⟩
  exact (hconcat htypes).trans (hconcat htypes').symm

namespace OrderedOf

variable {now : Moment}

/-- The column of a sort key is found by the schema. -/
theorem keyIndex_of_otherRows {t u : Table} (h : t.OtherRows u) (name : Option String)
    {key : Expr Plan} {i : Nat} (hi : keyIndex t (Frame.ofTable t name) key = .ok i) :
    keyIndex u (Frame.ofTable u name) key = .ok i := by
  have hscopes : Scope.SameSchema ⟨Frame.ofTable t name, []⟩ ⟨Frame.ofTable u name, []⟩ :=
    ⟨h.sameSchema.ofTable name, .nil⟩
  cases key with
  | field path =>
    simp only [keyIndex, Scope.resolve, hscopes.tryResolve_eq, h.sameSchema.names,
      bind_eq_ok] at hi ⊢
    obtain ⟨p, ⟨p?, hp?, hp⟩, hi⟩ := hi
    cases p? with
    | none => simp at hp
    | some q => exact ⟨p, ⟨some q, hp?, hp⟩, hi⟩
  | literal l =>
    simp only [keyIndex, positionIndex, h.length_columns] at hi ⊢
    exact hi
  | _ => simp [keyIndex] at hi

/-- ORDER BY looks at names and positions of columns alone. -/
theorem exists_sorted {keys : List (Expr Plan × SortOrder)} {t u s : Table} (h : t.OtherRows u)
    (name : Option String) (hs : sorted keys (t, name) = .ok s) :
    ∃ s', sorted keys (u, name) = .ok s' ∧ s.OtherRows s' := by
  unfold sorted at hs ⊢
  split at hs
  · next hkeys =>
    obtain rfl := Except.ok.inj hs
    exact ⟨u, if_pos hkeys, h⟩
  · next hkeys =>
    obtain ⟨indices, hindices, hs⟩ := bind_eq_ok.mp hs
    obtain rfl := pure_eq_ok.mp hs
    have hindices' : (keys.mapM fun k => do
        return (← keyIndex u (Frame.ofTable u name) k.1, k.2)) = .ok indices := by
      refine (mapM_eq_ok_iff _ _ _).mpr (((mapM_eq_ok_iff _ _ _).mp hindices).imp ?_)
      intro k i hi
      obtain ⟨j, hj, hi⟩ := bind_eq_ok.mp hi
      exact bind_eq_ok.mpr ⟨j, keyIndex_of_otherRows h name hj, hi⟩
    rw [if_neg hkeys]
    exact ⟨_, bind_eq_ok.mpr ⟨indices, hindices', rfl⟩, h.take _ _⟩

/-- LIMIT and OFFSET do not look at the table. -/
theorem exists_limited {limit offset : Option (Expr Plan)} {t u s : Table} (h : t.OtherRows u)
    (hs : limited now limit offset t = .ok s) :
    ∃ s', limited now limit offset u = .ok s' ∧ s.OtherRows s' := by
  unfold limited at hs ⊢
  cases limit with
  | none =>
    obtain rfl := Except.ok.inj hs
    exact ⟨u, rfl, h⟩
  | some l =>
    obtain ⟨count, hcount, hs⟩ := bind_eq_ok.mp hs
    cases offset with
    | none =>
      obtain rfl := pure_eq_ok.mp hs
      exact ⟨_, bind_eq_ok.mpr ⟨count, hcount, rfl⟩, h.take _ _⟩
    | some o =>
      obtain ⟨start, hstart, hs⟩ := bind_eq_ok.mp hs
      obtain rfl := pure_eq_ok.mp hs
      refine ⟨u.slice start count, bind_eq_ok.mpr ⟨count, hcount, ?_⟩, h.take _ _⟩
      exact bind_eq_ok.mpr ⟨start, hstart, rfl⟩

/-- ORDER BY and LIMIT accept what they accept of one table for all tables of its schema. -/
theorem accepted_run {q : OrderedOf Plan (Except Error NamedTable)}
    {bindings : List (String × Except Error NamedTable)} {base : Except Error NamedTable}
    (hbindings : bindings.isEmpty = q.bindings.isEmpty) (hbase : Join.Reruns q.base base)
    {t : Table} (h : q.run now = .ok t) :
    Accepted t.OtherRows (run now { q with bindings := bindings, base := base }) := by
  unfold run at h ⊢
  dsimp only
  rw [hbindings]
  cases hempty : q.bindings.isEmpty with
  | false => simp [hempty] at h
  | true =>
    simp only [hempty, Bool.not_true, Bool.false_eq_true, if_false, bind_eq_ok] at h ⊢
    obtain ⟨⟨b, name⟩, hb, s, hs, h⟩ := h
    refine (hbase _ hb).bind fun p' _ hp' => ?_
    obtain ⟨b', name'⟩ := p'
    obtain ⟨hother, rfl⟩ := hp'
    obtain ⟨s', hs', hsorted⟩ := exists_sorted hother name' hs
    obtain ⟨t', ht', hlimited⟩ := exists_limited hsorted h
    rw [hs']
    change Accepted _ (limited now q.limit q.offset s')
    rw [ht']
    exact hlimited

end OrderedOf

namespace SelectOf

/-- Without subqueries only the source of a SELECT is planned by the tables. -/
theorem planned_of_regular {env : Session} (env' : Session) {s : SelectOf Select Source}
    (hs : ∀ e ∈ s.exprs, e.Every Expr.IsRegular) :
    s.planned env' = { s.planned env with source := planSource? env' s.source } := by
  obtain ⟨distinct, fields, source, condition, groupBy, having⟩ := s
  simp only [SelectOf.exprs, List.mem_append, List.mem_flatMap, Option.mem_toList] at hs
  have hcongr : ∀ e : Expr Select, e.Every Expr.IsRegular → planExpr env' e = planExpr env e :=
    fun e he => Expr.planExpr_of_regular env' env he
  have hfields : fields.map (SelectField.planned env') = fields.map (SelectField.planned env) := by
    refine List.map_congr_left fun x hx => ?_
    have hx' := fun e he => hcongr e (hs e (.inl (.inl (.inl ⟨x, hx, he⟩))))
    cases x with
    | one x => simp only [SelectField.planned, hx' x.expr (by simp [SelectField.exprs])]
    | star x =>
      have hof : x.of.map (planExpr env') = x.of.map (planExpr env) :=
        Option.map_congr fun e he => hx' e (by simp [SelectField.exprs, he])
      have hreplace : x.replace.map (fun r => (planExpr env' r.1, r.2)) =
          x.replace.map fun r => (planExpr env r.1, r.2) :=
        List.map_congr_left fun r hr => by
          rw [hx' r.1 (by simpa [SelectField.exprs] using .inr ⟨r.2, hr⟩)]
      simp only [SelectField.planned, hof, hreplace]
  have hcondition : condition.map (planExpr env') = condition.map (planExpr env) :=
    Option.map_congr fun e he => hcongr e (hs e (.inl (.inl (.inr he))))
  have hgroupBy : groupBy.map (planExpr env') = groupBy.map (planExpr env) :=
    List.map_congr_left fun e he => hcongr e (hs e (.inl (.inr he)))
  have hhaving : having.map (planExpr env') = having.map (planExpr env) :=
    Option.map_congr fun e he => hcongr e (hs e (.inr he))
  simp only [planned, planFields_eq_map, planExpr?_eq_map, planExprs_eq_map, hfields, hcondition,
    hgroupBy, hhaving]

end SelectOf

/-! ## Queries -/

section Reruns

variable {c d : Catalog} {now : Moment}

/-- A SELECT is accepted over the second catalog if its source is. -/
theorem reruns_select {s : SelectOf Select Source} (hs : ∀ e ∈ s.exprs, e.Every Expr.IsRegular)
    (hplaced : s.CallsPlaced ⟨c, now⟩)
    (hsource : ∀ f, (s.planned ⟨c, now⟩).fromFrame = .ok f →
      Accepted f.OtherRows ((planSource? ⟨d, now⟩ s.source).getD (.ok (.ofRows 1)))) :
    Join.Reruns ((Query.select (.mk s)).run ⟨c, now⟩) ((Query.select (.mk s)).run ⟨d, now⟩) := by
  intro p hp
  obtain ⟨t, ht, hp⟩ := bind_eq_ok.mp hp
  obtain rfl := pure_eq_ok.mp hp
  have hplanned : ∀ e ∈ (s.planned ⟨c, now⟩).exprs, e.Every Expr.IsRegular := by
    intro e he
    rw [SelectOf.planned, exprs_planned ⟨c, now⟩ s.source] at he
    obtain ⟨e', he', rfl⟩ := List.mem_map.mp he
    exact Expr.regular_planExpr _ (hs e' he')
  -- The clauses after FROM are planned alike, so the two plans differ in the source alone.
  have hplan : (Select.mk s).plan ⟨d, now⟩ =
      SelectOf.run now { s.planned ⟨c, now⟩ with source := planSource? ⟨d, now⟩ s.source } := by
    rw [SelectOf.plan_mk, SelectOf.planned_of_regular ⟨d, now⟩ hs]
  rw [SelectOf.plan_mk] at ht
  change Accepted _ ((Select.mk s).plan ⟨d, now⟩ [] >>= _)
  rw [hplan]
  exact (SelectOf.accepted_run hsource hplaced.clauses hplanned ht).bind
    fun t' _ hother => ⟨hother, rfl⟩

/-- ORDER BY and LIMIT are planned alike over both catalogs. -/
theorem reruns_ordered {q : OrderedOf Select Query}
    (hq : ∀ e ∈ (Query.ordered q).exprs, e.Every Expr.IsRegular)
    (hbase : Join.Reruns (q.base.run ⟨c, now⟩) (q.base.run ⟨d, now⟩)) :
    Join.Reruns ((Query.ordered q).run ⟨c, now⟩) ((Query.ordered q).run ⟨d, now⟩) := by
  obtain ⟨bindings, base, orderBy, limit, offset⟩ := q
  intro p hp
  obtain ⟨t, ht, hp⟩ := bind_eq_ok.mp hp
  obtain rfl := pure_eq_ok.mp hp
  simp only [Query.exprs, List.mem_append, Option.mem_toList] at hq
  have hcongr : ∀ e : Expr Select, e.Every Expr.IsRegular →
      planExpr ⟨d, now⟩ e = planExpr ⟨c, now⟩ e := fun _ => Expr.planExpr_of_regular _ _
  have hkeys : planKeys ⟨d, now⟩ orderBy = planKeys ⟨c, now⟩ orderBy := by
    rw [planKeys_eq_map, planKeys_eq_map]
    refine List.map_congr_left fun k hk => ?_
    rw [hcongr k.1 (hq k.1 (.inl (.inl (.inr (List.mem_map_of_mem hk)))))]
  have hlimit : planExpr? ⟨d, now⟩ limit = planExpr? ⟨c, now⟩ limit := by
    rw [planExpr?_eq_map, planExpr?_eq_map]
    exact Option.map_congr fun e he => hcongr e (hq e (.inl (.inr he)))
  have hoffset : planExpr? ⟨d, now⟩ offset = planExpr? ⟨c, now⟩ offset := by
    rw [planExpr?_eq_map, planExpr?_eq_map]
    exact Option.map_congr fun e he => hcongr e (hq e (.inr he))
  have hbindings : (runBindings ⟨d, now⟩ bindings).isEmpty =
      (runBindings ⟨c, now⟩ bindings).isEmpty := by
    rw [isEmpty_runBindings, isEmpty_runBindings]
  simp only [Query.run]
  rw [hkeys, hlimit, hoffset]
  exact (OrderedOf.accepted_run hbindings hbase ht).bind fun t' _ hother => ⟨hother, rfl⟩

mutual

theorem accepted_source (hd : d.WellFormed) (h : c.SameSchema d) :
    ∀ {source : Option Source}, (∀ e ∈ sourceExprs? source, e.Every Expr.IsRegular) →
      (∀ s ∈ sourceSelects? source, s.CallsPlaced ⟨c, now⟩) →
      (∀ src, source = some src → ∀ j ∈ src.joins, ∀ e, j.condition = .on e →
        (planExpr ⟨c, now⟩ e).Fits .rows) →
      ∀ f, (planSource? ⟨c, now⟩ source).getD (.ok (.ofRows 1)) = .ok f →
        Accepted f.OtherRows ((planSource? ⟨d, now⟩ source).getD (.ok (.ofRows 1)))
  | none, _, _, _, f, hf => by
    obtain rfl := Except.ok.inj hf
    exact .ofRows 1
  | some ⟨⟨q, label⟩, joins⟩, he, hs, hfits, f, hf => by
    simp only [sourceExprs?, List.mem_append] at he
    simp only [sourceSelects?, List.mem_append] at hs
    simp only [planSource?, Option.getD_some, Join.sourceFrame] at hf ⊢
    obtain ⟨g, hg, hf⟩ := bind_eq_ok.mp hf
    have hq := reruns_query hd h (fun e h => he e (.inl h)) fun s h => hs s (.inl h)
    have hjoins := reruns_joins hd h (fun e h => he e (.inr h)) (fun s h => hs s (.inr h))
      (hfits _ rfl)
    exact (Join.accepted_itemFrame hq hg).bind fun g' _ hother =>
      Join.accepted_joins hjoins hother hf

theorem reruns_joins (hd : d.WellFormed) (h : c.SameSchema d) :
    ∀ {js : List (JoinOf Select Query)}, (∀ e ∈ joinExprs js, e.Every Expr.IsRegular) →
      (∀ s ∈ joinSelects js, s.CallsPlaced ⟨c, now⟩) →
      (∀ j ∈ js, ∀ e, j.condition = .on e → (planExpr ⟨c, now⟩ e).Fits .rows) →
      List.Forall₂ Join.RerunsJoin (planJoins ⟨c, now⟩ js) (planJoins ⟨d, now⟩ js)
  | [], _, _, _ => .nil
  | ⟨kind, ⟨q, label⟩, condition⟩ :: js, he, hs, hfits => by
    simp only [joinExprs, List.mem_append] at he
    simp only [joinSelects, List.mem_append] at hs
    have hq := reruns_query hd h (fun e h => he e (.inl (.inl h))) fun s h => hs s (.inl h)
    have hjs := reruns_joins hd h (fun e h => he e (.inr h)) (fun s h => hs s (.inr h))
      fun j hj => hfits j (List.mem_cons_of_mem _ hj)
    rw [planJoins_eq_map, planJoins_eq_map] at hjs ⊢
    refine .cons ?_ hjs
    cases condition with
    | none => exact ⟨rfl, rfl, rfl, trivial, hq⟩
    | «using» names => exact ⟨rfl, rfl, rfl, trivial, hq⟩
    | on e =>
      have hregular := he e (.inl (.inr (by simp [JoinCondition.exprs])))
      exact ⟨rfl, rfl, congrArg JoinCondition.on (Expr.planExpr_of_regular _ _ hregular),
        ⟨hfits _ List.mem_cons_self e rfl, Expr.regular_planExpr _ hregular⟩, hq⟩

/-- A query that gives a table over the first catalog is accepted over the second one. -/
theorem reruns_query (hd : d.WellFormed) (h : c.SameSchema d) :
    ∀ {q : Query}, (∀ e ∈ q.exprs, e.Every Expr.IsRegular) → q.CallsPlaced ⟨c, now⟩ →
      Join.Reruns (q.run ⟨c, now⟩) (q.run ⟨d, now⟩)
  | .table r, _, _ => TableReference.reruns hd h r
  | .select ⟨distinct, fields, source, condition, groupBy, having⟩, he, hs => by
    simp only [Query.exprs, Select.exprs, List.mem_append] at he
    simp only [Query.CallsPlaced, Query.selects, Select.selects, List.forall_mem_cons] at hs
    exact reruns_select (fun e h => he e (.inr h)) hs.1
      (accepted_source hd h (fun e h => he e (.inl h)) hs.2 hs.1.joins)
  | .combined op left right, he, hs => by
    intro p hp
    simp only [Query.exprs, List.mem_append] at he
    simp only [Query.CallsPlaced, Query.selects, List.mem_append] at hs
    simp only [Query.run, bind_eq_ok, pure_eq_ok] at hp ⊢
    obtain ⟨l, hl, r, hr, t, ht, rfl⟩ := hp
    have hleft := reruns_query hd h (fun e h => he e (.inl h)) fun s h => hs s (.inl h)
    have hright := reruns_query hd h (fun e h => he e (.inr h)) fun s h => hs s (.inr h)
    refine (hleft l hl).bind fun l' _ hl' => ?_
    refine (hright r hr).bind fun r' _ hr' => ?_
    exact (SetOperator.accepted_run hl'.1 hr'.1 ht).bind fun t' _ hother => ⟨hother, rfl⟩
  | .ordered ⟨bindings, base, orderBy, limit, offset⟩, he, hs =>
    reruns_ordered he (reruns_query hd h (fun e h => he e (by simp [Query.exprs, h])) hs)

end

end Reruns

/-- A query without subqueries, whose constants belong to their types and whose calls stand in
their places, gives over every catalog of well formed tables of the same schemas a table of the same
names and types, or fails by evaluation, if it gives a table at all. -/
theorem Query.run_of_sameSchema {c d : Catalog} {now : Moment} {q : Query} {p : NamedTable}
    (hd : d.WellFormed) (h : c.SameSchema d) (hq : ∀ e ∈ q.exprs, e.Every Expr.IsRegular)
    (hplaced : q.CallsPlaced ⟨c, now⟩) (hrun : q.run ⟨c, now⟩ = .ok p) :
    (∃ u, q.run ⟨d, now⟩ = .ok (u, p.2) ∧ p.1.SameSchema u) ∨
      ∃ x, q.run ⟨d, now⟩ = .error x ∧ x.kind = .evaluation := by
  have haccepted := reruns_query hd h hq hplaced p hrun
  cases hother : q.run ⟨d, now⟩ with
  | ok p' =>
    rw [hother] at haccepted
    obtain ⟨hother, hname⟩ := haccepted
    exact .inl ⟨p'.1, hname ▸ rfl, hother.sameSchema⟩
  | error x =>
    rw [hother] at haccepted
    exact .inr ⟨x, rfl, haccepted⟩

/-- A table of one column of integers under the path `p.d.items`. -/
def integersOf (values : List Value) : Catalog :=
  ⟨[(⟨"p", "d", "items"⟩, ⟨["a"], [⟨values, some .integer⟩], values.length⟩)]⟩

theorem integersOf_sameSchema (values others : List Value) :
    (integersOf values).SameSchema (integersOf others) :=
  .cons ⟨rfl, ⟨rfl, rfl⟩⟩ .nil

/-- A SELECT from that table. -/
def selectFrom (fields : List (Selector Select)) (condition : Option (Expr Select))
    (groupBy : List (Expr Select)) : Query :=
  .select ⟨false, fields.map .one,
    some ⟨⟨.table ⟨["items"], by decide, by decide⟩, none⟩, []⟩, condition, groupBy, none⟩

/-- `SELECT a AS a, COUNT(a) AS n FROM items GROUP BY a`. -/
def countOfEach : Query :=
  selectFrom [⟨.field ["a"], some "a", some 1⟩,
    ⟨.call (.count false) [.field ["a"]], some "n", some 2⟩] none [.field ["a"]]

theorem Query.run_of_sameSchema_counts :
    ((integersOf []).WellFormed ∧
      (integersOf [.integer 1, .integer 1, .integer 2]).SameSchema (integersOf []) ∧
      (∀ e ∈ countOfEach.exprs, e.Every Expr.IsRegular) ∧
      countOfEach.CallsPlaced ⟨integersOf [.integer 1, .integer 1, .integer 2], newYear⟩ ∧
      countOfEach.run ⟨integersOf [.integer 1, .integer 1, .integer 2], newYear⟩ =
        .ok (⟨["a", "n"], [⟨[.integer 1, .integer 2], some .integer⟩,
          ⟨[.integer 2, .integer 1], some .integer⟩], 2⟩, none)) ∧
    ((∃ u, countOfEach.run ⟨integersOf [], newYear⟩ = .ok (u, none) ∧
        u.names = ["a", "n"]) ∨
      ∃ x, countOfEach.run ⟨integersOf [], newYear⟩ = .error x ∧ x.kind = .evaluation) := by
  have hcatalog : (integersOf []).WellFormed := by
    intro e he
    obtain rfl := List.mem_singleton.mp he
    refine ⟨rfl, fun c hc => ?_, fun c hc v hv => ?_⟩
    · obtain rfl := List.mem_singleton.mp hc
      rfl
    · obtain rfl := List.mem_singleton.mp hc
      cases hv
  have hfield : ∀ path, (Expr.field path : Expr Select).Every Expr.IsRegular :=
    fun path => .leaf ⟨rfl, rfl, trivial⟩ rfl
  have hregular : ∀ e ∈ countOfEach.exprs, e.Every Expr.IsRegular := by
    refine List.forall_mem_cons.mpr ⟨hfield _, List.forall_mem_cons.mpr ⟨?_, ?_⟩⟩
    · exact .intro ⟨rfl, rfl, [_], rfl, rfl⟩ (List.forall_mem_singleton.mpr (hfield _))
    · exact List.forall_mem_singleton.mpr (hfield _)
  have hplaced : countOfEach.CallsPlaced
      ⟨integersOf [.integer 1, .integer 1, .integer 2], newYear⟩ := by
    refine List.forall_mem_singleton.mpr ⟨?joins, fun f hf => ?clauses⟩
    case joins =>
      intro source hsource j hj
      obtain rfl := Option.some.inj hsource
      cases hj
    case clauses =>
      obtain rfl := Except.ok.inj hf
      refine ⟨nofun, fun selectors hselectors => ?_, fun selectors hselectors => ?_, nofun⟩
      · obtain rfl := Except.ok.inj hselectors
        refine List.forall_mem_cons.mpr ⟨.leaf ⟨nofun, nofun⟩ rfl, ?_⟩
        refine List.forall_mem_singleton.mpr (.intro ⟨nofun, fun _ => ⟨true, rfl, ?_⟩⟩ ?_)
        · exact List.forall_mem_singleton.mpr (.leaf ⟨rfl, fun _ => ⟨rfl, rfl⟩⟩ rfl)
        · exact List.forall_mem_singleton.mpr (.leaf ⟨nofun, nofun⟩ rfl)
      · rintro name x ⟨key, hkey, hname⟩ hfind -
        obtain rfl := List.mem_singleton.mp hkey
        obtain rfl := List.singleton_inj.mp (Option.some.inj hname)
        cases hfind
  have hrun : countOfEach.run ⟨integersOf [.integer 1, .integer 1, .integer 2], newYear⟩ =
      .ok (⟨["a", "n"], [⟨[.integer 1, .integer 2], some .integer⟩,
        ⟨[.integer 2, .integer 1], some .integer⟩], 2⟩, none) := rfl
  refine ⟨⟨hcatalog, integersOf_sameSchema _ _, hregular, hplaced, hrun⟩, ?_⟩
  have hother := Query.run_of_sameSchema hcatalog (integersOf_sameSchema _ _) hregular hplaced hrun
  exact hother.imp_left fun ⟨u, hu, hschema⟩ => ⟨u, hu, hschema.names.symm⟩

/-- `SELECT a AS a, ROW_NUMBER() OVER () AS n FROM items GROUP BY a`. -/
def numberOfEach : Query :=
  selectFrom [⟨.field ["a"], some "a", some 1⟩,
    ⟨.analytic .rowNumber [.ofValue (.integer 1)] [] [], some "n", some 2⟩] none [.field ["a"]]

/-- `SELECT a AS a FROM items WHERE COUNT(a) > 0`. -/
def countedRows : Query :=
  selectFrom [⟨.field ["a"], some "a", some 1⟩]
    (some (.binary .gt (.call (.count false) [.field ["a"]]) (.ofValue (.integer 0)))) []

/-- `SELECT a + [] AS s FROM items`. -/
def emptyArrayAdded : Query :=
  selectFrom [⟨.binary .add (.field ["a"]) (.ofValue (.array [])), some "s", some 1⟩] none []

/-- A window over groups passes while there are as many rows as groups, a reducing call in WHERE
while there is one row, and the empty array as a number while there is none. -/
theorem acceptance_by_rows :
    (numberOfEach.run ⟨integersOf [.integer 1, .integer 2], newYear⟩ =
        .ok (⟨["a", "n"], [⟨[.integer 1, .integer 2], some .integer⟩,
          ⟨[.integer 1, .integer 2], some .integer⟩], 2⟩, none) ∧
      ∃ x, numberOfEach.run ⟨integersOf [.integer 1, .integer 1], newYear⟩ = .error x ∧
        x.kind = .semantic) ∧
    (countedRows.run ⟨integersOf [.integer 1], newYear⟩ =
        .ok (⟨["a"], [⟨[.integer 1], some .integer⟩], 1⟩, none) ∧
      ∃ x, countedRows.run ⟨integersOf [.integer 1, .integer 2], newYear⟩ = .error x ∧
        x.kind = .semantic) ∧
    (emptyArrayAdded.run ⟨integersOf [], newYear⟩ =
        .ok (⟨["s"], [⟨[], some .integer⟩], 0⟩, none) ∧
      ∃ x, emptyArrayAdded.run ⟨integersOf [.integer 1], newYear⟩ = .error x ∧
        x.kind = .type) :=
  ⟨⟨rfl, _, rfl, rfl⟩, ⟨rfl, _, rfl, rfl⟩, rfl, _, rfl, rfl⟩

end ColumnarSql
