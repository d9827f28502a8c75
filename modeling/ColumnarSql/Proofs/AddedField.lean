import ColumnarSql.Proofs.GroupKeys
import ColumnarSql.Proofs.RectangularTables

/-!
# One more field

A SELECT with GROUP BY that succeeds reads its keys the same way after one more field at the
end of its list, since every key was found among the columns or the fields before it. So it
groups the same frame, and its result gains the column of that field (`run_added`), if the
field's name is fresh: a name that nothing else has is no key. HAVING is evaluated in the same
frame (`run_withHaving`).
-/

set_option autoImplicit false

namespace ColumnarSql

/-! ## Names that no column has -/

/-- No column has this name. -/
def Frame.Lacks (f : Frame) (name : String) : Prop := ∀ c ∈ f.columns, c.name ≠ name

theorem Frame.find_eq_none_iff_lacks {f : Frame} {name : String} :
    f.find [name] = .ok none ↔ f.Lacks name := by
  simp [Frame.find_eq_none_iff, ScopeColumn.answers, Frame.Lacks]

theorem Frame.Lacks.filter {f : Frame} {name : String} (h : f.Lacks name) (mask : List Bool) :
    (f.filter mask).Lacks name := by
  simpa [Frame.Lacks, Frame.filter, Frame.mapColumns] using h

theorem tryResolveIn_of_lacks {name : String} : ∀ {fs : List Frame},
    (∀ f ∈ fs, f.Lacks name) → Scope.tryResolveIn fs [name] = .ok none
  | [], _ => rfl
  | f :: fs, h => by
    have ih := tryResolveIn_of_lacks fun g hg => h g (List.mem_cons_of_mem f hg)
    rw [Scope.tryResolveIn, Frame.find_eq_none_iff_lacks.mpr (h f List.mem_cons_self)]
    exact ih

/-! ## Keys -/

namespace Grouping

variable {now : Moment} {outer : List Frame} {selectors : List (Selector Plan)} {f g : Frame}

theorem keyPath_append (x : Selector Plan) {path : List String} {p : String}
    (h : keyPath now outer selectors path f = .ok p g) :
    keyPath now outer (selectors ++ [x]) path f = .ok p g := by
  rw [keyPath_eq_ok_iff] at h ⊢
  rcases h with h | ⟨hfree, hpath, s, a, c, hs, h⟩
  · exact .inl h
  · refine .inr ⟨hfree, hpath, s, a, c, ?_, h⟩
    rw [named?] at hs
    rw [named?, List.find?_append, hs]
    rfl

theorem selectorAt?_append (x : Selector Plan) {position : Int64} {s : Selector Plan}
    (h : selectorAt? selectors position = some s) :
    selectorAt? (selectors ++ [x]) position = some s := by
  unfold selectorAt? at h ⊢
  split at h
  · next hpos =>
    obtain ⟨hlt, -⟩ := List.getElem?_eq_some_iff.mp h
    rw [if_pos hpos, List.getElem?_append_left hlt, h]
  · simp at h

theorem keyTarget?_append (x : Selector Plan) {key : Expr Plan} {path : List String}
    (h : keyTarget? selectors key = some path) :
    keyTarget? (selectors ++ [x]) key = some path := by
  cases key with
  | literal l =>
    simp only [keyTarget?, Option.bind_eq_some_iff] at h ⊢
    obtain ⟨position, hposition, s, hs, hpath⟩ := h
    exact ⟨position, hposition, s, selectorAt?_append x hs, hpath⟩
  | _ => exact h

theorem keyOf_append (x : Selector Plan) {key : Expr Plan} {p : String}
    (h : keyOf now outer selectors key f = .ok p g) :
    keyOf now outer (selectors ++ [x]) key f = .ok p g := by
  obtain ⟨path, htarget, hpath⟩ := keyOf_eq_ok_iff.mp h
  exact keyOf_eq_ok_iff.mpr ⟨path, keyTarget?_append x htarget, keyPath_append x hpath⟩

theorem keys_append (x : Selector Plan) : ∀ {keys : List (Expr Plan)} {f g : Frame}
    {paths : List String}, keys.mapM (keyOf now outer selectors) f = .ok paths g →
      keys.mapM (keyOf now outer (selectors ++ [x])) f = .ok paths g
  | [], _, _, _, h => h
  | key :: keys, f, g, paths, h => by
    simp only [List.mapM_cons, FrameM.bind_eq_ok, FrameM.pure_eq_ok] at h ⊢
    obtain ⟨p, k, hp, ps, k', hps, h⟩ := h
    exact ⟨p, k, keyOf_append x hp, ps, k', keys_append x hps, h⟩

/-- GROUP BY with one more field groups the same frame and marks that field too. -/
theorem groupBy_append (x : Selector Plan) {keys marked marked' : List (Expr Plan)} {G G' : Frame}
    (h : groupBy now outer selectors keys f = .ok marked G) :
    groupBy now outer (selectors ++ [x]) keys f = .ok marked' G' ↔
      ∃ m, x.toExpr.mark (isKey ⟨G, outer⟩ G.groupPaths) = .ok m ∧
        marked ++ [m] = marked' ∧ G = G' := by
  rw [groupBy_eq_ok_iff] at h ⊢
  obtain ⟨paths, g, columns, hkeys, hcolumns, rfl, hmarked⟩ := h
  constructor
  · rintro ⟨paths', g', columns', hkeys', hcolumns', hG, hmarks⟩
    obtain ⟨rfl, rfl⟩ := EStateM.Result.ok.inj ((keys_append x hkeys).symm.trans hkeys')
    obtain rfl := Except.ok.inj (hcolumns.symm.trans hcolumns')
    subst hG
    obtain ⟨ms, hms, m, hm, rfl⟩ := mapM_concat_eq_ok.mp hmarks
    obtain rfl := Except.ok.inj (hmarked.symm.trans hms)
    exact ⟨m, hm, rfl, rfl⟩
  · rintro ⟨m, hm, rfl, rfl⟩
    exact ⟨paths, g, columns, keys_append x hkeys, hcolumns, rfl,
      mapM_concat_eq_ok.mpr ⟨_, hmarked, m, hm, rfl⟩⟩

theorem Keyed.lacks {name : String} (h : Keyed now outer selectors f g) (hf : f.Lacks name)
    (hnames : ∀ s ∈ selectors, s.name ≠ .ok name) : g.Lacks name := by
  induction h with
  | start => exact hf
  | @compute g name' s a c _ _ hs _ _ _ ih =>
    intro d hd
    rcases List.mem_append.mp hd with hd | hd
    · exact ih d hd
    · obtain rfl := List.mem_singleton.mp hd
      rintro rfl
      exact hnames s (List.mem_of_find?_eq_some hs) (name_of_named? hs)

/-- A fresh name is no key. -/
theorem isKey_of_lacks {paths : List String} {name : String} (hg : g.Lacks name)
    (houter : ∀ o ∈ outer, o.Lacks name) : isKey ⟨g, outer⟩ paths [name] = .ok false := by
  have hresolve : (⟨g, outer⟩ : Scope).tryResolve [name] = .ok none :=
    tryResolveIn_of_lacks (List.forall_mem_cons.mpr ⟨hg, houter⟩)
  rw [isKey, hresolve]
  rfl

end Grouping

/-! ## The table of the fields -/

namespace SelectOf

variable {now : Moment} {scope : Scope} {t t' : Table}

theorem expand_concat {f : Frame} {fields : List (SelectField Plan)} (x : Selector Plan)
    {selectors : List (Selector Plan)} :
    expand f (fields ++ [.one x]) = .ok selectors ↔
      ∃ before, expand f fields = .ok before ∧ before ++ [x] = selectors := by
  simp only [expand, List.zipIdx_append, List.zipIdx_singleton, bind_eq_ok, pure_eq_ok,
    mapM_concat_eq_ok, Except.ok.injEq, exists_eq_left']
  constructor
  · rintro ⟨-, ⟨parts, hparts, rfl⟩, rfl⟩
    exact ⟨_, ⟨parts, hparts, rfl⟩, by simp⟩
  · rintro ⟨-, ⟨parts, hparts, rfl⟩, rfl⟩
    exact ⟨_, ⟨parts, hparts, rfl⟩, by simp⟩

/-- The table with one more field. -/
theorem fieldsTable_concat {selectors : List (Selector Plan)} {exprs : List (Expr Plan)}
    (hlen : selectors.length = exprs.length) (h : fieldsTable now scope selectors exprs = .ok t)
    {x : Selector Plan} {name : String} (hx : x.name = .ok name) (e : Expr Plan) :
    fieldsTable now scope (selectors ++ [x]) (exprs ++ [e]) = .ok t' ↔
      ∃ a c, e.eval now scope = .ok a ∧ a.toColumn t.numRows = .ok c ∧
        ⟨t.names ++ [name], t.columns ++ [c], t.numRows⟩ = t' := by
  obtain ⟨fields, hfields, ht⟩ := bind_eq_ok.mp h
  obtain ⟨hnames, hlengths, rfl⟩ := Table.ofColumns_eq_ok ht
  rw [fieldsTable, List.zip_append hlen]
  simp only [List.zip_cons_cons, List.zip_nil_left, bind_eq_ok, mapM_concat_eq_ok, hfields,
    Except.ok.injEq, exists_eq_left', fieldColumn_eq_ok_iff, hx]
  have hadded : ∀ c : Column, c.length = scope.frame.outputLength →
      Table.ofColumns ((fields ++ [(name, c)]).map (·.1)) ((fields ++ [(name, c)]).map (·.2))
          scope.frame.outputLength =
        .ok ⟨fields.map (·.1) ++ [name], fields.map (·.2) ++ [c], scope.frame.outputLength⟩ := by
    intro c hc
    rw [List.map_append, List.map_append]
    exact Table.ofColumns_of_lengths (by simp)
      (List.forall_mem_append.mpr ⟨hlengths, List.forall_mem_singleton.mpr hc⟩)
  constructor
  · rintro ⟨-, ⟨⟨n, c⟩, ⟨rfl, a, ha, hc⟩, rfl⟩, ht'⟩
    rw [hadded c (Evaluated.length_toColumn hc).1, Except.ok.injEq] at ht'
    exact ⟨a, c, ha, hc, ht'⟩
  · rintro ⟨a, c, ha, hc, rfl⟩
    exact ⟨_, ⟨(name, c), ⟨rfl, a, ha, hc⟩, rfl⟩, hadded c (Evaluated.length_toColumn hc).1⟩

/-! ## The query with one more field -/

variable {s : SelectOf Plan (Except Error Frame)} {outer : List Frame}

/-- The steps of a SELECT with keys, up to the table of its fields: the rows of FROM and WHERE,
the expanded fields, their marked expressions and the grouped frame. -/
structure GroupedSteps (now : Moment) (s : SelectOf Plan (Except Error Frame))
    (outer : List Frame) (input : Frame) (selectors : List (Selector Plan))
    (marked : List (Expr Plan)) (G : Frame) (t : Table) : Prop where
  distinct : s.distinct = false
  inputScope : s.inputScope now outer = .ok ⟨input, outer⟩
  expand : SelectOf.expand input s.fields = .ok selectors
  groupBy : Grouping.groupBy now outer selectors s.groupBy input = .ok marked G
  fields : fieldsTable now ⟨G, outer⟩ selectors marked = .ok t

/-- A SELECT with keys succeeds when its steps and HAVING do. -/
theorem run_of_keys_eq_ok_iff (hkeys : s.groupBy ≠ []) :
    s.run now outer = .ok t ↔ ∃ input selectors marked G result,
      GroupedSteps now s outer input selectors marked G result ∧
        s.having.elim (.ok result) (applyHaving now · result ⟨G, outer⟩) = .ok t := by
  have hgrouped : ∀ (scope : Scope) (selectors : List (Selector Plan)) (grouped : Scope)
      (marked : List (Expr Plan)), s.groupedFields now scope selectors = .ok (grouped, marked) ↔
        ∃ G, Grouping.groupBy now scope.outer selectors s.groupBy scope.frame = .ok marked G ∧
          ⟨G, scope.outer⟩ = grouped := fun _ _ _ _ => by
    simp [groupedFields_eq_ok_iff, hkeys]
  rw [run_eq_ok_iff]
  constructor
  · rintro ⟨hdistinct, ⟨input, outer'⟩, selectors, grouped, marked, result, hinput, hselectors,
      hfields, hresult, hlast⟩
    obtain ⟨rfl, -⟩ := kept_by_inputScope (P := fun _ => True) trivial (fun _ _ => trivial)
      (fun _ _ _ _ => trivial) hinput
    obtain ⟨G, hG, rfl⟩ := (hgrouped _ _ _ _).mp hfields
    exact ⟨input, selectors, marked, G, result, ⟨hdistinct, hinput, hselectors, hG, hresult⟩, hlast⟩
  · rintro ⟨input, selectors, marked, G, result, h, hlast⟩
    exact ⟨h.distinct, _, selectors, _, marked, result, h.inputScope, h.expand,
      (hgrouped _ _ _ _).mpr ⟨G, h.groupBy, rfl⟩, h.fields, hlast⟩

theorem name_of_fieldsTable {selectors : List (Selector Plan)} {exprs : List (Expr Plan)}
    (hlen : selectors.length = exprs.length) (h : fieldsTable now scope selectors exprs = .ok t)
    {x : Selector Plan} (hx : x ∈ selectors) : ∃ name ∈ t.names, x.name = .ok name := by
  obtain ⟨i, hi, rfl⟩ := List.getElem_of_mem hx
  obtain ⟨p, hfield, hname, -⟩ := field_of_fieldsTable h hi (hlen ▸ hi)
  exact ⟨p.1, List.mem_of_getElem? hname, (fieldColumn_eq_ok_iff.mp hfield).1⟩

/-- A SELECT with one more field at the end, under a name. -/
def added {σ φ : Type} (s : SelectOf σ φ) (c : Expr σ) (name : String) (position : Option Nat) :
    SelectOf σ φ :=
  { s with fields := s.fields ++ [.one ⟨c, some name, position⟩] }

/-- A name that no column of FROM or of an enclosing query and no field has. -/
structure IsFresh (s : SelectOf Plan (Except Error Frame)) (outer : List Frame) (t : Table)
    (name : String) : Prop where
  source : ∀ f, s.source = some (.ok f) → f.Lacks name
  outer : ∀ f ∈ outer, f.Lacks name
  fields : name ∉ t.names

/-- The SELECT under a HAVING condition. -/
def withHaving {σ φ : Type} (s : SelectOf σ φ) (c : Expr σ) : SelectOf σ φ :=
  { s with having := some c }

namespace GroupedSteps

variable {input G : Frame} {selectors : List (Selector Plan)} {marked : List (Expr Plan)}
  {c : Expr Plan} {name : String} {position : Option Nat}

theorem length_marked (h : GroupedSteps now s outer input selectors marked G t) :
    selectors.length = marked.length :=
  Grouping.length_groupBy h.groupBy

theorem isSome_groups (h : GroupedSteps now s outer input selectors marked G t) :
    G.groups.isSome := by
  obtain ⟨_, _, _, -, -, rfl, -⟩ := Grouping.groupBy_eq_ok_iff.mp h.groupBy
  rfl

/-- A fresh name is no key of the groups. -/
theorem isKey_of_isFresh (h : GroupedSteps now s outer input selectors marked G t)
    (hfresh : s.IsFresh outer t name) (paths : List String) :
    Grouping.isKey ⟨G, outer⟩ paths [name] = .ok false := by
  obtain ⟨-, hlacks⟩ := kept_by_inputScope (fun c hc => absurd hc List.not_mem_nil)
    hfresh.source (fun f mask _ hf => hf.filter mask) h.inputScope
  have hnames : ∀ x ∈ selectors, x.name ≠ .ok name := by
    rintro x hx hname
    obtain ⟨n, hn, hxn⟩ := name_of_fieldsTable h.length_marked h.fields hx
    obtain rfl := Except.ok.inj (hname.symm.trans hxn)
    exact hfresh.fields hn
  obtain ⟨g, paths', columns, hkeyed, -, rfl, -⟩ := Grouping.groupBy_eq_ok h.groupBy
  exact Grouping.isKey_of_lacks (hkeyed.lacks hlacks hnames) hfresh.outer

/-- A fresh field is not marked itself, only inside. -/
theorem mark_of_isFresh (h : GroupedSteps now s outer input selectors marked G t)
    (hfresh : s.IsFresh outer t name) {m' : Expr Plan} :
    (Selector.toExpr ⟨c, some name, position⟩).mark (Grouping.isKey ⟨G, outer⟩ G.groupPaths) =
        .ok m' ↔
      ∃ m, c.mark (Grouping.isKey ⟨G, outer⟩ G.groupPaths) = .ok m ∧
        .selector m (some name) position = m' := by
  simp [Selector.toExpr, Expr.mark, Selector.name, h.isKey_of_isFresh hfresh G.groupPaths]

/-- HAVING is evaluated after the same steps. -/
theorem run_withHaving (h : GroupedSteps now s outer input selectors marked G t)
    (hkeys : s.groupBy ≠ []) :
    (s.withHaving c).run now outer = .ok t' ↔ applyHaving now c t ⟨G, outer⟩ = .ok t' := by
  have hkeys' : (s.withHaving c).groupBy ≠ [] := hkeys
  rw [run_of_keys_eq_ok_iff hkeys']
  constructor
  · rintro ⟨input', selectors', marked', G', result, h', hlast⟩
    obtain ⟨rfl, -⟩ := Scope.mk.inj (Except.ok.inj (h.inputScope.symm.trans h'.inputScope))
    obtain rfl := Except.ok.inj (h.expand.symm.trans h'.expand)
    obtain ⟨rfl, rfl⟩ := EStateM.Result.ok.inj (h.groupBy.symm.trans h'.groupBy)
    obtain rfl := Except.ok.inj (h.fields.symm.trans h'.fields)
    exact hlast
  · intro hlast
    exact ⟨input, selectors, marked, G, t,
      ⟨h.distinct, h.inputScope, h.expand, h.groupBy, h.fields⟩, hlast⟩

/-- One more field under a fresh name is evaluated in the same grouped frame. -/
theorem run_added (h : GroupedSteps now s outer input selectors marked G t)
    (hkeys : s.groupBy ≠ []) (hhaving : s.having = none) (hfresh : s.IsFresh outer t name)
    (c : Expr Plan) (position : Option Nat) (t' : Table) :
    (s.added c name position).run now outer = .ok t' ↔
      ∃ m a column, c.mark (Grouping.isKey ⟨G, outer⟩ G.groupPaths) = .ok m ∧
        m.eval now ⟨G, outer⟩ = .ok a ∧ a.toColumn t.numRows = .ok column ∧
        ⟨t.names ++ [name], t.columns ++ [column], t.numRows⟩ = t' := by
  have hkeys' : (s.added c name position).groupBy ≠ [] := hkeys
  have htable : ∀ m, fieldsTable now ⟨G, outer⟩ (selectors ++ [⟨c, some name, position⟩])
      (marked ++ [.selector m (some name) position]) = .ok t' ↔
        ∃ a column, m.eval now ⟨G, outer⟩ = .ok a ∧ a.toColumn t.numRows = .ok column ∧
          ⟨t.names ++ [name], t.columns ++ [column], t.numRows⟩ = t' :=
    fun m => fieldsTable_concat h.length_marked h.fields rfl _
  rw [run_of_keys_eq_ok_iff hkeys']
  constructor
  · rintro ⟨input', selectors', marked', G', result, h', hlast⟩
    obtain rfl : result = t' := by simpa [added, hhaving] using hlast
    obtain ⟨rfl, -⟩ := Scope.mk.inj (Except.ok.inj (h.inputScope.symm.trans h'.inputScope))
    obtain ⟨before, hbefore, rfl⟩ := (expand_concat _).mp h'.expand
    obtain rfl := Except.ok.inj (h.expand.symm.trans hbefore)
    obtain ⟨m', hm', rfl, rfl⟩ := (Grouping.groupBy_append _ h.groupBy).mp h'.groupBy
    obtain ⟨m, hm, rfl⟩ := (h.mark_of_isFresh hfresh).mp hm'
    obtain ⟨a, column, ha, hcolumn, heq⟩ := (htable m).mp h'.fields
    exact ⟨m, a, column, hm, ha, hcolumn, heq⟩
  · rintro ⟨m, a, column, hm, ha, hcolumn, heq⟩
    exact ⟨input, _, _, G, t', ⟨h.distinct, h.inputScope, (expand_concat _).mpr ⟨_, h.expand, rfl⟩,
      (Grouping.groupBy_append _ h.groupBy).mpr
        ⟨_, (h.mark_of_isFresh hfresh).mpr ⟨m, hm, rfl⟩, rfl, rfl⟩,
      (htable m).mpr ⟨a, column, ha, hcolumn, heq⟩⟩, by simp [added, hhaving]⟩

end GroupedSteps

end SelectOf

end ColumnarSql
