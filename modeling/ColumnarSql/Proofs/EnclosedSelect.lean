import ColumnarSql.Proofs.ColumnKeys
import ColumnarSql.Proofs.EnclosingFrames
import ColumnarSql.Proofs.HavingFilter
import ColumnarSql.Proofs.QueryTypes

/-!
# A SELECT inside further queries

A SELECT that gives a table by itself gives the same table inside further queries
(`Select.plan_inside`), as long as they leave the names of its selected expressions alone
(`SelectOf.KeepsNames`). Only GROUP BY asks for such names, and it asks the enclosing queries
before the selected expressions: a column of theirs that has the name of a grouping key hides
the expression, and two of them with the name of any selected expression are ambiguous
(`enclosing_column_hides_key`). Everything else finds what it reads in the nearer frames.
-/

set_option autoImplicit false

namespace ColumnarSql

theorem Expr.StableIn.mark {outer : List Frame} {isKey : List String → Except Error Bool}
    {e m : Expr Plan} (he : e.StableIn outer) (h : e.mark isKey = .ok m) : m.StableIn outer := by
  refine Expr.every_mark ?_ he h
  rintro e - hsub plan rfl
  simp [Expr.isSubquery] at hsub

/-! ## Keys -/

namespace Grouping

variable {now : Moment} {inner outer : List Frame} {keys : List (Expr Plan)}
  {selectors : List (Selector Plan)} {f g k : Frame}

/-- One of the keys stands for this name. -/
def NamesKey (keys : List (Expr Plan)) (selectors : List (Selector Plan)) (name : String) :
    Prop :=
  ∃ key ∈ keys, keyTarget? selectors key = some [name]

/-- The paths that keys can have: of columns of the frame, and the names of keys. -/
def IsKeyPath (keys : List (Expr Plan)) (selectors : List (Selector Plan)) (f : Frame)
    (p : String) : Prop :=
  f.find (Text.splitFirst p) ≠ .ok none ∨ NamesKey keys selectors p

/-- Enclosing frames leave a name alone: they do not resolve it if it is the name of a key, and
resolve it to no path of a key otherwise. -/
structure Spares (keys : List (Expr Plan)) (selectors : List (Selector Plan)) (f : Frame)
    (outer : List Frame) (name : String) : Prop where
  key : NamesKey keys selectors name → Scope.tryResolveIn outer [name] = .ok none
  path : Scope.Avoids outer (IsKeyPath keys selectors f) [name]

/-- What reading keys makes of a frame: it gains columns without a table, under names of
keys. -/
structure Grown (keys : List (Expr Plan)) (selectors : List (Selector Plan)) (f g : Frame) :
    Prop where
  keeps : ∀ c ∈ f.columns, c ∈ g.columns
  adds : ∀ c ∈ g.columns, c ∈ f.columns ∨ c.table = none ∧ NamesKey keys selectors c.name
  passesOn : g.passesOn = f.passesOn

theorem Grown.refl (keys : List (Expr Plan)) (selectors : List (Selector Plan)) (f : Frame) :
    Grown keys selectors f f :=
  ⟨fun _ h => h, fun _ h => .inl h, rfl⟩

theorem Grown.lacks (h : Grown keys selectors f g) {name : String} (hg : g.Lacks name) :
    f.Lacks name :=
  fun c hc => hg c (h.keeps c hc)

theorem Grown.keyOf (h : Grown keys selectors f g) {key : Expr Plan} (hkey : key ∈ keys)
    {p : String} (hread : keyOf now outer selectors key g = .ok p k) :
    Grown keys selectors f k := by
  obtain ⟨path, htarget, hpath⟩ := keyOf_eq_ok_iff.mp hread
  rcases keyPath_eq_ok_iff.mp hpath with ⟨-, rfl⟩ | ⟨-, rfl, s, a, c, -, -, -, -, rfl⟩
  · exact h
  · refine ⟨fun d hd => List.mem_append_left _ (h.keeps d hd), fun d hd => ?_, h.passesOn⟩
    rcases List.mem_append.mp hd with hd | hd
    · exact h.adds d hd
    · obtain rfl := List.mem_singleton.mp hd
      exact .inr ⟨rfl, key, hkey, htarget⟩

/-- The paths of keys are such paths. -/
theorem Grown.isKeyPath (h : Grown keys selectors f g) {paths : List String}
    {columns : List Column}
    (hcolumns : (paths.mapM fun p => g.column (Text.splitFirst p)) = .ok columns) {p : String}
    (hp : p ∈ paths) : IsKeyPath keys selectors f p := by
  obtain ⟨column, -, hcolumn⟩ := exists_of_mem_of_mapM hcolumns hp
  obtain ⟨c?, hfind, hcolumn⟩ := bind_eq_ok.mp hcolumn
  cases c? with
  | none => simp at hcolumn
  | some c =>
    obtain ⟨hc, hanswers⟩ := Frame.mem_of_find hfind
    rcases h.adds c hc with hold | ⟨htable, hname⟩
    · refine .inl fun hnone => ?_
      simp [Frame.find_eq_none_iff.mp hnone c hold] at hanswers
    · have hsplit := Frame.path_of_answers htable hanswers
      rw [Text.eq_of_splitFirst hsplit]
      exact .inr hname

theorem Grown.of_keys : ∀ {ks : List (Expr Plan)} {g k : Frame} {paths : List String},
    (∀ key ∈ ks, key ∈ keys) → Grown keys selectors f g →
      ks.mapM (Grouping.keyOf now outer selectors) g = .ok paths k → Grown keys selectors f k
  | [], g, k, paths, _, hg, h => by
    rw [List.mapM_nil, FrameM.pure_eq_ok] at h
    exact h.2 ▸ hg
  | key :: ks, g, k, paths, hks, hg, h => by
    simp only [List.mapM_cons, FrameM.bind_eq_ok, FrameM.pure_eq_ok] at h
    obtain ⟨p, g', hp, ps, k', hps, -, rfl⟩ := h
    obtain ⟨hkey, hks⟩ := List.forall_mem_cons.mp hks
    exact Grown.of_keys hks (hg.keyOf hkey hp) hps

/-- Names left alone are resolved further out to none of the keys. -/
theorem Grown.avoids (h : Grown keys selectors f g) {paths : List String} {columns : List Column}
    (hcolumns : (paths.mapM fun p => g.column (Text.splitFirst p)) = .ok columns) {name : String}
    (hspares : f.Lacks name → Spares keys selectors f outer name)
    (hnone : Scope.tryResolve ⟨grouped g paths columns, inner⟩ [name] = .ok none) :
    Scope.Avoids outer (· ∈ paths) [name] := by
  have hlacks : g.Lacks name :=
    Frame.find_eq_none_iff_lacks.mp (Frame.tryResolve_eq_none_iff.mp hnone).1
  obtain ⟨p?, hresolve, havoids⟩ := (hspares (h.lacks hlacks)).path
  exact ⟨p?, hresolve, fun p hp hmem => havoids p hp (h.isKeyPath hcolumns hmem)⟩

section Inside

variable (hstable : ∀ x ∈ selectors, x.expr.StableIn outer)
  (hnames : ∀ x ∈ selectors, x.toExpr.Named fun name =>
    f.Lacks name → Spares keys selectors f outer name)
include hstable hnames

/-- A key is read inside more frames as it is read without them. -/
theorem keyOf_inside (hf : f.passesOn = false) (hg : Grown keys selectors f g) {key : Expr Plan}
    (hkey : key ∈ keys) {p : String} (h : keyOf now inner selectors key g = .ok p k) :
    keyOf now (inner ++ outer) selectors key g = .ok p k := by
  obtain ⟨path, htarget, hpath⟩ := keyOf_eq_ok_iff.mp h
  refine keyOf_eq_ok_iff.mpr ⟨path, htarget, keyPath_eq_ok_iff.mpr ?_⟩
  have hinside : ∀ path, Scope.tryResolve ⟨g, inner ++ outer⟩ path =
      (Scope.inside ⟨g, inner⟩ outer).tryResolve path := fun _ => rfl
  rcases keyPath_eq_ok_iff.mp hpath with
    ⟨hresolve, rfl⟩ | ⟨hresolve, rfl, s, a, c, hs, ha, hc, hlen, rfl⟩
  · left
    rw [hinside, Scope.tryResolve_inside_of_ne_none (by simp [hresolve])]
    exact ⟨hresolve, rfl⟩
  · right
    have hmem := List.mem_of_find?_eq_some hs
    have hlacks : f.Lacks p :=
      hg.lacks (Frame.find_eq_none_iff_lacks.mp (Frame.tryResolve_eq_none_iff.mp hresolve).1)
    have hspares := (hnames s hmem).self _ _ _ p rfl (name_of_named? hs) hlacks
    have hanchored : Scope.Anchored ⟨g, inner⟩ :=
      Scope.anchored_of_frame (hg.passesOn.trans hf)
    rw [hinside, Scope.tryResolve_inside_of_none hresolve]
    exact ⟨hspares.key ⟨key, hkey, htarget⟩, rfl, s, a, c, hs,
      Expr.eval_inside (hstable s hmem) hanchored ha, hc, hlen, rfl⟩

theorem keys_inside (hf : f.passesOn = false) : ∀ {ks : List (Expr Plan)} {g k : Frame}
    {paths : List String}, (∀ key ∈ ks, key ∈ keys) → Grown keys selectors f g →
      ks.mapM (keyOf now inner selectors) g = .ok paths k →
        ks.mapM (keyOf now (inner ++ outer) selectors) g = .ok paths k
  | [], _, _, _, _, _, h => h
  | key :: ks, g, k, paths, hks, hg, h => by
    simp only [List.mapM_cons, FrameM.bind_eq_ok, FrameM.pure_eq_ok] at h ⊢
    obtain ⟨p, g', hp, ps, k', hps, h⟩ := h
    obtain ⟨hkey, hks⟩ := List.forall_mem_cons.mp hks
    exact ⟨p, g', keyOf_inside hstable hnames hf hg hkey hp, ps, k',
      keys_inside hf hks (hg.keyOf hkey hp) hps, h⟩

/-- GROUP BY groups inside more frames as it does without them, if its marked fields are
evaluated. -/
theorem groupBy_inside (hf : f.passesOn = false) {marked : List (Expr Plan)} {G : Frame}
    (h : groupBy now inner selectors keys f = .ok marked G)
    (heval : ∀ m ∈ marked, ∃ a, m.eval now ⟨G, inner⟩ = .ok a) :
    groupBy now (inner ++ outer) selectors keys f = .ok marked G := by
  obtain ⟨paths, g, columns, hkeys, hcolumns, rfl, hmarked⟩ := groupBy_eq_ok_iff.mp h
  have hgrown := Grown.of_keys (fun _ hkey => hkey) (.refl keys selectors f) hkeys
  refine groupBy_eq_ok_iff.mpr ⟨paths, g, columns,
    keys_inside hstable hnames hf (fun _ hkey => hkey) (.refl keys selectors f) hkeys,
    hcolumns, rfl, ?_⟩
  rw [mapM_eq_ok_iff] at hmarked ⊢
  refine forall₂_imp_of_mem hmarked fun x hx m hm hmark => ?_
  obtain ⟨a, ha⟩ := heval m hm
  exact (Expr.mark_inside
    ((hnames x hx).mono fun name hspares => hgrown.avoids hcolumns hspares) hmark ha).trans hmark

end Inside

end Grouping

/-! ## The steps of SELECT -/

namespace Frame

theorem find_filter_eq_none_iff {f : Frame} {mask : List Bool} {path : List String} :
    (f.filter mask).find path = .ok none ↔ f.find path = .ok none := by
  simp [find_eq_none_iff, Frame.filter, mapColumns, ScopeColumn.answers]

theorem lacks_filter {f : Frame} {mask : List Bool} {name : String} :
    (f.filter mask).Lacks name ↔ f.Lacks name := by
  rw [← find_eq_none_iff_lacks, ← find_eq_none_iff_lacks, find_filter_eq_none_iff]

end Frame

namespace SelectOf

variable {now : Moment} {s : SelectOf Plan (Except Error Frame)} {inner outer : List Frame}

/-- The frame of FROM; without FROM it is one row without columns. -/
def fromFrame (s : SelectOf Plan (Except Error Frame)) : Except Error Frame :=
  s.source.getD (.ok (.ofRows 1))

/-- The expressions in which keys are marked: the fields under GROUP BY, and HAVING. -/
def markable (s : SelectOf Plan (Except Error Frame)) (selectors : List (Selector Plan)) :
    List (Expr Plan) :=
  (if s.groupBy.isEmpty then [] else selectors.map Selector.toExpr) ++ s.having.toList

/-- Enclosing frames leave alone the names of selected expressions that are no columns of the
frame. -/
def KeepsNamesOver (s : SelectOf Plan (Except Error Frame)) (outer : List Frame) (f : Frame) :
    Prop :=
  ∀ selectors, expand f s.fields = .ok selectors → ∀ e ∈ s.markable selectors,
    e.Named fun name => f.Lacks name → Grouping.Spares s.groupBy selectors f outer name

/-- Enclosing frames leave alone the names of selected expressions that are no columns of
FROM. -/
def KeepsNames (s : SelectOf Plan (Except Error Frame)) (outer : List Frame) : Prop :=
  ∀ f, s.fromFrame = .ok f → s.KeepsNamesOver outer f

/-- The names of the columns alone say what stars stand for. -/
theorem expand_congr {f g : Frame}
    (h : f.columns.map (fun c => (c.table, c.name)) = g.columns.map fun c => (c.table, c.name))
    (fields : List (SelectField Plan)) : expand f fields = expand g fields := by
  have hpaths : ∀ k : Frame,
      (k.columns.map fun c => (⟨.field (c.table.toList ++ [c.name]), some c.name, none⟩ :
        Selector Plan)) =
      (k.columns.map fun c => (c.table, c.name)).map fun p =>
        ⟨.field (p.1.toList ++ [p.2]), some p.2, none⟩ := fun k => by
    simp [Function.comp_def]
  have hnames : ∀ (k : Frame) (n : String),
      (k.columns.filter (·.table = some n)).map (·.name) =
        ((k.columns.map fun c => (c.table, c.name)).filter (·.1 = some n)).map (·.2) :=
    fun k n => by
    simp [List.filter_map, Function.comp_def]
  have hcolumns : ∀ t : Star Plan, t.columns f = t.columns g := by
    intro t
    have hof : ∀ n, f.columnsOf? n = g.columnsOf? n := fun n => by
      simp only [Frame.columnsOf?, hnames, h]
    simp only [Star.columns, hof, hpaths, h]
  simp only [expand, Star.selectors, hcolumns]

/-- Stars stand for the same fields over other rows. -/
theorem expand_mapColumns (f : Frame) (n : Nat) (g : Column → Column)
    (fields : List (SelectField Plan)) : expand (f.mapColumns n g) fields = expand f fields :=
  expand_congr (by simp [Frame.mapColumns]) fields

/-- Stars stand for the same fields after WHERE. -/
theorem expand_filter (f : Frame) (mask : List Bool) (fields : List (SelectField Plan)) :
    expand (f.filter mask) fields = expand f fields :=
  expand_mapColumns f _ _ fields

theorem KeepsNamesOver.filter {f : Frame} (h : s.KeepsNamesOver outer f) (mask : List Bool) :
    s.KeepsNamesOver outer (f.filter mask) := by
  intro selectors hselectors e he
  rw [expand_filter] at hselectors
  refine (h selectors hselectors e he).mono fun name hspares hlacks => ?_
  obtain ⟨hkey, p?, hresolve, havoids⟩ := hspares (Frame.lacks_filter.mp hlacks)
  refine ⟨hkey, p?, hresolve, fun p hp hpath => havoids p hp (hpath.imp_left fun hfind => ?_)⟩
  rwa [ne_eq, Frame.find_filter_eq_none_iff] at hfind

/-- The rows of FROM and WHERE are the same inside more frames. -/
theorem inputScope_inside (hcondition : ∀ c, s.condition = some c → c.StableIn outer)
    (hsource : ∀ f, s.fromFrame = .ok f → f.passesOn = false) (hs : s.KeepsNames outer)
    {scope : Scope} (h : s.inputScope now inner = .ok scope) :
    s.inputScope now (inner ++ outer) = .ok (scope.inside outer) ∧
      scope.frame.passesOn = false ∧ s.KeepsNamesOver outer scope.frame ∧
        scope.outer = inner := by
  obtain ⟨f, hf, h⟩ := bind_eq_ok.mp h
  cases hc : s.condition with
  | none =>
    simp only [hc, pure_eq_ok] at h
    subst h
    refine ⟨bind_eq_ok.mpr ⟨f, hf, ?_⟩, hsource f hf, hs f hf, rfl⟩
    rw [hc]
    rfl
  | some c =>
    simp only [hc, bind_eq_ok, pure_eq_ok] at h
    obtain ⟨a, ha, mask, hmask, rfl⟩ := h
    refine ⟨bind_eq_ok.mpr ⟨f, hf, ?_⟩, rfl, (hs f hf).filter mask, rfl⟩
    simp only [hc, bind_eq_ok, pure_eq_ok]
    exact ⟨a, Expr.eval_inside (hcondition c hc) (Scope.anchored_of_frame (hsource f hf)) ha,
      mask, hmask, rfl⟩

theorem length_groupedFields {scope grouped : Scope} {selectors : List (Selector Plan)}
    {marked : List (Expr Plan)} (h : s.groupedFields now scope selectors = .ok (grouped, marked)) :
    selectors.length = marked.length := by
  rcases groupedFields_eq_ok_iff.mp h with ⟨-, rfl, -⟩ | ⟨-, G, hG, -⟩
  · simp
  · exact Grouping.length_groupBy hG

theorem evaluated_of_fieldsTable {scope : Scope} {selectors : List (Selector Plan)}
    {exprs : List (Expr Plan)} (hlen : selectors.length = exprs.length) {t : Table}
    (h : fieldsTable now scope selectors exprs = .ok t) :
    ∀ e ∈ exprs, ∃ a, e.eval now scope = .ok a := by
  intro e he
  obtain ⟨i, hi, rfl⟩ := List.getElem_of_mem he
  obtain ⟨p, hfield, -⟩ := field_of_fieldsTable h (hlen ▸ hi) hi
  obtain ⟨-, a, ha, -⟩ := fieldColumn_eq_ok_iff.mp hfield
  exact ⟨a, ha⟩

section Grouped

variable {scope grouped : Scope} {selectors : List (Selector Plan)} {marked : List (Expr Plan)}

theorem passesOn_groupedFields (hscope : scope.frame.passesOn = false)
    (h : s.groupedFields now scope selectors = .ok (grouped, marked)) :
    grouped.frame.passesOn = false := by
  rcases groupedFields_eq_ok_iff.mp h with ⟨-, -, rfl⟩ | ⟨-, G, hG, rfl⟩
  · split
    · rfl
    · exact hscope
  · obtain ⟨_, _, _, -, -, rfl, -⟩ := Grouping.groupBy_eq_ok_iff.mp hG
    rfl

/-- Marked fields have the subqueries of the fields. -/
theorem stable_groupedFields (hstable : ∀ x ∈ selectors, x.expr.StableIn outer)
    (h : s.groupedFields now scope selectors = .ok (grouped, marked)) :
    ∀ m ∈ marked, m.StableIn outer := by
  refine forall_marked (fun _ _ _ he hmark => he.mark hmark) (fun x hx => ?_) h
  exact .intro (by simp [Selector.toExpr]) (List.forall_mem_singleton.mpr (hstable x hx))

/-- The fields are grouped inside more frames as they are without them. -/
theorem groupedFields_inside (hscope : scope.frame.passesOn = false)
    (hselectors : expand scope.frame s.fields = .ok selectors)
    (hkeeps : s.KeepsNamesOver outer scope.frame)
    (hstable : ∀ x ∈ selectors, x.expr.StableIn outer)
    (h : s.groupedFields now scope selectors = .ok (grouped, marked))
    (heval : ∀ m ∈ marked, ∃ a, m.eval now grouped = .ok a) :
    s.groupedFields now (scope.inside outer) selectors = .ok (grouped.inside outer, marked) := by
  rcases groupedFields_eq_ok_iff.mp h with ⟨hkeys, rfl, rfl⟩ | ⟨hkeys, G, hG, rfl⟩
  · exact groupedFields_eq_ok_iff.mpr (.inl ⟨hkeys, rfl, rfl⟩)
  · refine groupedFields_eq_ok_iff.mpr (.inr ⟨hkeys, G, ?_, rfl⟩)
    refine Grouping.groupBy_inside hstable (fun x hx => ?_) hscope hG heval
    exact hkeeps selectors hselectors x.toExpr (by
      simp only [markable, List.isEmpty_iff, hkeys, if_false]
      exact List.mem_append_left _ (List.mem_map_of_mem hx))

/-- In HAVING the enclosing frames answer no name of a key. -/
theorem having_avoids (hselectors : expand scope.frame s.fields = .ok selectors)
    (hkeeps : s.KeepsNamesOver outer scope.frame)
    (h : s.groupedFields now scope selectors = .ok (grouped, marked)) {c : Expr Plan}
    (hc : s.having = some c) :
    c.Named fun name => grouped.tryResolve [name] = .ok none →
      Scope.Avoids outer (· ∈ grouped.frame.groupPaths) [name] := by
  have hnames := hkeeps selectors hselectors c (by simp [markable, hc])
  rcases groupedFields_eq_ok_iff.mp h with ⟨-, -, rfl⟩ | ⟨-, G, hG, rfl⟩
  · refine hnames.mono fun name hspares hnone => ?_
    simp only [hc, Option.isSome_some, Bool.true_or, if_true] at hnone ⊢
    have hlacks : scope.frame.Lacks name :=
      Frame.find_eq_none_iff_lacks.mp (Frame.tryResolve_eq_none_iff.mp hnone).1
    obtain ⟨p?, hresolve, -⟩ := (hspares hlacks).path
    exact ⟨p?, hresolve, fun p _ => List.not_mem_nil⟩
  · obtain ⟨paths, g, columns, hread, hcolumns, rfl, -⟩ := Grouping.groupBy_eq_ok_iff.mp hG
    have hgrown := Grouping.Grown.of_keys (fun _ hkey => hkey) (.refl s.groupBy selectors _) hread
    exact hnames.mono fun name hspares => hgrown.avoids hcolumns hspares

end Grouped

/-- The fields are the same table inside more frames. -/
theorem fieldsTable_inside {scope : Scope} (hscope : scope.Anchored)
    {selectors : List (Selector Plan)} {exprs : List (Expr Plan)} {t : Table}
    (hexprs : ∀ e ∈ exprs, e.StableIn outer) (h : fieldsTable now scope selectors exprs = .ok t) :
    fieldsTable now (scope.inside outer) selectors exprs = .ok t := by
  obtain ⟨fields, hfields, ht⟩ := bind_eq_ok.mp h
  refine bind_eq_ok.mpr ⟨fields, ?_, ht⟩
  rw [mapM_eq_ok_iff] at hfields ⊢
  refine forall₂_imp_of_mem hfields fun p hp q _ hfield => ?_
  obtain ⟨hname, a, ha, hcolumn⟩ := fieldColumn_eq_ok_iff.mp hfield
  exact fieldColumn_eq_ok_iff.mpr
    ⟨hname, a, Expr.eval_inside (hexprs p.2 (List.of_mem_zip hp).2) hscope ha, hcolumn⟩

/-- HAVING keeps the same rows inside more frames. -/
theorem applyHaving_inside {c : Expr Plan} {result t : Table} {grouped : Scope}
    (hgrouped : grouped.frame.passesOn = false) (hc : c.StableIn outer)
    (hnames : c.Named fun name => grouped.tryResolve [name] = .ok none →
      Scope.Avoids outer (· ∈ grouped.frame.groupPaths) [name])
    (h : applyHaving now c result grouped = .ok t) :
    applyHaving now c result (grouped.inside outer) = .ok t := by
  obtain ⟨m, a, mask, hm, ha, hmask, rfl⟩ := applyHaving_eq_ok_iff.mp h
  have hanchored : (havingScope result grouped).Anchored :=
    Scope.anchored_of_frame (s := grouped) hgrouped
  have hmark := (Expr.mark_inside (hnames.mono fun name havoids hnone =>
    havoids (Frame.tryResolve_eq_none_iff.mp hnone).2) hm ha).trans hm
  exact applyHaving_eq_ok_iff.mpr
    ⟨m, a, mask, hmark, Expr.eval_inside (hc.mark hm) hanchored ha, hmask, rfl⟩

/-- A SELECT whose names the enclosing frames leave alone gives the same table inside them. -/
theorem run_stable (hs : s.KeepsNames outer) (hexprs : ∀ e ∈ s.exprs, e.StableIn outer)
    (hsource : ∀ f, s.fromFrame = .ok f → f.passesOn = false) : (s.run now).StableIn outer := by
  simp only [SelectOf.exprs, List.forall_mem_append, Option.mem_toList] at hexprs
  obtain ⟨⟨⟨hfields, hcondition⟩, -⟩, hhaving⟩ := hexprs
  intro inner t h
  obtain ⟨hdistinct, scope, selectors, grouped, marked, result, hscope, hselectors, hgrouped,
    hresult, hlast⟩ := run_eq_ok_iff.mp h
  obtain ⟨hscope', hframe, hkeeps, -⟩ := inputScope_inside hcondition hsource hs hscope
  have hstable : ∀ x ∈ selectors, x.expr.StableIn outer :=
    forall_expand (fun _ => .leaf (by simp) rfl) hfields hselectors
  have hpasses := passesOn_groupedFields hframe hgrouped
  have hmarked := evaluated_of_fieldsTable (length_groupedFields hgrouped) hresult
  refine run_eq_ok_iff.mpr ⟨hdistinct, scope.inside outer, selectors, grouped.inside outer, marked,
    result, hscope', hselectors,
    groupedFields_inside hframe hselectors hkeeps hstable hgrouped hmarked,
    fieldsTable_inside (Scope.anchored_of_frame hpasses)
      (stable_groupedFields hstable hgrouped) hresult, ?_⟩
  cases hc : s.having with
  | none => simpa [hc] using hlast
  | some c =>
    simp only [hc, Option.elim_some] at hlast ⊢
    exact applyHaving_inside hpasses (hhaving c hc)
      (having_avoids hselectors hkeeps hgrouped hc) hlast

end SelectOf

/-! ## Planned queries -/

/-- FROM gives a frame whose own rows reducing calls read. -/
theorem Join.passesOn_sourceFrame {now : Moment}
    {s : SourceOf Plan (Except Error NamedTable)} {f : Frame} (h : sourceFrame now s = .ok f) :
    f.passesOn = false := by
  obtain ⟨g, hg, h⟩ := bind_eq_ok.mp h
  obtain ⟨p, -, hg⟩ := bind_eq_ok.mp hg
  obtain rfl := pure_eq_ok.mp hg
  exact kept_by_joins (P := fun f => f.passesOn = false) (fun _ _ _ => rfl) (fun _ _ _ hf => hf)
    rfl h

theorem SelectOf.passesOn_fromFrame {env : Session} {s : SelectOf Select Source} {f : Frame}
    (h : (s.planned env).fromFrame = .ok f) : f.passesOn = false := by
  cases hs : s.source with
  | none =>
    simp only [fromFrame, planned, hs, planSource?, Option.getD_none, Except.ok.injEq] at h
    exact h ▸ rfl
  | some source =>
    obtain ⟨⟨q, label⟩, joins⟩ := source
    simp only [fromFrame, planned, hs, planSource?, Option.getD_some] at h
    exact Join.passesOn_sourceFrame h

namespace Select

/-- A property of a SELECT and of every SELECT that its expressions ask for rows; those in FROM
are not searched, since they see no enclosing frame. -/
inductive Every (p : SelectOf Select Source → Prop) : Select → Prop where
  | mk {s : SelectOf Select Source} (self : p s)
      (asked : ∀ e ∈ s.exprs, e.Every fun d => ∀ t, d = .exists t → Every p t) : Every p (.mk s)

/-- Induction over a SELECT and the SELECTs it asks. -/
theorem Every.induct {p : SelectOf Select Source → Prop} {q : Select → Prop}
    (h : ∀ s, p s → (∀ e ∈ s.exprs, e.Every fun d => ∀ t, d = .exists t → q t) → q (.mk s))
    {s : Select} (hs : s.Every p) : q s :=
  @Every.rec p (fun s _ => q s) (fun e _ => e.Every fun d => ∀ t, d = .exists t → q t)
    (fun self _ ih => h _ self ih) (fun _ _ hself hparts => .intro hself hparts) s hs

variable {env : Session} {outer : List Frame}

theorem stable_plan {s : Select} (hs : s.Every fun b => (b.planned env).KeepsNames outer) :
    (s.plan env).StableIn outer := by
  refine Every.induct (q := fun s => (s.plan env).StableIn outer) (fun b hkeeps hasked => ?_) hs
  rw [SelectOf.plan_mk]
  refine SelectOf.run_stable hkeeps (fun e he => ?_) fun f => SelectOf.passesOn_fromFrame
  rw [SelectOf.planned, exprs_planned env b.source] at he
  obtain ⟨d, hd, rfl⟩ := List.mem_map.mp he
  refine every_planExpr env (fun c hc => ?_) (hasked d hd)
  rintro plan hplan
  cases c with
  | «exists» t =>
    obtain rfl := Expr.exists.inj hplan
    exact hc t rfl
  | _ => cases hplan

/-- A SELECT that gives a table by itself gives the same table inside every list of enclosing
frames that leaves alone the names of its selected expressions, and of those of the SELECTs it
asks. -/
theorem plan_inside {s : Select} {t : Table}
    (hs : s.Every fun b => (b.planned env).KeepsNames outer) (h : s.plan env [] = .ok t) :
    s.plan env outer = .ok t :=
  stable_plan hs h

/-- A table of two rows under the path `p.d.keys`. -/
def oneTable : Session where
  catalog := ⟨[(⟨"p", "d", "keys"⟩, ⟨["k"], [⟨[.integer 1, .integer 2], some .integer⟩], 2⟩)]⟩
  now := newYear

def itemKeys : FromItem Query := ⟨.table ⟨["keys"], by decide, by decide⟩, none⟩

/-- A frame of one row with columns of these names. -/
def enclosing (names : List String) : Frame :=
  .ofTable ⟨names, names.map fun _ => ⟨[.integer 7], some .integer⟩, 1⟩ (some "u")

/-- `SELECT k + 1 AS d FROM keys GROUP BY d`. -/
def groupByName : Select :=
  ⟨false, [.one ⟨.binary .add (.field ["k"]) (.literal (.ofValue (.integer 1))), some "d", some 1⟩],
    some ⟨itemKeys, []⟩, none, [.field ["d"]], none⟩

/-- `SELECT COUNT(k) AS n FROM keys GROUP BY k`. -/
def countByKey : Select :=
  ⟨false, [.one ⟨.call (.count false) [.field ["k"]], some "n", some 1⟩], some ⟨itemKeys, []⟩,
    none, [.field ["k"]], none⟩

theorem plan_inside_ambiguous :
    ((groupByName.Every fun b => (b.planned oneTable).KeepsNames [enclosing ["k", "k"]]) ∧
      groupByName.plan oneTable [] =
        .ok ⟨["d"], [⟨[.integer 2, .integer 3], some .integer⟩], 2⟩) ∧
    groupByName.plan oneTable [enclosing ["k", "k"]] =
      .ok ⟨["d"], [⟨[.integer 2, .integer 3], some .integer⟩], 2⟩ := by
  have hplan : groupByName.plan oneTable [] =
      .ok ⟨["d"], [⟨[.integer 2, .integer 3], some .integer⟩], 2⟩ := rfl
  have hkeeps : groupByName.Every fun b =>
      (b.planned oneTable).KeepsNames [enclosing ["k", "k"]] := by
    refine .mk ?names ?asked
    case names =>
      intro f hf selectors hselectors e he
      obtain rfl := Except.ok.inj hf
      obtain rfl := Except.ok.inj hselectors
      obtain rfl := List.mem_singleton.mp he
      refine .intro ?_ ?_
      · rintro x label position name hx hname -
        obtain ⟨rfl, rfl, rfl⟩ := Expr.selector.inj hx
        obtain rfl := Except.ok.inj hname
        exact ⟨fun _ => rfl, none, rfl, by simp⟩
      · intro c hc
        obtain rfl := List.mem_singleton.mp hc
        refine .intro (by simp [planExpr]) fun d hd => ?_
        rcases List.mem_pair.mp hd with rfl | rfl <;> exact .leaf (by simp [planExpr]) rfl
    case asked =>
      intro e he
      rcases List.mem_pair.mp he with rfl | rfl
      · refine .intro (by simp) fun d hd => ?_
        rcases List.mem_pair.mp hd with rfl | rfl <;> exact .leaf (by simp) rfl
      · exact .leaf (by simp) rfl
  exact ⟨⟨hkeeps, hplan⟩, plan_inside hkeeps hplan⟩

/-- An enclosing column under the name of a key hides the expression of that name, and two of
them make the name of any field ambiguous. -/
theorem enclosing_column_hides_key :
    (groupByName.plan oneTable [] =
        .ok ⟨["d"], [⟨[.integer 2, .integer 3], some .integer⟩], 2⟩ ∧
      groupByName.plan oneTable [enclosing ["d"]] =
        .error (.unknownField ["u", "d"] ["keys.k"])) ∧
    countByKey.plan oneTable [] =
        .ok ⟨["n"], [⟨[.integer 1, .integer 1], some .integer⟩], 2⟩ ∧
      countByKey.plan oneTable [enclosing ["n", "n"]] =
        .error (.ambiguousField ["n"] ["u.n", "u.n"]) :=
  ⟨⟨rfl, rfl⟩, rfl, rfl⟩

end Select

end ColumnarSql
