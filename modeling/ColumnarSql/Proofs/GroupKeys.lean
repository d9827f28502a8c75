import ColumnarSql.Proofs.Partition
import ColumnarSql.Proofs.PickedFrames

/-!
# The keys of GROUP BY

While the keys are read the frame only grows: a key that names a computed field adds a
column of that name, which nothing answered before (`Keyed`). What could be read stays as
it was (`Extends.lookup`), and a successful GROUP BY is such a frame together with the
groups of its key columns (`groupBy_eq_ok`).
-/

set_option autoImplicit false

namespace ColumnarSql

/-! ## Steps over a frame -/

namespace FrameM

variable {α β : Type} {f g : Frame}

theorem bind_eq_ok {x : FrameM α} {k : α → FrameM β} {b : β} :
    (x >>= k) f = .ok b g ↔ ∃ a h, x f = .ok a h ∧ k a h = .ok b g := by
  simp only [bind, EStateM.bind]
  cases x f <;> simp

theorem pure_eq_ok {a b : α} : (pure a : FrameM α) f = .ok b g ↔ a = b ∧ f = g := by
  simp [pure, EStateM.pure]

theorem throw_ne_ok {x : Error} {a : α} : (throw x : FrameM α) f ≠ .ok a g := by
  change EStateM.Result.error x f ≠ .ok a g
  simp

theorem get_eq_ok {h : Frame} : (get : FrameM Frame) f = .ok h g ↔ h = f ∧ g = f := by
  change EStateM.Result.ok f f = .ok h g ↔ _
  simp [eq_comm]

theorem set_eq_ok {h : Frame} {u : PUnit} : (set h : FrameM PUnit) f = .ok u g ↔ g = h := by
  change EStateM.Result.ok PUnit.unit h = .ok u g ↔ _
  simp [eq_comm]

theorem lift_eq_ok {x : Except Error α} {a : α} :
    Grouping.lift x f = .ok a g ↔ x = .ok a ∧ f = g := by
  cases x with
  | error e => simp [Grouping.lift, throw_ne_ok]
  | ok b => simp [Grouping.lift, pure_eq_ok]

/-- What every step of a walk keeps, the walk keeps. -/
theorem mapM_preserves {k : α → FrameM β} {P : Frame → Prop}
    (hstep : ∀ a f b g, k a f = .ok b g → P f → P g) :
    ∀ (as : List α) {f : Frame} {bs : List β} {g : Frame},
      as.mapM k f = .ok bs g → P f → P g
  | [], f, bs, g, h, hf => by
    rw [List.mapM_nil, pure_eq_ok] at h
    exact h.2 ▸ hf
  | a :: as, f, bs, g, h, hf => by
    simp only [List.mapM_cons, bind_eq_ok, pure_eq_ok] at h
    obtain ⟨b, f', hb, bs', g', hbs, -, rfl⟩ := h
    exact mapM_preserves hstep as hbs (hstep a f b f' hb hf)

/-- Every step of a walk has succeeded in some frame. -/
theorem exists_of_mem_of_mapM {k : α → FrameM β} :
    ∀ {as : List α} {f : Frame} {bs : List β} {g : Frame} {a : α},
      as.mapM k f = .ok bs g → a ∈ as → ∃ f' b g', k a f' = .ok b g'
  | [], _, _, _, _, _, ha => by simp at ha
  | a' :: as, f, bs, g, a, h, ha => by
    simp only [List.mapM_cons, bind_eq_ok] at h
    obtain ⟨b, f', hb, bs', g', hbs, -⟩ := h
    rcases List.mem_cons.mp ha with rfl | ha
    · exact ⟨f, b, f', hb⟩
    · exact exists_of_mem_of_mapM hbs ha

end FrameM

/-! ## Growing frames -/

namespace Frame

/-- A frame with more columns, each without a table and under a name that nothing
answered before. -/
structure Extends (outer : List Frame) (f g : Frame) : Prop where
  numRows_eq : g.numRows = f.numRows
  groups_eq : g.groups = f.groups
  columns : ∃ added, g.columns = f.columns ++ added ∧ ∀ c ∈ added,
    c.table = none ∧ c.column.length = f.numRows ∧
      Scope.tryResolve ⟨f, outer⟩ [c.name] = .ok none

theorem Extends.refl (outer : List Frame) (f : Frame) : f.Extends outer f :=
  ⟨rfl, rfl, [], by simp⟩

/-- New columns are as long as the old ones. -/
theorem Extends.uniform {outer : List Frame} {f g : Frame} (h : f.Extends outer g)
    (hf : f.Uniform) : g.Uniform := by
  obtain ⟨added, hcolumns, hadded⟩ := h.columns
  intro c hc
  rw [hcolumns, List.mem_append] at hc
  rw [h.numRows_eq]
  exact hc.elim (hf c) fun hc => (hadded c hc).2.1

/-- A path is not found if no column answers to it. -/
theorem find_eq_none_iff {f : Frame} {path : List String} :
    f.find path = .ok none ↔ ∀ c ∈ f.columns, c.answers path = false := by
  have hnil : f.columns.filter (·.answers path) = [] ↔
      ∀ c ∈ f.columns, c.answers path = false := by
    simp
  rw [← hnil]
  unfold find
  generalize f.columns.filter (·.answers path) = cs
  rcases cs with _ | ⟨c, _ | ⟨d, cs⟩⟩ <;> simp

/-- Where a path is not found, no column answers to it. -/
theorem filter_answers_of_find_eq_none {f : Frame} {path : List String}
    (h : f.find path = .ok none) : f.columns.filter (·.answers path) = [] :=
  List.filter_eq_nil_iff.mpr fun c hc => by simp [find_eq_none_iff.mp h c hc]

/-- Where a path finds no column, it finds an added one if that answers. -/
theorem find_addedColumn {f : Frame} {path : List String} (h : f.find path = .ok none)
    (c : ScopeColumn) : find { f with columns := f.columns ++ [c] } path =
      .ok (if c.answers path then some c else none) := by
  have hsilent := filter_answers_of_find_eq_none h
  cases hc : c.answers path <;> simp [find, hsilent, hc]

/-- A column without a table answers only to its own name. -/
theorem path_of_answers {c : ScopeColumn} {path : List String} (hc : c.table = none)
    (h : c.answers path) : path = [c.name] := by
  unfold ScopeColumn.answers at h
  split at h
  · simpa using (of_decide_eq_true h).symm
  · simp [hc] at h
  · simp at h

/-- A path is not resolved if neither the frame nor the frames around it have it. -/
theorem tryResolve_eq_none_iff {f : Frame} {outer : List Frame} {path : List String} :
    Scope.tryResolve ⟨f, outer⟩ path = .ok none ↔
      f.find path = .ok none ∧ Scope.tryResolveIn outer path = .ok none := by
  simp only [Scope.tryResolve, Scope.frames, Scope.tryResolveIn]
  rcases f.find path with _ | _ | _ <;> simp

/-- A column is added exactly if it is as long as the frame. -/
theorem addColumn_eq_ok {f g : Frame} {table : Option String} {name : String} {c : Column} :
    f.addColumn table name c = .ok g ↔
      c.length = f.numRows ∧ { f with columns := f.columns ++ [⟨table, name, c⟩] } = g := by
  simp [addColumn]

/-- What is looked up is resolved. -/
theorem resolved_of_lookupFrom :
    ∀ {f : Frame} {outer : List Frame} {path : List String} {a : Evaluated},
      Scope.lookupFrom f outer path = .ok a → Scope.tryResolveIn (f :: outer) path ≠ .ok none
  | f, outer, path, a, h => by
    obtain ⟨c?, hc⟩ := Scope.find_of_lookupFrom h
    cases c? with
    | some c => simp [Scope.tryResolveIn, hc]
    | none =>
      cases outer with
      | nil => simp [Scope.lookupFrom, hc] at h
      | cons o outer =>
        obtain ⟨b, hb, -⟩ := (Scope.lookupFrom_cons_of_not_found hc).mp h
        simpa [Scope.tryResolveIn, hc] using resolved_of_lookupFrom hb

/-- The added columns answer no path that was resolved before. -/
theorem Extends.find_eq_of_resolved {outer : List Frame} {f g : Frame} (h : f.Extends outer g)
    {path : List String} (hpath : Scope.tryResolve ⟨f, outer⟩ path ≠ .ok none) :
    g.find path = f.find path := by
  obtain ⟨added, hcolumns, hadded⟩ := h.columns
  have hsilent : added.filter (·.answers path) = [] := by
    refine List.filter_eq_nil_iff.mpr fun c hc hanswers => ?_
    obtain ⟨htable, -, hfree⟩ := hadded c hc
    exact hpath (path_of_answers htable hanswers ▸ hfree)
  simp [find, hcolumns, hsilent]

/-- A path that was resolved is resolved to the same column. -/
theorem Extends.tryResolve_eq {outer : List Frame} {f g : Frame} (h : f.Extends outer g)
    {path : List String} (hpath : Scope.tryResolve ⟨f, outer⟩ path ≠ .ok none) :
    Scope.tryResolve ⟨g, outer⟩ path = Scope.tryResolve ⟨f, outer⟩ path := by
  simp [Scope.tryResolve, Scope.frames, Scope.tryResolveIn, h.find_eq_of_resolved hpath]

/-- What could be looked up is found as before in the frame with new columns. -/
theorem Extends.find_eq {outer : List Frame} {f g : Frame} (h : f.Extends outer g)
    {path : List String} {a : Evaluated} (ha : Scope.lookupFrom f outer path = .ok a) :
    g.find path = f.find path :=
  h.find_eq_of_resolved (resolved_of_lookupFrom ha)

/-- A single row of a frame has the columns of the frame. -/
theorem find_row_eq_none_iff {f : Frame} {i : Nat} {path : List String} :
    (f.row i).find path = .ok none ↔ f.find path = .ok none := by
  rw [row, find_take]
  rcases f.find path with _ | _ | _ <;> simp [Except.map]

/-- Rows of a grown frame are grown rows. -/
theorem Extends.row {outer : List Frame} {f g : Frame} (h : f.Extends outer g) (i : Nat) :
    (f.row i).Extends outer (g.row i) := by
  obtain ⟨added, hcolumns, hadded⟩ := h.columns
  refine ⟨rfl, rfl, added.map fun c => { c with column := c.column.take [i] }, ?_, ?_⟩
  · simp [Frame.row, Frame.take, mapColumns, hcolumns]
  · simp only [List.forall_mem_map]
    intro c hc
    obtain ⟨htable, -, hfree⟩ := hadded c hc
    obtain ⟨hfind, houter⟩ := tryResolve_eq_none_iff.mp hfree
    exact ⟨htable, by simp [Frame.row],
      tryResolve_eq_none_iff.mpr ⟨find_row_eq_none_iff.mpr hfind, houter⟩⟩

/-- A grown frame reads what could be read before. -/
theorem Extends.lookupFrom {outer : List Frame} {f g : Frame} (h : f.Extends outer g)
    {path : List String} {a : Evaluated} (ha : Scope.lookupFrom f outer path = .ok a) :
    Scope.lookupFrom g outer path = .ok a := by
  have hfind := h.find_eq ha
  obtain ⟨c?, hc⟩ := Scope.find_of_lookupFrom ha
  cases c? with
  | some c =>
    rw [Scope.lookupFrom_of_find outer hc] at ha
    rw [Scope.lookupFrom_of_find outer (hfind.trans hc), ← ha, read_eq_ofColumn,
      read_eq_ofColumn, h.groups_eq]
  | none => exact Scope.lookupFrom_of_not_found hc (hfind.trans hc) ha

/-- A path is found if exactly one column answers to it. -/
theorem find_eq_some_iff {f : Frame} {path : List String} {c : ScopeColumn} :
    f.find path = .ok (some c) ↔ f.columns.filter (·.answers path) = [c] := by
  unfold find
  generalize f.columns.filter (·.answers path) = cs
  rcases cs with _ | ⟨d, _ | ⟨e, cs⟩⟩ <;> simp

theorem Extends.trans {outer : List Frame} {f g h : Frame} (hfg : f.Extends outer g)
    (hgh : g.Extends outer h) : f.Extends outer h := by
  obtain ⟨added, hcolumns, hadded⟩ := hfg.columns
  obtain ⟨added', hcolumns', hadded'⟩ := hgh.columns
  refine ⟨hgh.numRows_eq.trans hfg.numRows_eq, hgh.groups_eq.trans hfg.groups_eq,
    added ++ added', by simp [hcolumns', hcolumns], ?_⟩
  intro c hc
  rcases List.mem_append.mp hc with hc | hc
  · exact hadded c hc
  · obtain ⟨htable, hlen, hfree⟩ := hadded' c hc
    obtain ⟨hfind, houter⟩ := tryResolve_eq_none_iff.mp hfree
    refine ⟨htable, hlen.trans hfg.numRows_eq, tryResolve_eq_none_iff.mpr ⟨?_, houter⟩⟩
    rw [find_eq_none_iff] at hfind ⊢
    exact fun d hd => hfind d (by simp [hcolumns, hd])

end Frame

/-! ## Reading the keys -/

namespace Grouping

variable {now : Moment} {outer : List Frame} {selectors : List (Selector Plan)}

/-- The first selected expression of a name. -/
def named? (selectors : List (Selector Plan)) (name : String) : Option (Selector Plan) :=
  selectors.find? fun s => s.name.toOption = some name

/-- A selector that is found by a name has this name. -/
theorem name_of_named? {name : String} {s : Selector Plan} (h : named? selectors name = some s) :
    s.name = .ok name := by
  have hsome : s.name.toOption = some name := by simpa using List.find?_some h
  cases hname : s.name with
  | error e => simp [hname, Except.toOption] at hsome
  | ok n => simpa [hname, Except.toOption] using hsome

/-- Frames that reading keys leads to: a name that nothing answers takes the column of the
first selected expression of that name. -/
inductive Keyed (now : Moment) (outer : List Frame) (selectors : List (Selector Plan))
    (f : Frame) : Frame → Prop where
  | start : Keyed now outer selectors f f
  | compute {g : Frame} {name : String} {s : Selector Plan} {a : Evaluated} {c : Column}
      (before : Keyed now outer selectors f g)
      (free : Scope.tryResolve ⟨g, outer⟩ [name] = .ok none)
      (selector : named? selectors name = some s)
      (result : s.expr.eval now ⟨g, outer⟩ = .ok a)
      (column : a.toColumn g.numRows = .ok c)
      (length : c.length = g.numRows) :
      Keyed now outer selectors f { g with columns := g.columns ++ [⟨none, name, c⟩] }

theorem Keyed.trans {f g h : Frame} (hfg : Keyed now outer selectors f g)
    (hgh : Keyed now outer selectors g h) : Keyed now outer selectors f h := by
  induction hgh with
  | start => exact hfg
  | compute _ free selector result column length ih =>
    exact .compute ih free selector result column length

/-- Computed keys are new columns. -/
theorem Keyed.extends {f g : Frame} (h : Keyed now outer selectors f g) : f.Extends outer g := by
  induction h with
  | start => exact .refl outer f
  | @compute g name s a c _ free _ _ _ length ih =>
    exact ih.trans ⟨rfl, rfl, [⟨none, name, c⟩], rfl, by simpa using ⟨length, free⟩⟩

/-- A name that only the keyed frame answers has the column of the first selected
expression of that name, computed on the way. -/
theorem Keyed.exists_compute {f g : Frame} (h : Keyed now outer selectors f g) {name : String}
    {c : ScopeColumn} (hf : f.find [name] = .ok none) (hg : g.find [name] = .ok (some c)) :
    ∃ k s a, Keyed now outer selectors f k ∧ k.Extends outer g ∧
      named? selectors name = some s ∧ s.expr.eval now ⟨k, outer⟩ = .ok a ∧
      a.toColumn k.numRows = .ok c.column := by
  induction h with
  | start => simp [hf] at hg
  | @compute g name' s a d before free selector result column length ih =>
    have hstep : g.Extends outer { g with columns := g.columns ++ [⟨none, name', d⟩] } :=
      ⟨rfl, rfl, [⟨none, name', d⟩], rfl, by simpa using ⟨length, free⟩⟩
    rw [Frame.find_eq_some_iff, List.filter_append, List.append_eq_singleton_iff] at hg
    rcases hg with ⟨-, hnew⟩ | ⟨hold, -⟩
    · have hmem : c ∈ [(⟨none, name', d⟩ : ScopeColumn)].filter (·.answers [name]) := by
        simp [hnew]
      obtain ⟨hc, hanswers⟩ := List.mem_filter.mp hmem
      obtain rfl := List.mem_singleton.mp hc
      obtain rfl : name' = name := by simpa [ScopeColumn.answers] using hanswers
      exact ⟨g, s, a, before, hstep, selector, result, column⟩
    · obtain ⟨k, s', a', hk, hext, hs', ha', hc'⟩ := ih (Frame.find_eq_some_iff.mpr hold)
      exact ⟨k, s', a', hk, hext.trans hstep, hs', ha', hc'⟩

/-- A key path is that of a column. Else it is the name of a selected expression, whose column
joins the frame. -/
theorem keyPath_eq_ok_iff {path : List String} {p : String} {f g : Frame} :
    keyPath now outer selectors path f = .ok p g ↔
      Scope.tryResolve ⟨f, outer⟩ path = .ok (some p) ∧ f = g ∨
      Scope.tryResolve ⟨f, outer⟩ path = .ok none ∧ path = [p] ∧
        ∃ s a c, named? selectors p = some s ∧ s.expr.eval now ⟨f, outer⟩ = .ok a ∧
          a.toColumn f.numRows = .ok c ∧ c.length = f.numRows ∧
          { f with columns := f.columns ++ [⟨none, p, c⟩] } = g := by
  have hdotted : ∀ name : String, Text.dotted [name] = name := fun name => by
    simp [Text.dotted, Text.joined]
  unfold keyPath
  simp only [FrameM.bind_eq_ok, FrameM.get_eq_ok, FrameM.lift_eq_ok]
  constructor
  · rintro ⟨_, _, ⟨rfl, rfl⟩, p?, _, ⟨hresolve, rfl⟩, h⟩
    cases p? with
    | some q =>
      obtain ⟨rfl, rfl⟩ := FrameM.pure_eq_ok.mp h
      exact .inl ⟨hresolve, rfl⟩
    | none =>
      generalize hs : selectors.find? _ = s? at h
      cases s? with
      | none => simp [FrameM.bind_eq_ok, FrameM.throw_ne_ok] at h
      | some s =>
        simp only [FrameM.bind_eq_ok, FrameM.get_eq_ok, FrameM.lift_eq_ok, FrameM.set_eq_ok,
          FrameM.pure_eq_ok, Frame.addColumn_eq_ok] at h
        obtain ⟨_, _, ⟨rfl, rfl⟩, a, _, ⟨ha, rfl⟩, c, _, ⟨hc, rfl⟩, _, _, ⟨⟨hlen, rfl⟩, rfl⟩, _, _,
          rfl, rfl, rfl⟩ := h
        have hsome := List.find?_some hs
        simp only [Bool.and_eq_true, decide_eq_true_eq] at hsome
        obtain ⟨name, rfl⟩ := List.length_eq_one_iff.mp hsome.1
        rw [hdotted] at hs ⊢
        exact .inr ⟨hresolve, rfl, s, a, c, by simpa [named?] using hs, ha, hc, hlen, rfl⟩
  · rintro (⟨hresolve, rfl⟩ | ⟨hresolve, rfl, s, a, c, hs, ha, hc, hlen, rfl⟩)
    · exact ⟨f, f, ⟨rfl, rfl⟩, some p, f, ⟨hresolve, rfl⟩, FrameM.pure_eq_ok.mpr ⟨rfl, rfl⟩⟩
    · refine ⟨f, f, ⟨rfl, rfl⟩, none, f, ⟨hresolve, rfl⟩, ?_⟩
      have hfind : selectors.find? (fun s : Selector Plan =>
          [p].length = 1 && s.name.toOption = some (Text.dotted [p])) = some s := by
        rw [hdotted]
        simpa [named?] using hs
      dsimp only
      rw [hfind]
      simp only [FrameM.bind_eq_ok, FrameM.get_eq_ok, FrameM.lift_eq_ok, FrameM.set_eq_ok,
        FrameM.pure_eq_ok, Frame.addColumn_eq_ok, hdotted]
      exact ⟨f, f, ⟨rfl, rfl⟩, a, f, ⟨ha, rfl⟩, c, f, ⟨hc, rfl⟩, _, f, ⟨⟨hlen, rfl⟩, rfl⟩, (), _,
        rfl, trivial, rfl⟩

/-- The path that a key stands for: the written one, or the name at a written position. -/
def keyTarget? (selectors : List (Selector Plan)) : Expr Plan → Option (List String)
  | .field path => some path
  | .literal l =>
    l.integer?.bind fun position => (selectorAt? selectors position).bind fun s =>
      s.name.toOption.map fun name => [name]
  | _ => none

/-- A key is read as the path it stands for. -/
theorem keyOf_eq_ok_iff {key : Expr Plan} {p : String} {f g : Frame} :
    keyOf now outer selectors key f = .ok p g ↔
      ∃ path, keyTarget? selectors key = some path ∧
        keyPath now outer selectors path f = .ok p g := by
  cases key with
  | field path => simp [keyOf, keyTarget?]
  | literal l =>
    simp only [keyOf, keyTarget?]
    cases l.integer? with
    | none => simp [FrameM.throw_ne_ok]
    | some position =>
      cases hs : selectorAt? selectors position with
      | none => simp [hs, FrameM.throw_ne_ok]
      | some s =>
        cases hname : s.name <;>
          simp [hs, hname, FrameM.bind_eq_ok, FrameM.lift_eq_ok, Except.toOption]
  | _ => simp [keyOf, keyTarget?, FrameM.throw_ne_ok]

/-- Reading a key leads to a keyed frame. -/
theorem keyed_of_keyOf {key : Expr Plan} {p : String} {f g : Frame}
    (h : keyOf now outer selectors key f = .ok p g) : Keyed now outer selectors f g := by
  obtain ⟨path, -, hpath⟩ := keyOf_eq_ok_iff.mp h
  rcases keyPath_eq_ok_iff.mp hpath with
    ⟨-, rfl⟩ | ⟨hfree, rfl, s, a, c, hs, ha, hc, hlen, rfl⟩
  · exact .start
  · exact .compute .start hfree hs ha hc hlen

/-- All keys together compute columns one after the other. -/
theorem keyed_of_keys {keys : List (Expr Plan)} {paths : List String} {f g : Frame}
    (h : keys.mapM (keyOf now outer selectors) f = .ok paths g) :
    Keyed now outer selectors f g :=
  FrameM.mapM_preserves (fun _ _ _ _ hkey hf => hf.trans (keyed_of_keyOf hkey)) keys h .start

/-- A frame under the groups of its key columns. -/
def grouped (g : Frame) (paths : List String) (columns : List Column) : Frame :=
  { g with groups := some (groupsOf columns g.numRows), groupPaths := paths }

/-- GROUP BY reads the keys, groups the frame by their columns, and marks the fields. -/
theorem groupBy_eq_ok_iff {keys marked : List (Expr Plan)} {f G : Frame} :
    groupBy now outer selectors keys f = .ok marked G ↔
      ∃ paths g columns, keys.mapM (keyOf now outer selectors) f = .ok paths g ∧
        (paths.mapM fun p => g.column (Text.splitFirst p)) = .ok columns ∧
        G = grouped g paths columns ∧
        (selectors.mapM fun s => s.toExpr.mark (isKey ⟨G, outer⟩ paths)) = .ok marked := by
  unfold groupBy
  simp only [FrameM.bind_eq_ok, FrameM.get_eq_ok, FrameM.lift_eq_ok, FrameM.set_eq_ok,
    FrameM.pure_eq_ok]
  constructor
  · rintro ⟨paths, g, hkeys, _, _, ⟨rfl, rfl⟩, columns, _, ⟨hcolumns, rfl⟩, -, _, rfl, marked', _,
      ⟨hmarked, rfl⟩, -, _, rfl, rfl, rfl⟩
    exact ⟨paths, _, columns, hkeys, hcolumns, rfl, hmarked⟩
  · rintro ⟨paths, g, columns, hkeys, hcolumns, rfl, hmarked⟩
    exact ⟨paths, g, hkeys, _, _, ⟨rfl, rfl⟩, columns, _, ⟨hcolumns, rfl⟩, (), _, rfl, marked, _,
      ⟨hmarked, rfl⟩, (), _, rfl, rfl, rfl⟩

/-- There is a marked expression for each field. -/
theorem length_groupBy {keys marked : List (Expr Plan)} {f G : Frame}
    (h : groupBy now outer selectors keys f = .ok marked G) :
    selectors.length = marked.length := by
  obtain ⟨_, _, _, -, -, -, hmarked⟩ := groupBy_eq_ok_iff.mp h
  exact ((mapM_eq_ok_iff _ _ _).mp hmarked).length_eq

/-- GROUP BY groups a keyed frame by the columns of the key paths. -/
theorem groupBy_eq_ok {keys marked : List (Expr Plan)} {f G : Frame}
    (h : groupBy now outer selectors keys f = .ok marked G) :
    ∃ g paths columns, Keyed now outer selectors f g ∧
      (paths.mapM fun p => g.column (Text.splitFirst p)) = .ok columns ∧
      G = grouped g paths columns ∧
      (selectors.mapM fun s => s.toExpr.mark (isKey ⟨G, outer⟩ paths)) = .ok marked := by
  obtain ⟨paths, g, columns, hkeys, hcolumns, hG, hmarked⟩ := groupBy_eq_ok_iff.mp h
  exact ⟨g, paths, columns, keyed_of_keys hkeys, hcolumns, hG, hmarked⟩

end Grouping

end ColumnarSql
