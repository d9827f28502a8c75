import ColumnarSql.Proofs.GroupPosition

/-!
# GROUP BY that fails

Nothing is taken back when GROUP BY fails. The keys before the one that fails have been read, and
each that named a computed field has left its column (`Grouping.KeysRead`). A failure in marking
the fields comes after the frame was grouped. So rows, key paths and the columns from before are
kept (`Grouping.groupBy_error`), and more than that is not (`Grouping.groupBy_error_changes`).
-/

set_option autoImplicit false

namespace ColumnarSql

/-! ## Failing steps over a frame -/

namespace FrameM

variable {α β : Type} {f g : Frame} {x : Error}

theorem bind_eq_error {m : FrameM α} {k : α → FrameM β} :
    (m >>= k) f = .error x g ↔
      m f = .error x g ∨ ∃ a h, m f = .ok a h ∧ k a h = .error x g := by
  simp only [bind, EStateM.bind]
  cases m f <;> simp

theorem pure_ne_error {a : α} : (pure a : FrameM α) f ≠ .error x g := by
  simp [pure, EStateM.pure]

theorem throw_eq_error {y : Error} : (throw y : FrameM α) f = .error x g ↔ y = x ∧ f = g := by
  change EStateM.Result.error y f = .error x g ↔ _
  simp

theorem get_ne_error : (get : FrameM Frame) f ≠ .error x g := by
  change EStateM.Result.ok f f ≠ .error x g
  simp

theorem set_ne_error {h : Frame} : (set h : FrameM PUnit) f ≠ .error x g := by
  change EStateM.Result.ok PUnit.unit h ≠ .error x g
  simp

theorem lift_eq_error {r : Except Error α} :
    Grouping.lift r f = .error x g ↔ r = .error x ∧ f = g := by
  cases r with
  | error y => simp [Grouping.lift, throw_eq_error]
  | ok a => simp [Grouping.lift, pure_ne_error]

/-- A walk fails at one of its steps, in the frame that the steps before it led to. -/
theorem mapM_eq_error {k : α → FrameM β} :
    ∀ (as : List α) {f : Frame},
      as.mapM k f = .error x g ↔ ∃ before a after bs h, as = before ++ a :: after ∧
        before.mapM k f = .ok bs h ∧ k a h = .error x g
  | [], f => by simp [pure_ne_error]
  | a :: as, f => by
    simp only [List.mapM_cons, bind_eq_error, pure_ne_error, and_false, exists_false, or_false,
      mapM_eq_error as]
    constructor
    · rintro (ha | ⟨b, f', hb, before, a', after, bs, h, rfl, hbefore, ha'⟩)
      · exact ⟨[], a, as, [], f, rfl, pure_eq_ok.mpr ⟨rfl, rfl⟩, ha⟩
      · refine ⟨a :: before, a', after, b :: bs, h, rfl, ?_, ha'⟩
        simp only [List.mapM_cons, bind_eq_ok, pure_eq_ok]
        exact ⟨b, f', hb, bs, h, hbefore, rfl, rfl⟩
    · rintro ⟨before, a', after, bs, h, has, hbefore, ha'⟩
      cases before with
      | nil =>
        obtain ⟨rfl, rfl⟩ := List.cons.inj has
        obtain ⟨-, rfl⟩ := pure_eq_ok.mp hbefore
        exact .inl ha'
      | cons b before =>
        obtain ⟨rfl, rfl⟩ := List.cons.inj has
        simp only [List.mapM_cons, bind_eq_ok, pure_eq_ok] at hbefore
        obtain ⟨b, f', hb, bs', f'', hbs, -, rfl⟩ := hbefore
        exact .inr ⟨b, f', hb, before, a', after, bs', f'', rfl, hbs, ha'⟩

end FrameM

namespace Grouping

variable {now : Moment} {outer : List Frame} {selectors : List (Selector Plan)} {f g : Frame}
  {x : Error}

/-! ## Keys that were read -/

/-- A path adds a column only after all that can fail. -/
theorem keyPath_error {path : List String}
    (h : keyPath now outer selectors path f = .error x g) : f = g := by
  unfold keyPath at h
  simp only [FrameM.bind_eq_error, FrameM.get_eq_ok, FrameM.get_ne_error, FrameM.lift_eq_error,
    FrameM.lift_eq_ok, false_or] at h
  obtain ⟨_, _, ⟨rfl, rfl⟩, ⟨-, rfl⟩ | ⟨p?, _, ⟨-, rfl⟩, h⟩⟩ := h
  · rfl
  · cases p? with
    | some p => exact absurd h FrameM.pure_ne_error
    | none =>
      generalize selectors.find? _ = s? at h
      cases s? with
      | none =>
        simp only [FrameM.bind_eq_error, FrameM.get_eq_ok, FrameM.get_ne_error,
          FrameM.throw_eq_error, false_or] at h
        obtain ⟨_, _, ⟨rfl, rfl⟩, -, rfl⟩ := h
        rfl
      | some s =>
        simp only [FrameM.bind_eq_error, FrameM.get_eq_ok, FrameM.get_ne_error,
          FrameM.lift_eq_error, FrameM.lift_eq_ok, FrameM.set_ne_error, FrameM.pure_ne_error,
          false_or, and_false, exists_false, or_false] at h
        obtain ⟨_, _, ⟨rfl, rfl⟩, ⟨-, rfl⟩ | ⟨_, _, ⟨-, rfl⟩, h⟩⟩ := h
        · rfl
        · obtain ⟨-, rfl⟩ | ⟨_, _, ⟨-, rfl⟩, -, rfl⟩ := h
          · rfl
          · rfl

/-- A key that fails leaves the frame as it was. -/
theorem keyOf_error {key : Expr Plan} (h : keyOf now outer selectors key f = .error x g) :
    f = g := by
  cases key with
  | field path => exact keyPath_error h
  | literal l =>
    unfold keyOf at h
    cases hinteger : l.integer? with
    | none => exact (FrameM.throw_eq_error.mp (by simpa only [hinteger] using h)).2
    | some position =>
      cases hs : selectorAt? selectors position with
      | none => exact (FrameM.throw_eq_error.mp (by simpa only [hinteger, hs] using h)).2
      | some s =>
        simp only [hinteger, hs, FrameM.bind_eq_error, FrameM.lift_eq_error,
          FrameM.lift_eq_ok] at h
        obtain ⟨-, rfl⟩ | ⟨_, _, ⟨-, rfl⟩, h⟩ := h
        · rfl
        · exact keyPath_error h
  | _ => exact (FrameM.throw_eq_error.mp h).2

/-- Keys that were read one after the other, their paths, and the frame that this led to. A key
that a column answers to changes nothing. Else the first selected expression of its name joins the
frame, over the columns that are there by then. -/
inductive KeysRead (now : Moment) (outer : List Frame) (selectors : List (Selector Plan)) :
    Frame → List (Expr Plan) → List String → Frame → Prop where
  | nil {f : Frame} : KeysRead now outer selectors f [] [] f
  | column {f g : Frame} {key : Expr Plan} {keys : List (Expr Plan)} {path : List String}
      {p : String} {paths : List String}
      (target : keyTarget? selectors key = some path)
      (found : Scope.tryResolve ⟨f, outer⟩ path = .ok (some p))
      (rest : KeysRead now outer selectors f keys paths g) :
      KeysRead now outer selectors f (key :: keys) (p :: paths) g
  | computed {f g : Frame} {key : Expr Plan} {keys : List (Expr Plan)} {name : String}
      {paths : List String} {s : Selector Plan} {a : Evaluated} {c : Column}
      (target : keyTarget? selectors key = some [name])
      (free : Scope.tryResolve ⟨f, outer⟩ [name] = .ok none)
      (selector : named? selectors name = some s)
      (result : s.expr.eval now ⟨f, outer⟩ = .ok a)
      (column : a.toColumn f.numRows = .ok c)
      (length : c.length = f.numRows)
      (rest : KeysRead now outer selectors { f with columns := f.columns ++ [⟨none, name, c⟩] }
        keys paths g) :
      KeysRead now outer selectors f (key :: keys) (name :: paths) g

theorem mapM_keyOf_eq_ok_iff :
    ∀ (keys : List (Expr Plan)) {f g : Frame} {paths : List String},
      keys.mapM (keyOf now outer selectors) f = .ok paths g ↔
        KeysRead now outer selectors f keys paths g
  | [], f, g, paths => by
    rw [List.mapM_nil, FrameM.pure_eq_ok]
    constructor
    · rintro ⟨rfl, rfl⟩
      exact .nil
    · rintro ⟨⟩
      exact ⟨rfl, rfl⟩
  | key :: keys, f, g, paths => by
    simp only [List.mapM_cons, FrameM.bind_eq_ok, FrameM.pure_eq_ok, keyOf_eq_ok_iff,
      mapM_keyOf_eq_ok_iff keys, keyPath_eq_ok_iff]
    constructor
    · rintro ⟨p, h, ⟨path, htarget, ⟨hfound, rfl⟩ |
        ⟨hfree, rfl, s, a, c, hs, ha, hc, hlen, rfl⟩⟩, ps, _, hrest, rfl, rfl⟩
      · exact .column htarget hfound hrest
      · exact .computed htarget hfree hs ha hc hlen hrest
    · rintro (_ | ⟨htarget, hfound, hrest⟩ | ⟨htarget, hfree, hs, ha, hc, hlen, hrest⟩)
      · exact ⟨_, f, ⟨_, htarget, .inl ⟨hfound, rfl⟩⟩, _, g, hrest, rfl, rfl⟩
      · exact ⟨_, _, ⟨_, htarget, .inr ⟨hfree, rfl, _, _, _, hs, ha, hc, hlen, rfl⟩⟩, _, g, hrest,
          rfl, rfl⟩

theorem KeysRead.extends {keys : List (Expr Plan)} {paths : List String}
    (h : KeysRead now outer selectors f keys paths g) : f.Extends outer g :=
  (keyed_of_keys ((mapM_keyOf_eq_ok_iff keys).mpr h)).extends

/-- The path that a key stands for is that of a column. -/
def NamesColumn (outer : List Frame) (selectors : List (Selector Plan)) (f : Frame)
    (key : Expr Plan) : Prop :=
  ∃ path p, keyTarget? selectors key = some path ∧
    Scope.tryResolve ⟨f, outer⟩ path = .ok (some p)

/-- Reading keys changes the columns if one of the keys is computed, and only then. -/
theorem KeysRead.columns_eq_iff {keys : List (Expr Plan)} {paths : List String}
    (h : KeysRead now outer selectors f keys paths g) :
    g.columns = f.columns ↔ ∀ key ∈ keys, NamesColumn outer selectors f key := by
  induction h with
  | nil => simp
  | column target found rest ih =>
    rw [ih, List.forall_mem_cons]
    exact ⟨fun hkeys => ⟨⟨_, _, target, found⟩, hkeys⟩, And.right⟩
  | computed target free selector result column length rest _ =>
    obtain ⟨added, hcolumns, -⟩ := rest.extends.columns
    refine iff_of_false (fun heq => ?_) fun hkeys => ?_
    · simpa [heq] using congrArg List.length hcolumns
    · obtain ⟨path, p, htarget, hfound⟩ := hkeys _ List.mem_cons_self
      obtain rfl := Option.some.inj (target.symm.trans htarget)
      cases free.symm.trans hfound

/-- Reading keys changes nothing but the columns. -/
theorem KeysRead.eq_with_columns {keys : List (Expr Plan)} {paths : List String}
    (h : KeysRead now outer selectors f keys paths g) : g = { f with columns := g.columns } := by
  induction h with
  | nil => rfl
  | column _ _ _ ih => exact ih
  | computed _ _ _ _ _ _ _ ih => exact ih

/-- The columns of computed keys come after the others. Each is without a table and under a name
that nothing answered. -/
theorem KeysRead.exists_added {keys : List (Expr Plan)} {paths : List String}
    (h : KeysRead now outer selectors f keys paths g) :
    ∃ added, g = { f with columns := f.columns ++ added } ∧
      (∀ c ∈ added, c.table = none ∧ c.column.length = f.numRows ∧
        Scope.tryResolve ⟨f, outer⟩ [c.name] = .ok none) ∧
      (added = [] ↔ ∀ key ∈ keys, NamesColumn outer selectors f key) := by
  obtain ⟨added, hcolumns, hadded⟩ := h.extends.columns
  refine ⟨added, hcolumns ▸ h.eq_with_columns, hadded, ?_⟩
  rw [← h.columns_eq_iff, hcolumns, List.append_right_eq_self]

/-! ## Where GROUP BY fails -/

/-- Where GROUP BY fails, and the frame that it leaves there. -/
inductive FailsAt (now : Moment) (outer : List Frame) (selectors : List (Selector Plan))
    (keys : List (Expr Plan)) (f : Frame) (x : Error) : Frame → Prop where
  | key {read rest : List (Expr Plan)} {key : Expr Plan} {paths : List String} {g : Frame}
      (split : keys = read ++ key :: rest)
      (before : KeysRead now outer selectors f read paths g)
      (fails : keyOf now outer selectors key g = .error x g) :
      FailsAt now outer selectors keys f x g
  | columns {paths : List String} {g : Frame}
      (before : KeysRead now outer selectors f keys paths g)
      (fails : (paths.mapM fun p => g.column (Text.splitFirst p)) = .error x) :
      FailsAt now outer selectors keys f x g
  | marking {paths : List String} {columns : List Column} {g G : Frame}
      (before : KeysRead now outer selectors f keys paths g)
      (found : (paths.mapM fun p => g.column (Text.splitFirst p)) = .ok columns)
      (groups : G = { g with groups := some (groupsOf columns g.numRows) })
      (fails : (selectors.mapM fun s => s.toExpr.mark (isKey ⟨G, outer⟩ paths)) = .error x) :
      FailsAt now outer selectors keys f x G

theorem groupBy_eq_error_iff {keys : List (Expr Plan)} :
    groupBy now outer selectors keys f = .error x g ↔
      FailsAt now outer selectors keys f x g := by
  unfold groupBy
  simp only [FrameM.bind_eq_error, FrameM.get_eq_ok, FrameM.get_ne_error, FrameM.lift_eq_error,
    FrameM.lift_eq_ok, FrameM.set_eq_ok, FrameM.set_ne_error, FrameM.pure_ne_error,
    mapM_keyOf_eq_ok_iff, FrameM.mapM_eq_error, false_or, and_false, exists_false, or_false]
  constructor
  · rintro (⟨read, key, rest, paths, k, rfl, hread, hfails⟩ | ⟨paths, k, hread, _, _, ⟨rfl, rfl⟩,
      ⟨hfails, rfl⟩ | ⟨columns, _, ⟨hcolumns, rfl⟩, _, _, rfl, hfails, rfl⟩⟩)
    · obtain rfl := keyOf_error hfails
      exact .key rfl hread hfails
    · exact .columns hread hfails
    · exact .marking hread hcolumns rfl hfails
  · rintro (⟨rfl, hread, hfails⟩ | ⟨hread, hfails⟩ | ⟨hread, hcolumns, rfl, hfails⟩)
    · exact .inl ⟨_, _, _, _, _, rfl, hread, hfails⟩
    · exact .inr ⟨_, _, hread, _, _, ⟨rfl, rfl⟩, .inl ⟨hfails, rfl⟩⟩
    · exact .inr ⟨_, _, hread, _, _, ⟨rfl, rfl⟩, .inr ⟨_, _, ⟨hcolumns, rfl⟩, (), _, rfl, hfails,
        rfl⟩⟩

/-- What a GROUP BY that fails leaves: the frame with the columns of the keys that were read. They
come after the others, have no table, and are under names that nothing answered. There is none if
all of the keys are columns. The frame is grouped only if it was before, or if it is the marking of
the fields that fails. -/
theorem groupBy_error {keys : List (Expr Plan)}
    (h : groupBy now outer selectors keys f = .error x g) :
    ∃ read rest paths added, keys = read ++ rest ∧
      (∀ key ∈ rest.head?, keyOf now outer selectors key g = .error x g) ∧
      KeysRead now outer selectors f read paths { f with columns := f.columns ++ added } ∧
      (∀ c ∈ added, c.table = none ∧ c.column.length = f.numRows ∧
        Scope.tryResolve ⟨f, outer⟩ [c.name] = .ok none) ∧
      (added = [] ↔ ∀ key ∈ read, NamesColumn outer selectors f key) ∧
      (g = { f with columns := f.columns ++ added } ∨
        rest = [] ∧ (selectors.mapM fun s => s.toExpr.mark (isKey ⟨g, outer⟩ paths)) = .error x ∧
          ∃ columns, (paths.mapM fun p => g.column (Text.splitFirst p)) = .ok columns ∧
            g = { f with
              columns := f.columns ++ added, groups := some (groupsOf columns f.numRows) }) := by
  cases groupBy_eq_error_iff.mp h with
  | @key read rest key paths _ split before fails =>
    obtain ⟨added, rfl, hadded, hnone⟩ := before.exists_added
    exact ⟨read, key :: rest, paths, added, split, by simpa using fails, before, hadded, hnone,
      .inl rfl⟩
  | @columns paths _ before fails =>
    obtain ⟨added, rfl, hadded, hnone⟩ := before.exists_added
    exact ⟨keys, [], paths, added, by simp, by simp, before, hadded, hnone, .inl rfl⟩
  | @marking paths columns k _ before found groups fails =>
    obtain ⟨added, rfl, hadded, hnone⟩ := before.exists_added
    subst groups
    exact ⟨keys, [], paths, added, by simp, by simp, before, hadded, hnone,
      .inr ⟨rfl, fails, columns, found, rfl⟩⟩

/-- `SELECT a IS NULL AS x`, grouped by `x` and then by a ninth field. -/
theorem groupBy_error_position :
    ∃ G, groupBy newYear [] [⟨.nullCheck false (.field ["a"]), some "x", some 1⟩]
        [.field ["x"], .literal ⟨.integer 9, some .integer⟩] twoRows =
          .error (.groupByPosition 9 1) G ∧
      G.numRows = 2 ∧ G.groupPaths = [] ∧
      ∃ added, G.columns = twoRows.columns ++ added ∧ ∀ c ∈ added, c.table = none := by
  have hrun : ∃ G, groupBy newYear [] [⟨.nullCheck false (.field ["a"]), some "x", some 1⟩]
      [.field ["x"], .literal ⟨.integer 9, some .integer⟩] twoRows =
        .error (.groupByPosition 9 1) G := ⟨_, rfl⟩
  obtain ⟨G, hG⟩ := hrun
  obtain ⟨_, _, _, added, -, -, -, hadded, -, rfl | ⟨-, -, _, -, rfl⟩⟩ := groupBy_error hG
  · exact ⟨_, hG, rfl, rfl, added, rfl, fun c hc => (hadded c hc).1⟩
  · exact ⟨_, hG, rfl, rfl, added, rfl, fun c hc => (hadded c hc).1⟩

/-! ## What a failure leaves behind -/

/-- A GROUP BY that fails changes nothing. -/
def FailureKeepsFrame (selectors : List (Selector Plan)) (keys : List (Expr Plan))
    (f : Frame) : Prop :=
  ∀ x g, groupBy newYear [] selectors keys f = .error x g →
    g.columns = f.columns ∧ g.numRows = f.numRows ∧ g.groups = f.groups ∧
      g.groupPaths = f.groupPaths

/-- One row of two tables that have a field of the same name. -/
def sharedName : Frame :=
  { Frame.ofRows 1 with
    columns := [⟨some "a", "k", ⟨[.integer 1], some .integer⟩⟩,
      ⟨some "b", "k", ⟨[.integer 2], some .integer⟩⟩] }

/-- A computed key joins the frame before the next key fails; the name of the selected field
`a.k` is ambiguous, which is found after the rows were grouped. -/
theorem groupBy_error_changes :
    ¬FailureKeepsFrame [⟨.nullCheck false (.field ["a"]), some "x", some 1⟩]
      [.field ["x"], .literal ⟨.integer 9, some .integer⟩] twoRows ∧
    ¬FailureKeepsFrame [⟨.field ["a", "k"], none, some 1⟩] [.field ["a", "k"]] sharedName := by
  refine ⟨fun h => ?_, fun h => ?_⟩
  · obtain ⟨hcolumns, -⟩ := h _ _ rfl
    exact absurd (congrArg List.length hcolumns) (by decide)
  · obtain ⟨-, -, hgroups, -⟩ := h _ _ rfl
    exact absurd (congrArg Option.isSome hgroups) (by decide)

end Grouping

end ColumnarSql
