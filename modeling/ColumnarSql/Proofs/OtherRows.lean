import ColumnarSql.Proofs.CallPlaces

/-!
# A SELECT over other rows

`f.OtherRows g` says that `g` holds other rows under the schema of `f`. Each clause of a SELECT
that succeeds over `f`, and whose calls stand in their places, is accepted over `g`: FROM, WHERE
and the keys of GROUP BY give other rows under one schema again, and the fields and HAVING give
columns of one type. `SelectOf.accepted_run` puts the clauses together.
-/

set_option autoImplicit false

namespace ColumnarSql

/-! ## Tables and frames -/

/-- A well formed table of other rows, under one schema. -/
structure Table.OtherRows (t u : Table) : Prop where
  sameSchema : t.SameSchema u
  wellFormed : u.WellFormed

namespace Table.OtherRows

variable {t u : Table}

theorem length_columns (h : t.OtherRows u) : t.columns.length = u.columns.length := by
  simpa [Table.types] using congrArg List.length h.sameSchema.types

/-- Any rows of the two tables make tables with the same columns again. -/
theorem take (h : t.OtherRows u) (rows rows' : List Nat) :
    (t.take rows).OtherRows (u.take rows') where
  sameSchema := ⟨h.sameSchema.names, by rw [types_take, types_take, h.sameSchema.types]⟩
  wellFormed := h.wellFormed.take rows'

/-- So do masks, if each has the length of its table. -/
theorem filter (h : t.OtherRows u) (mask : List Bool) {mask' : List Bool}
    (hmask : mask'.length = u.numRows) : (t.filter mask).OtherRows (u.filter mask') where
  sameSchema := ⟨h.sameSchema.names, by rw [types_filter, types_filter, h.sameSchema.types]⟩
  wellFormed := h.wellFormed.filter hmask

end Table.OtherRows

/-- Ungrouped typed columns of other rows, under one schema. -/
structure Frame.OtherRows (f g : Frame) : Prop where
  sameSchema : f.SameSchema g
  plain : g.Plain
  typed : g.Typed

namespace Frame.OtherRows

variable {f g : Frame}

theorem scopes (h : f.OtherRows g) : Scope.SameSchema ⟨f, []⟩ ⟨g, []⟩ := ⟨h.sameSchema, .nil⟩

theorem serves (h : f.OtherRows g) : Scope.Serves .rows ⟨g, []⟩ := .rows h.plain

theorem scopeTyped (h : f.OtherRows g) : Scope.Typed ⟨g, []⟩ :=
  List.forall_mem_singleton.mpr h.typed

/-- An expression on rows carries over to the other rows. -/
theorem carriesOver (h : f.OtherRows g) {now : Moment} {e : Expr Plan}
    (he : e.Every Expr.IsRegular) (hfits : e.Fits .rows) {a : Evaluated}
    (ha : e.eval now ⟨f, []⟩ = .ok a) :
    Accepted (a.Alike g.numRows) (e.eval now ⟨g, []⟩) := by
  have haccepted := Expr.carriesOver he hfits h.scopes h.serves h.scopeTyped ha
  rwa [h.plain.outputLength_eq] at haccepted

theorem ofTable {t u : Table} (h : t.OtherRows u) (name : Option String) :
    (Frame.ofTable t name).OtherRows (Frame.ofTable u name) :=
  ⟨h.sameSchema.ofTable name, plain_ofTable h.wellFormed.lengths name,
    typed_ofTable h.wellFormed name⟩

theorem ofRows (n : Nat) : (Frame.ofRows n).OtherRows (Frame.ofRows n) :=
  ⟨⟨rfl, rfl, rfl, rfl⟩, plain_ofRows _, by simp [Typed, Frame.ofRows]⟩

theorem filter (h : f.OtherRows g) (mask : List Bool) {mask' : List Bool}
    (hmask : mask'.length = g.numRows) : (f.filter mask).OtherRows (g.filter mask') where
  sameSchema := ⟨by simpa using h.sameSchema.schema, rfl, rfl, rfl⟩
  plain := h.plain.filter hmask
  typed := h.typed.filter mask'

/-- Joined rows of the one pair of frames and of the other are rows of the same columns. -/
theorem combine {f' g' : Frame} (h : f.OtherRows g) (h' : f'.OtherRows g')
    (pairs pairs' : List Join.RowPair) :
    (Join.combine f f' pairs).OtherRows (Join.combine g g' pairs') where
  sameSchema := by
    refine ⟨?_, rfl, rfl, rfl⟩
    rw [Join.combine, Join.combine, schema_combine, schema_combine, h.sameSchema.schema,
      h'.sameSchema.schema]
  plain := Join.plain_combine g g' pairs'
  typed := h.typed.combine h'.typed _ _

theorem dropNamed (h : f.OtherRows g) (start : Nat) (names : List String) :
    (f.dropNamed start names).OtherRows (g.dropNamed start names) where
  sameSchema := by
    refine ⟨?_, h.sameSchema.groupPaths, h.sameSchema.grouped, h.sameSchema.inheritsGroups⟩
    rw [schema_dropNamed, schema_dropNamed, h.sameSchema.schema]
  plain := h.plain.dropNamed start names
  typed := h.typed.dropNamed start names

/-- Both frames may gain a column of one name and type. -/
theorem add (h : f.OtherRows g) (name : String) {c d : Column} (htype : c.type = d.type)
    (hlength : d.length = g.numRows) (hd : d.Typed) :
    Frame.OtherRows { f with columns := f.columns ++ [⟨none, name, c⟩] }
      { g with columns := g.columns ++ [⟨none, name, d⟩] } where
  sameSchema := by
    refine ⟨?_, h.sameSchema.groupPaths, h.sameSchema.grouped, h.sameSchema.inheritsGroups⟩
    have hschema := h.sameSchema.schema
    rw [schema_eq_map, schema_eq_map] at hschema
    rw [schema_eq_map, schema_eq_map, List.map_append, List.map_append, hschema]
    simp [Column.take, htype]
  plain := by
    refine ⟨fun e he => ?_, h.plain.ungrouped⟩
    rcases List.mem_append.mp he with he | he
    · exact h.plain.uniform e he
    · obtain rfl := List.mem_singleton.mp he
      exact hlength
  typed := by
    intro e he
    rcases List.mem_append.mp he with he | he
    · exact h.typed e he
    · obtain rfl := List.mem_singleton.mp he
      exact hd

theorem length_columns (h : f.OtherRows g) : f.columns.length = g.columns.length := by
  have hschema := congrArg List.length h.sameSchema.schema
  simpa [schema_eq_map] using hschema

end Frame.OtherRows

/-! ## FROM -/

namespace Join

variable {now : Moment} {f g : Frame}

/-- A query that is accepted, with a table under the schema of the first one and the same name. -/
def Reruns (q q' : Except Error NamedTable) : Prop :=
  ∀ p, q = .ok p → Accepted (fun p' => p.1.OtherRows p'.1 ∧ p'.2 = p.2) q'

/-- An item of FROM is accepted with the other table of its query. -/
theorem accepted_itemFrame {q q' : Except Error NamedTable} (hq : Reruns q q')
    {label : Option String} (hf : itemFrame ⟨q, label⟩ = .ok f) :
    Accepted f.OtherRows (itemFrame ⟨q', label⟩) := by
  obtain ⟨⟨t, name⟩, ht, hf⟩ := bind_eq_ok.mp hf
  obtain rfl := pure_eq_ok.mp hf
  refine (hq _ ht).bind fun p' _ hp => ?_
  obtain ⟨u, name'⟩ := p'
  obtain ⟨hother, rfl⟩ := hp
  exact .ofTable hother _

/-- USING finds its columns among other rows too. -/
theorem exists_usingColumns_other {f' g' : Frame} (h : f.OtherRows g) (h' : f'.OtherRows g') :
    ∀ {names : List String} {columns : List (Column × Column)},
      usingColumns f f' names = .ok columns → ∃ columns', usingColumns g g' names = .ok columns'
  | [], columns, _ => ⟨[], rfl⟩
  | n :: ns, columns, hcolumns => by
    simp only [usingColumns, bind_eq_ok, pure_eq_ok] at hcolumns ⊢
    obtain ⟨l, hl, r, hr, rest, hrest, rfl⟩ := hcolumns
    obtain ⟨l', hl', -⟩ := h.sameSchema.column hl
    obtain ⟨r', hr', -⟩ := h'.sameSchema.column hr
    obtain ⟨rest', hrest'⟩ := exists_usingColumns_other h h' hrest
    exact ⟨_, l', hl', r', hr', rest', hrest', rfl⟩

/-- The condition of a join stands on the rows of the product. -/
def ConditionFits : JoinCondition Plan → Prop
  | .on e => e.Fits .rows ∧ e.Every Expr.IsRegular
  | _ => True

/-- ON is not refused over other rows. -/
theorem accepted_onMatches {f' g' : Frame} (h : f.OtherRows g) (h' : f'.OtherRows g')
    {e : Expr Plan} (he : ConditionFits (.on e)) {found : List (List Nat)}
    (hfound : onMatches now e f f' = .ok found) : Unrefused (onMatches now e g g') := by
  obtain ⟨a, ha, hfound⟩ := bind_eq_ok.mp hfound
  obtain ⟨mask, hmask, -⟩ := bind_eq_ok.mp hfound
  refine ((h.combine h' _ _).carriesOver he.2 he.1 ha).bind fun b _ hab => ?_
  obtain ⟨mask', hmask'⟩ := hab.exists_truthMask hmask
  unfold cross
  rw [hmask']
  trivial

/-- A join is accepted over other rows. -/
theorem accepted_extend {kind : JoinKind} {q q' : Except Error NamedTable}
    {label : Option String} {condition : JoinCondition Plan} (hq : Reruns q q')
    (hcondition : ConditionFits condition) (h : f.OtherRows g) {k : Frame}
    (hk : extend now f ⟨kind, ⟨q, label⟩, condition⟩ = .ok k) :
    Accepted k.OtherRows (extend now g ⟨kind, ⟨q', label⟩, condition⟩) := by
  obtain ⟨f', hf', hk⟩ := bind_eq_ok.mp hk
  refine (accepted_itemFrame hq hf').bind fun g' _ h' => ?_
  cases condition with
  | none =>
    obtain rfl := pure_eq_ok.mp hk
    exact h.combine h' _ _
  | on e =>
    obtain ⟨found, hfound, hk⟩ := bind_eq_ok.mp hk
    obtain rfl := pure_eq_ok.mp hk
    exact (accepted_onMatches h h' hcondition hfound).bind fun found' _ _ => h.combine h' _ _
  | «using» names =>
    obtain ⟨found, hfound, hk⟩ := bind_eq_ok.mp hk
    obtain rfl := pure_eq_ok.mp hk
    obtain ⟨columns, hcolumns, -⟩ := bind_eq_ok.mp hfound
    obtain ⟨columns', hcolumns'⟩ := exists_usingColumns_other h h' hcolumns
    have hmatches : Unrefused (usingMatches g g' names) := by
      unfold usingMatches
      rw [hcolumns']
      trivial
    rw [h.length_columns]
    exact hmatches.bind fun found' _ _ => (h.combine h' _ _).dropNamed _ _

/-- The same join with a query that is accepted. -/
structure RerunsJoin (j j' : JoinOf Plan (Except Error NamedTable)) : Prop where
  kind : j.kind = j'.kind
  label : j.item.label = j'.item.label
  condition : j.condition = j'.condition
  fits : ConditionFits j.condition
  query : Reruns j.item.query j'.item.query

/-- All joins of FROM are accepted over other rows. -/
theorem accepted_joins :
    ∀ {js js' : List (JoinOf Plan (Except Error NamedTable))} {f g k : Frame},
      List.Forall₂ RerunsJoin js js' → f.OtherRows g → js.foldlM (extend now) f = .ok k →
        Accepted k.OtherRows (js'.foldlM (extend now) g)
  | [], _, f, g, k, .nil, h, hk => by
    obtain rfl := pure_eq_ok.mp hk
    exact h
  | j :: js, j' :: js', f, g, k, .cons hj hjs, h, hk => by
    obtain ⟨kind, ⟨q, label⟩, condition⟩ := j
    obtain ⟨kind', ⟨q', label'⟩, condition'⟩ := j'
    obtain ⟨rfl, rfl, rfl, hfits, hq⟩ := hj
    obtain ⟨f', hf', hk⟩ := bind_eq_ok.mp hk
    exact (accepted_extend hq hfits h hf').bind fun g' _ h' => accepted_joins hjs h' hk

end Join

/-! ## Keys -/

/-- The computation gives a result and a frame with the property, or fails by evaluation. -/
def FrameM.Accepted {α : Type} (Q : α → Frame → Prop) (x : FrameM α) (f : Frame) : Prop :=
  match x f with
  | .ok a g => Q a g
  | .error e _ => e.kind = .evaluation

namespace FrameM

variable {α β : Type} {Q : α → Frame → Prop} {R : β → Frame → Prop} {f : Frame}

theorem Accepted.of_ok {x : FrameM α} {a : α} {g : Frame} (h : x f = .ok a g) (hQ : Q a g) :
    Accepted Q x f := by
  unfold Accepted
  rw [h]
  exact hQ

theorem Accepted.congr {x y : FrameM α} (h : x f = y f) (hy : Accepted Q y f) :
    Accepted Q x f := by
  unfold Accepted at hy ⊢
  rwa [h]

/-- Steps one after the other are accepted if each is, where the one before it leads. -/
theorem Accepted.bind {x : FrameM α} {k : α → FrameM β} (hx : Accepted Q x f)
    (hk : ∀ a g, x f = .ok a g → Q a g → Accepted R (k a) g) : Accepted R (x >>= k) f := by
  unfold Accepted at hx
  have hbind : (x >>= k) f = EStateM.bind x k f := rfl
  unfold Accepted
  rw [hbind, EStateM.bind]
  cases hxf : x f with
  | ok a g =>
    rw [hxf] at hx
    exact hk a g hxf hx
  | error e g =>
    rw [hxf] at hx
    exact hx

theorem accepted_lift {P : α → Prop} {x : Except Error α} (hx : ColumnarSql.Accepted P x) :
    Accepted (fun a g => P a ∧ g = f) (Grouping.lift x) f := by
  cases x with
  | ok a => exact ⟨hx, rfl⟩
  | error e => exact hx

end FrameM

namespace Grouping

variable {now : Moment} {outer : List Frame} {selectors : List (Selector Plan)}

/-- A lifted success changes nothing. -/
theorem lift_ok_bind {α β : Type} (a : α) (k : α → FrameM β) (f : Frame) :
    (lift (.ok a) >>= k) f = k a f := rfl

/-- A key that no column answers is computed from the selected expression of its name. -/
theorem keyPath_of_free {f : Frame} {name : String} {x : Selector Plan}
    (hfree : Scope.tryResolve ⟨f, outer⟩ [name] = .ok none)
    (hx : named? selectors name = some x) :
    keyPath now outer selectors [name] f = (do
      let a ← lift (x.expr.eval now ⟨f, outer⟩)
      let c ← lift (a.toColumn f.numRows)
      set (← lift (f.addColumn none name c))
      return name : FrameM String) f := by
  have hdotted : Text.dotted [name] = name := by simp [Text.dotted, Text.joined]
  have hfind : selectors.find? (fun s : Selector Plan =>
      [name].length = 1 && s.name.toOption = some name) = some x := by
    simpa [named?] using hx
  unfold keyPath
  change (lift (Scope.tryResolve ⟨f, outer⟩ [name]) >>= _) f = _
  rw [hfree, lift_ok_bind]
  simp only [hdotted, hfind]
  rfl

/-- The selected expressions that keys are computed from stand on rows. -/
def KeysFit (keys : List (Expr Plan)) (selectors : List (Selector Plan)) (f : Frame) : Prop :=
  ∀ name x, NamesKey keys selectors name → f.find [name] = .ok none →
    named? selectors name = some x → x.expr.Fits .rows

theorem KeysFit.grown {keys : List (Expr Plan)} {f g : Frame} (h : KeysFit keys selectors f)
    (hg : f.Extends outer g) : KeysFit keys selectors g := by
  intro name x hkey hfind
  refine h name x hkey ?_
  obtain ⟨added, hcolumns, -⟩ := hg.columns
  rw [Frame.find_eq_none_iff] at hfind ⊢
  exact fun c hc => hfind c (hcolumns ▸ List.mem_append_left _ hc)

/-- A key is read as the path it stands for, also when that fails. -/
theorem keyOf_of_target {key : Expr Plan} {path : List String}
    (h : keyTarget? selectors key = some path) (f : Frame) :
    keyOf now outer selectors key f = keyPath now outer selectors path f := by
  cases key with
  | field written =>
    obtain rfl := Option.some.inj h
    rfl
  | literal l =>
    obtain ⟨position, hposition, h⟩ := Option.bind_eq_some_iff.mp h
    obtain ⟨x, hx, h⟩ := Option.bind_eq_some_iff.mp h
    obtain ⟨name, hname, rfl⟩ := Option.map_eq_some_iff.mp h
    simp only [keyOf, hposition, hx]
    cases hxname : x.name with
    | error e => simp [hxname, Except.toOption] at hname
    | ok n =>
      obtain rfl : n = name := by simpa [hxname, Except.toOption] using hname
      rfl
  | _ => cases h

/-- A key that is read in a frame is accepted over other rows, with the same path. -/
theorem accepted_keyOf (hselectors : ∀ x ∈ selectors, x.expr.Every Expr.IsRegular)
    {key : Expr Plan} {f g f' : Frame} (hkey : KeysFit [key] selectors f) (h : f.OtherRows g)
    {p : String} (hp : keyOf now [] selectors key f = .ok p f') :
    FrameM.Accepted (fun p' g' => p' = p ∧ f'.OtherRows g') (keyOf now [] selectors key) g := by
  obtain ⟨path, htarget, hpath⟩ := keyOf_eq_ok_iff.mp hp
  refine .congr (keyOf_of_target htarget g) ?_
  rcases keyPath_eq_ok_iff.mp hpath with
    ⟨hresolve, rfl⟩ | ⟨hfree, rfl, x, a, c, hx, ha, hc, -, rfl⟩
  · rw [h.scopes.tryResolve_eq] at hresolve
    exact .of_ok (keyPath_eq_ok_iff.mpr (.inl ⟨hresolve, rfl⟩)) ⟨rfl, h⟩
  · -- No column answers the name: the key is computed, so the expression has to stand on rows.
    have hregular := hselectors x (List.mem_of_find?_eq_some hx)
    have hfits := hkey p x ⟨key, List.mem_singleton_self key, htarget⟩
      (Frame.tryResolve_eq_none_iff.mp hfree).1 hx
    rw [h.scopes.tryResolve_eq] at hfree
    refine .congr (keyPath_of_free hfree hx) ?_
    refine FrameM.Accepted.bind (FrameM.accepted_lift (h.carriesOver hregular hfits ha))
      fun b g' hb hbg => ?_
    obtain ⟨hab, rfl⟩ := hbg
    obtain ⟨hb, -⟩ := FrameM.lift_eq_ok.mp hb
    obtain ⟨d, hd, htype, hlength⟩ := hab.exists_toColumn hc
    have htyped := Expr.eval_typed (hregular.mono fun _ h => h.constant) h.scopeTyped hb
    refine .of_ok ?_ ⟨rfl, h.add p htype hlength (htyped.toColumn hd)⟩
    simp only [FrameM.bind_eq_ok, FrameM.lift_eq_ok, FrameM.set_eq_ok, FrameM.pure_eq_ok,
      Frame.addColumn_eq_ok]
    exact ⟨d, _, ⟨hd, rfl⟩, _, _, ⟨⟨hlength, rfl⟩, rfl⟩, (), _, rfl, trivial, rfl⟩

/-- All keys are accepted over other rows, with the same paths. -/
theorem accepted_keys (hselectors : ∀ x ∈ selectors, x.expr.Every Expr.IsRegular) :
    ∀ {keys : List (Expr Plan)} {paths : List String} {f g f' : Frame},
      KeysFit keys selectors f → f.OtherRows g →
      keys.mapM (keyOf now [] selectors) f = .ok paths f' →
        FrameM.Accepted (fun paths' g' => paths' = paths ∧ f'.OtherRows g')
          (keys.mapM (keyOf now [] selectors)) g
  | [], paths, f, g, f', _, h, hp => by
    obtain ⟨rfl, rfl⟩ := FrameM.pure_eq_ok.mp hp
    exact .of_ok rfl ⟨rfl, h⟩
  | key :: keys, paths, f, g, f', hfit, h, hp => by
    simp only [List.mapM_cons, FrameM.bind_eq_ok, FrameM.pure_eq_ok] at hp ⊢
    obtain ⟨p, f₁, hkey, ps, _, hkeys, rfl, rfl⟩ := hp
    have hhead : KeysFit [key] selectors f := fun name x hname =>
      hfit name x (hname.imp fun k hk => ⟨List.mem_cons.mpr (.inl (by simpa using hk.1)), hk.2⟩)
    have htail : KeysFit keys selectors f₁ := KeysFit.grown (fun name x hname =>
      hfit name x (hname.imp fun k hk => ⟨List.mem_cons_of_mem key hk.1, hk.2⟩))
      (keyed_of_keyOf hkey).extends
    refine (accepted_keyOf hselectors hhead h hkey).bind fun p' g₁ _ hp' => ?_
    obtain ⟨rfl, h₁⟩ := hp'
    refine (accepted_keys hselectors htail h₁ hkeys).bind fun ps' g' _ hps' => ?_
    obtain ⟨rfl, h'⟩ := hps'
    exact .of_ok rfl ⟨rfl, h'⟩

/-- GROUP BY marks the fields alike over other rows. -/
theorem accepted_groupBy (hselectors : ∀ x ∈ selectors, x.expr.Every Expr.IsRegular)
    {keys marked : List (Expr Plan)} {f g G : Frame} (hfit : KeysFit keys selectors f)
    (h : f.OtherRows g) (hG : groupBy now [] selectors keys f = .ok marked G) :
    FrameM.Accepted (fun marked' G' => marked' = marked ∧ G.SameSchema G' ∧ G'.Typed ∧
      ∃ gs, G'.Grouped true gs) (groupBy now [] selectors keys) g := by
  obtain ⟨paths, f', columns, hkeys, hcolumns, rfl, hmarked⟩ := groupBy_eq_ok_iff.mp hG
  unfold groupBy
  refine (accepted_keys hselectors hfit h hkeys).bind fun paths' g' _ hpaths => ?_
  obtain ⟨rfl, h'⟩ := hpaths
  obtain ⟨columns', hcolumns'⟩ := exists_mapM_eq_ok
    (f := fun p => g'.column (Text.splitFirst p)) paths' fun p hp => by
      obtain ⟨c, -, hc⟩ := exists_of_mem_of_mapM hcolumns hp
      obtain ⟨d, hd, -⟩ := h'.sameSchema.column hc
      exact ⟨d, hd⟩
  have hschema : (grouped f' paths' columns).SameSchema (grouped g' paths' columns') :=
    ⟨h'.sameSchema.schema, rfl, rfl, h'.sameSchema.inheritsGroups⟩
  have hscopes : Scope.SameSchema ⟨grouped f' paths' columns, []⟩
      ⟨grouped g' paths' columns', []⟩ := ⟨hschema, .nil⟩
  rw [hscopes.isKey_eq] at hmarked
  refine .of_ok (a := marked) (g := grouped g' paths' columns') ?_
    ⟨rfl, hschema, h'.typed, _, h'.plain.uniform, rfl, by simp⟩
  simp only [FrameM.bind_eq_ok, FrameM.get_eq_ok, FrameM.lift_eq_ok, FrameM.set_eq_ok,
    FrameM.pure_eq_ok]
  exact ⟨g', g', ⟨rfl, rfl⟩, columns', _, ⟨hcolumns', rfl⟩, (), _, rfl, marked, _, ⟨hmarked, rfl⟩,
    (), _, rfl, rfl, rfl⟩

end Grouping

/-! ## The clauses after FROM -/

namespace SelectOf

variable {now : Moment} {s : SelectOf Plan (Except Error Frame)}

/-- Where the fields stand: on the groups of keys, on the one group that HAVING or a reducing call
asks for, or else on rows. -/
def fieldPlace (s : SelectOf Plan (Except Error Frame)) (selectors : List (Selector Plan)) :
    Place :=
  if s.groupBy.isEmpty then
    if s.having.isSome || selectors.any (·.expr.containsAggregate) then .groups false else .rows
  else .groups true

/-- Every call of a SELECT over the frame `f` stands in its place. -/
structure WellPlaced (s : SelectOf Plan (Except Error Frame)) (f : Frame) : Prop where
  condition : ∀ e, s.condition = some e → e.Fits .rows
  fields : ∀ selectors, expand f s.fields = .ok selectors →
    ∀ x ∈ selectors, x.expr.Fits (s.fieldPlace selectors)
  keys : ∀ selectors, expand f s.fields = .ok selectors → Grouping.KeysFit s.groupBy selectors f
  having : ∀ e, s.having = some e → e.Fits (.result !s.groupBy.isEmpty)

/-- Calls stand in their places over the rows that WHERE keeps. -/
theorem WellPlaced.inputScope {f : Frame} (h : s.WellPlaced f) (hf : s.fromFrame = .ok f)
    {outer : List Frame} {scope : Scope} (hscope : s.inputScope now outer = .ok scope) :
    s.WellPlaced scope.frame := by
  obtain ⟨frame, hframe, hscope⟩ := bind_eq_ok.mp hscope
  obtain rfl : f = frame := Except.ok.inj (hf.symm.trans hframe)
  split at hscope
  · obtain rfl := pure_eq_ok.mp hscope
    exact h
  · simp only [bind_eq_ok, pure_eq_ok] at hscope
    obtain ⟨a, -, mask, -, rfl⟩ := hscope
    refine ⟨h.condition, fun selectors hselectors => ?_, fun selectors hselectors => ?_, h.having⟩
    · rw [expand_filter] at hselectors
      exact h.fields selectors hselectors
    · rw [expand_filter] at hselectors
      intro name x hkey hfind
      exact h.keys selectors hselectors name x hkey (Frame.find_filter_eq_none_iff.mp hfind)

/-- WHERE keeps other rows of the other frame. -/
theorem accepted_inputScope {source : Option (Except Error Frame)} {f : Frame}
    (hsource : Accepted f.OtherRows (source.getD (.ok (.ofRows 1)))) (hf : s.fromFrame = .ok f)
    (hcondition : ∀ e, s.condition = some e → e.Fits .rows ∧ e.Every Expr.IsRegular)
    {scope : Scope} (h : s.inputScope now [] = .ok scope) :
    Accepted (fun t => scope.outer = [] ∧ t.outer = [] ∧ scope.frame.OtherRows t.frame)
      (inputScope now { s with source := source } []) := by
  obtain ⟨frame, hframe, h⟩ := bind_eq_ok.mp h
  obtain rfl : f = frame := Except.ok.inj (hf.symm.trans hframe)
  refine hsource.bind fun g _ hg => ?_
  cases hc : s.condition with
  | none =>
    simp only [hc] at h
    obtain rfl := pure_eq_ok.mp h
    exact ⟨rfl, rfl, hg⟩
  | some e =>
    simp only [hc, bind_eq_ok, pure_eq_ok] at h
    obtain ⟨a, ha, mask, hmask, rfl⟩ := h
    obtain ⟨hfits, hregular⟩ := hcondition e hc
    refine (hg.carriesOver hregular hfits ha).bind fun b _ hab => ?_
    obtain ⟨mask', hmask'⟩ := hab.exists_truthMask hmask
    rw [hmask']
    exact ⟨rfl, rfl, hg.filter mask (Evaluated.length_truthMask hmask')⟩

/-- What the fields are evaluated in: scopes of one schema, the second one typed and serving the
place. -/
structure FieldScopes (p : Place) (s t : Scope) : Prop where
  sameSchema : s.SameSchema t
  serves : t.Serves p
  typed : t.Typed

/-- A selector fits where its expression does. -/
theorem fits_toExpr {p : Place} {x : Selector Plan} (h : x.expr.Fits p) : x.toExpr.Fits p :=
  .intro
    ⟨by simp [Selector.toExpr, Expr.isWindowCall], by simp [Selector.toExpr, Expr.isReducingCall]⟩
    (by simpa [Selector.toExpr, Expr.children] using h)

theorem regular_toExpr {x : Selector Plan} (h : x.expr.Every Expr.IsRegular) :
    x.toExpr.Every Expr.IsRegular :=
  .intro ⟨rfl, rfl, trivial⟩ (by simpa [Selector.toExpr, Expr.children] using h)

/-- Grouping is accepted over other rows and marks the same expressions. -/
theorem accepted_groupedFields (source : Option (Except Error Frame)) {f g : Frame}
    {selectors : List (Selector Plan)} (hfit : Grouping.KeysFit s.groupBy selectors f)
    (hselectors : ∀ x ∈ selectors, x.expr.Every Expr.IsRegular) (hg : f.OtherRows g)
    {grouped : Scope} {marked : List (Expr Plan)}
    (h : s.groupedFields now ⟨f, []⟩ selectors = .ok (grouped, marked)) :
    Accepted (fun r => r.2 = marked ∧ FieldScopes (s.fieldPlace selectors) grouped r.1)
      (groupedFields now { s with source := source } ⟨g, []⟩ selectors) := by
  unfold groupedFields fieldPlace
  rcases groupedFields_eq_ok_iff.mp h with ⟨hkeys, rfl, rfl⟩ | ⟨hkeys, G, hG, rfl⟩
  · simp only [hkeys, List.isEmpty_nil, if_true]
    refine ⟨rfl, ?_⟩
    split
    · have hgroups : g.groupAll.Grouped false [List.range g.numRows] :=
        ⟨hg.plain.uniform, rfl, fun _ => rfl⟩
      exact ⟨⟨⟨hg.sameSchema.schema, rfl, rfl, hg.sameSchema.inheritsGroups⟩, .nil⟩,
        .groups hgroups, List.forall_mem_singleton.mpr hg.typed⟩
    · exact ⟨hg.scopes, hg.serves, hg.scopeTyped⟩
  · simp only [List.isEmpty_iff, hkeys, if_false]
    have haccepted := Grouping.accepted_groupBy hselectors hfit hg hG
    unfold FrameM.Accepted at haccepted
    split at haccepted
    · next marked' G' hG' =>
      obtain ⟨rfl, hschema, htyped, gs, hgroups⟩ := haccepted
      rw [hG']
      exact ⟨rfl, ⟨hschema, .nil⟩, .groups hgroups, List.forall_mem_singleton.mpr htyped⟩
    · next e G' hG' =>
      rw [hG']
      exact haccepted

/-- A field has one name and one type in both scopes. -/
theorem accepted_fieldColumn {p : Place} {scope scope' : Scope} (h : FieldScopes p scope scope')
    {x : Selector Plan} {e : Expr Plan} (hfits : e.Fits p) (hregular : e.Every Expr.IsRegular)
    {c : String × Column} (hc : fieldColumn now scope x e = .ok c) :
    Accepted (fun d => d.1 = c.1 ∧ c.2.type = d.2.type ∧
      d.2.length = scope'.frame.outputLength) (fieldColumn now scope' x e) := by
  obtain ⟨hname, a, ha, hcolumn⟩ := fieldColumn_eq_ok_iff.mp hc
  unfold fieldColumn
  refine (Expr.carriesOver hregular hfits h.sameSchema h.serves h.typed ha).bind fun b _ hab => ?_
  obtain ⟨d, hd, htype, hlength⟩ := hab.exists_toColumn hcolumn
  cases hab with
  | grouped => simp [Evaluated.toColumn] at hcolumn
  | _ =>
    dsimp only
    rw [hd, hname]
    exact ⟨rfl, htype, hlength⟩

/-- The fields give tables of one schema. -/
theorem accepted_fieldsTable {p : Place} {scope scope' : Scope} (h : FieldScopes p scope scope')
    {selectors : List (Selector Plan)} {exprs : List (Expr Plan)}
    (hexprs : ∀ e ∈ exprs, e.Fits p ∧ e.Every Expr.IsRegular) {t : Table}
    (ht : fieldsTable now scope selectors exprs = .ok t) :
    Accepted (fun t' => t.OtherRows t' ∧ t'.numRows = scope'.frame.outputLength)
      (fieldsTable now scope' selectors exprs) := by
  obtain ⟨fields, hfields, ht⟩ := bind_eq_ok.mp ht
  obtain ⟨-, -, rfl⟩ := Table.ofColumns_eq_ok ht
  have hwell : ∀ t', fieldsTable now scope' selectors exprs = .ok t' → t'.WellFormed :=
    fun t' => wellFormed_fieldsTable h.typed fun e he => (hexprs e he).2.mono fun _ h => h.constant
  have hwalk := Accepted.along hfields fun q hq c hc => by
    obtain ⟨hfits, hregular⟩ := hexprs q.2 (List.of_mem_zip hq).2
    exact accepted_fieldColumn h hfits hregular hc
  unfold fieldsTable at hwell ⊢
  refine hwalk.bind fun fields' hfields' hall => ?_
  have hnames : fields.map (·.1) = fields'.map (·.1) :=
    map_eq_map_of_forall₂ (hall.imp fun _ _ h => h.1.symm)
  have htypes : fields.map (·.2.type) = fields'.map (·.2.type) :=
    map_eq_map_of_forall₂ (hall.imp fun _ _ h => h.2.1)
  have hlengths : ∀ c ∈ fields'.map (·.2), c.length = scope'.frame.outputLength := by
    intro c hc
    obtain ⟨d, hd, rfl⟩ := List.mem_map.mp hc
    obtain ⟨i, hi, rfl⟩ := List.getElem_of_mem hd
    exact (hall.get (hall.length_eq ▸ hi) hi).2.2
  have hcolumns : Table.ofColumns (fields'.map (·.1)) (fields'.map (·.2))
      scope'.frame.outputLength = .ok ⟨_, _, _⟩ :=
    Table.ofColumns_of_lengths (by simp) hlengths
  rw [hcolumns]
  exact ⟨⟨⟨hnames, by simpa [Table.types, Function.comp_def] using htypes⟩,
    hwell _ (bind_eq_ok.mpr ⟨fields', hfields', hcolumns⟩)⟩, rfl⟩

/-- HAVING keeps rows of the other result. -/
theorem accepted_applyHaving {keyed : Bool} {scope scope' : Scope}
    (h : FieldScopes (.groups keyed) scope scope') {c : Expr Plan} (hfits : c.Fits (.result keyed))
    (hregular : c.Every Expr.IsRegular) {r r' t : Table} (hr : r.OtherRows r')
    (hrows : r'.numRows = scope'.frame.outputLength) (ht : applyHaving now c r scope = .ok t) :
    Accepted t.OtherRows (applyHaving now c r' scope') := by
  obtain ⟨f, fs⟩ := scope
  obtain ⟨⟨hframe, houter⟩, hserves, htyped⟩ := h
  cases hserves with
  | @groups _ g gs grouped =>
    obtain rfl := List.forall₂_nil_right_iff.mp houter
    have hscopes : (havingScope r ⟨f, []⟩).SameSchema (havingScope r' ⟨g, []⟩) :=
      ⟨⟨(hr.sameSchema.ofTable none).schema, rfl, rfl, rfl⟩, .cons hframe .nil⟩
    have hserves : (havingScope r' ⟨g, []⟩).Serves (.result keyed) :=
      .result grouped ⟨(Frame.plain_ofTable hr.wellFormed.lengths none).uniform, rfl⟩ rfl
        (hrows.trans grouped.outputLength_eq).symm
    have htypes : (havingScope r' ⟨g, []⟩).Typed :=
      List.forall_mem_cons.mpr ⟨Frame.typed_ofTable hr.wellFormed none, htyped⟩
    obtain ⟨marked, hmarked, ht⟩ := bind_eq_ok.mp ht
    obtain ⟨a, ha, ht⟩ := bind_eq_ok.mp ht
    rw [hscopes.isKey_eq, hframe.groupPaths] at hmarked
    unfold applyHaving
    dsimp only
    rw [hmarked]
    refine (Expr.carriesOver (Expr.regular_mark hregular hmarked) (Expr.fits_mark hfits hmarked)
      hscopes hserves htypes ha).bind fun b _ hab => ?_
    cases a with
    | grouped level d gs' => simp at ht
    | _ =>
      obtain ⟨mask, hmask, ht⟩ := bind_eq_ok.mp ht
      obtain rfl := pure_eq_ok.mp ht
      obtain ⟨mask', hmask'⟩ := hab.exists_truthMask hmask
      have hmask'' : b.truthMask "HAVING" r'.numRows = .ok mask' := hmask'
      cases hab
      dsimp only
      rw [hmask'']
      exact hr.filter mask (Evaluated.length_truthMask hmask'')

/-- A SELECT that gives a table over the rows of its source is accepted over other rows of one
schema, if its calls stand in their places. -/
theorem accepted_run {source : Option (Except Error Frame)} {t : Table}
    (hsource : ∀ f, s.fromFrame = .ok f → Accepted f.OtherRows (source.getD (.ok (.ofRows 1))))
    (hplaced : ∀ f, s.fromFrame = .ok f → s.WellPlaced f)
    (hregular : ∀ e ∈ s.exprs, e.Every Expr.IsRegular) (h : s.run now [] = .ok t) :
    Accepted t.OtherRows (run now { s with source := source } []) := by
  obtain ⟨hdistinct, scope, selectors, grouped, marked, result, hscope, hselectors, hgrouped,
    hresult, h⟩ := run_eq_ok_iff.mp h
  obtain ⟨f, hf, -⟩ := bind_eq_ok.mp hscope
  have hexprs := hregular
  simp only [SelectOf.exprs, List.mem_append] at hexprs
  have hwhere : ∀ e, s.condition = some e → e.Fits .rows ∧ e.Every Expr.IsRegular :=
    fun e he => ⟨(hplaced f hf).condition e he, hexprs e (by simp [he])⟩
  unfold run
  simp only [hdistinct, Bool.false_eq_true, if_false]
  refine (accepted_inputScope (hsource f hf) hf hwhere hscope).bind fun scope' _ hscopes => ?_
  obtain ⟨frame, outer⟩ := scope
  obtain ⟨frame', outer'⟩ := scope'
  obtain ⟨rfl, rfl, hother⟩ := hscopes
  have hwell := (hplaced f hf).inputScope hf hscope
  have hall : ∀ x ∈ selectors, x.expr.Every Expr.IsRegular :=
    forall_expand (fun _ => .leaf ⟨rfl, rfl, trivial⟩ rfl)
      (fun e he => hexprs e (.inl (.inl (.inl he)))) hselectors
  have hfits := hwell.fields selectors hselectors
  have hkeys := hwell.keys selectors hselectors
  have hmarked : ∀ e ∈ marked, e.Fits (s.fieldPlace selectors) ∧ e.Every Expr.IsRegular :=
    forall_marked (fun _ _ _ he hmark => ⟨Expr.fits_mark he.1 hmark, Expr.regular_mark he.2 hmark⟩)
      (fun x hx => ⟨fits_toExpr (hfits x hx), regular_toExpr (hall x hx)⟩) hgrouped
  rw [hother.sameSchema.expand_eq] at hselectors
  dsimp only
  rw [hselectors]
  refine (accepted_groupedFields source hkeys hall hother hgrouped).bind fun r _ hr => ?_
  obtain ⟨grouped', marked'⟩ := r
  obtain ⟨rfl, hscopes⟩ := hr
  refine (accepted_fieldsTable hscopes hmarked hresult).bind fun result' _ hresult' => ?_
  obtain ⟨hresults, hrows⟩ := hresult'
  cases hhaving : s.having with
  | none =>
    obtain rfl : result = t := by simpa [hhaving] using h
    exact hresults
  | some c =>
    simp only [hhaving, Option.elim_some] at h
    have hplace : s.fieldPlace selectors = .groups (!s.groupBy.isEmpty) := by
      unfold fieldPlace
      cases s.groupBy.isEmpty <;> simp [hhaving]
    rw [hplace] at hscopes
    exact accepted_applyHaving hscopes (hwell.having c hhaving)
      (hexprs c (.inr (by simp [hhaving]))) hresults hrows h

end SelectOf

end ColumnarSql
