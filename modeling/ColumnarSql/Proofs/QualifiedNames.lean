import ColumnarSql.Proofs.EnclosedSelect
import ColumnarSql.Proofs.OrderedPartition
import ColumnarSql.Proofs.Unambiguous

/-!
# Qualified names under GROUP BY

A field written as a table and a column is no ambiguous name where no table has two columns under
one name, and the columns that keys add to a frame do not change that (`Frame.Extends.unique`).
But GROUP BY looks up the names of the selected expressions as well, which the query may never
have written. A SELECT whose fields are all qualified fails over an ambiguous name only if one of
these is ambiguous (`Select.plan_qualified`), and then it does (`Select.inferred_name_ambiguous`).
-/

set_option autoImplicit false

namespace ColumnarSql

/-! ## Unique columns -/

/-- No two columns of one table under one name. -/
def Frame.UniqueColumns (f : Frame) : Prop :=
  f.columns.Pairwise fun c d => c.table.isSome → (c.table, c.name) ≠ (d.table, d.name)

instance : DecidablePred Frame.UniqueColumns := fun f =>
  inferInstanceAs (Decidable (f.columns.Pairwise _))

/-- No two columns of one table under one name, here or in an enclosing frame. -/
def Scope.UniqueColumns (s : Scope) : Prop := ∀ f ∈ s.frames, f.UniqueColumns

namespace Frame

variable {f g : Frame} {outer : List Frame}

/-- A table and a column name at most one column. -/
theorem UniqueColumns.unambiguous_find (hf : f.UniqueColumns) (table name : String) :
    Unambiguous (f.find [table, name]) := by
  have hpair : ∀ c ∈ f.columns.filter (·.answers [table, name]),
      (c.table, c.name) = (some table, name) := by
    intro c hc
    simpa [ScopeColumn.answers] using (List.mem_filter.mp hc).2
  have hunique := hf.filter (·.answers [table, name])
  unfold find
  split
  · trivial
  · trivial
  · next cs hnil hone =>
    generalize f.columns.filter (·.answers [table, name]) = found at hpair hunique hnil hone
    rcases found with _ | ⟨c, _ | ⟨d, rest⟩⟩
    · exact absurd rfl hnil
    · exact absurd rfl (hone c)
    · have hc := hpair c (by simp)
      have hd := hpair d (by simp)
      have hne := (List.pairwise_cons.mp hunique).1 d List.mem_cons_self
      exact absurd (hc.trans hd.symm) (hne (by simp [(Prod.mk.inj hc).1]))

/-- The names of the columns alone say whether they are unique. -/
theorem uniqueColumns_congr
    (h : f.columns.map (fun c => (c.table, c.name)) = g.columns.map fun c => (c.table, c.name)) :
    f.UniqueColumns ↔ g.UniqueColumns := by
  have hpairs : ∀ k : Frame, k.UniqueColumns ↔
      (k.columns.map fun c => (c.table, c.name)).Pairwise fun p q => p.1.isSome → p ≠ q :=
    fun k => by rw [List.pairwise_map, UniqueColumns]
  rw [hpairs, hpairs, h]

/-- A change of the columns' values keeps their names apart. -/
theorem UniqueColumns.mapColumns (hf : f.UniqueColumns) (n : Nat) (change : Column → Column) :
    (f.mapColumns n change).UniqueColumns :=
  (uniqueColumns_congr (by simp [Frame.mapColumns])).mpr hf

theorem uniqueColumns_ofRows (n : Nat) : (ofRows n).UniqueColumns := .nil

/-- The columns of a result have no table. -/
theorem uniqueColumns_result (t : Table) : (ofTable t none).UniqueColumns := by
  refine List.pairwise_of_forall_mem_list fun c hc d _ htable => ?_
  obtain ⟨p, -, rfl⟩ := List.mem_map.mp hc
  cases htable

/-- The columns that keys add have no table. -/
theorem Extends.unique (h : f.Extends outer g) (hf : f.UniqueColumns) : g.UniqueColumns := by
  obtain ⟨added, hcolumns, hadded⟩ := h.columns
  rw [UniqueColumns, hcolumns, List.pairwise_append]
  refine ⟨hf, List.pairwise_of_forall_mem_list fun c hc d _ htable => ?_, fun c _ d hd htable => ?_⟩
  · simp [(hadded c hc).1] at htable
  · intro heq
    simp [(Prod.mk.inj heq).1, (hadded d hd).1] at htable

/-- What can be resolved without doubt in a chain of frames can be in its first frame. -/
theorem unambiguous_find_of_tryResolve {path : List String}
    (h : Unambiguous (Scope.tryResolve ⟨f, outer⟩ path)) : Unambiguous (f.find path) := by
  simp only [Scope.tryResolve, Scope.frames, Scope.tryResolveIn] at h
  generalize f.find path = found at h ⊢
  rcases found with x | _ | c
  · exact h
  · trivial
  · trivial

end Frame

namespace Scope

variable {s : Scope}

/-- The frames of a scope are looked at one by one. -/
theorem uniqueColumns_iff :
    s.UniqueColumns ↔ s.frame.UniqueColumns ∧ ∀ f ∈ s.outer, f.UniqueColumns :=
  List.forall_mem_cons

/-- A name with its table is never ambiguous among unique columns. -/
theorem UniqueColumns.unambiguous_tryResolve (hs : s.UniqueColumns) (table name : String) :
    Unambiguous (s.tryResolve [table, name]) := by
  rw [tryResolve]
  rw [UniqueColumns] at hs
  generalize s.frames = frames at hs ⊢
  induction frames with
  | nil => trivial
  | cons f fs ih =>
    obtain ⟨hf, hfs⟩ := List.forall_mem_cons.mp hs
    refine (hf.unambiguous_find table name).bind fun c? _ => ?_
    cases c? with
    | some c => trivial
    | none => exact ih hfs

theorem UniqueColumns.reducing (hs : s.UniqueColumns) : s.reducing.UniqueColumns :=
  fun f hf => hs f (frames_reducingFrom s.frame s.outer hf)

end Scope

/-! ## Qualified fields -/

namespace Expr

variable {now : Moment} {s : Scope} {e : Expr Plan}

/-- If this is a field, it is written as a table and a column; if it is a subquery, it does not
fail over an ambiguous name inside frames of unique columns. -/
def IsQualified (e : Expr Plan) : Prop :=
  (∀ path, e = .field path → ∃ table name, path = [table, name]) ∧
    ∀ plan, e = .exists plan → ∀ frames : List Frame, (∀ f ∈ frames, f.UniqueColumns) →
      Unambiguous (plan frames)

/-- All fields and subqueries are qualified. -/
def Qualified (e : Expr Plan) : Prop := e.Every IsQualified

/-- A field with its table is qualified. -/
theorem qualified_field (table name : String) : (field [table, name] : Expr Plan).Qualified :=
  .leaf ⟨fun _ hpath => ⟨table, name, (field.inj hpath).symm⟩, nofun⟩ rfl

/-- A qualified expression meets no ambiguous name in a scope of unique columns. -/
theorem IsQualified.clearIn (he : e.IsQualified) (hs : s.UniqueColumns) : e.ClearIn s := by
  refine ⟨fun path hpath => ?_, fun plan hplan i => he.2 plan hplan _ ?_⟩
  · obtain ⟨table, name, rfl⟩ := he.1 path hpath
    exact hs.unambiguous_tryResolve table name
  · obtain ⟨hframe, houter⟩ := Scope.uniqueColumns_iff.mp hs
    exact List.forall_mem_cons.mpr ⟨hframe.mapColumns _ _, houter⟩

/-- A qualified expression does not fail over an ambiguous name. -/
theorem Qualified.unambiguous_eval (he : e.Qualified) (hs : s.UniqueColumns) :
    Unambiguous (e.eval now s) :=
  Expr.unambiguous_eval (Every.mono (fun _ hd => ⟨hd.clearIn hs, hd.clearIn hs.reducing⟩) he)

end Expr

/-! ## Marking -/

namespace Expr

variable {σ : Type} {isKey : List String → Except Error Bool}

/-- A field, or the name of a selected expression, that is looked up among the keys without
ambiguity. -/
def MarksClearly (isKey : List String → Except Error Bool) (e : Expr σ) : Prop :=
  (∀ path, e = .field path → Unambiguous (isKey path)) ∧
    ∀ x label position name, e = .selector x label position →
      Selector.name ⟨x, label, position⟩ = .ok name → Unambiguous (isKey [name])

/-- A selector without a name fails, but not over an ambiguous one. -/
theorem unambiguous_name (s : Selector σ) : Unambiguous s.name := by
  unfold Selector.name
  split <;> trivial

theorem unambiguous_markAll : ∀ {es : List (Expr σ)},
    (∀ e ∈ es, Unambiguous (e.mark isKey)) → Unambiguous (markAll isKey es)
  | [], _ => trivial
  | e :: es, h => by
    refine (h e List.mem_cons_self).bind fun _ _ => ?_
    exact (unambiguous_markAll fun c hc => h c (List.mem_cons_of_mem e hc)).bind fun _ _ => trivial

theorem unambiguous_markBranches : ∀ {bs : List (Expr σ × Expr σ)},
    (∀ e ∈ branchParts bs, Unambiguous (e.mark isKey)) → Unambiguous (markBranches isKey bs)
  | [], _ => trivial
  | (c, r) :: bs, h => by
    refine (h c (by simp [branchParts])).bind fun _ _ => ?_
    refine (h r (by simp [branchParts])).bind fun _ _ => ?_
    exact (unambiguous_markBranches fun e he => h e (by simp [branchParts, he])).bind
      fun _ _ => trivial

theorem unambiguous_markKeys : ∀ {ks : List (Expr σ × SortOrder)},
    (∀ e ∈ ks.map (·.1), Unambiguous (e.mark isKey)) → Unambiguous (markKeys isKey ks)
  | [], _ => trivial
  | (e, o) :: ks, h => by
    refine (h e (by simp)).bind fun _ _ => ?_
    exact (unambiguous_markKeys fun c hc => h c (List.mem_cons_of_mem e hc)).bind
      fun _ _ => trivial

/-- Marking fails over an ambiguous name only at a field or at a selected expression. -/
theorem unambiguous_mark {e : Expr σ} (he : e.Every (MarksClearly isKey)) :
    Unambiguous (e.mark isKey) := by
  induction he with
  | @intro e self _ ih =>
    cases e with
    | literal l | «exists» plan | groupedBy e => trivial
    | field path => exact (self.1 path rfl).bind fun b _ => by split <;> trivial
    | selector e label position =>
      refine (unambiguous_name ⟨e, label, position⟩).bind fun name hname => ?_
      refine (self.2 e label position name rfl hname).bind fun b _ => ?_
      split
      · trivial
      · exact (ih e (by simp [children])).bind fun _ _ => trivial
    | binary op l r =>
      refine (ih l (by simp [children])).bind fun _ _ => ?_
      exact (ih r (by simp [children])).bind fun _ _ => trivial
    | not e | negate e | nullCheck n e | cast e t | extract p e =>
      exact (ih e (by simp [children])).bind fun _ _ => trivial
    | inList n e es =>
      refine (ih e (by simp [children])).bind fun _ _ => ?_
      exact (unambiguous_markAll fun c hc => ih c (by simp [children, hc])).bind
        fun _ _ => trivial
    | case bs o =>
      refine (unambiguous_markBranches fun c hc => ih c (by simp [children, hc])).bind
        fun _ _ => ?_
      exact (ih o (by simp [children])).bind fun _ _ => trivial
    | conditional c p n =>
      refine (ih c (by simp [children])).bind fun _ _ => ?_
      refine (ih p (by simp [children])).bind fun _ _ => ?_
      exact (ih n (by simp [children])).bind fun _ _ => trivial
    | struct d es =>
      exact (unambiguous_markAll fun c hc => ih c hc).bind fun _ _ => trivial
    | array t es empty =>
      exact (unambiguous_markAll fun c hc => ih c hc).bind fun _ _ => trivial
    | call f args =>
      unfold mark
      split
      · trivial
      · exact (unambiguous_markAll fun c hc => ih c hc).bind fun _ _ => trivial
    | analytic f args ps os =>
      refine (unambiguous_markAll fun c hc => ih c (by simp [children, hc])).bind fun _ _ => ?_
      refine (unambiguous_markAll fun c hc => ih c (by simp [children, hc])).bind fun _ _ => ?_
      exact (unambiguous_markKeys fun c hc =>
        ih c (List.mem_append_right (args ++ ps) hc)).bind fun _ _ => trivial

/-- Only a field is marked as a field. -/
theorem eq_field_of_mark {e : Expr σ} {path : List String}
    (h : e.mark isKey = .ok (.field path)) : e = .field path := by
  by_cases hop : e.isOperation
  · obtain ⟨⟨hmarked, -⟩, -⟩ := mark_operation hop h
    cases hmarked
  · cases e with
    | field written =>
      obtain ⟨b, -, h⟩ := bind_eq_ok.mp h
      cases b with
      | true => cases pure_eq_ok.mp h
      | false => exact pure_eq_ok.mp h
    | selector e label position =>
      simp only [mark, bind_eq_ok] at h
      obtain ⟨name, -, b, -, h⟩ := h
      cases b with
      | true => cases pure_eq_ok.mp h
      | false =>
        obtain ⟨c, -, h⟩ := bind_eq_ok.mp h
        cases pure_eq_ok.mp h
    | call f args =>
      have hf : f.isAggregating = true := by simpa [isOperation] using hop
      simp [mark, hf] at h
    | analytic f args ps os => simp [mark] at h
    | groupedBy e | literal l | «exists» plan => cases h
    | _ => exact absurd rfl hop

/-- Marks keep qualified fields. -/
theorem Qualified.mark {isKey : List String → Except Error Bool} {e m : Expr Plan}
    (he : e.Qualified) (h : e.mark isKey = .ok m) : m.Qualified := by
  refine every_of_mark (fun d d' hmark hd => ⟨?_, ?_⟩) (fun d => ⟨nofun, nofun⟩) he h
  · rintro path rfl
    exact hd.1 path (eq_field_of_mark hmark)
  · rintro plan rfl
    rcases mark_cases hmark with rfl | hmark | ⟨hnode, -⟩
    · exact hd.2 plan rfl
    · cases hmark
    · cases hnode

end Expr

/-! ## Reading the keys -/

namespace FrameM

variable {α β : Type} {f : Frame}

/-- A step that does not fail over an ambiguous name, from this frame. -/
def ClearAt (x : FrameM α) (f : Frame) : Prop :=
  ∀ e g, x f = .error e g → e.isAmbiguity = false

/-- Steps one after the other find no ambiguous name if none of them does. -/
theorem ClearAt.bind {x : FrameM α} {k : α → FrameM β} (hx : ClearAt x f)
    (hk : ∀ a g, x f = .ok a g → ClearAt (k a) g) : ClearAt (x >>= k) f := by
  intro e g h
  simp only [Bind.bind, EStateM.bind] at h
  cases hxf : x f with
  | ok a f' =>
    rw [hxf] at h
    exact hk a f' hxf e g h
  | error e' f' =>
    rw [hxf] at h
    obtain ⟨rfl, rfl⟩ := EStateM.Result.error.inj h
    exact hx e' f' hxf

theorem clearAt_pure (a : α) : ClearAt (pure a : FrameM α) f := nofun

/-- Another error than that of an ambiguous name is clear. -/
theorem clearAt_throw {e : Error} (h : e.isAmbiguity = false) :
    ClearAt (throw e : FrameM α) f := by
  intro e' g h'
  obtain ⟨rfl, -⟩ := EStateM.Result.error.inj h'
  exact h

theorem clearAt_get : ClearAt (get : FrameM Frame) f := nofun

theorem clearAt_set (g : Frame) : ClearAt (set g : FrameM PUnit) f := nofun

theorem clearAt_lift {x : Except Error α} (h : Unambiguous x) :
    ClearAt (Grouping.lift x) f := by
  cases x with
  | ok a => exact clearAt_pure a
  | error e => exact clearAt_throw h

end FrameM

namespace Grouping

variable {now : Moment} {outer : List Frame} {selectors : List (Selector Plan)} {f g : Frame}

open FrameM

/-- Paths that are resolved without ambiguity are so with the columns of keys. -/
theorem Keyed.unambiguous_tryResolve (h : Keyed now outer selectors f g) {path : List String}
    (hpath : Unambiguous (Scope.tryResolve ⟨f, outer⟩ path)) :
    Unambiguous (Scope.tryResolve ⟨g, outer⟩ path) := by
  induction h with
  | start => exact hpath
  | @compute g name s a c _ free _ _ _ length ih =>
    have hstep : g.Extends outer { g with columns := g.columns ++ [⟨none, name, c⟩] } :=
      ⟨rfl, rfl, [⟨none, name, c⟩], rfl, by simpa using ⟨length, free⟩⟩
    -- A free path may find the added column, and no other; a resolved one does not find it.
    by_cases hfree : Scope.tryResolve ⟨g, outer⟩ path = .ok none
    · obtain ⟨hnone, houter⟩ := Frame.tryResolve_eq_none_iff.mp hfree
      simp only [Scope.tryResolve, Scope.frames, Scope.tryResolveIn, Frame.find_addedColumn hnone]
      cases ScopeColumn.answers ⟨none, name, c⟩ path with
      | true => trivial
      | false =>
        change Unambiguous (Scope.tryResolveIn outer path)
        rw [houter]
        trivial
    · rwa [hstep.tryResolve_eq hfree]

/-- Computed keys join no table, so the columns stay unique. -/
theorem Keyed.unique (h : Keyed now outer selectors f g)
    (hs : Scope.UniqueColumns ⟨f, outer⟩) : Scope.UniqueColumns ⟨g, outer⟩ := by
  obtain ⟨hf, houter⟩ := Scope.uniqueColumns_iff.mp hs
  exact Scope.uniqueColumns_iff.mpr ⟨h.extends.unique hf, houter⟩

theorem unique_grouped (hs : Scope.UniqueColumns ⟨f, outer⟩) (paths : List String)
    (columns : List Column) : Scope.UniqueColumns ⟨grouped f paths columns, outer⟩ := by
  obtain ⟨hf, houter⟩ := Scope.uniqueColumns_iff.mp hs
  exact Scope.uniqueColumns_iff.mpr ⟨hf, houter⟩

/-- A key path is clear if it resolves without doubt and the selectors can be evaluated so. -/
theorem clearAt_keyPath {path : List String}
    (hpath : Unambiguous (Scope.tryResolve ⟨f, outer⟩ path))
    (hselectors : ∀ x ∈ selectors, Unambiguous (x.expr.eval now ⟨f, outer⟩)) :
    ClearAt (keyPath now outer selectors path) f := by
  refine clearAt_get.bind fun _ _ hget => ?_
  obtain ⟨rfl, rfl⟩ := get_eq_ok.mp hget
  refine (clearAt_lift hpath).bind fun p? _ hlift => ?_
  obtain ⟨-, rfl⟩ := lift_eq_ok.mp hlift
  cases p? with
  | some p => exact clearAt_pure p
  | none =>
    dsimp only
    split
    · exact clearAt_get.bind fun _ _ _ => clearAt_throw rfl
    · next x hx =>
      refine clearAt_get.bind fun _ _ hget => ?_
      obtain ⟨rfl, rfl⟩ := get_eq_ok.mp hget
      refine (clearAt_lift (hselectors x (List.mem_of_find?_eq_some hx))).bind fun a _ _ => ?_
      refine (clearAt_lift (a.unambiguous_toColumn _)).bind fun c _ _ => ?_
      refine ClearAt.bind (clearAt_lift ?_) fun _ _ _ =>
        (clearAt_set _).bind fun _ _ _ => clearAt_pure _
      unfold Frame.addColumn
      split <;> trivial

/-- A position names one of the selectors. -/
theorem mem_of_selectorAt? {position : Int64} {s : Selector Plan}
    (h : selectorAt? selectors position = some s) : s ∈ selectors := by
  unfold selectorAt? at h
  split at h
  · exact List.mem_of_getElem? h
  · cases h

/-- The paths that keys stand for are looked up without ambiguity: of fields, and of the names
at positions. -/
def KeysClear (outer : List Frame) (selectors : List (Selector Plan)) (keys : List (Expr Plan))
    (f : Frame) : Prop :=
  ∀ key ∈ keys, ∀ path, keyTarget? selectors key = some path →
    Unambiguous (Scope.tryResolve ⟨f, outer⟩ path)

/-- A key is clear if the path that it stands for is, and the selectors are. -/
theorem clearAt_keyOf {key : Expr Plan}
    (hkey : ∀ path, keyTarget? selectors key = some path →
      Unambiguous (Scope.tryResolve ⟨f, outer⟩ path))
    (hselectors : ∀ x ∈ selectors, Unambiguous (x.expr.eval now ⟨f, outer⟩)) :
    ClearAt (keyOf now outer selectors key) f := by
  cases key with
  | field path => exact clearAt_keyPath (hkey path rfl) hselectors
  | literal l =>
    unfold keyOf
    dsimp only
    split
    · exact clearAt_throw rfl
    · next position hposition =>
      split
      · exact clearAt_throw rfl
      · next s hs =>
        refine (clearAt_lift (Expr.unambiguous_name s)).bind fun name _ hlift => ?_
        obtain ⟨hname, rfl⟩ := lift_eq_ok.mp hlift
        refine clearAt_keyPath (hkey [name] ?_) hselectors
        simp [keyTarget?, hposition, hs, hname, Except.toOption]
  | _ => exact clearAt_throw rfl

/-- All keys are clear in every frame that the keys before them lead to. -/
theorem clearAt_keys
    (hselectors : ∀ k, Keyed now outer selectors f k →
      ∀ x ∈ selectors, Unambiguous (x.expr.eval now ⟨k, outer⟩)) :
    ∀ {ks : List (Expr Plan)} {k : Frame}, KeysClear outer selectors ks f →
      Keyed now outer selectors f k → ClearAt (ks.mapM (keyOf now outer selectors)) k
  | [], k, _, _ => by
    rw [List.mapM_nil]
    exact clearAt_pure _
  | key :: ks, k, hkeys, hk => by
    obtain ⟨hkey, hkeys⟩ := List.forall_mem_cons.mp hkeys
    rw [List.mapM_cons]
    refine ClearAt.bind (clearAt_keyOf (fun path htarget => ?_) (hselectors k hk))
      fun p k' hp => ?_
    · exact hk.unambiguous_tryResolve (hkey path htarget)
    · exact (clearAt_keys hselectors hkeys (hk.trans (keyed_of_keyOf hp))).bind
        fun _ _ _ => clearAt_pure _

/-! ## Grouping -/

/-- The column of a key path is found again without ambiguity. -/
theorem Keyed.unambiguous_column (h : Keyed now outer selectors f g) (hf : f.UniqueColumns)
    {path : List String} {p : String} (hpath : Unambiguous (Scope.tryResolve ⟨f, outer⟩ path))
    (hp : f.Canonical outer path p) : Unambiguous (g.column (Text.splitFirst p)) := by
  have hfind : Unambiguous (g.find (Text.splitFirst p)) := by
    rcases Text.splitFirst_cases p with hsplit | ⟨table, name, hsplit⟩
    · rw [hsplit, ← hp.eq_singleton hsplit]
      exact Frame.unambiguous_find_of_tryResolve (h.unambiguous_tryResolve hpath)
    · rw [hsplit]
      exact (h.extends.unique hf).unambiguous_find table name
  refine hfind.bind fun c? _ => ?_
  cases c? <;> trivial

/-- Whether a path is a key is asked without doubt if the path resolves so. -/
theorem unambiguous_isKey {s : Scope} {path : List String} (h : Unambiguous (s.tryResolve path))
    (paths : List String) : Unambiguous (isKey s paths path) := by
  refine h.bind fun p? _ => ?_
  cases p? <;> trivial

/-- The names of a selected expression are looked up without ambiguity, its own and those
inside. -/
def NamesClear (s : Scope) (x : Selector Plan) : Prop :=
  x.toExpr.Named fun name => Unambiguous (s.tryResolve [name])

/-- Marking looks up qualified fields and the names of selected expressions. -/
theorem unambiguous_mark {s : Scope} {e : Expr Plan} (hs : s.UniqueColumns) (he : e.Qualified)
    (hnames : e.Named fun name => Unambiguous (s.tryResolve [name])) (paths : List String) :
    Unambiguous (e.mark (isKey s paths)) := by
  refine Expr.unambiguous_mark ((Expr.Every.and he hnames).mono ?_)
  rintro d ⟨⟨hfield, -⟩, hname⟩
  refine ⟨fun path hpath => ?_, fun y label position name hy hlabel => ?_⟩
  · obtain ⟨table, name, rfl⟩ := hfield path hpath
    exact unambiguous_isKey (hs.unambiguous_tryResolve table name) paths
  · exact unambiguous_isKey (hname y label position name hy hlabel) paths

/-- The name of a selector counts with those of its expression. -/
theorem named_toExpr {p : String → Prop} {x : Selector Plan} {name : String}
    (hname : x.name = .ok name) (hp : p name) (hx : x.expr.Named p) : x.toExpr.Named p := by
  refine .intro ?_ (List.forall_mem_singleton.mpr hx)
  rintro e label position n he hn
  obtain ⟨rfl, rfl, rfl⟩ := Expr.selector.inj he
  obtain rfl := Except.ok.inj (hname.symm.trans hn)
  exact hp

theorem qualified_toExpr {x : Selector Plan} (h : x.expr.Qualified) : x.toExpr.Qualified :=
  .intro ⟨nofun, nofun⟩ (List.forall_mem_singleton.mpr h)

/-- GROUP BY over qualified fields does not fail over an ambiguous name. -/
theorem clearAt_groupBy (hs : Scope.UniqueColumns ⟨f, outer⟩) {keys : List (Expr Plan)}
    (hkeys : KeysClear outer selectors keys f) (hfields : ∀ x ∈ selectors, x.expr.Qualified)
    (hnames : ∀ x ∈ selectors, NamesClear ⟨f, outer⟩ x) :
    ClearAt (groupBy now outer selectors keys) f := by
  have hselectors : ∀ k, Keyed now outer selectors f k →
      ∀ x ∈ selectors, Unambiguous (x.expr.eval now ⟨k, outer⟩) :=
    fun k hk x hx => (hfields x hx).unambiguous_eval (hk.unique hs)
  unfold groupBy
  refine (clearAt_keys hselectors hkeys .start).bind fun paths g hread => ?_
  have hg := keyed_of_keys hread
  refine clearAt_get.bind fun _ _ hget => ?_
  obtain ⟨rfl, rfl⟩ := get_eq_ok.mp hget
  -- The columns of the keys are looked up once more, by the parts of their whole paths.
  refine ClearAt.bind (clearAt_lift (.mapM fun p hp => ?_)) fun columns _ hlift => ?_
  · have hcanonical := canonical_of_keys (.refl outer f) hread
    obtain ⟨i, hi, rfl⟩ := List.getElem_of_mem hp
    have hi' : i < keys.length := hcanonical.length_eq ▸ hi
    obtain ⟨path, htarget, hpath⟩ := hcanonical.get hi' hi
    obtain ⟨hf, -⟩ := Scope.uniqueColumns_iff.mp hs
    exact hg.unambiguous_column hf (hkeys _ (List.getElem_mem hi') path htarget) hpath
  refine (clearAt_set _).bind fun _ _ _ => ?_
  refine ClearAt.bind (clearAt_lift (.mapM fun x hx => ?_)) fun _ _ _ =>
    (clearAt_set _).bind fun _ _ _ => clearAt_pure _
  exact unambiguous_mark (unique_grouped (hg.unique hs) paths columns)
    (qualified_toExpr (hfields x hx))
    ((hnames x hx).mono fun _ => hg.unambiguous_tryResolve) paths

end Grouping

/-! ## FROM -/

namespace Join

variable {now : Moment} {f g : Frame}

/-- ON reads qualified fields, and USING names columns of both frames without ambiguity. -/
def ConditionQualified (f g : Frame) : JoinCondition Plan → Prop
  | .none => True
  | .on condition => condition.Qualified
  | .using names => ∀ n ∈ names, Unambiguous (f.find [n]) ∧ Unambiguous (g.find [n])

/-- Each join brings columns of other tables, under a condition with qualified names. -/
def Qualified (now : Moment) : List (JoinOf Plan (Except Error NamedTable)) → Frame → Prop
  | [], _ => True
  | j :: js, f => Unambiguous j.item.query ∧ ∀ g, itemFrame j.item = .ok g →
      (cross f g).UniqueColumns ∧ ConditionQualified f g j.condition ∧
        ∀ h, extend now f j = .ok h → Qualified now js h

/-- The rows of a join do not matter for the names of its columns. -/
theorem uniqueColumns_combine (hf : (cross f g).UniqueColumns) (pairs : List RowPair) :
    (combine f g pairs).UniqueColumns :=
  (Frame.uniqueColumns_congr (by
    simp [combine, cross, Frame.combine, Frame.take, Frame.mapColumns, Function.comp_def])).mpr hf

/-- A join of a frame and an item with unique columns has unique columns. -/
theorem uniqueColumns_extend {j : JoinOf Plan (Except Error NamedTable)}
    (hcross : ∀ g, itemFrame j.item = .ok g → (cross f g).UniqueColumns)
    {h : Frame} (hextend : extend now f j = .ok h) : h.UniqueColumns := by
  obtain ⟨g, hg, hextend⟩ := bind_eq_ok.mp hextend
  have hcombine := uniqueColumns_combine (hcross g hg)
  split at hextend
  · obtain rfl := pure_eq_ok.mp hextend
    exact hcross g hg
  · obtain ⟨found, -, hextend⟩ := bind_eq_ok.mp hextend
    obtain rfl := pure_eq_ok.mp hextend
    exact hcombine _
  · obtain ⟨found, -, hextend⟩ := bind_eq_ok.mp hextend
    obtain rfl := pure_eq_ok.mp hextend
    refine (hcombine (pairsOf j.kind found)).sublist ?_
    rw [Frame.dropNamed]
    conv_rhs => rw [← List.take_append_drop f.columns.length (combine f g _).columns]
    exact (List.Sublist.refl _).append List.filter_sublist

/-- An item is unambiguous if its query is. -/
theorem unambiguous_itemFrame {item : FromItem (Except Error NamedTable)}
    (h : Unambiguous item.query) : Unambiguous (itemFrame item) :=
  h.bind fun _ _ => trivial

theorem unambiguous_column {n : String} (h : Unambiguous (f.find [n])) :
    Unambiguous (f.column [n]) := by
  refine h.bind fun c? _ => ?_
  cases c? <;> trivial

/-- USING is unambiguous if its names are, on both sides. -/
theorem unambiguous_usingColumns : ∀ {names : List String},
    (∀ n ∈ names, Unambiguous (f.find [n]) ∧ Unambiguous (g.find [n])) →
      Unambiguous (usingColumns f g names)
  | [], _ => trivial
  | n :: names, h => by
    obtain ⟨⟨hleft, hright⟩, hrest⟩ := List.forall_mem_cons.mp h
    refine (unambiguous_column hleft).bind fun _ _ => ?_
    refine (unambiguous_column hright).bind fun _ _ => ?_
    exact (unambiguous_usingColumns hrest).bind fun _ _ => trivial

/-- A join is unambiguous if its item is and its condition is qualified. -/
theorem unambiguous_extend {j : JoinOf Plan (Except Error NamedTable)}
    (hitem : Unambiguous j.item.query)
    (hj : ∀ g, itemFrame j.item = .ok g →
      (cross f g).UniqueColumns ∧ ConditionQualified f g j.condition) :
    Unambiguous (extend now f j) := by
  refine (unambiguous_itemFrame hitem).bind fun g hg => ?_
  obtain ⟨hcross, hcondition⟩ := hj g hg
  split
  · trivial
  · next c hc =>
    rw [hc] at hcondition
    refine Unambiguous.bind ?_ fun _ _ => trivial
    refine (Expr.Qualified.unambiguous_eval hcondition ?_).bind fun a _ => ?_
    · exact List.forall_mem_singleton.mpr hcross
    · exact (Evaluated.unambiguous_truthMask _ _ _).bind fun _ _ => trivial
  · next names hnames =>
    rw [hnames] at hcondition
    refine Unambiguous.bind ?_ fun _ _ => trivial
    exact (unambiguous_usingColumns hcondition).bind fun _ _ => trivial

/-- Joins with qualified names do not fail over an ambiguous one, and keep columns unique. -/
theorem unambiguous_joins : ∀ {joins : List (JoinOf Plan (Except Error NamedTable))} {f : Frame},
    f.UniqueColumns → Qualified now joins f →
      Unambiguous (joins.foldlM (extend now) f) ∧
        ∀ g, joins.foldlM (extend now) f = .ok g → g.UniqueColumns
  | [], f, hf, _ => ⟨trivial, fun g h => pure_eq_ok.mp h ▸ hf⟩
  | j :: joins, f, _, ⟨hitem, hj⟩ => by
    have hrest : ∀ h, extend now f j = .ok h → Unambiguous (joins.foldlM (extend now) h) ∧
        ∀ g, joins.foldlM (extend now) h = .ok g → g.UniqueColumns := by
      intro h hextend
      obtain ⟨g, hg, -⟩ := bind_eq_ok.mp hextend
      obtain ⟨-, -, hqualified⟩ := hj g hg
      exact unambiguous_joins (uniqueColumns_extend (fun g hg => (hj g hg).1) hextend)
        (hqualified h hextend)
    rw [List.foldlM_cons]
    refine ⟨(unambiguous_extend hitem fun g hg => ⟨(hj g hg).1, (hj g hg).2.1⟩).bind
      fun h hextend => (hrest h hextend).1, fun g hg => ?_⟩
    obtain ⟨h, hextend, hg⟩ := bind_eq_ok.mp hg
    exact (hrest h hextend).2 g hg

end Join

/-- The items of FROM bring columns of unique names, and its joins are qualified. -/
def Source.Qualified (env : Session) : Source → Prop
  | ⟨⟨q, label⟩, joins⟩ => Unambiguous (q.run env) ∧
      ∀ f, Join.itemFrame ⟨q.run env, label⟩ = .ok f →
        f.UniqueColumns ∧ Join.Qualified env.now (planJoins env joins) f

/-! ## SELECT -/

namespace SelectOf

variable {now : Moment} {s : SelectOf Plan (Except Error Frame)} {outer : List Frame}
  {scope : Scope}

/-- The fields of a SELECT, of its keys and of its conditions are qualified, and HAVING names no
selected expression. -/
structure Qualified (s : SelectOf Plan (Except Error Frame)) : Prop where
  fields : ∀ f selectors, s.fromFrame = .ok f → expand f s.fields = .ok selectors →
    ∀ x ∈ selectors, x.expr.Qualified
  condition : ∀ c, s.condition = some c → c.Qualified
  keys : ∀ path, .field path ∈ s.groupBy → ∃ table name, path = [table, name]
  having : ∀ c, s.having = some c → c.Qualified ∧ c.Named fun _ => False

/-- The names of the selected expressions, written or inferred, are not ambiguous. -/
def NamesClear (s : SelectOf Plan (Except Error Frame)) (now : Moment) (outer : List Frame) :
    Prop :=
  ∀ scope selectors, s.inputScope now outer = .ok scope →
    expand scope.frame s.fields = .ok selectors → ∀ x ∈ selectors, Grouping.NamesClear scope x

/-- FROM and WHERE do not fail over an ambiguous name; their columns are unique, and stars stand
for the fields they stand for in FROM. -/
theorem unambiguous_inputScope (now : Moment) (hs : s.Qualified)
    (houter : ∀ f ∈ outer, f.UniqueColumns) (hfrom : Unambiguous s.fromFrame)
    (hunique : ∀ f, s.fromFrame = .ok f → f.UniqueColumns) :
    Unambiguous (s.inputScope now outer) ∧ ∀ scope, s.inputScope now outer = .ok scope →
      scope.UniqueColumns ∧ ∃ f, s.fromFrame = .ok f ∧
        expand scope.frame s.fields = expand f s.fields := by
  constructor
  · refine hfrom.bind fun f hf => ?_
    split
    · trivial
    · next c hc =>
      refine ((hs.condition c hc).unambiguous_eval ?_).bind fun a _ => ?_
      · exact Scope.uniqueColumns_iff.mpr ⟨hunique f hf, houter⟩
      · exact (Evaluated.unambiguous_truthMask _ _ _).bind fun _ _ => trivial
  · intro scope h
    obtain ⟨f, hf, h⟩ := bind_eq_ok.mp h
    split at h
    · obtain rfl := pure_eq_ok.mp h
      exact ⟨Scope.uniqueColumns_iff.mpr ⟨hunique f hf, houter⟩, f, hf, rfl⟩
    · simp only [bind_eq_ok, pure_eq_ok] at h
      obtain ⟨a, -, mask, -, rfl⟩ := h
      exact ⟨Scope.uniqueColumns_iff.mpr ⟨(hunique f hf).mapColumns _ _, houter⟩, f, hf,
        expand_filter f mask s.fields⟩

/-- The expansion of stars never meets an ambiguous name. -/
theorem unambiguous_expand (f : Frame) (fields : List (SelectField Plan)) :
    Unambiguous (expand f fields) := by
  refine Unambiguous.bind (.mapM fun p _ => ?_) fun _ _ => trivial
  split
  · trivial
  · next star _ =>
    refine Unambiguous.map (Unambiguous.map ?_ _) _
    unfold Star.columns
    split
    · trivial
    · split <;> trivial
    · trivial

/-- A table of fields is unambiguous if their expressions are. -/
theorem unambiguous_fieldsTable {selectors : List (Selector Plan)} {exprs : List (Expr Plan)}
    (h : ∀ e ∈ exprs, Unambiguous (e.eval now scope)) :
    Unambiguous (fieldsTable now scope selectors exprs) := by
  refine Unambiguous.bind (.mapM fun p hp => ?_) fun _ _ => ?_
  · refine (h p.2 (List.of_mem_zip hp).2).bind fun a _ => ?_
    split
    · trivial
    · refine (Evaluated.unambiguous_toColumn _ _).bind fun _ _ => ?_
      exact (Expr.unambiguous_name p.1).bind fun _ _ => trivial
  · unfold Table.ofColumns
    split
    · trivial
    · split <;> trivial

/-- HAVING over qualified fields does not fail over an ambiguous name. -/
theorem unambiguous_applyHaving {c : Expr Plan} (hscope : scope.UniqueColumns)
    (hc : c.Qualified) (hnames : c.Named fun _ => False) (result : Table) :
    Unambiguous (applyHaving now c result scope) := by
  have hunique : (havingScope result scope).UniqueColumns :=
    Scope.uniqueColumns_iff.mpr ⟨Frame.uniqueColumns_result result, hscope⟩
  refine Unambiguous.bind (Grouping.unambiguous_mark hunique hc
    (hnames.mono fun _ => False.elim) _) fun m hm => ?_
  refine ((hc.mark hm).unambiguous_eval hunique).bind fun a _ => ?_
  split
  · trivial
  · exact (Evaluated.unambiguous_truthMask _ _ _).bind fun _ _ => trivial

/-- Keys with their tables are clear among unique columns, if the names of the selectors are. -/
theorem keysClear_of_qualified (hkeys : ∀ path, .field path ∈ s.groupBy →
      ∃ table name, path = [table, name]) (hscope : scope.UniqueColumns)
    {selectors : List (Selector Plan)} (hnames : ∀ x ∈ selectors, Grouping.NamesClear scope x) :
    Grouping.KeysClear scope.outer selectors s.groupBy scope.frame := by
  intro key hkey path htarget
  cases key with
  | field written =>
    obtain rfl := Option.some.inj htarget
    obtain ⟨table, name, rfl⟩ := hkeys written hkey
    exact hscope.unambiguous_tryResolve table name
  | literal l =>
    obtain ⟨position, -, htarget⟩ := Option.bind_eq_some_iff.mp htarget
    obtain ⟨x, hx, htarget⟩ := Option.bind_eq_some_iff.mp htarget
    obtain ⟨name, hname, rfl⟩ := Option.map_eq_some_iff.mp htarget
    refine (hnames x (Grouping.mem_of_selectorAt? hx)).self x.expr x.label x.position name rfl ?_
    change x.name = .ok name
    cases hxname : x.name with
    | error e => simp [hxname, Except.toOption] at hname
    | ok n => simpa [hxname, Except.toOption] using hname
  | _ => cases htarget

/-- Under GROUP BY the fields are grouped and marked without ambiguity; the columns are unique
still, and the marked fields qualified. -/
theorem unambiguous_groupedFields (now : Moment) (hkeys : s.groupBy ≠ []) (hs : s.Qualified)
    (hscope : scope.UniqueColumns) {selectors : List (Selector Plan)}
    (hfields : ∀ x ∈ selectors, x.expr.Qualified)
    (hnames : ∀ x ∈ selectors, Grouping.NamesClear scope x) :
    Unambiguous (s.groupedFields now scope selectors) ∧
      ∀ grouped marked, s.groupedFields now scope selectors = .ok (grouped, marked) →
        grouped.UniqueColumns ∧ ∀ m ∈ marked, m.Qualified := by
  have hclear : FrameM.ClearAt (Grouping.groupBy now scope.outer selectors s.groupBy)
      scope.frame :=
    Grouping.clearAt_groupBy hscope (keysClear_of_qualified hs.keys hscope hnames) hfields hnames
  refine ⟨?_, fun grouped marked h => ⟨?_, ?_⟩⟩
  · unfold groupedFields
    rw [if_neg (by simpa using hkeys)]
    split
    · trivial
    · next e f' herror => exact hclear e f' herror
  · obtain ⟨hnone, -⟩ | ⟨-, G, hG, rfl⟩ := groupedFields_eq_ok_iff.mp h
    · exact absurd hnone hkeys
    obtain ⟨g, paths, columns, hg, -, rfl, -⟩ := Grouping.groupBy_eq_ok hG
    exact Grouping.unique_grouped (hg.unique hscope) paths columns
  · exact forall_marked (fun _ _ _ hm hmark => hm.mark hmark)
      (fun x hx => Grouping.qualified_toExpr (hfields x hx)) h

/-- A SELECT under GROUP BY whose fields are qualified, and whose selected expressions have no
ambiguous names, does not fail over an ambiguous name. -/
theorem unambiguous_run (hkeys : s.groupBy ≠ []) (hs : s.Qualified)
    (hnames : s.NamesClear now outer) (houter : ∀ f ∈ outer, f.UniqueColumns)
    (hfrom : Unambiguous s.fromFrame) (hunique : ∀ f, s.fromFrame = .ok f → f.UniqueColumns) :
    Unambiguous (s.run now outer) := by
  cases hdistinct : s.distinct with
  | true =>
    have hrun : s.run now outer = .error .selectDistinct := by
      simp only [run, hdistinct, if_true]
      rfl
    rw [hrun]
    rfl
  | false => ?_
  simp only [run, hdistinct, Bool.false_eq_true, if_false]
  obtain ⟨hinput, hscopes⟩ := unambiguous_inputScope now hs houter hfrom hunique
  refine hinput.bind fun scope hscope => ?_
  refine (unambiguous_expand _ _).bind fun selectors hselectors => ?_
  obtain ⟨hcolumns, f, hf, hexpand⟩ := hscopes scope hscope
  obtain ⟨hgrouping, hmarking⟩ := unambiguous_groupedFields now hkeys hs hcolumns
    (hs.fields f selectors hf (hexpand ▸ hselectors)) (hnames scope selectors hscope hselectors)
  refine hgrouping.bind fun ⟨grouped, marked⟩ hgrouped => ?_
  obtain ⟨hgroups, hmarked⟩ := hmarking grouped marked hgrouped
  refine (unambiguous_fieldsTable fun m hm => (hmarked m hm).unambiguous_eval hgroups).bind
    fun result _ => ?_
  split
  · trivial
  · next c hc =>
    obtain ⟨hqualified, hnone⟩ := hs.having c hc
    exact unambiguous_applyHaving hgroups hqualified hnone result

/-- A FROM clause with qualified names gives unique columns and does not fail over an ambiguous
name. -/
theorem unambiguous_fromFrame {env : Session} {s : SelectOf Select Source}
    (h : ∀ source, s.source = some source → source.Qualified env) :
    Unambiguous (s.planned env).fromFrame ∧
      ∀ f, (s.planned env).fromFrame = .ok f → f.UniqueColumns := by
  cases hs : s.source with
  | none =>
    simp only [fromFrame, planned, hs, planSource?, Option.getD_none]
    exact ⟨trivial, fun f hf => Except.ok.inj hf ▸ Frame.uniqueColumns_ofRows 1⟩
  | some source =>
    obtain ⟨⟨q, label⟩, joins⟩ := source
    obtain ⟨hquery, hframe⟩ := h _ hs
    simp only [fromFrame, planned, hs, planSource?, Option.getD_some]
    refine ⟨(Join.unambiguous_itemFrame hquery).bind fun f hf => ?_, fun g hg => ?_⟩
    · obtain ⟨hunique, hjoins⟩ := hframe f hf
      exact (Join.unambiguous_joins hunique hjoins).1
    · obtain ⟨f, hf, hg⟩ := bind_eq_ok.mp hg
      obtain ⟨hunique, hjoins⟩ := hframe f hf
      exact (Join.unambiguous_joins hunique hjoins).2 g hg

end SelectOf

namespace Select

variable {env : Session} {outer : List Frame}

/-- A SELECT under GROUP BY that is written with qualified names is not rejected for an ambiguous
field, as long as the names of its selected expressions are not ambiguous themselves. -/
theorem plan_qualified {s : SelectOf Select Source} (hkeys : s.groupBy ≠ [])
    (hfrom : ∀ source, s.source = some source → source.Qualified env)
    (hs : (s.planned env).Qualified) (houter : ∀ f ∈ outer, f.UniqueColumns)
    (hnames : (s.planned env).NamesClear env.now outer) (path candidates : List String) :
    (Select.mk s).plan env outer ≠ .error (.ambiguousField path candidates) := by
  rw [SelectOf.plan_mk]
  obtain ⟨hframe, hunique⟩ := SelectOf.unambiguous_fromFrame hfrom
  have hplanned : (s.planned env).groupBy ≠ [] := by
    cases hg : s.groupBy with
    | nil => exact absurd hg hkeys
    | cons k ks => simp [SelectOf.planned, hg, planExprs]
  exact (SelectOf.unambiguous_run hplanned hs hnames houter hframe hunique).ne_ambiguousField
    path candidates

/-- Tables `a` and `b` of one column `k` each. -/
def twoTables : Session where
  catalog := ⟨[(⟨"p", "d", "a"⟩, ⟨["k"], [⟨[.integer 1, .integer 2], some .integer⟩], 2⟩),
    (⟨"p", "d", "b"⟩, ⟨["k"], [⟨[.integer 7], some .integer⟩], 1⟩)]⟩
  now := newYear

/-- `SELECT … FROM a CROSS JOIN b GROUP BY a.k`. -/
def overBoth (fields : List (SelectField Select)) : SelectOf Select Source :=
  let item := fun (name : String) (hname : name ≠ "") =>
    (⟨.table ⟨[name], by simp, List.forall_mem_singleton.mpr hname⟩, none⟩ : FromItem Query)
  ⟨false, fields, some ⟨item "a" (by decide), [⟨.cross, item "b" (by decide), .none⟩]⟩, none,
    [.field ["a", "k"]], none⟩

/-- `SELECT a.k AS key, COUNT(b.k) AS n FROM a CROSS JOIN b GROUP BY a.k`. -/
def countOfBoth : SelectOf Select Source :=
  overBoth [.one ⟨.field ["a", "k"], some "key", some 1⟩,
    .one ⟨.call (.count false) [.field ["b", "k"]], some "n", some 2⟩]

/-- `SELECT a.k FROM a CROSS JOIN b GROUP BY a.k`. -/
def keyOfBoth : SelectOf Select Source := overBoth [.one ⟨.field ["a", "k"], none, some 1⟩]

/-- Both tables have unique columns, so FROM is qualified. -/
theorem overBoth_source (fields : List (SelectField Select)) :
    ∀ source, (overBoth fields).source = some source → source.Qualified twoTables := by
  intro source hsource
  obtain rfl := Option.some.inj hsource
  refine ⟨trivial, fun f hf => ?_⟩
  obtain rfl := Except.ok.inj hf
  refine ⟨List.pairwise_singleton .., trivial, fun g hg => ?_⟩
  obtain rfl := Except.ok.inj hg
  exact ⟨by decide, trivial, fun _ _ => trivial⟩

theorem plan_qualified_aliases :
    (countOfBoth.groupBy ≠ [] ∧
      (∀ source, countOfBoth.source = some source → source.Qualified twoTables) ∧
      (countOfBoth.planned twoTables).Qualified ∧ (∀ f ∈ ([] : List Frame), f.UniqueColumns) ∧
      (countOfBoth.planned twoTables).NamesClear twoTables.now []) ∧
    (Select.mk countOfBoth).plan twoTables [] ≠ .error (.ambiguousField ["k"] ["a.k", "b.k"]) := by
  have hkeys : countOfBoth.groupBy ≠ [] := List.cons_ne_nil _ _
  have hqualified : (countOfBoth.planned twoTables).Qualified := by
    refine ⟨fun f selectors hf hselectors x hx => ?fields, nofun, fun path hpath => ?keys, nofun⟩
    case fields =>
      obtain rfl := Except.ok.inj hf
      obtain rfl := Except.ok.inj hselectors
      rcases List.mem_pair.mp hx with rfl | rfl
      · exact Expr.qualified_field "a" "k"
      · exact .intro ⟨nofun, nofun⟩ (List.forall_mem_singleton.mpr (Expr.qualified_field "b" "k"))
    case keys =>
      exact ⟨"a", "k", Expr.field.inj (List.mem_singleton.mp hpath)⟩
  have hnames : (countOfBoth.planned twoTables).NamesClear twoTables.now [] := by
    intro scope selectors hscope hselectors x hx
    obtain rfl := Except.ok.inj hscope
    obtain rfl := Except.ok.inj hselectors
    have hfield : ∀ {p : String → Prop} (path : List String),
        (Expr.field path : Expr Plan).Named p := fun path => .leaf nofun rfl
    rcases List.mem_pair.mp hx with rfl | rfl
    · exact Grouping.named_toExpr rfl trivial (hfield _)
    · exact Grouping.named_toExpr rfl trivial <|
        .intro nofun (List.forall_mem_singleton.mpr (hfield _))
  exact ⟨⟨hkeys, overBoth_source _, hqualified, by simp, hnames⟩,
    plan_qualified hkeys (overBoth_source _) hqualified (by simp) hnames _ _⟩

/-- The name that a field of two parts infers is its last part, which other tables may have. -/
theorem inferred_name_ambiguous :
    (∃ f, (keyOfBoth.planned twoTables).fromFrame = .ok f ∧ f.UniqueColumns ∧
      Scope.tryResolve ⟨f, []⟩ ["a", "k"] = .ok (some "a.k")) ∧
    (keyOfBoth.planned twoTables).Qualified ∧
    (Select.mk keyOfBoth).plan twoTables [] = .error (.ambiguousField ["k"] ["a.k", "b.k"]) := by
  refine ⟨⟨_, rfl, by decide, rfl⟩, ?_, rfl⟩
  refine ⟨fun f selectors hf hselectors x hx => ?fields, nofun, fun path hpath => ?keys, nofun⟩
  case fields =>
    obtain rfl := Except.ok.inj hf
    obtain rfl := Except.ok.inj hselectors
    obtain rfl := List.mem_singleton.mp hx
    exact Expr.qualified_field "a" "k"
  case keys =>
    exact ⟨"a", "k", Expr.field.inj (List.mem_singleton.mp hpath)⟩

end Select

end ColumnarSql
