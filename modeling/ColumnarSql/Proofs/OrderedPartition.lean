import Mathlib.Data.List.TakeWhile
import ColumnarSql.Proofs.KeyAgreement
import ColumnarSql.Proofs.QueryTypes
import ColumnarSql.Proofs.WindowGroups

/-!
# GROUP BY as a partition in the order of the keys

The groups of typed key columns are the classes of rows with equal keys, in ascending order of
the keys (`Grouping.keyOrdered_groupsOf`). What stands behind a key is a column that its path
names, or a selected expression whose values join the frame (`Grouping.KeyColumn`); the keys
are read one after the other, each in the frame that the ones before it left, and a growing
frame keeps the meaning of every path (`Frame.Extends.canonical`). So every GROUP BY that is
accepted partitions the rows by the columns behind its keys (`Grouping.groupBy_partitions`).
-/

set_option autoImplicit false

namespace ColumnarSql

/-! ## Buckets in the order of their keys -/

namespace Buckets

variable {key : Nat → List Value} {rows : List Nat} {bs : List Bucket}

/-- Rows have equal keys if they are in one bucket. -/
theorem Classifies.same_bucket_iff (h : Classifies key rows bs) (halike : AlikeKeys key rows)
    {i j : Nat} (hi : i ∈ rows) (hj : j ∈ rows) :
    (∃ g ∈ bs.map Bucket.rows, i ∈ g ∧ j ∈ g) ↔ Value.compareItems (key i) (key j) = .eq := by
  constructor
  · rintro ⟨g, hg, hig, hjg⟩
    obtain ⟨b, hb, rfl⟩ := List.mem_map.mp hg
    obtain ⟨k, hk, -, hrows⟩ := h.classes b hb
    obtain ⟨-, hik⟩ := mem_classOf.mp (hrows ▸ hig)
    obtain ⟨-, hjk⟩ := mem_classOf.mp (hrows ▸ hjg)
    rw [Value.compareItems_congr_left (halike i hi k hk) hik]
    exact compareItems_eq_comm hjk
  · intro heq
    obtain ⟨b, hb, hrows, -⟩ := h.exists_mem halike hi
    refine ⟨b.rows, List.mem_map_of_mem hb, ?_⟩
    rw [hrows]
    exact ⟨mem_classOf_self hi, mem_classOf.mpr ⟨hj, compareItems_eq_comm heq⟩⟩

/-- The keys of all rows of a bucket compare as the key of the bucket does. -/
theorem Classifies.lt_of_keys_lt (h : Classifies key rows bs) (halike : AlikeKeys key rows)
    {b c : Bucket} (hb : b ∈ bs) (hc : c ∈ bs) (hlt : Value.compareItems b.key c.key = .lt)
    {i j : Nat} (hi : i ∈ b.rows) (hj : j ∈ c.rows) :
    Value.compareItems (key i) (key j) = .lt := by
  obtain ⟨k, hk, hbkey, hbrows⟩ := h.classes b hb
  obtain ⟨l, hl, hckey, hcrows⟩ := h.classes c hc
  obtain ⟨hi, hik⟩ := mem_classOf.mp (hbrows ▸ hi)
  obtain ⟨hj, hjl⟩ := mem_classOf.mp (hcrows ▸ hj)
  rw [Value.compareItems_congr_left (halike i hi k hk) hik,
    Value.compareItems_congr _ _ _ (halike j hj l hl) hjl, ← hbkey, ← hckey]
  exact hlt

end Buckets

/-! ## The partition -/

namespace Grouping

variable {columns : List Column} {n : Nat}

/-- A partition of the rows `0, …, n - 1` by the values of columns, in ascending order of
these. -/
structure KeyOrdered (columns : List Column) (n : Nat) (gs : Partition) : Prop where
  /-- Every row is in exactly one group, once. -/
  covers : gs.flatten.Perm (List.range n)
  rows_ascend : ∀ g ∈ gs, g.Pairwise (· < ·)
  nonempty : ∀ g ∈ gs, g ≠ []
  same_group : ∀ i < n, ∀ j < n,
    (∃ g ∈ gs, i ∈ g ∧ j ∈ g) ↔ ∀ c ∈ columns, c.cell i == c.cell j
  keys_ascend : gs.Pairwise fun g h => ∀ i ∈ g, ∀ j ∈ h,
    Value.compareItems (columns.map (·.cell i)) (columns.map (·.cell j)) = .lt

/-- Columns in which no integer meets a double are partitioned in the order of their values. -/
theorem keyOrdered_groupsOf
    (halike : Buckets.AlikeKeys (fun i => columns.map (·.cell i)) (List.range n)) :
    KeyOrdered columns n (groupsOf columns n) := by
  obtain ⟨hclass, hascend⟩ := Buckets.byOrder_spec halike
  have hgroup : ∀ g ∈ groupsOf columns n, ∃ i ∈ List.range n,
      g = Buckets.classOf (fun i => columns.map (·.cell i)) (List.range n) i := by
    intro g hg
    obtain ⟨b, hb, rfl⟩ := List.mem_map.mp hg
    obtain ⟨i, hi, -, hrows⟩ := hclass.classes b hb
    exact ⟨i, hi, hrows⟩
  refine ⟨perm_groupsOf columns n, fun g hg => ?_, fun g hg => ?_, fun i hi j hj => ?_, ?_⟩
  · obtain ⟨i, -, rfl⟩ := hgroup g hg
    exact List.pairwise_lt_range.filter _
  · obtain ⟨i, hi, rfl⟩ := hgroup g hg
    exact List.ne_nil_of_mem (Buckets.mem_classOf_self hi)
  · refine (hclass.same_bucket_iff halike (List.mem_range.mpr hi) (List.mem_range.mpr hj)).trans ?_
    rw [Value.compareItems_map_eq]
    exact forall₂_congr fun c _ => Ordering.isEq_iff_eq_eq.symm
  · exact List.pairwise_map.mpr <| (List.pairwise_map.mp hascend).imp_of_mem
      fun hb hc hlt _ hi _ hj => hclass.lt_of_keys_lt halike hb hc hlt hi hj

end Grouping

/-! ## The paths of keys -/

theorem Text.splitFirst_ne_singleton {s : String} (h : '.' ∈ s.toList) (t : String) :
    splitFirst s ≠ [t] := by
  intro hsplit
  simp only [splitFirst] at hsplit
  split at hsplit
  · next hdrop =>
    have hnone := List.dropWhile_eq_nil_iff.mp hdrop '.' h
    simp at hnone
  · simp at hsplit

theorem Scope.exists_of_tryResolveIn {path : List String} {p : String} :
    ∀ {fs : List Frame}, tryResolveIn fs path = .ok (some p) →
      ∃ f ∈ fs, ∃ c ∈ f.columns, c.answers path ∧ c.path = p
  | [], h => by simp [tryResolveIn] at h
  | f :: fs, h => by
    obtain ⟨c?, hc, h⟩ := bind_eq_ok.mp h
    cases c? with
    | some c =>
      obtain ⟨hmem, hanswers⟩ := Frame.mem_of_find hc
      exact ⟨f, List.mem_cons_self, c, hmem, hanswers, by simpa using h⟩
    | none =>
      obtain ⟨g, hg, h⟩ := exists_of_tryResolveIn h
      exact ⟨g, List.mem_cons_of_mem f hg, h⟩

namespace Frame

variable {f g : Frame} {outer : List Frame} {path : List String} {p : String}

/-- The canonical path of a written path: that of the column it names here or further out, and
else, of a name alone, the name itself. -/
def Canonical (f : Frame) (outer : List Frame) (path : List String) (p : String) : Prop :=
  Scope.tryResolve ⟨f, outer⟩ path = .ok (some p) ∨
    Scope.tryResolve ⟨f, outer⟩ path = .ok none ∧ path = [p]

/-- A path whose canonical path is a name alone is that name. -/
theorem Canonical.eq_singleton (h : f.Canonical outer path p) {name : String}
    (hp : Text.splitFirst p = [name]) : path = [p] := by
  rcases h with h | ⟨-, hpath⟩
  · obtain ⟨-, -, c, -, hanswers, rfl⟩ := Scope.exists_of_tryResolveIn h
    cases htable : c.table with
    | none => rw [path_of_answers htable hanswers, ScopeColumn.path, htable, Option.elim_none]
    | some t =>
      refine absurd hp (Text.splitFirst_ne_singleton ?_ name)
      simp [ScopeColumn.path, htable]
  · exact hpath

/-- A path has the canonical path that it has once the frame has grown. -/
theorem Extends.canonical (h : f.Extends outer g) (hp : g.Canonical outer path p) :
    f.Canonical outer path p := by
  by_cases hfree : Scope.tryResolve ⟨f, outer⟩ path = .ok none
  · refine .inr ⟨hfree, ?_⟩
    rcases hp with hp | ⟨-, hpath⟩
    · obtain ⟨hfind, houter⟩ := tryResolve_eq_none_iff.mp hfree
      obtain ⟨c?, hc, hp⟩ := bind_eq_ok.mp hp
      cases c? with
      | none => rw [houter] at hp; cases hp
      | some c =>
        obtain rfl : c.path = p := by simpa using hp
        obtain ⟨added, hcolumns, hadded⟩ := h.columns
        obtain ⟨hmem, hanswers⟩ := mem_of_find hc
        have hnew : c ∈ added := by
          rw [hcolumns, List.mem_append] at hmem
          refine hmem.resolve_left fun hold => ?_
          simp [find_eq_none_iff.mp hfind c hold] at hanswers
        have htable := (hadded c hnew).1
        rw [path_of_answers htable hanswers, ScopeColumn.path, htable, Option.elim_none]
    · exact hpath
  · rw [Canonical, h.tryResolve_eq hfree] at hp
    exact hp

end Frame

/-! ## The columns of keys -/

namespace Grouping

variable {now : Moment} {outer : List Frame} {selectors : List (Selector Plan)} {f g : Frame}

/-- The column that a key stands for: the one that its canonical path names, or the values of
the first selected expression of that name, in a frame that may hold the columns of other
keys. -/
inductive KeyColumn (now : Moment) (outer : List Frame) (selectors : List (Selector Plan))
    (f : Frame) (key : Expr Plan) : Column → Prop where
  | named {path : List String} {p : String} {c : Column}
      (target : keyTarget? selectors key = some path)
      (canonical : f.Canonical outer path p)
      (column : f.column (Text.splitFirst p) = .ok c) : KeyColumn now outer selectors f key c
  | selected {name : String} {k : Frame} {s : Selector Plan} {a : Evaluated} {c : Column}
      (target : keyTarget? selectors key = some [name])
      (free : Scope.tryResolve ⟨f, outer⟩ [name] = .ok none)
      (keyed : Keyed now outer selectors f k)
      (selector : named? selectors name = some s)
      (result : s.expr.eval now ⟨k, outer⟩ = .ok a)
      (column : a.toColumn f.numRows = .ok c) : KeyColumn now outer selectors f key c

/-- A key that was read has the canonical path of what it stands for. -/
theorem canonical_of_keyOf {key : Expr Plan} {p : String}
    (h : keyOf now outer selectors key f = .ok p g) :
    ∃ path, keyTarget? selectors key = some path ∧ f.Canonical outer path p := by
  obtain ⟨path, htarget, hpath⟩ := keyOf_eq_ok_iff.mp h
  rcases keyPath_eq_ok_iff.mp hpath with ⟨hresolve, -⟩ | ⟨hfree, hname, -⟩
  · exact ⟨path, htarget, .inl hresolve⟩
  · exact ⟨path, htarget, .inr ⟨hfree, hname⟩⟩

theorem canonical_of_keys :
    ∀ {keys : List (Expr Plan)} {k g : Frame} {paths : List String}, f.Extends outer k →
      keys.mapM (keyOf now outer selectors) k = .ok paths g →
      List.Forall₂ (fun key p => ∃ path, keyTarget? selectors key = some path ∧
        f.Canonical outer path p) keys paths
  | [], k, _, paths, _, h => by
    rw [List.mapM_nil, FrameM.pure_eq_ok] at h
    rw [← h.1]
    exact .nil
  | key :: keys, k, _, paths, hk, h => by
    simp only [List.mapM_cons, FrameM.bind_eq_ok, FrameM.pure_eq_ok] at h
    obtain ⟨p, k', hp, ps, g', hps, rfl, rfl⟩ := h
    obtain ⟨path, htarget, hcanonical⟩ := canonical_of_keyOf hp
    exact .cons ⟨path, htarget, hk.canonical hcanonical⟩
      (canonical_of_keys (hk.trans (keyed_of_keyOf hp).extends) hps)

/-- What the path of a key names once all keys are read is the column that it stands for. -/
theorem keyColumn_of_canonical (hg : Keyed now outer selectors f g) {key : Expr Plan}
    {path : List String} {p : String} {c : Column}
    (htarget : keyTarget? selectors key = some path) (hp : f.Canonical outer path p)
    (hc : g.column (Text.splitFirst p) = .ok c) : KeyColumn now outer selectors f key c := by
  obtain ⟨d, hd, rfl⟩ := Frame.column_eq_ok.mp hc
  by_cases hfree : Scope.tryResolve ⟨f, outer⟩ (Text.splitFirst p) = .ok none
  · obtain ⟨hfind, -⟩ := Frame.tryResolve_eq_none_iff.mp hfree
    obtain ⟨added, hcolumns, hadded⟩ := hg.extends.columns
    obtain ⟨hmem, hanswers⟩ := Frame.mem_of_find hd
    have hnew : d ∈ added := by
      rw [hcolumns, List.mem_append] at hmem
      refine hmem.resolve_left fun hold => ?_
      simp [Frame.find_eq_none_iff.mp hfind d hold] at hanswers
    have hsplit := Frame.path_of_answers (hadded d hnew).1 hanswers
    obtain rfl := hp.eq_singleton hsplit
    obtain rfl := Text.eq_of_splitFirst hsplit
    rw [hsplit] at hfree hfind hd
    obtain ⟨k, s, a, hk, -, hselector, hresult, hcolumn⟩ := hg.exists_compute hfind hd
    rw [hk.extends.numRows_eq] at hcolumn
    exact .selected htarget hfree hk hselector hresult hcolumn
  · rw [hg.extends.find_eq_of_resolved hfree] at hd
    exact .named htarget hp (Frame.column_eq_ok.mpr ⟨d, hd, rfl⟩)

/-- An accepted GROUP BY partitions the rows by the columns that its keys stand for, in the
order of their values, if these belong to the types of the columns. -/
theorem groupBy_partitions {keys marked : List (Expr Plan)} {G : Frame}
    (h : groupBy now outer selectors keys f = .ok marked G) :
    ∃ gs columns, G.groups = some gs ∧
      List.Forall₂ (KeyColumn now outer selectors f) keys columns ∧
      ((∀ c ∈ columns, c.Typed) → KeyOrdered columns f.numRows gs) := by
  obtain ⟨paths, g, columns, hkeys, hcolumns, rfl, -⟩ := groupBy_eq_ok_iff.mp h
  have hg := keyed_of_keys hkeys
  refine ⟨_, columns, rfl, ?_, fun htyped => ?_⟩
  · have hpaths := canonical_of_keys (.refl outer f) hkeys
    rw [mapM_eq_ok_iff] at hcolumns
    refine List.forall₂_iff_get.mpr ⟨hpaths.length_eq.trans hcolumns.length_eq, fun i hi hi' => ?_⟩
    obtain ⟨path, htarget, hcanonical⟩ := hpaths.get hi (hpaths.length_eq ▸ hi)
    exact keyColumn_of_canonical hg htarget hcanonical
      (hcolumns.get (hpaths.length_eq ▸ hi) hi')
  · rw [← hg.extends.numRows_eq]
    exact keyOrdered_groupsOf (Window.alikeKeys_of_typed htyped _)

/-- Four rows of a table `t`, one of them without a value. -/
def sparseRows : Frame :=
  { Frame.ofRows 4 with
    columns := [⟨some "t", "a", ⟨[.integer 2, .null, .integer 2, .integer 1], some .integer⟩⟩] }

/-- `SELECT a IS NULL AS missing, a`, grouped by the first field and by `t.a`. -/
theorem groupBy_partitions_sparseRows :
    (∃ marked G, groupBy newYear []
        [⟨.nullCheck false (.field ["a"]), some "missing", some 1⟩, ⟨.field ["a"], none, some 2⟩]
        [.literal ⟨.integer 1, some .integer⟩, .field ["t", "a"]] sparseRows = .ok marked G ∧
      G.groups = some [[3], [0, 2], [1]]) ∧
    KeyOrdered [⟨[.boolean false, .boolean true, .boolean false, .boolean false], some .boolean⟩,
        ⟨[.integer 2, .null, .integer 2, .integer 1], some .integer⟩] 4 [[3], [0, 2], [1]] := by
  have hrun : ∃ marked G, groupBy newYear []
      [⟨.nullCheck false (.field ["a"]), some "missing", some 1⟩, ⟨.field ["a"], none, some 2⟩]
      [.literal ⟨.integer 1, some .integer⟩, .field ["t", "a"]] sparseRows = .ok marked G ∧
      G.groups = some [[3], [0, 2], [1]] := ⟨_, _, rfl, rfl⟩
  refine ⟨hrun, ?_⟩
  obtain ⟨marked, G, hG, hgroups⟩ := hrun
  obtain ⟨gs, columns, hgs, hcolumns, hordered⟩ := groupBy_partitions hG
  obtain rfl := Option.some.inj (hgroups.symm.trans hgs)
  obtain ⟨c, rest, hc, hrest, rfl⟩ := List.forall₂_cons_left_iff.mp hcolumns
  obtain ⟨d, none, hd, hnone, rfl⟩ := List.forall₂_cons_left_iff.mp hrest
  obtain rfl := List.forall₂_nil_left_iff.mp hnone
  have hfree : Scope.tryResolve ⟨sparseRows, []⟩ ["missing"] = .ok none := rfl
  have hfound : Scope.tryResolve ⟨sparseRows, []⟩ ["t", "a"] = .ok (some "t.a") := rfl
  obtain rfl : c = ⟨[.boolean false, .boolean true, .boolean false, .boolean false],
      some .boolean⟩ := by
    cases hc with
    | named target canonical column =>
      obtain rfl := Option.some.inj (target : some ["missing"] = _)
      rcases canonical with hresolve | ⟨-, hpath⟩
      · cases hresolve
      · obtain rfl := List.singleton_inj.mp hpath
        cases column
    | selected target _ keyed selector result column =>
      obtain rfl := List.singleton_inj.mp (Option.some.inj (target : some ["missing"] = _))
      obtain rfl := Option.some.inj selector
      have heval : (Expr.nullCheck false (.field ["a"])).eval newYear
          ⟨sparseRows, []⟩ = .ok (.column ⟨[.boolean false, .boolean true, .boolean false,
            .boolean false], some .boolean⟩) := rfl
      have hdecided : Expr.Every (·.isNameDecided) (.nullCheck false (.field ["a"]) : Expr Plan) :=
        .intro rfl fun e he => by
          obtain rfl := List.mem_singleton.mp he
          exact .leaf rfl rfl
      obtain rfl := Except.ok.inj
        ((Expr.eval_extends keyed.extends hdecided heval).symm.trans result)
      exact (Except.ok.inj column).symm
  obtain rfl : d = ⟨[.integer 2, .null, .integer 2, .integer 1], some .integer⟩ := by
    cases hd with
    | named target canonical column =>
      obtain rfl := Option.some.inj (target : some ["t", "a"] = _)
      rcases canonical with hresolve | ⟨-, hpath⟩
      · obtain rfl := Option.some.inj (Except.ok.inj (hfound.symm.trans hresolve))
        exact (Except.ok.inj column).symm
      · cases hpath
    | selected target => cases target
  exact hordered (by simp [Column.Typed, Value.conforms, Value.scalarType?])

end Grouping

end ColumnarSql
