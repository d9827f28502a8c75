import ColumnarSql.Proofs.DataIndependence
import ColumnarSql.Proofs.EvaluationTasks

/-!
# Index bounds

No evaluation over rectangular tables reads a column outside of its rows (`Query.tasks_in_bounds`).
Tasks of sound frames ask for tasks of sound frames (`Asks.sound`), so all tasks of a query are
such (`Query.sound_of_asked`). The scopes they make then have sound frames too (`Task.Makes.sound`),
and columns are read only at rows that they have (`Task.Reads.inBounds`).
-/

set_option autoImplicit false

namespace ColumnarSql

variable {env : Session}

/-! ## Rows of columns -/

theorem Frame.Uniform.data {f : Frame} (h : f.Uniform) : ∀ c ∈ f.data, c.length = f.numRows :=
  List.forall_mem_map.mpr h

/-- The rows of a mask are within the mask. -/
theorem lt_of_mem_rowsOf {mask : List Bool} {i : Nat} (hi : i ∈ rowsOf mask) : i < mask.length :=
  List.mem_range.mp (List.mem_of_mem_filter hi)

/-- The rows of a sorted table are rows of the table. -/
theorem Sorting.lt_of_mem_rowOrder {keys : List (Column × SortOrder)} {n i : Nat}
    (hi : i ∈ rowOrder keys n) : i < n :=
  List.mem_range.mp ((perm_rowOrder keys n).mem_iff.mp hi)

/-! ## Scopes -/

/-- The frames around the SELECT of an EXISTS: a row of the scope, then those around the scope. -/
theorem Scope.sound_row {s : Scope} (h : ∀ f ∈ s.frames, f.Sound) (i : Nat) :
    ∀ f ∈ s.frame.row i :: s.outer, f.Sound :=
  List.forall_mem_cons.mpr ⟨(Frame.plain_take _ _).sound, (List.forall_mem_cons.mp h).2⟩

/-- A reducing scope is sound where its frames are. -/
theorem Scope.sound_reducing {s : Scope} (h : ∀ f ∈ s.frames, f.Sound) :
    ∀ f ∈ s.reducing.frames, f.Sound :=
  fun f hf => h f (frames_reducingFrom s.frame s.outer hf)

/-- A plain frame alone is sound. -/
theorem Scope.sound_of_plain {f : Frame} (h : f.Plain) :
    ∀ g ∈ (⟨f, []⟩ : Scope).frames, g.Sound :=
  List.forall_mem_singleton.mpr h.sound

/-! ## FROM -/

/-- An item of FROM has rows as its table says, and no groups. -/
theorem Join.plain_itemFrame (henv : env.catalog.Rectangular) {q : Query} {label : Option String}
    {f : Frame} (h : itemFrame ⟨q.run env, label⟩ = .ok f) : f.Plain := by
  obtain ⟨p, hp, h⟩ := bind_eq_ok.mp h
  obtain rfl := pure_eq_ok.mp h
  exact Frame.plain_ofTable (Query.rectangular_run henv hp) _

namespace SourceOf

variable {src : Source} {j : JoinOf Select Query} {f g : Frame}

/-- So has what the joins up to any of them make. -/
theorem plain_joined (henv : env.catalog.Rectangular) {k : Nat} (h : src.joined env k = .ok f) :
    f.Plain :=
  Join.plain_sourceFrame (fun _ hp => Query.rectangular_run henv hp) h

/-- Both sides of a join are plain. -/
theorem Sides.plain (henv : env.catalog.Rectangular) (h : src.Sides env j f g) :
    f.Plain ∧ g.Plain := by
  obtain ⟨k, -, hf⟩ := h.left
  exact ⟨plain_joined henv hf, Join.plain_itemFrame henv h.right⟩

theorem Makes.plain (henv : env.catalog.Rectangular) (h : src.Makes env f) : f.Plain := by
  cases h with
  | item _ h => exact Join.plain_itemFrame henv h
  | paired _ _ => exact Join.plain_combine _ _ _
  | joined h => exact plain_joined henv h

/-- The pairs of a join are rows of both sides. -/
theorem Pairs.lt {pairs : List Join.RowPair} (h : Pairs env j f g pairs) :
    ∀ p ∈ pairs, p.1 < f.numRows ∧ ∀ i, p.2 = some i → i < g.numRows := by
  cases h with
  | product =>
    refine List.forall_mem_map.mpr fun p hp => ⟨(Join.mem_product.mp hp).1, fun i hi => ?_⟩
    obtain rfl := Option.some.inj hi
    exact (Join.mem_product.mp hp).2
  | on _ h =>
    obtain ⟨hlength, hrows⟩ := Join.onMatches_inRange h
    exact fun p hp => hlength ▸ Join.lt_of_mem_pairsOf hrows hp
  | «using» _ h =>
    obtain ⟨hlength, hrows⟩ := Join.usingMatches_inRange h
    exact fun p hp => hlength ▸ Join.lt_of_mem_pairsOf hrows hp

/-- FROM reads rows within its tables. -/
theorem Reads.inBounds (henv : env.catalog.Rectangular) {r : Reading} (h : src.Reads env r) :
    r.InBounds := by
  cases h with
  | left h hpairs hc =>
    refine .of_length Column.readsOnly_take ((h.plain henv).1.uniform.data _ hc) ?_
    exact List.forall_mem_map.mpr fun p hp => (hpairs.lt p hp).1
  | right h hpairs hc =>
    refine .of_length Column.readsOnly_takePadded
      ((h.plain henv).2.uniform.data _ hc) fun i hi => ?_
    obtain ⟨right, hright, rfl⟩ := List.mem_filterMap.mp hi
    obtain ⟨p, hp, hpi⟩ := List.mem_map.mp hright
    exact (hpairs.lt p hp).2 i hpi
  | leftKey h hcolumns =>
    obtain ⟨hf, hg⟩ := h.plain henv
    have hlengths := Join.length_usingColumns hf.uniform hg.uniform hcolumns
    exact .of_length Join.readsOnly_foundRows_left
      (hlengths _ List.mem_append_cons_self).1 fun i => List.mem_range.mp
  | rightKey h hcolumns =>
    obtain ⟨hf, hg⟩ := h.plain henv
    have hlengths := Join.length_usingColumns hf.uniform hg.uniform hcolumns
    exact .of_length Join.readsOnly_foundRows_right
      (hlengths _ List.mem_append_cons_self).2 fun i => List.mem_range.mp

end SourceOf

/-! ## SELECT -/

namespace SelectOf

variable {q : SelectOf Select Source} {outer : List Frame}

theorem From.plain (henv : env.catalog.Rectangular) {f : Frame} (h : q.From env f) : f.Plain :=
  kept_by_source (Frame.plain_ofRows 1) (fun _ hf => plain_planSource henv hf) h

/-- A star is expanded in the scope of the plain table of FROM. -/
theorem Expands.plain (henv : env.catalog.Rectangular) {scope : Scope}
    {selectors : List (Selector Plan)} (h : q.Expands env outer scope selectors) :
    scope.outer = outer ∧ scope.frame.Plain :=
  plain_inputScope (fun _ hf => plain_planSource henv hf) h.input

/-- The result has columns of one length. -/
theorem Gives.rectangular {grouped : Scope} {result : Table}
    (h : q.Gives env outer grouped result) : result.Rectangular := by
  obtain ⟨selectors, marked, -, hresult⟩ := h.fields
  obtain ⟨fields, -, hresult⟩ := bind_eq_ok.mp hresult
  exact Table.rectangular_ofColumns hresult

/-- GROUP BY, and a reducing call without it, leave all frames sound. -/
theorem Groups.sound (henv : env.catalog.Rectangular) (houter : ∀ f ∈ outer, f.Sound)
    {selectors : List (Selector Plan)} {grouped : Scope} {marked : List (Expr Plan)}
    (h : q.Groups env outer selectors grouped marked) : ∀ f ∈ grouped.frames, f.Sound := by
  obtain ⟨scope, hexpands, hgroups⟩ := h.input
  obtain ⟨rfl, hplain⟩ := hexpands.plain henv
  rcases groupedFields_eq_ok_iff.mp hgroups with ⟨-, -, rfl⟩ | ⟨-, G, hG, rfl⟩
  · refine List.forall_mem_cons.mpr ⟨?_, houter⟩
    dsimp only
    split
    · exact hplain.sound.groupAll
    · exact hplain.sound
  · obtain ⟨g, paths, columns, hkeyed, -, rfl, -⟩ := Grouping.groupBy_eq_ok hG
    have hkeys := hkeyed.extends.sound hplain.sound
    exact List.forall_mem_cons.mpr ⟨Grouping.sound_grouped hkeys.uniform paths columns, houter⟩

/-- Every scope of a query is sound, if the enclosing ones are. -/
theorem Makes.sound (henv : env.catalog.Rectangular) (houter : ∀ f ∈ outer, f.Sound) {s : Scope}
    (h : q.Makes env outer s) : ∀ f ∈ s.frames, f.Sound := by
  cases h with
  | source h => exact List.forall_mem_cons.mpr ⟨(h.plain henv).sound, houter⟩
  | input h =>
    obtain ⟨rfl, hplain⟩ := plain_inputScope (fun _ hf => plain_planSource henv hf) h
    exact List.forall_mem_cons.mpr ⟨hplain.sound, houter⟩
  | keyed h hg =>
    obtain ⟨rfl, hplain⟩ := h.plain henv
    exact List.forall_mem_cons.mpr ⟨hg.extends.sound hplain.sound, houter⟩
  | split h hg _ =>
    obtain ⟨rfl, hplain⟩ := h.plain henv
    have hkeys := hg.extends.sound hplain.sound
    exact List.forall_mem_cons.mpr ⟨Grouping.sound_grouped hkeys.uniform _ _, houter⟩
  | grouped h => exact h.sound henv houter
  | having h =>
    obtain ⟨selectors, marked, hgroups, -⟩ := h.fields
    exact List.forall_mem_cons.mpr
      ⟨sound_havingFrame h.rectangular _, hgroups.sound henv houter⟩

/-- The scopes of the clauses are among those made. -/
theorem Evaluates.makes {e : Expr Plan} {s : Scope} (h : q.Evaluates env outer e s) :
    q.Makes env outer s := by
  cases h with
  | condition h _ => exact .source h
  | key h hg _ => exact .keyed h hg
  | field h _ => exact .grouped h
  | having h _ _ => exact .having h

/-- The clauses of a query read rows within the columns of their scopes. -/
theorem Reads.inBounds (henv : env.catalog.Rectangular) {r : Reading}
    (h : q.Reads env outer r) : r.InBounds := by
  cases h with
  | source _ h => exact h.inBounds henv
  | condition h _ _ hmask hc =>
    exact .of_length Column.readsOnly_take ((h.plain henv).uniform.data _ hc)
      fun i hi => Evaluated.length_truthMask hmask ▸ lt_of_mem_rowsOf hi
  | keys h hg hcolumns =>
    obtain ⟨-, hplain⟩ := h.plain henv
    obtain ⟨p, -, hp⟩ := exists_of_mem_mapM hcolumns List.mem_append_cons_self
    exact .of_length Grouping.readsOnly_groupsOf
      ((hg.extends.sound hplain.sound).uniform.length_column hp) fun i => List.mem_range.mp
  | having h hmask hc =>
    exact .of_length Column.readsOnly_take (h.rectangular _ hc)
      fun i hi => Evaluated.length_truthMask hmask ▸ lt_of_mem_rowsOf hi

end SelectOf

/-! ## Expressions and queries -/

/-- An expression reads rows within the columns of its scope. -/
theorem Expr.Reads.inBounds {now : Moment} {e : Expr Plan} {s : Scope}
    (hs : ∀ f ∈ s.frames, f.Sound) {r : Reading} (h : e.Reads now s r) : r.InBounds := by
  cases h with
  | operand _ hargs hshape f =>
    refine ⟨Evaluated.readsOnly_rowValues, fun i hi => ?_⟩
    exact lt_of_operand (fun f hf => (hs f hf).uniform) hargs hshape List.mem_append_cons_self
      (Shape.hasRow_of_lt (List.mem_range.mp hi))
  | @firsts _ _ level _ groups he =>
    refine ⟨Evaluated.readsOnly_firstOfGroups level groups, fun i hi => ?_⟩
    obtain ⟨g, hg, hi⟩ := List.mem_filterMap.mp hi
    have hmem : i ∈ groups.flatten := List.mem_flatten.mpr ⟨g, hg, List.mem_of_head? hi⟩
    exact (covers_of_eval hs he).lt i hmem
  | members _ he =>
    exact ⟨Evaluated.readsOnly_reduce, (covers_of_eval (Scope.sound_reducing hs) he).lt⟩
  | sortKey horder =>
    exact .of_length Sorting.readsOnly_rowOrder
      (length_evalKeys horder _ List.mem_append_cons_self) fun i => List.mem_range.mp
  | partitionKey hpartition _ =>
    exact .of_length Window.readsOnly_partitions
      (length_evalColumns hpartition _ List.mem_append_cons_self)
      fun i => Sorting.lt_of_mem_rowOrder
  | argument hcolumns _ _ =>
    refine .of_length Window.readsOnly_apply
      (length_evalColumns hcolumns _ List.mem_append_cons_self) fun i hi => ?_
    exact Sorting.lt_of_mem_rowOrder ((Window.perm_partitions _ _).mem_iff.mp hi)
  | inward hc =>
    exact .of_length Column.readsOnly_cell hc (List.forall_mem_singleton.mpr Nat.one_pos)
  | row hi hc =>
    have hframe := hs s.frame List.mem_cons_self
    exact .of_length Column.readsOnly_take (hframe.uniform.data _ hc)
      (List.forall_mem_singleton.mpr hi)

/-- A query reads rows within the columns of its results. -/
theorem Query.Reads.inBounds (henv : env.catalog.Rectangular) {q : Query} {r : Reading}
    (h : q.Reads env r) : r.InBounds := by
  cases h with
  | sortKey h hkeys =>
    have hc := Table.mem_columns_of_keyColumns (hkeys ▸ List.mem_append_cons_self)
    exact .of_length Sorting.readsOnly_rowOrder (rectangular_run henv h _ hc)
      fun i => List.mem_range.mp
  | sorted h hc =>
    exact .of_length Column.readsOnly_take (rectangular_run henv h _ hc)
      fun i => Sorting.lt_of_mem_rowOrder
  | slice h hsorted start count hc hrows =>
    have hrectangular := OrderedOf.kept_by_sorted (fun t rows _ => t.rectangular_take rows)
      (rectangular_run henv h) hsorted
    refine .of_length Column.readsOnly_take (hrectangular _ hc) fun i hi => ?_
    obtain ⟨k, hk, rfl⟩ := List.mem_range'.mp (hrows ▸ hi)
    omega
  | count _ _ hc =>
    exact .of_length Column.readsOnly_cell hc (List.forall_mem_singleton.mpr Nat.one_pos)

/-! ## Tasks -/

/-- The frames that a task is given are sound. -/
def Task.Sound : Task → Prop
  | .expr _ s => ∀ f ∈ s.frames, f.Sound
  | .select _ outer => ∀ f ∈ outer, f.Sound
  | .query _ => True

/-- Sound tasks ask for sound tasks. -/
theorem Asks.sound (henv : env.catalog.Rectangular) {t u : Task} (h : Asks env t u)
    (ht : t.Sound) : u.Sound := by
  cases h with
  | part _ _ => exact ht
  | argument _ _ => exact Scope.sound_reducing ht
  | subquery _ => exact Scope.sound_row ht _
  | on _ _ _ => exact Scope.sound_of_plain (Join.plain_combine _ _ _)
  | clause h => exact h.makes.sound henv ht
  | select => exact fun _ hf => nomatch hf
  | count _ => exact Scope.sound_of_plain (Frame.plain_ofRows 1)
  | item | left | right | base => trivial

/-- Every task that a query asks for, however deep, is sound. -/
theorem Query.sound_of_asked (henv : env.catalog.Rectangular) {q : Query} {t : Task}
    (h : Relation.ReflTransGen (Asks env) (.query q) t) : t.Sound := by
  induction h with
  | refl => trivial
  | tail _ hstep ih => exact hstep.sound henv ih

namespace Task

/-- The scopes that a sound task makes have sound frames. -/
theorem Makes.sound (henv : env.catalog.Rectangular) {t : Task} (ht : t.Sound) {s : Scope}
    (h : t.Makes env s) : ∀ f ∈ s.frames, f.Sound := by
  cases h with
  | given => exact ht
  | reducing => exact Scope.sound_reducing ht
  | row => exact Scope.sound_row ht _
  | source _ h => exact Scope.sound_of_plain (h.plain henv)
  | clause h => exact h.sound henv ht
  | base h => exact Scope.sound_of_plain (Frame.plain_ofTable (Query.rectangular_run henv h) _)
  | count => exact Scope.sound_of_plain (Frame.plain_ofRows 1)

/-- A sound task reads columns only at rows that they have. -/
theorem Reads.inBounds (henv : env.catalog.Rectangular) {t : Task} (ht : t.Sound) {r : Reading}
    (h : t.Reads env r) : r.InBounds := by
  cases t with
  | expr e s => exact Expr.Reads.inBounds ht h
  | select q outer => exact SelectOf.Reads.inBounds henv h
  | query q => exact Query.Reads.inBounds henv h

end Task

/-! ## Queries -/

namespace Query

/-- All frames in the evaluation of a query over rectangular tables are sound, and ungrouped rows
are those that their groups list. Where a column is read, it has the rows that are read, and what
is computed depends on no others. -/
theorem tasks_in_bounds (henv : env.catalog.Rectangular) {q : Query} {t : Task}
    (h : Relation.ReflTransGen (Asks env) (.query q) t) :
    (∀ s, t.Makes env s → ∀ f ∈ s.frames, f.Sound) ∧
      (∀ e s level c groups, t = .expr e s → e.eval env.now s = .ok (.grouped level c groups) →
        groups.Covers c.length) ∧
      ∀ r, t.Reads env r → ReadsOnly r.rows r.compute ∧ ∀ i ∈ r.rows, i < r.column.length := by
  have hsound := sound_of_asked henv h
  refine ⟨fun s hs => hs.sound henv hsound, fun e s level c groups ht heval => ?_, fun r hr => ?_⟩
  · subst ht
    exact Expr.covers_of_eval hsound heval
  · have hbounds := hr.inBounds henv hsound
    exact ⟨hbounds.only, hbounds.lt⟩

/-- Three items, two of them equal. -/
def threeItems : Session := ⟨integersOf [.integer 1, .integer 1, .integer 2], newYear⟩

def itemColumn : Column := ⟨[.integer 1, .integer 1, .integer 2], some .integer⟩

/-- The items in groups of equal ones. -/
def groupedItems : Scope where
  frame := ⟨[⟨some "items", "a", itemColumn⟩], 3, ["items.a"], some [[0, 1], [2]], false⟩
  outer := []

theorem tasks_in_bounds_of_counts :
    threeItems.catalog.Rectangular ∧
    Relation.ReflTransGen (Asks threeItems) (.query countOfEach)
      (.expr (.call (.count false) [.field ["a"]]) groupedItems) ∧
    (∀ f ∈ groupedItems.frames, f.Sound) ∧
    Partition.Covers [[0, 1], [2]] itemColumn.length ∧
    ∀ i ∈ [0, 1, 2], i < itemColumn.length := by
  have hcatalog : threeItems.catalog.Rectangular :=
    List.forall_mem_singleton.mpr (List.forall_mem_singleton.mpr rfl)
  have hcall : Relation.ReflTransGen (Asks threeItems) (.query countOfEach)
      (.expr (.call (.count false) [.field ["a"]]) groupedItems) := by
    -- From the SELECT to its second field in the grouped scope, and to the call in it.
    have hselect : Relation.ReflTransGen (Asks threeItems) (.query countOfEach) _ := .single .select
    exact (hselect.tail (.clause (.field ⟨⟨_, ⟨rfl, rfl⟩, rfl⟩⟩
      (List.mem_cons_of_mem _ List.mem_cons_self)))).tail (.part rfl List.mem_cons_self)
  have hfield : Relation.ReflTransGen (Asks threeItems) (.query countOfEach)
      (.expr (.field ["a"]) groupedItems) := hcall.tail (.argument rfl List.mem_cons_self)
  have heval : (Expr.field ["a"]).eval newYear groupedItems =
      .ok (.grouped 0 itemColumn [[0, 1], [2]]) := rfl
  obtain ⟨hframes, -, hreads⟩ := tasks_in_bounds hcatalog hcall
  obtain ⟨-, hcovers, -⟩ := tasks_in_bounds hcatalog hfield
  exact ⟨hcatalog, hcall, hframes _ .given, hcovers _ _ _ _ _ rfl heval,
    (hreads _ (.members rfl heval)).2⟩

end Query

end ColumnarSql
