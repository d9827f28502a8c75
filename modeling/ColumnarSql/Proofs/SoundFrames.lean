import ColumnarSql.Proofs.GroupKeys
import ColumnarSql.Proofs.Masks
import ColumnarSql.Proofs.Planning
import ColumnarSql.Proofs.ReadRows
import ColumnarSql.Proofs.ResultShapes
import ColumnarSql.Proofs.SemiJoin

/-!
# Sound frames

A frame is sound when each column has its number of rows and its groups list every row once
(`Frame.Sound`). Grouping, further columns and a table of fields leave frames sound, and ungrouped
rows of sound frames are all the rows that their groups list (`Expr.covers_of_eval`). The operands
of an operation have the rows that it maps over (`Expr.lt_of_operand`), the input columns of windows
have the rows of the frame, and the pairs of a join are rows of its sides.
-/

set_option autoImplicit false

namespace ColumnarSql

/-! ## Groups of all rows -/

/-- The groups list every one of so many rows exactly once. -/
def Partition.Covers (groups : Partition) (n : Nat) : Prop := groups.flatten.Perm (List.range n)

theorem Partition.Covers.lt {groups : Partition} {n : Nat} (h : groups.Covers n) :
    ∀ i ∈ groups.flatten, i < n :=
  fun _ hi => List.mem_range.mp (h.mem_iff.mp hi)

namespace Frame

/-- The columns without their names. -/
def data (f : Frame) : List Column := f.columns.map (·.column)

/-- Columns of the frame's number of rows, and groups that list each row once. -/
structure Sound (f : Frame) : Prop where
  uniform : f.Uniform
  covers : ∀ groups, f.groups = some groups → Partition.Covers groups f.numRows

theorem Plain.sound {f : Frame} (h : f.Plain) : f.Sound :=
  ⟨h.uniform, fun groups hgroups => by simp [h.ungrouped] at hgroups⟩

theorem plain_take (f : Frame) (rows : List Nat) : (f.take rows).Plain := by
  refine ⟨fun c hc => ?_, rfl⟩
  obtain ⟨d, -, rfl⟩ := List.mem_map.mp hc
  exact Column.length_take d.column rows

theorem Sound.groupAll {f : Frame} (h : f.Sound) : f.groupAll.Sound where
  uniform := h.uniform
  covers groups hgroups := by
    obtain rfl := Option.some.inj hgroups
    simp [Partition.Covers, Frame.groupAll]

/-- More columns of as many rows leave a frame sound. -/
theorem Extends.sound {outer : List Frame} {f g : Frame} (h : f.Extends outer g) (hf : f.Sound) :
    g.Sound where
  uniform := h.uniform hf.uniform
  covers groups hgroups := by
    rw [h.numRows_eq]
    exact hf.covers groups (h.groups_eq ▸ hgroups)

theorem Uniform.length_column {f : Frame} (hf : f.Uniform) {path : List String} {c : Column}
    (h : f.column path = .ok c) : c.length = f.numRows := by
  obtain ⟨d, hd, rfl⟩ := column_eq_ok.mp h
  exact hf d (mem_of_find hd).1

end Frame

theorem Grouping.sound_grouped {g : Frame} (h : g.Uniform) (paths : List String)
    (columns : List Column) : (grouped g paths columns).Sound where
  uniform := h
  covers groups hgroups := by
    obtain rfl := Option.some.inj hgroups
    exact perm_groupsOf columns g.numRows

theorem SelectOf.sound_havingFrame {result : Table} (h : result.Rectangular) (grouped : Scope) :
    (havingScope result grouped).frame.Sound :=
  Frame.Plain.sound ⟨(Frame.plain_ofTable h none).uniform, rfl⟩

/-! ## Ungrouped rows -/

/-- Ungrouped rows are all the rows that their groups list. -/
theorem Expr.covers_of_eval {now : Moment} {s : Scope} (hs : ∀ f ∈ s.frames, f.Sound)
    {e : Expr Plan} {level : Nat} {c : Column} {groups : Partition}
    (h : e.eval now s = .ok (.grouped level c groups)) : groups.Covers c.length := by
  obtain ⟨f, hf, hgroups, hlength⟩ := eval_ofFrames (fun f hf => (hs f hf).uniform) e h
  have hsound := hs f (List.mem_of_getElem? hf)
  exact hlength ▸ hsound.covers groups hgroups

/-! ## Rows of operands -/

namespace Shape

/-- How many rows are mapped over; a constant is computed once. -/
def numRows : Shape → Nat
  | constant => 1
  | rows n | grouped _ n _ => n

theorem hasRow_of_lt {s : Shape} {i : Nat} (hi : i < s.numRows) : s.HasRow i := by
  cases s with
  | constant => trivial
  | rows n | grouped level n groups => exact hi

/-- The rows of a common shape are rows of all that is joined. -/
theorem HasRow.of_joinAll? {rows : Nat → Nat} {i : Nat} : ∀ {ss : List Shape} {u : Shape},
    (∀ s ∈ ss, s.Spans rows) → joinAll? ss = some u → u.HasRow i → ∀ s ∈ ss, s.HasRow i
  | [], _, _, _, _ => by simp
  | s :: ss, u, hss, h, hi => by
    obtain ⟨t, ht, h⟩ := Option.bind_eq_some_iff.mp h
    obtain ⟨hs, hss⟩ := List.forall_mem_cons.mp hss
    obtain ⟨hsi, hti⟩ := HasRow.of_join? hs (spans_of_joinAll? hss ht) h hi
    exact List.forall_mem_cons.mpr ⟨hsi, HasRow.of_joinAll? hss ht hti⟩

end Shape

namespace Evaluated

theorem lt_of_hasRow {groups : Option (Nat × Partition)} {c : Column} {i : Nat}
    (hi : (inGroups groups c).shape.HasRow i) : i < c.length := by
  cases groups <;> exact hi

theorem length_windowColumn {σ : Type} {call : Expr σ} {n : Nat} {a : Evaluated} {c : Column}
    (h : a.windowColumn call n = .ok c) : c.length = n := by
  cases a with
  | grouped level d groups => simp [windowColumn] at h
  | constant v t =>
    have hcolumn : toColumn n (constant v t) = .ok c := h
    exact (length_toColumn hcolumn).1
  | column d =>
    have hcolumn : toColumn n (column d) = .ok c := h
    exact (length_toColumn hcolumn).1

end Evaluated

namespace Expr

variable {now : Moment} {s : Scope}

/-- Every column among the operands of an operation has the rows that it maps over. -/
theorem lt_of_operand (hs : ∀ f ∈ s.frames, f.Uniform) {e : Expr Plan} {es : List (Expr Plan)}
    {args : List Evaluated} (hargs : evalAll now es s = .ok args) {t : Shape}
    (ht : Shape.ofOperands e args = .ok t) {groups : Option (Nat × Partition)} {c : Column}
    (hc : Evaluated.inGroups groups c ∈ args) {i : Nat} (hi : t.HasRow i) : i < c.length := by
  have hspans : ∀ u ∈ args.map Evaluated.shape, u.Spans (rowsAt s.frames) := by
    rw [List.forall_mem_map]
    intro b hb
    rw [evalAll_eq_mapM] at hargs
    obtain ⟨d, -, hd⟩ := exists_of_mem_mapM hargs hb
    exact eval_spans hs d hd
  have hrow := Shape.HasRow.of_joinAll? hspans (Shape.ofOperands_eq_ok_iff.mp ht) hi
  exact Evaluated.lt_of_hasRow (hrow _ (List.mem_map_of_mem hc))

theorem length_windowInput {whole e : Expr Plan} {c : Column}
    (h : windowInput now whole e s = .ok c) : c.length = s.frame.numRows := by
  obtain ⟨a, -, hc⟩ := windowInput_eq_ok_iff.mp h
  exact Evaluated.length_windowColumn hc

theorem length_evalColumns {whole : Expr Plan} {es : List (Expr Plan)} {cs : List Column}
    (h : evalColumns now whole es s = .ok cs) : ∀ c ∈ cs, c.length = s.frame.numRows := by
  intro c hc
  rw [evalColumns_eq_mapM] at h
  obtain ⟨e, -, he⟩ := exists_of_mem_mapM h hc
  exact length_windowInput he

theorem length_evalKeys {whole : Expr Plan} {ks : List (Expr Plan × SortOrder)}
    {cs : List (Column × SortOrder)} (h : evalKeys now whole ks s = .ok cs) :
    ∀ c ∈ cs, c.1.length = s.frame.numRows := by
  intro c hc
  rw [evalKeys_eq_mapM] at h
  obtain ⟨k, -, hk⟩ := exists_of_mem_mapM h hc
  obtain ⟨d, hd, hk⟩ := bind_eq_ok.mp hk
  obtain rfl := pure_eq_ok.mp hk
  exact length_windowInput hd

end Expr

/-! ## Rows of windows and joins -/

theorem Window.perm_partitions (keys : List Column) (rows : List Nat) :
    (partitions keys rows).flatten.Perm rows := by
  unfold partitions
  split
  · simp
  · rw [← List.flatMap_def]
    exact Buckets.perm_byAppearance _ _

namespace Join

/-- The left rows of the pairs are rows of the left frame, and so are the right ones of the right
frame, if the matches are. -/
theorem lt_of_mem_pairsOf {kind : JoinKind} {found : List (List Nat)} {n : Nat}
    (h : ∀ rows ∈ found, ∀ j ∈ rows, j < n) {p : RowPair} (hp : p ∈ pairsOf kind found) :
    p.1 < found.length ∧ ∀ j, p.2 = some j → j < n := by
  obtain ⟨⟨rows, i⟩, hrows, hp⟩ := List.mem_flatMap.mp hp
  obtain ⟨-, hi, hmem⟩ := List.mem_zipIdx hrows
  rw [Nat.zero_add] at hi
  have hrows : rows ∈ found := hmem ▸ List.getElem_mem _
  dsimp only at hp
  split at hp
  · obtain rfl := List.mem_singleton.mp hp
    exact ⟨hi, by simp⟩
  · obtain ⟨j, hj, rfl⟩ := List.mem_map.mp hp
    refine ⟨hi, fun k hk => ?_⟩
    obtain rfl := Option.some.inj hk
    exact h rows hrows j hj

/-- The matches of a condition are right rows, for each left row. -/
theorem onMatches_inRange {now : Moment} {condition : Expr Plan} {f g : Frame}
    {found : List (List Nat)} (h : onMatches now condition f g = .ok found) :
    found.length = f.numRows ∧ ∀ rows ∈ found, ∀ j ∈ rows, j < g.numRows := by
  simp only [onMatches, bind_eq_ok, pure_eq_ok] at h
  obtain ⟨a, -, mask, -, rfl⟩ := h
  refine ⟨by simp, ?_⟩
  rw [List.forall_mem_map]
  intro i _ j hj
  obtain ⟨p, hp, rfl⟩ := List.mem_map.mp hj
  have hkept := Column.mem_of_mem_keep (List.mem_of_mem_filter hp)
  exact (mem_product.mp hkept).2

theorem usingMatches_inRange {f g : Frame} {names : List String} {found : List (List Nat)}
    (h : usingMatches f g names = .ok found) :
    found.length = f.numRows ∧ ∀ rows ∈ found, ∀ j ∈ rows, j < g.numRows := by
  obtain ⟨columns, hcolumns, -⟩ := bind_eq_ok.mp h
  rw [usingMatches_eq_foundRows hcolumns, Except.ok.injEq] at h
  subst h
  refine ⟨by simp [foundRows], ?_⟩
  rw [foundRows, List.forall_mem_map]
  intro i _ j hj
  split at hj
  · have hpresent := Buckets.mem_of_find hj
    exact List.mem_range.mp (List.mem_of_mem_filter hpresent)
  · cases hj

theorem length_usingColumns {f g : Frame} (hf : f.Uniform) (hg : g.Uniform) {names : List String}
    {columns : List (Column × Column)} (h : usingColumns f g names = .ok columns) :
    ∀ c ∈ columns, c.1.length = f.numRows ∧ c.2.length = g.numRows := by
  intro c hc
  have hall := usingColumns_eq_ok.mp h
  obtain ⟨i, hi, rfl⟩ := List.getElem_of_mem hc
  obtain ⟨hl, hr⟩ := hall.get (hall.length_eq ▸ hi) hi
  exact ⟨hf.length_column hl, hg.length_column hr⟩

end Join

end ColumnarSql
