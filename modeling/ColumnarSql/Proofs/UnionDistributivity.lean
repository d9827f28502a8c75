import ColumnarSql.Proofs.EnclosedSelect
import ColumnarSql.Proofs.UnionAssociativity

/-!
# SELECT distributes over UNION ALL

A SELECT without groups whose expressions need no other row treats its source row by row.
So what it gives for the first rows of its source and for the last ones are the first and
the last rows of what it gives for all of them (`run_first_last`), and it succeeds over all of
them when it succeeds over both (`exists_run_of_parts`). `UNION ALL` of tables with the same
types puts rows together and changes none (`unionAll_first_last`), and so selection and
projection distribute over it (`select_over_unionAll`).
-/

set_option autoImplicit false

namespace ColumnarSql

/-! ## First and last rows -/

namespace Column

/-- The entries kept up to a place and from there on. -/
theorem keep_split {α : Type} : ∀ (n : Nat) (mask : List Bool) (as : List α),
    keep mask as = keep (mask.take n) (as.take n) ++ keep (mask.drop n) (as.drop n)
  | 0, _, _ => by simp [keep]
  | n + 1, [], as => by simp [keep]
  | n + 1, _ :: _, [] => by simp [keep]
  | n + 1, b :: mask, a :: as => by
    have ih := keep_split n mask as
    cases b <;> simp [keep, ih]

end Column

theorem Frame.Plain.outputLength {f : Frame} (h : f.Plain) : f.outputLength = f.numRows := by
  simp [Frame.outputLength, h.ungrouped]

/-- All rows are the first ones and the last ones. -/
theorem Frame.coveredBy_first_last {f : Frame} {n m : Nat} (h : f.numRows = n + m) :
    f.CoveredBy [(List.range n, f.take (List.range n)),
      (List.range' n m, f.take (List.range' n m))] where
  nonempty := by simp
  picks := by
    simp only [List.mem_cons, List.not_mem_nil, or_false, forall_eq_or_imp, forall_eq]
    exact ⟨picks_take fun i hi => by rw [List.mem_range] at hi; omega,
      picks_take fun i hi => by rw [List.mem_range'_1] at hi; omega⟩
  covers i hi := by
    simp only [List.mem_cons, List.not_mem_nil, or_false, exists_eq_or_imp, exists_eq_left,
      List.mem_range, List.mem_range'_1]
    omega

/-- Choosing rows of the first ones is choosing first rows of the chosen ones. -/
theorem Frame.filter_first_last {f : Frame} (hf : f.Uniform) {mask : List Bool}
    (hmask : mask.length = f.numRows) {n m : Nat} (hn : f.numRows = n + m) :
    (f.take (List.range n)).filter (mask.take n) =
        (f.filter mask).take (List.range ((mask.take n).count true)) ∧
      (f.take (List.range' n m)).filter (mask.drop n) =
        (f.filter mask).take
          (List.range' ((mask.take n).count true) ((mask.drop n).count true)) := by
  have hkeep : ∀ c ∈ f.columns,
      (Column.keep (mask.take n) (c.column.values.take n)).length = (mask.take n).count true ∧
      (Column.keep (mask.drop n) (c.column.values.drop n)).length = (mask.drop n).count true := by
    intro c hc
    have hlen : c.column.values.length = mask.length := (hf c hc).trans hmask.symm
    exact
      ⟨Column.length_filter (c := ⟨c.column.values.take n, none⟩) (by simp [Column.length, hlen]),
        Column.length_filter (c := ⟨c.column.values.drop n, none⟩) (by simp [Column.length, hlen])⟩
  have hcolumn : ∀ c ∈ f.columns,
      (c.column.take (List.range n)).filter (mask.take n) =
          (c.column.filter mask).take (List.range ((mask.take n).count true)) ∧
        (c.column.take (List.range' n m)).filter (mask.drop n) =
          (c.column.filter mask).take
            (List.range' ((mask.take n).count true) ((mask.drop n).count true)) := by
    intro c hc
    obtain ⟨hfirst, hlast⟩ := hkeep c hc
    have hlen := (hf c hc).trans hn
    have hkept : (c.column.filter mask).length =
        (mask.take n).count true + (mask.drop n).count true := by
      simp only [Column.filter, Column.length, Column.keep_split n mask, List.length_append,
        hfirst, hlast]
    rw [Column.take_range _ (hlen ▸ Nat.le_add_right n m), Column.take_range' _ hlen,
      Column.take_range _ (hkept ▸ Nat.le_add_right _ _), Column.take_range' _ hkept]
    simp only [Column.filter, Column.keep_split n mask c.column.values]
    exact ⟨by rw [List.take_left' hfirst], by rw [List.drop_left' hfirst]⟩
  have hcolumns := fun c hc => (hcolumn c hc).1
  have hcolumns' := fun c hc => (hcolumn c hc).2
  constructor
  · simp only [filter, take, mapColumns, List.map_map, List.length_range, Frame.mk.injEq, and_true]
    exact List.map_congr_left fun c hc => by simp [hcolumns c hc]
  · simp only [filter, take, mapColumns, List.map_map, List.length_range', Frame.mk.injEq, and_true]
    exact List.map_congr_left fun c hc => by simp [hcolumns' c hc]

/-! ## Results over chosen rows -/

namespace Evaluated

theorem toColumn_pick {n : Nat} {a : Evaluated} {c : Column} (h : a.Over n none)
    (hc : a.toColumn n = .ok c) {rows : List Nat} (hrows : ∀ i ∈ rows, i < n) :
    (a.pick none rows).toColumn rows.length = .ok (c.take rows) := by
  cases h with
  | constant v t =>
    obtain rfl := Except.ok.inj hc
    have hvalues : rows.map (Column.constant v t n).cell = List.replicate rows.length v := by
      rw [List.map_eq_replicate_iff]
      exact fun i hi => by simp [Column.constant, Column.cell, hrows i hi]
    rw [Column.take, hvalues]
    rfl
  | rows d hd =>
    simp only [ofColumn, Option.elim_none, toColumn, hd, if_true, Except.ok.injEq] at hc
    subst hc
    rw [pick_ofColumn]
    simp [toColumn, ofColumn]

/-- The flags of chosen rows. -/
theorem truthMask_pick {clause : String} {n : Nat} {a : Evaluated} {mask : List Bool}
    (h : a.Over n none) (hm : a.truthMask clause n = .ok mask) {rows : List Nat}
    (hrows : ∀ i ∈ rows, i < n) :
    (a.pick none rows).truthMask clause rows.length =
      .ok (rows.map fun i => mask.getD i false) := by
  obtain ⟨htruth, rfl⟩ := (truthMask_of_over h).mp hm
  refine (truthMask_of_over (over_pick none rows a)).mpr ⟨by rwa [type_pick], ?_⟩
  refine List.ext_getElem (by simp) fun k hk _ => ?_
  have hk : k < rows.length := by simpa using hk
  have hi := hrows _ (List.getElem_mem hk)
  simp [cell_pick none a hk, hi]

/-- Over ungrouped rows a condition has flags when it has a truth type. -/
theorem exists_truthMask_iff (clause : String) {n : Nat} {a : Evaluated} (h : a.Over n none) :
    (∃ mask, a.truthMask clause n = .ok mask) ↔ ColumnType.isTruth a.type := by
  simp [truthMask_of_over h]

end Evaluated

/-! ## Clauses -/

namespace SelectOf

/-- A SELECT without groups, all of whose expressions need no other row. -/
structure RowWise {σ φ : Type} (s : SelectOf σ φ) : Prop where
  groupBy : s.groupBy = []
  having : s.having = none
  exprs : ∀ e ∈ s.exprs, e.Every (·.isRowWise)

/-- The SELECT over the rows of a frame. -/
def reads (s : SelectOf Plan (Except Error Frame)) (f : Frame) :
    SelectOf Plan (Except Error Frame) :=
  { s with source := some (.ok f) }

variable {now : Moment} {s : SelectOf Plan (Except Error Frame)} {outer : List Frame}
  {f : Frame} {scope : Scope} {t : Table}

theorem inputScope_reads_eq_ok_iff :
    (s.reads f).inputScope now outer = .ok scope ↔ scope.outer = outer ∧
      (s.condition = none ∧ scope.frame = f ∨ ∃ c a mask, s.condition = some c ∧
        c.eval now ⟨f, outer⟩ = .ok a ∧ a.truthMask "WHERE" f.numRows = .ok mask ∧
          scope.frame = f.filter mask) := by
  obtain ⟨g, inner⟩ := scope
  cases hc : s.condition with
  | none => simp [inputScope, reads, hc, eq_comm, and_comm]
  | some c =>
    simp only [inputScope, reads, hc, Option.getD_some, bind_eq_ok, pure_eq_ok, Except.ok.injEq,
      exists_eq_left', Scope.mk.injEq, reduceCtorEq, false_and, false_or, Option.some.injEq]
    constructor
    · rintro ⟨a, ha, mask, hmask, rfl, rfl⟩
      exact ⟨rfl, c, a, mask, rfl, ha, hmask, rfl⟩
    · rintro ⟨rfl, c', a, mask, rfl, ha, hmask, rfl⟩
      exact ⟨a, ha, mask, hmask, rfl, rfl⟩

/-- An expression that needs no other row, in an ungrouped frame inside single rows. -/
theorem isRowLocal_of_rowWise (hf : f.groups = none) (houter : ∀ g ∈ outer, g.SingleRow)
    {e : Expr Plan} (he : e.Every (·.isRowWise)) : e.Every (Expr.IsRowLocal f outer) :=
  Expr.every_isRowLocal houter (he.mono fun e h => by simp_all [Expr.rowWiseIn])

/-- FROM and WHERE over the first and over the last rows keep the first and the last of the
rows they keep. -/
theorem inputScope_first_last (hs : s.RowWise) (hf : f.Plain)
    (houter : ∀ g ∈ outer, g.SingleRow) {n m : Nat} (hn : f.numRows = n + m)
    (h : (s.reads f).inputScope now outer = .ok scope) :
    ∃ k l, scope.frame.numRows = k + l ∧ scope.frame.Plain ∧ scope.outer = outer ∧
      (s.reads (f.take (List.range n))).inputScope now outer =
        .ok ⟨scope.frame.take (List.range k), outer⟩ ∧
      (s.reads (f.take (List.range' n m))).inputScope now outer =
        .ok ⟨scope.frame.take (List.range' k l), outer⟩ := by
  obtain ⟨houter', h⟩ := inputScope_reads_eq_ok_iff.mp h
  rcases h with ⟨hc, hframe⟩ | ⟨c, a, mask, hc, ha, hmask, hframe⟩
  · rw [hframe]
    exact ⟨n, m, hn, hf, houter', inputScope_reads_eq_ok_iff.mpr ⟨rfl, .inl ⟨hc, rfl⟩⟩,
      inputScope_reads_eq_ok_iff.mpr ⟨rfl, .inl ⟨hc, rfl⟩⟩⟩
  · rw [hframe]
    have hlen : mask.length = f.numRows := Evaluated.length_truthMask hmask
    have hwise : c.Every (·.isRowWise) := hs.exprs c (by simp [exprs, hc])
    obtain ⟨hover, hpick⟩ :=
      Expr.eval_pick hf.uniform (isRowLocal_of_rowWise hf.ungrouped houter hwise) ha
    rw [hf.ungrouped] at hover
    have hfirst : ∀ i ∈ List.range n, i < f.numRows := fun i hi => by
      rw [List.mem_range] at hi
      omega
    have hlast : ∀ i ∈ List.range' n m, i < f.numRows := fun i hi => by
      rw [List.mem_range'_1] at hi
      omega
    have hmask₁ : (List.range n).map (fun i => mask.getD i false) = mask.take n :=
      List.ext_getElem (by simp [hlen, hn]) fun i hi _ => by
        have hi : i < mask.length := by simp at hi; omega
        simp [List.getD, hi]
    have hmask₂ : (List.range' n m).map (fun i => mask.getD i false) = mask.drop n :=
      List.ext_getElem (by simp [hlen, hn]) fun i hi _ => by
        have hi : n + i < mask.length := by simp at hi; omega
        simp [List.getD, hi]
    have heval₁ := hpick _ _ (Frame.picks_take hfirst)
    have heval₂ := hpick _ _ (Frame.picks_take hlast)
    have htruth₁ := Evaluated.truthMask_pick hover hmask hfirst
    have htruth₂ := Evaluated.truthMask_pick hover hmask hlast
    rw [hmask₁] at htruth₁
    rw [hmask₂] at htruth₂
    obtain ⟨hfilter₁, hfilter₂⟩ := Frame.filter_first_last hf.uniform hlen hn
    have hcount : mask.count true = (mask.take n).count true + (mask.drop n).count true := by
      rw [← List.count_append, List.take_append_drop]
    exact ⟨_, _, hcount, hf.filter hlen, houter',
      inputScope_reads_eq_ok_iff.mpr ⟨rfl, .inr ⟨c, _, _, hc, heval₁, htruth₁, hfilter₁.symm⟩⟩,
      inputScope_reads_eq_ok_iff.mpr ⟨rfl, .inr ⟨c, _, _, hc, heval₂, htruth₂, hfilter₂.symm⟩⟩⟩

/-- FROM and WHERE succeed over all rows if they do over the first and over the last ones. -/
theorem exists_inputScope_of_parts (hs : s.RowWise) (hf : f.Plain)
    (houter : ∀ g ∈ outer, g.SingleRow) {n m : Nat} (hn : f.numRows = n + m) {first last : Scope}
    (hfirst : (s.reads (f.take (List.range n))).inputScope now outer = .ok first)
    (hlast : (s.reads (f.take (List.range' n m))).inputScope now outer = .ok last) :
    ∃ scope, (s.reads f).inputScope now outer = .ok scope := by
  obtain ⟨-, hfirst⟩ := inputScope_reads_eq_ok_iff.mp hfirst
  obtain ⟨-, hlast⟩ := inputScope_reads_eq_ok_iff.mp hlast
  rcases hfirst with ⟨hc, -⟩ | ⟨c, a, mask, hc, ha, hmask, -⟩
  · exact ⟨⟨f, outer⟩, inputScope_reads_eq_ok_iff.mpr ⟨rfl, .inl ⟨hc, rfl⟩⟩⟩
  · rcases hlast with ⟨hc', -⟩ | ⟨c', b, -, hc', hb, -, -⟩
    · simp [hc] at hc'
    · obtain rfl : c = c' := Option.some.inj (hc.symm.trans hc')
      have hlocal := isRowLocal_of_rowWise (f := f) hf.ungrouped houter
        (hs.exprs c (by simp [exprs, hc]))
      have hcovered := Frame.coveredBy_first_last hn
      obtain ⟨d, hd⟩ := Expr.exists_eval_of_picks hf.uniform hcovered hlocal <| by
        simp only [List.mem_cons, List.not_mem_nil, or_false, forall_eq_or_imp, forall_eq]
        exact ⟨⟨a, ha⟩, b, hb⟩
      obtain ⟨hover, hpick⟩ := Expr.eval_pick hf.uniform hlocal hd
      rw [hf.ungrouped] at hover
      have hpicked := hpick _ _ (hcovered.picks _ List.mem_cons_self)
      obtain rfl := Except.ok.inj (ha.symm.trans hpicked)
      obtain ⟨htruth, -⟩ := Evaluated.truthMask_eq_ok.mp hmask
      rw [Evaluated.type_pick] at htruth
      obtain ⟨whole, hwhole⟩ :=
        (Evaluated.exists_truthMask_iff "WHERE" hover).mpr htruth
      exact ⟨⟨f.filter whole, outer⟩,
        inputScope_reads_eq_ok_iff.mpr ⟨rfl, .inr ⟨c, d, whole, hc, hd, hwhole, rfl⟩⟩⟩

/-! ## Fields -/

/-- A field over chosen rows is the chosen rows of its column. -/
theorem fieldColumn_take (hf : f.Plain) (houter : ∀ g ∈ outer, g.SingleRow)
    {x : Selector Plan} {e : Expr Plan} (he : e.Every (·.isRowWise)) {p : String × Column}
    (h : fieldColumn now ⟨f, outer⟩ x e = .ok p) {rows : List Nat}
    (hrows : ∀ i ∈ rows, i < f.numRows) :
    fieldColumn now ⟨f.take rows, outer⟩ x e = .ok (p.1, p.2.take rows) := by
  obtain ⟨hname, a, ha, hcolumn⟩ := fieldColumn_eq_ok_iff.mp h
  obtain ⟨hover, hpick⟩ :=
    Expr.eval_pick hf.uniform (isRowLocal_of_rowWise hf.ungrouped houter he) ha
  have hlength := hf.outputLength
  rw [hf.ungrouped] at hover
  rw [hlength] at hcolumn
  exact fieldColumn_eq_ok_iff.mpr ⟨hname, _, hpick rows _ (Frame.picks_take hrows),
    Evaluated.toColumn_pick hover hcolumn hrows⟩

/-- The fields over chosen rows are the chosen rows of the table. -/
theorem fieldsTable_take (hf : f.Plain) (houter : ∀ g ∈ outer, g.SingleRow)
    {xs : List (Selector Plan)} {es : List (Expr Plan)} (hes : ∀ e ∈ es, e.Every (·.isRowWise))
    (h : fieldsTable now ⟨f, outer⟩ xs es = .ok t) {rows : List Nat}
    (hrows : ∀ i ∈ rows, i < f.numRows) :
    fieldsTable now ⟨f.take rows, outer⟩ xs es = .ok (t.take rows) := by
  obtain ⟨fields, hfields, h⟩ := bind_eq_ok.mp h
  obtain ⟨hnames, -, rfl⟩ := Table.ofColumns_eq_ok h
  have hpicked : (xs.zip es).mapM (fun p => fieldColumn now ⟨f.take rows, outer⟩ p.1 p.2) =
      .ok (fields.map fun p => (p.1, p.2.take rows)) := by
    rw [mapM_eq_ok_iff, List.forall₂_map_right_iff]
    refine forall₂_imp_of_mem ((mapM_eq_ok_iff _ _ _).mp hfields) fun q hq p _ hp => ?_
    exact fieldColumn_take hf houter (hes q.2 (List.of_mem_zip hq).2) hp hrows
  have hlengths : ∀ c ∈ (fields.map fun p => (p.1, p.2.take rows)).map (·.2),
      c.length = rows.length := by
    simp only [List.map_map, List.forall_mem_map]
    exact fun p _ => Column.length_take p.2 rows
  have hlength : (f.take rows).outputLength = rows.length := Frame.outputLength_mapColumns ..
  refine bind_eq_ok.mpr ⟨_, hpicked, ?_⟩
  rw [hlength, Table.ofColumns_of_lengths (by simp) hlengths]
  simp [Table.take, Function.comp_def]

/-- The fields succeed over all rows if they do over chosen rows that are all rows. -/
theorem exists_fieldsTable_of_parts (hf : f.Plain) (houter : ∀ g ∈ outer, g.SingleRow)
    {xs : List (Selector Plan)} {es : List (Expr Plan)} (hes : ∀ e ∈ es, e.Every (·.isRowWise))
    {parts : List (List Nat × Frame)} (hparts : f.CoveredBy parts)
    (h : ∀ p ∈ parts, ∃ t, fieldsTable now ⟨p.2, outer⟩ xs es = .ok t) :
    ∃ t, fieldsTable now ⟨f, outer⟩ xs es = .ok t := by
  have hlength := hf.outputLength
  have hfield : ∀ q ∈ xs.zip es, ∃ p, fieldColumn now ⟨f, outer⟩ q.1 q.2 = .ok p := by
    intro q hq
    have hpart : ∀ p ∈ parts, ∃ b, fieldColumn now ⟨p.2, outer⟩ q.1 q.2 = .ok b := by
      intro p hp
      obtain ⟨t, ht⟩ := h p hp
      obtain ⟨fields, hfields, -⟩ := bind_eq_ok.mp ht
      obtain ⟨b, -, hb⟩ := exists_of_mem_of_mapM hfields hq
      exact ⟨b, hb⟩
    have hlocal := isRowLocal_of_rowWise (f := f) hf.ungrouped houter
      (hes q.2 (List.of_mem_zip hq).2)
    obtain ⟨a, ha⟩ := Expr.exists_eval_of_picks hf.uniform hparts hlocal <| by
      intro p hp
      obtain ⟨b, hb⟩ := hpart p hp
      obtain ⟨-, a, ha, -⟩ := fieldColumn_eq_ok_iff.mp hb
      exact ⟨a, ha⟩
    obtain ⟨hover, -⟩ := Expr.eval_pick hf.uniform hlocal ha
    rw [hf.ungrouped] at hover
    obtain ⟨c, hc, -⟩ := Evaluated.toColumn_of_over hover
    obtain ⟨p, hp⟩ := List.exists_mem_of_ne_nil parts hparts.nonempty
    obtain ⟨b, hb⟩ := hpart p hp
    exact ⟨(b.1, c), fieldColumn_eq_ok_iff.mpr
      ⟨(fieldColumn_eq_ok_iff.mp hb).1, a, ha, hlength ▸ hc⟩⟩
  obtain ⟨fields, hfields⟩ := exists_mapM_eq_ok _ hfield
  refine ⟨_, bind_eq_ok.mpr ⟨fields, hfields, Table.ofColumns_of_lengths (by simp) ?_⟩⟩
  rw [List.forall_mem_map]
  intro p hp
  obtain ⟨q, -, hq⟩ := exists_of_mem_mapM hfields hp
  obtain ⟨-, a, -, hcolumn⟩ := fieldColumn_eq_ok_iff.mp hq
  exact (Evaluated.length_toColumn hcolumn).1

/-! ## The whole SELECT -/

theorem RowWise.selectors (hs : s.RowWise) {xs : List (Selector Plan)}
    (h : expand f s.fields = .ok xs) : ∀ x ∈ xs, x.expr.Every (·.isRowWise) := by
  refine forall_expand (fun path => .leaf rfl rfl) (fun e he => hs.exprs e ?_) h
  simp only [SelectOf.exprs, List.mem_append, he, true_or]

theorem RowWise.marked (hs : s.RowWise) {xs : List (Selector Plan)}
    (h : expand f s.fields = .ok xs) : ∀ e ∈ xs.map Selector.toExpr, e.Every (·.isRowWise) := by
  rw [List.forall_mem_map]
  intro x hx
  exact .intro rfl (by simpa [Selector.toExpr, Expr.children] using hs.selectors h x hx)

/-- Without groups a SELECT is FROM and WHERE and then its fields. -/
theorem RowWise.run_eq_ok_iff (hs : s.RowWise) :
    s.run now outer = .ok t ↔ s.distinct = false ∧ ∃ scope xs,
      s.inputScope now outer = .ok scope ∧ expand scope.frame s.fields = .ok xs ∧
        fieldsTable now scope xs (xs.map Selector.toExpr) = .ok t := by
  have hgrouped : ∀ {scope : Scope} {xs : List (Selector Plan)},
      expand scope.frame s.fields = .ok xs →
        s.groupedFields now scope xs = .ok (scope, xs.map Selector.toExpr) := by
    intro scope xs hxs
    have hnone : xs.any (·.expr.containsAggregate) = false := by
      rw [List.any_eq_false]
      intro x hx
      rw [Expr.containsAggregate_of_every ((hs.selectors hxs x hx).mono fun e he => by
        simp_all [Expr.isRowWise])]
      decide
    simp [groupedFields, hs.groupBy, hs.having, hnone]
  rw [SelectOf.run_eq_ok_iff]
  refine and_congr_right fun _ => ?_
  simp only [hs.having, Option.elim_none, Except.ok.injEq]
  constructor
  · rintro ⟨scope, xs, grouped, marked, result, hscope, hxs, hg, hresult, rfl⟩
    rw [hgrouped hxs] at hg
    obtain ⟨rfl, rfl⟩ := Prod.mk.inj (Except.ok.inj hg)
    exact ⟨scope, xs, hscope, hxs, hresult⟩
  · rintro ⟨scope, xs, hscope, hxs, hresult⟩
    exact ⟨scope, xs, scope, _, t, hscope, hxs, hgrouped hxs, hresult, rfl⟩

theorem RowWise.names_length_run (hs : s.RowWise) (h : s.run now outer = .ok t) :
    t.names.length = t.columns.length := by
  obtain ⟨-, scope, xs, -, -, hfields⟩ := hs.run_eq_ok_iff.mp h
  obtain ⟨fields, -, htable⟩ := bind_eq_ok.mp hfields
  obtain ⟨hnames, -, rfl⟩ := Table.ofColumns_eq_ok htable
  exact hnames

theorem RowWise.reads (hs : s.RowWise) (f : Frame) : (s.reads f).RowWise :=
  ⟨hs.groupBy, hs.having, hs.exprs⟩

/-- A SELECT over the first and over the last rows gives the first and the last rows of what
it gives over all of them. -/
theorem run_first_last (hs : s.RowWise) (hf : f.Plain) (houter : ∀ g ∈ outer, g.SingleRow)
    {n m : Nat} (hn : f.numRows = n + m) (h : (s.reads f).run now outer = .ok t) :
    ∃ k l, t.numRows = k + l ∧
      (s.reads (f.take (List.range n))).run now outer = .ok (t.take (List.range k)) ∧
      (s.reads (f.take (List.range' n m))).run now outer = .ok (t.take (List.range' k l)) := by
  obtain ⟨hdistinct, ⟨g, inner⟩, xs, hscope, hxs, hfields⟩ := (hs.reads f).run_eq_ok_iff.mp h
  obtain ⟨k, l, hk, hg, rfl, hfirst, hlast⟩ := inputScope_first_last hs hf houter hn hscope
  have hmarked := hs.marked hxs
  have hrows : t.numRows = g.numRows := by
    obtain ⟨fields, -, htable⟩ := bind_eq_ok.mp hfields
    obtain ⟨-, -, rfl⟩ := Table.ofColumns_eq_ok htable
    exact hg.outputLength
  refine ⟨k, l, hrows.trans hk, ?first, ?last⟩
  case first =>
    refine (hs.reads _).run_eq_ok_iff.mpr
      ⟨hdistinct, _, xs, hfirst, (expand_mapColumns ..).trans hxs, ?_⟩
    refine fieldsTable_take hg houter hmarked hfields fun i hi => ?_
    rw [List.mem_range] at hi
    exact hk ▸ Nat.lt_add_right l hi
  case last =>
    refine (hs.reads _).run_eq_ok_iff.mpr
      ⟨hdistinct, _, xs, hlast, (expand_mapColumns ..).trans hxs, ?_⟩
    refine fieldsTable_take hg houter hmarked hfields fun i hi => ?_
    rw [List.mem_range'_1] at hi
    exact hk ▸ hi.2

/-- A SELECT succeeds over all rows if it does over the first and over the last ones. -/
theorem exists_run_of_parts (hs : s.RowWise) (hf : f.Plain) (houter : ∀ g ∈ outer, g.SingleRow)
    {n m : Nat} (hn : f.numRows = n + m) {first last : Table}
    (hfirst : (s.reads (f.take (List.range n))).run now outer = .ok first)
    (hlast : (s.reads (f.take (List.range' n m))).run now outer = .ok last) :
    ∃ t, (s.reads f).run now outer = .ok t := by
  obtain ⟨hdistinct, scope₁, xs, hscope₁, hxs, hfields₁⟩ := (hs.reads _).run_eq_ok_iff.mp hfirst
  obtain ⟨-, scope₂, xs', hscope₂, hxs', hfields₂⟩ := (hs.reads _).run_eq_ok_iff.mp hlast
  obtain ⟨⟨g, inner⟩, hscope⟩ := exists_inputScope_of_parts hs hf houter hn hscope₁ hscope₂
  obtain ⟨k, l, hk, hg, rfl, h₁, h₂⟩ := inputScope_first_last hs hf houter hn hscope
  obtain rfl := Except.ok.inj (hscope₁.symm.trans h₁)
  obtain rfl := Except.ok.inj (hscope₂.symm.trans h₂)
  rw [Frame.take, expand_mapColumns] at hxs hxs'
  obtain rfl := Except.ok.inj (hxs.symm.trans hxs')
  obtain ⟨t, ht⟩ := exists_fieldsTable_of_parts hg houter (hs.marked hxs)
    (Frame.coveredBy_first_last hk) <| by
      simp only [List.mem_cons, List.not_mem_nil, or_false, forall_eq_or_imp, forall_eq]
      exact ⟨⟨_, hfields₁⟩, _, hfields₂⟩
  exact ⟨t, (hs.reads f).run_eq_ok_iff.mpr ⟨hdistinct, _, xs, hscope, hxs, ht⟩⟩

end SelectOf

/-! ## Putting rows together -/

theorem ColumnType.coerce_self (t : ColumnType) : coerce t t = .ok t := by
  simp [coerce, common?_self]

/-- The first and the last rows of a table put together are the table. -/
theorem SetOperator.unionAll_first_last {t : Table} (hnames : t.names.length = t.columns.length)
    (ht : t.Rectangular) {n m : Nat} (hn : t.numRows = n + m) :
    unionAll.run (t.take (List.range n)) (t.take (List.range' n m)) = .ok t := by
  have htypes : columnTypes (t.take (List.range n)) (t.take (List.range' n m)) = .ok t.types := by
    rw [columnTypes, Table.types_take, Table.types_take, mapM_eq_ok_iff, List.forall₂_iff_get]
    exact ⟨by simp, fun j hj hj' => by simp [ColumnType.coerce_self]⟩
  have hcolumns : concat (t.take (List.range n)) (t.take (List.range' n m)) t.types =
      t.columns := by
    refine List.ext_getElem (by simp [concat, Table.take, Table.types]) fun j hj hj' => ?_
    have hlen := (ht _ (List.getElem_mem hj')).trans hn
    simp [concat, Table.take, Table.types, Column.concat, Column.widen, Column.take_range' _ hlen,
      Column.take_range t.columns[j] (hlen ▸ Nat.le_add_right n m)]
  have hlen : (t.take (List.range n)).numRows + (t.take (List.range' n m)).numRows =
      t.numRows := by
    simp [hn]
  refine run_eq_ok_iff.mpr ⟨rfl, by simp [Table.take], t.types, htypes, ?_⟩
  rw [hcolumns, hlen]
  exact Table.ofColumns_of_lengths hnames ht

/-- The values of both columns, under the type of the first. -/
def Column.append (c d : Column) : Column := ⟨c.values ++ d.values, c.type⟩

theorem Column.length_append (c d : Column) : (c.append d).length = c.length + d.length := by
  simp [append, length]

theorem Column.append_first (c d : Column) {n : Nat} (hn : c.length = n) :
    (c.append d).take (List.range n) = c := by
  subst hn
  rw [take_range _ (by simp [length_append])]
  simp [append, length]

theorem Column.append_last {c d : Column} (h : c.type = d.type) {n m : Nat} (hn : c.length = n)
    (hm : d.length = m) : (c.append d).take (List.range' n m) = d := by
  subst hn hm
  rw [take_range' _ (length_append c d)]
  simp [append, length, h]

namespace Table

/-- The rows of both tables, under the names and types of the first. -/
def append (A B : Table) : Table :=
  ⟨A.names, List.zipWith Column.append A.columns B.columns, A.numRows + B.numRows⟩

variable {A B : Table}

theorem length_columns_of_types_eq (h : A.types = B.types) :
    A.columns.length = B.columns.length := by
  simpa [types] using congrArg List.length h

theorem rectangular_append (hA : A.Rectangular) (hB : B.Rectangular) :
    (A.append B).Rectangular := by
  intro c hc
  obtain ⟨j, hj, rfl⟩ := List.getElem_of_mem hc
  have hj : j < A.columns.length ∧ j < B.columns.length := by
    simpa only [append, List.length_zipWith, Nat.lt_min] using hj
  simp [append, Column.length_append, hA _ (List.getElem_mem hj.1), hB _ (List.getElem_mem hj.2)]

theorem append_first (hA : A.Rectangular) (h : A.types = B.types) :
    (A.append B).take (List.range A.numRows) = A := by
  have hwidth := length_columns_of_types_eq h
  have hcolumns : (A.append B).columns.map (·.take (List.range A.numRows)) = A.columns := by
    refine List.ext_getElem (by simp [append, hwidth]) fun j _ hj => ?_
    simp [append, Column.append_first _ _ (hA _ (List.getElem_mem hj))]
  rw [take, hcolumns]
  simp [append]

theorem append_last (hA : A.Rectangular) (hB : B.Rectangular) (hnames : A.names = B.names)
    (h : A.types = B.types) : (A.append B).take (List.range' A.numRows B.numRows) = B := by
  have hwidth := length_columns_of_types_eq h
  have hcolumns :
      (A.append B).columns.map (·.take (List.range' A.numRows B.numRows)) = B.columns := by
    refine List.ext_getElem (by simp [append, hwidth]) fun j _ hj => ?_
    have hjA : j < A.columns.length := hwidth ▸ hj
    have htype : A.columns[j].type = B.columns[j].type := by
      simpa [types, hjA, hj] using congrArg (·[j]?) h
    simp [append,
      Column.append_last htype (hA _ (List.getElem_mem hjA)) (hB _ (List.getElem_mem hj))]
  rw [take, hcolumns]
  simp [append, hnames]

end Table

/-- Tables with the same names and types are put together as they are. -/
theorem SetOperator.unionAll_eq_append {A B : Table} (hA : A.WellFormed) (hB : B.WellFormed)
    (hnames : A.names = B.names) (htypes : A.types = B.types) :
    unionAll.run A B = .ok (A.append B) := by
  have hwidth := Table.length_columns_of_types_eq htypes
  have hunion := unionAll_first_last (t := A.append B) (n := A.numRows) (m := B.numRows)
    (by simp [Table.append, hA.names_length, hwidth])
    (Table.rectangular_append hA.lengths hB.lengths) rfl
  rwa [Table.append_first hA.lengths htypes,
    Table.append_last hA.lengths hB.lengths hnames htypes] at hunion

/-! ## Queries -/

namespace SelectOf

/-- `SELECT … FROM q AS label …`. -/
def overQuery (s : SelectOf Select Source) (q : Query) (label : String) : Query :=
  .select (.mk { s with source := some ⟨⟨q, some label⟩, []⟩ })

variable {env : Session} {s : SelectOf Select Source}

theorem RowWise.planned (hs : s.RowWise) : (s.planned env).RowWise where
  groupBy := by simp [SelectOf.planned, hs.groupBy, planExprs]
  having := by simp [SelectOf.planned, hs.having, planExpr?]
  exprs := by
    intro e he
    rw [SelectOf.planned, exprs_planned env s.source] at he
    obtain ⟨d, hd, rfl⟩ := List.mem_map.mp he
    refine every_planExpr env (fun e h => ?_) (hs.exprs d hd)
    cases e <;> exact h

/-- A SELECT over a query reads the rows of its table. -/
theorem run_overQuery {q : Query} {A : NamedTable} (hq : q.run env = .ok A) (label : String)
    {p : NamedTable} :
    (s.overQuery q label).run env = .ok p ↔
      ((s.planned env).reads (.ofTable A.1 (some label))).run env.now [] = .ok p.1 ∧
        p.2 = none := by
  have hsource : planSource? env (some ⟨⟨q, some label⟩, []⟩) =
      some (.ok (.ofTable A.1 (some label))) := by
    simp [planSource?, Join.sourceFrame, Join.itemFrame, planJoins, hq]
  obtain ⟨t, name⟩ := p
  simp only [overQuery, Query.run, plan_mk, SelectOf.planned, hsource, bind_eq_ok, pure_eq_ok,
    Prod.mk.injEq]
  constructor
  · rintro ⟨t, ht, rfl, rfl⟩
    exact ⟨ht, rfl⟩
  · rintro ⟨ht, rfl⟩
    exact ⟨t, ht, rfl, rfl⟩

end SelectOf

theorem Frame.ofTable_take (t : Table) (name : Option String) (rows : List Nat) :
    ofTable (t.take rows) name = (ofTable t name).take rows := by
  simp [ofTable, Table.take, tableColumns, take, mapColumns, ofRows, List.zip_map_right,
    Function.comp_def]

/-- Selection and projection distribute over `UNION ALL`. A SELECT without groups, reducing
calls and windows succeeds over the union of two tables with the same names and types exactly
when it succeeds over each of them, and then its result is the union of the two results. -/
theorem select_over_unionAll {env : Session} {s : SelectOf Select Source} {l r : Query}
    {A B : NamedTable} (hl : l.run env = .ok A) (hr : r.run env = .ok B) (hA : A.1.WellFormed)
    (hB : B.1.WellFormed) (hnames : A.1.names = B.1.names) (htypes : A.1.types = B.1.types)
    (hs : s.RowWise) (label : String) :
    ((∃ p, (s.overQuery (.combined .unionAll l r) label).run env = .ok p) ↔
      (∃ p, (s.overQuery l label).run env = .ok p) ∧
        ∃ p, (s.overQuery r label).run env = .ok p) ∧
    ∀ p, (s.overQuery (.combined .unionAll l r) label).run env = .ok p ↔
      (Query.combined .unionAll (s.overQuery l label) (s.overQuery r label)).run env = .ok p := by
  have hunion := SetOperator.unionAll_eq_append hA hB hnames htypes
  have hu : (Query.combined .unionAll l r).run env = .ok (A.1.append B.1, none) :=
    Query.run_unionAll_eq_ok_iff.mpr ⟨A, B, hl, hr, hunion, rfl⟩
  have hplain := Frame.plain_ofTable (Table.rectangular_append hA.lengths hB.lengths) (some label)
  have hfirst : (Frame.ofTable (A.1.append B.1) (some label)).take (List.range A.1.numRows) =
      .ofTable A.1 (some label) := by
    rw [← Frame.ofTable_take, Table.append_first hA.lengths htypes]
  have hlast : (Frame.ofTable (A.1.append B.1) (some label)).take
      (List.range' A.1.numRows B.1.numRows) = .ofTable B.1 (some label) := by
    rw [← Frame.ofTable_take, Table.append_last hA.lengths hB.lengths hnames htypes]
  have hparts : ∀ {p}, (s.overQuery (.combined .unionAll l r) label).run env = .ok p →
      ∃ a b, (s.overQuery l label).run env = .ok (a, none) ∧
        (s.overQuery r label).run env = .ok (b, none) ∧
          SetOperator.unionAll.run a b = .ok p.1 ∧ p.2 = none := by
    intro p hp
    obtain ⟨ht, hname⟩ := (SelectOf.run_overQuery hu label).mp hp
    obtain ⟨k, m, hk, ha, hb⟩ := SelectOf.run_first_last hs.planned hplain (by simp) rfl ht
    rw [hfirst] at ha
    rw [hlast] at hb
    exact ⟨_, _, (SelectOf.run_overQuery hl label).mpr ⟨ha, rfl⟩,
      (SelectOf.run_overQuery hr label).mpr ⟨hb, rfl⟩,
      SetOperator.unionAll_first_last ((hs.planned.reads _).names_length_run ht)
        (SelectOf.rectangular_run ht) hk, hname⟩
  have hwhole : ∀ {a b}, (s.overQuery l label).run env = .ok a →
      (s.overQuery r label).run env = .ok b →
        ∃ p, (s.overQuery (.combined .unionAll l r) label).run env = .ok p := by
    intro a b ha hb
    have ha := ((SelectOf.run_overQuery hl label).mp ha).1
    have hb := ((SelectOf.run_overQuery hr label).mp hb).1
    rw [← hfirst] at ha
    rw [← hlast] at hb
    obtain ⟨t, ht⟩ := SelectOf.exists_run_of_parts hs.planned hplain (by simp) rfl ha hb
    exact ⟨(t, none), (SelectOf.run_overQuery hu label).mpr ⟨ht, rfl⟩⟩
  -- A run has one result, so the parts of a whole that exists are the parts at hand.
  refine ⟨⟨?_, ?_⟩, fun p => ⟨?_, ?_⟩⟩
  · rintro ⟨p, hp⟩
    obtain ⟨a, b, ha, hb, -⟩ := hparts hp
    exact ⟨⟨_, ha⟩, _, hb⟩
  · rintro ⟨⟨a, ha⟩, b, hb⟩
    exact hwhole ha hb
  · intro hp
    obtain ⟨a, b, ha, hb, hrun⟩ := hparts hp
    exact Query.run_unionAll_eq_ok_iff.mpr ⟨_, _, ha, hb, hrun⟩
  · intro hp
    obtain ⟨a, b, ha, hb, hrun, hname⟩ := Query.run_unionAll_eq_ok_iff.mp hp
    obtain ⟨q, hq⟩ := hwhole ha hb
    obtain ⟨a', b', ha', hb', hrun', hname'⟩ := hparts hq
    obtain rfl := Except.ok.inj (ha.symm.trans ha')
    obtain rfl := Except.ok.inj (hb.symm.trans hb')
    have htable := Except.ok.inj (hrun.symm.trans hrun')
    rw [hq, Prod.ext htable (hname.trans hname'.symm)]

/-- Two tables of integers under the name `a`. -/
def twoIntegerTables : Session where
  catalog := ⟨[(⟨"p", "d", "x"⟩, ⟨["a"], [⟨[.integer 1, .integer 2], some .integer⟩], 2⟩),
    (⟨"p", "d", "y"⟩, ⟨["a"], [⟨[.integer 3], some .integer⟩], 1⟩)]⟩
  now := newYear

/-- `SELECT *, -s.a AS b … WHERE s.a > 1`. -/
def negatedAboveOne : SelectOf Select Source where
  distinct := false
  fields := [.star ⟨none, [], []⟩, .one ⟨.negate (.field ["s", "a"]), some "b", some 2⟩]
  source := none
  condition := some (.binary .gt (.field ["s", "a"]) (.literal (.ofValue (.integer 1))))
  groupBy := []
  having := none

theorem select_over_unionAll_integers :
    let x : Query := .table ⟨["x"], by decide, by decide⟩
    let y : Query := .table ⟨["y"], by decide, by decide⟩
    let result : NamedTable := (⟨["a", "b"], [⟨[.integer 2, .integer 3], some .integer⟩,
      ⟨[.integer (-2), .integer (-3)], some .integer⟩], 2⟩, none)
    (twoIntegerTables.catalog.WellFormed ∧ negatedAboveOne.RowWise ∧
      (Query.combined .unionAll (negatedAboveOne.overQuery x "s")
        (negatedAboveOne.overQuery y "s")).run twoIntegerTables = .ok result) ∧
    (negatedAboveOne.overQuery (.combined .unionAll x y) "s").run twoIntegerTables =
      .ok result := by
  intro x y result
  have hcatalog : twoIntegerTables.catalog.WellFormed := by
    have hone : ∀ vs : List Value, (∀ v ∈ vs, v.conforms (some .integer)) →
        Table.WellFormed ⟨["a"], [⟨vs, some .integer⟩], vs.length⟩ := by
      intro vs h
      exact ⟨rfl, by simp [Column.length], by simpa [Column.Typed] using h⟩
    simp only [Catalog.WellFormed, twoIntegerTables, List.forall_mem_cons, List.not_mem_nil,
      false_imp_iff, implies_true, and_true]
    exact ⟨hone [_, _] (by simp [Value.conforms, Value.scalarType?]),
      hone [_] (by simp [Value.conforms, Value.scalarType?])⟩
  have hwise : negatedAboveOne.RowWise := by
    refine ⟨rfl, rfl, fun e he => ?_⟩
    have hfield : ∀ path, (Expr.field path : Expr Select).Every (·.isRowWise) :=
      fun path => .leaf rfl rfl
    rcases List.mem_pair.mp he with rfl | rfl
    · exact .intro rfl (by simpa [Expr.children] using hfield _)
    · exact .intro rfl (by simpa [Expr.children] using ⟨hfield _, .leaf rfl rfl⟩)
  have hunion : (Query.combined .unionAll (negatedAboveOne.overQuery x "s")
      (negatedAboveOne.overQuery y "s")).run twoIntegerTables = .ok result := by
    rfl
  have hx : x.run twoIntegerTables = .ok _ := rfl
  have hy : y.run twoIntegerTables = .ok _ := rfl
  have hdistributes := select_over_unionAll hx hy (TableReference.wellFormed_run hcatalog hx)
    (TableReference.wellFormed_run hcatalog hy) rfl rfl hwise "s"
  exact ⟨⟨hcatalog, hwise, hunion⟩, (hdistributes.2 _).mpr hunion⟩

end ColumnarSql
