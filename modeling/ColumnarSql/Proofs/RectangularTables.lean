import ColumnarSql.Proofs.PickedFrames
import ColumnarSql.QueryPlan

/-!
# Rectangular tables

The columns of a table have its number of rows: a SELECT and a set operation check it, and
ORDER BY and LIMIT choose rows (`rectangular_run`). So FROM gives an ungrouped frame of such
columns (`plain_planSource`), and WHERE keeps it so.
-/

set_option autoImplicit false

namespace ColumnarSql

/-! ## Tables and frames -/

namespace Table

/-- Every column has the table's number of rows. -/
def Rectangular (t : Table) : Prop := ∀ c ∈ t.columns, c.length = t.numRows

theorem ofColumns_eq_ok {names : List String} {columns : List Column} {n : Nat} {t : Table}
    (h : ofColumns names columns n = .ok t) :
    names.length = columns.length ∧ (∀ c ∈ columns, c.length = n) ∧ ⟨names, columns, n⟩ = t := by
  unfold ofColumns at h
  rw [error_ite_eq_ok, ne_eq, not_not] at h
  obtain ⟨hlen, h⟩ := h
  split at h
  · simp at h
  · next hnone =>
    refine ⟨hlen, fun c hc => ?_, Except.ok.inj h⟩
    obtain ⟨i, hi, rfl⟩ := List.getElem_of_mem hc
    have hmem : (names.get ⟨i, hlen ▸ hi⟩, columns[i]) ∈ names.zip columns :=
      List.mem_iff_getElem.mpr ⟨i, by simp [hlen, hi], by simp⟩
    simpa using List.find?_eq_none.mp hnone _ hmem

/-- Columns of one length under as many names are a table. -/
theorem ofColumns_of_lengths {names : List String} {columns : List Column} {n : Nat}
    (hnames : names.length = columns.length) (h : ∀ c ∈ columns, c.length = n) :
    ofColumns names columns n = .ok ⟨names, columns, n⟩ := by
  have hnone : (names.zip columns).find? (fun p => decide (p.2.length ≠ n)) = none :=
    List.find?_eq_none.mpr fun p hp => by simpa using h p.2 (List.of_mem_zip hp).2
  simp only [ofColumns, hnames, ne_eq, not_true, if_false, hnone]

theorem rectangular_ofColumns {names : List String} {columns : List Column} {n : Nat}
    {t : Table} (h : ofColumns names columns n = .ok t) : t.Rectangular := by
  obtain ⟨-, hlengths, rfl⟩ := ofColumns_eq_ok h
  exact hlengths

theorem rectangular_take (t : Table) (rows : List Nat) : (t.take rows).Rectangular := by
  simp [Rectangular, Table.take]

theorem Rectangular.filter {t : Table} (h : t.Rectangular) {mask : List Bool}
    (hmask : mask.length = t.numRows) : (t.filter mask).Rectangular := by
  simp only [Rectangular, Table.filter, List.forall_mem_map]
  exact fun c hc => Column.length_filter (hmask.trans (h c hc).symm)

end Table

namespace Frame

/-- Ungrouped columns of the frame's number of rows. -/
structure Plain (f : Frame) : Prop where
  uniform : f.Uniform
  ungrouped : f.groups = none

theorem plain_ofRows (n : Nat) : (ofRows n).Plain := ⟨by simp [Uniform, ofRows], rfl⟩

theorem plain_ofTable {t : Table} (h : t.Rectangular) (name : Option String) :
    (ofTable t name).Plain := by
  refine ⟨fun c hc => ?_, rfl⟩
  obtain ⟨p, hp, rfl⟩ := List.mem_map.mp hc
  exact h p.2 (List.of_mem_zip hp).2

theorem plain_combine (f g : Frame) {left : List Nat} {right : List (Option Nat)}
    (h : right.length = left.length) : (f.combine g left right).Plain := by
  refine ⟨fun c hc => ?_, rfl⟩
  rw [numRows_combine]
  rcases List.mem_append.mp hc with hc | hc
  · obtain ⟨d, -, rfl⟩ := List.mem_map.mp hc
    exact Column.length_take d.column left
  · obtain ⟨d, -, rfl⟩ := List.mem_map.mp hc
    exact (Column.length_takePadded d.column right).trans h

theorem Plain.dropNamed {f : Frame} (h : f.Plain) (start : Nat) (names : List String) :
    (f.dropNamed start names).Plain := by
  refine ⟨fun c hc => ?_, h.ungrouped⟩
  rcases List.mem_append.mp hc with hc | hc
  · exact h.uniform c (List.mem_of_mem_take hc)
  · exact h.uniform c (List.mem_of_mem_drop (List.mem_of_mem_filter hc))

theorem Plain.filter {f : Frame} (h : f.Plain) {mask : List Bool}
    (hmask : mask.length = f.numRows) : (f.filter mask).Plain := by
  refine ⟨fun c hc => ?_, rfl⟩
  obtain ⟨d, hd, rfl⟩ := List.mem_map.mp hc
  exact Column.length_filter (hmask.trans (h.uniform d hd).symm)

end Frame

/-! ## FROM and WHERE -/

namespace Join

theorem plain_combine (f g : Frame) (pairs : List RowPair) : (combine f g pairs).Plain :=
  Frame.plain_combine f g (by simp)

/-- What joined rows have and dropping columns keeps, a join gives, whatever it joins. -/
theorem kept_by_extend {now : Moment} {P : Frame → Prop}
    (hcombine : ∀ f g pairs, P (combine f g pairs))
    (hdrop : ∀ f start names, P f → P (f.dropNamed start names)) {f g : Frame}
    {j : JoinOf Plan (Except Error NamedTable)} (h : extend now f j = .ok g) : P g := by
  obtain ⟨f', -, h⟩ := bind_eq_ok.mp h
  split at h
  · obtain rfl := pure_eq_ok.mp h
    exact hcombine _ _ _
  · obtain ⟨found, -, h⟩ := bind_eq_ok.mp h
    obtain rfl := pure_eq_ok.mp h
    exact hcombine _ _ _
  · obtain ⟨found, -, h⟩ := bind_eq_ok.mp h
    obtain rfl := pure_eq_ok.mp h
    exact hdrop _ _ _ (hcombine _ _ _)

theorem kept_by_joins {now : Moment} {P : Frame → Prop}
    (hcombine : ∀ f g pairs, P (combine f g pairs))
    (hdrop : ∀ f start names, P f → P (f.dropNamed start names)) :
    ∀ {joins : List (JoinOf Plan (Except Error NamedTable))} {f g : Frame}, P f →
      joins.foldlM (extend now) f = .ok g → P g
  | [], f, g, hf, h => by
    obtain rfl := pure_eq_ok.mp h
    exact hf
  | j :: joins, f, g, _, h => by
    obtain ⟨f', hf', h⟩ := bind_eq_ok.mp h
    exact kept_by_joins hcombine hdrop (kept_by_extend hcombine hdrop hf') h

theorem plain_sourceFrame {now : Moment} {s : SourceOf Plan (Except Error NamedTable)}
    {f : Frame} (hfirst : ∀ p, s.first.query = .ok p → p.1.Rectangular)
    (h : sourceFrame now s = .ok f) : f.Plain := by
  obtain ⟨g, hg, h⟩ := bind_eq_ok.mp h
  obtain ⟨p, hp, hg⟩ := bind_eq_ok.mp hg
  obtain rfl := pure_eq_ok.mp hg
  exact kept_by_joins plain_combine (fun _ _ _ hf => hf.dropNamed _ _)
    (Frame.plain_ofTable (hfirst p hp) _) h

end Join

/-- BOOLEAN, or the type of NULL. -/
def ColumnType.isTruth (t : ColumnType) : Prop := t = none ∨ t = some .boolean

namespace Evaluated

/-- A column of a result has the asked length and the type of the result. -/
theorem length_toColumn {n : Nat} {a : Evaluated} {c : Column} (h : a.toColumn n = .ok c) :
    c.length = n ∧ c.type = a.type := by
  cases a with
  | column d =>
    simp only [toColumn, ite_error_eq_ok, Except.ok.injEq] at h
    obtain ⟨hlen, rfl⟩ := h
    exact ⟨hlen, rfl⟩
  | constant v t =>
    obtain rfl := Except.ok.inj h
    exact ⟨Column.length_constant v t n, rfl⟩
  | grouped level d gs => simp [toColumn] at h

/-- The flags of a condition are those of the TRUE values of its column. -/
theorem truthMask_eq_ok {clause : String} {n : Nat} {a : Evaluated} {mask : List Bool} :
    a.truthMask clause n = .ok mask ↔ ColumnType.isTruth a.type ∧ ∃ c, a.toColumn n = .ok c ∧
      c.values.map (fun v => decide (v.boolean? = some true)) = mask := by
  have htype : ∀ {t : DataType}, a.type = some t → (t = .scalar .boolean → False) →
      ¬ColumnType.isTruth a.type := by
    rintro t ht hne (h | h)
    · simp [h] at ht
    · exact hne (Option.some.inj (ht.symm.trans h))
  unfold truthMask
  cases a with
  | grouped level c gs =>
    dsimp only
    split <;> simp [toColumn]
  | column c | constant v t =>
    dsimp only
    split
    · simp [ColumnType.isTruth, *]
    · simp [ColumnType.isTruth, *]
    · next hne hsome => simp [htype hsome hne]

theorem length_truthMask {clause : String} {n : Nat} {a : Evaluated} {mask : List Bool}
    (h : a.truthMask clause n = .ok mask) : mask.length = n := by
  obtain ⟨-, c, hc, rfl⟩ := truthMask_eq_ok.mp h
  rw [List.length_map]
  exact (length_toColumn hc).1

end Evaluated

namespace SelectOf

variable {now : Moment} {s : SelectOf Plan (Except Error Frame)} {outer : List Frame} {t : Table}

/-- FROM gives plain frames, as it does over rectangular tables (`plain_planSource`). -/
def HasPlainSource (s : SelectOf Plan (Except Error Frame)) : Prop :=
  ∀ f, s.source = some (.ok f) → f.Plain

/-- The frame of FROM is that of the source, or one row without it. -/
theorem kept_by_source {P : Frame → Prop} (hnone : P (.ofRows 1))
    (hsource : ∀ f, s.source = some (.ok f) → P f) {f : Frame}
    (h : s.source.getD (.ok (.ofRows 1)) = .ok f) : P f := by
  cases hs : s.source with
  | none =>
    obtain rfl : Frame.ofRows 1 = f := by simpa [hs] using h
    exact hnone
  | some x =>
    obtain rfl : x = .ok f := by simpa [hs] using h
    exact hsource f hs

/-- What FROM gives and choosing rows keeps, FROM and WHERE give. -/
theorem kept_by_inputScope {P : Frame → Prop} (hnone : P (.ofRows 1))
    (hsource : ∀ f, s.source = some (.ok f) → P f)
    (hfilter : ∀ f mask, mask.length = f.numRows → P f → P (f.filter mask)) {scope : Scope}
    (h : s.inputScope now outer = .ok scope) : scope.outer = outer ∧ P scope.frame := by
  obtain ⟨frame, hframe, h⟩ := bind_eq_ok.mp h
  have hfrom : P frame := kept_by_source hnone hsource hframe
  split at h
  · obtain rfl := pure_eq_ok.mp h
    exact ⟨rfl, hfrom⟩
  · simp only [bind_eq_ok, pure_eq_ok] at h
    obtain ⟨a, -, mask, hmask, rfl⟩ := h
    exact ⟨rfl, hfilter frame mask (Evaluated.length_truthMask hmask) hfrom⟩

/-- WHERE keeps the frame of FROM plain. -/
theorem plain_inputScope (hs : s.HasPlainSource) {scope : Scope}
    (h : s.inputScope now outer = .ok scope) : scope.outer = outer ∧ scope.frame.Plain :=
  kept_by_inputScope (Frame.plain_ofRows 1) hs
    (fun _ _ hmask hf => hf.filter hmask) h

/-! ## Queries -/

/-- A field gives its name and its column; ungrouped rows are no column. -/
theorem fieldColumn_eq_ok_iff {scope : Scope} {x : Selector Plan} {e : Expr Plan}
    {p : String × Column} :
    fieldColumn now scope x e = .ok p ↔ x.name = .ok p.1 ∧
      ∃ a, e.eval now scope = .ok a ∧ a.toColumn scope.frame.outputLength = .ok p.2 := by
  obtain ⟨name, c⟩ := p
  unfold fieldColumn
  rw [bind_eq_ok, ← exists_and_left]
  refine exists_congr fun a => ?_
  rw [and_left_comm]
  refine and_congr_right fun _ => ?_
  cases a with
  | grouped level d gs => simp [Evaluated.toColumn]
  | _ => simp [and_comm]

/-- A field has its name and its column in the table. -/
theorem field_of_fieldsTable {scope : Scope} {selectors : List (Selector Plan)}
    {exprs : List (Expr Plan)} (h : fieldsTable now scope selectors exprs = .ok t) {k : Nat}
    (hk : k < selectors.length) (hk' : k < exprs.length) :
    ∃ p, fieldColumn now scope selectors[k] exprs[k] = .ok p ∧ t.names[k]? = some p.1 ∧
      t.columns[k]? = some p.2 := by
  obtain ⟨fields, hfields, h⟩ := bind_eq_ok.mp h
  obtain ⟨-, -, rfl⟩ := Table.ofColumns_eq_ok h
  have hall := (mapM_eq_ok_iff _ _ _).mp hfields
  have hzip : k < (selectors.zip exprs).length := by
    rw [List.length_zip]
    exact Nat.lt_min.mpr ⟨hk, hk'⟩
  have hlen : k < fields.length := hall.length_eq ▸ hzip
  have hfield := hall.get hzip hlen
  simp only [List.get_eq_getElem, List.getElem_zip] at hfield
  exact ⟨fields[k], hfield, by simp [hlen], by simp [hlen]⟩

/-- GROUP BY gives the grouped frame and the marked fields. Without keys no field is marked, and
all rows may be one group. -/
theorem groupedFields_eq_ok_iff {scope grouped : Scope} {selectors : List (Selector Plan)}
    {marked : List (Expr Plan)} :
    s.groupedFields now scope selectors = .ok (grouped, marked) ↔
      s.groupBy = [] ∧ selectors.map Selector.toExpr = marked ∧
        ⟨if s.having.isSome || selectors.any (·.expr.containsAggregate) then
          scope.frame.groupAll else scope.frame, scope.outer⟩ = grouped ∨
      s.groupBy ≠ [] ∧ ∃ G, Grouping.groupBy now scope.outer selectors s.groupBy scope.frame =
        .ok marked G ∧ ⟨G, scope.outer⟩ = grouped := by
  unfold groupedFields
  by_cases hkeys : s.groupBy = []
  · simp [hkeys, and_comm]
  · simp only [List.isEmpty_iff, hkeys, if_false, false_and, false_or, ne_eq, not_false_eq_true,
      true_and]
    split
    · next exprs G hG => simp [hG, and_comm]
    · next e G hG => simp [hG]

/-- A SELECT succeeds when its steps do. -/
theorem run_eq_ok_iff :
    s.run now outer = .ok t ↔ s.distinct = false ∧
      ∃ scope selectors grouped marked result, s.inputScope now outer = .ok scope ∧
        expand scope.frame s.fields = .ok selectors ∧
        s.groupedFields now scope selectors = .ok (grouped, marked) ∧
        fieldsTable now grouped selectors marked = .ok result ∧
        s.having.elim (.ok result) (applyHaving now · result grouped) = .ok t := by
  unfold run
  cases s.distinct with
  | true => simp
  | false =>
    cases s.having <;>
      simp only [Bool.false_eq_true, if_false, bind_eq_ok, Prod.exists, exists_and_left,
        true_and, Option.elim_none, Option.elim_some, pure_eq_ok, Except.ok.injEq]

/-- The steps of a successful SELECT. -/
theorem steps_of_run (h : s.run now outer = .ok t) :
    ∃ scope selectors grouped marked result, s.inputScope now outer = .ok scope ∧
      expand scope.frame s.fields = .ok selectors ∧
      s.groupedFields now scope selectors = .ok (grouped, marked) ∧
      fieldsTable now grouped selectors marked = .ok result ∧
      s.having.elim (.ok result) (applyHaving now · result grouped) = .ok t :=
  (run_eq_ok_iff.mp h).2

/-- HAVING keeps some of the rows. -/
theorem exists_mask_of_applyHaving {condition : Expr Plan} {result : Table} {grouped : Scope}
    (h : applyHaving now condition result grouped = .ok t) :
    ∃ mask, mask.length = result.numRows ∧ result.filter mask = t := by
  unfold applyHaving at h
  simp only [bind_eq_ok] at h
  obtain ⟨marked, -, a, -, h⟩ := h
  cases a with
  | grouped level c gs => simp at h
  | _ =>
    simp only [bind_eq_ok, pure_eq_ok] at h
    obtain ⟨mask, hmask, rfl⟩ := h
    exact ⟨mask, Evaluated.length_truthMask hmask, rfl⟩

theorem rectangular_run (h : s.run now outer = .ok t) : t.Rectangular := by
  obtain ⟨_, _, _, _, result, -, -, -, hresult, h⟩ := steps_of_run h
  obtain ⟨fields, -, hresult⟩ := bind_eq_ok.mp hresult
  have hrect := Table.rectangular_ofColumns hresult
  cases hhaving : s.having with
  | none =>
    obtain rfl : result = t := by simpa [hhaving] using h
    exact hrect
  | some c =>
    simp only [hhaving, Option.elim_some] at h
    obtain ⟨mask, hmask, rfl⟩ := exists_mask_of_applyHaving h
    exact hrect.filter hmask

end SelectOf

/-- What choosing rows keeps, ORDER BY keeps. -/
theorem OrderedOf.kept_by_sorted {σ : Type} {P : Table → Prop}
    (htake : ∀ t rows, P t → P (t.take rows)) {keys : List (Expr σ × SortOrder)}
    {named : NamedTable} {t : Table} (hnamed : P named.1) (h : sorted keys named = .ok t) :
    P t := by
  unfold sorted at h
  split at h
  · obtain rfl := Except.ok.inj h
    exact hnamed
  · obtain ⟨indices, -, h⟩ := bind_eq_ok.mp h
    obtain rfl := pure_eq_ok.mp h
    exact htake _ _ hnamed

/-- What choosing rows keeps, ORDER BY and LIMIT keep. -/
theorem OrderedOf.kept_by_run {now : Moment} {q : OrderedOf Plan (Except Error NamedTable)}
    {P : Table → Prop} (htake : ∀ t rows, P t → P (t.take rows))
    (hbase : ∀ p, q.base = .ok p → P p.1) {t : Table} (h : q.run now = .ok t) : P t := by
  unfold run at h
  by_cases hbindings : q.bindings.isEmpty
  · simp only [hbindings, Bool.not_true, Bool.false_eq_true, if_false, bind_eq_ok] at h
    obtain ⟨p, hp, sorted, hsorted, h⟩ := h
    have hkept : P sorted := kept_by_sorted htake (hbase p hp) hsorted
    unfold limited at h
    split at h
    · obtain rfl := Except.ok.inj h
      exact hkept
    · obtain ⟨count, -, h⟩ := bind_eq_ok.mp h
      have hslice : ∃ start, sorted.slice start count = t := by
        dsimp only at h
        split at h
        · obtain ⟨start, -, h⟩ := bind_eq_ok.mp h
          exact ⟨start, pure_eq_ok.mp h⟩
        · obtain ⟨start, -, h⟩ := bind_eq_ok.mp h
          exact ⟨start, pure_eq_ok.mp h⟩
      obtain ⟨start, rfl⟩ := hslice
      exact htake _ _ hkept
  · simp [hbindings] at h

/-- Only `UNION ALL` succeeds, and only on tables of the same width. -/
theorem SetOperator.run_eq_ok_iff {op : SetOperator} {left right t : Table} :
    op.run left right = .ok t ↔ op = unionAll ∧ left.columns.length = right.columns.length ∧
      ∃ types, columnTypes left right = .ok types ∧
        Table.ofColumns left.names (concat left right types) (left.numRows + right.numRows) =
          .ok t := by
  unfold run
  by_cases hwidth : left.columns.length = right.columns.length <;>
    by_cases hop : op = unionAll <;> simp [hwidth, hop]

/-- The steps of a successful set operation. -/
theorem SetOperator.steps_of_run {op : SetOperator} {left right t : Table}
    (h : op.run left right = .ok t) :
    ∃ types, columnTypes left right = .ok types ∧
      Table.ofColumns left.names (concat left right types) (left.numRows + right.numRows) =
        .ok t :=
  (run_eq_ok_iff.mp h).2.2

/-- Every table of the catalog is rectangular. -/
def Catalog.Rectangular (c : Catalog) : Prop := ∀ e ∈ c.entries, e.2.Rectangular

/-- A query over rectangular tables gives a rectangular table. -/
theorem Query.rectangular_run {env : Session} (henv : env.catalog.Rectangular) :
    ∀ {q : Query} {p : NamedTable}, q.run env = .ok p → p.1.Rectangular
  | .table r, p, h => by
    obtain ⟨path, -, h⟩ := bind_eq_ok.mp h
    split at h
    · next t ht =>
      obtain rfl := pure_eq_ok.mp h
      obtain ⟨before, after, hentries, -⟩ := List.lookup_eq_some_iff.mp ht
      exact henv (path, t) (by simp [hentries])
    · simp at h
  | .select ⟨distinct, fields, source, condition, groupBy, having⟩, p, h => by
    simp only [Query.run, bind_eq_ok, pure_eq_ok] at h
    obtain ⟨t, ht, rfl⟩ := h
    exact SelectOf.rectangular_run ht
  | .combined op left right, p, h => by
    simp only [Query.run, bind_eq_ok, pure_eq_ok] at h
    obtain ⟨l, -, r, -, t, ht, rfl⟩ := h
    obtain ⟨types, -, ht⟩ := SetOperator.steps_of_run ht
    exact Table.rectangular_ofColumns ht
  | .ordered ⟨bindings, base, orderBy, limit, offset⟩, p, h => by
    simp only [Query.run, bind_eq_ok, pure_eq_ok] at h
    obtain ⟨t, ht, rfl⟩ := h
    exact OrderedOf.kept_by_run (fun t rows _ => t.rectangular_take rows)
      (fun p hp => Query.rectangular_run henv hp) ht

/-- FROM gives plain frames, over rectangular tables. -/
theorem plain_planSource {env : Session} (henv : env.catalog.Rectangular)
    {source : Option Source} {f : Frame} (h : planSource? env source = some (.ok f)) :
    f.Plain := by
  cases source with
  | none => simp [planSource?] at h
  | some s =>
    obtain ⟨⟨q, label⟩, joins⟩ := s
    simp only [planSource?, Option.some.injEq] at h
    exact Join.plain_sourceFrame (fun p hp => Query.rectangular_run henv hp) h

end ColumnarSql
