import ColumnarSql.Proofs.EvaluationTypes
import ColumnarSql.Proofs.GroupKeys
import ColumnarSql.Proofs.Marking
import ColumnarSql.Proofs.Planning
import ColumnarSql.Proofs.RectangularTables

/-!
# The types of queries

A table is well formed when it has a name and a typed column of its length for each of its
columns. Queries over a catalog of such tables give such tables (`wellFormed_run`): the
clauses of a SELECT keep frames typed from FROM to HAVING, set operations widen both sides
to a common type, and ORDER BY and LIMIT only choose rows.
-/

set_option autoImplicit false

namespace ColumnarSql

/-! ## Tables -/

namespace Table

/-- One name for each column, one length for all columns, and values of the declared types. -/
structure WellFormed (t : Table) : Prop where
  names_length : t.names.length = t.columns.length
  lengths : ∀ c ∈ t.columns, c.length = t.numRows
  typed : ∀ c ∈ t.columns, c.Typed

/-- A table that is built of typed columns is well formed. -/
theorem wellFormed_ofColumns {names : List String} {columns : List Column} {n : Nat} {t : Table}
    (hcolumns : ∀ c ∈ columns, c.Typed) (h : ofColumns names columns n = .ok t) :
    t.WellFormed := by
  obtain ⟨hlen, hlengths, rfl⟩ := ofColumns_eq_ok h
  exact ⟨hlen, hlengths, hcolumns⟩

theorem WellFormed.take {t : Table} (h : t.WellFormed) (rows : List Nat) :
    (t.take rows).WellFormed where
  names_length := by simpa [Table.take] using h.names_length
  lengths := by simp [Table.take]
  typed := by
    simp only [Table.take, List.forall_mem_map]
    exact fun c hc => (h.typed c hc).take rows

/-- A mask over the rows of a table keeps it well formed. -/
theorem WellFormed.filter {t : Table} (h : t.WellFormed) {mask : List Bool}
    (hmask : mask.length = t.numRows) : (t.filter mask).WellFormed where
  names_length := by simpa [Table.filter] using h.names_length
  lengths := by
    simp only [Table.filter, List.forall_mem_map]
    exact fun c hc => Column.length_filter (hmask.trans (h.lengths c hc).symm)
  typed := by
    simp only [Table.filter, List.forall_mem_map]
    exact fun c hc => (h.typed c hc).filter mask

end Table

/-! ## Frames -/

namespace Frame

theorem typed_ofTable {t : Table} (h : t.WellFormed) (name : Option String) :
    (ofTable t name).Typed := by
  intro c hc
  obtain ⟨p, hp, rfl⟩ := List.mem_map.mp hc
  exact h.typed p.2 (List.of_mem_zip hp).2

/-- A change of columns into typed ones gives a typed frame. -/
theorem Typed.mapColumns {f : Frame} {n : Nat} {g : Column → Column}
    (h : ∀ c ∈ f.columns, (g c.column).Typed) : (f.mapColumns n g).Typed := by
  intro c hc
  obtain ⟨d, hd, rfl⟩ := List.mem_map.mp hc
  exact h d hd

theorem Typed.filter {f : Frame} (h : f.Typed) (mask : List Bool) : (f.filter mask).Typed :=
  Typed.mapColumns fun c hc => (h c hc).filter mask

theorem Typed.combine {f g : Frame} (hf : f.Typed) (hg : g.Typed) (left : List Nat)
    (right : List (Option Nat)) : (f.combine g left right).Typed := by
  intro c hc
  rcases List.mem_append.mp hc with hc | hc
  · exact Typed.mapColumns (fun c hc => (hf c hc).take left) c hc
  · obtain ⟨d, hd, rfl⟩ := List.mem_map.mp hc
    exact (hg d hd).takePadded right

theorem Typed.dropNamed {f : Frame} (h : f.Typed) (start : Nat) (names : List String) :
    (f.dropNamed start names).Typed := by
  intro c hc
  rcases List.mem_append.mp hc with hc | hc
  · exact h c (List.mem_of_mem_take hc)
  · exact h c (List.mem_of_mem_drop (List.mem_of_mem_filter hc))

end Frame

/-! ## FROM -/

namespace Join

/-- A query that gives well formed tables only. -/
def GivesWellFormed (q : Except Error NamedTable) : Prop := ∀ p, q = .ok p → p.1.WellFormed

/-- An item of FROM gives a typed frame. -/
theorem typed_itemFrame {item : FromItem (Except Error NamedTable)} {f : Frame}
    (hitem : GivesWellFormed item.query) (h : itemFrame item = .ok f) : f.Typed := by
  obtain ⟨p, hp, h⟩ := bind_eq_ok.mp h
  obtain rfl := pure_eq_ok.mp h
  exact Frame.typed_ofTable (hitem p hp) _

/-- A join keeps a frame typed. -/
theorem typed_extend {now : Moment} {f g : Frame} {j : JoinOf Plan (Except Error NamedTable)}
    (hf : f.Typed) (hj : GivesWellFormed j.item.query) (h : extend now f j = .ok g) :
    g.Typed := by
  obtain ⟨f', hf', h⟩ := bind_eq_ok.mp h
  have hitem := typed_itemFrame hj hf'
  split at h
  · obtain rfl := pure_eq_ok.mp h
    exact hf.combine hitem _ _
  · obtain ⟨found, -, h⟩ := bind_eq_ok.mp h
    obtain rfl := pure_eq_ok.mp h
    exact hf.combine hitem _ _
  · obtain ⟨found, -, h⟩ := bind_eq_ok.mp h
    obtain rfl := pure_eq_ok.mp h
    exact (hf.combine hitem _ _).dropNamed _ _

theorem typed_foldlM_extend {now : Moment} :
    ∀ {joins : List (JoinOf Plan (Except Error NamedTable))} {f g : Frame}, f.Typed →
      (∀ j ∈ joins, GivesWellFormed j.item.query) → joins.foldlM (extend now) f = .ok g → g.Typed
  | [], f, g, hf, _, h => by
    obtain rfl := pure_eq_ok.mp h
    exact hf
  | j :: joins, f, g, hf, hjoins, h => by
    obtain ⟨f', hf', h⟩ := bind_eq_ok.mp h
    obtain ⟨hj, hjoins⟩ := List.forall_mem_cons.mp hjoins
    exact typed_foldlM_extend (typed_extend hf hj hf') hjoins h

/-- FROM gives a typed frame. -/
theorem typed_sourceFrame {now : Moment} {s : SourceOf Plan (Except Error NamedTable)}
    {f : Frame} (hfirst : GivesWellFormed s.first.query)
    (hjoins : ∀ j ∈ s.joins, GivesWellFormed j.item.query) (h : sourceFrame now s = .ok f) :
    f.Typed := by
  obtain ⟨g, hg, h⟩ := bind_eq_ok.mp h
  exact typed_foldlM_extend (typed_itemFrame hfirst hg) hjoins h

end Join

/-! ## The clauses of SELECT -/

namespace Star

theorem mem_names_of_columnsOf? {f : Frame} {t : String} {names : List String}
    (h : f.columnsOf? t = some names) {n : String} (hn : n ∈ names) :
    ∃ d ∈ f.columns, d.name = n := by
  have hnames : (f.columns.filter (·.table = some t)).map (·.name) = names := by
    unfold Frame.columnsOf? at h
    split at h
    · simp at h
    · exact Option.some.inj h
  rw [← hnames] at hn
  obtain ⟨d, hd, rfl⟩ := List.mem_map.mp hn
  exact ⟨d, List.mem_of_mem_filter hd, rfl⟩

/-- A star stands for fields under the names of columns. -/
theorem exists_of_mem_columns {f : Frame} {s : Star Plan} {cs : List (Selector Plan)}
    (h : s.columns f = .ok cs) {c : Selector Plan} (hc : c ∈ cs) :
    ∃ d ∈ f.columns, ∃ path, c = ⟨.field path, some d.name, none⟩ := by
  unfold columns at h
  split at h
  · obtain rfl := Except.ok.inj h
    obtain ⟨d, hd, rfl⟩ := List.mem_map.mp hc
    exact ⟨d, hd, _, rfl⟩
  · split at h
    · next names hnames =>
      obtain rfl := Except.ok.inj h
      obtain ⟨n, hn, rfl⟩ := List.mem_map.mp hc
      obtain ⟨d, hd, rfl⟩ := mem_names_of_columnsOf? hnames hn
      exact ⟨d, hd, _, rfl⟩
    · simp at h
  · simp at h

/-- After the replacements too, and then a field may be a replacement. -/
theorem exists_of_mem_selectors {f : Frame} {s : Star Plan} {cs : List (Selector Plan)}
    (h : s.selectors f = .ok cs) {c : Selector Plan} (hc : c ∈ cs) :
    ∃ d ∈ f.columns, c.label = some d.name ∧
      ((∃ path, c.expr = .field path) ∨ ∃ r ∈ s.replace, c.expr = r.1) := by
  obtain ⟨ds, hds, rfl⟩ := map_eq_ok.mp h
  obtain ⟨x, hx, rfl⟩ := List.mem_map.mp hc
  obtain ⟨d, hd, path, rfl⟩ := exists_of_mem_columns hds (List.mem_of_mem_filter hx)
  refine ⟨d, hd, ?_⟩
  unfold replaced
  split
  · next r hr =>
    have hname : r.2 = d.name := by simpa using List.find?_some hr
    exact ⟨congrArg some hname, .inr ⟨r, List.mem_of_find?_eq_some hr, rfl⟩⟩
  · exact ⟨rfl, .inl ⟨path, rfl⟩⟩

end Star

namespace Grouping

variable {now : Moment} {outer : List Frame} {selectors : List (Selector Plan)}

/-- Computed keys are typed as their expressions are. -/
theorem Keyed.typed {f g : Frame} (h : Keyed now outer selectors f g)
    (houter : ∀ o ∈ outer, o.Typed) (hselectors : ∀ s ∈ selectors, s.expr.ConstantsConform)
    (hf : f.Typed) : g.Typed := by
  induction h with
  | start => exact hf
  | @compute g name s a c _ _ selector result column _ ih =>
    intro d hd
    rcases List.mem_append.mp hd with hd | hd
    · exact ih d hd
    · obtain rfl := List.mem_singleton.mp hd
      have hs := hselectors s (List.mem_of_find?_eq_some selector)
      have htyped : Scope.Typed ⟨g, outer⟩ := List.forall_mem_cons.mpr ⟨ih, houter⟩
      exact (Expr.eval_typed hs htyped result).toColumn column

end Grouping

namespace SelectOf

variable {now : Moment}

/-- A field of the expanded list is written there, or a star stands for it: then it is named
for a column, and it is that column or a replacement. -/
theorem exists_of_mem_expand {f : Frame} {fields : List (SelectField Plan)}
    {selectors : List (Selector Plan)} (h : expand f fields = .ok selectors)
    {x : Selector Plan} (hx : x ∈ selectors) :
    .one x ∈ fields ∨ ∃ t, .star t ∈ fields ∧ ∃ d ∈ f.columns, x.label = some d.name ∧
      ((∃ path, x.expr = .field path) ∨ ∃ r ∈ t.replace, x.expr = r.1) := by
  obtain ⟨parts, hparts, h⟩ := bind_eq_ok.mp h
  obtain rfl := pure_eq_ok.mp h
  obtain ⟨part, hpart, hx⟩ := List.mem_flatten.mp hx
  obtain ⟨⟨field, i⟩, hp, hfield⟩ := exists_of_mem_mapM hparts hpart
  have hmem : field ∈ fields := (List.mem_zipIdx hp).2.2 ▸ List.getElem_mem _
  cases field with
  | one y =>
    obtain rfl := Except.ok.inj hfield
    obtain rfl := List.mem_singleton.mp hx
    exact .inl hmem
  | star t =>
    obtain ⟨ss, hss, rfl⟩ := map_eq_ok.mp hfield
    obtain ⟨c, hc, rfl⟩ := List.mem_map.mp hx
    obtain ⟨d, hd, hlabel, hexpr⟩ := Star.exists_of_mem_selectors hss hc
    exact .inr ⟨t, hmem, d, hd, hlabel, hexpr⟩

/-- What holds of fields and of the expressions of the list holds of the expanded list. -/
theorem forall_expand {P : Expr Plan → Prop} (hfield : ∀ path, P (.field path)) {f : Frame}
    {fields : List (SelectField Plan)} {selectors : List (Selector Plan)}
    (hfields : ∀ e ∈ fields.flatMap SelectField.exprs, P e)
    (h : expand f fields = .ok selectors) : ∀ x ∈ selectors, P x.expr := by
  intro x hx
  rcases exists_of_mem_expand h hx with hone | ⟨t, ht, -, -, -, ⟨path, hpath⟩ | ⟨r, hr, hexpr⟩⟩
  · exact hfields _ (List.mem_flatMap.mpr ⟨_, hone, List.mem_singleton_self _⟩)
  · exact hpath ▸ hfield path
  · refine hfields _ (List.mem_flatMap.mpr ⟨_, ht, ?_⟩)
    exact List.mem_append_right _ (hexpr ▸ List.mem_map_of_mem hr)

/-- FROM and WHERE give a typed scope. -/
theorem typed_inputScope {s : SelectOf Plan (Except Error Frame)} {outer : List Frame}
    {scope : Scope} (hsource : ∀ f, s.source = some (.ok f) → f.Typed)
    (houter : ∀ o ∈ outer, o.Typed) (h : s.inputScope now outer = .ok scope) : scope.Typed := by
  obtain ⟨rfl, hframe⟩ := kept_by_inputScope (by simp [Frame.Typed, Frame.ofRows]) hsource
    (fun f mask _ hf => hf.filter mask) h
  exact List.forall_mem_cons.mpr ⟨hframe, houter⟩

/-- What holds of the fields, and of an expression after marking if it holds before, holds of the
marked fields. -/
theorem forall_marked {P : Expr Plan → Prop}
    (hmark : ∀ isKey e e', P e → e.mark isKey = .ok e' → P e')
    {s : SelectOf Plan (Except Error Frame)} {scope grouped : Scope}
    {selectors : List (Selector Plan)} {marked : List (Expr Plan)}
    (hfields : ∀ x ∈ selectors, P x.toExpr)
    (h : s.groupedFields now scope selectors = .ok (grouped, marked)) : ∀ e ∈ marked, P e := by
  rcases groupedFields_eq_ok_iff.mp h with ⟨-, rfl, -⟩ | ⟨-, G, hG, -⟩
  · exact List.forall_mem_map.mpr hfields
  · obtain ⟨_, _, _, -, -, -, hmarked⟩ := Grouping.groupBy_eq_ok_iff.mp hG
    intro e he
    obtain ⟨x, hx, hxe⟩ := exists_of_mem_mapM hmarked he
    exact hmark _ _ _ (hfields x hx) hxe

/-- Marking keeps the constants. -/
theorem constants_mark {isKey : List String → Except Error Bool} {e e' : Expr Plan}
    (he : e.ConstantsConform) (h : e.mark isKey = .ok e') : e'.ConstantsConform := by
  refine Expr.every_mark (fun d hd _ => ?_) he h
  cases d with
  | literal l => exact absurd rfl (hd l)
  | _ => rfl

/-- Grouping keeps the scope typed, and marks keep the constants in their types. -/
theorem typed_groupedFields {s : SelectOf Plan (Except Error Frame)} {scope grouped : Scope}
    {selectors : List (Selector Plan)} {exprs : List (Expr Plan)} (hscope : scope.Typed)
    (hselectors : ∀ t ∈ selectors, t.expr.ConstantsConform)
    (h : s.groupedFields now scope selectors = .ok (grouped, exprs)) :
    grouped.Typed ∧ ∀ e ∈ exprs, e.ConstantsConform := by
  obtain ⟨hframe, houter⟩ := List.forall_mem_cons.mp hscope
  have hmarked : ∀ e ∈ exprs, e.ConstantsConform :=
    forall_marked (fun _ _ _ => constants_mark)
      (fun t ht => .intro rfl (by simpa [Selector.toExpr, Expr.children] using hselectors t ht)) h
  refine ⟨?_, hmarked⟩
  rcases groupedFields_eq_ok_iff.mp h with ⟨-, -, rfl⟩ | ⟨-, G, hgroup, rfl⟩
  · refine List.forall_mem_cons.mpr ⟨?_, houter⟩
    split <;> exact hframe
  · obtain ⟨g, paths, columns, hkeyed, -, rfl, -⟩ := Grouping.groupBy_eq_ok hgroup
    exact List.forall_mem_cons.mpr ⟨hkeyed.typed houter hselectors hframe, houter⟩

/-- Fields over a typed scope make a well formed table. -/
theorem wellFormed_fieldsTable {scope : Scope} {selectors : List (Selector Plan)}
    {exprs : List (Expr Plan)} {t : Table} (hscope : scope.Typed)
    (hexprs : ∀ e ∈ exprs, e.ConstantsConform)
    (h : fieldsTable now scope selectors exprs = .ok t) : t.WellFormed := by
  obtain ⟨fields, hfields, h⟩ := bind_eq_ok.mp h
  refine Table.wellFormed_ofColumns (fun c hc => ?_) h
  obtain ⟨q, hq, rfl⟩ := List.mem_map.mp hc
  obtain ⟨p, hp, hfield⟩ := exists_of_mem_mapM hfields hq
  obtain ⟨-, a, ha, hcolumn⟩ := fieldColumn_eq_ok_iff.mp hfield
  exact (Expr.eval_typed (hexprs p.2 (List.of_mem_zip hp).2) hscope ha).toColumn hcolumn

/-- A SELECT over a typed source gives a well formed table. -/
theorem wellFormed_run {s : SelectOf Plan (Except Error Frame)} {outer : List Frame} {t : Table}
    (hs : ∀ e ∈ s.exprs, e.ConstantsConform)
    (hsource : ∀ f, s.source = some (.ok f) → f.Typed) (houter : ∀ o ∈ outer, o.Typed)
    (h : s.run now outer = .ok t) : t.WellFormed := by
  obtain ⟨scope, selectors, grouped, marked, result, hscope, hselectors, hgrouped, hresult, h⟩ :=
    steps_of_run h
  have hfields : ∀ e ∈ s.fields.flatMap SelectField.exprs, e.ConstantsConform :=
    fun e he => hs e (by simp only [SelectOf.exprs, List.mem_append, he, true_or])
  obtain ⟨hgrouped, hmarked⟩ := typed_groupedFields (typed_inputScope hsource houter hscope)
    (forall_expand (fun _ => .leaf rfl rfl) hfields hselectors) hgrouped
  have hwell := wellFormed_fieldsTable hgrouped hmarked hresult
  cases hhaving : s.having with
  | none =>
    obtain rfl : result = t := by simpa [hhaving] using h
    exact hwell
  | some c =>
    simp only [hhaving, Option.elim_some] at h
    obtain ⟨mask, hmask, rfl⟩ := exists_mask_of_applyHaving h
    exact hwell.filter hmask

end SelectOf

/-! ## Queries -/

namespace SetOperator

/-- Columns one below the other belong to their common types. -/
theorem typed_concat :
    ∀ {ls rs : List Column} {types : List ColumnType}, (∀ c ∈ ls, c.Typed) → (∀ c ∈ rs, c.Typed) →
      ((ls.map Column.type).zip (rs.map Column.type)).mapM (fun p => p.1.coerce p.2) = .ok types →
      ∀ c ∈ ((ls.zip rs).zip types).map (fun p => p.1.1.concat p.1.2 p.2), c.Typed
  | [], rs, types, _, _, _ => by simp
  | _ :: _, [], types, _, _, _ => by simp
  | l :: ls, r :: rs, types, hl, hr, h => by
    obtain ⟨hl, hls⟩ := List.forall_mem_cons.mp hl
    obtain ⟨hr, hrs⟩ := List.forall_mem_cons.mp hr
    simp only [List.map_cons, List.zip_cons_cons, List.mapM_cons, bind_eq_ok, pure_eq_ok] at h
    obtain ⟨t, ht, rest, hrest, rfl⟩ := h
    obtain ⟨hlt, hrt⟩ := ColumnType.below_coerce ht
    simp only [List.zip_cons_cons, List.map_cons, List.forall_mem_cons]
    refine ⟨fun v hv => ?_, typed_concat hls hrs hrest⟩
    rcases List.mem_append.mp hv with hv | hv
    · have hconforms := hl.widen hlt v hv
      rwa [Column.type_widen] at hconforms
    · have hconforms := hr.widen hrt v hv
      rwa [Column.type_widen] at hconforms

theorem columnTypes_eq_ok_iff {left right : Table} {types : List ColumnType} :
    columnTypes left right = .ok types ↔
      List.Forall₂ (fun p t => p.1.type.coerce p.2.type = .ok t)
        (left.columns.zip right.columns) types := by
  have hzip : left.types.zip right.types =
      (left.columns.zip right.columns).map (Prod.map Column.type Column.type) :=
    List.zip_map ..
  rw [columnTypes, hzip, mapM_eq_ok_iff, List.forall₂_map_left_iff]
  rfl

/-- Stacked columns have one length, and there is a name for each. -/
theorem ofColumns_concat {left right : Table} {types : List ColumnType} (hl : left.WellFormed)
    (hr : right.WellFormed) (hwidth : left.columns.length = right.columns.length)
    (htypes : columnTypes left right = .ok types) :
    Table.ofColumns left.names (concat left right types) (left.numRows + right.numRows) =
      .ok ⟨left.names, concat left right types, left.numRows + right.numRows⟩ := by
  have hlen := (columnTypes_eq_ok_iff.mp htypes).length_eq
  refine Table.ofColumns_of_lengths ?_ fun c hc => ?_
  · simp [concat, hl.names_length, ← hlen, ← hwidth]
  · obtain ⟨⟨p, t⟩, hp, rfl⟩ := List.mem_map.mp hc
    have hmem := List.of_mem_zip (List.of_mem_zip hp).1
    rw [Column.length_concat, hl.lengths _ hmem.1, hr.lengths _ hmem.2]

/-- A set operation of well formed tables gives a well formed one. -/
theorem wellFormed_run {op : SetOperator} {left right t : Table} (hl : left.WellFormed)
    (hr : right.WellFormed) (h : op.run left right = .ok t) : t.WellFormed := by
  obtain ⟨types, htypes, h⟩ := steps_of_run h
  exact Table.wellFormed_ofColumns (typed_concat hl.typed hr.typed htypes) h

end SetOperator

/-- Every table of the catalog is well formed. -/
def Catalog.WellFormed (c : Catalog) : Prop := ∀ e ∈ c.entries, e.2.WellFormed

theorem Catalog.WellFormed.get? {c : Catalog} (h : c.WellFormed) {path : TablePath} {t : Table}
    (ht : c.get? path = some t) : t.WellFormed := by
  obtain ⟨before, after, hentries, -⟩ := List.lookup_eq_some_iff.mp ht
  exact h (path, t) (by simp [hentries])

/-- A reference gives the table that its path names, with the name of the table. -/
theorem TableReference.run_eq_ok_iff {c : Catalog} {r : TableReference} {p : NamedTable} :
    r.run c = .ok p ↔ ∃ path t, r.qualify c = .ok path ∧ c.get? path = some t ∧
      p = (t, some path.table) := by
  simp only [run, bind_eq_ok]
  refine exists_congr fun path => ?_
  cases c.get? path with
  | none => simp
  | some t => simp [pure_eq_ok, eq_comm (b := p)]

theorem TableReference.wellFormed_run {c : Catalog} {r : TableReference} {p : NamedTable}
    (hc : c.WellFormed) (h : r.run c = .ok p) : p.1.WellFormed := by
  obtain ⟨path, t, -, ht, rfl⟩ := run_eq_ok_iff.mp h
  exact hc.get? ht

/-- Planning keeps the constants. -/
theorem constants_planExpr (env : Session) {e : Expr Select} (h : e.ConstantsConform) :
    (planExpr env e).ConstantsConform := by
  refine every_planExpr env (fun e he => ?_) h
  cases e <;> exact he

/-- The expressions of a planned SELECT are the planned expressions of the SELECT. -/
theorem exprs_planned (env : Session) (source : Option Source)
    (plannedSource : Option (Except Error Frame)) {distinct : Bool}
    {fields : List (SelectField Select)}
    {condition having : Option (Expr Select)} {groupBy : List (Expr Select)} :
    (⟨distinct, planFields env fields, plannedSource, planExpr? env condition,
      planExprs env groupBy, planExpr? env having⟩ : SelectOf Plan (Except Error Frame)).exprs =
    (⟨distinct, fields, source, condition, groupBy, having⟩ : SelectOf Select Source).exprs.map
      (planExpr env) := by
  cases condition <;> cases having <;>
    simp [SelectOf.exprs, flatMap_exprs_planFields, planExpr?, planExprs_eq_map]

mutual

theorem typed_planSource {env : Session} (henv : env.catalog.WellFormed) :
    ∀ {source : Option Source}, (∀ e ∈ sourceExprs? source, e.ConstantsConform) →
      ∀ f, planSource? env source = some (.ok f) → f.Typed
  | none, _, f, h => by simp [planSource?] at h
  | some ⟨⟨q, label⟩, joins⟩, he, f, h => by
    simp only [planSource?, Option.some.injEq] at h
    simp only [sourceExprs?, List.mem_append] at he
    exact Join.typed_sourceFrame (fun p hp => wellFormed_query henv (fun e h => he e (.inl h)) hp)
      (wellFormed_planJoins henv fun e h => he e (.inr h)) h

theorem wellFormed_planJoins {env : Session} (henv : env.catalog.WellFormed) :
    ∀ {joins : List (JoinOf Select Query)}, (∀ e ∈ joinExprs joins, e.ConstantsConform) →
      ∀ j ∈ planJoins env joins, Join.GivesWellFormed j.item.query
  | [], _, j, hj => by simp [planJoins] at hj
  | ⟨kind, ⟨q, label⟩, condition⟩ :: js, he, j, hj => by
    simp only [joinExprs, List.mem_append] at he
    have hq : Join.GivesWellFormed (q.run env) :=
      fun p hp => wellFormed_query henv (fun e h => he e (.inl (.inl h))) hp
    have hjs := wellFormed_planJoins henv fun e h => he e (.inr h)
    have hplanned : j.item.query = q.run env ∨ j ∈ planJoins env js := by
      cases condition <;>
        · simp only [planJoins, List.mem_cons] at hj
          refine hj.imp (fun h => ?_) id
          rw [h]
    rcases hplanned with h | h
    · exact h ▸ hq
    · exact hjs j h

/-- A query over well formed tables gives a well formed one. -/
theorem wellFormed_query {env : Session} (henv : env.catalog.WellFormed) :
    ∀ {q : Query}, (∀ e ∈ q.exprs, e.ConstantsConform) →
      ∀ {p : NamedTable}, q.run env = .ok p → p.1.WellFormed
  | .table r, _, p, h => TableReference.wellFormed_run henv h
  | .select ⟨distinct, fields, source, condition, groupBy, having⟩, he, p, h => by
    simp only [Query.exprs, Select.exprs, List.mem_append] at he
    simp only [Query.run, bind_eq_ok, pure_eq_ok] at h
    obtain ⟨t, ht, rfl⟩ := h
    refine SelectOf.wellFormed_run ?_ (typed_planSource henv fun e h => he e (.inl h)) (by simp) ht
    rw [exprs_planned env none, List.forall_mem_map]
    exact fun e h => constants_planExpr env (he e (.inr h))
  | .combined op left right, he, p, h => by
    simp only [Query.exprs, List.mem_append] at he
    simp only [Query.run, bind_eq_ok, pure_eq_ok] at h
    obtain ⟨l, hl, r, hr, t, ht, rfl⟩ := h
    exact SetOperator.wellFormed_run (wellFormed_query henv (fun e h => he e (.inl h)) hl)
      (wellFormed_query henv (fun e h => he e (.inr h)) hr) ht
  | .ordered ⟨bindings, base, orderBy, limit, offset⟩, he, p, h => by
    simp only [Query.exprs, List.mem_append] at he
    simp only [Query.run, bind_eq_ok, pure_eq_ok] at h
    obtain ⟨t, ht, rfl⟩ := h
    exact OrderedOf.kept_by_run (fun t rows h => h.take rows) (fun p hp =>
      wellFormed_query henv (fun e h => he e (.inl (.inl (.inl h)))) hp) ht

end

/-- A query over well formed tables, whose constants belong to their types, gives a table
with as many names as columns, columns of its length, and values of their types. -/
theorem type_soundness {env : Session} {q : Query} {t : Table} {name : Option String}
    (henv : env.catalog.WellFormed) (hq : ∀ e ∈ q.exprs, e.ConstantsConform)
    (h : q.run env = .ok (t, name)) :
    t.names.length = t.columns.length ∧ (∀ c ∈ t.columns, c.length = t.numRows) ∧
      ∀ c ∈ t.columns, ∀ v ∈ c.values, v.conforms c.type := by
  have hwell := wellFormed_query henv hq h
  exact ⟨hwell.names_length, hwell.lengths, hwell.typed⟩

def newYear : Moment := .ofDate ⟨2024, 1, 1, by decide⟩

/-- A table of integers under the path `p.d.t`. -/
def integersOnly : Session where
  catalog := ⟨[(⟨"p", "d", "t"⟩, ⟨["a"], [⟨[.integer 1, .null], some .integer⟩], 2⟩)]⟩
  now := newYear

/-- The column of integers and a double, added up. -/
def halfMore : Query :=
  .select ⟨false,
    [.one ⟨.binary .add (.field ["a"]) (.literal ⟨.float 0.5, some .float⟩), some "s", some 1⟩],
    some ⟨⟨.table ⟨["t"], by decide, by decide⟩, none⟩, []⟩, none, [], none⟩

/-- The sum of a column of integers and a double is a column of doubles. -/
theorem type_soundness_sum :
    (integersOnly.catalog.WellFormed ∧ (∀ e ∈ halfMore.exprs, e.ConstantsConform) ∧
      halfMore.run integersOnly =
        .ok (⟨["s"], [⟨[.float 1.5, .null], some .float⟩], 2⟩, none)) ∧
    ∀ v ∈ [Value.float 1.5, .null], v.conforms (some .float) := by
  have hcatalog : integersOnly.catalog.WellFormed := by
    intro e he
    obtain rfl := List.mem_singleton.mp he
    refine ⟨rfl, fun c hc => ?_, fun c hc v hv => ?_⟩
    · obtain rfl := List.mem_singleton.mp hc
      rfl
    · obtain rfl := List.mem_singleton.mp hc
      rcases List.mem_pair.mp hv with rfl | rfl <;> rfl
  have hconstants : ∀ e ∈ halfMore.exprs, e.ConstantsConform := by
    intro e he
    obtain rfl := List.mem_singleton.mp he
    refine .intro rfl fun c hc => ?_
    rcases List.mem_pair.mp hc with rfl | rfl <;> exact .leaf rfl rfl
  have hrun : halfMore.run integersOnly =
      .ok (⟨["s"], [⟨[.float 1.5, .null], some .float⟩], 2⟩, none) := by
    rfl
  have hsound := type_soundness hcatalog hconstants hrun
  exact ⟨⟨hcatalog, hconstants, hrun⟩, hsound.2.2 _ (List.mem_singleton_self _)⟩

end ColumnarSql
