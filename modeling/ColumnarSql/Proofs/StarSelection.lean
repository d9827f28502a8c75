import ColumnarSql.Proofs.ColumnKeys
import ColumnarSql.Proofs.JoinRows

/-!
# SELECT *

A star stands for one field for each column, which names the column by its own path
(`ScopeColumn.parts`). The path finds the column again when no other column answers it, and is
ambiguous otherwise (`Frame.find_parts_of_mem`). So `SELECT *` gives the columns of FROM, in their
order and unchanged, where every column can be told by its path (`Frame.NamesApart`), and fails
over the path of one of them where some cannot (`select_star`).
-/

set_option autoImplicit false

namespace ColumnarSql

/-! ## Own paths -/

namespace Frame

/-- Columns of one name are in different tables, so that the path of none of them is that of
another. -/
def NamesApart (f : Frame) : Prop :=
  f.columns.Pairwise fun c d =>
    c.name = d.name → c.table.isSome ∧ d.table.isSome ∧ c.table ≠ d.table

instance : DecidablePred NamesApart := fun f =>
  inferInstanceAs (Decidable (f.columns.Pairwise _))

variable {f : Frame} {c : ScopeColumn}

/-- The path of a column finds it, or several columns. -/
theorem find_parts_of_mem (hc : c ∈ f.columns) :
    f.find c.parts = .ok (some c) ∨ ∃ ps, f.find c.parts = .error (.ambiguousField c.parts ps) := by
  have hmem : c ∈ f.columns.filter (·.answers c.parts) :=
    List.mem_filter.mpr ⟨hc, c.answers_parts⟩
  unfold find
  generalize f.columns.filter (·.answers c.parts) = found at hmem
  rcases found with _ | ⟨d, _ | ⟨e, rest⟩⟩
  · simp at hmem
  · obtain rfl := List.mem_singleton.mp hmem
    exact .inl rfl
  · exact .inr ⟨_, rfl⟩

/-- The path of neither of two columns is answered by the other. -/
theorem namesApart_iff_pairwise : f.NamesApart ↔
    f.columns.Pairwise fun c d => ¬d.answers c.parts ∧ ¬c.answers d.parts := by
  refine ⟨fun h => h.imp fun {c d} hcd => ?_, fun h => h.imp fun {c d} hcd hname => ?_⟩
  · simp only [ScopeColumn.answers_parts_iff]
    constructor <;> rintro ⟨hname, htable⟩
    · obtain ⟨hc, -, hne⟩ := hcd hname.symm
      rcases htable with hnone | heq
      · simp [hnone] at hc
      · exact hne heq.symm
    · obtain ⟨-, hd, hne⟩ := hcd hname
      rcases htable with hnone | heq
      · simp [hnone] at hd
      · exact hne heq
  · simp only [ScopeColumn.answers_parts_iff, hname, true_and, not_or] at hcd
    exact ⟨Option.isSome_iff_ne_none.mpr hcd.1.1, Option.isSome_iff_ne_none.mpr hcd.2.1, hcd.2.2⟩

/-- The names are apart when every column is found by its own path. -/
theorem namesApart_iff : f.NamesApart ↔ ∀ c ∈ f.columns, f.find c.parts = .ok (some c) := by
  rw [namesApart_iff_pairwise]
  constructor
  · intro h c hc
    obtain ⟨before, after, hcolumns⟩ := List.append_of_mem hc
    rw [hcolumns, List.pairwise_append, List.pairwise_cons] at h
    obtain ⟨-, ⟨hafter, -⟩, hbefore⟩ := h
    have hnone : before.filter (·.answers c.parts) = [] ∧ after.filter (·.answers c.parts) = [] :=
      ⟨List.filter_eq_nil_iff.mpr fun d hd => (hbefore d hd c List.mem_cons_self).2,
        List.filter_eq_nil_iff.mpr fun d hd => (hafter d hd).1⟩
    rw [find_eq_some_iff, hcolumns, List.filter_append, List.filter_cons, if_pos c.answers_parts,
      hnone.1, hnone.2, List.nil_append]
  · intro h
    -- Two columns, one before the other, that answer one path are two answers to it.
    have hone : ∀ {c d e : ScopeColumn}, [c, d].Sublist f.columns →
        e ∈ f.columns → c.answers e.parts → ¬d.answers e.parts := by
      intro c d e hsub he hc hd
      have hfound : [c, d].Sublist (f.columns.filter (·.answers e.parts)) := by
        simpa [hc, hd] using hsub.filter (·.answers e.parts)
      rw [find_eq_some_iff.mp (h e he)] at hfound
      simpa using hfound.length_le
    refine List.pairwise_iff_forall_sublist.mpr fun {c d} hsub => ?_
    exact ⟨hone hsub (hsub.subset (by simp)) c.answers_parts,
      fun hc => hone hsub (hsub.subset (by simp)) hc d.answers_parts⟩

end Frame

/-! ## The fields of a star -/

/-- The columns of a frame as a table. -/
def Frame.toTable (f : Frame) : Table :=
  ⟨f.columns.map (·.name), f.columns.map (·.column), f.numRows⟩

namespace SelectOf

variable {now : Moment} {f : Frame} {outer : List Frame}

/-- The field a first star stands for, for a column. -/
def starField (c : ScopeColumn) : Selector Plan := ⟨.field c.parts, some c.name, some 1⟩

/-- `SELECT *` from a source. -/
def star {σ φ : Type} (source : φ) : SelectOf σ φ :=
  ⟨false, [.star ⟨none, [], []⟩], some source, none, [], none⟩

theorem expand_star (f : Frame) :
    expand f [.star ⟨none, [], []⟩] = .ok (f.columns.map starField) := by
  have hselectors : (⟨none, [], []⟩ : Star Plan).selectors f =
      .ok (f.columns.map fun c => ⟨.field c.parts, some c.name, none⟩) := by
    simp only [Star.selectors, Star.columns, map_eq_ok, Except.ok.injEq, exists_eq_left']
    rw [List.filter_eq_self.mpr fun x _ => by cases x.label <;> rfl, List.map_map]
    rfl
  simp only [expand, List.zipIdx, List.mapM_cons, List.mapM_nil, hselectors]
  simp [starField, Except.map, pure, Except.pure, bind, Except.bind]

/-- A field of a star is its column, if the column's path finds it. -/
theorem fieldColumn_starField (hf : f.Plain) {c : ScopeColumn} (hc : c ∈ f.columns) :
    fieldColumn now ⟨f, outer⟩ (starField c) (starField c).toExpr =
      (f.find c.parts).map fun _ => (c.name, c.column) := by
  rcases Frame.find_parts_of_mem hc with hfind | ⟨ps, hfind⟩
  · have hread : (starField c).toExpr.eval now ⟨f, outer⟩ = .ok (.column c.column) := by
      simp [starField, Selector.toExpr, Expr.eval, Scope.lookup,
        Scope.lookupFrom_of_find outer hfind, Frame.read, hf.ungrouped]
    rw [hfind]
    refine fieldColumn_eq_ok_iff.mpr ⟨rfl, _, hread, ?_⟩
    simp [Evaluated.toColumn, Frame.outputLength, hf.ungrouped, hf.uniform c hc]
  · have hread : (starField c).toExpr.eval now ⟨f, outer⟩ =
        .error (.ambiguousField c.parts ps) := by
      cases outer <;>
        simp [starField, Selector.toExpr, Expr.eval, Scope.lookup, Scope.lookupFrom, hfind, bind,
          Except.bind]
    rw [hfind, fieldColumn, hread]
    rfl

/-- The table of `SELECT *` is that of the star's fields. -/
theorem run_star (f : Frame) :
    (star (.ok f)).run now outer = fieldsTable now ⟨f, outer⟩ (f.columns.map starField)
      ((f.columns.map starField).map Selector.toExpr) := by
  have hinput : (star (.ok f)).inputScope now outer = .ok ⟨f, outer⟩ := rfl
  have hplain : (f.columns.map starField).any (·.expr.containsAggregate) = false := by
    simp [starField, Expr.containsAggregate]
  have hgrouped : (star (.ok f)).groupedFields now ⟨f, outer⟩ (f.columns.map starField) =
      .ok (⟨f, outer⟩, (f.columns.map starField).map Selector.toExpr) := by
    simp [groupedFields, star, hplain]
  have hexpand : expand f (star (.ok f) : SelectOf Plan (Except Error Frame)).fields =
      .ok (f.columns.map starField) := expand_star f
  have hhaving : (star (.ok f) : SelectOf Plan (Except Error Frame)).having = none := rfl
  simp only [run, hinput, hexpand, hgrouped, hhaving, bind, Except.bind, pure, Except.pure]
  cases fieldsTable now ⟨f, outer⟩ (f.columns.map starField)
    ((f.columns.map starField).map Selector.toExpr) <;> rfl

/-- The fields of a star, one by one. -/
theorem zip_starFields (f : Frame) :
    (f.columns.map starField).zip ((f.columns.map starField).map Selector.toExpr) =
      f.columns.map fun c => (starField c, (starField c).toExpr) := by
  rw [List.map_map, List.zip_map']
  rfl

/-- A star of columns that are found by their paths gives these columns. -/
theorem fieldsTable_star (hf : f.Plain) (hfind : ∀ c ∈ f.columns, f.find c.parts = .ok (some c)) :
    fieldsTable now ⟨f, outer⟩ (f.columns.map starField)
      ((f.columns.map starField).map Selector.toExpr) = .ok f.toTable := by
  refine bind_eq_ok.mpr ⟨f.columns.map fun c => (c.name, c.column), ?fields, ?table⟩
  case fields =>
    rw [zip_starFields, mapM_eq_ok_iff, List.forall₂_map_left_iff, List.forall₂_map_right_iff,
      List.forall₂_same]
    intro c hc
    rw [fieldColumn_starField hf hc, hfind c hc]
    rfl
  case table =>
    have hlength : (⟨f, outer⟩ : Scope).frame.outputLength = f.numRows := by
      simp [Frame.outputLength, hf.ungrouped]
    rw [hlength]
    refine (Table.ofColumns_of_lengths (by simp) ?_).trans (by simp [Frame.toTable])
    simpa using fun c hc => hf.uniform c hc

/-- A star fails over the path of a column that is not found by it. -/
theorem fieldsTable_star_error (hf : f.Plain) {d : ScopeColumn} (hd : d ∈ f.columns)
    (hfind : f.find d.parts ≠ .ok (some d)) :
    ∃ c ∈ f.columns, ∃ candidates, fieldsTable now ⟨f, outer⟩ (f.columns.map starField)
      ((f.columns.map starField).map Selector.toExpr) =
        .error (.ambiguousField c.parts candidates) := by
  have hfield : ∀ c ∈ f.columns, ∀ ps, f.find c.parts = .error (.ambiguousField c.parts ps) →
      fieldColumn now ⟨f, outer⟩ (starField c) (starField c).toExpr =
        .error (.ambiguousField c.parts ps) := by
    intro c hc ps hps
    rw [fieldColumn_starField hf hc, hps]
    rfl
  unfold fieldsTable
  rw [zip_starFields]
  rcases exists_ok_or_error ((f.columns.map fun c => (starField c, (starField c).toExpr)).mapM
    fun p => fieldColumn now ⟨f, outer⟩ p.1 p.2) with ⟨fields, hok⟩ | ⟨e, herror⟩
  · obtain ⟨p, -, hp⟩ := exists_of_mem_of_mapM hok (List.mem_map_of_mem hd)
    obtain ⟨ps, hps⟩ := (Frame.find_parts_of_mem hd).resolve_left hfind
    simp [hfield d hd ps hps] at hp
  · obtain ⟨p, hp, hfails⟩ := exists_of_mapM_error herror
    obtain ⟨c, hc, rfl⟩ := List.mem_map.mp hp
    rcases Frame.find_parts_of_mem hc with hfound | ⟨ps, hps⟩
    · simp [fieldColumn_starField hf hc, hfound, Except.map] at hfails
    · obtain rfl := Except.error.inj ((hfield c hc ps hps).symm.trans hfails)
      exact ⟨c, hc, ps, by rw [herror]; rfl⟩

end SelectOf

/-- `SELECT *` over a FROM clause that gives a frame gives its columns, with their names, types
and values, if the path of every column is answered by that column alone. Otherwise it fails over
the path of one of the columns. -/
theorem select_star {env : Session} (henv : env.catalog.Rectangular) {source : Source} {f : Frame}
    (hf : planSource? env (some source) = some (.ok f)) (outer : List Frame) :
    (f.NamesApart → (Select.mk (.star source)).plan env outer = .ok f.toTable) ∧
    (¬f.NamesApart → ∃ c ∈ f.columns, ∃ candidates,
      (Select.mk (.star source)).plan env outer =
        .error (.ambiguousField c.parts candidates)) := by
  have hplain := plain_planSource henv hf
  have hplan : (Select.mk (.star source)).plan env outer =
      (SelectOf.star (.ok f)).run env.now outer := by
    rw [SelectOf.plan_mk, SelectOf.planned, SelectOf.star, hf]
    rfl
  rw [hplan, SelectOf.run_star, Frame.namesApart_iff]
  refine ⟨SelectOf.fieldsTable_star hplain, fun hfind => ?_⟩
  obtain ⟨d, hd, hd'⟩ : ∃ d ∈ f.columns, f.find d.parts ≠ .ok (some d) := by
    simpa only [not_forall, exists_prop] using hfind
  exact SelectOf.fieldsTable_star_error hplain hd hd'

theorem select_star_left_join :
    let source : Source := ⟨itemL, [⟨.left, itemR, .on sameKey⟩]⟩
    let joined := Join.combine (.ofTable tableL (some "l")) (.ofTable tableR (some "r"))
      [(0, none), (1, some 0), (1, some 1), (2, none)]
    (twoTables.catalog.Rectangular ∧ planSource? twoTables (some source) = some (.ok joined) ∧
      joined.NamesApart) ∧
    (Select.mk (.star source)).plan twoTables [] =
      .ok ⟨["x", "y"], [⟨[.integer 1, .integer 2, .integer 2, .null], some .integer⟩,
        ⟨[.null, .integer 2, .integer 2, .null], some .integer⟩], 4⟩ := by
  intro source joined
  have hrows : twoTables.catalog.Rectangular := by
    simp [Catalog.Rectangular, twoTables, Table.Rectangular, tableL, tableR, Column.length]
  have hsource : planSource? twoTables (some source) = some (.ok joined) := rfl
  have happart : joined.NamesApart := by decide
  exact ⟨⟨hrows, hsource, happart⟩, (select_star hrows hsource []).1 happart⟩

/-- `(SELECT v AS x)`, without an alias. -/
def oneColumn (v : Int64) : FromItem Query :=
  ⟨.select (.mk ⟨false, [.one ⟨.literal (.ofValue (.integer v)), some "x", some 1⟩], none, none,
    [], none⟩), none⟩

/-- Two columns of one name without a table stand beside each other in FROM, and a star fails
over them. -/
theorem select_star_repeated_name :
    let source : Source := ⟨oneColumn 1, [⟨.cross, oneColumn 2, .none⟩]⟩
    (planSource? ⟨⟨[]⟩, twoTables.now⟩ (some source)).map (Except.map Frame.rows) =
        some (.ok [[.integer 1, .integer 2]]) ∧
      (Select.mk (.star source)).plan ⟨⟨[]⟩, twoTables.now⟩ [] =
        .error (.ambiguousField ["x"] ["x", "x"]) :=
  ⟨rfl, rfl⟩

end ColumnarSql
