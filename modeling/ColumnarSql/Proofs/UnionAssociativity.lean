import ColumnarSql.Proofs.QueryTypes
import ColumnarSql.Proofs.Widening
import Mathlib.Algebra.GroupWithZero.Nat

/-!
# UNION ALL is associative

A table stacks a list of tables when it has the names of the first, and in each column the
values of all of them in order, each widened to the common type of the column. `UNION ALL`
stacks its two sides (`unionAll_eq_ok_iff`), and stacking a stack is stacking its tables at
once (`stacks_splice`), since a value widened twice is the value widened to the last type
(`Value.widen_widen`). So both groupings of three tables stack the same list (`unionAll_assoc`).
-/

set_option autoImplicit false

namespace ColumnarSql

/-! ## Columns -/

namespace Column

theorem Typed.concat_eq {c d : Column} (hc : c.Typed) (hd : d.Typed) (t : ColumnType) :
    c.concat d t = ⟨(c.values ++ d.values).map (·.widen t), t⟩ := by
  rw [concat, hc.widen_eq, hd.widen_eq, List.map_append]

/-- The values of the columns in order, each widened to the common type. -/
def Stacks (cs : List Column) (c : Column) : Prop :=
  ColumnType.coerceAll (cs.map type) = .ok c.type ∧
    c.values = (cs.flatMap values).map (·.widen c.type)

theorem stacks_pair {c d e : Column} (hc : c.Typed) (hd : d.Typed) :
    Stacks [c, d] e ↔ ∃ t, c.type.coerce d.type = .ok t ∧ c.concat d t = e := by
  have htype : ∀ t, ColumnType.coerceAll [c.type, d.type] = .ok t ↔ c.type.coerce d.type = .ok t :=
    fun t => by rw [ColumnType.coerceAll_eq_ok_iff, ColumnType.coerce_eq_ok_iff]
  obtain ⟨values, t⟩ := e
  simp only [Stacks, List.map_cons, List.map_nil, htype, List.flatMap_cons, List.flatMap_nil,
    List.append_nil, hc.concat_eq hd]
  constructor
  · rintro ⟨ht, rfl⟩
    exact ⟨t, ht, rfl⟩
  · rintro ⟨u, hu, he⟩
    obtain ⟨rfl, rfl⟩ := Column.mk.inj he
    exact ⟨hu, rfl⟩

/-- A stack of columns in the place of these columns makes no difference. -/
theorem stacks_splice {cs es ds : List Column} {e f : Column} (he : Stacks es e) :
    Stacks (cs ++ e :: ds) f ↔ Stacks (cs ++ es ++ ds) f := by
  obtain ⟨hetype, hevalues⟩ := he
  have htype : ColumnType.coerceAll ((cs ++ e :: ds).map type) = .ok f.type ↔
      ColumnType.coerceAll ((cs ++ es ++ ds).map type) = .ok f.type := by
    simp only [List.map_append, List.map_cons]
    exact ColumnType.coerceAll_splice hetype
  unfold Stacks
  rw [htype]
  refine and_congr_right fun hf => ?_
  have hbelow : ColumnType.Below e.type f.type :=
    ColumnType.below_coerceAll (htype.mpr hf) (by simp)
  have htwice : e.values.map (·.widen f.type) = (es.flatMap values).map (·.widen f.type) := by
    rw [hevalues, List.map_map]
    exact List.map_congr_left fun v _ => Value.widen_widen v hbelow
  simp only [List.flatMap_append, List.flatMap_cons, List.map_append, htwice, List.append_assoc]

/-- Columns that are stacked along with others can be stacked by themselves. -/
theorem exists_stacks {cs es ds : List Column} {f : Column} (h : Stacks (cs ++ es ++ ds) f) :
    ∃ e, Stacks es e := by
  have hbound := (ColumnType.coerceAll_eq_ok_iff.mp h.1).1
  have hes : ∀ t ∈ es.map type, ColumnType.Narrower t f.type :=
    fun t ht => hbound t (by simp only [List.map_append, List.mem_append, ht, or_true, true_or])
  obtain ⟨t, ht⟩ := ColumnType.exists_coerceAll_iff.mpr ⟨f.type, hes⟩
  exact ⟨⟨(es.flatMap values).map (·.widen t), t⟩, ht, rfl⟩

end Column

/-! ## Tables -/

namespace Table

/-- The rows of the tables in order, under the names of the first. -/
structure Stacks (ts : List Table) (t : Table) : Prop where
  names : ts.head?.map Table.names = some t.names
  numRows : t.numRows = (ts.map Table.numRows).sum
  width : ∀ s ∈ ts, s.columns.length = t.columns.length
  columns : ∀ j c, t.columnAt? j = some c → Column.Stacks (ts.filterMap (·.columnAt? j)) c

theorem exists_columnAt? {s t : Table} (h : s.columns.length = t.columns.length) {j : Nat}
    {c : Column} (hc : t.columnAt? j = some c) : ∃ d, s.columnAt? j = some d := by
  obtain ⟨hj, -⟩ := List.getElem?_eq_some_iff.mp hc
  exact ⟨s.columns[j], List.getElem?_eq_getElem (h ▸ hj)⟩

/-- A stack of tables in the place of these tables makes no difference. -/
theorem stacks_splice (ts vs : List Table) {us : List Table} {s t : Table} (hs : Stacks us s) :
    Stacks (ts ++ s :: vs) t ↔ Stacks (ts ++ us ++ vs) t := by
  have hnames : (ts ++ s :: vs).head?.map Table.names =
      (ts ++ us ++ vs).head?.map Table.names := by
    have h := hs.names
    cases ts with
    | nil =>
      cases us with
      | nil => simp at h
      | cons u us => simpa using h.symm
    | cons t ts => rfl
  have hrows : ((ts ++ s :: vs).map Table.numRows).sum =
      ((ts ++ us ++ vs).map Table.numRows).sum := by
    simp only [List.map_append, List.map_cons, List.sum_append, List.sum_cons, hs.numRows,
      Nat.add_assoc]
  have hne : ∃ u, u ∈ us := by
    cases us with
    | nil => simpa using hs.names
    | cons u us => exact ⟨u, List.mem_cons_self⟩
  have hwidth : (∀ u ∈ ts ++ s :: vs, u.columns.length = t.columns.length) ↔
      ∀ u ∈ ts ++ us ++ vs, u.columns.length = t.columns.length := by
    have hsame : s.columns.length = t.columns.length ↔
        ∀ u ∈ us, u.columns.length = t.columns.length := by
      obtain ⟨u, hu⟩ := hne
      exact ⟨fun h u hu => (hs.width u hu).trans h,
        fun h => (hs.width u hu).symm.trans (h u hu)⟩
    simp only [List.mem_append, List.mem_cons, or_imp, forall_and, forall_eq, hsame, and_assoc]
  have hcolumns : ∀ j c, s.columns.length = t.columns.length → t.columnAt? j = some c →
      (Column.Stacks ((ts ++ s :: vs).filterMap (·.columnAt? j)) c ↔
        Column.Stacks ((ts ++ us ++ vs).filterMap (·.columnAt? j)) c) := by
    intro j c hst hc
    obtain ⟨e, he⟩ := exists_columnAt? hst hc
    simp only [List.filterMap_append, List.filterMap_cons, he]
    exact Column.stacks_splice (hs.columns j e he)
  constructor
  · intro h
    have hst := h.width s (by simp)
    exact ⟨hnames ▸ h.names, hrows ▸ h.numRows, hwidth.mp h.width,
      fun j c hc => (hcolumns j c hst hc).mp (h.columns j c hc)⟩
  · intro h
    have hst := hwidth.mpr h.width s (by simp)
    exact ⟨hnames ▸ h.names, hrows ▸ h.numRows, hwidth.mpr h.width,
      fun j c hc => (hcolumns j c hst hc).mpr (h.columns j c hc)⟩

/-- Tables that are stacked along with others can be stacked by themselves. -/
theorem exists_stacks (ts us vs : List Table) {u t : Table} (h : Stacks (ts ++ u :: us ++ vs) t) :
    ∃ s, Stacks (u :: us) s := by
  have hcolumn : ∀ j : Fin t.columns.length,
      ∃ e, Column.Stacks ((u :: us).filterMap (·.columnAt? j)) e := by
    intro j
    have hj : t.columnAt? j = some t.columns[j] := List.getElem?_eq_getElem j.isLt
    have hstacks := h.columns j _ hj
    rw [List.filterMap_append, List.filterMap_append] at hstacks
    exact Column.exists_stacks hstacks
  choose column hcolumn using hcolumn
  refine ⟨⟨u.names, List.ofFn column, ((u :: us).map Table.numRows).sum⟩, rfl, rfl, ?_, ?_⟩
  · intro s hs
    rw [List.length_ofFn]
    exact h.width s (by simp only [List.mem_append, hs, or_true, true_or])
  · intro j c hc
    obtain ⟨hj, rfl⟩ := List.getElem?_eq_some_iff.mp hc
    rw [List.getElem_ofFn]
    exact hcolumn ⟨j, by simpa using hj⟩

/-! ## Rows -/

/-- A row whose cells are widened to the types of its columns. -/
def widenRow (types : List ColumnType) (row : List Value) : List Value :=
  row.zipWith Value.widen types

/-- The table without its first rows. -/
def dropRows (t : Table) (n : Nat) : Table :=
  ⟨t.names, t.columns.map fun c => ⟨c.values.drop n, c.type⟩, t.numRows - n⟩

theorem types_dropRows (t : Table) (n : Nat) : (t.dropRows n).types = t.types := by
  simp [types, dropRows]

theorem toRows_eq_append {t : Table} {n : Nat} (h : n ≤ t.numRows) :
    t.toRows = (List.range n).map (fun i => t.columns.map (·.cell i)) ++
      (t.dropRows n).toRows := by
  obtain ⟨m, hm⟩ := Nat.exists_eq_add_of_le h
  have hcell : ∀ (c : Column) (i : Nat),
      Column.cell ⟨c.values.drop n, c.type⟩ i = c.cell (n + i) := fun c i => by
    simp [Column.cell, List.getD_eq_getElem?_getD]
  simp [toRows, dropRows, hm, List.range_add, hcell, Function.comp_def]

/-- The first rows of a stack are those of its first table, widened. -/
theorem head_row_of_values {s t : Table} (hs : s.Rectangular)
    (hwidth : s.columns.length = t.columns.length)
    (hvalues : ∀ j c d, t.columnAt? j = some c → s.columnAt? j = some d →
      ∃ rest, c.values = d.values.map (·.widen c.type) ++ rest) {i : Nat} (hi : i < s.numRows) :
    t.columns.map (·.cell i) = widenRow t.types (s.columns.map (·.cell i)) := by
  refine List.ext_getElem (by simp [widenRow, types, hwidth]) fun j hj _ => ?_
  rw [List.length_map] at hj
  have hd : i < s.columns[j].values.length := by
    rw [← Column.length, hs _ (List.getElem_mem _)]
    exact hi
  obtain ⟨rest, h⟩ :=
    hvalues j _ _ (List.getElem?_eq_getElem hj) (List.getElem?_eq_getElem (hwidth ▸ hj))
  simp [widenRow, types, Column.cell, h, hd, List.getElem?_append]

/-- The rows of a stack are those of its tables, widened. -/
theorem toRows_of_values : ∀ {ts : List Table} {t : Table}, (∀ s ∈ ts, s.Rectangular) →
    t.numRows = (ts.map Table.numRows).sum → (∀ s ∈ ts, s.columns.length = t.columns.length) →
    (∀ j c, t.columnAt? j = some c →
      c.values = ((ts.filterMap (·.columnAt? j)).flatMap Column.values).map (·.widen c.type)) →
    t.toRows = (ts.flatMap toRows).map (widenRow t.types)
  | [], t, _, hrows, _, _ => by
    rw [List.map_nil, List.sum_nil] at hrows
    simp [toRows, hrows]
  | s :: ts, t, hrect, hrows, hwidth, hvalues => by
    obtain ⟨hs, hts⟩ := List.forall_mem_cons.mp hrect
    obtain ⟨hsw, htsw⟩ := List.forall_mem_cons.mp hwidth
    rw [List.map_cons, List.sum_cons] at hrows
    have hcons : ∀ j c d, t.columnAt? j = some c → s.columnAt? j = some d →
        c.values = d.values.map (·.widen c.type) ++
          ((ts.filterMap (·.columnAt? j)).flatMap Column.values).map (·.widen c.type) := by
      intro j c d hc hd
      rw [hvalues j c hc, List.filterMap_cons, hd, List.flatMap_cons, List.map_append]
    -- Without the rows of `s` the stack is one of the other tables.
    have hrest : (t.dropRows s.numRows).toRows = (ts.flatMap toRows).map (widenRow t.types) := by
      rw [← types_dropRows t s.numRows]
      refine toRows_of_values hts ?_ ?_ fun j c hc => ?_
      · simp [dropRows, hrows]
      · simpa [dropRows] using htsw
      · obtain ⟨b, hb, rfl⟩ := Option.map_eq_some_iff.mp (by simpa [columnAt?, dropRows] using hc)
        obtain ⟨d, hd⟩ := exists_columnAt? hsw hb
        have hlength := hs d (List.mem_of_getElem? hd)
        rw [← hlength, hcons j b d hb hd, Column.length, List.drop_left' (by simp)]
    rw [toRows_eq_append (hrows ▸ Nat.le_add_right _ _), hrest, List.flatMap_cons, List.map_append]
    congr 1
    rw [toRows, List.map_map]
    refine List.map_congr_left fun i hi => ?_
    exact head_row_of_values hs hsw (fun j c d hc hd => ⟨_, hcons j c d hc hd⟩)
      (List.mem_range.mp hi)

end Table

/-! ## Set operations -/

namespace SetOperator

/-- What is computed for each member, and with it from the member. -/
theorem forall₂_exists_iff {α β γ : Type} {R : α → β → Prop} {g : α → β → γ} :
    ∀ (as : List α) (cs : List γ),
      (∃ bs, List.Forall₂ R as bs ∧ (as.zip bs).map (fun p => g p.1 p.2) = cs) ↔
        List.Forall₂ (fun a c => ∃ b, R a b ∧ g a b = c) as cs
  | [], cs => by simp [eq_comm]
  | a :: as, cs => by
    simp only [List.forall₂_cons_left_iff, ← forall₂_exists_iff as]
    constructor
    · rintro ⟨_, ⟨b, bs, hb, hbs, rfl⟩, rfl⟩
      exact ⟨g a b, _, ⟨b, hb, rfl⟩, ⟨bs, hbs, rfl⟩, rfl⟩
    · rintro ⟨_, _, ⟨b, hb, rfl⟩, ⟨bs, hbs, rfl⟩, rfl⟩
      exact ⟨b :: bs, ⟨b, bs, hb, hbs, rfl⟩, rfl⟩

/-- The columns of the result are stacked pair by pair. -/
theorem exists_concat_iff {left right : Table} {columns : List Column} (hl : left.WellFormed)
    (hr : right.WellFormed) :
    (∃ types, columnTypes left right = .ok types ∧ concat left right types = columns) ↔
      List.Forall₂ (fun p c => Column.Stacks [p.1, p.2] c) (left.columns.zip right.columns)
        columns := by
  simp only [columnTypes_eq_ok_iff]
  have hpairs := forall₂_exists_iff (R := fun p t => p.1.type.coerce p.2.type = .ok t)
    (g := fun p t => p.1.concat p.2 t) (left.columns.zip right.columns) columns
  refine hpairs.trans ⟨fun h => ?_, fun h => ?_⟩
  · refine forall₂_imp_of_mem h fun p hp c _ hc => ?_
    have htyped := List.of_mem_zip hp
    exact (Column.stacks_pair (hl.typed _ htyped.1) (hr.typed _ htyped.2)).mpr hc
  · refine forall₂_imp_of_mem h fun p hp c _ hc => ?_
    have htyped := List.of_mem_zip hp
    exact (Column.stacks_pair (hl.typed _ htyped.1) (hr.typed _ htyped.2)).mp hc

/-- Columns stacked pair by pair are the columns of a stack of tables. -/
theorem forall₂_stacks_iff {left right t : Table}
    (hwidth : left.columns.length = right.columns.length) :
    List.Forall₂ (fun p c => Column.Stacks [p.1, p.2] c) (left.columns.zip right.columns)
        t.columns ↔
      left.columns.length = t.columns.length ∧
        ∀ j c, t.columnAt? j = some c →
          Column.Stacks ([left, right].filterMap (·.columnAt? j)) c := by
  have hcolumns : ∀ j, j < left.columns.length → [left, right].filterMap (·.columnAt? j) =
      [left.columns[j]?.getD ⟨[], none⟩, right.columns[j]?.getD ⟨[], none⟩] := by
    intro j hj
    simp [Table.columnAt?, hj, hwidth ▸ hj]
  have hzip : (left.columns.zip right.columns).length = left.columns.length := by
    simp [hwidth]
  rw [List.forall₂_iff_get]
  constructor
  · rintro ⟨hlen, h⟩
    rw [hzip] at hlen
    refine ⟨hlen, fun j c hc => ?_⟩
    obtain ⟨hj, rfl⟩ := List.getElem?_eq_some_iff.mp hc
    have hl : j < left.columns.length := hlen ▸ hj
    simpa [hcolumns j hl, hl, hwidth ▸ hl] using h j (hzip ▸ hl) hj
  · rintro ⟨hlen, h⟩
    refine ⟨hzip.trans hlen, fun j hj hj' => ?_⟩
    have hl : j < left.columns.length := hlen ▸ hj'
    simpa [hcolumns j hl, hl, hwidth ▸ hl] using h j _ (List.getElem?_eq_getElem hj')

/-- `UNION ALL` of well formed tables stacks them. -/
theorem unionAll_eq_ok_iff {left right t : Table} (hl : left.WellFormed) (hr : right.WellFormed) :
    unionAll.run left right = .ok t ↔ Table.Stacks [left, right] t := by
  rw [run_eq_ok_iff]
  constructor
  · rintro ⟨-, hwidth, types, htypes, h⟩
    rw [ofColumns_concat hl hr hwidth htypes] at h
    obtain rfl := Except.ok.inj h
    have hpairs := (exists_concat_iff hl hr).mp ⟨types, htypes, rfl⟩
    obtain ⟨hlen, hstacks⟩ := (forall₂_stacks_iff
      (t := ⟨left.names, concat left right types, _⟩) hwidth).mp hpairs
    exact ⟨rfl, by simp, by simpa [← hwidth] using hlen, hstacks⟩
  · intro h
    have hlw := h.width left (by simp)
    have hwidth := hlw.trans (h.width right (by simp)).symm
    obtain ⟨types, htypes, hcolumns⟩ :=
      (exists_concat_iff hl hr).mpr ((forall₂_stacks_iff hwidth).mpr ⟨hlw, h.columns⟩)
    have hnames : left.names = t.names := by simpa using h.names
    have hrows : t.numRows = left.numRows + right.numRows := by simpa using h.numRows
    refine ⟨rfl, hwidth, types, htypes, ?_⟩
    rw [ofColumns_concat hl hr hwidth htypes, hcolumns, hnames, ← hrows]

/-- Either grouping of three tables stacks the three. -/
theorem stacks_of_groupings {a b c t : Table} (ha : a.WellFormed) (hb : b.WellFormed)
    (hc : c.WellFormed) :
    ((∃ s, unionAll.run a b = .ok s ∧ unionAll.run s c = .ok t) ↔ Table.Stacks [a, b, c] t) ∧
      ((∃ s, unionAll.run b c = .ok s ∧ unionAll.run a s = .ok t) ↔
        Table.Stacks [a, b, c] t) := by
  refine ⟨⟨?_, fun h => ?_⟩, ⟨?_, fun h => ?_⟩⟩
  · rintro ⟨s, hs, h⟩
    have hstacks := (unionAll_eq_ok_iff ha hb).mp hs
    have h := (unionAll_eq_ok_iff (wellFormed_run ha hb hs) hc).mp h
    exact (Table.stacks_splice [] [c] hstacks).mp h
  · obtain ⟨s, hstacks⟩ := Table.exists_stacks [] [b] [c] h
    have hs := (unionAll_eq_ok_iff ha hb).mpr hstacks
    exact ⟨s, hs, (unionAll_eq_ok_iff (wellFormed_run ha hb hs) hc).mpr
      ((Table.stacks_splice [] [c] hstacks).mpr h)⟩
  · rintro ⟨s, hs, h⟩
    have hstacks := (unionAll_eq_ok_iff hb hc).mp hs
    have h := (unionAll_eq_ok_iff ha (wellFormed_run hb hc hs)).mp h
    exact (Table.stacks_splice [a] [] hstacks).mp h
  · obtain ⟨s, hstacks⟩ := Table.exists_stacks [a] [c] [] h
    have hs := (unionAll_eq_ok_iff hb hc).mpr hstacks
    exact ⟨s, hs, (unionAll_eq_ok_iff ha (wellFormed_run hb hc hs)).mpr
      ((Table.stacks_splice [a] [] hstacks).mpr h)⟩

end SetOperator

/-! ## Queries -/

theorem Query.run_unionAll_eq_ok_iff {env : Session} {l r : Query} {p : NamedTable} :
    (Query.combined .unionAll l r).run env = .ok p ↔ ∃ A B, l.run env = .ok A ∧
      r.run env = .ok B ∧ SetOperator.unionAll.run A.1 B.1 = .ok p.1 ∧ p.2 = none := by
  obtain ⟨t, n⟩ := p
  simp only [Query.run, bind_eq_ok, pure_eq_ok, Prod.mk.injEq]
  constructor
  · rintro ⟨A, hl, B, hr, s, hs, rfl, rfl⟩
    exact ⟨A, B, hl, hr, hs, rfl⟩
  · rintro ⟨A, B, hl, hr, hs, rfl⟩
    exact ⟨A, hl, B, hr, t, hs, rfl, rfl⟩

/-- The types of a stack of three tables are the common types of their columns. -/
theorem Table.Stacks.types_three {A B C t : Table} (h : Stacks [A, B, C] t) :
    ((A.types.zip (B.types.zip C.types)).mapM
      fun p => ColumnType.coerceAll [p.1, p.2.1, p.2.2]) = .ok t.types := by
  have hA := h.width A (by simp)
  have hB := h.width B (by simp)
  have hC := h.width C (by simp)
  rw [mapM_eq_ok_iff, List.forall₂_iff_get]
  refine ⟨by simp [types, hA, hB, hC], fun j hj hj' => ?_⟩
  have hjt : j < t.columns.length := by simpa [types] using hj'
  have hstacks := (h.columns j _ (List.getElem?_eq_getElem hjt)).1
  simpa [types, columnAt?, hA, hB, hC, hjt] using hstacks

/-- `UNION ALL` is associative, failures included: both groupings of three queries have the
same result. It has the names of the first table, in each column the common type of the three,
and the rows of the three tables in order, each cell widened to the type of its column. -/
theorem unionAll_assoc {env : Session} {a b c : Query} {A B C : NamedTable}
    (ha : a.run env = .ok A) (hb : b.run env = .ok B) (hc : c.run env = .ok C)
    (hA : A.1.WellFormed) (hB : B.1.WellFormed) (hC : C.1.WellFormed) :
    (∀ p, (Query.combined .unionAll (.combined .unionAll a b) c).run env = .ok p ↔
      (Query.combined .unionAll a (.combined .unionAll b c)).run env = .ok p) ∧
    ∀ p, (Query.combined .unionAll (.combined .unionAll a b) c).run env = .ok p →
      p.1.names = A.1.names ∧
      ((A.1.types.zip (B.1.types.zip C.1.types)).mapM
        fun t => ColumnType.coerceAll [t.1, t.2.1, t.2.2]) = .ok p.1.types ∧
      p.1.toRows = (A.1.toRows ++ B.1.toRows ++ C.1.toRows).map (Table.widenRow p.1.types) := by
  have hgroupings := fun t => SetOperator.stacks_of_groupings (t := t) hA hB hC
  have hleft : ∀ p, (Query.combined .unionAll (.combined .unionAll a b) c).run env = .ok p ↔
      Table.Stacks [A.1, B.1, C.1] p.1 ∧ p.2 = none := by
    intro p
    simp [Query.run_unionAll_eq_ok_iff, ha, hb, hc, ← (hgroupings p.1).1, ← exists_and_right,
      and_assoc]
  have hright : ∀ p, (Query.combined .unionAll a (.combined .unionAll b c)).run env = .ok p ↔
      Table.Stacks [A.1, B.1, C.1] p.1 ∧ p.2 = none := by
    intro p
    simp [Query.run_unionAll_eq_ok_iff, ha, hb, hc, ← (hgroupings p.1).2, ← exists_and_right,
      and_assoc]
  refine ⟨fun p => (hleft p).trans (hright p).symm, fun p hp => ?_⟩
  obtain ⟨hstacks, -⟩ := (hleft p).mp hp
  have hnames : A.1.names = p.1.names := by simpa using hstacks.names
  have hrect : ∀ s ∈ [A.1, B.1, C.1], s.Rectangular := by
    simpa using ⟨hA.lengths, hB.lengths, hC.lengths⟩
  have hrows := Table.toRows_of_values hrect hstacks.numRows hstacks.width
    fun j c hj => (hstacks.columns j c hj).2
  exact ⟨hnames.symm, hstacks.types_three, by simpa using hrows⟩

/-- A table of integers, one of doubles and one of bare NULLs. -/
def mixedNumbers : Session where
  catalog := ⟨[(⟨"p", "d", "i"⟩, ⟨["a"], [⟨[.integer 1], some .integer⟩], 1⟩),
    (⟨"p", "d", "n"⟩, ⟨["b"], [⟨[.null], none⟩], 1⟩),
    (⟨"p", "d", "x"⟩, ⟨["c"], [⟨[.float 0.5], some .float⟩], 1⟩)]⟩
  now := newYear

theorem unionAll_assoc_mixedNumbers :
    let i : Query := .table ⟨["i"], by decide, by decide⟩
    let n : Query := .table ⟨["n"], by decide, by decide⟩
    let x : Query := .table ⟨["x"], by decide, by decide⟩
    mixedNumbers.catalog.WellFormed ∧
      (Query.combined .unionAll (.combined .unionAll i n) x).run mixedNumbers =
        .ok (⟨["a"], [⟨[.float 1.0, .null, .float 0.5], some .float⟩], 3⟩, none) ∧
      (Query.combined .unionAll i (.combined .unionAll n x)).run mixedNumbers =
        .ok (⟨["a"], [⟨[.float 1.0, .null, .float 0.5], some .float⟩], 3⟩, none) := by
  intro i n x
  have hcatalog : mixedNumbers.catalog.WellFormed := by
    have hone : ∀ (name : String) (v : Value) (t : ColumnType), v.conforms t →
        Table.WellFormed ⟨[name], [⟨[v], t⟩], 1⟩ := by
      intro name v t h
      exact ⟨rfl, by simp [Column.length], by simpa [Column.Typed] using h⟩
    simp only [Catalog.WellFormed, mixedNumbers, List.forall_mem_cons, List.not_mem_nil,
      false_imp_iff, implies_true, and_true]
    exact ⟨hone _ _ _ rfl, hone _ _ _ rfl, hone _ _ _ rfl⟩
  have hleft : (Query.combined .unionAll (.combined .unionAll i n) x).run mixedNumbers =
      .ok (⟨["a"], [⟨[.float 1.0, .null, .float 0.5], some .float⟩], 3⟩, none) := by
    rfl
  have hi : i.run mixedNumbers = .ok _ := rfl
  have hn : n.run mixedNumbers = .ok _ := rfl
  have hx : x.run mixedNumbers = .ok _ := rfl
  have hassoc := unionAll_assoc hi hn hx (TableReference.wellFormed_run hcatalog hi)
    (TableReference.wellFormed_run hcatalog hn) (TableReference.wellFormed_run hcatalog hx)
  exact ⟨hcatalog, hleft, (hassoc.1 _).mp hleft⟩

end ColumnarSql
