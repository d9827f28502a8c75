import ColumnarSql.Proofs.Picking

/-!
# Picked frames

A frame whose columns all have its number of rows is uniform, and the frames of enclosing
queries are single ungrouped rows, but for the groups around HAVING. A frame that holds some
rows of another one (`Picks`) finds every name in the same place, and what single rows give
from outside is a constant (`constant_of_not_found`).
-/

set_option autoImplicit false

namespace ColumnarSql

namespace Frame

/-- Every column has the frame's number of rows. -/
def Uniform (f : Frame) : Prop := ∀ c ∈ f.columns, c.column.length = f.numRows

/-- One ungrouped row, as an enclosing query gives it to its subqueries. -/
structure SingleRow (f : Frame) : Prop where
  numRows_eq : f.numRows = 1
  groups_eq : f.groups = none
  uniform : f.Uniform

/-- A frame as enclosing queries give it: a single row, or the groups around HAVING. -/
def Encloses (f : Frame) : Prop := f.SingleRow ∨ f.groups.isSome

/-- A frame that holds some rows of `f`, ungrouped if `f` is. -/
structure Picks (f : Frame) (rows : List Nat) (g : Frame) : Prop where
  columns_eq : g.columns = (f.take rows).columns
  numRows_eq : g.numRows = rows.length
  in_range : ∀ i ∈ rows, i < f.numRows
  ungrouped : f.groups = none → g.groups = none

/-- Frames of picked rows, at least one, that together hold every row of `f`. -/
structure CoveredBy (f : Frame) (parts : List (List Nat × Frame)) : Prop where
  nonempty : parts ≠ []
  picks : ∀ p ∈ parts, f.Picks p.1 p.2
  covers : ∀ i < f.numRows, ∃ p ∈ parts, i ∈ p.1

theorem read_eq_ofColumn (f : Frame) (c : Column) : f.read c = Evaluated.ofColumn f.groups c :=
  rfl

/-- A found column is one of the frame's. -/
theorem mem_of_find {f : Frame} {path : List String} {c : ScopeColumn}
    (h : f.find path = .ok (some c)) : c ∈ f.columns ∧ c.answers path := by
  unfold find at h
  split at h
  · simp at h
  · next c' hc =>
    simp only [Except.ok.injEq, Option.some.injEq] at h
    subst h
    have hm : c' ∈ f.columns.filter (·.answers path) := hc ▸ List.mem_singleton_self c'
    simpa using hm
  · simp at h

theorem find_of_columns_eq {f g : Frame} (h : f.columns = g.columns) (path : List String) :
    f.find path = g.find path := by
  simp [find, h]

/-- Names are found in the same places after a choice of rows. -/
theorem find_take (f : Frame) (rows : List Nat) (path : List String) :
    (f.take rows).find path =
      (f.find path).map (Option.map fun c => { c with column := c.column.take rows }) := by
  have hanswers : ((fun c => ScopeColumn.answers c path) ∘
      fun c : ScopeColumn => { c with column := c.column.take rows }) =
        fun c => c.answers path := by
    funext c
    simp only [Function.comp_apply]
    unfold ScopeColumn.answers
    rfl
  simp only [find, take, mapColumns, List.filter_map, hanswers]
  cases hc : f.columns.filter (·.answers path) with
  | nil => rfl
  | cons c cs =>
    cases cs with
    | nil => rfl
    | cons d cs => simp [Except.map, ScopeColumn.path]

theorem Picks.find_eq {f g : Frame} {rows : List Nat} (h : f.Picks rows g) (path : List String) :
    g.find path =
      (f.find path).map (Option.map fun c => { c with column := c.column.take rows }) := by
  rw [← find_take]
  exact find_of_columns_eq h.columns_eq path

theorem row_row (f : Frame) (rows : List Nat) {k : Nat} (hk : k < rows.length) :
    (f.take rows).row k = f.row rows[k] := by
  simp only [row, take, mapColumns, List.map_map, List.length_singleton, Function.comp_def]
  have hcolumns : ∀ c : Column, (c.take rows).take [k] = c.take [rows[k]] := by
    intro c
    rw [Column.take_take c (by simpa using hk)]
    simp [List.getD, hk]
  simp [hcolumns]

/-- The rows of a picked frame are rows of the frame. -/
theorem Picks.row_eq {f g : Frame} {rows : List Nat} (h : f.Picks rows g) {k : Nat}
    (hk : k < rows.length) : g.row k = f.row rows[k] := by
  rw [← row_row f rows hk]
  simp [row, take, mapColumns, h.columns_eq]

theorem picks_take {f : Frame} {rows : List Nat} (h : ∀ i ∈ rows, i < f.numRows) :
    f.Picks rows (f.take rows) :=
  ⟨rfl, rfl, h, fun _ => rfl⟩

theorem picks_row {f : Frame} {i : Nat} (h : i < f.numRows) : f.Picks [i] (f.row i) :=
  picks_take (by simpa using h)

/-- The rows one by one cover a frame that has rows. -/
theorem coveredBy_rows {f : Frame} (h : 0 < f.numRows) :
    f.CoveredBy ((List.range f.numRows).map fun i => ([i], f.row i)) where
  nonempty := by simpa using Nat.ne_of_gt h
  picks := by
    intro p hp
    obtain ⟨i, hi, rfl⟩ := List.mem_map.mp hp
    exact picks_row (List.mem_range.mp hi)
  covers i hi :=
    ⟨([i], f.row i), List.mem_map_of_mem (List.mem_range.mpr hi), List.mem_singleton_self i⟩

end Frame

/-! ## Reading names -/

namespace Scope

theorem lookupFrom_of_find {f : Frame} (outer : List Frame) {path : List String}
    {c : ScopeColumn} (h : f.find path = .ok (some c)) :
    lookupFrom f outer path = .ok (f.read c.column) := by
  cases outer <;> simp [lookupFrom, h]

/-- A path without an answer here is read in the enclosing frames. -/
theorem lookupFrom_of_not_found {f g : Frame} {outer : List Frame} {path : List String}
    {a : Evaluated} (hf : f.find path = .ok none) (hg : g.find path = .ok none)
    (h : lookupFrom f outer path = .ok a) : lookupFrom g outer path = .ok a := by
  cases outer with
  | nil => simp [lookupFrom, hf] at h
  | cons o outer => simpa [lookupFrom, hf, hg] using h

theorem find_of_lookupFrom {f : Frame} {outer : List Frame} {path : List String}
    {a : Evaluated} (h : lookupFrom f outer path = .ok a) : ∃ c?, f.find path = .ok c? := by
  cases outer <;>
    · simp only [lookupFrom, bind_eq_ok] at h
      obtain ⟨c?, hc, -⟩ := h
      exact ⟨c?, hc⟩

theorem lookupFrom_cons_of_not_found {f g : Frame} {outer : List Frame} {path : List String}
    {a : Evaluated} (hf : f.find path = .ok none) :
    lookupFrom f (g :: outer) path = .ok a ↔
      ∃ b, lookupFrom g outer path = .ok b ∧ b.inward = a := by
  simp [lookupFrom, hf]

/-- What enclosing frames give is a constant further inward, or ungrouped rows of one that
has groups. -/
theorem inward_of_lookupFrom :
    ∀ {f : Frame} {outer : List Frame} {path : List String} {a : Evaluated},
      (∀ g ∈ f :: outer, g.Encloses) → lookupFrom f outer path = .ok a →
        (∃ v t, a.inward = .constant v t) ∨
          (∃ level c gs, a.inward = .grouped level c gs) ∧ ∃ g ∈ f :: outer, g.groups.isSome
  | f, outer, path, a, hencloses, h => by
    obtain ⟨c?, hc⟩ := find_of_lookupFrom h
    cases c? with
    | some c =>
      rw [lookupFrom_of_find outer hc, Frame.read_eq_ofColumn, Except.ok.injEq] at h
      subst h
      rcases hencloses f List.mem_cons_self with ⟨hrows, hgroups, huniform⟩ | hgroups
      · have hlen : c.column.length = 1 := hrows ▸ huniform c (Frame.mem_of_find hc).1
        refine .inl ⟨c.column.cell 0, c.column.type, ?_⟩
        simp [hgroups, Evaluated.ofColumn, Evaluated.inward, hlen]
      · obtain ⟨gs, hgs⟩ := Option.isSome_iff_exists.mp hgroups
        refine .inr ⟨⟨1, c.column, gs, ?_⟩, f, List.mem_cons_self, hgroups⟩
        simp [hgs, Evaluated.ofColumn, Evaluated.inward]
    | none =>
      cases outer with
      | nil => simp [lookupFrom, hc] at h
      | cons g outer =>
        obtain ⟨b, hb, rfl⟩ := (lookupFrom_cons_of_not_found hc).mp h
        have hencloses' := fun o ho => hencloses o (List.mem_cons_of_mem f ho)
        rcases inward_of_lookupFrom hencloses' hb with ⟨v, t, hv⟩ | ⟨⟨level, c, gs, hgrouped⟩,
          o, ho, hgroups⟩
        · exact .inl ⟨v, t, by rw [hv]; rfl⟩
        · exact .inr ⟨⟨level + 1, c, gs, by rw [hgrouped]; rfl⟩, o, List.mem_cons_of_mem f ho,
            hgroups⟩

/-- What is not found here is a constant, or ungrouped rows of an enclosing frame. -/
theorem constant_or_grouped_of_not_found {f : Frame} {outer : List Frame} {path : List String}
    {a : Evaluated} (houter : ∀ g ∈ outer, g.Encloses) (hf : f.find path = .ok none)
    (h : lookupFrom f outer path = .ok a) :
    (∃ v t, a = .constant v t) ∨
      (∃ level c gs, a = .grouped level c gs) ∧ ∃ g ∈ outer, g.groups.isSome := by
  cases outer with
  | nil => simp [lookupFrom, hf] at h
  | cons o outer =>
    obtain ⟨b, hb, rfl⟩ := (lookupFrom_cons_of_not_found hf).mp h
    exact inward_of_lookupFrom houter hb

/-- What is not found here is a constant, if the enclosing frames are single rows. -/
theorem constant_of_not_found {f : Frame} {outer : List Frame} {path : List String}
    {a : Evaluated} (houter : ∀ g ∈ outer, g.SingleRow) (hf : f.find path = .ok none)
    (h : lookupFrom f outer path = .ok a) : ∃ v t, a = .constant v t := by
  refine (constant_or_grouped_of_not_found (fun g hg => .inl (houter g hg)) hf h).resolve_right ?_
  rintro ⟨-, g, hg, hgroups⟩
  simp [(houter g hg).groups_eq] at hgroups

end Scope

end ColumnarSql
