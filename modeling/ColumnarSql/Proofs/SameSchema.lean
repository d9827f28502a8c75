import ColumnarSql.Proofs.EnclosedSelect

/-!
# Frames of the same schema

Names are resolved through the tables, names and types of columns and never through their values.
So scopes of the same schema resolve every path alike (`Scope.SameSchema.tryResolve_eq`), mark the
same keys and stand for the same stars, and what FROM, WHERE and GROUP BY do to a frame gives the
same schema on both sides.
-/

set_option autoImplicit false

namespace ColumnarSql

/-! ## The columns without their values -/

theorem Column.take_nil_eq {c d : Column} (h : c.type = d.type) : c.take [] = d.take [] := by
  simp [Column.take, h]

namespace Frame

/-- The columns without their values. -/
def schema (f : Frame) : List ScopeColumn := (f.take []).columns

theorem schema_eq_map (f : Frame) :
    f.schema = f.columns.map fun c => { c with column := c.column.take [] } := rfl

@[simp] theorem schema_mapColumns (f : Frame) (n : Nat) {k : Column → Column}
    (hk : ∀ c, (k c).type = c.type) : (f.mapColumns n k).schema = f.schema := by
  simp only [schema_eq_map, mapColumns, List.map_map]
  exact List.map_congr_left fun c _ => by simp [Column.take_nil_eq (hk c.column)]

@[simp] theorem schema_filter (f : Frame) (mask : List Bool) :
    (f.filter mask).schema = f.schema :=
  schema_mapColumns f _ fun _ => rfl

@[simp] theorem schema_combine (f g : Frame) (left : List Nat) (right : List (Option Nat)) :
    (f.combine g left right).schema = f.schema ++ g.schema := by
  have hl : (f.take left).schema = f.schema := schema_mapColumns f _ fun _ => rfl
  have hr : (g.columns.map fun c => { c with column := c.column.takePadded right }).map
      (fun c => ({ c with column := c.column.take [] } : ScopeColumn)) = g.schema := by
    simp [schema_eq_map, Function.comp_def, Column.take, Column.takePadded]
  rw [schema_eq_map, combine, List.map_append, hr, ← hl]
  rfl

@[simp] theorem schema_dropNamed (f : Frame) (start : Nat) (names : List String) :
    (f.dropNamed start names).schema =
      f.schema.take start ++ (f.schema.drop start).filter fun c => !names.contains c.name := by
  simp only [schema_eq_map, dropNamed, List.map_append, List.map_take]
  rw [← List.map_drop, List.filter_map]
  rfl

theorem schema_ofTable (t : Table) (name : Option String) :
    (ofTable t name).schema = (t.names.zip t.types).map fun p => ⟨name, p.1, ⟨[], p.2⟩⟩ := by
  simp [schema_eq_map, ofTable, tableColumns, Table.types, Column.take, List.zip_map_right,
    Function.comp_def]

/-! ## Frames -/

/-- Columns of the same tables, names and types, and groups by the same keys, if any. -/
structure SameSchema (f g : Frame) : Prop where
  schema : f.schema = g.schema
  groupPaths : f.groupPaths = g.groupPaths
  grouped : f.groups.isSome = g.groups.isSome
  inheritsGroups : f.inheritsGroups = g.inheritsGroups

namespace SameSchema

variable {f g : Frame}

theorem find_map (h : f.SameSchema g) (path : List String) :
    (f.find path).map (Option.map fun c => { c with column := c.column.take [] }) =
      (g.find path).map (Option.map fun c => { c with column := c.column.take [] }) := by
  rw [← find_take, ← find_take]
  exact find_of_columns_eq h.schema path

/-- A column found in one frame is found in the other. -/
theorem find_some (h : f.SameSchema g) {path : List String} {c : ScopeColumn}
    (hc : f.find path = .ok (some c)) :
    ∃ d, g.find path = .ok (some d) ∧ d.path = c.path ∧ d.column.type = c.column.type := by
  have hmap := h.find_map path
  rw [hc, eq_comm] at hmap
  obtain ⟨d?, hd, hd?⟩ := map_eq_ok.mp hmap
  obtain ⟨d, rfl, hdc⟩ := Option.map_eq_some_iff.mp hd?
  obtain ⟨htable, hname, hcolumn⟩ := ScopeColumn.mk.inj hdc
  refine ⟨d, hd, by simp [ScopeColumn.path, htable, hname], ?_⟩
  exact (Column.mk.inj hcolumn).2

theorem find_none (h : f.SameSchema g) {path : List String} (hf : f.find path = .ok none) :
    g.find path = .ok none := by
  have hmap := h.find_map path
  rw [hf, eq_comm] at hmap
  obtain ⟨d?, hd, hd?⟩ := map_eq_ok.mp hmap
  rw [hd, Option.map_eq_none_iff.mp hd?]

theorem column (h : f.SameSchema g) {path : List String} {c : Column}
    (hc : f.column path = .ok c) : ∃ d, g.column path = .ok d ∧ d.type = c.type := by
  obtain ⟨c?, hfind, hc⟩ := bind_eq_ok.mp hc
  cases c? with
  | none => simp at hc
  | some c' =>
    obtain ⟨d, hd, -, htype⟩ := h.find_some hfind
    obtain rfl := pure_eq_ok.mp hc
    exact ⟨d.column, by simp [Frame.column, hd], htype⟩

/-- Stars stand for the same fields. -/
theorem expand_eq (h : f.SameSchema g) (fields : List (SelectField Plan)) :
    SelectOf.expand f fields = SelectOf.expand g fields := by
  refine SelectOf.expand_congr ?_ fields
  have hnames : ∀ k : Frame, k.columns.map (fun c => (c.table, c.name)) =
      k.schema.map fun c => (c.table, c.name) := fun k => by
    simp [schema_eq_map, Function.comp_def]
  rw [hnames f, hnames g, h.schema]

end SameSchema

end Frame

/-! ## Scopes -/

namespace Scope

/-- Scopes whose frames have the same schemas. -/
structure SameSchema (s t : Scope) : Prop where
  frame : s.frame.SameSchema t.frame
  outer : List.Forall₂ Frame.SameSchema s.outer t.outer

variable {s t : Scope}

theorem tryResolveIn_eq (path : List String) {fs gs : List Frame}
    (h : List.Forall₂ Frame.SameSchema fs gs) : tryResolveIn fs path = tryResolveIn gs path := by
  induction h with
  | nil => rfl
  | @cons f g fs gs h _ ih =>
    have hmap := h.find_map path
    unfold tryResolveIn
    cases hf : f.find path with
    | ok c? =>
      cases c? with
      | some c =>
        obtain ⟨d, hd, hpath, -⟩ := h.find_some hf
        rw [hd]
        exact congrArg (fun p => Except.ok (some p)) hpath.symm
      | none =>
        rw [h.find_none hf]
        exact ih
    | error e =>
      rw [hf] at hmap
      cases hg : g.find path with
      | ok d? => simp [hg, Except.map] at hmap
      | error e' =>
        rw [hg] at hmap
        rw [Except.error.inj hmap]
        rfl

/-- Paths are resolved alike. -/
theorem SameSchema.tryResolve_eq (h : s.SameSchema t) (path : List String) :
    s.tryResolve path = t.tryResolve path :=
  tryResolveIn_eq path (.cons h.frame h.outer)

theorem SameSchema.isKey_eq (h : s.SameSchema t) (paths : List String) :
    Grouping.isKey s paths = Grouping.isKey t paths := by
  funext path
  simp only [Grouping.isKey, h.tryResolve_eq]

theorem sameSchema_reducingFrom {f g : Frame} {fs gs : List Frame} (h : f.SameSchema g)
    (hs : List.Forall₂ Frame.SameSchema fs gs) :
    (reducingFrom f fs).SameSchema (reducingFrom g gs) := by
  induction hs generalizing f g with
  | nil => exact ⟨h, .nil⟩
  | cons h' hs ih =>
    have hinherits : (f.groups.isNone && f.inheritsGroups) =
        (g.groups.isNone && g.inheritsGroups) := by
      rw [← Option.not_isSome, ← Option.not_isSome, h.grouped, h.inheritsGroups]
    unfold reducingFrom
    rw [hinherits]
    split
    · exact ih h'
    · exact ⟨h, .cons h' hs⟩

/-- Reducing calls are evaluated in scopes of the same schema. -/
theorem SameSchema.reducing (h : s.SameSchema t) : s.reducing.SameSchema t.reducing :=
  sameSchema_reducingFrom h.frame h.outer

end Scope

/-! ## Tables -/

namespace Table

/-- Tables of the same names and types. -/
structure SameSchema (t u : Table) : Prop where
  names : t.names = u.names
  types : t.types = u.types

variable {t u : Table}

theorem SameSchema.ofTable (h : t.SameSchema u) (name : Option String) :
    (Frame.ofTable t name).SameSchema (Frame.ofTable u name) where
  schema := by rw [Frame.schema_ofTable, Frame.schema_ofTable, h.names, h.types]
  groupPaths := rfl
  grouped := rfl
  inheritsGroups := rfl

theorem types_filter (t : Table) (mask : List Bool) : (t.filter mask).types = t.types := by
  simp [types, filter, Function.comp_def]

end Table

end ColumnarSql
