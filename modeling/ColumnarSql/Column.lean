import ColumnarSql.Error
import ColumnarSql.Value.Order

/-!
# Columns

Values under one declared type. Construction does not check the values;
`Column.checked` does.
-/

set_option autoImplicit false

namespace ColumnarSql

structure Column where
  values : List Value
  type : ColumnType

namespace Column

/-- Equal values in order, under equal types. -/
instance : BEq Column := ⟨fun a b => a.values == b.values && a.type = b.type⟩

/-- A column whose values all belong to its type. -/
def checked (values : List Value) (type : ColumnType) : Except Error Column :=
  match values.find? fun v => !v.conforms type with
  | some v => .error (.cellMismatch v type)
  | none => .ok ⟨values, type⟩

/-- One value in every row. -/
def constant (value : Value) (type : ColumnType) (length : Nat) : Column :=
  ⟨List.replicate length value, type⟩

def length (c : Column) : Nat := c.values.length

/-- The value of a row; NULL outside the column. -/
def cell (c : Column) (row : Nat) : Value := c.values.getD row .null

/-- The rows at the given places, in that order. -/
def take (c : Column) (rows : List Nat) : Column := ⟨rows.map c.cell, c.type⟩

/-- The rows at the given places, NULL where there is none. -/
def takePadded (c : Column) (rows : List (Option Nat)) : Column :=
  ⟨rows.map fun r => r.elim .null c.cell, c.type⟩

/-- The entries of a list whose flag is set; entries without a flag are dropped. -/
def keep {α : Type} : List Bool → List α → List α
  | true :: mask, a :: as => a :: keep mask as
  | false :: mask, _ :: as => keep mask as
  | _, _ => []

/-- The rows whose flag is set. -/
def filter (c : Column) (mask : List Bool) : Column := ⟨keep mask c.values, c.type⟩

/-- The column under a type its own type coerces to. -/
def widen (c : Column) (type : ColumnType) : Column :=
  if c.type = type then c else ⟨c.values.map (·.widen type), type⟩

/-- Two columns under one type, one after the other. -/
def concat (c d : Column) (type : ColumnType) : Column :=
  ⟨(c.widen type).values ++ (d.widen type).values, type⟩

/-- The values without repetitions, each at its first place. -/
def distinct (c : Column) : List Value := Value.distinct c.values

/-! ## Lengths and types -/

theorem checked_eq_ok_iff {values : List Value} {type : ColumnType} {c : Column} :
    checked values type = .ok c ↔ c = ⟨values, type⟩ ∧ ∀ v ∈ values, v.conforms type := by
  unfold checked
  split
  · next v h =>
    have hv := List.find?_some h
    have hm := List.mem_of_find?_eq_some h
    constructor
    · intro hc
      cases hc
    · rintro ⟨-, hall⟩
      simp [hall v hm] at hv
  · next h =>
    have hall : ∀ v ∈ values, v.conforms type := by simpa using h
    rw [Except.ok.injEq]
    exact ⟨fun hc => ⟨hc.symm, hall⟩, fun hc => hc.1.symm⟩

@[simp] theorem length_constant (v : Value) (t : ColumnType) (n : Nat) :
    (constant v t n).length = n := by
  simp [constant, length]

@[simp] theorem length_take (c : Column) (rows : List Nat) :
    (c.take rows).length = rows.length := by
  simp [take, length]

@[simp] theorem type_take (c : Column) (rows : List Nat) : (c.take rows).type = c.type := rfl

@[simp] theorem length_takePadded (c : Column) (rows : List (Option Nat)) :
    (c.takePadded rows).length = rows.length := by
  simp [takePadded, length]

@[simp] theorem type_takePadded (c : Column) (rows : List (Option Nat)) :
    (c.takePadded rows).type = c.type := rfl

theorem length_keep {α : Type} :
    ∀ (mask : List Bool) (as : List α), (keep mask as).length = (mask.take as.length).count true
  | [], as => by simp [keep]
  | _ :: _, [] => by simp [keep]
  | true :: mask, _ :: as => by simp [keep, length_keep mask as]
  | false :: mask, _ :: as => by simp [keep, length_keep mask as]

/-- A mask of the column's length keeps as many rows as it has set flags. -/
theorem length_filter {c : Column} {mask : List Bool} (h : mask.length = c.length) :
    (c.filter mask).length = mask.count true := by
  unfold filter
  simp only [length] at h ⊢
  rw [length_keep, List.take_of_length_le (Nat.le_of_eq h)]

@[simp] theorem type_filter (c : Column) (mask : List Bool) :
    (c.filter mask).type = c.type := rfl

@[simp] theorem length_widen (c : Column) (t : ColumnType) : (c.widen t).length = c.length := by
  unfold widen
  split <;> simp [length]

@[simp] theorem type_widen (c : Column) (t : ColumnType) : (c.widen t).type = t := by
  unfold widen
  split
  · assumption
  · rfl

@[simp] theorem length_concat (c d : Column) (t : ColumnType) :
    (c.concat d t).length = c.length + d.length := by
  have h := length_widen c t
  have h' := length_widen d t
  simp only [length] at h h'
  simp [concat, length, h, h']

end Column

end ColumnarSql
