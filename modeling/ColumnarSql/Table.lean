import ColumnarSql.Column

/-!
# Tables

Named columns of one length. The number of rows is kept beside them, so that a
table without columns still has rows.
-/

set_option autoImplicit false

namespace ColumnarSql

structure Table where
  names : List String
  columns : List Column
  numRows : Nat

namespace Table

/-- Equal names, columns and numbers of rows. -/
instance : BEq Table :=
  ⟨fun a b => a.names = b.names && a.columns == b.columns && a.numRows = b.numRows⟩

/-- A table of one name for each column and one length for all columns. -/
def ofColumns (names : List String) (columns : List Column) (numRows : Nat) :
    Except Error Table :=
  if names.length ≠ columns.length then .error (.nameCount names.length columns.length)
  else
    match (names.zip columns).find? fun p => p.2.length ≠ numRows with
    | some (n, c) => .error (.columnLength n c.length numRows)
    | none => .ok ⟨names, columns, numRows⟩

/-- A table as long as its first column; without columns it has no rows. -/
def ofNamedColumns (names : List String) (columns : List Column) : Except Error Table :=
  ofColumns names columns ((columns.head?.map Column.length).getD 0)

/-- Fails at the first row that has not the given width. -/
def checkWidths (width : Nat) : Nat → List (List Value) → Except Error Unit
  | _, [] => .ok ()
  | i, row :: rows =>
    if row.length ≠ width then .error (.rowLength i row.length width)
    else checkWidths width (i + 1) rows

/-- A table of rows, whose cells belong to the types of the schema. Widths are
checked before cells, and cells column by column. -/
def ofRows (schema : List (String × DataType)) (rows : List (List Value)) :
    Except Error Table := do
  checkWidths schema.length 0 rows
  let columns ← schema.zipIdx.mapM fun (field, j) =>
    Column.checked (rows.map fun row => row.getD j .null) (some field.2)
  ofColumns (schema.map (·.1)) columns rows.length

/-- No columns and one row. -/
def singleRow : Table := ⟨[], [], 1⟩

def types (t : Table) : List ColumnType := t.columns.map Column.type

def columnAt? (t : Table) (i : Nat) : Option Column := t.columns[i]?

/-- The first column of that name. -/
def columnNamed? (t : Table) (name : String) : Option Column :=
  (t.names.idxOf? name).bind t.columnAt?

/-- The rows at the given places, in that order. -/
def take (t : Table) (rows : List Nat) : Table :=
  ⟨t.names, t.columns.map (·.take rows), rows.length⟩

/-- The rows whose flag is set; the number of rows is the number of set flags. -/
def filter (t : Table) (mask : List Bool) : Table :=
  ⟨t.names, t.columns.map (·.filter mask), mask.count true⟩

/-- The largest number of rows, a word of 64 bits. -/
def maxRows : Nat := UInt64.size - 1

/-- The place after `limit` rows from the row `offset` on. It stays at `maxRows` where the sum
would pass it. -/
def endOfRows (offset limit : Nat) : Nat := min (offset + limit) maxRows

/-- At most `limit` rows from the row `offset` on. -/
def slice (t : Table) (offset limit : Nat) : Table :=
  let start := min offset t.numRows
  let stop := min (endOfRows offset limit) t.numRows
  t.take (List.range' start (stop - start))

/-- The cells row by row. -/
def toRows (t : Table) : List (List Value) :=
  (List.range t.numRows).map fun i => t.columns.map (·.cell i)

/-- The cells row by row; none if a column has no value in some row. -/
def rows? (t : Table) : Option (List (List Value)) :=
  if t.columns.all fun c => t.numRows ≤ c.length then some t.toRows else none

@[simp] theorem numRows_take (t : Table) (rows : List Nat) :
    (t.take rows).numRows = rows.length := rfl

@[simp] theorem names_take (t : Table) (rows : List Nat) : (t.take rows).names = t.names := rfl

@[simp] theorem types_take (t : Table) (rows : List Nat) : (t.take rows).types = t.types := by
  simp [types, take]

@[simp] theorem length_toRows (t : Table) : t.toRows.length = t.numRows := by
  simp [toRows]

theorem rows?_eq_some_iff {t : Table} {rows : List (List Value)} :
    t.rows? = some rows ↔ (∀ c ∈ t.columns, t.numRows ≤ c.length) ∧ t.toRows = rows := by
  simp [rows?]

/-- A slice never reaches past the table, also where the sum of offset and limit is no word. -/
theorem numRows_slice {t : Table} (h : t.numRows ≤ maxRows) (offset limit : Nat) :
    (t.slice offset limit).numRows = min limit (t.numRows - offset) := by
  simp only [slice, endOfRows, numRows_take, List.length_range']
  omega

end Table

end ColumnarSql
