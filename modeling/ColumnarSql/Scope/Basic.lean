import ColumnarSql.Table

/-!
# Scopes

A frame holds the columns one SELECT sees, each under an optional table name and
a column name. After grouping it also holds a partition of its rows. A scope is
a frame inside the frames of the enclosing queries, the nearest one first.
-/

set_option autoImplicit false

namespace ColumnarSql

/-- Row numbers of each group. -/
abbrev Partition := List (List Nat)

structure ScopeColumn where
  table : Option String
  name : String
  column : Column

namespace ScopeColumn

/-- The table name, a dot and the column name; without a table the column name. -/
def path (c : ScopeColumn) : String := c.table.elim c.name fun t => t ++ "." ++ c.name

/-- One part names a column, two parts a table and a column. -/
def answers (c : ScopeColumn) : List String → Bool
  | [n] => c.name = n
  | [t, n] => c.table = some t && c.name = n
  | _ => false

end ScopeColumn

structure Frame where
  columns : List ScopeColumn
  numRows : Nat
  /-- Paths of the grouping keys. -/
  groupPaths : List String
  groups : Option Partition
  /-- Whether reducing calls use the groups of the enclosing frame. -/
  inheritsGroups : Bool

namespace Frame

/-- Rows without columns. -/
def ofRows (numRows : Nat) : Frame := ⟨[], numRows, [], none, false⟩

/-- Columns of a table under a name. -/
def tableColumns (t : Table) (name : Option String) : List ScopeColumn :=
  (t.names.zip t.columns).map fun p => ⟨name, p.1, p.2⟩

def ofTable (t : Table) (name : Option String) : Frame :=
  { ofRows t.numRows with columns := tableColumns t name }

def addTable (f : Frame) (t : Table) (name : Option String) : Except Error Frame :=
  if t.numRows ≠ f.numRows then .error (.scopeTableLength name t.numRows f.numRows)
  else .ok { f with columns := f.columns ++ tableColumns t name }

def addColumn (f : Frame) (table : Option String) (name : String) (column : Column) :
    Except Error Frame :=
  if column.length ≠ f.numRows then .error (.scopeColumnLength name column.length f.numRows)
  else .ok { f with columns := f.columns ++ [⟨table, name, column⟩] }

/-- Rows an expression gives: one for each group once there are groups. -/
def outputLength (f : Frame) : Nat := f.groups.elim f.numRows List.length

def isGrouped (f : Frame) : Bool := f.groups.isSome

/-- Paths of all columns. -/
def paths (f : Frame) : List String := f.columns.map ScopeColumn.path

/-- Columns registered under a table name; `none` if there are none. -/
def columnsOf? (f : Frame) (table : String) : Option (List String) :=
  match (f.columns.filter (·.table = some table)).map (·.name) with
  | [] => none
  | names => some names

/-! ## Rows -/

/-- Every column changed alike, under a new number of rows; groups are dropped. -/
def mapColumns (f : Frame) (numRows : Nat) (g : Column → Column) : Frame :=
  { ofRows numRows with columns := f.columns.map fun c => { c with column := g c.column } }

def filter (f : Frame) (mask : List Bool) : Frame :=
  f.mapColumns (mask.count true) (·.filter mask)

def take (f : Frame) (rows : List Nat) : Frame := f.mapColumns rows.length (·.take rows)

/-- The frame of one row. -/
def row (f : Frame) (i : Nat) : Frame := f.take [i]

/-- Rows of two frames side by side, where the right side may be absent. -/
def combine (f g : Frame) (left : List Nat) (right : List (Option Nat)) : Frame :=
  let l := f.take left
  { l with
    columns := l.columns ++
      g.columns.map fun c => { c with column := c.column.takePadded right } }

@[simp] theorem numRows_filter (f : Frame) (mask : List Bool) :
    (f.filter mask).numRows = mask.count true := rfl

@[simp] theorem numRows_take (f : Frame) (rows : List Nat) :
    (f.take rows).numRows = rows.length := rfl

@[simp] theorem numRows_combine (f g : Frame) (left : List Nat) (right : List (Option Nat)) :
    (f.combine g left right).numRows = left.length := rfl

/-- Choosing rows changes no path. -/
@[simp] theorem paths_mapColumns (f : Frame) (n : Nat) (g : Column → Column) :
    (f.mapColumns n g).paths = f.paths := by
  simp [paths, mapColumns, Function.comp_def, ScopeColumn.path]

/-- Choosing rows drops the groups, so there is one result for each row. -/
@[simp] theorem outputLength_mapColumns (f : Frame) (n : Nat) (g : Column → Column) :
    (f.mapColumns n g).outputLength = n := rfl

/-- Drops the columns from a place on that have one of the names. -/
def dropNamed (f : Frame) (start : Nat) (names : List String) : Frame :=
  { f with
    columns := f.columns.take start ++
      (f.columns.drop start).filter fun c => !names.contains c.name }

/-- All rows as one group. -/
def groupAll (f : Frame) : Frame :=
  { f with groups := some [List.range f.numRows], groupPaths := [] }

/-! ## Names -/

/-- The column a path names; several such columns are an error. -/
def find (f : Frame) (path : List String) : Except Error (Option ScopeColumn) :=
  match f.columns.filter (·.answers path) with
  | [] => .ok none
  | [c] => .ok (some c)
  | cs => .error (.ambiguousField path (cs.map ScopeColumn.path))

def missing (f : Frame) (path : List String) : Error := .unknownField path f.paths

/-- The column a path must name. -/
def column (f : Frame) (path : List String) : Except Error Column := do
  match ← f.find path with
  | some c => return c.column
  | none => throw (f.missing path)

end Frame

structure Scope where
  frame : Frame
  /-- Frames of the enclosing queries, the nearest first. -/
  outer : List Frame

namespace Scope

/-- All frames, the innermost first. -/
def frames (s : Scope) : List Frame := s.frame :: s.outer

/-- The path of the column that the first frame with an answer gives. -/
def tryResolveIn : List Frame → List String → Except Error (Option String)
  | [], _ => .ok none
  | f :: fs, path => do
    match ← f.find path with
    | some c => return some c.path
    | none => tryResolveIn fs path

/-- The path of the column a path names, here or in an enclosing query. -/
def tryResolve (s : Scope) (path : List String) : Except Error (Option String) :=
  tryResolveIn s.frames path

/-- The path of the column a path must name. -/
def resolve (s : Scope) (path : List String) : Except Error String := do
  match ← s.tryResolve path with
  | some p => return p
  | none => throw (s.frame.missing path)

/-- Where reducing calls are evaluated: a frame without groups may pass them on
to the enclosing frame. -/
def reducingFrom (f : Frame) : List Frame → Scope
  | [] => ⟨f, []⟩
  | g :: gs => if f.groups.isNone && f.inheritsGroups then reducingFrom g gs else ⟨f, g :: gs⟩

def reducing (s : Scope) : Scope := reducingFrom s.frame s.outer

end Scope

end ColumnarSql
