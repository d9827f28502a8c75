import ColumnarSql.Expr.Text
import ColumnarSql.Scope.Basic

/-!
# Results of expressions

An expression gives a column, a constant that fits any number of rows, or, in a
grouped scope, a column of ungrouped rows that still has to be reduced. Results
of the last kind combine only within one partition; `level` says how many
frames outward that partition is.
-/

set_option autoImplicit false

namespace ColumnarSql

inductive Evaluated where
  | column (c : Column)
  | constant (value : Value) (type : ColumnType)
  | grouped (level : Nat) (c : Column) (groups : Partition)

namespace Evaluated

def type : Evaluated → ColumnType
  | column c => c.type
  | constant _ t => t
  | grouped _ c _ => c.type

/-- The value in a row. -/
def cell (row : Nat) : Evaluated → Value
  | column c => c.cell row
  | constant v _ => v
  | grouped _ c _ => c.cell row

/-- The result as a column of the given length. -/
def toColumn (length : Nat) : Evaluated → Except Error Column
  | column c => if c.length = length then .ok c else .error (.resultLength c.length length)
  | constant v t => .ok (.constant v t length)
  | grouped .. => .error .ungroupedResult

/-- The result as the next query inward sees it: one row is a constant there. -/
def inward : Evaluated → Evaluated
  | column c => if c.length = 1 then constant (c.cell 0) c.type else column c
  | constant v t => constant v t
  | grouped level c groups => grouped (level + 1) c groups

/-- One value for each group, that of its first row. -/
def firstOfGroups : Evaluated → Evaluated
  | grouped _ c groups =>
    column ⟨groups.map fun g => g.head?.elim .null c.cell, c.type⟩
  | e => e

end Evaluated

/-- The common shape of several results. -/
inductive Shape where
  | constant
  | rows (length : Nat)
  | grouped (level length : Nat) (groups : Partition)

namespace Shape

variable {σ : Type}

/-- The shape with one more result, of an operand of `e`. -/
def extend (e : Expr σ) : Shape → Evaluated → Except Error Shape
  | s, .constant _ _ => .ok s
  | constant, .column c => .ok (rows c.length)
  | constant, .grouped level c groups => .ok (grouped level c.length groups)
  | rows n, .column c =>
    if c.length = n then .ok (rows n) else .error (.operandLengths e.render n c.length)
  | grouped level n groups, .grouped other _ _ =>
    if level = other then .ok (grouped level n groups) else .error (.ungroupedOperands e.render)
  | rows _, .grouped .. => .error (.ungroupedOperands e.render)
  | grouped .., .column _ => .error (.ungroupedOperands e.render)

/-- The shape of the operands of `e`. -/
def ofOperands (e : Expr σ) (args : List Evaluated) : Except Error Shape :=
  args.foldlM (extend e) constant

end Shape

namespace Evaluated

variable {σ : Type}

/-- The values of one row of operands. -/
def row (args : List Evaluated) (i : Nat) : List Value := args.map (cell i)

/-- A function applied row by row. -/
def rowValues (args : List Evaluated) (f : List Value → Except Error Value) (length : Nat) :
    Except Error (List Value) :=
  (List.range length).mapM fun i => f (row args i)

/-- A function applied row by row to the operands of `e`. Constants give a constant. -/
def mapRows (e : Expr σ) (type : ColumnType) (f : List Value → Except Error Value)
    (args : List Evaluated) : Except Error Evaluated := do
  match ← Shape.ofOperands e args with
  | .constant => return constant (← f (row args 0)) type
  | .rows n => return column ⟨← rowValues args f n, type⟩
  | .grouped level n groups => return grouped level ⟨← rowValues args f n, type⟩ groups

end Evaluated

/-! ## Reading fields -/

/-- A column as its own frame gives it. -/
def Frame.read (f : Frame) (c : Column) : Evaluated :=
  f.groups.elim (.column c) fun groups => .grouped 0 c groups

namespace Scope

/-- The column a path names in a frame, else in the frames around it. -/
def lookupFrom (f : Frame) : List Frame → List String → Except Error Evaluated
  | [], path => do
    match ← f.find path with
    | some c => return f.read c.column
    | none => throw (f.missing path)
  | g :: gs, path => do
    match ← f.find path with
    | some c => return f.read c.column
    | none => return (← lookupFrom g gs path).inward

def lookup (s : Scope) (path : List String) : Except Error Evaluated :=
  lookupFrom s.frame s.outer path

end Scope

end ColumnarSql
