import ColumnarSql.Expr.Text

/-!
# Building expressions

Constructors for the written forms that are checked or that stand for a longer
form.
-/

set_option autoImplicit false

namespace ColumnarSql

/-- The window of a call. -/
structure Window (σ : Type) where
  partitionBy : List (Expr σ)
  orderBy : List (Expr σ × SortOrder)

namespace Expr

variable {σ : Type}

/-- A constant under the type inferred from it. -/
def ofValue (v : Value) : Expr σ := .literal (.ofValue v)

/-- A field by its dotted path. -/
def ofPath (path : String) : Expr σ := .field (Text.pathOf path)

/-- Branches with their conditions; a comparand is compared with every first part. -/
def caseOf (comparand : Option (Expr σ)) (whens : List (Expr σ × Expr σ))
    (otherwise : Option (Expr σ)) : Except Error (Expr σ) :=
  if whens.isEmpty then .error .caseWithoutWhen
  else
    let condition (w : Expr σ) := comparand.elim w fun c => .binary .eq c w
    .ok (.case (whens.map fun w => (condition w.1, w.2)) (otherwise.getD (.literal .null)))

/-- A cast to a scalar type by its name. -/
def castTo (e : Expr σ) (typeName : String) : Except Error (Expr σ) :=
  match ScalarType.ofName? typeName with
  | some t => .ok (.cast e t)
  | none => .error (.unknownTypeName typeName)

/-- A part of a date by its name. -/
def extractNamed (part : String) (e : Expr σ) : Except Error (Expr σ) :=
  (DatePart.parse part).map fun p => .extract p e

/-- A struct of fields with optional names. -/
def structOf (fields : List (Expr σ × Option String)) : Expr σ :=
  .struct (some (fields.map fun f => ⟨f.2, none⟩)) (fields.map (·.1))

/-- A struct of a declared struct type. -/
def structTyped (type : DataType) (fields : List (Expr σ)) : Except Error (Expr σ) :=
  match type with
  | .struct declared => .ok (.struct (some declared) fields)
  | t => .error (.notStructType t)

/-- A struct of nameless fields. -/
def tuple (fields : List (Expr σ)) : Expr σ := .struct none fields

/-- An array; without an element list it is the empty array, which keeps one
constant element that gives its number of rows. -/
def arrayOf (element : ColumnType) : Option (List (Expr σ)) → Expr σ
  | some es => .array element es false
  | none => .array element [ofValue (.integer 1)] true

/-- A call, over a window if there is one. The number of arguments is checked; a
call without arguments gets one constant, so that it has a value in every row. -/
def callOf (f : SqlFunction) (args : List (Expr σ)) (window : Option (Window σ)) :
    Except Error (Expr σ) := do
  f.checkArity args.length
  let args := if args.isEmpty then [ofValue (.integer 1)] else args
  return match window with
  | none => .call f args
  | some w => .analytic f args w.partitionBy w.orderBy

/-- `COUNT`; without an argument it counts rows. -/
def countOf (arg : Option (Expr σ)) (distinct : Bool) (window : Option (Window σ)) :
    Except Error (Expr σ) :=
  match arg with
  | none => callOf (.count false) [ofValue (.integer 1)] window
  | some e => callOf (.count distinct) [e] window

end Expr

end ColumnarSql
