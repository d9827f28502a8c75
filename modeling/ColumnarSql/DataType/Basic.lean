import ColumnarSql.Text.Case
import ColumnarSql.Text.Path

/-!
# Types

A type is a scalar, an array or a struct. A struct field may lack a name, a
type or both. A column's type is an optional type: `none` is the type of a bare
NULL and is written `NULL`.
-/

set_option autoImplicit false

namespace ColumnarSql

inductive ScalarType where
  | boolean
  | integer
  | float
  | string
  | bytes
  | date
  | datetime
  | timestamp
deriving DecidableEq, Repr

namespace ScalarType

/-- The name a type is written with. -/
def name : ScalarType → String
  | boolean => "BOOLEAN"
  | integer => "INTEGER"
  | float => "FLOAT"
  | string => "STRING"
  | bytes => "BYTES"
  | date => "DATE"
  | datetime => "DATETIME"
  | timestamp => "TIMESTAMP"

def isNumeric : ScalarType → Bool
  | integer | float => true
  | _ => false

/-- The accepted names, in upper case. -/
def names : List (String × ScalarType) := [
  ("BOOL", boolean), ("BOOLEAN", boolean),
  ("INT64", integer), ("INTEGER", integer), ("INT", integer),
  ("FLOAT64", float), ("FLOAT", float),
  ("STRING", string), ("BYTES", bytes),
  ("DATE", date), ("DATETIME", datetime), ("TIMESTAMP", timestamp)]

/-- The type of a name; the case of ASCII letters does not matter. -/
def ofName? (s : String) : Option ScalarType := names.lookup (Text.asciiUpper s)

end ScalarType

/-- A field of a struct type. -/
structure Field (τ : Type) where
  name : Option String
  type : Option τ
deriving DecidableEq

inductive DataType where
  | scalar (s : ScalarType)
  | array (element : DataType)
  | struct (fields : List (Field DataType))

/-- The declared type of a column; `none` is the type of NULL. -/
abbrev ColumnType := Option DataType

namespace DataType

/-! ## Decidable equality -/

mutual

def decEq : (a b : DataType) → Decidable (a = b)
  | .scalar s, .scalar t =>
    if h : s = t then isTrue (h ▸ rfl) else isFalse fun e => h (by cases e; rfl)
  | .array a, .array b =>
    match decEq a b with
    | isTrue h => isTrue (h ▸ rfl)
    | isFalse h => isFalse fun e => h (by cases e; rfl)
  | .struct f, .struct g =>
    match decEqFields f g with
    | isTrue h => isTrue (h ▸ rfl)
    | isFalse h => isFalse fun e => h (by cases e; rfl)
  | .scalar _, .array _ => isFalse nofun
  | .scalar _, .struct _ => isFalse nofun
  | .array _, .scalar _ => isFalse nofun
  | .array _, .struct _ => isFalse nofun
  | .struct _, .scalar _ => isFalse nofun
  | .struct _, .array _ => isFalse nofun

def decEqFields : (f g : List (Field DataType)) → Decidable (f = g)
  | [], [] => isTrue rfl
  | [], _ :: _ => isFalse nofun
  | _ :: _, [] => isFalse nofun
  | ⟨_, none⟩ :: _, ⟨_, some _⟩ :: _ => isFalse nofun
  | ⟨_, some _⟩ :: _, ⟨_, none⟩ :: _ => isFalse nofun
  | ⟨n, none⟩ :: f, ⟨m, none⟩ :: g =>
    if h : n = m then
      match decEqFields f g with
      | isTrue e => isTrue (by rw [h, e])
      | isFalse e => isFalse fun e' => e (by cases e'; rfl)
    else isFalse fun e => h (by cases e; rfl)
  | ⟨n, some a⟩ :: f, ⟨m, some b⟩ :: g =>
    if h : n = m then
      match decEq a b with
      | isTrue h' =>
        match decEqFields f g with
        | isTrue e => isTrue (by rw [h, h', e])
        | isFalse e => isFalse fun e' => e (by cases e'; rfl)
      | isFalse h' => isFalse fun e => h' (by cases e; rfl)
    else isFalse fun e => h (by cases e; rfl)

end

instance : DecidableEq DataType := decEq

/-! ## Kinds -/

abbrev boolean : DataType := .scalar .boolean

abbrev integer : DataType := .scalar .integer

abbrev float : DataType := .scalar .float

abbrev string : DataType := .scalar .string

abbrev timestamp : DataType := .scalar .timestamp

def scalar? : DataType → Option ScalarType
  | .scalar s => some s
  | _ => none

def isNumeric : DataType → Bool
  | .scalar s => s.isNumeric
  | _ => false

def isArray : DataType → Bool
  | .array _ => true
  | _ => false

/-! ## Text -/

mutual

def render : DataType → String
  | .scalar s => s.name
  | .array t => "ARRAY<" ++ t.render ++ ">"
  | .struct fs => "STRUCT<" ++ Text.joined ", " (renderFields fs) ++ ">"

/-- A field is written as its name and its type, as far as it has them. -/
def renderFields : List (Field DataType) → List String
  | [] => []
  | ⟨some n, some t⟩ :: fs => (n ++ " " ++ t.render) :: renderFields fs
  | ⟨some n, none⟩ :: fs => n :: renderFields fs
  | ⟨none, some t⟩ :: fs => t.render :: renderFields fs
  | ⟨none, none⟩ :: fs => "NULL" :: renderFields fs

end

end DataType

/-- Text of a column type. -/
def ColumnType.render (t : ColumnType) : String := t.elim "NULL" DataType.render

/-- Texts of column types in parentheses. -/
def ColumnType.renderList (ts : List ColumnType) : String :=
  "(" ++ Text.joined ", " (ts.map ColumnType.render) ++ ")"

end ColumnarSql
