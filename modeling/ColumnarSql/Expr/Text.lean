import ColumnarSql.Expr.Basic

/-!
# Text of expressions

The text of an expression in messages. Operators are fully parenthesised, a
subquery shows no content, and a grouping mark shows nothing of its own.
-/

set_option autoImplicit false

namespace ColumnarSql

/-- Text constants are quoted, and dates and moments follow their type. -/
def Literal.render (l : Literal) : String :=
  match l.value with
  | .string s => Text.quoted s
  | .date _ | .datetime _ | .timestamp _ =>
    l.type.render ++ " \"" ++ l.value.render ++ "\""
  | v => v.render

/-- An expression's text with the alias it is given. -/
def renderAs (text : String) (label : Option String) : String :=
  label.elim text fun a => text ++ " AS " ++ a

namespace SqlFunction

def isDistinct : SqlFunction → Bool
  | count d => d
  | arrayAgg o => o.distinct
  | _ => false

/-- A call; a function without arguments shows none. -/
def renderCall (f : SqlFunction) (args : List String) : String :=
  f.name ++ "(" ++ (if f.isDistinct then "DISTINCT " else "") ++
    (if f.arity.1 = 0 then "" else Text.joined ", " args) ++ ")"

end SqlFunction

/-- The window of a call; absent lists show nothing. -/
def renderOver (partitionBy orderBy : List String) : String :=
  let clauses :=
    (if partitionBy.isEmpty then [] else ["PARTITION BY " ++ Text.joined ", " partitionBy]) ++
    (if orderBy.isEmpty then [] else ["ORDER BY " ++ Text.joined ", " orderBy])
  "OVER (" ++ Text.joined " " clauses ++ ")"

namespace Expr

variable {σ : Type}

mutual

def render : Expr σ → String
  | literal l => l.render
  | field path => Text.dotted path
  | .exists _ => "EXISTS(SELECT ...)"
  | binary op l r => "(" ++ l.render ++ " " ++ op.symbol ++ " " ++ r.render ++ ")"
  | not e => "NOT " ++ e.render
  | negate e => "-" ++ e.render
  | nullCheck negated e => e.render ++ " IS " ++ (if negated then "NOT " else "") ++ "NULL"
  | inList negated e es =>
    e.render ++ " " ++ (if negated then "NOT " else "") ++ "IN (" ++
      Text.joined ", " (renderAll es) ++ ")"
  | case bs o => "CASE" ++ renderBranches bs ++ " ELSE " ++ o.render ++ " END"
  | conditional c p n => "IF(" ++ Text.joined ", " [c.render, p.render, n.render] ++ ")"
  | cast e t => "CAST(" ++ e.render ++ " AS " ++ t.name ++ ")"
  | extract p e => "EXTRACT(" ++ p.name ++ " FROM " ++ e.render ++ ")"
  | struct _ es => "STRUCT(" ++ Text.joined ", " (renderAll es) ++ ")"
  | array t es empty =>
    t.elim "" (fun t => "ARRAY<" ++ t.render ++ ">") ++
      "[" ++ (if empty then "" else Text.joined ", " (renderAll es)) ++ "]"
  | call f args => f.renderCall (renderAll args)
  | analytic f args ps os =>
    f.renderCall (renderAll args) ++ " " ++ renderOver (renderAll ps) (renderKeys os)
  | selector e label _ => renderAs e.render label
  | groupedBy e => e.render

def renderAll : List (Expr σ) → List String
  | [] => []
  | e :: es => e.render :: renderAll es

def renderBranches : List (Expr σ × Expr σ) → String
  | [] => ""
  | (a, b) :: bs => " WHEN " ++ a.render ++ " THEN " ++ b.render ++ renderBranches bs

/-- Sort keys, where only a descending order is written. -/
def renderKeys : List (Expr σ × SortOrder) → List String
  | [] => []
  | (e, .ascending) :: ks => e.render :: renderKeys ks
  | (e, .descending) :: ks => (e.render ++ " DESC") :: renderKeys ks

end

end Expr

namespace Selector

variable {σ : Type}

def render (s : Selector σ) : String := renderAs s.expr.render s.label

/-- The selector as an expression. -/
def toExpr (s : Selector σ) : Expr σ := .selector s.expr s.label s.position

/-- The output name: the alias, else the name of the expression, else `_f` and
the position. Only the alias is known before the position is. -/
def name (s : Selector σ) : Except Error String :=
  match s.label, s.position with
  | some a, _ => .ok a
  | none, none => .error (.unplacedSelector s.render)
  | none, some n => .ok (s.expr.inferredName.getD ("_f" ++ toString n))

end Selector

end ColumnarSql
