import ColumnarSql.Value.Text

/-!
# Errors

One constructor per cause. `kind` sorts the causes into six kinds and `message`
is the text shown for a cause. Expressions appear by their text.
-/

set_option autoImplicit false

namespace ColumnarSql

/-- What a group of operands or arguments must be. -/
inductive OperandClass where
  | numeric
  | boolean
  | string
  | stringOrBytes
  | stringOrTemporal
deriving DecidableEq

namespace OperandClass

def name : OperandClass → String
  | numeric => "numeric"
  | boolean => "BOOLEAN"
  | string => "STRING"
  | stringOrBytes => "STRING or BYTES"
  | stringOrTemporal => "STRING or temporal"

/-- The scalar types of a class. -/
def members : OperandClass → List ScalarType
  | numeric => [.integer, .float]
  | boolean => [.boolean]
  | string => [.string]
  | stringOrBytes => [.string, .bytes]
  | stringOrTemporal => [.string, .date, .datetime, .timestamp]

/-- Whether a column type fits: the unknown type fits every class. -/
def admits (c : OperandClass) (t : ColumnType) : Bool :=
  t.all fun t => t.scalar?.any fun s => c.members.contains s

end OperandClass

inductive ErrorKind where
  | coercion
  | type
  | resolution
  | semantic
  | notImplemented
  | evaluation
deriving DecidableEq

/-- The words in front of every message of a kind. -/
def ErrorKind.lead : ErrorKind → String
  | .coercion => "Cannot implicitly coerce the given types: "
  | .type => "Type error: "
  | .resolution => "Resolution error: "
  | .semantic => ""
  | .notImplemented => "Not implemented: "
  | .evaluation => "Evaluation error: "

/-- Why building or evaluating a query failed. -/
inductive Error where
  | noCommonType (types : List ColumnType)
  -- types
  | unknownTypeName (name : String)
  | cellMismatch (value : Value) (type : ColumnType)
  | literalMismatch (value : Value) (type : ColumnType)
  | notStructType (type : DataType)
  | operandTypes (op : String) (expected : OperandClass) (left right : ColumnType)
  | notOperandType (type : ColumnType)
  | negationType (type : ColumnType)
  | conditionType (construct : String) (type : ColumnType)
  | extractType (type : ColumnType)
  | structArity (declared given : Nat)
  | structFieldType (position : Nat) (actual : ColumnType) (expected : DataType)
  | nestedArray
  | arrayElementType (declared : DataType) (computed : ColumnType)
  | arrayOfNull
  | argumentTypes (function : String) (expected : OperandClass) (types : List ColumnType)
  | arrayAggElement (type : ColumnType)
  | functionValue (function : String) (value : Value)
  | operandValues (op : String) (left right : Value)
  | clauseType (clause : String) (type : DataType)
  -- names
  | ambiguousField (path : List String) (candidates : List String)
  | unknownField (path : List String) (available : List String)
  | unknownGroupField (name : String) (available : List String)
  | invalidTablePath (parts : List String)
  | tableNotInFrom (table : String)
  | orderFieldNotFound (canonical : String)
  | tableNotFound (project dataset table : String)
  | manyProjects (path : List String) (projects : List String)
  | manyDatasets (path : List String) (datasets : List String)
  -- meaning
  | nameCount (names columns : Nat)
  | columnLength (column : String) (actual expected : Nat)
  | rowLength (row actual expected : Nat)
  | literalNullness (value : Value) (type : ColumnType)
  | unplacedSelector (selector : String)
  | caseWithoutWhen
  | unknownDatePart (part : String)
  | argumentCount (function expected : String) (actual : Nat)
  | groupByConstant (expr : String)
  | groupByPosition (position : Int) (fields : Nat)
  | groupByTarget (expr : String)
  | crossJoinCondition
  | joinWithoutCondition (join : String)
  | scopeTableLength (table : Option String) (actual expected : Nat)
  | scopeColumnLength (column : String) (actual expected : Nat)
  | resultLength (actual expected : Nat)
  | ungroupedResult
  | ungroupedOperands (expr : String)
  | operandLengths (expr : String) (first second : Nat)
  | ungroupedHaving (expr : String)
  | ungroupedClause (clause : String)
  | rowNumberWithoutOver
  | notRowWise (function : String)
  | notAggregating (function : String)
  | orderByConstant (expr : String)
  | orderByPosition (position : Int) (columns : Nat)
  | orderByTarget (expr : String)
  | notConstantCount (clause expr : String)
  | badCount (clause : String) (value : Value)
  | unionWidth (left right : Nat)
  -- missing features
  | selectDistinct
  | withBinding
  | unknownFunction (name : String)
  | aggregateArity
  | starOfExpression (expr : String)
  | extractPart (part : String)
  | arrayAggOrder
  | arrayAggLimit
  | windowOverGroups (call : String)
  | setOperator (op : String)
  -- values
  | badCast (value : Value) (target : ScalarType)
  | divisionByZero (left right : Value)
  | integerOverflow (op : String) (left right : Int64)
  | negationOverflow (value : Int64)
  | absOverflow (value : Int64)
  | modByZero (left right : Value)
  | sumOverflow (total : Int64)
  | badPattern (pattern : String)

namespace Error

def kind : Error → ErrorKind
  | noCommonType _ => .coercion
  | unknownTypeName _ | cellMismatch .. | literalMismatch .. | notStructType _ | operandTypes ..
  | notOperandType _ | negationType _ | conditionType .. | extractType _ | structArity ..
  | structFieldType .. | nestedArray | arrayElementType .. | arrayOfNull | argumentTypes ..
  | arrayAggElement _ | functionValue .. | operandValues .. | clauseType .. => .type
  | ambiguousField .. | unknownField .. | unknownGroupField .. | invalidTablePath _
  | tableNotInFrom _ | orderFieldNotFound _ | tableNotFound .. | manyProjects ..
  | manyDatasets .. => .resolution
  | nameCount .. | columnLength .. | rowLength .. | literalNullness .. | unplacedSelector _
  | caseWithoutWhen | unknownDatePart _ | argumentCount .. | groupByConstant _
  | groupByPosition .. | groupByTarget _ | crossJoinCondition | joinWithoutCondition _
  | scopeTableLength .. | scopeColumnLength .. | resultLength .. | ungroupedResult
  | ungroupedOperands _ | operandLengths .. | ungroupedHaving _ | ungroupedClause _
  | rowNumberWithoutOver | notRowWise _ | notAggregating _ | orderByConstant _
  | orderByPosition .. | orderByTarget _ | notConstantCount .. | badCount ..
  | unionWidth .. => .semantic
  | selectDistinct | withBinding | unknownFunction _ | aggregateArity | starOfExpression _
  | extractPart _ | arrayAggOrder | arrayAggLimit | windowOverGroups _
  | setOperator _ => .notImplemented
  | badCast .. | divisionByZero .. | integerOverflow .. | negationOverflow _ | absOverflow _
  | modByZero .. | sumOverflow _ | badPattern _ => .evaluation

/-- A list of quoted texts. -/
def quotedList (texts : List String) : String :=
  "[" ++ Text.joined ", " (texts.map Text.quoted) ++ "]"

/-- The text of a cause without the words for its kind. -/
def detail : Error → String
  | noCommonType ts => ColumnType.renderList ts
  | unknownTypeName n => s!"Unknown type name {n}"
  | cellMismatch v t => s!"Value {v.describe} does not match column type {t.render}"
  | literalMismatch v t => s!"Literal {v.describe} is not a {t.render}"
  | notStructType t => s!"STRUCT literal declared with non-STRUCT type {t.render}"
  | operandTypes op c l r =>
    s!"{op} requires {c.name} operands, got {l.render} and {r.render}"
  | notOperandType t => s!"NOT accepts only booleans but was given type: {t.render}"
  | negationType t =>
    s!"UnaryNegation expression supports only integers and floats, got: {t.render}"
  | conditionType c t => s!"{c} condition isn't boolean! Found: {t.render}"
  | extractType t => s!"EXTRACT requires a DATE, DATETIME or TIMESTAMP, got: {t.render}"
  | structArity d g => s!"STRUCT declares {d} fields but {g} were given"
  | structFieldType i a e =>
    s!"Struct field {i} has type {a.render} which does not coerce to {e.render}"
  | nestedArray => "Cannot create arrays of arrays"
  | arrayElementType d c =>
    s!"Array specifies type {d.render}, incompatible with values of type {c.render}"
  | arrayOfNull => "Cannot create arrays of type NULL"
  | argumentTypes f c ts =>
    s!"{f} expects {c.name} arguments, got {ColumnType.renderList ts}"
  | arrayAggElement t => s!"ARRAY_AGG supports only scalar element types, got {t.render}"
  | functionValue f v => s!"{f} cannot be applied to {v.describe}"
  | operandValues op l r => s!"Cannot apply {op} to {l.describe} and {r.describe}"
  | clauseType c t => s!"{c} condition must be BOOLEAN, got {t.render}"
  | ambiguousField p cs =>
    s!"Attempt to refer to ambiguous field {Text.dotted p}; candidates: {quotedList cs}"
  | unknownField p fs =>
    s!"Attempt to refer to nonexistent field {Text.dotted p}; fields available: {quotedList fs}"
  | unknownGroupField n fs =>
    s!"Attempt to group by nonexistent field {n}; fields available: {quotedList fs}"
  | invalidTablePath ps => s!"Invalid table path {Text.dotted ps}"
  | tableNotInFrom t => s!"Table {t} not found in FROM clause"
  | orderFieldNotFound c => s!"ORDER BY field {c} not found"
  | tableNotFound p d t => s!"Table {p}.{d}.{t} not found"
  | manyProjects p ps =>
    s!"Non-fully-qualified table {quotedList p} with multiple possible projects {quotedList ps}"
  | manyDatasets p ds =>
    s!"Non-fully-qualified table {quotedList p} with multiple possible datasets {quotedList ds}"
  | nameCount n c => s!"Table has {n} names for {c} columns"
  | columnLength c n m => s!"Column {c} has {n} rows, expected {m}"
  | rowLength i n m => s!"Row {i} has {n} values, expected {m}"
  | literalNullness v t =>
    s!"Value(None, None) means NULL; Value({v.describe}, {t.render}) is not allowed"
  | unplacedSelector s => s!"Accessing name of Selector {s} before position is populated"
  | caseWithoutWhen => "Must provide at least one WHEN for a CASE"
  | unknownDatePart p => s!"Not a valid date part to retrieve: {p}"
  | argumentCount f e n => s!"{f} expects {e} arguments, got {n}"
  | groupByConstant e => s!"Attempt to group by a literal non-integer constant {e}"
  | groupByPosition i n => s!"GROUP BY position {i} is out of range for {n} fields"
  | groupByTarget e => s!"Invalid GROUP BY target {e}"
  | crossJoinCondition => "CROSS JOIN does not take a join condition"
  | joinWithoutCondition j => s!"{j} requires ON or USING"
  | scopeTableLength t n m =>
    let name := t.getD "<anonymous>"
    s!"Table {name} has {n} rows, context has {m}"
  | scopeColumnLength c n m => s!"Column {c} has {n} rows, context has {m}"
  | resultLength n m => s!"Expression produced {n} rows, expected {m}"
  | ungroupedResult => "Expression is neither aggregated nor grouped by"
  | ungroupedOperands e => s!"selecting expression {e} that is not aggregated or grouped by"
  | operandLengths e a b => s!"Operands of {e} have different lengths: {a} vs {b}"
  | ungroupedHaving e => s!"HAVING expression {e} is not aggregated or grouped by"
  | ungroupedClause c => s!"{c} condition is not aggregated or grouped by"
  | rowNumberWithoutOver => "ROW_NUMBER requires an OVER clause"
  | notRowWise f => s!"{f} cannot be applied row by row"
  | notAggregating f => s!"{f} is not an aggregating function"
  | orderByConstant e => s!"Attempt to order by a literal non-integer constant {e}"
  | orderByPosition i n => s!"ORDER BY position {i} is out of range for {n} columns"
  | orderByTarget e => s!"Invalid field specification {e}"
  | notConstantCount c e => s!"{c} {e} is not a constant"
  | badCount c v => s!"{c} must be a non-negative INTEGER, got {v.render}"
  | unionWidth l r => s!"Queries in UNION ALL have mismatched column count: {l} vs {r}"
  | selectDistinct => "SELECT DISTINCT not implemented"
  | withBinding => "WITH expressions are not implemented yet"
  | unknownFunction n => s!"Function {n} not implemented"
  | aggregateArity => "Aggregating functions are only supported with 1 argument"
  | starOfExpression e => s!"Cannot select {e}.*"
  | extractPart p => s!"EXTRACT({p} FROM ...) is not implemented"
  | arrayAggOrder => "ARRAY_AGG(ORDER BY) is not implemented"
  | arrayAggLimit => "ARRAY_AGG(LIMIT) is not implemented"
  | windowOverGroups c => s!"Analytic function {c} over grouped rows is not implemented"
  | setOperator op => s!"set operation {op} not implemented"
  | badCast v t => s!"Cannot cast {v.describe} to {t.name}"
  | divisionByZero l r => s!"Division by zero: {l.render} / {r.render}"
  | integerOverflow op l r => s!"Integer overflow: {l.toInt} {op} {r.toInt}"
  | negationOverflow i => s!"Integer overflow negating {i.toInt}"
  | absOverflow i => s!"Integer overflow: ABS({i.toInt})"
  | modByZero l r => s!"Division by zero: MOD({l.render}, {r.render})"
  | sumOverflow t => s!"Integer overflow in SUM after {t.toInt}"
  | badPattern p => s!"Invalid regex {Text.quoted p}"

/-- The whole text of an error. -/
def message (e : Error) : String := e.kind.lead ++ e.detail

end Error

end ColumnarSql
