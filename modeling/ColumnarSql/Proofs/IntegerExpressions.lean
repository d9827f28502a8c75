import ColumnarSql.Proofs.EvaluationTypes
import ColumnarSql.Proofs.IntegerSums

/-!
# Integer expressions

Expressions of INTEGER columns, integer literals and NULL under `+`, `-`, `*`, change of sign,
ABS and MOD have a meaning on unbounded integers (`IntegerTree.exact`): a failing operand makes
an operation fail, else NULL makes NULL, and else the exact number counts if it has 64 bits.
In a scope of one row the evaluation gives just that (`integer_expressions_exact`), so no
operation wraps around.

The induction is over the tree. Its step is the same for all operations: the operands are
constants or columns of one value, so the operation is one call of its row function
(`IntegerTree.describes_mapRows`), and that is exact on integers (`IsExact`, `IsExact₂`).
-/

set_option autoImplicit false

namespace ColumnarSql

/-- An expression of integers. -/
inductive IntegerTree where
  | column (path : List String)
  | literal (i : Int64)
  | null
  | negate (e : IntegerTree)
  | abs (e : IntegerTree)
  | add (l r : IntegerTree)
  | sub (l r : IntegerTree)
  | mul (l r : IntegerTree)
  | mod (l r : IntegerTree)

namespace IntegerTree

/-- The tree as an expression of the language. -/
def toExpr {σ : Type} : IntegerTree → Expr σ
  | column path => .field path
  | literal i => .literal ⟨.integer i, some .integer⟩
  | null => .literal .null
  | negate e => .negate e.toExpr
  | abs e => .call .abs [e.toExpr]
  | add l r => .binary .add l.toExpr r.toExpr
  | sub l r => .binary .sub l.toExpr r.toExpr
  | mul l r => .binary .mul l.toExpr r.toExpr
  | mod l r => .call .mod [l.toExpr, r.toExpr]

/-- The columns the tree names. -/
def paths : IntegerTree → List (List String)
  | column path => [path]
  | literal _ | null => []
  | negate e | abs e => e.paths
  | add l r | sub l r | mul l r | mod l r => l.paths ++ r.paths

/-! ## The meaning on unbounded integers -/

/-- What an expression of integers comes to. -/
inductive Outcome where
  | fails
  | null
  | integer (n : Int)
deriving DecidableEq

namespace Outcome

/-- An exact result counts if it has 64 bits. -/
def ofExact : Option Int → Outcome
  | some n => if Integer.InRange n then integer n else fails
  | none => fails

/-- An operation on one operand. -/
def map (exact : Int → Option Int) : Outcome → Outcome
  | fails => fails
  | null => null
  | integer n => ofExact (exact n)

/-- An operation on two operands: one that fails decides before one that is NULL. -/
def map₂ (exact : Int → Int → Option Int) : Outcome → Outcome → Outcome
  | fails, _ | _, fails => fails
  | null, _ | _, null => null
  | integer m, integer n => ofExact (exact m n)

end Outcome

/-- The remainder has the sign of the dividend; there is none by zero. -/
def exactMod (m n : Int) : Option Int := if n = 0 then none else some (m.tmod n)

/-- The outcome of a tree where each column has the given integer or is NULL. -/
def exact (read : List String → Option Int) : IntegerTree → Outcome
  | column path => (read path).elim .null .integer
  | literal i => .integer i.toInt
  | null => .null
  | negate e => (e.exact read).map fun n => some (-n)
  | abs e => (e.exact read).map fun n => some n.natAbs
  | add l r => Outcome.map₂ (fun m n => some (m + n)) (l.exact read) (r.exact read)
  | sub l r => Outcome.map₂ (fun m n => some (m - n)) (l.exact read) (r.exact read)
  | mul l r => Outcome.map₂ (fun m n => some (m * n)) (l.exact read) (r.exact read)
  | mod l r => Outcome.map₂ exactMod (l.exact read) (r.exact read)

/-! ## What the outcome says about values -/

/-- INTEGER, or the type of NULL alone. -/
def IntegerType (t : ColumnType) : Prop := t = none ∨ t = some .integer

/-- The common type of two such types. -/
theorem IntegerType.or {t u : ColumnType} (ht : IntegerType t) (hu : IntegerType u) :
    IntegerType (t.or u) := by
  rcases ht with rfl | rfl
  · exact hu
  · exact .inr rfl

namespace Outcome

/-- A value, or an error of evaluation, as the outcome says. -/
inductive Gives : Outcome → Except Error Value → Prop where
  | fails {x : Error} (kind : x.kind = .evaluation) : Gives fails (.error x)
  | null : Gives null (.ok .null)
  | integer (i : Int64) : Gives (integer i.toInt) (.ok (.integer i))

theorem gives_integer_iff {i : Int64} {x : Except Error Value} :
    (integer i.toInt).Gives x ↔ x = .ok (.integer i) := by
  constructor
  · intro h
    generalize ho : integer i.toInt = o at h
    cases h with
    | integer j => rw [Int64.toInt_inj.mp (integer.inj ho)]
    | _ => cases ho
  · rintro rfl
    exact .integer i

/-- The result of an expression in one row: its value is the outcome, as a constant or as a
column of one row. -/
def Describes (groups : Option Partition) (o : Outcome) (x : Except Error Evaluated) : Prop :=
  o.Gives (x.map (Evaluated.cell 0)) ∧ ∀ a, x = .ok a → a.Over 1 groups ∧ IntegerType a.type

theorem describes_ok {groups : Option Partition} {o : Outcome} {a : Evaluated} :
    o.Describes groups (.ok a) ↔
      o.Gives (.ok (a.cell 0)) ∧ a.Over 1 groups ∧ IntegerType a.type := by
  simp [Describes, Except.map]

theorem describes_error {groups : Option Partition} {o : Outcome} {x : Error} :
    o.Describes groups (.error x) ↔ o.Gives (.error x) := by
  simp [Describes, Except.map]

theorem describes_fails_iff {groups : Option Partition} {x : Except Error Evaluated} :
    fails.Describes groups x ↔ ∃ e : Error, x = .error e ∧ e.kind = .evaluation := by
  constructor
  · rintro ⟨h, -⟩
    cases x with
    | error e =>
      obtain ⟨kind⟩ := h
      exact ⟨e, rfl, kind⟩
    | ok a => cases h
  · rintro ⟨e, rfl, kind⟩
    exact describes_error.mpr (.fails kind)

/-- A function that checks for 64 bits gives the exact result. -/
theorem gives_ofExact {n : Int} {y : Except Error Value} {x : Error}
    (hx : x.kind = .evaluation)
    (hy : y = (Integer.ofInt? n).elim (.error x) fun i => .ok (.integer i)) :
    (ofExact (some n)).Gives y := by
  subst hy
  cases h : Integer.ofInt? n with
  | some i =>
    rw [ofExact, if_pos (Integer.ofInt?_eq_some h ▸ Integer.inRange_toInt i),
      ← Integer.ofInt?_eq_some h]
    exact .integer i
  | none =>
    rw [ofExact, if_neg (Integer.ofInt?_eq_none h)]
    exact .fails hx

end Outcome

/-! ## Exact functions -/

/-- A function of one value that is exact on integers. -/
structure IsExact (exact : Int → Option Int) (f : Value → Except Error Value) : Prop where
  null : f .null = .ok .null
  integers (i : Int64) : (Outcome.ofExact (exact i.toInt)).Gives (f (.integer i))

/-- A function of two values that is exact on integers. -/
structure IsExact₂ (exact : Int → Int → Option Int) (f : Value → Value → Except Error Value) :
    Prop where
  null_left (v : Value) : f .null v = .ok .null
  null_right (v : Value) : f v .null = .ok .null
  integers (i j : Int64) :
    (Outcome.ofExact (exact i.toInt j.toInt)).Gives (f (.integer i) (.integer j))

theorem IsExact.gives {exact : Int → Option Int} {f : Value → Except Error Value}
    (hf : IsExact exact f) {o : Outcome} {v : Value} (h : o.Gives (.ok v)) :
    (o.map exact).Gives (f v) := by
  cases h with
  | null => exact hf.null ▸ .null
  | integer i => exact hf.integers i

theorem IsExact₂.gives {exact : Int → Int → Option Int} {f : Value → Value → Except Error Value}
    (hf : IsExact₂ exact f) {o p : Outcome} {v w : Value} (hv : o.Gives (.ok v))
    (hw : p.Gives (.ok w)) : (o.map₂ exact p).Gives (f v w) := by
  cases hv with
  | null =>
    rw [hf.null_left]
    cases hw <;> exact .null
  | integer i =>
    cases hw with
    | null => exact hf.null_right (.integer i) ▸ .null
    | integer j => exact hf.integers i j

theorem isExact_negateValue : IsExact (fun n => some (-n)) Evaluated.negateValue where
  null := rfl
  integers i := Outcome.gives_ofExact (x := .negationOverflow i) rfl (by
    simp only [Evaluated.negateValue]
    cases Integer.ofInt? (-i.toInt) <;> rfl)

theorem isExact_abs (now : Moment) (t : ColumnType) :
    IsExact (fun n => some n.natAbs) fun v => SqlFunction.abs.onRow now t [v] where
  null := rfl
  integers i := Outcome.gives_ofExact (x := .absOverflow i) rfl (by
    change SqlFunction.absolute (.integer i) = _
    simp only [SqlFunction.absolute]
    cases Integer.ofInt? i.toInt.natAbs <;> rfl)

/-- Checked arithmetic is exact if the numbers it checks are. -/
theorem isExact₂_arithmetic {op : BinaryOp} {exact : Int → Int → Int} (hdiv : op ≠ .div)
    (h : ∀ m n, op.onIntegers? m n = Integer.ofInt? (exact m n)) :
    IsExact₂ (fun m n => some (exact m n)) op.arithmetic where
  null_left _ := rfl
  null_right v := by cases v <;> rfl
  integers i j := Outcome.gives_ofExact (x := .integerOverflow op.symbol i j) rfl (by
    simp only [BinaryOp.arithmetic, if_neg hdiv, h]
    cases Integer.ofInt? (exact i.toInt j.toInt) <;> rfl)

/-- A remainder always has 64 bits, as it is that of the numbers of 64 bits. -/
theorem isExact₂_mod (now : Moment) {t : ColumnType} (ht : IntegerType t) :
    IsExact₂ exactMod fun v w => SqlFunction.mod.onRow now t [v, w] where
  null_left _ := rfl
  null_right v := by cases v <;> rfl
  integers i j := by
    change (Outcome.ofExact (exactMod i.toInt j.toInt)).Gives
      ((SqlFunction.modulo (.integer i) (.integer j)).map (·.widen t))
    by_cases hj : j = 0
    · subst hj
      exact .fails (x := .modByZero (.integer i) (.integer 0)) rfl
    · have hzero : j.toInt ≠ 0 := fun h => hj (Int64.toInt_inj.mp h)
      rw [exactMod, if_neg hzero, ← Int64.toInt_mod, Outcome.ofExact,
        if_pos (Integer.inRange_toInt (i % j))]
      have hvalue : SqlFunction.modulo (.integer i) (.integer j) = .ok (.integer (i % j)) := by
        simp only [SqlFunction.modulo, if_neg hj]
        rw [← Int64.toInt_mod, Int64.ofInt_toInt]
      have hwiden : (Value.integer (i % j)).widen t = .integer (i % j) := by
        rcases ht with rfl | rfl <;> rfl
      rw [hvalue, Except.map, hwiden]
      exact .integer (i % j)

/-! ## One operation in one row -/

variable {now : Moment} {s : Scope} {groups : Option Partition}

/-- Over one row a function is called once, and its value is that of the result. -/
theorem describes_mapRows {σ : Type} {e : Expr σ} {t : ColumnType}
    {f : List Value → Except Error Value} {args : List Evaluated} {o : Outcome}
    (hargs : ∀ a ∈ args, a.Over 1 groups) (ht : IntegerType t)
    (h : o.Gives (f (Evaluated.row args 0))) :
    o.Describes groups (Evaluated.mapRows e t f args) := by
  rw [Evaluated.mapRows_over e t f hargs, Evaluated.rowValues_one]
  cases hv : f (Evaluated.row args 0) with
  | error x =>
    rw [hv] at h
    split <;> exact Outcome.describes_error.mpr h
  | ok v =>
    rw [hv] at h
    split
    · exact Outcome.describes_ok.mpr ⟨h, .constant v t, ht⟩
    · refine Outcome.describes_ok.mpr ⟨?_, .rows ⟨[v], t⟩ rfl, ?_⟩
      · rw [Evaluated.cell_ofColumn]
        exact h
      · rwa [Evaluated.type_ofColumn]

/-- An operation whose operands have outcomes. -/
theorem describes_operation {e : Expr Plan} {args : List Evaluated} {t : ColumnType}
    {f : List Value → Except Error Value} {o : Outcome} (he : e.isOperation)
    (hcond : e.isConditional = false) (hall : Expr.evalAll now e.children s = .ok args)
    (hkernel : e.kernel now (args.map Evaluated.type) = .ok (t, f))
    (hargs : ∀ a ∈ args, a.Over 1 groups) (ht : IntegerType t)
    (h : o.Gives (f (Evaluated.row args 0))) : o.Describes groups (e.eval now s) := by
  rw [Expr.eval_operation he hcond, hall]
  change o.Describes groups (do
    let k ← e.kernel now (args.map Evaluated.type)
    Evaluated.mapRows e k.1 k.2 args)
  rw [hkernel]
  exact describes_mapRows hargs ht h

/-- An operation fails as the first of its operands that fails. -/
theorem describes_fails {e : Expr Plan} {x : Error} (he : e.isOperation)
    (hcond : e.isConditional = false) (hall : Expr.evalAll now e.children s = .error x)
    (hx : x.kind = .evaluation) : Outcome.fails.Describes groups (e.eval now s) := by
  rw [Expr.eval_operation he hcond, hall]
  exact Outcome.describes_error.mpr (.fails hx)

/-- The operations on one operand. -/
theorem describes_map {e c : Expr Plan} {exact : Int → Option Int} {o : Outcome}
    (he : e.isOperation) (hcond : e.isConditional = false) (hparts : e.children = [c])
    (hkernel : ∀ t, IntegerType t → ∃ u f, e.kernel now [t] = .ok (u, f) ∧ IntegerType u ∧
      IsExact exact fun v => f [v])
    (hc : o.Describes groups (c.eval now s)) :
    (o.map exact).Describes groups (e.eval now s) := by
  cases hx : c.eval now s with
  | error x =>
    rw [hx, Outcome.describes_error] at hc
    cases hc with
    | fails kind =>
      refine describes_fails he hcond (x := x) ?_ kind
      rw [hparts, Expr.evalAll, hx]
      rfl
  | ok a =>
    rw [hx, Outcome.describes_ok] at hc
    obtain ⟨hvalue, hover, htype⟩ := hc
    obtain ⟨u, f, hk, hu, hf⟩ := hkernel a.type htype
    have hall : Expr.evalAll now e.children s = .ok [a] := by
      rw [hparts, Expr.evalAll, hx]
      rfl
    exact describes_operation he hcond hall hk (by simpa using hover) hu (hf.gives hvalue)

/-- The operations on two operands. -/
theorem describes_map₂ {e l r : Expr Plan} {exact : Int → Int → Option Int} {o p : Outcome}
    (he : e.isOperation) (hcond : e.isConditional = false) (hparts : e.children = [l, r])
    (hkernel : ∀ t u, IntegerType t → IntegerType u → ∃ v f, e.kernel now [t, u] = .ok (v, f) ∧
      IntegerType v ∧ IsExact₂ exact fun v w => f [v, w])
    (hl : o.Describes groups (l.eval now s)) (hr : p.Describes groups (r.eval now s)) :
    (o.map₂ exact p).Describes groups (e.eval now s) := by
  -- The left operand is evaluated first; if both fail, its error is the one that is given.
  cases hx : l.eval now s with
  | error x =>
    rw [hx, Outcome.describes_error] at hl
    cases hl with
    | fails kind =>
      have hfails : Outcome.map₂ exact .fails p = .fails := by cases p <;> rfl
      rw [hfails]
      refine describes_fails he hcond (x := x) ?_ kind
      rw [hparts, Expr.evalAll, hx]
      rfl
  | ok a =>
    rw [hx, Outcome.describes_ok] at hl
    cases hy : r.eval now s with
    | error y =>
      rw [hy, Outcome.describes_error] at hr
      cases hr with
      | fails kind =>
        have hfails : Outcome.map₂ exact o .fails = .fails := by cases o <;> rfl
        rw [hfails]
        refine describes_fails he hcond (x := y) ?_ kind
        rw [hparts, Expr.evalAll, hx, Expr.evalAll, hy]
        rfl
    | ok b =>
      rw [hy, Outcome.describes_ok] at hr
      obtain ⟨u, f, hk, hu, hf⟩ := hkernel a.type b.type hl.2.2 hr.2.2
      have hall : Expr.evalAll now e.children s = .ok [a, b] := by
        rw [hparts, Expr.evalAll, hx, Expr.evalAll, hy]
        rfl
      exact describes_operation he hcond hall hk (by simpa using ⟨hl.2.1, hr.2.1⟩) hu
        (hf.gives hl.1 hr.1)

/-! ## The operations of the language -/

theorem describes_negate {e : Expr Plan} {o : Outcome} (h : o.Describes groups (e.eval now s)) :
    (o.map fun n => some (-n)).Describes groups ((Expr.negate e).eval now s) := by
  refine describes_map rfl rfl rfl (fun t ht => ⟨t, onOne Evaluated.negateValue, ?_, ht, ?_⟩) h
  · rcases ht with rfl | rfl <;> rfl
  · exact isExact_negateValue

theorem describes_abs {e : Expr Plan} {o : Outcome} (h : o.Describes groups (e.eval now s)) :
    (o.map fun n => some n.natAbs).Describes groups ((Expr.call .abs [e]).eval now s) := by
  refine describes_map rfl rfl rfl
    (fun t ht => ⟨t, SqlFunction.abs.onRow now t, ?_, ht, isExact_abs now t⟩) h
  rcases ht with rfl | rfl <;> rfl

theorem describes_arithmetic {op : BinaryOp} (hop : op = .add ∨ op = .sub ∨ op = .mul)
    {exact : Int → Int → Int} (hexact : ∀ m n, op.onIntegers? m n = Integer.ofInt? (exact m n))
    {l r : Expr Plan} {o p : Outcome} (hl : o.Describes groups (l.eval now s))
    (hr : p.Describes groups (r.eval now s)) :
    (o.map₂ (fun m n => some (exact m n)) p).Describes groups
      ((Expr.binary op l r).eval now s) := by
  have hdiv : op ≠ .div := by rcases hop with rfl | rfl | rfl <;> decide
  refine describes_map₂ rfl rfl rfl (fun t u ht hu => ⟨t.or u, onTwo op.arithmetic, ?_,
    ht.or hu, isExact₂_arithmetic hdiv hexact⟩) hl hr
  rcases hop with rfl | rfl | rfl <;> rcases ht with rfl | rfl <;> rcases hu with rfl | rfl <;> rfl

theorem describes_mod {l r : Expr Plan} {o p : Outcome} (hl : o.Describes groups (l.eval now s))
    (hr : p.Describes groups (r.eval now s)) :
    (o.map₂ exactMod p).Describes groups ((Expr.call .mod [l, r]).eval now s) := by
  refine describes_map₂ rfl rfl rfl (fun t u ht hu => ⟨t.or u, SqlFunction.mod.onRow now (t.or u),
    ?_, ht.or hu, isExact₂_mod now (ht.or hu)⟩) hl hr
  rcases ht with rfl | rfl <;> rcases hu with rfl | rfl <;> rfl

end IntegerTree

/-! ## Whole expressions -/

namespace Scope

/-- A path that names an INTEGER column of the frame, or one of a row around it. -/
inductive NamesInteger (s : Scope) (path : List String) : Prop where
  | own {c : ScopeColumn} (found : s.frame.find path = .ok (some c))
      (type : c.column.type = some .integer)
  | enclosing {v : Value} (read : s.lookup path = .ok (.constant v (some .integer)))

/-- The integer that a path reads in the first row, if it is not NULL. -/
def integerAt (s : Scope) (path : List String) : Option Int :=
  match s.lookup path with
  | .ok a => (a.cell 0).integer?.map Int64.toInt
  | .error _ => none

theorem describes_lookup {s : Scope} (hs : s.Typed) (hrow : s.frame.numRows = 1)
    (huniform : s.frame.Uniform) {path : List String} (h : s.NamesInteger path) :
    IntegerTree.Outcome.Describes s.frame.groups ((s.integerAt path).elim .null .integer)
      (s.lookup path) := by
  obtain ⟨a, ha, hover, htype⟩ : ∃ a, s.lookup path = .ok a ∧ a.Over 1 s.frame.groups ∧
      a.type = some .integer := by
    cases h with
    | own found type =>
      have hlen := (huniform _ (Frame.mem_of_find found).1).trans hrow
      refine ⟨_, lookupFrom_of_find s.outer found, .rows _ hlen, ?_⟩
      rw [Frame.read_eq_ofColumn, Evaluated.type_ofColumn, type]
    | enclosing read => exact ⟨_, read, .constant _ _, rfl⟩
  have hread : s.integerAt path = (a.cell 0).integer?.map Int64.toInt := by rw [integerAt, ha]
  rw [ha, hread, IntegerTree.Outcome.describes_ok]
  refine ⟨?_, hover, .inr htype⟩
  rcases Reduce.conforms_integer_iff.mp (htype ▸ (typed_lookupFrom hs ha).cell 0) with
    hv | ⟨i, hv⟩
  · rw [hv]
    exact .null
  · rw [hv]
    exact .integer i

end Scope

/-- In a typed scope of one row, an expression of integers gives the outcome it has on unbounded
integers: NULL, an integer of 64 bits, or an error of evaluation. -/
theorem integer_expressions_exact {now : Moment} {s : Scope} (hs : s.Typed)
    (hrow : s.frame.numRows = 1) (huniform : s.frame.Uniform) {t : IntegerTree}
    (ht : ∀ path ∈ t.paths, s.NamesInteger path) :
    (t.exact s.integerAt).Describes s.frame.groups (t.toExpr.eval now s) := by
  induction t with
  | column path => exact Scope.describes_lookup hs hrow huniform (ht path List.mem_cons_self)
  | literal i =>
    exact IntegerTree.Outcome.describes_ok.mpr ⟨.integer i, .constant _ _, .inr rfl⟩
  | null => exact IntegerTree.Outcome.describes_ok.mpr ⟨.null, .constant _ _, .inl rfl⟩
  | negate e ih => exact IntegerTree.describes_negate (ih ht)
  | abs e ih => exact IntegerTree.describes_abs (ih ht)
  | add l r ihl ihr =>
    obtain ⟨hl, hr⟩ := List.forall_mem_append.mp ht
    exact IntegerTree.describes_arithmetic (.inl rfl) (fun _ _ => rfl) (ihl hl) (ihr hr)
  | sub l r ihl ihr =>
    obtain ⟨hl, hr⟩ := List.forall_mem_append.mp ht
    exact IntegerTree.describes_arithmetic (.inr (.inl rfl)) (fun _ _ => rfl) (ihl hl) (ihr hr)
  | mul l r ihl ihr =>
    obtain ⟨hl, hr⟩ := List.forall_mem_append.mp ht
    exact IntegerTree.describes_arithmetic (.inr (.inr rfl)) (fun _ _ => rfl) (ihl hl) (ihr hr)
  | mod l r ihl ihr =>
    obtain ⟨hl, hr⟩ := List.forall_mem_append.mp ht
    exact IntegerTree.describes_mod (ihl hl) (ihr hr)

/-- A row with the least integer, inside a row with minus one. -/
def leastInteger : Scope where
  frame := ⟨[⟨none, "x", ⟨[.integer Int64.minValue], some .integer⟩⟩], 1, [], none, false⟩
  outer := [⟨[⟨none, "y", ⟨[.integer (-1)], some .integer⟩⟩], 1, [], none, false⟩]

/-- The remainder is zero, and the product, which is no integer of 64 bits, an error. -/
theorem integer_expressions_exact_least :
    let x := IntegerTree.column ["x"]
    let y := IntegerTree.column ["y"]
    let now := Moment.ofDate ⟨2024, 1, 1, by decide⟩
    (leastInteger.Typed ∧ leastInteger.frame.numRows = 1 ∧ leastInteger.frame.Uniform ∧
      leastInteger.NamesInteger ["x"] ∧ leastInteger.NamesInteger ["y"]) ∧
    (((x.mod y).toExpr.eval now leastInteger).map (Evaluated.cell 0) = .ok (.integer 0)) ∧
    ∃ e, (x.mul y).toExpr.eval now leastInteger = .error e ∧ e.kind = .evaluation := by
  intro x y now
  have htyped : leastInteger.Typed := by
    simp [Scope.Typed, Scope.frames, Frame.Typed, Column.Typed, leastInteger, Value.conforms,
      Value.scalarType?]
  have huniform : leastInteger.frame.Uniform := by simp [Frame.Uniform, leastInteger, Column.length]
  have hx : leastInteger.NamesInteger ["x"] := .own rfl rfl
  have hy : leastInteger.NamesInteger ["y"] := .enclosing rfl
  have hcolumns : ∀ path ∈ [["x"], ["y"]], leastInteger.NamesInteger path := by simp [hx, hy]
  refine ⟨⟨htyped, rfl, huniform, hx, hy⟩, ?_, ?_⟩
  · have h := (@integer_expressions_exact now _ htyped rfl huniform (x.mod y) hcolumns).1
    have hexact : (x.mod y).exact leastInteger.integerAt = .integer (0 : Int64).toInt := by decide
    exact IntegerTree.Outcome.gives_integer_iff.mp (hexact ▸ h)
  · have h := @integer_expressions_exact now _ htyped rfl huniform (x.mul y) hcolumns
    have hexact : (x.mul y).exact leastInteger.integerAt = .fails := by decide
    exact IntegerTree.Outcome.describes_fails_iff.mp (hexact ▸ h)

end ColumnarSql
