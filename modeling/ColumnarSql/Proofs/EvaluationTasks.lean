import ColumnarSql.Proofs.QueryTypes
import ColumnarSql.Proofs.SoundFrames
import ColumnarSql.Proofs.StableSort
import Mathlib.Logic.Relation

/-!
# The tasks of an evaluation

A query is evaluated in tasks: a query, a SELECT inside of frames, or an expression in a scope. A
task asks for others (`Asks`): a SELECT for the queries in FROM and for the expressions of its
clauses, an expression for its parts, and EXISTS for its SELECT inside of each row
(`exists_of_asked`). On the way it makes scopes (`Task.Makes`) and reads columns at some of their
rows (`Task.Reads`).

A task is here also asked for where an earlier one has failed, as long as it can be told without
the result of that one. So the tasks of one query are at least those of its evaluation.
-/

set_option autoImplicit false

namespace ColumnarSql

inductive Task where
  | expr (e : Expr Plan) (s : Scope)
  | select (q : SelectOf Select Source) (outer : List Frame)
  | query (q : Query)

variable (env : Session)

/-! ## FROM -/

namespace SourceOf

/-- The queries of a FROM clause. -/
def items (src : Source) : List (FromItem Query) := src.first :: src.joins.map (·.item)

/-- The frame of the first item and so many joins. -/
def joined (src : Source) (k : Nat) : Except Error Frame :=
  Join.sourceFrame env.now
    ⟨⟨src.first.query.run env, src.first.label⟩, (src.joins.take k).map (JoinOf.planned env)⟩

/-- The two sides of a join. -/
structure Sides (src : Source) (j : JoinOf Select Query) (f g : Frame) : Prop where
  left : ∃ k, src.joins[k]? = some j ∧ src.joined env k = .ok f
  right : Join.itemFrame (j.planned env).item = .ok g

/-- The pairs of rows of a product, and those that a condition or USING gives a join. -/
inductive Pairs (j : JoinOf Select Query) (f g : Frame) : List Join.RowPair → Prop where
  | product : Pairs j f g ((Join.product f.numRows g.numRows).map fun p => (p.1, some p.2))
  | on {e : Expr Plan} {found : List (List Nat)} (hj : (j.planned env).condition = .on e)
      (h : Join.onMatches env.now e f g = .ok found) : Pairs j f g (Join.pairsOf j.kind found)
  | using {names : List String} {found : List (List Nat)}
      (hj : (j.planned env).condition = .using names)
      (h : Join.usingMatches f g names = .ok found) : Pairs j f g (Join.pairsOf j.kind found)

/-- The frames that a FROM clause makes: those of items, and joined rows with and without the
columns that USING drops. -/
inductive Makes (src : Source) : Frame → Prop where
  | item {x : FromItem Query} {f : Frame} (hx : x ∈ src.items)
      (h : Join.itemFrame ⟨x.query.run env, x.label⟩ = .ok f) : Makes src f
  | paired {j : JoinOf Select Query} {f g : Frame} {pairs : List Join.RowPair}
      (h : src.Sides env j f g) (hpairs : Pairs env j f g pairs) :
      Makes src (Join.combine f g pairs)
  | joined {k : Nat} {f : Frame} (h : src.joined env k = .ok f) : Makes src f

/-- A join takes the rows of its pairs from both sides. USING finds them by the keys of all rows. -/
inductive Reads (src : Source) : Reading → Prop where
  | left {j : JoinOf Select Query} {f g : Frame} {pairs : List Join.RowPair} {c : Column}
      (h : src.Sides env j f g) (hpairs : Pairs env j f g pairs) (hc : c ∈ f.data) :
      Reads src ⟨fun d => d.take (pairs.map (·.1)), c, pairs.map (·.1)⟩
  | right {j : JoinOf Select Query} {f g : Frame} {pairs : List Join.RowPair} {c : Column}
      (h : src.Sides env j f g) (hpairs : Pairs env j f g pairs) (hc : c ∈ g.data) :
      Reads src ⟨fun d => d.takePadded (pairs.map (·.2)), c, (pairs.map (·.2)).filterMap id⟩
  | leftKey {j : JoinOf Select Query} {f g : Frame} {names : List String}
      {before after : List (Column × Column)} {l r : Column} (h : src.Sides env j f g)
      (hcolumns : Join.usingColumns f g names = .ok (before ++ (l, r) :: after)) :
      Reads src ⟨fun d => Join.foundRows (before ++ (d, r) :: after) f.numRows g.numRows, l,
        List.range f.numRows⟩
  | rightKey {j : JoinOf Select Query} {f g : Frame} {names : List String}
      {before after : List (Column × Column)} {l r : Column} (h : src.Sides env j f g)
      (hcolumns : Join.usingColumns f g names = .ok (before ++ (l, r) :: after)) :
      Reads src ⟨fun d => Join.foundRows (before ++ (l, d) :: after) f.numRows g.numRows, r,
        List.range g.numRows⟩

end SourceOf

/-! ## SELECT -/

namespace SelectOf

variable (q : SelectOf Select Source) (outer : List Frame)

/-- The frame of FROM; without FROM it has one row. -/
def From (f : Frame) : Prop := (q.planned env).source.getD (.ok (.ofRows 1)) = .ok f

/-- The scope after WHERE and the fields without stars. -/
structure Expands (scope : Scope) (selectors : List (Selector Plan)) : Prop where
  input : (q.planned env).inputScope env.now outer = .ok scope
  fields : expand scope.frame (q.planned env).fields = .ok selectors

/-- The scope after GROUP BY and the marked fields. -/
structure Groups (selectors : List (Selector Plan)) (grouped : Scope)
    (marked : List (Expr Plan)) : Prop where
  input : ∃ scope, q.Expands env outer scope selectors ∧
    (q.planned env).groupedFields env.now scope selectors = .ok (grouped, marked)

/-- The table of the fields, and the scope that it is from. -/
structure Gives (grouped : Scope) (result : Table) : Prop where
  fields : ∃ selectors marked, q.Groups env outer selectors grouped marked ∧
    fieldsTable env.now grouped selectors marked = .ok result

/-- The scopes that a SELECT makes, those inside GROUP BY included. -/
inductive Makes : Scope → Prop where
  | source {f : Frame} (h : q.From env f) : Makes ⟨f, outer⟩
  | input {scope : Scope} (h : (q.planned env).inputScope env.now outer = .ok scope) : Makes scope
  | keyed {scope : Scope} {selectors : List (Selector Plan)} {g : Frame}
      (h : q.Expands env outer scope selectors)
      (hg : Grouping.Keyed env.now scope.outer selectors scope.frame g) : Makes ⟨g, scope.outer⟩
  | split {scope : Scope} {selectors : List (Selector Plan)} {g : Frame} {paths : List String}
      {columns : List Column} (h : q.Expands env outer scope selectors)
      (hg : Grouping.Keyed env.now scope.outer selectors scope.frame g)
      (hcolumns : (paths.mapM fun p => g.column (Text.splitFirst p)) = .ok columns) :
      Makes ⟨Grouping.grouped g paths columns, scope.outer⟩
  | grouped {selectors : List (Selector Plan)} {grouped : Scope} {marked : List (Expr Plan)}
      (h : q.Groups env outer selectors grouped marked) : Makes grouped
  | having {grouped : Scope} {result : Table} (h : q.Gives env outer grouped result) :
      Makes (havingScope result grouped)

/-- The expressions that a SELECT evaluates, each in its scope. -/
inductive Evaluates : Expr Plan → Scope → Prop where
  | condition {f : Frame} {e : Expr Plan} (h : q.From env f)
      (he : (q.planned env).condition = some e) : Evaluates e ⟨f, outer⟩
  | key {scope : Scope} {selectors : List (Selector Plan)} {g : Frame} {x : Selector Plan}
      (h : q.Expands env outer scope selectors)
      (hg : Grouping.Keyed env.now scope.outer selectors scope.frame g) (hx : x ∈ selectors) :
      Evaluates x.expr ⟨g, scope.outer⟩
  | field {selectors : List (Selector Plan)} {grouped : Scope} {marked : List (Expr Plan)}
      {e : Expr Plan} (h : q.Groups env outer selectors grouped marked) (he : e ∈ marked) :
      Evaluates e grouped
  | having {grouped : Scope} {result : Table} {e m : Expr Plan}
      (h : q.Gives env outer grouped result) (he : (q.planned env).having = some e)
      (hm : e.mark (Grouping.isKey (havingScope result grouped) grouped.frame.groupPaths) =
        .ok m) : Evaluates m (havingScope result grouped)

/-- WHERE and HAVING take the rows whose flags are set (`Column.filter_eq_take`). GROUP BY compares
the keys of all rows. -/
inductive Reads : Reading → Prop where
  | source {src : Source} {r : Reading} (hsource : q.source = some src) (h : src.Reads env r) :
      Reads r
  | condition {f : Frame} {e : Expr Plan} {a : Evaluated} {mask : List Bool} {c : Column}
      (h : q.From env f) (he : (q.planned env).condition = some e)
      (ha : e.eval env.now ⟨f, outer⟩ = .ok a) (hmask : a.truthMask "WHERE" f.numRows = .ok mask)
      (hc : c ∈ f.data) : Reads ⟨fun d => d.take (rowsOf mask), c, rowsOf mask⟩
  | keys {scope : Scope} {selectors : List (Selector Plan)} {g : Frame} {paths : List String}
      {before after : List Column} {c : Column} (h : q.Expands env outer scope selectors)
      (hg : Grouping.Keyed env.now scope.outer selectors scope.frame g)
      (hcolumns : (paths.mapM fun p => g.column (Text.splitFirst p)) =
        .ok (before ++ c :: after)) :
      Reads ⟨fun d => Grouping.groupsOf (before ++ d :: after) g.numRows, c, List.range g.numRows⟩
  | having {grouped : Scope} {result : Table} {a : Evaluated} {mask : List Bool} {c : Column}
      (h : q.Gives env outer grouped result)
      (hmask : a.truthMask "HAVING" result.numRows = .ok mask) (hc : c ∈ result.columns) :
      Reads ⟨fun d => d.take (rowsOf mask), c, rowsOf mask⟩

end SelectOf

/-! ## Expressions and queries -/

/-- The columns that a node of an expression reads. -/
inductive Expr.Reads (now : Moment) : Expr Plan → Scope → Reading → Prop where
  -- Operations map over the rows of their operands.
  | operand {e : Expr Plan} {s : Scope} {before after : List Evaluated}
      {groups : Option (Nat × Partition)} {c : Column} {t : Shape} (he : e.isOperation)
      (hargs : evalAll now e.children s = .ok (before ++ .inGroups groups c :: after))
      (ht : Shape.ofOperands e (before ++ .inGroups groups c :: after) = .ok t)
      (f : List Value → Except Error Value) :
      Reads now e s
        ⟨fun d => Evaluated.rowValues (before ++ .inGroups groups d :: after) f t.numRows, c,
          List.range t.numRows⟩
  -- A key is read at the first row of each group.
  | firsts {e : Expr Plan} {s : Scope} {level : Nat} {c : Column} {groups : Partition}
      (he : e.eval now s = .ok (.grouped level c groups)) :
      Reads now (.groupedBy e) s ⟨fun d => (Evaluated.grouped level d groups).firstOfGroups, c,
        groups.filterMap List.head?⟩
  -- A reducing call reads its argument at all rows of the groups.
  | members {f : SqlFunction} {e : Expr Plan} {es : List (Expr Plan)} {s : Scope} {level : Nat}
      {c : Column} {groups : Partition} (hf : f.isAggregating)
      (he : e.eval now s.reducing = .ok (.grouped level c groups)) :
      Reads now (.call f (e :: es)) s
        ⟨fun d => Evaluated.reduce f s.reducing.frame (.grouped level d groups), c, groups.flatten⟩
  -- A window call sorts the rows, splits them in this order, and reads the arguments by part.
  | sortKey {f : SqlFunction} {args ps : List (Expr Plan)} {os : List (Expr Plan × SortOrder)}
      {s : Scope} {before after : List (Column × SortOrder)} {c : Column} {o : SortOrder}
      (horder : evalKeys now (.analytic f args ps os) os s = .ok (before ++ (c, o) :: after)) :
      Reads now (.analytic f args ps os) s
        ⟨fun d => Sorting.rowOrder (before ++ (d, o) :: after) s.frame.numRows, c,
          List.range s.frame.numRows⟩
  | partitionKey {f : SqlFunction} {args ps : List (Expr Plan)}
      {os : List (Expr Plan × SortOrder)} {s : Scope} {before after : List Column} {c : Column}
      {orderBy : List (Column × SortOrder)}
      (hpartition : evalColumns now (.analytic f args ps os) ps s = .ok (before ++ c :: after))
      (horder : evalKeys now (.analytic f args ps os) os s = .ok orderBy) :
      Reads now (.analytic f args ps os) s
        ⟨fun d => Window.partitions (before ++ d :: after)
          (Sorting.rowOrder orderBy s.frame.numRows), c, Sorting.rowOrder orderBy s.frame.numRows⟩
  | argument {f : SqlFunction} {args ps : List (Expr Plan)} {os : List (Expr Plan × SortOrder)}
      {s : Scope} {before after partitionBy : List Column} {c : Column}
      {orderBy : List (Column × SortOrder)}
      (hcolumns : evalColumns now (.analytic f args ps os) args s = .ok (before ++ c :: after))
      (hpartition : evalColumns now (.analytic f args ps os) ps s = .ok partitionBy)
      (horder : evalKeys now (.analytic f args ps os) os s = .ok orderBy) :
      Reads now (.analytic f args ps os) s
        ⟨fun d => Window.apply f now (before ++ d :: after) partitionBy orderBy s.frame.numRows, c,
          (Window.partitions partitionBy (Sorting.rowOrder orderBy s.frame.numRows)).flatten⟩
  -- The only row of a frame further out is a constant.
  | inward {path : List String} {s : Scope} {c : Column} (hc : c.length = 1) :
      Reads now (.field path) s ⟨fun d => d.cell 0, c, [0]⟩
  -- EXISTS takes the rows of its scope one by one.
  | row {plan : Plan} {s : Scope} {i : Nat} {c : Column} (hi : i < s.frame.numRows)
      (hc : c ∈ s.frame.data) : Reads now (.exists plan) s ⟨fun d => d.take [i], c, [i]⟩

/-- ORDER BY compares all rows by some columns and takes all columns in the new order. LIMIT takes
some of the rows after that, and a number from a column of one row. -/
inductive Query.Reads : Query → Reading → Prop where
  | sortKey {q : OrderedOf Select Query} {t : NamedTable} {keys : List (Nat × SortOrder)}
      {before after : List (Column × SortOrder)} {c : Column} {o : SortOrder}
      (h : q.base.run env = .ok t) (hkeys : t.1.keyColumns keys = before ++ (c, o) :: after) :
      Reads (.ordered q) ⟨fun d => Sorting.rowOrder (before ++ (d, o) :: after) t.1.numRows, c,
        List.range t.1.numRows⟩
  | sorted {q : OrderedOf Select Query} {t : NamedTable} {keys : List (Nat × SortOrder)}
      {c : Column} (h : q.base.run env = .ok t) (hc : c ∈ t.1.columns) :
      Reads (.ordered q) ⟨fun d => d.take (t.1.sortedRows keys), c, t.1.sortedRows keys⟩
  | slice {q : OrderedOf Select Query} {named : NamedTable} {t : Table} {c : Column}
      (h : q.base.run env = .ok named)
      (ht : OrderedOf.sorted (planKeys env q.orderBy) named = .ok t) (start count : Nat)
      (hc : c ∈ t.columns) {rows : List Nat}
      (hrows : rows = List.range' (min start t.numRows)
        (min (start + count) t.numRows - min start t.numRows)) :
      Reads (.ordered q) ⟨fun d => d.take rows, c, rows⟩
  | count {q : OrderedOf Select Query} {e : Expr Select} {c : Column}
      (he : e ∈ q.limit.toList ++ q.offset.toList)
      (h : (planExpr env e).eval env.now ⟨.ofRows 1, []⟩ = .ok (.column c))
      (hc : c.length = 1) : Reads (.ordered q) ⟨fun d => d.cell 0, c, [0]⟩

/-! ## Tasks -/

/-- Where a task asks for another one. -/
inductive Asks : Task → Task → Prop where
  | part {e c : Expr Plan} {s : Scope} (he : e.isReducingCall = false) (hc : c ∈ e.children) :
      Asks (.expr e s) (.expr c s)
  | argument {f : SqlFunction} {args : List (Expr Plan)} {c : Expr Plan} {s : Scope}
      (hf : f.isAggregating) (hc : c ∈ args) : Asks (.expr (.call f args) s) (.expr c s.reducing)
  | subquery {q : SelectOf Select Source} {s : Scope} {i : Nat} (hi : i < s.frame.numRows) :
      Asks (.expr (.exists ((Select.mk q).plan env)) s) (.select q (s.frame.row i :: s.outer))
  | item {q : SelectOf Select Source} {outer : List Frame} {src : Source} {x : FromItem Query}
      (hsource : q.source = some src) (hx : x ∈ src.items) : Asks (.select q outer) (.query x.query)
  | on {q : SelectOf Select Source} {outer : List Frame} {src : Source}
      {j : JoinOf Select Query} {f g : Frame} {e : Expr Plan} (hsource : q.source = some src)
      (h : src.Sides env j f g) (he : (j.planned env).condition = .on e) :
      Asks (.select q outer) (.expr e ⟨Join.cross f g, []⟩)
  | clause {q : SelectOf Select Source} {outer : List Frame} {e : Expr Plan} {s : Scope}
      (h : q.Evaluates env outer e s) : Asks (.select q outer) (.expr e s)
  | select {q : SelectOf Select Source} : Asks (.query (.select (.mk q))) (.select q [])
  | left {op : SetOperator} {l r : Query} : Asks (.query (.combined op l r)) (.query l)
  | right {op : SetOperator} {l r : Query} : Asks (.query (.combined op l r)) (.query r)
  | base {q : OrderedOf Select Query} : Asks (.query (.ordered q)) (.query q.base)
  | count {q : OrderedOf Select Query} {e : Expr Select}
      (he : e ∈ q.limit.toList ++ q.offset.toList) :
      Asks (.query (.ordered q)) (.expr (planExpr env e) ⟨.ofRows 1, []⟩)

namespace Task

/-- The scopes that a task makes or is given. -/
inductive Makes : Task → Scope → Prop where
  | given {e : Expr Plan} {s : Scope} : Makes (.expr e s) s
  | reducing {e : Expr Plan} {s : Scope} : Makes (.expr e s) s.reducing
  | row {e : Expr Plan} {s : Scope} {i : Nat} : Makes (.expr e s) ⟨s.frame.row i, s.outer⟩
  | source {q : SelectOf Select Source} {outer : List Frame} {src : Source} {f : Frame}
      (hsource : q.source = some src) (h : src.Makes env f) : Makes (.select q outer) ⟨f, []⟩
  | clause {q : SelectOf Select Source} {outer : List Frame} {s : Scope}
      (h : q.Makes env outer s) : Makes (.select q outer) s
  | base {q : OrderedOf Select Query} {t : NamedTable} (h : q.base.run env = .ok t) :
      Makes (.query (.ordered q)) ⟨.ofTable t.1 t.2, []⟩
  | count {q : OrderedOf Select Query} : Makes (.query (.ordered q)) ⟨.ofRows 1, []⟩

/-- The columns that a task reads: all places where cells are taken by the numbers of their rows,
the masks of conditions included. -/
def Reads : Task → Reading → Prop
  | .expr e s => e.Reads env.now s
  | .select q outer => q.Reads env outer
  | .query q => q.Reads env

end Task

/-! ## Subqueries -/

/-- EXISTS has the plan of a SELECT. -/
def Expr.PlansSelect (e : Expr Plan) : Prop :=
  ∀ plan, e = .exists plan → ∃ q, plan = (Select.mk q).plan env

abbrev Expr.PlansSelects (e : Expr Plan) : Prop := e.Every (PlansSelect env)

variable {env}

theorem plansSelects_planExpr (e : Expr Select) : (planExpr env e).PlansSelects env := by
  have hall : e.Every fun _ => True := by
    induction e using Expr.parts_induction with
    | step e ih => exact .intro trivial ih
  refine every_planExpr env (fun d _ plan hplan => ?_) hall
  cases d with
  | «exists» select =>
    obtain ⟨q⟩ := select
    exact ⟨q, (Expr.exists.inj hplan).symm⟩
  | _ => cases hplan

theorem Expr.PlansSelects.mark {isKey : List String → Except Error Bool} {e e' : Expr Plan}
    (he : e.PlansSelects env) (h : e.mark isKey = .ok e') : e'.PlansSelects env := by
  refine every_mark (fun d _ hd plan hplan => ?_) he h
  subst hplan
  cases hd

namespace SelectOf

variable {q : SelectOf Select Source} {outer : List Frame}

theorem Expands.plansSelects {scope : Scope} {selectors : List (Selector Plan)}
    (h : q.Expands env outer scope selectors) : ∀ x ∈ selectors, x.expr.PlansSelects env := by
  refine forall_expand (fun path => .leaf nofun rfl) ?_ h.fields
  rw [planned, flatMap_exprs_planFields, List.forall_mem_map]
  exact fun e _ => plansSelects_planExpr e

theorem Evaluates.plansSelects {e : Expr Plan} {s : Scope} (h : q.Evaluates env outer e s) :
    e.PlansSelects env := by
  have hoption {e? : Option (Expr Select)} {e : Expr Plan} (he : planExpr? env e? = some e) :
      e.PlansSelects env := by
    rw [planExpr?_eq_map] at he
    obtain ⟨d, -, rfl⟩ := Option.map_eq_some_iff.mp he
    exact plansSelects_planExpr d
  cases h with
  | condition _ he => exact hoption he
  | key h _ hx => exact h.plansSelects _ hx
  | field h he =>
    obtain ⟨scope, hexpands, hgroups⟩ := h.input
    refine forall_marked (fun _ _ _ => Expr.PlansSelects.mark) (fun x hx => ?_) hgroups _ he
    exact .intro nofun (List.forall_mem_singleton.mpr (hexpands.plansSelects x hx))
  | having _ he hm => exact (hoption he).mark hm

end SelectOf

/-- The subqueries of an expression are SELECTs. -/
def Task.PlansSelects (env : Session) : Task → Prop
  | .expr e _ => e.PlansSelects env
  | .select _ _ | .query _ => True

theorem Asks.plansSelects {t u : Task} (h : Asks env t u) (ht : t.PlansSelects env) :
    u.PlansSelects env := by
  cases h with
  | part _ hc => exact Expr.Every.part ht hc
  | argument _ hc => exact Expr.Every.part ht hc
  | @on _ _ _ j _ _ e _ _ he =>
    obtain ⟨kind, item, condition⟩ := j
    cases condition with
    | on d =>
      obtain rfl := JoinCondition.on.inj he
      exact plansSelects_planExpr d
    | none | «using» names => cases he
  | clause h => exact h.plansSelects
  | count _ => exact plansSelects_planExpr _
  | subquery | item | select | left | right | base => trivial

/-- Every EXISTS among the tasks of a query asks for a SELECT inside of each row. -/
theorem exists_of_asked {q : Query} {plan : Plan} {s : Scope}
    (h : Relation.ReflTransGen (Asks env) (.query q) (.expr (.exists plan) s)) :
    ∃ q', plan = (Select.mk q').plan env ∧
      ∀ i < s.frame.numRows, Asks env (.expr (.exists plan) s)
        (.select q' (s.frame.row i :: s.outer)) := by
  have hplans : ∀ {t : Task}, Relation.ReflTransGen (Asks env) (.query q) t →
      t.PlansSelects env := by
    intro t ht
    induction ht with
    | refl => trivial
    | tail _ hstep ih => exact hstep.plansSelects ih
  obtain ⟨q', rfl⟩ := (hplans h).self plan rfl
  exact ⟨q', rfl, fun i hi => .subquery hi⟩

end ColumnarSql
