import ColumnarSql.Proofs.OrderedPartition
import ColumnarSql.Proofs.StableSort

/-!
# What a resolved path leads back to

A path is resolved to the column it names, and the column is kept as one text: the name of its
table, a dot and its own name. ORDER BY reads the part of this text after the last dot as a name
again, GROUP BY splits the text at the first dot. So ORDER BY comes back to the column if the
name of the column has no dot (`Query.run_ordered_by_field`), and GROUP BY if the name of the
table has none or, without a table, the name of the column
(`Grouping.groupBy_resolved_field`). With a dot there the text stands for no column or for
another one (`Query.order_of_dotted_name`, `Grouping.keys_of_dotted_names`).
-/

set_option autoImplicit false

namespace ColumnarSql

/-! ## The last part of a path -/

namespace Text

/-- A dot ends the pieces before it. -/
theorem splitDots_append_dot (after : List Char) :
    ∀ before : List Char,
      splitDots (before ++ '.' :: after) = splitDots before ++ splitDots after
  | [] => rfl
  | c :: before => by
    rw [List.cons_append, splitDots, splitDots, splitDots_append_dot after before]
    split
    · rfl
    · obtain ⟨piece, pieces, hbefore⟩ := List.exists_cons_of_ne_nil (splitDots_ne_nil before)
      simp only [hbefore, List.cons_append]

theorem splitDots_of_no_dot : ∀ {cs : List Char}, '.' ∉ cs → splitDots cs = [cs]
  | [], _ => rfl
  | c :: cs, h => by
    obtain ⟨hc, hcs⟩ := List.ne_and_not_mem_of_not_mem_cons h
    rw [splitDots, if_neg hc.symm, splitDots_of_no_dot hcs]

theorem afterLastDot_of_no_dot {s : String} (h : '.' ∉ s.toList) : afterLastDot s = s := by
  simp [afterLastDot, pathOf, splitDots_of_no_dot h]

theorem afterLastDot_dotted (t : String) {s : String} (h : '.' ∉ s.toList) :
    afterLastDot (t ++ "." ++ s) = s := by
  have hlist : (t ++ "." ++ s).toList = t.toList ++ '.' :: s.toList := by simp
  simp [afterLastDot, pathOf, hlist, splitDots_append_dot, splitDots_of_no_dot h]

end Text

theorem ScopeColumn.afterLastDot_path {c : ScopeColumn} (h : '.' ∉ c.name.toList) :
    Text.afterLastDot c.path = c.name := by
  unfold path
  cases c.table with
  | none => exact Text.afterLastDot_of_no_dot h
  | some t => exact Text.afterLastDot_dotted t h

/-- Without enclosing frames a path is resolved to that of the column it finds. -/
theorem Scope.resolve_eq_ok_iff {f : Frame} {path : List String} {p : String} :
    Scope.resolve ⟨f, []⟩ path = .ok p ↔ ∃ c, f.find path = .ok (some c) ∧ c.path = p := by
  unfold resolve tryResolve frames
  simp only [tryResolveIn]
  rcases f.find path with _ | _ | c <;> simp

/-! ## ORDER BY a field -/

namespace Table

/-- A name stands for the first column that has it. -/
theorem columnNamed?_eq_find? (numRows : Nat) (n : String) :
    ∀ (names : List String) (columns : List Column),
      columnNamed? ⟨names, columns, numRows⟩ n =
        ((names.zip columns).find? (·.1 = n)).map (·.2)
  | [], _ => rfl
  | m :: names, [] => by
    cases h : (m :: names).idxOf? n <;> simp [columnNamed?, columnAt?, h]
  | m :: names, c :: columns => by
    have ih := columnNamed?_eq_find? numRows n names columns
    by_cases hm : m = n
    · simp [columnNamed?, columnAt?, List.idxOf?_cons, hm]
    · rw [List.zip_cons_cons, List.find?_cons_of_neg (by simpa using hm), ← ih]
      cases h : names.idxOf? n <;> simp [columnNamed?, columnAt?, List.idxOf?_cons, hm, h]

/-- A column that a path finds in a table is the one of its name. -/
theorem columnNamed?_of_find {t : Table} {name : Option String} {path : List String}
    {c : ScopeColumn} (h : (Frame.ofTable t name).find path = .ok (some c)) :
    c.table = name ∧ t.columnNamed? c.name = some c.column := by
  obtain ⟨⟨n, d⟩, -, rfl⟩ := List.mem_map.mp (Frame.mem_of_find h).1
  -- among the columns of one table the whole path of a column means its name
  have hname : ∀ p : String × Column,
      ScopeColumn.answers ⟨name, p.1, p.2⟩ (ScopeColumn.parts ⟨name, n, d⟩) = decide (p.1 = n) :=
    fun p => Bool.eq_iff_iff.mpr (by simp [ScopeColumn.answers_parts_iff])
  have hfirst := congrArg List.head? (Frame.find_eq_some_iff.mp (Frame.find_parts h))
  simp only [List.head?_filter, Frame.ofTable, Frame.tableColumns, List.find?_map,
    Function.comp_def, hname] at hfirst
  obtain ⟨p, hp, hpd⟩ := Option.map_eq_some_iff.mp hfirst
  refine ⟨rfl, ?_⟩
  rw [columnNamed?_eq_find?, hp, Option.map_some, (ScopeColumn.mk.inj hpd).2.2]

end Table

namespace OrderedOf

variable {σ : Type} {t : Table} {name : Option String} {path : List String} {c : ScopeColumn}

/-- A field is a sort key for the column that it finds, if the name of this has no dot. -/
theorem keyIndex_field (h : (Frame.ofTable t name).find path = .ok (some c))
    (hdot : '.' ∉ c.name.toList) :
    ∃ i, keyIndex t (Frame.ofTable t name) (.field path : Expr σ) = .ok i ∧
      t.columnAt? i = some c.column := by
  obtain ⟨i, hi, hcolumn⟩ := Option.bind_eq_some_iff.mp (Table.columnNamed?_of_find h).2
  refine ⟨i, ?_, hcolumn⟩
  simp only [keyIndex, Scope.resolve_eq_ok_iff.mpr ⟨c, h, rfl⟩, bind_eq_ok]
  exact ⟨_, rfl, by simp [ScopeColumn.afterLastDot_path hdot, hi]⟩

/-- ORDER BY one field takes the rows in the order of the column that it finds. -/
theorem sorted_field (h : (Frame.ofTable t name).find path = .ok (some c))
    (hdot : '.' ∉ c.name.toList) (o : SortOrder) :
    sorted [((.field path : Expr σ), o)] (t, name) =
      .ok (t.take (Sorting.rowOrder [(c.column, o)] t.numRows)) := by
  obtain ⟨i, hi, hcolumn⟩ := keyIndex_field (σ := σ) h hdot
  have hsort : t.sort [(i, o)] = t.take (Sorting.rowOrder [(c.column, o)] t.numRows) := by
    rw [Table.sort_eq, Table.sortedRows, Table.keyColumns_cons_of_some hcolumn]
    rfl
  simp [sorted, hi, hsort]

end OrderedOf

namespace Sorting

/-- With one key this comparison alone decides. -/
theorem compareRows_singleton (c : Column) (o : SortOrder) :
    compareRows [(c, o)] = fun i j => o.apply ((c.cell i).compare (c.cell j)) := by
  funext i j
  simp [compareRows]

end Sorting

namespace Query

/-- ORDER BY a field that is resolved sorts by the column found, if its name has no dot: the
query succeeds, and its rows are those of the base query in the order of the values of this
column, equal ones in the order that they had. -/
theorem run_ordered_by_field {env : Session} {base : Query} {t : Table} {name : Option String}
    (hbase : base.run env = .ok (t, name)) {path : List String} {p : String}
    (hpath : Scope.resolve ⟨Frame.ofTable t name, []⟩ path = .ok p) (o : SortOrder) :
    ∃ n c, (Frame.ofTable t name).find path = .ok (some ⟨name, n, c⟩) ∧
      ('.' ∉ n.toList → ∃ rows,
        (Query.ordered ⟨[], base, [(.field path, o)], none, none⟩).run env =
          .ok (t.take rows, none) ∧
        rows.Perm (List.range t.numRows) ∧
        (c.Typed → rows.Pairwise
          (Sorting.Before fun i j => o.apply ((c.cell i).compare (c.cell j))))) := by
  obtain ⟨⟨table, n, c⟩, hfind, -⟩ := Scope.resolve_eq_ok_iff.mp hpath
  obtain rfl : table = name := (Table.columnNamed?_of_find hfind).1
  refine ⟨n, c, hfind, fun hdot => ⟨_, ?_, Sorting.perm_rowOrder [(c, o)] _, fun htyped => ?_⟩⟩
  · simp [Query.run, runBindings, planKeys, planExpr, planExpr?, OrderedOf.run,
      OrderedOf.limited, hbase, OrderedOf.sorted_field hfind hdot]
  · rw [← Sorting.compareRows_singleton]
    exact Sorting.pairwise_rowOrder (List.forall_mem_singleton.mpr htyped)

/-- A column of integers with a NULL between equal ones. -/
def sevens : Column := ⟨[.integer 7, .null, .integer 7], some .integer⟩

/-- A column `x.y` beside the column `n`. -/
def countsTable : Table where
  names := ["x.y", "n"]
  columns := [⟨[.integer 3, .integer 2, .integer 1], some .integer⟩, sevens]
  numRows := 3

/-- A column `x.y` beside a column `y`, in the opposite order. -/
def crossedTable : Table where
  names := ["x.y", "y"]
  columns := [⟨[.integer 2, .integer 1], some .integer⟩,
    ⟨[.integer 1, .integer 2], some .integer⟩]
  numRows := 2

/-- The tables under the names `u.v` and `t`. -/
def dottedNames : Session where
  catalog := ⟨[(⟨"p", "d", "t"⟩, crossedTable), (⟨"p", "d", "u.v"⟩, countsTable)]⟩
  now := newYear

/-- A table of the dataset `d`. -/
def tableOfD (t : String) (ht : t ≠ "") : Query := .table ⟨["d", t], by simp, by simp [ht]⟩

/-- `SELECT * FROM t ORDER BY …` -/
def ascendingBy (t : String) (ht : t ≠ "") (path : List String) : Query :=
  .ordered ⟨[], tableOfD t ht, [(.field path, .ascending)], none, none⟩

theorem run_ordered_by_field_n :
    ((tableOfD "u.v" (by decide)).run dottedNames = .ok (countsTable, some "u.v") ∧
      Scope.resolve ⟨Frame.ofTable countsTable (some "u.v"), []⟩ ["u.v", "n"] = .ok "u.v.n" ∧
      '.' ∉ "n".toList ∧ sevens.Typed) ∧
    ∃ rows, (ascendingBy "u.v" (by decide) ["u.v", "n"]).run dottedNames =
        .ok (countsTable.take rows, none) ∧
      rows.Perm (List.range 3) ∧
      rows.Pairwise (Sorting.Before fun i j => (sevens.cell i).compare (sevens.cell j)) := by
  have hbase : (tableOfD "u.v" (by decide)).run dottedNames = .ok (countsTable, some "u.v") := rfl
  have hpath : Scope.resolve ⟨Frame.ofTable countsTable (some "u.v"), []⟩ ["u.v", "n"] =
      .ok "u.v.n" := rfl
  have hfind : (Frame.ofTable countsTable (some "u.v")).find ["u.v", "n"] =
      .ok (some ⟨some "u.v", "n", sevens⟩) := rfl
  have htyped : sevens.Typed := by
    simp [sevens, Column.Typed, Value.conforms, Value.scalarType?]
  obtain ⟨n, c, hfound, hsorted⟩ := run_ordered_by_field hbase hpath .ascending
  obtain ⟨-, rfl, rfl⟩ := ScopeColumn.mk.inj
    (Option.some.inj (Except.ok.inj (hfind.symm.trans hfound)))
  obtain ⟨rows, hrun, hperm, hpairwise⟩ := hsorted (by decide)
  exact ⟨⟨hbase, hpath, by decide, htyped⟩, rows, hrun, hperm, hpairwise htyped⟩

/-- `ORDER BY x.y` sorts by a column `y`, and fails without one. -/
theorem order_of_dotted_name :
    ((Frame.ofTable crossedTable (some "t")).find ["x.y"] =
        .ok (some ⟨some "t", "x.y", ⟨[.integer 2, .integer 1], some .integer⟩⟩) ∧
      (ascendingBy "t" (by decide) ["x.y"]).run dottedNames =
        .ok (crossedTable.take [0, 1], none)) ∧
    Scope.resolve ⟨Frame.ofTable countsTable (some "u.v"), []⟩ ["x.y"] = .ok "u.v.x.y" ∧
    (ascendingBy "u.v" (by decide) ["x.y"]).run dottedNames =
      .error (.orderFieldNotFound "u.v.x.y") :=
  ⟨⟨rfl, rfl⟩, rfl, rfl⟩

end Query

/-! ## GROUP BY a field -/

/-- A step that succeeds hands its result and its frame on. -/
theorem FrameM.bind_of_ok {α β : Type} {x : FrameM α} {k : α → FrameM β} {f g : Frame} {a : α}
    (h : x f = .ok a g) : (x >>= k) f = k a g := by
  simp only [bind, EStateM.bind, h]

namespace Grouping

/-- What GROUP BY gives once it has the key column, whose path is `p`: the rows grouped by its
values and the marked fields, or the error of marking one of them. -/
def groupedByColumn (selectors : List (Selector Plan)) (f : Frame) (p : String) (c : Column) :
    EStateM.Result Error Frame (List (Expr Plan)) :=
  let grouped := { f with groups := some (groupsOf [c] f.numRows) }
  match selectors.mapM fun s => s.toExpr.mark (isKey ⟨grouped, []⟩ [p]) with
  | .ok marked => .ok marked { grouped with groupPaths := [p] }
  | .error e => .error e grouped

variable {now : Moment} {selectors : List (Selector Plan)} {f : Frame}

/-- A key whose path leads to a column here is grouped by, whatever becomes of the fields. -/
theorem groupBy_of_keyOf {key : Expr Plan} {p : String} {c : Column}
    (hkey : keyOf now [] selectors key f = .ok p f)
    (hcolumn : f.column (Text.splitFirst p) = .ok c) :
    groupBy now [] selectors [key] f = groupedByColumn selectors f p c := by
  have hkeys : [key].mapM (keyOf now [] selectors) f = .ok [p] f := by
    simp only [List.mapM_cons, List.mapM_nil, FrameM.bind_eq_ok, FrameM.pure_eq_ok]
    exact ⟨p, f, hkey, [], f, ⟨rfl, rfl⟩, rfl, rfl⟩
  have hcolumns : lift ([p].mapM fun p => f.column (Text.splitFirst p)) f = .ok [c] f := by
    simp [FrameM.lift_eq_ok, hcolumn]
  have hget : (get : FrameM Frame) f = .ok f f := rfl
  simp only [groupBy, groupedByColumn]
  rw [FrameM.bind_of_ok hkeys, FrameM.bind_of_ok hget, FrameM.bind_of_ok hcolumns]
  split
  · next marked hmarked => rw [hmarked]; rfl
  · next e he => rw [he]; rfl

/-- A resolved path identifies a column, if no column of that path has a dot in the name of its
table or, without a table, in its own: every path that is resolved to it reads this column, and
GROUP BY a field that is resolved to it finds the column and groups the rows by its values. -/
theorem groupBy_resolved_field {path : List String} {p : String}
    (hpath : Scope.resolve ⟨f, []⟩ path = .ok p)
    (hdot : ∀ c ∈ f.columns, c.path = p → '.' ∉ c.firstPart.toList) :
    ∃ c, f.find path = .ok (some c) ∧ c.path = p ∧
      (∀ path', Scope.resolve ⟨f, []⟩ path' = .ok p →
        Scope.lookup ⟨f, []⟩ path' = .ok (f.read c.column)) ∧
      (∀ now selectors, groupBy now [] selectors [.field path] f =
        groupedByColumn selectors f p c.column) ∧
      (c.column.Typed → KeyOrdered [c.column] f.numRows (groupsOf [c.column] f.numRows)) := by
  have hown : ∀ {path' : List String} {c : ScopeColumn}, f.find path' = .ok (some c) →
      c.path = p → f.find (Text.splitFirst p) = .ok (some c) := by
    rintro path' c hc rfl
    rw [ScopeColumn.splitFirst_path_of_firstPart (hdot c (Frame.mem_of_find hc).1 rfl)]
    exact Frame.find_parts hc
  obtain ⟨c, hc, hcp⟩ := Scope.resolve_eq_ok_iff.mp hpath
  have hsplit := hown hc hcp
  refine ⟨c, hc, hcp, fun path' hpath' => ?reads, fun now selectors => ?groups, fun htyped => ?_⟩
  case reads =>
    obtain ⟨d, hd, hdp⟩ := Scope.resolve_eq_ok_iff.mp hpath'
    obtain rfl := Option.some.inj (Except.ok.inj (hsplit.symm.trans (hown hd hdp)))
    exact Scope.lookupFrom_of_find [] hd
  case groups =>
    exact groupBy_of_keyOf (hcp ▸ keyOf_column hc) (Frame.column_eq_ok.mpr ⟨c, hsplit, rfl⟩)
  exact keyOrdered_groupsOf (Window.alikeKeys_of_typed (List.forall_mem_singleton.mpr htyped) _)

/-- A column `b.c` of a table `a` and a column `c` of a table `a.b`. -/
def joinedAlike : Frame :=
  { Frame.ofRows 2 with
    columns := [⟨some "a", "b.c", ⟨[.integer 1, .integer 1], some .integer⟩⟩,
      ⟨some "a.b", "c", ⟨[.integer 1, .integer 2], some .integer⟩⟩] }

/-- A column `b.c` of a table `a`, and columns `c` and `x.y` without a table. -/
def joinedApart : Frame :=
  { Frame.ofRows 2 with
    columns := [⟨some "a", "b.c", ⟨[.integer 1, .integer 1], some .integer⟩⟩,
      ⟨none, "c", ⟨[.integer 1, .integer 2], some .integer⟩⟩,
      ⟨none, "x.y", ⟨[.integer 1, .integer 2], some .integer⟩⟩] }

theorem groupBy_resolved_field_joinedApart :
    (Scope.resolve ⟨joinedApart, []⟩ ["b.c"] = .ok "a.b.c" ∧
      ∀ c ∈ joinedApart.columns, c.path = "a.b.c" → '.' ∉ c.firstPart.toList) ∧
    Scope.lookup ⟨joinedApart, []⟩ ["a", "b.c"] =
      .ok (.column ⟨[.integer 1, .integer 1], some .integer⟩) ∧
    (∃ marked G, groupBy newYear [] [⟨.field ["b.c"], none, some 1⟩] [.field ["b.c"]]
      joinedApart = .ok marked G ∧ G.groups = some [[0, 1]]) ∧
    KeyOrdered [⟨[.integer 1, .integer 1], some .integer⟩] 2 [[0, 1]] := by
  have hpath : Scope.resolve ⟨joinedApart, []⟩ ["b.c"] = .ok "a.b.c" := rfl
  have hdot : ∀ c ∈ joinedApart.columns, c.path = "a.b.c" → '.' ∉ c.firstPart.toList := by
    simp only [joinedApart, List.forall_mem_cons]
    decide
  have hfind : joinedApart.find ["b.c"] =
      .ok (some ⟨some "a", "b.c", ⟨[.integer 1, .integer 1], some .integer⟩⟩) := rfl
  obtain ⟨c, hc, -, hreads, hgroups, hordered⟩ := groupBy_resolved_field hpath hdot
  obtain rfl := Option.some.inj (Except.ok.inj (hfind.symm.trans hc))
  refine ⟨⟨hpath, hdot⟩, hreads ["a", "b.c"] rfl, ⟨_, _, hgroups newYear _, rfl⟩, ?_⟩
  exact hordered (by simp [Column.Typed, Value.conforms, Value.scalarType?])

/-- Two columns have the path `a.b.c`, and GROUP BY takes the one of the table `a`; no column is
found by the parts of `x.y`. -/
theorem keys_of_dotted_names :
    (Scope.resolve ⟨joinedAlike, []⟩ ["a.b", "c"] = .ok "a.b.c" ∧
      Scope.resolve ⟨joinedAlike, []⟩ ["a", "b.c"] = .ok "a.b.c" ∧
      Scope.lookup ⟨joinedAlike, []⟩ ["a.b", "c"] =
        .ok (.column ⟨[.integer 1, .integer 2], some .integer⟩) ∧
      Scope.lookup ⟨joinedAlike, []⟩ ["a", "b.c"] =
        .ok (.column ⟨[.integer 1, .integer 1], some .integer⟩) ∧
      ∃ G, groupBy newYear [] [] [.field ["a.b", "c"]] joinedAlike = .ok [] G ∧
        G.groups = some [[0, 1]]) ∧
    Scope.resolve ⟨joinedApart, []⟩ ["x.y"] = .ok "x.y" ∧
    groupBy newYear [] [] [.field ["x.y"]] joinedApart =
      .error (.unknownField ["x", "y"] ["a.b.c", "c", "x.y"]) joinedApart :=
  ⟨⟨rfl, rfl, rfl, rfl, _, rfl, rfl⟩, rfl, rfl⟩

end Grouping

end ColumnarSql
