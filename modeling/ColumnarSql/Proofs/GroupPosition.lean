import ColumnarSql.Proofs.ColumnKeys
import ColumnarSql.Proofs.OrderedPartition

/-!
# GROUP BY a position

A position stands for the name of the selected expression there, and the name is looked up
like any other key: a column of the frame comes first, then the first selected expression of
that name (`Grouping.NamedValues`). Rows are grouped by the values found so
(`Grouping.groupBy_position`). These are the values of the expression at the position itself
when no column and no earlier expression has its name, or when it is the column of that name,
and need not be otherwise (`Grouping.groupBy_position_misses`).
-/

set_option autoImplicit false

namespace ColumnarSql

/-- A column has the values of the result that it is made from. -/
theorem Evaluated.cell_of_toColumn {a : Evaluated} {n : Nat} {c : Column}
    (h : a.toColumn n = .ok c) {i : Nat} (hi : i < n) : c.cell i = a.cell i := by
  cases a with
  | constant v t =>
    obtain rfl := Except.ok.inj h
    simp [Column.constant, Column.cell, cell, hi]
  | column d =>
    simp only [toColumn, ite_error_eq_ok, Except.ok.injEq] at h
    rw [← h.2]
    rfl
  | grouped level d gs => simp [toColumn] at h

/-- A column that answers to its own path has that path's parts. -/
theorem ScopeColumn.splitFirst_path_of_answers {c : ScopeColumn}
    (h : c.answers (Text.splitFirst c.path)) : Text.splitFirst c.path = c.parts := by
  rcases Text.splitFirst_cases c.path with hsplit | ⟨t, n, hsplit⟩
  · cases ht : c.table with
    | none => rw [hsplit, parts, path, ht]; rfl
    | some t => exact absurd hsplit (Text.splitFirst_ne_singleton (by simp [path, ht]) _)
  · rw [hsplit] at h ⊢
    obtain ⟨ht, hn⟩ : c.table = some t ∧ c.name = n := by simpa [answers] using h
    simp [parts, ht, hn]

namespace Grouping

variable {now : Moment} {outer : List Frame} {selectors : List (Selector Plan)} {f G : Frame}
  {name : String}

/-- What a name stands for as a key: the column of the frame, and without one that is found
the first selected expression of the name, over the rows that are not grouped yet. -/
inductive NamedValues (now : Moment) (outer : List Frame) (selectors : List (Selector Plan))
    (f : Frame) (name : String) : Evaluated → Prop where
  | column {d : ScopeColumn} (found : f.find [name] = .ok (some d)) :
      NamedValues now outer selectors f name (.column d.column)
  | selected {s : Selector Plan} {a : Evaluated}
      (free : Scope.tryResolve ⟨f, outer⟩ [name] = .ok none)
      (first : named? selectors name = some s)
      (result : s.expr.eval now ⟨f, outer⟩ = .ok a) :
      NamedValues now outer selectors f name a

/-- The name of a selected expression leads back to it: no column and no earlier expression
has the name, or the expression is the column of that name. -/
def LeadsBack (selectors : List (Selector Plan)) (f : Frame) (s : Selector Plan)
    (name : String) : Prop :=
  f.find [name] = .ok none ∧ named? selectors name = some s ∨
    ∃ path d, s.expr = .field path ∧ f.find path = .ok (some d) ∧ f.find [name] = .ok (some d)

/-- Rows share a group when they have equal values. -/
def GroupsBy (a : Evaluated) (n : Nat) (gs : Partition) : Prop :=
  ∀ i < n, ∀ j < n, (∃ g ∈ gs, i ∈ g ∧ j ∈ g) ↔ a.cell i == a.cell j

/-- Where columns answer to their own paths, the column that a resolved name leads to is one of
the frame. -/
theorem find_of_resolved (hown : ∀ k ∈ f :: outer, k.OwnPaths) {p : String} {c : Column}
    (hresolve : Scope.tryResolve ⟨f, outer⟩ [name] = .ok (some p))
    (hc : f.column (Text.splitFirst p) = .ok c) :
    ∃ d, f.find [name] = .ok (some d) ∧ d.column = c := by
  obtain ⟨e, he, rfl⟩ := Frame.column_eq_ok.mp hc
  obtain ⟨d?, hd, h⟩ := bind_eq_ok.mp hresolve
  cases d? with
  | some d =>
    obtain rfl : d.path = p := by simpa using h
    have hself := hown f List.mem_cons_self d (Frame.mem_of_find hd).1
    rw [ScopeColumn.splitFirst_path_of_answers hself] at he
    obtain rfl := Option.some.inj (Except.ok.inj ((Frame.find_parts hd).symm.trans he))
    exact ⟨d, hd, rfl⟩
  | none =>
    obtain ⟨k, hk, d, hdk, hanswers, rfl⟩ := Scope.exists_of_tryResolveIn h
    have hself := hown k (List.mem_cons_of_mem f hk) d hdk
    rw [ScopeColumn.splitFirst_path_of_answers hself] at he
    obtain ⟨hmem, hparts⟩ := Frame.mem_of_find he
    have hsilent := Frame.find_eq_none_iff.mp hd e hmem
    rw [ScopeColumn.answers_of_parts hanswers hparts] at hsilent
    cases hsilent

/-- A frame grouped by one key that stands for a name. -/
theorem groupBy_name (hown : ∀ k ∈ f :: outer, k.OwnPaths)
    (hname : f.find [name] = .ok none → '.' ∉ name.toList) {key : Expr Plan}
    (hkey : keyTarget? selectors key = some [name]) {marked : List (Expr Plan)}
    (h : groupBy now outer selectors [key] f = .ok marked G) :
    ∃ a c, NamedValues now outer selectors f name a ∧
      (∀ i < f.numRows, c.cell i = a.cell i) ∧ G.groups = some (groupsOf [c] f.numRows) := by
  obtain ⟨paths, g, columns, hkeys, hcolumns, rfl, -⟩ := groupBy_eq_ok_iff.mp h
  simp only [List.mapM_cons, List.mapM_nil, FrameM.bind_eq_ok, FrameM.pure_eq_ok] at hkeys
  obtain ⟨p, g', hp, ps, g'', ⟨rfl, rfl⟩, rfl, rfl⟩ := hkeys
  simp only [List.mapM_cons, List.mapM_nil, bind_eq_ok, pure_eq_ok] at hcolumns
  obtain ⟨c, hc, cs, rfl, rfl⟩ := hcolumns
  obtain ⟨path, htarget, hpath⟩ := keyOf_eq_ok_iff.mp hp
  obtain rfl := Option.some.inj (hkey.symm.trans htarget)
  rcases keyPath_eq_ok_iff.mp hpath with
    ⟨hresolve, rfl⟩ | ⟨hfree, hpName, s, a, d, hs, ha, hd, hlen, rfl⟩
  · obtain ⟨d, hd, rfl⟩ := find_of_resolved hown hresolve hc
    exact ⟨.column d.column, d.column, .column hd, fun _ _ => rfl, rfl⟩
  · obtain rfl := List.singleton_inj.mp hpName
    have hadded : Frame.column { f with columns := f.columns ++ [⟨none, name, d⟩] }
        (Text.splitFirst name) = .ok d := by
      rw [Text.splitFirst_of_no_dot (hname (Frame.tryResolve_eq_none_iff.mp hfree).1)]
      have hnone := (Frame.tryResolve_eq_none_iff.mp hfree).1
      refine Frame.column_eq_ok.mpr ⟨⟨none, name, d⟩, ?_, rfl⟩
      simp [Frame.find_addedColumn hnone, ScopeColumn.answers]
    obtain rfl := Except.ok.inj (hadded.symm.trans hc)
    exact ⟨a, d, .selected hfree hs ha, fun i hi => Evaluated.cell_of_toColumn hd hi, rfl⟩

/-- Values of the expression itself, when its name leads back to it. -/
theorem NamedValues.eval_eq (hungrouped : f.groups = none) {a : Evaluated}
    (h : NamedValues now outer selectors f name a) {s : Selector Plan}
    (hs : LeadsBack selectors f s name) : s.expr.eval now ⟨f, outer⟩ = .ok a := by
  cases h with
  | @column d hfound =>
    rcases hs with ⟨hnone, -⟩ | ⟨path, e, hexpr, he, hname⟩
    · cases hnone.symm.trans hfound
    · obtain rfl := Option.some.inj (Except.ok.inj (hname.symm.trans hfound))
      rw [hexpr, Expr.eval, Scope.lookup, Scope.lookupFrom_of_find _ he,
        Frame.read_eq_ofColumn, hungrouped]
      rfl
  | selected hfree hfirst hresult =>
    rcases hs with ⟨-, hfirst'⟩ | ⟨path, e, -, -, hname⟩
    · obtain rfl := Option.some.inj (hfirst.symm.trans hfirst')
      exact hresult
    · cases (Frame.tryResolve_eq_none_iff.mp hfree).1.symm.trans hname

/-- GROUP BY a position groups the rows by what the name of the expression there stands for,
as long as no integer meets a double among its values. If the name leads back to the
expression, these are the values of the expression. -/
theorem groupBy_position (hown : ∀ k ∈ f :: outer, k.OwnPaths) (hungrouped : f.groups = none)
    {l : Literal} {position : Int64} {s : Selector Plan} (hposition : l.integer? = some position)
    (hs : selectorAt? selectors position = some s) (hname : s.name = .ok name)
    (hdot : f.find [name] = .ok none → '.' ∉ name.toList) {marked : List (Expr Plan)}
    (h : groupBy now outer selectors [.literal l] f = .ok marked G) :
    ∃ gs a, G.groups = some gs ∧ NamedValues now outer selectors f name a ∧
      (LeadsBack selectors f s name → s.expr.eval now ⟨f, outer⟩ = .ok a) ∧
      ((∀ i < f.numRows, ∀ j < f.numRows, (a.cell i).alike (a.cell j)) →
        GroupsBy a f.numRows gs) := by
  have htarget : keyTarget? selectors (.literal l) = some [name] := by
    simp [keyTarget?, hposition, hs, hname, Except.toOption]
  obtain ⟨a, c, hvalues, hcells, hgroups⟩ := groupBy_name hown hdot htarget h
  refine ⟨_, a, hgroups, hvalues, hvalues.eval_eq hungrouped, fun halike i hi j hj => ?_⟩
  have hkeys : Buckets.AlikeKeys (fun i => [c].map (·.cell i)) (List.range f.numRows) := by
    intro k hk l hl
    have hk := List.mem_range.mp hk
    have hl := List.mem_range.mp hl
    refine (Value.alikeItems_map [c]).mpr fun d hd => ?_
    rw [List.mem_singleton.mp hd, hcells k hk, hcells l hl]
    exact halike k hk l hl
  refine ((keyOrdered_groupsOf hkeys).same_group i hi j hj).trans ?_
  rw [List.forall_mem_singleton, hcells i hi, hcells j hj]

/-- `SELECT a IS NULL AS missing`, grouped by the first field. -/
theorem groupBy_position_missing :
    ((∀ k ∈ [sparseRows], k.OwnPaths) ∧ sparseRows.groups = none ∧
      (sparseRows.find ["missing"] = .ok none → '.' ∉ "missing".toList) ∧ LeadsBack
        [⟨.nullCheck false (.field ["a"]), some "missing", some 1⟩] sparseRows
        ⟨.nullCheck false (.field ["a"]), some "missing", some 1⟩ "missing") ∧
    ∃ a, (Expr.nullCheck false (.field ["a"])).eval newYear
        ⟨sparseRows, []⟩ = .ok a ∧ GroupsBy a 4 [[0, 2, 3], [1]] := by
  have hown : ∀ k ∈ [sparseRows], k.OwnPaths := by
    refine List.forall_mem_singleton.mpr fun c hc => ?_
    obtain rfl := List.mem_singleton.mp hc
    decide
  have hback : LeadsBack [⟨.nullCheck false (.field ["a"]), some "missing", some 1⟩] sparseRows
      ⟨.nullCheck false (.field ["a"]), some "missing", some 1⟩ "missing" := .inl ⟨rfl, rfl⟩
  have hrun : ∃ marked G, groupBy newYear []
      [⟨.nullCheck false (.field ["a"]), some "missing", some 1⟩]
      [.literal ⟨.integer 1, some .integer⟩] sparseRows = .ok marked G ∧
      G.groups = some [[0, 2, 3], [1]] := ⟨_, _, rfl, rfl⟩
  obtain ⟨marked, G, hG, hgroups⟩ := hrun
  have hfirst : selectorAt? [⟨.nullCheck false (.field ["a"]), some "missing", some 1⟩] 1 =
      some (⟨.nullCheck false (.field ["a"]), some "missing", some 1⟩ : Selector Plan) := rfl
  obtain ⟨gs, a, hgs, -, heval, hsame⟩ :=
    groupBy_position hown rfl rfl hfirst rfl (fun _ => by decide) hG
  obtain rfl := Option.some.inj (hgroups.symm.trans hgs)
  have ha := heval hback
  obtain rfl : a = .column ⟨[.boolean false, .boolean true, .boolean false, .boolean false],
      some .boolean⟩ := (Except.ok.inj ha).symm
  exact ⟨⟨hown, rfl, fun _ => by decide, hback⟩, _, ha, hsame (by decide)⟩

/-! ## Names that lead elsewhere -/

/-- Grouping by a position groups the rows by the values of the expression there. -/
def PositionGroups (f : Frame) (selectors : List (Selector Plan)) (position : Int64) : Prop :=
  ∀ (marked : List (Expr Plan)) (G : Frame) (s : Selector Plan) (a : Evaluated) (gs : Partition),
    groupBy newYear [] selectors
      [.literal ⟨.integer position, some .integer⟩] f = .ok marked G →
    selectorAt? selectors position = some s →
    s.expr.eval newYear ⟨f, []⟩ = .ok a → G.groups = some gs →
    GroupsBy a f.numRows gs

/-- Two rows of a table `t` that agree in `a` and differ in `b`. -/
def twoRows : Frame :=
  { Frame.ofRows 2 with
    columns := [⟨some "t", "a", ⟨[.integer 1, .integer 1], some .integer⟩⟩,
      ⟨some "t", "b", ⟨[.integer 10, .integer 20], some .integer⟩⟩] }

/-- Integers around `2 ^ 53` and the double that two of them round to. -/
def blurredRows : Frame :=
  { Frame.ofRows 3 with
    columns := [⟨some "t", "x", ⟨[.integer 9007199254740993,
      .float (Binary64.ofInt 9007199254740992), .integer 9007199254740992], some .float⟩⟩] }

/-- The name of the expression is that of another column; an earlier expression has the name;
the name has a dot and is read as a path; a column of doubles holds integers. -/
theorem groupBy_position_misses :
    ¬PositionGroups twoRows [⟨.field ["b"], some "a", some 1⟩] 1 ∧
    ¬PositionGroups twoRows [⟨.field ["a"], some "x", some 1⟩, ⟨.field ["b"], some "x", some 2⟩]
      2 ∧
    ¬PositionGroups twoRows [⟨.field ["b"], some "t.a", some 1⟩] 1 ∧
    ¬PositionGroups blurredRows [⟨.field ["x"], none, some 1⟩] 1 := by
  refine ⟨fun h => ?_, fun h => ?_, fun h => ?_, fun h => ?_⟩
  · have hsame := h _ _ _ _ [[0, 1]] rfl rfl rfl rfl 0 (by decide) 1 (by decide)
    exact absurd (hsame.mp ⟨_, List.mem_cons_self, by simp⟩) (by decide)
  · have hsame := h _ _ _ _ [[0, 1]] rfl rfl rfl rfl 0 (by decide) 1 (by decide)
    exact absurd (hsame.mp ⟨_, List.mem_cons_self, by simp⟩) (by decide)
  · have hsame := h _ _ _ _ [[0, 1]] rfl rfl rfl rfl 0 (by decide) 1 (by decide)
    exact absurd (hsame.mp ⟨_, List.mem_cons_self, by simp⟩) (by decide)
  · have hsame := h _ _ _ _ [[2], [0, 1]] rfl rfl rfl rfl 1 (by decide) 2 (by decide)
    obtain ⟨g, hg, h1, h2⟩ := hsame.mpr rfl
    simp only [List.mem_cons, List.not_mem_nil, or_false] at hg
    rcases hg with rfl | rfl <;> simp at h1 h2

end Grouping

end ColumnarSql
