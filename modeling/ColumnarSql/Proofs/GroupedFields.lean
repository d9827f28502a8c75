import ColumnarSql.Proofs.KeyAgreement
import ColumnarSql.Proofs.Timeless

/-!
# The fields of a grouped SELECT

A SELECT with GROUP BY gives each group one row. What is marked as a key is read in the first row
of the group (`GroupedRun.exists_column`), so a field without reducing and window calls has the
value of its expression there in every row with the same keys, if all that is taken for a key by
its name is the expression of the key or reads nothing but keys (`field_of_group`).

A mark stands for a value that is constant within each group. A selector that is taken for a key by
its name alone need not be, and is still accepted (`renamed_field_is_of_first_row`).
-/

set_option autoImplicit false

namespace ColumnarSql

/-! ## Runs -/

/-- A successful run of a SELECT with GROUP BY: the rows of FROM and WHERE, the expanded
fields, their marked expressions, the grouped frame, and the table before HAVING. -/
structure GroupedRun (now : Moment) (s : SelectOf Plan (Except Error Frame))
    (outer : List Frame) (t : Table) where
  input : Frame
  selectors : List (Selector Plan)
  marked : List (Expr Plan)
  frame : Frame
  groups : Partition
  result : Table
  inputScope_eq : s.inputScope now outer = .ok ⟨input, outer⟩
  expand_eq : SelectOf.expand input s.fields = .ok selectors
  groupBy_eq : Grouping.groupBy now outer selectors s.groupBy input = .ok marked frame
  groups_eq : frame.groups = some groups
  result_eq : SelectOf.fieldsTable now ⟨frame, outer⟩ selectors marked = .ok result
  having_eq :
    s.having.elim (.ok result) (SelectOf.applyHaving now · result ⟨frame, outer⟩) = .ok t

namespace SelectOf

variable {now : Moment} {s : SelectOf Plan (Except Error Frame)} {outer : List Frame} {t : Table}

theorem exists_groupedRun (hs : s.HasPlainSource) (hkeys : s.groupBy ≠ [])
    (h : s.run now outer = .ok t) : Nonempty (GroupedRun now s outer t) := by
  obtain ⟨⟨input, outer'⟩, selectors, ⟨frame, outer''⟩, marked, result, hinput, hselectors,
    hgrouped, hresult, h⟩ := steps_of_run h
  obtain ⟨rfl, -⟩ := plain_inputScope hs hinput
  simp only [groupedFields, List.isEmpty_iff, hkeys, if_false] at hgrouped
  split at hgrouped
  · next fields G hgroup =>
    obtain ⟨hscope, rfl⟩ := Prod.mk.inj (Except.ok.inj hgrouped)
    obtain ⟨rfl, rfl⟩ := Scope.mk.inj hscope
    obtain ⟨g, paths, columns, -, -, hG, -⟩ := Grouping.groupBy_eq_ok hgroup
    exact ⟨⟨input, selectors, fields, G, Grouping.groupsOf columns g.numRows, result, hinput,
      hselectors, hgroup, hG ▸ rfl, hresult, h⟩⟩
  · simp at hgrouped

theorem fieldColumn_eq_ok {scope : Scope} {selector : Selector Plan} {e : Expr Plan}
    {p : String × Column} (h : fieldColumn now scope selector e = .ok p) :
    ∃ a, e.eval now scope = .ok a ∧ a.isGrouped = false ∧
      a.toColumn scope.frame.outputLength = .ok p.2 := by
  obtain ⟨-, a, ha, hc⟩ := fieldColumn_eq_ok_iff.mp h
  refine ⟨a, ha, ?_, hc⟩
  cases a with
  | grouped level d gs => simp [Evaluated.toColumn] at hc
  | _ => rfl

/-- The column of a field is its result, which has no ungrouped rows. -/
theorem column_fieldsTable {scope : Scope} {selectors : List (Selector Plan)}
    {marked : List (Expr Plan)} (h : fieldsTable now scope selectors marked = .ok t) {k : Nat}
    (hk : k < selectors.length) (hk' : k < marked.length) :
    ∃ a c, marked[k].eval now scope = .ok a ∧ a.isGrouped = false ∧
      a.toColumn scope.frame.outputLength = .ok c ∧ t.columns[k]? = some c := by
  obtain ⟨p, hfield, -, hcolumn⟩ := field_of_fieldsTable h hk hk'
  obtain ⟨a, ha, hgrouped, hc⟩ := fieldColumn_eq_ok hfield
  exact ⟨a, p.2, ha, hgrouped, hc, hcolumn⟩

end SelectOf

/-! ## Fields and rows -/

namespace GroupedRun

variable {now : Moment} {s : SelectOf Plan (Except Error Frame)} {outer : List Frame} {t : Table}
variable (R : GroupedRun now s outer t)

/-- What an expression gives at some time in one row of the grouped frame. -/
def valueIn (time : Moment) (e : Expr Plan) (r : Nat) : Except Error Column :=
  e.evalColumn time ⟨R.frame.row r, outer⟩

/-- A selector that is taken for a key by its name is the expression the key was computed
from, or reads nothing but keys. -/
def NamesItsKey (d : Expr Plan) : Prop :=
  ∀ e label position name, d = .selector e label position →
    Selector.name ⟨e, label, position⟩ = .ok name → R.frame.isKey outer [name] = .ok true →
      Grouping.ComputedFrom R.selectors ⟨R.input, outer⟩ name e ∨
        e.Every (Expr.ReadsKeys outer R.frame)

/-- A grouping key, or the expression of a computed one. -/
def IsKeyItself (e : Expr Plan) : Prop :=
  (∃ path, e = .field path ∧ R.frame.isKey outer path = .ok true) ∨
    ∃ name, R.frame.isKey outer [name] = .ok true ∧
      Grouping.ComputedFrom R.selectors ⟨R.input, outer⟩ name e

/-- Rows with the same keys; equal keys are the same unless they hold doubles. -/
def AgreeOnKeys (i j : Nat) : Prop :=
  R.frame.SameKeys i j ∨ ∀ c, R.frame.IsKeyColumn c →
    (c.cell i).holdsDouble = false ∧ (c.cell j).holdsDouble = false

variable {R}

theorem exists_keyed (hs : s.HasPlainSource) :
    R.input.Plain ∧ R.frame.KeyGroups R.groups ∧
      ∃ g paths columns, Grouping.Keyed now outer R.selectors R.input g ∧
        R.frame = Grouping.grouped g paths columns := by
  obtain ⟨-, hinput⟩ := SelectOf.plain_inputScope hs R.inputScope_eq
  obtain ⟨g, paths, columns, hkeyed, hcolumns, hframe, -⟩ := Grouping.groupBy_eq_ok R.groupBy_eq
  refine ⟨hinput, ?_, g, paths, columns, hkeyed, hframe⟩
  have hgroups : Grouping.groupsOf columns g.numRows = R.groups :=
    Option.some.inj ((congrArg Frame.groups hframe).symm.trans R.groups_eq)
  rw [hframe, ← hgroups]
  exact Grouping.keyGroups_grouped (hkeyed.extends.uniform hinput.uniform) hcolumns

/-- The expression of a computed key has the value of the key column in every row. -/
theorem isKeyValue_of_computedFrom (hs : s.HasPlainSource) (houter : ∀ o ∈ outer, o.Encloses)
    (hown : R.frame.OwnPaths) {name : String} {e : Expr Plan} (he : e.Every (·.isNameDecided))
    (hcomputed : Grouping.ComputedFrom R.selectors ⟨R.input, outer⟩ name e)
    (hkey : R.frame.isKey outer [name] = .ok true) : e.IsKeyValue now R.frame outer := by
  obtain ⟨hinput, hgroups, g, paths, columns, hkeyed, hframe⟩ := R.exists_keyed hs
  exact Expr.isKeyValue_of_computedFrom houter hinput hkeyed hframe hgroups hown he
    hcomputed hkey

/-- What is taken for a key agrees with the keys, if selectors name their keys. -/
theorem every_markAgrees (hs : s.HasPlainSource) (houter : ∀ o ∈ outer, o.Encloses)
    (hown : R.frame.OwnPaths) {e : Expr Plan}
    (he : e.Every fun d =>
      (d.isNameDecided ∧ d.SettledIfMarked R.frame outer) ∧ R.NamesItsKey d) :
    e.Every (Expr.MarkAgrees now R.frame outer R.frame.SameKeys) := by
  obtain ⟨-, hgroups, -⟩ := R.exists_keyed hs
  refine he.of_every fun d hd hmark a ha => ?_
  have hsettled : d.Every (Expr.IsSettled R.frame outer) :=
    (hd.and (hd.self.1.2 hmark)).mono fun _ h => ⟨h.1.1.1, h.2⟩
  rcases Expr.mark_eq_groupedBy hmark with ⟨path, rfl, hkey⟩ | ⟨e, label, position, name, rfl,
    hname, hkey⟩
  · obtain ⟨c?, hc⟩ := Scope.find_of_lookupFrom ha
    cases c? with
    | some c =>
      exact Expr.agreesOn_of_isKeyValue hgroups.uniform (hsettled.mono fun _ h => h.isRowLocal)
        (Expr.isKeyValue_field hgroups hown hkey hc) ha
    | none =>
      obtain ⟨v, t, rfl⟩ := hsettled.self.2 path rfl hc a ha
      exact fun _ _ _ _ _ => rfl
  · have hpart : e.Every (Expr.IsSettled R.frame outer) := hsettled.part (by simp [Expr.children])
    rcases hd.self.2 e label position name rfl hname hkey with hcomputed | hreads
    · exact Expr.agreesOn_of_isKeyValue hgroups.uniform (hpart.mono fun _ h => h.isRowLocal)
        (R.isKeyValue_of_computedFrom hs houter hown (hpart.mono fun _ h => h.1) hcomputed hkey) ha
    · exact Expr.agreesOn_of_readsKeys hgroups hown hpart hreads ha

/-- The column of a field has for each group the value of the rows like the first one. -/
theorem exists_column (hs : s.HasPlainSource) (houter : ∀ o ∈ outer, o.Encloses)
    {alike : Nat → Nat → Prop} {k : Nat} (hk : k < R.selectors.length)
    (he : R.selectors[k].toExpr.Every fun d =>
      (d.isNameDecided ∧ d.SettledIfMarked R.frame outer) ∧
        Expr.MarkAgrees now R.frame outer alike d) :
    ∃ c, R.result.columns[k]? = some c ∧ c.length = R.groups.length ∧
      ∀ (j : Nat) (hj : j < R.groups.length), ∀ first ∈ R.groups[j].head?,
        ∀ r ∈ R.groups[j], alike r first →
          R.valueIn now R.selectors[k].expr r = .ok ⟨[c.cell j], c.type⟩ := by
  obtain ⟨-, hgroups, -⟩ := R.exists_keyed hs
  obtain ⟨g, paths, columns, -, -, hframe, hmarked⟩ := Grouping.groupBy_eq_ok R.groupBy_eq
  have hpaths : R.frame.groupPaths = paths := by simp [hframe, Grouping.grouped]
  have hmarks := (mapM_eq_ok_iff _ _ _).mp hmarked
  have hk' : k < R.marked.length := hmarks.length_eq ▸ hk
  have hmark : R.selectors[k].toExpr.mark (R.frame.isKey outer) = .ok R.marked[k] := by
    simpa [Frame.isKey, hpaths] using hmarks.get hk hk'
  obtain ⟨a, c, ha, hgrouped, hcolumn, hc⟩ := SelectOf.column_fieldsTable R.result_eq hk hk'
  obtain ⟨hover, hrows⟩ := Expr.onGroups_of_mark hgroups.toUnderGroups houter
    (he.mono fun _ hd => ⟨hd.1.1, hd.1.2, hd.2⟩) hmark ha hgrouped
  have hlength : R.frame.outputLength = R.groups.length := by
    simp [Frame.outputLength, R.groups_eq]
  obtain ⟨c', hcolumn', hlen, htype, hcells⟩ := Evaluated.toColumn_of_over hover
  simp only [hlength] at hcolumn
  obtain rfl : c' = c := Except.ok.inj (hcolumn'.symm.trans hcolumn)
  refine ⟨c', hc, hlen, fun j hj first hfirst r hr halike => ?_⟩
  rw [hcells j hj, htype]
  exact bind_eq_ok.mpr ⟨_, hrows j hj first hfirst r hr halike, Evaluated.toColumn_pick_one a j⟩

/-- What a key gives in the rows of a group is equal to what it gives in the first one. -/
theorem exists_value_of_isKeyItself (hs : s.HasPlainSource) (houter : ∀ o ∈ outer, o.Encloses)
    (hown : R.frame.OwnPaths) {e : Expr Plan} (he : e.Every (·.isNameDecided))
    (hkey : R.IsKeyItself e) {g : List Nat} (hg : g ∈ R.groups) {first : Nat}
    (hfirst : first ∈ g.head?) {v : Value} {type : ColumnType}
    (hv : R.valueIn now e first = .ok ⟨[v], type⟩) :
    ∀ r ∈ g, ∃ w, R.valueIn now e r = .ok ⟨[w], type⟩ ∧ w.compare v = .eq := by
  obtain ⟨-, hgroups, -⟩ := R.exists_keyed hs
  have hcolumn : e.IsKeyValue now R.frame outer →
      ∀ r ∈ g, ∃ w, R.valueIn now e r = .ok ⟨[w], type⟩ ∧ w.compare v = .eq := by
    rintro ⟨c, hc, hvalue⟩ r hr
    have hin := hgroups.in_range g hg
    have hequal := hv.symm.trans (hvalue first (hin first (List.mem_of_head? hfirst)))
    obtain ⟨rfl, rfl⟩ : v = c.cell first ∧ type = c.type := by simpa using hequal
    exact ⟨c.cell r, hvalue r (hin r hr), hgroups.keys_equal g hg first hfirst r hr c hc⟩
  rcases hkey with ⟨path, rfl, hpath⟩ | ⟨name, hname, hcomputed⟩
  · obtain ⟨a, ha, hone⟩ := bind_eq_ok.mp hv
    obtain ⟨c?, hc⟩ := Expr.find_of_lookupFrom_row ha
    cases c? with
    | some c => exact hcolumn (Expr.isKeyValue_field hgroups hown hpath hc)
    | none =>
      have hrow : ∀ i, (R.frame.row i).find path = .ok none :=
        fun i => Frame.find_row_eq_none_iff.mpr hc
      have hsame : ∀ r, R.valueIn now (.field path) r = .ok ⟨[v], type⟩ := by
        intro r
        exact bind_eq_ok.mpr ⟨a, Scope.lookupFrom_of_not_found (hrow first) (hrow r) ha, hone⟩
      exact fun r _ => ⟨v, hsame r, v.compare_self⟩
  · exact hcolumn (R.isKeyValue_of_computedFrom hs houter hown he hcomputed hname)

/-- Rows of a group that agree on the keys have the same ones. -/
theorem AgreeOnKeys.sameKeys (hs : s.HasPlainSource) {g : List Nat} (hg : g ∈ R.groups)
    {first r : Nat} (hfirst : first ∈ g.head?) (hr : r ∈ g) (h : R.AgreeOnKeys r first) :
    R.frame.SameKeys r first := by
  obtain ⟨-, hgroups, -⟩ := R.exists_keyed hs
  exact h.elim id fun hdoubles => Frame.sameKeys_of_no_double hgroups hg hfirst hr hdoubles

/-- What an expression gives in a row of FROM and WHERE it gives in the grouped frame. -/
theorem valueIn_of_input (hs : s.HasPlainSource) {e : Expr Plan} (he : e.Every (·.isNameDecided))
    {r : Nat} {c : Column} (h : e.evalColumn now ⟨R.input.row r, outer⟩ = .ok c) :
    R.valueIn now e r = .ok c := by
  obtain ⟨-, -, g, paths, columns, hkeyed, hframe⟩ := R.exists_keyed hs
  obtain ⟨a, ha, hc⟩ := bind_eq_ok.mp h
  have hrow : R.frame.row r = g.row r := by
    rw [hframe]
    rfl
  rw [valueIn, hrow]
  exact bind_eq_ok.mpr ⟨a, Expr.eval_extends (hkeyed.extends.row r) he ha, hc⟩

end GroupedRun

/-- A successful SELECT with GROUP BY gives a field that does not read the clock, in the row of a
group, the value of its expression in the first row of the group, whenever that is evaluated. This
is its value in every row of the group that agrees with the first one on the keys, if each selector
that is taken for a key by its name is the expression of the key or reads nothing but keys; and a
key itself is equal to it in every row of the group. -/
theorem field_of_group {now : Moment} {s : SelectOf Plan (Except Error Frame)}
    {outer : List Frame} {t : Table} (hs : s.HasPlainSource) (houter : ∀ o ∈ outer, o.Encloses)
    (hkeys : s.groupBy ≠ []) (h : s.run now outer = .ok t) :
    Nonempty (GroupedRun now s outer t) ∧
    ∀ (R : GroupedRun now s outer t) (later : Moment) (k : Nat) (hk : k < R.selectors.length),
      R.selectors[k].toExpr.Every (fun d =>
        d.isNameDecided ∧ d.SettledIfMarked R.frame outer ∧ d.readsClock = false) →
      ∃ c, R.result.columns[k]? = some c ∧ c.length = R.groups.length ∧
        ∀ (j : Nat) (hj : j < R.groups.length), ∃ first, R.groups[j].head? = some first ∧
          R.valueIn later R.selectors[k].expr first = .ok ⟨[c.cell j], c.type⟩ ∧
          (R.frame.OwnPaths → R.selectors[k].toExpr.Every R.NamesItsKey →
            ∀ r ∈ R.groups[j], R.AgreeOnKeys r first →
              R.valueIn later R.selectors[k].expr r = .ok ⟨[c.cell j], c.type⟩ ∧
              ∀ d, R.selectors[k].expr.evalColumn later ⟨R.input.row r, outer⟩ = .ok d →
                d = ⟨[c.cell j], c.type⟩) ∧
          (R.frame.OwnPaths → R.IsKeyItself R.selectors[k].expr →
            ∀ r ∈ R.groups[j], ∃ v, R.valueIn later R.selectors[k].expr r = .ok ⟨[v], c.type⟩ ∧
              v.compare (c.cell j) = .eq) := by
  refine ⟨SelectOf.exists_groupedRun hs hkeys h, fun R later k hk hall => ?_⟩
  obtain ⟨-, hgroups, -⟩ := R.exists_keyed hs
  have he : R.selectors[k].toExpr.Every fun d =>
      d.isNameDecided ∧ d.SettledIfMarked R.frame outer :=
    hall.mono fun _ hd => ⟨hd.1, hd.2.1⟩
  have hclock : R.selectors[k].expr.ReadsNoClock :=
    (hall.part (by simp [Selector.toExpr, Expr.children])).mono fun _ hd => hd.2.2
  -- so the values at the time of the run are those of any other time
  have heval : R.selectors[k].expr.eval later = R.selectors[k].expr.eval now := Expr.eval_at hclock
  simp only [GroupedRun.valueIn, Expr.evalColumn, heval]
  have hdecided : R.selectors[k].expr.Every (·.isNameDecided) :=
    (he.part (by simp [Selector.toExpr, Expr.children])).mono fun _ hd => hd.1
  have hself : R.selectors[k].toExpr.Every fun d =>
      (d.isNameDecided ∧ d.SettledIfMarked R.frame outer) ∧
        Expr.MarkAgrees now R.frame outer Eq d :=
    he.mono fun _ hd => ⟨hd, fun _ _ _ _ _ _ _ hij => hij ▸ rfl⟩
  obtain ⟨c, hc, hlen, hfirsts⟩ := R.exists_column hs houter hk hself
  refine ⟨c, hc, hlen, fun j hj => ?_⟩
  have hmem := List.getElem_mem hj
  obtain ⟨first, rest, hg⟩ := List.exists_cons_of_ne_nil (hgroups.nonempty _ hmem)
  have hfirst : R.groups[j].head? = some first := by simp [hg]
  have hvalue := hfirsts j hj first hfirst first (by simp [hg]) rfl
  refine ⟨first, hfirst, hvalue, fun hown hnames r hr hagree => ?_, fun hown hkey => ?_⟩
  · have hmarks := R.every_markAgrees hs houter hown (he.and hnames)
    obtain ⟨c', hc', -, hrows⟩ := R.exists_column hs houter hk (he.and hmarks)
    obtain rfl : c = c' := Option.some.inj (hc.symm.trans hc')
    have hrow := hrows j hj first hfirst r hr (hagree.sameKeys hs hmem hfirst hr)
    refine ⟨hrow, fun d hd => ?_⟩
    exact Except.ok.inj ((R.valueIn_of_input hs hdecided hd).symm.trans hrow)
  · exact R.exists_value_of_isKeyItself hs houter hown hdecided hkey hmem hfirst hvalue

/-- Three rows with `a` and `b`. -/
def pairRows : Frame where
  columns := [⟨none, "a", ⟨[.integer 1, .integer 2, .integer 1], some .integer⟩⟩,
    ⟨none, "b", ⟨[.integer 10, .integer 20, .integer 30], some .integer⟩⟩]
  numRows := 3
  groupPaths := []
  groups := none
  inheritsGroups := false

/-- One field over `pairRows`, grouped by `a`. -/
def selectByA (e : Expr Plan) (label : String) : SelectOf Plan (Except Error Frame) :=
  ⟨false, [.one ⟨e, some label, some 1⟩], some (.ok pairRows), none, [.field ["a"]], none⟩

/-- One more than the key. -/
def successor : Expr Plan := .binary .add (.field ["a"]) (.literal ⟨.integer 1, some .integer⟩)

/-- The run of `a + 1 AS n`. -/
def successorRun : GroupedRun newYear (selectByA successor "n") []
    ⟨["n"], [⟨[.integer 2, .integer 3], some .integer⟩], 2⟩ where
  input := pairRows
  selectors := [⟨successor, some "n", some 1⟩]
  marked := [.selector (.binary .add (.groupedBy (.field ["a"]))
    (.literal ⟨.integer 1, some .integer⟩)) (some "n") (some 1)]
  frame := { pairRows with groups := some [[0, 2], [1]], groupPaths := ["a"] }
  groups := [[0, 2], [1]]
  result := ⟨["n"], [⟨[.integer 2, .integer 3], some .integer⟩], 2⟩
  inputScope_eq := rfl
  expand_eq := rfl
  groupBy_eq := rfl
  groups_eq := rfl
  result_eq := rfl
  having_eq := rfl

theorem field_of_group_successor :
    ((selectByA successor "n").HasPlainSource ∧ (∀ o ∈ ([] : List Frame), o.Encloses) ∧
      (selectByA successor "n").groupBy ≠ [] ∧
      (selectByA successor "n").run newYear [] =
        .ok ⟨["n"], [⟨[.integer 2, .integer 3], some .integer⟩], 2⟩) ∧
    successorRun.valueIn (.ofDate ⟨2024, 1, 2, by decide⟩) successor 2 =
      .ok ⟨[.integer 2], some .integer⟩ := by
  have hsource : (selectByA successor "n").HasPlainSource := by
    rintro f hf
    obtain rfl : pairRows = f := Except.ok.inj (Option.some.inj hf)
    exact ⟨by simp [Frame.Uniform, pairRows, Column.length], rfl⟩
  have houter : ∀ o ∈ ([] : List Frame), o.Encloses := by simp
  have hkeys : (selectByA successor "n").groupBy ≠ [] := List.cons_ne_nil _ _
  have hrun : (selectByA successor "n").run newYear [] =
      .ok ⟨["n"], [⟨[.integer 2, .integer 3], some .integer⟩], 2⟩ := rfl
  have hdecided : (Selector.toExpr ⟨successor, some "n", some 1⟩).Every fun d =>
      d.isNameDecided ∧ d.readsClock = false := by
    refine .intro ⟨rfl, rfl⟩ fun d hd => ?_
    obtain rfl := List.mem_singleton.mp hd
    refine .intro ⟨rfl, rfl⟩ fun c hc => ?_
    rcases List.mem_pair.mp hc with rfl | rfl <;> exact .leaf ⟨rfl, rfl⟩ rfl
  have hnames : (Selector.toExpr ⟨successor, some "n", some 1⟩).Every successorRun.NamesItsKey := by
    refine .intro ?_ fun d hd => ?_
    · intro e label position name hd hname hkey
      obtain ⟨rfl, rfl, rfl⟩ := Expr.selector.inj hd
      obtain rfl : "n" = name := Except.ok.inj hname
      exact absurd (Except.ok.inj hkey) Bool.false_ne_true
    · obtain rfl := List.mem_singleton.mp hd
      have hother : ∀ d ∈ [successor, .field ["a"], .literal ⟨.integer 1, some .integer⟩],
          successorRun.NamesItsKey d := by
        simp [GroupedRun.NamesItsKey, successor]
      refine .intro (hother _ (by simp)) fun c hc => ?_
      rcases List.mem_pair.mp hc with rfl | rfl <;> exact .leaf (hother _ (by simp)) rfl
  have hown : successorRun.frame.OwnPaths := by
    intro c hc
    rcases List.mem_pair.mp hc with rfl | rfl <;> rfl
  have hagree : successorRun.AgreeOnKeys 2 0 := by
    refine .inl fun c hkey => ?_
    obtain ⟨p, hp, hc⟩ := hkey
    obtain rfl := List.mem_singleton.mp hp
    obtain rfl := Except.ok.inj hc
    rfl
  have hsettled : (Selector.toExpr ⟨successor, some "n", some 1⟩).Every fun d =>
      d.isNameDecided ∧ d.SettledIfMarked successorRun.frame [] :=
    Expr.every_settledIfMarked (by simp) (hdecided.mono fun _ hd => hd.1)
  obtain ⟨c, hc, -, hgroups⟩ := (field_of_group hsource houter hkeys hrun).2 successorRun
    (.ofDate ⟨2024, 1, 2, by decide⟩) 0 (by decide)
    ((hsettled.and hdecided).mono fun _ hd => ⟨hd.1.1, hd.1.2, hd.2.2⟩)
  obtain rfl := Option.some.inj hc
  obtain ⟨first, hfirst, -, hrows, -⟩ := hgroups 0 (by decide)
  obtain rfl := Option.some.inj hfirst
  exact ⟨⟨hsource, houter, hkeys, hrun⟩, (hrows hown hnames 2 (by decide) hagree).1⟩

/-- The run of `b AS a`. -/
def renamedRun : GroupedRun newYear (selectByA (.field ["b"]) "a") []
    ⟨["a"], [⟨[.integer 10, .integer 20], some .integer⟩], 2⟩ where
  input := pairRows
  selectors := [⟨.field ["b"], some "a", some 1⟩]
  marked := [.groupedBy (.selector (.field ["b"]) (some "a") (some 1))]
  frame := { pairRows with groups := some [[0, 2], [1]], groupPaths := ["a"] }
  groups := [[0, 2], [1]]
  result := ⟨["a"], [⟨[.integer 10, .integer 20], some .integer⟩], 2⟩
  inputScope_eq := rfl
  expand_eq := rfl
  groupBy_eq := rfl
  groups_eq := rfl
  result_eq := rfl
  having_eq := rfl

/-- A column that is renamed to a key is taken for it although it is not constant within the group.
The SELECT should be refused; its output is that of one row of the group and not of the other. -/
theorem renamed_field_is_of_first_row :
    (selectByA (.field ["b"]) "a").run newYear [] =
      .ok ⟨["a"], [⟨[.integer 10, .integer 20], some .integer⟩], 2⟩ ∧
    (Expr.field ["b"] : Expr Plan).Every (·.isNameDecided) ∧
    renamedRun.groups = [[0, 2], [1]] ∧
    renamedRun.valueIn newYear (.field ["b"]) 2 = .ok ⟨[.integer 30], some .integer⟩ ∧
    (Value.integer 30).compare (.integer 10) ≠ .eq :=
  ⟨rfl, .leaf rfl rfl, rfl, rfl, by decide⟩

end ColumnarSql
