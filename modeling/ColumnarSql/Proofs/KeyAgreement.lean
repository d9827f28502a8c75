import ColumnarSql.Proofs.GroupKeys
import ColumnarSql.Proofs.GroupedEvaluation
import ColumnarSql.Proofs.RectangularTables

/-!
# What the keys decide

All rows of a group have equal keys. Rows with the same keys agree on a key, on the
expression a key was computed from, and on every expression that reads nothing but keys of
the frame. So if no other expression is taken for a key by its name, they agree on all
marked parts (`markAgrees_of_isFaithful`).
-/

set_option autoImplicit false

namespace ColumnarSql

/-! ## Frames that are read alike -/

namespace Expr

variable {now : Moment} {outer : List Frame}

/-- A field that is read in the second frame as it is in the first. -/
def ReadsAlike (outer : List Frame) (f g : Frame) (e : Expr Plan) : Prop :=
  ∀ path, e = .field path → ∀ a,
    Scope.lookupFrom f outer path = .ok a → Scope.lookupFrom g outer path = .ok a

/-- Frames that read the fields of an expression alike give it the same result. -/
theorem eval_of_readsAlike {f g : Frame} {e : Expr Plan}
    (he : e.Every fun d => d.isNameDecided ∧ ReadsAlike outer f g d) :
    ∀ ⦃a : Evaluated⦄, e.eval now ⟨f, outer⟩ = .ok a → e.eval now ⟨g, outer⟩ = .ok a := by
  induction he with
  | @intro e self _ ih =>
    intro a ha
    obtain ⟨hdecided, hreads⟩ := self
    cases nameDecidedNode hdecided with
    | operation hop =>
      obtain ⟨args, hargs, k, hk, hmap⟩ := (eval_operation_eq_ok hop).mp ha
      refine (eval_operation_eq_ok hop).mpr ⟨args, ?_, k, hk, hmap⟩
      rw [evalAll_eq_ok_iff] at hargs ⊢
      exact forall₂_imp_of_mem hargs fun c hc b _ hb => ih c hc hb
    | literal l => exact ha
    | field path => exact hreads path rfl a ha
    | selector e label position => exact ih e (by simp [children]) ha

/-- A grown frame gives an expression the result it had before. -/
theorem eval_extends {f g : Frame} (h : f.Extends outer g) {e : Expr Plan}
    (he : e.Every (·.isNameDecided)) {a : Evaluated} (ha : e.eval now ⟨f, outer⟩ = .ok a) :
    e.eval now ⟨g, outer⟩ = .ok a :=
  eval_of_readsAlike (he.mono fun _ hd => ⟨hd, fun _ _ _ hb => h.lookupFrom hb⟩) ha

end Expr

/-! ## Key columns -/

namespace Frame

/-- A column of a grouping key. -/
def IsKeyColumn (f : Frame) (c : Column) : Prop :=
  ∃ p ∈ f.groupPaths, f.column (Text.splitFirst p) = .ok c

/-- Two rows with the same values of all grouping keys. -/
def SameKeys (f : Frame) (i j : Nat) : Prop := ∀ c, f.IsKeyColumn c → c.cell i = c.cell j

/-- Every column answers to its own path, as it does unless a table, or a column without a
table, has a dot in its name. -/
def OwnPaths (f : Frame) : Prop := ∀ c ∈ f.columns, c.answers (Text.splitFirst c.path)

/-- A frame under groups of rows with equal keys. -/
structure KeyGroups (f : Frame) (gs : Partition) : Prop extends f.UnderGroups gs where
  key_found : ∀ p ∈ f.groupPaths, ∃ c, f.column (Text.splitFirst p) = .ok c
  keys_equal : ∀ g ∈ gs, ∀ first ∈ g.head?, ∀ i ∈ g, ∀ c, f.IsKeyColumn c →
    (c.cell i).compare (c.cell first) = .eq

variable {f : Frame} {outer : List Frame} {gs : Partition}

theorem column_eq_ok {path : List String} {c : Column} :
    f.column path = .ok c ↔ ∃ d, f.find path = .ok (some d) ∧ d.column = c := by
  unfold column
  rcases f.find path with _ | _ | d <;> simp

/-- A column that a key path names here is a key column. -/
theorem isKeyColumn_of_isKey (hf : f.KeyGroups gs) (hown : f.OwnPaths) {path : List String}
    {c : ScopeColumn} (hkey : f.isKey outer path = .ok true)
    (hc : f.find path = .ok (some c)) : f.IsKeyColumn c.column := by
  have hmem : c.path ∈ f.groupPaths := by
    simpa [isKey, Grouping.isKey, Scope.tryResolve, Scope.frames, Scope.tryResolveIn, hc]
      using hkey
  obtain ⟨k, hk⟩ := hf.key_found c.path hmem
  obtain ⟨d, hd, rfl⟩ := column_eq_ok.mp hk
  have hanswers : c ∈ f.columns.filter (·.answers (Text.splitFirst c.path)) :=
    List.mem_filter.mpr ⟨(mem_of_find hc).1, hown c (mem_of_find hc).1⟩
  rw [find_eq_some_iff.mp hd] at hanswers
  obtain rfl := List.mem_singleton.mp hanswers
  exact ⟨c.path, hmem, hk⟩

/-- Keys of a group that hold no double are the same in all of its rows. -/
theorem sameKeys_of_no_double (hf : f.KeyGroups gs) {g : List Nat} (hg : g ∈ gs)
    {first i : Nat} (hfirst : first ∈ g.head?) (hi : i ∈ g)
    (hkeys : ∀ c, f.IsKeyColumn c →
      (c.cell i).holdsDouble = false ∧ (c.cell first).holdsDouble = false) :
    f.SameKeys i first := by
  intro c hc
  obtain ⟨hci, hcfirst⟩ := hkeys c hc
  exact Value.eq_of_compare_eq _ _ hci hcfirst (hf.keys_equal g hg first hfirst i hi c hc)

end Frame

namespace Grouping

variable {now : Moment} {outer : List Frame} {selectors : List (Selector Plan)}

/-- The groups that GROUP BY makes have equal keys. -/
theorem keyGroups_grouped {g : Frame} (hg : g.Uniform) {paths : List String}
    {columns : List Column}
    (hcolumns : (paths.mapM fun p => g.column (Text.splitFirst p)) = .ok columns) :
    (grouped g paths columns).KeyGroups (groupsOf columns g.numRows) where
  groups_eq := rfl
  uniform := hg
  in_range _ hrows _ hi := lt_of_mem_groupsOf hrows hi
  nonempty rows hrows := by
    obtain ⟨first, rest, rfl, -⟩ := exists_first_of_mem_groupsOf hrows
    simp
  key_found p hp := by
    obtain ⟨c, -, hc⟩ := exists_of_mem_of_mapM hcolumns hp
    exact ⟨c, hc⟩
  keys_equal rows hrows first hfirst i hi c hc := by
    obtain ⟨p, hp, hfound⟩ := hc
    obtain ⟨d, hd, hcolumn⟩ := exists_of_mem_of_mapM hcolumns hp
    obtain rfl : c = d := Except.ok.inj (hfound.symm.trans hcolumn)
    obtain ⟨first', rest, rfl, hequal⟩ := exists_first_of_mem_groupsOf hrows
    obtain rfl : first' = first := by simpa using hfirst
    exact hequal i hi c hd

/-- The key of that name was computed from the expression. -/
def ComputedFrom (selectors : List (Selector Plan)) (input : Scope) (name : String)
    (e : Expr Plan) : Prop :=
  input.tryResolve [name] = .ok none ∧ ∃ s, named? selectors name = some s ∧ s.expr = e

end Grouping

/-! ## Agreement on expressions -/

namespace Expr

variable {now : Moment} {f : Frame} {outer : List Frame} {gs : Partition}

/-- What a field that is found gives in a row. -/
theorem lookupFrom_row {path : List String} {c : ScopeColumn} (hc : f.find path = .ok (some c))
    (i : Nat) :
    Scope.lookupFrom (f.row i) outer path = .ok (.column ⟨[c.column.cell i], c.column.type⟩) := by
  have hrow : (f.row i).find path = .ok (some { c with column := c.column.take [i] }) := by
    rw [Frame.row, Frame.find_take, hc]
    rfl
  rw [Scope.lookupFrom_of_find outer hrow]
  rfl

theorem find_of_lookupFrom_row {path : List String} {i : Nat} {a : Evaluated}
    (h : Scope.lookupFrom (f.row i) outer path = .ok a) : ∃ c?, f.find path = .ok c? := by
  obtain ⟨d?, hd⟩ := Scope.find_of_lookupFrom h
  rw [Frame.row, Frame.find_take, map_eq_ok] at hd
  exact hd.imp fun _ hc => hc.1

/-- In every row the expression has the value of a key column. -/
def IsKeyValue (now : Moment) (f : Frame) (outer : List Frame) (e : Expr Plan) : Prop :=
  ∃ c, f.IsKeyColumn c ∧
    ∀ i < f.numRows, e.evalColumn now ⟨f.row i, outer⟩ = .ok ⟨[c.cell i], c.type⟩

/-- The column of one row of a result. -/
theorem evalColumn_row_of_pick {e : Expr Plan} {a : Evaluated} {i : Nat}
    (h : e.eval now ⟨f.row i, outer⟩ = .ok (a.pick none [i])) :
    e.evalColumn now ⟨f.row i, outer⟩ = .ok ⟨[a.cell i], a.type⟩ :=
  bind_eq_ok.mpr ⟨_, h, Evaluated.toColumn_pick_one a i⟩

theorem agreesOn_of_isKeyValue (hf : f.Uniform) {e : Expr Plan}
    (he : e.Every (IsRowLocal f outer)) (hkey : IsKeyValue now f outer e) {a : Evaluated}
    (ha : e.eval now ⟨f, outer⟩ = .ok a) : AgreesOn f f.SameKeys a := by
  obtain ⟨c, hc, hvalue⟩ := hkey
  have hcell : ∀ i < f.numRows, a.cell i = c.cell i := by
    intro i hi
    have hrow := hvalue i hi
    rw [evalColumn_row_of_pick ((eval_pick hf he ha).2 [i] _ (Frame.picks_row hi))] at hrow
    simpa using congrArg Column.values (Except.ok.inj hrow)
  intro i j hi hj hsame
  rw [hcell i hi, hcell j hj]
  exact hsame c hc

/-- A key has the value of its column in every row. -/
theorem isKeyValue_field (hf : f.KeyGroups gs) (hown : f.OwnPaths) {path : List String}
    {c : ScopeColumn} (hkey : f.isKey outer path = .ok true) (hc : f.find path = .ok (some c)) :
    IsKeyValue now f outer (field path) :=
  ⟨c.column, Frame.isKeyColumn_of_isKey hf hown hkey hc, fun i _ =>
    bind_eq_ok.mpr ⟨_, lookupFrom_row hc i, rfl⟩⟩

/-- The expression a key was computed from has the value of the key column in every row. -/
theorem isKeyValue_of_computedFrom {input g : Frame} {selectors : List (Selector Plan)}
    (houter : ∀ o ∈ outer, o.Encloses) (hinput : input.Plain)
    (hkeyed : Grouping.Keyed now outer selectors input g) {paths : List String}
    {columns : List Column} (hframe : f = Grouping.grouped g paths columns)
    (hf : f.KeyGroups gs) (hown : f.OwnPaths) {name : String} {e : Expr Plan}
    (he : e.Every (·.isNameDecided))
    (hcomputed : Grouping.ComputedFrom selectors ⟨input, outer⟩ name e)
    (hkey : f.isKey outer [name] = .ok true) : IsKeyValue now f outer e := by
  subst hframe
  obtain ⟨hfree, s, hs, rfl⟩ := hcomputed
  obtain ⟨hmissing, hmissing'⟩ := Frame.tryResolve_eq_none_iff.mp hfree
  obtain ⟨c, hc⟩ : ∃ c, (Grouping.grouped g paths columns).find [name] = .ok (some c) := by
    obtain ⟨p?, hp, hcontains⟩ := bind_eq_ok.mp hkey
    cases hfind : (Grouping.grouped g paths columns).find [name] with
    | error x => simp [Scope.tryResolve, Scope.frames, Scope.tryResolveIn, hfind] at hp
    | ok c? =>
      cases c? with
      | some c => exact ⟨c, rfl⟩
      | none =>
        rw [Frame.tryResolve_eq_none_iff.mpr ⟨hfind, hmissing'⟩, Except.ok.injEq] at hp
        subst hp
        simp at hcontains
  obtain ⟨k, s', a, hk, hkg, hs', ha, hcolumn⟩ := hkeyed.exists_compute hmissing hc
  obtain rfl : s = s' := Option.some.inj (hs.symm.trans hs')
  have hgroups : k.groups = none := hk.extends.groups_eq.trans hinput.ungrouped
  have hungrouped' : a.isGrouped = false := by
    cases a with
    | grouped level d gs => simp [Evaluated.toColumn] at hcolumn
    | _ => rfl
  have hlocal : s.expr.Every (IsRowLocal k outer) :=
    (every_isSettled_of_eval houter he ha hungrouped').mono fun _ hd => hd.isRowLocal
  obtain ⟨hover, hpick⟩ := eval_pick (hk.extends.uniform hinput.uniform) hlocal ha
  rw [hgroups] at hover
  obtain ⟨c', hcolumn', -, htype, hcells⟩ := Evaluated.toColumn_of_over hover
  obtain rfl : c' = c.column := Except.ok.inj (hcolumn'.symm.trans hcolumn)
  refine ⟨c.column, Frame.isKeyColumn_of_isKey hf hown hkey hc, fun i hi => ?_⟩
  have hi' : i < k.numRows := hkg.numRows_eq ▸ hi
  rw [hcells i hi', htype]
  exact evalColumn_row_of_pick (eval_extends (hkg.row i) he (hpick [i] _ (Frame.picks_row hi')))

/-- A field that is a key, or is not found in the frame. -/
def ReadsKeys (outer : List Frame) (f : Frame) (e : Expr Plan) : Prop :=
  ∀ path, e = .field path → f.isKey outer path = .ok true ∨ f.find path = .ok none

theorem readsAlike_rows (hf : f.KeyGroups gs) (hown : f.OwnPaths) {i j : Nat}
    (hsame : f.SameKeys i j) {e : Expr Plan} (he : ReadsKeys outer f e) :
    ReadsAlike outer (f.row i) (f.row j) e := by
  intro path hpath a ha
  obtain ⟨c?, hc⟩ := find_of_lookupFrom_row ha
  cases c? with
  | none =>
    exact Scope.lookupFrom_of_not_found (Frame.find_row_eq_none_iff.mpr hc)
      (Frame.find_row_eq_none_iff.mpr hc) ha
  | some c =>
    have hkey : f.isKey outer path = .ok true := (he path hpath).resolve_right (by simp [hc])
    rw [lookupFrom_row hc] at ha ⊢
    rw [← hsame c.column (Frame.isKeyColumn_of_isKey hf hown hkey hc)]
    exact ha

/-- Rows with the same keys agree on what reads nothing but keys. -/
theorem agreesOn_of_readsKeys (hf : f.KeyGroups gs) (hown : f.OwnPaths) {e : Expr Plan}
    (he : e.Every (IsSettled f outer)) (hkeys : e.Every (ReadsKeys outer f)) {a : Evaluated}
    (ha : e.eval now ⟨f, outer⟩ = .ok a) : AgreesOn f f.SameKeys a := by
  intro i j hi hj hsame
  obtain ⟨-, hpick⟩ := eval_pick hf.uniform (he.mono fun _ hd => hd.isRowLocal) ha
  have hread : e.Every fun d => d.isNameDecided ∧ ReadsAlike outer (f.row i) (f.row j) d :=
    (he.and hkeys).mono fun d hd => ⟨hd.1.1, readsAlike_rows hf hown hsame hd.2⟩
  have hrow := eval_of_readsAlike hread (hpick [i] _ (Frame.picks_row hi))
  rw [hpick [j] _ (Frame.picks_row hj), Except.ok.injEq] at hrow
  exact (Evaluated.cell_eq_of_pick_eq hrow).symm

end Expr

end ColumnarSql
