import ColumnarSql.Proofs.GroupKeys
import ColumnarSql.Proofs.Marking
import ColumnarSql.Proofs.RowByRow

/-!
# Evaluation of marked expressions

A marked expression over a grouped frame reads its marked parts once per group, in the
first row, and a result that mixes groups and rows is an error. So a result without
ungrouped rows has one value for each group, and it is the value of the unmarked expression
in the first row, and in every other row of the group that agrees with it on the marked
parts (`onGroups_of_mark`).
-/

set_option autoImplicit false

namespace ColumnarSql

/-! ## Results without ungrouped rows -/

namespace Evaluated

def isGrouped : Evaluated → Bool
  | grouped .. => true
  | _ => false

end Evaluated

namespace Shape

variable {σ : Type}

def isGrouped : Shape → Bool
  | grouped .. => true
  | _ => false

theorem isGrouped_extend {e : Expr σ} {s s' : Shape} {a : Evaluated}
    (h : extend e s a = .ok s') (hs' : s'.isGrouped = false) :
    s.isGrouped = false ∧ a.isGrouped = false := by
  cases a with
  | constant v t =>
    obtain rfl : s = s' := by cases s <;> exact Except.ok.inj h
    exact ⟨hs', rfl⟩
  | column c =>
    cases s with
    | grouped level n gs => simp [extend] at h
    | _ => exact ⟨rfl, rfl⟩
  | grouped level c gs =>
    cases s with
    | constant =>
      obtain rfl := Except.ok.inj h
      simp [isGrouped] at hs'
    | rows n => simp [extend] at h
    | grouped level' n gs' =>
      simp only [extend, ite_error_eq_ok, Except.ok.injEq] at h
      obtain ⟨-, rfl⟩ := h
      simp [isGrouped] at hs'

theorem isGrouped_foldlM {e : Expr σ} :
    ∀ {args : List Evaluated} {s s' : Shape}, args.foldlM (extend e) s = .ok s' →
      s'.isGrouped = false → s.isGrouped = false ∧ ∀ a ∈ args, a.isGrouped = false
  | [], s, s', h, hs' => by
    obtain rfl := pure_eq_ok.mp h
    exact ⟨hs', by simp⟩
  | a :: args, s, s', h, hs' => by
    obtain ⟨t, ht, h⟩ := bind_eq_ok.mp h
    obtain ⟨hnext, hargs⟩ := isGrouped_foldlM h hs'
    obtain ⟨hs, ha⟩ := isGrouped_extend ht hnext
    exact ⟨hs, List.forall_mem_cons.mpr ⟨ha, hargs⟩⟩

end Shape

namespace Evaluated

/-- Ungrouped rows of an operand are ungrouped rows of the result. -/
theorem isGrouped_of_mapRows {σ : Type} {e : Expr σ} {t : ColumnType}
    {f : List Value → Except Error Value} {args : List Evaluated} {a : Evaluated}
    (h : mapRows e t f args = .ok a) (ha : a.isGrouped = false) :
    ∀ b ∈ args, b.isGrouped = false := by
  obtain ⟨shape, hshape, h⟩ := bind_eq_ok.mp h
  refine (Shape.isGrouped_foldlM hshape ?_).2
  cases shape with
  | constant => rfl
  | rows n => rfl
  | grouped level n gs =>
    obtain ⟨vs, -, h⟩ := bind_eq_ok.mp h
    obtain rfl := pure_eq_ok.mp h
    simp [isGrouped] at ha

/-- Picked rows that agree have agreeing cells. -/
theorem cell_eq_of_pick_eq {a b : Evaluated} {i j : Nat} (h : a.pick none [i] = b.pick none [j]) :
    a.cell i = b.cell j := by
  have hi := cell_pick none a (show 0 < [i].length by simp)
  have hj := cell_pick none b (show 0 < [j].length by simp)
  rw [h] at hi
  exact hi.symm.trans hj

end Evaluated

/-! ## Results on groups -/

namespace Frame

/-- A frame under groups of its rows, each with a first row. -/
structure UnderGroups (f : Frame) (gs : Partition) : Prop where
  groups_eq : f.groups = some gs
  uniform : f.Uniform
  in_range : ∀ g ∈ gs, ∀ i ∈ g, i < f.numRows
  nonempty : ∀ g ∈ gs, g ≠ []

/-- Whether a path names a grouping key of the frame. -/
abbrev isKey (outer : List Frame) (f : Frame) : List String → Except Error Bool :=
  Grouping.isKey ⟨f, outer⟩ f.groupPaths

end Frame

namespace Expr

variable {now : Moment} {f : Frame} {outer : List Frame} {gs : Partition}
variable {alike : Nat → Nat → Prop}

/-- A node whose value in a row is decided by names alone, without other rows, groups or
subqueries. -/
def isNameDecided (e : Expr Plan) : Bool := e.isRowWise && !e.isMark && !e.isSubquery

/-- The nodes that names decide. -/
inductive NameDecidedNode : Expr Plan → Prop where
  | operation {e : Expr Plan} (h : e.isOperation) : NameDecidedNode e
  | literal (l : Literal) : NameDecidedNode (.literal l)
  | field (path : List String) : NameDecidedNode (.field path)
  | selector (e : Expr Plan) (label : Option String) (position : Option Nat) :
      NameDecidedNode (.selector e label position)

theorem nameDecidedNode {e : Expr Plan} (h : e.isNameDecided) : NameDecidedNode e := by
  simp only [isNameDecided, Bool.and_eq_true] at h
  cases rowWiseNode h.1.1 with
  | operation hop => exact .operation hop
  | literal l => exact .literal l
  | field path => exact .field path
  | «exists» plan => simp [isSubquery] at h
  | selector e label position => exact .selector e label position
  | groupedBy e => simp [isMark] at h

theorem rowWiseIn_of_isNameDecided {e : Expr Plan} (h : e.isNameDecided) : e.rowWiseIn f := by
  simp only [isNameDecided, Bool.and_eq_true] at h
  simp [rowWiseIn, h]

/-- A node that names decide, with nothing but constants from outside. -/
abbrev IsSettled (f : Frame) (outer : List Frame) (e : Expr Plan) : Prop :=
  e.isNameDecided ∧ e.ReadsConstantsOutside f outer

theorem IsSettled.isRowLocal {e : Expr Plan} (h : IsSettled f outer e) : IsRowLocal f outer e :=
  ⟨rowWiseIn_of_isNameDecided h.1, h.2⟩

/-- An ungrouped result is read from constants of the enclosing frames only. -/
theorem every_isSettled_of_eval (houter : ∀ o ∈ outer, o.Encloses) {e : Expr Plan}
    (he : e.Every (·.isNameDecided)) :
    ∀ ⦃a : Evaluated⦄, e.eval now ⟨f, outer⟩ = .ok a → a.isGrouped = false →
      e.Every (IsSettled f outer) := by
  induction he with
  | @intro e self _ ih =>
    intro a ha hgrouped
    have hself : (∀ path, e ≠ .field path) → IsSettled f outer e :=
      fun hfield => ⟨self, fun path hpath => absurd hpath (hfield path)⟩
    cases nameDecidedNode self with
    | operation hop =>
      obtain ⟨args, hargs, k, -, hmap⟩ := (eval_operation_eq_ok hop).mp ha
      have hungrouped := Evaluated.isGrouped_of_mapRows hmap hgrouped
      refine .intro (hself ?_) fun c hc => ?_
      · rintro path rfl
        simp [isOperation] at hop
      · obtain ⟨b, hb, hbc⟩ := exists_eval_of_evalAll hargs hc
        exact ih c hc hbc (hungrouped b hb)
    | literal l => exact .leaf (hself (by simp)) rfl
    | field path =>
      refine .leaf ⟨self, fun path' hpath hnone b hb => ?_⟩ rfl
      obtain rfl := Expr.field.inj hpath
      obtain rfl : a = b := Except.ok.inj (ha.symm.trans hb)
      refine (Scope.constant_or_grouped_of_not_found houter hnone hb).resolve_right ?_
      rintro ⟨⟨level, c, gs, rfl⟩, -⟩
      simp [Evaluated.isGrouped] at hgrouped
    | selector e label position =>
      have hpart := ih e (by simp [children]) ha hgrouped
      exact .intro (hself (by simp)) (by simpa [children] using hpart)

/-- If the node is taken for a key, its parts give nothing but constants from outside. -/
def SettledIfMarked (f : Frame) (outer : List Frame) (e : Expr Plan) : Prop :=
  e.mark (f.isKey outer) = .ok (.groupedBy e) → e.Every (ReadsConstantsOutside f outer)

/-- Inside single rows every expression is settled. -/
theorem every_settledIfMarked (houter : ∀ o ∈ outer, o.SingleRow) {e : Expr Plan}
    (he : e.Every (·.isNameDecided)) :
    e.Every fun d => d.isNameDecided ∧ d.SettledIfMarked f outer :=
  he.of_every fun _ hd => ⟨hd.self, fun _ => hd.mono fun _ _ _ _ hc _ ha =>
    Scope.constant_of_not_found houter hc ha⟩

/-- One value for each group, the one `e` has in the rows that are like the first row. -/
def OnGroups (now : Moment) (f : Frame) (outer : List Frame) (gs : Partition)
    (alike : Nat → Nat → Prop) (e : Expr Plan) (a : Evaluated) : Prop :=
  a.Over gs.length none ∧ ∀ (j : Nat) (hj : j < gs.length), ∀ first ∈ gs[j].head?,
    ∀ i ∈ gs[j], alike i first → e.eval now ⟨f.row i, outer⟩ = .ok (a.pick none [j])

/-- Rows that are alike agree on the result. -/
def AgreesOn (f : Frame) (alike : Nat → Nat → Prop) (a : Evaluated) : Prop :=
  ∀ i j, i < f.numRows → j < f.numRows → alike i j → a.cell i = a.cell j

/-- If the node is taken for a key, rows that are alike agree on it. -/
def MarkAgrees (now : Moment) (f : Frame) (outer : List Frame) (alike : Nat → Nat → Prop)
    (e : Expr Plan) : Prop :=
  e.mark (f.isKey outer) = .ok (.groupedBy e) →
    ∀ a, e.eval now ⟨f, outer⟩ = .ok a → AgreesOn f alike a

theorem over_firstOfGroups {n : Nat} {a : Evaluated} (h : a.Over n (some gs)) :
    a.firstOfGroups.Over gs.length none := by
  cases h with
  | constant v t => exact .constant v t
  | rows c hc => exact .rows _ (by simp [Column.length])

/-- The first value of a group, as a row. -/
theorem pick_firstOfGroups {n : Nat} {a : Evaluated} (h : a.Over n (some gs)) {j i : Nat}
    (hj : j < gs.length) (hi : i ∈ gs[j].head?) :
    a.firstOfGroups.pick none [j] = a.pick none [i] := by
  cases h with
  | constant v t => rfl
  | rows c hc =>
    simp [Evaluated.ofColumn, Evaluated.firstOfGroups, Evaluated.pick, Column.take, Column.cell,
      hj, Option.mem_def.mp hi]

theorem pick_eq_of_cell_eq {n : Nat} {groups : Option Partition} {a : Evaluated}
    (h : a.Over n groups) {i j : Nat} (hcell : a.cell i = a.cell j) :
    a.pick none [i] = a.pick none [j] := by
  cases h with
  | constant v t => rfl
  | rows c hc =>
    simp only [Evaluated.cell_ofColumn] at hcell
    simp [Column.take, hcell]

/-- A part that is read once per group has the value of the first row in the rows that
agree on it. -/
theorem onGroups_groupedBy (hf : f.UnderGroups gs) {e : Expr Plan} {a : Evaluated}
    (he : e.Every (IsRowLocal f outer)) (ha : (groupedBy e).eval now ⟨f, outer⟩ = .ok a)
    (hagrees : ∀ b, e.eval now ⟨f, outer⟩ = .ok b → AgreesOn f alike b) :
    OnGroups now f outer gs alike e a := by
  obtain ⟨b, hb, ha⟩ := bind_eq_ok.mp ha
  obtain rfl := pure_eq_ok.mp ha
  obtain ⟨hover, hpick⟩ := eval_pick hf.uniform he hb
  rw [hf.groups_eq] at hover
  refine ⟨over_firstOfGroups hover, fun j hj first hfirst i hi halike => ?_⟩
  have hmem := List.getElem_mem hj
  have hin := hf.in_range _ hmem
  have hcell : b.cell i = b.cell first :=
    hagrees b hb i first (hin i hi) (hin first (List.mem_of_head? hfirst)) halike
  rw [pick_firstOfGroups hover hj hfirst, ← pick_eq_of_cell_eq hover hcell]
  exact hpick [i] (f.row i) (Frame.picks_row (hin i hi))

/-- A field that is no key and has no ungrouped rows is a constant. -/
theorem onGroups_field (hf : f.UnderGroups gs) (houter : ∀ o ∈ outer, o.Encloses)
    {path : List String} {a : Evaluated} (ha : Scope.lookupFrom f outer path = .ok a)
    (hgrouped : a.isGrouped = false) : OnGroups now f outer gs alike (field path) a := by
  obtain ⟨c?, hc⟩ := Scope.find_of_lookupFrom ha
  cases c? with
  | some c =>
    rw [Scope.lookupFrom_of_find outer hc, Frame.read_eq_ofColumn, hf.groups_eq,
      Except.ok.injEq] at ha
    subst ha
    simp [Evaluated.ofColumn, Evaluated.isGrouped] at hgrouped
  | none =>
    rcases Scope.constant_or_grouped_of_not_found houter hc ha with ⟨v, t, rfl⟩ |
      ⟨⟨level, c, gs, rfl⟩, -⟩
    · refine ⟨.constant v t, fun j hj first _ i _ _ => ?_⟩
      exact Scope.lookupFrom_of_not_found hc (Frame.find_row_eq_none_iff.mpr hc) ha
    · simp [Evaluated.isGrouped] at hgrouped

/-- Operands with values of groups, row by row. -/
theorem onGroups_all {es : List (Expr Plan)} {args : List Evaluated}
    (h : List.Forall₂ (OnGroups now f outer gs alike) es args) :
    (∀ a ∈ args, a.Over gs.length none) ∧ ∀ (j : Nat) (hj : j < gs.length),
      ∀ first ∈ gs[j].head?, ∀ i ∈ gs[j], alike i first →
        evalAll now es ⟨f.row i, outer⟩ = .ok (args.map (Evaluated.pick none [j])) := by
  simp only [evalAll_eq_ok_iff]
  induction h with
  | nil => exact ⟨by simp, fun _ _ _ _ _ _ _ => .nil⟩
  | cons ha _ ih =>
    exact ⟨List.forall_mem_cons.mpr ⟨ha.1, ih.1⟩, fun j hj first hfirst i hi halike =>
      .cons (ha.2 j hj first hfirst i hi halike) (ih.2 j hj first hfirst i hi halike)⟩

/-- An operation on values of groups gives values of groups. -/
theorem onGroups_operation {e e' : Expr Plan} (he : e.isOperation) (hop : SameOperation e e')
    {args : List Evaluated} (hargs : List.Forall₂ (OnGroups now f outer gs alike) e.children args)
    {k : Kernel} (hk : e'.kernel now (args.map Evaluated.type) = .ok k) {a : Evaluated}
    (ha : Evaluated.mapRows e' k.1 k.2 args = .ok a) : OnGroups now f outer gs alike e a := by
  obtain ⟨hovers, hrows⟩ := onGroups_all hargs
  obtain ⟨hover, hpick⟩ := Evaluated.mapRows_pick hovers ha
  refine ⟨hover, fun j hj first hfirst i hi halike => (eval_operation_eq_ok he).mpr ?_⟩
  refine ⟨_, hrows j hj first hfirst i hi halike, k, ?_, hpick e none [j] (by simpa using hj)⟩
  simpa [Function.comp_def] using (hop.2 now _ k).mp hk

/-- Marked parts without ungrouped rows. -/
theorem onGroups_of_marks {isKey : List String → Except Error Bool} {es es' : List (Expr Plan)}
    (hmarks : List.Forall₂ (Marks isKey) es es') {args : List Evaluated}
    (hargs : List.Forall₂ (fun e a => e.eval now ⟨f, outer⟩ = .ok a) es' args)
    (hungrouped : ∀ a ∈ args, a.isGrouped = false)
    (h : ∀ e ∈ es, ∀ ⦃e'⦄, Marks isKey e e' → ∀ ⦃a⦄, e'.eval now ⟨f, outer⟩ = .ok a →
      a.isGrouped = false → OnGroups now f outer gs alike e a) :
    List.Forall₂ (OnGroups now f outer gs alike) es args := by
  induction hmarks generalizing args with
  | nil =>
    cases hargs
    exact .nil
  | cons hmark _ ih =>
    cases hargs with
    | cons ha hargs =>
      rw [List.forall_mem_cons] at hungrouped
      exact .cons (h _ List.mem_cons_self hmark ha hungrouped.1)
        (ih hargs hungrouped.2 fun e he => h e (List.mem_cons_of_mem _ he))

/-- The result of a marked expression, if it has no ungrouped rows, is on the groups. -/
theorem onGroups_of_mark (hf : f.UnderGroups gs) (houter : ∀ o ∈ outer, o.Encloses)
    {e : Expr Plan} (he : e.Every fun d =>
      d.isNameDecided ∧ d.SettledIfMarked f outer ∧ MarkAgrees now f outer alike d) :
    ∀ ⦃e' : Expr Plan⦄, e.mark (f.isKey outer) = .ok e' →
      ∀ ⦃a : Evaluated⦄, e'.eval now ⟨f, outer⟩ = .ok a → a.isGrouped = false →
        OnGroups now f outer gs alike e a := by
  induction he with
  | @intro e self parts ih =>
    intro e' hmark a ha hgrouped
    have hlocal : e.mark (f.isKey outer) = .ok (.groupedBy e) → e.Every (IsRowLocal f outer) :=
      fun hmarked => ((Every.intro self parts).and (self.2.1 hmarked)).mono fun _ h =>
        IsSettled.isRowLocal ⟨h.1.1, h.2⟩
    obtain ⟨hdecided, -, hagrees⟩ := self
    cases nameDecidedNode hdecided with
    | operation hop =>
      obtain ⟨hsame, hparts⟩ := mark_operation hop hmark
      obtain ⟨args, hargs, k, hk, hmap⟩ := (eval_operation_eq_ok hsame.1).mp ha
      have hvalues : List.Forall₂ (OnGroups now f outer gs alike) e.children args :=
        onGroups_of_marks hparts ((evalAll_eq_ok_iff _ _).mp hargs)
          (Evaluated.isGrouped_of_mapRows hmap hgrouped) ih
      exact onGroups_operation hop hsame hvalues hk hmap
    | literal l =>
      obtain rfl := Except.ok.inj hmark
      obtain rfl := Except.ok.inj ha
      exact ⟨.constant _ _, fun _ _ _ _ _ _ _ => rfl⟩
    | field path =>
      obtain ⟨key, -, hmarked⟩ := bind_eq_ok.mp hmark
      cases key with
      | true =>
        obtain rfl := pure_eq_ok.mp hmarked
        exact onGroups_groupedBy hf (hlocal hmark) ha (hagrees hmark)
      | false =>
        obtain rfl := pure_eq_ok.mp hmarked
        exact onGroups_field hf houter ha hgrouped
    | selector e label position =>
      have hmarked := hmark
      simp only [mark, bind_eq_ok] at hmarked
      obtain ⟨name, -, key, -, hmarked⟩ := hmarked
      cases key with
      | true =>
        obtain rfl := pure_eq_ok.mp hmarked
        exact onGroups_groupedBy hf (hlocal hmark) ha (hagrees hmark)
      | false =>
        obtain ⟨c, hc, hmarked⟩ := bind_eq_ok.mp hmarked
        obtain rfl := pure_eq_ok.mp hmarked
        exact ih e (by simp [children]) hc ha hgrouped

end Expr

end ColumnarSql
