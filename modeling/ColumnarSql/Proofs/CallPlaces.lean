import ColumnarSql.Proofs.AlikeResults
import ColumnarSql.Proofs.Marking
import ColumnarSql.Proofs.RowByRow
import ColumnarSql.Proofs.SameSchema

/-!
# Calls in their places

How many values a result has is checked against the rows at hand. A call over a window has a value
for each row and a reducing call one for each group, so a call in a place that counts the other
passes the check for some tables and not for others. `Expr.Fits` says that every call stands in
its place. Such an expression carries over from one scope to every typed scope of the same schema
(`carriesOver`): it is not refused there, and its results are alike.
-/

set_option autoImplicit false

namespace ColumnarSql

/-! ## Places -/

/-- Where an expression is evaluated: on rows before any grouping, on groups, which may be those of
keys, or on the rows of a result, one for each group. -/
inductive Place where
  | rows
  | groups (keyed : Bool)
  | result (keyed : Bool)

namespace Place

/-- Whether a call over a window has as many values as the place. -/
def hasWindows : Place → Bool
  | groups _ => false
  | rows | result _ => true

/-- Whether the groups are those of keys, if there are groups. -/
def keyed? : Place → Option Bool
  | rows => none
  | groups keyed | result keyed => some keyed

end Place

namespace Expr

variable {σ : Type}

/-- A node that gives ungrouped rows or a constant on groups. Without keys there is one group, and
its one value may be reduced again. -/
structure ReadsRows (keyed : Bool) (e : Expr σ) : Prop where
  noWindow : e.isWindowCall = false
  ungrouped : keyed → e.isReducingCall = false ∧ e.isMark = false

/-- Calls over windows stand on rows, and reducing calls on groups, whose rows they read. -/
structure FitsNode (p : Place) (e : Expr σ) : Prop where
  window : e.isWindowCall → p.hasWindows
  reducing : e.isReducingCall →
    ∃ keyed, p.keyed? = some keyed ∧ ∀ c ∈ e.children, c.Every (ReadsRows keyed)

/-- Every call stands in its place. -/
abbrev Fits (p : Place) (e : Expr σ) : Prop := e.Every (FitsNode p)

/-- The argument of a reducing call stands on the groups. -/
theorem Fits.argument {p : Place} {keyed : Bool} (hp : p.keyed? = some keyed) {e : Expr σ}
    (h : e.Fits p) (hreads : e.Every (ReadsRows keyed)) : e.Fits (.groups keyed) := by
  refine (h.and hreads).mono fun d hd => ⟨fun hwindow => ?_, fun hreducing => ?_⟩
  · rw [hd.2.noWindow] at hwindow
    cases hwindow
  · obtain ⟨keyed', hkeyed', hargs⟩ := hd.1.reducing hreducing
    rw [hp] at hkeyed'
    exact ⟨keyed', hkeyed'.symm ▸ rfl, hargs⟩

end Expr

/-! ## Scopes of a place -/

/-- Groups of columns of one length, and one group if there are no keys. -/
structure Frame.Grouped (keyed : Bool) (f : Frame) (gs : Partition) : Prop where
  uniform : f.Uniform
  groups : f.groups = some gs
  one : keyed = false → gs.length = 1

namespace Scope

/-- The scopes of a place, without enclosing queries. -/
inductive Serves : Place → Scope → Prop where
  | rows {f : Frame} (plain : f.Plain) : Serves .rows ⟨f, []⟩
  | groups {keyed : Bool} {f : Frame} {gs : Partition} (grouped : f.Grouped keyed gs) :
      Serves (.groups keyed) ⟨f, []⟩
  | result {keyed : Bool} {f r : Frame} {gs : Partition} (grouped : f.Grouped keyed gs)
      (plain : r.Plain) (inherits : r.inheritsGroups = true) (length : gs.length = r.numRows) :
      Serves (.result keyed) ⟨r, [f]⟩

end Scope

theorem Frame.Plain.outputLength_eq {f : Frame} (h : f.Plain) : f.outputLength = f.numRows := by
  simp [outputLength, h.ungrouped]

theorem Frame.Grouped.outputLength_eq {f : Frame} {keyed : Bool} {gs : Partition}
    (h : f.Grouped keyed gs) : f.outputLength = gs.length := by
  simp [outputLength, h.groups]

/-- Columns of one type are read alike in frames that are both grouped or both not. -/
theorem Frame.SameSchema.read {f g : Frame} (h : f.SameSchema g) (hg : g.Uniform) {c : Column}
    {d : ScopeColumn} (hd : d ∈ g.columns) (htype : c.type = d.column.type) :
    (f.read c).Alike g.outputLength (g.read d.column) := by
  have hgrouped := h.grouped
  unfold Frame.read outputLength
  cases hf : f.groups <;> cases hgs : g.groups <;> simp only [hf, hgs] at hgrouped
  · exact .column htype (hg d hd)
  · cases hgrouped
  · cases hgrouped
  · exact .grouped htype rfl

namespace Scope

variable {p : Place} {s t : Scope}

theorem SameSchema.lookup_here {f g : Frame} {fs gs : List Frame} (h : f.SameSchema g)
    (hg : g.Uniform) {path : List String} {a : Evaluated} {c : ScopeColumn}
    (hc : f.find path = .ok (some c)) (ha : lookupFrom f fs path = .ok a) :
    ∃ b, lookupFrom g gs path = .ok b ∧ a.Alike g.outputLength b := by
  obtain ⟨d, hd, -, htype⟩ := h.find_some hc
  rw [lookupFrom_of_find fs hc, Except.ok.injEq] at ha
  subst ha
  exact ⟨_, lookupFrom_of_find gs hd, h.read hg (Frame.mem_of_find hd).1 htype.symm⟩

/-- A name that is read in one scope is read in the other, with a result alike. -/
theorem Serves.exists_lookup (ht : t.Serves p) (h : s.SameSchema t) {path : List String}
    {a : Evaluated} (ha : s.lookup path = .ok a) :
    ∃ b, t.lookup path = .ok b ∧ a.Alike t.frame.outputLength b := by
  obtain ⟨f, fs⟩ := s
  obtain ⟨hframe, houter⟩ := h
  obtain ⟨c?, hc⟩ := find_of_lookupFrom ha
  cases ht with
  | rows plain =>
    obtain rfl := List.forall₂_nil_right_iff.mp houter
    cases c? with
    | some c => exact SameSchema.lookup_here hframe plain.uniform hc ha
    | none => simp [lookup, lookupFrom, hc] at ha
  | groups grouped =>
    obtain rfl := List.forall₂_nil_right_iff.mp houter
    cases c? with
    | some c => exact SameSchema.lookup_here hframe grouped.uniform hc ha
    | none => simp [lookup, lookupFrom, hc] at ha
  | @result keyed g r gs grouped plain inherits length =>
    cases c? with
    | some c => exact SameSchema.lookup_here hframe plain.uniform hc ha
    | none =>
      obtain ⟨f', fs, hgroups, hnil, rfl⟩ := List.forall₂_cons_right_iff.mp houter
      obtain rfl := List.forall₂_nil_right_iff.mp hnil
      obtain ⟨b, hb, rfl⟩ := (lookupFrom_cons_of_not_found hc).mp ha
      obtain ⟨c', hc'⟩ := find_of_lookupFrom hb
      cases c' with
      | none => simp [lookupFrom, hc'] at hb
      | some c =>
        obtain ⟨d, hd, -, htype⟩ := hgroups.find_some hc'
        obtain ⟨gs', hgs'⟩ := Option.isSome_iff_exists.mp
          (hgroups.grouped.trans (Option.isSome_iff_exists.mpr ⟨gs, grouped.groups⟩))
        rw [lookupFrom_of_find [] hc', Except.ok.injEq] at hb
        have hread : (f'.read c.column).inward = .grouped 1 c.column gs' := by
          simp [Frame.read, hgs', Evaluated.inward]
        have hread' : (g.read d.column).inward = .grouped 1 d.column gs := by
          simp [Frame.read, grouped.groups, Evaluated.inward]
        rw [← hb, hread]
        refine ⟨.grouped 1 d.column gs, (lookupFrom_cons_of_not_found (hframe.find_none hc)).mpr
          ⟨_, lookupFrom_of_find [] hd, hread'⟩, ?_⟩
        exact .grouped htype.symm (length.trans plain.outputLength_eq.symm)

/-- Reducing calls are evaluated on the groups. -/
theorem Serves.reducing {keyed : Bool} (ht : t.Serves p) (hp : p.keyed? = some keyed) :
    t.reducing.Serves (.groups keyed) ∧
      t.reducing.frame.outputLength = t.frame.outputLength := by
  cases ht with
  | rows plain => cases hp
  | groups grouped =>
    obtain rfl := Option.some.inj hp
    exact ⟨.groups grouped, rfl⟩
  | result grouped plain inherits length =>
    obtain rfl := Option.some.inj hp
    simp only [Scope.reducing, reducingFrom, plain.ungrouped, inherits, Option.isNone_none,
      Bool.and_self, if_true]
    exact ⟨.groups grouped, by rw [grouped.outputLength_eq, plain.outputLength_eq, length]⟩

theorem Serves.numRows_eq (ht : t.Serves p) (hp : p.hasWindows) :
    t.frame.outputLength = t.frame.numRows := by
  cases ht with
  | rows plain | result _ plain => exact plain.outputLength_eq
  | groups grouped => cases hp

end Scope

/-! ## Expressions -/

/-- There are as many groups of values as groups. -/
theorem Evaluated.length_groupsOf {f : Frame} {keyed : Bool} {gs : Partition}
    (hf : f.Grouped keyed gs) {a b : Evaluated} (hab : a.Alike gs.length b)
    (hungrouped : keyed → ∀ c, b ≠ .column c) : (b.groupsOf f).length = gs.length := by
  cases hab with
  | constant => simp [groupsOf, hf.groups]
  | @column _ d =>
    cases keyed with
    | false => simp [groupsOf, hf.one rfl]
    | true => exact absurd rfl (hungrouped rfl d)
  | grouped _ length => simpa [groupsOf] using length

namespace Expr

variable {now : Moment} {p : Place} {s t : Scope}

/-- What reads rows of groups of keys is no column of the groups. -/
theorem ne_column_of_readsRows {f : Frame} {gs : Partition} (hf : f.Grouped true gs)
    {e : Expr Plan} (he : e.Every (ReadsRows true)) {b : Evaluated}
    (hb : e.eval now ⟨f, []⟩ = .ok b) (c : Column) : b ≠ .column c := by
  have hlocal : e.Every (IsRowLocal f []) := by
    refine every_isRowLocal (by simp) (he.mono fun d hd => ?_)
    obtain ⟨hreducing, hmark⟩ := hd.ungrouped rfl
    simp [rowWiseIn, isRowWise, hd.noWindow, hreducing, hmark]
  obtain ⟨hover, -⟩ := eval_pick hf.uniform hlocal hb
  rw [hf.groups] at hover
  rintro rfl
  cases hover

/-- A reducing call on the groups carries over when its argument does. -/
theorem carriesOver_reducing {f : SqlFunction} (hf : f.isAggregating) {e : Expr Plan}
    {keyed : Bool} (ht : t.Serves p) (hp : p.keyed? = some keyed)
    (hreads : e.Every (ReadsRows keyed)) (he : e.CarriesOver now s.reducing t.reducing) :
    (call f [e]).CarriesOver now s t := by
  intro a ha
  simp only [eval, hf, if_true, bind_eq_ok] at ha ⊢
  obtain ⟨u, hoptions, b, hb, ha⟩ := ha
  obtain ⟨type, htype, ha⟩ := bind_eq_ok.mp ha
  obtain ⟨vs, -, ha⟩ := bind_eq_ok.mp ha
  obtain rfl := pure_eq_ok.mp ha
  obtain ⟨hserves, hlength⟩ := ht.reducing hp
  rw [hoptions]
  refine (he hb).bind fun b' hb' hbb => ?_
  generalize hr : t.reducing = r at *
  cases hserves with
  | @groups _ g gs grouped =>
    rw [hbb.type_eq] at htype
    refine (Evaluated.accepted_reduce hf htype).mono fun d hd => ?_
    obtain ⟨c, rfl, hc, hclength⟩ := hd
    rw [grouped.outputLength_eq] at hbb hlength
    refine .column hc.symm (hclength.trans (Eq.trans ?_ hlength))
    refine Evaluated.length_groupsOf grouped hbb fun hkeyed => ?_
    subst hkeyed
    exact ne_column_of_readsRows grouped hreads hb'

/-- No subquery, no constant outside its type, and no call without the arguments that it is built
with. -/
structure IsRegular {σ : Type} (e : Expr σ) : Prop where
  noSubquery : e.isSubquery = false
  constant : e.constantConforms
  built : e.IsBuilt

/-- An expression whose calls stand in their places carries over between scopes of one schema. -/
theorem carriesOver {e : Expr Plan} (he : e.Every IsRegular) :
    ∀ {p : Place} {s t : Scope}, e.Fits p → s.SameSchema t → t.Serves p → t.Typed →
      e.CarriesOver now s t := by
  -- The argument of a reducing call stands on the groups, so place and scopes stay general.
  induction he with
  | @intro e self parts ih =>
    intro p s t hfits hs ht htyped
    have hconstants : ∀ c ∈ e.children, c.ConstantsConform :=
      fun c hc => (parts c hc).mono fun _ h => h.constant
    have hparts : ∀ c ∈ e.children, c.CarriesOver now s t :=
      fun c hc => ih c hc (hfits.part hc) hs ht htyped
    by_cases hop : e.isOperation
    · exact carriesOver_operation hop self.built hconstants htyped hparts
    · intro a ha
      cases e with
      | literal l =>
        obtain rfl := Except.ok.inj ha
        exact .constant
      | field path =>
        obtain ⟨b, hb, hab⟩ := ht.exists_lookup hs ha
        change Accepted _ (t.lookup path)
        rw [hb]
        exact hab
      | «exists» plan => cases self.noSubquery
      | selector e label position => exact hparts e (by simp [children]) ha
      | groupedBy e =>
        obtain ⟨b, hb, ha⟩ := bind_eq_ok.mp ha
        obtain rfl := pure_eq_ok.mp ha
        exact (hparts e (by simp [children]) hb).bind fun b' _ hbb => hbb.firstOfGroups
      | call f args =>
        have hf : f.isAggregating = true := by simpa [isOperation] using hop
        obtain ⟨c, rfl⟩ := SqlFunction.Takes.one self.built hf
        have hc : c ∈ (call f [c]).children := by simp [children]
        obtain ⟨keyed, hp, hreads⟩ := hfits.self.reducing hf
        obtain ⟨hserves, -⟩ := ht.reducing hp
        have hargument := Fits.argument hp (hfits.part hc) (hreads c hc)
        have hcarries := ih c hc hargument hs.reducing hserves htyped.reducing
        exact carriesOver_reducing hf ht hp (hreads c hc) hcarries ha
      | analytic f args ps os =>
        have hargs : ∀ c ∈ args, c.ConstantsConform :=
          fun c hc => hconstants c (by simp [children, hc])
        exact carriesOver_analytic self.built hargs htyped (ht.numRows_eq (hfits.self.window rfl))
          hparts ha
      | _ => exact absurd rfl hop

/-! ## Marks -/

/-- Calls of a marked expression stand in their places. -/
theorem fits_mark {σ : Type} {p : Place} {isKey : List String → Except Error Bool} {e e' : Expr σ}
    (he : e.Fits p) (h : e.mark isKey = .ok e') : e'.Fits p := by
  refine every_of_mark (fun d d' hd hfits => ?_) (fun d => ?_) he h
  · obtain ⟨hwindow, hreducing⟩ := calls_of_mark hd
    exact ⟨fun hw => hfits.window (hwindow hw), fun hr => by
      obtain rfl := hreducing hr
      exact hfits.reducing hr⟩
  · exact ⟨by simp [isWindowCall], by simp [isReducingCall]⟩

theorem regular_mark {σ : Type} {isKey : List String → Except Error Bool} {e e' : Expr σ}
    (he : e.Every IsRegular) (h : e.mark isKey = .ok e') : e'.Every IsRegular := by
  refine every_of_mark (fun d d' hd hregular => ?_) (fun d => ⟨rfl, rfl, trivial⟩) he h
  have hbuilt := isBuilt_mark hd hregular.built
  rcases mark_cases hd with rfl | rfl | ⟨hnode, -⟩
  · exact hregular
  · exact ⟨rfl, rfl, hbuilt⟩
  · cases d' <;> simp_all [isUnmarkable] <;> exact ⟨rfl, rfl, hbuilt⟩

end Expr

end ColumnarSql
