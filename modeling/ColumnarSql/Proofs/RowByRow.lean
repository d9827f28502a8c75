import ColumnarSql.Proofs.Kernel
import ColumnarSql.Proofs.Parts
import ColumnarSql.Proofs.PickedFrames

/-!
# Evaluation row by row

An expression that needs no other row gives, in a frame of picked rows, the picked rows
of what it gives in the whole frame (`eval_pick`), and it succeeds in the whole frame
when it succeeds in picked frames that cover all rows (`exists_eval_of_picks`). Frames of
one row are the special case: a column computed at once is the column computed row by
row (`evalColumn_row_by_row`).
-/

set_option autoImplicit false

namespace ColumnarSql

namespace Plan

/-- Whether the plan gives rows inside one row. -/
def holdsIn (plan : Plan) (outer : List Frame) (row : Frame) : Except Error Value := do
  let t ← plan (row :: outer)
  return .boolean (0 < t.numRows)

theorem existsRows_eq_ok {plan : Plan} {s : Scope} {a : Evaluated} :
    plan.existsRows s = .ok a ↔
      ∃ vs : List Value, (vs.length = s.frame.numRows ∧
        ∀ i (h : i < vs.length), plan.holdsIn s.outer (s.frame.row i) = .ok vs[i]) ∧
        s.frame.read ⟨vs, some .boolean⟩ = a := by
  rw [show plan.existsRows s = (do
    let vs ← (List.range s.frame.numRows).mapM fun i => plan.holdsIn s.outer (s.frame.row i)
    return s.frame.read ⟨vs, some .boolean⟩) from rfl]
  simp only [bind_eq_ok, pure_eq_ok, mapM_range_eq_ok_iff]

end Plan

namespace Expr

variable {now : Moment} {f : Frame} {outer : List Frame}

/-- A node whose value in a row of the frame needs no other row. -/
def rowWiseIn (f : Frame) (e : Expr Plan) : Bool :=
  e.isRowWise && (f.groups.isNone || !e.isMark)

/-- The nodes that need no other row. -/
inductive RowWiseNode : Expr Plan → Prop where
  | operation {e : Expr Plan} (h : e.isOperation) : RowWiseNode e
  | literal (l : Literal) : RowWiseNode (.literal l)
  | field (path : List String) : RowWiseNode (.field path)
  | «exists» (plan : Plan) : RowWiseNode (.exists plan)
  | selector (e : Expr Plan) (label : Option String) (position : Option Nat) :
      RowWiseNode (.selector e label position)
  | groupedBy (e : Expr Plan) : RowWiseNode (.groupedBy e)

theorem rowWiseNode {e : Expr Plan} (h : e.isRowWise) : RowWiseNode e := by
  by_cases hop : e.isOperation
  · exact .operation hop
  · cases e with
    | literal l => exact .literal l
    | field path => exact .field path
    | «exists» plan => exact .exists plan
    | selector e label position => exact .selector e label position
    | groupedBy e => exact .groupedBy e
    | call g args => simp_all [isRowWise, isReducingCall, isOperation]
    | analytic g args ps os => simp [isRowWise, isWindowCall] at h
    | _ => exact absurd rfl hop

theorem isRowWise_of_rowWiseIn {e : Expr Plan} (h : e.rowWiseIn f) : e.isRowWise := by
  simp only [rowWiseIn, Bool.and_eq_true] at h
  exact h.1

/-- A field that is a constant if it is not found in the frame, as it is inside single rows. -/
def ReadsConstantsOutside (f : Frame) (outer : List Frame) (e : Expr Plan) : Prop :=
  ∀ path, e = .field path → f.find path = .ok none →
    ∀ a, Scope.lookupFrom f outer path = .ok a → ∃ v t, a = .constant v t

/-- A node whose value in a row needs no other row, of the frame or of the enclosing ones. -/
def IsRowLocal (f : Frame) (outer : List Frame) (e : Expr Plan) : Prop :=
  e.rowWiseIn f ∧ e.ReadsConstantsOutside f outer

theorem every_isRowLocal (houter : ∀ g ∈ outer, g.SingleRow) {e : Expr Plan}
    (he : e.Every (rowWiseIn f ·)) : e.Every (IsRowLocal f outer) :=
  he.mono fun _ h => ⟨h, fun _ _ hc _ ha => Scope.constant_of_not_found houter hc ha⟩

/-- The result of `e` in the frame is over its rows, and a frame of picked rows gives
the picked rows of it. -/
def PicksRows (now : Moment) (f : Frame) (outer : List Frame) (e : Expr Plan) : Prop :=
  ∀ ⦃a : Evaluated⦄, e.eval now ⟨f, outer⟩ = .ok a →
    a.Over f.numRows f.groups ∧ ∀ (rows : List Nat) (g : Frame), f.Picks rows g →
      e.eval now ⟨g, outer⟩ = .ok (a.pick g.groups rows)

theorem picksRows_literal (l : Literal) : PicksRows now f outer (literal l) := by
  intro a ha
  simp only [eval, Except.ok.injEq] at ha
  subst ha
  exact ⟨.constant _ _, fun rows g _ => rfl⟩

theorem picksRows_field (hf : f.Uniform) {path : List String}
    (hpath : (field path).ReadsConstantsOutside f outer) :
    PicksRows now f outer (field path) := by
  intro a ha
  obtain ⟨c?, hc⟩ := Scope.find_of_lookupFrom ha
  cases c? with
  | some c =>
    have hread : f.read c.column = a := by
      simpa [eval, Scope.lookup, Scope.lookupFrom_of_find outer hc] using ha
    subst hread
    refine ⟨.rows _ (hf c (Frame.mem_of_find hc).1), fun rows g hg => ?_⟩
    have hfound : g.find path = .ok (some { c with column := c.column.take rows }) := by
      rw [hg.find_eq, hc]
      rfl
    simp [eval, Scope.lookup, Scope.lookupFrom_of_find outer hfound, Frame.read_eq_ofColumn]
  | none =>
    obtain ⟨v, t, rfl⟩ := hpath path rfl hc a ha
    refine ⟨.constant v t, fun rows g hg => ?_⟩
    have hmissing : g.find path = .ok none := by
      rw [hg.find_eq, hc]
      rfl
    exact Scope.lookupFrom_of_not_found hc hmissing ha

theorem picksRows_exists (plan : Plan) : PicksRows now f outer (.exists plan) := by
  intro a ha
  obtain ⟨vs, ⟨hlen, hvs⟩, rfl⟩ := Plan.existsRows_eq_ok.mp ha
  refine ⟨.rows _ hlen, fun rows g hg => Plan.existsRows_eq_ok.mpr ?_⟩
  refine ⟨rows.map (Column.mk vs (some .boolean)).cell, ⟨?_, fun k hk => ?_⟩, ?_⟩
  · simp [hg.numRows_eq]
  · have hk' : k < rows.length := by simpa using hk
    have hi : rows[k] < vs.length := hlen ▸ hg.in_range _ (List.getElem_mem hk')
    rw [hg.row_eq hk', hvs _ hi]
    simp [Column.cell, hi]
  · simp [Frame.read_eq_ofColumn, Column.take]

theorem picksRows_all {es : List (Expr Plan)} {args : List Evaluated}
    (hes : ∀ e ∈ es, PicksRows now f outer e) (h : evalAll now es ⟨f, outer⟩ = .ok args) :
    (∀ a ∈ args, a.Over f.numRows f.groups) ∧ ∀ (rows : List Nat) (g : Frame),
      f.Picks rows g →
        evalAll now es ⟨g, outer⟩ = .ok (args.map (Evaluated.pick g.groups rows)) := by
  simp only [evalAll_eq_ok_iff] at h ⊢
  induction h with
  | nil => exact ⟨by simp, fun _ _ _ => .nil⟩
  | cons ha _ ih =>
    obtain ⟨hover, hpick⟩ := hes _ List.mem_cons_self ha
    obtain ⟨hovers, hpicks⟩ := ih fun e he => hes e (List.mem_cons_of_mem _ he)
    exact ⟨List.forall_mem_cons.mpr ⟨hover, hovers⟩,
      fun rows g hg => .cons (hpick rows g hg) (hpicks rows g hg)⟩

theorem picksRows_operation {e : Expr Plan} (he : e.isOperation)
    (h : ∀ c ∈ e.children, PicksRows now f outer c) : PicksRows now f outer e := by
  intro a ha
  obtain ⟨args, hargs, k, hk, hmap⟩ := (eval_operation_eq_ok he).mp ha
  obtain ⟨hovers, hpicks⟩ := picksRows_all h hargs
  obtain ⟨hover, hmaps⟩ := Evaluated.mapRows_pick hovers hmap
  refine ⟨hover, fun rows g hg => (eval_operation_eq_ok he).mpr ?_⟩
  refine ⟨_, hpicks rows g hg, k, ?_, hmaps e g.groups rows hg.in_range⟩
  simpa [Function.comp_def] using hk

theorem firstOfGroups_of_over {n : Nat} {a : Evaluated} (h : a.Over n none) :
    a.firstOfGroups = a := by
  cases h <;> rfl

theorem picksRows_groupedBy {e : Expr Plan} (hf : f.groups = none)
    (h : PicksRows now f outer e) : PicksRows now f outer (groupedBy e) := by
  intro a ha
  simp only [eval, bind_eq_ok, pure_eq_ok] at ha ⊢
  obtain ⟨b, hb, rfl⟩ := ha
  obtain ⟨hover, hpick⟩ := h hb
  rw [firstOfGroups_of_over (hf ▸ hover)]
  refine ⟨hover, fun rows g hg => ⟨_, hpick rows g hg, ?_⟩⟩
  rw [hg.ungrouped hf]
  exact firstOfGroups_of_over (Evaluated.over_pick none rows b)

/-- An expression that needs no other row gives the picked rows in a picked frame. -/
theorem eval_pick (hf : f.Uniform) {e : Expr Plan} (he : e.Every (IsRowLocal f outer)) :
    PicksRows now f outer e := by
  induction he with
  | @intro e self _ ih =>
    obtain ⟨self, houtside⟩ := self
    cases rowWiseNode (isRowWise_of_rowWiseIn self) with
    | operation hop => exact picksRows_operation hop ih
    | literal l => exact picksRows_literal l
    | field path => exact picksRows_field hf houtside
    | «exists» plan => exact picksRows_exists plan
    | selector e label position => exact ih e (by simp [children])
    | groupedBy e =>
      have hgroups : f.groups = none := by
        simpa [rowWiseIn, isRowWise, isMark, isReducingCall, isWindowCall] using self
      exact picksRows_groupedBy hgroups (ih e (by simp [children]))

/-! ## From the parts to the whole -/

/-- Success in all of the parts is success in the whole frame. -/
def Gathers (now : Moment) (f : Frame) (outer : List Frame) (parts : List (List Nat × Frame))
    (e : Expr Plan) : Prop :=
  (∀ p ∈ parts, ∃ a, e.eval now ⟨p.2, outer⟩ = .ok a) → ∃ a, e.eval now ⟨f, outer⟩ = .ok a

variable {parts : List (List Nat × Frame)}

theorem gathers_field (hparts : f.CoveredBy parts) (path : List String) :
    Gathers now f outer parts (field path) := by
  intro hok
  obtain ⟨p, hp⟩ := List.exists_mem_of_ne_nil parts hparts.nonempty
  obtain ⟨a, ha⟩ := hok p hp
  have hfind := (hparts.picks p hp).find_eq path
  obtain ⟨c?, hc⟩ := Scope.find_of_lookupFrom ha
  rw [hc, eq_comm, map_eq_ok] at hfind
  obtain ⟨d?, hd, rfl⟩ := hfind
  cases d? with
  | some d => exact ⟨_, Scope.lookupFrom_of_find outer hd⟩
  | none => exact ⟨a, Scope.lookupFrom_of_not_found hc hd ha⟩

theorem gathers_exists (hparts : f.CoveredBy parts) (plan : Plan) :
    Gathers now f outer parts (.exists plan) := by
  intro hok
  have hrows : ∀ i < f.numRows, ∃ v, plan.holdsIn outer (f.row i) = .ok v := by
    intro i hi
    obtain ⟨p, hp, hmem⟩ := hparts.covers i hi
    obtain ⟨k, hk, rfl⟩ := List.getElem_of_mem hmem
    obtain ⟨a, ha⟩ := hok p hp
    obtain ⟨vs, ⟨hlen, hvs⟩, -⟩ := Plan.existsRows_eq_ok.mp ha
    rw [← (hparts.picks p hp).row_eq hk]
    have hk' : k < vs.length := by simpa [hlen, (hparts.picks p hp).numRows_eq] using hk
    exact ⟨_, hvs k hk'⟩
  obtain ⟨vs, hvs⟩ := exists_mapM_eq_ok _ fun i hi => hrows i (List.mem_range.mp hi)
  exact ⟨_, Plan.existsRows_eq_ok.mpr ⟨vs, mapM_range_eq_ok_iff.mp hvs, rfl⟩⟩

theorem gathers_operation {e : Expr Plan} (he : e.isOperation) (hparts : f.CoveredBy parts)
    (hpick : ∀ c ∈ e.children, PicksRows now f outer c)
    (h : ∀ c ∈ e.children, Gathers now f outer parts c) : Gathers now f outer parts e := by
  intro hok
  have hchildren : ∀ c ∈ e.children, ∃ a, c.eval now ⟨f, outer⟩ = .ok a := by
    intro c hc
    refine h c hc fun p hp => ?_
    obtain ⟨a, ha⟩ := hok p hp
    obtain ⟨args, hargs, -⟩ := (eval_operation_eq_ok he).mp ha
    obtain ⟨b, -, hb⟩ := exists_eval_of_evalAll hargs hc
    exact ⟨b, hb⟩
  obtain ⟨args, hargs⟩ := exists_mapM_eq_ok e.children hchildren
  rw [mapM_eq_ok_iff, ← evalAll_eq_ok_iff] at hargs
  obtain ⟨hovers, hpicks⟩ := picksRows_all hpick hargs
  have hmaps : ∀ p ∈ parts, ∃ k, e.kernel now (args.map Evaluated.type) = .ok k ∧
      ∃ b, Evaluated.mapRows e k.1 k.2 (args.map (Evaluated.pick p.2.groups p.1)) = .ok b := by
    intro p hp
    obtain ⟨b, hb⟩ := hok p hp
    obtain ⟨args', hargs', k, hk, hb⟩ := (eval_operation_eq_ok he).mp hb
    rw [hpicks p.1 p.2 (hparts.picks p hp), Except.ok.injEq] at hargs'
    subst hargs'
    exact ⟨k, by simpa [Function.comp_def] using hk, b, hb⟩
  obtain ⟨p, hp⟩ := List.exists_mem_of_ne_nil parts hparts.nonempty
  obtain ⟨k, hk, -⟩ := hmaps p hp
  have hpart : ∀ rows ∈ parts.map (·.1), ∃ (groups : Option Partition) (e' : Expr Plan)
      (b : Evaluated),
      Evaluated.mapRows e' k.1 k.2 (args.map (Evaluated.pick groups rows)) = .ok b := by
    intro rows hrows
    obtain ⟨q, hq, rfl⟩ := List.mem_map.mp hrows
    obtain ⟨k', hk', b, hb⟩ := hmaps q hq
    rw [hk, Except.ok.injEq] at hk'
    subst hk'
    exact ⟨q.2.groups, e, b, hb⟩
  obtain ⟨b, hb⟩ := Evaluated.exists_mapRows_of_picks hovers (by simpa using hparts.nonempty)
    (by simpa using hparts.covers) hpart
  exact ⟨b, (eval_operation_eq_ok he).mpr ⟨args, hargs, k, hk, hb⟩⟩

/-- If picked frames cover all rows and the expression succeeds in each of them, it
succeeds in the whole frame. -/
theorem exists_eval_of_picks (hf : f.Uniform) (hparts : f.CoveredBy parts) {e : Expr Plan}
    (he : e.Every (IsRowLocal f outer)) : Gathers now f outer parts e := by
  induction he with
  | @intro e self hlocal ih =>
    cases rowWiseNode (isRowWise_of_rowWiseIn self.1) with
    | operation hop =>
      exact gathers_operation hop hparts (fun c hc => eval_pick hf (hlocal c hc)) ih
    | literal l => exact fun _ => ⟨_, rfl⟩
    | field path => exact gathers_field hparts path
    | «exists» plan => exact gathers_exists hparts plan
    | selector e label position => exact ih e (by simp [children])
    | groupedBy e =>
      intro hok
      have hpart : ∀ p ∈ parts, ∃ a, e.eval now ⟨p.2, outer⟩ = .ok a := by
        intro p hp
        obtain ⟨b, hb⟩ := hok p hp
        simp only [eval, bind_eq_ok] at hb
        obtain ⟨a, ha, -⟩ := hb
        exact ⟨a, ha⟩
      obtain ⟨a, ha⟩ := ih e (by simp [children]) hpart
      exact ⟨a.firstOfGroups, by simp [eval, ha]⟩

/-! ## Rows as frames -/

/-- The result of an expression with one value for each row of the scope. -/
def evalColumn (now : Moment) (e : Expr Plan) (s : Scope) : Except Error Column := do
  (← e.eval now s).toColumn s.frame.numRows

end Expr

/-- The scope of one row, inside the same frames. -/
def Scope.row (s : Scope) (i : Nat) : Scope := ⟨s.frame.row i, s.outer⟩

namespace Evaluated

/-- A result over the rows of an ungrouped frame is a column of them. -/
theorem toColumn_of_over {n : Nat} {a : Evaluated} (h : a.Over n none) :
    ∃ c, a.toColumn n = .ok c ∧ c.length = n ∧ c.type = a.type ∧ ∀ i < n, c.cell i = a.cell i := by
  cases h with
  | constant v t =>
    refine ⟨.constant v t n, rfl, Column.length_constant v t n, rfl, fun i hi => ?_⟩
    simp [Column.constant, Column.cell, cell, hi]
  | rows c hc => exact ⟨c, by simp [ofColumn, toColumn, hc], hc, rfl, fun _ _ => rfl⟩

/-- A column of one value. -/
theorem toColumn_pick_one (a : Evaluated) (i : Nat) :
    (a.pick none [i]).toColumn 1 = .ok ⟨[a.cell i], a.type⟩ := by
  cases a <;> rfl

end Evaluated

/-- An expression without reducing and window calls gives, over the rows of an ungrouped
frame, the column of what it gives in each row alone; if it fails over a frame with rows,
it fails in one of them. -/
theorem evalColumn_row_by_row (now : Moment) {s : Scope} {e : Expr Plan}
    (hungrouped : s.frame.groups = none) (huniform : s.frame.Uniform)
    (houter : ∀ g ∈ s.outer, g.SingleRow) (he : e.Every (·.isRowWise)) :
    (∀ c, e.evalColumn now s = .ok c → c.length = s.frame.numRows ∧
      ∀ i < s.frame.numRows, e.evalColumn now (s.row i) = .ok ⟨[c.cell i], c.type⟩) ∧
    (0 < s.frame.numRows → (∃ x, e.eval now s = .error x) →
      ∃ i < s.frame.numRows, ∃ x, e.eval now (s.row i) = .error x) := by
  obtain ⟨f, outer⟩ := s
  have he' : e.Every (Expr.IsRowLocal f outer) :=
    Expr.every_isRowLocal houter (he.mono fun e h => by simp_all [Expr.rowWiseIn])
  constructor
  · intro c hc
    obtain ⟨a, ha, hcol⟩ := bind_eq_ok.mp hc
    obtain ⟨hover, hpick⟩ := Expr.eval_pick huniform he' ha
    simp only at hungrouped
    rw [hungrouped] at hover
    obtain ⟨c', hcol', hlen, htype, hcells⟩ := Evaluated.toColumn_of_over hover
    rw [hcol, Except.ok.injEq] at hcol'
    subst hcol'
    refine ⟨hlen, fun i hi => bind_eq_ok.mpr ⟨_, hpick [i] (f.row i) (Frame.picks_row hi), ?_⟩⟩
    rw [hcells i hi, htype]
    exact Evaluated.toColumn_pick_one a i
  · rintro hpos ⟨x, hx⟩
    by_contra hall
    have hrows : ∀ i < f.numRows, ∃ a, e.eval now ⟨f.row i, outer⟩ = .ok a := by
      intro i hi
      rcases exists_ok_or_error (e.eval now ⟨f.row i, outer⟩) with hok | hfail
      · exact hok
      · exact absurd ⟨i, hi, hfail⟩ hall
    obtain ⟨a, ha⟩ := Expr.exists_eval_of_picks huniform (Frame.coveredBy_rows hpos) he' <| by
      intro p hp
      obtain ⟨i, hi, rfl⟩ := List.mem_map.mp hp
      exact hrows i (List.mem_range.mp hi)
    simp [ha] at hx

/-- Two rows, and one row of an enclosing query. -/
def twoRows : Scope where
  frame := ⟨[⟨none, "a", ⟨[.integer 1, .integer 2], some .integer⟩⟩], 2, [], none, false⟩
  outer := [⟨[⟨none, "b", ⟨[.integer 10], some .integer⟩⟩], 1, [], none, false⟩]

/-- A sum over both frames of `twoRows`. -/
def sumOfFrames : Expr Plan := .binary .add (.field ["a"]) (.field ["b"])

theorem evalColumn_row_by_row_sum :
    (twoRows.frame.groups = none ∧ twoRows.frame.Uniform ∧ (∀ g ∈ twoRows.outer, g.SingleRow) ∧
      sumOfFrames.Every (·.isRowWise)) ∧
    sumOfFrames.evalColumn (.ofDate ⟨2024, 1, 1, by decide⟩) (twoRows.row 1) =
      .ok ⟨[.integer 12], some .integer⟩ := by
  have huniform : twoRows.frame.Uniform := by simp [Frame.Uniform, twoRows, Column.length]
  have houter : ∀ g ∈ twoRows.outer, g.SingleRow := by
    simp only [twoRows, List.mem_singleton, forall_eq]
    exact ⟨rfl, rfl, by simp [Frame.Uniform, Column.length]⟩
  have hrowWise : sumOfFrames.Every (·.isRowWise) := by
    refine .intro rfl fun c hc => ?_
    rcases List.mem_pair.mp hc with rfl | rfl <;> exact .leaf rfl rfl
  have hrows := evalColumn_row_by_row (.ofDate ⟨2024, 1, 1, by decide⟩) rfl huniform houter hrowWise
  exact ⟨⟨rfl, huniform, houter, hrowWise⟩, (hrows.1 _ rfl).2 1 (by decide)⟩

end ColumnarSql
