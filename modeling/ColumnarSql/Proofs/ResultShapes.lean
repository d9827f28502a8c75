import ColumnarSql.Proofs.Kernel
import ColumnarSql.Proofs.Parts
import ColumnarSql.Proofs.PickedFrames

/-!
# Shapes of results

The shapes of operands are joined one after the other, and the common shape has the groups and the
number of rows of the first operand that is no constant. Joining is associative, failures included
(`Shape.join?_assoc`), so operands can be joined in any grouping. Ungrouped rows are those of a
frame around the expression, in its groups (`Expr.eval_ofFrames`). So all that are of one frame are
as many as it has (`Expr.eval_spans`), and it makes no difference which of them gives the number.
-/

set_option autoImplicit false

namespace ColumnarSql

/-! ## Joining shapes -/

namespace Shape

/-- The common shape of two, with the groups of the first. -/
def join? : Shape → Shape → Option Shape
  | s, constant => some s
  | constant, s => some s
  | rows n, rows m => if m = n then some (rows n) else none
  | grouped level n groups, grouped other _ _ =>
    if level = other then some (grouped level n groups) else none
  | rows _, grouped .. | grouped .., rows _ => none

@[simp] theorem join?_constant (s : Shape) : s.join? constant = some s := by
  cases s <;> rfl

@[simp] theorem constant_join? (s : Shape) : constant.join? s = some s := by
  cases s <;> rfl

@[simp] theorem rows_join?_rows (n m : Nat) :
    (rows n).join? (rows m) = if m = n then some (rows n) else none := rfl

@[simp] theorem grouped_join?_grouped (level other n m : Nat) (groups groups' : Partition) :
    (grouped level n groups).join? (grouped other m groups') =
      if level = other then some (grouped level n groups) else none := rfl

@[simp] theorem rows_join?_grouped (n level m : Nat) (groups : Partition) :
    (rows n).join? (grouped level m groups) = none := rfl

@[simp] theorem grouped_join?_rows (n level m : Nat) (groups : Partition) :
    (grouped level m groups).join? (rows n) = none := rfl

/-- Shapes may be joined from the left or from the right. -/
theorem join?_assoc (s t u : Shape) :
    (s.join? t).bind (·.join? u) = (t.join? u).bind (s.join? ·) := by
  cases s <;> cases t <;> cases u <;> simp <;> split_ifs <;> simp_all

/-- What can be joined is of one kind, and the first shape decides. -/
theorem join?_cases {s t u : Shape} (h : s.join? t = some u) :
    (t = constant ∧ u = s) ∨ (s = constant ∧ u = t) ∨
      (∃ n, s = rows n ∧ t = rows n ∧ u = rows n) ∨
      ∃ level n m groups groups',
        s = grouped level n groups ∧ t = grouped level m groups' ∧ u = grouped level n groups := by
  unfold join? at h
  split at h
  · exact .inl ⟨rfl, (Option.some.inj h).symm⟩
  · exact .inr (.inl ⟨rfl, (Option.some.inj h).symm⟩)
  · obtain ⟨rfl, rfl⟩ := by simpa using h
    exact .inr (.inr (.inl ⟨_, rfl, rfl, rfl⟩))
  · obtain ⟨rfl, rfl⟩ := by simpa using h
    exact .inr (.inr (.inr ⟨_, _, _, _, _, rfl, rfl, rfl⟩))
  · simp at h
  · simp at h

/-- The common shape of a list. -/
def joinAll? : List Shape → Option Shape
  | [] => some constant
  | s :: ss => (joinAll? ss).bind s.join?

@[simp] theorem joinAll?_nil : joinAll? [] = some constant := rfl

@[simp] theorem joinAll?_cons (s : Shape) (ss : List Shape) :
    joinAll? (s :: ss) = (joinAll? ss).bind s.join? := rfl

/-- Only constants join to a constant. -/
theorem eq_constant_of_joinAll? : ∀ {ss : List Shape}, joinAll? ss = some constant →
    ∀ s ∈ ss, s = constant
  | [], _ => by simp
  | s :: ss, h => by
    obtain ⟨t, ht, h⟩ := Option.bind_eq_some_iff.mp h
    have hboth : s = constant ∧ t = constant := by
      rcases join?_cases h with ⟨rfl, rfl⟩ | ⟨rfl, rfl⟩ | ⟨_, -, -, ⟨⟩⟩ | ⟨_, _, _, _, _, -, -, ⟨⟩⟩
      all_goals exact ⟨rfl, rfl⟩
    obtain ⟨rfl, rfl⟩ := hboth
    exact List.forall_mem_cons.mpr ⟨rfl, eq_constant_of_joinAll? ht⟩

/-- Whether there is such a row; constants have all rows. -/
def HasRow (i : Nat) : Shape → Prop
  | constant => True
  | rows n | grouped _ n _ => i < n

/-- The result of the shape with the given values. -/
def fill (type : ColumnType) (value : Nat → Value) : Shape → Evaluated
  | constant => .constant (value 0) type
  | rows n => .column ⟨(List.range n).map value, type⟩
  | grouped level n groups => .grouped level ⟨(List.range n).map value, type⟩ groups

end Shape

namespace Evaluated

variable {σ : Type}

def shape : Evaluated → Shape
  | constant _ _ => .constant
  | column c => .rows c.length
  | grouped level c groups => .grouped level c.length groups

end Evaluated

namespace Shape

variable {σ : Type} {e : Expr σ}

@[simp] theorem shape_fill (t : ColumnType) (v : Nat → Value) (s : Shape) :
    (s.fill t v).shape = s := by
  cases s <;> simp [fill, Evaluated.shape, Column.length]

@[simp] theorem type_fill (t : ColumnType) (v : Nat → Value) (s : Shape) :
    (s.fill t v).type = t := by
  cases s <;> rfl

/-- Every row of a filled shape has its value, if a constant has one value for all rows. -/
theorem cell_fill {t : ColumnType} {v : Nat → Value} {s : Shape} {i : Nat} (hi : s.HasRow i)
    (hconstant : s = constant → v 0 = v i) : (s.fill t v).cell i = v i := by
  cases s with
  | constant => exact hconstant rfl
  | rows n | grouped level n groups =>
    have hn : i < n := hi
    simp [fill, Evaluated.cell, Column.cell, hn]

/-- Values of the rows that a shape has make the result. -/
theorem fill_congr {t : ColumnType} {v w : Nat → Value} {s : Shape}
    (h : ∀ i, s.HasRow i → v i = w i) : s.fill t v = s.fill t w := by
  cases s with
  | constant => rw [fill, fill, h 0 trivial]
  | rows n | grouped level n groups =>
    have hvalues : (List.range n).map v = (List.range n).map w :=
      List.map_congr_left fun i hi => h i (List.mem_range.mp hi)
    rw [fill, fill, hvalues]

/-- A shape is extended by a result exactly when it joins the shape of the result. -/
theorem extend_eq_ok_iff {s t : Shape} {a : Evaluated} :
    s.extend e a = .ok t ↔ s.join? a.shape = some t := by
  cases s <;> cases a <;> simp [extend, Evaluated.shape]

theorem foldlM_extend_eq_ok_iff : ∀ {args : List Evaluated} {s t : Shape},
    args.foldlM (extend e) s = .ok t ↔
      (joinAll? (args.map Evaluated.shape)).bind s.join? = some t
  | [], s, t => by simp
  | a :: args, s, t => by
    simp only [List.foldlM_cons, bind_eq_ok, extend_eq_ok_iff, foldlM_extend_eq_ok_iff,
      List.map_cons, joinAll?_cons, ← Option.bind_eq_some_iff]
    cases joinAll? (args.map Evaluated.shape) with
    | none => simp
    | some u => simpa using congrArg (· = some t) (join?_assoc s a.shape u)

/-- The operands of an operation have the join of their shapes. -/
theorem ofOperands_eq_ok_iff {args : List Evaluated} {t : Shape} :
    ofOperands e args = .ok t ↔ joinAll? (args.map Evaluated.shape) = some t := by
  have hstart : constant.join? = some := funext constant_join?
  rw [ofOperands, foldlM_extend_eq_ok_iff, hstart, Option.bind_fun_some]

end Shape

namespace Evaluated

variable {σ : Type} {e : Expr σ}

/-- An operation gives the common shape of its operands. -/
theorem shape_of_mapRows {t : ColumnType} {f : List Value → Except Error Value}
    {args : List Evaluated} {a : Evaluated} (h : mapRows e t f args = .ok a) :
    Shape.joinAll? (args.map shape) = some a.shape := by
  obtain ⟨s, hs, h⟩ := bind_eq_ok.mp h
  rw [Shape.ofOperands_eq_ok_iff] at hs
  rw [hs]
  cases s with
  | constant =>
    obtain ⟨v, -, h⟩ := bind_eq_ok.mp h
    obtain rfl := pure_eq_ok.mp h
    rfl
  | rows n | grouped level n groups =>
    obtain ⟨vs, hvs, h⟩ := bind_eq_ok.mp h
    obtain rfl := pure_eq_ok.mp h
    simp [shape, Column.length, (mapM_range_eq_ok_iff.mp hvs).1]

/-- A function that has a value in every row fills the common shape. -/
theorem mapRows_eq_ok_iff {t : ColumnType} {f : List Value → Value} {args : List Evaluated}
    {a : Evaluated} :
    mapRows e t (fun row => .ok (f row)) args = .ok a ↔
      ∃ s, Shape.joinAll? (args.map shape) = some s ∧ s.fill t (fun i => f (row args i)) = a := by
  have hvalues (n : Nat) : rowValues args (fun row => .ok (f row)) n =
      .ok ((List.range n).map fun i => f (row args i)) :=
    mapM_range_eq_ok_iff.mpr ⟨by simp, fun i hi => by simp⟩
  simp only [mapRows, bind_eq_ok, Shape.ofOperands_eq_ok_iff]
  refine exists_congr fun s => and_congr_right fun _ => ?_
  cases s <;> simp [hvalues, Shape.fill]

/-- A row of a filled shape is made of this row of the operands. -/
theorem cell_fill_row (t : ColumnType) (f : List Value → Value) {args : List Evaluated} {s : Shape}
    (hs : Shape.joinAll? (args.map shape) = some s) {i : Nat} (hi : s.HasRow i) :
    (s.fill t fun i => f (row args i)).cell i = f (row args i) := by
  refine Shape.cell_fill hi ?_
  rintro rfl
  have hconstant := Shape.eq_constant_of_joinAll? hs
  have hrow : row args 0 = row args i := by
    refine List.map_congr_left fun a ha => ?_
    have hshape := hconstant a.shape (List.mem_map_of_mem ha)
    cases a with
    | constant v t => rfl
    | column c | grouped level c groups => cases hshape
  exact congrArg f hrow

end Evaluated

/-! ## Rows of the frames -/

/-- Ungrouped rows of a frame are as many as `rows` says for it. -/
def Shape.Spans (rows : Nat → Nat) : Shape → Prop
  | grouped level n _ => n = rows level
  | _ => True

abbrev Evaluated.Spans (rows : Nat → Nat) (a : Evaluated) : Prop := a.shape.Spans rows

namespace Shape

variable {rows : Nat → Nat}

/-- The joined shape spans the rows that both shapes span. -/
theorem spans_of_join? {s t u : Shape} (hs : s.Spans rows) (ht : t.Spans rows)
    (h : s.join? t = some u) : u.Spans rows := by
  rcases join?_cases h with ⟨-, rfl⟩ | ⟨-, rfl⟩ | ⟨n, -, rfl, rfl⟩ | ⟨_, _, _, _, _, rfl, -, rfl⟩
  · exact hs
  · exact ht
  · exact ht
  · exact hs

/-- The joined shape of a list spans the rows that all its shapes span. -/
theorem spans_of_joinAll? : ∀ {ss : List Shape} {u : Shape}, (∀ s ∈ ss, s.Spans rows) →
    joinAll? ss = some u → u.Spans rows
  | [], u, _, h => by
    obtain rfl := Option.some.inj h
    trivial
  | s :: ss, u, hss, h => by
    obtain ⟨t, ht, h⟩ := Option.bind_eq_some_iff.mp h
    obtain ⟨hs, hss⟩ := List.forall_mem_cons.mp hss
    exact spans_of_join? hs (spans_of_joinAll? hss ht) h

/-- The rows of the common shape are rows of both. -/
theorem HasRow.of_join? {s t u : Shape} {i : Nat} (hs : s.Spans rows) (ht : t.Spans rows)
    (h : s.join? t = some u) (hi : u.HasRow i) : s.HasRow i ∧ t.HasRow i := by
  rcases join?_cases h with ⟨rfl, rfl⟩ | ⟨rfl, rfl⟩ | ⟨n, rfl, rfl, rfl⟩ |
    ⟨level, n, m, _, _, rfl, rfl, rfl⟩
  · exact ⟨hi, trivial⟩
  · exact ⟨trivial, hi⟩
  · exact ⟨hi, hi⟩
  · have hn : n = m := Eq.trans hs (Eq.symm ht)
    subst hn
    exact ⟨hi, hi⟩

end Shape

/-- The number of rows of the frame so many frames outward. -/
def rowsAt (frames : List Frame) (level : Nat) : Nat := frames[level]?.elim 0 Frame.numRows

/-- Ungrouped rows are those of the frame so many frames outward, in its groups. -/
def Shape.OfFrames (frames : List Frame) : Shape → Prop
  | grouped level n groups =>
    ∃ f, frames[level]? = some f ∧ f.groups = some groups ∧ n = f.numRows
  | _ => True

abbrev Evaluated.OfFrames (frames : List Frame) (a : Evaluated) : Prop := a.shape.OfFrames frames

namespace Shape

variable {frames : List Frame}

/-- A shape of some frames spans the rows at their levels. -/
theorem OfFrames.spans {s : Shape} (h : s.OfFrames frames) : s.Spans (rowsAt frames) := by
  cases s with
  | constant | rows n => trivial
  | grouped level n groups =>
    obtain ⟨f, hf, -, hn⟩ := h
    simpa [Spans, rowsAt, hf] using hn

/-- The joined shape of two shapes of some frames is one of these frames. -/
theorem ofFrames_of_join? {s t u : Shape} (hs : s.OfFrames frames) (ht : t.OfFrames frames)
    (h : s.join? t = some u) : u.OfFrames frames := by
  rcases join?_cases h with ⟨-, rfl⟩ | ⟨-, rfl⟩ | ⟨n, -, rfl, rfl⟩ | ⟨_, _, _, _, _, rfl, -, rfl⟩
  · exact hs
  · exact ht
  · exact ht
  · exact hs

theorem ofFrames_of_joinAll? : ∀ {ss : List Shape} {u : Shape}, (∀ s ∈ ss, s.OfFrames frames) →
    joinAll? ss = some u → u.OfFrames frames
  | [], u, _, h => by
    obtain rfl := Option.some.inj h
    trivial
  | s :: ss, u, hss, h => by
    obtain ⟨t, ht, h⟩ := Option.bind_eq_some_iff.mp h
    obtain ⟨hs, hss⟩ := List.forall_mem_cons.mp hss
    exact ofFrames_of_join? hs (ofFrames_of_joinAll? hss ht) h

end Shape

/-- A result of the enclosing frames is one inside a further frame too. -/
theorem Evaluated.OfFrames.inward {f : Frame} {outer : List Frame} {a : Evaluated}
    (h : a.OfFrames outer) : a.inward.OfFrames (f :: outer) := by
  cases a with
  | constant v t => trivial
  | column c =>
    simp only [Evaluated.inward]
    split <;> trivial
  | grouped level c groups => exact h

/-- A column of a frame has the shape of the frame. -/
theorem Frame.ofFrames_read {f : Frame} {c : Column} (h : c.length = f.numRows)
    (outer : List Frame) : (f.read c).OfFrames (f :: outer) := by
  rw [read_eq_ofColumn]
  cases hgroups : f.groups with
  | none => trivial
  | some groups => exact ⟨f, rfl, hgroups, h⟩

/-- What a path is looked up as has a shape of the frames. -/
theorem Scope.ofFrames_lookupFrom :
    ∀ {f : Frame} {outer : List Frame} {path : List String} {a : Evaluated},
      (∀ g ∈ f :: outer, g.Uniform) → lookupFrom f outer path = .ok a →
        a.OfFrames (f :: outer)
  | f, outer, path, a, huniform, h => by
    obtain ⟨c?, hc⟩ := find_of_lookupFrom h
    cases c? with
    | some c =>
      rw [lookupFrom_of_find outer hc, Except.ok.injEq] at h
      have hlength := huniform f List.mem_cons_self c (Frame.mem_of_find hc).1
      exact h ▸ Frame.ofFrames_read hlength outer
    | none =>
      cases outer with
      | nil => simp [lookupFrom, hc] at h
      | cons g outer =>
        obtain ⟨b, hb, rfl⟩ := (lookupFrom_cons_of_not_found hc).mp h
        exact (ofFrames_lookupFrom (fun o ho => huniform o (List.mem_cons_of_mem f ho)) hb).inward

namespace Expr

variable {now : Moment} {s : Scope}

/-- EXISTS has the shape of its frame. -/
theorem ofFrames_existsRows {plan : Plan} {a : Evaluated} (h : plan.existsRows s = .ok a) :
    a.OfFrames s.frames := by
  obtain ⟨vs, hvs, h⟩ := bind_eq_ok.mp h
  obtain rfl := pure_eq_ok.mp h
  have hlength : Column.length ⟨vs, some .boolean⟩ = s.frame.numRows :=
    (mapM_range_eq_ok_iff.mp hvs).1
  exact Frame.ofFrames_read hlength s.outer

/-- An operation has a shape of the frames if its parts have. -/
theorem ofFrames_operation {frames : List Frame} {e : Expr Plan} (he : e.isOperation)
    (hparts : ∀ c ∈ e.children, ∀ ⦃b⦄, c.eval now s = .ok b → b.OfFrames frames) {a : Evaluated}
    (h : e.eval now s = .ok a) : a.OfFrames frames := by
  obtain ⟨args, hargs, k, -, hmap⟩ := (eval_operation_eq_ok he).mp h
  refine Shape.ofFrames_of_joinAll? ?_ (Evaluated.shape_of_mapRows hmap)
  rw [List.forall_mem_map]
  intro b hb
  rw [evalAll_eq_mapM] at hargs
  obtain ⟨c, hc, hb⟩ := exists_of_mem_mapM hargs hb
  exact hparts c hc hb

/-- In uniform frames every result in ungrouped rows has the rows and the groups of the frame that
these are from. -/
theorem eval_ofFrames (hs : ∀ f ∈ s.frames, f.Uniform) (e : Expr Plan) :
    ∀ ⦃a : Evaluated⦄, e.eval now s = .ok a → a.OfFrames s.frames := by
  induction e using parts_induction with
  | step e ih =>
    intro a ha
    by_cases hop : e.isOperation
    · exact ofFrames_operation hop ih ha
    · cases e with
      | literal l =>
        obtain rfl := Except.ok.inj ha
        trivial
      | field path => exact Scope.ofFrames_lookupFrom hs ha
      | «exists» plan => exact ofFrames_existsRows ha
      | selector e label position => exact ih e (by simp [children]) ha
      | groupedBy e =>
        obtain ⟨b, hb, ha⟩ := bind_eq_ok.mp ha
        obtain rfl := pure_eq_ok.mp ha
        cases b <;> trivial
      | call f args =>
        have hf : f.isAggregating = true := by simpa [isOperation] using hop
        simp only [eval, hf, if_true, bind_eq_ok, Evaluated.reduce, pure_eq_ok] at ha
        obtain ⟨-, -, -, -, -, -, -, -, rfl⟩ := ha
        trivial
      | analytic f args ps os =>
        simp only [eval, bind_eq_ok, pure_eq_ok] at ha
        obtain ⟨-, -, -, -, -, -, -, -, -, -, rfl⟩ := ha
        trivial
      | _ => exact absurd rfl hop

/-- So ungrouped rows of one frame are all as many as the frame has. -/
theorem eval_spans (hs : ∀ f ∈ s.frames, f.Uniform) (e : Expr Plan) ⦃a : Evaluated⦄
    (h : e.eval now s = .ok a) : a.Spans (rowsAt s.frames) :=
  (eval_ofFrames hs e h).spans

end Expr

end ColumnarSql
