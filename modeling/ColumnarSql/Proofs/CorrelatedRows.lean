import ColumnarSql.Join
import ColumnarSql.Proofs.GroupKeys
import ColumnarSql.Proofs.RowByRow

/-!
# Correlated rows

A condition on two tables can be read over pairs of their rows side by side, or over the rows
of the second table inside one row of the first. Read inside a row, the columns of the first
table are constants; over the pairs they are columns. The values agree
(`Expr.eval_correlated`): at every pair of that row, both readings give the same value of the
same type.
-/

set_option autoImplicit false

namespace ColumnarSql

theorem Column.cell_takePadded (c : Column) {rows : List (Option Nat)} {k : Nat}
    (hk : k < rows.length) : (c.takePadded rows).cell k = rows[k].elim .null c.cell := by
  simp [takePadded, cell, List.getD, hk]

namespace Evaluated

variable {σ : Type}

/-- Mapping rows gives each row the function of its operands, constants included. -/
theorem cell_of_mapRows {e : Expr σ} {t : ColumnType} {f : List Value → Except Error Value}
    {n : Nat} {groups : Option Partition} {args : List Evaluated} {b : Evaluated}
    (h : ∀ a ∈ args, a.Over n groups) (hb : mapRows e t f args = .ok b) :
    b.Over n groups ∧ b.type = t ∧ ∀ i < n, f (row args i) = .ok (b.cell i) := by
  rw [mapRows_over e t f h] at hb
  cases hc : args.all isConstant with
  | true =>
    simp only [hc, if_true, map_eq_ok] at hb
    obtain ⟨v, hv, rfl⟩ := hb
    refine ⟨.constant v t, rfl, fun i _ => ?_⟩
    have hrow : row args i = row args 0 := by
      refine List.map_congr_left fun a ha => ?_
      have ha' := List.all_eq_true.mp hc a ha
      cases a with
      | constant v t => rfl
      | _ => simp [isConstant] at ha'
    rw [hrow, hv]
    rfl
  | false =>
    simp only [hc, Bool.false_eq_true, if_false, map_eq_ok] at hb
    obtain ⟨vs, hvs, rfl⟩ := hb
    obtain ⟨hlen, hvals⟩ := rowValues_eq_ok_iff.mp hvs
    refine ⟨.rows _ hlen, by simp, fun i hi => ?_⟩
    have hi' : i < vs.length := hlen ▸ hi
    simp [hvals i hi', Column.cell, hi']

/-- A result over pairs of rows and a result over the rows of the second table agree at the
pairs of row `i` of the first. -/
structure Agrees (pairs : List (Nat × Option Nat)) (i m : Nat) (a b : Evaluated) : Prop where
  over_pairs : a.Over pairs.length none
  over_rows : b.Over m none
  type_eq : a.type = b.type
  cell_eq : ∀ k (hk : k < pairs.length) (j : Nat), j < m → pairs[k] = (i, some j) →
    a.cell k = b.cell j

variable {pairs : List (Nat × Option Nat)} {i m : Nat}

theorem row_of_agrees {as bs : List Evaluated} (h : List.Forall₂ (Agrees pairs i m) as bs)
    {k j : Nat} (hk : k < pairs.length) (hj : j < m) (hpair : pairs[k] = (i, some j)) :
    row as k = row bs j := by
  induction h with
  | nil => rfl
  | cons hab _ ih =>
    simp only [row, List.map_cons, hab.cell_eq k hk j hj hpair] at ih ⊢
    rw [ih]

theorem types_of_agrees {as bs : List Evaluated} (h : List.Forall₂ (Agrees pairs i m) as bs) :
    as.map type = bs.map type := by
  induction h with
  | nil => rfl
  | cons hab _ ih => rw [List.map_cons, List.map_cons, hab.type_eq, ih]

theorem over_of_agrees {as bs : List Evaluated} (h : List.Forall₂ (Agrees pairs i m) as bs) :
    (∀ a ∈ as, a.Over pairs.length none) ∧ ∀ b ∈ bs, b.Over m none := by
  induction h with
  | nil => simp
  | cons hab _ ih =>
    exact ⟨List.forall_mem_cons.mpr ⟨hab.over_pairs, ih.1⟩,
      List.forall_mem_cons.mpr ⟨hab.over_rows, ih.2⟩⟩

/-- Mapping rows keeps the agreement. -/
theorem mapRows_agrees {e e' : Expr σ} {t : ColumnType} {f : List Value → Except Error Value}
    {as bs : List Evaluated} (h : List.Forall₂ (Agrees pairs i m) as bs) {a b : Evaluated}
    (ha : mapRows e t f as = .ok a) (hb : mapRows e' t f bs = .ok b) : Agrees pairs i m a b := by
  obtain ⟨has, hbs⟩ := over_of_agrees h
  obtain ⟨haover, hatype, hacells⟩ := cell_of_mapRows has ha
  obtain ⟨hbover, hbtype, hbcells⟩ := cell_of_mapRows hbs hb
  refine ⟨haover, hbover, hatype.trans hbtype.symm, fun k hk j hj hpair => ?_⟩
  have hrow := hacells k hk
  rw [row_of_agrees h hk hj hpair, hbcells j hj] at hrow
  exact (Except.ok.inj hrow).symm

end Evaluated

/-! ## Names on both sides -/

namespace Frame

variable {f g : Frame} {path : List String} {d : ScopeColumn}

/-- Changing columns changes no name. -/
theorem filter_answers_map (F : Column → Column) (cs : List ScopeColumn) (path : List String) :
    (cs.map fun c => { c with column := F c.column }).filter (·.answers path) =
      (cs.filter (·.answers path)).map fun c => { c with column := F c.column } := by
  rw [List.filter_map]
  congr 1

/-- Over pairs of rows a path has the answers of both sides. -/
theorem filter_answers_combine (f g : Frame) (left : List Nat) (right : List (Option Nat)) :
    (f.combine g left right).columns.filter (·.answers path) =
      ((f.columns.filter (·.answers path)).map fun c => { c with column := c.column.take left }) ++
      (g.columns.filter (·.answers path)).map fun c =>
        { c with column := c.column.takePadded right } := by
  rw [← filter_answers_map (·.take left), ← filter_answers_map (·.takePadded right),
    ← List.filter_append]
  rfl

/-- A path of the left side names the same column over the pairs. -/
theorem find_combine_left {left : List Nat} {right : List (Option Nat)}
    (h : f.find path = .ok (some d)) (hg : g.find path = .ok none) :
    (f.combine g left right).find path = .ok (some { d with column := d.column.take left }) := by
  rw [find_eq_some_iff] at h ⊢
  simp [filter_answers_combine, h, filter_answers_of_find_eq_none hg]

/-- A path of the right side names the same column over the pairs. -/
theorem find_combine_right {left : List Nat} {right : List (Option Nat)}
    (hf : f.find path = .ok none) (h : g.find path = .ok (some d)) :
    (f.combine g left right).find path =
      .ok (some { d with column := d.column.takePadded right }) := by
  rw [find_eq_some_iff] at h ⊢
  simp [filter_answers_combine, h, filter_answers_of_find_eq_none hf]

end Frame

/-! ## Both readings -/

namespace Expr

open Evaluated (Agrees)

/-- A field that names one column of exactly one of the frames. -/
def ReadsOneSide (f g : Frame) (e : Expr Plan) : Prop :=
  ∀ path, e = .field path →
    (∃ d, f.find path = .ok (some d) ∧ g.find path = .ok none) ∨
      ∃ d, f.find path = .ok none ∧ g.find path = .ok (some d)

/-- A node of a condition on two frames that can be read row by row. -/
def IsCorrelated (f g : Frame) (e : Expr Plan) : Prop :=
  e.isRowWise ∧ e.isSubquery = false ∧ e.ReadsOneSide f g

variable {now : Moment} {f g : Frame} {outer : List Frame} {pairs : List (Nat × Option Nat)}
  {i : Nat}

/-- What an expression gives over the pairs of rows and inside row `i`. -/
def BothAgree (now : Moment) (f g : Frame) (outer : List Frame)
    (pairs : List (Nat × Option Nat)) (i : Nat) (e : Expr Plan) : Prop :=
  ∀ ⦃a b : Evaluated⦄, e.eval now ⟨Join.combine f g pairs, []⟩ = .ok a →
    e.eval now ⟨g, f.row i :: outer⟩ = .ok b → Agrees pairs i g.numRows a b

theorem agrees_field_left {path : List String} {d : ScopeColumn}
    (hf : f.find path = .ok (some d)) (hg : g.find path = .ok none) :
    BothAgree now f g outer pairs i (.field path) := by
  intro a b ha hb
  have hpairs : (Join.combine f g pairs).find path =
      .ok (some { d with column := d.column.take (pairs.map (·.1)) }) :=
    Frame.find_combine_left hf hg
  rw [eval, Scope.lookup, Scope.lookupFrom_of_find _ hpairs, Except.ok.injEq] at ha
  have hrow : (f.row i).find path = .ok (some { d with column := d.column.take [i] }) := by
    rw [Frame.row, Frame.find_take, hf]
    rfl
  rw [eval, Scope.lookup, Scope.lookupFrom_cons_of_not_found hg,
    Scope.lookupFrom_of_find _ hrow] at hb
  obtain ⟨_, hb, rfl⟩ := hb
  obtain rfl := Except.ok.inj hb
  subst ha
  refine ⟨.rows _ (by simp), .constant _ _, rfl, fun k hk j _ hpair => ?_⟩
  have hcell := d.column.cell_take (show k < (pairs.map (·.1)).length by simpa using hk)
  rw [List.getElem_map, hpair] at hcell
  exact hcell

theorem agrees_field_right (huniform : g.Uniform) (hgroups : g.groups = none)
    {path : List String} {d : ScopeColumn} (hf : f.find path = .ok none)
    (hg : g.find path = .ok (some d)) : BothAgree now f g outer pairs i (.field path) := by
  intro a b ha hb
  have hpairs : (Join.combine f g pairs).find path =
      .ok (some { d with column := d.column.takePadded (pairs.map (·.2)) }) :=
    Frame.find_combine_right hf hg
  rw [eval, Scope.lookup, Scope.lookupFrom_of_find _ hpairs, Except.ok.injEq] at ha
  rw [eval, Scope.lookup, Scope.lookupFrom_of_find _ hg, Frame.read_eq_ofColumn, hgroups,
    Except.ok.injEq] at hb
  subst ha hb
  have hlen : d.column.length = g.numRows := huniform d (Frame.mem_of_find hg).1
  refine ⟨.rows _ (by simp), .rows _ hlen, rfl, fun k hk j _ hpair => ?_⟩
  have hcell := d.column.cell_takePadded (show k < (pairs.map (·.2)).length by simpa using hk)
  rw [List.getElem_map, hpair] at hcell
  exact hcell

theorem agrees_all {es : List (Expr Plan)} {as bs : List Evaluated}
    (hes : ∀ e ∈ es, BothAgree now f g outer pairs i e)
    (ha : evalAll now es ⟨Join.combine f g pairs, []⟩ = .ok as)
    (hb : evalAll now es ⟨g, f.row i :: outer⟩ = .ok bs) :
    List.Forall₂ (Agrees pairs i g.numRows) as bs := by
  induction es generalizing as bs with
  | nil =>
    rw [evalAll_nil] at ha hb
    subst ha hb
    exact .nil
  | cons e es ih =>
    obtain ⟨a, ha', as, has, rfl⟩ := evalAll_cons.mp ha
    obtain ⟨b, hb', bs, hbs, rfl⟩ := evalAll_cons.mp hb
    exact .cons (hes e List.mem_cons_self ha' hb')
      (ih (fun d hd => hes d (List.mem_cons_of_mem e hd)) has hbs)

/-- Over the pairs of rows and inside one row a condition gives the same values. -/
theorem eval_correlated (huniform : g.Uniform) (hgroups : g.groups = none) {e : Expr Plan}
    (he : e.Every (IsCorrelated f g)) : BothAgree now f g outer pairs i e := by
  induction he with
  | @intro e self _ ih =>
    obtain ⟨hrowWise, hsubquery, hreads⟩ := self
    cases rowWiseNode hrowWise with
    | operation hop =>
      intro a b ha hb
      obtain ⟨as, has, k, hk, ha⟩ := (eval_operation_eq_ok hop).mp ha
      obtain ⟨bs, hbs, k', hk', hb⟩ := (eval_operation_eq_ok hop).mp hb
      have hagree := agrees_all ih has hbs
      rw [Evaluated.types_of_agrees hagree, hk', Except.ok.injEq] at hk
      subst hk
      exact Evaluated.mapRows_agrees hagree ha hb
    | literal l =>
      intro a b ha hb
      obtain rfl := Except.ok.inj ha
      obtain rfl := Except.ok.inj hb
      exact ⟨.constant _ _, .constant _ _, rfl, fun _ _ _ _ _ => rfl⟩
    | field path =>
      rcases hreads path rfl with ⟨d, hf, hg⟩ | ⟨d, hf, hg⟩
      · exact agrees_field_left hf hg
      · exact agrees_field_right huniform hgroups hf hg
    | «exists» plan => simp [isSubquery] at hsubquery
    | selector e label position => exact ih e (by simp [children])
    | groupedBy e =>
      intro a b ha hb
      simp only [eval, bind_eq_ok, pure_eq_ok] at ha hb
      obtain ⟨a, ha, rfl⟩ := ha
      obtain ⟨b, hb, rfl⟩ := hb
      have hagree := ih e (by simp [children]) ha hb
      rw [firstOfGroups_of_over hagree.over_pairs, firstOfGroups_of_over hagree.over_rows]
      exact hagree

end Expr

end ColumnarSql
