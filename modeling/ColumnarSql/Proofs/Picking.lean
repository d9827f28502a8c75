import ColumnarSql.Evaluated
import ColumnarSql.Proofs.Success

/-!
# Picked rows

A result over `n` rows is a constant or a column of `n` values (`Over`). `pick` keeps
the values of some rows, as the frame of those rows gives them. Mapping a function over
rows commutes with picking (`mapRows_pick`), and if picks that cover all rows can be
mapped then the whole can (`exists_mapRows_of_picks`).
-/

set_option autoImplicit false

namespace ColumnarSql

namespace Column

/-- A row of the picked ones is the row that was picked. -/
theorem cell_take (c : Column) {rows : List Nat} {k : Nat} (hk : k < rows.length) :
    (c.take rows).cell k = c.cell rows[k] := by
  simp [take, cell, hk]

/-- Picking twice is picking once. -/
theorem take_take (c : Column) {rows picked : List Nat} (h : ∀ k ∈ picked, k < rows.length) :
    (c.take rows).take picked = c.take (picked.map fun k => rows.getD k 0) := by
  simp only [take, List.map_map, Column.mk.injEq, and_true, List.map_inj_left]
  intro k hk
  simp [cell, h k hk]

/-- The first rows, picked. -/
theorem take_range (c : Column) {n : Nat} (h : n ≤ c.length) :
    c.take (List.range n) = ⟨c.values.take n, c.type⟩ := by
  have hvalues : (List.range n).map c.cell = c.values.take n := by
    have hlen : min n c.values.length = n := Nat.min_eq_left h
    refine List.ext_getElem (by simp [hlen]) fun i hi hi' => ?_
    rw [List.length_take] at hi'
    simp [cell, List.getD, (Nat.lt_min.mp hi').2]
  rw [take, hvalues]

/-- The last rows, picked. -/
theorem take_range' (c : Column) {n m : Nat} (h : c.length = n + m) :
    c.take (List.range' n m) = ⟨c.values.drop n, c.type⟩ := by
  have hvalues : (List.range' n m).map c.cell = c.values.drop n := by
    rw [length] at h
    refine List.ext_getElem (by simp [h]) fun i hi _ => ?_
    have hi : n + i < c.values.length := by simpa [h] using hi
    simp [cell, List.getD, hi]
  rw [take, hvalues]

end Column

namespace Evaluated

variable {σ τ : Type}

/-- A column as a frame with the given groups gives it. -/
def ofColumn (groups : Option Partition) (c : Column) : Evaluated :=
  groups.elim (.column c) fun gs => .grouped 0 c gs

/-- A constant, or a column of `n` values as a frame with the given groups gives it. -/
inductive Over (n : Nat) (groups : Option Partition) : Evaluated → Prop where
  | constant (v : Value) (t : ColumnType) : Over n groups (constant v t)
  | rows (c : Column) (h : c.length = n) : Over n groups (ofColumn groups c)

/-- The values of some rows, as a frame with the given groups gives them. -/
def pick (groups : Option Partition) (rows : List Nat) : Evaluated → Evaluated
  | constant v t => constant v t
  | column c | grouped _ c _ => ofColumn groups (c.take rows)

def isConstant : Evaluated → Bool
  | constant _ _ => true
  | _ => false

@[simp] theorem type_ofColumn (groups : Option Partition) (c : Column) :
    (ofColumn groups c).type = c.type := by
  cases groups <;> rfl

@[simp] theorem cell_ofColumn (groups : Option Partition) (c : Column) (i : Nat) :
    (ofColumn groups c).cell i = c.cell i := by
  cases groups <;> rfl

@[simp] theorem isConstant_ofColumn (groups : Option Partition) (c : Column) :
    (ofColumn groups c).isConstant = false := by
  cases groups <;> rfl

@[simp] theorem pick_ofColumn (groups groups' : Option Partition) (rows : List Nat) (c : Column) :
    (ofColumn groups c).pick groups' rows = ofColumn groups' (c.take rows) := by
  cases groups <;> rfl

@[simp] theorem type_pick (groups : Option Partition) (rows : List Nat) (a : Evaluated) :
    (a.pick groups rows).type = a.type := by
  cases a with
  | constant v t => rfl
  | column c => exact type_ofColumn groups (c.take rows)
  | grouped level c gs => exact type_ofColumn groups (c.take rows)

@[simp] theorem isConstant_pick (groups : Option Partition) (rows : List Nat) (a : Evaluated) :
    (a.pick groups rows).isConstant = a.isConstant := by
  cases a with
  | constant v t => rfl
  | column c => exact isConstant_ofColumn groups (c.take rows)
  | grouped level c gs => exact isConstant_ofColumn groups (c.take rows)

/-- A cell of a picked result is the cell of the picked row. -/
theorem cell_pick (groups : Option Partition) {rows : List Nat} (a : Evaluated) {k : Nat}
    (hk : k < rows.length) : (a.pick groups rows).cell k = a.cell rows[k] := by
  cases a with
  | constant v t => rfl
  | column c => exact (cell_ofColumn groups _ k).trans (c.cell_take hk)
  | grouped level c gs => exact (cell_ofColumn groups _ k).trans (c.cell_take hk)

/-- A picked result has as many rows as were picked. -/
theorem over_pick (groups : Option Partition) (rows : List Nat) (a : Evaluated) :
    (a.pick groups rows).Over rows.length groups := by
  cases a with
  | constant v t => exact .constant v t
  | column c => exact .rows _ (Column.length_take c rows)
  | grouped level c gs => exact .rows _ (Column.length_take c rows)

theorem over_map_pick (groups : Option Partition) (rows : List Nat) (args : List Evaluated) :
    ∀ a ∈ args.map (pick groups rows), a.Over rows.length groups := by
  intro a ha
  obtain ⟨b, -, rfl⟩ := List.mem_map.mp ha
  exact over_pick groups rows b

/-- A row of picked arguments is the row that was picked. -/
theorem row_pick (groups : Option Partition) {rows : List Nat} (args : List Evaluated) {k : Nat}
    (hk : k < rows.length) : row (args.map (pick groups rows)) k = row args rows[k] := by
  simp [row, Function.comp_def, cell_pick groups _ hk]

/-- Constants are the same wherever rows are picked. -/
theorem map_pick_of_constants {groups : Option Partition} {rows : List Nat}
    {args : List Evaluated} (h : args.all isConstant) : args.map (pick groups rows) = args := by
  refine (List.map_congr_left fun a ha => ?_).trans (List.map_id args)
  have ha' := List.all_eq_true.mp h a ha
  cases a with
  | constant v t => rfl
  | _ => simp [isConstant] at ha'

/-! ## Mapping rows -/

/-- The shape of operands over `n` rows, not all of them constants. -/
def fullShape (n : Nat) (groups : Option Partition) : Shape :=
  groups.elim (.rows n) fun gs => .grouped 0 n gs

/-- Arguments over the rows of a frame keep the shape of the frame. -/
theorem foldlM_extend_fullShape (e : Expr σ) {n : Nat} {groups : Option Partition} :
    ∀ {args : List Evaluated}, (∀ a ∈ args, a.Over n groups) →
      args.foldlM (Shape.extend e) (fullShape n groups) = .ok (fullShape n groups)
  | [], _ => rfl
  | a :: args, h => by
    have ih := foldlM_extend_fullShape e fun b hb => h b (List.mem_cons_of_mem a hb)
    have ha : Shape.extend e (fullShape n groups) a = .ok (fullShape n groups) := by
      cases h a List.mem_cons_self with
      | constant v t => cases groups <;> rfl
      | rows c hc => cases groups <;> simp [Shape.extend, fullShape, ofColumn, hc]
    rw [List.foldlM_cons, ha]
    exact ih

/-- Operands over one frame have its shape, if not all are constants. -/
theorem ofOperands_over (e : Expr σ) {n : Nat} {groups : Option Partition} :
    ∀ {args : List Evaluated}, (∀ a ∈ args, a.Over n groups) →
      Shape.ofOperands e args =
        .ok (if args.all isConstant then .constant else fullShape n groups)
  | [], _ => rfl
  | a :: args, h => by
    have hargs := fun b hb => h b (List.mem_cons_of_mem a hb)
    unfold Shape.ofOperands
    rw [List.foldlM_cons]
    cases h a List.mem_cons_self with
    | constant v t => exact ofOperands_over e hargs
    | rows c hc =>
      have ha : Shape.extend e .constant (ofColumn groups c) = .ok (fullShape n groups) := by
        subst hc
        cases groups <;> rfl
      rw [ha, List.all_cons, isConstant_ofColumn]
      exact foldlM_extend_fullShape e hargs

/-- Operands over the same rows always combine: constants to a constant, and else to a
column of the same rows. -/
theorem mapRows_over (e : Expr σ) (t : ColumnType) (f : List Value → Except Error Value)
    {n : Nat} {groups : Option Partition} {args : List Evaluated}
    (h : ∀ a ∈ args, a.Over n groups) :
    mapRows e t f args =
      if args.all isConstant then (f (row args 0)).map (constant · t)
      else (rowValues args f n).map fun vs => ofColumn groups ⟨vs, t⟩ := by
  unfold mapRows
  rw [ofOperands_over e h]
  split
  · cases f (row args 0) <;> rfl
  · cases groups with
    | none =>
      change (do return column ⟨← rowValues args f n, t⟩) = _
      cases rowValues args f n <;> rfl
    | some gs =>
      change (do return grouped 0 ⟨← rowValues args f n, t⟩ gs) = _
      cases rowValues args f n <;> rfl

/-- The only value of a constant call. -/
theorem rowValues_one (args : List Evaluated) (f : List Value → Except Error Value) :
    rowValues args f 1 = (f (row args 0)).map fun v => [v] := by
  rw [rowValues, List.range_one, List.mapM_cons]
  cases f (row args 0) <;> rfl

/-- The values of a call are those of its rows, and all of them are needed. -/
theorem rowValues_eq_ok_iff {args : List Evaluated} {f : List Value → Except Error Value}
    {n : Nat} {vs : List Value} :
    rowValues args f n = .ok vs ↔
      vs.length = n ∧ ∀ i (h : i < vs.length), f (row args i) = .ok vs[i] :=
  mapM_range_eq_ok_iff

/-- Mapping the picked rows gives the picked rows of the mapped ones. -/
theorem mapRows_pick {e : Expr σ} {t : ColumnType} {f : List Value → Except Error Value}
    {n : Nat} {groups : Option Partition} {args : List Evaluated} {b : Evaluated}
    (h : ∀ a ∈ args, a.Over n groups) (hb : mapRows e t f args = .ok b) :
    b.Over n groups ∧ ∀ (e' : Expr τ) (groups' : Option Partition) (rows : List Nat),
      (∀ i ∈ rows, i < n) →
      mapRows e' t f (args.map (pick groups' rows)) = .ok (b.pick groups' rows) := by
  rw [mapRows_over e t f h] at hb
  have hall : ∀ groups' rows, (args.map (pick groups' rows)).all isConstant = args.all isConstant :=
    fun groups' rows => by simp [List.all_map, Function.comp_def]
  cases hc : args.all isConstant with
  | true =>
    simp only [hc, if_true, map_eq_ok] at hb
    obtain ⟨v, hv, rfl⟩ := hb
    refine ⟨.constant v t, fun e' groups' rows _ => ?_⟩
    rw [mapRows_over e' t f (over_map_pick groups' rows args), hall, hc,
      map_pick_of_constants hc, hv]
    rfl
  | false =>
    simp only [hc, Bool.false_eq_true, if_false, map_eq_ok] at hb
    obtain ⟨vs, hvs, rfl⟩ := hb
    obtain ⟨hlen, hvals⟩ := rowValues_eq_ok_iff.mp hvs
    refine ⟨.rows _ hlen, fun e' groups' rows hrows => ?_⟩
    have hpicked : rowValues (args.map (pick groups' rows)) f rows.length =
        .ok (rows.map fun i => (Column.mk vs t).cell i) := by
      refine rowValues_eq_ok_iff.mpr ⟨by simp, fun k hk => ?_⟩
      have hk' : k < rows.length := by simpa using hk
      have hi : rows[k] < vs.length := hlen ▸ hrows _ (List.getElem_mem hk')
      rw [row_pick groups' args hk', hvals _ hi]
      simp [Column.cell, hi]
    rw [mapRows_over e' t f (over_map_pick groups' rows args), hall, hc, hpicked, pick_ofColumn]
    rfl

/-- If the picks of a family that covers all rows can be mapped, so can the whole. -/
theorem exists_mapRows_of_picks {e : Expr σ} {t : ColumnType}
    {f : List Value → Except Error Value} {n : Nat} {groups : Option Partition}
    {args : List Evaluated} {family : List (List Nat)} (h : ∀ a ∈ args, a.Over n groups)
    (hne : family ≠ []) (hcover : ∀ i < n, ∃ rows ∈ family, i ∈ rows)
    (hpicks : ∀ rows ∈ family, ∃ (groups' : Option Partition) (e' : Expr τ) (b : Evaluated),
      mapRows e' t f (args.map (pick groups' rows)) = .ok b) :
    ∃ b, mapRows e t f args = .ok b := by
  rw [mapRows_over e t f h]
  cases hc : args.all isConstant with
  | true =>
    obtain ⟨rows, hrows⟩ := List.exists_mem_of_ne_nil family hne
    obtain ⟨groups', e', b, hb⟩ := hpicks rows hrows
    rw [map_pick_of_constants hc, mapRows_over e' t f h, hc, if_pos rfl, map_eq_ok] at hb
    obtain ⟨v, hv, -⟩ := hb
    exact ⟨constant v t, by simp [hv]⟩
  | false =>
    have hvals : ∀ i < n, ∃ v, f (row args i) = .ok v := by
      intro i hi
      obtain ⟨rows, hrows, hmem⟩ := hcover i hi
      obtain ⟨k, hk, rfl⟩ := List.getElem_of_mem hmem
      obtain ⟨groups', e', b, hb⟩ := hpicks rows hrows
      have hall : (args.map (pick groups' rows)).all isConstant = false := by
        simpa [List.all_map, Function.comp_def] using hc
      rw [mapRows_over e' t f (over_map_pick groups' rows args), hall] at hb
      simp only [Bool.false_eq_true, if_false, map_eq_ok] at hb
      obtain ⟨vs, hvs, -⟩ := hb
      obtain ⟨hlen, hv⟩ := rowValues_eq_ok_iff.mp hvs
      rw [← row_pick groups' args hk]
      exact ⟨_, hv k (hlen ▸ hk)⟩
    have hvalues : ∃ vs, rowValues args f n = .ok vs :=
      exists_mapM_eq_ok _ fun i hi => hvals i (List.mem_range.mp hi)
    obtain ⟨vs, hvs⟩ := hvalues
    exact ⟨ofColumn groups ⟨vs, t⟩, by simp [hvs]⟩

end Evaluated

end ColumnarSql
