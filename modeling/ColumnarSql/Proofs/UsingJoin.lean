import ColumnarSql.Join
import ColumnarSql.Proofs.EvaluationTypes
import ColumnarSql.Proofs.KeyAgreement
import ColumnarSql.Proofs.KeyClasses

/-!
# The matches of USING

A left row is looked up in buckets of the right rows, so it meets one class of equal right
keys. The right rows that the operator `=` equates with the left row (`equalRows`) may be of
several classes, since one double equals several integers; then only the class of the first of
them is found (`usingMatches_spec`), which `using_omits_equal_row` shows. Unless the left side
has doubles where the right side has integers, there is one class and nothing is omitted.
-/

set_option autoImplicit false

namespace ColumnarSql

namespace Join

variable {columns : List (Column × Column)} {n i j : Nat}

def leftKey (columns : List (Column × Column)) (i : Nat) : List Value :=
  columns.map fun c => c.1.cell i

def rightKey (columns : List (Column × Column)) (j : Nat) : List Value :=
  columns.map fun c => c.2.cell j

/-- Whether `=` holds of a left and a right row in every pair of columns. -/
def equates (columns : List (Column × Column)) (i j : Nat) : Bool :=
  columns.all fun c => (BinaryOp.eq.comparison (c.1.cell i) (c.2.cell j)).boolean? = some true

/-- The right rows that `=` equates with a left row. -/
def equalRows (columns : List (Column × Column)) (n i : Nat) : List Nat :=
  (List.range n).filter (equates columns i)

/-- The rows of a list whose right keys equal that of the first row. -/
def likeFirst (columns : List (Column × Column)) (rows : List Nat) : List Nat :=
  rows.filter fun j => rows.head?.any fun first =>
    (Value.compareItems (rightKey columns j) (rightKey columns first)).isEq

theorem comparison_eq_true {v w : Value} :
    (BinaryOp.eq.comparison v w).boolean? = some true ↔
      v.isNull = false ∧ w.isNull = false ∧ v.compare w = .eq := by
  unfold BinaryOp.comparison
  cases hv : v.isNull <;> cases hw : w.isNull <;> simp [Value.boolean?, BinaryOp.holds]

/-- Rows are equated when their keys hold no NULL and the order makes them equal. -/
theorem equates_iff : equates columns i j ↔
    (leftKey columns i).any Value.isNull = false ∧
    (rightKey columns j).any Value.isNull = false ∧
    Value.compareItems (leftKey columns i) (rightKey columns j) = .eq := by
  simp only [equates, List.all_eq_true, decide_eq_true_eq, comparison_eq_true, leftKey, rightKey,
    Value.compareItems_map_eq, List.any_map, List.any_eq_false, Function.comp_apply,
    Bool.not_eq_true]
  exact ⟨fun h => ⟨fun c hc => (h c hc).1, fun c hc => (h c hc).2.1, fun c hc => (h c hc).2.2⟩,
    fun h c hc => ⟨h.1 c hc, h.2.1 c hc, h.2.2 c hc⟩⟩

/-! ## Looking up a left row -/

/-- The right rows that have a bucket. -/
def presentRows (columns : List (Column × Column)) (n : Nat) : List Nat :=
  (List.range n).filter fun j => !(rightKey columns j).any Value.isNull

theorem usingMatches_eq {f g : Frame} {names : List String}
    (h : usingColumns f g names = .ok columns) :
    usingMatches f g names = .ok ((List.range f.numRows).map fun i =>
      if !(leftKey columns i).any Value.isNull then
        Buckets.find (leftKey columns i)
          (Buckets.byAppearance (rightKey columns) (presentRows columns g.numRows))
      else []) := by
  unfold usingMatches
  rw [h]
  rfl

theorem equalRows_of_present (hi : (leftKey columns i).any Value.isNull = false) :
    equalRows columns n i = (presentRows columns n).filter fun j =>
      (Value.compareItems (rightKey columns j) (leftKey columns i)).isEq := by
  rw [equalRows, presentRows, List.filter_filter]
  refine List.filter_congr fun j _ => ?_
  rw [Bool.eq_iff_iff, equates_iff, Value.compareItems_swap (leftKey columns i)]
  simp [hi, and_comm]

theorem equalRows_of_null (hi : (leftKey columns i).any Value.isNull = true) :
    equalRows columns n i = [] := by
  refine List.filter_eq_nil_iff.mpr fun j _ h => ?_
  have hpresent := (equates_iff.mp h).1
  simp [hi] at hpresent

theorem alikeKeys_right (hcolumns : ∀ c ∈ columns, c.2.Typed) (rows : List Nat) :
    Buckets.AlikeKeys (rightKey columns) rows := fun i _ j _ =>
  (Value.alikeItems_map columns).mpr fun c hc =>
    Value.alike_of_conforms _ _ c.2.type ((hcolumns c hc).cell i) ((hcolumns c hc).cell j)

/-- A left row finds the equal right rows that are like the first of them. -/
theorem find_leftKey (hcolumns : ∀ c ∈ columns, c.2.Typed)
    (hi : (leftKey columns i).any Value.isNull = false) :
    Buckets.find (leftKey columns i)
        (Buckets.byAppearance (rightKey columns) (presentRows columns n)) =
      likeFirst columns (equalRows columns n i) := by
  have halike := alikeKeys_right hcolumns (presentRows columns n)
  rw [Buckets.find_byAppearance halike (List.pairwise_lt_range.filter _), ← List.head?_filter,
    equalRows_of_present hi]
  cases hfirst : ((presentRows columns n).filter fun j =>
      (Value.compareItems (rightKey columns j) (leftKey columns i)).isEq).head? with
  | none =>
    rw [List.head?_eq_none_iff.mp hfirst]
    rfl
  | some first =>
    obtain ⟨hmem, hequal⟩ := List.mem_filter.mp (List.mem_of_head? hfirst)
    simp only [likeFirst, hfirst, Option.any_some, List.filter_filter, Option.map_some,
      Option.getD_some, Buckets.classOf]
    refine List.filter_congr fun j hj => ?_
    cases hlike : (Value.compareItems (rightKey columns j) (rightKey columns first)).isEq with
    | false => rfl
    | true =>
      rw [Value.compareItems_congr_left (halike j hj first hmem) (by simpa using hlike), hequal]
      rfl

/-- The rows like the first one are all rows when no left key equals two right keys. -/
theorem likeFirst_equalRows (hcolumns : ∀ c ∈ columns, c.2.Typed)
    (hleft : ∀ c ∈ columns, c.1.Typed) (hbelow : ∀ c ∈ columns, c.1.type.Below c.2.type) :
    likeFirst columns (equalRows columns n i) = equalRows columns n i := by
  refine List.filter_eq_self.mpr fun j hj => ?_
  cases hfirst : (equalRows columns n i).head? with
  | none => simp [List.head?_eq_none_iff.mp hfirst] at hj
  | some first =>
    obtain ⟨-, hequal⟩ := List.mem_filter.mp (List.mem_of_head? hfirst)
    obtain ⟨-, hequal'⟩ := List.mem_filter.mp hj
    have hdistinguishes : Value.distinguishesItems (leftKey columns i) (rightKey columns j) := by
      refine (Value.distinguishesItems_map columns).mpr fun c hc => ?_
      exact Value.distinguishes_of_conforms (hbelow c hc) ((hleft c hc).cell i)
        ((hcolumns c hc).cell j)
    have halike := alikeKeys_right hcolumns [j, first] j (by simp) first (by simp)
    simpa using Value.eqItems_of_common _ _ _ hdistinguishes halike (equates_iff.mp hequal').2.2
      (equates_iff.mp hequal).2.2

/-- The named columns of both sides. -/
theorem usingColumns_eq_ok {f g : Frame} :
    ∀ {names : List String} {columns : List (Column × Column)},
      usingColumns f g names = .ok columns ↔
        List.Forall₂ (fun name c => f.column [name] = .ok c.1 ∧ g.column [name] = .ok c.2)
          names columns
  | [], columns => by
    rw [List.forall₂_nil_left_iff]
    simp [usingColumns, eq_comm]
  | name :: names, columns => by
    simp only [usingColumns, bind_eq_ok, pure_eq_ok, List.forall₂_cons_left_iff,
      usingColumns_eq_ok]
    constructor
    · rintro ⟨l, hl, r, hr, rest, hrest, rfl⟩
      exact ⟨(l, r), rest, ⟨hl, hr⟩, hrest, rfl⟩
    · rintro ⟨⟨l, r⟩, rest, ⟨hl, hr⟩, hrest, rfl⟩
      exact ⟨l, hl, r, hr, rest, hrest, rfl⟩

theorem exists_usingColumns {f g : Frame} :
    ∀ {names : List String}, (∀ name ∈ names,
      (∃ c, f.find [name] = .ok (some c)) ∧ ∃ d, g.find [name] = .ok (some d)) →
      ∃ columns, usingColumns f g names = .ok columns
  | [], _ => ⟨[], rfl⟩
  | name :: names, h => by
    obtain ⟨⟨⟨c, hc⟩, d, hd⟩, hnames⟩ := List.forall_mem_cons.mp h
    obtain ⟨columns, hcolumns⟩ := exists_usingColumns hnames
    exact ⟨(c.column, d.column) :: columns, by simp [usingColumns, Frame.column, hc, hd, hcolumns]⟩

theorem typed_usingColumns {f g : Frame} (hf : f.Typed) (hg : g.Typed) {names : List String}
    (h : usingColumns f g names = .ok columns) : ∀ c ∈ columns, c.1.Typed ∧ c.2.Typed := by
  have htyped : ∀ {k : Frame} {path : List String} {c : Column}, k.Typed →
      k.column path = .ok c → c.Typed := by
    intro k path c hk hc
    obtain ⟨d, hd, rfl⟩ := Frame.column_eq_ok.mp hc
    exact hk d (Frame.mem_of_find hd).1
  intro c hc
  have hall := usingColumns_eq_ok.mp h
  obtain ⟨i, hi, rfl⟩ := List.getElem_of_mem hc
  obtain ⟨hl, hr⟩ := hall.get (hall.length_eq ▸ hi) hi
  exact ⟨htyped hf hl, htyped hg hr⟩

end Join

open Join in
/-- USING finds, for each left row, the right rows that `=` equates with it in all named
columns and whose keys equal that of the first such row, in ascending order. No equal row is
left out when each left column has a type below that of the right one, as when both have the
same type or the left one is INTEGER. -/
theorem usingMatches_spec {f g : Frame} {names : List String} (hf : f.Typed) (hg : g.Typed)
    (hnames : ∀ name ∈ names,
      (∃ c, f.find [name] = .ok (some c)) ∧ ∃ d, g.find [name] = .ok (some d)) :
    ∃ columns found,
      List.Forall₂ (fun name c => f.column [name] = .ok c.1 ∧ g.column [name] = .ok c.2)
        names columns ∧
      usingMatches f g names = .ok found ∧ found.length = f.numRows ∧
      ∀ i (hi : i < found.length),
        found[i].Pairwise (· < ·) ∧
        found[i] = likeFirst columns (equalRows columns g.numRows i) ∧
        ((∀ c ∈ columns, c.1.type.Below c.2.type) →
          found[i] = equalRows columns g.numRows i) := by
  obtain ⟨columns, hcolumns⟩ := exists_usingColumns hnames
  have htyped := typed_usingColumns hf hg hcolumns
  have hleft := fun c hc => (htyped c hc).1
  have hright := fun c hc => (htyped c hc).2
  refine ⟨columns, _, usingColumns_eq_ok.mp hcolumns, usingMatches_eq hcolumns, by simp, ?_⟩
  intro i hi
  have hfound : ((List.range f.numRows).map fun i =>
      if !(leftKey columns i).any Value.isNull then
        Buckets.find (leftKey columns i)
          (Buckets.byAppearance (rightKey columns) (presentRows columns g.numRows))
      else [])[i] = likeFirst columns (equalRows columns g.numRows i) := by
    rw [List.getElem_map, List.getElem_range]
    cases hnull : (leftKey columns i).any Value.isNull with
    | false => exact find_leftKey hright hnull
    | true => rw [equalRows_of_null hnull]; rfl
  rw [hfound]
  refine ⟨(List.pairwise_lt_range.filter _).filter _, rfl, fun hbelow => ?_⟩
  exact likeFirst_equalRows hright hleft hbelow

/-- The double 2 ^ 53. -/
def doubleKey : Column := ⟨[.float (Float.ofBits 0x4340000000000000)], some .float⟩

/-- The integers 2 ^ 53 and 2 ^ 53 + 1, which both round to that double. -/
def integerKeys : Column :=
  ⟨[.integer 9007199254740992, .integer 9007199254740993], some .integer⟩

/-- A column under the name `x`. -/
def keyFrame (table : String) (c : Column) : Frame :=
  { Frame.ofRows c.length with columns := [⟨some table, "x", c⟩] }

theorem typed_keyFrame {c : Column} (hc : c.Typed) (table : String) : (keyFrame table c).Typed := by
  simpa [Frame.Typed, keyFrame] using hc

theorem typed_keys : doubleKey.Typed ∧ integerKeys.Typed := by
  simp [Column.Typed, doubleKey, integerKeys, Value.conforms, Value.scalarType?]

/-- Integers on the left: each of them finds the double. -/
theorem usingMatches_spec_integers :
    ((keyFrame "l" integerKeys).Typed ∧ (keyFrame "r" doubleKey).Typed ∧ ∀ name ∈ ["x"],
      (∃ c, (keyFrame "l" integerKeys).find [name] = .ok (some c)) ∧
        ∃ d, (keyFrame "r" doubleKey).find [name] = .ok (some d)) ∧
    Join.usingMatches (keyFrame "l" integerKeys) (keyFrame "r" doubleKey) ["x"] =
      .ok [[0], [0]] ∧
    Join.equalRows [(integerKeys, doubleKey)] 1 1 = [0] := by
  have hl := typed_keyFrame typed_keys.2 "l"
  have hr := typed_keyFrame typed_keys.1 "r"
  have hnames : ∀ name ∈ ["x"],
      (∃ c, (keyFrame "l" integerKeys).find [name] = .ok (some c)) ∧
        ∃ d, (keyFrame "r" doubleKey).find [name] = .ok (some d) := by
    intro name hname
    obtain rfl := List.mem_singleton.mp hname
    exact ⟨⟨_, rfl⟩, _, rfl⟩
  have hmatches : Join.usingMatches (keyFrame "l" integerKeys) (keyFrame "r" doubleKey) ["x"] =
      .ok [[0], [0]] := rfl
  obtain ⟨columns, found, hcolumns, hfound, -, hrows⟩ := usingMatches_spec hl hr hnames
  obtain rfl := Except.ok.inj (hmatches.symm.trans hfound)
  obtain ⟨c, rest, ⟨hcl, hcr⟩, hrest, rfl⟩ := List.forall₂_cons_left_iff.mp hcolumns
  obtain rfl := List.forall₂_nil_left_iff.mp hrest
  obtain rfl : c = (integerKeys, doubleKey) :=
    Prod.ext (Except.ok.inj hcl).symm (Except.ok.inj hcr).symm
  refine ⟨⟨hl, hr, hnames⟩, hmatches, ((hrows 1 (by decide)).2.2 ?_).symm⟩
  intro c hc
  obtain rfl := List.mem_singleton.mp hc
  exact .known (.number rfl)

/-- The double on the left: `=` equates it with both integers, and USING finds only the first. -/
theorem using_omits_equal_row :
    ((keyFrame "l" doubleKey).Typed ∧ (keyFrame "r" integerKeys).Typed) ∧
    doubleKey.type.coerce integerKeys.type = .ok (some .float) ∧
    Join.usingColumns (keyFrame "l" doubleKey) (keyFrame "r" integerKeys) ["x"] =
      .ok [(doubleKey, integerKeys)] ∧
    Join.equalRows [(doubleKey, integerKeys)] 2 0 = [0, 1] ∧
    Join.usingMatches (keyFrame "l" doubleKey) (keyFrame "r" integerKeys) ["x"] = .ok [[0]] :=
  ⟨⟨typed_keyFrame typed_keys.1 "l", typed_keyFrame typed_keys.2 "r"⟩, rfl, rfl, rfl, rfl⟩

end ColumnarSql
