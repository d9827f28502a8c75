import ColumnarSql.Calendar.Reading
import ColumnarSql.Calendar.Text
import Mathlib.Algebra.Group.Nat.Defs
import Mathlib.Data.List.TakeWhile

/-!
# Numbers read back from their text

A number in decimal digits has its own value (`natOfDigits_toDigits`), and leading zeros do not
change it (`natOfDigits_padded`). What a reader of digits leaves over depends on what follows
the number, so every statement is about a number with a text behind it: a reader takes the
digits of the number and no more if it may not take more or if the text behind is `Unjoined`
(`number_digits`). Years, fields and fractions of a second are read back so
(`year_yearText`, `field_padded`, `fraction_fractionText`).
-/

set_option autoImplicit false

namespace ColumnarSql

/-! ## Blanks -/

namespace Text

/-- A digit is no blank. -/
theorem isBlank_of_isDigit {c : Char} (h : c.isDigit) : isBlank c = false := by
  obtain ⟨hlow, hhigh⟩ : 48 ≤ c.toNat ∧ c.toNat ≤ 57 := Char.isDigit_iff_toNat.mp h
  refine Bool.eq_false_iff.mpr fun hblank => ?_
  obtain ⟨run, hrun, hin⟩ := List.any_eq_true.mp hblank
  have hbounds : run.first ≤ c.toNat ∧ c.toNat ≤ run.last := by
    simp only [CodeRun.contains, Bool.and_eq_true, decide_eq_true_eq] at hin
    exact hin.1
  have hapart : ∀ run ∈ blankRuns, run.last < 48 ∨ 57 < run.first := by decide
  have := hapart run hrun
  omega

/-- A text that starts with no blank is not trimmed at its start. -/
theorem trimLeft_cons {c : Char} (h : isBlank c = false) (s : List Char) :
    trimLeft (c :: s) = c :: s := by
  simp [trimLeft, h]

/-- Nor is a text of digits. -/
theorem trimLeft_of_digits {s : List Char} (h : ∀ c ∈ s, c.isDigit) : trimLeft s = s := by
  cases s with
  | nil => rfl
  | cons c s => exact trimLeft_cons (isBlank_of_isDigit (h c List.mem_cons_self)) s

/-- A text whose last character is a digit. -/
def EndsInDigit (s : List Char) : Prop := ∃ t c, s = t ++ [c] ∧ c.isDigit

/-- What stands before a final digit does not matter. -/
theorem EndsInDigit.append {s : List Char} (h : EndsInDigit s) (t : List Char) :
    EndsInDigit (t ++ s) := by
  obtain ⟨u, c, rfl, hc⟩ := h
  exact ⟨t ++ u, c, by simp, hc⟩

theorem EndsInDigit.cons {s : List Char} (h : EndsInDigit s) (c : Char) :
    EndsInDigit (c :: s) := h.append [c]

/-- Digits end in a digit, if there are any. -/
theorem endsInDigit_of_digits {s : List Char} (hne : s ≠ []) (h : ∀ c ∈ s, c.isDigit) :
    EndsInDigit s :=
  ⟨_, _, (List.dropLast_concat_getLast hne).symm, h _ (List.getLast_mem hne)⟩

/-- A text that neither begins nor ends with a blank is not changed by trimming it. -/
theorem EndsInDigit.trim_eq {s : List Char} (h : EndsInDigit s) (hstart : trimLeft s = s) :
    trim s = s := by
  obtain ⟨t, c, rfl, hc⟩ := h
  rw [trim, hstart, List.reverse_concat, trimLeft_cons (isBlank_of_isDigit hc)]
  simp

end Text

/-! ## Digits -/

namespace Reading

/-- Digits are read as the library reads them. -/
theorem natOfDigits_eq (ds : List Char) : natOfDigits ds = Nat.ofDigitChars 10 ds 0 := rfl

/-- The digits of a number are read as that number. -/
theorem natOfDigits_toDigits (n : Nat) : natOfDigits (Nat.toDigits 10 n) = n := by
  rw [natOfDigits_eq, Nat.ofDigitChars_ten_toDigits]

theorem isDigit_toDigits {n : Nat} : ∀ c ∈ Nat.toDigits 10 n, c.isDigit :=
  fun _ => Nat.isDigit_of_mem_toDigits (by decide) (by decide)

/-- Digits have no sign before them. -/
theorem sign_of_digits {s : List Char} (h : ∀ c ∈ s, c.isDigit) : sign s = (false, s) := by
  unfold sign
  split
  · exact absurd (h '-' List.mem_cons_self) (by decide)
  · exact absurd (h '+' List.mem_cons_self) (by decide)
  · rfl

/-- An integer is read back from its text, and there are no blanks around it. -/
theorem integer?_repr (n : Int) : integer? n.repr.toList = some n ∧
    Text.trim n.repr.toList = n.repr.toList := by
  have hread : ∀ m : Nat, (Nat.toDigits 10 m).isEmpty = false ∧
      (Nat.toDigits 10 m).all Char.isDigit := fun m =>
    ⟨by simp, List.all_eq_true.mpr isDigit_toDigits⟩
  have hend : ∀ m : Nat, Text.EndsInDigit (Nat.toDigits 10 m) := fun m =>
    Text.endsInDigit_of_digits (by simp) isDigit_toDigits
  rw [Int.repr_eq_if]
  split_ifs with hpos
  · rw [Nat.toList_repr]
    constructor
    · simp only [integer?, sign_of_digits isDigit_toDigits, hread, natOfDigits_toDigits,
        Int.toNat_of_nonneg hpos, Bool.not_true, Bool.or_false, Bool.false_eq_true, if_false]
    · exact (hend _).trim_eq (Text.trimLeft_of_digits isDigit_toDigits)
  · simp only [String.toList_append, String.reduceToList, Nat.toList_repr, List.cons_append,
      List.nil_append]
    constructor
    · simp only [integer?, sign, hread, natOfDigits_toDigits, Bool.not_true, Bool.or_false,
        Bool.false_eq_true, if_false, if_true, Int.toNat_of_nonneg (show 0 ≤ -n by omega),
        Int.neg_neg]
    · exact ((hend _).cons _).trim_eq (Text.trimLeft_cons (by decide) _)

end Reading

namespace Calendar

open Text

/-- A text that does not go on with a digit. -/
def Unjoined (r : List Char) : Prop := r.takeWhile Char.isDigit = []

theorem unjoined_nil : Unjoined [] := rfl

theorem unjoined_cons {c : Char} (h : c.isDigit = false) (r : List Char) : Unjoined (c :: r) := by
  simp [Unjoined, h]

/-- The beginning of a text that starts with no digit starts with none either. -/
theorem Unjoined.take {r : List Char} (h : Unjoined r) (n : Nat) : Unjoined (r.take n) := by
  cases r with
  | nil => simpa using h
  | cons c r =>
    cases n with
    | zero => exact unjoined_nil
    | succ n => exact unjoined_cons (by simpa [Unjoined] using h) _

/-- Such a text has no digits to drop. -/
theorem Unjoined.dropWhile_eq {r : List Char} (h : Unjoined r) : r.dropWhile Char.isDigit = r := by
  have hsplit := List.takeWhile_append_dropWhile (p := Char.isDigit) (l := r)
  rwa [h, List.nil_append] at hsplit

/-- Digits are taken off the front of a text, and no more of it than may be taken. -/
theorem number_digits {least most : Nat} {ds r : List Char} (hdigits : ∀ c ∈ ds, c.isDigit)
    (hne : ds ≠ []) (hleast : least ≤ ds.length)
    (hmost : ds.length = most ∨ ds.length < most ∧ Unjoined r) :
    number least most (ds ++ r) = some (Reading.natOfDigits ds, r) := by
  have htaken : ((ds ++ r).take most).takeWhile Char.isDigit = ds := by
    rw [List.take_append, List.take_of_length_le (by omega),
      List.takeWhile_append_of_pos hdigits]
    rcases hmost with heq | ⟨-, hr⟩
    · simp [heq]
    · rw [hr.take, List.append_nil]
  have hlong : ¬(ds.length < least ∨ ds = []) := by
    rintro (h | h)
    · omega
    · exact hne h
  simp only [number, htaken, hlong, if_false, List.drop_left]

/-! ## Padded numbers -/

variable {width n : Nat}

/-- A padded number is its digits after zeros. -/
theorem toList_padded (width n : Nat) : (padded width n).toList =
    List.replicate (width - (Nat.toDigits 10 n).length) '0' ++ Nat.toDigits 10 n := by
  simp [padded]

theorem isDigit_padded : ∀ c ∈ (padded width n).toList, c.isDigit := by
  intro c hc
  rw [toList_padded, List.mem_append] at hc
  rcases hc with hc | hc
  · rw [List.eq_of_mem_replicate hc]
    rfl
  · exact Reading.isDigit_toDigits c hc

@[simp] theorem padded_ne_nil : (padded width n).toList ≠ [] := by
  simp [toList_padded]

/-- The zeros do not change the number. -/
theorem natOfDigits_padded : Reading.natOfDigits (padded width n).toList = n := by
  rw [toList_padded, Reading.natOfDigits_eq, Nat.ofDigitChars_append,
    Nat.ofDigitChars_replicate_zero, Nat.mul_zero, Nat.ofDigitChars_ten_toDigits]

/-- A number that fits into the width is written in exactly that many digits. -/
theorem length_padded (hwidth : 0 < width) (h : n < 10 ^ width) :
    (padded width n).toList.length = width := by
  have hdigits := (Nat.length_toDigits_le_iff (b := 10) (by decide) hwidth).mpr h
  rw [toList_padded, List.length_append, List.length_replicate]
  omega

/-- A padded number starts with a digit. -/
theorem exists_padded_eq_cons (width n : Nat) :
    ∃ c ds, (padded width n).toList = c :: ds ∧ c.isDigit := by
  obtain ⟨c, ds, h⟩ := List.exists_cons_of_ne_nil (@padded_ne_nil width n)
  exact ⟨c, ds, h, isDigit_padded c (h ▸ List.mem_cons_self)⟩

/-- A number does not begin with a sign or any other mark. -/
theorem padded_append_ne_cons {c : Char} (h : c.isDigit = false) (r s : List Char) :
    (padded width n).toList ++ r ≠ c :: s := by
  obtain ⟨d, ds, hdigits, hd⟩ := exists_padded_eq_cons width n
  rw [hdigits]
  rintro heq
  obtain rfl := (List.cons.inj heq).1
  exact absurd hd (Bool.eq_false_iff.mp h)

theorem endsInDigit_padded (width n : Nat) : EndsInDigit (padded width n).toList :=
  endsInDigit_of_digits padded_ne_nil isDigit_padded

theorem trimLeft_padded (r : List Char) :
    trimLeft ((padded width n).toList ++ r) = (padded width n).toList ++ r := by
  obtain ⟨c, ds, h, hc⟩ := exists_padded_eq_cons width n
  rw [h, List.cons_append, trimLeft_cons (isBlank_of_isDigit hc)]

/-- A number of a fixed width is read as such, whatever follows. -/
theorem number_padded (hwidth : 0 < width) (h : n < 10 ^ width) {least : Nat}
    (hleast : least ≤ width) (r : List Char) :
    number least width ((padded width n).toList ++ r) = some (n, r) := by
  have hlen := length_padded hwidth h
  rw [number_digits isDigit_padded padded_ne_nil (hleast.trans_eq hlen.symm) (.inl hlen),
    natOfDigits_padded]

/-- A field of two digits is read back, and what follows it is left. -/
theorem field_padded (h : n < 100) (r : List Char) :
    field ((padded 2 n).toList ++ r) = some (n, r) := by
  rw [field, trimLeft_padded, number_padded (by decide) h (by decide)]

/-! ## Years -/

/-- A year with a sign is read up to what is no digit. -/
theorem number_unbounded {r : List Char} (hr : Unjoined r) :
    number 1 ((padded width n).toList ++ r).length ((padded width n).toList ++ r) =
      some (n, r) := by
  have hpos : 0 < (padded width n).toList.length := List.length_pos_iff.mpr padded_ne_nil
  have hmost : (padded width n).toList.length = ((padded width n).toList ++ r).length ∨
      (padded width n).toList.length < ((padded width n).toList ++ r).length ∧ Unjoined r := by
    rw [List.length_append]
    rcases Nat.eq_zero_or_pos r.length with h | h
    · exact .inl (by omega)
    · exact .inr ⟨by omega, hr⟩
  rw [number_digits isDigit_padded padded_ne_nil hpos hmost, natOfDigits_padded]

/-- A year is its digits after a sign, or four digits without one. -/
theorem toList_yearText_cases (y : Int) :
    (yearText y).toList = '-' :: (padded 4 y.natAbs).toList ∧ y = -(y.natAbs : Int) ∨
      (yearText y).toList = '+' :: (padded 4 y.natAbs).toList ∧ y = y.natAbs ∨
      (yearText y).toList = (padded 4 y.natAbs).toList ∧ y = y.natAbs ∧ y.natAbs < 10 ^ 4 := by
  unfold yearText
  split_ifs
  · exact .inl ⟨by simp, by omega⟩
  · exact .inr (.inl ⟨by simp, by omega⟩)
  · exact .inr (.inr ⟨rfl, by omega, by omega⟩)

/-- A year is written without a blank before it. -/
theorem trimLeft_yearText (y : Int) (r : List Char) :
    trimLeft ((yearText y).toList ++ r) = (yearText y).toList ++ r := by
  rcases toList_yearText_cases y with ⟨htext, -⟩ | ⟨htext, -⟩ | ⟨htext, -⟩
  · rw [htext, List.cons_append, trimLeft_cons (by decide)]
  · rw [htext, List.cons_append, trimLeft_cons (by decide)]
  · rw [htext, trimLeft_padded]

/-- A written year is read back with its sign, if no digit follows it. -/
theorem year_yearText (y : Int) {r : List Char} (hr : Unjoined r) :
    year ((yearText y).toList ++ r) = some (y, r) := by
  rw [year, trimLeft_yearText]
  rcases toList_yearText_cases y with ⟨htext, hy⟩ | ⟨htext, hy⟩ | ⟨htext, hy, hfits⟩
  · simp only [htext, List.cons_append, number_unbounded hr, Option.map_some, ← hy]
  · simp only [htext, List.cons_append, number_unbounded hr, Option.map_some, ← hy]
  · rw [htext]
    split
    · next h => exact absurd h (padded_append_ne_cons rfl _ _)
    · next h => exact absurd h (padded_append_ne_cons rfl _ _)
    · rw [number_padded (by decide) hfits (by decide), Option.map_some]
      simp only [← hy]

/-! ## Fractions of a second -/

/-- A fraction of any precision is read back as nanoseconds. -/
theorem fraction_digits {k m : Nat} (hk : 0 < k) (hmost : k ≤ 9) (hm : m < 10 ^ k)
    {r : List Char} (hr : Unjoined r) :
    fraction ('.' :: ((padded k m).toList ++ r)) = some (m * 10 ^ (9 - k), r) := by
  have hlen := length_padded hk hm
  have hleast : 1 ≤ (padded k m).toList.length := Nat.lt_of_lt_of_eq hk hlen.symm
  have hread : number 1 9 ((padded k m).toList ++ r) = some (m, r) := by
    rw [number_digits isDigit_padded padded_ne_nil hleast ?_, natOfDigits_padded]
    rcases Nat.lt_or_eq_of_le hmost with h | h
    · exact .inr ⟨by omega, hr⟩
    · exact .inl (by omega)
  simp only [fraction, hread, Option.map_some, List.length_append, hlen, Nat.add_sub_cancel,
    hr.dropWhile_eq, Nat.pow_eq]

/-- A text that does not go on with a fraction. -/
def Pointless (r : List Char) : Prop := ∀ s, r ≠ '.' :: s

/-- The fraction that was written, if the text behind it does not begin like one. -/
theorem fraction_fractionText {nano : Nat} (h : nano < nanosPerSecond) {r : List Char}
    (hr : Unjoined r) (hpoint : Pointless r) :
    fraction ((fractionText nano).toList ++ r) = some (nano, r) := by
  have hdot : ∀ t : String, ("." ++ t).toList ++ r = '.' :: (t.toList ++ r) := by simp
  simp only [nanosPerSecond] at h
  unfold fractionText
  split_ifs with hzero hmilli hmicro
  · subst hzero
    rw [String.toList_empty, List.nil_append]
    unfold fraction
    split
    · next s => exact absurd rfl (hpoint s)
    · rfl
  · rw [hdot, fraction_digits (by decide) (by decide) (by omega) hr]
    simp only [Option.some.injEq, Prod.mk.injEq, and_true]
    omega
  · rw [hdot, fraction_digits (by decide) (by decide) (by omega) hr]
    simp only [Option.some.injEq, Prod.mk.injEq, and_true]
    omega
  · rw [hdot, fraction_digits (by decide) (by decide) (by omega) hr]
    simp

end Calendar

end ColumnarSql
