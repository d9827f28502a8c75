import Mathlib
import ColumnarSql.Number.Binary64

/-!
# Rounding integers to doubles

Rounding to the nearest double keeps the order of the integers
(`orderKey_ofInt_le`): within a binade because a rounded quotient grows with its numerator,
and from one binade to the next because rounding never leaves the closed binade
(`roundAt_bounds`). A pattern that is no NaN is the pattern of the double made from it
(`toBits_ofBits`), so the pattern computed by rounding is the one compared.
-/

set_option autoImplicit false

namespace ColumnarSql.Binary64

/-! ## Patterns -/

section Patterns

open Float.Model Float.Model.UnpackedFloat

/-- A pattern up to infinity survives being read and written. -/
theorem toBits_ofBits {b : UInt64} (h : b.toNat % signBit ≤ infinityBits) :
    (Float.ofBits b).toBits = b := by
  have hnumber : ¬@isNaNBits Format.binary64 b.toBitVec := by
    simp only [isNaNBits, decide_eq_true_eq, not_and, not_not]
    intro he
    have he : b.toNat / 2 ^ 52 % 2 ^ 11 = 2047 := by
      simpa [unpackExponent, BitVec.toNat_eq, Nat.shiftRight_eq_div_pow] using he
    refine BitVec.eq_of_toNat_eq ?_
    have hm : (@unpackMantissa Format.binary64 b.toBitVec).toNat = b.toNat % 2 ^ 52 := by
      simp [unpackMantissa]
    rw [hm]
    simp only [signBit, infinityBits] at h
    change b.toNat % 2 ^ 52 = 0
    omega
  have hpack : (UnpackedFloat.unpack Format.binary64 b.toBitVec).pack Format.binary64 =
      b.toBitVec := by
    rw [UnpackedFloat.pack_unpack, if_neg hnumber]
  exact congrArg UInt64.ofBitVec hpack

end Patterns

theorem toNat_toBits_ofMagnitude {s : Bool} {m : Nat} (h : m ≤ infinityBits) :
    (ofMagnitude s m).toBits.toNat = if s then signBit + m else m := by
  have hlt : (if s then signBit + m else m) < 2 ^ 64 := by
    simp only [signBit, infinityBits] at *
    split <;> omega
  have hnat := UInt64.toNat_ofNat_of_lt' hlt
  unfold ofMagnitude
  rw [toBits_ofBits, hnat]
  rw [hnat]
  simp only [signBit, infinityBits] at *
  split <;> omega

theorem magnitude_ofMagnitude {s : Bool} {m : Nat} (h : m ≤ infinityBits) :
    magnitude (ofMagnitude s m) = m := by
  rw [magnitude, toNat_toBits_ofMagnitude h]
  simp only [signBit, infinityBits] at *
  split <;> omega

theorem isNegative_ofMagnitude {s : Bool} {m : Nat} (h : m ≤ infinityBits) :
    isNegative (ofMagnitude s m) = s := by
  rw [isNegative, toNat_toBits_ofMagnitude h]
  have hm : m < signBit := Nat.lt_of_le_of_lt h (by decide)
  cases s with
  | true => exact decide_eq_true (Nat.le_add_right signBit m)
  | false => exact decide_eq_false (Nat.not_le_of_lt hm)

/-- A double below NaN is compared by its pattern and its sign. -/
theorem orderKey_ofMagnitude {s : Bool} {m : Nat} (h : m ≤ infinityBits) :
    orderKey (ofMagnitude s m) = if s then -(m : Int) else m := by
  have hnumber : isNaN (ofMagnitude s m) = false := by
    rw [isNaN, magnitude_ofMagnitude h]
    simpa using h
  simp [orderKey, hnumber, magnitude_ofMagnitude h, isNegative_ofMagnitude h]

/-! ## Rounded quotients -/

/-- A whole number rounds to itself. -/
theorem divHalfEven_mul_left (k : Nat) {den : Nat} (h : 0 < den) :
    divHalfEven (k * den) den = k := by
  simp [divHalfEven, Nat.mul_div_cancel k h, Nat.ne_of_lt h]

theorem divHalfEven_mono {n m den : Nat} (h : n ≤ m) :
    divHalfEven n den ≤ divHalfEven m den := by
  have hquotient : n / den ≤ m / den := Nat.div_le_div_right h
  rcases Nat.lt_or_eq_of_le hquotient with hlt | heq
  · simp only [divHalfEven]
    split <;> split <;> omega
  · -- in one quotient the remainders decide, and they grow with the numerators
    have hremainder : n % den ≤ m % den := by
      have hn := Nat.div_add_mod n den
      have hm := Nat.div_add_mod m den
      rw [heq] at hn
      omega
    simp only [divHalfEven, heq]
    split <;> split <;> omega

theorem le_divHalfEven {k n den : Nat} (hden : 0 < den) (h : k * den ≤ n) :
    k ≤ divHalfEven n den :=
  divHalfEven_mul_left k hden ▸ divHalfEven_mono h

theorem divHalfEven_le {k n den : Nat} (hden : 0 < den) (h : n ≤ k * den) :
    divHalfEven n den ≤ k :=
  divHalfEven_mul_left k hden ▸ divHalfEven_mono h

/-! ## Rounding at a binade -/

theorem roundAt_mono {e : Int} {n m : Nat} (h : n ≤ m) : roundAt e n 1 ≤ roundAt e m 1 :=
  Nat.add_le_add_left (divHalfEven_mono (Nat.mul_le_mul_right _ h)) _

/-- Rounding at a binade stays in the closed binade. -/
theorem roundAt_bounds {n e : Nat} (hn : 2 ^ e ≤ n) (hn' : n < 2 ^ (e + 1)) :
    (e + 1023) * leadingBit ≤ roundAt e n 1 ∧ roundAt e n 1 ≤ (e + 1024) * leadingBit := by
  obtain ⟨a, ha⟩ : ∃ a, (52 - e : Int).toNat = a := ⟨_, rfl⟩
  obtain ⟨b, hb⟩ : ∃ b, (e - 52 : Int).toNat = b := ⟨_, rfl⟩
  have hfield : (e + 1022 : Int).toNat = e + 1022 := by omega
  have hshift : e + a = 52 + b := by omega
  have hlow : 2 ^ 52 * (1 * 2 ^ b) ≤ n * 2 ^ a :=
    calc 2 ^ 52 * (1 * 2 ^ b) = 2 ^ e * 2 ^ a := by rw [one_mul, ← pow_add, ← pow_add, hshift]
      _ ≤ n * 2 ^ a := Nat.mul_le_mul_right _ hn
  have hhigh : n * 2 ^ a ≤ 2 ^ 53 * (1 * 2 ^ b) :=
    calc n * 2 ^ a ≤ 2 ^ (e + 1) * 2 ^ a := Nat.mul_le_mul_right _ (Nat.le_of_lt hn')
      _ = 2 ^ 53 * (1 * 2 ^ b) := by
        rw [one_mul, ← pow_add, ← pow_add]
        congr 1
        omega
  have hden : 0 < 1 * 2 ^ b := by simp
  have hlow' := le_divHalfEven hden hlow
  have hhigh' := divHalfEven_le hden hhigh
  simp only [roundAt, ha, hb, hfield, leadingBit, Nat.pow_eq] at *
  omega

/-! ## Rounding integers -/

theorem magnitudeOfNat_bounds {n : Nat} (h : n ≠ 0) :
    (n.log2 + 1023) * leadingBit ≤ magnitudeOfNat n ∧
      magnitudeOfNat n ≤ (n.log2 + 1024) * leadingBit := by
  rw [magnitudeOfNat, if_neg h]
  exact roundAt_bounds (Nat.log2_self_le h) Nat.lt_log2_self

/-- Within a binade the quotients keep the order, and a higher binade begins where the lower
one ends. -/
theorem magnitudeOfNat_mono {n m : Nat} (h : n ≤ m) : magnitudeOfNat n ≤ magnitudeOfNat m := by
  by_cases hn : n = 0
  · simp [magnitudeOfNat, hn]
  have hm : m ≠ 0 := by omega
  have hlog : n.log2 ≤ m.log2 := (Nat.le_log2 hm).mpr (Nat.le_trans (Nat.log2_self_le hn) h)
  rcases Nat.lt_or_eq_of_le hlog with hlt | heq
  · calc magnitudeOfNat n ≤ (n.log2 + 1024) * leadingBit := (magnitudeOfNat_bounds hn).2
      _ ≤ (m.log2 + 1023) * leadingBit := Nat.mul_le_mul_right _ (by omega)
      _ ≤ magnitudeOfNat m := (magnitudeOfNat_bounds hm).1
  · rw [magnitudeOfNat, magnitudeOfNat, if_neg hn, if_neg hm, heq]
    exact roundAt_mono h

/-- Up to the width of a significand rounding is exact. -/
theorem roundAt_of_le {n e : Nat} (h : e ≤ 52) :
    roundAt e n 1 = (e + 1022) * leadingBit + n * 2 ^ (52 - e) := by
  have hfield : (e + 1022 : Int).toNat = e + 1022 := by omega
  have hleft : (52 - e : Int).toNat = 52 - e := by omega
  have hright : (e - 52 : Int).toNat = 0 := by omega
  have hwhole : divHalfEven (n * 2 ^ (52 - e)) 1 = n * 2 ^ (52 - e) := by
    simpa using divHalfEven_mul_left (n * 2 ^ (52 - e)) Nat.one_pos
  simp only [roundAt, hfield, hleft, hright, Nat.pow_eq, pow_zero, one_mul, hwhole]

theorem magnitudeOfNat_lt {n m : Nat} (h : n < m) (hn : n < 2 ^ 53) :
    magnitudeOfNat n < magnitudeOfNat m := by
  have hm : m ≠ 0 := by omega
  have hstart := (magnitudeOfNat_bounds hm).1
  by_cases hzero : n = 0
  · have : 0 < (m.log2 + 1023) * leadingBit := Nat.mul_pos (by omega) (by decide)
    simp only [hzero, magnitudeOfNat, if_true] at *
    omega
  have hexact : n.log2 ≤ 52 := Nat.le_of_lt_succ ((Nat.log2_lt hzero).mpr hn)
  have hvalue : magnitudeOfNat n = (n.log2 + 1022) * leadingBit + n * 2 ^ (52 - n.log2) := by
    rw [magnitudeOfNat, if_neg hzero, roundAt_of_le hexact]
  have hlog : n.log2 ≤ m.log2 :=
    (Nat.le_log2 hm).mpr (Nat.le_trans (Nat.log2_self_le hzero) (Nat.le_of_lt h))
  rcases Nat.lt_or_eq_of_le hlog with hlt | heq
  · have hscaled : n * 2 ^ (52 - n.log2) < 2 ^ 53 :=
      calc n * 2 ^ (52 - n.log2) < 2 ^ (n.log2 + 1) * 2 ^ (52 - n.log2) :=
            Nat.mul_lt_mul_of_pos_right Nat.lt_log2_self (by simp)
        _ = 2 ^ 53 := by
          rw [← pow_add]
          congr 1
          omega
    have hnext : (n.log2 + 1024) * leadingBit ≤ (m.log2 + 1023) * leadingBit :=
      Nat.mul_le_mul_right _ (by omega)
    simp only [leadingBit] at *
    omega
  · rw [hvalue, magnitudeOfNat, if_neg hm, ← heq, roundAt_of_le hexact]
    exact Nat.add_lt_add_left (Nat.mul_lt_mul_of_pos_right h (by simp)) _

theorem magnitudeOfNat_le_infinityBits {n : Nat} (h : n < 2 ^ 64) :
    magnitudeOfNat n ≤ infinityBits := by
  by_cases hn : n = 0
  · simp [magnitudeOfNat, hn]
  have hlog : n.log2 < 64 := (Nat.log2_lt hn).mpr h
  calc magnitudeOfNat n ≤ (n.log2 + 1024) * leadingBit := (magnitudeOfNat_bounds hn).2
    _ ≤ 1087 * leadingBit := Nat.mul_le_mul_right _ (by omega)
    _ ≤ infinityBits := by decide

theorem orderKey_ofInt {i : Int} (h : i.natAbs < 2 ^ 64) :
    orderKey (ofInt i) =
      if i < 0 then -(magnitudeOfNat i.natAbs : Int) else magnitudeOfNat i.natAbs := by
  rw [ofInt, orderKey_ofMagnitude (magnitudeOfNat_le_infinityBits h)]
  simp

/-- Rounding keeps the order. -/
theorem orderKey_ofInt_le {i j : Int} (hi : i.natAbs < 2 ^ 64) (hj : j.natAbs < 2 ^ 64)
    (h : i ≤ j) : orderKey (ofInt i) ≤ orderKey (ofInt j) := by
  rw [orderKey_ofInt hi, orderKey_ofInt hj]
  split <;> split
  · have := magnitudeOfNat_mono (show j.natAbs ≤ i.natAbs by omega)
    omega
  · omega
  · omega
  · have := magnitudeOfNat_mono (show i.natAbs ≤ j.natAbs by omega)
    omega

/-- Different integers of 53 bits are different doubles. -/
theorem orderKey_ofInt_lt {i j : Int} (hi : i.natAbs ≤ 2 ^ 53) (hj : j.natAbs ≤ 2 ^ 53)
    (h : i < j) : orderKey (ofInt i) < orderKey (ofInt j) := by
  rw [orderKey_ofInt (by omega), orderKey_ofInt (by omega)]
  split <;> split
  · have := magnitudeOfNat_lt (show j.natAbs < i.natAbs by omega) (by omega)
    omega
  · have := magnitudeOfNat_lt (show 0 < i.natAbs by omega) (by omega)
    omega
  · omega
  · have := magnitudeOfNat_lt (show i.natAbs < j.natAbs by omega) (by omega)
    omega

end ColumnarSql.Binary64
