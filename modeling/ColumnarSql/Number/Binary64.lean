/-!
# Exact view of doubles

A finite double is `± mantissa · 2 ^ exponent`. This file reads that form off
the 64-bit pattern, orders all doubles by an integer key, and rounds an exact
ratio of naturals to the nearest double, ties to the even significand.
`compareFloat` puts NaN after every number and makes the two zeros equal.
-/

set_option autoImplicit false

namespace ColumnarSql.Binary64

/-- Pattern of positive infinity; the patterns above it are NaNs. -/
def infinityBits : Nat := 0x7ff0000000000000

/-- Weight of the sign bit. -/
def signBit : Nat := 0x8000000000000000

/-- Leading bit of a mantissa, and the weight of one step of the exponent field. -/
def leadingBit : Nat := 0x10000000000000

/-- Pattern without its sign bit. -/
def magnitude (x : Float) : Nat := x.toBits.toNat % signBit

/-- Sign bit, set also for negative zero. -/
def isNegative (x : Float) : Bool := signBit ≤ x.toBits.toNat

def isNaN (x : Float) : Bool := infinityBits < magnitude x

def isInfinite (x : Float) : Bool := magnitude x = infinityBits

def isFinite (x : Float) : Bool := magnitude x < infinityBits

def isZero (x : Float) : Bool := magnitude x = 0

/-- The double with the given sign and magnitude pattern. -/
def ofMagnitude (negative : Bool) (bits : Nat) : Float :=
  Float.ofBits (UInt64.ofNat (if negative then signBit + bits else bits))

/-! ## Order -/

/-- Order key: both zeros share `0`, all NaNs share the greatest key. -/
def orderKey (x : Float) : Int :=
  if isNaN x then signBit
  else if isNegative x then -(magnitude x : Int) else magnitude x

def compareFloat (x y : Float) : Ordering := compare (orderKey x) (orderKey y)

/-! ## Mantissa and exponent -/

/-- Mantissa of a finite magnitude pattern; the leading bit is implicit unless
the exponent field is zero. -/
def mantissa (bits : Nat) : Nat :=
  if bits / leadingBit = 0 then bits else leadingBit + bits % leadingBit

/-- Exponent of two that belongs to `mantissa`. -/
def exponent (bits : Nat) : Int :=
  ((max (bits / leadingBit) 1 : Nat) : Int) - 1075

/-- `2 ^ e` as a ratio of naturals, numerator first. -/
def powerOfTwo (e : Int) : Nat × Nat := (Nat.pow 2 e.toNat, Nat.pow 2 (-e).toNat)

/-! ## Rounding -/

/-- `num / den` rounded to the nearest natural, a half to the even one. -/
def divHalfEven (num den : Nat) : Nat :=
  let q := num / den
  let r := num % den
  if den < 2 * r ∨ (2 * r = den ∧ q % 2 = 1) then q + 1 else q

/-- `num / den` rounded to the nearest natural, a half upwards. -/
def divHalfUp (num den : Nat) : Nat := (2 * num + den) / (2 * den)

/-- Pattern of `num / den` rounded at the binade `[2 ^ e, 2 ^ (e + 1))`. The
implicit leading bit carries into the exponent field, so rounding up to the
next power of two needs no case of its own. -/
def roundAt (e : Int) (num den : Nat) : Nat :=
  (e + 1022).toNat * leadingBit +
    divHalfEven (num * Nat.pow 2 (52 - e).toNat) (den * Nat.pow 2 (e - 52).toNat)

/-- Pattern of the double nearest to `n`. -/
def magnitudeOfNat (n : Nat) : Nat :=
  if n = 0 then 0 else roundAt n.log2 n 1

/-- Greatest `e` with `2 ^ e ≤ num / den`, for positive `num` and `den`. -/
def floorLog2 (num den : Nat) : Int :=
  let e : Int := (num.log2 : Int) - den.log2
  let p := powerOfTwo e
  if num * p.2 < den * p.1 then e - 1 else e

/-- Pattern of the double nearest to `num / den`; infinity when too large. -/
def magnitudeOfRatio (num den : Nat) : Nat :=
  if num = 0 then 0
  else min infinityBits (roundAt (max (floorLog2 num den) (-1022)) num den)

/-- The double nearest to an integer, ties to even. -/
def ofInt (i : Int) : Float := ofMagnitude (i < 0) (magnitudeOfNat i.natAbs)

/-- The double nearest to `± num / den`, ties to even. -/
def ofRatio (negative : Bool) (num den : Nat) : Float :=
  ofMagnitude negative (magnitudeOfRatio num den)

/-! ## Integer part and remainder -/

/-- A finite double rounded to the nearest integer, a half away from zero. -/
def roundHalfAway (x : Float) : Int :=
  let p := powerOfTwo (exponent (magnitude x))
  let n := divHalfUp (mantissa (magnitude x) * p.1) p.2
  if isNegative x then -(n : Int) else n

/-- Remainder of the truncated quotient, with the sign of the dividend. It is
exact: on the finer of the two binary grids both operands are integers, and
their remainder is a double. -/
def remainder (x y : Float) : Float :=
  if isNaN x || isNaN y || isInfinite x || isZero y then Float.ofBits 0x7ff8000000000000
  else if isInfinite y || isZero x then x
  else
    let ex := exponent (magnitude x)
    let ey := exponent (magnitude y)
    let e := min ex ey
    let m := mantissa (magnitude x) * Nat.pow 2 (ex - e).toNat
    let n := mantissa (magnitude y) * Nat.pow 2 (ey - e).toNat
    let p := powerOfTwo e
    ofRatio (isNegative x) (m % n * p.1) p.2

/-- The double without its sign. -/
def abs (x : Float) : Float := ofMagnitude false (magnitude x)

end ColumnarSql.Binary64
