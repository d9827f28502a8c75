import ColumnarSql.Number.Binary64

/-!
# Shortest decimal digits

The digits of a finite positive double are the fewest whose value still rounds
to that double. Among the candidates with that many digits the nearest is
taken, and the greater one when two are equally near. The search is exact: it
compares naturals over a common denominator.
-/

set_option autoImplicit false

namespace ColumnarSql.Shortest

open Binary64

/-- A positive decimal: `0.d₁d₂…dₙ · 10 ^ point`, with `digits = d₁d₂…dₙ` free
of leading and trailing zeros. -/
structure Digits where
  digits : List Char
  point : Int
deriving DecidableEq, Repr

/-- The value of a double and the ends of the interval that rounds to it, over
one common denominator. The ends belong to it iff the mantissa is even. -/
structure Interval where
  low : Nat
  value : Nat
  high : Nat
  den : Nat
  closed : Bool

/-- The gap below a power of two is half the gap above it. -/
def Interval.ofMagnitude (bits : Nat) : Interval :=
  let m := mantissa bits
  let p := powerOfTwo (exponent bits - 2)
  let narrow := bits % leadingBit = 0 ∧ leadingBit < bits
  ⟨(4 * m - if narrow then 1 else 2) * p.1, 4 * m * p.1, (4 * m + 2) * p.1, p.2, m % 2 = 0⟩

/-- Whether `num / den` rounds to the double; both are scaled to one denominator. -/
def Interval.contains (i : Interval) (num den : Nat) : Bool :=
  if i.closed then i.low * den ≤ num * i.den && num * i.den ≤ i.high * den
  else i.low * den < num * i.den && num * i.den < i.high * den

/-- The multiple of the grid step `stepNum / stepDen` chosen for the interval:
of the two neighbours of the value those inside count, and the nearer wins. -/
def Interval.onGrid (i : Interval) (stepNum stepDen : Nat) : Option Nat :=
  let scaled := i.value * stepDen
  let unit := i.den * stepNum
  let below := scaled / unit
  let above := below + 1
  let hasBelow := 0 < below && i.contains (below * stepNum) stepDen
  let hasAbove := i.contains (above * stepNum) stepDen
  match hasBelow, hasAbove with
  | true, true => if 2 * (scaled % unit) < unit then some below else some above
  | true, false => some below
  | false, true => some above
  | false, false => none

/-- Greatest `k` with `10 ^ k ≤ num / den`, searched upwards from `k`. -/
def floorLog10From (num den : Nat) : Nat → Int → Int
  | 0, k => k
  | fuel + 1, k =>
    if num * Nat.pow 10 (-(k + 1)).toNat < den * Nat.pow 10 (k + 1).toNat then k
    else floorLog10From num den fuel (k + 1)

/-- Greatest `k` with `10 ^ k ≤ num / den`, for the ratios of doubles: their
binary logarithm stays within `± 1100`, so three tenths of it misses the
decimal one by less than three. -/
def floorLog10 (num den : Nat) : Int :=
  floorLog10From num den 8 (floorLog2 num den * 3 / 10 - 3)

/-- Digits of a natural without trailing zeros. -/
def trimmedDigits (n : Nat) : List Char :=
  ((Nat.toDigits 10 n).reverse.dropWhile (· = '0')).reverse

/-- Tries grids of `count`, `count + 1`, … digits. -/
def search (i : Interval) (top : Int) : Nat → Int → Digits
  | 0, _ => ⟨['0'], 1⟩
  | fuel + 1, count =>
    let e := top + 1 - count
    match i.onGrid (Nat.pow 10 e.toNat) (Nat.pow 10 (-e).toNat) with
    | some n => ⟨trimmedDigits n, e + (Nat.toDigits 10 n).length⟩
    | none => search i top fuel (count + 1)

/-- Shortest digits of a finite positive double; seventeen always suffice. -/
def digits (x : Float) : Digits :=
  let i := Interval.ofMagnitude (magnitude x)
  search i (floorLog10 i.value i.den) 17 1

end ColumnarSql.Shortest
