import ColumnarSql.Number.Binary64

/-!
# Numbers read from text

An integer is an optional sign and ASCII digits. A double is an optional sign
and either a word (`inf`, `infinity`, `nan`, in any case) or digits with an
optional point and exponent; at least one digit stands beside the point. The
decimal is rounded once, exactly.
-/

set_option autoImplicit false

namespace ColumnarSql.Reading

/-- Splits off a sign; `true` is negative. -/
def sign : List Char → Bool × List Char
  | '-' :: r => (true, r)
  | '+' :: r => (false, r)
  | r => (false, r)

def digitValue (c : Char) : Nat := c.toNat - '0'.toNat

/-- Value of a run of decimal digits. -/
def natOfDigits (ds : List Char) : Nat := ds.foldl (fun n c => 10 * n + digitValue c) 0

/-- Leading digits and the rest. -/
def digits (s : List Char) : List Char × List Char :=
  (s.takeWhile Char.isDigit, s.dropWhile Char.isDigit)

/-- A whole text of one or more digits with an optional sign. -/
def integer? (s : List Char) : Option Int :=
  let (negative, r) := sign s
  if r.isEmpty || !r.all Char.isDigit then none
  else
    let n : Int := natOfDigits r
    some (if negative then -n else n)

/-- An exponent mark, an optional sign and digits; absent text is exponent `0`. -/
def exponent? : List Char → Option Int
  | [] => some 0
  | c :: r => if c = 'e' || c = 'E' then integer? r else none

/-- `± n · 10 ^ e` as a double. Far outside the range of doubles the power of
ten is not formed. -/
def ofDecimal (negative : Bool) (n : Nat) (e : Int) : Float :=
  let size := (Nat.toDigits 10 n).length + e
  if n = 0 ∨ size < -400 then Binary64.ofMagnitude negative 0
  else if 400 < size then Binary64.ofMagnitude negative Binary64.infinityBits
  else Binary64.ofRatio negative (n * Nat.pow 10 e.toNat) (Nat.pow 10 (-e).toNat)

/-- Digits, an optional point with more digits, an optional exponent. -/
def decimal? (negative : Bool) (s : List Char) : Option Float :=
  let (whole, r) := digits s
  let (fraction, rest) :=
    match r with
    | '.' :: r => digits r
    | r => ([], r)
  if whole.isEmpty && fraction.isEmpty then none
  else
    (exponent? rest).map fun e =>
      ofDecimal negative (natOfDigits (whole ++ fraction)) (e - fraction.length)

/-- A whole text that denotes a double. -/
def float? (s : List Char) : Option Float :=
  let (negative, r) := sign s
  let word := String.ofList (r.map Char.toLower)
  if word = "inf" ∨ word = "infinity" then
    some (Binary64.ofMagnitude negative Binary64.infinityBits)
  else if word = "nan" then some (Float.ofBits 0x7ff8000000000000)
  else decimal? negative r

end ColumnarSql.Reading
