import ColumnarSql.Number.Shortest

/-!
# Text of a double

A layout says which magnitudes are written positionally and whether a whole
number keeps a fractional zero. All digits come from `Shortest.digits`.
-/

set_option autoImplicit false

namespace ColumnarSql

/-- How a double is written. -/
structure Layout where
  /-- Positions of the decimal point that are written without an exponent. -/
  positional : Int → Bool
  /-- Whether a whole number ends in `.0`. -/
  wholeMark : Bool

namespace Layout

/-- Never an exponent, and whole numbers bare. -/
def plain : Layout := ⟨fun _ => true, false⟩

/-- An exponent below `0.0001` and from `10 ^ 16` on; whole numbers end in `.0`. -/
def detailed : Layout := ⟨fun point => -4 < point && point < 17, true⟩

/-- Digits around a decimal point, padded with zeros on the short side. -/
def place (l : Layout) (digits : List Char) (point : Int) : List Char :=
  if point ≤ 0 then '0' :: '.' :: List.replicate (-point).toNat '0' ++ digits
  else
    let n := point.toNat
    if digits.length ≤ n then
      digits ++ List.replicate (n - digits.length) '0' ++
        (if l.wholeMark then ['.', '0'] else [])
    else digits.take n ++ '.' :: digits.drop n

/-- One digit before the point, then the exponent of ten. -/
def scientific (digits : List Char) (point : Int) : List Char :=
  digits.take 1 ++ (if digits.length ≤ 1 then [] else '.' :: digits.drop 1) ++
    'e' :: (toString (point - 1)).toList

/-- Text of a double; zero keeps its sign, NaN has none. -/
def render (l : Layout) (x : Float) : String :=
  if Binary64.isNaN x then "NaN"
  else
    let body :=
      if Binary64.isInfinite x then "inf".toList
      else if Binary64.isZero x then '0' :: (if l.wholeMark then ['.', '0'] else [])
      else
        let d := Shortest.digits x
        if l.positional d.point then l.place d.digits d.point else scientific d.digits d.point
    String.ofList (if Binary64.isNegative x then '-' :: body else body)

end Layout

end ColumnarSql
