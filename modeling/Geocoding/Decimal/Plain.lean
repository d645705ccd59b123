import Geocoding.Decimal.Shortest

/-!
# Plain decimal text

Shortest digits written without an exponent: whole numbers have no point, numbers below one begin with
a zero.
-/

namespace Geocoding.Decimal

/-- A decimal written without an exponent. -/
def Scientific.plain (d : Scientific) : List Char :=
  let ds := Nat.toDigits 10 d.digits
  match d.exponent with
  | .ofNat e => ds ++ List.replicate e '0'
  | .negSucc e =>
    let places := e + 1
    let ds := List.replicate (places + 1 - ds.length) '0' ++ ds
    ds.take (ds.length - places) ++ '.' :: ds.drop (ds.length - places)

/-- `x` as messages show it; of two equally near decimals the larger is taken. -/
def plain (x : Float) : String :=
  match Binary.ofFloat? x with
  | some b =>
    let magnitude := if b.mantissa = 0 then ['0'] else (b.shortest .up).plain
    .ofList (if b.negative then '-' :: magnitude else magnitude)
  | none => if x.isNaN then "NaN" else if isNegative x then "-inf" else "inf"

end Geocoding.Decimal
