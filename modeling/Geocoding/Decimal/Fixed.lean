import Geocoding.Decimal.Binary
import Geocoding.Decimal.Power

/-!
# Decimals with a fixed number of places

The exact value of a binary64 number, rounded to a given number of places; a half goes to the even
neighbour and the sign of zero is kept.
-/

namespace Geocoding.Decimal

/-- The magnitude of `b` in units of `10 ^ -places`, rounded. -/
def Binary.scaled (places : Nat) (b : Binary) : Nat :=
  match b.exponent with
  | .ofNat e => b.mantissa * twoTo e * tenTo places
  | .negSucc e => roundHalfEven (b.mantissa * tenTo places) (twoTo (e + 1))

/-- A whole number of units of `10 ^ -places`, with the point in its place. -/
def pointed (places n : Nat) : List Char :=
  let ds := Nat.toDigits 10 n
  let ds := List.replicate (places + 1 - ds.length) '0' ++ ds
  let whole := ds.take (ds.length - places)
  if places = 0 then whole else whole ++ '.' :: ds.drop (ds.length - places)

/-- `x` with exactly `places` digits after the point. -/
def fixed (places : Nat) (x : Float) : String :=
  match Binary.ofFloat? x with
  | some b => .ofList ((if b.negative then ['-'] else []) ++ pointed places (b.scaled places))
  | none => if x.isNaN then "NaN" else if isNegative x then "-inf" else "inf"

end Geocoding.Decimal
