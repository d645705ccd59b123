import Geocoding.Decimal.Binary
import Geocoding.Decimal.Power

/-!
# The order of binary64 numbers

The bits of a number without its sign bit, taken for a whole number, grow with its magnitude. That gives
every number a place on a line; the two zeros share theirs.
-/

namespace Geocoding.Decimal

/-- The bits of `x` without the sign. -/
def magnitudeBits (x : Float) : Nat := x.toBits.toNat % twoTo 63

/-- The place of a number: for numbers, the smaller has the smaller place. -/
def place (x : Float) : Int :=
  if isNegative x then -(magnitudeBits x : Int) else magnitudeBits x

/-- A place for every value by itself: negative zero comes before zero, and what is not a number after
every positive number. -/
def totalPlace (x : Float) : Int :=
  if isNegative x then -(magnitudeBits x : Int) - 1 else magnitudeBits x

end Geocoding.Decimal
