import Geocoding.Decimal.Order
import Geocoding.Decimal.Reading

/-!
# Distances

A distance as a store tells it: a binary64 number, passed on as it is. What is not a number may carry the
negative sign, and is put in another place then; a `Float` does not keep that sign.
-/

namespace Geocoding

/-- A distance in metres. -/
inductive Distance where
  | metres (x : Float)
  /-- What is not a number, with the negative sign. -/
  | negativeNaN
  deriving DecidableEq

namespace Distance

instance : Coe Float Distance := ⟨metres⟩

/-- The distance as a number; what is not a number loses its sign. -/
def value : Distance → Float
  | metres x => x
  | negativeNaN => Decimal.notANumber

/-- Whether this is not a number. -/
def isNaN (d : Distance) : Bool := d.value.isNaN

/-- The place of a distance in the order of all values, by the sign first. -/
def totalPlace : Distance → Int
  | metres x => Decimal.totalPlace x
  | negativeNaN => -(Decimal.magnitudeBits Decimal.notANumber : Int) - 1

/-- The smaller of two distances; what is not a number gives way, and of two zeros the first stays. -/
def smaller (x y : Distance) : Distance :=
  if x.isNaN then y
  else if y.isNaN then x
  else if Decimal.place y.value < Decimal.place x.value then y
  else x

end Distance

end Geocoding
