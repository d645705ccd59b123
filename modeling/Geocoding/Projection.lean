import Geocoding.Decimal.Binary

/-!
# Web mercator

Points on the globe in degrees, points of the spherical web mercator plane in metres, and the way from
one to the other. The formulas are written once for every kind of number that has the elementary
functions they use; geocoding takes binary64 numbers.
-/

namespace Geocoding

/-- A point on the globe, in degrees. -/
structure Geographic (α : Type) where
  lat : α
  lon : α
  deriving DecidableEq, Repr

/-- A point of the plane, in metres. -/
structure Projected (α : Type) where
  x : α
  y : α
  deriving DecidableEq, Repr

abbrev GeographicPoint := Geographic Float
abbrev ProjectedPoint := Projected Float

/-- Numbers with the constants and functions of the projection. `withSign x s` has the magnitude of `x`
and the sign of `s`. -/
class Elementary (α : Type) where
  earthRadius : α
  quarterTurn : α
  eighthTurn : α
  radiansPerDegree : α
  degreesPerRadian : α
  add : α → α → α
  sub : α → α → α
  mul : α → α → α
  div : α → α → α
  two : α
  abs : α → α
  tan : α → α
  log : α → α
  exp : α → α
  arctan : α → α
  withSign : α → α → α

namespace Elementary

variable {α : Type} [Elementary α]

/-- Metres to the east of the prime meridian. -/
def easting (lon : α) : α := mul earthRadius (mul lon radiansPerDegree)

/-- Metres to the north of the equator, computed on the northern half; the southern is its reflection. -/
def northing (lat : α) : α :=
  let angle := mul lat radiansPerDegree
  withSign (mul earthRadius (log (tan (add eighthTurn (div (abs angle) two))))) angle

/-- Degrees to the east of the prime meridian. -/
def longitude (x : α) : α := mul (div x earthRadius) degreesPerRadian

/-- Degrees to the north of the equator. -/
def latitude (y : α) : α :=
  mul (sub (mul two (arctan (exp (div y earthRadius)))) quarterTurn) degreesPerRadian

end Elementary

/-- The place of a point in the plane. -/
def Geographic.toProjected {α : Type} [Elementary α] (p : Geographic α) : Projected α :=
  ⟨Elementary.easting p.lon, Elementary.northing p.lat⟩

/-- The place of a point on the globe. -/
def Projected.toGeographic {α : Type} [Elementary α] (p : Projected α) : Geographic α :=
  ⟨Elementary.latitude p.y, Elementary.longitude p.x⟩

/-- The number with the magnitude of `x` and the sign of `s`. -/
def withSignOf (x s : Float) : Float := if Decimal.isNegative s then -x.abs else x.abs

instance : Elementary Float where
  earthRadius := 6378137.0
  quarterTurn := 1.57079632679489661923132169163975144
  eighthTurn := 0.785398163397448309615660845819875721
  radiansPerDegree := 0.0174532925199432957692369076848861271
  degreesPerRadian := 57.2957795130823208767981548141051703
  add := Float.add
  sub := Float.sub
  mul := Float.mul
  div := Float.div
  two := 2.0
  abs := Float.abs
  tan := Float.tan
  log := Float.log
  exp := Float.exp
  arctan := Float.atan
  withSign := withSignOf

/-- The spatial reference system of the plane. -/
def webMercator : Int := 3857

end Geocoding
