import Geocoding.Decimal.Order
import Geocoding.Decimal.Plain
import Geocoding.Decimal.Reading
import Geocoding.Projection
import Geocoding.Text.Blank

/-!
# The centre of a search on the command line

A centre is a latitude and a longitude with a comma between them, each perhaps between blanks. It must be
a point of the globe.
-/

namespace Geocoding.CommandLine

open Decimal (ReadError)

/-- Why a centre is refused. The parts of the text are shown with their blanks. -/
inductive CentreError where
  | comma (text : String)
  | latitude (text : String) (e : ReadError)
  | longitude (text : String) (e : ReadError)
  | outside (p : GeographicPoint)

/-- The reason in words. -/
def CentreError.message : CentreError → String
  | comma text => "expected \x60lat,lon\x60, got '" ++ text ++ "'"
  | latitude text e => "invalid latitude '" ++ text ++ "': " ++ e.message
  | longitude text e => "invalid longitude '" ++ text ++ "': " ++ e.message
  | outside p => "coordinate out of range: " ++ Decimal.plain p.lat ++ "," ++ Decimal.plain p.lon

/-- Whether a number is no further from zero than `bound`. -/
def isWithin (bound x : Float) : Bool :=
  decide (Decimal.magnitudeBits x ≤ Decimal.magnitudeBits bound)

/-- Whether a point is one of the globe. -/
def isOnGlobe (p : GeographicPoint) : Bool := isWithin 90.0 p.lat && isWithin 180.0 p.lon

/-- Reads a centre. -/
def centre (text : String) : Except CentreError GeographicPoint := do
  let cs := text.toList
  match cs.dropWhile (· != ',') with
  | [] => .error (.comma text)
  | _ :: after =>
    let lat := String.ofList (cs.takeWhile (· != ','))
    let lon := String.ofList after
    let p : GeographicPoint :=
      ⟨← (Decimal.read (Text.trim lat)).mapError (.latitude lat),
        ← (Decimal.read (Text.trim lon)).mapError (.longitude lon)⟩
    if isOnGlobe p then .ok p else .error (.outside p)

end Geocoding.CommandLine
