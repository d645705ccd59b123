import Geocoding.Decimal.Order
import Geocoding.Decimal.Plain

/-!
# Radii

The distances within which buildings near a point are looked for, one after the other: at least one,
all finite and positive, each larger than the one before.
-/

namespace Geocoding

/-- Whether `r` is a distance to search within. -/
def isRadius (r : Float) : Bool := r.isFinite && decide (0 < Decimal.place r)

/-- The first two neighbours of which the second is not larger. -/
def firstStep? : List Float → Option (Float × Float)
  | a :: b :: rs => if Decimal.place a < Decimal.place b then firstStep? (b :: rs) else some (a, b)
  | _ => none

/-- Why radii are refused. -/
inductive RadiiError where
  | empty
  | notPositive (r : Float)
  | notIncreasing (before after : Float)

/-- The refusal in words. -/
def RadiiError.message : RadiiError → String
  | empty => "at least one radius is required"
  | notPositive r => Decimal.plain r ++ " is not a positive distance"
  | notIncreasing before after =>
    Decimal.plain after ++ " does not increase on " ++ Decimal.plain before

/-- Radii that can be searched within. -/
structure Radii where
  toList : List Float
  ne_nil : toList ≠ []
  all_isRadius : toList.all isRadius = true
  increasing : firstStep? toList = none

namespace Radii

/-- Checks radii. -/
def ofList (rs : List Float) : Except RadiiError Radii :=
  if hn : rs = [] then .error .empty
  else match hb : rs.find? (!isRadius ·) with
    | some bad => .error (.notPositive bad)
    | none =>
      match hs : firstStep? rs with
      | some (a, b) => .error (.notIncreasing a b)
      | none => .ok ⟨rs, hn, by simpa using hb, hs⟩

/-- The radii when none are chosen. -/
def standard : Radii := ⟨[25.0, 50.0, 100.0], by simp, by decide +kernel, by decide +kernel⟩

end Radii

end Geocoding
