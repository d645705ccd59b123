import Geocoding.Text.Blank

/-!
# Addresses

What is known of a queried address, what is known of a building's address, and the way a search takes
given the parts that are known.
-/

namespace Geocoding

/-- The parts of an address that a query names. -/
structure QueryAddress where
  road : Option String
  houseNumber : Option String
  postcode : Option String
  city : Option String
  deriving DecidableEq, Repr

namespace QueryAddress

/-- The address without any part. -/
def none : QueryAddress := ⟨.none, .none, .none, .none⟩

/-- The whole query taken for the name of a road. -/
def roadOnly (query : String) : QueryAddress := { none with road := some query }

/-- A part without the blanks at its ends; a part of blanks alone is absent. -/
def cleaned (part : Option String) : Option String :=
  (part.map Text.trim).filter (· ≠ "")

/-- Every part cleaned. -/
def normalized (a : QueryAddress) : QueryAddress :=
  ⟨cleaned a.road, cleaned a.houseNumber, cleaned a.postcode, cleaned a.city⟩

/-- Whether no part is known. -/
def isEmpty (a : QueryAddress) : Bool :=
  a.road.isNone && a.houseNumber.isNone && a.postcode.isNone && a.city.isNone

end QueryAddress

/-- The address of a building; the house is the building's name. -/
structure BuildingAddress where
  house : Option String
  road : Option String
  houseNumber : Option String
  postcode : Option String
  city : Option String
  deriving DecidableEq, Repr

/-- How a search narrows down the buildings before it looks at roads and house numbers. -/
inductive Strategy where
  /-- The buildings of a postal-code area. -/
  | byPostcode
  /-- The buildings of a municipality. -/
  | byCity
  /-- All buildings. -/
  | byRoad
  deriving DecidableEq, Repr

namespace Strategy

/-- A postcode is preferred to a city. -/
def select (a : QueryAddress) : Strategy :=
  if a.postcode.isSome then byPostcode else if a.city.isSome then byCity else byRoad

/-- The name of a strategy. -/
def name : Strategy → String
  | byPostcode => "postcode_based"
  | byCity => "city_based"
  | byRoad => "road_only"

/-- The strategy of a name. -/
def ofName? : String → Option Strategy
  | "postcode_based" => some byPostcode
  | "city_based" => some byCity
  | "road_only" => some byRoad
  | _ => none

theorem ofName?_name (s : Strategy) : ofName? s.name = some s := by cases s <;> rfl

end Strategy

end Geocoding
