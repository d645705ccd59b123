import Geocoding.Answer
import Geocoding.Json.Reader
import Geocoding.Json.Record
import Geocoding.Json.Writer
import Geocoding.Nearest

/-!
# JSON records of addresses, points and answers
-/

namespace Geocoding

open Json (Record Value parts? required? optional? ofOption toJson)

instance : Record Distance where
  toJson d := toJson d.value
  ofJson? v := (Json.ofJson? v).map Distance.metres

instance : Record GeographicPoint where
  toJson p := .object [("lat", toJson p.lat), ("lon", toJson p.lon)]
  ofJson? v := do
    match ← parts? ["lat", "lon"] .complete v with
    | [lat, lon] => return ⟨← required? lat, ← required? lon⟩
    | _ => none

instance : Record ProjectedPoint where
  toJson p := .object [("x", toJson p.x), ("y", toJson p.y)]
  ofJson? v := do
    match ← parts? ["x", "y"] .complete v with
    | [x, y] => return ⟨← required? x, ← required? y⟩
    | _ => none

instance : Record QueryAddress where
  toJson a := .object [("road", ofOption a.road), ("house_number", ofOption a.houseNumber),
    ("postcode", ofOption a.postcode), ("city", ofOption a.city)]
  ofJson? v := do
    match ← parts? ["road", "house_number", "postcode", "city"] .shortened v with
    | [road, houseNumber, postcode, city] =>
      return ⟨← optional? road, ← optional? houseNumber, ← optional? postcode, ← optional? city⟩
    | _ => none

instance : Record BuildingAddress where
  toJson a := .object [("house", ofOption a.house), ("road", ofOption a.road),
    ("house_number", ofOption a.houseNumber), ("postcode", ofOption a.postcode),
    ("city", ofOption a.city)]
  ofJson? v := do
    match ← parts? ["house", "road", "house_number", "postcode", "city"] .complete v with
    | [house, road, houseNumber, postcode, city] =>
      return ⟨← optional? house, ← optional? road, ← optional? houseNumber,
        ← optional? postcode, ← optional? city⟩
    | _ => none

instance : Record Candidate where
  toJson c := .object [("address", toJson c.address), ("location", toJson c.location),
    ("trigram_distance", toJson c.trigramDistance), ("distance", ofOption c.distance)]
  ofJson? v := do
    match ← parts? ["address", "location", "trigram_distance", "distance"] .complete v with
    | [address, location, trigramDistance, distance] =>
      return ⟨← required? address, ← required? location, ← required? trigramDistance,
        ← optional? distance⟩
    | _ => none

instance : Record Nearby where
  toJson n := .object [("address", toJson n.address), ("distance", toJson n.distance)]
  ofJson? v := do
    match ← parts? ["address", "distance"] .complete v with
    | [address, distance] => return ⟨← required? address, ← required? distance⟩
    | _ => none

instance : Record Place where
  toJson p := .object [("display_name", .text p.displayName), ("location", toJson p.location)]
  ofJson? v := do
    match ← parts? ["display_name", "location"] .complete v with
    | [displayName, location] => return ⟨← required? displayName, ← required? location⟩
    | _ => none

instance : Record Hit where
  toJson h := .object [("display_name", .text h.displayName), ("distance", toJson h.distance)]
  ofJson? v := do
    match ← parts? ["display_name", "distance"] .complete v with
    | [displayName, distance] => return ⟨← required? displayName, ← required? distance⟩
    | _ => none

/-- A strategy is its name, or an object whose only member has that name and is null. -/
instance : Record Strategy where
  toJson s := .text s.name
  ofJson?
    | .text name => Strategy.ofName? name
    | .object [(name, .null)] => Strategy.ofName? name
    | _ => none

/-- The record that a text spells. -/
def ofJsonText? {α : Type} [Record α] (text : String) : Option α :=
  (Json.read? text.toList).bind Json.ofJson?

/-- The text of a record. -/
def toJsonText {α : Type} [Record α] (a : α) : String := .ofList (toJson a).compact

end Geocoding
