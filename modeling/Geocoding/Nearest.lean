import Geocoding.Address
import Geocoding.Distance

/-!
# The nearest addresses

A building that lies in several areas is found several times. Finds of one address are collapsed into
one at the smallest of their distances, and the addresses are sorted by distance.
-/

namespace Geocoding

/-- A building found near a point. -/
structure Nearby where
  address : BuildingAddress
  distance : Distance

namespace Nearby

/-- Adds a find to those collapsed already, which are in the order in which their addresses first
appeared. -/
def merge (r : Nearby) : List Nearby → List Nearby
  | [] => [r]
  | g :: gs =>
    if g.address = r.address then { g with distance := g.distance.smaller r.distance } :: gs
    else g :: merge r gs

/-- The finds by address, each at its smallest distance. -/
def grouped (rows : List Nearby) : List Nearby := rows.foldl (fun gs r => merge r gs) []

/-- Whether one find comes before another of the same standing. -/
def isNearer (a b : Nearby) : Bool :=
  decide (a.distance.totalPlace ≤ b.distance.totalPlace)

/-- The nearest `limit` addresses, nearest first; of equally near ones the first found. -/
def collapse (rows : List Nearby) (limit : Nat) : List Nearby :=
  ((grouped rows).mergeSort isNearer).take limit

end Nearby

end Geocoding
