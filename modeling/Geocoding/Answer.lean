import Geocoding.Address
import Geocoding.Distance
import Geocoding.Projection

/-!
# Answers

What a search finds in the database, and what is answered for a query and for a point.
-/

namespace Geocoding

/-- A building found by a search. The trigram distance is how unlike the queried road its road is. -/
structure Candidate where
  address : BuildingAddress
  location : ProjectedPoint
  trigramDistance : Float
  distance : Option Float

/-- An answer to a query. -/
structure Place where
  displayName : String
  location : GeographicPoint

/-- The answer for a point. -/
structure Hit where
  displayName : String
  distance : Distance

end Geocoding
