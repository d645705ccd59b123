import Geocoding.Search

/-!
# Rings

The statement that looks for the buildings within a radius of a point, nearest first.
-/

namespace Geocoding

open Sql (Draft Piece Statement)

/-- A search around a point. -/
structure Ring where
  radius : Float
  limit : UInt32
  statement : Statement

/-- The search for at most `limit` buildings within `radius` metres of `centre`. -/
def Ring.build (t : Tables) (centre : ProjectedPoint) (radius : Float) (limit : UInt32) : Ring :=
  let (point, d) := Draft.empty.bindPoint centre.x centre.y webMercator
  let d := d.push ([.words addressColumns, .words "ST_Distance(b.geometry, "] ++ point ++
    [.words ") AS distance", .words " FROM ", .name t.buildings, .words " b"] ++
    joinPostcode t ++ joinAdmin t)
  let (radiusSlot, d) := d.bind (.real64 radius)
  let d := d.push ([.words " WHERE ST_DWithin(b.geometry, "] ++ point ++
    [.words ", ", radiusSlot, .words ")", .words " ORDER BY distance ASC LIMIT "])
  let d := d.pushBind (.int64 (Int64.ofNat limit.toNat))
  { radius, limit, statement := d.finish }

end Geocoding
