import Geocoding.Address
import Geocoding.Projection
import Geocoding.Sql.Statement
import Geocoding.Tables
import Geocoding.Text.Numeral

/-!
# Searches

The statement that looks for the buildings of an address. The postal-code area or the municipality
narrows the search down if it is known; road and house number are compared by trigrams. The nearest
buildings to a centre come first, then those whose road is most unlike the queried one.
-/

namespace Geocoding

open Sql (Draft Piece Statement)

/-- Which way a column is sorted. -/
inductive Direction where
  | ascending
  | descending
  deriving DecidableEq, Repr

/-- What results are sorted by. -/
inductive SortKey where
  /-- The distance from the centre. -/
  | centre
  /-- How unlike the queried road is. -/
  | trigram
  deriving DecidableEq, Repr

/-- A column to sort by. -/
structure SortTerm where
  key : SortKey
  direction : Direction
  deriving DecidableEq, Repr

/-- The column of a key. -/
def SortKey.column : SortKey → String
  | centre => "dist"
  | trigram => "trgm_dist"

/-- The keyword of a direction. -/
def Direction.keyword : Direction → String
  | ascending => "ASC"
  | descending => "DESC"

/-- A term of the sort order. -/
def SortTerm.text (t : SortTerm) : String := t.key.column ++ " " ++ t.direction.keyword

/-- A search: its statement, and what the statement was made for. -/
structure Search where
  strategy : Strategy
  statement : Statement
  order : List SortTerm
  limit : UInt32

/-- Whether the results have a distance from a centre. -/
def Search.hasCentre (s : Search) : Bool := s.order.any (·.key == .centre)

/-- The level of the administrative areas that are municipalities. -/
def cityLevel : Nat := 6

/-- Adds the postal-code area of each building. -/
def joinPostcode (t : Tables) : List Piece :=
  [.words " LEFT JOIN ", .name t.postcode,
    .words " pc ON ST_Contains(pc.geometry, ST_Centroid(b.geometry))"]

/-- Adds the municipality of each building. -/
def joinAdmin (t : Tables) : List Piece :=
  [.words " LEFT JOIN ", .name t.admin,
    .words (" a ON (a.admin_level = " ++ Text.numeral cityLevel ++
      " AND ST_Contains(a.geometry, ST_Centroid(b.geometry)))")]

/-- The columns that describe the address of a building. -/
def addressColumns : String :=
  "SELECT b.name AS house, b.road, b.house_number, pc.postcode, a.name AS city, "

namespace Search

/-- How unlike the queried road each road is; nothing is unlike a road that is not queried. -/
def trigramDistance (d : Draft) : Option String → List Piece × Draft
  | some road => let (slot, d) := d.bind (.text road); ([.words "b.road <-> ", slot], d)
  | none => ([.words "0"], d)

/-- The columns of a search, with the distance from the centre if there is one. -/
def select (d : Draft) (road : Option String) (centre : Option ProjectedPoint) : Draft :=
  let (trigram, d) := trigramDistance d road
  let d := d.push ([.words addressColumns, .words "("] ++ trigram ++
    [.words ")::float8 AS trgm_dist, ",
      .words "ST_X(ST_Centroid(b.geometry)) AS x, ST_Y(ST_Centroid(b.geometry)) AS y"])
  match centre with
  | some p =>
    let (point, d) := d.bindPoint p.x p.y webMercator
    d.push ([.words ", ST_Distance(ST_Centroid(b.geometry), "] ++ point ++ [.words ") AS dist"])
  | none => d

/-- The tables of a search. -/
def source (t : Tables) : Strategy → List Piece
  | .byPostcode =>
    [.words " FROM ", .name t.postcode, .words " pc JOIN ", .name t.buildings,
      .words " b ON ST_Contains(pc.geometry, ST_Centroid(b.geometry))"] ++ joinAdmin t
  | .byCity =>
    [.words " FROM ", .name t.admin, .words " a JOIN ", .name t.buildings,
      .words " b ON ST_Contains(a.geometry, ST_Centroid(b.geometry))"] ++ joinPostcode t
  | .byRoad =>
    [.words " FROM ", .name t.buildings, .words " b"] ++ joinPostcode t ++ joinAdmin t

/-- A condition that compares a column with a part of the address, if that part is known. -/
def compare (d : Draft) (columnAndOperator : String) : Option String → List (List Piece) × Draft
  | some s => let (slot, d) := d.bind (.text s); ([[.words columnAndOperator, slot]], d)
  | none => ([], d)

/-- The condition that an area is the queried one. -/
def areaFilters (d : Draft) (a : QueryAddress) : List (List Piece) × Draft :=
  match a.postcode with
  | some postcode => compare d "pc.postcode = " (some postcode)
  | none =>
    match a.city with
    | some city =>
      let (filters, d) := compare d "a.name % " (some city)
      (filters ++ [[.words ("a.admin_level = " ++ Text.numeral cityLevel)]], d)
    | none => ([], d)

/-- The conditions of a search. -/
def filters (d : Draft) (a : QueryAddress) : List (List Piece) × Draft :=
  let (area, d) := areaFilters d a
  let (road, d) := compare d "b.road % " a.road
  let (houseNumber, d) := compare d "b.house_number % " a.houseNumber
  (area ++ road ++ houseNumber, d)

/-- The clause of the conditions, if there are any. -/
def whereClause : List (List Piece) → List Piece
  | [] => []
  | fs => .words " WHERE " :: [Piece.words " AND "].intercalate fs

/-- The order of the results. -/
def orderOf (centre : Option ProjectedPoint) : List SortTerm :=
  (if centre.isSome then [⟨.centre, .ascending⟩] else []) ++ [⟨.trigram, .descending⟩]

/-- The clause of the order. -/
def orderClause (order : List SortTerm) : List Piece :=
  .words " ORDER BY " :: [Piece.words ", "].intercalate (order.map fun t => [.words t.text])

/-- The search for an address, with at most `limit` results. -/
def build (t : Tables) (a : QueryAddress) (centre : Option ProjectedPoint) (limit : UInt32) :
    Search :=
  let strategy := Strategy.select a
  let order := orderOf centre
  let d := (select .empty a.road centre).push (source t strategy)
  let (fs, d) := filters d a
  let d := d.push (whereClause fs ++ orderClause order ++ [.words " LIMIT "])
  let d := d.pushBind (.int64 (Int64.ofNat limit.toNat))
  { strategy, statement := d.finish, order, limit }

end Search

end Geocoding
