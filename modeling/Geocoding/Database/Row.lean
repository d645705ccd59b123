import Geocoding.Answer
import Geocoding.Database.Error
import Geocoding.Nearest
import Geocoding.Sql.Value

/-!
# Rows

Rows of named columns, and the candidates and buildings they describe. Columns of text may be missing or
hold anything, which makes them absent; the columns of a place must be numbers. Rows are read in order,
and the first column that cannot be read ends it.
-/

namespace Geocoding.Database

/-- A row; of two columns of one name the first counts. -/
abbrev Row := List (String × Sql.Value)

namespace Row

/-- The text of a column, if it has one. -/
def text? (r : Row) (column : String) : Option String := (r.lookup column).bind Sql.Value.text?

/-- The number in a column. -/
def real (r : Row) (column : String) : Except Error Float :=
  match r.lookup column with
  | none => .error (.conversion (.column column .missing))
  | some v =>
    match v.real? with
    | some x => .ok x
    | none => .error (.conversion (.column column .notANumber))

/-- The address in a row. -/
def address (r : Row) : BuildingAddress :=
  ⟨r.text? "house", r.text? "road", r.text? "house_number", r.text? "postcode", r.text? "city"⟩

/-- The candidate in a row of a search. -/
def candidate (r : Row) (hasCentre : Bool) : Except Error Candidate := do
  let distance ← if hasCentre then some <$> r.real "dist" else .ok none
  let x ← r.real "x"
  let y ← r.real "y"
  let trigramDistance := match r.real "trgm_dist" with
    | .ok d => d
    | .error _ => 0.0
  return ⟨r.address, ⟨x, y⟩, trigramDistance, distance⟩

/-- The building in a row of a ring. -/
def nearby (r : Row) : Except Error Nearby := do
  return ⟨r.address, ← r.real "distance"⟩

end Row

/-- The candidates in the rows of a search. -/
def candidates (hasCentre : Bool) (rows : List Row) : Except Error (List Candidate) :=
  rows.mapM (·.candidate hasCentre)

/-- The buildings in the rows of a ring. -/
def buildings (rows : List Row) : Except Error (List Nearby) := rows.mapM Row.nearby

end Geocoding.Database
