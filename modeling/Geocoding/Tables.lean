import Geocoding.Sql.Identifier

/-!
# Tables

The names of the three tables that are searched.
-/

namespace Geocoding

open Sql (Identifier InvalidIdentifier)

/-- The names of the tables before they are checked. -/
structure TableNames where
  buildings : String
  postcode : String
  admin : String
  deriving DecidableEq, Repr

/-- Where the buildings, the postal-code areas and the administrative areas are. -/
structure Tables where
  buildings : Identifier
  postcode : Identifier
  admin : Identifier
  deriving DecidableEq, Repr

/-- Checks the three names; the first that is refused is reported. -/
def Tables.ofNames (names : TableNames) : Except InvalidIdentifier Tables := do
  let buildings ← Identifier.ofString names.buildings
  let postcode ← Identifier.ofString names.postcode
  let admin ← Identifier.ofString names.admin
  return { buildings, postcode, admin }

end Geocoding
