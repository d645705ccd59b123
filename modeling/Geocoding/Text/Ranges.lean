/-!
# Ranges of characters

A set of characters given by the first and last code point of each of its runs.
-/

namespace Geocoding.Text

/-- The first and last code point of each run, in increasing order. -/
abbrev Ranges := Array (Nat × Nat)

namespace Ranges

/-- Whether `c` lies in one of the runs. -/
def contains (rs : Ranges) (c : Char) : Bool :=
  rs.any fun r => r.1 ≤ c.toNat && c.toNat ≤ r.2

end Ranges

end Geocoding.Text
