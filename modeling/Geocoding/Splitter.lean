import Geocoding.Address
import Geocoding.Deadline

/-!
# Splitters

What splits the text of a query into the parts of an address. It always comes to a result, if it comes
to an end.
-/

namespace Geocoding

/-- Something that splits queries, with state `π`: asked with a deadline at an instant, it tells the
address, when it is known, and what is left behind. -/
structure Splitter (π : Type) where
  split? : String → Deadline → Instant → π → Option (QueryAddress × Instant × π)

end Geocoding
