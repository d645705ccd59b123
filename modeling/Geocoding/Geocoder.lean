import Geocoding.Settings
import Geocoding.Splitter
import Geocoding.Store

/-!
# The geocoder

Queries become places, and points become the nearest building. A query is split once and searched for
once. A point is looked around in rings of growing radius until one holds a building. One deadline spans
all that is done for a request.
-/

namespace Geocoding

/-- A geocoder with a splitter of state `π` and a store of state `σ`. -/
structure Geocoder (π σ : Type) where
  options : Options
  template : Template
  splitter : Splitter π
  store : Store σ

namespace Geocoder

variable {π σ : Type}

/-- The deadline of a request that chooses none, if the clock gets that far. -/
def defaultDeadline? (g : Geocoder π σ) (now : Instant) : Option Deadline :=
  match g.options.requestTimeout with
  | some timeout => Deadline.after? now timeout
  | none => some .none

/-- The place of a candidate. -/
def place (g : Geocoder π σ) (c : Candidate) : Place :=
  ⟨g.template.format c.address, c.location.toGeographic⟩

/-- The places of a query, by the distance from a centre if there is one; a country may be named, but does
not restrict the search. Without a deadline there may never be an answer. -/
def forward? (g : Geocoder π σ) (query : String) (centre : Option GeographicPoint) (d : Deadline)
    (now : Instant) (outside : π × σ) (_country : Option String := none) :
    Option (Outcome (List Place) × Instant × (π × σ)) := do
  let (address, now, service) ← g.splitter.split? query d now outside.1
  let search := Search.build g.options.tables address (centre.map (·.toProjected))
    g.options.searchLimit
  let (found, now, store) ← (g.store.search search outside.2).within? d now
  return (found.map (·.map g.place), now, service, store)

/-- The nearest of the buildings in a ring. -/
def nearest? (g : Geocoder π σ) (rows : List Nearby) (limit : UInt32) : Option Hit :=
  (Nearby.collapse rows limit.toNat).head?.map fun n => ⟨g.template.format n.address, n.distance⟩

/-- Looks in one ring after the other. -/
def escalate? (g : Geocoder π σ) (centre : ProjectedPoint) (limit : UInt32) (d : Deadline) :
    List Float → Instant → σ → Option (Outcome (Option Hit) × Instant × σ)
  | [], now, store => some (.answered none, now, store)
  | radius :: radii, now, store => do
    let ring := Ring.build g.options.tables centre radius limit
    let (found, now, store) ← (g.store.nearby ring store).within? d now
    match found with
    | .answered rows =>
      match g.nearest? rows limit with
      | some hit => return (.answered (some hit), now, store)
      | none => g.escalate? centre limit d radii now store
    | .failed e => return (.failed e, now, store)
    | .exceeded => return (.exceeded, now, store)

/-- The building nearest to a point, of at most `limit` in each ring. Without a deadline there may never
be an answer. -/
def reverse? (g : Geocoder π σ) (point : GeographicPoint) (limit : UInt32) (d : Deadline)
    (now : Instant) (outside : π × σ) : Option (Outcome (Option Hit) × Instant × (π × σ)) := do
  let (hit, now, store) ←
    g.escalate? point.toProjected limit d g.options.radii.toList now outside.2
  return (hit, now, outside.1, store)

end Geocoder

end Geocoding
