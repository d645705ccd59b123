import Geocoding.Time

/-!
# Deadlines

The instant by which a request must be finished, if there is one. Work that is ready when it is looked at
for the first time is done even after the deadline; all other work is cut off when the deadline passes
before it is done.
-/

namespace Geocoding

/-- A deadline; `none` never passes. -/
structure Deadline where
  expiry : Option Instant
  deriving DecidableEq, Repr

/-- How long work takes: nothing at all, some time, or for ever. -/
inductive Work where
  | ready
  | takes (d : Duration)
  | never
  deriving DecidableEq, Repr

/-- How work under a deadline ended, and when; without a deadline work may never end. -/
inductive Ending where
  | done (t : Instant)
  | cutOff (t : Instant)
  | never
  deriving DecidableEq, Repr

namespace Deadline

/-- The deadline that never passes. -/
def none : Deadline := ⟨.none⟩

/-- The deadline at an instant. -/
def ofInstant (t : Instant) : Deadline := ⟨some t⟩

/-- The deadline after a length of time, if there is such an instant. -/
def after? (now : Instant) (timeout : Duration) : Option Deadline :=
  (now.later? timeout).map ofInstant

/-- The time that is left. -/
def remaining (d : Deadline) (now : Instant) : Option Duration := d.expiry.map (·.since now)

/-- Whether the deadline has passed. -/
def isExpired (d : Deadline) (now : Instant) : Bool :=
  d.expiry.any fun t => decide (t.nanoseconds ≤ now.nanoseconds)

/-- How work that is begun at `now` ends. -/
def run (d : Deadline) (now : Instant) (w : Work) : Ending :=
  match w, d.expiry with
  | .ready, _ => .done now
  | .takes t, .none => .done (now.later t)
  | .never, .none => .never
  | .never, some limit => .cutOff (now.max limit)
  | .takes t, some limit =>
    if (now.later t).nanoseconds ≤ limit.nanoseconds then .done (now.later t)
    else .cutOff (now.max limit)

/-- The error in words. -/
def exceededMessage : String := "Deadline exceeded"

end Deadline

end Geocoding
