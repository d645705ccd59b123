import Geocoding.Database.Error
import Geocoding.Deadline

/-!
# Attempts

Something asked of the outside, which may need several waits before there is an answer. At each wait the
attempt may be given up, and what is left behind then is known beforehand. A deadline decides how far an
attempt gets.
-/

namespace Geocoding

/-- A question to the outside, whose state is `σ`. -/
inductive Attempt (σ α : Type) where
  /-- The answer, and the state it leaves. -/
  | ended (answer : Except Database.Error α) (s : σ)
  /-- A wait, the state that giving up leaves, and how it goes on. -/
  | waits (w : Work) (abandoned : σ) (next : Attempt σ α)

/-- How a request ended. -/
inductive Outcome (α : Type) where
  | answered (a : α)
  | failed (e : Database.Error)
  | exceeded

/-- The outcome of an answer. -/
def Outcome.of {α : Type} : Except Database.Error α → Outcome α
  | .ok a => answered a
  | .error e => failed e

/-- What is said of a request that its deadline has cut off. -/
def Outcome.exceededMessage : String := "Request deadline exceeded"

/-- Changes what has been answered. -/
def Outcome.map {α β : Type} (f : α → β) : Outcome α → Outcome β
  | answered a => answered (f a)
  | failed e => failed e
  | exceeded => exceeded

namespace Attempt

variable {σ τ α β : Type}

/-- An attempt within a larger state: `leave` says what is left there when it is given up, and `next` how
it goes on after its answer. -/
def follow (leave : σ → τ) (next : Except Database.Error α → σ → Attempt τ β) :
    Attempt σ α → Attempt τ β
  | ended answer s => next answer s
  | waits w abandoned rest => waits w (leave abandoned) (rest.follow leave next)

/-- Goes on after an answer that is no error. -/
def bind (a : Attempt σ α) (next : α → σ → Attempt σ β) : Attempt σ β :=
  a.follow id fun
    | .ok x => next x
    | .error e => ended (.error e)

/-- Waits for the answer until a deadline passes; tells what came of it, when, and what is left behind.
Without a deadline the waiting may never end. -/
def within? (d : Deadline) (now : Instant) : Attempt σ α → Option (Outcome α × Instant × σ)
  | ended answer s => some (.of answer, now, s)
  | waits w abandoned rest =>
    match d.run now w with
    | .done t => rest.within? d t
    | .cutOff t => some (.exceeded, t, abandoned)
    | .never => none

/-- Waits for the answer however long it takes; tells what it is, when it comes, and what it leaves. -/
def wait? (now : Instant) : Attempt σ α → Option (Except Database.Error α × Instant × σ)
  | ended answer s => some (answer, now, s)
  | waits .ready _ rest => rest.wait? now
  | waits (.takes length) _ rest => rest.wait? (now.later length)
  | waits .never _ _ => none

end Attempt

end Geocoding
