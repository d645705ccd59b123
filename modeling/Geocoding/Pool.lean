/-!
# The connection pool

A pool hands out a fixed number of connections. Whoever wants one needs a permit first; permits are given
first come, first served. A connection that comes back while a statement is still in flight on it is
discarded, and whoever gets its permit next finds no idle connection and opens one.
-/

namespace Geocoding

/-- The name of one attempt to check out a connection. -/
abbrev Ticket := Nat

/-- A connection that is checked out. -/
structure Lease (C : Type) where
  conn : C
  /-- Set when a statement begins and cleared when one completes. -/
  inFlight : Bool
  /-- The statements that have begun and have neither completed nor been abandoned. -/
  running : List Nat
  deriving DecidableEq, Repr

namespace Lease

variable {C : Type}

/-- Begins a statement. -/
def begin? (l : Lease C) (statement : Nat) : Option (Lease C) :=
  if statement ∈ l.running then none
  else some { l with inFlight := true, running := statement :: l.running }

/-- A statement has been completed. -/
def complete? (l : Lease C) (statement : Nat) : Option (Lease C) :=
  if statement ∈ l.running then
    some { l with inFlight := false, running := l.running.erase statement }
  else none

/-- A statement is no longer waited for. -/
def abandon? (l : Lease C) (statement : Nat) : Option (Lease C) :=
  if statement ∈ l.running then some { l with running := l.running.erase statement } else none

end Lease

/-- A pool of connections of type `C`. -/
structure Pool (C : Type) where
  size : Nat
  /-- The permits that nobody has. -/
  permits : Nat
  closed : Bool
  /-- The connections that are checked in, the last one first. -/
  idle : List C
  /-- The attempts that wait for a permit, the first one first. -/
  queue : List Ticket
  /-- The attempts that have been given a permit and have not noticed. -/
  granted : List Ticket
  /-- The attempts that have a permit and have not looked for an idle connection. -/
  admitted : List Ticket
  /-- The attempts that have a permit and are opening a connection. -/
  opening : List Ticket
  /-- The attempts that have got a connection and not given it back. -/
  held : List (Ticket × Lease C)
  discarded : List C
  deriving DecidableEq, Repr

/-- How far an attempt has got. -/
inductive Progress (C : Type) where
  | waiting
  | admitted
  | opening
  | connected (c : C)
  | refused
  deriving DecidableEq, Repr

namespace Pool

variable {C : Type}

/-- A pool of connections, of which the last one is handed out first. There must be one. -/
def ofList? (conns : List C) : Option (Pool C) :=
  if conns.isEmpty then none
  else some ⟨conns.length, conns.length, false, conns.reverse, [], [], [], [], [], []⟩

/-- The attempts that have a permit. -/
def holders (p : Pool C) : List Ticket :=
  p.granted ++ p.admitted ++ p.opening ++ p.held.map (·.1)

/-- The attempts that have come to no end yet. -/
def tickets (p : Pool C) : List Ticket := p.queue ++ p.holders

/-- The connections that are checked out. -/
def leased (p : Pool C) : List C := p.held.map (·.2.conn)

/-- Begins an attempt: it gets a permit if there is one, and waits in the queue otherwise. -/
def acquire (p : Pool C) (t : Ticket) : Pool C × Progress C :=
  if p.closed then (p, .refused)
  else if 0 < p.permits then
    ({ p with permits := p.permits - 1, admitted := t :: p.admitted }, .admitted)
  else ({ p with queue := p.queue ++ [t] }, .waiting)

/-- Takes back a permit: the first in the queue gets it. A closed pool keeps it. -/
def returnPermit (p : Pool C) : Pool C :=
  match p.closed, p.queue with
  | false, t :: queue => { p with queue, granted := p.granted ++ [t] }
  | _, _ => { p with permits := p.permits + 1 }

/-- Looks again at an attempt that has not come to an end. -/
def poll? (p : Pool C) (t : Ticket) : Option (Pool C × Progress C) :=
  if t ∈ p.granted then
    let p := { p with granted := p.granted.erase t }
    some (if p.closed then (p.returnPermit, .refused)
      else ({ p with admitted := t :: p.admitted }, .admitted))
  else if t ∈ p.queue then
    some (if p.closed then ({ p with queue := p.queue.erase t }, .refused) else (p, .waiting))
  else if t ∈ p.opening then some (p, .opening)
  else none

/-- Hands a connection to an attempt. -/
def hand (p : Pool C) (t : Ticket) (c : C) : Pool C :=
  { p with held := (t, ⟨c, false, []⟩) :: p.held }

/-- Takes an idle connection for an attempt that has a permit; without one it begins opening. -/
def take? (p : Pool C) (t : Ticket) : Option (Pool C × Progress C) :=
  if t ∈ p.admitted then
    let p := { p with admitted := p.admitted.erase t }
    some (match p.idle with
      | c :: idle => ({ p with idle }.hand t c, .connected c)
      | [] => ({ p with opening := t :: p.opening }, .opening))
  else none

/-- An attempt that has got a permit looks for an idle connection at once. -/
def proceed (t : Ticket) : Pool C × Progress C → Pool C × Progress C
  | (p, .admitted) => (p.take? t).getD (p, .admitted)
  | r => r

/-- A connection has been opened for an attempt. -/
def opened? (p : Pool C) (t : Ticket) (c : C) : Option (Pool C) :=
  if t ∈ p.opening then some ({ p with opening := p.opening.erase t }.hand t c) else none

/-- No connection could be opened for an attempt. -/
def openFailed? (p : Pool C) (t : Ticket) : Option (Pool C) :=
  if t ∈ p.opening then some { p with opening := p.opening.erase t }.returnPermit else none

/-- Gives up an attempt. -/
def cancel? (p : Pool C) (t : Ticket) : Option (Pool C) :=
  if t ∈ p.granted then some { p with granted := p.granted.erase t }.returnPermit
  else if t ∈ p.queue then some { p with queue := p.queue.erase t }
  else p.openFailed? t

/-- The connection that an attempt holds. -/
def lease? (p : Pool C) (t : Ticket) : Option (Lease C) := p.held.lookup t

/-- Puts another lease in the place of the one that an attempt has. -/
def setLease (p : Pool C) (t : Ticket) (l : Lease C) : Pool C :=
  { p with held := p.held.map fun h => if h.1 = t then (t, l) else h }

/-- Changes the lease of an attempt. -/
def update? (p : Pool C) (t : Ticket) (f : Lease C → Option (Lease C)) : Option (Pool C) :=
  ((p.lease? t).bind f).map (p.setLease t)

/-- Begins a statement on a connection. -/
def begin? (p : Pool C) (t : Ticket) (statement : Nat) : Option (Pool C) :=
  p.update? t (·.begin? statement)

/-- A statement has been completed. -/
def complete? (p : Pool C) (t : Ticket) (statement : Nat) : Option (Pool C) :=
  p.update? t (·.complete? statement)

/-- A statement is no longer waited for. -/
def abandon? (p : Pool C) (t : Ticket) (statement : Nat) : Option (Pool C) :=
  p.update? t (·.abandon? statement)

/-- Takes a connection back: it is checked in, or discarded if a statement is still in flight on it. -/
def putBack (p : Pool C) (l : Lease C) : Pool C :=
  { p with
    idle := if l.inFlight then p.idle else l.conn :: p.idle
    discarded := if l.inFlight then l.conn :: p.discarded else p.discarded }

/-- Gives a connection back, and then its permit. -/
def release? (p : Pool C) (t : Ticket) : Option (Pool C) :=
  (p.lease? t).map fun l => ({ p with held := p.held.filter (·.1 != t) }.putBack l).returnPermit

/-- Stops handing out permits. -/
def close (p : Pool C) : Pool C := { p with closed := true }

/-- Whether an attempt has come to no end yet. -/
def knows (p : Pool C) (t : Ticket) : Bool := p.tickets.contains t

/-- What can happen to a pool. -/
inductive Event (C : Type) where
  | acquire (t : Ticket)
  | poll (t : Ticket)
  /-- An attempt that has a permit looks for an idle connection. -/
  | take (t : Ticket)
  | opened (t : Ticket) (c : C)
  | openFailed (t : Ticket)
  | cancel (t : Ticket)
  | begin (t : Ticket) (statement : Nat)
  | complete (t : Ticket) (statement : Nat)
  | abandon (t : Ticket) (statement : Nat)
  | release (t : Ticket)
  | close

/-- The pool after an event, if the event can happen. -/
def step? (p : Pool C) : Event C → Option (Pool C)
  | .acquire t => if p.knows t then none else some (p.acquire t).1
  | .poll t => (p.poll? t).map (·.1)
  | .take t => (p.take? t).map (·.1)
  | .opened t c => p.opened? t c
  | .openFailed t => p.openFailed? t
  | .cancel t => p.cancel? t
  | .begin t s => p.begin? t s
  | .complete t s => p.complete? t s
  | .abandon t s => p.abandon? t s
  | .release t => p.release? t
  | .close => some p.close

/-- The pool after a run of events. -/
def run? (p : Pool C) (es : List (Event C)) : Option (Pool C) := es.foldlM step? p

end Pool

end Geocoding
