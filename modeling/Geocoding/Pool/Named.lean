import Geocoding.Database.Error
import Geocoding.Pool

/-!
# Named attempts on a pool

Attempts and checked-out connections under names. A name may stand for a waiting attempt and for a
connection at once. An attempt that comes to something under a name in use takes its place, and what the
name stood for before is given up.
-/

namespace Geocoding

/-- What opening a connection comes to at once. -/
inductive Opening (C : Type) where
  | opened (c : C)
  | failed (e : Database.Error)
  /-- Nothing yet, and perhaps never anything. -/
  | pending

/-- What can be seen of an attempt. -/
inductive Sight (C : Type) where
  | connected (c : C)
  | failed (e : Database.Error)
  | pending

/-- A pool with names for attempts and connections. Tickets are given out in order. -/
structure NamedPool (C : Type) where
  pool : Pool C
  tickets : Nat
  held : List (String × Ticket)
  waiting : List (String × Ticket)

namespace NamedPool

variable {σ C : Type}

/-- A pool without names. -/
def ofPool (p : Pool C) : NamedPool C := ⟨p, 0, [], []⟩

/-- The names other than one. -/
def without (name : String) (names : List (String × Ticket)) : List (String × Ticket) :=
  names.filter (·.1 != name)

/-- The names after an event; an event that cannot happen changes nothing. -/
def happen (n : NamedPool C) (e : Pool.Event C) : NamedPool C :=
  { n with pool := (n.pool.step? e).getD n.pool }

/-- Gives back the connection under a name. -/
def release? (n : NamedPool C) (name : String) : Option (NamedPool C) :=
  (n.held.lookup name).map fun t => { n.happen (.release t) with held := without name n.held }

/-- Gives up the attempt under a name. -/
def cancel? (n : NamedPool C) (name : String) : Option (NamedPool C) :=
  (n.waiting.lookup name).map fun t => { n.happen (.cancel t) with waiting := without name n.waiting }

/-- Puts a connection under a name. -/
def hold (n : NamedPool C) (name : String) (t : Ticket) : NamedPool C :=
  let n := (n.release? name).getD n
  { n with held := (name, t) :: n.held }

/-- Puts an attempt under a name. -/
def await (n : NamedPool C) (name : String) (t : Ticket) : NamedPool C :=
  let n := (n.cancel? name).getD n
  { n with waiting := (name, t) :: n.waiting }

/-- Goes on with what the pool says of an attempt that has no name at the moment. If a connection is to
be opened, `connect` tells what comes of it. -/
def settle (connect : σ → Opening C × σ) (n : NamedPool C) (name : String) (t : Ticket) (s : σ) :
    Progress C → Sight C × NamedPool C × σ
  | .connected c => (.connected c, n.hold name t, s)
  | .refused => (.failed .poolClosed, n, s)
  | .waiting | .admitted => (.pending, n.await name t, s)
  | .opening =>
    match connect s with
    | (.opened c, s) => (.connected c, (n.happen (.opened t c)).hold name t, s)
    | (.failed e, s) => (.failed e, n.happen (.openFailed t), s)
    | (.pending, s) => (.pending, n.await name t, s)

/-- Begins an attempt under a name, and looks at it. -/
def acquire (connect : σ → Opening C × σ) (n : NamedPool C) (name : String) (s : σ) :
    Sight C × NamedPool C × σ :=
  let t := n.tickets
  let (pool, progress) := Pool.proceed t (n.pool.acquire t)
  settle connect { n with pool, tickets := t + 1 } name t s progress

/-- Looks again at the attempt under a name. -/
def poll? (connect : σ → Opening C × σ) (n : NamedPool C) (name : String) (s : σ) :
    Option (Sight C × NamedPool C × σ) := do
  let t ← n.waiting.lookup name
  if t ∈ n.pool.opening then return (.pending, n, s)
  else
    let (pool, progress) := Pool.proceed t (← n.pool.poll? t)
    return settle connect { n with pool, waiting := without name n.waiting } name t s progress

/-- The connection under a name. -/
def conn? (n : NamedPool C) (name : String) : Option C := do
  let t ← n.held.lookup name
  return (← n.pool.lease? t).conn

/-- The number of the statements of a connection, which are run one at a time. -/
def statement : Nat := 0

/-- Runs a statement on the connection under a name to its end. -/
def complete (n : NamedPool C) (name : String) : NamedPool C :=
  match n.held.lookup name with
  | some t => (n.happen (.begin t statement)).happen (.complete t statement)
  | none => n

/-- Begins a statement on the connection under a name, and gives it up. -/
def abandon (n : NamedPool C) (name : String) : NamedPool C :=
  match n.held.lookup name with
  | some t => (n.happen (.begin t statement)).happen (.abandon t statement)
  | none => n

/-- Stops handing out permits. -/
def close (n : NamedPool C) : NamedPool C := n.happen .close

end NamedPool

end Geocoding
