import Geocoding.Pool

/-!
# Traffic on a pool

Calls that share a pool. Each checks out a connection, runs one statement on it and gives it back, and
may be cut off wherever it waits. The steps of all calls may come in any order.
-/

namespace Geocoding

/-- How a call has ended. -/
inductive End where
  | answered
  | failed
  | cutOff
  deriving DecidableEq, Repr

/-- How far a call has got. -/
inductive Stage (C : Type) where
  /-- It waits for a permit. -/
  | waiting
  /-- It has a permit, and has not looked for an idle connection. -/
  | admitted
  /-- It has a permit, and a connection is being opened for it. -/
  | opening
  /-- Its statement runs on a connection. -/
  | running (c : C)
  | ended (e : End)
  deriving DecidableEq, Repr

/-- A pool and the calls that use it, the latest first. -/
structure Traffic (C : Type) where
  pool : Pool C
  calls : List (Ticket × Stage C)
  deriving DecidableEq, Repr

namespace Traffic

variable {C : Type}

/-- What can happen. -/
inductive Event (C : Type) where
  | start (t : Ticket)
  /-- A call that waits for a permit looks whether it has got one. -/
  | wake (t : Ticket)
  /-- A call that has a permit looks for an idle connection. -/
  | take (t : Ticket)
  | opened (t : Ticket) (c : C)
  | openFailed (t : Ticket)
  /-- The statement has been completed, with an answer that can be used or not. -/
  | reply (t : Ticket) (usable : Bool)
  /-- The deadline of a call passes. -/
  | expire (t : Ticket)
  | close

/-- A pool that has not been used. -/
def ofPool (p : Pool C) : Traffic C := ⟨p, []⟩

/-- How far a call has got. -/
def stage? (tr : Traffic C) (t : Ticket) : Option (Stage C) := tr.calls.lookup t

/-- A ticket that no call has: one more than the greatest of theirs. -/
def fresh (tr : Traffic C) : Ticket := tr.calls.foldr (fun call t => max (call.1 + 1) t) 0

/-- Records how far a call has got. -/
def record (tr : Traffic C) (p : Pool C) (t : Ticket) (s : Stage C) : Traffic C :=
  ⟨p, (t, s) :: tr.calls.filter (·.1 != t)⟩

/-- The number of the only statement of a call. -/
def statement : Nat := 0

/-- Goes on with what the pool says: a call that has a connection begins its statement at once. -/
def proceed? (tr : Traffic C) (t : Ticket) : Pool C × Progress C → Option (Traffic C)
  | (p, .waiting) => some (tr.record p t .waiting)
  | (p, .admitted) => some (tr.record p t .admitted)
  | (p, .opening) => some (tr.record p t .opening)
  | (p, .connected c) => (p.begin? t statement).map (tr.record · t (.running c))
  | (p, .refused) => some (tr.record p t (.ended .failed))

/-- The traffic after an event, if the event can happen. -/
def step? (tr : Traffic C) (e : Event C) : Option (Traffic C) :=
  match e with
  | .close => some { tr with pool := tr.pool.close }
  | .start t =>
    match tr.stage? t with
    | none => tr.proceed? t (tr.pool.acquire t)
    | some _ => none
  | .wake t =>
    match tr.stage? t with
    | some .waiting => (tr.pool.poll? t).bind (tr.proceed? t)
    | _ => none
  | .take t =>
    match tr.stage? t with
    | some .admitted => (tr.pool.take? t).bind (tr.proceed? t)
    | _ => none
  | .opened t c =>
    match tr.stage? t with
    | some .opening => (tr.pool.opened? t c).bind fun p => tr.proceed? t (p, .connected c)
    | _ => none
  | .openFailed t =>
    match tr.stage? t with
    | some .opening => (tr.pool.openFailed? t).map (tr.record · t (.ended .failed))
    | _ => none
  | .reply t usable =>
    match tr.stage? t with
    | some (.running _) =>
      ((tr.pool.complete? t statement).bind (·.release? t)).map
        (tr.record · t (.ended (if usable then .answered else .failed)))
    | _ => none
  | .expire t =>
    match tr.stage? t with
    | some (.running _) =>
      ((tr.pool.abandon? t statement).bind (·.release? t)).map (tr.record · t (.ended .cutOff))
    | some .waiting => (tr.pool.cancel? t).map (tr.record · t (.ended .cutOff))
    | some .opening => (tr.pool.cancel? t).map (tr.record · t (.ended .cutOff))
    | _ => none

/-- The traffic after an event; an event that cannot happen changes nothing. -/
def step (tr : Traffic C) (e : Event C) : Traffic C := (tr.step? e).getD tr

/-- The traffic after a run of events, if each can happen in its turn. -/
def run? (tr : Traffic C) (es : List (Event C)) : Option (Traffic C) := es.foldlM step? tr

end Traffic

end Geocoding
