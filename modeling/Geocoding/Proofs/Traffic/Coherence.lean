import Geocoding.Proofs.Pool.Connections
import Geocoding.Proofs.Pool.Places
import Geocoding.Traffic

/-!
# Calls and their pool

An event of the traffic is a short run of events of the pool, which name one call only. Before and after it,
each call has got as far as its attempt has in the pool.
-/

namespace Geocoding

variable {C : Type}

/-- The lease of a call while its statement runs. -/
def Traffic.leaseOn (c : C) : Lease C := ⟨c, true, [Traffic.statement]⟩

namespace Stage

/-- The place in the pool of a call that has got so far. -/
def place? : Stage C → Option (Pool.Place C)
  | waiting => some .waiting
  | admitted => some .admitted
  | opening => some .opening
  | running c => some (.holding (Traffic.leaseOn c))
  | ended _ => none

/-- How far a call has got with what the pool says. -/
def ofProgress : Progress C → Stage C
  | .waiting => waiting
  | .admitted => admitted
  | .opening => opening
  | .connected c => running c
  | .refused => ended .failed

end Stage

namespace Traffic

variable {tr tr' : Traffic C} {e : Event C} {t u : Ticket} {p q : Pool C} {s : Stage C}
variable {r : Progress C} {c : C}

theorem stage?_record (tr : Traffic C) (p : Pool C) (t u : Ticket) (s : Stage C) :
    (tr.record p t s).stage? u = if u = t then some s else tr.stage? u := by
  by_cases hu : u = t
  · simp [stage?, record, hu]
  · have hb : (u == t) = false := beq_eq_false_iff_ne.mpr hu
    simp [stage?, record, hu, hb, List.lookup_cons, Keyed.lookup_filter]

/-- Each call has got as far as its attempt has in the pool. -/
structure Coherent (tr : Traffic C) : Prop where
  wellFormed : tr.pool.WellFormed
  agrees : ∀ t, tr.pool.place? t = (tr.stage? t).bind Stage.place?

/-! ### The events of the pool -/

/-- A call that has got a connection begins its statement. -/
def firstStatement (t : Ticket) : Progress C → List (Pool.Event C)
  | .connected _ => [.begin t statement]
  | _ => []

/-- What an event makes a call do with the pool, and how far the call gets. -/
inductive Plays (tr : Traffic C) : Event C → Ticket → List (Pool.Event C) → Stage C → Prop where
  | start (t : Ticket) (p : Pool C) (r : Progress C) (hs : tr.stage? t = none)
      (hr : tr.pool.acquire t = (p, r)) :
      Plays tr (.start t) t (.acquire t :: firstStatement t r) (.ofProgress r)
  | wake (t : Ticket) (p : Pool C) (r : Progress C) (hs : tr.stage? t = some .waiting)
      (hr : tr.pool.poll? t = some (p, r)) :
      Plays tr (.wake t) t (.poll t :: firstStatement t r) (.ofProgress r)
  | take (t : Ticket) (p : Pool C) (r : Progress C) (hs : tr.stage? t = some .admitted)
      (hr : tr.pool.take? t = some (p, r)) :
      Plays tr (.take t) t (.take t :: firstStatement t r) (.ofProgress r)
  | opened (t : Ticket) (c : C) (hs : tr.stage? t = some .opening) :
      Plays tr (.opened t c) t [.opened t c, .begin t statement] (.running c)
  | openFailed (t : Ticket) (hs : tr.stage? t = some .opening) :
      Plays tr (.openFailed t) t [.openFailed t] (.ended .failed)
  | reply (t : Ticket) (usable : Bool) (c : C) (hs : tr.stage? t = some (.running c)) :
      Plays tr (.reply t usable) t [.complete t statement, .release t]
        (.ended (if usable then .answered else .failed))
  | cutRunning (t : Ticket) (c : C) (hs : tr.stage? t = some (.running c)) :
      Plays tr (.expire t) t [.abandon t statement, .release t] (.ended .cutOff)
  | cutWaiting (t : Ticket) (hs : tr.stage? t = some .waiting ∨ tr.stage? t = some .opening) :
      Plays tr (.expire t) t [.cancel t] (.ended .cutOff)

theorem proceed?_eq_some (h : tr.proceed? t (p, r) = some tr') :
    ∃ q, p.run? (firstStatement t r) = some q ∧ tr' = tr.record q t (.ofProgress r) := by
  cases r with
  | connected c =>
    obtain ⟨q, hq, rfl⟩ := Option.map_eq_some_iff.mp h
    exact ⟨q, Run.singleton_eq_some_iff.mpr hq, rfl⟩
  | _ =>
    cases h
    exact ⟨p, rfl, rfl⟩

theorem run?_proceed {x : Pool.Event C} (hx : tr.pool.step? x = some p)
    (h : tr.proceed? t (p, r) = some tr') :
    ∃ q, tr.pool.run? (x :: firstStatement t r) = some q ∧ tr' = tr.record q t (.ofProgress r) := by
  obtain ⟨q, hq, he⟩ := proceed?_eq_some h
  exact ⟨q, Run.cons_eq_some_iff.mpr ⟨p, hx, hq⟩, he⟩

theorem Coherent.not_mem_of_none (hc : Coherent tr) (hs : tr.stage? t = none) : t ∉ tr.pool.tickets :=
  Pool.not_mem_tickets (by rw [hc.agrees t, hs]; rfl)

theorem Coherent.step?_acquire (hc : Coherent tr) (hs : tr.stage? t = none) :
    tr.pool.step? (.acquire t) = some (tr.pool.acquire t).1 := by
  simp [Pool.step?, Pool.knows, hc.not_mem_of_none hs]

theorem step?_poll (hr : tr.pool.poll? t = some (p, r)) : tr.pool.step? (.poll t) = some p := by
  simp [Pool.step?, hr]

theorem step?_take (hr : tr.pool.take? t = some (p, r)) : tr.pool.step? (.take t) = some p := by
  simp [Pool.step?, hr]

theorem Coherent.plays (hc : Coherent tr) (h : tr.step? e = some tr') :
    (e = .close ∧ tr' = { tr with pool := tr.pool.close }) ∨
      ∃ t pes s q, Plays tr e t pes s ∧ tr.pool.run? pes = some q ∧ tr' = tr.record q t s := by
  cases e with
  | close =>
    cases h
    exact .inl ⟨rfl, rfl⟩
  | start t =>
    simp only [step?] at h
    split at h
    · next hs =>
      obtain ⟨q, hq, rfl⟩ := run?_proceed (hc.step?_acquire hs) h
      exact .inr ⟨t, _, _, q, .start t _ _ hs rfl, hq, rfl⟩
    · cases h
  | wake t =>
    simp only [step?] at h
    split at h
    · next hs =>
      obtain ⟨⟨p, r⟩, hr, h⟩ := Option.bind_eq_some_iff.mp h
      obtain ⟨q, hq, rfl⟩ := run?_proceed (step?_poll hr) h
      exact .inr ⟨t, _, _, q, .wake t p r hs hr, hq, rfl⟩
    · cases h
  | take t =>
    simp only [step?] at h
    split at h
    · next hs =>
      obtain ⟨⟨p, r⟩, hr, h⟩ := Option.bind_eq_some_iff.mp h
      obtain ⟨q, hq, rfl⟩ := run?_proceed (step?_take hr) h
      exact .inr ⟨t, _, _, q, .take t p r hs hr, hq, rfl⟩
    · cases h
  | opened t c =>
    simp only [step?] at h
    split at h
    · next hs =>
      obtain ⟨p, hp, h⟩ := Option.bind_eq_some_iff.mp h
      obtain ⟨q, hq, rfl⟩ := run?_proceed (x := .opened t c) hp h
      exact .inr ⟨t, _, _, q, .opened t c hs, hq, rfl⟩
    · cases h
  | openFailed t =>
    simp only [step?] at h
    split at h
    · next hs =>
      obtain ⟨q, hq, rfl⟩ := Option.map_eq_some_iff.mp h
      exact .inr ⟨t, _, _, q, .openFailed t hs, Run.singleton_eq_some_iff.mpr hq, rfl⟩
    · cases h
  | reply t usable =>
    simp only [step?] at h
    split at h
    · next c hs =>
      obtain ⟨q, hq, rfl⟩ := Option.map_eq_some_iff.mp h
      obtain ⟨p, hp, hq⟩ := Option.bind_eq_some_iff.mp hq
      refine .inr ⟨t, _, _, q, .reply t usable c hs, ?_, rfl⟩
      exact Run.cons_eq_some_iff.mpr ⟨p, hp, Run.singleton_eq_some_iff.mpr hq⟩
    · cases h
  | expire t =>
    simp only [step?] at h
    split at h
    · next c hs =>
      obtain ⟨q, hq, rfl⟩ := Option.map_eq_some_iff.mp h
      obtain ⟨p, hp, hq⟩ := Option.bind_eq_some_iff.mp hq
      refine .inr ⟨t, _, _, q, .cutRunning t c hs, ?_, rfl⟩
      exact Run.cons_eq_some_iff.mpr ⟨p, hp, Run.singleton_eq_some_iff.mpr hq⟩
    · next hs =>
      obtain ⟨q, hq, rfl⟩ := Option.map_eq_some_iff.mp h
      exact .inr ⟨t, _, _, q, .cutWaiting t (.inl hs), Run.singleton_eq_some_iff.mpr hq, rfl⟩
    · next hs =>
      obtain ⟨q, hq, rfl⟩ := Option.map_eq_some_iff.mp h
      exact .inr ⟨t, _, _, q, .cutWaiting t (.inr hs), Run.singleton_eq_some_iff.mpr hq, rfl⟩
    · cases h

theorem firstStatement_own {x : Pool.Event C} (hx : x ∈ firstStatement t r) : x.ticket? = some t := by
  cases r with
  | connected c =>
    obtain rfl := List.mem_singleton.mp hx
    rfl
  | _ => cases hx

theorem Plays.own {pes : List (Pool.Event C)} (h : Plays tr e t pes s) {x : Pool.Event C}
    (hx : x ∈ pes) : x.ticket? = some t := by
  cases h with
  | start _ p r | wake _ p r | take _ p r =>
    obtain rfl | hx := List.mem_cons.mp hx
    · rfl
    · exact firstStatement_own hx
  | openFailed | cutWaiting =>
    obtain rfl := List.mem_singleton.mp hx
    rfl
  | opened | reply | cutRunning =>
    obtain rfl | rfl : x = _ ∨ x = _ := by simpa using hx
    · rfl
    · rfl

/-! ### The place of a call after an event -/

/-- A call that has got a connection has it with its statement running. -/
theorem place?_firstStatement (hp : p.WellFormed) (ht : p.place? t = Pool.Place.of? r)
    (h : p.run? (firstStatement t r) = some q) : q.place? t = (Stage.ofProgress r).place? := by
  have hw := hp.run? h
  cases r with
  | connected c =>
    have hl : p.lease? t = some ⟨c, false, []⟩ := Pool.lease?_of_holding ht
    have hb : p.step? (.begin t statement) = some q := Run.singleton_eq_some_iff.mp h
    obtain rfl : p.setLease t (leaseOn c) = q := by
      simpa [Pool.step?, Pool.begin?, Pool.update?, hl, Lease.begin?, leaseOn] using hb
    exact hw.place?_holding (by rw [Pool.lease?_setLease hl, if_pos rfl])
  | _ =>
    obtain rfl : p = q := by simpa [firstStatement, Pool.run?] using h
    exact ht

theorem place?_proceed (hp : p.WellFormed) {x : Pool.Event C} {m : Pool C}
    (hx : p.step? x = some m) (ht : m.place? t = Pool.Place.of? r)
    (h : p.run? (x :: firstStatement t r) = some q) : q.place? t = (Stage.ofProgress r).place? := by
  obtain ⟨m', hx', hq⟩ := Run.cons_eq_some_iff.mp h
  obtain rfl := Option.some.inj (hx.symm.trans hx')
  exact place?_firstStatement ((Pool.transition_of_step? hx).wellFormed hp) ht hq

theorem place?_last (hp : p.WellFormed) (pes : List (Pool.Event C)) {x : Pool.Event C}
    (h : p.run? (pes ++ [x]) = some q)
    (hx : x = .cancel t ∨ x = .openFailed t ∨ x = .release t) : q.place? t = none := by
  obtain ⟨m, hm, hq⟩ := Run.append_eq_some_iff.mp h
  have hx' := Pool.transition_of_step? (Run.singleton_eq_some_iff.mp hq)
  exact Pool.place?_eq_none (hx'.gone (hp.run? hm) hx)

theorem Coherent.place?_plays (hc : Coherent tr) {pes : List (Pool.Event C)} (h : Plays tr e t pes s)
    (hq : tr.pool.run? pes = some q) : q.place? t = s.place? := by
  have hw := hc.wellFormed
  cases h with
  | start _ p r hs hr =>
    have hp := Pool.place?_acquire hw (hc.not_mem_of_none hs)
    have hx := hc.step?_acquire hs
    rw [hr] at hp hx
    exact place?_proceed hw hx hp hq
  | wake _ p r hs hr => exact place?_proceed hw (step?_poll hr) (Pool.place?_poll? hw hr) hq
  | take _ p r hs hr => exact place?_proceed hw (step?_take hr) (Pool.place?_take? hw hr) hq
  | opened _ c hs =>
    obtain ⟨m, hm, -⟩ := Run.cons_eq_some_iff.mp hq
    exact place?_proceed (r := .connected c) hw hm (Pool.place?_opened? hw hm) hq
  | openFailed => exact place?_last hw [] hq (.inr (.inl rfl))
  | reply => exact place?_last hw [.complete t statement] hq (.inr (.inr rfl))
  | cutRunning => exact place?_last hw [.abandon t statement] hq (.inr (.inr rfl))
  | cutWaiting => exact place?_last hw [] hq (.inl rfl)

/-- Every event keeps calls and pool together. -/
theorem Coherent.of_step? (hc : Coherent tr) (h : tr.step? e = some tr') : Coherent tr' := by
  obtain ⟨rfl, rfl⟩ | ⟨t, pes, s, q, hp, hq, rfl⟩ := hc.plays h
  · have ht : Pool.Transition tr.pool .close tr.pool.close := .close
    refine ⟨ht.wellFormed hc.wellFormed, fun u => ?_⟩
    rw [ht.place?_frame (by simp [Pool.Event.ticket?])]
    exact hc.agrees u
  · refine ⟨hc.wellFormed.run? hq, fun u => ?_⟩
    rw [stage?_record]
    by_cases hu : u = t
    · rw [if_pos hu, hu]
      exact hc.place?_plays hp hq
    · rw [if_neg hu, ← hc.agrees u]
      refine Pool.place?_run? hq fun x hx => ?_
      rw [hp.own hx]
      exact fun he => hu (Option.some.inj he).symm

/-! ### Whole runs -/

variable {conns : List C} {es : List (Event C)}

/-- The connection that an event brings to the pool. -/
def Event.brings : Event C → List C
  | .opened _ c => [c]
  | _ => []

/-- The connections that have been opened by a run. -/
def openedBy (es : List (Event C)) : List C := es.flatMap Event.brings

theorem Plays.brings {pes : List (Pool.Event C)} (h : Plays tr e t pes s) :
    Pool.openedBy pes = e.brings := by
  have hf : ∀ r : Progress C, Pool.openedBy (firstStatement t r) = [] := by
    intro r
    cases r <;> rfl
  cases h with
  | start _ p r | wake _ p r | take _ p r => exact hf r
  | _ => rfl

/-- Calls on a new pool of the connections `conns` come to `tr` by the events `es`. -/
def Reaches (conns : List C) (es : List (Event C)) (tr : Traffic C) : Prop :=
  Run.Reaches ((Pool.ofList? conns).map ofPool) step? es tr

/-- No event makes or loses a connection, but for the one that it brings. -/
theorem Coherent.known_perm (hc : Coherent tr) (h : tr.step? e = some tr') :
    tr'.pool.known.Perm (tr.pool.known ++ e.brings) := by
  obtain ⟨rfl, rfl⟩ | ⟨t, pes, s, q, hp, hq, rfl⟩ := hc.plays h
  · have ht : Pool.Transition tr.pool .close tr.pool.close := .close
    exact ht.known_perm hc.wellFormed
  · rw [← hp.brings]
    exact Pool.known_perm_run? hc.wellFormed hq

theorem coherent_new (conns : List C) :
    Coherent (ofPool ⟨conns.length, conns.length, false, conns.reverse, [], [], [], [], [], []⟩) :=
  ⟨Pool.wellFormed_new conns, fun _ => rfl⟩

theorem Reaches.history (h : Reaches conns es tr) (R : List (Event C) → Traffic C → Prop)
    (start : ∀ p, Pool.ofList? conns = some p → R [] (ofPool p))
    (keeps : ∀ es tr e tr', R es tr → Reaches conns es tr → Coherent tr → tr.step? e = some tr' →
      R (es ++ [e]) tr') : R es tr := by
  obtain ⟨tr₀, h₀, hr⟩ := Option.bind_eq_some_iff.mp h
  obtain ⟨p, hp, rfl⟩ := Option.map_eq_some_iff.mp h₀
  refine (Run.history (fun es tr => R es tr ∧ Reaches conns es tr ∧ Coherent tr) ?_ ?_ hr).1
  · refine ⟨start p hp, ?_, ?_⟩
    · simp [Reaches, Run.Reaches, hp]
    · obtain rfl := Pool.ofList?_eq_some hp
      exact coherent_new conns
  · intro es tr e tr' hi he
    exact ⟨keeps es tr e tr' hi.1 hi.2.1 hi.2.2 he, hi.2.1.step he, hi.2.2.of_step? he⟩

theorem coherent_of_reaches (h : Reaches conns es tr) : Coherent tr := by
  refine h.history (fun _ => Coherent) (fun p hp => ?_) fun _ _ _ _ hc _ _ he => hc.of_step? he
  obtain rfl := Pool.ofList?_eq_some hp
  exact coherent_new conns

/-- The pool of the traffic has come to be what it is by its own events, and has had the same
connections opened for it. -/
theorem pool_reaches (h : Reaches conns es tr) :
    ∃ pes, Pool.Reaches conns pes tr.pool ∧ Pool.openedBy pes = openedBy es := by
  -- The events of the pool are those that each event of the traffic plays, one after another.
  refine h.history (fun es tr => ∃ pes, Pool.Reaches conns pes tr.pool ∧
    Pool.openedBy pes = openedBy es) (fun p hp => ?_) ?_
  · exact ⟨[], by simp [Pool.Reaches, Run.Reaches, hp, ofPool], rfl⟩
  · rintro es tr e tr' ⟨pes, hp, ho⟩ - hc he
    obtain ⟨rfl, rfl⟩ | ⟨t, pes', s, q, hpl, hq, rfl⟩ := hc.plays he
    · refine ⟨pes ++ [.close], hp.step rfl, ?_⟩
      rw [Pool.openedBy_append, ho]
      simp [openedBy, Pool.openedBy, Pool.Event.brings, Event.brings]
    · refine ⟨pes ++ pes', hp.append hq, ?_⟩
      rw [Pool.openedBy_append, ho, hpl.brings]
      simp [openedBy]

end Traffic

end Geocoding
