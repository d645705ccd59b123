import Geocoding.Proofs.Pool.Permits

/-!
# Where an attempt is

An attempt on a well-formed pool waits, looks for an idle connection, has one opened for it, has a lease,
or is at an end. An event moves the attempt that it names, and no other.
-/

namespace Geocoding.Pool

variable {C : Type} {p p' : Pool C} {e : Event C} {t u : Ticket} {l : Lease C}

/-! ### Leases -/

theorem lease?_hand (p : Pool C) (u t : Ticket) (c : C) :
    (p.hand u c).lease? t = if t = u then some ⟨c, false, []⟩ else p.lease? t := by
  by_cases ht : t = u
  · simp [lease?, hand, ht]
  · have hb : (t == u) = false := beq_eq_false_iff_ne.mpr ht
    simp [lease?, hand, ht, hb, List.lookup_cons]

theorem lease?_setLease (hl : p.lease? u = some l) (l' : Lease C) (t : Ticket) :
    (p.setLease u l').lease? t = if t = u then some l' else p.lease? t := by
  have hl : p.held.lookup u = some l := hl
  simp only [lease?, setLease, Keyed.lookup_set, hl, Option.map_some]

theorem lease?_release (p : Pool C) (l : Lease C) (u t : Ticket) :
    (returnPermit (putBack { p with held := p.held.filter (·.1 != u) } l)).lease? t =
      if t = u then none else p.lease? t := by
  simp only [lease?, returnPermit_held, putBack, Keyed.lookup_filter]

theorem step?_release (hl : p.lease? t = some l) :
    p.step? (.release t) =
      some (returnPermit (putBack { p with held := p.held.filter (·.1 != t) } l)) := by
  simp only [step?, release?, hl, Option.map_some]

theorem step?_release_setLease {l' : Lease C} (hl : p.lease? t = some l') (l : Lease C) :
    ∃ q, (p.setLease t l).step? (.release t) = some q ∧
      q.idle = (if l.inFlight then p.idle else l.conn :: p.idle) ∧
      q.discarded = (if l.inFlight then l.conn :: p.discarded else p.discarded) := by
  have hl : (p.setLease t l).lease? t = some l := by rw [lease?_setLease hl, if_pos rfl]
  exact ⟨_, step?_release hl, by simp [putBack, setLease], by simp [putBack, setLease]⟩

theorem mem_tickets_iff (p : Pool C) (t : Ticket) :
    t ∈ p.tickets ↔ t ∈ p.queue ∨ t ∈ p.granted ∨ t ∈ p.admitted ∨ t ∈ p.opening ∨
      ∃ l, p.lease? t = some l := by
  simp only [tickets, holders, List.mem_append, lease?, ← Keyed.mem_keys_iff]
  tauto

theorem WellFormed.lease?_eq_none (hp : WellFormed p)
    (ht : t ∈ p.queue ∨ t ∈ p.granted ∨ t ∈ p.admitted ∨ t ∈ p.opening) : p.lease? t = none := by
  refine (Keyed.lookup_eq_none_iff_keys p.held t).mpr fun hk => ?_
  have hc := hp.count_le_one t
  have hk := List.count_pos_iff.mpr hk
  rw [count_tickets] at hc
  rcases ht with ht | ht | ht | ht <;> have := List.count_pos_iff.mpr ht <;> omega

/-! ### The attempts that an event leaves alone -/

/-- The attempt that an event is about. -/
def Event.ticket? : Event C → Option Ticket
  | .acquire t | .poll t | .take t | .opened t _ | .openFailed t | .cancel t | .begin t _
  | .complete t _ | .abandon t _ | .release t => some t
  | .close => none

/-- What other attempts see of an event. -/
theorem Transition.frame (h : Transition p e p') (ht : e.ticket? ≠ some t) :
    ((t ∈ p'.queue ∨ t ∈ p'.granted) ↔ (t ∈ p.queue ∨ t ∈ p.granted)) ∧
      (t ∈ p'.admitted ↔ t ∈ p.admitted) ∧ (t ∈ p'.opening ↔ t ∈ p.opening) ∧
      p'.lease? t = p.lease? t := by
  cases h with
  | refuse | look | close => exact ⟨.rfl, .rfl, .rfl, rfl⟩
  | enter u | enqueue u | notice u | startOpening u =>
    have hu : t ≠ u := fun h => ht (congrArg some h.symm)
    simp [hu, lease?, List.mem_erase_of_ne]
  | yieldGrant e u he | leaveQueue e u he =>
    have hu : t ≠ u := by
      obtain rfl | ⟨rfl, -⟩ := he <;> exact fun h => ht (congrArg some h.symm)
    simp [hu, lease?, mem_waiting_returnPermit, List.mem_erase_of_ne]
  | stopOpening e u he =>
    have hu : t ≠ u := by
      obtain rfl | rfl := he <;> exact fun h => ht (congrArg some h.symm)
    simp [hu, lease?, mem_waiting_returnPermit, List.mem_erase_of_ne]
  | takeIdle u c idle | opened u c =>
    have hu : t ≠ u := fun h => ht (congrArg some h.symm)
    rw [lease?_hand, if_neg hu]
    simp [hu, hand, lease?, List.mem_erase_of_ne]
  | begin u s l hl | complete u s l hl | abandon u s l hl =>
    have hu : t ≠ u := fun h => ht (congrArg some h.symm)
    rw [lease?_setLease hl, if_neg hu]
    exact ⟨.rfl, .rfl, .rfl, rfl⟩
  | release u l hl =>
    have hu : t ≠ u := fun h => ht (congrArg some h.symm)
    rw [lease?_release, if_neg hu, mem_waiting_returnPermit]
    simp [putBack]

/-! ### Places -/

/-- A place for an attempt. -/
inductive Place (C : Type) where
  | waiting
  | admitted
  | opening
  | holding (l : Lease C)

/-- The place of an attempt that has got so far. -/
def Place.of? : Progress C → Option (Place C)
  | .waiting => some .waiting
  | .admitted => some .admitted
  | .opening => some .opening
  | .connected c => some (.holding ⟨c, false, []⟩)
  | .refused => none

/-- Where an attempt is, if it is not at an end. -/
def place? (p : Pool C) (t : Ticket) : Option (Place C) :=
  if t ∈ p.queue ∨ t ∈ p.granted then some .waiting
  else if t ∈ p.admitted then some .admitted
  else if t ∈ p.opening then some .opening
  else (p.lease? t).map .holding

theorem Transition.place?_frame (h : Transition p e p') (ht : e.ticket? ≠ some t) :
    p'.place? t = p.place? t := by
  obtain ⟨hw, ha, ho, hl⟩ := h.frame ht
  simp only [place?, hw, ha, ho, hl]

theorem place?_run? {es : List (Event C)} (h : p.run? es = some p')
    (he : ∀ e ∈ es, e.ticket? ≠ some t) : p'.place? t = p.place? t := by
  induction es generalizing p with
  | nil =>
    obtain rfl : p = p' := by simpa [run?] using h
    rfl
  | cons e es ih =>
    obtain ⟨q, hq, hr⟩ := Run.cons_eq_some_iff.mp h
    rw [ih hr fun x hx => he x (List.mem_cons_of_mem e hx)]
    exact (transition_of_step? hq).place?_frame (he e (List.mem_cons_self ..))

theorem place?_eq_none (ht : t ∉ p.tickets) : p.place? t = none := by
  simp only [mem_tickets_iff, not_or, not_exists] at ht
  obtain ⟨hq, hg, ha, ho, hl⟩ := ht
  simp [place?, hq, hg, ha, ho, Option.eq_none_iff_forall_ne_some.mpr hl]

theorem not_mem_tickets (h : p.place? t = none) : t ∉ p.tickets := by
  unfold place? at h
  split at h
  · cases h
  split at h
  · cases h
  split at h
  · cases h
  next hw ha ho =>
    have hl : p.lease? t = none := by simpa using h
    simp only [not_or] at hw
    simp [mem_tickets_iff, hw, ha, ho, hl]

theorem mem_waiting (h : p.place? t = some .waiting) : t ∈ p.queue ∨ t ∈ p.granted := by
  unfold place? at h
  split at h
  · assumption
  · split_ifs at h <;> simp at h

theorem mem_admitted (h : p.place? t = some .admitted) : t ∈ p.admitted := by
  unfold place? at h
  split_ifs at h
  · simp at h
  · assumption
  · simp at h
  · simp at h

theorem mem_opening (h : p.place? t = some .opening) : t ∈ p.opening := by
  unfold place? at h
  split_ifs at h
  · simp at h
  · simp at h
  · assumption
  · simp at h

theorem lease?_of_holding (h : p.place? t = some (.holding l)) : p.lease? t = some l := by
  unfold place? at h
  split_ifs at h
  · simp at h
  · simp at h
  · simp at h
  · simpa using h

theorem place?_waiting (ht : t ∈ p.queue ∨ t ∈ p.granted) : p.place? t = some .waiting :=
  if_pos ht

/-- An attempt is counted once, so it is not in two places. -/
theorem WellFormed.place?_admitted (hp : WellFormed p) (ht : t ∈ p.admitted) :
    p.place? t = some .admitted := by
  have hc := hp.count_le_one t
  have := List.count_pos_iff.mpr ht
  rw [count_tickets] at hc
  have hq : t ∉ p.queue := List.count_eq_zero.mp (by omega)
  have hg : t ∉ p.granted := List.count_eq_zero.mp (by omega)
  simp [place?, hq, hg, ht]

theorem WellFormed.place?_opening (hp : WellFormed p) (ht : t ∈ p.opening) :
    p.place? t = some .opening := by
  have hc := hp.count_le_one t
  have := List.count_pos_iff.mpr ht
  rw [count_tickets] at hc
  have hq : t ∉ p.queue := List.count_eq_zero.mp (by omega)
  have hg : t ∉ p.granted := List.count_eq_zero.mp (by omega)
  have ha : t ∉ p.admitted := List.count_eq_zero.mp (by omega)
  simp [place?, hq, hg, ha, ht]

theorem WellFormed.place?_holding (hp : WellFormed p) (hl : p.lease? t = some l) :
    p.place? t = some (.holding l) := by
  have hn : ∀ ht : t ∈ p.queue ∨ t ∈ p.granted ∨ t ∈ p.admitted ∨ t ∈ p.opening, False :=
    fun ht => by simp [hp.lease?_eq_none ht] at hl
  simp only [imp_false, not_or] at hn
  simp [place?, hn, hl]

/-! ### The place after an event -/

theorem WellFormed.gone (hp : WellFormed p) (h : p'.tickets.count t + 1 = p.tickets.count t) :
    t ∉ p'.tickets := by
  have := hp.count_le_one t
  exact List.count_eq_zero.mp (by omega)

theorem WellFormed.granted_gone (hp : WellFormed p) (ht : t ∈ p.granted) :
    t ∉ (returnPermit { p with granted := p.granted.erase t }).tickets := by
  have := count_erase_add ht t
  refine hp.gone ?_
  rw [(returnPermit_tickets _).count_eq, count_tickets, count_tickets]
  simp only [List.count_singleton_self] at this ⊢
  omega

theorem WellFormed.opening_gone (hp : WellFormed p) (ht : t ∈ p.opening) :
    t ∉ (returnPermit { p with opening := p.opening.erase t }).tickets := by
  have := count_erase_add ht t
  refine hp.gone ?_
  rw [(returnPermit_tickets _).count_eq, count_tickets, count_tickets]
  simp only [List.count_singleton_self] at this ⊢
  omega

theorem WellFormed.queue_gone (hp : WellFormed p) (ht : t ∈ p.queue) :
    t ∉ { p with queue := p.queue.erase t }.tickets := by
  have := count_erase_add ht t
  refine hp.gone ?_
  rw [count_tickets, count_tickets]
  simp only [List.count_singleton_self] at this ⊢
  omega

theorem WellFormed.lease_gone (hp : WellFormed p) (hl : p.lease? t = some l) :
    t ∉ (returnPermit (putBack { p with held := p.held.filter (·.1 != t) } l)).tickets := by
  obtain ⟨h₁, h₂, hh, hf, -⟩ := hp.split_held hl
  refine hp.gone ?_
  rw [(returnPermit_tickets _).count_eq, count_tickets, count_tickets]
  simp only [putBack, hf]
  simp only [hh, List.map_append, List.map_cons, List.count_append, List.count_cons_self]
  omega

/-- An attempt that is cancelled, gets no connection opened or gives its connection back is at an end. -/
theorem Transition.gone (h : Transition p e p') (hp : WellFormed p)
    (he : e = .cancel t ∨ e = .openFailed t ∨ e = .release t) : t ∉ p'.tickets := by
  cases h with
  | yieldGrant e u hu ht =>
    obtain rfl : u = t := by
      obtain rfl | ⟨rfl, -⟩ := hu
      · simpa using he
      · simp at he
    exact hp.granted_gone ht
  | leaveQueue e u hu ht =>
    obtain rfl : u = t := by
      obtain rfl | ⟨rfl, -⟩ := hu
      · simpa using he
      · simp at he
    exact hp.queue_gone ht
  | stopOpening e u hu ht =>
    obtain rfl : u = t := by
      obtain rfl | rfl := hu
      · simpa using he
      · simpa using he
    exact hp.opening_gone ht
  | release u l hl =>
    obtain rfl : u = t := by simpa using he
    exact hp.lease_gone hl
  | _ => simp at he

theorem place?_acquire (hp : WellFormed p) (ht : t ∉ p.tickets) :
    (p.acquire t).1.place? t = Place.of? (p.acquire t).2 := by
  have hw := (transition_of_acquire ht).wellFormed hp
  unfold acquire at hw ⊢
  split_ifs at hw ⊢ with hc hpos
  · exact place?_eq_none ht
  · exact hw.place?_admitted (List.mem_cons_self ..)
  · exact place?_waiting (.inl (by simp))

theorem place?_poll? (hp : WellFormed p) {r : Progress C} (h : p.poll? t = some (p', r)) :
    p'.place? t = Place.of? r := by
  have hw := (transition_of_poll? h).wellFormed hp
  obtain ⟨ht, -, rfl, rfl⟩ | ⟨ht, -, rfl, rfl⟩ | ⟨ht, -, rfl, rfl⟩ | ⟨ht, rfl, rfl⟩ | ⟨ht, rfl, rfl⟩ :=
    poll?_cases h
  · exact hw.place?_admitted (List.mem_cons_self ..)
  · exact place?_eq_none (hp.granted_gone ht)
  · exact place?_eq_none (hp.queue_gone ht)
  · exact place?_waiting (.inl ht)
  · exact hp.place?_opening ht

theorem place?_take? (hp : WellFormed p) {r : Progress C} (h : p.take? t = some (p', r)) :
    p'.place? t = Place.of? r := by
  have hw := (transition_of_take? h).wellFormed hp
  obtain ⟨-, ⟨-, rfl, rfl⟩ | ⟨c, idle, -, rfl, rfl⟩⟩ := take?_cases h
  · exact hw.place?_opening (List.mem_cons_self ..)
  · exact hw.place?_holding (by rw [lease?_hand, if_pos rfl])

theorem place?_opened? (hp : WellFormed p) {c : C} (h : p.opened? t c = some p') :
    p'.place? t = Place.of? (.connected c) := by
  have hw := (transition_of_step? (e := .opened t c) h).wellFormed hp
  unfold opened? at h
  split at h
  · cases h
    exact hw.place?_holding (by rw [lease?_hand, if_pos rfl])
  · cases h

end Geocoding.Pool
