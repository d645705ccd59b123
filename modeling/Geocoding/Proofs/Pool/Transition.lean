import Geocoding.Pool
import Geocoding.Proofs.Keyed
import Geocoding.Proofs.Run
import Mathlib.Tactic.Basic

/-!
# What one event does to a pool

`Transition` lists all that an event can do, with what must hold for it to happen; whatever is said of
pools after an event is read off that list. `transition_of_step?` says that nothing else can happen.
-/

namespace Geocoding.Pool

variable {C : Type} {p p' : Pool C} {e : Event C} {t : Ticket} {l : Lease C}

/-! ### A permit that comes back -/

/-- A permit that comes back stays with the pool, or goes on to the first of the queue. -/
theorem returnPermit_cases (p : Pool C) :
    p.returnPermit = { p with permits := p.permits + 1 } ∨
      ∃ t queue, p.closed = false ∧ p.queue = t :: queue ∧
        p.returnPermit = { p with queue, granted := p.granted ++ [t] } := by
  unfold returnPermit
  split
  · next t queue hc hq => exact .inr ⟨t, queue, hc, hq, rfl⟩
  · exact .inl rfl

@[simp] theorem returnPermit_size (p : Pool C) : p.returnPermit.size = p.size := by
  obtain h | ⟨t, queue, -, -, h⟩ := returnPermit_cases p <;> rw [h]

@[simp] theorem returnPermit_idle (p : Pool C) : p.returnPermit.idle = p.idle := by
  obtain h | ⟨t, queue, -, -, h⟩ := returnPermit_cases p <;> rw [h]

@[simp] theorem returnPermit_admitted (p : Pool C) : p.returnPermit.admitted = p.admitted := by
  obtain h | ⟨t, queue, -, -, h⟩ := returnPermit_cases p <;> rw [h]

@[simp] theorem returnPermit_opening (p : Pool C) : p.returnPermit.opening = p.opening := by
  obtain h | ⟨t, queue, -, -, h⟩ := returnPermit_cases p <;> rw [h]

@[simp] theorem returnPermit_held (p : Pool C) : p.returnPermit.held = p.held := by
  obtain h | ⟨t, queue, -, -, h⟩ := returnPermit_cases p <;> rw [h]

@[simp] theorem returnPermit_discarded (p : Pool C) : p.returnPermit.discarded = p.discarded := by
  obtain h | ⟨t, queue, -, -, h⟩ := returnPermit_cases p <;> rw [h]

theorem mem_waiting_returnPermit (p : Pool C) (t : Ticket) :
    (t ∈ p.returnPermit.queue ∨ t ∈ p.returnPermit.granted) ↔ (t ∈ p.queue ∨ t ∈ p.granted) := by
  obtain h | ⟨u, queue, -, hq, h⟩ := returnPermit_cases p
  · rw [h]
  · simp only [h, hq, List.mem_append, List.mem_cons, List.not_mem_nil, or_false]
    tauto

theorem returnPermit_balance (p : Pool C) :
    p.returnPermit.permits + p.returnPermit.holders.length =
      p.permits + p.holders.length + 1 := by
  obtain h | ⟨t, queue, -, -, h⟩ := returnPermit_cases p
  · rw [h]
    show p.permits + 1 + p.holders.length = _
    omega
  · simp only [h, holders, List.length_append, List.length_singleton]
    omega

theorem returnPermit_tickets (p : Pool C) : p.returnPermit.tickets.Perm p.tickets := by
  obtain h | ⟨t, queue, -, hq, h⟩ := returnPermit_cases p
  · rw [h]
    exact .refl _
  · simp only [h, hq, tickets, holders, List.append_assoc, List.cons_append, List.nil_append]
    exact .trans (.append_left queue List.perm_middle) List.perm_middle

/-! ### All that can happen -/

/-- What an event can do to a pool. -/
inductive Transition (p : Pool C) : Event C → Pool C → Prop where
  | refuse (t : Ticket) (hc : p.closed = true) : Transition p (.acquire t) p
  | enter (t : Ticket) (hc : p.closed = false) (hp : 0 < p.permits) (ht : t ∉ p.tickets) :
      Transition p (.acquire t) { p with permits := p.permits - 1, admitted := t :: p.admitted }
  | enqueue (t : Ticket) (hc : p.closed = false) (hp : p.permits = 0) (ht : t ∉ p.tickets) :
      Transition p (.acquire t) { p with queue := p.queue ++ [t] }
  | notice (t : Ticket) (hc : p.closed = false) (ht : t ∈ p.granted) :
      Transition p (.poll t)
        { p with granted := p.granted.erase t, admitted := t :: p.admitted }
  /-- Nothing has changed for an attempt that looks again. -/
  | look (t : Ticket) (ht : t ∈ p.queue ∨ t ∈ p.opening) : Transition p (.poll t) p
  /-- An attempt that is cancelled, or finds the pool closed, gives back the permit it was given. -/
  | yieldGrant (e : Event C) (t : Ticket) (he : e = .cancel t ∨ e = .poll t ∧ p.closed = true)
      (ht : t ∈ p.granted) :
      Transition p e (returnPermit { p with granted := p.granted.erase t })
  | leaveQueue (e : Event C) (t : Ticket) (he : e = .cancel t ∨ e = .poll t ∧ p.closed = true)
      (ht : t ∈ p.queue) : Transition p e { p with queue := p.queue.erase t }
  | takeIdle (t : Ticket) (c : C) (idle : List C) (ht : t ∈ p.admitted) (hi : p.idle = c :: idle) :
      Transition p (.take t) (hand { p with admitted := p.admitted.erase t, idle } t c)
  | startOpening (t : Ticket) (ht : t ∈ p.admitted) (hi : p.idle = []) :
      Transition p (.take t)
        { p with admitted := p.admitted.erase t, opening := t :: p.opening }
  | opened (t : Ticket) (c : C) (ht : t ∈ p.opening) :
      Transition p (.opened t c) (hand { p with opening := p.opening.erase t } t c)
  /-- An attempt that is cancelled, or gets no connection opened, gives back its permit. -/
  | stopOpening (e : Event C) (t : Ticket) (he : e = .cancel t ∨ e = .openFailed t)
      (ht : t ∈ p.opening) :
      Transition p e (returnPermit { p with opening := p.opening.erase t })
  | begin (t : Ticket) (s : Nat) (l : Lease C) (hl : p.lease? t = some l) (hs : s ∉ l.running) :
      Transition p (.begin t s)
        (p.setLease t { l with inFlight := true, running := s :: l.running })
  | complete (t : Ticket) (s : Nat) (l : Lease C) (hl : p.lease? t = some l) (hs : s ∈ l.running) :
      Transition p (.complete t s)
        (p.setLease t { l with inFlight := false, running := l.running.erase s })
  | abandon (t : Ticket) (s : Nat) (l : Lease C) (hl : p.lease? t = some l) (hs : s ∈ l.running) :
      Transition p (.abandon t s) (p.setLease t { l with running := l.running.erase s })
  | release (t : Ticket) (l : Lease C) (hl : p.lease? t = some l) :
      Transition p (.release t)
        (returnPermit (putBack { p with held := p.held.filter (·.1 != t) } l))
  | close : Transition p .close { p with closed := true }

theorem transition_of_acquire (h : t ∉ p.tickets) : Transition p (.acquire t) (p.acquire t).1 := by
  unfold acquire
  split
  · next hc => exact .refuse t hc
  · next hc =>
    have hc : p.closed = false := by simpa using hc
    split
    · next hp => exact .enter t hc hp h
    · next hp => exact .enqueue t hc (by omega) h

theorem poll?_cases {r : Progress C} (h : p.poll? t = some (p', r)) :
    (t ∈ p.granted ∧ p.closed = false ∧ r = .admitted ∧
        p' = { p with granted := p.granted.erase t, admitted := t :: p.admitted }) ∨
      (t ∈ p.granted ∧ p.closed = true ∧ r = .refused ∧
        p' = returnPermit { p with granted := p.granted.erase t }) ∨
      (t ∈ p.queue ∧ p.closed = true ∧ r = .refused ∧
        p' = { p with queue := p.queue.erase t }) ∨
      (t ∈ p.queue ∧ r = .waiting ∧ p' = p) ∨ (t ∈ p.opening ∧ r = .opening ∧ p' = p) := by
  unfold poll? at h
  split at h
  · next ht =>
    cases hc : p.closed with
    | true =>
      obtain ⟨rfl, rfl⟩ : returnPermit _ = p' ∧ _ = r := by simpa [hc] using h
      simp [ht]
    | false =>
      obtain ⟨rfl, rfl⟩ : _ = p' ∧ _ = r := by simpa [hc] using h
      simp [ht]
  · split at h
    · next ht =>
      cases hc : p.closed with
      | true =>
        obtain ⟨rfl, rfl⟩ : _ = p' ∧ _ = r := by simpa [hc] using h
        simp [ht]
      | false =>
        obtain ⟨rfl, rfl⟩ : p = p' ∧ _ = r := by simpa [hc] using h
        simp [ht]
    · split at h
      · next ht =>
        obtain ⟨rfl, rfl⟩ : p = p' ∧ _ = r := by simpa using h
        simp [ht]
      · exact absurd h (by simp)

theorem take?_cases {r : Progress C} (h : p.take? t = some (p', r)) :
    t ∈ p.admitted ∧
      ((p.idle = [] ∧ r = .opening ∧
          p' = { p with admitted := p.admitted.erase t, opening := t :: p.opening }) ∨
        ∃ c idle, p.idle = c :: idle ∧ r = .connected c ∧
          p' = hand { p with admitted := p.admitted.erase t, idle } t c) := by
  unfold take? at h
  split at h
  · next ht =>
    cases hi : p.idle with
    | nil =>
      obtain ⟨rfl, rfl⟩ : _ = p' ∧ _ = r := by simpa [hi] using h
      simp [ht]
    | cons c idle =>
      obtain ⟨rfl, rfl⟩ : _ = p' ∧ _ = r := by simpa [hi] using h
      simp [ht]
  · exact absurd h (by simp)

theorem transition_of_poll? {r : Progress C} (h : p.poll? t = some (p', r)) :
    Transition p (.poll t) p' := by
  obtain ⟨ht, hc, -, rfl⟩ | ⟨ht, hc, -, rfl⟩ | ⟨ht, hc, -, rfl⟩ | ⟨ht, -, rfl⟩ | ⟨ht, -, rfl⟩ :=
    poll?_cases h
  · exact .notice t hc ht
  · exact .yieldGrant _ t (.inr ⟨rfl, hc⟩) ht
  · exact .leaveQueue _ t (.inr ⟨rfl, hc⟩) ht
  · exact .look t (.inl ht)
  · exact .look t (.inr ht)

theorem transition_of_take? {r : Progress C} (h : p.take? t = some (p', r)) :
    Transition p (.take t) p' := by
  obtain ⟨ht, ⟨hi, -, rfl⟩ | ⟨c, idle, hi, -, rfl⟩⟩ := take?_cases h
  · exact .startOpening t ht hi
  · exact .takeIdle t c idle ht hi

theorem update?_eq_some {f : Lease C → Option (Lease C)} (h : p.update? t f = some p') :
    ∃ l l', p.lease? t = some l ∧ f l = some l' ∧ p' = p.setLease t l' := by
  obtain ⟨l', hl', rfl⟩ := Option.map_eq_some_iff.mp h
  obtain ⟨l, hl, hf⟩ := Option.bind_eq_some_iff.mp hl'
  exact ⟨l, l', hl, hf, rfl⟩

theorem transition_of_cancel? (h : p.cancel? t = some p') : Transition p (.cancel t) p' := by
  unfold cancel? openFailed? at h
  split at h
  · next ht =>
    cases h
    exact .yieldGrant _ t (.inl rfl) ht
  · split at h
    · next ht =>
      cases h
      exact .leaveQueue _ t (.inl rfl) ht
    · split at h
      · next ht =>
        cases h
        exact .stopOpening _ t (.inl rfl) ht
      · cases h

/-- An event that can happen does one of the things that are listed. -/
theorem transition_of_step? (h : p.step? e = some p') : Transition p e p' := by
  cases e with
  | acquire t =>
    by_cases ht : p.knows t
    · simp [step?, ht] at h
    · obtain rfl : (p.acquire t).1 = p' := by simpa [step?, ht] using h
      exact transition_of_acquire (by simpa [knows] using ht)
  | poll t =>
    obtain ⟨⟨p₁, r⟩, hr, rfl⟩ := Option.map_eq_some_iff.mp h
    exact transition_of_poll? hr
  | take t =>
    obtain ⟨⟨p₁, r⟩, hr, rfl⟩ := Option.map_eq_some_iff.mp h
    exact transition_of_take? hr
  | opened t c =>
    simp only [step?, opened?] at h
    split at h
    · next ht =>
      cases h
      exact .opened t c ht
    · cases h
  | openFailed t =>
    simp only [step?, openFailed?] at h
    split at h
    · next ht =>
      cases h
      exact .stopOpening _ t (.inr rfl) ht
    · cases h
  | cancel t => exact transition_of_cancel? h
  | begin t s =>
    obtain ⟨l, l', hl, hf, rfl⟩ := update?_eq_some h
    simp only [Lease.begin?] at hf
    split at hf
    · cases hf
    · next hs =>
      cases hf
      exact .begin t s l hl hs
  | complete t s =>
    obtain ⟨l, l', hl, hf, rfl⟩ := update?_eq_some h
    simp only [Lease.complete?] at hf
    split at hf
    · next hs =>
      cases hf
      exact .complete t s l hl hs
    · cases hf
  | abandon t s =>
    obtain ⟨l, l', hl, hf, rfl⟩ := update?_eq_some h
    simp only [Lease.abandon?] at hf
    split at hf
    · next hs =>
      cases hf
      exact .abandon t s l hl hs
    · cases hf
  | release t =>
    obtain ⟨l, hl, rfl⟩ := Option.map_eq_some_iff.mp h
    exact .release t l hl
  | close =>
    cases h
    exact .close

/-! ### Runs -/

theorem run?_invariant {I : Pool C → Prop} {es : List (Event C)} (start : I p)
    (keeps : ∀ p e p', I p → Transition p e p' → I p') (h : p.run? es = some p') : I p' :=
  Run.invariant I start (fun p e p' hi hs => keeps p e p' hi (transition_of_step? hs)) h

/-- A pool of the connections `conns` comes to `p` by the events `es`. -/
def Reaches (conns : List C) (es : List (Event C)) (p : Pool C) : Prop :=
  Run.Reaches (ofList? conns) step? es p

theorem ofList?_eq_some {conns : List C} (h : ofList? conns = some p) :
    p = ⟨conns.length, conns.length, false, conns.reverse, [], [], [], [], [], []⟩ := by
  unfold ofList? at h
  split at h
  · cases h
  · exact (Option.some.inj h).symm

theorem Reaches.history {conns : List C} {es : List (Event C)} (h : Reaches conns es p)
    (R : List (Event C) → Pool C → Prop)
    (start : R [] ⟨conns.length, conns.length, false, conns.reverse, [], [], [], [], [], []⟩)
    (keeps : ∀ es p e p', R es p → Transition p e p' → R (es ++ [e]) p') : R es p := by
  obtain ⟨p₀, h₀, hr⟩ := Option.bind_eq_some_iff.mp h
  obtain rfl := ofList?_eq_some h₀
  exact Run.history R start (fun es p e p' hi hs => keeps es p e p' hi (transition_of_step? hs)) hr

end Geocoding.Pool
