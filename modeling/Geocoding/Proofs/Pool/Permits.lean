import Geocoding.Proofs.Pool.Transition
import Mathlib.Data.List.Count
import Mathlib.Data.List.Nodup

/-!
# The permits of a pool

A pool that is well formed has as many permits as connections to begin with, each with nobody or with one
attempt, and never more connections that are open or being opened. Every event keeps a pool well formed.
-/

namespace Geocoding.Pool

variable {C : Type} {p p' : Pool C} {e : Event C} {t : Ticket} {l : Lease C}

/-- Permits, attempts and connections add up. -/
structure WellFormed (p : Pool C) : Prop where
  /-- Each permit is with nobody or with one attempt. -/
  balance : p.permits + p.holders.length = p.size
  /-- Each attempt is in one place. -/
  once : p.tickets.Nodup
  /-- The connections that are open or being opened have room in the pool. -/
  room : p.idle.length + p.opening.length + p.held.length ≤ p.size

/-! ### Counting attempts -/

theorem holders_length (p : Pool C) :
    p.holders.length =
      p.granted.length + p.admitted.length + p.opening.length + p.held.length := by
  simp only [holders, List.length_append, List.length_map]

theorem count_tickets (p : Pool C) (u : Ticket) :
    p.tickets.count u = p.queue.count u + p.granted.count u + p.admitted.count u +
      p.opening.count u + (p.held.map (·.1)).count u := by
  simp only [tickets, holders, List.count_append]
  omega

theorem WellFormed.count_le_one (h : WellFormed p) (u : Ticket) : p.tickets.count u ≤ 1 :=
  List.nodup_iff_count_le_one.mp h.once u

theorem length_erase_add {ts : List Ticket} (h : t ∈ ts) : (ts.erase t).length + 1 = ts.length := by
  have := List.length_pos_of_mem h
  rw [List.length_erase_of_mem h]
  omega

theorem count_erase_add {ts : List Ticket} (h : t ∈ ts) (u : Ticket) :
    (ts.erase t).count u + [t].count u = ts.count u := by
  rw [(List.perm_cons_erase h).count_eq u]
  simp only [List.count_cons, List.count_nil]
  omega

theorem count_cons_le_one {ts : List Ticket} (hn : ts.Nodup) (h : t ∉ ts) (u : Ticket) :
    ts.count u + [t].count u ≤ 1 := by
  have := List.nodup_iff_count_le_one.mp (List.nodup_cons.mpr ⟨h, hn⟩) u
  simp only [List.count_cons, List.count_nil] at this ⊢
  omega

theorem WellFormed.held_nodup (h : WellFormed p) : (p.held.map (·.1)).Nodup :=
  (List.nodup_append.mp (List.nodup_append.mp h.once).2.1).2.1

theorem WellFormed.split_held (h : WellFormed p) (hl : p.lease? t = some l) :
    ∃ h₁ h₂, p.held = h₁ ++ (t, l) :: h₂ ∧ p.held.filter (·.1 != t) = h₁ ++ h₂ ∧
      ∀ l', (p.setLease t l').held = h₁ ++ (t, l') :: h₂ :=
  Keyed.split_of_lookup h.held_nodup hl

/-! ### What events keep -/

theorem Transition.size_eq (h : Transition p e p') : p'.size = p.size := by
  cases h with
  | yieldGrant => exact returnPermit_size _
  | stopOpening => exact returnPermit_size _
  | release => exact returnPermit_size _
  | _ => rfl

theorem Transition.balance (h : Transition p e p') (hp : WellFormed p) :
    p'.permits + p'.holders.length = p.permits + p.holders.length := by
  cases h with
  | refuse | look | close | enqueue | leaveQueue => rfl
  | enter t hc hpos ht =>
    simp only [holders_length, List.length_cons]
    omega
  | notice t hc ht | startOpening t ht hi =>
    have := length_erase_add ht
    simp only [holders_length, List.length_cons]
    omega
  | takeIdle t c idle ht hi | opened t c ht =>
    have := length_erase_add ht
    simp only [hand, holders_length, List.length_cons]
    omega
  | yieldGrant e t he ht | stopOpening e t he ht =>
    have := length_erase_add ht
    rw [returnPermit_balance]
    simp only [holders_length]
    omega
  | begin t s l hl | complete t s l hl | abandon t s l hl =>
    simp only [setLease, holders_length, List.length_map]
  | release t l hl =>
    obtain ⟨h₁, h₂, hh, hf, -⟩ := hp.split_held hl
    rw [returnPermit_balance]
    simp only [putBack, holders_length, hf]
    simp only [hh, List.length_append, List.length_cons]
    omega

theorem Transition.once (h : Transition p e p') (hp : WellFormed p) : p'.tickets.Nodup := by
  refine List.nodup_iff_count_le_one.mpr fun u => ?_
  have hu := hp.count_le_one u
  rw [count_tickets] at hu
  cases h with
  | refuse | look | close => exact hp.count_le_one u
  | enter t hc hpos ht | enqueue t hc hpos ht =>
    have := count_cons_le_one hp.once ht u
    rw [count_tickets] at this ⊢
    simp only [List.count_append, List.count_cons, List.count_nil] at this ⊢
    omega
  | leaveQueue e t he ht =>
    have := count_erase_add ht u
    rw [count_tickets]
    dsimp only
    omega
  | notice t hc ht | startOpening t ht hi =>
    have := count_erase_add ht u
    rw [count_tickets]
    simp only [List.count_cons, List.count_nil] at this ⊢
    omega
  | takeIdle t c idle ht hi | opened t c ht =>
    have := count_erase_add ht u
    rw [count_tickets]
    simp only [hand, List.map_cons, List.count_cons, List.count_nil] at this ⊢
    omega
  | yieldGrant e t he ht | stopOpening e t he ht =>
    have := count_erase_add ht u
    rw [(returnPermit_tickets _).count_eq, count_tickets]
    dsimp only
    omega
  | begin t s l hl | complete t s l hl | abandon t s l hl =>
    rw [count_tickets]
    simp only [setLease, Keyed.keys_set]
    omega
  | release t l hl =>
    obtain ⟨h₁, h₂, hh, hf, -⟩ := hp.split_held hl
    rw [(returnPermit_tickets _).count_eq, count_tickets]
    simp only [putBack, hf]
    simp only [hh, List.map_append, List.map_cons, List.count_append, List.count_cons] at hu ⊢
    omega

theorem Transition.room (h : Transition p e p') (hp : WellFormed p) :
    p'.idle.length + p'.opening.length + p'.held.length ≤ p.size := by
  have hroom := hp.room
  cases h with
  | refuse | look | close | enter | enqueue | leaveQueue | notice => exact hroom
  | yieldGrant => simpa using hroom
  | startOpening t ht hi =>
    -- A permit with no idle connection: all that is open or being opened has a permit as well.
    have hb := hp.balance
    have := length_erase_add ht
    rw [holders_length] at hb
    simp only [hi, List.length_nil, List.length_cons]
    omega
  | takeIdle t c idle ht hi =>
    simp only [hi, List.length_cons] at hroom
    simp only [hand, List.length_cons]
    omega
  | opened t c ht =>
    have := length_erase_add ht
    simp only [hand, List.length_cons]
    omega
  | stopOpening e t he ht =>
    have := length_erase_add ht
    simp only [returnPermit_idle, returnPermit_opening, returnPermit_held]
    omega
  | begin t s l hl | complete t s l hl | abandon t s l hl =>
    simpa only [setLease, List.length_map] using hroom
  | release t l hl =>
    obtain ⟨h₁, h₂, hh, hf, -⟩ := hp.split_held hl
    simp only [returnPermit_idle, returnPermit_opening, returnPermit_held, putBack, hf]
    simp only [hh, List.length_append, List.length_cons] at hroom ⊢
    split
    · omega
    · simp only [List.length_cons]
      omega

theorem Transition.wellFormed (h : Transition p e p') (hp : WellFormed p) : WellFormed p' where
  balance := by rw [h.balance hp, hp.balance, h.size_eq]
  once := h.once hp
  room := by
    rw [h.size_eq]
    exact h.room hp

/-! ### Whole runs -/

variable {conns : List C} {es : List (Event C)}

theorem wellFormed_new (conns : List C) :
    WellFormed ⟨conns.length, conns.length, false, conns.reverse, [], [], [], [], [], []⟩ :=
  ⟨rfl, List.nodup_nil, by simp⟩

theorem wellFormed_of_reaches (h : Reaches conns es p) : WellFormed p :=
  h.history (fun _ => WellFormed) (wellFormed_new conns) fun _ _ _ _ hi ht => ht.wellFormed hi

theorem WellFormed.run? (hp : WellFormed p) (h : p.run? es = some p') : WellFormed p' :=
  run?_invariant hp (fun _ _ _ hi ht => ht.wellFormed hi) h

theorem size_eq_run? (h : p.run? es = some p') : p'.size = p.size :=
  run?_invariant (I := fun q => q.size = p.size) rfl (fun _ _ _ hi ht => ht.size_eq.trans hi) h

theorem size_of_reaches (h : Reaches conns es p) : p.size = conns.length :=
  h.history (fun _ q => q.size = conns.length) rfl fun _ _ _ _ hi ht => ht.size_eq.trans hi

/-- A connection begins to be opened only for an attempt that has a permit and finds none idle. -/
theorem Transition.opening_new (h : Transition p e p') (ht : t ∈ p'.opening) (hn : t ∉ p.opening) :
    e = .take t ∧ t ∈ p.admitted ∧ p.idle = [] := by
  cases h with
  | startOpening u hu hi =>
    obtain rfl : t = u := by simpa [hn] using ht
    exact ⟨rfl, hu, hi⟩
  | opened u c hu => exact absurd (List.mem_of_mem_erase ht) hn
  | yieldGrant => exact absurd (by simpa using ht) hn
  | stopOpening e u he hu =>
    rw [returnPermit_opening] at ht
    exact absurd (List.mem_of_mem_erase ht) hn
  | release => exact absurd (by simpa [putBack] using ht) hn
  | _ => exact absurd ht hn

/-- Permits are neither lost nor made. Each is with nobody, with one attempt that has not come to its
connection yet, or with one connection that is checked out; there are never more connections open or being
opened than permits; a connection is opened only by an attempt that has a permit and finds none idle; and
all permits are there again whenever no attempt has one. -/
theorem permits_accounted (h : Reaches conns es p) :
    p.permits + (p.granted ++ p.admitted ++ p.opening).length + p.held.length = conns.length ∧
      p.tickets.Nodup ∧
      p.idle.length + p.opening.length + p.held.length ≤ conns.length ∧
      (∀ e p' t, p.step? e = some p' → t ∈ p'.opening → t ∉ p.opening →
        e = .take t ∧ t ∈ p.admitted ∧ p.idle = []) ∧
      (p.holders = [] → p.permits = conns.length) := by
  have hw := wellFormed_of_reaches h
  have hs := size_of_reaches h
  have hb := hw.balance
  refine ⟨?_, hw.once, ?_, ?_, ?_⟩
  · rw [holders_length] at hb
    simp only [List.length_append]
    omega
  · exact hs ▸ hw.room
  · intro e p' t he ht hn
    exact (transition_of_step? he).opening_new ht hn
  · intro hn
    rw [hn, List.length_nil] at hb
    omega

/-- Two connections, of which one is discarded and cannot be opened again; its permit has gone on. -/
theorem permits_accounted_failed_opening :
    Reaches [7, 8] [.acquire 0, .take 0, .acquire 1, .take 1, .acquire 2, .begin 0 0, .abandon 0 0,
        .release 0, .poll 2, .take 2, .acquire 3, .openFailed 2]
      ⟨2, 0, false, [], [], [3], [], [], [(1, ⟨7, false, []⟩)], [8]⟩ ∧
      0 + ([3] ++ [] ++ []).length + [(1, (⟨7, false, []⟩ : Lease Nat))].length = [7, 8].length ∧
      [3, 1].Nodup := by
  refine ⟨?run, (permits_accounted ?run).1, (permits_accounted ?run).2.1⟩
  rfl

end Geocoding.Pool
