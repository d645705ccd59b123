import Geocoding.Proofs.Pool.Permits
import Mathlib.Data.List.Perm.Basic

/-!
# The connections of a pool

Every connection that a pool began with or that was opened for it is idle, checked out or discarded, and
nothing else is. A connection is discarded only when it comes back with a statement in flight, and nobody
gets a discarded connection again.
-/

namespace Geocoding.Pool

variable {C : Type} {p p' : Pool C} {e : Event C} {t : Ticket} {l : Lease C}
variable {conns : List C} {es : List (Event C)}

/-- The connection that an event brings to a pool. -/
def Event.brings : Event C → List C
  | .opened _ c => [c]
  | _ => []

/-- The connections that have been opened by a run. -/
def openedBy (es : List (Event C)) : List C := es.flatMap Event.brings

/-- All connections that a pool has or has had. -/
def known (p : Pool C) : List C := p.idle ++ p.leased ++ p.discarded

@[simp] theorem setLease_idle (p : Pool C) (t : Ticket) (l : Lease C) :
    (p.setLease t l).idle = p.idle := rfl

@[simp] theorem setLease_discarded (p : Pool C) (t : Ticket) (l : Lease C) :
    (p.setLease t l).discarded = p.discarded := rfl

theorem leased_setLease (hp : WellFormed p) (hl : p.lease? t = some l) {l' : Lease C}
    (hc : l'.conn = l.conn) : (p.setLease t l').leased = p.leased := by
  obtain ⟨h₁, h₂, hh, -, hset⟩ := hp.split_held hl
  simp only [leased, hset, hh, List.map_append, List.map_cons, hc]

theorem mem_leased_iff (hp : WellFormed p) (c : C) :
    c ∈ p.leased ↔ ∃ t l, p.lease? t = some l ∧ l.conn = c := by
  constructor
  · intro hc
    obtain ⟨⟨t, l⟩, hm, rfl⟩ := List.mem_map.mp hc
    exact ⟨t, l, Keyed.lookup_of_mem hp.held_nodup hm, rfl⟩
  · rintro ⟨t, l, hl, rfl⟩
    exact List.mem_map.mpr ⟨(t, l), Keyed.mem_of_lookup hl, rfl⟩

/-! ### What one event does -/

/-- An idle connection leaves only into a lease, and comes back only out of one. -/
theorem Transition.idle_cases (h : Transition p e p') :
    p'.idle = p.idle ∨
      (∃ t c, e = .take t ∧ p.idle = c :: p'.idle ∧ p'.held = (t, ⟨c, false, []⟩) :: p.held) ∨
      (∃ t l, e = .release t ∧ p.lease? t = some l ∧ l.inFlight = false ∧
        p'.idle = l.conn :: p.idle) := by
  cases h with
  | takeIdle t c idle ht hi => exact .inr (.inl ⟨t, c, rfl, hi, rfl⟩)
  | release t l hl =>
    rw [returnPermit_idle]
    cases hf : l.inFlight with
    | false => exact .inr (.inr ⟨t, l, rfl, hl, hf, by simp [putBack, hf]⟩)
    | true => exact .inl (by simp [putBack, hf])
  | yieldGrant | stopOpening => exact .inl (returnPermit_idle _)
  | _ => exact .inl rfl

/-- A connection is discarded only when it comes back with a statement in flight. -/
theorem Transition.discarded_cases (h : Transition p e p') :
    p'.discarded = p.discarded ∨
      ∃ t l, e = .release t ∧ p.lease? t = some l ∧ l.inFlight = true ∧
        p'.discarded = l.conn :: p.discarded := by
  cases h with
  | release t l hl =>
    rw [returnPermit_discarded]
    cases hf : l.inFlight with
    | false => exact .inl (by simp [putBack, hf])
    | true => exact .inr ⟨t, l, rfl, hl, hf, by simp [putBack, hf]⟩
  | yieldGrant | stopOpening => exact .inl (returnPermit_discarded _)
  | _ => exact .inl rfl

/-- No event makes or loses a connection, but for the one that it brings. -/
theorem Transition.known_perm (h : Transition p e p') (hp : WellFormed p) :
    p'.known.Perm (p.known ++ e.brings) := by
  classical
  -- Connection by connection: each transition moves one of them at most.
  refine List.perm_iff_count.mpr fun c => ?_
  rw [List.count_append]
  cases h with
  | takeIdle t c idle ht hi =>
    simp only [known, hand, leased, hi, Event.brings, List.map_cons, List.count_append,
      List.count_cons, List.count_nil]
    omega
  | opened t c ht =>
    simp only [known, hand, leased, Event.brings, List.map_cons, List.count_append, List.count_cons,
      List.count_nil]
    omega
  | begin t s l hl | complete t s l hl | abandon t s l hl =>
    simp [known, leased_setLease hp hl, Event.brings]
  | release t l hl =>
    obtain ⟨h₁, h₂, hh, hf, -⟩ := hp.split_held hl
    simp only [known, leased, returnPermit_idle, returnPermit_held, returnPermit_discarded, putBack,
      hf]
    simp only [hh, Event.brings, List.map_append, List.map_cons, List.count_append, List.count_cons,
      List.count_nil]
    cases l.inFlight
    all_goals
      simp only [Bool.false_eq_true, if_true, if_false, List.count_cons]
      omega
  | yieldGrant e t he | stopOpening e t he =>
    obtain rfl | ⟨rfl, -⟩ := he
    · simp [known, leased, Event.brings]
    · simp [known, leased, Event.brings]
  | leaveQueue e t he =>
    obtain rfl | ⟨rfl, -⟩ := he
    · simp [known, leased, Event.brings]
    · simp [known, leased, Event.brings]
  | _ => simp [known, leased, Event.brings]

theorem lease_unique (hn : p.leased.Nodup) {t t' : Ticket} {l l' : Lease C}
    (hl : p.lease? t = some l) (hl' : p.lease? t' = some l') (hc : l.conn = l'.conn) : t = t' := by
  have he := List.inj_on_of_nodup_map hn (Keyed.mem_of_lookup hl) (Keyed.mem_of_lookup hl') hc
  exact congrArg Prod.fst he

/-! ### Whole runs -/

theorem openedBy_append (es es' : List (Event C)) :
    openedBy (es ++ es') = openedBy es ++ openedBy es' := List.flatMap_append

theorem known_perm_run? (hp : WellFormed p) (h : p.run? es = some p') :
    p'.known.Perm (p.known ++ openedBy es) := by
  induction es generalizing p with
  | nil =>
    obtain rfl : p = p' := by simpa [run?] using h
    simp [openedBy]
  | cons e es ih =>
    obtain ⟨q, hq, hr⟩ := Run.cons_eq_some_iff.mp h
    have ht := transition_of_step? hq
    have hrest := ih (ht.wellFormed hp) hr
    refine hrest.trans (((ht.known_perm hp).append_right (openedBy es)).trans ?_)
    rw [List.append_assoc]
    exact .refl _

theorem known_perm_of_reaches (h : Reaches conns es p) : p.known.Perm (conns ++ openedBy es) := by
  obtain ⟨p₀, h₀, hr⟩ := Option.bind_eq_some_iff.mp h
  obtain rfl := ofList?_eq_some h₀
  refine (known_perm_run? (wellFormed_new conns) hr).trans (List.Perm.append_right _ ?_)
  simp [known, leased]

theorem discarded_subset_run? (h : p.run? es = some p') : p.discarded ⊆ p'.discarded := by
  refine run?_invariant (I := fun q => p.discarded ⊆ q.discarded) (List.Subset.refl _) ?_ h
  intro q e q' hq ht
  obtain hd | ⟨t, l, -, -, -, hd⟩ := ht.discarded_cases
  · exact hd ▸ hq
  · exact hd ▸ fun c hc => List.mem_cons_of_mem _ (hq hc)

theorem discarded_run?_eq (h : p.run? es = some p') (hn : ∀ e ∈ es, ∀ t, e ≠ .release t) :
    p'.discarded = p.discarded := by
  induction es generalizing p with
  | nil =>
    obtain rfl : p = p' := by simpa [run?] using h
    rfl
  | cons e es ih =>
    obtain ⟨q, hq, hr⟩ := Run.cons_eq_some_iff.mp h
    rw [ih hr fun x hx => hn x (List.mem_cons_of_mem e hx)]
    obtain hd | ⟨t, l, rfl, -⟩ := (transition_of_step? hq).discarded_cases
    · exact hd
    · exact absurd rfl (hn _ (List.mem_cons_self ..) t)

/-- Nobody gets a discarded connection again. -/
theorem discarded_forever {es' : List (Event C)} (h : Reaches conns es p) (h' : p.run? es' = some p')
    (hn : (conns ++ openedBy (es ++ es')).Nodup) {c : C} (hc : c ∈ p.discarded) :
    c ∈ p'.discarded ∧ c ∉ p'.idle ∧ c ∉ p'.leased := by
  have hc' := discarded_subset_run? h' hc
  have hk : p'.known.Nodup := (known_perm_of_reaches (h.append h')).nodup_iff.mpr hn
  refine ⟨hc', fun hi => ?_, fun hi => ?_⟩
  · exact (List.nodup_append.mp hk).2.2 c (List.mem_append_left _ hi) c hc' rfl
  · exact (List.nodup_append.mp hk).2.2 c (List.mem_append_right _ hi) c hc' rfl

/-- Connections are neither lost nor doubled. Those that a pool began with and those that were opened are
idle, on a lease or discarded, and where they differ from each other, each is in one of these places only
and on one lease only. A connection is discarded only when it comes back with a statement in flight, and
nobody gets it again. None leaves the idle ones but into a lease, so that an attempt which is given up or
fails takes none. -/
theorem connections_partitioned (h : Reaches conns es p) :
    (p.idle ++ p.leased ++ p.discarded).Perm (conns ++ openedBy es) ∧
      ((conns ++ openedBy es).Nodup → (p.idle ++ p.leased ++ p.discarded).Nodup ∧
        ∀ t t' l l', p.lease? t = some l → p.lease? t' = some l' → l.conn = l'.conn → t = t') ∧
      (∀ e p', p.step? e = some p' →
        (p'.discarded = p.discarded ∨ ∃ t l, e = .release t ∧ p.lease? t = some l ∧
          l.inFlight = true ∧ p'.discarded = l.conn :: p.discarded) ∧
        (p'.idle = p.idle ∨
          (∃ t c, e = .take t ∧ p.idle = c :: p'.idle ∧ p'.lease? t = some ⟨c, false, []⟩) ∨
          ∃ t l, e = .release t ∧ p.lease? t = some l ∧ l.inFlight = false ∧
            p'.idle = l.conn :: p.idle) ∧
        (∀ t, e = .acquire t ∨ e = .poll t ∨ e = .cancel t ∨ e = .openFailed t →
          p'.idle = p.idle)) ∧
      (∀ es' p', p.run? es' = some p' → (conns ++ openedBy (es ++ es')).Nodup →
        ∀ c ∈ p.discarded, c ∈ p'.discarded ∧ c ∉ p'.idle ∧ c ∉ p'.leased) := by
  have hk := known_perm_of_reaches h
  refine ⟨hk, fun hn => ?_, fun e p' he => ?_, fun es' p' h' hn c hc => ?_⟩
  · have hnd := hk.nodup_iff.mpr hn
    refine ⟨hnd, fun t t' l l' hl hl' hc => ?_⟩
    exact lease_unique (List.nodup_append.mp (List.nodup_append.mp hnd).1).2.1 hl hl' hc
  · have ht := transition_of_step? he
    refine ⟨ht.discarded_cases, ?_⟩
    obtain hi | ⟨t, c, rfl, hi, hh⟩ | ⟨t, l, rfl, hi⟩ := ht.idle_cases
    · exact ⟨.inl hi, fun _ _ => hi⟩
    · exact ⟨.inr (.inl ⟨t, c, rfl, hi, by simp [lease?, hh]⟩), by simp⟩
    · exact ⟨.inr (.inr ⟨t, l, rfl, hi⟩), by simp⟩
  · exact discarded_forever h h' hn hc

/-- Of two connections one is discarded, and a third is opened in its place. -/
theorem connections_partitioned_reopening :
    Reaches [7, 8] [.acquire 0, .take 0, .begin 0 0, .abandon 0 0, .release 0, .acquire 1, .take 1,
        .acquire 2, .take 2, .opened 2 9]
      ⟨2, 0, false, [], [], [], [], [], [(2, ⟨9, false, []⟩), (1, ⟨7, false, []⟩)], [8]⟩ ∧
      ([] ++ [9, 7] ++ [8]).Perm ([7, 8] ++ [9]) ∧ ([] ++ [9, 7] ++ [8]).Nodup := by
  refine ⟨?run, (connections_partitioned ?run).1, ((connections_partitioned ?run).2.1 ?_).1⟩
  · rfl
  · decide

end Geocoding.Pool
