import Geocoding.Proofs.Pool.Places

/-!
# A pool that has been closed

A closed pool stays closed and gives out no permit. Attempts that wait for one are refused, and so are
those that begin later. The attempts that had a permit when the pool was closed go on: they take what is
idle, or get the connection that is being opened for them.
-/

namespace Geocoding.Pool

variable {C : Type} {p p' q : Pool C} {e : Event C} {t : Ticket} {l : Lease C} {c : C}
variable {conns : List C} {es es' : List (Event C)}

/-- An attempt has a permit, and is on the way to its connection. -/
def OnItsWay (p : Pool C) (t : Ticket) : Prop := t ∈ p.admitted ∨ t ∈ p.opening

/-- An event gives an attempt a connection. -/
def Hands (p : Pool C) (e : Event C) (t : Ticket) (c : C) : Prop :=
  ∃ p' l, p.step? e = some p' ∧ p.lease? t = none ∧ p'.lease? t = some l ∧ l.conn = c

/-! ### One event -/

@[simp] theorem returnPermit_closed (p : Pool C) : p.returnPermit.closed = p.closed := by
  obtain h | ⟨t, queue, -, -, h⟩ := returnPermit_cases p <;> rw [h]

theorem Transition.closed_eq (h : Transition p e p') (he : e ≠ .close) : p'.closed = p.closed := by
  cases h with
  | yieldGrant | stopOpening | release => exact returnPermit_closed _
  | close => exact absurd rfl he
  | _ => rfl

theorem Transition.stays_closed (h : Transition p e p') (hc : p.closed = true) :
    p'.closed = true := by
  by_cases he : e = .close
  · subst he
    cases h with
    | close => rfl
    | yieldGrant e u he | stopOpening e u he => simp at he
    | leaveQueue e u he => simp at he
  · rw [h.closed_eq he]
    exact hc

theorem Transition.onItsWay_of_closed (h : Transition p e p') (hc : p.closed = true)
    (ht : OnItsWay p' t) : OnItsWay p t := by
  unfold OnItsWay at ht ⊢
  cases h with
  | enter u hn | enqueue u hn | notice u hn =>
    rw [hc] at hn
    cases hn
  | takeIdle u c idle hu hi =>
    rcases ht with ht | ht
    · exact .inl (List.mem_of_mem_erase ht)
    · exact .inr ht
  | startOpening u hu hi =>
    rcases ht with ht | ht
    · exact .inl (List.mem_of_mem_erase ht)
    · rcases List.mem_cons.mp ht with rfl | ht
      · exact .inl hu
      · exact .inr ht
  | opened u c hu =>
    rcases ht with ht | ht
    · exact .inl ht
    · exact .inr (List.mem_of_mem_erase ht)
  | yieldGrant e u he hu => simpa using ht
  | stopOpening e u he hu =>
    simp only [returnPermit_admitted, returnPermit_opening] at ht
    rcases ht with ht | ht
    · exact .inl ht
    · exact .inr (List.mem_of_mem_erase ht)
  | release u l hl => simpa [putBack] using ht
  | _ => exact ht

/-- A connection is given only to an attempt that is on its way, from the idle ones or by being opened. -/
theorem Transition.lease_new (h : Transition p e p') (hn : p.lease? t = none)
    (hl : p'.lease? t = some l) :
    e = .take t ∧ t ∈ p.admitted ∨ e = .opened t l.conn ∧ t ∈ p.opening := by
  cases h with
  | takeIdle u c idle hu hi =>
    rw [lease?_hand] at hl
    split at hl
    · next htu => exact .inl ⟨by rw [htu], htu ▸ hu⟩
    · exact absurd (hn.symm.trans hl) (by simp)
  | opened u c hu =>
    rw [lease?_hand] at hl
    split at hl
    · next htu =>
      obtain rfl : (⟨c, false, []⟩ : Lease C) = l := Option.some.inj hl
      exact .inr ⟨by rw [htu], htu ▸ hu⟩
    · exact absurd (hn.symm.trans hl) (by simp)
  | begin u s m hm | complete u s m hm | abandon u s m hm =>
    rw [lease?_setLease hm] at hl
    split at hl
    · next htu =>
      rw [htu, hm] at hn
      cases hn
    · exact absurd (hn.symm.trans hl) (by simp)
  | release u m hm =>
    rw [lease?_release] at hl
    split at hl
    · cases hl
    · exact absurd (hn.symm.trans hl) (by simp)
  | yieldGrant | stopOpening =>
    have hl : p.lease? t = some l := by simpa [lease?] using hl
    exact absurd (hn.symm.trans hl) (by simp)
  | _ => exact absurd (hn.symm.trans hl) (by simp)

theorem Hands.cases (h : Hands p e t c) :
    (e = .take t ∨ e = .opened t c) ∧ OnItsWay p t := by
  obtain ⟨p', l, he, hn, hl, rfl⟩ := h
  rcases (transition_of_step? he).lease_new hn hl with ⟨he, ht⟩ | ⟨he, ht⟩
  · exact ⟨.inl he, .inl ht⟩
  · exact ⟨.inr he, .inr ht⟩

theorem WellFormed.hands_opened (hp : WellFormed p) (ht : t ∈ p.opening) (c : C) :
    Hands p (.opened t c) t c := by
  have hs : p.step? (.opened t c) = some (hand { p with opening := p.opening.erase t } t c) :=
    if_pos ht
  have hn : p.lease? t = none := hp.lease?_eq_none (.inr (.inr (.inr ht)))
  exact ⟨_, ⟨c, false, []⟩, hs, hn, by rw [lease?_hand, if_pos rfl], rfl⟩

theorem step?_take_of_nil (ht : t ∈ p.admitted) (hi : p.idle = []) :
    p.step? (.take t) =
      some { p with admitted := p.admitted.erase t, opening := t :: p.opening } := by
  simp [step?, take?, ht, hi]

theorem WellFormed.hands_take (hp : WellFormed p) (ht : t ∈ p.admitted) {idle : List C}
    (hi : p.idle = c :: idle) : Hands p (.take t) t c := by
  have hs : p.step? (.take t) = some (hand { p with admitted := p.admitted.erase t, idle } t c) := by
    simp only [step?, take?, if_pos ht, hi, Option.map_some]
  have hn : p.lease? t = none := hp.lease?_eq_none (.inr (.inr (.inl ht)))
  exact ⟨_, ⟨c, false, []⟩, hs, hn, by rw [lease?_hand, if_pos rfl], rfl⟩

/-! ### Attempts that are refused -/

theorem acquire_of_closed (hc : p.closed = true) (t : Ticket) : p.acquire t = (p, .refused) := by
  rw [acquire, if_pos hc]

theorem WellFormed.poll?_of_closed (hp : WellFormed p) (hc : p.closed = true)
    (ht : t ∈ p.queue ∨ t ∈ p.granted) :
    ∃ p', p.poll? t = some (p', .refused) ∧ t ∉ p'.tickets := by
  by_cases hg : t ∈ p.granted
  · refine ⟨returnPermit { p with granted := p.granted.erase t }, ?_, hp.granted_gone hg⟩
    simp only [poll?, if_pos hg, hc, if_true]
  · have hq : t ∈ p.queue := ht.resolve_right hg
    refine ⟨{ p with queue := p.queue.erase t }, ?_, hp.queue_gone hq⟩
    simp only [poll?, if_neg hg, if_pos hq, hc, if_true]

theorem WellFormed.poll?_of_opening (hp : WellFormed p) (ht : t ∈ p.opening) :
    p.poll? t = some (p, .opening) := by
  have hc := hp.count_le_one t
  have := List.count_pos_iff.mpr ht
  rw [count_tickets] at hc
  have hq : t ∉ p.queue := List.count_eq_zero.mp (by omega)
  have hg : t ∉ p.granted := List.count_eq_zero.mp (by omega)
  simp only [poll?, if_neg hg, if_neg hq, if_pos ht]

/-! ### Whole runs -/

theorem WellFormed.close (hp : WellFormed p) : WellFormed p.close :=
  Transition.close.wellFormed hp

theorem closed_eq_run? (h : p.run? es = some q) (he : ∀ e ∈ es, e ≠ .close) : q.closed = p.closed := by
  induction es generalizing p with
  | nil =>
    obtain rfl : p = q := by simpa [run?] using h
    rfl
  | cons e es ih =>
    obtain ⟨r, hr, hq⟩ := Run.cons_eq_some_iff.mp h
    rw [ih hq fun x hx => he x (List.mem_cons_of_mem e hx)]
    exact (transition_of_step? hr).closed_eq (he e List.mem_cons_self)

theorem closed_run? (h : p.close.run? es = some q) : q.closed = true :=
  run?_invariant (I := fun q => q.closed = true) rfl (fun _ _ _ hc ht => ht.stays_closed hc) h

theorem onItsWay_run? (h : p.close.run? es = some q) (ht : OnItsWay q t) : OnItsWay p t := by
  -- Over the run: the pool is closed, and nobody sets out who was not on the way when it was closed.
  refine (run?_invariant (p := p.close) (I := fun r => r.closed = true ∧ (OnItsWay r t → OnItsWay p t))
    ⟨rfl, id⟩ ?_ h).2 ht
  intro r e r' hr htr
  exact ⟨htr.stays_closed hr.1, fun hu => hr.2 (htr.onItsWay_of_closed hr.1 hu)⟩

theorem hands_of_onItsWay (hp : WellFormed p) (c : C) (ht : OnItsWay p t) :
    ∃ es q e c, p.close.run? es = some q ∧ Hands q e t c := by
  have hw := hp.close
  rcases ht with ht | ht
  · cases hi : p.idle with
    | cons c idle => exact ⟨[], p.close, .take t, c, rfl, hw.hands_take ht hi⟩
    | nil =>
      -- With nothing idle the attempt has a connection opened first.
      have hs := step?_take_of_nil (p := p.close) ht hi
      have hq := (transition_of_step? hs).wellFormed hw
      have ht' : t ∈ t :: p.close.opening := List.mem_cons_self ..
      exact ⟨[.take t], _, .opened t c, c, Run.singleton_eq_some_iff.mpr hs, hq.hands_opened ht' c⟩
  · exact ⟨[], p.close, .opened t c, c, rfl, hw.hands_opened ht c⟩

theorem exists_conn_of_reaches (h : Reaches conns es p) : ∃ c, c ∈ conns := by
  obtain ⟨p₀, h₀, -⟩ := Option.bind_eq_some_iff.mp h
  cases conns with
  | nil => cases h₀
  | cons c conns => exact ⟨c, List.mem_cons_self ..⟩

/-- After a pool has been closed, an attempt can still be given a connection exactly if it had a permit
then and was on its way. All that waited or begin later are refused. An attempt whose connection is being
opened is not, and gets the connection whenever it is there. -/
theorem handed_after_close_iff (h : Reaches conns es p) (t : Ticket) :
    ((∃ es' q e c, p.close.run? es' = some q ∧ Hands q e t c) ↔ t ∈ p.admitted ∨ t ∈ p.opening) ∧
      ∀ es' q, p.close.run? es' = some q →
        q.acquire t = (q, .refused) ∧
        (t ∈ q.queue ∨ t ∈ q.granted → ∃ q', q.poll? t = some (q', .refused) ∧ t ∉ q'.tickets) ∧
        (t ∈ q.opening → q.poll? t = some (q, .opening) ∧ ∀ c, Hands q (.opened t c) t c) := by
  have hw := wellFormed_of_reaches h
  refine ⟨⟨?_, fun ht => ?_⟩, fun es' q hr => ⟨?_, fun ht => ?_, fun ht => ?_⟩⟩
  · rintro ⟨es', q, e, c, hr, hh⟩
    exact onItsWay_run? hr hh.cases.2
  · obtain ⟨c, -⟩ := exists_conn_of_reaches h
    exact hands_of_onItsWay hw c ht
  · exact acquire_of_closed (closed_run? hr) t
  · exact (hw.close.run? hr).poll?_of_closed (closed_run? hr) ht
  · have hq := hw.close.run? hr
    exact ⟨hq.poll?_of_opening ht, hq.hands_opened ht⟩

/-- Of three attempts one has a permit and a connection being opened when the pool is closed, and one waits. -/
theorem handed_after_close_iff_reopening :
    Reaches [7] [.acquire 0, .take 0, .begin 0 0, .abandon 0 0, .release 0, .acquire 1, .take 1, .acquire 2]
      ⟨1, 0, false, [], [2], [], [], [1], [], [7]⟩ ∧
      (∃ es' q e c, (close ⟨1, 0, false, [], [2], [], [], [1], [], [7]⟩).run? es' = some q ∧
        Hands q e 1 c) ∧
      ¬ ∃ es' q e c, (close ⟨1, 0, false, [], [2], [], [], [1], [], [7]⟩).run? es' = some q ∧
        Hands q e 2 c := by
  have hr : Reaches [7] [.acquire 0, .take 0, .begin 0 0, .abandon 0 0, .release 0, .acquire 1,
      .take 1, .acquire 2] ⟨1, 0, false, [], [2], [], [], [1], [], [7]⟩ := rfl
  refine ⟨hr, (handed_after_close_iff hr 1).1.mpr (by decide), fun hh => ?_⟩
  have ht := (handed_after_close_iff hr 2).1.mp hh
  exact absurd ht (by decide)

/-- A connection is being opened for an attempt when the pool is closed, and is given to it afterwards. -/
theorem connection_handed_after_close :
    Reaches [7] [.acquire 0, .take 0, .begin 0 0, .abandon 0 0, .release 0, .acquire 1, .take 1, .close]
        ⟨1, 0, true, [], [], [], [], [1], [], [7]⟩ ∧
      Hands ⟨1, 0, true, [], [], [], [], [1], [], [7]⟩ (.opened 1 9) 1 9 :=
  ⟨rfl, ⟨1, 0, true, [], [], [], [], [], [(1, ⟨9, false, []⟩)], [7]⟩, ⟨9, false, []⟩, rfl, rfl, rfl, rfl⟩

end Geocoding.Pool
