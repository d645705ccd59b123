import Geocoding.Proofs.Traffic.Coherence

/-!
# What can happen to a call

Every event that the stage of a call allows can happen, the passing of its deadline at each wait included,
and what the end of a call leaves in the pool is known.
-/

namespace Geocoding.Traffic

variable {C : Type} {tr tr' : Traffic C} {t : Ticket} {p : Pool C} {r : Progress C} {c : C}

/-! ### What a call has in the pool -/

/-- The leases are those of the calls whose statement runs, and nothing else runs on them. -/
theorem Coherent.lease?_iff (hc : Coherent tr) {l : Lease C} :
    tr.pool.lease? t = some l ↔ ∃ c, tr.stage? t = some (.running c) ∧ l = leaseOn c := by
  constructor
  · intro hl
    have hp := hc.wellFormed.place?_holding hl
    rw [hc.agrees t] at hp
    obtain ⟨s, hs, hp⟩ := Option.bind_eq_some_iff.mp hp
    cases s with
    | running c =>
      obtain rfl : leaseOn c = l := by simpa [Stage.place?] using hp
      exact ⟨c, hs, rfl⟩
    | _ => simp [Stage.place?] at hp
  · rintro ⟨c, hs, rfl⟩
    exact Pool.lease?_of_holding (by rw [hc.agrees t, hs]; rfl)

theorem Coherent.not_mem_tickets (hc : Coherent tr) {en : End} (hs : tr.stage? t = some (.ended en)) :
    t ∉ tr.pool.tickets :=
  Pool.not_mem_tickets (by rw [hc.agrees t, hs]; rfl)

theorem Coherent.mem_waiting (hc : Coherent tr) (hs : tr.stage? t = some .waiting) :
    t ∈ tr.pool.queue ∨ t ∈ tr.pool.granted :=
  Pool.mem_waiting (by rw [hc.agrees t, hs]; rfl)

theorem Coherent.mem_admitted (hc : Coherent tr) (hs : tr.stage? t = some .admitted) :
    t ∈ tr.pool.admitted :=
  Pool.mem_admitted (by rw [hc.agrees t, hs]; rfl)

theorem Coherent.mem_opening (hc : Coherent tr) (hs : tr.stage? t = some .opening) :
    t ∈ tr.pool.opening :=
  Pool.mem_opening (by rw [hc.agrees t, hs]; rfl)

/-! ### On the way to a connection -/

theorem proceed?_isSome (tr : Traffic C) (ht : p.place? t = Pool.Place.of? r) :
    ∃ tr', tr.proceed? t (p, r) = some tr' ∧ tr'.stage? t = some (.ofProgress r) := by
  have hs : ∀ q s, (tr.record q t s).stage? t = some s := fun q s => by
    rw [stage?_record, if_pos rfl]
  cases r with
  | connected c =>
    have hl : p.lease? t = some ⟨c, false, []⟩ := Pool.lease?_of_holding ht
    have hb : p.begin? t statement = some (p.setLease t (leaseOn c)) := by
      simp [Pool.begin?, Pool.update?, hl, Lease.begin?, leaseOn]
    exact ⟨_, congrArg (Option.map (tr.record · t (.running c))) hb, hs _ _⟩
  | _ => exact ⟨_, rfl, hs _ _⟩

theorem Coherent.start (hc : Coherent tr) (hs : tr.stage? t = none) :
    ∃ tr', tr.step? (.start t) = some tr' ∧
      tr'.stage? t = some (.ofProgress (tr.pool.acquire t).2) := by
  have hp := Pool.place?_acquire hc.wellFormed (hc.not_mem_of_none hs)
  simpa only [step?, hs] using proceed?_isSome tr hp

/-- A call that has a permit gets an idle connection or begins opening one. -/
theorem Coherent.take (hc : Coherent tr) (hs : tr.stage? t = some .admitted) :
    ∃ tr', tr.step? (.take t) = some tr' ∧
      (tr'.stage? t = some .opening ∨ ∃ c, tr'.stage? t = some (.running c)) := by
  obtain ⟨⟨p, r⟩, hr⟩ : ∃ x, tr.pool.take? t = some x := by
    simp [Pool.take?, hc.mem_admitted hs]
  obtain ⟨tr', h, hs'⟩ := proceed?_isSome tr (Pool.place?_take? hc.wellFormed hr)
  refine ⟨tr', by simpa only [step?, hs, hr, Option.bind_some] using h, ?_⟩
  obtain ⟨-, ⟨-, rfl, -⟩ | ⟨c, idle, -, rfl, -⟩⟩ := Pool.take?_cases hr
  · exact .inl hs'
  · exact .inr ⟨c, hs'⟩

theorem Coherent.opened (hc : Coherent tr) (hs : tr.stage? t = some .opening) (c : C) :
    ∃ tr', tr.step? (.opened t c) = some tr' ∧ tr'.stage? t = some (.running c) := by
  obtain ⟨p, hp⟩ : ∃ p, tr.pool.opened? t c = some p := by
    simp [Pool.opened?, hc.mem_opening hs]
  obtain ⟨tr', h, hs'⟩ := proceed?_isSome tr (Pool.place?_opened? hc.wellFormed hp)
  exact ⟨tr', by simpa only [step?, hs, hp, Option.bind_some] using h, hs'⟩

/-! ### Ends -/

theorem Coherent.openFailed (hc : Coherent tr) (hs : tr.stage? t = some .opening) :
    ∃ tr', tr.step? (.openFailed t) = some tr' ∧ tr'.stage? t = some (.ended .failed) := by
  obtain ⟨p, hp⟩ : ∃ p, tr.pool.openFailed? t = some p := by
    simp [Pool.openFailed?, hc.mem_opening hs]
  refine ⟨tr.record p t (.ended .failed), by simp [step?, hs, hp], ?_⟩
  rw [stage?_record, if_pos rfl]

/-- The deadline of a call may pass while the call waits for a permit or for a connection to be opened. -/
theorem Coherent.expire_waiting (hc : Coherent tr)
    (hs : tr.stage? t = some .waiting ∨ tr.stage? t = some .opening) :
    ∃ tr', tr.step? (.expire t) = some tr' ∧ tr'.stage? t = some (.ended .cutOff) ∧
      tr'.pool.idle = tr.pool.idle ∧ tr'.pool.discarded = tr.pool.discarded := by
  have ht : (t ∈ tr.pool.queue ∨ t ∈ tr.pool.granted) ∨ t ∈ tr.pool.opening :=
    hs.imp hc.mem_waiting hc.mem_opening
  obtain ⟨p, hp⟩ : ∃ p, tr.pool.cancel? t = some p := by
    unfold Pool.cancel? Pool.openFailed?
    split
    · exact ⟨_, rfl⟩
    · split
      · exact ⟨_, rfl⟩
      · next hg hq =>
        rw [if_pos (by simpa [hg, hq] using ht)]
        exact ⟨_, rfl⟩
  have hstep : tr.step? (.expire t) = some (tr.record p t (.ended .cutOff)) := by
    obtain hs | hs := hs <;> simp [step?, hs, hp]
  have htr := Pool.transition_of_cancel? hp
  refine ⟨_, hstep, by rw [stage?_record, if_pos rfl], ?_, ?_⟩
  · show p.idle = tr.pool.idle
    simpa using htr.idle_cases
  · show p.discarded = tr.pool.discarded
    simpa using htr.discarded_cases

/-- A call whose statement is completed gives its connection back, whatever the answer is. -/
theorem Coherent.reply (hc : Coherent tr) (hs : tr.stage? t = some (.running c)) (usable : Bool) :
    ∃ tr', tr.step? (.reply t usable) = some tr' ∧
      tr'.stage? t = some (.ended (if usable then .answered else .failed)) ∧
      tr'.pool.idle = c :: tr.pool.idle ∧ tr'.pool.discarded = tr.pool.discarded := by
  have hl : tr.pool.lease? t = some (leaseOn c) := hc.lease?_iff.mpr ⟨c, hs, rfl⟩
  have hd : tr.pool.complete? t statement = some (tr.pool.setLease t ⟨c, false, []⟩) := by
    simp [Pool.complete?, Pool.update?, hl, Lease.complete?, leaseOn]
  obtain ⟨q, hq, hi, hd'⟩ := Pool.step?_release_setLease hl ⟨c, false, []⟩
  have hq : (tr.pool.setLease t ⟨c, false, []⟩).release? t = some q := hq
  refine ⟨tr.record q t (.ended (if usable then .answered else .failed)), ?_, ?_, hi, hd'⟩
  · simp [step?, hs, hd, hq]
  · rw [stage?_record, if_pos rfl]

/-- A call that is cut off while its statement runs costs the pool its connection. -/
theorem Coherent.expire_running (hc : Coherent tr) (hs : tr.stage? t = some (.running c)) :
    ∃ tr', tr.step? (.expire t) = some tr' ∧ tr'.stage? t = some (.ended .cutOff) ∧
      tr'.pool.idle = tr.pool.idle ∧ tr'.pool.discarded = c :: tr.pool.discarded := by
  have hl : tr.pool.lease? t = some (leaseOn c) := hc.lease?_iff.mpr ⟨c, hs, rfl⟩
  have hd : tr.pool.abandon? t statement = some (tr.pool.setLease t ⟨c, true, []⟩) := by
    simp [Pool.abandon?, Pool.update?, hl, Lease.abandon?, leaseOn]
  obtain ⟨q, hq, hi, hd'⟩ := Pool.step?_release_setLease hl ⟨c, true, []⟩
  have hq : (tr.pool.setLease t ⟨c, true, []⟩).release? t = some q := hq
  refine ⟨tr.record q t (.ended .cutOff), ?_, ?_, hi, hd'⟩
  · simp [step?, hs, hd, hq]
  · rw [stage?_record, if_pos rfl]

end Geocoding.Traffic
