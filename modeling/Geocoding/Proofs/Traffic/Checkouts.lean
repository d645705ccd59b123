import Geocoding.Proofs.Traffic.Deadlines

/-!
# What calls do to the connections that they check out

Whatever the order of their events, calls share the connections without getting into each other's way: one
statement runs on a connection at a time, calls that have ended have nothing of the pool, and a connection is
lost exactly if a call is cut off while its statement runs on it.
-/

namespace Geocoding.Traffic

variable {C : Type} {tr tr' : Traffic C} {e : Event C} {t u : Ticket} {c : C} {s : Stage C}
variable {conns : List C} {es : List (Event C)} {pes : List (Pool.Event C)}

/-! ### The end of a statement -/

theorem firstStatement_ne_release {r : Progress C} {x : Pool.Event C}
    (hx : x ∈ firstStatement t r) (u : Ticket) : x ≠ .release u := by
  cases r with
  | connected c =>
    obtain rfl := List.mem_singleton.mp hx
    exact fun h => nomatch h
  | _ => cases hx

/-- Either the statement of a call runs, and is completed or cut off, or nothing is given back. -/
theorem Plays.cases_running (h : Plays tr e t pes s) :
    (∃ c, tr.stage? t = some (.running c) ∧ ((∃ usable, e = .reply t usable) ∨ e = .expire t)) ∨
      (∀ c, tr.stage? t ≠ some (.running c)) ∧ ∀ x ∈ pes, ∀ u, x ≠ .release u := by
  cases h with
  | reply _ usable c hs => exact .inl ⟨c, hs, .inl ⟨usable, rfl⟩⟩
  | cutRunning _ c hs => exact .inl ⟨c, hs, .inr rfl⟩
  | start _ p r hs | wake _ p r hs | take _ p r hs =>
    refine .inr ⟨by simp [hs], fun x hx u => ?_⟩
    obtain rfl | hx := List.mem_cons.mp hx
    · exact fun h => nomatch h
    · exact firstStatement_ne_release hx u
  | opened _ c hs => exact .inr ⟨by simp [hs], by simp⟩
  | openFailed _ hs => exact .inr ⟨by simp [hs], by simp⟩
  | cutWaiting _ hs => exact .inr ⟨by obtain hs | hs := hs <;> simp [hs], by simp⟩

/-- The statement of a call runs on until it is completed, which gives the connection back, or cut off,
which costs the pool the connection. -/
theorem Coherent.running_step (hc : Coherent tr) (hs : tr.stage? t = some (.running c))
    (he : tr.step? e = some tr') :
    tr'.stage? t = some (.running c) ∨
      (e = .expire t ∧ tr'.stage? t = some (.ended .cutOff) ∧
        tr'.pool.discarded = c :: tr.pool.discarded ∧ tr'.pool.idle = tr.pool.idle) ∨
      ∃ usable, e = .reply t usable ∧
        tr'.stage? t = some (.ended (if usable then .answered else .failed)) ∧
        tr'.pool.idle = c :: tr.pool.idle ∧ tr'.pool.discarded = tr.pool.discarded := by
  obtain ⟨rfl, rfl⟩ | ⟨u, pes, s, q, hp, -, rfl⟩ := hc.plays he
  · exact .inl hs
  · by_cases hu : t = u
    · subst hu
      obtain ⟨c', -, ⟨usable, rfl⟩ | rfl⟩ | ⟨hn, -⟩ := hp.cases_running
      · obtain ⟨m, hm, hen, hi, hd⟩ := hc.reply hs usable
        obtain rfl := Option.some.inj (he.symm.trans hm)
        exact .inr (.inr ⟨usable, rfl, hen, hi, hd⟩)
      · obtain ⟨m, hm, hen, hi, hd⟩ := hc.expire_running hs
        obtain rfl := Option.some.inj (he.symm.trans hm)
        exact .inr (.inl ⟨rfl, hen, hd, hi⟩)
      · exact absurd hs (hn c)
    · exact .inl (by rw [stage?_record, if_neg hu, hs])

/-- A connection is discarded when a call is cut off while its statement runs on it, and not otherwise. -/
theorem Coherent.discarded_step (hc : Coherent tr) (he : tr.step? e = some tr') (c : C) :
    c ∈ tr'.pool.discarded ↔
      c ∈ tr.pool.discarded ∨ ∃ t, e = .expire t ∧ tr.stage? t = some (.running c) := by
  obtain ⟨rfl, rfl⟩ | ⟨t, pes, s, q, hp, hq, rfl⟩ := hc.plays he
  · simp [Pool.close]
  · obtain ⟨c', hs, ⟨usable, rfl⟩ | rfl⟩ | ⟨hn, hr⟩ := hp.cases_running
    · obtain ⟨m, hm, -, -, hd⟩ := hc.reply hs usable
      obtain rfl := Option.some.inj (he.symm.trans hm)
      simp [hd]
    · obtain ⟨m, hm, -, -, hd⟩ := hc.expire_running hs
      obtain rfl := Option.some.inj (he.symm.trans hm)
      simp [hd, hs, or_comm, eq_comm]
    -- No statement of the call runs: nothing is given back, and so nothing discarded.
    · have hd : q.discarded = tr.pool.discarded := Pool.discarded_run?_eq hq hr
      have hno : ¬ ∃ u, e = .expire u ∧ tr.stage? u = some (.running c) := by
        rintro ⟨u, rfl, hu⟩
        obtain rfl : u = t := by cases hp <;> rfl
        exact hn c hu
      simp only [hno, or_false]
      show c ∈ q.discarded ↔ _
      rw [hd]

/-- Some call has been cut off while its statement ran on a connection. -/
def CutOffOn (conns : List C) (es : List (Event C)) (c : C) : Prop :=
  ∃ before t after m, es = before ++ .expire t :: after ∧ Reaches conns before m ∧
    m.stage? t = some (.running c)

theorem cutOffOn_append_singleton (h : Reaches conns es tr) :
    CutOffOn conns (es ++ [e]) c ↔
      CutOffOn conns es c ∨ ∃ t, e = .expire t ∧ tr.stage? t = some (.running c) := by
  constructor
  · rintro ⟨before, t, after, m, he, hm, hs⟩
    obtain rfl | ⟨after, e', rfl⟩ := List.eq_nil_or_concat after
    · obtain ⟨rfl, rfl⟩ := List.append_singleton_inj.mp he
      obtain rfl := h.unique hm
      exact .inr ⟨t, rfl, hs⟩
    · rw [List.concat_eq_append, ← List.cons_append, ← List.append_assoc] at he
      obtain ⟨rfl, rfl⟩ := List.append_singleton_inj.mp he
      exact .inl ⟨before, t, after, m, rfl, hm, hs⟩
  · rintro (⟨before, t, after, m, rfl, hm, hs⟩ | ⟨t, rfl, hs⟩)
    · exact ⟨before, t, after ++ [e], m, by simp, hm, hs⟩
    · exact ⟨es, t, [], tr, rfl, h, hs⟩

theorem mem_discarded_iff (h : Reaches conns es tr) (c : C) :
    c ∈ tr.pool.discarded ↔ CutOffOn conns es c := by
  refine h.history (fun es tr => c ∈ tr.pool.discarded ↔ CutOffOn conns es c) (fun p hp => ?_) ?_
  · obtain rfl := Pool.ofList?_eq_some hp
    simp [ofPool, CutOffOn]
  · intro es tr e tr' hi hr hc he
    rw [hc.discarded_step he c, cutOffOn_append_singleton hr, hi]

/-! ### Calls that share connections -/

theorem known_nodup (h : Reaches conns es tr) (hn : (conns ++ openedBy es).Nodup) :
    tr.pool.known.Nodup := by
  obtain ⟨pes, hp, ho⟩ := pool_reaches h
  exact (Pool.known_perm_of_reaches hp).nodup_iff.mpr (ho ▸ hn)

theorem running_unique (h : Reaches conns es tr) (hn : (conns ++ openedBy es).Nodup)
    (ht : tr.stage? t = some (.running c)) (hu : tr.stage? u = some (.running c)) : t = u := by
  have hc := coherent_of_reaches h
  have hl := (List.nodup_append.mp (List.nodup_append.mp (known_nodup h hn)).1).2.1
  exact Pool.lease_unique hl (hc.lease?_iff.mpr ⟨c, ht, rfl⟩) (hc.lease?_iff.mpr ⟨c, hu, rfl⟩) rfl

theorem not_reused (h : Reaches conns es tr) (hn : (conns ++ openedBy es).Nodup)
    (hcut : CutOffOn conns es c) : c ∉ tr.pool.idle ∧ ∀ u, tr.stage? u ≠ some (.running c) := by
  have hc := coherent_of_reaches h
  have hd := (mem_discarded_iff h c).mpr hcut
  have hk := (List.nodup_append.mp (known_nodup h hn)).2.2
  refine ⟨fun hi => hk c (List.mem_append_left _ hi) c hd rfl, fun u hu => ?_⟩
  have hl : c ∈ tr.pool.leased :=
    (Pool.mem_leased_iff hc.wellFormed c).mpr ⟨u, leaseOn c, hc.lease?_iff.mpr ⟨c, hu, rfl⟩, rfl⟩
  exact hk c (List.mem_append_right _ hl) c hd rfl

theorem permits_of_reaches (h : Reaches conns es tr) :
    tr.pool.permits + tr.pool.holders.length = conns.length := by
  obtain ⟨pes, hp, -⟩ := pool_reaches h
  rw [(coherent_of_reaches h).wellFormed.balance, Pool.size_of_reaches hp]

theorem Coherent.stage?_of_holder (hc : Coherent tr) (ht : t ∈ tr.pool.holders) :
    ∃ s, tr.stage? t = some s ∧ ∀ en, s ≠ .ended en := by
  have ht : t ∈ tr.pool.tickets := List.mem_append_right _ ht
  cases hs : tr.stage? t with
  | none => exact absurd ht (hc.not_mem_of_none hs)
  | some s =>
    refine ⟨s, rfl, fun en he => ?_⟩
    exact hc.not_mem_tickets (he ▸ hs) ht

/-- Calls share the connections of a pool, whatever the order of their events. One statement runs for each
call that has a connection, no two on the same one; a connection on which a call was cut off is never handed
to another. A call that has ended has no permit, and all permits are with nobody or with calls that have not
ended. A connection is discarded exactly when a call is cut off while its statement runs on it, and is idle
again after every other end. A deadline may pass wherever a call waits, and a call of the store that is run
under its deadline is such a run, up to the end of that call. -/
theorem checkouts_settled (h : Reaches conns es tr) :
    ((∀ t l, tr.pool.lease? t = some l ↔ ∃ c, tr.stage? t = some (.running c) ∧ l = leaseOn c) ∧
      ((conns ++ openedBy es).Nodup →
        (∀ t u c, tr.stage? t = some (.running c) → tr.stage? u = some (.running c) → t = u) ∧
        ∀ c, CutOffOn conns es c → c ∉ tr.pool.idle ∧ ∀ u, tr.stage? u ≠ some (.running c))) ∧
    ((∀ t en, tr.stage? t = some (.ended en) → t ∉ tr.pool.tickets) ∧
      tr.pool.permits + tr.pool.holders.length = conns.length ∧
      ∀ t ∈ tr.pool.holders, ∃ s, tr.stage? t = some s ∧ ∀ en, s ≠ .ended en) ∧
    ((∀ c, c ∈ tr.pool.discarded ↔ CutOffOn conns es c) ∧
      ∀ t c, tr.stage? t = some (.running c) →
        (∀ usable, (tr.step? (.reply t usable)).isSome) ∧
        ∀ e tr', tr.step? e = some tr' →
          tr'.stage? t = some (.running c) ∨
            (e = .expire t ∧ tr'.stage? t = some (.ended .cutOff) ∧
              tr'.pool.discarded = c :: tr.pool.discarded ∧ tr'.pool.idle = tr.pool.idle) ∨
            ∃ usable, e = .reply t usable ∧
              tr'.stage? t = some (.ended (if usable then .answered else .failed)) ∧
              tr'.pool.idle = c :: tr.pool.idle ∧ tr'.pool.discarded = tr.pool.discarded) ∧
    (∀ t s, tr.stage? t = some s → (s = .waiting ∨ s = .opening ∨ ∃ c, s = .running c) →
      ∃ tr', tr.step? (.expire t) = some tr' ∧ tr'.stage? t = some (.ended .cutOff)) ∧
    ∀ {σ α : Type} (b : Backend σ C) (q : Sql.Statement)
      (read : List Database.Row → Except Database.Error α) (outside : σ) (d : Deadline) (now : Instant),
      (d.expiry ≠ none → ((b.call q read (tr, outside)).within? d now).isSome) ∧
      ∀ o later state, (b.call q read (tr, outside)).within? d now = some (o, later, state) →
        ∃ es', Reaches conns (es ++ es') state.1 ∧ (∀ e ∈ es', e.ticket? = some tr.fresh) ∧
          state.1.stage? tr.fresh = some (.ended (.ofOutcome o)) := by
  have hc := coherent_of_reaches h
  refine ⟨⟨fun t l => hc.lease?_iff, fun hn => ⟨?_, ?_⟩⟩, ⟨?_, permits_of_reaches h, ?_⟩,
    ⟨mem_discarded_iff h, fun t c hs => ⟨?_, ?_⟩⟩, ?_, fun b q read outside d now => ⟨?_, ?_⟩⟩
  · intro t u c ht hu
    exact running_unique h hn ht hu
  · intro c hcut
    exact not_reused h hn hcut
  · intro t en hs
    exact hc.not_mem_tickets hs
  · intro t ht
    exact hc.stage?_of_holder ht
  · intro usable
    obtain ⟨m, hm, -⟩ := hc.reply hs usable
    rw [hm]
    rfl
  · intro e tr' he
    exact hc.running_step hs he
  · rintro t s hs (rfl | rfl | ⟨c, rfl⟩)
    · obtain ⟨m, hm, hen, -⟩ := hc.expire_waiting (.inl hs)
      exact ⟨m, hm, hen⟩
    · obtain ⟨m, hm, hen, -⟩ := hc.expire_waiting (.inr hs)
      exact ⟨m, hm, hen⟩
    · obtain ⟨m, hm, hen, -⟩ := hc.expire_running hs
      exact ⟨m, hm, hen⟩
  · intro hd
    exact Attempt.within?_isSome hd now _
  · intro o later state hw
    obtain ⟨⟨es', hr, ho⟩, hs⟩ := b.call_within? hc hw
    exact ⟨es', h.append hr, ho, hs⟩

/-- Five calls on one connection: the first is cut off, the connection for the second cannot be opened, the
fourth is cut off while it waits for the third, whose statement fails, and the fifth gets the third's
connection. -/
theorem checkouts_settled_five_calls :
    Reaches [7] [.start 0, .take 0, .start 1, .expire 0, .wake 1, .take 1, .openFailed 1, .start 2,
        .take 2, .opened 2 9, .start 3, .expire 3, .reply 2 false, .start 4, .take 4]
      ⟨⟨1, 0, false, [], [], [], [], [], [(4, ⟨9, true, [0]⟩)], [7]⟩,
        [(4, .running 9), (2, .ended .failed), (3, .ended .cutOff), (1, .ended .failed),
          (0, .ended .cutOff)]⟩ ∧
      CutOffOn [7] [.start 0, .take 0, .start 1, .expire 0, .wake 1, .take 1, .openFailed 1, .start 2,
        .take 2, .opened 2 9, .start 3, .expire 3, .reply 2 false, .start 4, .take 4] 7 ∧
      0 + [4].length = [7].length := by
  refine ⟨?run, ((checkouts_settled ?run).2.2.1.1 7).mp ?_, (checkouts_settled ?run).2.1.2.1⟩
  · rfl
  · exact List.mem_singleton.mpr rfl

end Geocoding.Traffic
