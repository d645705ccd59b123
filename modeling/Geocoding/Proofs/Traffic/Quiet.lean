import Geocoding.Proofs.Pool.Closing
import Geocoding.Proofs.Timing
import Geocoding.Proofs.Traffic.Checkouts

/-!
# Calls that are made one at a time

When no call is on its way and the pool is open, a call gets its permit at once. It comes to an end if what it asks of
the server does, and then again no call is on its way.
-/

namespace Geocoding

namespace Traffic

variable {C : Type} {tr m : Traffic C} {t u : Ticket} {e : Event C}

/-- No call is on its way, and the pool gives out permits. -/
structure Quiet (tr : Traffic C) : Prop where
  coherent : Coherent tr
  ended : ∀ t s, tr.stage? t = some s → ∃ en, s = .ended en
  isOpen : tr.pool.closed = false
  size_pos : 0 < tr.pool.size

theorem quiet_new {conns : List C} (h : 0 < conns.length) :
    Quiet (ofPool ⟨conns.length, conns.length, false, conns.reverse, [], [], [], [], [], []⟩) :=
  ⟨coherent_new conns, nofun, rfl, h⟩

theorem Quiet.permits_pos (h : Quiet tr) : 0 < tr.pool.permits := by
  have hnone : tr.pool.holders = [] := by
    refine List.eq_nil_iff_forall_not_mem.mpr fun t ht => ?_
    obtain ⟨s, hs, hn⟩ := h.coherent.stage?_of_holder ht
    obtain ⟨en, rfl⟩ := h.ended t s hs
    exact hn en rfl
  have hb := h.coherent.wellFormed.balance
  have hs := h.size_pos
  rw [hnone, List.length_nil] at hb
  omega

/-- A call that is made now has a connection at once, or opens one. -/
theorem Quiet.begun (h : Quiet tr) : ∃ m, (tr.step (.start tr.fresh)).step (.take tr.fresh) = m ∧
    (m.stage? tr.fresh = some .opening ∨ ∃ c, m.stage? tr.fresh = some (.running c)) := by
  obtain ⟨m, hm, hs⟩ := h.coherent.start (stage?_fresh tr)
  have ha : (tr.pool.acquire tr.fresh).2 = .admitted := by
    rw [Pool.acquire, if_neg (by simp [h.isOpen]), if_pos h.permits_pos]
  rw [ha] at hs
  obtain ⟨m', hm', h'⟩ := (h.coherent.of_step? hm).take hs
  rw [step_eq hm]
  exact ⟨m', step_eq hm', h'⟩

/-! ### What the events of one call leave alone -/

theorem Coherent.frame_step (hc : Coherent tr) (he : e.ticket? = some t) (h : tr.step? e = some m) :
    m.pool.closed = tr.pool.closed ∧ m.pool.size = tr.pool.size ∧ ∀ u, u ≠ t → m.stage? u = tr.stage? u := by
  obtain ⟨rfl, -⟩ | ⟨t', pes, s, q, hp, hq, rfl⟩ := hc.plays h
  · cases he
  · obtain rfl : t' = t := by
      cases hp <;> exact Option.some.inj he
    have hown : ∀ x ∈ pes, x ≠ .close := by
      rintro x hx rfl
      cases hp.own hx
    refine ⟨Pool.closed_eq_run? hq hown, Pool.size_eq_run? hq, fun u hu => ?_⟩
    rw [stage?_record, if_neg hu]

theorem OwnRun.frame (h : OwnRun t tr m) (hc : Coherent tr) :
    m.pool.closed = tr.pool.closed ∧ m.pool.size = tr.pool.size ∧ ∀ u, u ≠ t → m.stage? u = tr.stage? u := by
  obtain ⟨es, hr, hown⟩ := h
  induction es generalizing tr with
  | nil =>
    obtain rfl : tr = m := by simpa [run?] using hr
    exact ⟨rfl, rfl, fun _ _ => rfl⟩
  | cons e es ih =>
    obtain ⟨q, hq, hr⟩ := Run.cons_eq_some_iff.mp hr
    obtain ⟨hclosed, hsize, hstage⟩ := hc.frame_step (hown e List.mem_cons_self) hq
    obtain ⟨hclosed', hsize', hstage'⟩ := ih (hc.of_step? hq) hr fun x hx => hown x (List.mem_cons_of_mem e hx)
    exact ⟨hclosed'.trans hclosed, hsize'.trans hsize, fun u hu => (hstage' u hu).trans (hstage u hu)⟩

theorem Finishes.quiet {en : End} (h : Finishes tr.fresh tr en m) (hq : Quiet tr) : Quiet m := by
  obtain ⟨hown, hen⟩ := h
  obtain ⟨hclosed, hsize, hstage⟩ := hown.frame hq.coherent
  refine ⟨hown.coherent hq.coherent, fun u s hs => ?_, hclosed.trans hq.isOpen, hsize ▸ hq.size_pos⟩
  by_cases hu : u = tr.fresh
  · rw [hu, hen] at hs
    exact ⟨en, (Option.some.inj hs).symm⟩
  · rw [hstage u hu] at hs
    exact hq.ended u s hs

end Traffic

namespace Backend

open Traffic

variable {σ C α : Type} {b : Backend σ C} {tr : Traffic C}

/-- Nothing that is asked of the backend is waited for for good. -/
structure Ends (b : Backend σ C) : Prop where
  connect : ∀ s, (b.connect s).Ends
  query : ∀ c q s, (b.query c q s).Ends

theorem Ends.call (hb : b.Ends) (h : Quiet tr) (q : Sql.Statement)
    (read : List Database.Row → Except Database.Error α) (outside : σ) : (b.call q read (tr, outside)).Ends := by
  have hrun : ∀ m t c s, (b.runStatement m t c q read s : Attempt (Traffic C × σ) α).Ends := by
    intro m t c s
    exact Attempt.ends_follow (hb.query c q s) fun _ _ => trivial
  obtain ⟨m, hm, hs⟩ := h.begun
  simp only [Backend.call, hm]
  obtain hs | ⟨c, hs⟩ := hs
  · simp only [hs]
    apply Attempt.ends_follow (hb.connect outside)
    intro answer s
    cases answer with
    | ok c => exact hrun _ _ c s
    | error e => trivial
  · simp only [hs]
    exact hrun _ _ c outside

theorem quiet_of_call (h : Quiet tr) {q : Sql.Statement} {read : List Database.Row → Except Database.Error α}
    {outside : σ} {d : Deadline} {now later : Instant} {o : Outcome α} {state : Traffic C × σ}
    (hw : (b.call q read (tr, outside)).within? d now = some (o, later, state)) : Quiet state.1 :=
  (b.call_within? h.coherent hw).quiet h

end Backend

end Geocoding
