import Geocoding.Proofs.Attempt
import Geocoding.Proofs.Traffic.Progress
import Geocoding.Store

/-!
# A call under its deadline

What a store does for one call is a run of the traffic, in which only that call takes part. It ends with the
call at its end, whether an answer comes or the deadline passes first.
-/

namespace Geocoding

namespace Traffic

variable {C : Type} {tr m m' : Traffic C} {e : Event C} {t : Ticket} {en : End}

/-- The call that an event is about. -/
def Event.ticket? : Event C → Option Ticket
  | .start t | .wake t | .take t | .opened t _ | .openFailed t | .reply t _ | .expire t => some t
  | .close => none

/-- By events of one call only, `tr` comes to `m`. -/
def OwnRun (t : Ticket) (tr m : Traffic C) : Prop :=
  ∃ es, tr.run? es = some m ∧ ∀ e ∈ es, e.ticket? = some t

/-- By its own events a call comes to an end. -/
def Finishes (t : Ticket) (tr : Traffic C) (en : End) (m : Traffic C) : Prop :=
  OwnRun t tr m ∧ m.stage? t = some (.ended en)

theorem OwnRun.refl (t : Ticket) (tr : Traffic C) : OwnRun t tr tr := ⟨[], rfl, by simp⟩

theorem OwnRun.of_step? (h : OwnRun t tr m) (he : e.ticket? = some t) (hs : m.step? e = some m') :
    OwnRun t tr m' := by
  obtain ⟨es, hr, ho⟩ := h
  refine ⟨es ++ [e], Run.append_eq_some_iff.mpr ⟨m, hr, Run.singleton_eq_some_iff.mpr hs⟩, ?_⟩
  intro x hx
  obtain hx | hx := List.mem_append.mp hx
  · exact ho x hx
  · exact List.mem_singleton.mp hx ▸ he

theorem OwnRun.coherent (h : OwnRun t tr m) (hc : Coherent tr) : Coherent m := by
  obtain ⟨es, hr, -⟩ := h
  exact Run.invariant Coherent hc (fun _ _ _ hc he => hc.of_step? he) hr

theorem step_eq (h : m.step? e = some m') : m.step e = m' := by
  simp [step, h]

theorem Finishes.of_step? (h : OwnRun t tr m) (he : e.ticket? = some t) (hs : m.step? e = some m')
    (hen : m'.stage? t = some (.ended en)) : Finishes t tr en (m.step e) := by
  rw [step_eq hs]
  exact ⟨h.of_step? he hs, hen⟩

/-! ### A new call -/

theorem lt_fresh {x : Ticket × Stage C} (hx : x ∈ tr.calls) : x.1 < tr.fresh := by
  obtain ⟨p, calls⟩ := tr
  simp only [fresh]
  induction calls with
  | nil => cases hx
  | cons y calls ih =>
    rw [List.foldr_cons]
    obtain rfl | hx := List.mem_cons.mp hx
    · exact Nat.lt_of_lt_of_le (Nat.lt_succ_self _) (Nat.le_max_left ..)
    · exact Nat.lt_of_lt_of_le (ih hx) (Nat.le_max_right ..)

theorem stage?_fresh (tr : Traffic C) : tr.stage? tr.fresh = none := by
  refine (Keyed.lookup_eq_none_iff_keys tr.calls tr.fresh).mpr fun h => ?_
  obtain ⟨x, hx, he⟩ := List.mem_map.mp h
  exact absurd he (Nat.ne_of_lt (lt_fresh hx))

theorem begun_cases (hc : Coherent tr) (hs : tr.stage? t = none) :
    ∃ m, (tr.step (.start t)).step (.take t) = m ∧ OwnRun t tr m ∧
      (m.stage? t = some .waiting ∨ m.stage? t = some .opening ∨
        (∃ c, m.stage? t = some (.running c)) ∨ m.stage? t = some (.ended .failed)) := by
  obtain ⟨m, hm, hms⟩ := hc.start hs
  have ho : OwnRun t tr m := (OwnRun.refl t tr).of_step? rfl hm
  rw [step_eq hm]
  have hr : (tr.pool.acquire t).2 = .refused ∨ (tr.pool.acquire t).2 = .admitted ∨
      (tr.pool.acquire t).2 = .waiting := by
    unfold Pool.acquire
    split_ifs <;> simp
  obtain hr | hr | hr := hr
  · have hs' : m.stage? t = some (.ended .failed) := by rw [hms, hr]; rfl
    exact ⟨m, by simp [step, step?, hs'], ho, .inr (.inr (.inr hs'))⟩
  · have hs' : m.stage? t = some .admitted := by rw [hms, hr]; rfl
    obtain ⟨m', hm', h⟩ := (ho.coherent hc).take hs'
    refine ⟨m', step_eq hm', ho.of_step? rfl hm', ?_⟩
    obtain h | h := h
    · exact .inr (.inl h)
    · exact .inr (.inr (.inl h))
  · have hs' : m.stage? t = some .waiting := by rw [hms, hr]; rfl
    exact ⟨m, by simp [step, step?, hs'], ho, .inl hs'⟩

end Traffic

/-- How a call has ended whose request has this outcome. -/
def End.ofOutcome {α : Type} : Outcome α → End
  | .answered _ => answered
  | .failed _ => failed
  | .exceeded => cutOff

namespace Backend

open Traffic

variable {σ C α : Type} {tr m : Traffic C} {t : Ticket} {c : C}

/-- What a call leaves of the traffic `tr` when it has got an answer. -/
def Answered (t : Ticket) (tr : Traffic C) (answer : Except Database.Error α)
    (state : Traffic C × σ) : Prop :=
  Finishes t tr (.ofOutcome (.of answer)) state.1

/-- What a call leaves of the traffic `tr` when it is given up. -/
def CutOff (t : Ticket) (tr : Traffic C) (state : Traffic C × σ) : Prop :=
  Finishes t tr .cutOff state.1

theorem leaves_runStatement (b : Backend σ C) (hc : Coherent tr) (ho : OwnRun t tr m)
    (hs : m.stage? t = some (.running c)) (s : Sql.Statement)
    (read : List Database.Row → Except Database.Error α) (outside : σ) :
    (b.runStatement m t c s read outside).Leaves (Answered t tr) (CutOff t tr) := by
  have hm := ho.coherent hc
  refine Attempt.leaves_follow (fun answer outside => ?_) (fun outside => ?_) _
  · obtain ⟨m', hm', hen, -⟩ := hm.reply hs (answer >>= read).isOk
    refine Finishes.of_step? ho rfl hm' ?_
    rw [hen]
    cases answer >>= read <;> rfl
  · obtain ⟨m', hm', hen, -⟩ := hm.expire_running hs
    exact Finishes.of_step? ho rfl hm' hen

theorem leaves_call (b : Backend σ C) (hc : Coherent tr) (s : Sql.Statement)
    (read : List Database.Row → Except Database.Error α) (outside : σ) :
    (b.call s read (tr, outside)).Leaves (Answered tr.fresh tr) (CutOff tr.fresh tr) := by
  obtain ⟨m, hm, ho, hs⟩ := begun_cases hc (stage?_fresh tr)
  have hcm := ho.coherent hc
  simp only [call, hm]
  obtain hs | hs | ⟨c, hs⟩ | hs := hs
  -- Nothing comes after the wait for a permit, which is for good.
  · obtain ⟨m', hm', hen, -⟩ := hcm.expire_waiting (.inl hs)
    simp only [hs]
    exact ⟨Finishes.of_step? ho rfl hm' hen, fun hn => absurd rfl hn⟩
  · simp only [hs]
    refine Attempt.leaves_follow (fun answer outside => ?_) (fun outside => ?_) _
    · cases answer with
      | ok c =>
        obtain ⟨m', hm', hs'⟩ := hcm.opened hs c
        have h := leaves_runStatement b hc (ho.of_step? rfl hm') hs' s read outside
        simpa only [step_eq hm'] using h
      | error e =>
        obtain ⟨m', hm', hen⟩ := hcm.openFailed hs
        exact Finishes.of_step? ho rfl hm' hen
    · obtain ⟨m', hm', hen, -⟩ := hcm.expire_waiting (.inr hs)
      exact Finishes.of_step? ho rfl hm' hen
  · simp only [hs]
    exact leaves_runStatement b hc ho hs s read outside
  · simp only [hs]
    exact ⟨ho, hs⟩

/-- A call that is run under a deadline takes the traffic through events of its own to its end. -/
theorem call_within? (b : Backend σ C) (hc : Coherent tr) {s : Sql.Statement}
    {read : List Database.Row → Except Database.Error α} {outside : σ} {d : Deadline}
    {now later : Instant} {o : Outcome α} {state : Traffic C × σ}
    (hw : (b.call s read (tr, outside)).within? d now = some (o, later, state)) :
    Finishes tr.fresh tr (.ofOutcome o) state.1 := by
  obtain ⟨answer, rfl, h⟩ | ⟨rfl, h⟩ := (b.leaves_call hc s read outside).within? hw
  · exact h
  · exact h

end Backend

end Geocoding
