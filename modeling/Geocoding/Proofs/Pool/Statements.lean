import Geocoding.Proofs.Pool.Connections
import Geocoding.Proofs.Pool.Places

/-!
# Statements on a lease

A lease remembers its statements by one flag, which any statement that begins sets and any that completes
clears. So a connection that comes back is discarded if a statement has begun on the lease and none has been
completed since. A statement that was given up is forgotten once another one on its lease is completed.
-/

namespace Geocoding.Pool

variable {C : Type} {p p' : Pool C} {e : Event C} {t u : Ticket} {l l' : Lease C}
variable {conns : List C} {es : List (Event C)}

/-! ### The flag -/

/-- Whether an attempt has a lease with a statement in flight. -/
def Flagged (p : Pool C) (t : Ticket) : Prop := ∃ l, p.lease? t = some l ∧ l.inFlight = true

/-- Whether an event makes the lease of an attempt forget its statements. -/
def Event.Settles (e : Event C) (t : Ticket) : Prop := e = .release t ∨ ∃ s, e = .complete t s

/-- A statement has begun on the lease of an attempt, and none has been completed on it since. -/
def Unsettled (t : Ticket) (es : List (Event C)) : Prop :=
  ∃ before s after, es = before ++ .begin t s :: after ∧ ∀ e ∈ after, ¬ e.Settles t

theorem unsettled_append_singleton :
    Unsettled t (es ++ [e]) ↔ (∃ s, e = .begin t s) ∨ Unsettled t es ∧ ¬ e.Settles t := by
  constructor
  · rintro ⟨before, s, after, he, ha⟩
    obtain rfl | ⟨after, e', rfl⟩ := List.eq_nil_or_concat after
    · obtain ⟨-, rfl⟩ := List.append_singleton_inj.mp he
      exact .inl ⟨s, rfl⟩
    · rw [List.concat_eq_append, ← List.cons_append, ← List.append_assoc] at he
      obtain ⟨rfl, rfl⟩ := List.append_singleton_inj.mp he
      exact .inr ⟨⟨before, s, after, rfl, fun e he => ha e (by simp [he])⟩, ha e (by simp)⟩
  · rintro (⟨s, rfl⟩ | ⟨⟨before, s, after, rfl, ha⟩, he⟩)
    · exact ⟨es, s, [], rfl, by simp⟩
    · refine ⟨before, s, after ++ [e], by simp, fun x hx => ?_⟩
      obtain hx | hx := List.mem_append.mp hx
      · exact ha x hx
      · exact List.mem_singleton.mp hx ▸ he

theorem flagged_of_lease (h : p.lease? t = some l) : Flagged p t ↔ l.inFlight = true := by
  simp [Flagged, h]

theorem Transition.flagged_own (h : Transition p e p') (hp : WellFormed p)
    (ht : e.ticket? = some t) :
    Flagged p' t ↔ (∃ s, e = .begin t s) ∨ Flagged p t ∧ ¬ e.Settles t := by
  cases h with
  | begin u s l hl hs =>
    obtain rfl : u = t := Option.some.inj ht
    simp [Flagged, lease?_setLease hl]
  | complete u s l hl hs =>
    obtain rfl : u = t := Option.some.inj ht
    simp [Flagged, lease?_setLease hl, Event.Settles]
  | abandon u s l hl hs =>
    obtain rfl : u = t := Option.some.inj ht
    simp [Flagged, lease?_setLease hl, Event.Settles, hl]
  | release u l hl =>
    obtain rfl : u = t := Option.some.inj ht
    simp [Flagged, lease?_release, Event.Settles]
  | takeIdle u c idle hu hi =>
    obtain rfl : u = t := Option.some.inj ht
    simp [Flagged, lease?_hand, hp.lease?_eq_none (.inr (.inr (.inl hu)))]
  | opened u c hu =>
    obtain rfl : u = t := Option.some.inj ht
    simp [Flagged, lease?_hand, hp.lease?_eq_none (.inr (.inr (.inr hu)))]
  | yieldGrant e u he | leaveQueue e u he =>
    obtain rfl | ⟨rfl, -⟩ := he <;> simp [Flagged, lease?, Event.Settles]
  | stopOpening e u he =>
    obtain rfl | rfl := he <;> simp [Flagged, lease?, Event.Settles]
  | _ => simp [Flagged, lease?, Event.Settles]

theorem Transition.flagged (h : Transition p e p') (hp : WellFormed p) (t : Ticket) :
    Flagged p' t ↔ (∃ s, e = .begin t s) ∨ Flagged p t ∧ ¬ e.Settles t := by
  by_cases ht : e.ticket? = some t
  · exact h.flagged_own hp ht
  · have hb : ¬ ∃ s, e = .begin t s := by
      rintro ⟨s, rfl⟩
      exact ht rfl
    have hs : ¬ e.Settles t := by
      rintro (rfl | ⟨s, rfl⟩) <;> exact ht rfl
    simp only [Flagged, (h.frame ht).2.2.2, hb, hs, false_or, not_false_eq_true, and_true]

theorem flagged_iff_unsettled (h : Reaches conns es p) (t : Ticket) :
    Flagged p t ↔ Unsettled t es := by
  -- Over the run: an event changes the flag by the rule by which it changes the history.
  refine (h.history (fun es q => WellFormed q ∧ (Flagged q t ↔ Unsettled t es)) ?_ ?_).2
  · exact ⟨wellFormed_new conns, by simp [Flagged, Unsettled, lease?]⟩
  · intro es p e p' hi ht
    refine ⟨ht.wellFormed hi.1, ?_⟩
    rw [ht.flagged hi.1 t, unsettled_append_singleton, hi.2]

/-! ### Giving a connection back -/

/-- A connection that is given back is discarded, and nobody gets it again, if a statement has begun on
the lease and none has been completed on it since; otherwise it is idle, also when a statement on the lease
was given up before another one was completed. -/
theorem release_discards_unsettled (h : Reaches conns es p) (hl : p.lease? t = some l) :
    ∃ p', p.step? (.release t) = some p' ∧ p'.lease? t = none ∧
      (Unsettled t es → p'.discarded = l.conn :: p.discarded ∧ p'.idle = p.idle ∧
        ∀ es' q, p'.run? es' = some q → (conns ++ openedBy (es ++ .release t :: es')).Nodup →
          l.conn ∈ q.discarded ∧ l.conn ∉ q.idle ∧ l.conn ∉ q.leased) ∧
      (¬ Unsettled t es → p'.idle = l.conn :: p.idle ∧ p'.discarded = p.discarded) := by
  have hf := flagged_of_lease hl
  rw [flagged_iff_unsettled h t] at hf
  refine ⟨_, step?_release hl, ?_, fun hu => ?_, fun hu => ?_⟩
  · rw [lease?_release, if_pos rfl]
  · have hd : (returnPermit (putBack { p with held := p.held.filter (·.1 != t) } l)).discarded =
        l.conn :: p.discarded := by simp [putBack, hf.mp hu]
    refine ⟨hd, by simp [putBack, hf.mp hu], fun es' q hq hn => ?_⟩
    refine discarded_forever (h.step (step?_release hl)) hq ?_ (hd ▸ List.mem_cons_self ..)
    simpa only [List.append_assoc, List.singleton_append] using hn
  · have hf : l.inFlight = false := by simpa [hu] using hf
    simp [putBack, hf]

/-- Three statements that overlap: the first is completed, the last one begins after that, and the other
two are given up. -/
theorem release_discards_unsettled_overlapping :
    Reaches [7] [.acquire 0, .take 0, .begin 0 0, .begin 0 1, .complete 0 0, .begin 0 2, .abandon 0 1,
        .abandon 0 2] ⟨1, 0, false, [], [], [], [], [], [(0, ⟨7, true, []⟩)], []⟩ ∧
      ∃ p' : Pool Nat, step? ⟨1, 0, false, [], [], [], [], [], [(0, ⟨7, true, []⟩)], []⟩ (.release 0) =
        some p' ∧ p'.lease? 0 = none ∧ p'.discarded = [7] ∧ p'.idle = [] := by
  obtain ⟨p', hs, hl, hu, -⟩ := release_discards_unsettled
    (show Reaches [7] [.acquire 0, .take 0, .begin 0 0, .begin 0 1, .complete 0 0, .begin 0 2,
      .abandon 0 1, .abandon 0 2] _ from rfl) (show lease? _ 0 = some ⟨7, true, []⟩ from rfl)
  have hu := hu ⟨[.acquire 0, .take 0, .begin 0 0, .begin 0 1, .complete 0 0], 2,
    [.abandon 0 1, .abandon 0 2], rfl, by simp [Event.Settles]⟩
  exact ⟨rfl, p', hs, hl, hu.1, hu.2.1⟩

/-- A statement is given up, another one on the same lease is completed, and the connection goes to the
next attempt. -/
theorem abandoned_statement_forgotten :
    Reaches [7] [.acquire 0, .take 0, .begin 0 0, .abandon 0 0, .begin 0 1, .complete 0 1, .release 0,
        .acquire 1, .take 1]
      ⟨1, 0, false, [], [], [], [], [], [(1, ⟨7, false, []⟩)], []⟩ := rfl

end Geocoding.Pool
