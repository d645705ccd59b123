import Geocoding.Proofs.Geocoder.Escalation
import Geocoding.Proofs.Geocoder.Forward
import Geocoding.Service

/-!
# When a request is answered

A deadline ends whatever has to wait, but work that is ready is done after it too. So a request may be answered
after its deadline, when the deadline has passed before the store is asked.
-/

namespace Geocoding

/-- How what is begun at `now` may end under a deadline at `limit`: by the deadline as long as that is ahead,
and at once after it. -/
structure Punctual (limit now later : Instant) : Prop where
  in_time : now.nanoseconds ≤ limit.nanoseconds → later.nanoseconds ≤ limit.nanoseconds
  at_once : limit.nanoseconds < now.nanoseconds → later = now

namespace Punctual

variable {limit now t later : Instant}

theorem refl (limit now : Instant) : Punctual limit now now := ⟨id, fun _ => rfl⟩

theorem trans (h : Punctual limit now t) (h' : Punctual limit t later) : Punctual limit now later where
  in_time hn := h'.in_time (h.in_time hn)
  at_once hn := by
    obtain rfl := h.at_once hn
    exact h'.at_once hn

theorem le_iff (h : Punctual limit now later) :
    later.nanoseconds ≤ limit.nanoseconds ↔ now.nanoseconds ≤ limit.nanoseconds := by
  refine ⟨fun hl => ?_, h.in_time⟩
  obtain hn | hn := Nat.lt_or_ge limit.nanoseconds now.nanoseconds
  · rw [h.at_once hn] at hl
    exact hl
  · exact hn

end Punctual

variable {π σ : Type} {d : Deadline} {limit now t later : Instant}

theorem Attempt.punctual {α : Type} {a : Attempt σ α} {x : α} {s : σ} (hd : d.expiry = some limit)
    (h : a.within? d now = some (.answered x, later, s)) : Punctual limit now later where
  in_time hn := by
    have hle := Attempt.le_max_of_within? hd h
    rw [show Nat.max now.nanoseconds limit.nanoseconds = limit.nanoseconds from Nat.max_eq_right hn] at hle
    exact hle
  at_once hn := Attempt.eq_of_within?_answered hd (show a.within? d now = some (.of (.ok x), _) from h) hn

/-- The address service is not asked after the deadline, and else is waited for until the deadline. -/
theorem Service.punctual {s : Service π} {endpoint query : String} {address : QueryAddress}
    {outside outside' : π} (hd : d.expiry = some limit)
    (h : s.split? endpoint query d now outside = some (address, t, outside')) : Punctual limit now t := by
  have he : d.isExpired now = decide (limit.nanoseconds ≤ now.nanoseconds) := by
    simp [Deadline.isExpired, hd]
  simp only [Service.split?, he, decide_eq_true_eq] at h
  split at h
  · obtain ⟨-, rfl, -⟩ : .roadOnly query = address ∧ now = t ∧ outside = outside' := by simpa using h
    exact .refl ..
  · next hn =>
    refine ⟨fun _ => ?_, fun hlt => by omega⟩
    split at h
    · next t' ht =>
      obtain rfl : t' = t := congrArg (·.2.1) (Option.some.inj h)
      obtain ⟨-, ⟨-, rfl⟩ | ⟨-, hle⟩⟩ := Deadline.run_done ht
      · omega
      · exact hle limit hd
    · next t' ht =>
      obtain rfl : t' = t := congrArg (·.2.1) (Option.some.inj h)
      obtain ⟨l, hl, rfl, -⟩ := Deadline.run_cutOff ht
      obtain rfl := Option.some.inj (hd.symm.trans hl)
      exact Nat.le_of_eq (congrArg Instant.nanoseconds (Instant.max_of_le (by omega)))
    · cases h

namespace Geocoder

theorem escalate?_punctual {g : Geocoder π σ} {centre : ProjectedPoint} {n : UInt32}
    (hd : d.expiry = some limit) {radii : List Float} {hit : Option Hit} {store store' : σ}
    (h : g.escalate? centre n d radii now store = some (.answered hit, later, store')) :
    Punctual limit now later := by
  induction radii generalizing now store with
  | nil =>
    obtain ⟨-, rfl, -⟩ : none = hit ∧ now = later ∧ store = store' := by
      simpa [escalate?] using h
    exact .refl ..
  | cons radius radii ih =>
    cases hw : (g.store.nearby (Ring.build g.options.tables centre radius n) store).within? d now with
    | none => simp [escalate?, hw] at h
    | some x =>
      obtain ⟨f, t, s⟩ := x
      rw [escalate?_cons hw] at h
      cases hs : g.settlement? n f with
      | some o =>
        rw [hs] at h
        obtain ⟨rfl, rfl, rfl⟩ : o = .answered hit ∧ t = later ∧ s = store' := by simpa using h
        obtain ⟨rows, rfl⟩ : ∃ rows, f = .answered rows := by
          cases settles_of_settlement? hs with
          | hit rows n h => exact ⟨rows, rfl⟩
        exact Attempt.punctual hd hw
      | none =>
        rw [hs] at h
        obtain ⟨rows, rfl, -⟩ := (settlement?_eq_none_iff g).mp hs
        exact (Attempt.punctual hd hw).trans (ih h)

theorem forward?_punctual {g : Geocoder π σ} {query : String} {centre : Option GeographicPoint}
    {country : Option String} {outside outside' : π × σ} {places : List Place} (hd : d.expiry = some limit)
    (h : g.forward? query centre d now outside country = some (.answered places, later, outside')) :
    ∃ address t service', g.splitter.split? query d now outside.1 = some (address, t, service') ∧
      Punctual limit t later := by
  cases hp : g.splitter.split? query d now outside.1 with
  | none => simp [forward?, hp] at h
  | some x =>
    obtain ⟨address, t, service'⟩ := x
    refine ⟨address, t, service', rfl, ?_⟩
    cases hw : (g.store.search (Search.build g.options.tables address (centre.map (·.toProjected))
        g.options.searchLimit) outside.2).within? d t with
    | none => simp [forward?, hp, hw] at h
    | some x =>
      obtain ⟨found, t', s⟩ := x
      rw [forward?_eq country hp hw] at h
      obtain rfl : t' = later := congrArg (·.2.1) (Option.some.inj h)
      cases found with
      | answered cs => exact Attempt.punctual hd hw
      | failed e => cases h
      | exceeded => cases h

theorem reverse?_punctual {g : Geocoder π σ} {point : GeographicPoint} {n : UInt32}
    {outside outside' : π × σ} {hit : Option Hit} (hd : d.expiry = some limit)
    (h : g.reverse? point n d now outside = some (.answered hit, later, outside')) :
    Punctual limit now later := by
  cases he : g.escalate? point.toProjected n d g.options.radii.toList now outside.2 with
  | none => simp [reverse?, he] at h
  | some x =>
    obtain ⟨o, t, s⟩ := x
    obtain ⟨rfl, rfl, -⟩ : o = .answered hit ∧ t = later ∧ (outside.1, s) = outside' := by
      simpa [reverse?, he] using h
    exact escalate?_punctual hd he

theorem reverse?_constant_nil (length : Duration) (candidates : List Candidate) (point : GeographicPoint)
    (limit : UInt32) (d : Deadline) (now : Instant) :
    (constant length candidates []).reverse? point limit d now ((), ()) =
      some (.answered none, now, (), ()) := by
  simp [constant, reverse?, escalate?, nearest?, Nearby.collapse, Nearby.grouped, Radii.standard,
    Attempt.within?, Outcome.of]

/-- Under a deadline, a search is answered by it if and only if the query was split by it, and a point if and
only if it was asked for by it; later there is only what can be answered at once. -/
theorem answered_by_deadline_iff (g : Geocoder π σ) (hd : d.expiry = some limit) :
    (∀ query centre country now outside places later outside',
      g.forward? query centre d now outside country = some (.answered places, later, outside') →
      ∃ address t service', g.splitter.split? query d now outside.1 = some (address, t, service') ∧
        (later.nanoseconds ≤ limit.nanoseconds ↔ t.nanoseconds ≤ limit.nanoseconds) ∧
        (limit.nanoseconds < t.nanoseconds → later = t)) ∧
    ∀ point n now outside hit later outside',
      g.reverse? point n d now outside = some (.answered hit, later, outside') →
      (later.nanoseconds ≤ limit.nanoseconds ↔ now.nanoseconds ≤ limit.nanoseconds) ∧
        (limit.nanoseconds < now.nanoseconds → later = now) := by
  constructor
  · intro query centre country now outside places later outside' h
    obtain ⟨address, t, service', hp, ht⟩ := forward?_punctual hd h
    exact ⟨address, t, service', hp, ht.le_iff, ht.at_once⟩
  · intro point n now outside hit later outside' h
    have ht := reverse?_punctual hd h
    exact ⟨ht.le_iff, ht.at_once⟩

/-- A query whose splitting takes longer than the deadline allows, and a point asked for after the deadline. -/
theorem answered_by_deadline_iff_late :
    let g := constant ⟨50⟩ [] []
    let d := Deadline.ofInstant ⟨20⟩
    (∃ address t service', g.splitter.split? "Main St" d ⟨0⟩ () = some (address, t, service') ∧
      (50 ≤ 20 ↔ t.nanoseconds ≤ 20) ∧ (20 < t.nanoseconds → ⟨50⟩ = t)) ∧
    g.reverse? ⟨0.0, 0.0⟩ 10 d ⟨30⟩ ((), ()) = some (.answered none, ⟨30⟩, (), ()) ∧ ¬ 30 ≤ 20 := by
  intro g d
  obtain ⟨hf, hr⟩ := answered_by_deadline_iff g (d := d) rfl
  have hn := reverse?_constant_nil ⟨50⟩ [] ⟨0.0, 0.0⟩ 10 d ⟨30⟩
  refine ⟨hf "Main St" none none ⟨0⟩ ((), ()) [] ⟨50⟩ ((), ()) rfl, hn, ?_⟩
  rw [(hr _ _ _ _ _ _ _ hn).1]
  decide

/-- The deadline passes while the query is split, and then the store answers at once. -/
theorem answered_after_deadline :
    (constant ⟨50⟩ [] []).forward? "Main St" none (.ofInstant ⟨20⟩) ⟨0⟩ ((), ()) =
      some (.answered [], ⟨50⟩, (), ()) ∧
    ¬ (⟨50⟩ : Instant).nanoseconds ≤ (⟨20⟩ : Instant).nanoseconds := ⟨rfl, by decide⟩

/-- With the address service, a search is answered by the deadline if and only if it was asked for by it. -/
theorem forward?_in_time_of_service {g : Geocoder π σ} {s : Service π} {base : Url}
    (hg : g.splitter = s.splitter base) {query : String} {centre : Option GeographicPoint}
    {country : Option String} {outside outside' : π × σ} {places : List Place} (hd : d.expiry = some limit)
    (h : g.forward? query centre d now outside country = some (.answered places, later, outside')) :
    later.nanoseconds ≤ limit.nanoseconds ↔ now.nanoseconds ≤ limit.nanoseconds := by
  obtain ⟨address, t, service', hp, ht⟩ := forward?_punctual hd h
  rw [hg] at hp
  exact ((Service.punctual hd hp).trans ht).le_iff

end Geocoder

end Geocoding
