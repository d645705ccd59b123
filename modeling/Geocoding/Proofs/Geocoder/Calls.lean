import Geocoding.Proofs.Geocoder.Escalation
import Geocoding.Proofs.Geocoder.Forward

/-!
# The calls that a request makes of the store

A search makes one call. A point is looked around by one call for each radius, up to the first that is not fruitless.
The request is cut off exactly if one of its calls is, and fails exactly if one of them fails.
-/

namespace Geocoding.Geocoder

variable {π σ : Type} {g : Geocoder π σ} {centre : ProjectedPoint} {limit : UInt32} {d : Deadline}
  {radius : Float} {radii before after : List Float} {now t later : Instant} {store store' s s' : σ}
  {f : Outcome (List Nearby)} {found : List (Outcome (List Nearby))} {o : Outcome (Option Hit)}

/-! ### Looking around -/

/-- A ring of this radius is looked at, at the instant `t` and with the store in the state `s`: all radii before it have
been looked at in vain. -/
def LooksAt (g : Geocoder π σ) (centre : ProjectedPoint) (limit : UInt32) (d : Deadline) (radii : List Float)
    (now : Instant) (store : σ) (radius : Float) (t : Instant) (s : σ) : Prop :=
  ∃ before after found, radii = before ++ radius :: after ∧
    g.lookInTurn? d (g.rings centre limit before) now store = some (found, t, s) ∧
    ∀ f ∈ found, IsFruitless limit f

theorem LooksAt.here (g : Geocoder π σ) (centre : ProjectedPoint) (limit : UInt32) (d : Deadline) (radius : Float)
    (radii : List Float) (now : Instant) (store : σ) :
    g.LooksAt centre limit d (radius :: radii) now store radius now store :=
  ⟨[], radii, [], rfl, rfl, nofun⟩

theorem LooksAt.onward {first : Float} (h : g.LooksAt centre limit d radii t s radius later s')
    (hw : (g.store.nearby (Ring.build g.options.tables centre first limit) store).within? d now = some (f, t, s))
    (hf : IsFruitless limit f) : g.LooksAt centre limit d (first :: radii) now store radius later s' := by
  obtain ⟨before, after, found, rfl, hl, hfound⟩ := h
  refine ⟨first :: before, after, f :: found, rfl, ?_, List.forall_mem_cons.mpr ⟨hf, hfound⟩⟩
  rw [rings] at hl ⊢
  simp only [List.map_cons, lookInTurn?, hw, Option.bind_eq_bind, Option.bind_some, hl]
  rfl

theorem settlement?_eq_exceeded_iff (g : Geocoder π σ) : g.settlement? limit f = some .exceeded ↔ f = .exceeded := by
  cases f with
  | answered rows => simp [settlement?]
  | failed e => simp [settlement?]
  | exceeded => simp [settlement?]

theorem settlement?_eq_failed_iff (g : Geocoder π σ) (e : Database.Error) :
    g.settlement? limit f = some (.failed e) ↔ f = .failed e := by
  cases f with
  | answered rows => simp [settlement?]
  | failed e' => simp [settlement?]
  | exceeded => simp [settlement?]

theorem LooksAt.escalate? (h : g.LooksAt centre limit d radii now store radius t s) :
    ∃ after, g.escalate? centre limit d radii now store = g.escalate? centre limit d (radius :: after) t s := by
  obtain ⟨before, after, found, rfl, hl, hfound⟩ := h
  refine ⟨after, ?_⟩
  induction before generalizing now store found with
  | nil =>
    obtain ⟨-, rfl, rfl⟩ : [] = found ∧ now = t ∧ store = s := by simpa [lookInTurn?, rings] using hl
    rfl
  | cons first before ih =>
    obtain ⟨⟨f, t', m⟩, hw, hl⟩ := Option.bind_eq_some_iff.mp hl
    obtain ⟨⟨found', t'', m'⟩, hl', hl⟩ := Option.bind_eq_some_iff.mp hl
    obtain ⟨rfl, rfl, rfl⟩ : f :: found' = found ∧ t'' = t ∧ m' = s := by simpa using hl
    obtain ⟨hf, hfound⟩ := List.forall_mem_cons.mp hfound
    rw [List.cons_append, escalate?_cons hw, (settlement?_eq_none_iff g).mpr hf]
    exact ih found' hl' hfound

/-- A radius that is looked at and settles the request is the last one. -/
theorem LooksAt.settles (h : g.LooksAt centre limit d radii now store radius t s)
    (hw : (g.store.nearby (Ring.build g.options.tables centre radius limit) s).within? d t = some (f, later, s'))
    (hs : g.settlement? limit f = some o) : g.escalate? centre limit d radii now store = some (o, later, s') := by
  obtain ⟨after, he⟩ := h.escalate?
  rw [he, escalate?_cons hw, hs]

/-- All radii are looked at in vain, or the last one that is looked at settles the request. -/
theorem looksAt_of_escalate? (h : g.escalate? centre limit d radii now store = some (o, later, store')) :
    o = .answered none ∨ ∃ radius t s f, g.LooksAt centre limit d radii now store radius t s ∧
      (g.store.nearby (Ring.build g.options.tables centre radius limit) s).within? d t = some (f, later, store') ∧
      g.settlement? limit f = some o := by
  induction radii generalizing now store with
  | nil =>
    obtain ⟨rfl, -⟩ : .answered none = o ∧ now = later ∧ store = store' := by simpa [escalate?] using h
    exact .inl rfl
  | cons first radii ih =>
    cases hw : (g.store.nearby (Ring.build g.options.tables centre first limit) store).within? d now with
    | none => simp [escalate?, hw] at h
    | some x =>
      obtain ⟨f, t, s⟩ := x
      rw [escalate?_cons hw] at h
      cases hs : g.settlement? limit f with
      | some o' =>
        rw [hs] at h
        obtain ⟨rfl, rfl, rfl⟩ : o' = o ∧ t = later ∧ s = store' := by simpa using h
        exact .inr ⟨first, now, store, f, .here .., hw, hs⟩
      | none =>
        rw [hs] at h
        have hf := (settlement?_eq_none_iff g).mp hs
        obtain ho | ⟨radius, t', s', f', hl, hw', hs'⟩ := ih h
        · exact .inl ho
        · exact .inr ⟨radius, t', s', f', hl.onward hw hf, hw', hs'⟩

/-- A point is not looked around in time exactly if one of the rings is not. -/
theorem escalate?_exceeded_iff (h : g.escalate? centre limit d radii now store = some (o, later, store')) :
    o = .exceeded ↔ ∃ radius t s, g.LooksAt centre limit d radii now store radius t s ∧
      ¬ (g.store.nearby (Ring.build g.options.tables centre radius limit) s).IsInTime d t := by
  constructor
  · rintro rfl
    obtain hv | ⟨radius, t, s, f, hl, hw, hs⟩ := looksAt_of_escalate? h
    · cases hv
    · obtain rfl := (settlement?_eq_exceeded_iff g).mp hs
      exact ⟨radius, t, s, hl, (Attempt.eq_exceeded_iff hw).mp rfl⟩
  · rintro ⟨radius, t, s, hl, hn⟩
    obtain ⟨after, he⟩ := hl.escalate?
    cases hw : (g.store.nearby (Ring.build g.options.tables centre radius limit) s).within? d t with
    | none =>
      rw [he] at h
      simp [escalate?, hw] at h
    | some x =>
      obtain ⟨f, t', s'⟩ := x
      obtain rfl := (Attempt.eq_exceeded_iff hw).mpr hn
      have hs := hl.settles hw ((settlement?_eq_exceeded_iff g).mpr rfl)
      exact congrArg Prod.fst (Option.some.inj (h.symm.trans hs))

/-- Looking around a point fails exactly if one of the rings cannot be looked at. -/
theorem escalate?_failed_iff (h : g.escalate? centre limit d radii now store = some (o, later, store'))
    (e : Database.Error) : o = .failed e ↔ ∃ radius t s, g.LooksAt centre limit d radii now store radius t s ∧ ∃ t' s',
      (g.store.nearby (Ring.build g.options.tables centre radius limit) s).within? d t = some (.failed e, t', s') := by
  constructor
  · rintro rfl
    obtain hv | ⟨radius, t, s, f, hl, hw, hs⟩ := looksAt_of_escalate? h
    · cases hv
    · obtain rfl := (settlement?_eq_failed_iff g e).mp hs
      exact ⟨radius, t, s, hl, later, store', hw⟩
  · rintro ⟨radius, t, s, hl, t', s', hw⟩
    have hs := hl.settles hw ((settlement?_eq_failed_iff g e).mpr rfl)
    exact congrArg Prod.fst (Option.some.inj (h.symm.trans hs))

/-- Looking around comes to an end if every ring can be looked at, in the states in which rings are looked at. -/
theorem exists_escalate? (I : σ → Prop) (hring : ∀ r s now, I s → ∃ f t s',
      (g.store.nearby r s).within? d now = some (f, t, s') ∧ I s') (radii : List Float) (now : Instant)
    (h : I store) : ∃ o later store', g.escalate? centre limit d radii now store = some (o, later, store') := by
  induction radii generalizing now store with
  | nil => exact ⟨_, now, store, rfl⟩
  | cons radius radii ih =>
    obtain ⟨f, t, s, hw, hs⟩ := hring (Ring.build g.options.tables centre radius limit) store now h
    rw [escalate?_cons hw]
    cases g.settlement? limit f with
    | some o => exact ⟨o, t, s, rfl⟩
    | none => exact ih t hs

/-! ### Requests -/

variable {query : String} {point : GeographicPoint} {country : Option String} {outside outside' : π × σ}
  {places : Outcome (List Place)}

theorem split_of_forward? {near : Option GeographicPoint}
    (h : g.forward? query near d now outside country = some (places, later, outside')) :
    ∃ address t service found, g.splitter.split? query d now outside.1 = some (address, t, service) ∧
      (g.store.search (Search.build g.options.tables address (near.map (·.toProjected)) g.options.searchLimit)
        outside.2).within? d t = some (found, later, outside'.2) ∧
      places = found.map (·.map g.place) := by
  obtain ⟨⟨address, t, service⟩, hp, h⟩ := Option.bind_eq_some_iff.mp h
  obtain ⟨⟨found, t', s⟩, hw, h⟩ := Option.bind_eq_some_iff.mp h
  obtain ⟨rfl, rfl, rfl⟩ : found.map (·.map g.place) = places ∧ t' = later ∧ (service, s) = outside' := by
    simpa using h
  exact ⟨address, t, service, found, hp, hw, rfl⟩

/-- A search is not done in time exactly if its call of the store is not. -/
theorem forward?_exceeded_iff {near : Option GeographicPoint}
    (h : g.forward? query near d now outside country = some (places, later, outside')) :
    places = .exceeded ↔ ∃ address t service, g.splitter.split? query d now outside.1 = some (address, t, service) ∧
      ¬ (g.store.search (Search.build g.options.tables address (near.map (·.toProjected)) g.options.searchLimit)
        outside.2).IsInTime d t := by
  obtain ⟨address, t, service, found, hp, hw, rfl⟩ := split_of_forward? h
  have hfound : found.map (·.map g.place) = .exceeded ↔ found = .exceeded := by
    cases found <;> simp [Outcome.map]
  rw [hfound, Attempt.eq_exceeded_iff hw]
  constructor
  · intro hn
    exact ⟨address, t, service, hp, hn⟩
  · rintro ⟨address', t', service', hp', hn⟩
    obtain ⟨rfl, rfl, -⟩ : address = address' ∧ t = t' ∧ service = service' := by simpa [hp] using hp'
    exact hn

/-- A search fails exactly if its call of the store does. -/
theorem forward?_failed_iff {near : Option GeographicPoint}
    (h : g.forward? query near d now outside country = some (places, later, outside')) (e : Database.Error) :
    places = .failed e ↔ ∃ address t service, g.splitter.split? query d now outside.1 = some (address, t, service) ∧
      ∃ t' s', (g.store.search (Search.build g.options.tables address (near.map (·.toProjected)) g.options.searchLimit)
        outside.2).within? d t = some (.failed e, t', s') := by
  obtain ⟨address, t, service, found, hp, hw, rfl⟩ := split_of_forward? h
  have hfound : found.map (·.map g.place) = .failed e ↔ found = .failed e := by
    cases found <;> simp [Outcome.map]
  rw [hfound]
  constructor
  · rintro rfl
    exact ⟨address, t, service, hp, later, _, hw⟩
  · rintro ⟨address', t', service', hp', t'', s', hw'⟩
    obtain ⟨rfl, rfl, -⟩ : address = address' ∧ t = t' ∧ service = service' := by simpa [hp] using hp'
    exact congrArg Prod.fst (Option.some.inj (hw.symm.trans hw'))

theorem escalate_of_reverse? (h : g.reverse? point limit d now outside = some (o, later, outside')) :
    g.escalate? point.toProjected limit d g.options.radii.toList now outside.2 = some (o, later, outside'.2) := by
  obtain ⟨⟨o', t, s⟩, he, h⟩ := Option.bind_eq_some_iff.mp h
  obtain ⟨rfl, rfl, rfl⟩ : o' = o ∧ t = later ∧ (outside.1, s) = outside' := by simpa using h
  exact he

end Geocoding.Geocoder
