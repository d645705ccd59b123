import Geocoding.Proofs.Geocoder.Recording

/-!
# The course of a search

A query is split once and searched for once, whatever the splitter says and however long it takes. What comes
of the search is what comes of the request.
-/

namespace Geocoding.Geocoder

variable {π σ : Type} {g : Geocoder π σ} {query : String} {centre : Option GeographicPoint}
  {d : Deadline} {now t later : Instant} {service service' : π} {store store' : σ}
  {address : QueryAddress} {found : Outcome (List Candidate)}

theorem forward?_eq (country : Option String)
    (hsplit : g.splitter.split? query d now service = some (address, t, service'))
    (hw : (g.store.search (Search.build g.options.tables address (centre.map (·.toProjected))
      g.options.searchLimit) store).within? d t = some (found, later, store')) :
    g.forward? query centre d now (service, store) country =
      some (found.map (·.map g.place), later, service', store') := by
  simp [forward?, hsplit, hw]

/-- The splitter is asked once, and then the store once, even if the deadline has passed meanwhile. There is
a place for every candidate, or else the error of the store, or else the deadline has cut off the search; none
of it depends on a country. -/
theorem forward_conversation (g : Geocoder π σ) (query : String) (centre : Option GeographicPoint)
    (store : σ) (hsplit : g.splitter.split? query d now service = some (address, t, service'))
    (hends : d.expiry ≠ none ∨ ∀ q s, (g.store.search q s).Ends) :
    let q := Search.build g.options.tables address (centre.map (·.toProjected)) g.options.searchLimit
    let attempt := g.store.search q store
    ∃ found later store', attempt.within? d t = some (found, later, store') ∧
      (attempt.IsInTime d t → attempt.within? .none t = some (found, later, store')) ∧
      (¬ attempt.IsInTime d t → found = .exceeded ∧
        ∃ limit, d.expiry = some limit ∧ later = t.max limit) ∧
      let places := found.map (List.map fun c =>
        (⟨g.template.format c.address, c.location.toGeographic⟩ : Place))
      ∀ country : Option String,
        g.forward? query centre d now (service, store) country =
          some (places, later, service', store') ∧
        g.recorded.forward? query centre d now ((service, []), (store, [])) country =
          some (places, later, (service', [(query, address)]), (store', [.search q found])) := by
  intro q attempt
  obtain ⟨found, later, store', hw⟩ := Attempt.exists_within? (hends.imp_right (· q store)) t
  have hr := Store.within?_search_recorded hw []
  refine ⟨found, later, store', hw, ?_, ?_, fun country => ⟨?_, ?_⟩⟩
  · intro hi
    obtain ⟨-, h⟩ | ⟨hn, -⟩ := Attempt.within?_eq_or hw
    · exact h
    · exact absurd hi hn
  · intro hn
    obtain ⟨hi, -⟩ | ⟨-, h⟩ := Attempt.within?_eq_or hw
    · exact absurd hi hn
    · exact h
  · exact forward?_eq country hsplit hw
  · exact forward?_eq country (Splitter.split?_recorded hsplit []) hr

/-- The deadline passes while the query is split. -/
theorem forward_conversation_late :
    let c : Candidate := ⟨⟨none, some "Main St", none, none, none⟩, ⟨0.0, 0.0⟩, 0.0, none⟩
    ∃ q, (constant ⟨50⟩ [c] []).recorded.forward? "Main St" none (.ofInstant ⟨20⟩) ⟨0⟩
        (((), []), ((), [])) none =
      some (.answered [⟨Template.standard.format c.address, c.location.toGeographic⟩], ⟨50⟩,
        ((), [("Main St", .roadOnly "Main St")]), ((), [.search q (.answered [c])])) := by
  intro c
  have hsplit : (constant ⟨50⟩ [c] []).splitter.split? "Main St" (.ofInstant ⟨20⟩) ⟨0⟩ () =
      some (.roadOnly "Main St", ⟨50⟩, ()) := rfl
  obtain ⟨found, later, store', hw, -, -, h⟩ :=
    forward_conversation (constant ⟨50⟩ [c] []) "Main St" none () hsplit (.inl nofun)
  obtain ⟨rfl, rfl, rfl⟩ := hw
  exact ⟨_, (h none).2⟩

end Geocoding.Geocoder
