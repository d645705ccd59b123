import Geocoding.Geocoder
import Geocoding.Proofs.Recording

/-!
# Recording

A geocoder whose splitter and store write down what they are asked, and what comes of it. It answers as the
geocoder does.
-/

namespace Geocoding

/-- What a store has been asked, and what came of it. -/
inductive Enquiry where
  | search (q : Search) (o : Outcome (List Candidate))
  | nearby (r : Ring) (o : Outcome (List Nearby))

def Splitter.recorded {π : Type} (p : Splitter π) : Splitter (π × List (String × QueryAddress)) where
  split? query d now s := (p.split? query d now s.1).map fun (address, t, rest) =>
    (address, t, rest, s.2 ++ [(query, address)])

def Store.recorded {σ : Type} (st : Store σ) : Store (σ × List Enquiry) where
  search q s := (st.search q s.1).noted (.search q) s.2
  nearby r s := (st.nearby r s.1).noted (.nearby r) s.2

def Geocoder.recorded {π σ : Type} (g : Geocoder π σ) :
    Geocoder (π × List (String × QueryAddress)) (σ × List Enquiry) where
  options := g.options
  template := g.template
  splitter := g.splitter.recorded
  store := g.store.recorded

variable {π σ : Type} {d : Deadline} {now t later : Instant}

theorem Splitter.split?_recorded {p : Splitter π} {query : String} {address : QueryAddress} {s s' : π}
    (h : p.split? query d now s = some (address, t, s')) (asked : List (String × QueryAddress)) :
    p.recorded.split? query d now (s, asked) = some (address, t, s', asked ++ [(query, address)]) := by
  simp [recorded, h]

variable {st : Store σ} {s s' : σ}

theorem Store.within?_search_recorded {q : Search} {o : Outcome (List Candidate)}
    (h : (st.search q s).within? d now = some (o, later, s')) (notes : List Enquiry) :
    (st.recorded.search q (s, notes)).within? d now = some (o, later, s', notes ++ [.search q o]) := by
  simp only [recorded, Attempt.within?_noted, h, Option.map_some]

theorem Store.within?_nearby_recorded {r : Ring} {o : Outcome (List Nearby)}
    (h : (st.nearby r s).within? d now = some (o, later, s')) (notes : List Enquiry) :
    (st.recorded.nearby r (s, notes)).within? d now = some (o, later, s', notes ++ [.nearby r o]) := by
  simp only [recorded, Attempt.within?_noted, h, Option.map_some]

/-- A geocoder that takes every query for a road, which needs some time whatever the deadline is, and that
always finds the same, at once. -/
def Geocoder.constant (length : Duration) (candidates : List Candidate) (buildings : List Nearby) :
    Geocoder Unit Unit where
  options := ⟨⟨⟨"houses", by decide⟩, ⟨"postcodes", by decide⟩, ⟨"areas", by decide⟩⟩, 20, 10,
    Radii.standard, none⟩
  template := Template.standard
  splitter := ⟨fun query _ now s => some (.roadOnly query, now.later length, s)⟩
  store := ⟨fun _ s => .ended (.ok candidates) s, fun _ s => .ended (.ok buildings) s⟩

end Geocoding
