import Geocoding.Proofs.Service.Suggestion
import Geocoding.Proofs.Timing

/-!
# What the address service makes of a query

The address is that of the first suggestion if the service is asked, answers in time and offers one that has some
part; in every other case the whole query is taken for a road. There is no answer at all only where nobody ends
the waiting.
-/

namespace Geocoding

/-- The work is over at once, or by the deadline if there is one. -/
def Work.IsInTime (w : Work) (d : Deadline) (now : Instant) : Prop :=
  w = .ready ∨ ∃ length, w = .takes length ∧
    ∀ limit, d.expiry = some limit → (now.later length).nanoseconds ≤ limit.nanoseconds

namespace Deadline

variable {d : Deadline} {now : Instant} {w : Work}

theorem exists_run_done_iff : (∃ t, d.run now w = .done t) ↔ w.IsInTime d now := by
  obtain ⟨expiry⟩ := d
  cases w with
  | ready => exact ⟨fun _ => .inl rfl, fun _ => ⟨now, rfl⟩⟩
  | never =>
    constructor
    · rintro ⟨t, h⟩
      cases expiry <;> cases h
    · rintro (h | ⟨length, h, -⟩)
      · cases h
      · cases h
  | takes length =>
    cases expiry with
    | none => exact ⟨fun _ => .inr ⟨length, rfl, nofun⟩, fun _ => ⟨now.later length, rfl⟩⟩
    | some limit =>
      constructor
      · rintro ⟨t, h⟩
        simp only [run] at h
        split at h
        · next hle => exact .inr ⟨length, rfl, fun l hl => Option.some.inj hl ▸ hle⟩
        · cases h
      · rintro (h | ⟨l, h, hle⟩)
        · cases h
        · obtain rfl := Work.takes.inj h
          exact ⟨now.later length, if_pos (hle limit rfl)⟩

theorem run_eq_never_iff (now : Instant) : d.run now w = .never ↔ d.expiry = .none ∧ w = .never := by
  constructor
  · intro h
    obtain rfl := eq_never_of_run_never h
    refine ⟨?_, rfl⟩
    obtain ⟨expiry⟩ := d
    cases expiry with
    | none => rfl
    | some limit => cases h
  · rintro ⟨he, rfl⟩
    simp only [run, he]

end Deadline

namespace Service

variable {π : Type} {s : Service π} {endpoint query : String} {d : Deadline} {now : Instant} {outside : π}

/-- The same service, which writes down the requests that it is sent. -/
def recorded (s : Service π) : Service (π × List Request) where
  send q state :=
    let e := s.send q state.1
    { work := e.work, response := e.response
      finished := (e.finished, state.2 ++ [q]), abandoned := (e.abandoned, state.2 ++ [q]) }

/-- The same service, but always with this response. -/
def responding (s : Service π) (r : Response) : Service π where
  send q state := { s.send q state with response := some r }

/-- The service is asked, answers in time, and offers a suggestion. -/
structure Suggests (s : Service π) (endpoint query : String) (d : Deadline) (now : Instant) (outside : π)
    (ms : List (String × Json.Value)) : Prop where
  not_expired : d.isExpired now = false
  in_time : (s.send (request endpoint query) outside).work.IsInTime d now
  offers : ∃ r, (s.send (request endpoint query) outside).response = some r ∧ Offers r ms

theorem split?_of_isExpired (h : d.isExpired now = true) :
    s.split? endpoint query d now outside = some (.roadOnly query, now, outside) := if_pos h

theorem split?_of_done (h : d.isExpired now = false) {t : Instant}
    (hd : d.run now (s.send (request endpoint query) outside).work = .done t) :
    s.split? endpoint query d now outside =
      some (((s.send (request endpoint query) outside).response.bind addressOf?).getD (.roadOnly query), t,
        (s.send (request endpoint query) outside).finished) := by
  simp only [split?, h, hd, Bool.false_eq_true, if_false]

theorem split?_of_cutOff (h : d.isExpired now = false) {t : Instant}
    (hd : d.run now (s.send (request endpoint query) outside).work = .cutOff t) :
    s.split? endpoint query d now outside =
      some (.roadOnly query, t, (s.send (request endpoint query) outside).abandoned) := by
  simp only [split?, h, hd, Bool.false_eq_true, if_false]

theorem split?_of_never (h : d.isExpired now = false)
    (hd : d.run now (s.send (request endpoint query) outside).work = .never) :
    s.split? endpoint query d now outside = none := by
  simp only [split?, h, hd, Bool.false_eq_true, if_false]

theorem split?_eq_none_iff : s.split? endpoint query d now outside = none ↔
    d.expiry = none ∧ (s.send (request endpoint query) outside).work = .never := by
  rw [← Deadline.run_eq_never_iff now]
  cases he : d.isExpired now with
  | true =>
    -- What has passed is a deadline, so there is one, and nothing is waited for.
    have hsome : d.expiry ≠ none := by
      rintro hn
      simp [Deadline.isExpired, hn] at he
    rw [split?_of_isExpired he, Deadline.run_eq_never_iff]
    simp [hsome]
  | false =>
    cases hd : d.run now (s.send (request endpoint query) outside).work with
    | done t => simp [split?_of_done he hd]
    | cutOff t => simp [split?_of_cutOff he hd]
    | never => simp [split?_of_never he hd]

theorem Suggests.split? {ms : List (String × Json.Value)} (h : s.Suggests endpoint query d now outside ms) :
    ∃ t left, s.split? endpoint query d now outside = some (suggestion ms, t, left) := by
  obtain ⟨t, ht⟩ := Deadline.exists_run_done_iff.mpr h.in_time
  obtain ⟨r, hr, ho⟩ := h.offers
  have ha : addressOf? r = some (suggestion ms) := addressOf?_eq_some_iff.mpr ⟨ms, ho, rfl⟩
  rw [split?_of_done h.not_expired ht, hr, Option.bind_some, ha]
  exact ⟨t, _, rfl⟩

theorem split?_eq_roadOnly (h : ¬ ∃ ms, s.Suggests endpoint query d now outside ms) {a : QueryAddress}
    {t : Instant} {left : π} (ha : s.split? endpoint query d now outside = some (a, t, left)) :
    a = .roadOnly query := by
  cases he : d.isExpired now with
  | true =>
    rw [split?_of_isExpired he] at ha
    exact (congrArg Prod.fst (Option.some.inj ha)).symm
  | false =>
    cases hd : d.run now (s.send (request endpoint query) outside).work with
    | done t' =>
      have hnone : (s.send (request endpoint query) outside).response.bind addressOf? = none := by
        by_contra hsome
        obtain ⟨b, hb⟩ := Option.ne_none_iff_exists'.mp hsome
        obtain ⟨r, hr, hb⟩ := Option.bind_eq_some_iff.mp hb
        obtain ⟨ms, ho, -⟩ := addressOf?_eq_some_iff.mp hb
        exact h ⟨ms, he, Deadline.exists_run_done_iff.mp ⟨t', hd⟩, r, hr, ho⟩
      rw [split?_of_done he hd, hnone] at ha
      exact (congrArg Prod.fst (Option.some.inj ha)).symm
    | cutOff t' =>
      rw [split?_of_cutOff he hd] at ha
      exact (congrArg Prod.fst (Option.some.inj ha)).symm
    | never =>
      rw [split?_of_never he hd] at ha
      cases ha

theorem split?_recorded (sent : List Request) :
    s.recorded.split? endpoint query d now (outside, sent) =
      (s.split? endpoint query d now outside).map fun (a, t, left) =>
        (a, t, left, sent ++ if d.isExpired now then [] else [request endpoint query]) := by
  cases he : d.isExpired now with
  | true => simp [split?_of_isExpired he]
  | false =>
    have hw : (s.recorded.send (request endpoint query) (outside, sent)).work =
        (s.send (request endpoint query) outside).work := rfl
    cases hd : d.run now (s.send (request endpoint query) outside).work with
    | done t =>
      rw [split?_of_done he hd, split?_of_done he (hw ▸ hd)]
      rfl
    | cutOff t =>
      rw [split?_of_cutOff he hd, split?_of_cutOff he (hw ▸ hd)]
      rfl
    | never =>
      rw [split?_of_never he hd, split?_of_never he (hw ▸ hd)]
      rfl

/-- A response with the same first suggestion makes no difference. -/
theorem split?_responding {r r' : Response} {first : Json.Value} {later later' : List Json.Value}
    (hr : (s.send (request endpoint query) outside).response = some r) (hs : r.status = r'.status)
    (hc : r.isComplete = r'.isComplete) (hb : Decodes r.body (first :: later))
    (hb' : Decodes r'.body (first :: later')) :
    (s.responding r').split? endpoint query d now outside = s.split? endpoint query d now outside := by
  have ha := addressOf?_eq_of_first hs hc hb hb'
  simp only [Service.split?, responding, hr, Option.bind_some, ha]

/-- The whole of what comes of a query: when there is an answer, what it is, what it depends on, and what the
service is sent. -/
theorem answer_of_first_suggestion (s : Service π) (endpoint query : String) (d : Deadline)
    (now : Instant) (outside : π) :
    let answer := s.split? endpoint query d now outside
    (answer = none ↔ d.expiry = none ∧ (s.send (request endpoint query) outside).work = .never) ∧
    (∀ ms, s.Suggests endpoint query d now outside ms → ∃ t left, answer = some (suggestion ms, t, left)) ∧
    ((¬ ∃ ms, s.Suggests endpoint query d now outside ms) →
      ∀ a t left, answer = some (a, t, left) → a = .roadOnly query) ∧
    (∀ ms name, ((component ms name).isSome ↔ IsGiven ms name) ∧
      ∀ c, component ms name = some c → c ≠ "" ∧ Text.IsTrimmed c) ∧
    (∀ name other, other ≠ name → ∀ ahead behind v w,
      component (ahead ++ (other, v) :: behind) name = component (ahead ++ (other, w) :: behind) name) ∧
    (∀ r r' first later later', (s.send (request endpoint query) outside).response = some r →
      r.status = r'.status → r.isComplete = r'.isComplete → Decodes r.body (first :: later) →
      Decodes r'.body (first :: later') →
      (s.responding r').split? endpoint query d now outside = answer) ∧
    (∀ given : List (List Char × Json.Value), (∀ i ∈ given, Accepted i.1 i.2) →
      Decodes (bodyOf (given.map (·.1))) (given.map (·.2))) ∧
    (∀ sent, s.recorded.split? endpoint query d now (outside, sent) = answer.map fun (a, t, left) =>
      (a, t, left, sent ++ if d.isExpired now then [] else [request endpoint query])) ∧
    Json.read? (request endpoint query).body.toList = some (.object [("query", .text query)]) := by
  intro answer
  refine ⟨split?_eq_none_iff, fun ms h => h.split?, fun h a t left ha => split?_eq_roadOnly h ha,
    fun ms name => ⟨component_isSome_iff, fun c hc => component_eq_some hc⟩,
    fun name other h => component_replace h, ?_, fun given h => decodes_bodyOf h, split?_recorded, ?_⟩
  · intro r r' first later later' hr hs hc hb hb'
    exact split?_responding hr hs hc hb hb'
  · have hbody : (request endpoint query).body.toList = (Json.Value.object [("query", .text query)]).compact :=
      String.toList_ofList
    rw [hbody]
    exact Json.read?_object_text "query" query

def sampleSuggestion : List (String × Json.Value) :=
  [("road", .text " Main St "), ("house_number", .number (.natural 5)), ("postcode", .list []),
    ("city", .text " ")]

def sampleItems : List (List Char × Json.Value) :=
  [("\x7b\"road\":\" Main St \",\"house_number\":5,\"postcode\":[],\"city\":\" \"\x7d".toList,
    .object sampleSuggestion), ("\"garbage\"".toList, .text "garbage")]

def sampleService : Service Unit where
  send _ _ := ⟨.takes (.ofMilliseconds 10), some ⟨200, bodyOf (sampleItems.map (·.1)), true⟩, (), ()⟩

theorem answer_of_first_suggestion_sample :
    let d := Deadline.ofInstant ⟨tenTo 8⟩
    (∀ i ∈ sampleItems, Accepted i.1 i.2) ∧
      sampleService.Suggests "http://localhost/split" "Main St 5" d ⟨0⟩ () sampleSuggestion ∧
      ∃ t, sampleService.split? "http://localhost/split" "Main St 5" d ⟨0⟩ () =
        some (⟨some "Main St", some "5", none, none⟩, t, ()) := by
  intro d
  obtain ⟨-, hsuggests, -, -, -, -, hdecodes, -⟩ :=
    answer_of_first_suggestion sampleService "http://localhost/split" "Main St 5" d ⟨0⟩ ()
  have hitems : ∀ i ∈ sampleItems, Accepted i.1 i.2 := by
    intro i hi
    obtain rfl | rfl : i = _ ∨ i = _ := by simpa [sampleItems] using hi
    · exact ⟨rfl, rfl, by decide⟩
    · exact ⟨rfl, rfl, by decide⟩
  have hgiven : IsGiven sampleSuggestion "house_number" := ⟨_, rfl, .number (.natural 5)⟩
  have hs : sampleService.Suggests "http://localhost/split" "Main St 5" d ⟨0⟩ () sampleSuggestion :=
    ⟨by decide, .inr ⟨_, rfl, fun limit hl => by cases hl; decide⟩, _, rfl,
      ⟨rfl, rfl, ⟨_, hdecodes sampleItems hitems⟩, "house_number", by simp [partNames], hgiven⟩⟩
  obtain ⟨t, left, h⟩ := hsuggests sampleSuggestion hs
  have ha : suggestion sampleSuggestion = ⟨some "Main St", some "5", none, none⟩ := by decide +kernel
  exact ⟨hitems, hs, t, ha ▸ h⟩

end Service

end Geocoding
