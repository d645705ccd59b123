import Geocoding.Proofs.CommandLine.Deadline
import Geocoding.Proofs.Connect
import Geocoding.Proofs.Geocoder.Calls
import Geocoding.Proofs.Service.Answer
import Geocoding.Proofs.Traffic.Quiet

/-!
# The exit status of a run

The status tells which of four things has happened: the request has been answered, one of its calls of the store was not
done by the deadline, the clock does not get as far as the deadline, or anything else has gone wrong. Only an answer is
printed.
-/

namespace Geocoding.CommandLine

open Database (Responds)

variable {π σ C : Type} {w : Surroundings π σ C} {e : Environment} {i : Invocation} {now later t : Instant}
  {outside left : π × σ} {report r : Report} {d : Deadline}

/-! ### What a request comes to -/

/-- The request makes a call of the store of which `P` holds, at the instant at which it makes it. -/
inductive Makes (g : Geocoder π σ) (d : Deadline) (now : Instant) (outside : π × σ)
    (P : ∀ α : Type, Attempt σ α → Instant → Prop) : Request → Prop where
  | search (r : Forward) (address : QueryAddress) (t : Instant) (service : π)
      (hsplit : g.splitter.split? r.query d now outside.1 = some (address, t, service))
      (h : P _ (g.store.search (Search.build g.options.tables address (r.centre.map (·.toProjected))
        g.options.searchLimit) outside.2) t) : Makes g d now outside P (.forward r)
  | nearby (r : Reverse) (radius : Float) (t : Instant) (s : σ)
      (hlook : g.LooksAt r.point.toProjected (r.limit.getD g.options.ringLimit) d g.options.radii.toList now outside.2
        radius t s)
      (h : P _ (g.store.nearby (Ring.build g.options.tables r.point.toProjected radius
        (r.limit.getD g.options.ringLimit)) s) t) : Makes g d now outside P (.reverse r)

/-- The call is not done by the deadline. -/
def Outlives (d : Deadline) (α : Type) (a : Attempt σ α) (t : Instant) : Prop := ¬ a.IsInTime d t

/-- The call comes to an error. -/
def FailsWith (d : Deadline) (err : Database.Error) (α : Type) (a : Attempt σ α) (t : Instant) : Prop :=
  ∃ later s, a.within? d t = some (.failed err, later, s)

/-- The request is answered, be it with nothing, and this is what is printed. -/
inductive Answered (g : Geocoder π σ) (d : Deadline) (now : Instant) (outside : π × σ) (json : Bool) :
    Request → String → Prop where
  | places (r : Forward) (ps : List Place) (later : Instant) (left : π × σ)
      (h : g.forward? r.query r.centre d now outside r.country = some (.answered ps, later, left)) :
      Answered g d now outside json (.forward r) (printPlaces json ps)
  | hit (r : Reverse) (hit : Option Hit) (later : Instant) (left : π × σ)
      (h : g.reverse? r.point (r.limit.getD g.options.ringLimit) d now outside = some (.answered hit, later, left)) :
      Answered g d now outside json (.reverse r) (printHit json hit)

section

variable {g : Geocoder π σ} {P : ∀ α : Type, Attempt σ α → Instant → Prop}

theorem makes_forward_iff (f : Forward) : Makes g d now outside P (.forward f) ↔
    ∃ address t service, g.splitter.split? f.query d now outside.1 = some (address, t, service) ∧
      P _ (g.store.search (Search.build g.options.tables address (f.centre.map (·.toProjected)) g.options.searchLimit)
        outside.2) t := by
  constructor
  · rintro (⟨_, address, t, service, hp, h⟩ | _)
    exact ⟨address, t, service, hp, h⟩
  · rintro ⟨address, t, service, hp, h⟩
    exact .search f address t service hp h

theorem makes_reverse_iff (f : Reverse) : Makes g d now outside P (.reverse f) ↔
    ∃ radius t s, g.LooksAt f.point.toProjected (f.limit.getD g.options.ringLimit) d g.options.radii.toList now
        outside.2 radius t s ∧
      P _ (g.store.nearby (Ring.build g.options.tables f.point.toProjected radius
        (f.limit.getD g.options.ringLimit)) s) t := by
  constructor
  · rintro (_ | ⟨_, radius, t, s, hl, h⟩)
    exact ⟨radius, t, s, hl, h⟩
  · rintro ⟨radius, t, s, hl, h⟩
    exact .nearby f radius t s hl h

theorem Report.of_eq_printed_iff {α : Type} (print : α → String) (o : Outcome α) (text : String) :
    Report.of print o = .printed text ↔ ∃ a, o = .answered a ∧ print a = text := by
  cases o <;> simp [Report.of]

theorem Report.of_eq_failed_iff {α : Type} (print : α → String) (o : Outcome α) (err : Database.Error) :
    Report.of print o = .failed (.database err) ↔ o = .failed err := by
  cases o <;> simp [Report.of]

theorem Report.of_eq_exceeded_iff {α : Type} (print : α → String) (o : Outcome α) :
    Report.of print o = .failed .exceeded ↔ o = .exceeded := by
  cases o <;> simp [Report.of]

theorem Report.of_cases {α : Type} (print : α → String) (o : Outcome α) :
    (∃ text, Report.of print o = .printed text) ∨ Report.of print o = .failed .exceeded ∨
      ∃ err, Report.of print o = .failed (.database err) := by
  cases o <;> simp [Report.of]

/-- What the report of a request says. -/
structure Tells (g : Geocoder π σ) (i : Invocation) (d : Deadline) (now : Instant) (outside : π × σ)
    (report : Report) : Prop where
  printed_iff : ∀ text, report = .printed text ↔ Answered g d now outside i.json i.request text
  exceeded_iff : report = .failed .exceeded ↔ Makes g d now outside (Outlives d) i.request
  failed_iff : ∀ err, report = .failed (.database err) ↔ Makes g d now outside (FailsWith d err) i.request
  cases : (∃ text, report = .printed text) ∨ report = .failed .exceeded ∨ ∃ err, report = .failed (.database err)

theorem answered_forward_iff {f : Forward} {places : Outcome (List Place)} {json : Bool} {text : String}
    (h : g.forward? f.query f.centre d now outside f.country = some (places, later, left)) :
    Answered g d now outside json (.forward f) text ↔ ∃ ps, places = .answered ps ∧ printPlaces json ps = text := by
  constructor
  · intro ha
    obtain ⟨_, ps, t, left', h'⟩ := ha
    obtain ⟨rfl, -⟩ : places = .answered ps ∧ later = t ∧ left = left' := by simpa [h] using h'
    exact ⟨ps, rfl, rfl⟩
  · intro ⟨ps, hp, ht⟩
    subst hp ht
    exact .places f ps later left h

theorem answered_reverse_iff {f : Reverse} {hit : Outcome (Option Hit)} {json : Bool} {text : String}
    (h : g.reverse? f.point (f.limit.getD g.options.ringLimit) d now outside = some (hit, later, left)) :
    Answered g d now outside json (.reverse f) text ↔ ∃ n, hit = .answered n ∧ printHit json n = text := by
  constructor
  · intro ha
    obtain _ | ⟨_, n, t, left', h'⟩ := ha
    obtain ⟨rfl, -⟩ : hit = .answered n ∧ later = t ∧ left = left' := by simpa [h] using h'
    exact ⟨n, rfl, rfl⟩
  · intro ⟨n, hn, ht⟩
    subst hn ht
    exact .hit f n later left h

/-- The report says what the outcome says. -/
theorem Tells.of_outcome {α : Type} {print : α → String} {o : Outcome α}
    (ha : ∀ text, Answered g d now outside i.json i.request text ↔ ∃ a, o = .answered a ∧ print a = text)
    (hx : o = .exceeded ↔ Makes g d now outside (Outlives d) i.request)
    (hf : ∀ err, o = .failed err ↔ Makes g d now outside (FailsWith d err) i.request) :
    Tells g i d now outside (.of print o) where
  printed_iff text := (Report.of_eq_printed_iff print o text).trans (ha text).symm
  exceeded_iff := (Report.of_eq_exceeded_iff print o).trans hx
  failed_iff err := (Report.of_eq_failed_iff print o err).trans (hf err)
  cases := Report.of_cases print o

theorem tells_of_answer? (h : answer? g i d now outside = some (report, later, left)) :
    Tells g i d now outside report := by
  unfold answer? at h
  cases hi : i.request with
  | forward f =>
    rw [hi] at h
    obtain ⟨⟨places, t, left'⟩, hr, h⟩ := Option.bind_eq_some_iff.mp h
    obtain ⟨rfl, -⟩ : .of (printPlaces i.json) places = report ∧ t = later ∧ left' = left := by simpa using h
    refine Tells.of_outcome (fun text => ?_) ?_ fun err => ?_
    · rw [hi, answered_forward_iff hr]
    · rw [hi, makes_forward_iff]
      exact Geocoder.forward?_exceeded_iff hr
    · rw [hi, makes_forward_iff]
      exact Geocoder.forward?_failed_iff hr err
  | reverse f =>
    rw [hi] at h
    obtain ⟨⟨hit, t, left'⟩, hr, h⟩ := Option.bind_eq_some_iff.mp h
    obtain ⟨rfl, -⟩ : .of (printHit i.json) hit = report ∧ t = later ∧ left' = left := by simpa using h
    have he := Geocoder.escalate_of_reverse? hr
    refine Tells.of_outcome (fun text => ?_) ?_ fun err => ?_
    · rw [hi, answered_reverse_iff hr]
    · rw [hi, makes_reverse_iff]
      exact Geocoder.escalate?_exceeded_iff he
    · rw [hi, makes_reverse_iff]
      exact Geocoder.escalate?_failed_iff he err

end

/-! ### What a run comes to -/

-- How credentials are read plays no part here, and is slow to evaluate.
attribute [local irreducible] Database.Credentials.ofUrl

/-- The settings are read and the pool is opened, so that the request is made: with which settings and of which
geocoder, when, and in which state. -/
inductive Requested (w : Surroundings π σ C) (e : Environment) (i : Invocation) (now : Instant) (outside : π × σ)
    (s : Settings) : Geocoder π (Traffic C × σ) → Instant → π × Traffic C × σ → Prop where
  | made (p : Plan) (pool : Pool C) (t : Instant) (database : σ)
      (hs : Settings.load w.files e i.settings = .ok s)
      (hc : w.connect? s now outside.2 = some (.ok (p, pool), t, database)) :
      Requested w e i now outside s (w.geocoder p) t (outside.1, .ofPool pool, database)

/-- The request is made under the deadline `d`. -/
def Asks (w : Surroundings π σ C) (e : Environment) (i : Invocation) (now : Instant) (outside : π × σ)
    (g : Geocoder π (Traffic C × σ)) (d : Deadline) (t : Instant) (state : π × Traffic C × σ) : Prop :=
  ∃ s, Requested w e i now outside s g t state ∧ IsDeadline s i.request.timeout t d

/-- Something other than a deadline goes wrong. -/
inductive Fails (w : Surroundings π σ C) (e : Environment) (i : Invocation) (now : Instant) (outside : π × σ) : Prop where
  | settings (err : SettingsError) (h : Settings.load w.files e i.settings = .error err)
  | connection (s : Settings) (err : ConnectError) (t : Instant) (database : σ)
      (hs : Settings.load w.files e i.settings = .ok s) (hc : w.connect? s now outside.2 = some (.error err, t, database))
  | timeout (s : Settings) (g : Geocoder π (Traffic C × σ)) (t : Instant) (state : π × Traffic C × σ)
      (hr : Requested w e i now outside s g t state) (seconds : Float) (err : Duration.Error)
      (hgiven : i.request.timeout = some seconds) (h : Duration.ofFloat seconds = .error err)
  | call (g : Geocoder π (Traffic C × σ)) (t : Instant) (state : π × Traffic C × σ) (d : Deadline) (err : Database.Error)
      (ha : Asks w e i now outside g d t state) (h : Makes g d t state (FailsWith d err) i.request)

variable {g : Geocoder π (Traffic C × σ)} {s : Settings} {state : π × Traffic C × σ}

theorem Requested.carries (h : Requested w e i now outside s g t state) : s.Carries g.options := by
  obtain ⟨p, pool, t, database, hs, hc⟩ := h
  exact Settings.carries_of_validate (Settings.eq_of_plan (Surroundings.plan_of_connect? hc)).1

theorem Requested.run? (h : Requested w e i now outside s g t state) : run? w e i now outside =
    (request? g i t state).map fun (report, later, service, _, database) => (report, later, service, database) := by
  obtain ⟨p, pool, t, database, hs, hc⟩ := h
  simp only [CommandLine.run?, hs, hc, Option.bind_eq_bind, Option.bind_some]
  cases request? (w.geocoder p) i t (outside.1, .ofPool pool, database) <;> rfl

theorem Requested.request? (h : Requested w e i now outside s g t state)
    (hr : CommandLine.run? w e i now outside = some (report, later, left)) :
    ∃ state', CommandLine.request? g i t state = some (report, later, state') := by
  rw [h.run?] at hr
  obtain ⟨⟨report', later', state'⟩, hq, he⟩ := Option.map_eq_some_iff.mp hr
  obtain ⟨rfl, rfl, -⟩ : report' = report ∧ later' = later ∧ (state'.1, state'.2.2) = left := by simpa using he
  exact ⟨state', hq⟩

theorem requested_or_of_run? (h : CommandLine.run? w e i now outside = some (report, later, left)) :
    (∃ err, Settings.load w.files e i.settings = .error err) ∨
    (∃ s err t database, Settings.load w.files e i.settings = .ok s ∧
      w.connect? s now outside.2 = some (.error err, t, database)) ∨
    ∃ s g t state, Requested w e i now outside s g t state := by
  unfold CommandLine.run? at h
  cases hs : Settings.load w.files e i.settings with
  | error err => exact .inl ⟨err, rfl⟩
  | ok s =>
    rw [hs] at h
    obtain ⟨⟨connected, t, database⟩, hc, h⟩ := Option.bind_eq_some_iff.mp h
    cases connected with
    | error err => exact .inr (.inl ⟨s, err, t, database, rfl, hc⟩)
    | ok opened => exact .inr (.inr ⟨s, _, _, _, .made opened.1 opened.2 t database hs hc⟩)

theorem Asks.tells (h : Asks w e i now outside g d t state)
    (hr : CommandLine.run? w e i now outside = some (report, later, left)) : Tells g i d t state report := by
  obtain ⟨s, hq, hd⟩ := h
  obtain ⟨state', ha⟩ := hq.request? hr
  simp only [CommandLine.request?, (deadline?_eq_some_iff hq.carries ..).mpr hd] at ha
  exact tells_of_answer? ha

/-- The request is answered with `text`. -/
def Succeeds (w : Surroundings π σ C) (e : Environment) (i : Invocation) (now : Instant) (outside : π × σ)
    (text : String) : Prop :=
  ∃ g d t state, Asks w e i now outside g d t state ∧ Answered g d t state i.json i.request text

/-- One of the calls of the store that the request makes is not done by the deadline of the request. -/
def IsCutOff (w : Surroundings π σ C) (e : Environment) (i : Invocation) (now : Instant) (outside : π × σ) : Prop :=
  ∃ g d t state, Asks w e i now outside g d t state ∧ Makes g d t state (Outlives d) i.request

/-- The clock does not get as far as the deadline of the request. -/
def Overflows (w : Surroundings π σ C) (e : Environment) (i : Invocation) (now : Instant) (outside : π × σ) : Prop :=
  ∃ s g t state, Requested w e i now outside s g t state ∧ IsBeyondClock s i.request.timeout t

section

variable (hr : CommandLine.run? w e i now outside = some (report, later, left))
include hr

theorem eq_printed {text : String} (h : Succeeds w e i now outside text) : report = .printed text := by
  obtain ⟨g, d, t, state, hask, ha⟩ := h
  exact ((hask.tells hr).printed_iff text).mpr ha

theorem eq_exceeded (h : IsCutOff w e i now outside) : report = .failed .exceeded := by
  obtain ⟨g, d, t, state, hask, hm⟩ := h
  exact (hask.tells hr).exceeded_iff.mpr hm

theorem eq_overflow (h : Overflows w e i now outside) : report = .overflow := by
  obtain ⟨s, g, t, state, hq, hb⟩ := h
  obtain ⟨state', ha⟩ := hq.request? hr
  simp only [CommandLine.request?, (deadline?_eq_none_iff hq.carries ..).mpr hb] at ha
  exact (congrArg Prod.fst (Option.some.inj ha)).symm

theorem eq_failed (h : Fails w e i now outside) : ∃ f, report = .failed f ∧ f.status = 1 := by
  cases h with
  | settings err hs =>
    simp only [CommandLine.run?, hs] at hr
    exact ⟨_, (congrArg Prod.fst (Option.some.inj hr)).symm, rfl⟩
  | connection s err t database hs hc =>
    simp only [CommandLine.run?, hs, hc] at hr
    refine ⟨_, (congrArg Prod.fst (Option.some.inj hr)).symm, ?_⟩
    cases err <;> rfl
  | timeout s g t state hq seconds err hgiven hf =>
    obtain ⟨state', ha⟩ := hq.request? hr
    simp only [CommandLine.request?, hgiven, deadline?_refused g hf] at ha
    exact ⟨_, (congrArg Prod.fst (Option.some.inj ha)).symm, rfl⟩
  | call g t state d err hask hm => exact ⟨_, ((hask.tells hr).failed_iff err).mpr hm, rfl⟩

/-- A run ends in one of four ways. -/
theorem run?_cases : (∃ text, Succeeds w e i now outside text) ∨ IsCutOff w e i now outside ∨
    Fails w e i now outside ∨ Overflows w e i now outside := by
  obtain ⟨err, hs⟩ | ⟨s, err, t, database, hs, hc⟩ | ⟨s, g, t, state, hq⟩ := requested_or_of_run? hr
  · exact .inr (.inr (.inl (.settings err hs)))
  · exact .inr (.inr (.inl (.connection s err t database hs hc)))
  · cases hd : deadline? g i.request.timeout t with
    | error f =>
      obtain ⟨seconds, err, hgiven, hf, -⟩ := (deadline?_eq_error_iff hq.carries ..).mp hd
      exact .inr (.inr (.inl (.timeout s g t state hq seconds err hgiven hf)))
    | ok deadline =>
      cases deadline with
      | none => exact .inr (.inr (.inr ⟨s, g, t, state, hq, (deadline?_eq_none_iff hq.carries ..).mp hd⟩))
      | some d =>
        have hask : Asks w e i now outside g d t state := ⟨s, hq, (deadline?_eq_some_iff hq.carries ..).mp hd⟩
        have ht := hask.tells hr
        obtain ⟨text, ho⟩ | ho | ⟨err, ho⟩ := ht.cases
        · exact .inl ⟨text, g, d, t, state, hask, (ht.printed_iff text).mp ho⟩
        · exact .inr (.inl ⟨g, d, t, state, hask, ht.exceeded_iff.mp ho⟩)
        · exact .inr (.inr (.inl (.call g t state d err hask ((ht.failed_iff err).mp ho))))

end

/-! ### When a run ends -/

/-- What is asked under a deadline that passes is answered or cut off; without one, an answer comes if all that is asked
is answered some day. -/
theorem exists_answer? {p : Plan} (hserver : Responds w.server)
    (hends : d.expiry ≠ none ∨ (∀ conn q s, (w.server.query conn q s).Ends) ∧ ∀ r s, (w.service.send r s).work ≠ .never)
    (i : Invocation) (t : Instant) (hquiet : Traffic.Quiet state.2.1) :
    ∃ report later left, answer? (w.geocoder p) i d t state = some (report, later, left) := by
  let b := w.server.backend p.session
  have hcall : ∀ {α : Type} (q : Sql.Statement) (read : List Database.Row → Except Database.Error α)
      (s : Traffic C × σ) (now : Instant), Traffic.Quiet s.1 →
      ∃ o later s', (b.call q read s).within? d now = some (o, later, s') ∧ Traffic.Quiet s'.1 := by
    intro α q read s now hs
    have hb : d.expiry ≠ none ∨ (b.call q read s).Ends := by
      refine hends.imp_right fun h => Backend.Ends.call ⟨?_, h.1⟩ hs q read s.2
      exact hserver.openSession p.session
    obtain ⟨o, later, s', hw⟩ := Attempt.exists_within? hb now
    exact ⟨o, later, s', hw, Backend.quiet_of_call hs hw⟩
  unfold answer?
  cases i.request with
  | forward f =>
    obtain ⟨⟨address, t', service⟩, hsplit⟩ : ∃ x, (w.geocoder p).splitter.split? f.query d t state.1 = some x := by
      refine Option.ne_none_iff_exists'.mp fun hn => ?_
      obtain ⟨hd, hw⟩ := Service.split?_eq_none_iff.mp hn
      obtain h | h := hends
      · exact h hd
      · exact h.2 _ _ hw
    let q := Search.build (w.geocoder p).options.tables address (f.centre.map (·.toProjected))
      (w.geocoder p).options.searchLimit
    obtain ⟨o, later, s', hw, -⟩ := hcall q.statement (Database.candidates q.hasCentre) state.2 t' hquiet
    have hf := Geocoder.forward?_eq (g := w.geocoder p) f.country hsplit hw
    exact ⟨_, later, (service, s'), congrArg (Option.bind · _) hf⟩
  | reverse f =>
    let limit := f.limit.getD (w.geocoder p).options.ringLimit
    obtain ⟨o, later, s', he⟩ := (Geocoder.exists_escalate? (fun s => Traffic.Quiet s.1)
      (fun r s now hs => hcall r.statement Database.buildings s now hs) (w.geocoder p).options.radii.toList t hquiet :
      ∃ o later s', (w.geocoder p).escalate? f.point.toProjected limit d _ t state.2 = some (o, later, s'))
    have hr : (w.geocoder p).reverse? f.point limit d t state = some (o, later, state.1, s') :=
      congrArg (Option.bind · _) he
    exact ⟨_, later, (state.1, s'), congrArg (Option.bind · _) hr⟩

/-- A request is made before any call is on its way. -/
theorem Requested.quiet (h : Requested w e i now outside s g t state) : Traffic.Quiet state.2.1 := by
  obtain ⟨p, pool, t, database, hs, hc⟩ := h
  have hp : s.plan w.files = .ok p := Surroundings.plan_of_connect? hc
  obtain ⟨hv, -, hsize⟩ := Settings.eq_of_plan hp
  have hpos : 0 < p.poolSize := hsize ▸ Settings.poolSize_pos hv
  obtain ⟨notes, r, -, ho, he⟩ := Surroundings.openings_of_connect? hp hpos hc
  cases r with
  | error err => cases he
  | ok conns =>
    obtain rfl := congrArg Prod.snd (Except.ok.inj he)
    have hl := (ho.all rfl).1
    rw [← hl] at hpos ⊢
    exact Traffic.quiet_new hpos

/-- A run ends if connections are answered for and a deadline passes, or else if all that is asked is answered. -/
theorem exists_run? (hserver : Responds w.server)
    (hends : ∀ g d t state, Asks w e i now outside g d t state → d.expiry ≠ none ∨
      (∀ conn q s, (w.server.query conn q s).Ends) ∧ ∀ r s, (w.service.send r s).work ≠ .never) :
    ∃ report later left, CommandLine.run? w e i now outside = some (report, later, left) := by
  cases hs : Settings.load w.files e i.settings with
  | error err => exact ⟨.failed (.settings err), now, outside, by simp only [CommandLine.run?, hs]⟩
  | ok s =>
    obtain ⟨result, t, database, hc⟩ := Surroundings.exists_connect? hserver s now outside.2
    cases result with
    | error err => exact ⟨.failed (.ofConnect err), t, (outside.1, database), by simp only [CommandLine.run?, hs, hc]; rfl⟩
    | ok opened =>
      have hq : Requested w e i now outside s _ _ _ := .made opened.1 opened.2 t database hs hc
      have hrequest : ∃ report later left, request? (w.geocoder opened.1) i t (outside.1, .ofPool opened.2, database) =
          some (report, later, left) := by
        unfold request?
        cases hd : deadline? (w.geocoder opened.1) i.request.timeout t with
        | error f => exact ⟨_, _, _, rfl⟩
        | ok deadline =>
          cases deadline with
          | none => exact ⟨_, _, _, rfl⟩
          | some d =>
            have hask : Asks w e i now outside _ d t _ := ⟨s, hq, (deadline?_eq_some_iff hq.carries ..).mp hd⟩
            exact exists_answer? hserver (hends _ d t _ hask) i t hq.quiet
      obtain ⟨report, later, state', hr⟩ := hrequest
      exact ⟨report, later, (state'.1, state'.2.2), hq.run?.trans (congrArg (Option.map _) hr)⟩

/-- The exit status of a run is 0 exactly if the request has been answered, be it with nothing, 2 exactly if a call of
the store has not been done by the deadline, and 1 exactly if anything else has gone wrong, unless the clock does not get
as far as the deadline. The answer is printed, and else nothing is. -/
theorem run?_status (w : Surroundings π σ C) (e : Environment) (i : Invocation) (now : Instant) (outside : π × σ) :
    (Responds w.server → (∀ g d t state, Asks w e i now outside g d t state → d.expiry ≠ none ∨
        (∀ conn q s, (w.server.query conn q s).Ends) ∧ ∀ r s, (w.service.send r s).work ≠ .never) →
      ∃ report later left, CommandLine.run? w e i now outside = some (report, later, left)) ∧
    ∀ report later left, CommandLine.run? w e i now outside = some (report, later, left) →
      (report.status = 0 ↔ ∃ text, Succeeds w e i now outside text) ∧
      (∀ text, Succeeds w e i now outside text → report.output = text) ∧
      (report.status = 2 ↔ IsCutOff w e i now outside) ∧
      (report.status = 1 ↔ Fails w e i now outside) ∧
      (report.status = 101 ↔ Overflows w e i now outside) ∧
      (¬ Overflows w e i now outside → report.status = 0 ∨ report.status = 2 ∨ report.status = 1) ∧
      (report.status ≠ 0 → report.output = "") := by
  refine ⟨exists_run?, fun report later left hr => ?_⟩
  have hprinted : ∀ text, Succeeds w e i now outside text → report = .printed text := fun _ => eq_printed hr
  have hzero : ∀ text, Succeeds w e i now outside text → report.status = 0 := by
    intro text h
    rw [hprinted text h]
    rfl
  have htwo : IsCutOff w e i now outside → report.status = 2 := by
    intro h
    rw [eq_exceeded hr h]
    rfl
  have hone : Fails w e i now outside → report.status = 1 := by
    intro h
    obtain ⟨f, rfl, hf⟩ := eq_failed hr h
    exact hf
  have hbeyond : Overflows w e i now outside → report.status = 101 := by
    intro h
    rw [eq_overflow hr h]
    rfl
  -- The four ways are told apart by their statuses, and there is no fifth.
  have hcases := run?_cases hr
  refine ⟨⟨?_, fun ⟨text, h⟩ => hzero text h⟩, ?_, ⟨?_, htwo⟩, ⟨?_, hone⟩, ⟨?_, hbeyond⟩, ?_, ?_⟩
  · grind
  · intro text h
    rw [hprinted text h]
    rfl
  · grind
  · grind
  · grind
  · grind
  · intro hn
    cases report with
    | printed text => exact absurd rfl hn
    | failed f => rfl
    | overflow => rfl

/-- A settings file, for a pool of one session. -/
def smallSettings : String :=
  "postal_service_url = \"http://[::1]:80\"\n[tables]\nbuildings = \"b\"\npostcode = \"p\"\nadmin = \"a\"\n" ++
    "[database]\nurl = \"postgres://o:o@d/o\"\npool_size = 1\n"

theorem load_smallSettings : ∃ s o c, Settings.load (fun _ => .ok smallSettings) ⟨none, none⟩ "" = .ok s ∧
    s.validate = .ok o ∧ s.templates = none ∧ s.database.poolSize = 1 ∧
    Database.credentials s.database.url = .ok c := by
  have hall : ((Settings.load (fun _ => .ok smallSettings) ⟨none, none⟩ "").bind fun s =>
      s.validate.map fun _ => (s.templates, s.database.poolSize, (Database.credentials s.database.url).isOk)).toOption =
        some (none, 1, true) := by
    decide +kernel
  cases hs : Settings.load (fun _ => .ok smallSettings) ⟨none, none⟩ "" with
  | error err =>
    rw [hs] at hall
    cases hall
  | ok s =>
    rw [hs] at hall
    cases hv : s.validate with
    | error err => simp [Except.bind, hv, Except.map, Except.toOption] at hall
    | ok o =>
      obtain ⟨ht, hsize, hc⟩ : s.templates = none ∧ s.database.poolSize = 1 ∧
          (Database.credentials s.database.url).isOk = true := by
        simpa [Except.bind, hv, Except.map, Except.toOption] using hall
      cases hc' : Database.credentials s.database.url with
      | error err => simp [hc', Except.isOk, Except.toBool] at hc
      | ok c => exact ⟨s, o, c, rfl, hv, ht, hsize, hc'⟩

/-- A run whose server does not answer for the first ring. It is cut off after one second. -/
theorem run?_status_cutOff :
    let w : Surroundings Unit Unit Unit := ⟨fun _ => .ok smallSettings, ⟨fun _ _ => ⟨.ready, none, (), ()⟩⟩,
      ⟨fun _ s => .ended (.ok ()) s, fun _ _ s => .ended (.ok ()) s, fun _ _ s => .waits .never s (.ended (.ok []) s)⟩⟩
    let i : Invocation := ⟨"", false, .reverse ⟨⟨48.5, 9.0⟩, none, some 1.0⟩⟩
    ∃ report later left, CommandLine.run? w ⟨none, none⟩ i ⟨0⟩ ((), ()) = some (report, later, left) ∧
      report.status = 2 ∧ report.output = "" := by
  intro w i
  obtain ⟨s, o, c, hs, hv, ht, hsize, hc⟩ := load_smallSettings
  obtain ⟨url, hp⟩ := Settings.plan_of_valid hv w.files
  have htemplate : s.template w.files = .ok .standard := by
    rw [Settings.template, ht]
  rw [htemplate, hsize] at hp
  let p : Plan := ⟨o, url, .standard, ⟨s.database.url, .ofSeconds s.database.statementTimeout⟩, 1⟩
  let pool : Pool Unit := ⟨1, 1, false, [()], [], [], [], [], [], []⟩
  have hconnect : w.connect? s ⟨0⟩ () = some (.ok (p, pool), ⟨0⟩, ()) := by
    have hpool : w.openPool p () = .ended (.ok pool) () := by
      show w.server.openPool ⟨s.database.url, .ofSeconds s.database.statementTimeout⟩ 1 () = _
      simp only [Database.Server.openPool, Database.Server.openSessions, Database.Server.openSession, hc]
      rfl
    rw [Surroundings.connect?_of_plan (p := p) hp, hpool]
    rfl
  have hseconds : Duration.ofFloat 1.0 = .ok ⟨tenTo 9⟩ := by decide +kernel
  have hask : Asks w ⟨none, none⟩ i ⟨0⟩ ((), ()) (w.geocoder p) ⟨some ⟨tenTo 9⟩⟩ ⟨0⟩ _ :=
    ⟨s, .made p _ _ _ hs hconnect, .inr ⟨_, .given 1.0 _ hseconds, by decide, rfl⟩⟩
  have hcut : IsCutOff w ⟨none, none⟩ i ⟨0⟩ ((), ()) := by
    obtain ⟨radius, radii, hradii⟩ : ∃ radius radii, o.radii.toList = radius :: radii :=
      List.exists_cons_of_ne_nil o.radii.ne_nil
    refine ⟨_, _, _, _, hask, .nearby _ radius ⟨0⟩ (.ofPool pool, ()) ?_ ?_⟩
    · show Geocoder.LooksAt _ _ _ _ o.radii.toList _ _ _ _ _
      rw [hradii]
      exact .here ..
    · intro hi
      obtain ⟨answer, finish, st, hn, -⟩ := hi
      cases hn
  have hserver : Responds w.server := ⟨fun _ _ => trivial, fun _ _ _ => trivial⟩
  obtain ⟨hrun, hstatus⟩ := run?_status w ⟨none, none⟩ i ⟨0⟩ ((), ())
  have hexpiry : ∀ g d t state, Asks w ⟨none, none⟩ i ⟨0⟩ ((), ()) g d t state → d.expiry ≠ none := by
    rintro g d t state ⟨s', -, ⟨hnone, -⟩ | ⟨length, -, -, rfl⟩⟩
    · cases hnone
    · exact Option.some_ne_none _
  obtain ⟨report, later, left, hr⟩ := hrun hserver fun g d t state ha => .inl (hexpiry g d t state ha)
  obtain ⟨-, -, htwo, -, -, -, hsilent⟩ := hstatus report later left hr
  have hst : report.status = 2 := htwo.mpr hcut
  exact ⟨report, later, left, hr, hst, hsilent (by rw [hst]; decide)⟩

end Geocoding.CommandLine
