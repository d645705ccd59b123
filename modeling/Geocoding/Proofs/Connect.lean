import Geocoding.Connect
import Geocoding.Proofs.Database.Sessions
import Geocoding.Proofs.Settings.Checks

/-!
# Connecting

Nothing is connected to before the settings have been checked and the templates have been read. Then the sessions of
the pool are opened in turn, and all of them or none are had.
-/

namespace Geocoding

open Database (Note Openings Responds Serves SessionsOnly limitStatement)

variable {π σ C : Type} {files : Files} {p : Plan} {now later : Instant}

/-! ### Plans -/

namespace Settings

variable {s : Settings} {o : Options}

theorem plan_of_invalid {e : SettingsError} (h : s.validate = .error e) : s.plan files = .error e := by
  rw [plan, h]
  rfl

/-- The template that settings choose. -/
def template (s : Settings) (files : Files) : Except SettingsError Template :=
  match s.templates with
  | some path => TemplateFile.load files path s.country
  | none => .ok .standard

theorem template_eq_error_iff (e : SettingsError) : s.template files = .error e ↔
    ∃ path, s.templates = some path ∧ TemplateFile.load files path s.country = .error e := by
  unfold template
  cases s.templates with
  | none => simp
  | some path => simp

theorem plan_of_valid (h : s.validate = .ok o) (files : Files) : ∃ url, s.plan files = (s.template files).map fun template =>
    ⟨o, url, template, ⟨s.database.url, .ofSeconds s.database.statementTimeout⟩, s.database.poolSize⟩ := by
  obtain ⟨⟨url, hu⟩, -⟩ := steps_of_validate h
  refine ⟨url, ?_⟩
  rw [plan, template, h, hu]
  cases s.templates with
  | none => rfl
  | some path =>
    show Except.bind (TemplateFile.load files path s.country) _ = (TemplateFile.load files path s.country).map _
    cases TemplateFile.load files path s.country with
    | error e => rfl
    | ok t => rfl

/-- There is no plan if a check or the reading of the templates fails, and only then. -/
theorem plan_eq_error_iff (e : SettingsError) : s.plan files = .error e ↔ s.validate = .error e ∨
    (∃ o, s.validate = .ok o) ∧ ∃ path, s.templates = some path ∧ TemplateFile.load files path s.country = .error e := by
  rw [← template_eq_error_iff]
  cases hv : s.validate with
  | error e' => simp [plan_of_invalid hv]
  | ok o =>
    obtain ⟨url, hp⟩ := plan_of_valid hv files
    rw [hp]
    cases s.template files with
    | error e' => simp [Except.map]
    | ok t => simp [Except.map]

theorem eq_of_plan (h : s.plan files = .ok p) : s.validate = .ok p.options ∧
    p.session = ⟨s.database.url, .ofSeconds s.database.statementTimeout⟩ ∧ p.poolSize = s.database.poolSize := by
  cases hv : s.validate with
  | error e =>
    rw [plan_of_invalid hv] at h
    cases h
  | ok o =>
    obtain ⟨url, hp⟩ := plan_of_valid hv files
    rw [hp] at h
    cases ht : s.template files with
    | error e =>
      rw [ht] at h
      cases h
    | ok t =>
      rw [ht] at h
      obtain rfl := Except.ok.inj h
      exact ⟨rfl, rfl, rfl⟩

theorem poolSize_pos (h : s.validate = .ok o) : 0 < s.database.poolSize := by
  have hall := s.follows_validate.ok_iff.mp ⟨o, h⟩
  exact hall (.requirement .poolSize) (by simp [checks])

end Settings

theorem Duration.milliseconds_ofSeconds (n : Nat) : (Duration.ofSeconds n).milliseconds = 1000 * n := by
  show n * tenTo 9 / tenTo 6 = 1000 * n
  have h9 : tenTo 9 = 1000 * tenTo 6 := by decide
  rw [h9, ← Nat.mul_assoc, Nat.mul_div_cancel _ (tenTo_pos 6), Nat.mul_comm]

/-- Statements are limited in milliseconds, to one at least. -/
theorem Database.limitStatement_ofSeconds (n : Nat) :
    limitStatement (.ofSeconds n) = "SET statement_timeout = " ++ Text.numeral (max 1 (1000 * n)) := by
  have hm : max (Duration.ofSeconds n).milliseconds 1 = max 1 (1000 * n) := by
    rw [Duration.milliseconds_ofSeconds, Nat.max_comm]
  unfold limitStatement
  rw [hm]

-- How credentials are read plays no part here, and is slow to evaluate.
attribute [local irreducible] Database.Credentials.ofUrl

namespace Surroundings

variable {w : Surroundings π σ C} {s : Settings}

/-- The same surroundings, whose server writes down what it is asked. -/
def recorded (w : Surroundings π σ C) : Surroundings π (σ × List (Note C)) C where
  files := w.files
  service := w.service
  server := w.server.recorded

theorem connect?_of_error {e : SettingsError} (h : s.plan w.files = .error e) (now : Instant) (outside : σ) :
    w.connect? s now outside = some (.error (.settings e), now, outside) := by
  simp only [connect?, h]

theorem connect?_of_plan (h : s.plan w.files = .ok p) (now : Instant) (outside : σ) :
    w.connect? s now outside = ((w.openPool p outside).wait? now).map fun (opened, later, left) =>
      ((opened.map (p, ·)).mapError .database, later, left) := by
  simp only [connect?, h]
  cases (w.openPool p outside).wait? now with
  | none => rfl
  | some x =>
    obtain ⟨opened, later, left⟩ := x
    cases opened <;> rfl

theorem plan_of_connect? {pool : Pool C} {outside left : σ}
    (h : w.connect? s now outside = some (.ok (p, pool), later, left)) : s.plan w.files = .ok p := by
  cases hp : s.plan w.files with
  | error err => simp [connect?_of_error hp] at h
  | ok p' =>
    rw [connect?_of_plan hp] at h
    obtain ⟨⟨opened, later', left'⟩, -, he⟩ := Option.map_eq_some_iff.mp h
    cases opened with
    | error err => simp [Except.map, Except.mapError] at he
    | ok pool' =>
      obtain ⟨⟨rfl, -⟩, -⟩ : (p' = p ∧ pool' = pool) ∧ later' = later ∧ left' = left := by
        simpa [Except.map, Except.mapError] using he
      rfl

/-- Connecting comes to what it would come to if the server kept no notes. -/
theorem connect?_recorded (w : Surroundings π σ C) (s : Settings) (now : Instant) (outside : σ)
    (notes : List (Note C)) : w.connect? s now outside =
      (w.recorded.connect? s now (outside, notes)).map fun (result, later, left) => (result, later, left.1) := by
  cases hp : s.plan w.files with
  | error e =>
    rw [connect?_of_error hp, connect?_of_error (w := w.recorded) hp]
    rfl
  | ok p =>
    have hseen : w.openPool p outside = (w.recorded.openPool p (outside, notes)).seen Prod.fst :=
      (Database.seen_openPool w.server p.session p.poolSize (outside, notes)).symm
    rw [connect?_of_plan hp, connect?_of_plan (w := w.recorded) hp, hseen, Attempt.wait?_seen, Option.map_map,
      Option.map_map]
    rfl

theorem exists_connect? (h : Responds w.server) (s : Settings) (now : Instant) (outside : σ) :
    ∃ result later left, w.connect? s now outside = some (result, later, left) := by
  cases hp : s.plan w.files with
  | error e => exact ⟨_, _, _, connect?_of_error hp now outside⟩
  | ok p =>
    have hw := Attempt.wait?_isSome_of_ends (h.openPool p.session p.poolSize outside) now
    obtain ⟨⟨opened, later, left⟩, ho⟩ := Option.isSome_iff_exists.mp hw
    refine ⟨(opened.map (p, ·)).mapError .database, later, left, ?_⟩
    rw [connect?_of_plan hp]
    exact congrArg (Option.map _) ho

/-- Connecting by a plan comes to what opening the sessions in turn comes to. -/
theorem openings_of_connect? {result : Except ConnectError (Plan × Pool C)} {outside left : σ}
    (hp : s.plan w.files = .ok p) (hpos : 0 < p.poolSize) (h : w.connect? s now outside = some (result, later, left)) :
    ∃ notes r, w.recorded.connect? s now (outside, []) = some (result, later, left, notes) ∧
      Openings p.session p.poolSize notes r ∧
      result = (r.map fun conns => (p, ⟨p.poolSize, p.poolSize, false, conns.reverse, [], [], [], [], [], []⟩)).mapError
        .database := by
  rw [connect?_recorded w s now outside []] at h
  obtain ⟨⟨result', later', left', notes⟩, hc, he⟩ := Option.map_eq_some_iff.mp h
  obtain ⟨rfl, rfl, rfl⟩ : result' = result ∧ later' = later ∧ left' = left := by simpa using he
  have hopened := hc
  rw [connect?_of_plan (w := w.recorded) hp] at hopened
  obtain ⟨⟨opened, t, st⟩, hw, he⟩ := Option.map_eq_some_iff.mp hopened
  obtain ⟨rfl, rfl, rfl⟩ : (opened.map (p, ·)).mapError ConnectError.database = result' ∧ t = later' ∧
    st = (left', notes) := by simpa using he
  obtain ⟨added, r, hadded, ho, rfl⟩ :=
    (Database.leaves_openPool w.server p.session p.poolSize outside [] hpos).wait? hw
  obtain rfl : notes = added := hadded
  refine ⟨notes, r, hc, ho, ?_⟩
  cases r with
  | ok conns => rfl
  | error e => rfl

/-- What is had when all sessions of a pool have been opened. -/
structure Connected (w : Surroundings π σ C) (p : Plan) (left : σ) (notes : List (Note C)) (conns : List C)
    (pool : Pool C) : Prop where
  length : conns.length = p.poolSize
  opened : ∀ conn ∈ conns, Database.Opened p.session notes conn
  size : pool.size = p.poolSize
  available : pool.permits = p.poolSize
  idle : pool.idle = conns.reverse
  /-- Whatever happens to the pool, it hands out what it began with or what has been opened for it. -/
  handed : ∀ es q t l, pool.run? es = some q → q.lease? t = some l → l.conn ∈ conns ++ Pool.openedBy es
  /-- Whatever calls there are, the connections that they get are sessions. -/
  served : ∀ state, Serves (w.server.backend p.session) (.ofPool pool, left) state →
    ∃ notes', Serves (w.recorded.server.backend p.session) (.ofPool pool, left, notes) (state.1, state.2, notes') ∧
      SessionsOnly p.session (state.1, state.2, notes')

theorem connected_of_openings {n : Nat} {conns : List C} {notes : List (Note C)} (hn : p.poolSize = n)
    (h : Openings p.session n notes (.ok conns)) (w : Surroundings π σ C) (left : σ) :
    Connected w p left notes conns ⟨n, n, false, conns.reverse, [], [], [], [], [], []⟩ := by
  obtain ⟨hl, ho⟩ := h.all rfl
  subst hn
  have hw := Pool.wellFormed_new conns
  rw [hl] at hw
  refine ⟨hl, ho, rfl, rfl, rfl, fun es q t l hq ht => ?_, fun state hs => ?_⟩
  · have hm : l.conn ∈ q.known := by
      have hlease := (Pool.mem_leased_iff (hw.run? hq) l.conn).mpr ⟨t, l, ht, rfl⟩
      exact List.mem_append_left _ (List.mem_append_right _ hlease)
    simpa [Pool.known, Pool.leased] using (Pool.known_perm_run? hw hq).mem_iff.mp hm
  · obtain ⟨notes', hs'⟩ := hs.recorded notes
    refine ⟨notes', hs', SessionsOnly.serves ⟨⟨hw, fun _ => rfl⟩, fun conn hc => ?_, ?_⟩ hs'⟩
    · have hc : conn ∈ conns := by simpa [Pool.known, Pool.leased, Traffic.ofPool] using hc
      exact ho conn hc
    · exact Database.asked_nil.append_of_not_mem h.query_not_mem

/-- Nothing is asked of the server unless the settings pass their checks and the template file, if there is one, can be
read. Then sessions are opened in turn, as many as the pool is to have, up to the first that cannot be opened; its error
is what connecting comes to, and else there is a pool of all of them. Each is opened with the credentials that are
before the first question mark of the URL, and limited by its first statement, whose milliseconds have room in 128
bits. The connections that the pool hands out, at first and whenever discarded ones have been replaced, have been opened
in this very way. -/
theorem connect?_opens_sessions (w : Surroundings π σ C) (s : Settings) (now : Instant) (outside : σ) :
    (∀ e, s.plan w.files = .error e ↔ s.validate = .error e ∨ (∃ o, s.validate = .ok o) ∧
      ∃ path, s.templates = some path ∧ TemplateFile.load w.files path s.country = .error e) ∧
    (∀ e, s.plan w.files = .error e →
      w.recorded.connect? s now (outside, []) = some (.error (.settings e), now, outside, [])) ∧
    (Responds w.server → ∃ result later left, w.connect? s now outside = some (result, later, left)) ∧
    ∀ p, s.plan w.files = .ok p →
      (s.validate = .ok p.options ∧ p.session.url = s.database.url ∧ p.poolSize = s.database.poolSize) ∧
      (limitStatement p.session.statementTimeout =
          "SET statement_timeout = " ++ Text.numeral (max 1 (1000 * s.database.statementTimeout)) ∧
        (s.database.statementTimeout < twoTo 64 → max 1 (1000 * s.database.statementTimeout) < twoTo 128)) ∧
      (∀ result later left, w.connect? s now outside = some (result, later, left) →
        ∃ notes r, w.recorded.connect? s now (outside, []) = some (result, later, left, notes) ∧
          Openings p.session p.poolSize notes r ∧ notes.countP Note.isConnect ≤ p.poolSize ∧
          (∀ e, r = .error e → result = .error (.database e)) ∧
          ∀ conns, r = .ok conns → ∃ pool, result = .ok (p, pool) ∧ Connected w p left notes conns pool) ∧
      ∀ d t state x later state',
        ((w.recorded.server.backend p.session).connect state).within? d t = some (x, later, state') →
          ∃ added, state'.2 = state.2 ++ added ∧ Database.Opening p.session added x := by
  refine ⟨Settings.plan_eq_error_iff, fun e he => connect?_of_error (w := w.recorded) he now _,
    fun h => exists_connect? h s now outside, fun p hp => ?_⟩
  obtain ⟨hv, hsession, hsize⟩ := Settings.eq_of_plan hp
  refine ⟨⟨hv, by rw [hsession], hsize⟩, ⟨?_, fun hlt => ?_⟩, fun result later left hr => ?_,
    fun d t state x later state' hx => Database.opening_within? hx⟩
  · rw [hsession]
    exact Database.limitStatement_ofSeconds _
  · have h64 : twoTo 64 * 1000 < twoTo 128 := by decide
    have h1 : 1 < twoTo 128 := by decide
    omega
  · obtain ⟨notes, r, hc, ho, rfl⟩ := openings_of_connect? hp (hsize ▸ Settings.poolSize_pos hv) hr
    refine ⟨notes, r, hc, ho, ho.connects_le, ?_, ?_⟩
    · rintro e rfl
      rfl
    · rintro conns rfl
      exact ⟨_, rfl, connected_of_openings rfl ho w left⟩

theorem credentials_sample : ∃ c, Database.credentials Settings.sample.database.url = .ok c := by
  have hok : (Database.Credentials.ofUrl (Database.withoutQuery Settings.sample.database.url)).isOk = true := by
    decide +kernel
  unfold Database.credentials
  cases h : Database.Credentials.ofUrl (Database.withoutQuery Settings.sample.database.url) with
  | ok c => exact ⟨c, rfl⟩
  | error e =>
    rw [h] at hok
    cases hok

/-- Two sessions are opened. One is discarded, and the third takes its place. -/
theorem connect?_opens_sessions_reopening :
    let w : Surroundings Unit Nat Nat := ⟨fun _ => .error .notFound, ⟨fun _ _ => ⟨.ready, none, (), ()⟩⟩,
      ⟨fun _ n => .ended (.ok n) (n + 1), fun _ _ n => .ended (.ok ()) n, fun _ _ n => .ended (.ok []) n⟩⟩
    ∃ p pool notes, Settings.sample.plan w.files = .ok p ∧
      w.connect? Settings.sample ⟨0⟩ 0 = some (.ok (p, pool), ⟨0⟩, 2) ∧ Openings p.session 2 notes (.ok [0, 1]) ∧
      ∃ q l, pool.run? [.acquire 0, .take 0, .begin 0 0, .abandon 0 0, .release 0, .acquire 1, .take 1, .acquire 2,
          .take 2, .opened 2 2] = some q ∧
        q.lease? 2 = some l ∧ l.conn = 2 ∧ l.conn ∈ [0, 1] ++ [2] := by
  intro w
  obtain ⟨o, ho⟩ := Settings.sample_accepted
  obtain ⟨url, hp⟩ := Settings.plan_of_valid ho w.files
  let p : Plan := ⟨o, url, .standard, ⟨Settings.sample.database.url, .ofSeconds 0⟩, 2⟩
  have hpool : w.openPool p 0 = .ended (.ok ⟨2, 2, false, [1, 0], [], [], [], [], [], []⟩) 2 := by
    obtain ⟨c, hc⟩ := credentials_sample
    show w.server.openPool ⟨Settings.sample.database.url, .ofSeconds 0⟩ 2 0 = _
    simp only [Database.Server.openPool, Database.Server.openSessions, Database.Server.openSession, hc]
    rfl
  have hconnect : w.connect? Settings.sample ⟨0⟩ 0 = _ := connect?_of_plan (p := p) hp ⟨0⟩ 0
  rw [hpool] at hconnect
  obtain ⟨notes, r, -, hopen, -, herror, hpool⟩ :=
    ((connect?_opens_sessions w Settings.sample ⟨0⟩ 0).2.2.2 p hp).2.2.1 _ _ _ hconnect
  cases r with
  | error e => cases herror e rfl
  | ok conns =>
    obtain ⟨pool, hr, hc⟩ := hpool conns rfl
    obtain rfl : _ = pool := congrArg Prod.snd (Except.ok.inj hr)
    obtain rfl : [0, 1] = conns := List.reverse_injective hc.idle
    have hrun : Pool.run? ⟨2, 2, false, [1, 0], [], [], [], [], [], []⟩ [.acquire 0, .take 0, .begin 0 0,
        .abandon 0 0, .release 0, .acquire 1, .take 1, .acquire 2, .take 2, .opened 2 2] =
      some ⟨2, 0, false, [], [], [], [], [], [(2, ⟨2, false, []⟩), (1, ⟨0, false, []⟩)], [1]⟩ := rfl
    exact ⟨p, _, notes, hp, hconnect, hopen, _, ⟨2, false, []⟩, hrun, rfl, rfl, hc.handed _ _ 2 _ hrun rfl⟩

end Surroundings

end Geocoding
