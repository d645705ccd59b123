import Geocoding.CommandLine.Run
import Geocoding.Proofs.Geocoder.Recording
import Geocoding.Proofs.Settings.Checks

/-!
# The deadline of a request

Every timeout that is accepted says how long a request may take, but the clock may not get as far as the deadline.
Nothing that is checked before keeps that from happening; it happens exactly where the sum is beyond the clock.
-/

namespace Geocoding

/-! ### Instants that do not exist -/

theorem Instant.later?_eq_none_iff (now : Instant) (length : Duration) :
    now.later? length = none ↔ Instant.bound ≤ now.nanoseconds + length.nanoseconds := by
  unfold Instant.later?
  split
  · next h => exact ⟨nofun, fun hn => absurd h (Nat.not_lt.mpr hn)⟩
  · next h => exact ⟨fun _ => Nat.not_lt.mp h, fun _ => rfl⟩

theorem Deadline.after?_eq_none_iff (now : Instant) (length : Duration) :
    Deadline.after? now length = .none ↔ Instant.bound ≤ now.nanoseconds + length.nanoseconds := by
  rw [after?, Option.map_eq_none_iff, Instant.later?_eq_none_iff]

theorem Deadline.after?_eq_some_iff (now : Instant) (length : Duration) (d : Deadline) :
    Deadline.after? now length = some d ↔
      now.nanoseconds + length.nanoseconds < Instant.bound ∧ d = .ofInstant (now.later length) := by
  unfold after? Instant.later?
  split
  · next h => exact ⟨fun hd => ⟨h, (Option.some.inj hd).symm⟩, fun hd => congrArg some hd.2.symm⟩
  · next h => exact ⟨nofun, fun hd => absurd hd.1 h⟩

/-- Only the whole seconds count. -/
theorem Instant.bound_le_add_ofSeconds_iff (now : Instant) (n : Nat) :
    Instant.bound ≤ now.nanoseconds + (Duration.ofSeconds n).nanoseconds ↔
      twoTo 63 ≤ now.nanoseconds / tenTo 9 + n := by
  have hpos : 0 < tenTo 9 := tenTo_pos 9
  show twoTo 63 * tenTo 9 ≤ now.nanoseconds + n * tenTo 9 ↔ _
  rw [← Nat.le_div_iff_mul_le hpos, Nat.add_mul_div_right _ _ hpos]

namespace CommandLine

variable {π σ : Type} {g : Geocoder π σ} {s : Settings} {timeout : Option Float} {now : Instant}
  {length : Duration} {d : Deadline} {e : Failure}

/-- How long a request may take: as long as its timeout says, or else as the settings say. -/
inductive TimeLimit (s : Settings) : Option Float → Duration → Prop where
  | given (seconds : Float) (length : Duration) (h : Duration.ofFloat seconds = .ok length) :
      TimeLimit s (some seconds) length
  | configured (h : s.requestTimeout ≠ 0) : TimeLimit s none (.ofSeconds s.requestTimeout)

/-- A request is limited, or it chooses no timeout and the settings have none, or its timeout is refused. -/
theorem timeLimit_or (s : Settings) (timeout : Option Float) :
    (∃ length, TimeLimit s timeout length) ∨ timeout = none ∧ s.requestTimeout = 0 ∨
      ∃ seconds err, timeout = some seconds ∧ Duration.ofFloat seconds = .error err := by
  cases timeout with
  | none =>
    by_cases hz : s.requestTimeout = 0
    · exact .inr (.inl ⟨rfl, hz⟩)
    · exact .inl ⟨_, .configured hz⟩
  | some seconds =>
    cases h : Duration.ofFloat seconds with
    | ok length => exact .inl ⟨length, .given seconds length h⟩
    | error err => exact .inr (.inr ⟨seconds, err, rfl, h⟩)

theorem deadline?_of_timeLimit (hc : s.Carries g.options) (h : TimeLimit s timeout length) (now : Instant) :
    deadline? g timeout now = .ok (Deadline.after? now length) := by
  cases h with
  | given seconds length h => simp only [deadline?, h]
  | configured hz =>
    cases ht : g.options.requestTimeout with
    | none => exact absurd (hc.timeout_none_iff.mp ht) hz
    | some t =>
      obtain rfl := hc.timeout_eq t ht
      simp only [deadline?, Geocoder.defaultDeadline?, ht]

theorem deadline?_unlimited (hc : s.Carries g.options) (hz : s.requestTimeout = 0) (now : Instant) :
    deadline? g none now = .ok (some .none) := by
  simp only [deadline?, Geocoder.defaultDeadline?, hc.timeout_none_iff.mpr hz]

theorem deadline?_refused (g : Geocoder π σ) {seconds : Float} {err : Duration.Error}
    (h : Duration.ofFloat seconds = .error err) (now : Instant) :
    deadline? g (some seconds) now = .error (.timeout seconds err) := by
  simp only [deadline?, h]

theorem deadline?_cases (hc : s.Carries g.options) (timeout : Option Float) (now : Instant) :
    (∃ length, TimeLimit s timeout length ∧ deadline? g timeout now = .ok (Deadline.after? now length)) ∨
      (timeout = none ∧ s.requestTimeout = 0 ∧ deadline? g timeout now = .ok (some .none)) ∨
      ∃ seconds err, timeout = some seconds ∧ Duration.ofFloat seconds = .error err ∧
        deadline? g timeout now = .error (.timeout seconds err) := by
  obtain ⟨length, h⟩ | ⟨rfl, hz⟩ | ⟨seconds, err, rfl, h⟩ := timeLimit_or s timeout
  · exact .inl ⟨length, h, deadline?_of_timeLimit hc h now⟩
  · exact .inr (.inl ⟨rfl, hz, deadline?_unlimited hc hz now⟩)
  · exact .inr (.inr ⟨seconds, err, rfl, h, deadline?_refused g h now⟩)

/-- The deadline of a request that is made at `now`: none at all where nothing limits it, or else the end of its time
limit, which the clock gets as far as. -/
def IsDeadline (s : Settings) (timeout : Option Float) (now : Instant) (d : Deadline) : Prop :=
  timeout = none ∧ s.requestTimeout = 0 ∧ d = .none ∨
    ∃ length, TimeLimit s timeout length ∧ now.nanoseconds + length.nanoseconds < Instant.bound ∧
      d = .ofInstant (now.later length)

/-- The clock does not get as far as the end of the time limit. -/
def IsBeyondClock (s : Settings) (timeout : Option Float) (now : Instant) : Prop :=
  ∃ length, TimeLimit s timeout length ∧ Instant.bound ≤ now.nanoseconds + length.nanoseconds

theorem deadline?_eq_none_iff (hc : s.Carries g.options) (timeout : Option Float) (now : Instant) :
    deadline? g timeout now = .ok none ↔ IsBeyondClock s timeout now := by
  constructor
  · intro hn
    obtain ⟨length, hl, hd⟩ | ⟨-, -, hd⟩ | ⟨seconds, err, -, -, hd⟩ := deadline?_cases hc timeout now
    · rw [hd] at hn
      exact ⟨length, hl, (Deadline.after?_eq_none_iff now length).mp (Except.ok.inj hn)⟩
    · rw [hd] at hn
      cases hn
    · rw [hd] at hn
      cases hn
  · rintro ⟨length, hl, hb⟩
    rw [deadline?_of_timeLimit hc hl, (Deadline.after?_eq_none_iff now length).mpr hb]

theorem deadline?_eq_some_iff (hc : s.Carries g.options) (timeout : Option Float) (now : Instant) (d : Deadline) :
    deadline? g timeout now = .ok (some d) ↔ IsDeadline s timeout now d := by
  constructor
  · intro hs
    obtain ⟨length, hl, hd⟩ | ⟨ht, hz, hd⟩ | ⟨seconds, err, -, -, hd⟩ := deadline?_cases hc timeout now
    · rw [hd] at hs
      obtain ⟨hb, rfl⟩ := (Deadline.after?_eq_some_iff now length d).mp (Except.ok.inj hs)
      exact .inr ⟨length, hl, hb, rfl⟩
    · rw [hd] at hs
      exact .inl ⟨ht, hz, (Option.some.inj (Except.ok.inj hs)).symm⟩
    · rw [hd] at hs
      cases hs
  · rintro (⟨rfl, hz, rfl⟩ | ⟨length, hl, hb, rfl⟩)
    · exact deadline?_unlimited hc hz now
    · rw [deadline?_of_timeLimit hc hl, (Deadline.after?_eq_some_iff now length _).mpr ⟨hb, rfl⟩]

theorem deadline?_eq_error_iff (hc : s.Carries g.options) (timeout : Option Float) (now : Instant) (e : Failure) :
    deadline? g timeout now = .error e ↔
      ∃ seconds err, timeout = some seconds ∧ Duration.ofFloat seconds = .error err ∧ e = .timeout seconds err := by
  constructor
  · intro he
    obtain ⟨length, -, hd⟩ | ⟨-, -, hd⟩ | ⟨seconds, err, ht, hf, hd⟩ := deadline?_cases hc timeout now
    · rw [hd] at he
      cases he
    · rw [hd] at he
      cases he
    · rw [hd] at he
      exact ⟨seconds, err, ht, hf, (Except.error.inj he).symm⟩
  · rintro ⟨seconds, err, rfl, hf, rfl⟩
    exact deadline?_refused g hf now

/-- Where settings have been accepted and a timeout is accepted or not given, there is no deadline exactly when the
clock does not get as far as the time limit; the request then ends before anything is asked. In all other cases the
deadline is that of the time limit, and none at all where there is no limit. Timeouts that are no lengths of time are
refused. -/
theorem deadline_beyond_clock_iff (h : s.validate = .ok g.options) (timeout : Option Float) (now : Instant) :
    (deadline? g timeout now = .ok none ↔
      ∃ length, TimeLimit s timeout length ∧ Instant.bound ≤ now.nanoseconds + length.nanoseconds) ∧
    (∀ d, deadline? g timeout now = .ok (some d) ↔
      timeout = none ∧ s.requestTimeout = 0 ∧ d = .none ∨
        ∃ length, TimeLimit s timeout length ∧ now.nanoseconds + length.nanoseconds < Instant.bound ∧
          d = .ofInstant (now.later length)) ∧
    (∀ e, deadline? g timeout now = .error e ↔
      ∃ seconds err, timeout = some seconds ∧ Duration.ofFloat seconds = .error err ∧ e = .timeout seconds err) ∧
    (Instant.bound ≤ now.nanoseconds + (Duration.ofSeconds s.requestTimeout).nanoseconds ↔
      twoTo 63 ≤ now.nanoseconds / tenTo 9 + s.requestTimeout) ∧
    deadline? g none now = .ok (g.defaultDeadline? now) ∧
    ∀ i outside, deadline? g i.request.timeout now = .ok none →
      request? g i now outside = some (.overflow, now, outside) := by
  have hc := Settings.carries_of_validate h
  refine ⟨deadline?_eq_none_iff hc timeout now, deadline?_eq_some_iff hc timeout now,
    deadline?_eq_error_iff hc timeout now, Instant.bound_le_add_ofSeconds_iff .., rfl, fun i outside hn => ?_⟩
  simp only [request?, hn]

/-- Half of what the clock has to give, asked for at once and when half of it is over. -/
theorem deadline_beyond_clock_iff_half :
    ∃ o, { Settings.sample with requestTimeout := twoTo 62 }.validate = .ok o ∧
      let g : Geocoder Unit Unit := { Geocoder.constant ⟨0⟩ [] [] with options := o }
      deadline? g none ⟨0⟩ ≠ .ok none ∧ deadline? g none ⟨twoTo 62 * tenTo 9⟩ = .ok none := by
  let s : Settings := { Settings.sample with requestTimeout := twoTo 62 }
  obtain ⟨o, ho⟩ : ∃ o, s.validate = .ok o := Settings.exists_of_isOk (by decide +kernel)
  refine ⟨o, ho, ?_, ?_⟩
  · intro hn
    obtain ⟨length, hl, hb⟩ :=
      (deadline_beyond_clock_iff (g := { Geocoder.constant ⟨0⟩ [] [] with options := o }) ho none ⟨0⟩).1.mp hn
    cases hl with
    | configured => exact absurd hb (by decide)
  · exact (deadline_beyond_clock_iff (g := { Geocoder.constant ⟨0⟩ [] [] with options := o }) ho none _).1.mpr
      ⟨_, .configured (s := s) (by decide), by decide⟩

/-- Settings that are accepted and a timeout that is accepted, with which there is no deadline: the one as soon as the
clock has run for a second, the other at any time. -/
theorem accepted_timeout_beyond_clock :
    (∃ o, { Settings.sample with requestTimeout := twoTo 63 - 1 }.validate = .ok o ∧
      { Geocoder.constant ⟨0⟩ [] [] with options := o }.defaultDeadline? ⟨tenTo 9⟩ = none) ∧
    ∃ length, Duration.ofFloat 1e19 = .ok length ∧ ∀ now, Deadline.after? now length = none := by
  constructor
  · let s : Settings := { Settings.sample with requestTimeout := twoTo 63 - 1 }
    obtain ⟨o, ho⟩ : ∃ o, s.validate = .ok o := Settings.exists_of_isOk (by decide +kernel)
    have hd := deadline?_of_timeLimit (g := { Geocoder.constant ⟨0⟩ [] [] with options := o })
      (Settings.carries_of_validate ho) (.configured (s := s) (by decide)) ⟨tenTo 9⟩
    exact ⟨o, ho, (Except.ok.inj hd).trans ((Deadline.after?_eq_none_iff ..).mpr (by decide))⟩
  · refine ⟨⟨tenTo 28⟩, by decide +kernel, fun now => (Deadline.after?_eq_none_iff ..).mpr ?_⟩
    have hb : Instant.bound ≤ tenTo 28 := by decide
    exact Nat.le_trans hb (Nat.le_add_left ..)

end CommandLine

end Geocoding
