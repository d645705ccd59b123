import Geocoding.Proofs.Attempt

/-!
# When an attempt ends

What is asked under a deadline is answered as it would be without one, or else it is cut off. It is answered if
the answer is ready at the first look or comes by the deadline, and only then.
-/

namespace Geocoding

theorem Instant.nanoseconds_max (s t : Instant) :
    (s.max t).nanoseconds = Nat.max s.nanoseconds t.nanoseconds := by
  unfold Instant.max
  split
  · next h => exact (Nat.max_eq_right h).symm
  · next h => exact (Nat.max_eq_left (by omega)).symm

theorem Instant.max_of_le {s t : Instant} (h : s.nanoseconds ≤ t.nanoseconds) : s.max t = t := if_pos h

theorem Outcome.eq_of_or {α : Type} (o : Outcome α) : (∃ answer, o = .of answer) ∨ o = .exceeded := by
  cases o with
  | answered x => exact .inl ⟨.ok x, rfl⟩
  | failed e => exact .inl ⟨.error e, rfl⟩
  | exceeded => exact .inr rfl

namespace Deadline

variable {d : Deadline} {now t : Instant} {w : Work}

theorem run_done (h : d.run now w = .done t) : Deadline.none.run now w = .done t ∧
    (w = .ready ∧ t = now ∨ now.nanoseconds ≤ t.nanoseconds ∧
      ∀ limit, d.expiry = some limit → t.nanoseconds ≤ limit.nanoseconds) := by
  obtain ⟨expiry⟩ := d
  cases w with
  | ready => exact ⟨h, .inl ⟨rfl, (Ending.done.inj h).symm⟩⟩
  | never =>
    cases expiry with
    | none => cases h
    | some limit => cases h
  | takes length =>
    have hle : now.nanoseconds ≤ (now.later length).nanoseconds := Nat.le_add_right ..
    cases expiry with
    | none =>
      obtain rfl := Ending.done.inj h
      exact ⟨rfl, .inr ⟨hle, nofun⟩⟩
    | some limit =>
      simp only [run] at h
      split at h
      · next hlimit =>
        obtain rfl := Ending.done.inj h
        refine ⟨rfl, .inr ⟨hle, fun l hl => ?_⟩⟩
        obtain rfl := Option.some.inj hl
        exact hlimit
      · cases h

theorem run_cutOff (h : d.run now w = .cutOff t) : ∃ limit, d.expiry = some limit ∧
    t = now.max limit ∧ w ≠ .ready ∧
    ∀ t', Deadline.none.run now w = .done t' → limit.nanoseconds < t'.nanoseconds := by
  obtain ⟨expiry⟩ := d
  cases w with
  | ready => cases h
  | never =>
    cases expiry with
    | none => cases h
    | some limit =>
      refine ⟨limit, rfl, (Ending.cutOff.inj h).symm, by simp, fun t' ht' => ?_⟩
      cases ht'
  | takes length =>
    cases expiry with
    | none => cases h
    | some limit =>
      simp only [run] at h
      split at h
      · cases h
      · next hlimit =>
        refine ⟨limit, rfl, (Ending.cutOff.inj h).symm, by simp, fun t' ht' => ?_⟩
        obtain rfl := Ending.done.inj ht'
        omega

theorem eq_never_of_run_never (h : d.run now w = .never) : w = .never := by
  obtain ⟨expiry⟩ := d
  cases w with
  | ready => cases h
  | never => rfl
  | takes length =>
    cases expiry with
    | none => cases h
    | some limit =>
      simp only [run] at h
      split at h
      · cases h
      · cases h

theorem le_of_run_done (h : d.run now w = .done t) : now.nanoseconds ≤ t.nanoseconds := by
  obtain ⟨-, ⟨-, rfl⟩ | ⟨h, -⟩⟩ := run_done h
  · exact Nat.le_refl _
  · exact h

end Deadline

namespace Attempt

variable {σ α : Type} {a : Attempt σ α} {d : Deadline} {now later : Instant} {s : σ}

/-- Every wait of the attempt is over at the first look. -/
def IsReady : Attempt σ α → Prop
  | ended .. => True
  | waits w _ next => w = .ready ∧ next.IsReady

/-- No wait of the attempt is for good. -/
def Ends : Attempt σ α → Prop
  | ended .. => True
  | waits w _ next => w ≠ .never ∧ next.Ends

theorem ends_follow {τ β : Type} {leave : σ → τ} {next : Except Database.Error α → σ → Attempt τ β} (h : a.Ends)
    (hnext : ∀ answer s, (next answer s).Ends) : (a.follow leave next).Ends := by
  induction a with
  | ended answer s => exact hnext answer s
  | waits w abandoned rest ih => exact ⟨h.1, ih h.2⟩

theorem ends_bind {β : Type} {next : α → σ → Attempt σ β} (h : a.Ends) (hnext : ∀ x s, (next x s).Ends) :
    (a.bind next).Ends := by
  apply ends_follow h
  intro answer s
  cases answer with
  | ok x => exact hnext x s
  | error e => trivial

theorem within?_isSome_of_ends (h : a.Ends) (d : Deadline) (now : Instant) :
    (a.within? d now).isSome := by
  induction a generalizing now with
  | ended answer s => rfl
  | waits w abandoned rest ih =>
    obtain ⟨hw, hr⟩ := h
    simp only [within?]
    split
    · next t ht => exact ih hr t
    · rfl
    · next ht => exact absurd (Deadline.eq_never_of_run_never ht) hw

theorem exists_within? (h : d.expiry ≠ none ∨ a.Ends) (now : Instant) :
    ∃ o later s, a.within? d now = some (o, later, s) := by
  have hs : (a.within? d now).isSome := by
    obtain h | h := h
    · exact within?_isSome h now a
    · exact within?_isSome_of_ends h d now
  obtain ⟨⟨o, later, s⟩, hw⟩ := Option.isSome_iff_exists.mp hs
  exact ⟨o, later, s, hw⟩

/-- Without a deadline an attempt is waited for. -/
theorem within?_none (a : Attempt σ α) (now : Instant) :
    a.within? .none now = (a.wait? now).map fun (answer, later, s) => (.of answer, later, s) := by
  induction a generalizing now with
  | ended answer s => rfl
  | waits w abandoned rest ih =>
    cases w with
    | ready => exact ih now
    | takes length => exact ih (now.later length)
    | never => rfl

theorem wait?_isSome_of_ends (h : a.Ends) (now : Instant) : (a.wait? now).isSome := by
  have hs := within?_isSome_of_ends h .none now
  rw [within?_none, Option.isSome_map] at hs
  exact hs

theorem le_of_within? {o : Outcome α} (h : a.within? d now = some (o, later, s)) :
    now.nanoseconds ≤ later.nanoseconds := by
  induction a generalizing now with
  | ended answer s' =>
    obtain ⟨-, rfl, -⟩ : Outcome.of answer = o ∧ now = later ∧ s' = s := by simpa [within?] using h
    exact Nat.le_refl _
  | waits w abandoned rest ih =>
    simp only [within?] at h
    split at h
    · next t ht => exact Nat.le_trans (Deadline.le_of_run_done ht) (ih h)
    · next t ht =>
      obtain ⟨-, rfl, -⟩ : Outcome.exceeded = o ∧ t = later ∧ abandoned = s := by simpa using h
      obtain ⟨limit, -, rfl, -⟩ := Deadline.run_cutOff ht
      rw [Instant.nanoseconds_max]
      exact Nat.le_max_left ..
    · cases h

/-- What is answered under a deadline is answered alike without one, and is ready or comes by the deadline. -/
theorem within?_answered {answer : Except Database.Error α}
    (h : a.within? d now = some (.of answer, later, s)) :
    a.within? .none now = some (.of answer, later, s) ∧ (a.IsReady ∧ later = now ∨
      ∀ limit, d.expiry = some limit → later.nanoseconds ≤ limit.nanoseconds) := by
  induction a generalizing now with
  | ended answer' s' =>
    obtain ⟨-, rfl, -⟩ : Outcome.of answer' = .of answer ∧ now = later ∧ s' = s := by
      simpa [within?] using h
    exact ⟨h, .inl ⟨trivial, rfl⟩⟩
  | waits w abandoned rest ih =>
    simp only [within?] at h
    split at h
    · next t ht =>
      obtain ⟨hn, hlater⟩ := ih h
      obtain ⟨hdone, ht⟩ := Deadline.run_done ht
      refine ⟨by simpa only [within?, hdone] using hn, ?_⟩
      obtain ⟨hready, rfl⟩ | hlater := hlater
      · obtain ⟨rfl, rfl⟩ | ⟨-, ht⟩ := ht
        · exact .inl ⟨⟨rfl, hready⟩, rfl⟩
        · exact .inr ht
      · exact .inr hlater
    · cases answer <;> cases h
    · cases h

/-- What is cut off is not ready, and without a deadline would take longer or for ever. -/
theorem within?_exceeded (h : a.within? d now = some (.exceeded, later, s)) :
    ∃ limit, d.expiry = some limit ∧ later = now.max limit ∧ ¬ a.IsReady ∧
      ∀ o finish s', a.within? .none now = some (o, finish, s') →
        limit.nanoseconds < finish.nanoseconds := by
  induction a generalizing now with
  | ended answer s' => cases answer <;> cases h
  | waits w abandoned rest ih =>
    simp only [within?] at h
    split at h
    · next t ht =>
      obtain ⟨limit, hl, hlater, hready, hslow⟩ := ih h
      obtain ⟨hdone, ht⟩ := Deadline.run_done ht
      refine ⟨limit, hl, ?_, fun hr => hready hr.2, ?_⟩
      · obtain ⟨-, rfl⟩ | ⟨hle, ht⟩ := ht
        · exact hlater
        -- Work that takes time and is done has left the deadline ahead.
        · have ht := ht limit hl
          rw [hlater, Instant.max_of_le ht, Instant.max_of_le (Nat.le_trans hle ht)]
      · intro o finish s' hf
        simp only [within?, hdone] at hf
        exact hslow o finish s' hf
    · next t ht =>
      obtain ⟨-, rfl, -⟩ : True ∧ t = later ∧ abandoned = s := by simpa using h
      obtain ⟨limit, hl, rfl, hw, hslow⟩ := Deadline.run_cutOff ht
      refine ⟨limit, hl, rfl, fun hr => hw hr.1, ?_⟩
      intro o finish s' hf
      simp only [within?] at hf
      split at hf
      · next t' ht' => exact Nat.lt_of_lt_of_le (hslow t' ht') (le_of_within? hf)
      · next t' ht' =>
        obtain ⟨l, hn, -⟩ := Deadline.run_cutOff ht'
        cases hn
      · cases hf
    · cases h

/-- Whether the answer comes before a deadline cuts the attempt off. -/
def IsInTime (d : Deadline) (now : Instant) (a : Attempt σ α) : Prop :=
  ∃ answer finish s, a.within? .none now = some (.of answer, finish, s) ∧ (a.IsReady ∨
    ∀ limit, d.expiry = some limit → finish.nanoseconds ≤ limit.nanoseconds)

/-- In time, an attempt comes to what it would come to without a deadline; else the deadline ends it. -/
theorem within?_eq_or {o : Outcome α} (h : a.within? d now = some (o, later, s)) :
    a.IsInTime d now ∧ a.within? .none now = some (o, later, s) ∨
      ¬ a.IsInTime d now ∧ o = .exceeded ∧
        ∃ limit, d.expiry = some limit ∧ later = now.max limit := by
  obtain ⟨answer, rfl⟩ | rfl := o.eq_of_or
  · obtain ⟨hn, hlater⟩ := within?_answered h
    exact .inl ⟨⟨answer, later, s, hn, hlater.imp_left And.left⟩, hn⟩
  · obtain ⟨limit, hl, hlater, hready, hslow⟩ := within?_exceeded h
    refine .inr ⟨?_, rfl, limit, hl, hlater⟩
    rintro ⟨answer, finish, s', hf, hr | hle⟩
    · exact hready hr
    · have hlt := hslow _ _ _ hf
      have hle := hle limit hl
      omega

theorem eq_exceeded_iff {o : Outcome α} (h : a.within? d now = some (o, later, s)) :
    o = .exceeded ↔ ¬ a.IsInTime d now := by
  obtain ⟨hi, hn⟩ | ⟨hi, ho, -⟩ := within?_eq_or h
  · refine ⟨?_, fun hn => absurd hi hn⟩
    rintro rfl
    -- Without a deadline nothing is cut off.
    obtain ⟨limit, hl, -⟩ := within?_exceeded hn
    cases hl
  · exact ⟨fun _ => hi, fun _ => ho⟩

variable {limit : Instant}

theorem le_max_of_within? {o : Outcome α} (hd : d.expiry = some limit)
    (h : a.within? d now = some (o, later, s)) :
    later.nanoseconds ≤ Nat.max now.nanoseconds limit.nanoseconds := by
  obtain ⟨answer, rfl⟩ | rfl := o.eq_of_or
  · obtain ⟨-, ⟨-, rfl⟩ | hlater⟩ := within?_answered h
    · exact Nat.le_max_left ..
    · exact Nat.le_trans (hlater limit hd) (Nat.le_max_right ..)
  · obtain ⟨l, hl, rfl, -⟩ := within?_exceeded h
    obtain rfl := Option.some.inj (hd.symm.trans hl)
    exact Nat.le_of_eq (Instant.nanoseconds_max ..)

/-- After a deadline only what is ready is answered, and at once. -/
theorem eq_of_within?_answered {answer : Except Database.Error α} (hd : d.expiry = some limit)
    (h : a.within? d now = some (.of answer, later, s)) (hlt : limit.nanoseconds < now.nanoseconds) :
    later = now := by
  have hle := le_of_within? h
  obtain ⟨-, ⟨-, hlater⟩ | hlater⟩ := within?_answered h
  · exact hlater
  · have := hlater limit hd
    omega

end Attempt

end Geocoding
