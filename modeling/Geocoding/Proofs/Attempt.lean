import Geocoding.Attempt
import Mathlib.Tactic.Basic

/-!
# What an attempt leaves behind

A statement about every end of an attempt, and about what is left wherever it is given up, says what comes of
it under any deadline.
-/

namespace Geocoding

theorem Deadline.run_never_ne_done (d : Deadline) (now t : Instant) : d.run now .never ≠ .done t := by
  cases h : d.expiry with
  | none => simp [run, h]
  | some limit => simp [run, h]

theorem Deadline.run_ne_never {d : Deadline} {limit : Instant} (hd : d.expiry = some limit)
    (now : Instant) (w : Work) : d.run now w ≠ .never := by
  cases w with
  | takes length =>
    simp only [run, hd]
    split
    · exact fun h => nomatch h
    · exact fun h => nomatch h
  | _ => simp [run, hd]

namespace Attempt

variable {σ τ α β : Type} {done : Except Database.Error α → σ → Prop} {cut : σ → Prop}

/-- However an attempt ends, `done` holds of the answer and of what the answer leaves; wherever it is
given up, `cut` holds of what is left then. -/
def Leaves (done : Except Database.Error α → σ → Prop) (cut : σ → Prop) : Attempt σ α → Prop
  | ended answer s => done answer s
  | waits w abandoned next => cut abandoned ∧ (w ≠ .never → next.Leaves done cut)

theorem Leaves.follow {done' : Except Database.Error β → τ → Prop} {cut' : τ → Prop} {leave : τ → σ}
    {next : Except Database.Error β → τ → Attempt σ α} {a : Attempt τ β} (h : a.Leaves done' cut')
    (hnext : ∀ answer s, done' answer s → (next answer s).Leaves done cut)
    (hleave : ∀ s, cut' s → cut (leave s)) : (a.follow leave next).Leaves done cut := by
  induction a with
  | ended answer s => exact hnext answer s h
  | waits w abandoned rest ih => exact ⟨hleave abandoned h.1, fun hw => ih (h.2 hw)⟩

theorem Leaves.mono {done' : Except Database.Error α → σ → Prop} {cut' : σ → Prop} {a : Attempt σ α}
    (h : a.Leaves done cut) (hdone : ∀ answer s, done answer s → done' answer s)
    (hcut : ∀ s, cut s → cut' s) : a.Leaves done' cut' := by
  induction a with
  | ended answer s => exact hdone answer s h
  | waits w abandoned rest ih => exact ⟨hcut abandoned h.1, fun hw => ih (h.2 hw)⟩

theorem leaves_trivial (a : Attempt σ α) : a.Leaves (fun _ _ => True) (fun _ => True) := by
  induction a with
  | ended answer s => trivial
  | waits w abandoned rest ih => exact ⟨trivial, fun _ => ih⟩

theorem leaves_follow {leave : τ → σ} {next : Except Database.Error β → τ → Attempt σ α}
    (hnext : ∀ answer s, (next answer s).Leaves done cut) (hleave : ∀ s, cut (leave s))
    (a : Attempt τ β) : (a.follow leave next).Leaves done cut :=
  a.leaves_trivial.follow (fun answer s _ => hnext answer s) fun s _ => hleave s

theorem Leaves.bind {done' : Except Database.Error β → σ → Prop} {next : β → σ → Attempt σ α} {a : Attempt σ β}
    (h : a.Leaves done' cut) (hok : ∀ x s, done' (.ok x) s → (next x s).Leaves done cut)
    (herror : ∀ e s, done' (.error e) s → done (.error e) s) : (a.bind next).Leaves done cut := by
  apply h.follow
  · intro answer s hs
    cases answer with
    | ok x => exact hok x s hs
    | error e => exact herror e s hs
  · intro s hs
    exact hs

theorem Leaves.wait? {a : Attempt σ α} {now later : Instant} {answer : Except Database.Error α} {s : σ}
    (h : a.Leaves done cut) (hw : a.wait? now = some (answer, later, s)) : done answer s := by
  induction a generalizing now with
  | ended answer' s' =>
    obtain ⟨rfl, -, rfl⟩ : answer' = answer ∧ now = later ∧ s' = s := by simpa [Attempt.wait?] using hw
    exact h
  | waits w abandoned rest ih =>
    cases w with
    | ready => exact ih (h.2 nofun) hw
    | takes length => exact ih (h.2 nofun) hw
    | never => cases hw

theorem Leaves.within? {a : Attempt σ α} {d : Deadline} {now later : Instant} {o : Outcome α} {s : σ}
    (h : a.Leaves done cut) (hw : a.within? d now = some (o, later, s)) :
    (∃ answer, o = .of answer ∧ done answer s) ∨ o = .exceeded ∧ cut s := by
  induction a generalizing now with
  | ended answer s' =>
    obtain ⟨rfl, -, rfl⟩ : Outcome.of answer = o ∧ now = later ∧ s' = s := by
      simpa [Attempt.within?] using hw
    exact .inl ⟨answer, rfl, h⟩
  | waits w abandoned rest ih =>
    simp only [Attempt.within?] at hw
    split at hw
    · next t ht =>
      have hn : w ≠ .never := fun hn => d.run_never_ne_done now t (hn ▸ ht)
      exact ih (h.2 hn) hw
    · next t ht =>
      obtain ⟨rfl, -, rfl⟩ : Outcome.exceeded = o ∧ t = later ∧ abandoned = s := by simpa using hw
      exact .inr ⟨rfl, h.1⟩
    · cases hw

/-- A deadline that passes at some instant brings every attempt to an end. -/
theorem within?_isSome {d : Deadline} (hd : d.expiry ≠ none) (now : Instant) (a : Attempt σ α) :
    (a.within? d now).isSome := by
  obtain ⟨limit, hl⟩ := Option.ne_none_iff_exists'.mp hd
  induction a generalizing now with
  | ended answer s => rfl
  | waits w abandoned rest ih =>
    simp only [Attempt.within?]
    split
    · next t ht => exact ih t
    · rfl
    · next ht => exact absurd ht (Deadline.run_ne_never hl now w)

end Attempt

end Geocoding
