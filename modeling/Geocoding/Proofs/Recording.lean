import Geocoding.Proofs.Timing

/-!
# Attempts that are written down

An attempt may add a note to its state when it comes to an end. Seen without the notes, it is the attempt that it
was.
-/

namespace Geocoding.Attempt

variable {σ τ ρ α β ν : Type} {d : Deadline} {now later : Instant}

/-- The same attempt, which in the end adds a note to those taken so far. -/
def noted (note : Outcome α → ν) (notes : List ν) : Attempt σ α → Attempt (σ × List ν) α :=
  follow (fun s => (s, notes ++ [note .exceeded])) fun answer s =>
    .ended answer (s, notes ++ [note (.of answer)])

/-- The same attempt, of whose state a part is seen only. -/
def seen (f : σ → τ) : Attempt σ α → Attempt τ α
  | ended answer s => ended answer (f s)
  | waits w abandoned rest => waits w (f abandoned) (rest.seen f)

theorem within?_noted (note : Outcome α → ν) (notes : List ν) (d : Deadline) (now : Instant)
    (a : Attempt σ α) : (a.noted note notes).within? d now =
      (a.within? d now).map fun (o, later, s) => (o, later, s, notes ++ [note o]) := by
  induction a generalizing now with
  | ended answer s => rfl
  | waits w abandoned rest ih =>
    show (Attempt.waits w _ (rest.noted note notes)).within? d now = _
    simp only [within?]
    split
    · next t ht => exact ih t
    · rfl
    · rfl

theorem leaves_noted (note : Outcome α → ν) (notes : List ν) (a : Attempt σ α) :
    (a.noted note notes).Leaves (fun answer s => s.2 = notes ++ [note (.of answer)])
      (fun s => s.2 = notes ++ [note .exceeded]) := by
  apply leaves_follow
  · intro answer s
    show notes ++ [note (.of answer)] = _
    rfl
  · intro s
    rfl

/-! ### A part of the state -/

theorem within?_seen (f : σ → τ) (a : Attempt σ α) (d : Deadline) (now : Instant) :
    (a.seen f).within? d now = (a.within? d now).map fun (o, later, s) => (o, later, f s) := by
  induction a generalizing now with
  | ended answer s => rfl
  | waits w abandoned rest ih =>
    simp only [seen, within?]
    split
    · next t ht => exact ih t
    · rfl
    · rfl

theorem wait?_seen (f : σ → τ) (a : Attempt σ α) (now : Instant) :
    (a.seen f).wait? now = (a.wait? now).map fun (answer, later, s) => (answer, later, f s) := by
  induction a generalizing now with
  | ended answer s => rfl
  | waits w abandoned rest ih =>
    cases w with
    | ready => exact ih now
    | takes length => exact ih (now.later length)
    | never => rfl

theorem exists_of_within?_seen {f : σ → τ} {a : Attempt σ α} {o : Outcome α} {s : τ}
    (h : (a.seen f).within? d now = some (o, later, s)) :
    ∃ s', a.within? d now = some (o, later, s') ∧ f s' = s := by
  rw [within?_seen] at h
  obtain ⟨⟨o', later', s'⟩, hw, he⟩ := Option.map_eq_some_iff.mp h
  obtain ⟨rfl, rfl, hs⟩ : o' = o ∧ later' = later ∧ f s' = s := by simpa using he
  exact ⟨s', hw, hs⟩

theorem seen_follow {υ : Type} {f : τ → ρ} {g : σ → υ} {leave : σ → τ} {leave' : υ → ρ}
    {next : Except Database.Error α → σ → Attempt τ β} {next' : Except Database.Error α → υ → Attempt ρ β}
    (hleave : ∀ s, f (leave s) = leave' (g s)) (hnext : ∀ answer s, (next answer s).seen f = next' answer (g s))
    (a : Attempt σ α) : (a.follow leave next).seen f = (a.seen g).follow leave' next' := by
  induction a with
  | ended answer s => exact hnext answer s
  | waits w abandoned rest ih =>
    show Attempt.waits w (f (leave abandoned)) ((rest.follow leave next).seen f) = _
    rw [hleave, ih]
    rfl

theorem seen_bind {f : σ → τ} {next : α → σ → Attempt σ β} {next' : α → τ → Attempt τ β}
    (hnext : ∀ x s, (next x s).seen f = next' x (f s)) (a : Attempt σ α) :
    (a.bind next).seen f = (a.seen f).bind next' := by
  apply seen_follow
  · intro s
    rfl
  · intro answer s
    cases answer with
    | ok x => exact hnext x s
    | error e => rfl

theorem seen_noted (note : Outcome α → ν) (notes : List ν) (a : Attempt σ α) :
    (a.noted note notes).seen Prod.fst = a := by
  induction a with
  | ended answer s => rfl
  | waits w abandoned rest ih =>
    show Attempt.waits w abandoned ((rest.noted note notes).seen Prod.fst) = _
    rw [ih]

end Geocoding.Attempt
