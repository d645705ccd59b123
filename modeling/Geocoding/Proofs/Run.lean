import Mathlib.Data.List.Induction

/-!
# Runs of a machine

A machine says of each state and event what comes next, if the event can happen. A run takes a list of
events one after another. What each event keeps, every run keeps.
-/

namespace Geocoding.Run

variable {σ ε : Type} {step? : σ → ε → Option σ}

theorem append_eq_some_iff {xs ys : List ε} {s s' : σ} :
    (xs ++ ys).foldlM step? s = some s' ↔
      ∃ m, xs.foldlM step? s = some m ∧ ys.foldlM step? m = some s' := by
  rw [List.foldlM_append]
  exact Option.bind_eq_some_iff

theorem cons_eq_some_iff {e : ε} {es : List ε} {s s' : σ} :
    (e :: es).foldlM step? s = some s' ↔ ∃ m, step? s e = some m ∧ es.foldlM step? m = some s' := by
  rw [List.foldlM_cons]
  exact Option.bind_eq_some_iff

theorem singleton_eq_some_iff {e : ε} {s s' : σ} :
    [e].foldlM step? s = some s' ↔ step? s e = some s' := by
  simp

/-- A relation between the events so far and the state, which holds at the start and which every event
keeps, holds after every run. -/
theorem history (R : List ε → σ → Prop) {s₀ s : σ} {es : List ε} (start : R [] s₀)
    (keeps : ∀ es s e s', R es s → step? s e = some s' → R (es ++ [e]) s')
    (h : es.foldlM step? s₀ = some s) : R es s := by
  induction es using List.reverseRecOn generalizing s with
  | nil =>
    obtain rfl : s₀ = s := by simpa using h
    exact start
  | append_singleton es e ih =>
    obtain ⟨m, hm, he⟩ := append_eq_some_iff.mp h
    exact keeps es m e s (ih hm) (singleton_eq_some_iff.mp he)

theorem invariant (I : σ → Prop) {s₀ s : σ} {es : List ε} (start : I s₀)
    (keeps : ∀ s e s', I s → step? s e = some s' → I s')
    (h : es.foldlM step? s₀ = some s) : I s :=
  history (fun _ => I) start (fun _ => keeps) h

/-- A machine that starts as `start` comes to `s` by the events `es`. -/
def Reaches (start : Option σ) (step? : σ → ε → Option σ) (es : List ε) (s : σ) : Prop :=
  start.bind (es.foldlM step?) = some s

namespace Reaches

variable {start : Option σ} {es es' : List ε} {e : ε} {s s' : σ}

theorem append (h : Reaches start step? es s) (h' : es'.foldlM step? s = some s') :
    Reaches start step? (es ++ es') s' := by
  obtain ⟨s₀, h₀, hr⟩ := Option.bind_eq_some_iff.mp h
  exact Option.bind_eq_some_iff.mpr ⟨s₀, h₀, append_eq_some_iff.mpr ⟨s, hr, h'⟩⟩

theorem step (h : Reaches start step? es s) (h' : step? s e = some s') :
    Reaches start step? (es ++ [e]) s' :=
  h.append (singleton_eq_some_iff.mpr h')

theorem unique (h : Reaches start step? es s) (h' : Reaches start step? es s') : s = s' :=
  Option.some.inj (Eq.trans (Eq.symm h) h')

end Reaches

end Geocoding.Run
