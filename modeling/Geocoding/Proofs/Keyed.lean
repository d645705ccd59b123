import Mathlib.Data.List.Basic
import Mathlib.Data.List.Nodup

/-!
# Lists of pairs, read by key

A list of pairs whose keys differ holds at most one value under each key. Looking up a key, leaving a
key out and putting another value under a key are tied together here.
-/

namespace Geocoding.Keyed

variable {κ β : Type} [DecidableEq κ]

theorem mem_keys_iff (l : List (κ × β)) (k : κ) : k ∈ l.map (·.1) ↔ ∃ b, l.lookup k = some b := by
  induction l with
  | nil => simp
  | cons x l ih =>
    obtain ⟨k', b⟩ := x
    by_cases hk : k = k'
    · simp [hk]
    · have hb : (k == k') = false := beq_eq_false_iff_ne.mpr hk
      simp only [List.map_cons, List.mem_cons, hk, false_or, ih, List.lookup_cons, hb]

theorem lookup_eq_none_iff_keys (l : List (κ × β)) (k : κ) :
    l.lookup k = none ↔ k ∉ l.map (·.1) := by
  rw [mem_keys_iff, Option.eq_none_iff_forall_ne_some, not_exists]

theorem mem_of_lookup {l : List (κ × β)} {k : κ} {b : β} (h : l.lookup k = some b) : (k, b) ∈ l := by
  obtain ⟨l₁, l₂, rfl, -⟩ := List.lookup_eq_some_iff.mp h
  simp

theorem lookup_of_mem {l : List (κ × β)} {k : κ} {b : β} (hn : (l.map (·.1)).Nodup)
    (h : (k, b) ∈ l) : l.lookup k = some b := by
  obtain ⟨l₁, l₂, rfl⟩ := List.append_of_mem h
  refine List.lookup_eq_some_iff.mpr ⟨l₁, l₂, rfl, fun x hx => ?_⟩
  simp only [List.map_append, List.map_cons, List.nodup_append] at hn
  have hne := hn.2.2 x.1 (List.mem_map.mpr ⟨x, hx, rfl⟩) k (List.mem_cons_self ..)
  simpa using Ne.symm hne

theorem lookup_filter (l : List (κ × β)) (k k' : κ) :
    (l.filter (·.1 != k)).lookup k' = if k' = k then none else l.lookup k' := by
  by_cases hk : k' = k
  · rw [if_pos hk, List.lookup_eq_none_iff]
    intro x hx
    have hne : x.1 ≠ k := by simpa using (List.mem_filter.mp hx).2
    simpa [hk] using Ne.symm hne
  · rw [if_neg hk]
    induction l with
    | nil => rfl
    | cons x l ih =>
      obtain ⟨u, b⟩ := x
      by_cases hu : u = k
      · have hb : (k' == k) = false := beq_eq_false_iff_ne.mpr hk
        simp [hu, hb, ih, List.lookup_cons]
      · simp [hu, ih, List.lookup_cons]

theorem lookup_set (l : List (κ × β)) (k k' : κ) (b : β) :
    (l.map fun x => if x.1 = k then (k, b) else x).lookup k' =
      if k' = k then (l.lookup k).map fun _ => b else l.lookup k' := by
  induction l with
  | nil => simp
  | cons x l ih =>
    obtain ⟨u, a⟩ := x
    by_cases hu : u = k
    · by_cases hk : k' = k
      · simp [hu, hk]
      · have hb : (k' == k) = false := beq_eq_false_iff_ne.mpr hk
        simp [hu, hk, hb, ih, List.lookup_cons]
    · have hn : (k == u) = false := beq_eq_false_iff_ne.mpr (Ne.symm hu)
      by_cases hk : k' = u
      · simp [hk, hu]
      · have hb : (k' == u) = false := beq_eq_false_iff_ne.mpr hk
        simp [hu, hb, hn, ih, List.lookup_cons]

theorem keys_set (l : List (κ × β)) (k : κ) (b : β) :
    (l.map fun x => if x.1 = k then (k, b) else x).map (·.1) = l.map (·.1) := by
  rw [List.map_map]
  refine List.map_congr_left fun x _ => ?_
  by_cases hx : x.1 = k <;> simp [hx]

theorem set_eq_self {l : List (κ × β)} {k : κ} (b : β) (h : ∀ x ∈ l, x.1 ≠ k) :
    (l.map fun x => if x.1 = k then (k, b) else x) = l := by
  conv_rhs => rw [← List.map_id l]
  exact List.map_congr_left fun x hx => if_neg (h x hx)

/-- A list with a value under a key is cut at that value: leaving the key out takes it away, and
another value under the key stands in its place. -/
theorem split_of_lookup {l : List (κ × β)} {k : κ} {b : β} (hn : (l.map (·.1)).Nodup)
    (h : l.lookup k = some b) :
    ∃ l₁ l₂, l = l₁ ++ (k, b) :: l₂ ∧ l.filter (·.1 != k) = l₁ ++ l₂ ∧
      ∀ b', (l.map fun x => if x.1 = k then (k, b') else x) = l₁ ++ (k, b') :: l₂ := by
  obtain ⟨l₁, l₂, rfl, h₁⟩ := List.lookup_eq_some_iff.mp h
  have h₁' : ∀ x ∈ l₁, x.1 ≠ k := fun x hx he => by simpa [he] using h₁ x hx
  have h₂' : ∀ x ∈ l₂, x.1 ≠ k := by
    simp only [List.map_append, List.map_cons, List.nodup_append, List.nodup_cons] at hn
    intro x hx he
    exact hn.2.1.1 (List.mem_map.mpr ⟨x, hx, he⟩)
  refine ⟨l₁, l₂, rfl, ?_, fun b' => ?_⟩
  · have hf₁ : l₁.filter (·.1 != k) = l₁ := List.filter_eq_self.mpr fun x hx => by simpa using h₁' x hx
    have hf₂ : l₂.filter (·.1 != k) = l₂ := List.filter_eq_self.mpr fun x hx => by simpa using h₂' x hx
    simp [hf₁, hf₂]
  · simp [set_eq_self b' h₁', set_eq_self b' h₂']

end Geocoding.Keyed
