import Geocoding.Nearest
import Geocoding.Proofs.Distance
import Mathlib.Data.List.Basic
import Mathlib.Data.List.Induction
import Mathlib.Tactic.SplitIfs

/-!
# The nearest address

What the groups of some finds are, and which of them a sort by distance brings to the front.
-/

namespace Geocoding.Nearby

variable {g r x y : Nearby} {gs rows : List Nearby}

/-! ### Adding a find -/

theorem mem_merge (h : g ∈ merge r gs) : g ∈ gs ∨ g = r := by
  induction gs with
  | nil => exact .inr (List.mem_singleton.mp h)
  | cons x gs ih =>
    unfold merge at h
    split at h
    · next ha =>
      obtain rfl | h := List.mem_cons.mp h
      · obtain he | he := Distance.smaller_eq_or x.distance r.distance
        · rw [he]
          exact .inl List.mem_cons_self
        · rw [he, ha]
          exact .inr rfl
      · exact .inl (List.mem_cons_of_mem _ h)
    · obtain rfl | h := List.mem_cons.mp h
      · exact .inl List.mem_cons_self
      · obtain h | h := ih h
        · exact .inl (List.mem_cons_of_mem _ h)
        · exact .inr h

theorem address_merge (r : Nearby) (gs : List Nearby) :
    (merge r gs).map (·.address) = if r.address ∈ gs.map (·.address) then gs.map (·.address)
      else gs.map (·.address) ++ [r.address] := by
  induction gs with
  | nil => rfl
  | cons x gs ih =>
    unfold merge
    by_cases ha : x.address = r.address
    · simp [ha]
    · have hr : r.address ∈ (x :: gs).map (·.address) ↔ r.address ∈ gs.map (·.address) := by
        simp [Ne.symm ha]
      rw [if_neg ha, List.map_cons, ih]
      simp only [hr]
      split_ifs <;> rfl

/-- A group stays, at most nearer. -/
theorem merge_keeps (r : Nearby) (hd : g.distance ≠ .negativeNaN) (h : g ∈ gs) :
    ∃ g' ∈ merge r gs, g'.address = g.address ∧ g'.distance.totalPlace ≤ g.distance.totalPlace := by
  induction gs with
  | nil => cases h
  | cons x gs ih =>
    unfold merge
    split
    · obtain rfl | h := List.mem_cons.mp h
      · exact ⟨_, List.mem_cons_self, rfl, Distance.totalPlace_smaller_le_left _ hd⟩
      · exact ⟨g, List.mem_cons_of_mem _ h, rfl, Int.le_refl _⟩
    · obtain rfl | h := List.mem_cons.mp h
      · exact ⟨g, List.mem_cons_self, rfl, Int.le_refl _⟩
      · obtain ⟨g', hg', h⟩ := ih h
        exact ⟨g', List.mem_cons_of_mem _ hg', h⟩

/-- The find gets a group at most as far. -/
theorem merge_takes (gs : List Nearby) (hr : r.distance.IsPlain) :
    ∃ g' ∈ merge r gs, g'.address = r.address ∧ g'.distance.totalPlace ≤ r.distance.totalPlace := by
  induction gs with
  | nil => exact ⟨r, List.mem_cons_self, rfl, Int.le_refl _⟩
  | cons x gs ih =>
    unfold merge
    split
    · next ha => exact ⟨_, List.mem_cons_self, ha, Distance.totalPlace_smaller_le_right _ hr⟩
    · obtain ⟨g', hg', h⟩ := ih
      exact ⟨g', List.mem_cons_of_mem _ hg', h⟩

/-! ### The groups -/

theorem grouped_append (rows : List Nearby) (r : Nearby) :
    grouped (rows ++ [r]) = merge r (grouped rows) := by
  unfold grouped
  rw [List.foldl_append]
  rfl

theorem mem_of_mem_grouped (h : g ∈ grouped rows) : g ∈ rows := by
  induction rows using List.reverseRecOn generalizing g with
  | nil => exact h
  | append_singleton rows r ih =>
    rw [grouped_append] at h
    obtain h | rfl := mem_merge h
    · exact List.mem_append_left _ (ih h)
    · exact List.mem_append_right _ List.mem_cons_self

theorem eraseDups_concat {α : Type} [DecidableEq α] (xs : List α) (x : α) :
    (xs ++ [x]).eraseDups = if x ∈ xs then xs.eraseDups else xs.eraseDups ++ [x] := by
  rw [List.eraseDups_append]
  by_cases h : x ∈ xs <;> simp [List.removeAll, h, List.eraseDups_cons]

/-- Groups are in the order in which their addresses first appear. -/
theorem address_grouped (rows : List Nearby) :
    (grouped rows).map (·.address) = (rows.map (·.address)).eraseDups := by
  induction rows using List.reverseRecOn with
  | nil => rfl
  | append_singleton rows r ih =>
    have h := eraseDups_concat (rows.map (·.address)) r.address
    rw [grouped_append, address_merge, ih, List.map_append, List.map_singleton, h]
    simp only [List.mem_eraseDups]

theorem exists_group (hz : ∀ r ∈ rows, r.distance.IsPlain) (hr : r ∈ rows) :
    ∃ g ∈ grouped rows, g.address = r.address ∧ g.distance.totalPlace ≤ r.distance.totalPlace := by
  induction rows using List.reverseRecOn with
  | nil => cases hr
  | append_singleton rows r' ih =>
    rw [grouped_append]
    obtain hr | hr := List.mem_append.mp hr
    · have hz : ∀ r ∈ rows, r.distance.IsPlain := fun r h => hz r (List.mem_append_left _ h)
      obtain ⟨g, hg, ha, hd⟩ := ih hz hr
      obtain ⟨g', hg', ha', hd'⟩ := merge_keeps r' (hz g (mem_of_mem_grouped hg)).2 hg
      exact ⟨g', hg', ha'.trans ha, Int.le_trans hd' hd⟩
    · obtain rfl := List.mem_singleton.mp hr
      exact merge_takes _ (hz r (List.mem_append_right _ List.mem_cons_self))

theorem merge_of_new (h : r.address ∉ gs.map (·.address)) : merge r gs = gs ++ [r] := by
  induction gs with
  | nil => rfl
  | cons g gs ih =>
    rw [List.map_cons, List.mem_cons, not_or] at h
    obtain ⟨hne, hr⟩ := h
    rw [merge, if_neg (Ne.symm hne), ih hr]
    rfl

/-- Finds of different addresses are groups by themselves. -/
theorem grouped_of_nodup (h : (rows.map (·.address)).Nodup) : grouped rows = rows := by
  induction rows using List.reverseRecOn with
  | nil => rfl
  | append_singleton rows r ih =>
    rw [List.map_append, List.map_singleton, List.nodup_append] at h
    obtain ⟨hrows, -, hnew⟩ := h
    rw [grouped_append, ih hrows]
    exact merge_of_new fun hr => hnew _ hr _ List.mem_cons_self rfl

/-! ### The order of the groups -/

/-- Where an address first appears among the finds. -/
def firstAt (rows : List Nearby) (a : BuildingAddress) : Nat := (rows.map (·.address)).idxOf a

theorem idxOf_pairwise_eraseDups {α : Type} [DecidableEq α] (xs : List α) :
    xs.eraseDups.Pairwise fun a b => xs.idxOf a < xs.idxOf b := by
  induction xs using List.reverseRecOn with
  | nil => exact .nil
  | append_singleton xs x ih =>
    have hold : ∀ a ∈ xs.eraseDups, (xs ++ [x]).idxOf a = xs.idxOf a := fun a ha =>
      List.idxOf_append_of_mem (List.mem_eraseDups.mp ha)
    have hl : xs.eraseDups.Pairwise fun a b => (xs ++ [x]).idxOf a < (xs ++ [x]).idxOf b := by
      refine ih.imp_of_mem fun {a b} ha hb h => ?_
      rw [hold a ha, hold b hb]
      exact h
    rw [eraseDups_concat]
    split_ifs with hx
    · exact hl
    · refine List.pairwise_append.mpr ⟨hl, List.pairwise_singleton .., fun a ha b hb => ?_⟩
      obtain rfl := List.mem_singleton.mp hb
      have hlt := List.idxOf_lt_length_iff.mpr (List.mem_eraseDups.mp ha)
      rw [hold a ha, List.idxOf_append_of_notMem hx]
      omega

theorem firstAt_pairwise_grouped (rows : List Nearby) :
    (grouped rows).Pairwise fun g g' => firstAt rows g.address < firstAt rows g'.address := by
  have h := idxOf_pairwise_eraseDups (rows.map (·.address))
  rw [← address_grouped, List.pairwise_map] at h
  exact h

/-- A sort keeps the order of what has the same standing. -/
theorem pairwise_mergeSort_stable {α : Type} {le : α → α → Bool} {R : α → α → Prop}
    (htrans : ∀ a b c, le a b → le b c → le a c) (htotal : ∀ a b, le a b || le b a) {xs : List α}
    (h : xs.Pairwise R) : (xs.mergeSort le).Pairwise fun a b => le a b ∧ (le b a → R a b) := by
  induction xs with
  | nil => simp
  | cons x xs ih =>
    obtain ⟨hx, hxs⟩ := List.pairwise_cons.mp h
    obtain ⟨l, l', hc, hs, hl⟩ := List.mergeSort_cons htrans htotal x xs
    have hsorted := List.pairwise_mergeSort htrans htotal (x :: xs)
    have ih := ih hxs
    rw [hc, List.pairwise_append, List.pairwise_cons] at hsorted
    rw [hs, List.pairwise_append] at ih
    obtain ⟨-, ⟨hsx, -⟩, hsl⟩ := hsorted
    obtain ⟨ihl, ihl', ihll⟩ := ih
    rw [hc, List.pairwise_append, List.pairwise_cons]
    refine ⟨ihl, ⟨fun y hy => ⟨hsx y hy, fun _ => hx y ?_⟩, ihl'⟩, fun y hy z hz => ?_⟩
    · exact List.mem_mergeSort.mp (hs ▸ List.mem_append_right l hy)
    · obtain rfl | hz := List.mem_cons.mp hz
      · have hzy := hl y hy
        exact ⟨hsl y hy z List.mem_cons_self, fun h => by simp [h] at hzy⟩
      · exact ihll y hy z hz

/-! ### The nearest one -/

theorem isNearer_trans (a b c : Nearby) (hab : isNearer a b = true) (hbc : isNearer b c = true) :
    isNearer a c = true := by
  simp only [isNearer, decide_eq_true_eq] at *
  omega

theorem isNearer_total (a b : Nearby) : (isNearer a b || isNearer b a) = true := by
  simp only [isNearer, Bool.or_eq_true, decide_eq_true_eq]
  omega

/-- The groups from the nearest to the farthest, equally near ones as they first appeared. -/
theorem pairwise_sorted (rows : List Nearby) :
    ((grouped rows).mergeSort isNearer).Pairwise fun g g' =>
      g.distance.totalPlace ≤ g'.distance.totalPlace ∧
        (g'.distance.totalPlace ≤ g.distance.totalPlace →
          firstAt rows g.address < firstAt rows g'.address) := by
  have h := pairwise_mergeSort_stable isNearer_trans isNearer_total (firstAt_pairwise_grouped rows)
  simpa only [isNearer, decide_eq_true_eq] using h

/-- That `n` is at the smallest distance of all finds, and the first of those addresses to appear that are. -/
structure IsNearest (rows : List Nearby) (n : Nearby) : Prop where
  found : n ∈ rows
  least : ∀ r ∈ rows, r.distance.isNaN = false → n.distance.value ≤ r.distance.value
  first : ∀ r ∈ rows, r.distance = n.distance → firstAt rows n.address ≤ firstAt rows r.address

theorem grouped_eq_nil_iff (rows : List Nearby) : grouped rows = [] ↔ rows = [] := by
  constructor
  · intro h
    have ha := address_grouped rows
    cases rows with
    | nil => rfl
    | cons r rows => rw [h, List.map_cons, List.eraseDups_cons] at ha; cases ha
  · rintro rfl
    rfl

theorem collapse_eq_nil_iff (rows : List Nearby) (limit : Nat) :
    collapse rows limit = [] ↔ limit = 0 ∨ rows = [] := by
  rw [collapse, List.take_eq_nil_iff, ← grouped_eq_nil_iff rows, ← List.length_eq_zero_iff,
    List.length_mergeSort, List.length_eq_zero_iff]

/-- Finds that are sorted already, each of an address of its own, are only cut off. -/
theorem collapse_of_sorted (honce : (rows.map (·.address)).Nodup)
    (hsorted : rows.Pairwise fun g g' => isNearer g g' = true) (limit : Nat) :
    collapse rows limit = rows.take limit := by
  rw [collapse, grouped_of_nodup honce, List.mergeSort_of_pairwise hsorted]

theorem mem_of_mem_collapse {limit : Nat} (h : g ∈ collapse rows limit) : g ∈ rows :=
  mem_of_mem_grouped (List.mem_mergeSort.mp (List.mem_of_mem_take h))

theorem isNearest_of_head? (hz : ∀ r ∈ rows, r.distance.IsPlain) {limit : Nat}
    (h : (collapse rows limit).head? = some g) : IsNearest rows g := by
  obtain ⟨gs, hs⟩ : ∃ gs, (grouped rows).mergeSort isNearer = g :: gs := by
    rw [collapse, List.head?_take] at h
    split_ifs at h
    exact List.head?_eq_some_iff.mp h
  have hmem : ∀ g', g' ∈ grouped rows ↔ g' ∈ g :: gs := fun g' => by
    rw [← hs, List.mem_mergeSort]
  have ho := pairwise_sorted rows
  rw [hs, List.pairwise_cons] at ho
  -- Every find is in a group, which the sort has not put before the nearest one.
  have hgroup : ∀ r ∈ rows, ∃ g' ∈ g :: gs, g'.address = r.address ∧
      g'.distance.totalPlace ≤ r.distance.totalPlace := fun r hr => by
    obtain ⟨g', hg', h⟩ := exists_group hz hr
    exact ⟨g', (hmem g').mp hg', h⟩
  have hg : g ∈ rows := mem_of_mem_collapse (List.mem_of_head? h)
  refine ⟨hg, ?_, ?_⟩
  · intro r hr hn
    obtain ⟨g', hg', -, hle⟩ := hgroup r hr
    refine Distance.le_of_totalPlace_le (hz g hg).2 hn (Int.le_trans ?_ hle)
    obtain rfl | hg' := List.mem_cons.mp hg'
    · exact Int.le_refl _
    · exact (ho.1 g' hg').1
  · intro r hr hd
    obtain ⟨g', hg', ha, hle⟩ := hgroup r hr
    rw [← ha]
    obtain rfl | hg' := List.mem_cons.mp hg'
    · exact Nat.le_refl _
    · rw [hd] at hle
      exact Nat.le_of_lt ((ho.1 g' hg').2 hle)

end Geocoding.Nearby
