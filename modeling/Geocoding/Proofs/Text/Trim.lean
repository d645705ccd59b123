import Geocoding.Text.Blank
import Mathlib.Data.List.DropRight

/-!
# Trimmed texts

What is left of a text when the blanks at its ends are dropped: nothing if all of it is blank, and else a text
that begins and ends with a character that is not blank.
-/

namespace Geocoding.Text

variable {cs : List Char} {s t : String}

theorem trimmed_eq_rdropWhile (cs : List Char) :
    trimmed cs = (cs.dropWhile isBlank).rdropWhile isBlank := rfl

theorem toList_trim (s : String) : (trim s).toList = trimmed s.toList := by simp [trim]

theorem not_isBlank_head_dropWhile (cs : List Char) :
    ∀ c ∈ (cs.dropWhile isBlank).head?, isBlank c = false := by
  intro c hc
  have h := List.head?_dropWhile_not isBlank cs
  rw [hc] at h
  exact h

/-- There are no blanks at the ends of a text. -/
def IsTrimmed (s : String) : Prop :=
  (∀ c ∈ s.toList.head?, isBlank c = false) ∧ ∀ c ∈ s.toList.getLast?, isBlank c = false

theorem isTrimmed_trim (s : String) : IsTrimmed (trim s) := by
  have hlast : ∀ c ∈ (trimmed s.toList).getLast?, isBlank c = false := by
    rw [trimmed, List.getLast?_reverse]
    exact not_isBlank_head_dropWhile _
  refine ⟨fun c hc => ?_, by rwa [toList_trim]⟩
  rw [toList_trim, trimmed_eq_rdropWhile] at hc
  have hp : (s.toList.dropWhile isBlank).rdropWhile isBlank <+: s.toList.dropWhile isBlank :=
    List.rdropWhile_prefix ..
  obtain ⟨rest, hrest⟩ := hp
  refine not_isBlank_head_dropWhile s.toList c ?_
  rw [← hrest, List.head?_append, hc]
  rfl

theorem trim_eq_empty_iff : trim s = "" ↔ ∀ c ∈ s.toList, isBlank c = true := by
  have hempty : trim s = "" ↔ trimmed s.toList = [] := by
    rw [← String.toList_inj, toList_trim]
    rfl
  rw [hempty, trimmed_eq_rdropWhile, List.rdropWhile_eq_nil_iff]
  constructor
  · intro h
    cases hd : s.toList.dropWhile isBlank with
    | nil => exact List.dropWhile_eq_nil_iff.mp hd
    | cons c rest =>
      have hblank : isBlank c = true := h c (hd ▸ List.mem_cons_self)
      have hnot : isBlank c = false := not_isBlank_head_dropWhile s.toList c (hd ▸ rfl)
      rw [hblank] at hnot
      cases hnot
  · intro h
    rw [List.dropWhile_eq_nil_iff.mpr h]
    exact fun c hc => absurd hc List.not_mem_nil

theorem isTrimmed_of_no_blank (h : ∀ c ∈ s.toList, isBlank c = false) : IsTrimmed s :=
  ⟨fun c hc => h c (List.mem_of_mem_head? hc), fun c hc => h c (List.mem_of_getLast? hc)⟩

theorem dropWhile_of_head (h : ∀ c ∈ cs.head?, isBlank c = false) : cs.dropWhile isBlank = cs := by
  cases cs with
  | nil => rfl
  | cons c cs => exact List.dropWhile_cons_of_neg (by simp [h c rfl])

theorem trim_of_isTrimmed (h : IsTrimmed s) : trim s = s := by
  have hlast : ∀ c ∈ s.toList.reverse.head?, isBlank c = false := by
    rw [List.head?_reverse]
    exact h.2
  apply String.toList_injective
  rw [toList_trim, trimmed, dropWhile_of_head h.1, dropWhile_of_head hlast, List.reverse_reverse]

/-! ### Cores -/

/-- The part of a text from the first to the last of its characters that are not blank. -/
structure IsCore (s t : String) : Prop where
  split : ∃ before after, s.toList = before ++ (t.toList ++ after) ∧
    (∀ c ∈ before, isBlank c = true) ∧ ∀ c ∈ after, isBlank c = true
  isTrimmed : IsTrimmed t
  ne_empty : t ≠ ""

theorem split_trimmed (cs : List Char) : ∃ before after, cs = before ++ (trimmed cs ++ after) ∧
    (∀ c ∈ before, isBlank c = true) ∧ ∀ c ∈ after, isBlank c = true := by
  refine ⟨cs.takeWhile isBlank, (cs.dropWhile isBlank).rtakeWhile isBlank, ?_, ?_, ?_⟩
  · rw [trimmed_eq_rdropWhile, List.rdropWhile_append_rtakeWhile, List.takeWhile_append_dropWhile]
  · intro c hc
    exact List.mem_takeWhile_imp hc
  · intro c hc
    exact List.mem_rtakeWhile_imp hc

theorem isCore_trim (h : trim s ≠ "") : IsCore s (trim s) where
  split := by
    rw [toList_trim]
    exact split_trimmed s.toList
  isTrimmed := isTrimmed_trim s
  ne_empty := h

theorem IsCore.eq_trim (h : IsCore s t) : t = trim s := by
  obtain ⟨before, after, hs, hb, ha⟩ := h.split
  obtain ⟨hhead, hlast⟩ := h.isTrimmed
  have hne : t.toList ≠ [] := by simpa using h.ne_empty
  have hfront : s.toList.dropWhile isBlank = t.toList ++ after := by
    rw [hs, List.dropWhile_append_of_pos hb]
    apply dropWhile_of_head
    rwa [List.head?_append_of_ne_nil _ hne]
  have hback : (t.toList ++ after).reverse.dropWhile isBlank = t.toList.reverse := by
    have ha' : ∀ c ∈ after.reverse, isBlank c = true := fun c hc => ha c (List.mem_reverse.mp hc)
    rw [List.reverse_append, List.dropWhile_append_of_pos ha']
    apply dropWhile_of_head
    rwa [List.head?_reverse]
  apply String.toList_injective
  rw [toList_trim, trimmed, hfront, hback, List.reverse_reverse]

end Geocoding.Text
