import Geocoding.Text.Blank
import Mathlib.Data.List.Basic

/-!
# Squeezed texts

The words of a text hold all of it but the blanks, so squeezing leaves every other character as often as it was.
-/

namespace Geocoding.Text

variable {c : Char} {sep : List Char}

theorem flatten_wordsFrom (word cs : List Char) :
    (wordsFrom word cs).flatten = word.reverse ++ cs.filter (!isBlank ·) := by
  induction cs generalizing word with
  | nil => cases word <;> simp [wordsFrom]
  | cons a cs ih =>
    rw [wordsFrom]
    by_cases ha : isBlank a = true
    · rw [if_pos ha, List.filter_cons_of_neg (by simp [ha])]
      cases word with
      | nil => exact ih []
      | cons b word => simp [ih]
    · rw [if_neg ha, ih, List.filter_cons_of_pos (by simp [ha])]
      simp

/-- The words of a text are the text without its blanks. -/
theorem flatten_words (cs : List Char) : (words cs).flatten = cs.filter (!isBlank ·) := by
  rw [words, flatten_wordsFrom]
  rfl

theorem count_intercalate (hc : c ∉ sep) (pieces : List (List Char)) :
    (sep.intercalate pieces).count c = pieces.flatten.count c := by
  induction pieces with
  | nil => rfl
  | cons piece pieces ih =>
    cases pieces with
    | nil => rw [List.intercalate_singleton, List.flatten_singleton]
    | cons next pieces =>
      rw [List.intercalate_cons_cons, List.count_append, List.count_append, ih, List.count_eq_zero_of_not_mem hc,
        Nat.add_zero, ← List.count_append, ← List.flatten_cons]

/-- Squeezing leaves every character that is not blank as often as it was. -/
theorem count_squeeze (hc : isBlank c = false) (cs : List Char) : (squeeze cs).count c = cs.count c := by
  have hsep : c ∉ [' '] := by
    rw [List.mem_singleton]
    rintro rfl
    exact absurd isBlank_space (by simp [hc])
  rw [squeeze, count_intercalate hsep, flatten_words, List.count_filter (by simp [hc])]

end Geocoding.Text
