import Geocoding.Distance
import Geocoding.Proofs.Decimal.Order

/-!
# The order of distances

Apart from the negative zero and from what is not a number with the negative sign, distances are put in the order of
their numbers, and what is not a number comes last.
-/

namespace Geocoding.Distance

open Decimal (nanWord infinityWord)

variable {x y : Distance}

/-- Neither a negative zero nor a negative sign on what is not a number. -/
def IsPlain (d : Distance) : Prop := d ≠ metres (-0.0) ∧ d ≠ negativeNaN

instance (d : Distance) : Decidable d.IsPlain := inferInstanceAs (Decidable (_ ∧ _))

@[simp] theorem totalPlace_metres (x : Float) : (metres x).totalPlace = Decimal.totalPlace x := rfl

@[simp] theorem isNaN_negativeNaN : negativeNaN.isNaN = true := by decide +kernel

theorem totalPlace_negativeNaN : negativeNaN.totalPlace = -(nanWord : Int) - 1 := by decide +kernel

theorem exists_metres (h : x ≠ negativeNaN) : ∃ f, x = metres f := by
  cases x with
  | metres f => exact ⟨f, rfl⟩
  | negativeNaN => exact absurd rfl h

theorem ne_negativeNaN (h : x.isNaN = false) : x ≠ negativeNaN := by
  rintro rfl
  rw [isNaN_negativeNaN] at h
  cases h

/-! ### The order of the places -/

/-- It comes before everything else. -/
theorem totalPlace_negativeNaN_lt (x : Float) : negativeNaN.totalPlace < (metres x).totalPlace := by
  have hx := Decimal.totalPlace_ge x
  have hn : infinityWord < nanWord := by decide
  rw [totalPlace_negativeNaN, totalPlace_metres]
  omega

theorem totalPlace_injective (h : x.totalPlace = y.totalPlace) : x = y := by
  cases x with
  | metres f =>
    cases y with
    | metres g => exact congrArg metres (Decimal.totalPlace_injective h)
    | negativeNaN => exact absurd h.symm (Int.ne_of_lt (totalPlace_negativeNaN_lt f))
  | negativeNaN =>
    cases y with
    | metres g => exact absurd h (Int.ne_of_lt (totalPlace_negativeNaN_lt g))
    | negativeNaN => rfl

theorem totalPlace_le_of_isNaN (hy : y ≠ negativeNaN) (hn : y.isNaN = true) : x.totalPlace ≤ y.totalPlace := by
  obtain ⟨g, rfl⟩ := exists_metres hy
  cases x with
  | metres f => exact Decimal.totalPlace_le_of_isNaN hn
  | negativeNaN => exact Int.le_of_lt (totalPlace_negativeNaN_lt g)

/-- At or before a number there are only numbers, and they are not greater. -/
theorem le_of_totalPlace_le (hx : x ≠ negativeNaN) (hy : y.isNaN = false) (h : x.totalPlace ≤ y.totalPlace) :
    x.value ≤ y.value := by
  obtain ⟨f, rfl⟩ := exists_metres hx
  obtain ⟨g, rfl⟩ := exists_metres (ne_negativeNaN hy)
  exact Decimal.le_of_totalPlace_le hy h

theorem totalPlace_le_iff (hx : x ≠ negativeNaN) (hy : y.IsPlain) :
    x.totalPlace ≤ y.totalPlace ↔ x.value ≤ y.value ∨ y.isNaN = true := by
  obtain ⟨f, rfl⟩ := exists_metres hx
  obtain ⟨g, rfl⟩ := exists_metres hy.2
  exact Decimal.totalPlace_le_iff fun hz => hy.1 (congrArg metres hz)

/-! ### The smaller of two -/

theorem smaller_eq_or (x y : Distance) : x.smaller y = x ∨ x.smaller y = y := by
  unfold smaller
  split_ifs <;> simp

theorem totalPlace_smaller_le_left (y : Distance) (hx : x ≠ negativeNaN) :
    (x.smaller y).totalPlace ≤ x.totalPlace := by
  unfold smaller
  split_ifs with hxn hyn h
  · exact totalPlace_le_of_isNaN hx hxn
  · exact Int.le_refl _
  · obtain ⟨f, rfl⟩ := exists_metres hx
    obtain ⟨g, rfl⟩ := exists_metres (ne_negativeNaN (Bool.eq_false_iff.mpr hyn))
    exact Int.le_of_lt (Decimal.totalPlace_lt_of_place_lt h)
  · exact Int.le_refl _

theorem totalPlace_smaller_le_right (x : Distance) (hy : y.IsPlain) :
    (x.smaller y).totalPlace ≤ y.totalPlace := by
  unfold smaller
  split_ifs with hxn hyn h
  · exact Int.le_refl _
  · exact totalPlace_le_of_isNaN hy.2 hyn
  · exact Int.le_refl _
  · obtain ⟨f, rfl⟩ := exists_metres (ne_negativeNaN (Bool.eq_false_iff.mpr hxn))
    obtain ⟨g, rfl⟩ := exists_metres hy.2
    exact Decimal.totalPlace_le_of_place_le (fun hz => hy.1 (congrArg metres hz)) (Int.not_lt.mp h)

end Geocoding.Distance
