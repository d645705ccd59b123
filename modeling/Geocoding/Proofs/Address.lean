import Geocoding.Address
import Geocoding.Proofs.Text.Trim

/-!
# Normalized addresses

A part of an address counts if something in it is not blank. Normalizing keeps the cores of the parts that count and
drops the others, so that from then on a part is there exactly if it counts.
-/

namespace Geocoding.QueryAddress

open Text (isBlank IsCore)

variable {a : QueryAddress} {part : Option String} {t : String}

/-- Something in the part is not blank. -/
def Counts (part : Option String) : Prop := ∃ s, part = some s ∧ ∃ c ∈ s.toList, isBlank c = false

theorem cleaned_eq_some_iff : cleaned part = some t ↔ ∃ s, part = some s ∧ IsCore s t := by
  simp only [cleaned, Option.filter_eq_some_iff, Option.map_eq_some_iff, decide_eq_true_eq]
  constructor
  · rintro ⟨⟨s, hs, rfl⟩, hne⟩
    exact ⟨s, hs, Text.isCore_trim hne⟩
  · rintro ⟨s, hs, hcore⟩
    exact ⟨⟨s, hs, hcore.eq_trim.symm⟩, hcore.ne_empty⟩

theorem cleaned_isSome_iff : (cleaned part).isSome ↔ Counts part := by
  have hne (s : String) : Text.trim s ≠ "" ↔ ∃ c ∈ s.toList, isBlank c = false := by
    rw [ne_eq, Text.trim_eq_empty_iff]
    simp
  rw [Option.isSome_iff_exists]
  constructor
  · rintro ⟨t, ht⟩
    obtain ⟨s, hs, hcore⟩ := cleaned_eq_some_iff.mp ht
    exact ⟨s, hs, (hne s).mp (hcore.eq_trim ▸ hcore.ne_empty)⟩
  · rintro ⟨s, hs, hc⟩
    exact ⟨_, cleaned_eq_some_iff.mpr ⟨s, hs, Text.isCore_trim ((hne s).mpr hc)⟩⟩

/-- What is left of a part is its own core. -/
theorem cleaned_cleaned (part : Option String) : cleaned (cleaned part) = cleaned part := by
  cases h : cleaned part with
  | none => rfl
  | some t =>
    obtain ⟨s, -, hcore⟩ := cleaned_eq_some_iff.mp h
    have ht : Text.trim t = t := Text.trim_of_isTrimmed hcore.isTrimmed
    refine cleaned_eq_some_iff.mpr ⟨t, rfl, ?_⟩
    have hself : IsCore t (Text.trim t) := Text.isCore_trim (ht.symm ▸ hcore.ne_empty)
    rwa [ht] at hself

theorem normalized_normalized (a : QueryAddress) : a.normalized.normalized = a.normalized := by
  simp only [normalized, cleaned_cleaned]

/-! ### The parts -/

/-- The names of the parts. -/
inductive Part where
  | road
  | houseNumber
  | postcode
  | city

def Part.of : Part → QueryAddress → Option String
  | .road => QueryAddress.road
  | .houseNumber => QueryAddress.houseNumber
  | .postcode => QueryAddress.postcode
  | .city => QueryAddress.city

theorem of_normalized (p : Part) (a : QueryAddress) : p.of a.normalized = cleaned (p.of a) := by
  cases p with
  | road => rfl
  | houseNumber => rfl
  | postcode => rfl
  | city => rfl

theorem isEmpty_iff : a.isEmpty = true ↔ ∀ p : Part, ¬ (p.of a).isSome := by
  simp only [isEmpty, Bool.and_eq_true, Option.isNone_iff_eq_none, Option.not_isSome_iff_eq_none]
  constructor
  · rintro ⟨⟨⟨hroad, hnumber⟩, hpostcode⟩, hcity⟩ p
    cases p with
    | road => exact hroad
    | houseNumber => exact hnumber
    | postcode => exact hpostcode
    | city => exact hcity
  · intro h
    exact ⟨⟨⟨h .road, h .houseNumber⟩, h .postcode⟩, h .city⟩

theorem isEmpty_normalized_iff : a.normalized.isEmpty = true ↔ ∀ p : Part, ¬ Counts (p.of a) := by
  rw [isEmpty_iff]
  refine forall_congr' fun p => not_congr ?_
  rw [of_normalized, cleaned_isSome_iff]

theorem select_eq_iff (a : QueryAddress) :
    (Strategy.select a = .byPostcode ↔ a.postcode.isSome) ∧
      (Strategy.select a = .byCity ↔ ¬ a.postcode.isSome ∧ a.city.isSome) ∧
      (Strategy.select a = .byRoad ↔ ¬ a.postcode.isSome ∧ ¬ a.city.isSome) := by
  unfold Strategy.select
  cases a.postcode with
  | some s => simp
  | none =>
    cases a.city with
    | some s => simp
    | none => simp

/-- A normalized address has the cores of exactly the parts that count, and is its own normal form. It is empty if no
part counts, and else the way to search for it depends on whether the postcode counts, and if not, whether the city
does. -/
theorem normalized_keeps_cores (a : QueryAddress) :
    (∀ p : Part, ((p.of a.normalized).isSome ↔ Counts (p.of a)) ∧
      ∀ t, p.of a.normalized = some t ↔ ∃ s, p.of a = some s ∧ IsCore s t) ∧
    a.normalized.normalized = a.normalized ∧
    (a.normalized.isEmpty = true ↔ ∀ p : Part, ¬ Counts (p.of a)) ∧
    (Strategy.select a.normalized = .byPostcode ↔ Counts a.postcode) ∧
    (Strategy.select a.normalized = .byCity ↔ ¬ Counts a.postcode ∧ Counts a.city) ∧
    (Strategy.select a.normalized = .byRoad ↔ ¬ Counts a.postcode ∧ ¬ Counts a.city) := by
  obtain ⟨hpostcode, hcity, hroad⟩ := select_eq_iff a.normalized
  have hp : a.normalized.postcode.isSome ↔ Counts a.postcode := cleaned_isSome_iff
  have hc : a.normalized.city.isSome ↔ Counts a.city := cleaned_isSome_iff
  rw [hp] at hpostcode hcity hroad
  rw [hc] at hcity hroad
  refine ⟨fun p => ⟨?_, fun t => ?_⟩, normalized_normalized a, isEmpty_normalized_iff, hpostcode, hcity, hroad⟩
  · rw [of_normalized, cleaned_isSome_iff]
  · rw [of_normalized, cleaned_eq_some_iff]

example : normalized ⟨some "  Main St\u3000", some "", some " \t", .none⟩ = ⟨some "Main St", .none, .none, .none⟩ := by
  decide

end Geocoding.QueryAddress
