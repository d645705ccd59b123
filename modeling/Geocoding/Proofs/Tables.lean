import Geocoding.Proofs.Checking
import Geocoding.Radii
import Geocoding.Tables

/-!
# Accepted names and radii

What is accepted is taken as it stands.
-/

namespace Geocoding

open Checking (bind_eq_ok_iff)
open Sql (Identifier)

theorem Sql.Identifier.text_of_ofString {name : String} {i : Identifier} (h : Identifier.ofString name = .ok i) :
    i.text = name := by
  unfold Identifier.ofString at h
  split at h
  · obtain rfl := Except.ok.inj h
    rfl
  · cases h

theorem Tables.text_of_ofNames {names : TableNames} {t : Tables} (h : Tables.ofNames names = .ok t) :
    t.buildings.text = names.buildings ∧ t.postcode.text = names.postcode ∧ t.admin.text = names.admin := by
  obtain ⟨buildings, hb, h⟩ := bind_eq_ok_iff.mp h
  obtain ⟨postcode, hp, h⟩ := bind_eq_ok_iff.mp h
  obtain ⟨admin, ha, h⟩ := bind_eq_ok_iff.mp h
  obtain rfl := Except.ok.inj h
  exact ⟨Identifier.text_of_ofString hb, Identifier.text_of_ofString hp, Identifier.text_of_ofString ha⟩

theorem Radii.toList_of_ofList {rs : List Float} {r : Radii} (h : Radii.ofList rs = .ok r) : r.toList = rs := by
  unfold Radii.ofList at h
  split at h
  · cases h
  · split at h
    · cases h
    · split at h
      · cases h
      · obtain rfl := Except.ok.inj h
        rfl

end Geocoding
