import Geocoding.Proofs.Nearest.Ranking

/-!
# Finds in another order

The order in which buildings are found decides only between addresses that are equally near. What has been collapsed is
collapsed already.
-/

namespace Geocoding.Nearby

variable {gs gs' rows rows' : List Nearby}

/-! ### Another order -/

theorem pairwise_totalPlace_sorted (rows : List Nearby) :
    ((grouped rows).mergeSort isNearer).Pairwise fun g g' => g.distance.totalPlace ≤ g'.distance.totalPlace :=
  (pairwise_sorted rows).imp And.left

/-- The same entries sorted by distance are at the same distances, one after the other. -/
theorem map_distance_eq_of_perm (hp : gs.Perm gs')
    (h : gs.Pairwise fun g g' => g.distance.totalPlace ≤ g'.distance.totalPlace)
    (h' : gs'.Pairwise fun g g' => g.distance.totalPlace ≤ g'.distance.totalPlace) :
    gs.map (·.distance) = gs'.map (·.distance) := by
  have hs : (gs.map (·.distance)).Pairwise fun x y => x.totalPlace ≤ y.totalPlace := List.pairwise_map.mpr h
  have hs' : (gs'.map (·.distance)).Pairwise fun x y => x.totalPlace ≤ y.totalPlace := List.pairwise_map.mpr h'
  refine (hp.map (·.distance)).eq_of_pairwise (fun x y _ _ hle hge => ?_) hs hs'
  exact Distance.totalPlace_injective (Int.le_antisymm hle hge)

theorem sorted_perm (hz : ∀ r ∈ rows, r.distance.IsPlain) (hp : rows.Perm rows') :
    ((grouped rows).mergeSort isNearer).Perm ((grouped rows').mergeSort isNearer) :=
  (isRanking_sorted hz).perm hz (isRanking_sorted fun r hr => hz r (hp.mem_iff.mpr hr)) hp

theorem addressCount_eq_of_perm (hz : ∀ r ∈ rows, r.distance.IsPlain) (hp : rows.Perm rows') :
    addressCount rows = addressCount rows' := by
  have hl := (sorted_perm hz hp).length_eq
  rwa [List.length_mergeSort, List.length_mergeSort, length_grouped, length_grouped] at hl

/-! ### Collapsing twice -/

theorem collapse_collapse (rows : List Nearby) (limit : Nat) :
    collapse (collapse rows limit) limit = collapse rows limit := by
  let ranked := (grouped rows).mergeSort isNearer
  have honce : ((collapse rows limit).map (·.address)).Nodup := by
    refine List.Nodup.sublist ((List.take_sublist limit ranked).map _) ?_
    exact ((List.mergeSort_perm _ _).map _).nodup_iff.mpr (nodup_address_grouped rows)
  have hsorted : (collapse rows limit).Pairwise fun g g' => isNearer g g' = true :=
    (List.pairwise_mergeSort isNearer_trans isNearer_total (grouped rows)).sublist (List.take_sublist limit ranked)
  rw [collapse_of_sorted honce hsorted, collapse, List.take_take, Nat.min_self]

/-- Finds in another order are collapsed to the same distances, one after the other. Where the limit has room for every
address they are collapsed to the same entries, in another order only among those that are equally near. Collapsing
again changes nothing. -/
theorem collapse_of_perm :
    (∀ rows rows' : List Nearby, (∀ r ∈ rows, r.distance.IsPlain) → rows.Perm rows' → ∀ limit,
      (collapse rows limit).map (·.distance) = (collapse rows' limit).map (·.distance) ∧
        (addressCount rows ≤ limit → (collapse rows limit).Perm (collapse rows' limit) ∧
          ∀ d, ((collapse rows limit).filter (·.distance = d)).Perm
            ((collapse rows' limit).filter (·.distance = d)))) ∧
      ∀ (rows : List Nearby) (limit : Nat), collapse (collapse rows limit) limit = collapse rows limit := by
  refine ⟨fun rows rows' hz hp limit => ⟨?_, fun hroom => ?_⟩, collapse_collapse⟩
  · have hd := map_distance_eq_of_perm (sorted_perm hz hp) (pairwise_totalPlace_sorted rows)
      (pairwise_totalPlace_sorted rows')
    rw [collapse, collapse, List.map_take, List.map_take, hd]
  · have hroom' := hroom
    rw [addressCount_eq_of_perm hz hp] at hroom'
    rw [← length_grouped, ← List.length_mergeSort] at hroom hroom'
    have hperm : (collapse rows limit).Perm (collapse rows' limit) := by
      rw [collapse, collapse, List.take_of_length_le hroom, List.take_of_length_le hroom']
      exact sorted_perm hz hp
    exact ⟨hperm, fun d => hperm.filter _⟩

/-- Of three addresses at the same distance the limit of two leaves those found first; there is room for all at the
limit of four. -/
theorem collapse_of_perm_ties :
    let found (road : String) (distance : Float) : Nearby := ⟨⟨none, some road, none, none, none⟩, distance⟩
    let rows := [found "A" 2.0, found "B" 5.0, found "C" 2.0, found "B" 2.0, found "D" Decimal.notANumber]
    (∀ r ∈ rows, r.distance.IsPlain) ∧ rows.Perm rows.reverse ∧ addressCount rows ≤ 4 ∧
      (collapse rows 2).map (·.distance) = (collapse rows.reverse 2).map (·.distance) ∧
      (collapse rows 4).Perm (collapse rows.reverse 4) ∧
      collapse (collapse rows 2) 2 = collapse rows 2 := by
  intro found rows
  have hz : ∀ r ∈ rows, r.distance.IsPlain := by decide
  have hp : rows.Perm rows.reverse := (List.reverse_perm rows).symm
  have hroom : addressCount rows ≤ 4 := by decide
  obtain ⟨hperm, htwice⟩ := collapse_of_perm
  exact ⟨hz, hp, hroom, (hperm rows _ hz hp 2).1, ((hperm rows _ hz hp 4).2 hroom).1, htwice rows 2⟩

end Geocoding.Nearby
