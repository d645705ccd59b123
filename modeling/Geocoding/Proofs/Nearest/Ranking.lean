import Geocoding.Decimal.Reading
import Geocoding.Proofs.Nearest
import Mathlib.Data.List.Nodup

/-!
# The ranking of the addresses found

Some finds rank their addresses: each stands once, at the smallest of its distances, from the nearest to the farthest.
There is one such ranking, and collapsing finds cuts it off at the limit.
-/

namespace Geocoding.Nearby

variable {g g' : Nearby} {gs gs' rows rows' : List Nearby} {a : BuildingAddress} {d : Distance} {limit : Nat}

/-! ### Rankings -/

deriving instance DecidableEq for Nearby

/-- That `d` is the smallest distance at which `a` was found. It is no number only if none of them is. -/
structure IsLeast (rows : List Nearby) (a : BuildingAddress) (d : Distance) : Prop where
  found : ⟨a, d⟩ ∈ rows
  least : ∀ r ∈ rows, r.address = a → r.distance.isNaN = false → d.value ≤ r.distance.value

/-- That one entry may stand before another: it is not farther, and of two equally far ones it was found first. What
is not a number is farther than every number. -/
structure Precedes (rows : List Nearby) (g g' : Nearby) : Prop where
  nearer : g.distance.value ≤ g'.distance.value ∨ g'.distance.isNaN = true
  first : g.distance = g'.distance → firstAt rows g.address < firstAt rows g'.address

/-- That `gs` is the ranking of the addresses found. -/
structure IsRanking (rows gs : List Nearby) : Prop where
  once : (gs.map (·.address)).Nodup
  complete : ∀ r ∈ rows, r.address ∈ gs.map (·.address)
  least : ∀ g ∈ gs, IsLeast rows g.address g.distance
  order : gs.Pairwise (Precedes rows)

instance : Decidable (IsLeast rows a d) :=
  decidable_of_iff (⟨a, d⟩ ∈ rows ∧ ∀ r ∈ rows, r.address = a → r.distance.isNaN = false → d.value ≤ r.distance.value)
    ⟨fun h => ⟨h.1, h.2⟩, fun h => ⟨h.found, h.least⟩⟩

instance : Decidable (Precedes rows g g') :=
  decidable_of_iff ((g.distance.value ≤ g'.distance.value ∨ g'.distance.isNaN = true) ∧
      (g.distance = g'.distance → firstAt rows g.address < firstAt rows g'.address))
    ⟨fun h => ⟨h.1, h.2⟩, fun h => ⟨h.nearer, h.first⟩⟩

instance : Decidable (IsRanking rows gs) :=
  decidable_of_iff ((gs.map (·.address)).Nodup ∧ (∀ r ∈ rows, r.address ∈ gs.map (·.address)) ∧
      (∀ g ∈ gs, IsLeast rows g.address g.distance) ∧ gs.Pairwise (Precedes rows))
    ⟨fun h => ⟨h.1, h.2.1, h.2.2.1, h.2.2.2⟩, fun h => ⟨h.once, h.complete, h.least, h.order⟩⟩

theorem isLeast_of_perm (hp : rows.Perm rows') : IsLeast rows a d ↔ IsLeast rows' a d := by
  constructor
  · rintro ⟨hfound, hleast⟩
    exact ⟨hp.mem_iff.mp hfound, fun r hr => hleast r (hp.mem_iff.mpr hr)⟩
  · rintro ⟨hfound, hleast⟩
    exact ⟨hp.mem_iff.mpr hfound, fun r hr => hleast r (hp.mem_iff.mp hr)⟩

/-- How many addresses were found. -/
def addressCount (rows : List Nearby) : Nat := (rows.map (·.address)).eraseDups.length

/-! ### The groups of the finds -/

theorem nodup_address_grouped (rows : List Nearby) : ((grouped rows).map (·.address)).Nodup := by
  refine List.pairwise_map.mpr ((firstAt_pairwise_grouped rows).imp fun hlt heq => ?_)
  rw [heq] at hlt
  exact Nat.lt_irrefl _ hlt

theorem length_grouped (rows : List Nearby) : (grouped rows).length = addressCount rows := by
  rw [addressCount, ← address_grouped, List.length_map]

theorem mem_address_grouped_iff : a ∈ (grouped rows).map (·.address) ↔ a ∈ rows.map (·.address) := by
  rw [address_grouped, List.mem_eraseDups]

section

variable (hz : ∀ r ∈ rows, r.distance.IsPlain)
include hz

theorem totalPlace_le_iff_of_mem (hg : g ∈ rows) (hg' : g' ∈ rows) :
    g.distance.totalPlace ≤ g'.distance.totalPlace ↔
      g.distance.value ≤ g'.distance.value ∨ g'.distance.isNaN = true :=
  Distance.totalPlace_le_iff (hz g hg).2 (hz g' hg')

/-- The smallest distance of an address comes before all others. -/
theorem IsLeast.totalPlace_le (h : IsLeast rows a d) {r : Nearby} (hr : r ∈ rows) (ha : r.address = a) :
    d.totalPlace ≤ r.distance.totalPlace := by
  rw [totalPlace_le_iff_of_mem hz h.found hr]
  cases hn : r.distance.isNaN with
  | true => exact .inr rfl
  | false => exact .inl (h.least r hr ha hn)

/-- Two entries for one address at its smallest distance are one. -/
theorem IsLeast.unique (h : IsLeast rows g.address g.distance) (h' : IsLeast rows g'.address g'.distance)
    (ha : g.address = g'.address) : g = g' := by
  have hle : g.distance.totalPlace ≤ g'.distance.totalPlace := h.totalPlace_le hz h'.found ha.symm
  have hge : g'.distance.totalPlace ≤ g.distance.totalPlace := h'.totalPlace_le hz h.found ha
  have hd : g.distance = g'.distance := Distance.totalPlace_injective (Int.le_antisymm hle hge)
  cases g
  cases g'
  simp_all

theorem isLeast_of_mem_grouped (hg : g ∈ grouped rows) : IsLeast rows g.address g.distance := by
  have hmem : g ∈ rows := mem_of_mem_grouped hg
  refine ⟨hmem, fun r hr ha hn => ?_⟩
  obtain ⟨g', hg', ha', hle⟩ := exists_group hz hr
  have heq : g' = g := List.inj_on_of_nodup_map (nodup_address_grouped rows) hg' hg (ha'.trans ha)
  rw [heq] at hle
  exact Distance.le_of_totalPlace_le (hz g hmem).2 hn hle

/-! ### The ranking -/

theorem isRanking_sorted : IsRanking rows ((grouped rows).mergeSort isNearer) where
  once := ((List.mergeSort_perm _ _).map _).nodup_iff.mpr (nodup_address_grouped rows)
  complete r hr := by
    rw [((List.mergeSort_perm (grouped rows) isNearer).map _).mem_iff, mem_address_grouped_iff]
    exact List.mem_map_of_mem hr
  least g hg := isLeast_of_mem_grouped hz (List.mem_mergeSort.mp hg)
  order := by
    refine (pairwise_sorted rows).imp_of_mem fun {g g'} hg hg' h => ⟨?_, fun hd => h.2 (by rw [hd])⟩
    have hg : g ∈ rows := mem_of_mem_grouped (List.mem_mergeSort.mp hg)
    have hg' : g' ∈ rows := mem_of_mem_grouped (List.mem_mergeSort.mp hg')
    exact (totalPlace_le_iff_of_mem hz hg hg').mp h.1

theorem Precedes.asymm (hg : g ∈ rows) (hg' : g' ∈ rows) (h : Precedes rows g g') : ¬ Precedes rows g' g := by
  intro h'
  have hle := (totalPlace_le_iff_of_mem hz hg hg').mpr h.nearer
  have hge := (totalPlace_le_iff_of_mem hz hg' hg).mpr h'.nearer
  have hd : g.distance = g'.distance := Distance.totalPlace_injective (Int.le_antisymm hle hge)
  exact Nat.lt_asymm (h.first hd) (h'.first hd.symm)

/-- The entries of a ranking are the addresses found at the smallest of their distances. -/
theorem IsRanking.mem_iff (h : IsRanking rows gs) : g ∈ gs ↔ IsLeast rows g.address g.distance := by
  refine ⟨h.least g, fun hl => ?_⟩
  obtain ⟨g', hg', ha⟩ := List.mem_map.mp (h.complete _ hl.found)
  obtain rfl : g' = g := (h.least g' hg').unique hz hl ha
  exact hg'

/-- Finds in another order give the same entries. -/
theorem IsRanking.perm (h : IsRanking rows gs) (h' : IsRanking rows' gs') (hp : rows.Perm rows') : gs.Perm gs' := by
  have hz' : ∀ r ∈ rows', r.distance.IsPlain := fun r hr => hz r (hp.mem_iff.mpr hr)
  refine (List.perm_ext_iff_of_nodup (List.Nodup.of_map _ h.once) (List.Nodup.of_map _ h'.once)).mpr fun g => ?_
  rw [h.mem_iff hz, h'.mem_iff hz', isLeast_of_perm hp]

/-- There is one ranking. -/
theorem IsRanking.unique (h : IsRanking rows gs) (h' : IsRanking rows gs') : gs = gs' := by
  refine (h.perm hz h' (.refl rows)).eq_of_pairwise (fun g g' hg hg' hp hp' => ?_) h.order h'.order
  exact absurd hp' (hp.asymm hz (h.least g hg).found (h'.least g' hg').found)

end

theorem IsRanking.length (h : IsRanking rows gs) : gs.length = addressCount rows := by
  have hperm : (gs.map (·.address)).Perm (rows.map (·.address)).eraseDups := by
    refine (List.perm_ext_iff_of_nodup h.once (address_grouped rows ▸ nodup_address_grouped rows)).mpr fun a => ?_
    rw [List.mem_eraseDups]
    constructor
    · intro ha
      obtain ⟨g, hg, rfl⟩ := List.mem_map.mp ha
      exact List.mem_map.mpr ⟨_, (h.least g hg).found, rfl⟩
    · intro ha
      obtain ⟨r, hr, rfl⟩ := List.mem_map.mp ha
      exact h.complete r hr
  rw [← List.length_map, hperm.length_eq, addressCount]

/-- What the limit cuts off is not nearer than what it leaves. -/
theorem IsRanking.nearer_of_cut (h : IsRanking rows gs) (hg : g ∈ gs.take limit) (hg' : g' ∈ gs.drop limit) :
    g.distance.value ≤ g'.distance.value ∨ g'.distance.isNaN = true := by
  have ho := h.order
  rw [← List.take_append_drop limit gs, List.pairwise_append] at ho
  exact (ho.2.2 g hg g' hg').nearer

/-- Collapsing finds leaves the first `limit` entries of their ranking. So no address stands there twice, none is
left out that the limit has room for, what is left out is not nearer than what is there, and a smaller limit leaves
a beginning of what a larger one does. -/
theorem collapse_eq_take_ranking (rows : List Nearby) (hz : ∀ r ∈ rows, r.distance.IsPlain) :
    ∃ gs, IsRanking rows gs ∧ (∀ gs', IsRanking rows gs' → gs' = gs) ∧
      ∀ limit, collapse rows limit = gs.take limit ∧
        (collapse rows limit).length = min limit (addressCount rows) ∧
        ((collapse rows limit).map (·.address)).Nodup ∧
        (addressCount rows ≤ limit → ∀ r ∈ rows, r.address ∈ (collapse rows limit).map (·.address)) ∧
        (∀ g ∈ collapse rows limit, ∀ g' ∈ gs, g' ∉ collapse rows limit →
          g.distance.value ≤ g'.distance.value ∨ g'.distance.isNaN = true) ∧
        ∀ larger, limit ≤ larger → collapse rows limit <+: collapse rows larger := by
  have h := isRanking_sorted hz
  refine ⟨_, h, fun gs' h' => h'.unique hz h, fun limit => ⟨rfl, ?_, ?_, ?_, ?_, ?_⟩⟩
  · rw [collapse, List.length_take, h.length]
  · exact h.once.sublist ((List.take_sublist ..).map _)
  · intro hroom r hr
    rw [← h.length] at hroom
    rw [collapse, List.take_of_length_le hroom]
    exact h.complete r hr
  · intro g hg g' hg' hcut
    rw [← List.take_append_drop limit ((grouped rows).mergeSort isNearer), List.mem_append] at hg'
    exact h.nearer_of_cut hg (hg'.resolve_left hcut)
  · intro larger hle
    exact List.take_prefix_take_left hle

/-- Two addresses are equally near, the one found first only by its last find, and two are at no distance at all. -/
theorem collapse_eq_take_ranking_ties :
    let found (road : String) (distance : Float) : Nearby := ⟨⟨none, some road, none, none, none⟩, distance⟩
    let rows := [found "A" 3.0, found "B" Decimal.notANumber, found "C" 1.0, found "A" 1.0, found "B" 2.0,
      found "D" Decimal.notANumber, found "E" Decimal.notANumber]
    (∀ r ∈ rows, r.distance.IsPlain) ∧
      IsRanking rows
        [found "A" 1.0, found "C" 1.0, found "B" 2.0, found "D" Decimal.notANumber, found "E" Decimal.notANumber] ∧
      collapse rows 4 = [found "A" 1.0, found "C" 1.0, found "B" 2.0, found "D" Decimal.notANumber] := by
  intro found rows
  have hz : ∀ r ∈ rows, r.distance.IsPlain := by decide
  have hr : IsRanking rows
      [found "A" 1.0, found "C" 1.0, found "B" 2.0, found "D" Decimal.notANumber, found "E" Decimal.notANumber] := by
    decide
  obtain ⟨gs, -, hunique, hlimit⟩ := collapse_eq_take_ranking rows hz
  obtain rfl := hunique _ hr
  exact ⟨hz, hr, (hlimit 4).1⟩

end Geocoding.Nearby
