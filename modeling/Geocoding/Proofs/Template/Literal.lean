import Geocoding.Proofs.Template.Sequence
import Geocoding.Proofs.Text.Words
import Mathlib.Algebra.Order.BigOperators.Group.List
import Mathlib.Algebra.Order.Group.Nat

/-!
# Addresses as they are

A template is filled in part after part, so a value that holds the placeholder of a later part is filled in itself.
Where no value does, and the braces of the template are closed, every value stands in the result as it is.
-/

namespace Geocoding

namespace Template

variable {a : BuildingAddress} {t : Template} {line : List Char}

/-- The lines that are not blank, squeezed and joined with commas. -/
def joined (lines : List (List Char)) : String :=
  .ofList ([',', ' '].intercalate ((lines.map Text.squeeze).filter (!·.isEmpty)))

/-- The address on one line, with the parts inserted into each line of the template all at once. -/
def literal (t : Template) (a : BuildingAddress) : String :=
  joined ((linesOf t.text.toList).map (insertAll (parts a)))

/-- The place of a part in a template. -/
def placeholder (name : String) : List Char := '\x7b' :: name.toList ++ ['\x7d']

/-- The parts that are filled in before the city. -/
def beforeCity (a : BuildingAddress) : List (List Char × List Char) := (parts a).dropLast

theorem parts_eq_append (a : BuildingAddress) :
    parts a = beforeCity a ++ [(placeholder "city", (a.city.getD "").toList)] := rfl

theorem map_fst_beforeCity (a : BuildingAddress) :
    (beforeCity a).map Prod.fst = ["house", "road", "house_number", "postcode"].map placeholder := rfl

theorem arePlaced_parts (a : BuildingAddress) : ArePlaced (parts a) := by
  have hnames : (parts a).map Prod.fst = ["house", "road", "house_number", "postcode", "city"].map placeholder := rfl
  have hplain : ∀ name ∈ ["house", "road", "house_number", "postcode", "city"],
      '\x7b' ∉ name.toList ∧ '\x7d' ∉ name.toList := by decide
  refine ⟨fun part hp => ?_, by rw [hnames]; decide⟩
  obtain ⟨name, hname, hsame⟩ := List.mem_map.mp (hnames ▸ List.mem_map_of_mem hp)
  obtain ⟨hopen, hclose⟩ := hplain name hname
  exact hsame ▸ ⟨name.toList, hopen, hclose, rfl⟩

theorem format_eq_joined (t : Template) (a : BuildingAddress) :
    t.format a = joined ((linesOf t.text.toList).map (fill a)) := by
  rw [joined, List.map_map]
  rfl

/-- Joining the lines leaves every brace as often as it was. -/
theorem count_joined (lines : List (List Char)) : (joined lines).toList.count '\x7b' = lines.flatten.count '\x7b' := by
  rw [joined, String.toList_ofList, Text.count_intercalate (by decide), List.flatten_filter_not_isEmpty,
    List.count_flatten, List.count_flatten, List.map_map]
  exact congrArg List.sum (List.map_congr_left fun line _ => Text.count_squeeze (by decide) line)

theorem format_eq_literal_of_lines (h : ∀ line ∈ linesOf t.text.toList, fill a line = insertAll (parts a) line) :
    t.format a = t.literal a := by
  rw [format_eq_joined, literal, List.map_congr_left h]

theorem fill_eq_replaceAll (a : BuildingAddress) (line : List Char) :
    fill a line = replaceAll (placeholder "city") (a.city.getD "").toList
      ((beforeCity a).foldl (fun line part => replaceAll part.1 part.2 line) line) := rfl

theorem fill_of_absent (h : ∀ part ∈ beforeCity a, ¬ part.1 <:+: line) : fill a line = insertAll (parts a) line := by
  have hk : ArePlaced (beforeCity a ++ [(placeholder "city", (a.city.getD "").toList)]) := arePlaced_parts a
  rw [fill_eq_replaceAll, foldl_replaceAll_absent hk.left h, replaceAll_eq_insertAll, parts_eq_append,
    insertAll_absent hk h]

/-- Without a value that begins a later placeholder a line with closed braces is filled in as it should be. -/
theorem fill_of_closed (hvalues : (parts a).Pairwise fun earlier later => Inert later.1 earlier.2)
    (hline : Closed line) : fill a line = insertAll (parts a) line := by
  refine foldl_replaceAll_eq_insertAll (arePlaced_parts a) hvalues fun first part hpre => ?_
  exact keptApart_of_closed ((arePlaced_parts a).sublist hpre.sublist) hline

/-! ### A value that is filled in -/

/-- An address whose parts are called like the place of the city, which has no name. -/
def cityPlaces : BuildingAddress :=
  let place := some (String.ofList (placeholder "city"))
  ⟨place, place, place, place, none⟩

theorem value_cityPlaces : ∀ part ∈ beforeCity cityPlaces, part.2 = placeholder "city" := by decide

theorem fill_cityPlaces (line : List Char) :
    fill cityPlaces line =
      insertAll ((beforeCity cityPlaces).map (Prod.map id fun _ => []) ++ [(placeholder "city", [])]) line := by
  have hk : ArePlaced (beforeCity cityPlaces ++ [(placeholder "city", [])]) := arePlaced_parts cityPlaces
  have hopening : ∀ part ∈ beforeCity cityPlaces, part.2.head? = some '\x7b' := fun part hp => by
    rw [value_cityPlaces part hp]
    rfl
  have hbefore : (beforeCity cityPlaces).foldl (fun line part => replaceAll part.1 part.2 line) line =
      insertAll (beforeCity cityPlaces) line :=
    foldl_replaceAll_eq_insertAll hk.left (by decide) fun first part hpre =>
      keptApart_of_opening (hk.left.sublist hpre.sublist) fun p hp =>
        hopening p (hpre.subset (List.mem_append_left _ hp))
  have hvalue : ∀ part ∈ beforeCity cityPlaces, ∀ cs,
      insertAll [(placeholder "city", [])] (part.2 ++ cs) = [] ++ insertAll [(placeholder "city", [])] cs :=
    fun part hp cs => by
      rw [value_cityPlaces part hp, insertAll_placeholder hk.right List.mem_cons_self]
  calc fill cityPlaces line
      = replaceAll (placeholder "city") [] (insertAll (beforeCity cityPlaces) line) := by
        rw [fill_eq_replaceAll, hbefore]
        rfl
    _ = insertAll [(placeholder "city", [])] (insertAll (beforeCity cityPlaces) line) := replaceAll_eq_insertAll ..
    _ = _ := insertAll_insertAll hk hvalue (keptApart_of_opening hk hopening)

/-- Braces are lost where a value before the city is filled in. -/
theorem count_fill_cityPlaces (line : List Char) :
    (fill cityPlaces line).count '\x7b' ≤ (insertAll (parts cityPlaces) line).count '\x7b' ∧
      ∀ part ∈ beforeCity cityPlaces, part.1 <:+: line →
        (fill cityPlaces line).count '\x7b' < (insertAll (parts cityPlaces) line).count '\x7b' := by
  -- Every value before the city has a brace, and each of them is gone once the city is filled in.
  rw [fill_cityPlaces]
  refine count_insertAll_lt (arePlaced_parts cityPlaces) fun part hp => ?_
  rw [value_cityPlaces part hp]
  decide

/-- A template that shows more than the city shows this address in another way. -/
theorem format_cityPlaces_ne_literal {part : List Char × List Char} (hline : line ∈ linesOf t.text.toList)
    (hpart : part ∈ beforeCity cityPlaces) (hin : part.1 <:+: line) :
    t.format cityPlaces ≠ t.literal cityPlaces := by
  intro h
  have hcount := congrArg (fun s => s.toList.count '\x7b') h
  rw [format_eq_joined, literal, count_joined, count_joined, List.count_flatten, List.count_flatten, List.map_map,
    List.map_map] at hcount
  refine Nat.ne_of_lt (List.sum_lt_sum _ _ (fun line _ => (count_fill_cityPlaces line).1) ?_) hcount
  exact ⟨line, hline, (count_fill_cityPlaces line).2 part hpart hin⟩

/-- Every address is shown as it is exactly by the templates that show at most the city. Any template whose braces are
closed shows an address as it is if no part of it begins a placeholder that is filled in later. -/
theorem format_eq_literal_iff (t : Template) :
    ((∀ a, t.format a = t.literal a) ↔
      ∀ line ∈ linesOf t.text.toList, ∀ name ∈ ["house", "road", "house_number", "postcode"],
        ¬ placeholder name <:+: line) ∧
      ∀ a, (∀ line ∈ linesOf t.text.toList, Closed line) →
        ((parts a).Pairwise fun earlier later => Inert later.1 earlier.2) → t.format a = t.literal a := by
  refine ⟨⟨fun hall line hline name hname hin => ?_, fun h a => ?_⟩, fun a hclosed hvalues => ?_⟩
  · have hkey : placeholder name ∈ (beforeCity cityPlaces).map Prod.fst := List.mem_map_of_mem hname
    obtain ⟨part, hpart, hsame⟩ := List.mem_map.mp hkey
    exact format_cityPlaces_ne_literal hline hpart (hsame ▸ hin) (hall cityPlaces)
  · refine format_eq_literal_of_lines fun line hline => fill_of_absent fun part hpart => ?_
    have hkey : part.1 ∈ (beforeCity a).map Prod.fst := List.mem_map_of_mem hpart
    obtain ⟨name, hname, hsame⟩ := List.mem_map.mp (map_fst_beforeCity a ▸ hkey)
    exact hsame ▸ h line hline name hname
  · exact format_eq_literal_of_lines fun line hline => fill_of_closed hvalues (hclosed line hline)

/-- Braces that begin no later placeholder do no harm, and the name of the city is inserted last. -/
theorem format_eq_literal_iff_standard :
    let a : BuildingAddress := ⟨some "Hof \x7b2\x7d", some "Main St", some "5", none, some "\x7bhouse\x7d"⟩
    (∀ line ∈ linesOf standard.text.toList, Closed line) ∧
      ((parts a).Pairwise fun earlier later => Inert later.1 earlier.2) ∧
      standard.format a = standard.literal a := by
  intro a
  have hclosed : ∀ line ∈ linesOf standard.text.toList, Closed line := by decide
  have hvalues : (parts a).Pairwise fun earlier later => Inert later.1 earlier.2 := by decide
  exact ⟨hclosed, hvalues, (format_eq_literal_iff standard).2 a hclosed hvalues⟩

/-- A house called like the place of the road is shown under the name of the road, and a house without a name makes a
place of the road from what is around it. -/
theorem house_filled_in :
    let named : BuildingAddress := ⟨some "\x7broad\x7d", some "Main St", none, none, none⟩
    let unnamed : BuildingAddress := ⟨none, some "Main St", none, none, none⟩
    standard.format named = "Main St, Main St" ∧ standard.literal named = "\x7broad\x7d, Main St" ∧
      format ⟨"\x7b\x7bhouse\x7droad\x7d"⟩ unnamed = "Main St" ∧
      literal ⟨"\x7b\x7bhouse\x7droad\x7d"⟩ unnamed = "\x7broad\x7d" := by
  decide

end Template

end Geocoding
