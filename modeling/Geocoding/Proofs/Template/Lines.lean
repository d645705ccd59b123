import Geocoding.Proofs.Text.Spacing
import Geocoding.Template

/-!
# Addresses on one line

Whatever the values of an address are, its parts stand on one line with single spaces in it. The line has a piece for
each line of the template that is not blank when it is filled in, and no value makes more pieces than that.
-/

namespace Geocoding

open Text (isBlank spaced squeeze IsSingleSpaced)

/-- The text with a space in the place of every blank, a line break for instance. -/
def Text.spacedText (s : String) : String := .ofList (s.toList.map spaced)

theorem Text.spacedText_spacedText (s : String) : spacedText (spacedText s) = spacedText s := by
  have h : spaced ∘ spaced = spaced := funext spaced_spaced
  rw [spacedText, spacedText, String.toList_ofList, List.map_map, h]

def BuildingAddress.spaced (a : BuildingAddress) : BuildingAddress :=
  ⟨a.house.map Text.spacedText, a.road.map Text.spacedText, a.houseNumber.map Text.spacedText,
    a.postcode.map Text.spacedText, a.city.map Text.spacedText⟩

theorem BuildingAddress.spaced_spaced (a : BuildingAddress) : a.spaced.spaced = a.spaced := by
  have h : Text.spacedText ∘ Text.spacedText = Text.spacedText := funext Text.spacedText_spacedText
  simp only [spaced, Option.map_map, h]

/-! ### Lines -/

/-- That `lines` are the lines of a text. A line ends at a line break, and a carriage return before the break belongs to
it; what is left after the last break is a line if there is anything left. -/
inductive IsLines : List Char → List (List Char) → Prop where
  | nil : IsLines [] []
  | last (line : List Char) (hne : line ≠ []) (h : '\n' ∉ line) : IsLines line [line]
  | feed (line rest : List Char) (lines : List (List Char)) (h : '\n' ∉ line) (hreturn : line.getLast? ≠ some '\r')
      (hrest : IsLines rest lines) : IsLines (line ++ '\n' :: rest) (line :: lines)
  | returnFeed (line rest : List Char) (lines : List (List Char)) (h : '\n' ∉ line) (hrest : IsLines rest lines) :
      IsLines (line ++ '\r' :: '\n' :: rest) (line :: lines)

section

variable {line rest cs : List Char} {lines : List (List Char)}

theorem beq_feed (h : '\n' ∉ line) : ∀ c ∈ line, (c == '\n') = false :=
  fun _ hc => beq_eq_false_iff_ne.mpr fun he => h (he ▸ hc)

theorem linesOf_of_unbroken (h : '\n' ∉ line) : linesOf line = if line.isEmpty then [] else [line] := by
  rw [linesOf, List.splitOnP_eq_singleton (beq_feed h)]
  rfl

theorem linesOf_feed (h : '\n' ∉ line) (rest : List Char) :
    linesOf (line ++ '\n' :: rest) = dropReturn line :: linesOf rest := by
  have hne : rest.splitOnP (· == '\n') ≠ [] := List.splitOnP_ne_nil _ _
  rw [linesOf, List.splitOnP_append_cons_of_forall_mem (beq_feed h) '\n' rfl, linesOf, List.dropLast_cons_of_ne_nil hne,
    List.getLast?_cons_of_ne_nil hne, List.map_cons, List.cons_append]

theorem dropReturn_concat (line : List Char) : dropReturn (line ++ ['\r']) = line := by
  rw [dropReturn, List.getLast?_concat, if_pos rfl, List.dropLast_concat]

theorem IsLines.eq_linesOf (h : IsLines cs lines) : lines = linesOf cs := by
  induction h with
  | nil => rfl
  | last line hne h => rw [linesOf_of_unbroken h, List.isEmpty_eq_false_iff.mpr hne, if_neg Bool.false_ne_true]
  | feed line rest lines h hreturn _ ih => rw [linesOf_feed h, dropReturn, if_neg hreturn, ih]
  | returnFeed line rest lines h _ ih =>
    have h' : '\n' ∉ line ++ ['\r'] := by simp [h]
    have hb := linesOf_feed h' rest
    rw [List.append_assoc, dropReturn_concat, ← ih] at hb
    exact hb.symm

theorem isLines_linesOf (cs : List Char) : IsLines cs (linesOf cs) := by
  induction hn : cs.length using Nat.strongRecOn generalizing cs with
  | ind n ih =>
    by_cases hmem : '\n' ∈ cs
    · obtain ⟨line, rest, rfl, hline⟩ := List.eq_append_cons_of_mem hmem
      have hlt : rest.length < n := by
        rw [← hn, List.length_append, List.length_cons]
        omega
      have hrest : IsLines rest (linesOf rest) := ih rest.length hlt rest rfl
      rw [linesOf_feed hline]
      by_cases hreturn : line.getLast? = some '\r'
      · obtain ⟨line, rfl⟩ := List.getLast?_eq_some_iff.mp hreturn
        rw [dropReturn_concat, List.append_assoc]
        exact .returnFeed line rest _ (fun h => hline (List.mem_append_left _ h)) hrest
      · rw [dropReturn, if_neg hreturn]
        exact .feed line rest _ hline hreturn hrest
    · rw [linesOf_of_unbroken hmem]
      cases cs with
      | nil => exact .nil
      | cons c cs => exact .last _ (List.cons_ne_nil _ _) hmem

/-- A text has its lines, and no others. -/
theorem isLines_iff : IsLines cs lines ↔ lines = linesOf cs := by
  refine ⟨IsLines.eq_linesOf, ?_⟩
  rintro rfl
  exact isLines_linesOf cs

end

/-! ### Blanks in values -/

section

variable {key value cs line : List Char} {parts : List (List Char × List Char)}

theorem isPrefixOf_map_spaced (hk : ∀ k ∈ key, isBlank k = false) (cs : List Char) :
    key.isPrefixOf (cs.map spaced) = key.isPrefixOf cs := by
  induction key generalizing cs with
  | nil => rfl
  | cons k key ih =>
    obtain ⟨hk, hkey⟩ := List.forall_mem_cons.mp hk
    cases cs with
    | nil => rfl
    | cons c cs =>
      have hkc : (k == spaced c) = (k == c) := by
        rw [Bool.eq_iff_iff, beq_iff_eq, beq_iff_eq, eq_comm, Text.spaced_eq_iff hk, eq_comm]
      rw [List.map_cons, List.isPrefixOf_cons_cons, List.isPrefixOf_cons_cons, hkc, ih hkey]

theorem replaceAll_map_spaced (hk : ∀ k ∈ key, isBlank k = false) (value cs : List Char) :
    replaceAll key (value.map spaced) (cs.map spaced) = (replaceAll key value cs).map spaced := by
  have hfrom (skip : Nat) :
      replaceFrom key (value.map spaced) skip (cs.map spaced) = (replaceFrom key value skip cs).map spaced := by
    induction cs generalizing skip with
    | nil => cases skip <;> rfl
    | cons c cs ih =>
      cases skip with
      | succ skip => exact ih skip
      | zero =>
        have hpre := isPrefixOf_map_spaced hk (c :: cs)
        rw [List.map_cons] at hpre ⊢
        rw [replaceFrom, replaceFrom, hpre, ih, ih]
        split
        · rw [List.map_append]
        · rw [List.map_cons]
  exact hfrom 0

theorem foldl_replaceAll_map_spaced (hk : ∀ part ∈ parts, ∀ k ∈ part.1, isBlank k = false) (line : List Char) :
    (parts.map (Prod.map id (List.map spaced))).foldl (fun line part => replaceAll part.1 part.2 line)
        (line.map spaced) =
      (parts.foldl (fun line part => replaceAll part.1 part.2 line) line).map spaced := by
  induction parts generalizing line with
  | nil => rfl
  | cons part parts ih =>
    obtain ⟨hpart, hparts⟩ := List.forall_mem_cons.mp hk
    rw [List.map_cons, List.foldl_cons, List.foldl_cons, Prod.map_fst, Prod.map_snd, id,
      replaceAll_map_spaced hpart, ih hparts]

end

namespace Template

theorem parts_spaced (a : BuildingAddress) :
    parts a.spaced = (parts a).map (Prod.map id (List.map spaced)) := by
  have hpart (s : Option String) : ((s.map Text.spacedText).getD "").toList = (s.getD "").toList.map spaced := by
    cases s <;> simp [Text.spacedText]
  simp [parts, BuildingAddress.spaced, hpart]

theorem not_isBlank_parts (a : BuildingAddress) : ∀ part ∈ parts a, ∀ k ∈ part.1, isBlank k = false := by
  have hnames : (parts a).map Prod.fst = (parts ⟨none, none, none, none, none⟩).map Prod.fst := rfl
  have hplain : ∀ key ∈ (parts ⟨none, none, none, none, none⟩).map Prod.fst, key.all (!isBlank ·) = true := by decide
  intro part hpart k hk
  have hall := hplain part.1 (hnames ▸ List.mem_map_of_mem hpart)
  simpa using List.all_eq_true.mp hall k hk

theorem fill_map_spaced (a : BuildingAddress) (line : List Char) :
    fill a.spaced (line.map spaced) = (fill a line).map spaced := by
  have h := foldl_replaceAll_map_spaced (not_isBlank_parts a) line
  rw [← parts_spaced] at h
  exact h

/-- A line is squeezed to the same whatever blanks the values have. -/
theorem squeeze_fill_spaced (a : BuildingAddress) (line : List Char) :
    squeeze (fill a.spaced line) = squeeze (fill a line) := by
  have h := fill_map_spaced a.spaced line
  rw [a.spaced_spaced, fill_map_spaced a] at h
  rw [← Text.squeeze_map_spaced (fill a.spaced line), ← h, Text.squeeze_map_spaced]

/-! ### Pieces -/

variable (t : Template) (a : BuildingAddress)

/-- The lines of a template, filled in. -/
def rendered : List (List Char) := (linesOf t.text.toList).map (fill a)

theorem toList_format : (t.format a).toList = [',', ' '].intercalate (t.pieces a) := String.toList_ofList

theorem pieces_eq_map_squeeze :
    t.pieces a = ((t.rendered a).filter fun line => !line.all isBlank).map squeeze := by
  have hblank (line : List Char) : (!(squeeze line).isEmpty) = !line.all isBlank := by
    rw [Bool.not_inj_iff, Bool.eq_iff_iff, List.isEmpty_iff, List.all_eq_true, Text.squeeze_eq_nil_iff]
  have hmap : t.pieces a = ((t.rendered a).map squeeze).filter (!·.isEmpty) := by
    rw [rendered, List.map_map]
    rfl
  rw [hmap, List.filter_map]
  exact congrArg (List.map squeeze) (List.filter_congr fun line _ => hblank line)

theorem pieces_spaced : t.pieces a.spaced = t.pieces a := by
  have hline : (fun line => squeeze (fill a.spaced line)) = fun line => squeeze (fill a line) :=
    funext (squeeze_fill_spaced a)
  rw [pieces, pieces, hline]

theorem ne_nil_of_mem_pieces : ∀ piece ∈ t.pieces a, piece ≠ [] := by
  intro piece hp
  obtain ⟨-, hne⟩ := List.mem_filter.mp hp
  rintro rfl
  cases hne

theorem isSingleSpaced_of_mem_pieces : ∀ piece ∈ t.pieces a, IsSingleSpaced piece := by
  intro piece hp
  rw [pieces_eq_map_squeeze] at hp
  obtain ⟨line, -, rfl⟩ := List.mem_map.mp hp
  exact Text.isSingleSpaced_squeeze line

theorem length_pieces_le : (t.pieces a).length ≤ (linesOf t.text.toList).length := by
  have h := List.length_filter_le (!·.isEmpty) ((linesOf t.text.toList).map fun line => squeeze (fill a line))
  rw [List.length_map] at h
  exact h

theorem isSingleSpaced_format : IsSingleSpaced (t.format a).toList := by
  have hcomma : ∀ c ∈ [','], isBlank c = false := List.forall_mem_singleton.mpr (by decide)
  rw [toList_format]
  exact .intercalate hcomma fun piece hp =>
    ⟨t.ne_nil_of_mem_pieces a piece hp, t.isSingleSpaced_of_mem_pieces a piece hp⟩

theorem format_eq_empty_iff : t.format a = "" ↔ ∀ line ∈ t.rendered a, ∀ c ∈ line, isBlank c = true := by
  have hpieces : t.format a = "" ↔ t.pieces a = [] := by
    rw [← String.toList_inj, toList_format]
    constructor
    · intro h
      by_contra hne
      exact Text.intercalate_ne_nil (t.ne_nil_of_mem_pieces a) hne h
    · intro h
      rw [h]
      rfl
  rw [hpieces, pieces_eq_map_squeeze, List.map_eq_nil_iff, List.filter_eq_nil_iff]
  simp

/-- The formatted address is in normal form, and its pieces are those lines of the template that are not blank when
they are filled in. Other blanks in the values, line breaks for instance, make no other pieces. -/
theorem format_normal_form :
    (IsSingleSpaced (t.format a).toList ∧ squeeze (t.format a).toList = (t.format a).toList) ∧
      ((t.format a).toList = [',', ' '].intercalate (t.pieces a) ∧
        t.pieces a = ((t.rendered a).filter fun line => !line.all isBlank).map squeeze ∧
        (∀ piece ∈ t.pieces a, piece ≠ [] ∧ IsSingleSpaced piece) ∧
        (t.pieces a).length ≤ (linesOf t.text.toList).length ∧
        ∀ lines, IsLines t.text.toList lines ↔ lines = linesOf t.text.toList) ∧
      t.pieces a.spaced = t.pieces a ∧
      (t.format a = "" ↔ ∀ line ∈ t.rendered a, ∀ c ∈ line, isBlank c = true) := by
  have hspaced := t.isSingleSpaced_format a
  refine ⟨⟨hspaced, Text.squeeze_of_isSingleSpaced hspaced⟩, ⟨t.toList_format a, t.pieces_eq_map_squeeze a, ?_,
    t.length_pieces_le a, fun _ => isLines_iff⟩, t.pieces_spaced a, t.format_eq_empty_iff a⟩
  exact fun piece hp => ⟨t.ne_nil_of_mem_pieces a piece hp, t.isSingleSpaced_of_mem_pieces a piece hp⟩

end Template

end Geocoding
