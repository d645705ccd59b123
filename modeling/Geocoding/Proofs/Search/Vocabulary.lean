import Geocoding.Proofs.Sql.Announcement
import Geocoding.Ring

/-!
# The words of searches and rings

All fixed words that a search or a ring is written with. What is checked of the words, one by one, holds of every
text that they make with names and slots between them: no phrase that is looked for can begin in one piece and
end in another.
-/

namespace Geocoding.Search

open Sql

def vocabulary : List String :=
  [addressColumns ++ "(", "b.road <-> ", "0", ")::float8 AS trgm_dist, ",
    "ST_X(ST_Centroid(b.geometry)) AS x, ST_Y(ST_Centroid(b.geometry)) AS y",
    ", ST_Distance(ST_Centroid(b.geometry), ", "ST_SetSRID(ST_MakePoint(", ", ",
    "), " ++ Text.signedNumeral webMercator ++ ")", ") AS dist",
    " FROM ", " pc JOIN ", " a JOIN ", " b", " LEFT JOIN ",
    " b ON ST_Contains(pc.geometry, ST_Centroid(b.geometry))",
    " b ON ST_Contains(a.geometry, ST_Centroid(b.geometry))",
    " pc ON ST_Contains(pc.geometry, ST_Centroid(b.geometry))",
    " a ON (a.admin_level = " ++ Text.numeral cityLevel ++
      " AND ST_Contains(a.geometry, ST_Centroid(b.geometry)))",
    " WHERE ", " AND ", "pc.postcode = ", "a.name % ", "a.admin_level = " ++ Text.numeral cityLevel,
    "b.road % ", "b.house_number % ", " ORDER BY ", SortTerm.text ⟨.centre, .ascending⟩,
    SortTerm.text ⟨.trigram, .descending⟩, " LIMIT ",
    -- Only in rings.
    addressColumns, "ST_Distance(b.geometry, ", ") AS distance", " WHERE ST_DWithin(b.geometry, ", ")",
    " ORDER BY distance ASC LIMIT "]

/-- The phrases that values are found by, the words in which each stands, and what these have after it. -/
def announcements : List (String × String × String) :=
  [("b.road <->", "b.road <-> ", " "), ("b.road %", "b.road % ", " "),
    ("b.house_number %", "b.house_number % ", " "), ("pc.postcode =", "pc.postcode = ", " "),
    ("a.name %", "a.name % ", " "), ("ST_MakePoint(", "ST_SetSRID(ST_MakePoint(", ""),
    ("ST_DWithin(", " WHERE ST_DWithin(b.geometry, ", "b.geometry, ")]

def commentMarks : List String := ["--", "/*"]

def Checked (w : String) : Prop :=
  w.toList.all (fun c => isPlain c && c != '$') = true ∧
  (∀ m ∈ commentMarks, Apart m.toList w.toList ∧ following m.toList w.toList = []) ∧
  ∀ a ∈ announcements, Apart a.1.toList w.toList ∧
    following a.1.toList w.toList = if w = a.2.1 then [a.2.2.toList] else []

instance (w : String) : Decidable (Checked w) := inferInstanceAs (Decidable (_ ∧ _ ∧ _))

theorem checked_vocabulary : ∀ w ∈ vocabulary, Checked w := by decide +kernel

theorem plain_of_mem_vocabulary {w : String} (hw : w ∈ vocabulary) {c : Char} (hc : c ∈ w.toList) :
    isPlain c = true ∧ c ≠ '$' := by
  have h := List.all_eq_true.mp (checked_vocabulary w hw).1 c hc
  simpa using h

/-- A piece whose words, if it is words, are known. -/
def Known : Piece → Prop
  | .words w => w ∈ vocabulary
  | _ => True

def phrases : List String := announcements.map (·.1) ++ commentMarks

theorem last_of_phrase : ∀ s ∈ phrases, s.toList.getLast?.any fun c =>
    !(isSegmentChar c || c == '.' || c == '$') := by
  decide +kernel

theorem char_of_name_or_slot {p : Piece} (h : ∀ w, p ≠ .words w) {c : Char} (hc : c ∈ p.text.toList) :
    (isSegmentChar c || c == '.' || c == '$') = true := by
  cases p with
  | words w => exact absurd rfl (h w)
  | name i =>
    obtain h | rfl := i.isSegmentChar_or hc
    · simp [h]
    · rfl
  | slot n =>
    rw [Piece.text_slot, toList_slotText] at hc
    obtain rfl | hc := List.mem_cons.mp hc
    · rfl
    · simp [isSegmentChar, Char.isAlphanum, isDigit_toDigits hc]

/-- No phrase ends in a name or in a slot. -/
theorem exists_last_not_mem {s : String} (hs : s ∈ phrases) {p : Piece} (h : ∀ w, p ≠ .words w) :
    ∃ c, s.toList.getLast? = some c ∧ c ∉ p.text.toList := by
  obtain ⟨c, hl, hc⟩ := (Option.any_eq_true _ _).mp (last_of_phrase s hs)
  refine ⟨c, hl, fun hm => ?_⟩
  rw [char_of_name_or_slot h hm] at hc
  cases hc

theorem announces_of_known {a : String × String × String} (ha : a ∈ announcements) {p : Piece}
    (hp : Known p) : Announces a.1 a.2.1 a.2.2 p := by
  by_cases hw : ∃ w, p = .words w
  · obtain ⟨w, rfl⟩ := hw
    obtain ⟨hapart, hfollowing⟩ := (checked_vocabulary w hp).2.2 a ha
    exact ⟨hapart, by simpa using hfollowing⟩
  · have hw := not_exists.mp hw
    have hs : a.1 ∈ phrases := List.mem_append_left _ (List.mem_map_of_mem ha)
    obtain ⟨c, hl, hc⟩ := exists_last_not_mem hs hw
    exact announces_of_not_mem hl hc (hw _)

theorem no_comment_of_known {m : String} (hm : m ∈ commentMarks) {p : Piece} (hp : Known p) :
    Apart m.toList p.text.toList ∧ following m.toList p.text.toList = [] := by
  by_cases hw : ∃ w, p = .words w
  · obtain ⟨w, rfl⟩ := hw
    exact (checked_vocabulary w hp).2.1 m hm
  · obtain ⟨c, hl, hc⟩ := exists_last_not_mem (List.mem_append_right _ hm) (not_exists.mp hw)
    exact ⟨apart_of_not_mem hl hc, following_of_not_mem hl hc⟩

theorem isPlain_of_known {p : Piece} (hp : Known p) {c : Char} (hc : c ∈ p.text.toList) :
    isPlain c = true := by
  by_cases hw : ∃ w, p = .words w
  · obtain ⟨w, rfl⟩ := hw
    exact (plain_of_mem_vocabulary hp hc).1
  · have h := char_of_name_or_slot (not_exists.mp hw) hc
    simp only [Bool.or_eq_true, beq_iff_eq] at h
    obtain (h | rfl) | rfl := h
    · exact isPlain_of_isSegmentChar h
    · decide
    · decide

theorem dollar_not_mem_vocabulary {w : String} (hw : w ∈ vocabulary) : '$' ∉ w.toList :=
  fun hc => (plain_of_mem_vocabulary hw hc).2 rfl

end Geocoding.Search
