import Geocoding.Sql.Identifier
import Mathlib.Data.List.TakeWhile

/-!
# Names

Which texts are names, and the characters that names are made of.
-/

namespace Geocoding.Sql

/-! ### Which texts are names -/

/-- A letter of ASCII or an underscore. -/
def IsFirst (c : Char) : Prop := 'A' ≤ c ∧ c ≤ 'Z' ∨ 'a' ≤ c ∧ c ≤ 'z' ∨ c = '_'

/-- A letter or a digit of ASCII or an underscore. -/
def IsLater (c : Char) : Prop := IsFirst c ∨ '0' ≤ c ∧ c ≤ '9'

inductive Segment : List Char → Prop where
  | mk {c : Char} {cs : List Char} (first : IsFirst c) (later : ∀ d ∈ cs, IsLater d)
      (short : cs.length ≤ 62) : Segment (c :: cs)

/-- A name is one segment, or two with a point between them. -/
inductive SpellsName : List Char → Prop where
  | plain {table : List Char} (h : Segment table) : SpellsName table
  | qualified {schema table : List Char} (hs : Segment schema) (ht : Segment table) :
      SpellsName (schema ++ '.' :: table)

theorem isSegmentStart_iff (c : Char) : isSegmentStart c = true ↔ IsFirst c := by
  have hupper : c.isUpper = true ↔ 'A' ≤ c ∧ c ≤ 'Z' := decide_eq_true_iff
  have hlower : c.isLower = true ↔ 'a' ≤ c ∧ c ≤ 'z' :=
    Bool.and_eq_true_iff.trans (and_congr decide_eq_true_iff decide_eq_true_iff)
  calc isSegmentStart c = true
      ↔ (c.isUpper = true ∨ c.isLower = true) ∨ c = '_' :=
        Bool.or_eq_true_iff.trans (or_congr Bool.or_eq_true_iff beq_iff_eq)
    _ ↔ IsFirst c := by
        rw [hupper, hlower, or_assoc]
        rfl

theorem isSegmentChar_iff (c : Char) : isSegmentChar c = true ↔ IsLater c := by
  have hdigit : c.isDigit = true ↔ '0' ≤ c ∧ c ≤ '9' :=
    Bool.and_eq_true_iff.trans (and_congr decide_eq_true_iff decide_eq_true_iff)
  have hc : isSegmentChar c = (isSegmentStart c || c.isDigit) := Bool.or_right_comm _ _ _
  rw [hc, Bool.or_eq_true_iff, isSegmentStart_iff, hdigit]
  rfl

theorem isSegment_iff (cs : List Char) : isSegment cs = true ↔ Segment cs := by
  constructor
  · intro h
    cases cs with
    | nil => cases h
    | cons c cs =>
      simp only [isSegment, Bool.and_eq_true, List.all_eq_true, decide_eq_true_eq] at h
      obtain ⟨⟨hc, hcs⟩, hl⟩ := h
      exact .mk ((isSegmentStart_iff c).mp hc) (fun d hd => (isSegmentChar_iff d).mp (hcs d hd)) hl
  · rintro ⟨hc, hcs, hl⟩
    simp only [isSegment, Bool.and_eq_true, List.all_eq_true, decide_eq_true_eq]
    exact ⟨⟨(isSegmentStart_iff _).mpr hc, fun d hd => (isSegmentChar_iff d).mpr (hcs d hd)⟩, hl⟩

theorem Segment.isSegmentChar {cs : List Char} (h : Segment cs) {c : Char} (hc : c ∈ cs) :
    isSegmentChar c = true := by
  obtain ⟨hfirst, hlater, -⟩ := h
  rw [isSegmentChar_iff]
  obtain rfl | hc := List.mem_cons.mp hc
  · exact .inl hfirst
  · exact hlater c hc

theorem Segment.ne_point {cs : List Char} (h : Segment cs) : ∀ c ∈ cs, decide (c ≠ '.') = true := by
  intro c hc
  refine decide_eq_true ?_
  rintro rfl
  have hpoint : Sql.isSegmentChar '.' = true := h.isSegmentChar hc
  exact absurd hpoint (by decide)

theorem isIdentifier_iff (cs : List Char) : isIdentifier cs = true ↔ SpellsName cs := by
  constructor
  · intro h
    have hsplit := List.takeWhile_append_dropWhile (p := (· ≠ '.')) (l := cs)
    have hhead := List.head?_dropWhile_not (fun c => decide (c ≠ '.')) cs
    rw [isIdentifier, Bool.and_eq_true_iff, isSegment_iff] at h
    obtain ⟨hfirst, hrest⟩ := h
    rw [← hsplit]
    split at hrest
    · next hd =>
      rw [hd, List.append_nil]
      exact .plain hfirst
    · next point rest hd =>
      rw [hd] at hhead ⊢
      obtain rfl : point = '.' := by simpa using hhead
      exact .qualified hfirst ((isSegment_iff rest).mp hrest)
  · -- Segments have no points: the first point of a name stands between its segments.
    intro h
    cases h with
    | plain h =>
      have htake : cs.takeWhile (· ≠ '.') = cs := List.takeWhile_eq_self_iff.mpr h.ne_point
      have hdrop : cs.dropWhile (· ≠ '.') = [] := List.dropWhile_eq_nil_iff.mpr h.ne_point
      rw [isIdentifier, htake, hdrop, (isSegment_iff cs).mpr h]
      rfl
    | @qualified schema table hs ht =>
      have htake : (schema ++ '.' :: table).takeWhile (· ≠ '.') = schema := by
        rw [List.takeWhile_append_of_pos hs.ne_point]
        simp
      have hdrop : (schema ++ '.' :: table).dropWhile (· ≠ '.') = '.' :: table := by
        rw [List.dropWhile_append_of_pos hs.ne_point]
        simp
      rw [isIdentifier, htake, hdrop, (isSegment_iff schema).mpr hs]
      exact (isSegment_iff table).mpr ht

/-- Exactly the texts that are names are accepted, and they are shown as they are. Of a text that is refused
the report is the text itself. -/
theorem Identifier.ofString_of_spelling (name : String) :
    ((∃ i, Identifier.ofString name = .ok i) ↔ SpellsName name.toList) ∧
      (∀ i, Identifier.ofString name = .ok i ↔ SpellsName name.toList ∧ i.text = name) ∧
      ∀ e, Identifier.ofString name = .error e ↔ ¬ SpellsName name.toList ∧ e = ⟨name⟩ := by
  rw [← isIdentifier_iff, ofString]
  by_cases h : isIdentifier name.toList = true
  · rw [dif_pos h]
    refine ⟨iff_of_true ⟨_, rfl⟩ h, fun i => ⟨fun hi => ?_, ?_⟩, fun e => ⟨fun he => ?_, ?_⟩⟩
    · obtain rfl := Except.ok.inj hi
      exact ⟨h, rfl⟩
    · rintro ⟨-, rfl⟩
      rfl
    · cases he
    · rintro ⟨hn, -⟩
      exact absurd h hn
  · rw [dif_neg h]
    refine ⟨⟨?_, fun hn => absurd hn h⟩, fun i => ⟨fun hi => ?_, ?_⟩, fun e => ⟨fun he => ?_, ?_⟩⟩
    · rintro ⟨i, hi⟩
      cases hi
    · cases hi
    · rintro ⟨hn, -⟩
      exact absurd hn h
    · exact ⟨h, (Except.error.inj he).symm⟩
    · rintro ⟨-, rfl⟩
      rfl

example : (isIdentifier (List.replicate 63 'a' ++ '.' :: List.replicate 63 '_') = true) ∧
    [List.replicate 64 'a', [], "1a".toList, "a.".toList, "a.b.c".toList, "a\n".toList, "é".toList].all
      (!isIdentifier ·) = true := by
  decide

/-! ### The characters of a name -/

/-- A name is made of letters, digits, underscores and points. -/
theorem Identifier.isSegmentChar_or (i : Identifier) {c : Char} (hc : c ∈ i.text.toList) :
    isSegmentChar c = true ∨ c = '.' := by
  have hv := (isIdentifier_iff i.text.toList).mp i.valid
  generalize i.text.toList = cs at hc hv
  cases hv with
  | plain h => exact .inl (h.isSegmentChar hc)
  | qualified hs ht =>
    obtain hc | hc := List.mem_append.mp hc
    · exact .inl (hs.isSegmentChar hc)
    · obtain rfl | hc := List.mem_cons.mp hc
      · exact .inr rfl
      · exact .inl (ht.isSegmentChar hc)

/-- A character that neither quotes, nor ends a statement, nor is invisible. -/
def isPlain (c : Char) : Bool := ' ' ≤ c && c ≤ '~' && c != '\'' && c != '"' && c != ';' && c != '\\'

theorem visible_of_isSegmentChar {c : Char} (h : isSegmentChar c = true) : ' ' ≤ c ∧ c ≤ '~' := by
  have hrange (lo hi : UInt32) (hlo : ' '.val ≤ lo) (hhi : hi ≤ '~'.val) (h : lo ≤ c.val ∧ c.val ≤ hi) :
      ' ' ≤ c ∧ c ≤ '~' :=
    ⟨UInt32.le_trans hlo h.1, UInt32.le_trans h.2 hhi⟩
  obtain h | h := Bool.or_eq_true_iff.mp h
  · obtain h | h := Bool.or_eq_true_iff.mp h
    · obtain h | h := Bool.or_eq_true_iff.mp h
      · exact hrange 'A'.val 'Z'.val (by decide) (by decide) (of_decide_eq_true h)
      · obtain ⟨hlo, hhi⟩ := Bool.and_eq_true_iff.mp h
        exact hrange 'a'.val 'z'.val (by decide) (by decide) ⟨of_decide_eq_true hlo, of_decide_eq_true hhi⟩
    · obtain ⟨hlo, hhi⟩ := Bool.and_eq_true_iff.mp h
      exact hrange '0'.val '9'.val (by decide) (by decide) ⟨of_decide_eq_true hlo, of_decide_eq_true hhi⟩
  · obtain rfl := eq_of_beq h
    decide

theorem isPlain_of_isSegmentChar {c : Char} (h : isSegmentChar c = true) : isPlain c = true := by
  have hne (d : Char) (hd : isSegmentChar d = false) : c ≠ d := by
    rintro rfl
    rw [h] at hd
    cases hd
  have hvisible := visible_of_isSegmentChar h
  have hquote := hne '\'' rfl
  have hdouble := hne '"' rfl
  have hend := hne ';' rfl
  have hescape := hne '\\' rfl
  simp [isPlain, hvisible, hquote, hdouble, hend, hescape]

end Geocoding.Sql
