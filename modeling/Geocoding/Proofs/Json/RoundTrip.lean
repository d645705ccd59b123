import Geocoding.Json.Record
import Geocoding.Proofs.Json.Reading

/-!
# Printing and reading

A value is read back from its compact text when each of its numbers is read back from its own.
-/

namespace Geocoding.Json

open Value

variable {v : Value} {x : Float}

/-! ### The compact text from the texts of the parts -/

theorem compactItems_cons (v : Value) (vs : List Value) :
    compact.compactItems (v :: vs) = v.compact ++ (vs.map compact).flatMap (',' :: ·) := by
  induction vs generalizing v with
  | nil => simp [compact.compactItems]
  | cons v' vs ih => simp [compact.compactItems, ih]

theorem compact_list (items : List Value) : (Value.list items).compact = listText (items.map compact) := by
  cases items with
  | nil => rfl
  | cons v vs => simp [compact, compactItems_cons, listText]

theorem compactMembers_cons (m : String × Value) (ms : List (String × Value)) :
    compact.compactMembers (m :: ms) =
      memberText m.1 m.2.compact ++ (ms.map fun m => memberText m.1 m.2.compact).flatMap (',' :: ·) := by
  induction ms generalizing m with
  | nil => simp [compact.compactMembers, memberText]
  | cons m' ms ih => simp [compact.compactMembers, memberText, ih]

theorem compact_object (members : List (String × Value)) :
    (Value.object members).compact = objectText (members.map fun m => memberText m.1 m.2.compact) := by
  cases members with
  | nil => rfl
  | cons m ms => simp [compact, compactMembers_cons, objectText]

/-! ### Values that are read back -/

/-- Every number in the value is read back from its text. -/
inductive Legible : Value → Prop
  | null : Legible .null
  | bool (b : Bool) : Legible (.bool b)
  | number (n : Number) (h : read? n.text = some (.number n)) : Legible (.number n)
  | text (s : String) : Legible (.text s)
  | list (items : List Value) (h : ∀ v ∈ items, Legible v) : Legible (.list items)
  | object (members : List (String × Value)) (h : ∀ m ∈ members, Legible m.2) : Legible (.object members)

theorem Legible.nil : Legible (.object []) := .object [] (List.forall_mem_nil _)

theorem Legible.cons {name : String} {ms : List (String × Value)} (hv : Legible v) (hms : Legible (.object ms)) :
    Legible (.object ((name, v) :: ms)) := by
  cases hms with
  | object ms h => exact .object _ (List.forall_mem_cons.mpr ⟨hv, h⟩)

theorem Legible.read?_compact (h : Legible v) : read? v.compact = some v := by
  induction h with
  | null => rfl
  | bool b => cases b <;> rfl
  | number n h => exact h
  | text s => exact read?_textOf s
  | list items h ih =>
    have hread := read?_listText (items.map fun v => (v.compact, v)) (List.forall_mem_map.mpr ih)
    simpa [compact_list, Function.comp_def] using hread
  | object members h ih =>
    have hread := read?_objectText (members.map fun m => (m.1, m.2.compact, m.2)) (List.forall_mem_map.mpr ih)
    simpa [compact_object, Function.comp_def] using hread

/-! ### Numbers that are not whole -/

theorem realText_eq_null_or (x : Float) : realText x = ['n', 'u', 'l', 'l'] ∨
    scan (realText x) = ((Number.ofChars? (realText x)).map fun n => [.number n]) ∧
      ∃ c ∈ realText x, c.isDigit = false ∧ c ≠ '-' := by
  obtain hx | ⟨cs, hcs, hx | hx⟩ := realText_cases x
  · exact .inl hx
  · obtain ⟨d, ds, rfl, hd⟩ := hcs.exists_eq_cons
    rw [hx]
    exact .inr ⟨scan_number (.inl hd) fun c hc => hcs.isNumeric c (List.mem_cons_of_mem d hc), hcs.exists_mark⟩
  · obtain ⟨c, hc, hmark⟩ := hcs.exists_mark
    rw [hx]
    exact .inr ⟨scan_number (.inr rfl) hcs.isNumeric, c, List.mem_cons_of_mem '-' hc, hmark⟩

/-- The text of a float that is read back as this float is no whole number. -/
theorem read?_realText (h : (read? (realText x)).bind ofJson? = some x) :
    read? (realText x) = some (.number (.real x)) := by
  obtain ⟨v, hv, hx⟩ := Option.bind_eq_some_iff.mp h
  obtain hnull | ⟨hscan, c, hc, hdigit, hminus⟩ := realText_eq_null_or x
  · have hread : read? ['n', 'u', 'l', 'l'] = some .null := rfl
    rw [hnull, hread] at hv
    obtain rfl := Option.some.inj hv
    cases hx
  · obtain ⟨ts, hts, hspelled⟩ := read?_eq_some_iff.mp hv
    rw [hscan] at hts
    obtain ⟨n, hn, rfl⟩ := Option.map_eq_some_iff.mp hts
    cases n with
    | none =>
      obtain rfl : .unreadable = v := by
        cases hspelled
        rfl
      cases hx
    | some n =>
      obtain ⟨y, rfl⟩ := exists_real_of_ofChars? hn hc hdigit hminus
      obtain rfl : .number (.real y) = v := by
        cases hspelled
        rfl
      obtain rfl : y = x := Option.some.inj hx
      exact hv

end Geocoding.Json
