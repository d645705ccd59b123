import Geocoding.Proofs.Json.Number
import Geocoding.Proofs.Json.Reading
import Geocoding.Proofs.Text.Trim
import Geocoding.Service

/-!
# What is taken from a response

Of a whole response only the first suggestion counts, and of that each part by itself: a text that is not blank,
or a number.
-/

namespace Geocoding.Service

open Json (Value)

variable {ms : List (String × Value)} {name : String} {r : Response} {body : ByteArray}
  {items : List Value}

/-! ### The parts of a suggestion -/

/-- What a part of a suggestion comes to: a text without the blanks around it, or a number as it is written. -/
def componentOf : Value → Option String
  | .text s => if s.toList.all Text.isBlank then none else some (Text.trim s)
  | .number n => some (.ofList n.text)
  | _ => none

def component (ms : List (String × Value)) (name : String) : Option String :=
  (Value.member? name ms).bind componentOf

def suggestion (ms : List (String × Value)) : QueryAddress :=
  ⟨component ms "road", component ms "house_number", component ms "postcode", component ms "city"⟩

def partNames : List String := ["road", "house_number", "postcode", "city"]

/-- A text that is not blank, or a number. -/
inductive IsUsable : Value → Prop
  | text (s : String) (h : ∃ c ∈ s.toList, Text.isBlank c = false) : IsUsable (.text s)
  | number (n : Json.Number) : IsUsable (.number n)

def IsGiven (ms : List (String × Value)) (name : String) : Prop :=
  ∃ v, Value.member? name ms = some v ∧ IsUsable v

theorem isTrimmed_number (n : Json.Number) : Text.IsTrimmed (.ofList n.text) := by
  have hl : (String.ofList n.text).toList = n.text := String.toList_ofList
  refine Text.isTrimmed_of_no_blank ?_
  rw [hl]
  exact n.solid_text

theorem trim_ne_empty_iff {s : String} : Text.trim s ≠ "" ↔ s.toList.all Text.isBlank = false := by
  rw [ne_eq, Text.trim_eq_empty_iff, ← List.all_eq_true, Bool.not_eq_true]

theorem cleaned_text (s : String) : QueryAddress.cleaned (some s) = componentOf (.text s) := by
  have h := trim_ne_empty_iff (s := s)
  cases hb : s.toList.all Text.isBlank with
  | true =>
    have ht : Text.trim s = "" := by simpa [hb] using h
    simp [QueryAddress.cleaned, componentOf, ht, hb]
  | false =>
    have ht : Text.trim s ≠ "" := by simpa [hb] using h
    simp [QueryAddress.cleaned, componentOf, ht, hb]

theorem cleaned_number (n : Json.Number) :
    QueryAddress.cleaned (some (.ofList n.text)) = componentOf (.number n) := by
  simp [QueryAddress.cleaned, componentOf, Text.trim_of_isTrimmed (isTrimmed_number n), n.text_ne_nil]

theorem cleaned_part (ms : List (String × Value)) (name : String) :
    QueryAddress.cleaned (part ms name) = component ms name := by
  unfold part component
  cases Value.member? name ms with
  | none => rfl
  | some v =>
    cases v with
    | text s => exact cleaned_text s
    | number n => exact cleaned_number n
    | _ => rfl

theorem componentOf_isSome_iff {v : Value} : (componentOf v).isSome ↔ IsUsable v := by
  constructor
  · intro h
    cases v with
    | text s =>
      simp only [componentOf] at h
      split at h
      · cases h
      · next hb => exact .text s (by simpa using hb)
    | number n => exact .number n
    | _ => cases h
  · intro h
    cases h with
    | text s h =>
      have hb : s.toList.all Text.isBlank = false := by simpa using h
      simp [componentOf, hb]
    | number n => rfl

theorem componentOf_eq_some {v : Value} {c : String} (h : componentOf v = some c) :
    c ≠ "" ∧ Text.IsTrimmed c := by
  cases v with
  | text s =>
    simp only [componentOf] at h
    split at h
    · cases h
    · next hb =>
      obtain rfl := Option.some.inj h
      exact ⟨trim_ne_empty_iff.mpr (by simpa using hb), Text.isTrimmed_trim s⟩
  | number n =>
    obtain rfl := Option.some.inj h
    exact ⟨by simpa using n.text_ne_nil, isTrimmed_number n⟩
  | _ => cases h

theorem component_isSome_iff : (component ms name).isSome ↔ IsGiven ms name := by
  unfold component IsGiven
  cases Value.member? name ms with
  | none => simp
  | some v => simp [componentOf_isSome_iff]

theorem component_eq_some {c : String} (h : component ms name = some c) : c ≠ "" ∧ Text.IsTrimmed c := by
  obtain ⟨v, -, hv⟩ := Option.bind_eq_some_iff.mp h
  exact componentOf_eq_some hv

/-- What one member holds does not matter to the parts of other names. -/
theorem component_replace {other : String} (h : other ≠ name) (ahead behind : List (String × Value))
    (v w : Value) :
    component (ahead ++ (other, v) :: behind) name = component (ahead ++ (other, w) :: behind) name := by
  have hm : Value.member? name (ahead ++ (other, v) :: behind) =
      Value.member? name (ahead ++ (other, w) :: behind) := by
    induction ahead with
    | nil => simp [Value.member?, h]
    | cons m ahead ih => simp only [List.cons_append, Value.member?, ih]
  rw [component, component, hm]

theorem address_object (ms : List (String × Value)) : address (.object ms) = some (suggestion ms) := by
  simp only [address, QueryAddress.normalized, cleaned_part, suggestion]

theorem isEmpty_suggestion : (suggestion ms).isEmpty = false ↔ ∃ name ∈ partNames, IsGiven ms name := by
  simp only [← component_isSome_iff, partNames, List.mem_cons, List.not_mem_nil, or_false,
    exists_eq_or_imp, exists_eq_left]
  simp only [QueryAddress.isEmpty, suggestion, Bool.and_eq_false_iff, Option.isNone_eq_false_iff, or_assoc]

/-! ### Bodies -/

/-- A body is the text of a list that can be read, and is not nested too deeply. -/
structure Decodes (body : ByteArray) (items : List Value) : Prop where
  read : ∃ text, String.fromUTF8? body = some text ∧ Json.read? text.toList = some (.list items)
  isReadable : (Value.list items).isReadable = true
  depth_le : (Value.list items).depth ≤ deepest

theorem suggestions?_eq_some_iff : suggestions? body = some items ↔ Decodes body items := by
  unfold suggestions?
  constructor
  · intro h
    simp only [Option.bind_eq_bind, Option.bind_eq_some_iff] at h
    obtain ⟨text, ht, v, hv, h⟩ := h
    split at h
    · split at h
      · next hd =>
        obtain rfl := Option.some.inj h
        obtain ⟨hr, hd⟩ := Bool.and_eq_true_iff.mp hd
        exact ⟨⟨text, ht, hv⟩, hr, of_decide_eq_true hd⟩
      · cases h
    · cases h
  · rintro ⟨⟨text, ht, hv⟩, hr, hd⟩
    simp [ht, hv, hr, hd]

/-- A whole response with the right status, whose first suggestion has some part. -/
structure Offers (r : Response) (ms : List (String × Value)) : Prop where
  status_eq : r.status = 200
  isComplete : r.isComplete = true
  decodes : ∃ later, Decodes r.body (.object ms :: later)
  isGiven : ∃ name ∈ partNames, IsGiven ms name

theorem address_eq_some {v : Value} {a : QueryAddress} (h : address v = some a) :
    ∃ ms, v = .object ms ∧ a = suggestion ms := by
  cases v with
  | object ms =>
    rw [address_object] at h
    exact ⟨ms, rfl, (Option.some.inj h).symm⟩
  | _ => cases h

theorem addressOf?_eq_some_iff {a : QueryAddress} :
    addressOf? r = some a ↔ ∃ ms, Offers r ms ∧ a = suggestion ms := by
  unfold addressOf?
  constructor
  · intro h
    split at h
    · cases h
    · next hr =>
      obtain ⟨hstatus, hcomplete⟩ := not_or.mp hr
      simp only [Option.bind_eq_bind, Option.bind_eq_some_iff, Option.filter_eq_some_iff] at h
      obtain ⟨items, hitems, first, hfirst, ha, hne⟩ := h
      obtain ⟨ms, rfl, rfl⟩ := address_eq_some ha
      obtain ⟨later, rfl⟩ := List.head?_eq_some_iff.mp hfirst
      have hgiven := isEmpty_suggestion.mp (by simpa using hne)
      exact ⟨ms, ⟨not_not.mp hstatus, by simpa using hcomplete,
        ⟨later, suggestions?_eq_some_iff.mp hitems⟩, hgiven⟩, rfl⟩
  · rintro ⟨ms, ⟨hstatus, hcomplete, ⟨later, hd⟩, hgiven⟩, rfl⟩
    have hs := suggestions?_eq_some_iff.mpr hd
    have hne := isEmpty_suggestion.mpr hgiven
    simp [hstatus, hcomplete, hs, address_object, hne]

/-- No suggestion after the first makes a difference. -/
theorem addressOf?_eq_of_first {r r' : Response} {first : Value} {later later' : List Value}
    (hs : r.status = r'.status) (hc : r.isComplete = r'.isComplete) (h : Decodes r.body (first :: later))
    (h' : Decodes r'.body (first :: later')) : addressOf? r = addressOf? r' := by
  have hb := suggestions?_eq_some_iff.mpr h
  have hb' := suggestions?_eq_some_iff.mpr h'
  simp only [addressOf?, hs, hc, hb, hb', Option.bind_eq_bind, Option.bind_some, List.head?_cons]

/-! ### Bodies put together -/

/-- A text that is accepted as an item of a list. -/
structure Accepted (text : List Char) (v : Value) : Prop where
  read : Json.read? text = some v
  isReadable : v.isReadable = true
  depth_lt : v.depth < deepest

def bodyOf (texts : List (List Char)) : ByteArray := (String.ofList (Json.listText texts)).toUTF8

theorem fromUTF8?_toUTF8 (s : String) : String.fromUTF8? s.toUTF8 = some s := by
  have h : s.toUTF8.IsValidUTF8 := s.isValidUTF8
  rw [String.fromUTF8?, dif_pos h]
  rfl

theorem isReadable_list (h : ∀ v ∈ items, v.isReadable = true) : (Value.list items).isReadable = true := by
  rw [Value.isReadable]
  induction items with
  | nil => rfl
  | cons v items ih =>
    obtain ⟨hv, hs⟩ := List.forall_mem_cons.mp h
    rw [Value.isReadable.allItems, hv, ih hs]
    rfl

theorem depth_list_le {n : Nat} (h : ∀ v ∈ items, v.depth < n) (hn : 0 < n) :
    (Value.list items).depth ≤ n := by
  rw [Value.depth]
  suffices hi : Value.depth.depthOfItems items < n from hi
  induction items with
  | nil => exact hn
  | cons v items ih =>
    obtain ⟨hv, hs⟩ := List.forall_mem_cons.mp h
    rw [Value.depth.depthOfItems]
    exact Nat.max_lt.mpr ⟨hv, ih hs⟩

theorem decodes_bodyOf {given : List (List Char × Value)} (h : ∀ i ∈ given, Accepted i.1 i.2) :
    Decodes (bodyOf (given.map (·.1))) (given.map (·.2)) where
  read := by
    have hr := Json.read?_listText given fun i hi => (h i hi).read
    exact ⟨_, fromUTF8?_toUTF8 _, by rw [String.toList_ofList]; exact hr⟩
  isReadable := by
    refine isReadable_list fun v hv => ?_
    obtain ⟨i, hi, rfl⟩ := List.mem_map.mp hv
    exact (h i hi).isReadable
  depth_le := by
    refine depth_list_le (fun v hv => ?_) (by decide)
    obtain ⟨i, hi, rfl⟩ := List.mem_map.mp hv
    exact (h i hi).depth_lt

end Geocoding.Service
