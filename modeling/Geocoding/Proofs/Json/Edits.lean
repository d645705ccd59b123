import Geocoding.Json.Record
import Mathlib.Data.List.Nodup
import Mathlib.Data.List.Perm.Basic
import Mathlib.Logic.Relation

/-!
# Changes that a record does not notice

The members of an object may stand in any order, those that are null may be left out, and others may be added under
names that are not known. After any number of such changes, to a record or to the records in it, the same is read.
-/

namespace Geocoding.Json

/-- What is expected of a value: the names that are known in an object, and what is expected of their members. -/
inductive Shape where
  | scalar
  | record (fields : List (String × Shape))

/-- One change: of the order, of a null member, which may as well be absent, of a name that is not known, or of what
stands under a known one. -/
inductive Edit : Shape → Value → Value → Prop
  | reorder {fields : List (String × Shape)} {ms ms' : List (String × Value)} (h : ms.Perm ms') :
      Edit (.record fields) (.object ms) (.object ms')
  | leaveOut {fields} (before : List (String × Value)) (name : String) (after : List (String × Value)) :
      Edit (.record fields) (.object (before ++ (name, .null) :: after)) (.object (before ++ after))
  | add {fields} (before : List (String × Value)) (name : String) (v : Value) (after : List (String × Value))
      (unknown : name ∉ fields.map (·.1)) :
      Edit (.record fields) (.object (before ++ after)) (.object (before ++ (name, v) :: after))
  | within {fields shape v v'} (before : List (String × Value)) (name : String) (after : List (String × Value))
      (known : (name, shape) ∈ fields) (h : Edit shape v v') :
      Edit (.record fields) (.object (before ++ (name, v) :: after)) (.object (before ++ (name, v') :: after))

/-- Any number of changes. -/
def Edits (shape : Shape) : Value → Value → Prop := Relation.ReflTransGen (Edit shape)

variable {α β : Type} {a : α} {b : β} {name : String} {shape : Shape} {fields : List (String × Shape)} {lists : Lists}
  {ms ms' before after : List (String × Value)} {v v' : Value} {p p' : Option Value} {ps ps' : List (Option Value)}

theorem Edit.exists_objects (h : Edit shape v v') : ∃ ms ms', v = .object ms ∧ v' = .object ms' := by
  cases h with
  | reorder h => exact ⟨_, _, rfl, rfl⟩
  | leaveOut before name after => exact ⟨_, _, rfl, rfl⟩
  | add before name v after unknown => exact ⟨_, _, rfl, rfl⟩
  | within before name after known h => exact ⟨_, _, rfl, rfl⟩

/-! ### One member -/

theorem named_append (name : String) (ms ms' : List (String × Value)) :
    named name (ms ++ ms') = named name ms ++ named name ms' :=
  List.filterMap_append

theorem named_insert_self (before after : List (String × Value)) (name : String) (v : Value) :
    named name (before ++ (name, v) :: after) = named name before ++ v :: named name after := by
  simp [named]

theorem named_insert_of_ne {n : String} (h : n ≠ name) (before after : List (String × Value)) (v : Value) :
    named name (before ++ (n, v) :: after) = named name (before ++ after) := by
  simp [named, h]

theorem memberOnce?_eq_some_iff : memberOnce? ms name = some p ↔ named name ms = p.toList := by
  unfold memberOnce?
  split
  · next h => cases p <;> simp [h]
  · next v h => cases p <;> simp [h]
  · next hnone hsome =>
    constructor
    · intro h
      cases h
    · intro h
      cases p with
      | none => exact absurd h hnone
      | some v => exact absurd h (hsome v)

theorem memberOnce?_insert_self (h : memberOnce? (before ++ (name, v) :: after) name = some p) :
    p = some v ∧ named name before = [] ∧ named name after = [] := by
  rw [memberOnce?_eq_some_iff, named_insert_self] at h
  cases p with
  | none => simp at h
  | some w =>
    obtain ⟨hbefore, rfl, hafter⟩ : named name before = [] ∧ v = w ∧ named name after = [] := by
      simpa [List.append_eq_singleton_iff] using h
    exact ⟨rfl, hbefore, hafter⟩

theorem memberOnce?_perm (h : ms.Perm ms') (hp : memberOnce? ms name = some p) : memberOnce? ms' name = some p := by
  rw [memberOnce?_eq_some_iff] at hp ⊢
  have hperm : (named name ms).Perm (named name ms') := h.filterMap _
  rw [hp] at hperm
  cases p with
  | none => exact List.nil_perm.mp hperm
  | some v => exact (List.singleton_perm.mp hperm).symm

/-- What becomes of one member. -/
inductive PartEdit (shape : Shape) : Option Value → Option Value → Prop
  | same (p : Option Value) : PartEdit shape p p
  | absent : PartEdit shape (some .null) none
  | within {v v' : Value} (h : Edit shape v v') : PartEdit shape (some v) (some v')

theorem Edit.exists_memberOnce? (h : Edit (.record fields) (.object ms) (.object ms'))
    (hnodup : (fields.map (·.1)).Nodup) (hknown : (name, shape) ∈ fields) (hp : memberOnce? ms name = some p) :
    ∃ p', memberOnce? ms' name = some p' ∧ PartEdit shape p p' := by
  cases h with
  | reorder h => exact ⟨p, memberOnce?_perm h hp, .same p⟩
  | leaveOut before n after =>
    by_cases hn : n = name
    · subst hn
      obtain ⟨rfl, hbefore, hafter⟩ := memberOnce?_insert_self hp
      refine ⟨none, memberOnce?_eq_some_iff.mpr ?_, .absent⟩
      rw [named_append, hbefore, hafter]
      rfl
    · rw [memberOnce?_eq_some_iff, named_insert_of_ne hn] at hp
      exact ⟨p, memberOnce?_eq_some_iff.mpr hp, .same p⟩
  | add before n v after unknown =>
    have hn : n ≠ name := by
      rintro rfl
      exact unknown (List.mem_map_of_mem hknown)
    rw [memberOnce?_eq_some_iff, ← named_insert_of_ne hn before after v] at hp
    exact ⟨p, memberOnce?_eq_some_iff.mpr hp, .same p⟩
  | within before n after known h =>
    by_cases hn : n = name
    · subst hn
      obtain ⟨rfl, hbefore, hafter⟩ := memberOnce?_insert_self hp
      -- No name is known twice, so what was changed is what is expected under this name.
      obtain ⟨-, rfl⟩ := Prod.mk.inj (List.inj_on_of_nodup_map hnodup known hknown rfl)
      refine ⟨some _, memberOnce?_eq_some_iff.mpr ?_, .within h⟩
      rw [named_insert_self, hbefore, hafter]
      rfl
    · rw [memberOnce?_eq_some_iff, named_insert_of_ne hn, ← named_insert_of_ne hn] at hp
      exact ⟨p, memberOnce?_eq_some_iff.mpr hp, .same p⟩

/-! ### All parts of a record -/

/-- What becomes of the members of a record. -/
inductive PartEdits : List (String × Shape) → List (Option Value) → List (Option Value) → Prop
  | nil : PartEdits [] [] []
  | cons {name : String} {shape : Shape} {p p' : Option Value} {fields : List (String × Shape)}
      {ps ps' : List (Option Value)} (h : PartEdit shape p p') (hs : PartEdits fields ps ps') :
      PartEdits ((name, shape) :: fields) (p :: ps) (p' :: ps')

theorem exists_mapM_memberOnce? (hps : (fields.map (·.1)).mapM (memberOnce? ms) = some ps)
    (h : ∀ f ∈ fields, ∀ p, memberOnce? ms f.1 = some p → ∃ p', memberOnce? ms' f.1 = some p' ∧ PartEdit f.2 p p') :
    ∃ ps', (fields.map (·.1)).mapM (memberOnce? ms') = some ps' ∧ PartEdits fields ps ps' := by
  induction fields generalizing ps with
  | nil =>
    obtain rfl : [] = ps := Option.some.inj hps
    exact ⟨[], rfl, .nil⟩
  | cons f fields ih =>
    obtain ⟨hf, hfs⟩ := List.forall_mem_cons.mp h
    simp only [List.map_cons, List.mapM_cons, Option.bind_eq_bind, Option.bind_eq_some_iff] at hps
    obtain ⟨p, hp, ps, hps, heq⟩ := hps
    obtain rfl := Option.some.inj heq
    obtain ⟨p', hp', hedit⟩ := hf p hp
    obtain ⟨ps', hps', hedits⟩ := ih hps hfs
    exact ⟨p' :: ps', by simp [hp', hps'], .cons hedit hedits⟩

theorem Edit.exists_parts? (h : Edit (.record fields) v v') (hnodup : (fields.map (·.1)).Nodup)
    (hps : parts? (fields.map (·.1)) lists v = some ps) :
    ∃ ps', parts? (fields.map (·.1)) lists v' = some ps' ∧ PartEdits fields ps ps' := by
  obtain ⟨ms, ms', rfl, rfl⟩ := h.exists_objects
  exact exists_mapM_memberOnce? hps fun f hf p => h.exists_memberOnce? hnodup hf

/-! ### Whole values -/

/-- A type whose values have a shape, and read the same after every change along it. -/
class Shaped (α : Type) [Record α] where
  shape : Shape
  ofJson?_null : (ofJson? .null : Option α) = none
  ofJson?_edit {v v' : Value} {a : α} (h : Edit shape v v') (hv : ofJson? v = some a) : ofJson? v' = some a

instance : Shaped String where
  shape := .scalar
  ofJson?_null := rfl
  ofJson?_edit h := by cases h

instance : Shaped Float where
  shape := .scalar
  ofJson?_null := rfl
  ofJson?_edit h := by cases h

variable [Record α] [Shaped α]

theorem PartEdit.required? (h : PartEdit (Shaped.shape α) p p') (hp : Json.required? p = some a) :
    Json.required? p' = some a := by
  cases h with
  | same p => exact hp
  | absent =>
    rw [Json.required?, Shaped.ofJson?_null] at hp
    cases hp
  | within h => exact Shaped.ofJson?_edit h hp

theorem optional?_some (h : ofJson? v = some a) : optional? (some v) = some (some a) := by
  cases v with
  | null =>
    rw [Shaped.ofJson?_null] at h
    cases h
  | _ => exact congrArg (Option.map some) h

theorem PartEdit.optional? {o : Option α} (h : PartEdit (Shaped.shape α) p p') (hp : Json.optional? p = some o) :
    Json.optional? p' = some o := by
  cases h with
  | same p => exact hp
  | absent => exact hp
  | within h =>
    obtain ⟨ms, ms', rfl, rfl⟩ := h.exists_objects
    obtain ⟨a, ha, rfl⟩ := Option.map_eq_some_iff.mp hp
    exact Option.map_eq_some_iff.mpr ⟨a, Shaped.ofJson?_edit h ha, rfl⟩

/-- What is made of a part is made of the edited one, if the same holds of the parts after it. -/
theorem PartEdit.bind_required? {f g : α → Option β} (h : PartEdit (Shaped.shape α) p p')
    (hfg : ∀ a, f a = some b → g a = some b) (hf : (Json.required? p >>= f) = some b) :
    (Json.required? p' >>= g) = some b := by
  obtain ⟨a, ha, hb⟩ := Option.bind_eq_some_iff.mp hf
  exact Option.bind_eq_some_iff.mpr ⟨a, h.required? ha, hfg a hb⟩

theorem PartEdit.bind_optional? {f g : Option α → Option β} (h : PartEdit (Shaped.shape α) p p')
    (hfg : ∀ o, f o = some b → g o = some b) (hf : (Json.optional? p >>= f) = some b) :
    (Json.optional? p' >>= g) = some b := by
  obtain ⟨o, ho, hb⟩ := Option.bind_eq_some_iff.mp hf
  exact Option.bind_eq_some_iff.mpr ⟨o, h.optional? ho, hfg o hb⟩

omit [Shaped α] in
/-- A record that is made of its parts is read the same if each part is. -/
theorem ofJson?_edit_of_parts {f : List (Option Value) → Option α}
    (hread : ∀ v, ofJson? v = (parts? (fields.map (·.1)) lists v).bind f) (hnodup : (fields.map (·.1)).Nodup)
    (hf : ∀ ps ps' a, PartEdits fields ps ps' → f ps = some a → f ps' = some a)
    (h : Edit (.record fields) v v') (hv : ofJson? v = some a) : ofJson? v' = some a := by
  rw [hread, Option.bind_eq_some_iff] at hv
  obtain ⟨ps, hps, ha⟩ := hv
  obtain ⟨ps', hps', hedits⟩ := h.exists_parts? hnodup hps
  rw [hread, hps']
  exact hf ps ps' a hedits ha

theorem ofJson?_edits (h : Edits (Shaped.shape α) v v') (hv : ofJson? v = some a) : ofJson? v' = some a := by
  induction h with
  | refl => exact hv
  | tail _ hstep ih => exact Shaped.ofJson?_edit hstep ih

end Geocoding.Json
