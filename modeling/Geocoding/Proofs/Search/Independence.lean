import Geocoding.Proofs.Search.Form
import Geocoding.Proofs.Search.Ring

/-!
# Texts do not depend on values

Two searches for addresses with the same parts known have the same text, and a ring has one text for its tables.
The forms of the two searches have one shape, since each part of a form looks only at whether its value is there.
-/

namespace Geocoding

/-- The same parts of both addresses are known. -/
structure QueryAddress.SameFields (a b : QueryAddress) : Prop where
  road : a.road.isSome = b.road.isSome
  houseNumber : a.houseNumber.isSome = b.houseNumber.isSome
  postcode : a.postcode.isSome = b.postcode.isSome
  city : a.city.isSome = b.city.isSome

namespace Search

open Sql

theorem both_known_or_unknown {α : Type} {s r : Option α} (h : s.isSome = r.isSome) :
    (s = none ∧ r = none) ∨ ∃ x y, s = some x ∧ r = some y := by
  cases s with
  | none =>
    cases r with
    | none => exact .inl ⟨rfl, rfl⟩
    | some y => cases h
  | some x =>
    cases r with
    | none => cases h
    | some y => exact .inr ⟨x, y, rfl, rfl⟩

variable {s r : Option String} {p q : Option ProjectedPoint} {a b : QueryAddress}

theorem shape_selectForm (hs : s.isSome = r.isSome) (hp : p.isSome = q.isSome) :
    (selectForm s p).shape = (selectForm r q).shape := by
  obtain ⟨rfl, rfl⟩ | ⟨x, y, rfl, rfl⟩ := both_known_or_unknown hs
  · obtain ⟨rfl, rfl⟩ | ⟨v, w, rfl, rfl⟩ := both_known_or_unknown hp
    · rfl
    · rfl
  · obtain ⟨rfl, rfl⟩ | ⟨v, w, rfl, rfl⟩ := both_known_or_unknown hp
    · rfl
    · rfl

theorem shape_compareForms (c : String) (h : s.isSome = r.isSome) :
    (compareForms c s).map Form.shape = (compareForms c r).map Form.shape := by
  obtain ⟨rfl, rfl⟩ | ⟨x, y, rfl, rfl⟩ := both_known_or_unknown h
  · rfl
  · rfl

theorem shape_areaForms (h : a.SameFields b) : (areaForms a).map Form.shape = (areaForms b).map Form.shape := by
  obtain ⟨ha, hb⟩ | ⟨x, y, ha, hb⟩ := both_known_or_unknown h.postcode
  · obtain ⟨ha', hb'⟩ | ⟨v, w, ha', hb'⟩ := both_known_or_unknown h.city
    · simp only [areaForms, ha, hb, ha', hb']
    · simp only [areaForms, ha, hb, ha', hb']
      rfl
  · simp only [areaForms, ha, hb]
    rfl

theorem shape_filterForms (h : a.SameFields b) :
    (filterForms a).map Form.shape = (filterForms b).map Form.shape := by
  simp only [filterForms, List.map_append, shape_areaForms h, shape_compareForms _ h.road,
    shape_compareForms _ h.houseNumber]

theorem shape_whereForms {Fs Gs : List Form} (h : Fs.map Form.shape = Gs.map Form.shape) :
    (whereForms Fs).map Form.shape = (whereForms Gs).map Form.shape := by
  have hmap (Fs : List Form) : (Fs.map (.fixed (.words " AND ") :: ·)).map Form.shape =
      (Fs.map Form.shape).map (some (.words " AND ") :: ·) := by
    simp [Form.shape]
  cases Fs with
  | nil =>
    cases Gs with
    | nil => rfl
    | cons G Gs => cases h
  | cons F Fs =>
    cases Gs with
    | nil => cases h
    | cons G Gs =>
      obtain ⟨hF, hFs⟩ := List.cons.inj h
      simp only [whereForms, List.map_cons, hmap, hFs]
      exact congrArg (fun s => (some (Piece.words " WHERE ") :: s) :: _) hF

theorem shape_flatten (Fs : List Form) : Form.shape Fs.flatten = (Fs.map Form.shape).flatten :=
  List.map_flatten

theorem strategy_eq (h : a.SameFields b) : Strategy.select a = Strategy.select b := by
  simp only [Strategy.select, h.postcode, h.city]

theorem orderOf_eq (h : p.isSome = q.isSome) : orderOf p = orderOf q := by
  rw [orderOf, orderOf, h]

theorem shape_form (t : Tables) (ha : a.SameFields b) (hp : p.isSome = q.isSome) (limit limit' : UInt32) :
    (form t a p limit).shape = (form t b q limit').shape := by
  have hlimit : (limitForm limit).shape = (limitForm limit').shape := rfl
  rw [form, form, Form.shape_append, Form.shape_append, shape_flatten, shape_flatten,
    shape_selectForm ha.road hp]
  simp only [clauses, List.map_cons, List.map_append, strategy_eq ha, orderOf_eq hp, hlimit,
    shape_whereForms (shape_filterForms ha)]

/-- What a statement is made of besides its values. -/
theorem text_independent_of_values (t : Tables) :
    (∀ (a b : QueryAddress) (p q : Option ProjectedPoint) (limit limit' : UInt32), a.SameFields b →
      p.isSome = q.isSome →
      let s := build t a p limit
      let s' := build t b q limit'
      s.statement.text = s'.statement.text ∧ s.order = s'.order ∧ s.strategy = s'.strategy ∧
        s.statement.params.length = s'.statement.params.length) ∧
    (∀ (a : QueryAddress) (city : Option String) (p : Option ProjectedPoint) (limit : UInt32),
      a.postcode.isSome → build t { a with city } p limit = build t a p limit) ∧
    ∀ (p q : ProjectedPoint) (radius radius' : Float) (limit limit' : UInt32),
      (Ring.build t p radius limit).statement.text = (Ring.build t q radius' limit').statement.text := by
  refine ⟨fun a b p q limit limit' ha hp => ?_, fun a city p limit h => ?_, fun _ _ _ _ _ _ => rfl⟩
  · have hs := shape_form t ha hp limit limit'
    refine ⟨?_, orderOf_eq hp, strategy_eq ha, ?_⟩
    · simp only [build_statement, Draft.finish_write_empty, Form.numbered_eq_of_shape hs]
    · simp only [build_statement, Draft.finish_write_empty, Form.length_values_of_shape hs]
  · obtain ⟨postcode, hpostcode⟩ := Option.isSome_iff_exists.mp h
    have hstrategy : Strategy.select { a with city } = Strategy.select a := by
      simp [Strategy.select, hpostcode]
    have hfilters (d : Draft) : filters d { a with city } = filters d a := by
      simp only [filters, areaFilters, hpostcode]
    simp only [build, hstrategy, hfilters]

def sampleTables : Tables :=
  ⟨⟨"buildings", by decide +kernel⟩, ⟨"public.postcode", by decide +kernel⟩,
    ⟨"LIMIT", by decide +kernel⟩⟩

def hostileAddress : QueryAddress :=
  ⟨some "'; DROP TABLE buildings; --", some "$1", some "$2 /*", some "\\"⟩

def plainAddress : QueryAddress := ⟨some "Rathausmarkt", some "1", some "20095", some "Hamburg"⟩

theorem text_independent_of_hostile_values :
    hostileAddress.SameFields plainAddress ∧
      (build sampleTables hostileAddress none 5).statement.text =
        (build sampleTables plainAddress none 1000).statement.text ∧
      hostileAddress.postcode.isSome ∧
      build sampleTables { hostileAddress with city := none } none 5 =
        build sampleTables hostileAddress none 5 := by
  have hf : hostileAddress.SameFields plainAddress := ⟨rfl, rfl, rfl, rfl⟩
  have h := text_independent_of_values sampleTables
  exact ⟨hf, (h.1 _ _ none none 5 1000 hf rfl).1, rfl, h.2.1 _ none none 5 rfl⟩

end Search

end Geocoding
