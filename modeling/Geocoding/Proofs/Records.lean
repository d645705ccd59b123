import Geocoding.Proofs.Json.Edits
import Geocoding.Proofs.Json.RoundTrip
import Geocoding.Records

/-!
# Records are read back

A point, an address or an answer is read back from its text, and from what becomes of the text when members are
moved, null members left out and unknown ones added. Of the floats in it this takes that each is read back from its
own text.
-/

namespace Geocoding

open Json

/-- A finite float that is read back from its own text. -/
def IsExact (x : Float) : Prop := x.isFinite = true ∧ ofJsonText? (toJsonText x) = some x

instance (x : Float) : Decidable (IsExact x) := inferInstanceAs (Decidable (_ ∧ _))

/-- The floats in a value. -/
class Floats (α : Type) where
  floats : α → List Float

export Floats (floats)

instance : Floats String := ⟨fun _ => []⟩

instance : Floats Float := ⟨fun x => [x]⟩

instance : Floats Distance := ⟨fun d => [d.value]⟩

instance {α : Type} [Floats α] : Floats (Option α) := ⟨fun o => o.elim [] floats⟩

instance : Floats GeographicPoint := ⟨fun p => floats p.lat ++ floats p.lon⟩

instance : Floats ProjectedPoint := ⟨fun p => floats p.x ++ floats p.y⟩

instance : Floats QueryAddress := ⟨fun _ => []⟩

instance : Floats BuildingAddress := ⟨fun _ => []⟩

instance : Floats Candidate :=
  ⟨fun c => floats c.location ++ floats c.trigramDistance ++ floats c.distance⟩

instance : Floats Nearby := ⟨fun n => floats n.distance⟩

instance : Floats Place := ⟨fun p => floats p.location⟩

instance : Floats Hit := ⟨fun h => floats h.distance⟩

/-- Each float in a value is exact. -/
def Exact {α : Type} [Floats α] (a : α) : Prop := ∀ x ∈ floats a, IsExact x

instance {α : Type} [Floats α] (a : α) : Decidable (Exact a) :=
  inferInstanceAs (Decidable (∀ x ∈ floats a, IsExact x))

/-! ### Edited records -/

instance : Shaped Distance where
  shape := Shaped.shape Float
  ofJson?_null := rfl
  ofJson?_edit h := by cases h

instance : Shaped GeographicPoint where
  shape := .record [("lat", Shaped.shape Float), ("lon", Shaped.shape Float)]
  ofJson?_null := rfl
  ofJson?_edit := by
    refine ofJson?_edit_of_parts (fun _ => rfl) (by decide) ?_
    -- One case is left for the edits of the parts: as many of them as there are names.
    rintro _ _ _ (_ | ⟨hlat, _ | ⟨hlon, ⟨⟩⟩⟩)
    exact hlat.bind_required? fun _ => hlon.bind_required? fun _ => id

instance : Shaped ProjectedPoint where
  shape := .record [("x", Shaped.shape Float), ("y", Shaped.shape Float)]
  ofJson?_null := rfl
  ofJson?_edit := by
    refine ofJson?_edit_of_parts (fun _ => rfl) (by decide) ?_
    rintro _ _ _ (_ | ⟨hx, _ | ⟨hy, ⟨⟩⟩⟩)
    exact hx.bind_required? fun _ => hy.bind_required? fun _ => id

instance : Shaped QueryAddress where
  shape := .record [("road", Shaped.shape String), ("house_number", Shaped.shape String),
    ("postcode", Shaped.shape String), ("city", Shaped.shape String)]
  ofJson?_null := rfl
  ofJson?_edit := by
    refine ofJson?_edit_of_parts (fun _ => rfl) (by decide) ?_
    rintro _ _ _ (_ | ⟨hroad, _ | ⟨hnumber, _ | ⟨hpostcode, _ | ⟨hcity, ⟨⟩⟩⟩⟩⟩)
    exact hroad.bind_optional? fun _ => hnumber.bind_optional? fun _ => hpostcode.bind_optional? fun _ =>
      hcity.bind_optional? fun _ => id

instance : Shaped BuildingAddress where
  shape := .record [("house", Shaped.shape String), ("road", Shaped.shape String),
    ("house_number", Shaped.shape String), ("postcode", Shaped.shape String), ("city", Shaped.shape String)]
  ofJson?_null := rfl
  ofJson?_edit := by
    refine ofJson?_edit_of_parts (fun _ => rfl) (by decide) ?_
    rintro _ _ _ (_ | ⟨hhouse, _ | ⟨hroad, _ | ⟨hnumber, _ | ⟨hpostcode, _ | ⟨hcity, ⟨⟩⟩⟩⟩⟩⟩)
    exact hhouse.bind_optional? fun _ => hroad.bind_optional? fun _ => hnumber.bind_optional? fun _ =>
      hpostcode.bind_optional? fun _ => hcity.bind_optional? fun _ => id

instance : Shaped Candidate where
  shape := .record [("address", Shaped.shape BuildingAddress), ("location", Shaped.shape ProjectedPoint),
    ("trigram_distance", Shaped.shape Float), ("distance", Shaped.shape Float)]
  ofJson?_null := rfl
  ofJson?_edit := by
    refine ofJson?_edit_of_parts (fun _ => rfl) (by decide) ?_
    rintro _ _ _ (_ | ⟨haddress, _ | ⟨hlocation, _ | ⟨htrigram, _ | ⟨hdistance, ⟨⟩⟩⟩⟩⟩)
    exact haddress.bind_required? fun _ => hlocation.bind_required? fun _ => htrigram.bind_required? fun _ =>
      hdistance.bind_optional? fun _ => id

instance : Shaped Nearby where
  shape := .record [("address", Shaped.shape BuildingAddress), ("distance", Shaped.shape Distance)]
  ofJson?_null := rfl
  ofJson?_edit := by
    refine ofJson?_edit_of_parts (fun _ => rfl) (by decide) ?_
    rintro _ _ _ (_ | ⟨haddress, _ | ⟨hdistance, ⟨⟩⟩⟩)
    exact haddress.bind_required? fun _ => hdistance.bind_required? fun _ => id

instance : Shaped Place where
  shape := .record [("display_name", Shaped.shape String), ("location", Shaped.shape GeographicPoint)]
  ofJson?_null := rfl
  ofJson?_edit := by
    refine ofJson?_edit_of_parts (fun _ => rfl) (by decide) ?_
    rintro _ _ _ (_ | ⟨hname, _ | ⟨hlocation, ⟨⟩⟩⟩)
    exact hname.bind_required? fun _ => hlocation.bind_required? fun _ => id

instance : Shaped Hit where
  shape := .record [("display_name", Shaped.shape String), ("distance", Shaped.shape Distance)]
  ofJson?_null := rfl
  ofJson?_edit := by
    refine ofJson?_edit_of_parts (fun _ => rfl) (by decide) ?_
    rintro _ _ _ (_ | ⟨hname, _ | ⟨hdistance, ⟨⟩⟩⟩)
    exact hname.bind_required? fun _ => hdistance.bind_required? fun _ => id

/-! ### Printed records -/

/-- A type whose values are read back from their JSON, and this from its text, if the floats are exact. -/
class Printed (α : Type) [Record α] [Floats α] : Prop where
  ofJson?_toJson {a : α} (h : Exact a) : ofJson? (toJson a) = some a
  legible {a : α} (h : Exact a) : Legible (toJson a)

instance : Printed String where
  ofJson?_toJson _ := rfl
  legible _ := .text _

theorem toJson_float {x : Float} (h : x.isFinite = true) : toJson x = .number (.real x) := if_pos h

instance : Printed Float where
  ofJson?_toJson {x} h := by
    obtain ⟨hfinite, -⟩ := h x List.mem_cons_self
    rw [toJson_float hfinite]
    rfl
  legible {x} h := by
    obtain ⟨hfinite, hread⟩ := h x List.mem_cons_self
    rw [ofJsonText?, toJsonText, String.toList_ofList, toJson_float hfinite] at hread
    rw [toJson_float hfinite]
    exact .number (.real x) (read?_realText hread)

instance : Printed Distance where
  ofJson?_toJson {d} h := by
    have hread : ofJson? (toJson d.value) = some d.value := Printed.ofJson?_toJson h
    cases d with
    | metres x => exact Option.map_eq_some_iff.mpr ⟨x, hread, rfl⟩
    | negativeNaN =>
      obtain ⟨hfinite, -⟩ := h _ List.mem_cons_self
      exact absurd hfinite (by decide +kernel)
  legible {d} h := Printed.legible (a := d.value) h

section Parts

variable {α β : Type} [Record α] [Floats α] [Printed α] {a : α} {o : Option α} {b : β}

theorem bind_required?_toJson {f : α → Option β} (h : Exact a) (hf : f a = some b) :
    (required? (some (toJson a)) >>= f) = some b :=
  Option.bind_eq_some_iff.mpr ⟨a, Printed.ofJson?_toJson h, hf⟩

theorem bind_optional?_ofOption [Shaped α] {f : Option α → Option β} (h : Exact o) (hf : f o = some b) :
    (optional? (some (ofOption o)) >>= f) = some b := by
  refine Option.bind_eq_some_iff.mpr ⟨o, ?_, hf⟩
  cases o with
  | none => rfl
  | some a => exact optional?_some (Printed.ofJson?_toJson h)

theorem legible_ofOption (h : Exact o) : Legible (ofOption o) := by
  cases o with
  | none => exact .null
  | some a => exact Printed.legible h

end Parts

theorem exact_text (s : Option String) : Exact s := by
  cases s with
  | none => exact List.forall_mem_nil _
  | some s => exact List.forall_mem_nil _

theorem exact_query (a : QueryAddress) : Exact a := List.forall_mem_nil _

theorem exact_address (a : BuildingAddress) : Exact a := List.forall_mem_nil _

instance : Printed GeographicPoint where
  ofJson?_toJson {p} h := by
    obtain ⟨hlat, hlon⟩ := List.forall_mem_append.mp h
    exact bind_required?_toJson hlat (bind_required?_toJson hlon rfl)
  legible {p} h := by
    obtain ⟨hlat, hlon⟩ := List.forall_mem_append.mp h
    exact (Printed.legible hlat).cons ((Printed.legible hlon).cons .nil)

instance : Printed ProjectedPoint where
  ofJson?_toJson {p} h := by
    obtain ⟨hx, hy⟩ := List.forall_mem_append.mp h
    exact bind_required?_toJson hx (bind_required?_toJson hy rfl)
  legible {p} h := by
    obtain ⟨hx, hy⟩ := List.forall_mem_append.mp h
    exact (Printed.legible hx).cons ((Printed.legible hy).cons .nil)

instance : Printed QueryAddress where
  ofJson?_toJson {a} _ :=
    bind_optional?_ofOption (exact_text a.road) (bind_optional?_ofOption (exact_text a.houseNumber)
      (bind_optional?_ofOption (exact_text a.postcode) (bind_optional?_ofOption (exact_text a.city) rfl)))
  legible {a} _ :=
    (legible_ofOption (exact_text a.road)).cons ((legible_ofOption (exact_text a.houseNumber)).cons
      ((legible_ofOption (exact_text a.postcode)).cons ((legible_ofOption (exact_text a.city)).cons .nil)))

instance : Printed BuildingAddress where
  ofJson?_toJson {a} _ :=
    bind_optional?_ofOption (exact_text a.house) (bind_optional?_ofOption (exact_text a.road)
      (bind_optional?_ofOption (exact_text a.houseNumber) (bind_optional?_ofOption (exact_text a.postcode)
        (bind_optional?_ofOption (exact_text a.city) rfl))))
  legible {a} _ :=
    (legible_ofOption (exact_text a.house)).cons ((legible_ofOption (exact_text a.road)).cons
      ((legible_ofOption (exact_text a.houseNumber)).cons ((legible_ofOption (exact_text a.postcode)).cons
        ((legible_ofOption (exact_text a.city)).cons .nil))))

instance : Printed Candidate where
  ofJson?_toJson {c} h := by
    obtain ⟨h, hdistance⟩ := List.forall_mem_append.mp h
    obtain ⟨hlocation, htrigram⟩ := List.forall_mem_append.mp h
    exact bind_required?_toJson (exact_address c.address) (bind_required?_toJson hlocation
      (bind_required?_toJson htrigram (bind_optional?_ofOption hdistance rfl)))
  legible {c} h := by
    obtain ⟨h, hdistance⟩ := List.forall_mem_append.mp h
    obtain ⟨hlocation, htrigram⟩ := List.forall_mem_append.mp h
    exact (Printed.legible (exact_address c.address)).cons ((Printed.legible hlocation).cons
      ((Printed.legible htrigram).cons ((legible_ofOption hdistance).cons .nil)))

instance : Printed Nearby where
  ofJson?_toJson {n} h := by
    have hdistance : Exact n.distance := h
    exact bind_required?_toJson (exact_address n.address) (bind_required?_toJson hdistance rfl)
  legible {n} h := (Printed.legible (exact_address n.address)).cons ((Printed.legible (a := n.distance) h).cons .nil)

instance : Printed Place where
  ofJson?_toJson {p} h := by
    have hlocation : Exact p.location := h
    -- The name is read without more ado: it is a text.
    exact bind_required?_toJson hlocation rfl
  legible {p} h := (Legible.text p.displayName).cons ((Printed.legible (a := p.location) h).cons .nil)

instance : Printed Hit where
  ofJson?_toJson {t} h := by
    have hdistance : Exact t.distance := h
    exact bind_required?_toJson hdistance rfl
  legible {t} h := (Legible.text t.displayName).cons ((Printed.legible (a := t.distance) h).cons .nil)

/-! ### Reading back -/

/-- A value is read back from its text, and after any edits of its document from every text that spells the edited
one. -/
structure ReadsBack {α : Type} [Record α] [Shaped α] (a : α) : Prop where
  read : ofJsonText? (toJsonText a) = some a
  read_edited {v : Value} {text : String} (h : Edits (Shaped.shape α) (toJson a) v)
    (ht : read? text.toList = some v) : ofJsonText? text = some a
  read_reprinted {v : Value} (h : Edits (Shaped.shape α) (toJson a) v) (hv : Legible v) :
    ofJsonText? (.ofList v.compact) = some a

theorem readsBack {α : Type} [Record α] [Shaped α] [Floats α] [Printed α] {a : α} (h : Exact a) :
    ReadsBack a := by
  have hedited : ∀ {v : Value} {text : String}, Edits (Shaped.shape α) (toJson a) v → read? text.toList = some v →
      ofJsonText? text = some a := by
    intro v text hv ht
    rw [ofJsonText?, ht]
    exact ofJson?_edits hv (Printed.ofJson?_toJson h)
  have hreprinted : ∀ {v : Value}, Edits (Shaped.shape α) (toJson a) v → Legible v →
      ofJsonText? (.ofList v.compact) = some a := by
    intro v hv hl
    refine hedited hv ?_
    rw [String.toList_ofList]
    exact hl.read?_compact
  exact ⟨hreprinted .refl (Printed.legible h), hedited, hreprinted⟩

/-- Of an address nothing is asked, since there are no floats in it. -/
theorem records_read_back :
    (∀ p : GeographicPoint, Exact p → ReadsBack p) ∧ (∀ p : ProjectedPoint, Exact p → ReadsBack p) ∧
    (∀ a : QueryAddress, ReadsBack a) ∧ (∀ a : BuildingAddress, ReadsBack a) ∧
    (∀ c : Candidate, Exact c → ReadsBack c) ∧ (∀ n : Nearby, Exact n → ReadsBack n) ∧
    (∀ p : Place, Exact p → ReadsBack p) ∧ ∀ t : Hit, Exact t → ReadsBack t :=
  ⟨fun _ => readsBack, fun _ => readsBack, fun a => readsBack (exact_query a), fun a => readsBack (exact_address a),
    fun _ => readsBack, fun _ => readsBack, fun _ => readsBack, fun _ => readsBack⟩

def samplePoint : GeographicPoint := ⟨48.398401, -9.99155⟩

def sampleGridPoint : ProjectedPoint := ⟨573427.25, -0.0⟩

def sampleAddress : BuildingAddress := ⟨none, some "Münsterplatz", some "1\t\"a\"", none, some "Ulm"⟩

def sampleCandidate : Candidate := ⟨sampleAddress, sampleGridPoint, 0.1, some 12.5⟩

def sampleNearby : Nearby := ⟨sampleAddress, .metres 2.5e-7⟩

def samplePlace : Place := ⟨"Ulm", samplePoint⟩

def sampleHit : Hit := ⟨"Ulm", .metres 1.5e300⟩

/-- What may become of the document of the last one. -/
def sampleEdited : Value :=
  .object [("rank", .list [.text "a"]), ("distance", toJson sampleHit.distance),
    ("display_name", toJson sampleHit.displayName)]

theorem records_read_back_samples :
    (Exact samplePoint ∧ ReadsBack samplePoint) ∧ (Exact sampleGridPoint ∧ ReadsBack sampleGridPoint) ∧
    (Exact sampleCandidate ∧ ReadsBack sampleCandidate) ∧ (Exact sampleNearby ∧ ReadsBack sampleNearby) ∧
    (Exact samplePlace ∧ ReadsBack samplePlace) ∧ (Exact sampleHit ∧ ReadsBack sampleHit) ∧
    ofJsonText? "\x7b\"rank\":[\"a\"],\"distance\":1.5e+300,\"display_name\":\"Ulm\"\x7d" = some sampleHit := by
  obtain ⟨hpoint, hgrid, -, -, hcandidate, hnearby, hplace, hhit⟩ := records_read_back
  have hexact : Exact sampleHit := by decide +kernel
  have hreads : ReadsBack sampleHit := hhit sampleHit hexact
  have hedits : Edits (Shaped.shape Hit) (toJson sampleHit) sampleEdited :=
    .tail (.single (.reorder (List.Perm.swap _ _ _))) (.add [] "rank" _ _ (by decide))
  have hlegible : Legible sampleEdited :=
    (Legible.list _ (List.forall_mem_singleton.mpr (.text "a"))).cons
      ((Printed.legible (a := sampleHit.distance) hexact).cons ((Legible.text "Ulm").cons .nil))
  have htext : String.ofList sampleEdited.compact =
      "\x7b\"rank\":[\"a\"],\"distance\":1.5e+300,\"display_name\":\"Ulm\"\x7d" := by
    decide +kernel
  refine ⟨⟨by decide +kernel, hpoint _ (by decide +kernel)⟩, ⟨by decide +kernel, hgrid _ (by decide +kernel)⟩,
    ⟨by decide +kernel, hcandidate _ (by decide +kernel)⟩, ⟨by decide +kernel, hnearby _ (by decide +kernel)⟩,
    ⟨by decide +kernel, hplace _ (by decide +kernel)⟩, ⟨hexact, hreads⟩, ?_⟩
  rw [← htext]
  exact hreads.read_reprinted hedits hlegible

example : ofJsonText? "\x7b\"road\": \"Main St\", \"house_number\": \"5\"\x7d" =
    some (⟨some "Main St", some "5", none, none⟩ : QueryAddress) := by
  decide +kernel

end Geocoding
