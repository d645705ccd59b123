import Geocoding.Proofs.Keyed
import Geocoding.Proofs.Text.Lowercase
import Geocoding.TemplateFile

/-!
# The template of a country

The code of a country is put in lower case before it is looked up, and the keys of a template file are not. An entry
is found under every spelling of its code if its key is in lower case, and under none otherwise.
-/

namespace Geocoding.TemplateFile

variable {f : TemplateFile} {code : String}

/-- Two texts differ at most in the case of their letters. -/
def SameLetters (s t : String) : Prop := Text.lower s = Text.lower t

/-- The template of a country that has no entry. -/
def fallback (f : TemplateFile) : Template := (f.standard.map Template.mk).getD .standard

/-- What may be used for a country: the template of an entry for its code in whatever case, and only without such an
entry the fallback. -/
inductive Suits (f : TemplateFile) (code : String) : Template → Prop where
  | entry (key text : String) (listed : (key, text) ∈ f.countries) (same : SameLetters key code) :
      Suits f code ⟨text⟩
  | fallback (absent : ∀ entry ∈ f.countries, ¬ SameLetters entry.1 code) : Suits f code f.fallback

theorem template_of_lookup {text : String} (h : f.countries.lookup (Text.lower code) = some text) :
    f.template (some code) = ⟨text⟩ := by
  simp [template, h]

theorem template_of_lookup_eq_none (h : f.countries.lookup (Text.lower code) = none) :
    f.template (some code) = f.fallback := by
  simp [template, fallback, h]

theorem suits_of_lookup {text : String} (h : f.countries.lookup (Text.lower code) = some text) :
    Suits f code (f.template (some code)) := by
  rw [template_of_lookup h]
  exact .entry _ _ (Keyed.mem_of_lookup h) (Text.lower_lower code)

theorem suits_fallback_iff : Suits f code f.fallback ↔ (∀ entry ∈ f.countries, ¬ SameLetters entry.1 code) ∨
    ∃ entry ∈ f.countries, SameLetters entry.1 code ∧ f.fallback = ⟨entry.2⟩ := by
  constructor
  · intro h
    generalize ht : f.fallback = t at h
    cases h with
    | entry key text listed same => exact .inr ⟨(key, text), listed, same, rfl⟩
    | fallback absent => exact .inl absent
  · rintro (absent | ⟨entry, listed, same, he⟩)
    · exact .fallback absent
    · rw [he]
      exact .entry entry.1 entry.2 listed same

theorem lookup_filter_lower (entries : List (String × String)) (code : String) :
    (entries.filter fun entry => Text.lower entry.1 = entry.1).lookup (Text.lower code) =
      entries.lookup (Text.lower code) := by
  induction entries with
  | nil => rfl
  | cons entry entries ih =>
    obtain ⟨key, text⟩ := entry
    by_cases hkey : Text.lower key = key
    · rw [List.filter_cons_of_pos (by simp [hkey]), List.lookup_cons, List.lookup_cons, ih]
    · -- A text in lower case is not this key, which is not in lower case.
      have hne : (Text.lower code == key) = false := by
        rw [beq_eq_false_iff_ne]
        rintro rfl
        exact hkey (Text.lower_lower code)
      rw [List.filter_cons_of_neg (by simp [hkey]), List.lookup_cons, hne, ih]

/-- A country gets the right template exactly if its code in lower case is a key, or no key is its code in another
case, or the template under such a key is the fallback too. So all countries do if all keys are in lower case; and
without the other entries nothing would change. -/
theorem template_suits_iff (f : TemplateFile) (code : String) :
    (Suits f code (f.template (some code)) ↔
      (∃ text, (Text.lower code, text) ∈ f.countries) ∨
      (∀ entry ∈ f.countries, ¬ SameLetters entry.1 code) ∨
      ∃ entry ∈ f.countries, SameLetters entry.1 code ∧ f.fallback = ⟨entry.2⟩) ∧
    ((∀ entry ∈ f.countries, Text.lower entry.1 = entry.1) → Suits f code (f.template (some code))) ∧
    { f with countries := f.countries.filter fun entry => Text.lower entry.1 = entry.1 }.template (some code) =
      f.template (some code) := by
  refine ⟨?_, fun hlower => ?_, ?_⟩
  · have hkey : (∃ text, (Text.lower code, text) ∈ f.countries) ↔
        ∃ text, f.countries.lookup (Text.lower code) = some text := by
      rw [← Keyed.mem_keys_iff]
      simp
    rw [hkey]
    cases h : f.countries.lookup (Text.lower code) with
    | some text => simpa using suits_of_lookup h
    | none => simpa [template_of_lookup_eq_none h] using suits_fallback_iff
  · cases h : f.countries.lookup (Text.lower code) with
    | some text => exact suits_of_lookup h
    | none =>
      rw [template_of_lookup_eq_none h]
      refine .fallback fun entry listed same => ?_
      rw [Keyed.lookup_eq_none_iff_keys] at h
      refine h (List.mem_map.mpr ⟨entry, listed, ?_⟩)
      rw [← same, hlower entry listed]
  · simp only [template, Option.bind_some, lookup_filter_lower]

/-- A code in upper case finds the key in lower case. -/
theorem template_suits_iff_upper_code :
    let f : TemplateFile := ⟨some "\x7broad\x7d", [("de", "\x7bcity\x7d"), ("us", "\x7bpostcode\x7d")]⟩
    (∀ entry ∈ f.countries, Text.lower entry.1 = entry.1) ∧ f.template (some "US") = ⟨"\x7bpostcode\x7d"⟩ ∧
      Suits f "US" (f.template (some "US")) := by
  intro f
  have hlower : ∀ entry ∈ f.countries, Text.lower entry.1 = entry.1 := by decide +kernel
  have hused : f.template (some "US") = ⟨"\x7bpostcode\x7d"⟩ := by decide +kernel
  exact ⟨hlower, hused, (template_suits_iff f "US").2.1 hlower⟩

/-- An entry under a key in upper case is not found, not even under that very code. -/
theorem upper_key_missed :
    let text := "default = \"\x7broad\x7d\"\n[countries]\nUS = \"\x7bcity\x7d\""
    let f : TemplateFile := ⟨some "\x7broad\x7d", [("US", "\x7bcity\x7d")]⟩
    ofText text = .ok f ∧ f.template (some "US") = ⟨"\x7broad\x7d"⟩ ∧
      ¬ Suits f "US" (f.template (some "US")) := by
  intro text f
  have hread : (Toml.read? text).bind ofToml? = some f := by decide +kernel
  have hused : f.template (some "US") = ⟨"\x7broad\x7d"⟩ := by decide +kernel
  refine ⟨by rw [ofText, hread], hused, fun h => ?_⟩
  rw [hused] at h
  generalize ht : (⟨"\x7broad\x7d"⟩ : Template) = t at h
  cases h with
  | entry key text listed same =>
    obtain ⟨-, rfl⟩ := Prod.mk.inj (List.mem_singleton.mp listed)
    exact absurd (congrArg Template.text ht) (by decide)
  | fallback absent => exact absent ("US", "\x7bcity\x7d") (by decide) rfl

end Geocoding.TemplateFile
