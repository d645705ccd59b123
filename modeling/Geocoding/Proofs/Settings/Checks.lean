import Geocoding.Proofs.Checking
import Geocoding.Proofs.Tables
import Geocoding.Proofs.Text.Trim
import Geocoding.Settings

/-!
# The checks of settings

Nine checks are made in a fixed order, and the first that is not passed is what is reported. Settings that pass them
all give the URL of the service, and options that say what the settings say.
-/

namespace Geocoding.Settings

open Checking (Follows FirstRefused bind_eq_ok_iff mapError_eq_ok_iff)
open Sql (Identifier InvalidIdentifier)

variable {s : Settings} {o : Options}

/-- A check, by what it looks at. -/
inductive Check where
  | service
  | requirement (r : Requirement)
  /-- One of the names of the tables. -/
  | name (of : TableNames → String)
  | radii

/-- The checks in the order in which they are made. -/
def checks : List Check :=
  [.service, .requirement .poolSize, .requirement .databaseUrl, .requirement .searchLimit,
    .requirement .ringLimit, .name (·.buildings), .name (·.postcode), .name (·.admin), .radii]

/-- The schemes of web services. -/
def IsWebScheme (scheme : List Char) : Prop := scheme = "http".toList ∨ scheme = "https".toList

def Meets (s : Settings) : Requirement → Prop
  | .poolSize => 1 ≤ s.database.poolSize
  | .databaseUrl => ∃ c ∈ s.database.url.toList, Text.isBlank c = false
  | .searchLimit => 1 ≤ s.searchLimit.toNat
  | .ringLimit => 1 ≤ s.ringLimit.toNat

/-- What each check asks for. -/
def Passes (s : Settings) : Check → Prop
  | .service => ∃ url, Url.ofString s.serviceUrl = .ok url ∧ IsWebScheme url.scheme
  | .requirement r => s.Meets r
  | .name of => Sql.isIdentifier (of s.tables).toList = true
  | .radii => ∃ r, Radii.ofList s.radii = .ok r

/-- What is reported of a check that is not passed. -/
inductive Refuses (s : Settings) : Check → SettingsError → Prop where
  | malformed (e : Url.Error) (h : Url.ofString s.serviceUrl = .error e) :
      Refuses s .service (.serviceUrl s.serviceUrl (.malformed e))
  | scheme (url : Url) (h : Url.ofString s.serviceUrl = .ok url) (hs : ¬ IsWebScheme url.scheme) :
      Refuses s .service (.serviceUrl s.serviceUrl (.scheme (.ofList url.scheme)))
  | requirement (r : Requirement) (h : ¬ s.Meets r) : Refuses s (.requirement r) (.value r)
  | name (of : TableNames → String) (h : Sql.isIdentifier (of s.tables).toList = false) :
      Refuses s (.name of) (.table ⟨of s.tables⟩)
  | radii (e : RadiiError) (h : Radii.ofList s.radii = .error e) : Refuses s .radii (.radii e)

theorem passes_or_refuses (s : Settings) (c : Check) : s.Passes c ∨ ∃ e, s.Refuses c e := by
  cases c with
  | service =>
    cases hu : Url.ofString s.serviceUrl with
    | error e => exact .inr ⟨_, .malformed e hu⟩
    | ok url =>
      by_cases hs : IsWebScheme url.scheme
      · exact .inl ⟨url, hu, hs⟩
      · exact .inr ⟨_, .scheme url hu hs⟩
  | requirement r =>
    by_cases h : s.Meets r
    · exact .inl h
    · exact .inr ⟨_, .requirement r h⟩
  | name of =>
    cases h : Sql.isIdentifier (of s.tables).toList with
    | true => exact .inl h
    | false => exact .inr ⟨_, .name of h⟩
  | radii =>
    cases hr : Radii.ofList s.radii with
    | error e => exact .inr ⟨_, .radii e hr⟩
    | ok r => exact .inl ⟨r, hr⟩

theorem not_passes_of_refuses {c : Check} {e : SettingsError} (h : s.Refuses c e) : ¬ s.Passes c := by
  cases h with
  | malformed e hu =>
    rintro ⟨url, h, -⟩
    rw [hu] at h
    cases h
  | scheme url hu hs =>
    rintro ⟨url', h, hs'⟩
    obtain rfl := Except.ok.inj (hu.symm.trans h)
    exact hs hs'
  | requirement r h => exact h
  | name of h =>
    intro hp
    rw [Passes, h] at hp
    cases hp
  | radii e h =>
    rintro ⟨r, hr⟩
    rw [h] at hr
    cases hr

/-! ### The checks of each step -/

theorem follows_service (s : Settings) : Follows s.Passes s.Refuses [.service] s.service := by
  refine .one (s.passes_or_refuses .service) ?_ ?_
  · rintro ⟨url, hu, hs⟩
    refine ⟨url, ?_⟩
    rw [service, hu]
    exact if_pos hs
  · intro e h
    cases h with
    | malformed e hu => rw [service, hu]
    | scheme url hu hs =>
      rw [service, hu]
      exact if_neg hs

theorem service_eq_ok_iff {url : Url} :
    s.service = .ok url ↔ Url.ofString s.serviceUrl = .ok url ∧ IsWebScheme url.scheme := by
  constructor
  · intro h
    unfold service at h
    split at h
    · cases h
    · next u hu =>
      split at h
      · next hs =>
        obtain rfl := Except.ok.inj h
        exact ⟨hu, hs⟩
      · cases h
  · rintro ⟨hu, hs⟩
    rw [service, hu]
    exact if_pos hs

theorem ofString_of_service {url : Url} (h : s.service = .ok url) : Url.ofString s.serviceUrl = .ok url :=
  (service_eq_ok_iff.mp h).1

theorem follows_require {r : Requirement} {isMet : Bool} (h : isMet = true ↔ s.Meets r) :
    Follows s.Passes s.Refuses [.requirement r] (require r isMet) := by
  refine .one (s.passes_or_refuses (.requirement r)) ?_ ?_
  · intro hp
    exact ⟨(), if_pos (h.mpr hp)⟩
  · intro e he
    cases he with
    | requirement r hn => exact if_neg fun hm => hn (h.mp hm)

theorem meets_poolSize : (s.database.poolSize != 0) = true ↔ s.Meets .poolSize := by
  rw [bne_iff_ne]
  exact Nat.one_le_iff_ne_zero.symm

theorem meets_databaseUrl : (Text.trim s.database.url != "") = true ↔ s.Meets .databaseUrl := by
  rw [bne_iff_ne, ne_eq, Text.trim_eq_empty_iff]
  simp [Meets]

theorem one_le_toNat_iff (n : UInt32) : (n != 0) = true ↔ 1 ≤ n.toNat := by
  have hn : n.toNat = 0 ↔ n = 0 := UInt32.toNat_inj (b := 0)
  rw [bne_iff_ne, Nat.one_le_iff_ne_zero, ne_eq, ne_eq, hn]

theorem follows_names (s : Settings) :
    Follows s.Passes s.Refuses [.name (·.buildings), .name (·.postcode), .name (·.admin)]
      ((Tables.ofNames s.tables).mapError .table) := by
  have hone (of : TableNames → String) :
      Follows s.Passes (fun c e => s.Refuses c (.table e)) [.name of] (Identifier.ofString (of s.tables)) := by
    refine .one ?_ ?_ ?_
    · obtain hp | ⟨e, he⟩ := s.passes_or_refuses (.name of)
      · exact .inl hp
      · cases he with
        | name of h => exact .inr ⟨_, .name of h⟩
    · intro h
      exact ⟨_, dif_pos h⟩
    · intro e h
      cases h with
      | name of h => exact dif_neg (by rw [h]; decide)
  have hall : Follows s.Passes (fun c e => s.Refuses c (.table e))
      [.name (·.buildings), .name (·.postcode), .name (·.admin)] (Tables.ofNames s.tables) :=
    (hone _).bind fun _ _ => (hone _).bind fun _ _ => (hone _).bind fun _ _ => .nothing _
  refine hall.mapError fun c hc e' => ?_
  obtain ⟨of, rfl⟩ : ∃ of, c = .name of := by
    simp only [List.mem_cons, List.not_mem_nil, or_false] at hc
    obtain rfl | rfl | rfl := hc
    · exact ⟨_, rfl⟩
    · exact ⟨_, rfl⟩
    · exact ⟨_, rfl⟩
  constructor
  · intro h
    cases h with
    | name of h => exact ⟨_, .name of h, rfl⟩
  · rintro ⟨e, he, rfl⟩
    exact he

theorem follows_radii (s : Settings) :
    Follows s.Passes s.Refuses [.radii] ((Radii.ofList s.radii).mapError .radii) := by
  refine .one (s.passes_or_refuses .radii) ?_ ?_
  · rintro ⟨r, hr⟩
    exact ⟨r, by rw [hr]; rfl⟩
  · intro e h
    cases h with
    | radii e hr => rw [hr]; rfl

/-- The checks of the options of requests, which are the last six. -/
theorem follows_options (s : Settings) : Follows s.Passes s.Refuses (checks.drop 3) s.options :=
  (follows_require (one_le_toNat_iff _)).bind fun _ _ =>
    (follows_require (one_le_toNat_iff _)).bind fun _ _ =>
      s.follows_names.bind fun _ _ => s.follows_radii.bind fun _ _ => .nothing _

theorem follows_validate (s : Settings) : Follows s.Passes s.Refuses checks s.validate :=
  s.follows_service.bind fun _ _ =>
    (follows_require meets_poolSize).bind fun _ _ =>
      (follows_require meets_databaseUrl).bind fun _ _ => s.follows_options

/-! ### What accepted settings give -/

/-- The options say what the settings say. -/
structure Carries (s : Settings) (o : Options) : Prop where
  tables : TableNames.mk o.tables.buildings.text o.tables.postcode.text o.tables.admin.text = s.tables
  searchLimit : o.searchLimit = s.searchLimit
  ringLimit : o.ringLimit = s.ringLimit
  radii : o.radii.toList = s.radii
  timeout_none_iff : o.requestTimeout = none ↔ s.requestTimeout = 0
  timeout_eq : ∀ t, o.requestTimeout = some t → t = .ofSeconds s.requestTimeout

theorem carries_of_options (h : s.options = .ok o) : s.Carries o := by
  obtain ⟨-, -, h⟩ := bind_eq_ok_iff.mp h
  obtain ⟨-, -, h⟩ := bind_eq_ok_iff.mp h
  obtain ⟨t, ht, h⟩ := bind_eq_ok_iff.mp h
  obtain ⟨r, hr, h⟩ := bind_eq_ok_iff.mp h
  obtain rfl := Except.ok.inj h
  obtain ⟨hb, hp, ha⟩ := Tables.text_of_ofNames (mapError_eq_ok_iff.mp ht)
  refine ⟨?_, rfl, rfl, Radii.toList_of_ofList (mapError_eq_ok_iff.mp hr), ?_, fun t h => ?_⟩
  · rw [hb, hp, ha]
  · by_cases hz : s.requestTimeout = 0
    · simp [hz]
    · simp [hz]
  · by_cases hz : s.requestTimeout = 0
    · simp [hz] at h
    · simpa [hz] using h.symm

theorem steps_of_validate (h : s.validate = .ok o) : (∃ url, s.service = .ok url) ∧ s.options = .ok o := by
  obtain ⟨url, hu, h⟩ := bind_eq_ok_iff.mp h
  obtain ⟨-, -, h⟩ := bind_eq_ok_iff.mp h
  obtain ⟨-, -, h⟩ := bind_eq_ok_iff.mp h
  exact ⟨⟨url, hu⟩, h⟩

theorem carries_of_validate (h : s.validate = .ok o) : s.Carries o :=
  carries_of_options (steps_of_validate h).2

/-- Settings are accepted exactly when they pass all checks, and else what is reported is the first check that they do
not pass. The URL of the service and the options of accepted settings are to be had by themselves as well, and the
options say what the settings say. -/
theorem validate_follows_checks (s : Settings) :
    ((∃ o, s.validate = .ok o) ↔ ∀ c ∈ checks, s.Passes c) ∧
      (∀ e, s.validate = .error e ↔ FirstRefused s.Passes s.Refuses checks e) ∧
      (∀ c, ¬ s.Passes c ↔ ∃ e, s.Refuses c e) ∧
      ∀ o, s.validate = .ok o →
        (∃ url, s.service = .ok url ∧ Url.ofString s.serviceUrl = .ok url) ∧ s.options = .ok o ∧
          s.Carries o := by
  have hv := s.follows_validate
  refine ⟨hv.ok_iff, hv.error_iff, fun c => ⟨?_, ?_⟩, fun o h => ?_⟩
  · intro hn
    exact (s.passes_or_refuses c).resolve_left hn
  · rintro ⟨e, he⟩
    exact not_passes_of_refuses he
  · obtain ⟨⟨url, hu⟩, ho⟩ := steps_of_validate h
    exact ⟨⟨url, hu, ofString_of_service hu⟩, ho, carries_of_options ho⟩

/-- Settings that are accepted. -/
def sample : Settings where
  serviceUrl := "http://[::1]:8083"
  templates := none
  country := none
  requestTimeout := 0
  database := ⟨"postgres://osm:osm@db/osm?sslmode=require", 2, 0⟩
  tables := ⟨"house", "postcode", "public.admin"⟩
  searchLimit := 20
  ringLimit := 10
  radii := [25.0, 50.0]

theorem exists_of_isOk (h : s.validate.isOk = true) : ∃ o, s.validate = .ok o := by
  cases hv : s.validate with
  | ok o => exact ⟨o, rfl⟩
  | error e =>
    rw [hv] at h
    cases h

theorem sample_accepted : ∃ o, sample.validate = .ok o := exists_of_isOk (by decide +kernel)

/-- Settings without a timeout, and the same ones with three faults, of which the blank address of the database is the
first to be found. -/
theorem validate_follows_checks_sample :
    (∃ o, sample.validate = .ok o ∧ o.requestTimeout = none) ∧
      { sample with database.url := " \t", ringLimit := 0, tables.admin := "a-b" }.validate =
        .error (.value .databaseUrl) := by
  constructor
  · obtain ⟨o, ho⟩ := sample_accepted
    obtain ⟨-, -, hc⟩ := (validate_follows_checks sample).2.2.2 o ho
    exact ⟨o, ho, hc.timeout_none_iff.mpr rfl⟩
  · refine ((validate_follows_checks _).2.1 _).mpr
      ⟨[.service, .requirement .poolSize], .requirement .databaseUrl, _, rfl, ?_, .requirement _ ?_⟩
    · have hs := (validate_follows_checks sample).1.mp sample_accepted
      intro c hc
      obtain rfl | rfl : c = .service ∨ c = .requirement .poolSize := by simpa using hc
      · exact hs .service (by simp [checks])
      · exact hs (.requirement .poolSize) (by simp [checks])
    · rintro ⟨c, hc, hn⟩
      obtain rfl | rfl : c = ' ' ∨ c = '\t' := by simpa using hc
      · cases hn
      · cases hn

end Geocoding.Settings
