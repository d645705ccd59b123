import Geocoding.Database.Row
import Geocoding.Proofs.Checking

/-!
# Rows that are read

The columns of a place must hold numbers, and the first that does not ends the reading; all other columns may hold
anything. So either every row becomes an entry, in order, or the error is that of the first row that cannot be read.
What comes of a row is the same in whatever answer it stands.
-/

namespace Geocoding.Database

open Checking

namespace Row

variable {r : Row} {column : String} {e : Error} {x : Float} {hasCentre : Bool}

/-- The first column of a name holds a number. -/
def Holds (r : Row) (column : String) (x : Float) : Prop :=
  ∃ v, r.lookup column = some v ∧ v.real? = some x

/-- Why a row has no number in a column. -/
def Lacks (r : Row) (column : String) : ColumnError → Prop
  | .missing => r.lookup column = none
  | .notANumber => ∃ v, r.lookup column = some v ∧ v.real? = none

def IsNumber (r : Row) (column : String) : Prop := ∃ x, r.Holds column x

def Refuses (r : Row) (column : String) (e : Error) : Prop :=
  ∃ why, r.Lacks column why ∧ e = .conversion (.column column why)

/-- The first column of a name is plain text, or there is no text. -/
def Shows (r : Row) (column : String) (t : Option String) : Prop :=
  ∀ s, t = some s ↔ r.lookup column = some (.text s)

theorem real_eq_ok_iff : r.real column = .ok x ↔ r.Holds column x := by
  unfold real Holds
  cases r.lookup column with
  | none => simp
  | some v => cases hv : v.real? <;> simp [hv]

theorem real_eq_error_iff : r.real column = .error e ↔ r.Refuses column e := by
  have hwhy : r.Refuses column e ↔ r.Lacks column .missing ∧ e = .conversion (.column column .missing) ∨
      r.Lacks column .notANumber ∧ e = .conversion (.column column .notANumber) := by
    constructor
    · rintro ⟨why, h, he⟩
      cases why with
      | missing => exact .inl ⟨h, he⟩
      | notANumber => exact .inr ⟨h, he⟩
    · rintro (⟨h, he⟩ | ⟨h, he⟩)
      · exact ⟨_, h, he⟩
      · exact ⟨_, h, he⟩
  rw [hwhy]
  unfold real Lacks
  cases r.lookup column with
  | none => simp [eq_comm]
  | some v => cases hv : v.real? <;> simp [hv, eq_comm]

theorem shows_iff {t : Option String} : r.Shows column t ↔ r.text? column = t := by
  have htext : ∀ s, r.text? column = some s ↔ r.lookup column = some (.text s) := by
    intro s
    rw [text?, Option.bind_eq_some_iff]
    constructor
    · rintro ⟨v, hv, hs⟩
      cases v with
      | text s' => exact Option.some.inj hs ▸ hv
      | _ => cases hs
    · intro h
      exact ⟨_, h, rfl⟩
  simp only [Shows, ← htext]
  constructor
  · intro h
    exact Option.ext fun s => (h s).symm
  · rintro rfl s
    rfl

theorem follows_real (r : Row) (column : String) :
    Follows r.IsNumber r.Refuses [column] (r.real column) := by
  refine .one ?_ (fun ⟨x, hx⟩ => ⟨x, real_eq_ok_iff.mpr hx⟩) fun e he => real_eq_error_iff.mpr he
  cases h : r.real column with
  | ok x => exact .inl ⟨x, real_eq_ok_iff.mp h⟩
  | error e => exact .inr ⟨e, real_eq_error_iff.mp h⟩

/-! ### Candidates -/

/-- The columns of a candidate that must hold numbers, in the order in which they are read. -/
def required (hasCentre : Bool) : List String := (if hasCentre then ["dist"] else []) ++ ["x", "y"]

structure ShowsAddress (r : Row) (a : BuildingAddress) : Prop where
  house : r.Shows "house" a.house
  road : r.Shows "road" a.road
  houseNumber : r.Shows "house_number" a.houseNumber
  postcode : r.Shows "postcode" a.postcode
  city : r.Shows "city" a.city

theorem showsAddress_iff {a : BuildingAddress} : r.ShowsAddress a ↔ r.address = a := by
  constructor
  · rintro ⟨house, road, houseNumber, postcode, city⟩
    rw [address, shows_iff.mp house, shows_iff.mp road, shows_iff.mp houseNumber, shows_iff.mp postcode,
      shows_iff.mp city]
  · rintro rfl
    exact ⟨shows_iff.mpr rfl, shows_iff.mpr rfl, shows_iff.mpr rfl, shows_iff.mpr rfl, shows_iff.mpr rfl⟩

/-- The candidate that a row describes. Without a number to read, the trigram distance is zero. -/
structure IsCandidate (hasCentre : Bool) (r : Row) (c : Candidate) : Prop where
  address : r.ShowsAddress c.address
  x : r.Holds "x" c.location.x
  y : r.Holds "y" c.location.y
  trigramDistance : r.Holds "trgm_dist" c.trigramDistance ∨ ¬ r.IsNumber "trgm_dist" ∧ c.trigramDistance = 0.0
  distance_isSome : c.distance.isSome = hasCentre
  distance : ∀ d, c.distance = some d → r.Holds "dist" d

structure IsNearby (r : Row) (n : Nearby) : Prop where
  address : r.ShowsAddress n.address
  distance : ∃ x, r.Holds "distance" x ∧ n.distance = .metres x

/-- The distance of a candidate, if there is a centre. -/
def distance (r : Row) (hasCentre : Bool) : Except Error (Option Float) :=
  if hasCentre then some <$> r.real "dist" else .ok none

def trigramDistance (r : Row) : Float :=
  match r.real "trgm_dist" with
  | .ok d => d
  | .error _ => 0.0

theorem candidate_eq_bind (r : Row) (hasCentre : Bool) : r.candidate hasCentre =
    (r.distance hasCentre >>= fun distance => r.real "x" >>= fun x => r.real "y" >>= fun y =>
      .ok ⟨r.address, ⟨x, y⟩, r.trigramDistance, distance⟩) := by
  cases hasCentre <;> rfl

theorem nearby_eq_bind (r : Row) :
    r.nearby = (r.real "distance" >>= fun distance => .ok ⟨r.address, .metres distance⟩) := rfl

theorem distance_eq_ok_iff {d : Option Float} :
    r.distance hasCentre = .ok d ↔ d.isSome = hasCentre ∧ ∀ x, d = some x → r.Holds "dist" x := by
  cases hasCentre with
  | false =>
    have h : r.distance false = .ok none := rfl
    cases d <;> simp [h]
  | true =>
    have h : r.distance true = some <$> r.real "dist" := rfl
    rw [h, map_eq_ok_iff]
    simp only [real_eq_ok_iff]
    cases d with
    | none => simp
    | some x => simp

theorem trigramDistance_eq_iff : r.trigramDistance = x ↔
    r.Holds "trgm_dist" x ∨ ¬ r.IsNumber "trgm_dist" ∧ x = 0.0 := by
  unfold trigramDistance IsNumber
  simp only [← real_eq_ok_iff]
  cases r.real "trgm_dist" <;> simp [eq_comm]

theorem candidate_eq_ok_iff {c : Candidate} : r.candidate hasCentre = .ok c ↔ IsCandidate hasCentre r c := by
  rw [candidate_eq_bind]
  constructor
  · intro h
    obtain ⟨d, hd, h⟩ := bind_eq_ok_iff.mp h
    obtain ⟨x, hx, h⟩ := bind_eq_ok_iff.mp h
    obtain ⟨y, hy, h⟩ := bind_eq_ok_iff.mp h
    obtain rfl := Except.ok.inj h
    obtain ⟨hsome, hdist⟩ := distance_eq_ok_iff.mp hd
    exact ⟨showsAddress_iff.mpr rfl, real_eq_ok_iff.mp hx, real_eq_ok_iff.mp hy, trigramDistance_eq_iff.mp rfl,
      hsome, hdist⟩
  · intro h
    have hd : r.distance hasCentre = .ok c.distance := distance_eq_ok_iff.mpr ⟨h.distance_isSome, h.distance⟩
    rw [hd, real_eq_ok_iff.mpr h.x, real_eq_ok_iff.mpr h.y, showsAddress_iff.mp h.address,
      trigramDistance_eq_iff.mpr h.trigramDistance]
    rfl

theorem nearby_eq_ok_iff {n : Nearby} : r.nearby = .ok n ↔ IsNearby r n := by
  rw [nearby_eq_bind]
  constructor
  · intro h
    obtain ⟨d, hd, h⟩ := bind_eq_ok_iff.mp h
    obtain rfl := Except.ok.inj h
    exact ⟨showsAddress_iff.mpr rfl, d, real_eq_ok_iff.mp hd, rfl⟩
  · intro h
    obtain ⟨x, hx, hd⟩ := h.distance
    rw [real_eq_ok_iff.mpr hx, showsAddress_iff.mp h.address]
    exact congrArg (fun d => Except.ok (⟨n.address, d⟩ : Nearby)) hd.symm

theorem follows_distance (r : Row) (hasCentre : Bool) :
    Follows r.IsNumber r.Refuses (if hasCentre then ["dist"] else []) (r.distance hasCentre) := by
  cases hasCentre with
  | false => exact .nothing none
  | true =>
    have h := (r.follows_real "dist").bind fun d _ => .nothing (some d)
    rw [List.append_nil] at h
    have hmap : r.distance true = (r.real "dist" >>= fun d => .ok (some d)) := by
      cases hd : r.real "dist" <;> simp [distance, hd, Functor.map, Except.map, bind, Except.bind]
    rw [hmap]
    exact h

theorem follows_candidate (r : Row) (hasCentre : Bool) :
    Follows r.IsNumber r.Refuses (required hasCentre) (r.candidate hasCentre) := by
  have hxy (d : Option Float) := (r.follows_real "x").bind fun x _ =>
    (r.follows_real "y").bind fun y _ =>
      .nothing (⟨r.address, ⟨x, y⟩, r.trigramDistance, d⟩ : Candidate)
  rw [candidate_eq_bind]
  exact (r.follows_distance hasCentre).bind fun d _ => hxy d

theorem follows_nearby (r : Row) : Follows r.IsNumber r.Refuses ["distance"] r.nearby :=
  (r.follows_real "distance").bind fun d _ => .nothing (⟨r.address, .metres d⟩ : Nearby)

/-! ### Columns that matter -/

/-- What comes of a row may change with the column of a name alone. -/
def Matters {α : Type} (read : Row → Except Error α) (column : String) : Prop :=
  ∃ r r' : Row, (∀ other, other ≠ column → r.lookup other = r'.lookup other) ∧ read r ≠ read r'

/-- The columns of a candidate. -/
def columns (hasCentre : Bool) : List String :=
  ["house", "road", "house_number", "postcode", "city", "trgm_dist", "x", "y"] ++ if hasCentre then ["dist"] else []

theorem real_congr {r' : Row} (h : r.lookup column = r'.lookup column) : r.real column = r'.real column := by
  rw [real, real, h]

theorem text?_congr {r' : Row} (h : r.lookup column = r'.lookup column) : r.text? column = r'.text? column := by
  rw [text?, text?, h]

theorem candidate_congr {r' : Row} (h : ∀ column ∈ columns hasCentre, r.lookup column = r'.lookup column) :
    r.candidate hasCentre = r'.candidate hasCentre := by
  obtain ⟨hnames, hcentre⟩ := List.forall_mem_append.mp h
  simp only [List.forall_mem_cons] at hnames
  obtain ⟨house, road, houseNumber, postcode, city, trigram, x, y, -⟩ := hnames
  have haddress : r.address = r'.address := by
    simp only [address, text?_congr house, text?_congr road, text?_congr houseNumber, text?_congr postcode,
      text?_congr city]
  have hdistance : r.distance hasCentre = r'.distance hasCentre := by
    cases hasCentre with
    | false => rfl
    | true => simp only [distance, real_congr (hcentre "dist" (by simp))]
  simp only [candidate_eq_bind, haddress, hdistance, trigramDistance, real_congr trigram, real_congr x, real_congr y]

/-- A row with the columns of a place and nothing else. -/
def place : Row := [("dist", .real64 0.0), ("x", .real64 0.0), ("y", .real64 0.0)]

theorem matters_of_ne {α : Type} {read : Row → Except Error α} {v : Sql.Value}
    (h : read place ≠ read ((column, v) :: place)) : Matters read column := by
  refine ⟨place, (column, v) :: place, fun other hother => ?_, h⟩
  rw [List.lookup_cons, beq_eq_false_iff_ne.mpr hother]

theorem matters_candidate_iff (hasCentre : Bool) (column : String) :
    Matters (candidate · hasCentre) column ↔ column ∈ columns hasCentre := by
  constructor
  · rintro ⟨r, r', hsame, hne⟩
    by_contra hnot
    refine hne (candidate_congr fun name hname => hsame name ?_)
    rintro rfl
    exact hnot hname
  · intro h
    have htexts : ∀ column ∈ ["house", "road", "house_number", "postcode", "city"],
        (place.candidate hasCentre).toOption.map (·.address) ≠
          (candidate ((column, .text "") :: place) hasCentre).toOption.map (·.address) := by
      cases hasCentre <;> decide
    have htrigram : (place.candidate hasCentre).toOption.map (·.trigramDistance) ≠
        (candidate (("trgm_dist", .real64 1.0) :: place) hasCentre).toOption.map (·.trigramDistance) := by
      cases hasCentre <;> decide
    have hnumbers : ∀ column ∈ required hasCentre,
        (place.candidate hasCentre).isOk ≠ (candidate ((column, .null) :: place) hasCentre).isOk := by
      cases hasCentre <;> decide
    have hsplit : column ∈ ["house", "road", "house_number", "postcode", "city"] ∨ column = "trgm_dist" ∨
        column ∈ required hasCentre := by
      simp only [columns, required, List.mem_append, List.mem_cons, List.not_mem_nil, or_false] at h ⊢
      tauto
    obtain hc | rfl | hc := hsplit
    · exact matters_of_ne fun he => htexts column hc (congrArg (fun o => o.toOption.map (·.address)) he)
    · exact matters_of_ne fun he => htrigram (congrArg (fun o => o.toOption.map (·.trigramDistance)) he)
    · exact matters_of_ne fun he => hnumbers column hc (congrArg Except.isOk he)

end Row

/-! ### Rows one after the other -/

/-- Rows are read in order, all or none of them, and each as if it stood alone. -/
structure ReadsRows {α : Type} (read : List Row → Except Error (List α)) (columns : List String)
    (Describes : Row → α → Prop) : Prop where
  ok_iff : ∀ rows, (∃ entries, read rows = .ok entries) ↔
    ∀ r ∈ rows, ∀ column ∈ columns, r.IsNumber column
  entries_iff : ∀ rows entries, read rows = .ok entries ↔ List.Forall₂ Describes rows entries
  error_iff : ∀ rows e, read rows = .error e ↔
    FirstRefused (fun r => ∀ column ∈ columns, r.IsNumber column)
      (fun r e => FirstRefused r.IsNumber r.Refuses columns e) rows e
  alone_ok : ∀ rows entries, read rows = .ok entries ↔
    List.Forall₂ (fun r entry => read [r] = .ok [entry]) rows entries
  alone_error : ∀ rows e, read rows = .error e ↔
    FirstRefused (fun r => ∃ entry, read [r] = .ok [entry]) (fun r e => read [r] = .error e) rows e

theorem readsRows_mapM {α : Type} {f : Row → Except Error α} {columns : List String} {Describes : Row → α → Prop}
    (hf : ∀ r : Row, Follows r.IsNumber r.Refuses columns (f r)) (hd : ∀ r a, f r = .ok a ↔ Describes r a) :
    ReadsRows (·.mapM f) columns Describes := by
  have hentries : (fun r a => f r = .ok a) = Describes := funext₂ fun r a => propext (hd r a)
  have hok : (fun r => ∃ a, f r = .ok a) = fun r => ∀ column ∈ columns, r.IsNumber column :=
    funext fun r => propext (hf r).ok_iff
  have herror : (fun r e => f r = .error e) = fun r e => FirstRefused r.IsNumber r.Refuses columns e :=
    funext₂ fun r e => propext ((hf r).error_iff e)
  have halone (r : Row) (a : α) : [r].mapM f = .ok [a] ↔ f r = .ok a := by
    rw [mapM_singleton]
    cases f r <;> simp [Except.map]
  have halone_error (r : Row) (e : Error) : [r].mapM f = .error e ↔ f r = .error e := by
    rw [mapM_singleton]
    cases f r <;> simp [Except.map]
  refine ⟨fun rows => ?_, fun rows entries => ?_, fun rows e => ?_, fun rows entries => ?_, fun rows e => ?_⟩
  · rw [(follows_mapM f rows).ok_iff]
    exact forall₂_congr fun r _ => (hf r).ok_iff
  · rw [mapM_eq_ok_iff, hentries]
  · rw [(follows_mapM f rows).error_iff, hok, herror]
  · simp only [halone]
    exact mapM_eq_ok_iff
  · simp only [halone, halone_error]
    exact (follows_mapM f rows).error_iff e

theorem readsRows_candidates (hasCentre : Bool) :
    ReadsRows (candidates hasCentre) (Row.required hasCentre) (Row.IsCandidate hasCentre) :=
  readsRows_mapM (fun r => r.follows_candidate hasCentre) fun _ _ => Row.candidate_eq_ok_iff

/-- The answers to searches and rings are read row by row, with the distance from the centre before the place. -/
theorem rows_all_or_none (hasCentre : Bool) :
    ReadsRows (candidates hasCentre) (Row.required hasCentre) (Row.IsCandidate hasCentre) ∧
      ReadsRows buildings ["distance"] Row.IsNearby :=
  ⟨readsRows_candidates hasCentre, readsRows_mapM Row.follows_nearby fun _ _ => Row.nearby_eq_ok_iff⟩

/-- The columns that matter to an answer of one row are those of a candidate. -/
theorem matters_candidates_iff (hasCentre : Bool) (column : String) :
    Row.Matters (fun r => candidates hasCentre [r]) column ↔ column ∈ Row.columns hasCentre := by
  have hsingle (r r' : Row) : candidates hasCentre [r] = candidates hasCentre [r'] ↔
      r.candidate hasCentre = r'.candidate hasCentre := by
    rw [candidates, candidates, mapM_singleton, mapM_singleton]
    cases r.candidate hasCentre <;> cases r'.candidate hasCentre <;> simp [Except.map]
  rw [← Row.matters_candidate_iff]
  simp only [Row.Matters, ne_eq, hsingle]

end Geocoding.Database
