import Geocoding.CommandLine.Run
import Geocoding.Proofs.CommandLine.Grammar
import Geocoding.Proofs.Decimal.Order
import Mathlib.Data.List.TakeWhile

/-!
# The points that a command line names

The centre of a search is a point of the globe on every command line that is accepted. The point to look around is any
two numbers: nothing keeps it on the globe.
-/

namespace Geocoding.CommandLine

open Checking (bind_eq_ok_iff mapError_eq_ok_iff)
open Decimal (place magnitudeBits)

variable {arguments : List String} {i : Invocation} {p : GeographicPoint} {text lat lon query : String}

/-! ### The globe -/

/-- That a point is one of the globe. Its coordinates are numbers then. -/
structure IsOnGlobe (p : GeographicPoint) : Prop where
  lat : -90.0 ≤ p.lat ∧ p.lat ≤ 90.0
  lon : -180.0 ≤ p.lon ∧ p.lon ≤ 180.0

theorem isWithin_iff {bound lower x : Float} (hb : Decimal.isNegative bound = false) (hn : bound.isNaN = false)
    (hl : place lower = -place bound) (hln : lower.isNaN = false) :
    isWithin bound x = true ↔ lower ≤ x ∧ x ≤ bound := by
  have hbound : place bound = magnitudeBits bound := by rw [place, hb, if_neg Bool.false_ne_true]
  rw [isWithin, decide_eq_true_iff]
  cases hx : x.isNaN with
  | true =>
    have hfar : magnitudeBits bound < magnitudeBits x := by
      have hle := (Decimal.reads bound).magnitudeBits_le (Decimal.word_ne_nanWord hn)
      have hword := (Decimal.isNaN_iff x).mp hx
      rw [Decimal.magnitudeBits_eq x, hword]
      exact Nat.lt_of_le_of_lt hle (by decide)
    constructor
    · intro h
      exact absurd h (Nat.not_le.mpr hfar)
    · rintro ⟨h, -⟩
      rw [(Decimal.isNaN_of_le h).2] at hx
      cases hx
  | false =>
    rw [Decimal.le_iff_place_le hln hx, Decimal.le_iff_place_le hx hn, hl, hbound, place]
    split
    · omega
    · omega

theorem isOnGlobe_iff : isOnGlobe p = true ↔ IsOnGlobe p := by
  have hlat : isWithin 90.0 p.lat = true ↔ -90.0 ≤ p.lat ∧ p.lat ≤ 90.0 :=
    isWithin_iff (by decide) (by decide) (by decide) (by decide)
  have hlon : isWithin 180.0 p.lon = true ↔ -180.0 ≤ p.lon ∧ p.lon ≤ 180.0 :=
    isWithin_iff (by decide) (by decide) (by decide) (by decide)
  rw [isOnGlobe, Bool.and_eq_true, hlat, hlon]
  exact ⟨fun h => ⟨h.1, h.2⟩, fun h => ⟨h.lat, h.lon⟩⟩

/-! ### Centres -/

/-- That a text names a centre: the latitude and the longitude of a point of the globe, each perhaps between blanks, and
a comma between them. -/
inductive NamesCentre : String → GeographicPoint → Prop where
  | intro (lat lon : String) (p : GeographicPoint) (hcomma : ',' ∉ lat.toList)
      (hlat : Decimal.read (Text.trim lat) = .ok p.lat) (hlon : Decimal.read (Text.trim lon) = .ok p.lon)
      (hglobe : IsOnGlobe p) : NamesCentre (lat ++ "," ++ lon) p

theorem centre_append (hcomma : ',' ∉ lat.toList) : centre (lat ++ "," ++ lon) = (do
    let p : GeographicPoint := ⟨← (Decimal.read (Text.trim lat)).mapError (.latitude lat),
      ← (Decimal.read (Text.trim lon)).mapError (.longitude lon)⟩
    if isOnGlobe p then .ok p else .error (.outside p)) := by
  have htext : (lat ++ "," ++ lon).toList = lat.toList ++ ',' :: lon.toList := by simp
  have hplain : ∀ c ∈ lat.toList, (c != ',') = true := fun c hc => bne_iff_ne.mpr fun he => hcomma (he ▸ hc)
  have hbefore : (lat.toList ++ ',' :: lon.toList).takeWhile (· != ',') = lat.toList := by
    rw [List.takeWhile_append_of_pos hplain, List.takeWhile_cons_of_neg (by simp), List.append_nil]
  have hafter : (lat.toList ++ ',' :: lon.toList).dropWhile (· != ',') = ',' :: lon.toList := by
    rw [List.dropWhile_append_of_pos hplain, List.dropWhile_cons_of_neg (by simp)]
  rw [centre, htext, hafter, hbefore]
  simp only [String.ofList_toList]

theorem exists_append_of_centre (h : centre text = .ok p) :
    ∃ lat lon : String, text = lat ++ "," ++ lon ∧ ',' ∉ lat.toList := by
  unfold centre at h
  dsimp only at h
  split at h
  · cases h
  · next c after hd =>
    have hc : c = ',' := by
      have hhead := List.head?_dropWhile_not (· != ',') text.toList
      rw [hd] at hhead
      simpa using hhead
    have hsplit := List.takeWhile_append_dropWhile (p := (· != ',')) (l := text.toList)
    rw [hd, hc] at hsplit
    refine ⟨.ofList (text.toList.takeWhile (· != ',')), .ofList after, ?_, fun hm => ?_⟩
    · rw [← String.toList_inj]
      simp [hsplit]
    · rw [String.toList_ofList] at hm
      simpa using List.mem_takeWhile_imp hm

theorem centre_eq_ok_iff : centre text = .ok p ↔ NamesCentre text p := by
  constructor
  · intro h
    obtain ⟨lat, lon, rfl, hcomma⟩ := exists_append_of_centre h
    rw [centre_append hcomma] at h
    obtain ⟨x, hx, h⟩ := bind_eq_ok_iff.mp h
    obtain ⟨y, hy, h⟩ := bind_eq_ok_iff.mp h
    dsimp only at h
    split at h
    · next hp =>
      obtain rfl := Except.ok.inj h
      exact .intro lat lon _ hcomma (mapError_eq_ok_iff.mp hx) (mapError_eq_ok_iff.mp hy) (isOnGlobe_iff.mp hp)
    · cases h
  · rintro ⟨lat, lon, p, hcomma, hlat, hlon, hglobe⟩
    rw [centre_append hcomma, hlat, hlon]
    exact if_pos (isOnGlobe_iff.mpr hglobe)

/-! ### Command lines -/

theorem eq_ok_of_toOption {ε α : Type} {x : Except ε α} {a : α} (h : x.toOption = some a) : x = .ok a := by
  cases x with
  | error e => cases h
  | ok b => exact congrArg Except.ok (Option.some.inj h)

/-- Every centre that has been read has been named. -/
theorem forward_keeps : forward.Keeps (Holds arguments)
    fun parts => ∀ p ∈ parts.centre, ∃ text, Holds arguments text ∧ NamesCentre text p where
  options o ho := by
    obtain rfl | rfl | rfl : o = _ ∨ o = _ ∨ o = _ := by simpa [forward] using ho
    · exact preserves_once fun _ _ _ _ _ ha => ha
    · refine preserves_once fun text x a hv hx _ p hp => ?_
      obtain rfl := Option.some.inj hp
      exact ⟨text, hv, centre_eq_ok_iff.mp (eq_ok_of_toOption hx)⟩
    · exact preserves_once fun _ _ _ _ _ ha => ha
  operands o ho := by
    obtain rfl : o = _ := by simpa [forward] using ho
    dsimp only
    exact preserves_once fun _ _ _ _ _ ha => ha

/-- Every coordinate that has been read has been given as a number. -/
theorem reverse_keeps : reverse.Keeps (Holds arguments) fun parts =>
    (∀ x ∈ parts.lat, ∃ text, Holds arguments text ∧ number? text = some x) ∧
      ∀ x ∈ parts.lon, ∃ text, Holds arguments text ∧ number? text = some x where
  options o ho := by
    obtain rfl | rfl : o = _ ∨ o = _ := by simpa [reverse] using ho
    · exact preserves_once fun _ _ _ _ _ ha => ha
    · exact preserves_once fun _ _ _ _ _ ha => ha
  operands o ho := by
    obtain rfl | rfl : o = _ ∨ o = _ := by simpa [reverse] using ho
    · refine preserves_once fun text x a hv hx ha => ⟨fun y hy => ?_, ha.2⟩
      obtain rfl := Option.some.inj hy
      exact ⟨text, hv, hx⟩
    · refine preserves_once fun text x a hv hx ha => ⟨ha.1, fun y hy => ?_⟩
      obtain rfl := Option.some.inj hy
      exact ⟨text, hv, hx⟩

theorem exists_read_of_ofArguments (h : Invocation.ofArguments arguments = .ok i) :
    ∃ rest, rest ⊆ arguments ∧ ((∃ r, Forward.ofArguments rest = .ok r ∧ i.request = .forward r) ∨
      ∃ r, Reverse.ofArguments rest = .ok r ∧ i.request = .reverse r) := by
  obtain ⟨⟨before, command⟩, hread, h⟩ := bind_eq_ok_iff.mp h
  dsimp only at h
  split at h
  · next rest =>
    obtain ⟨r, hr, h⟩ := bind_eq_ok_iff.mp h
    obtain ⟨s, -, h⟩ := bind_eq_ok_iff.mp h
    obtain rfl := Except.ok.inj h
    exact ⟨rest, Command.subset_of_readFrom hread, .inl ⟨r, hr, rfl⟩⟩
  · next rest =>
    obtain ⟨r, hr, h⟩ := bind_eq_ok_iff.mp h
    obtain ⟨s, -, h⟩ := bind_eq_ok_iff.mp h
    obtain rfl := Except.ok.inj h
    exact ⟨rest, Command.subset_of_readFrom hread, .inr ⟨r, hr, rfl⟩⟩
  · cases h
  · obtain ⟨s, -, h⟩ := bind_eq_ok_iff.mp h
    cases h

theorem named_of_forward {r : Forward} (h : Forward.ofArguments arguments = .ok r) (hp : r.centre = some p) :
    ∃ text, Holds arguments text ∧ NamesCentre text p := by
  obtain ⟨parts, hread, h⟩ := bind_eq_ok_iff.mp h
  have hkept := forward_keeps.readAll (by simp) hread
  split at h
  · obtain rfl := Except.ok.inj h
    exact hkept p hp
  · cases h

theorem given_of_reverse {r : Reverse} (h : Reverse.ofArguments arguments = .ok r) :
    (∃ text, Holds arguments text ∧ number? text = some r.point.lat) ∧
      ∃ text, Holds arguments text ∧ number? text = some r.point.lon := by
  obtain ⟨parts, hread, h⟩ := bind_eq_ok_iff.mp h
  have hkept := reverse_keeps.readAll (by simp) hread
  split at h
  · next lat lon hlat hlon =>
    obtain rfl := Except.ok.inj h
    exact ⟨hkept.1 lat hlat, hkept.2 lon hlon⟩
  · cases h

/-- A search with a centre is read exactly if its centre is. -/
theorem ofArguments_centre (query text : String) :
    Invocation.ofArguments ["forward", "--center=" ++ text, "--", query] =
      match centre text with
      | .ok p => .ok ⟨standardSettings, false, .forward ⟨query, none, some p, none⟩⟩
      | .error _ => .error .valueRefused := by
  have hmark : Shape.of "--" = .mark := rfl
  have hshape : Shape.of ("--center=" ++ text) = .long "center".toList (some text) := by simp [Shape.of, splitAttached]
  have hread : Forward.ofArguments ["--center=" ++ text, "--", query] =
      match centre text with
      | .ok p => .ok ⟨query, none, some p, none⟩
      | .error _ => .error .valueRefused := by
    cases hc : centre text <;>
      simp [Forward.ofArguments, Command.readAll, Command.read, Command.readFrom, hmark, hshape, forward,
        Command.readOperand, Command.readLong, Command.option?, Progress.settle, Progress.awaitsValue, once, bind,
        Except.bind, pure, Except.pure, List.lookup_cons, hc, Except.toOption]
  have hgeneral : general.read ⟨none, false⟩ ["forward", "--center=" ++ text, "--", query] =
      .ok (⟨⟨none, false⟩, none, []⟩, some ("forward", ["--center=" ++ text, "--", query])) := rfl
  rw [Invocation.ofArguments, hgeneral]
  show (Forward.ofArguments ["--center=" ++ text, "--", query] >>= fun r => _) = _
  rw [hread]
  cases centre text <;> rfl

/-- Any two numbers are read. -/
theorem ofArguments_point (hlat : number? lat = some p.lat) (hlon : number? lon = some p.lon) :
    Invocation.ofArguments ["reverse", "--", lat, lon] =
      .ok ⟨standardSettings, false, .reverse ⟨p, none, none⟩⟩ := by
  have hmark : Shape.of "--" = .mark := rfl
  have hread : Reverse.ofArguments ["--", lat, lon] = .ok ⟨p, none, none⟩ := by
    simp [Reverse.ofArguments, Command.readAll, Command.read, Command.readFrom, hmark, reverse, Command.readOperand,
      Progress.settle, Progress.awaitsValue, once, hlat, hlon, bind, Except.bind, pure, Except.pure]
  have hgeneral : general.read ⟨none, false⟩ ["reverse", "--", lat, lon] =
      .ok (⟨⟨none, false⟩, none, []⟩, some ("reverse", ["--", lat, lon])) := rfl
  rw [Invocation.ofArguments, hgeneral]
  show (Reverse.ofArguments ["--", lat, lon] >>= fun r => _) = _
  rw [hread]
  rfl

theorem answer?_point {π σ : Type} (g : Geocoder π σ) (settings : String) (json : Bool) (r : Reverse) (d : Deadline)
    (now : Instant) (outside : π × σ) : answer? g ⟨settings, json, .reverse r⟩ d now outside =
      (g.reverse? r.point (r.limit.getD g.options.ringLimit) d now outside).map fun (hit, later, left) =>
        (.of (printHit json) hit, later, left) := by
  simp only [answer?]
  cases g.reverse? r.point (r.limit.getD g.options.ringLimit) d now outside <;> rfl

/-- A centre that is handed over is a point of the globe, named by a text that the command line holds. -/
theorem forward_named (h : Invocation.ofArguments arguments = .ok i) {r : Forward} (hi : i.request = .forward r)
    (hp : r.centre = some p) :
    (IsOnGlobe p ∧ p.lat.isNaN = false ∧ p.lon.isNaN = false) ∧ ∃ text, Holds arguments text ∧ NamesCentre text p := by
  obtain ⟨rest, hsub, ⟨r', hr, hi'⟩ | ⟨r', -, hi'⟩⟩ := exists_read_of_ofArguments h
  · obtain rfl : r = r' := by simpa [hi] using hi'
    obtain ⟨text, hheld, hnames⟩ := named_of_forward hr hp
    refine ⟨?_, text, hheld.mono hsub, hnames⟩
    obtain ⟨_, _, _, _, _, _, hglobe⟩ := hnames
    exact ⟨hglobe, (Decimal.isNaN_of_le hglobe.lat.2).1, (Decimal.isNaN_of_le hglobe.lon.2).1⟩
  · rw [hi] at hi'
    cases hi'

/-- The point to look around is of two numbers that the command line holds. -/
theorem reverse_given (h : Invocation.ofArguments arguments = .ok i) {r : Reverse} (hi : i.request = .reverse r) :
    (∃ text, Holds arguments text ∧ number? text = some r.point.lat) ∧
      ∃ text, Holds arguments text ∧ number? text = some r.point.lon := by
  obtain ⟨rest, hsub, ⟨r', -, hi'⟩ | ⟨r', hr, hi'⟩⟩ := exists_read_of_ofArguments h
  · rw [hi] at hi'
    cases hi'
  · obtain rfl : r = r' := by simpa [hi] using hi'
    obtain ⟨⟨lat, hlat, hx⟩, lon, hlon, hy⟩ := given_of_reverse hr
    exact ⟨⟨lat, hlat.mono hsub, hx⟩, lon, hlon.mono hsub, hy⟩

theorem exists_ofArguments_centre_iff (query text : String) :
    (∃ i, Invocation.ofArguments ["forward", "--center=" ++ text, "--", query] = .ok i) ↔
      ∃ p, NamesCentre text p := by
  rw [ofArguments_centre]
  cases hc : centre text with
  | ok p => exact ⟨fun _ => ⟨p, centre_eq_ok_iff.mp hc⟩, fun _ => ⟨_, rfl⟩⟩
  | error e =>
    refine ⟨nofun, fun ⟨p, hp⟩ => ?_⟩
    rw [centre_eq_ok_iff.mpr hp] at hc
    cases hc

/-- The points that a request hands to the geocoder. -/
def Request.points : Request → List GeographicPoint
  | .forward r => r.centre.toList
  | .reverse r => [r.point]

/-- The points of a command line that is accepted are on the globe exactly if the point to look around is, where there
is one: a centre always is, and a text that names none is refused. The point to look around is of any two numbers that
the command line holds, and it is handed over whatever they are. -/
theorem points_named (arguments : List String) (query text lat lon : String) (p : GeographicPoint) :
    (∀ i, Invocation.ofArguments arguments = .ok i →
      ((∀ q ∈ i.request.points, IsOnGlobe q) ↔ ∀ r, i.request = .reverse r → IsOnGlobe r.point) ∧
      (∀ r q, i.request = .forward r → r.centre = some q →
        (IsOnGlobe q ∧ q.lat.isNaN = false ∧ q.lon.isNaN = false) ∧
          ∃ text, Holds arguments text ∧ NamesCentre text q) ∧
      ∀ r, i.request = .reverse r → (∃ text, Holds arguments text ∧ number? text = some r.point.lat) ∧
        ∃ text, Holds arguments text ∧ number? text = some r.point.lon) ∧
    ((∃ i, Invocation.ofArguments ["forward", "--center=" ++ text, "--", query] = .ok i) ↔
      ∃ p, NamesCentre text p) ∧
    (number? lat = some p.lat → number? lon = some p.lon →
      ∃ i, Invocation.ofArguments ["reverse", "--", lat, lon] = .ok i ∧
        ∀ (π σ : Type) (g : Geocoder π σ) d now outside, answer? g i d now outside =
          (g.reverse? p g.options.ringLimit d now outside).map fun (hit, later, left) =>
            (.of (printHit false) hit, later, left)) := by
  refine ⟨fun i h => ⟨⟨fun hall r hi => ?_, fun hpoint q hq => ?_⟩, fun r q hi hq => forward_named h hi hq,
    fun r hi => reverse_given h hi⟩, exists_ofArguments_centre_iff query text, fun hlat hlon =>
      ⟨_, ofArguments_point hlat hlon, fun _ _ g => answer?_point g _ false ⟨p, none, none⟩⟩⟩
  · exact hall r.point (hi ▸ List.mem_cons_self)
  · cases hi : i.request with
    | forward r =>
      rw [hi, Request.points, Option.mem_toList] at hq
      exact (forward_named h hi hq).1.1
    | reverse r =>
      rw [hi, Request.points, List.mem_singleton] at hq
      exact hq ▸ hpoint r hi

/-- The farthest corner of the globe is a centre, with blanks around the comma; a point to look around need not even be
a pair of numbers. -/
theorem points_named_corner :
    (∃ i, Invocation.ofArguments ["forward", "--center=-90 , 180.0", "--", "Main St 5"] = .ok i ∧
      i.request.points = [⟨-90.0, 180.0⟩] ∧ ∀ q ∈ i.request.points, IsOnGlobe q) ∧
    ∃ i, Invocation.ofArguments ["reverse", "--", "-inf", "nan"] = .ok i := by
  obtain ⟨hall, -, hpoint⟩ := points_named ["forward", "--center=-90 , 180.0", "--", "Main St 5"] "Main St 5"
    "-90 , 180.0" "-inf" "nan" ⟨-Decimal.infinity, Decimal.notANumber⟩
  constructor
  · let r : Forward := ⟨"Main St 5", none, some ⟨-90.0, 180.0⟩, none⟩
    have hread : Invocation.ofArguments ["forward", "--center=-90 , 180.0", "--", "Main St 5"] =
        .ok ⟨standardSettings, false, .forward r⟩ := by rfl
    exact ⟨_, hread, rfl, (hall _ hread).1.mpr nofun⟩
  · obtain ⟨i, hread, -⟩ := hpoint (by decide +kernel) (by decide +kernel)
    exact ⟨i, hread⟩

/-- A latitude of 95 degrees is refused as that of a centre and handed to the geocoder as that of a point, and so is one
that is no number. -/
theorem point_off_globe_accepted :
    ¬ IsOnGlobe ⟨95.0, 13.4⟩ ∧ ¬ IsOnGlobe ⟨Decimal.notANumber, 0.0⟩ ∧
    Invocation.ofArguments ["forward", "--center", "95,13.4", "Main St 5"] = .error .valueRefused ∧
    (∃ i, Invocation.ofArguments ["reverse", "95", "13.4"] = .ok i ∧
      ∀ (g : Geocoder Unit Unit) d now outside, answer? g i d now outside =
        (g.reverse? ⟨95.0, 13.4⟩ g.options.ringLimit d now outside).map fun (hit, later, left) =>
          (.of (printHit false) hit, later, left)) ∧
    ∃ i, Invocation.ofArguments ["reverse", "nan", "0"] = .ok i ∧
      ∀ (g : Geocoder Unit Unit) d now outside, answer? g i d now outside =
        (g.reverse? ⟨Decimal.notANumber, 0.0⟩ g.options.ringLimit d now outside).map fun (hit, later, left) =>
          (.of (printHit false) hit, later, left) := by
  refine ⟨fun h => absurd h.lat.2 (by decide), fun h => absurd h.lat.2 (by decide), rfl,
    ⟨⟨standardSettings, false, .reverse ⟨⟨95.0, 13.4⟩, none, none⟩⟩, rfl, fun g => ?_⟩,
    ⟨standardSettings, false, .reverse ⟨⟨Decimal.notANumber, 0.0⟩, none, none⟩⟩, rfl, fun g => ?_⟩
  · exact answer?_point g _ false ⟨⟨95.0, 13.4⟩, none, none⟩
  · exact answer?_point g _ false ⟨⟨Decimal.notANumber, 0.0⟩, none, none⟩

end Geocoding.CommandLine
