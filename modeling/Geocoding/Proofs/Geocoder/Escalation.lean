import Geocoding.Proofs.Geocoder.Recording
import Geocoding.Proofs.Nearest

/-!
# The course of an escalation

Rings are looked at one after the other, from the smallest radius to the largest, until one settles the request.
-/

namespace Geocoding.Geocoder

variable {π σ : Type} {g : Geocoder π σ} {centre : ProjectedPoint} {limit : UInt32} {d : Deadline}
  {radius : Float} {radii : List Float} {now t later : Instant} {store store' s : σ}
  {f : Outcome (List Nearby)} {found : List (Outcome (List Nearby))} {o : Outcome (Option Hit)}

/-- There is an answer, but none of its buildings counts. -/
def IsFruitless (limit : UInt32) (f : Outcome (List Nearby)) : Prop :=
  ∃ rows, f = .answered rows ∧ (limit = 0 ∨ rows = [])

/-- What a look that is not fruitless makes of the request. -/
inductive Settles (g : Geocoder π σ) : Outcome (List Nearby) → Outcome (Option Hit) → Prop where
  | failed (e : Database.Error) : g.Settles (.failed e) (.failed e)
  | exceeded : g.Settles .exceeded .exceeded
  | hit (rows : List Nearby) (n : Nearby) (found : n ∈ rows)
      (nearest : (∀ r ∈ rows, r.distance.IsPlain) → Nearby.IsNearest rows n) :
      g.Settles (.answered rows) (.answered (some ⟨g.template.format n.address, n.distance⟩))

/-- What is found, look by look, and what comes of it in the end: the first look that is not fruitless is the
last, and without one all radii are looked at in vain. -/
structure Escalation (g : Geocoder π σ) (limit : UInt32) (radii : List Float)
    (found : List (Outcome (List Nearby))) (o : Outcome (Option Hit)) : Prop where
  length_le : found.length ≤ radii.length
  vain_iff : o = .answered none ↔ found.length = radii.length ∧ ∀ f ∈ found, IsFruitless limit f
  settled : o ≠ .answered none → ∃ before last, found = before ++ [last] ∧
    (∀ f ∈ before, IsFruitless limit f) ∧ ¬ IsFruitless limit last ∧ g.Settles last o

/-! ### One look -/

/-- What a look makes of the request, unless the next radius is to be looked at. -/
def settlement? (g : Geocoder π σ) (limit : UInt32) : Outcome (List Nearby) → Option (Outcome (Option Hit))
  | .answered rows => (g.nearest? rows limit).map fun hit => .answered (some hit)
  | .failed e => some (.failed e)
  | .exceeded => some .exceeded

theorem nearest?_eq_none_iff (g : Geocoder π σ) (rows : List Nearby) (limit : UInt32) :
    g.nearest? rows limit = none ↔ limit = 0 ∨ rows = [] := by
  have hl : limit.toNat = 0 ↔ limit = 0 := UInt32.toNat_inj (b := 0)
  rw [nearest?, Option.map_eq_none_iff, List.head?_eq_none_iff, Nearby.collapse_eq_nil_iff, hl]

theorem settlement?_eq_none_iff (g : Geocoder π σ) : g.settlement? limit f = none ↔ IsFruitless limit f := by
  cases f with
  | answered rows =>
    rw [settlement?, Option.map_eq_none_iff, nearest?_eq_none_iff]
    refine ⟨fun h => ⟨rows, rfl, h⟩, ?_⟩
    rintro ⟨rows', hr, h⟩
    obtain rfl := Outcome.answered.inj hr
    exact h
  | failed e => exact ⟨nofun, nofun⟩
  | exceeded => exact ⟨nofun, nofun⟩

/-- Rows that are sorted already, each of an address of its own, settle the request by the first of them. -/
theorem settlement?_of_sorted {n : Nearby} {rows : List Nearby} (hlimit : limit ≠ 0)
    (honce : ((n :: rows).map (·.address)).Nodup)
    (hsorted : (n :: rows).Pairwise fun r r' => Nearby.isNearer r r' = true) :
    g.settlement? limit (.answered (n :: rows)) =
      some (.answered (some ⟨g.template.format n.address, n.distance⟩)) := by
  have hpos : limit.toNat ≠ 0 := fun hz => hlimit (UInt32.toNat_inj.mp hz)
  rw [settlement?, nearest?, Nearby.collapse_of_sorted honce hsorted, List.head?_take, if_neg hpos]
  rfl

theorem settles_of_settlement? (h : g.settlement? limit f = some o) : g.Settles f o := by
  cases f with
  | answered rows =>
    obtain ⟨hit, hh, rfl⟩ := Option.map_eq_some_iff.mp h
    obtain ⟨n, hn, rfl⟩ := Option.map_eq_some_iff.mp hh
    exact .hit rows n (Nearby.mem_of_mem_collapse (List.mem_of_head? hn)) fun hz => Nearby.isNearest_of_head? hz hn
  | failed e =>
    obtain rfl := Option.some.inj h
    exact .failed e
  | exceeded =>
    obtain rfl := Option.some.inj h
    exact .exceeded

theorem Settles.ne_answered_none (h : g.Settles f o) : o ≠ .answered none := by
  cases h <;> nofun

theorem escalate?_cons (hw : (g.store.nearby (Ring.build g.options.tables centre radius limit) store).within?
      d now = some (f, t, s)) :
    g.escalate? centre limit d (radius :: radii) now store =
      match g.settlement? limit f with
      | some o => some (o, t, s)
      | none => g.escalate? centre limit d radii t s := by
  simp only [escalate?, hw, Option.bind_eq_bind, Option.bind_some]
  cases f with
  | answered rows =>
    simp only [settlement?]
    cases g.nearest? rows limit with
    | none => rfl
    | some hit => rfl
  | failed e => rfl
  | exceeded => rfl

/-! ### All looks -/

theorem Escalation.nil : Escalation g limit [] [] (.answered none) where
  length_le := Nat.le_refl _
  vain_iff := ⟨fun _ => ⟨rfl, by simp⟩, fun _ => rfl⟩
  settled h := absurd rfl h

theorem Escalation.onward (h : Escalation g limit radii found o) (hf : IsFruitless limit f) :
    Escalation g limit (radius :: radii) (f :: found) o where
  length_le := Nat.succ_le_succ h.length_le
  vain_iff := by
    rw [h.vain_iff, List.length_cons, List.length_cons, Nat.succ_inj, List.forall_mem_cons]
    simp only [hf, true_and]
  settled ho := by
    obtain ⟨before, last, rfl, hb, hl⟩ := h.settled ho
    exact ⟨f :: before, last, rfl, List.forall_mem_cons.mpr ⟨hf, hb⟩, hl⟩

theorem Escalation.stop (hf : ¬ IsFruitless limit f) (hs : g.Settles f o) :
    Escalation g limit (radius :: radii) [f] o where
  length_le := Nat.succ_le_succ (Nat.zero_le _)
  vain_iff := ⟨fun h => absurd h hs.ne_answered_none, fun h => absurd (h.2 f List.mem_cons_self) hf⟩
  settled _ := ⟨[], f, rfl, by simp, hf, hs⟩

/-- The rings of an escalation. -/
def rings (g : Geocoder π σ) (centre : ProjectedPoint) (limit : UInt32) (radii : List Float) : List Ring :=
  radii.map fun radius => Ring.build g.options.tables centre radius limit

/-- What the store finds in some rings under one deadline, each looked at when the one before is done with. -/
def lookInTurn? (g : Geocoder π σ) (d : Deadline) : List Ring → Instant → σ →
    Option (List (Outcome (List Nearby)) × Instant × σ)
  | [], now, store => some ([], now, store)
  | r :: rs, now, store => do
    let (f, now, store) ← (g.store.nearby r store).within? d now
    let (fs, now, store) ← g.lookInTurn? d rs now store
    return (f :: fs, now, store)

theorem le_max_of_lookInTurn? {expiry : Instant} (hd : d.expiry = some expiry) {rs : List Ring}
    (h : g.lookInTurn? d rs now store = some (found, later, store')) :
    later.nanoseconds ≤ Nat.max now.nanoseconds expiry.nanoseconds := by
  induction rs generalizing now store found with
  | nil =>
    obtain ⟨-, rfl, -⟩ : [] = found ∧ now = later ∧ store = store' := by simpa [lookInTurn?] using h
    exact Nat.le_max_left ..
  | cons r rs ih =>
    obtain ⟨⟨f, t, s⟩, hw, h⟩ := Option.bind_eq_some_iff.mp h
    obtain ⟨⟨fs, t', s'⟩, hr, h⟩ := Option.bind_eq_some_iff.mp h
    obtain ⟨-, rfl, rfl⟩ : f :: fs = found ∧ t' = later ∧ s' = store' := by simpa using h
    have ht := Attempt.le_max_of_within? hd hw
    exact Nat.le_trans (ih hr) (Nat.max_le.mpr ⟨ht, Nat.le_max_right ..⟩)

theorem escalate?_run (g : Geocoder π σ) (centre : ProjectedPoint) (limit : UInt32)
    (hends : d.expiry ≠ none ∨ ∀ r s, (g.store.nearby r s).Ends) (radii : List Float) (now : Instant)
    (store : σ) : ∃ found o later store',
      g.escalate? centre limit d radii now store = some (o, later, store') ∧
      (∀ notes, g.recorded.escalate? centre limit d radii now (store, notes) =
        some (o, later, store', notes ++ (g.rings centre limit radii).zipWith .nearby found)) ∧
      g.lookInTurn? d ((g.rings centre limit radii).take found.length) now store =
        some (found, later, store') ∧
      Escalation g limit radii found o := by
  induction radii generalizing now store with
  | nil => exact ⟨[], _, now, store, rfl, fun notes => by simp [escalate?, rings], rfl, .nil⟩
  | cons radius radii ih =>
    let r := Ring.build g.options.tables centre radius limit
    obtain ⟨f, t, s, hw⟩ := Attempt.exists_within? (hends.imp_right (· r store)) now
    have hr := fun notes => Store.within?_nearby_recorded hw notes
    -- The recorded geocoder settles by the same rule, so both stop at the same look.
    cases hs : g.settlement? limit f with
    | some o =>
      have hs' : g.recorded.settlement? limit f = some o := hs
      refine ⟨[f], o, t, s, ?_, fun notes => ?_, ?_, .stop ?_ (settles_of_settlement? hs)⟩
      · rw [escalate?_cons hw, hs]
      · rw [escalate?_cons (hr notes), hs']
        simp [rings, r]
      · simp [lookInTurn?, rings, r, hw]
      · rw [← settlement?_eq_none_iff g, hs]
        nofun
    | none =>
      have hs' : g.recorded.settlement? limit f = none := hs
      have hf := (settlement?_eq_none_iff g).mp hs
      obtain ⟨found, o, later, store', he, hn, ht, hc⟩ := ih t s
      refine ⟨f :: found, o, later, store', ?_, fun notes => ?_, ?_, hc.onward hf⟩
      · rw [escalate?_cons hw, hs]
        exact he
      · rw [escalate?_cons (hr notes), hs']
        simp only [hn]
        simp [rings, r]
      · rw [rings] at ht
        simp [lookInTurn?, rings, r, hw, ht]

theorem reverse?_of_escalate? {point : GeographicPoint} {outside : π × σ}
    (h : g.escalate? point.toProjected limit d g.options.radii.toList now outside.2 = some (o, later, store')) :
    g.reverse? point limit d now outside = some (o, later, outside.1, store') := by
  simp only [reverse?, h]
  rfl

/-! ### Looks by a script -/

/-- A geocoder whose store answers one look after the other with the rows of a script, at once. -/
def scripted : Geocoder Unit (List (List Nearby)) :=
  { constant ⟨0⟩ [] [] with
    store := ⟨fun _ s => .ended (.ok []) s, fun _ s => .ended (.ok (s.headD [])) s.tail⟩ }

theorem escalate?_scripted (rows : List Nearby) (script : List (List Nearby)) :
    scripted.escalate? centre limit d (radius :: radii) now (rows :: script) =
      match scripted.settlement? limit (.answered rows) with
      | some o => some (o, now, script)
      | none => scripted.escalate? centre limit d radii now script :=
  escalate?_cons rfl

/-- Every look takes the next rows of the script. -/
theorem store_of_lookInTurn?_scripted {script left : List (List Nearby)} {rs : List Ring}
    (h : scripted.lookInTurn? d rs now script = some (found, later, left)) : left = script.drop rs.length := by
  induction rs generalizing now script found with
  | nil =>
    obtain ⟨-, -, rfl⟩ : [] = found ∧ now = later ∧ script = left := by simpa [lookInTurn?] using h
    rfl
  | cons r rs ih =>
    -- The store answers at once, so that the first look is done with already.
    obtain ⟨⟨fs, t, s⟩, hr, h⟩ := Option.bind_eq_some_iff.mp h
    obtain ⟨-, rfl, rfl⟩ : Outcome.of (.ok (script.headD [])) :: fs = found ∧ t = later ∧ s = left := by
      simpa using h
    rw [ih hr, List.drop_tail, List.length_cons, Nat.add_comm]

/-! ### Requests -/

/-- The radii are looked at in order and none is left out, until a look fails, is cut off or finds a building
that counts; that look settles the request. One deadline spans all of them. -/
theorem reverse_conversation (g : Geocoder π σ) (point : GeographicPoint) (limit : UInt32) (now : Instant)
    (service : π) (store : σ) (hends : d.expiry ≠ none ∨ ∀ r s, (g.store.nearby r s).Ends) :
    let rings := g.rings point.toProjected limit g.options.radii.toList
    ∃ found o later store',
      g.reverse? point limit d now (service, store) = some (o, later, service, store') ∧
      g.recorded.reverse? point limit d now ((service, []), (store, [])) =
        some (o, later, (service, []), (store', rings.zipWith .nearby found)) ∧
      g.lookInTurn? d (rings.take found.length) now store = some (found, later, store') ∧
      Escalation g limit g.options.radii.toList found o ∧
      ∀ expiry, d.expiry = some expiry →
        later.nanoseconds ≤ Nat.max now.nanoseconds expiry.nanoseconds := by
  intro rings
  obtain ⟨found, o, later, store', he, hn, ht, hc⟩ :=
    escalate?_run g point.toProjected limit hends g.options.radii.toList now store
  exact ⟨found, o, later, store', reverse?_of_escalate? he, reverse?_of_escalate? (g := g.recorded) (hn []), ht, hc,
    fun expiry hd => le_max_of_lookInTurn? hd ht⟩

/-- The first ring is empty; in the second are two buildings at the same distance, of which the first to be found is
the hit; the third is not looked at. -/
theorem reverse_conversation_tie :
    let building (road : String) (distance : Float) : Nearby := ⟨⟨none, some road, none, none, none⟩, distance⟩
    let near := [building "B" 5.0, building "A" 5.0, building "C" 7.5]
    let script := [[], near, [building "D" 1.0]]
    scripted.reverse? ⟨52.5, 13.4⟩ 10 (.ofInstant ⟨20⟩) ⟨30⟩ ((), script) =
        some (.answered (some ⟨"B", .metres 5.0⟩), ⟨30⟩, (), [[building "D" 1.0]]) ∧
      Nearby.IsNearest near (building "B" 5.0) ∧
      ∃ found, found.length = 2 ∧
        scripted.recorded.reverse? ⟨52.5, 13.4⟩ 10 (.ofInstant ⟨20⟩) ⟨30⟩ (((), []), (script, [])) =
          some (.answered (some ⟨"B", .metres 5.0⟩), ⟨30⟩, ((), []), ([[building "D" 1.0]],
            (scripted.rings (Geographic.toProjected ⟨52.5, 13.4⟩) 10 [25.0, 50.0, 100.0]).zipWith .nearby found)) := by
  intro building near script
  have hname : Template.standard.format (building "B" 5.0).address = "B" := by decide +kernel
  have hrun : scripted.reverse? ⟨52.5, 13.4⟩ 10 (.ofInstant ⟨20⟩) ⟨30⟩ ((), script) =
      some (.answered (some ⟨"B", .metres 5.0⟩), ⟨30⟩, (), [[building "D" 1.0]]) := by
    have hfirst : scripted.settlement? 10 (.answered []) = none :=
      (settlement?_eq_none_iff _).mpr ⟨[], rfl, .inr rfl⟩
    have hsecond : scripted.settlement? 10 (.answered near) = some (.answered (some ⟨"B", .metres 5.0⟩)) := by
      rw [settlement?_of_sorted (by decide) (by decide) (by decide)]
      exact congrArg (fun name => some (Outcome.answered (some (Hit.mk name (.metres 5.0))))) hname
    have he : scripted.escalate? (Geographic.toProjected ⟨52.5, 13.4⟩) 10 (.ofInstant ⟨20⟩) [25.0, 50.0, 100.0] ⟨30⟩
        script = some (.answered (some ⟨"B", .metres 5.0⟩), ⟨30⟩, [[building "D" 1.0]]) := by
      rw [escalate?_scripted, hfirst]
      show scripted.escalate? _ 10 _ [50.0, 100.0] _ [near, _] = _
      rw [escalate?_scripted, hsecond]
    exact reverse?_of_escalate? he
  obtain ⟨found, o, later, store', he, hr, ht, hc, -⟩ :=
    reverse_conversation (d := .ofInstant ⟨20⟩) scripted ⟨52.5, 13.4⟩ 10 ⟨30⟩ () script (.inl nofun)
  rw [hrun] at he
  obtain ⟨rfl, rfl, rfl⟩ : .answered (some ⟨"B", .metres 5.0⟩) = o ∧ ⟨30⟩ = later ∧ [[building "D" 1.0]] = store' := by
    simpa using he
  have hlength : found.length = 2 := by
    have hleft := congrArg List.length (store_of_lookInTurn?_scripted ht)
    have hle : found.length ≤ 3 := hc.length_le
    rw [List.length_drop, List.length_take, rings, List.length_map] at hleft
    have hradii : scripted.options.radii.toList.length = 3 := rfl
    have hscript : script.length = 3 := rfl
    have hrest : [[building "D" 1.0]].length = 1 := rfl
    omega
  have hn : Nearby.IsNearest near (building "B" 5.0) := ⟨by simp [near], by decide, by decide⟩
  exact ⟨hrun, hn, found, hlength, hr⟩

/-- What is not a number and has the negative sign comes before all numbers: it is the hit, and not the building next
to it, whose distance is the smallest number. -/
theorem reverse?_negativeNaN :
    let a : Nearby := ⟨⟨none, some "A", none, none, none⟩, .negativeNaN⟩
    let b : Nearby := ⟨⟨none, some "B", none, none, none⟩, .metres 5.0⟩
    (constant ⟨0⟩ [] [a, b]).reverse? ⟨52.5, 13.4⟩ 10 .none ⟨0⟩ ((), ()) =
        some (.answered (some ⟨"A", .negativeNaN⟩), ⟨0⟩, (), ()) ∧
      (∀ r ∈ [a, b], r.distance ≠ .metres (-0.0)) ∧
      ¬ Nearby.IsNearest [a, b] a ∧ Nearby.IsNearest [a, b] b := by
  intro a b
  have hname : Template.standard.format a.address = "A" := by decide +kernel
  have hs : (constant ⟨0⟩ [] [a, b]).settlement? 10 (.answered [a, b]) =
      some (.answered (some ⟨"A", .negativeNaN⟩)) := by
    rw [settlement?_of_sorted (by decide) (by decide) (by decide)]
    exact congrArg (fun name => some (Outcome.answered (some (Hit.mk name .negativeNaN)))) hname
  have hfirst (radii : List Float) :
      (constant ⟨0⟩ [] [a, b]).escalate? (Geographic.toProjected ⟨52.5, 13.4⟩) 10 .none (25.0 :: radii) ⟨0⟩ () =
        some (.answered (some ⟨"A", .negativeNaN⟩), ⟨0⟩, ()) := by
    rw [escalate?_cons rfl]
    simp only [Outcome.of, hs]
  refine ⟨reverse?_of_escalate? (hfirst _), by decide, fun h => ?_, ?_⟩
  · have hle : a.distance.value ≤ b.distance.value := h.least b (by simp) (by decide)
    exact absurd hle (by decide)
  · exact ⟨by simp, by decide, by decide⟩

end Geocoding.Geocoder
