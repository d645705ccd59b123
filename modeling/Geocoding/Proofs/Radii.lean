import Geocoding.Proofs.Decimal.Order
import Geocoding.Proofs.Tables
import Mathlib.Data.List.Chain

/-!
# Which radii are accepted

Radii are compared with their neighbours only. Distances are in the order of their places, which is transitive: of
radii that are accepted each is smaller than all that come after it.
-/

namespace Geocoding

open Decimal (place isNaN_of_isFinite isNaN_zero place_zero)

variable {a b r : Float} {rs : List Float}

/-! ### Distances -/

/-- A distance to search within. -/
def IsDistance (r : Float) : Prop := r.isFinite = true ∧ 0 < r

theorem isRadius_iff (r : Float) : isRadius r = true ↔ IsDistance r := by
  rw [isRadius, Bool.and_eq_true_iff, decide_eq_true_iff]
  refine and_congr_right fun hf => ?_
  rw [Decimal.lt_iff_place_lt isNaN_zero (isNaN_of_isFinite hf), place_zero]

theorem isRadius_eq_false_iff (r : Float) :
    isRadius r = false ↔ r.isNaN = true ∨ r.isInf = true ∨ r ≤ 0 := by
  rw [isRadius, Decimal.isFinite_eq]
  cases hn : r.isNaN with
  | true => simp
  | false =>
    cases hi : r.isInf with
    | true => simp
    | false =>
      rw [Decimal.le_iff_place_le hn isNaN_zero, place_zero]
      simp

theorem lt_iff_of_isRadius (ha : isRadius a = true) (hb : isRadius b = true) : a < b ↔ place a < place b := by
  rw [isRadius_iff] at ha hb
  exact Decimal.lt_iff_place_lt (isNaN_of_isFinite ha.1) (isNaN_of_isFinite hb.1)

/-! ### Neighbours -/

abbrev IsBelow (a b : Float) : Prop := place a < place b

/-- Where each is larger than the one before, each is larger than all before. -/
theorem pairwise_iff_isChain (h : ∀ r ∈ rs, isRadius r = true) : rs.Pairwise (· < ·) ↔ rs.IsChain IsBelow := by
  have htrans : IsTrans Float IsBelow := ⟨fun _ _ _ => Int.lt_trans⟩
  rw [List.isChain_iff_pairwise]
  exact List.Pairwise.iff_of_mem fun ha hb => lt_iff_of_isRadius (h _ ha) (h _ hb)

theorem pairwise_upTo_iff {before after : List Float} (h : ∀ r ∈ before ++ a :: after, isRadius r = true) :
    (before ++ [a]).Pairwise (· < ·) ↔ (before ++ [a]).IsChain IsBelow := by
  have hpart : before ++ [a] <+: before ++ a :: after := ⟨after, by simp⟩
  exact pairwise_iff_isChain fun r hr => h r (hpart.subset hr)

theorem firstStep?_eq_none_iff (rs : List Float) : firstStep? rs = none ↔ rs.IsChain IsBelow := by
  fun_induction firstStep? rs with
  | case1 a b rs hab ih => rw [ih, List.isChain_cons_cons, and_iff_right hab]
  | case2 a b rs hab => simp [hab]
  | case3 rs hshort =>
    match rs with
    | [] => simp
    | [a] => simp
    | a :: b :: rs => exact (hshort a b rs rfl).elim

theorem split_of_firstStep? (h : firstStep? rs = some (a, b)) :
    ∃ before after, rs = before ++ a :: b :: after ∧ (before ++ [a]).IsChain IsBelow ∧ ¬ IsBelow a b := by
  fun_induction firstStep? rs with
  | case1 c d rs hcd ih =>
    obtain ⟨before, after, hrs, hbefore, hab⟩ := ih h
    refine ⟨c :: before, after, congrArg (List.cons c) hrs, ?_, hab⟩
    cases before with
    | nil =>
      obtain ⟨rfl, -⟩ := List.cons.inj hrs
      exact List.isChain_cons_cons.mpr ⟨hcd, hbefore⟩
    | cons e before =>
      obtain ⟨rfl, -⟩ := List.cons.inj hrs
      exact List.isChain_cons_cons.mpr ⟨hcd, hbefore⟩
  | case2 c d rs hcd =>
    obtain ⟨rfl, rfl⟩ := Prod.mk.inj (Option.some.inj h)
    exact ⟨[], rs, rfl, .singleton c, hcd⟩
  | case3 => cases h

/-- Neighbours that increase are passed over. -/
theorem firstStep?_append {before : List Float} (h : (before ++ [a]).IsChain IsBelow) (after : List Float) :
    firstStep? (before ++ a :: after) = firstStep? (a :: after) := by
  induction before with
  | nil => rfl
  | cons c before ih =>
    cases before with
    | nil =>
      obtain ⟨hca, -⟩ := List.isChain_cons_cons.mp h
      exact if_pos hca
    | cons d before =>
      obtain ⟨hcd, hrest⟩ := List.isChain_cons_cons.mp h
      have hskip : firstStep? (c :: d :: (before ++ a :: after)) = firstStep? (d :: (before ++ a :: after)) :=
        if_pos hcd
      exact hskip.trans (ih hrest)

/-! ### What is accepted, and why the rest is refused -/

namespace Radii

/-- Distances, each larger than all before. -/
structure Escalates (rs : List Float) : Prop where
  ne_nil : rs ≠ []
  distances : ∀ r ∈ rs, IsDistance r
  increasing : rs.Pairwise (· < ·)

/-- The first reason why radii are refused. -/
inductive Refused : List Float → RadiiError → Prop where
  | empty : Refused [] .empty
  | notPositive {before after : List Float} {r : Float} (distances : ∀ x ∈ before, IsDistance x)
      (unfit : r.isNaN = true ∨ r.isInf = true ∨ r ≤ 0) : Refused (before ++ r :: after) (.notPositive r)
  | notIncreasing {before after : List Float} {a b : Float}
      (distances : ∀ x ∈ before ++ a :: b :: after, IsDistance x)
      (increasing : (before ++ [a]).Pairwise (· < ·)) (falls : ¬ a < b) :
      Refused (before ++ a :: b :: after) (.notIncreasing a b)

theorem escalates (r : Radii) : Escalates r.toList := by
  have hall := List.all_eq_true.mp r.all_isRadius
  exact ⟨r.ne_nil, fun x hx => (isRadius_iff x).mp (hall x hx),
    (pairwise_iff_isChain hall).mpr ((firstStep?_eq_none_iff _).mp r.increasing)⟩

theorem ofList_toList (r : Radii) : ofList r.toList = .ok r := by
  have hall : r.toList.find? (!isRadius ·) = none := by simpa using r.all_isRadius
  unfold ofList
  rw [dif_neg r.ne_nil]
  split
  · next hb => simp [hall] at hb
  · split
    · next hs => simp [r.increasing] at hs
    · rfl

theorem ofList_of_find? (h : rs.find? (!isRadius ·) = some r) : ofList rs = .error (.notPositive r) := by
  have hne : rs ≠ [] := by
    rintro rfl
    cases h
  unfold ofList
  rw [dif_neg hne]
  split
  · next hb =>
    obtain rfl := Option.some.inj (h.symm.trans hb)
    rfl
  · next hb => simp [h] at hb

theorem ofList_of_firstStep? (hall : ∀ r ∈ rs, isRadius r = true) (h : firstStep? rs = some (a, b)) :
    ofList rs = .error (.notIncreasing a b) := by
  have hne : rs ≠ [] := by
    rintro rfl
    cases h
  have hnone : rs.find? (!isRadius ·) = none := by simpa using hall
  unfold ofList
  rw [dif_neg hne]
  split
  · next hb => simp [hnone] at hb
  · split
    · next hs =>
      obtain ⟨rfl, rfl⟩ := Prod.mk.inj (Option.some.inj (h.symm.trans hs))
      rfl
    · next hs => simp [h] at hs

theorem Escalates.exists_ofList (h : Escalates rs) : ∃ r, ofList rs = .ok r := by
  have hall : ∀ r ∈ rs, isRadius r = true := fun r hr => (isRadius_iff r).mpr (h.distances r hr)
  have hsteps : firstStep? rs = none :=
    (firstStep?_eq_none_iff rs).mpr ((pairwise_iff_isChain hall).mp h.increasing)
  exact ⟨_, ofList_toList ⟨rs, h.ne_nil, List.all_eq_true.mpr hall, hsteps⟩⟩

theorem Refused.ofList {e : RadiiError} (h : Refused rs e) : Radii.ofList rs = .error e := by
  cases h with
  | empty => rfl
  | @notPositive before after r distances unfit =>
    have hbad : isRadius r = false := (isRadius_eq_false_iff r).mpr unfit
    refine ofList_of_find? (List.find?_eq_some_iff_append.mpr ⟨by simp [hbad], before, after, rfl, ?_⟩)
    intro x hx
    simp [(isRadius_iff x).mpr (distances x hx)]
  | @notIncreasing before after a b distances increasing falls =>
    have hall : ∀ x ∈ before ++ a :: b :: after, isRadius x = true :=
      fun x hx => (isRadius_iff x).mpr (distances x hx)
    have ha := hall a (by simp)
    have hb := hall b (by simp)
    refine ofList_of_firstStep? hall ?_
    rw [firstStep?_append ((pairwise_upTo_iff hall).mp increasing)]
    exact if_neg fun h => falls ((lt_iff_of_isRadius ha hb).mpr h)

theorem refused_of_find? (h : rs.find? (!isRadius ·) = some r) : Refused rs (.notPositive r) := by
  obtain ⟨hr, before, after, rfl, hbefore⟩ := List.find?_eq_some_iff_append.mp h
  refine .notPositive (fun x hx => (isRadius_iff x).mp ?_) ((isRadius_eq_false_iff r).mp ?_)
  · simpa using hbefore x hx
  · simpa using hr

theorem refused_of_firstStep? (hall : ∀ r ∈ rs, isRadius r = true) (h : firstStep? rs = some (a, b)) :
    Refused rs (.notIncreasing a b) := by
  obtain ⟨before, after, rfl, hbefore, hab⟩ := split_of_firstStep? h
  have ha := hall a (by simp)
  have hb := hall b (by simp)
  refine .notIncreasing (fun x hx => (isRadius_iff x).mp (hall x hx)) ((pairwise_upTo_iff hall).mpr hbefore) ?_
  rwa [lt_iff_of_isRadius ha hb]

/-- Radii are accepted or refused for a reason that applies. -/
theorem ofList_cases (rs : List Float) :
    (∃ r, ofList rs = .ok r) ∨ ∃ e, Refused rs e := by
  by_cases hn : rs = []
  · subst hn
    exact .inr ⟨_, .empty⟩
  · cases hb : rs.find? (!isRadius ·) with
    | some bad => exact .inr ⟨_, refused_of_find? hb⟩
    | none =>
      have hall : ∀ r ∈ rs, isRadius r = true := by simpa using hb
      cases hs : firstStep? rs with
      | some p => exact .inr ⟨_, refused_of_firstStep? hall hs⟩
      | none => exact .inl ⟨_, ofList_toList ⟨rs, hn, List.all_eq_true.mpr hall, hs⟩⟩

theorem ofList_eq_error_iff {e : RadiiError} : ofList rs = .error e ↔ Refused rs e := by
  constructor
  · intro h
    obtain ⟨r, hr⟩ | ⟨e', he⟩ := ofList_cases rs
    · rw [hr] at h
      cases h
    · obtain rfl := Except.error.inj (h.symm.trans he.ofList)
      exact he
  · exact Refused.ofList

/-- Exactly the radii that are distances, each larger than all before it, are accepted, and they are kept as they
are. Others are refused for the first reason that applies. -/
theorem ofList_of_escalation (rs : List Float) :
    ((∃ r, ofList rs = .ok r) ↔ Escalates rs) ∧
      (∀ r, ofList rs = .ok r ↔ Escalates rs ∧ r.toList = rs) ∧
      ∀ e, ofList rs = .error e ↔ Refused rs e := by
  have hkept : ∀ r, ofList rs = .ok r → Escalates rs ∧ r.toList = rs := by
    intro r hr
    obtain rfl := toList_of_ofList hr
    exact ⟨r.escalates, rfl⟩
  refine ⟨⟨fun ⟨r, hr⟩ => (hkept r hr).1, Escalates.exists_ofList⟩, fun r => ⟨hkept r, ?_⟩, fun e => ?_⟩
  · rintro ⟨-, rfl⟩
    exact r.ofList_toList
  · exact ofList_eq_error_iff

example : ofList [25.0, 25.0, -0.0, 10.0] = .error (.notPositive (-0.0)) := rfl

end Radii

end Geocoding
