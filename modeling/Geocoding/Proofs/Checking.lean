import Mathlib.Data.List.Forall2
import Mathlib.Tactic.Basic

/-!
# Checks in a row

What is checked step by step succeeds if every check is passed, and otherwise fails as the first check says that is
not. A computation that is put together from steps follows the checks of its steps, one row after the other.
-/

namespace Geocoding.Checking

variable {α β ι ε ε' : Type}

theorem bind_eq_ok_iff {x : Except ε α} {f : α → Except ε β} {b : β} :
    x >>= f = .ok b ↔ ∃ a, x = .ok a ∧ f a = .ok b := by
  cases x with
  | error e => exact ⟨nofun, fun ⟨_, h, _⟩ => nomatch h⟩
  | ok a =>
    constructor
    · intro h
      exact ⟨a, rfl, h⟩
    · rintro ⟨a', ha, h⟩
      obtain rfl := Except.ok.inj ha
      exact h

theorem bind_eq_error_iff {x : Except ε α} {f : α → Except ε β} {e : ε} :
    x >>= f = .error e ↔ x = .error e ∨ ∃ a, x = .ok a ∧ f a = .error e := by
  cases x with
  | error e' =>
    constructor
    · intro h
      exact .inl (congrArg Except.error (Except.error.inj h))
    · rintro (h | ⟨a, ha, -⟩)
      · exact congrArg Except.error (Except.error.inj h)
      · cases ha
  | ok a =>
    constructor
    · intro h
      exact .inr ⟨a, rfl, h⟩
    · rintro (h | ⟨a', ha, h⟩)
      · cases h
      · obtain rfl := Except.ok.inj ha
        exact h

theorem map_eq_ok_iff {x : Except ε α} {f : α → β} {b : β} : f <$> x = .ok b ↔ ∃ a, x = .ok a ∧ f a = b := by
  cases x with
  | error e => exact ⟨nofun, fun ⟨_, h, _⟩ => nomatch h⟩
  | ok a =>
    constructor
    · intro h
      exact ⟨a, rfl, Except.ok.inj h⟩
    · rintro ⟨a', ha, rfl⟩
      obtain rfl := Except.ok.inj ha
      rfl

theorem mapError_eq_ok_iff {f : ε → ε'} {x : Except ε α} {a : α} : x.mapError f = .ok a ↔ x = .ok a := by
  cases x with
  | error e => exact ⟨nofun, nofun⟩
  | ok b => exact ⟨fun h => congrArg Except.ok (Except.ok.inj h), fun h => congrArg Except.ok (Except.ok.inj h)⟩

theorem mapError_eq_error_iff {f : ε → ε'} {x : Except ε α} {e' : ε'} :
    x.mapError f = .error e' ↔ ∃ e, x = .error e ∧ f e = e' := by
  cases x with
  | error e =>
    constructor
    · intro h
      exact ⟨e, rfl, Except.error.inj h⟩
    · rintro ⟨e₀, he, rfl⟩
      obtain rfl := Except.error.inj he
      rfl
  | ok b => exact ⟨nofun, fun ⟨_, h, _⟩ => nomatch h⟩

/-! ### The first check that is not passed -/

/-- The refusal `e` is that of the first check of a row that is not passed. -/
def FirstRefused (passes : ι → Prop) (refuses : ι → ε → Prop) (checks : List ι) (e : ε) : Prop :=
  ∃ before c after, checks = before ++ c :: after ∧ (∀ b ∈ before, passes b) ∧ refuses c e

variable {passes : ι → Prop} {refuses : ι → ε → Prop} {c : ι} {cs ds : List ι} {e : ε}

theorem not_firstRefused_nil : ¬ FirstRefused passes refuses [] e := by
  rintro ⟨before, c, after, h, -⟩
  cases before <;> cases h

theorem firstRefused_cons :
    FirstRefused passes refuses (c :: cs) e ↔ refuses c e ∨ passes c ∧ FirstRefused passes refuses cs e := by
  constructor
  · rintro ⟨before, d, after, h, hb, hd⟩
    cases before with
    | nil =>
      obtain ⟨rfl, -⟩ := List.cons.inj h
      exact .inl hd
    | cons b before =>
      obtain ⟨rfl, rfl⟩ := List.cons.inj h
      obtain ⟨hb, hbefore⟩ := List.forall_mem_cons.mp hb
      exact .inr ⟨hb, before, d, after, rfl, hbefore, hd⟩
  · rintro (hc | ⟨hc, before, d, after, rfl, hb, hd⟩)
    · exact ⟨[], c, cs, rfl, by simp, hc⟩
    · exact ⟨c :: before, d, after, rfl, List.forall_mem_cons.mpr ⟨hc, hb⟩, hd⟩

theorem firstRefused_append :
    FirstRefused passes refuses (cs ++ ds) e ↔
      FirstRefused passes refuses cs e ∨ (∀ c ∈ cs, passes c) ∧ FirstRefused passes refuses ds e := by
  induction cs with
  | nil => simp [not_firstRefused_nil]
  | cons c cs ih =>
    rw [List.cons_append, firstRefused_cons, firstRefused_cons, List.forall_mem_cons, ih, and_or_left, or_assoc,
      and_assoc]

/-! ### Computations that check -/

/-- A computation comes to a result exactly when all checks of a row are passed, and its error is the refusal of the
first that is not. -/
structure Follows (passes : ι → Prop) (refuses : ι → ε → Prop) (checks : List ι) (x : Except ε α) : Prop where
  ok_iff : (∃ a, x = .ok a) ↔ ∀ c ∈ checks, passes c
  error_iff : ∀ e, x = .error e ↔ FirstRefused passes refuses checks e

namespace Follows

variable {x : Except ε α} {f : α → Except ε β}

theorem nothing (a : α) : Follows passes refuses [] (.ok a : Except ε α) where
  ok_iff := ⟨fun _ => by simp, fun _ => ⟨a, rfl⟩⟩
  error_iff _ := ⟨nofun, fun h => absurd h not_firstRefused_nil⟩

theorem one (hc : passes c ∨ ∃ e, refuses c e) (hp : passes c → ∃ a, x = .ok a)
    (hr : ∀ e, refuses c e → x = .error e) : Follows passes refuses [c] x where
  ok_iff := by
    rw [List.forall_mem_singleton]
    refine ⟨?_, hp⟩
    rintro ⟨a, rfl⟩
    obtain hc | ⟨e, he⟩ := hc
    · exact hc
    · cases hr e he
  error_iff e := by
    rw [firstRefused_cons, or_iff_left fun h => not_firstRefused_nil h.2]
    refine ⟨?_, hr e⟩
    rintro rfl
    obtain hc | ⟨e', he⟩ := hc
    · obtain ⟨a, ha⟩ := hp hc
      cases ha
    · obtain rfl := Except.error.inj (hr e' he)
      exact he

theorem bind (hx : Follows passes refuses cs x) (hf : ∀ a, x = .ok a → Follows passes refuses ds (f a)) :
    Follows passes refuses (cs ++ ds) (x >>= f) where
  ok_iff := by
    rw [List.forall_mem_append]
    constructor
    · rintro ⟨b, hb⟩
      obtain ⟨a, ha, hb⟩ := bind_eq_ok_iff.mp hb
      exact ⟨hx.ok_iff.mp ⟨a, ha⟩, (hf a ha).ok_iff.mp ⟨b, hb⟩⟩
    · rintro ⟨hcs, hds⟩
      obtain ⟨a, ha⟩ := hx.ok_iff.mpr hcs
      obtain ⟨b, hb⟩ := (hf a ha).ok_iff.mpr hds
      exact ⟨b, bind_eq_ok_iff.mpr ⟨a, ha, hb⟩⟩
  error_iff e := by
    rw [bind_eq_error_iff, firstRefused_append, hx.error_iff, ← hx.ok_iff]
    refine or_congr_right ⟨?_, ?_⟩
    · rintro ⟨a, ha, he⟩
      exact ⟨⟨a, ha⟩, ((hf a ha).error_iff e).mp he⟩
    · rintro ⟨⟨a, ha⟩, he⟩
      exact ⟨a, ha, ((hf a ha).error_iff e).mpr he⟩

/-- Errors may be told in other words, as long as the refusals are. -/
theorem mapError {g : ε → ε'} {refuses' : ι → ε' → Prop} (hx : Follows passes refuses cs x)
    (hr : ∀ c ∈ cs, ∀ e', refuses' c e' ↔ ∃ e, refuses c e ∧ g e = e') :
    Follows passes refuses' cs (x.mapError g) where
  ok_iff := by simpa only [mapError_eq_ok_iff] using hx.ok_iff
  error_iff e' := by
    rw [mapError_eq_error_iff]
    constructor
    · rintro ⟨e, he, rfl⟩
      obtain ⟨before, c, after, rfl, hb, hc⟩ := (hx.error_iff e).mp he
      exact ⟨before, c, after, rfl, hb, (hr c (by simp) _).mpr ⟨e, hc, rfl⟩⟩
    · rintro ⟨before, c, after, rfl, hb, hc⟩
      obtain ⟨e, he, rfl⟩ := (hr c (by simp) e').mp hc
      exact ⟨e, (hx.error_iff e).mpr ⟨before, c, after, rfl, hb, he⟩, rfl⟩

end Follows

/-! ### One element after the other -/

variable {f : α → Except ε β}

theorem mapM_singleton (f : α → Except ε β) (x : α) : [x].mapM f = (f x).map fun b => [b] := by
  rw [List.mapM_cons]
  cases f x <;> rfl

theorem mapM_eq_ok_iff {xs : List α} {bs : List β} :
    xs.mapM f = .ok bs ↔ List.Forall₂ (fun x b => f x = .ok b) xs bs := by
  induction xs generalizing bs with
  | nil =>
    rw [List.forall₂_nil_left_iff]
    constructor
    · intro h
      exact (Except.ok.inj h).symm
    · rintro rfl
      rfl
  | cons x xs ih =>
    rw [List.mapM_cons, List.forall₂_cons_left_iff]
    constructor
    · intro h
      obtain ⟨b, hb, h⟩ := bind_eq_ok_iff.mp h
      obtain ⟨bs', hbs, h⟩ := bind_eq_ok_iff.mp h
      obtain rfl := Except.ok.inj h
      exact ⟨b, bs', hb, ih.mp hbs, rfl⟩
    · rintro ⟨b, bs', hb, hbs, rfl⟩
      exact bind_eq_ok_iff.mpr ⟨b, hb, bind_eq_ok_iff.mpr ⟨bs', ih.mpr hbs, rfl⟩⟩

/-- A list is gone through up to the first element that fails. -/
theorem follows_mapM (f : α → Except ε β) (xs : List α) :
    Follows (fun x => ∃ b, f x = .ok b) (fun x e => f x = .error e) xs (xs.mapM f) := by
  induction xs with
  | nil => exact .nothing []
  | cons x xs ih =>
    have hx : Follows (fun x => ∃ b, f x = .ok b) (fun x e => f x = .error e) [x] (f x) := by
      refine .one ?_ id fun e he => he
      cases f x with
      | ok b => exact .inl ⟨b, rfl⟩
      | error e => exact .inr ⟨e, rfl⟩
    have h := hx.bind fun b _ => ih.bind fun bs _ => .nothing (b :: bs)
    rw [List.append_nil] at h
    rw [List.mapM_cons]
    exact h

end Geocoding.Checking
