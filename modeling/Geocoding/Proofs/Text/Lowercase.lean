import Geocoding.Text.Lowercase
import Mathlib.Data.List.Basic

/-!
# Texts in lower case

No small letter is the capital form of another, so that a text in lower case stays as it is when it is put in lower
case once more.
-/

namespace Geocoding.Text

variable {c d : Char} {before after cs : List Char} {n : Nat}

/-! ### Runs of capital letters -/

abbrev Run := Nat × Nat × Nat × Int

namespace Run

def has (r : Run) (n : Nat) : Bool := r.1 ≤ n && n ≤ r.2.1 && (n - r.1) % r.2.2.1 == 0

/-- The code point of the small form of a letter. -/
def image (r : Run) (n : Nat) : Nat := ((n : Int) + r.2.2.2).toNat

def letters (r : Run) : List Nat := (List.range ((r.2.1 - r.1) / r.2.2.1 + 1)).map fun i => r.1 + i * r.2.2.1

/-- No small form of a letter of one run is a letter of another. Most runs lie on one side of the small forms, and only
those that do not are looked at letter by letter. -/
def misses (r s : Run) : Bool :=
  Nat.blt (r.image r.2.1) s.1 || Nat.blt s.2.1 (r.image r.1) || r.letters.all fun n => !has s (r.image n)

/-- The small forms are characters, and none of those that have a small form of another kind. -/
def isSound (r : Run) : Bool :=
  r.letters.all fun n => decide (r.image n).isValidChar && r.image n != 0x130 && r.image n != 0x3A3

theorem mem_letters {r : Run} (h : r.has n = true) : r.1 ≤ n ∧ n ≤ r.2.1 ∧ n ∈ r.letters := by
  simp only [has, Bool.and_eq_true, decide_eq_true_eq, beq_iff_eq] at h
  obtain ⟨⟨hfirst, hlast⟩, hstep⟩ := h
  refine ⟨hfirst, hlast, List.mem_map.mpr ⟨(n - r.1) / r.2.2.1, ?_, ?_⟩⟩
  · rw [List.mem_range, Nat.lt_succ_iff]
    exact Nat.div_le_div_right (by omega)
  · have h := Nat.div_add_mod' (n - r.1) r.2.2.1
    omega

theorem has_image_of_misses {r s : Run} (h : r.misses s = true) (hn : r.has n = true) :
    s.has (r.image n) = false := by
  obtain ⟨hfirst, hlast, hmem⟩ := mem_letters hn
  by_contra hs
  obtain ⟨hsfirst, hslast, -⟩ := mem_letters ((Bool.not_eq_false _).mp hs)
  simp only [misses, Bool.or_eq_true, Nat.blt_eq, List.all_eq_true, Bool.not_eq_true'] at h
  rcases h with (h | h) | h
  · unfold image at h hsfirst
    omega
  · unfold image at h hslast
    omega
  · exact hs (h n hmem)

end Run

theorem misses_capitals : (capitals.toList.all fun r => capitals.toList.all (Run.misses r)) = true := by
  decide +kernel

theorem isSound_capitals : capitals.toList.all Run.isSound = true := by
  decide +kernel

/-! ### Small letters -/

/-- A character that has no small form but itself. -/
structure IsSmall (c : Char) : Prop where
  ne_dotted : c ≠ '\u0130'
  ne_sigma : c ≠ 'Σ'
  has_eq_false : ∀ r ∈ capitals.toList, Run.has r c.toNat = false

theorem lowerChar_eq (c : Char) : lowerChar c = match capitals.find? (Run.has · c.toNat) with
    | some r => .ofNat (Run.image r c.toNat)
    | none => c := by
  unfold lowerChar
  generalize capitals = runs
  show (match runs.find? (Run.has · c.toNat) with
    | some (_, _, _, distance) => Char.ofNat ((c.toNat : Int) + distance).toNat
    | none => c) = _
  cases runs.find? (Run.has · c.toNat) with
  | none => rfl
  | some r => rfl

theorem lowerChar_cases (c : Char) : (lowerChar c = c ∧ ∀ r ∈ capitals.toList, Run.has r c.toNat = false) ∨
    ∃ r ∈ capitals.toList, Run.has r c.toNat = true ∧ lowerChar c = .ofNat (Run.image r c.toNat) := by
  rw [lowerChar_eq, ← Array.find?_toList]
  cases h : capitals.toList.find? (Run.has · c.toNat) with
  | none => exact .inl ⟨rfl, by simpa using h⟩
  | some r =>
    have hr : Run.has r c.toNat = true := List.find?_some (p := (Run.has · c.toNat)) h
    exact .inr ⟨r, List.mem_of_find?_eq_some h, hr, rfl⟩

theorem IsSmall.lowerChar_eq (h : IsSmall c) : lowerChar c = c := by
  rcases lowerChar_cases c with ⟨hc, -⟩ | ⟨r, hr, hc, -⟩
  · exact hc
  · rw [h.has_eq_false r hr] at hc
    cases hc

theorem isSmall_lowerChar (hdotted : c ≠ '\u0130') (hsigma : c ≠ 'Σ') : IsSmall (lowerChar c) := by
  rcases lowerChar_cases c with ⟨hc, hnone⟩ | ⟨r, hr, hhas, hc⟩
  · rw [hc]
    exact ⟨hdotted, hsigma, hnone⟩
  · obtain ⟨-, -, hmem⟩ := Run.mem_letters hhas
    have hsound := List.all_eq_true.mp (List.all_eq_true.mp isSound_capitals r hr) _ hmem
    simp only [Bool.and_eq_true, decide_eq_true_eq, bne_iff_ne] at hsound
    obtain ⟨⟨hvalid, h130⟩, h3A3⟩ := hsound
    have hcode : (lowerChar c).toNat = Run.image r c.toNat := by
      rw [hc, Char.ofNat, dif_pos hvalid]
      rfl
    refine ⟨?_, ?_, fun s hs => ?_⟩
    · intro he
      rw [he] at hcode
      exact h130 hcode.symm
    · intro he
      rw [he] at hcode
      exact h3A3 hcode.symm
    · rw [hcode]
      exact Run.has_image_of_misses (List.all_eq_true.mp (List.all_eq_true.mp misses_capitals r hr) s hs) hhas

theorem isSmall_of_all (h : (c != '\u0130' && c != 'Σ' && capitals.toList.all fun r => !Run.has r c.toNat) = true) :
    IsSmall c := by
  simp only [Bool.and_eq_true, bne_iff_ne, List.all_eq_true, Bool.not_eq_true'] at h
  exact ⟨h.1.1, h.1.2, h.2⟩

theorem isSmall_of_mem_lowerBetween (h : d ∈ lowerBetween before c after) : IsSmall d := by
  unfold lowerBetween at h
  split at h
  · simp only [List.mem_cons, List.not_mem_nil, or_false] at h
    rcases h with rfl | rfl
    · exact isSmall_of_all (by decide +kernel)
    · exact isSmall_of_all (by decide +kernel)
  · next hdotted =>
    split at h
    · split at h
      · obtain rfl := List.mem_singleton.mp h
        exact isSmall_of_all (by decide +kernel)
      · obtain rfl := List.mem_singleton.mp h
        exact isSmall_of_all (by decide +kernel)
    · next hsigma =>
      rw [List.mem_singleton.mp h]
      exact isSmall_lowerChar (by simpa using hdotted) (by simpa using hsigma)

theorem isSmall_of_mem_lowerFrom (h : d ∈ lowerFrom before cs) : IsSmall d := by
  induction cs generalizing before with
  | nil => cases h
  | cons c cs ih =>
    rw [lowerFrom] at h
    rcases List.mem_append.mp h with h | h
    · exact isSmall_of_mem_lowerBetween h
    · exact ih h

theorem lowerFrom_of_isSmall (h : ∀ c ∈ cs, IsSmall c) : lowerFrom before cs = cs := by
  induction cs generalizing before with
  | nil => rfl
  | cons c cs ih =>
    obtain ⟨hc, hcs⟩ := List.forall_mem_cons.mp h
    have hbetween : lowerBetween before c cs = [c] := by
      simp [lowerBetween, hc.ne_dotted, hc.ne_sigma, hc.lowerChar_eq]
    rw [lowerFrom, hbetween, ih hcs]
    rfl

theorem lower_lower (s : String) : lower (lower s) = lower s := by
  have hsmall : ∀ c ∈ (lower s).toList, IsSmall c := by
    intro c hc
    rw [lower, String.toList_ofList] at hc
    exact isSmall_of_mem_lowerFrom hc
  rw [lower, lowerFrom_of_isSmall hsmall, String.ofList_toList]

end Geocoding.Text
