import Geocoding.Json.Number
import Geocoding.Text.Blank
import Mathlib.Data.List.TakeWhile

/-!
# The text of a number

The text of a number that is not whole has digits first and a point or an exponent after them; that is how it is told
from a whole number when it is read. No number is written with blanks, or as nothing.
-/

namespace Geocoding.Json

open Geocoding.Decimal

variable {c : Char} {cs ds text : List Char} {n : Number}

/-! ### Characters -/

/-- The characters that a number is written with. -/
def isNumeric (c : Char) : Bool := c.isDigit || c == '.' || c == 'e' || c == '+' || c == '-'

theorem isNumeric_of_isDigit (h : c.isDigit = true) : isNumeric c = true := by simp [isNumeric, h]

theorem toNat_of_isDigit (h : c.isDigit = true) : 48 ≤ c.toNat ∧ c.toNat ≤ 57 := by
  obtain ⟨hlo, hhi⟩ := Bool.and_eq_true_iff.mp h
  exact ⟨UInt32.le_iff_toNat_le.mp (of_decide_eq_true hlo), UInt32.le_iff_toNat_le.mp (of_decide_eq_true hhi)⟩

theorem not_isBlank_of_isDigit (h : c.isDigit = true) : Text.isBlank c = false := by
  obtain ⟨hlo, hhi⟩ := toNat_of_isDigit h
  simp only [Text.isBlank, Bool.or_eq_false_iff, Bool.and_eq_false_iff, decide_eq_false_iff_not,
    beq_eq_false_iff_ne]
  omega

theorem not_isAlpha_of_isDigit (h : c.isDigit = true) : c.isAlpha = false := by
  obtain ⟨-, hhi⟩ := toNat_of_isDigit h
  rw [← Bool.not_eq_true]
  intro halpha
  rcases Bool.or_eq_true_iff.mp halpha with hupper | hlower
  · have hge : 65 ≤ c.toNat := UInt32.le_iff_toNat_le.mp (of_decide_eq_true hupper).1
    omega
  · have hge : 97 ≤ c.toNat := UInt32.le_iff_toNat_le.mp (of_decide_eq_true (Bool.and_eq_true_iff.mp hlower).1)
    omega

theorem not_isBlank_of_isNumeric (h : isNumeric c = true) : Text.isBlank c = false := by
  simp only [isNumeric, Bool.or_eq_true, beq_iff_eq] at h
  rcases h with (((h | rfl) | rfl) | rfl) | rfl
  · exact not_isBlank_of_isDigit h
  · decide
  · decide
  · decide
  · decide

theorem isDigit_of_mem_toDigits {n : Nat} (hc : c ∈ Nat.toDigits 10 n) : c.isDigit = true :=
  Nat.isDigit_of_mem_toDigits (by decide) (by decide) hc

theorem isDigit_of_mem_padded {k n : Nat} (hc : c ∈ List.replicate k '0' ++ Nat.toDigits 10 n) :
    c.isDigit = true := by
  rcases List.mem_append.mp hc with hc | hc
  · obtain ⟨-, rfl⟩ := List.mem_replicate.mp hc
    rfl
  · exact isDigit_of_mem_toDigits hc

/-! ### Numbers that are not whole -/

/-- Digits, and then a point or an exponent. -/
inductive IsMarked : List Char → Prop where
  | intro (whole : List Char) (mark : Char) (rest : List Char) (ne_nil : whole ≠ [])
      (digits : ∀ c ∈ whole, c.isDigit = true) (marks : mark = '.' ∨ mark = 'e')
      (numeric : ∀ c ∈ rest, isNumeric c = true) : IsMarked (whole ++ mark :: rest)

theorem IsMarked.isNumeric (h : IsMarked cs) : ∀ c ∈ cs, isNumeric c = true := by
  obtain ⟨whole, mark, rest, -, digits, marks, numeric⟩ := h
  intro c hc
  rcases List.mem_append.mp hc with hc | hc
  · exact isNumeric_of_isDigit (digits c hc)
  · rcases List.mem_cons.mp hc with rfl | hc
    · rcases marks with rfl | rfl <;> rfl
    · exact numeric c hc

theorem IsMarked.exists_eq_cons (h : IsMarked cs) : ∃ d ds, cs = d :: ds ∧ d.isDigit = true := by
  obtain ⟨whole, mark, rest, ne_nil, digits, -, -⟩ := h
  obtain ⟨d, ds, rfl⟩ := List.exists_cons_of_ne_nil ne_nil
  exact ⟨d, ds ++ mark :: rest, rfl, digits d List.mem_cons_self⟩

theorem IsMarked.exists_mark (h : IsMarked cs) : ∃ c ∈ cs, c.isDigit = false ∧ c ≠ '-' := by
  obtain ⟨whole, mark, rest, -, -, rfl | rfl, -⟩ := h
  · exact ⟨'.', List.mem_append_right whole List.mem_cons_self, by decide⟩
  · exact ⟨'e', List.mem_append_right whole List.mem_cons_self, by decide⟩

theorem isMarked_mantissa (d : Char) (ds : List Char) (h : ∀ c ∈ d :: ds, c.isDigit = true) (tail : List Char)
    (htail : ∀ c ∈ tail, isNumeric c = true) :
    IsMarked ((match d :: ds with
      | d :: d' :: ds => d :: '.' :: d' :: ds
      | ds => ds) ++ 'e' :: tail) := by
  cases ds with
  | nil => exact .intro [d] 'e' tail (List.cons_ne_nil d []) h (.inr rfl) htail
  | cons d' ds =>
    obtain ⟨hd, hds⟩ := List.forall_mem_cons.mp h
    have hrest : ∀ c ∈ (d' :: ds) ++ 'e' :: tail, isNumeric c = true := by
      intro c hc
      rcases List.mem_append.mp hc with hc | hc
      · exact isNumeric_of_isDigit (hds c hc)
      · rcases List.mem_cons.mp hc with rfl | hc
        · rfl
        · exact htail c hc
    exact .intro [d] '.' _ (List.cons_ne_nil d []) (by simpa using hd) (.inl rfl) hrest

theorem isMarked_decimalText (d : Scientific) : IsMarked (decimalText d) := by
  have hne : Nat.toDigits 10 d.digits ≠ [] := Nat.toDigits_ne_nil
  unfold decimalText
  dsimp only
  split
  · split
    · next e he =>
      refine .intro _ '.' ['0'] (by simp [hne]) (fun c hc => ?_) (.inl rfl) (List.all_eq_true.mp rfl)
      rcases List.mem_append.mp hc with hc | hc
      · exact isDigit_of_mem_toDigits hc
      · obtain ⟨-, rfl⟩ := List.mem_replicate.mp hc
        rfl
    · next e he =>
      -- The digits are padded, so that at least one stands before the point.
      refine .intro _ '.' _ ?_ (fun c hc => isDigit_of_mem_padded (List.mem_of_mem_take hc)) (.inl rfl)
        fun c hc => isNumeric_of_isDigit (isDigit_of_mem_padded (List.mem_of_mem_drop hc))
      apply List.ne_nil_of_length_pos
      simp only [List.length_take, List.length_append, List.length_replicate]
      omega
  · have hdigits : ∀ c ∈ Nat.toDigits 10 d.digits, c.isDigit = true := fun c hc => isDigit_of_mem_toDigits hc
    obtain ⟨first, ds, hds⟩ := List.exists_cons_of_ne_nil hne
    rw [hds] at hdigits ⊢
    refine isMarked_mantissa first ds hdigits _ fun c hc => ?_
    rcases List.mem_cons.mp hc with rfl | hc
    · split <;> rfl
    · exact isNumeric_of_isDigit (isDigit_of_mem_toDigits hc)

theorem realText_cases (x : Float) : realText x = ['n', 'u', 'l', 'l'] ∨
    ∃ cs, IsMarked cs ∧ (realText x = cs ∨ realText x = '-' :: cs) := by
  unfold realText
  split
  · next b hb =>
    refine .inr ⟨if b.mantissa = 0 then ['0', '.', '0'] else decimalText (b.shortest .toEven), ?_, ?_⟩
    · split
      · exact .intro ['0'] '.' ['0'] (by decide) (List.all_eq_true.mp rfl) (.inl rfl) (List.all_eq_true.mp rfl)
      · exact isMarked_decimalText _
    · cases b.negative with
      | false => exact .inl rfl
      | true => exact .inr rfl
  · exact .inl rfl

theorem exists_real_of_ofLiteral? {l : Literal} (h : Number.ofLiteral? l false = some n) : ∃ x, n = .real x := by
  simp only [Number.ofLiteral?, Bool.false_and, Bool.false_eq_true, if_false, Option.map_eq_some_iff] at h
  obtain ⟨x, -, rfl⟩ := h
  exact ⟨_, rfl⟩

/-- Whatever is neither a digit nor the sign in front tells that a number is not whole. -/
theorem exists_real_of_ofChars? (hn : Number.ofChars? text = some (some n)) (hc : c ∈ text)
    (hdigit : c.isDigit = false) (hminus : c ≠ '-') : ∃ x, n = .real x := by
  unfold Number.ofChars? at hn
  split at hn
  next minus cs hsigned =>
  have hcs : c ∈ cs := by
    split at hsigned
    · obtain ⟨-, rfl⟩ := Prod.mk.inj hsigned
      exact (List.mem_cons.mp hc).resolve_left hminus
    · obtain ⟨-, rfl⟩ := Prod.mk.inj hsigned
      exact hc
  dsimp only at hn
  split at hn
  · cases hn
  · split at hn
    · next hall => exact absurd (List.dropWhile_eq_nil_iff.mp hall c hcs) (by simp [hdigit])
    · split at hn
      · cases hn
      · obtain ⟨exponent, -, hn⟩ := Option.map_eq_some_iff.mp hn
        exact exists_real_of_ofLiteral? hn
    · obtain ⟨exponent, -, hn⟩ := Option.map_eq_some_iff.mp hn
      exact exists_real_of_ofLiteral? hn

/-! ### All numbers -/

/-- A text without blanks. -/
def Solid (cs : List Char) : Prop := ∀ c ∈ cs, Text.isBlank c = false

theorem Solid.cons (hc : Text.isBlank c = false) (h : Solid cs) : Solid (c :: cs) :=
  List.forall_mem_cons.mpr ⟨hc, h⟩

theorem solid_toDigits (n : Nat) : Solid (Nat.toDigits 10 n) :=
  fun _ hc => not_isBlank_of_isDigit (isDigit_of_mem_toDigits hc)

theorem solid_realText (x : Float) : Solid (realText x) := by
  obtain hx | ⟨cs, hcs, hx⟩ := realText_cases x
  · rw [hx]
    intro c hc
    simp only [List.mem_cons, List.not_mem_nil, or_false] at hc
    rcases hc with rfl | rfl | rfl | rfl <;> rfl
  · have hsolid : Solid cs := fun c hc => not_isBlank_of_isNumeric (hcs.isNumeric c hc)
    rcases hx with hx | hx
    · rwa [hx]
    · rw [hx]
      exact hsolid.cons (by decide)

theorem Number.solid_text (n : Number) : Solid n.text := by
  cases n with
  | natural n => exact solid_toDigits n
  | negative n => exact .cons (by decide) (solid_toDigits n)
  | real x => exact solid_realText x

theorem realText_ne_nil (x : Float) : realText x ≠ [] := by
  obtain hx | ⟨_, ⟨whole, mark, rest, -, -, -, -⟩, hx | hx⟩ := realText_cases x
  · simp [hx]
  · simp [hx]
  · simp [hx]

theorem Number.text_ne_nil (n : Number) : n.text ≠ [] := by
  cases n with
  | natural n => exact Nat.toDigits_ne_nil
  | negative n => exact List.cons_ne_nil _ _
  | real x => exact realText_ne_nil x

end Geocoding.Json
