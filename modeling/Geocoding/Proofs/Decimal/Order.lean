import Geocoding.Decimal.Order
import Mathlib.Algebra.Order.Ring.Int
import Mathlib.Tactic.SplitIfs

/-!
# The order of the places

The bits of a number fall into its sign, its exponent and its mantissa. Without the sign they grow with the
magnitude, so that places are in the order of the numbers.
-/

namespace Geocoding.Decimal

open Float.Model Float.Model.UnpackedFloat

/-- The bits of a number as a whole number. -/
def word (x : Float) : Nat := x.toBits.toNat

def nanWord : Nat := 0x7ff8000000000000

def infinityWord : Nat := 0x7ff0000000000000

theorem word_lt (x : Float) : word x < 2 ^ 64 := x.toBits.toNat_lt

theorem word_injective {x y : Float} (h : word x = word y) : x = y := by
  obtain ⟨⟨b, hb⟩⟩ := x
  obtain ⟨⟨c, hc⟩⟩ := y
  have hbc : b = c := UInt64.toNat_inj.mp h
  subst hbc
  rfl

theorem isNegative_iff (x : Float) : isNegative x = true ↔ 2 ^ 63 ≤ word x := by
  have hw := word_lt x
  have hd : isNegative x = true ↔ word x / 2 ^ 63 = 1 := beq_iff_eq
  rw [hd]
  omega

theorem magnitudeBits_eq (x : Float) : magnitudeBits x = word x % 2 ^ 63 := rfl

/-! ### Fields -/

def bits (x : Float) : BitVec Format.binary64.numBits := x.toModel.toBits.toBitVec

theorem exponent_toNat (x : Float) : (unpackExponent (bits x)).toNat = word x / 2 ^ 52 % 2 ^ 11 := by
  show ((bits x).extractLsb 62 52).toNat = _
  rw [BitVec.extractLsb_toNat, Nat.shiftRight_eq_div_pow]
  rfl

theorem mantissa_toNat (x : Float) : (unpackMantissa (bits x)).toNat = word x % 2 ^ 52 := by
  show ((bits x).extractLsb 51 0).toNat = _
  rw [BitVec.extractLsb_toNat]
  rfl

theorem sign_toNat (x : Float) : (unpackSign (bits x)).toNat = word x / 2 ^ 63 % 2 := by
  show ((bits x).extractLsb 63 63).toNat = _
  rw [BitVec.extractLsb_toNat, Nat.shiftRight_eq_div_pow]
  rfl

theorem exponent_eq_ones_iff (x : Float) :
    unpackExponent (bits x) = -BitVec.ofNat Format.binary64.exponentBits 1 ↔
      word x / 2 ^ 52 % 2 ^ 11 = 2047 := by
  rw [← BitVec.toNat_inj, exponent_toNat]
  rfl

theorem exponent_eq_zero_iff (x : Float) :
    unpackExponent (bits x) = BitVec.ofNat Format.binary64.exponentBits 0 ↔
      word x / 2 ^ 52 % 2 ^ 11 = 0 := by
  rw [← BitVec.toNat_inj, exponent_toNat]
  rfl

theorem mantissa_eq_zero_iff (x : Float) :
    unpackMantissa (bits x) = BitVec.ofNat Format.binary64.mantissaBitsWithoutImplicit 0 ↔
      word x % 2 ^ 52 = 0 := by
  rw [← BitVec.toNat_inj, mantissa_toNat]
  rfl

def signOf (x : Float) : Sign := if isNegative x then .negative else .positive

theorem sign_unpack (x : Float) : Sign.ofBitVec (unpackSign (bits x)) = signOf x := by
  have hw := word_lt x
  have hs : unpackSign (bits x) = 0#1 ↔ word x / 2 ^ 63 % 2 = 0 := by
    rw [← BitVec.toNat_inj, sign_toNat]
    rfl
  unfold Sign.ofBitVec signOf
  simp only [hs, isNegative_iff]
  split
  · rw [if_neg (by omega)]
  · rw [if_pos (by omega)]

/-! ### What a number is -/

/-- What the bits of a number say. -/
inductive Reads (x : Float) : UnpackedFloat → Prop where
  | notANumber (h : word x = nanWord) : Reads x .notANumber
  | infinity (h : magnitudeBits x = infinityWord) : Reads x (.infinity (signOf x))
  | zero (h : magnitudeBits x = 0) : Reads x (.zero (signOf x))
  | finite (m : Nat) (e : Int) (hpos : 0 < m) (he : -1074 ≤ e) (hm : m < 2 ^ 53)
      (hn : e = -1074 ∨ 2 ^ 52 ≤ m) (h : (magnitudeBits x : Int) = (e + 1074) * 2 ^ 52 + m)
      (hlt : magnitudeBits x < infinityWord) : Reads x (.finite (signOf x) m e hpos)

theorem reads (x : Float) : Reads x x.toModel.unpack := by
  have hw := word_lt x
  have hm := magnitudeBits_eq x
  have hi : infinityWord = 0x7ff0000000000000 := rfl
  have hbias : (Format.binary64.exponentBias : Int) = 1023 := rfl
  have hbits : (Format.binary64.mantissaBitsWithoutImplicit : Int) = 52 := rfl
  have he := exponent_toNat x
  have hf := mantissa_toNat x
  have hf1 : (1#1 ++ unpackMantissa (bits x)).toNat = 2 ^ 52 + word x % 2 ^ 52 := by
    have h : word x % 2 ^ 52 < 2 ^ 52 := Nat.mod_lt _ (by decide)
    rw [BitVec.toNat_append, mantissa_toNat, Nat.shiftLeft_eq]
    exact (Nat.two_pow_add_eq_or_of_lt h 1).symm
  show Reads x (UnpackedFloat.unpack Format.binary64 (bits x))
  unfold UnpackedFloat.unpack
  dsimp only
  rw [sign_unpack]
  by_cases h1 : unpackExponent (bits x) = -BitVec.ofNat Format.binary64.exponentBits 1
  · rw [if_pos h1]
    by_cases h2 : unpackMantissa (bits x) = BitVec.ofNat Format.binary64.mantissaBitsWithoutImplicit 0
    · rw [if_pos h2]
      rw [exponent_eq_ones_iff] at h1
      rw [mantissa_eq_zero_iff] at h2
      exact .infinity (by omega)
    · rw [if_neg h2]
      exact .notANumber (congrArg BitVec.toNat (x.toModel.valid.eq_packedNaN h1 h2))
  · rw [if_neg h1]
    rw [exponent_eq_ones_iff] at h1
    by_cases h2 : unpackExponent (bits x) = BitVec.ofNat Format.binary64.exponentBits 0
    · rw [if_pos h2]
      rw [exponent_eq_zero_iff] at h2
      by_cases h3 : unpackMantissa (bits x) = BitVec.ofNat Format.binary64.mantissaBitsWithoutImplicit 0
      · rw [dif_pos h3]
        rw [mantissa_eq_zero_iff] at h3
        exact .zero (by omega)
      · rw [dif_neg h3]
        refine .finite _ _ _ ?_ ?_ ?_ ?_ ?_
        all_goals omega
    · rw [if_neg h2]
      rw [exponent_eq_zero_iff] at h2
      refine .finite _ _ _ ?_ ?_ ?_ ?_ ?_
      all_goals omega

/-! ### The order of the places -/

theorem compare_finite {m n p q : Nat} {e f : Int} (he : -1074 ≤ e) (hf : -1074 ≤ f)
    (hm : m < 2 ^ 53) (hn : n < 2 ^ 53) (hme : e = -1074 ∨ 2 ^ 52 ≤ m) (hnf : f = -1074 ∨ 2 ^ 52 ≤ n)
    (hp : (p : Int) = (e + 1074) * 2 ^ 52 + m) (hq : (q : Int) = (f + 1074) * 2 ^ 52 + n) :
    (compare e f).then (compare m n) = compare (p : Int) q := by
  obtain h | rfl | h := Int.lt_trichotomy e f
  · have hpq : (p : Int) < q := by omega
    rw [Int.compare_eq_lt.mpr h, Int.compare_eq_lt.mpr hpq]
    rfl
  · rw [Int.compare_eq_eq.mpr rfl, Ordering.eq_then]
    obtain h | rfl | h := Nat.lt_trichotomy m n
    · rw [Nat.compare_eq_lt.mpr h, Int.compare_eq_lt.mpr (by omega)]
    · rw [Nat.compare_eq_eq.mpr rfl, Int.compare_eq_eq.mpr (by omega)]
    · rw [Nat.compare_eq_gt.mpr h, Int.compare_eq_gt.mpr (by omega)]
  · have hpq : (q : Int) < p := by omega
    rw [Int.compare_eq_gt.mpr h, Int.compare_eq_gt.mpr hpq]
    rfl

theorem swap_compare (p q : Nat) : (compare (p : Int) q).swap = compare (-(p : Int)) (-(q : Int)) := by
  obtain h | rfl | h := Nat.lt_trichotomy p q
  · rw [Int.compare_eq_lt.mpr (by omega), Int.compare_eq_gt.mpr (by omega)]
    rfl
  · rw [Int.compare_eq_eq.mpr rfl, Int.compare_eq_eq.mpr rfl]
    rfl
  · rw [Int.compare_eq_gt.mpr (by omega), Int.compare_eq_lt.mpr (by omega)]
    rfl

/-- The number of the greater magnitude decides by its sign. -/
theorem compare_apply_of_gt {p q : Nat} (h : q < p) (s t : Sign) :
    compare (s.apply p) (t.apply q) = (match s with | .negative => .lt | .positive => .gt) := by
  cases s <;> cases t <;> simp only [Sign.apply]
  · exact Int.compare_eq_lt.mpr (by omega)
  · exact Int.compare_eq_lt.mpr (by omega)
  · exact Int.compare_eq_gt.mpr (by omega)
  · exact Int.compare_eq_gt.mpr (by omega)

theorem compare_apply_of_lt {p q : Nat} (h : p < q) (s t : Sign) :
    compare (s.apply p) (t.apply q) = (match t with | .negative => .gt | .positive => .lt) := by
  cases s <;> cases t <;> simp only [Sign.apply]
  · exact Int.compare_eq_gt.mpr (by omega)
  · exact Int.compare_eq_lt.mpr (by omega)
  · exact Int.compare_eq_gt.mpr (by omega)
  · exact Int.compare_eq_lt.mpr (by omega)

theorem place_eq (x : Float) : place x = (signOf x).apply (magnitudeBits x) := by
  unfold place signOf
  split
  · rfl
  · rfl

theorem Reads.compare_eq {x y : Float} {u v : UnpackedFloat} (hu : Reads x u) (hv : Reads y v)
    (hx : word x ≠ nanWord) (hy : word y ≠ nanWord) :
    u.compare v = some (compare (place x) (place y)) := by
  have hi : 0 < infinityWord := by decide
  rw [place_eq, place_eq]
  cases hu with
  | notANumber h => exact absurd h hx
  | infinity h =>
    cases hv with
    | notANumber h => exact absurd h hy
    | infinity h' =>
      rw [h, h']
      cases signOf x <;> cases signOf y <;> rfl
    | zero h' =>
      rw [compare_apply_of_gt (by omega)]
      cases signOf x <;> cases signOf y <;> rfl
    | finite n f _ hf hn hnf h' hlt =>
      rw [compare_apply_of_gt (by omega)]
      cases signOf x <;> cases signOf y <;> rfl
  | zero h =>
    cases hv with
    | notANumber h => exact absurd h hy
    | infinity h' =>
      rw [compare_apply_of_lt (by omega)]
      cases signOf x <;> cases signOf y <;> rfl
    | zero h' =>
      rw [h, h']
      cases signOf x <;> cases signOf y <;> rfl
    | finite n f _ hf hn hnf h' hlt =>
      rw [compare_apply_of_lt (by omega)]
      cases signOf x <;> cases signOf y <;> rfl
  | finite m e _ he hm hme h hlt =>
    cases hv with
    | notANumber h => exact absurd h hy
    | infinity h' =>
      rw [compare_apply_of_lt (by omega)]
      cases signOf x <;> cases signOf y <;> rfl
    | zero h' =>
      rw [compare_apply_of_gt (by omega)]
      cases signOf x <;> cases signOf y <;> rfl
    | finite n f _ hf hn hnf h' hlt' =>
      have hc := compare_finite he hf hm hn hme hnf h h'
      cases signOf x <;> cases signOf y
      · show some ((compare e f).then (compare m n)).swap = some (compare (-(magnitudeBits x : Int)) _)
        rw [hc, swap_compare]
        rfl
      · have hlt : -(magnitudeBits x : Int) < magnitudeBits y := by omega
        exact congrArg some (Int.compare_eq_lt.mpr hlt).symm
      · have hlt : -(magnitudeBits y : Int) < magnitudeBits x := by omega
        exact congrArg some (Int.compare_eq_gt.mpr hlt).symm
      · exact congrArg some hc

/-! ### What is no number, and the order of the others -/

theorem Reads.isNaN_iff {x : Float} {u : UnpackedFloat} (hu : Reads x u) :
    u.isNaN = true ↔ word x = nanWord := by
  have hm := magnitudeBits_eq x
  have hi : infinityWord = 0x7ff0000000000000 := rfl
  have hn : nanWord = 0x7ff8000000000000 := rfl
  cases hu with
  | notANumber h => exact ⟨fun _ => h, fun _ => rfl⟩
  | infinity h => exact ⟨nofun, fun hw => by omega⟩
  | zero h => exact ⟨nofun, fun hw => by omega⟩
  | finite _ _ _ _ _ _ _ h => exact ⟨nofun, fun hw => by omega⟩

theorem isNaN_iff (x : Float) : x.isNaN = true ↔ word x = nanWord := (reads x).isNaN_iff

theorem word_ne_nanWord {x : Float} (hx : x.isNaN = false) : word x ≠ nanWord := by
  intro h
  rw [← isNaN_iff, hx] at h
  cases h

theorem Reads.magnitudeBits_le {x : Float} {u : UnpackedFloat} (hu : Reads x u)
    (hx : word x ≠ nanWord) : magnitudeBits x ≤ infinityWord := by
  cases hu with
  | notANumber h => exact absurd h hx
  | infinity h => exact Nat.le_of_eq h
  | zero h => exact h ▸ Nat.zero_le _
  | finite _ _ _ _ _ _ _ h => exact Nat.le_of_lt h

theorem le_iff_compare (x y : Float) :
    x ≤ y ↔ (x.toModel.unpack.compare y.toModel.unpack).any (·.isLE) = true := by
  show decide (x.toModel ≤ y.toModel) = true ↔ _
  rw [decide_eq_true_iff]
  rfl

theorem le_iff_place_le {x y : Float} (hx : x.isNaN = false) (hy : y.isNaN = false) :
    x ≤ y ↔ place x ≤ place y := by
  have hc := (reads x).compare_eq (reads y) (word_ne_nanWord hx) (word_ne_nanWord hy)
  rw [le_iff_compare, hc]
  exact Int.isLE_compare

theorem lt_iff_compare (x y : Float) :
    x < y ↔ x.toModel.unpack.compare y.toModel.unpack = some .lt := by
  show decide (x.toModel < y.toModel) = true ↔ _
  rw [decide_eq_true_iff]
  exact beq_iff_eq

theorem lt_iff_place_lt {x y : Float} (hx : x.isNaN = false) (hy : y.isNaN = false) :
    x < y ↔ place x < place y := by
  have hc := (reads x).compare_eq (reads y) (word_ne_nanWord hx) (word_ne_nanWord hy)
  rw [lt_iff_compare, hc, Option.some.injEq]
  exact Int.compare_eq_lt

theorem isFinite_eq (x : Float) : x.isFinite = (!x.isNaN && !x.isInf) := by
  show x.toModel.unpack.isFinite = (!x.toModel.unpack.isNaN && !x.toModel.unpack.isInf)
  cases x.toModel.unpack <;> rfl

theorem isNaN_of_isFinite {x : Float} (h : x.isFinite = true) : x.isNaN = false := by
  rw [isFinite_eq, Bool.and_eq_true_iff] at h
  simpa using h.1

theorem isNaN_zero : (0 : Float).isNaN = false := by decide +kernel

theorem place_zero : place 0 = 0 := by decide +kernel

theorem isNaN_of_compare {u v : UnpackedFloat} (h : (u.compare v).any (·.isLE) = true) :
    u.isNaN = false ∧ v.isNaN = false := by
  cases u <;> cases v <;> first | exact ⟨rfl, rfl⟩ | exact (Bool.false_ne_true h).elim

/-- What is not a number is neither below nor above anything. -/
theorem isNaN_of_le {x y : Float} (h : x ≤ y) : x.isNaN = false ∧ y.isNaN = false :=
  isNaN_of_compare ((le_iff_compare x y).mp h)

/-! ### A place for every value -/

theorem totalPlace_injective {x y : Float} (h : totalPlace x = totalPlace y) : x = y := by
  have hx := word_lt x
  have hy := word_lt y
  have hnx := isNegative_iff x
  have hny := isNegative_iff y
  unfold totalPlace at h
  rw [magnitudeBits_eq, magnitudeBits_eq] at h
  refine word_injective ?_
  split_ifs at h with h1 h2 h2
  all_goals rw [hnx] at h1
  all_goals rw [hny] at h2
  all_goals omega

theorem place_le_of_totalPlace_le {x y : Float} (h : totalPlace x ≤ totalPlace y) :
    place x ≤ place y := by
  unfold totalPlace at h
  unfold place
  split_ifs at h ⊢
  all_goals omega

theorem totalPlace_lt_of_place_lt {x y : Float} (h : place x < place y) :
    totalPlace x < totalPlace y := by
  have hn : ¬ totalPlace y ≤ totalPlace x := fun hle => by
    have := place_le_of_totalPlace_le hle
    omega
  omega

theorem totalPlace_of_isNaN {x : Float} (hx : x.isNaN = true) : totalPlace x = nanWord := by
  rw [isNaN_iff] at hx
  have hn : nanWord = 0x7ff8000000000000 := rfl
  have hs : ¬ isNegative x = true := by
    rw [isNegative_iff]
    omega
  unfold totalPlace
  rw [if_neg hs, magnitudeBits_eq]
  omega

theorem totalPlace_lt_nanWord {x : Float} (hx : x.isNaN = false) : totalPlace x < nanWord := by
  have hm := (reads x).magnitudeBits_le (word_ne_nanWord hx)
  have hn : infinityWord < nanWord := by decide
  unfold totalPlace
  split_ifs
  all_goals omega

theorem totalPlace_ge (x : Float) : -(infinityWord : Int) - 1 ≤ totalPlace x := by
  cases hx : x.isNaN with
  | true =>
    rw [totalPlace_of_isNaN hx]
    omega
  | false =>
    have hm := (reads x).magnitudeBits_le (word_ne_nanWord hx)
    unfold totalPlace
    split_ifs
    all_goals omega

theorem totalPlace_le_of_isNaN {x y : Float} (hy : y.isNaN = true) : totalPlace x ≤ totalPlace y := by
  rw [totalPlace_of_isNaN hy]
  cases hx : x.isNaN with
  | true => exact Int.le_of_eq (totalPlace_of_isNaN hx)
  | false => exact Int.le_of_lt (totalPlace_lt_nanWord hx)

/-- At or before a number there are only numbers, and they are not greater. -/
theorem le_of_totalPlace_le {x y : Float} (hy : y.isNaN = false) (h : totalPlace x ≤ totalPlace y) :
    x ≤ y := by
  have hx : x.isNaN = false := by
    cases hx : x.isNaN with
    | true =>
      have hlt := totalPlace_lt_nanWord hy
      rw [totalPlace_of_isNaN hx] at h
      omega
    | false => rfl
  exact (le_iff_place_le hx hy).mpr (place_le_of_totalPlace_le h)

/-- Where the places are the same, a negative zero would stay before zero. -/
theorem totalPlace_le_of_place_le {x y : Float} (hy : y ≠ -0.0) (h : place x ≤ place y) :
    totalPlace x ≤ totalPlace y := by
  have hz : ¬ word y = 2 ^ 63 := fun hw => hy (word_injective (hw.trans (by decide)))
  have hl := word_lt y
  have hny := isNegative_iff y
  have hm := magnitudeBits_eq y
  unfold place at h
  unfold totalPlace
  split_ifs at h ⊢ with h1 h2 h2
  all_goals try rw [hny] at h2
  all_goals omega

theorem totalPlace_le_iff {x y : Float} (hy : y ≠ -0.0) :
    totalPlace x ≤ totalPlace y ↔ x ≤ y ∨ y.isNaN = true := by
  constructor
  · intro h
    cases hn : y.isNaN with
    | true => exact .inr rfl
    | false => exact .inl (le_of_totalPlace_le hn h)
  · rintro (h | hn)
    · obtain ⟨hx, hn⟩ := isNaN_of_le h
      exact totalPlace_le_of_place_le hy ((le_iff_place_le hx hn).mp h)
    · exact totalPlace_le_of_isNaN hn

end Geocoding.Decimal
