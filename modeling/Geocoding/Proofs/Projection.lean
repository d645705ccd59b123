import Geocoding.Projection
import Mathlib.Analysis.SpecialFunctions.Log.Basic
import Mathlib.Analysis.SpecialFunctions.Trigonometric.Arctan

/-!
# The plane and the globe

Over the real numbers the two ways of the projection undo each other. To the north the isometric latitude gives the
distance from the equator; it is odd, so the reflection of the northern half is what the same formula would give to the
south. Its inverse is the Gudermannian function.
-/

namespace Geocoding

open Real Set

noncomputable instance : Elementary ℝ where
  earthRadius := 6378137
  quarterTurn := π / 2
  eighthTurn := π / 4
  radiansPerDegree := π / 180
  degreesPerRadian := 180 / π
  add x y := x + y
  sub x y := x - y
  mul x y := x * y
  div x y := x / y
  two := 2
  abs x := |x|
  tan := Real.tan
  log := Real.log
  exp := Real.exp
  arctan := Real.arctan
  withSign x s := if s < 0 then -|x| else |x|

/-! ### The isometric latitude and its inverse -/

noncomputable def isometricLatitude (a : ℝ) : ℝ := log (tan (π / 4 + a / 2))

noncomputable def gudermannian (t : ℝ) : ℝ := 2 * arctan (exp t) - π / 2

variable {a b lat : ℝ}

theorem half_mem (ha : a ∈ Ioo (-(π / 2)) (π / 2)) : 0 < π / 4 + a / 2 ∧ π / 4 + a / 2 < π / 2 := by
  obtain ⟨hlo, hhi⟩ := ha
  constructor <;> linarith

theorem tan_half_pos (ha : a ∈ Ioo (-(π / 2)) (π / 2)) : 0 < tan (π / 4 + a / 2) :=
  tan_pos_of_pos_of_lt_pi_div_two (half_mem ha).1 (half_mem ha).2

theorem isometricLatitude_zero : isometricLatitude 0 = 0 := by
  simp [isometricLatitude]

theorem isometricLatitude_neg (a : ℝ) : isometricLatitude (-a) = -isometricLatitude a := by
  -- Opposite latitudes have complementary angles, so that their tangents are reciprocal.
  have hangle : π / 4 + -a / 2 = π / 2 - (π / 4 + a / 2) := by ring
  rw [isometricLatitude, hangle, tan_pi_div_two_sub, log_inv, isometricLatitude]

theorem isometricLatitude_strictMonoOn : StrictMonoOn isometricLatitude (Ioo (-(π / 2)) (π / 2)) := by
  intro a ha b hb hab
  have hlo : -(π / 2) < π / 4 + a / 2 := by
    have hpos := (half_mem ha).1
    have hpi := pi_pos
    linarith
  have htan : tan (π / 4 + a / 2) < tan (π / 4 + b / 2) :=
    tan_lt_tan_of_lt_of_lt_pi_div_two hlo (half_mem hb).2 (by linarith)
  exact log_lt_log (tan_half_pos ha) htan

theorem sign_isometricLatitude (ha : a ∈ Ioo (-(π / 2)) (π / 2)) :
    SignType.sign (isometricLatitude a) = SignType.sign a := by
  have hzero : (0 : ℝ) ∈ Ioo (-(π / 2)) (π / 2) := by
    have hpi := pi_pos
    constructor <;> linarith
  obtain h | rfl | h := lt_trichotomy a 0
  · have hneg := isometricLatitude_strictMonoOn ha hzero h
    rw [isometricLatitude_zero] at hneg
    rw [sign_neg h, sign_neg hneg]
  · rw [isometricLatitude_zero]
  · have hpos := isometricLatitude_strictMonoOn hzero ha h
    rw [isometricLatitude_zero] at hpos
    rw [sign_pos h, sign_pos hpos]

theorem gudermannian_mem (t : ℝ) : gudermannian t ∈ Ioo (-(π / 2)) (π / 2) := by
  have hpos : 0 < arctan (exp t) := arctan_pos.mpr (exp_pos t)
  have hlt := arctan_lt_pi_div_two (exp t)
  constructor <;> rw [gudermannian] <;> linarith

theorem isometricLatitude_gudermannian (t : ℝ) : isometricLatitude (gudermannian t) = t := by
  have hangle : π / 4 + gudermannian t / 2 = arctan (exp t) := by
    rw [gudermannian]
    ring
  rw [isometricLatitude, hangle, tan_arctan, log_exp]

theorem gudermannian_isometricLatitude (ha : a ∈ Ioo (-(π / 2)) (π / 2)) :
    gudermannian (isometricLatitude a) = a := by
  obtain ⟨hpos, hlt⟩ := half_mem ha
  have hlo : -(π / 2) < π / 4 + a / 2 := by
    have hpi := pi_pos
    linarith
  rw [gudermannian, isometricLatitude, exp_log (tan_half_pos ha), arctan_tan hlo hlt]
  ring

/-! ### Degrees and metres -/

theorem radians_mem (h : lat ∈ Ioo (-90) 90) : lat * (π / 180) ∈ Ioo (-(π / 2)) (π / 2) := by
  obtain ⟨hlo, hhi⟩ := h
  have hpi := pi_pos
  constructor <;> nlinarith

theorem degrees_radians (a : ℝ) : a * (π / 180) * (180 / π) = a := by
  have hpi := pi_ne_zero
  field_simp

theorem radians_degrees (a : ℝ) : a * (180 / π) * (π / 180) = a := by
  have hpi := pi_ne_zero
  field_simp

theorem latitude_eq (y : ℝ) : Elementary.latitude y = gudermannian (y / 6378137) * (180 / π) := rfl

/-- The southern half is the reflection of the northern one. -/
theorem withSign_isometricLatitude (ha : a ∈ Ioo (-(π / 2)) (π / 2)) :
    Elementary.withSign (6378137 * isometricLatitude |a|) a = 6378137 * isometricLatitude a := by
  have hsign := sign_isometricLatitude ha
  obtain hneg | hnonneg := lt_or_ge a 0
  · have hi : isometricLatitude a < 0 := by
      rw [← sign_eq_neg_one_iff, hsign, sign_neg hneg]
    have hreflected : 0 < 6378137 * -isometricLatitude a := by linarith
    rw [abs_of_neg hneg, isometricLatitude_neg]
    refine (if_pos hneg).trans ?_
    rw [abs_of_pos hreflected]
    ring
  · have hi : 0 ≤ isometricLatitude a := by
      rw [← sign_nonneg_iff, hsign, sign_nonneg_iff]
      exact hnonneg
    have hnorth : 0 ≤ 6378137 * isometricLatitude a := by linarith
    rw [abs_of_nonneg hnonneg]
    refine (if_neg (not_lt.mpr hnonneg)).trans ?_
    exact abs_of_nonneg hnorth

theorem northing_eq (h : lat ∈ Ioo (-90) 90) :
    Elementary.northing lat = 6378137 * isometricLatitude (lat * (π / 180)) :=
  withSign_isometricLatitude (radians_mem h)

theorem latitude_mem (y : ℝ) : Elementary.latitude y ∈ Ioo (-90) 90 := by
  obtain ⟨hlo, hhi⟩ := gudermannian_mem (y / 6378137)
  have hscale : 0 < 180 / π := by positivity
  have hpole : π / 2 * (180 / π) = 90 := by
    have hpi := pi_ne_zero
    field_simp
    norm_num
  rw [latitude_eq]
  constructor <;> nlinarith

theorem latitude_northing (h : lat ∈ Ioo (-90) 90) : Elementary.latitude (Elementary.northing lat) = lat := by
  have hscale : 6378137 * isometricLatitude (lat * (π / 180)) / 6378137 =
      isometricLatitude (lat * (π / 180)) := mul_div_cancel_left₀ _ (by norm_num)
  rw [northing_eq h, latitude_eq, hscale, gudermannian_isometricLatitude (radians_mem h), degrees_radians]

theorem northing_latitude (y : ℝ) : Elementary.northing (Elementary.latitude y) = y := by
  rw [northing_eq (latitude_mem y), latitude_eq, radians_degrees, isometricLatitude_gudermannian]
  exact mul_div_cancel₀ _ (by norm_num)

theorem longitude_easting (lon : ℝ) : Elementary.longitude (Elementary.easting lon) = lon := by
  show 6378137 * (lon * (π / 180)) / 6378137 * (180 / π) = lon
  rw [mul_div_cancel_left₀ _ (by norm_num), degrees_radians]

theorem easting_longitude (x : ℝ) : Elementary.easting (Elementary.longitude x) = x := by
  show 6378137 * (x / 6378137 * (180 / π) * (π / 180)) = x
  rw [radians_degrees]
  exact mul_div_cancel₀ _ (by norm_num)

theorem northing_strictMonoOn : StrictMonoOn (Elementary.northing : ℝ → ℝ) (Ioo (-90) 90) := by
  intro lat h lat' h' hlt
  have hpi : 0 < π / 180 := by positivity
  have hradians : lat * (π / 180) < lat' * (π / 180) := mul_lt_mul_of_pos_right hlt hpi
  have hi := isometricLatitude_strictMonoOn (radians_mem h) (radians_mem h') hradians
  rw [northing_eq h, northing_eq h']
  linarith

theorem sign_northing (h : lat ∈ Ioo (-90) 90) : SignType.sign (Elementary.northing lat) = SignType.sign lat := by
  have hpi : 0 < π / 180 := by positivity
  rw [northing_eq h, sign_mul, sign_isometricLatitude (radians_mem h), sign_mul, sign_pos hpi]
  simp

/-- Between the poles and the whole plane the two ways of the projection undo each other. The northing has the sign of
the latitude and grows with it. -/
theorem projection_undone :
    (∀ p : Geographic ℝ, p.lat ∈ Ioo (-90) 90 → p.toProjected.toGeographic = p) ∧
      (∀ q : Projected ℝ, q.toGeographic.lat ∈ Ioo (-90) 90 ∧ q.toGeographic.toProjected = q) ∧
      (∀ p : Geographic ℝ, p.lat ∈ Ioo (-90) 90 → SignType.sign p.toProjected.y = SignType.sign p.lat) ∧
      ∀ p p' : Geographic ℝ, p.lat ∈ Ioo (-90) 90 → p'.lat ∈ Ioo (-90) 90 → p.lat < p'.lat →
        p.toProjected.y < p'.toProjected.y := by
  refine ⟨fun p h => ?_, fun q => ⟨latitude_mem q.y, ?_⟩, fun p h => sign_northing h, fun p p' h h' hlt => ?_⟩
  · rw [Geographic.toProjected, Projected.toGeographic, latitude_northing h, longitude_easting]
  · rw [Projected.toGeographic, Geographic.toProjected, northing_latitude, easting_longitude]
  · exact northing_strictMonoOn h h' hlt

/-- A point of the southern half, and east of the antimeridian, against one of the northern half. -/
theorem projection_undone_south :
    let p : Geographic ℝ := ⟨-60, 200⟩
    let p' : Geographic ℝ := ⟨45, 0⟩
    p.lat ∈ Ioo (-90) 90 ∧ p'.lat ∈ Ioo (-90) 90 ∧ p.lat < p'.lat ∧ p.toProjected.toGeographic = p ∧
      SignType.sign p.toProjected.y = -1 ∧ p.toProjected.y < p'.toProjected.y := by
  intro p p'
  have h : p.lat ∈ Ioo (-90) 90 := by constructor <;> norm_num [p]
  have h' : p'.lat ∈ Ioo (-90) 90 := by constructor <;> norm_num [p']
  have hlt : p.lat < p'.lat := by norm_num [p, p']
  have hneg : p.lat < 0 := by norm_num [p]
  obtain ⟨hundone, -, hsign, hgrows⟩ := projection_undone
  exact ⟨h, h', hlt, hundone p h, (hsign p h).trans (sign_neg hneg), hgrows p p' h h' hlt⟩

end Geocoding
