import Mathlib.Geometry.Euclidean.Angle.Unoriented.TriangleInequality
import Mathlib.Analysis.InnerProductSpace.PiL2

/-! Points of the unit sphere by their latitude and longitude in radians. The angle between two of
them is that of the spherical law of cosines, so it is defined everywhere and obeys the triangle
inequality. -/
open Real InnerProductGeometry

namespace GreatCircle
variable (φ θ φ' θ' : ℝ)

noncomputable def coords : Fin 3 → ℝ := ![cos φ * cos θ, cos φ * sin θ, sin φ]

/-- The spherical law of cosines. -/
noncomputable def cosine : ℝ := sin φ * sin φ' + cos φ * cos φ' * cos (θ - θ')

noncomputable def arc : ℝ := arccos (cosine φ θ φ' θ')

theorem inner_coords :
    inner ℝ (WithLp.toLp 2 (coords φ θ)) (WithLp.toLp 2 (coords φ' θ')) = cosine φ θ φ' θ' := by
  unfold coords cosine
  rw [PiLp.inner_apply, Fin.sum_univ_three, cos_sub]
  simp only [Matrix.cons_val_zero, Matrix.cons_val_one, Matrix.cons_val_two, Matrix.tail_cons,
    Matrix.head_cons, inner_apply]
  ring

theorem norm_coords : ‖WithLp.toLp 2 (coords φ θ)‖ = 1 := by
  have hself : ‖WithLp.toLp 2 (coords φ θ)‖ ^ 2 = 1 := by
    rw [← real_inner_self_eq_norm_sq, inner_coords, cosine, sub_self, cos_zero]
    linarith [sin_sq_add_cos_sq φ]
  exact (pow_eq_one_iff_of_nonneg (norm_nonneg _) two_ne_zero).mp hself

theorem arc_eq_angle :
    arc φ θ φ' θ' = angle (WithLp.toLp 2 (coords φ θ)) (WithLp.toLp 2 (coords φ' θ')) := by
  unfold arc angle
  rw [inner_coords, norm_coords, norm_coords, mul_one, div_one]

theorem cosine_mem : cosine φ θ φ' θ' ∈ Set.Icc (-1 : ℝ) 1 := by
  have habs := abs_real_inner_le_norm (WithLp.toLp 2 (coords φ θ)) (WithLp.toLp 2 (coords φ' θ'))
  rw [inner_coords, norm_coords, norm_coords, mul_one] at habs
  exact abs_le.mp habs

theorem arc_comm : arc φ θ φ' θ' = arc φ' θ' φ θ := by
  rw [arc_eq_angle, arc_eq_angle, angle_comm]

theorem arc_self : arc φ θ φ θ = 0 := by
  rw [arc_eq_angle]
  apply angle_self
  rw [← norm_ne_zero_iff, norm_coords]
  exact one_ne_zero

theorem arc_triangle (φ₁ θ₁ φ₂ θ₂ φ₃ θ₃ : ℝ) :
    arc φ₁ θ₁ φ₃ θ₃ ≤ arc φ₁ θ₁ φ₂ θ₂ + arc φ₂ θ₂ φ₃ θ₃ := by
  rw [arc_eq_angle, arc_eq_angle, arc_eq_angle]
  exact angle_le_angle_add_angle _ _ _

/-- The arc depends on the points alone, not on the angles that denote them. -/
theorem arc_congr {φ₁ θ₁ : ℝ} (h : coords φ' θ' = coords φ₁ θ₁) :
    arc φ θ φ' θ' = arc φ θ φ₁ θ₁ := by
  rw [arc_eq_angle, arc_eq_angle, h]

/-- Past the pole the latitude falls again, on the opposite meridian. -/
theorem coords_over_pole : coords (π - φ) θ = coords φ (θ + π) := by
  unfold coords
  rw [cos_pi_sub, sin_pi_sub, cos_add_pi, sin_add_pi, neg_mul_comm, neg_mul_comm]

/-- Longitudes are given up to a full turn. -/
theorem coords_full_turn : coords φ (θ + π + π) = coords φ θ := by
  unfold coords
  rw [cos_add_pi, cos_add_pi, sin_add_pi, sin_add_pi, neg_neg, neg_neg]

end GreatCircle
