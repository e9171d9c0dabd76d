import Radar.Ellipsoid
import Radar.LocalFrames

namespace Radar

/-!
# The vertical of a local frame

What the transforms of geodetic coordinates and of those of the Earth make of
a point above another one, for any ellipsoid in place of the Earth.  The second
axis of a local frame points up, and the third one, which `enu_to_sph` takes
for the vertical, points east.
-/

namespace CSUtils

open Real Matrix

/-! ## The Earth -/

/-- The ellipsoid with the semi-axes of the Earth. -/
noncomputable def earth : Ellipsoid where
  a := a
  b := b
  a_pos := by norm_num [a]
  b_pos := by norm_num [b]

/-- The semi-axes of the header give the transform of the radar. -/
theorem ecefToEnuWith_earth : ecefToEnuWith earth.a earth.b = ecefToEnu := rfl

/-! ## What the axes are -/

/-- What the height of a target adds to its coordinates. -/
theorem gcsToEcefWith_sub_center
    (shape : Ellipsoid)
    {latitude : ℝ}
    (notPole : 0 < cos latitude)
    (longitude h d : ℝ) :
    (gcsToEcefWith shape.a shape.e_2
          ⟨latitude, longitude, h + d⟩).coordinates -
        lccsCenterPointWith shape.a shape.b ⟨latitude, longitude, h⟩ =
      ![d * cos latitude * cos longitude, d * cos latitude * sin longitude,
        d * sin latitude] := by
  have reduced :
      reducedLatitudeWith shape.a shape.b latitude =
        shape.reducedLatitude latitude :=
    if_neg notPole.ne'
  have axis := shape.mul_cos_reducedLatitude notPole
  have height := shape.mul_sin_reducedLatitude notPole
  rw [Ellipsoid.primeVertical] at axis height
  unfold gcsToEcefWith lccsCenterPointWith ECEFPoint.coordinates
  dsimp only
  rw [reduced, axis, height]
  ext i
  fin_cases i <;> simp <;> ring

/-- The second axis of a local frame is the vertical. -/
theorem ecefToEnuWith_above
    (shape : Ellipsoid)
    {latitude : ℝ}
    (notPole : 0 < cos latitude)
    (longitude h d : ℝ) :
    ecefToEnuWith shape.a shape.b
        (gcsToEcefWith shape.a shape.e_2 ⟨latitude, longitude, h + d⟩)
        ⟨latitude, longitude, h⟩ =
      ⟨0, d, 0⟩ := by
  apply ENUPoint.eq_of_coordinates
  unfold ecefToEnuWith
  rw [← mulVec_sub]
  change _ = ![0, d, 0]
  rw [ENUPoint.coordinates, Spherical.eta]
  change C _ *ᵥ (ECEFPoint.coordinates _ - _) = _
  rw [gcsToEcefWith_sub_center shape notPole, C_eq]
  have first := sin_sq_add_cos_sq latitude
  have second := sin_sq_add_cos_sq longitude
  ext i
  fin_cases i
  · simp [mulVec, dotProduct, Fin.sum_univ_three]
    linear_combination (-d * sin latitude * cos latitude) * second
  · simp [mulVec, dotProduct, Fin.sum_univ_three]
    linear_combination (d * cos latitude ^ 2) * second + d * first
  · simp [mulVec, dotProduct, Fin.sum_univ_three]
    ring

/--
A target over the origin of a local frame is on its third axis exactly if it
is the origin itself.
-/
theorem ecefToEnuWith_vertical_iff
    (shape : Ellipsoid)
    (latitude longitude h d : ℝ)
    (above : -(π / 2) < latitude)
    (below : latitude < π / 2) :
    ecefToEnuWith shape.a shape.b
          (gcsToEcefWith shape.a shape.e_2 ⟨latitude, longitude, h + d⟩)
          ⟨latitude, longitude, h⟩ =
        ⟨0, 0, d⟩ ↔
      d = 0 := by
  rw [ecefToEnuWith_above shape (cos_pos_of_mem_Ioo ⟨above, below⟩),
    ENUPoint.mk.injEq]
  constructor
  · exact fun same => same.2.1
  · rintro rfl
    exact ⟨rfl, rfl, rfl⟩

theorem ecefToEnuWith_vertical_equator :
    ecefToEnuWith earth.a earth.b
        (gcsToEcefWith earth.a earth.e_2 ⟨0, 0, 0 + 1⟩) ⟨0, 0, 0⟩ ≠
      ⟨0, 0, 1⟩ := by
  intro onThird
  have same :=
    (ecefToEnuWith_vertical_iff earth 0 0 0 1
      (neg_lt_zero.mpr (half_pos pi_pos)) (half_pos pi_pos)).mp onThird
  exact one_ne_zero same

/-- One meter over a place on the equator. -/
theorem not_vertical :
    ¬ ∀ (shape : Ellipsoid) (latitude longitude h d : ℝ),
      -(π / 2) < latitude → latitude < π / 2 →
        ecefToEnuWith shape.a shape.b
            (gcsToEcefWith shape.a shape.e_2 ⟨latitude, longitude, h + d⟩)
            ⟨latitude, longitude, h⟩ =
          ⟨0, 0, d⟩ := by
  intro claim
  have onThird :=
    claim earth 0 0 0 1 (neg_lt_zero.mpr (half_pos pi_pos)) (half_pos pi_pos)
  rw [ecefToEnuWith_above earth (by rw [cos_zero]; exact one_pos),
    ENUPoint.mk.injEq] at onThird
  exact one_ne_zero onThird.2.1

end CSUtils

end Radar
