import Clight.GreatCircle
import Clight.LocationRuns
import Clight.Sun

/-! The distance of two positions (my_math.c), with exact trigonometry: it is the great circle's, so
that acos is always defined. -/
namespace Clight

noncomputable section

/-- The factor that turns degrees of an arc into miles. -/
def milesPerDegree : ℚ := 60 * 1.1515

def getDistance (loc1 loc2 : Loc) : ℝ :=
  let theta : ℝ := loc1.lon - loc2.lon
  let dist := Real.sin (degToRad loc1.lat) * Real.sin (degToRad loc2.lat) +
    Real.cos (degToRad loc1.lat) * Real.cos (degToRad loc2.lat) * Real.cos (degToRad theta)
  let dist := Real.arccos dist
  let dist := radToDeg dist
  dist * milesPerDegree

/-- The length of an arc of one radian. -/
def arcLength : ℝ := radToDeg 1 * milesPerDegree

theorem arcLength_pos : 0 < arcLength := by
  have hpi := Real.pi_pos
  have hmiles : (0 : ℝ) < milesPerDegree := by
    exact_mod_cast (by decide +kernel : (0 : ℚ) < milesPerDegree)
  unfold arcLength radToDeg
  positivity

variable (l l₁ l₂ l₃ : Loc)

def arcBetween : ℝ :=
  GreatCircle.arc (degToRad l₁.lat) (degToRad l₁.lon) (degToRad l₂.lat) (degToRad l₂.lon)

theorem degToRad_sub (x y : ℝ) : degToRad (x - y) = degToRad x - degToRad y := by
  unfold degToRad
  ring

theorem getDistance_eq : getDistance l₁ l₂ = arcLength * arcBetween l₁ l₂ := by
  unfold getDistance arcBetween GreatCircle.arc GreatCircle.cosine
  dsimp only
  rw [degToRad_sub]
  unfold arcLength radToDeg
  ring

/-- acos is only asked for the arc of a cosine. -/
theorem acos_defined : Real.sin (degToRad l₁.lat) * Real.sin (degToRad l₂.lat) +
    Real.cos (degToRad l₁.lat) * Real.cos (degToRad l₂.lat) *
      Real.cos (degToRad (l₁.lon - l₂.lon)) ∈ Set.Icc (-1 : ℝ) 1 := by
  rw [degToRad_sub]
  exact GreatCircle.cosine_mem _ _ _ _

theorem getDistance_self : getDistance l l = 0 := by
  rw [getDistance_eq, arcBetween, GreatCircle.arc_self, mul_zero]

theorem getDistance_comm : getDistance l₁ l₂ = getDistance l₂ l₁ := by
  rw [getDistance_eq, getDistance_eq, arcBetween, GreatCircle.arc_comm, ← arcBetween]

theorem getDistance_triangle : getDistance l₁ l₃ ≤ getDistance l₁ l₂ + getDistance l₂ l₃ := by
  rw [getDistance_eq, getDistance_eq, getDistance_eq, ← mul_add]
  apply mul_le_mul_of_nonneg_left _ arcLength_pos.le
  exact GreatCircle.arc_triangle ..

/-- What get_distance is asked to measure, and that it can. -/
structure Measures : Prop where
  /-- acos is only asked for arguments that it is defined on. -/
  defined : ∀ l₁ l₂ : Loc, Real.sin (degToRad l₁.lat) * Real.sin (degToRad l₂.lat) +
    Real.cos (degToRad l₁.lat) * Real.cos (degToRad l₂.lat) *
      Real.cos (degToRad (l₁.lon - l₂.lon)) ∈ Set.Icc (-1 : ℝ) 1
  /-- The distance is the length of the arc between the points of the sphere. -/
  great : ∀ l₁ l₂ : Loc, getDistance l₁ l₂ = arcLength * InnerProductGeometry.angle
    (WithLp.toLp 2 (GreatCircle.coords (degToRad l₁.lat) (degToRad l₁.lon)))
    (WithLp.toLp 2 (GreatCircle.coords (degToRad l₂.lat) (degToRad l₂.lon)))
  self : ∀ l, getDistance l l = 0
  comm : ∀ l₁ l₂, getDistance l₁ l₂ = getDistance l₂ l₁
  triangle : ∀ l₁ l₂ l₃, getDistance l₁ l₃ ≤ getDistance l₁ l₂ + getDistance l₂ l₃

theorem getDistance_measures : Measures where
  defined := acos_defined
  great l₁ l₂ := by rw [getDistance_eq, arcBetween, GreatCircle.arc_eq_angle]
  self := getDistance_self
  comm := getDistance_comm
  triangle := getDistance_triangle

/-- The undefined position is measured as the point that its angles denote. -/
theorem getDistance_undefined : getDistance l undefinedLoc = getDistance l { lat := 89, lon := 1 } := by
  have hlat : degToRad ((91 : ℚ) : ℝ) = Real.pi - degToRad ((89 : ℚ) : ℝ) := by
    unfold degToRad
    push_cast
    ring
  have hlon : degToRad ((181 : ℚ) : ℝ) = degToRad ((1 : ℚ) : ℝ) + Real.pi := by
    unfold degToRad
    push_cast
    ring
  have hpoint : GreatCircle.coords (degToRad ((91 : ℚ) : ℝ)) (degToRad ((181 : ℚ) : ℝ)) =
      GreatCircle.coords (degToRad ((89 : ℚ) : ℝ)) (degToRad ((1 : ℚ) : ℝ)) := by
    rw [hlat, hlon, GreatCircle.coords_over_pole, GreatCircle.coords_full_turn]
  have harc : arcBetween l undefinedLoc = arcBetween l { lat := 89, lon := 1 } :=
    GreatCircle.arc_congr _ _ _ _ hpoint
  rw [getDistance_eq, getDistance_eq, harc]

open Classical in
/-- get_distance as validate_loc uses it: on which side of the threshold it lies. -/
def thresholdDistance (l₁ l₂ : Loc) : ℚ :=
  if (locDistanceThrs : ℝ) ≤ getDistance l₁ l₂ then locDistanceThrs else 0

/-- The position has angles that geoclue and the bus may give. -/
def Loc.inRange (l : Loc) : Bool := |l.lat| < 90 && |l.lon| < 180

def Far (new old : Loc) : Prop := (locDistanceThrs : ℝ) ≤ getDistance new old

theorem not_far_self : ¬Far l l := by
  unfold Far
  rw [getDistance_self, not_le]
  exact_mod_cast (by decide : (0 : ℚ) < locDistanceThrs)

theorem validateLoc_threshold (st : State) :
    validateLoc thresholdDistance st l = true ↔ l.inRange = true ∧ Far l st.currentLoc := by
  have hside : (locDistanceThrs ≤ thresholdDistance l st.currentLoc) ↔ Far l st.currentLoc := by
    unfold thresholdDistance
    by_cases hfar : (locDistanceThrs : ℝ) ≤ getDistance l st.currentLoc
    · rw [if_pos hfar]
      exact ⟨fun _ => hfar, fun _ => le_rfl⟩
    · rw [if_neg hfar]
      exact ⟨fun h => absurd h (by decide), fun h => absurd h hfar⟩
  unfold validateLoc Loc.inRange
  rw [Bool.and_eq_true_iff, decide_eq_true_iff, hside]

end
end Clight
