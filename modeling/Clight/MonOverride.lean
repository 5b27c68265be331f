import Clight.CheckConf
import Clight.Config
import Clight.Curve

/-! backlight.c: the fits of the configured curves, and the API by which the curves of
single monitors are set. -/
namespace Clight

def Curve.polynomialfits (fit : Fit) (curve : AcState → Curve) : AcState → Curve :=
  fun ac => (curve ac).polynomialfit fit

/-- init_curves, which BACKLIGHT runs at its start except in wizard mode. -/
def initCurves (fit : Fit) (cf : Conf) : Conf :=
  { cf with sens := { cf.sens with
    defaultCurve := Curve.polynomialfits fit cf.sens.defaultCurve
    specificCurves := mapCurves (Curve.polynomialfits fit) cf.sens.specificCurves } }

/-- The errors that the Set method replies. -/
inductive OverrideErr | einval | enoent
  deriving DecidableEq

/-- One array of the request: not too long, and no point is out of range. -/
def overridePointsOk {α : Type} [Zero α] [One α] [LT α] [DecidableLT α] (pts : List α) : Bool :=
  pts.length ≤ maxSizePoints && pts.all pointOk

section points
variable {α β : Type} [Zero α] [One α] [LT α] [DecidableLT α] [Zero β] [One β] [LT β] [DecidableLT β]

theorem all_pointOk_map {g : α → β} (h : ∀ p, pointOk (g p) = pointOk p) (pts : List α) :
    (pts.map g).all pointOk = pts.all pointOk := by
  rw [List.all_map]
  congr 1
  funext p
  exact h p

/-- Points of the same sides of the check pass it alike. -/
theorem overridePointsOk_map {g : α → β} (h : ∀ p, pointOk (g p) = pointOk p) (pts : List α) :
    overridePointsOk (pts.map g) = overridePointsOk pts := by
  unfold overridePointsOk
  rw [List.length_map, all_pointOk_map h]

end points

/-- method_set_mon_override. Two empty arrays remove the curves of the monitor. -/
def methodSetMonOverride (fit : Fit) (sn : MonId) (acPoints battPoints : List ℚ)
    (sens : SensorConf) : Except OverrideErr SensorConf :=
  if h : (overridePointsOk acPoints && overridePointsOk battPoints) = true ∧
      acPoints.length = battPoints.length then
    if hne : 0 < acPoints.length then
      have hok := Bool.and_eq_true_iff.mp h.1
      have hac := of_decide_eq_true (Bool.and_eq_true_iff.mp hok.1).1
      have hbatt := of_decide_eq_true (Bool.and_eq_true_iff.mp hok.2).1
      let curve := overrideCurves ⟨acPoints, hne, hac⟩ ⟨battPoints, h.2 ▸ hne, hbatt⟩
      .ok { sens with
        specificCurves := sens.specificCurves.insert sn (Curve.polynomialfits fit curve) }
    else if sn ∈ sens.specificCurves then
      .ok { sens with specificCurves := sens.specificCurves.erase sn }
    else .error .enoent
  -- also two arrays of different lengths
  else .error .einval

end Clight
