import Clight.Backlight
import Clight.MonOverride
import Mathlib.Order.Interval.Set.Defs

/-! The value of a curve stays between its end points, and every writer of a curve keeps
its points fractions: loading, the fallback to the defaults and both D-Bus methods. -/
namespace Clight

/-! ### Curves of fractions -/

theorem clamp_mem {max min : ℚ} (h : min ≤ max) (value : ℚ) :
    clamp value max min ∈ Set.Icc min max := by
  unfold clamp
  split_ifs with hmax hmin
  · exact ⟨h, le_rfl⟩
  · exact ⟨le_rfl, h⟩
  · exact ⟨not_lt.mp hmin, not_lt.mp hmax⟩

namespace Curve

theorem bottom_le_top (c : Curve) : c.bottom ≤ c.top := by
  unfold bottom top
  split_ifs with h
  · exact h.le
  · exact not_lt.mp h

/-- All the points of a curve are fractions. -/
def Fractions (c : Curve) : Prop := ∀ p ∈ c.points, p ∈ Set.Icc (0 : ℚ) 1

theorem Fractions.first {c : Curve} (h : c.Fractions) : c.first ∈ Set.Icc (0 : ℚ) 1 :=
  h _ (List.head_mem _)

theorem Fractions.last {c : Curve} (h : c.Fractions) : c.last ∈ Set.Icc (0 : ℚ) 1 :=
  h _ (List.getLast_mem _)

/-- What lies between two end points that are fractions is a fraction. -/
theorem mem_of_ends {c : Curve} (hfirst : c.first ∈ Set.Icc (0 : ℚ) 1) (hlast : c.last ∈ Set.Icc (0 : ℚ) 1)
    {q : ℚ} (hq : q ∈ Set.Icc c.bottom c.top) : q ∈ Set.Icc (0 : ℚ) 1 := by
  have hbottom : 0 ≤ c.bottom := by
    unfold bottom
    split_ifs
    · exact hfirst.1
    · exact hlast.1
  have htop : c.top ≤ 1 := by
    unfold top
    split_ifs
    · exact hlast.2
    · exact hfirst.2
  exact ⟨hbottom.trans hq.1, hq.2.trans htop⟩

theorem Fractions.of_mem {c : Curve} (h : c.Fractions) {q : ℚ}
    (hq : q ∈ Set.Icc c.bottom c.top) : q ∈ Set.Icc (0 : ℚ) 1 :=
  mem_of_ends h.first h.last hq

theorem Fractions.refit {c : Curve} (h : c.Fractions) (fit : Fit) {pts : List ℚ}
    (hpts : ∀ p ∈ pts, p ∈ Set.Icc (0 : ℚ) 1) : (c.refit fit pts).Fractions := by
  unfold Curve.refit
  split_ifs
  · exact hpts
  · exact h

end Curve

theorem getValueFromCurve_mem (perc : ℚ) (c : Curve) :
    getValueFromCurve perc c ∈ Set.Icc c.bottom c.top :=
  clamp_mem c.bottom_le_top _

/-- The compensation for the content of the screen stays within the curve too. -/
theorem newBacklight_mem (curve : Curve) (ambientBr screenBr contrib : ℚ) :
    Backlight.newBacklight curve ambientBr screenBr contrib ∈ Set.Icc curve.bottom curve.top := by
  unfold Backlight.newBacklight
  dsimp only
  split_ifs
  · exact getValueFromCurve_mem ambientBr curve
  · exact clamp_mem curve.bottom_le_top _

/-- All the curves of the sensor, those of single monitors included, are of fractions. -/
structure SensorConf.Fractions (sens : SensorConf) : Prop where
  default : ∀ ac, (sens.defaultCurve ac).Fractions
  specific : ∀ e ∈ sens.specificCurves.entries, ∀ ac, (e.2 ac).Fractions

/-! ### The writers of curves -/

theorem checkPoints_fractions {table : AcState → List ℚ} {h : ∀ ac, (table ac).length = defSizePoints}
    (hin : ∀ ac, ∀ p ∈ table ac, 0 ≤ p ∧ p ≤ 1) (ac : AcState) (c : Curve) :
    (checkPoints table h ac c).Fractions := by
  unfold checkPoints
  split_ifs with hany
  · exact hin ac
  · intro p hp
    have hout : ¬ (p < 0 ∨ 1 < p) := fun hout =>
      hany (List.any_eq_true.mpr ⟨p, hp, decide_eq_true hout⟩)
    obtain ⟨hlow, hhigh⟩ := not_or.mp hout
    exact ⟨not_lt.mp hlow, not_lt.mp hhigh⟩

/-- What mapCurves stores for a monitor comes from what was stored for it. -/
theorem mem_mapCurves {f : (AcState → Curve) → AcState → Curve}
    {curves : AList fun _ : MonId => AcState → Curve} {e : Sigma fun _ : MonId => AcState → Curve}
    (he : e ∈ (mapCurves f curves).entries) : ∃ e' ∈ curves.entries, e.2 = f e'.2 := by
  obtain ⟨e', he', rfl⟩ := List.mem_map.mp he
  exact ⟨e', he', rfl⟩

/-- Whatever was loaded, the curves are of fractions after their check. -/
theorem checkOverrideConf_fractions (sens : SensorConf) :
    (checkOverrideConf (checkSensConf sens)).Fractions where
  default ac := checkPoints_fractions blDefaultCurve_mem ac _
  specific e he ac := by
    obtain ⟨e', -, he⟩ := mem_mapCurves he
    rw [he]
    exact checkPoints_fractions blDefaultCurve_mem ac _

theorem checkBl_fractions {cf : Conf} (hbl : cf.checkBl.bl.disabled = false) :
    cf.checkBl.sens.Fractions := by
  unfold Conf.checkBl at hbl ⊢
  -- the check of a section that is disabled does not enable it
  split_ifs at hbl ⊢ with hdisabled
  · rw [hdisabled] at hbl
    cases hbl
  · exact checkOverrideConf_fractions cf.sens

/-- A section checked after that of the sensor leaves both parts of BACKLIGHT alone. -/
def SameBl (cf cf' : Conf) : Prop := cf'.bl = cf.bl ∧ cf'.sens = cf.sens

theorem SameBl.trans {cf cf' cf'' : Conf} (h : SameBl cf cf') (h' : SameBl cf' cf'') :
    SameBl cf cf'' :=
  ⟨h'.1.trans h.1, h'.2.trans h.2⟩

theorem SameBl.ite {cf cf' : Conf} {disabled : Bool} (h : SameBl cf cf') :
    SameBl cf (if disabled then cf else cf') := by
  split
  · exact ⟨rfl, rfl⟩
  · exact h

theorem sameBl_checks (cf : Conf) :
    SameBl cf cf.checkKbd.checkGamma.checkDay.checkDim.checkDpms.checkScreen.checkInh := by
  have hkbd (cf : Conf) : SameBl cf cf.checkKbd := .ite ⟨rfl, rfl⟩
  have hgamma (cf : Conf) : SameBl cf cf.checkGamma := .ite ⟨rfl, rfl⟩
  have hday (cf : Conf) : SameBl cf cf.checkDay := ⟨rfl, rfl⟩
  have hdim (cf : Conf) : SameBl cf cf.checkDim := .ite ⟨rfl, rfl⟩
  have hdpms (cf : Conf) : SameBl cf cf.checkDpms := .ite ⟨rfl, rfl⟩
  have hscreen (cf : Conf) : SameBl cf cf.checkScreen := .ite ⟨rfl, rfl⟩
  have hinh (cf : Conf) : SameBl cf cf.checkInh := ⟨rfl, rfl⟩
  have hfirst := ((hkbd cf).trans (hgamma _)).trans (hday _)
  exact hfirst.trans (((hdim _).trans (hdpms _)).trans ((hscreen _).trans (hinh _)))

theorem checkConf_fractions {f : Option Features} {cf : Conf}
    (hbl : (checkConf f cf).bl.disabled = false) : (checkConf f cf).sens.Fractions := by
  unfold checkConf at hbl ⊢
  obtain ⟨hsame, hsens⟩ := sameBl_checks
    (if cf.wizard then wizardConf cf else checkClightdFeatures f cf).checkResumedelay.checkBl
  rw [hsens]
  rw [hsame] at hbl
  exact checkBl_fractions hbl

theorem initCurves_fractions (fit : Fit) {cf : Conf} (h : cf.sens.Fractions) :
    (initCurves fit cf).sens.Fractions where
  default ac := h.default ac
  specific e he ac := by
    obtain ⟨e', he', hcurve⟩ := mem_mapCurves he
    rw [hcurve]
    exact h.specific e' he' ac

theorem overridePointsOk_mem {pts : List ℚ} (h : overridePointsOk pts = true) :
    ∀ p ∈ pts, p ∈ Set.Icc (0 : ℚ) 1 := by
  intro p hp
  exact pointOk_iff.mp (List.all_eq_true.mp (Bool.and_eq_true_iff.mp h).2 p hp)

theorem methodSetMonOverride_fractions {fit : Fit} {sn : MonId} {acPoints battPoints : List ℚ}
    {sens sens' : SensorConf} (h : sens.Fractions)
    (hset : methodSetMonOverride fit sn acPoints battPoints sens = .ok sens') :
    sens'.Fractions := by
  unfold methodSetMonOverride at hset
  split_ifs at hset with hok hne hmem
  · obtain rfl := Except.ok.inj hset
    refine ⟨h.default, ?_⟩
    intro e he ac
    obtain ⟨hac, hbatt⟩ := Bool.and_eq_true_iff.mp hok.1
    rcases List.mem_cons.mp he with rfl | he
    · cases ac with
      | onAc => exact overridePointsOk_mem hac
      | onBattery => exact overridePointsOk_mem hbatt
    · exact h.specific e ((List.kerase_sublist _ _).mem he) ac
  · obtain rfl := Except.ok.inj hset
    exact ⟨h.default, fun e he => h.specific e ((List.kerase_sublist _ _).mem he)⟩

/-- A request that validate_curve accepts has points, and they are fractions. -/
theorem validateCurve_mem {st : State} {up : CurveUpd} {pts : List ℚ}
    (h : (validateCurve st up).2 = true)
    (hpts : (validateCurve st up).1.regressionPoints = some pts) :
    ∀ p ∈ pts, p ∈ Set.Icc (0 : ℚ) 1 := by
  have hup : up.regressionPoints = some pts := by
    unfold validateCurve at hpts
    split_ifs at hpts with hstate
    · exact hpts
    · exact hpts
  unfold validateCurve at h
  intro p hp
  have hall : pts.all pointOk = true := by
    split_ifs at h <;> simp_all
  exact pointOk_iff.mp (List.all_eq_true.mp hall p hp)

end Clight
