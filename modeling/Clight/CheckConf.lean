import Clight.Opts
import Mathlib.Algebra.Order.Group.Abs
import Mathlib.Tactic.NormNum

/-! opts.c: check_conf, which puts wrong options back to their default values. -/
namespace Clight

/-- The optional features that the introspection of Clightd lists. -/
structure Features where
  gamma : Bool
  screen : Bool
  dpms : Bool

/-- Disables what Clightd was built without. Without an answer nothing is known. -/
def checkClightdFeatures (f : Option Features) (cf : Conf) : Conf :=
  match f with
  | none => cf
  | some f =>
    { cf with
      gamma := { cf.gamma with disabled := cf.gamma.disabled || !f.gamma }
      screen := { cf.screen with disabled := cf.screen.disabled || !f.screen }
      dpms := { cf.dpms with disabled := cf.dpms.disabled || !f.dpms } }

/-- Wizard mode: everything is disabled except backlight. -/
def wizardConf (cf : Conf) : Conf :=
  { cf with
    bl := { cf.bl with noAutoCalib := true }
    kbd := { cf.kbd with disabled := true }
    gamma := { cf.gamma with disabled := true }
    dim := { cf.dim with disabled := true }
    dpms := { cf.dpms with disabled := true }
    screen := { cf.screen with disabled := true } }

/-! ### Values with a range -/

def checkTransStep (step : ℚ) : ℚ := if step ≤ 0 ∨ 1 ≤ step then 5/100 else step
def checkTransTimeout (timeout : ℤ) : ℤ := if timeout ≤ 0 then 30 else timeout
def checkCaptures (n : ℤ) : ℤ := if n < 1 ∨ 20 < n then 5 else n
def checkTemp (dflt temp : ℤ) : ℤ := if temp < 1000 ∨ 10000 < temp then dflt else temp
def checkFraction (dflt q : ℚ) : ℚ := if q < 0 ∨ 1 < q then dflt else q

def checkCoord (limit undefined q : ℚ) : ℚ := if limit < |q| ∧ q ≠ undefined then undefined else q

/-- One point out of [0, 1] and the table of default points replaces them all. -/
def checkPoints (table : AcState → List ℚ) (h : ∀ ac, (table ac).length = defSizePoints)
    (ac : AcState) (c : Curve) : Curve :=
  if c.points.any fun p => p < 0 ∨ 1 < p then
    { defaultCurve table h ac with fitParameters := c.fitParameters }
  else c

def checkCurvePoints (table : AcState → List ℚ) (h : ∀ ac, (table ac).length = defSizePoints)
    (curve : AcState → Curve) : AcState → Curve :=
  fun ac => checkPoints table h ac (curve ac)

/-! ### Event times -/

/-- A number of at most two digits: the second one is read while it can still fit. -/
def getNumber (max : ℕ) (s : List Char) : Option (List Char) :=
  match s.dropWhile (· = ' ') with
  | [] => none
  | [c] => if c.isDigit then some [] else none
  | c :: d :: s =>
    let val := c.toNat - '0'.toNat
    if ¬ c.isDigit then none
    -- the C library reads a second digit only where it can belong to the number
    else if val * 10 ≤ max ∧ d.isDigit then
      if val * 10 + (d.toNat - '0'.toNat) ≤ max then some s else none
    else some (d :: s)

/-- strptime for "%R", hours and minutes: what follows them, if they are there. -/
def strptimeR (s : List Char) : Option (List Char) :=
  match getNumber 23 s with
  | some (':' :: s) => getNumber 59 s
  | _ => none

def checkEvent (e : EventTime) : EventTime :=
  if e.1 ≠ [] ∧ (strptimeR e.1).isNone then ⟨[], Nat.zero_le 9⟩ else e

/-! ### Sections -/

def checkBlConf (bl : BlConf) : BlConf :=
  { bl with
    smooth := { bl.smooth with
      transStep := checkTransStep bl.smooth.transStep
      transTimeout := checkTransTimeout bl.smooth.transTimeout }
    shutterThreshold :=
      if bl.shutterThreshold < 0 ∨ 1 ≤ bl.shutterThreshold then 0 else bl.shutterThreshold
    syncMonitorsDelay :=
      if bl.syncMonitorsDelay < 0 ∨ 10 < bl.syncMonitorsDelay then 0 else bl.syncMonitorsDelay }

def checkSensConf (sens : SensorConf) : SensorConf :=
  { sens with
    numCaptures := fun ac => checkCaptures (sens.numCaptures ac)
    defaultCurve := checkCurvePoints blDefaultCurve blDefaultCurve_length sens.defaultCurve }

def mapCurves (f : (AcState → Curve) → AcState → Curve)
    (curves : AList fun _ : MonId => AcState → Curve) : AList fun _ : MonId => AcState → Curve where
  entries := curves.entries.map (.map id fun _ => f)
  nodupKeys := curves.nodupKeys.map₂ _ _

def checkOverrideConf (sens : SensorConf) : SensorConf :=
  { sens with
    specificCurves :=
      mapCurves (checkCurvePoints blDefaultCurve blDefaultCurve_length) sens.specificCurves }

def checkKbdConf (kbd : KbdConf) : KbdConf :=
  { kbd with curve := checkCurvePoints kbdDefaultCurve kbdDefaultCurve_length kbd.curve }

def checkGammaConf (bl : BlConf) (gamma : GammaConf) : GammaConf :=
  { gamma with
    -- without BACKLIGHT there is no ambient brightness to follow
    ambientGamma := gamma.ambientGamma && !bl.disabled
    temp := fun d => match d with
      | .day => checkTemp 6500 (gamma.temp .day)
      | .night => checkTemp 4000 (gamma.temp .night)
    transStep := if gamma.transStep ≤ 0 then 50 else gamma.transStep
    transTimeout := if gamma.transTimeout ≤ 0 then 300 else gamma.transTimeout }

def checkDaytimeConf (day : DaytimeConf) : DaytimeConf :=
  { day with
    eventDuration := if day.eventDuration ≤ 0 then 30 * 60 else day.eventDuration
    loc :=
      { lat := checkCoord 90 latUndefined day.loc.lat
        lon := checkCoord 180 lonUndefined day.loc.lon }
    dayEvents := fun e => checkEvent (day.dayEvents e) }

def checkDimConf (bl : BlConf) (dim : DimmerConf) : DimmerConf :=
  { dim with
    disabled := dim.disabled || bl.disabled
    dimmedPct := checkFraction (2/10) dim.dimmedPct
    smooth := fun t => { dim.smooth t with
      transStep := checkTransStep (dim.smooth t).transStep
      transTimeout := checkTransTimeout (dim.smooth t).transTimeout } }

/-- The screen is switched off after it was dimmed. -/
def checkDpmsConf (dim : DimmerConf) (dpms : DpmsConf) : DpmsConf :=
  if dim.disabled then dpms
  else { dpms with timeout := fun ac => match ac with
    | .onAc => if dpms.timeout .onAc ≤ dim.timeout .onAc then 900 else dpms.timeout .onAc
    | .onBattery =>
      if dpms.timeout .onBattery ≤ dim.timeout .onBattery then 300 else dpms.timeout .onBattery }

def checkScreenConf (bl : BlConf) (screen : ScreenConf) : ScreenConf :=
  { screen with
    disabled := screen.disabled || bl.disabled
    contrib := checkFraction (2/10) screen.contrib }

def checkInhConf (dim : DimmerConf) (dpms : DpmsConf) (inh : InhConf) : InhConf :=
  if dim.disabled && dpms.disabled then
    { inh with disabled := true, inhibitDocked := false, inhibitPm := false }
  else inh

/-! ### check_conf -/

namespace Conf

def checkResumedelay (cf : Conf) : Conf :=
  { cf with resumedelay := if cf.resumedelay < 0 ∨ 30 < cf.resumedelay then 0 else cf.resumedelay }

/-- The sensor belongs to BACKLIGHT. -/
def checkBl (cf : Conf) : Conf :=
  if cf.bl.disabled then cf
  else { cf with bl := checkBlConf cf.bl, sens := checkOverrideConf (checkSensConf cf.sens) }

def checkKbd (cf : Conf) : Conf :=
  if cf.kbd.disabled then cf else { cf with kbd := checkKbdConf cf.kbd }

def checkGamma (cf : Conf) : Conf :=
  if cf.gamma.disabled then cf else { cf with gamma := checkGammaConf cf.bl cf.gamma }

def checkDay (cf : Conf) : Conf := { cf with day := checkDaytimeConf cf.day }

def checkDim (cf : Conf) : Conf :=
  if cf.dim.disabled then cf else { cf with dim := checkDimConf cf.bl cf.dim }

def checkDpms (cf : Conf) : Conf :=
  if cf.dpms.disabled then cf else { cf with dpms := checkDpmsConf cf.dim cf.dpms }

def checkScreen (cf : Conf) : Conf :=
  if cf.screen.disabled then cf else { cf with screen := checkScreenConf cf.bl cf.screen }

def checkInh (cf : Conf) : Conf := { cf with inh := checkInhConf cf.dim cf.dpms cf.inh }

end Conf

/-- check_conf, where `f` is what the introspection of Clightd answers. -/
def checkConf (f : Option Features) (cf : Conf) : Conf :=
  (if cf.wizard then wizardConf cf else checkClightdFeatures f cf).checkResumedelay.checkBl.checkKbd
    |>.checkGamma.checkDay.checkDim.checkDpms.checkScreen.checkInh

/-! ### Checked configurations -/

/-- Every section that is in use is what its own check makes of it. -/
structure Checked (cf : Conf) : Prop where
  resumedelay : 0 ≤ cf.resumedelay ∧ cf.resumedelay ≤ 30
  bl : cf.bl.disabled = false → checkBlConf cf.bl = cf.bl
  sens : cf.bl.disabled = false → checkOverrideConf (checkSensConf cf.sens) = cf.sens
  kbd : cf.kbd.disabled = false → checkKbdConf cf.kbd = cf.kbd
  gamma : cf.gamma.disabled = false → checkGammaConf cf.bl cf.gamma = cf.gamma
  day : checkDaytimeConf cf.day = cf.day
  dim : cf.dim.disabled = false → checkDimConf cf.bl cf.dim = cf.dim
  dpms : cf.dpms.disabled = false → checkDpmsConf cf.dim cf.dpms = cf.dpms
  screen : cf.screen.disabled = false → checkScreenConf cf.bl cf.screen = cf.screen
  inh : checkInhConf cf.dim cf.dpms cf.inh = cf.inh

/-- A check that changes nothing when the section is in use changes nothing at all. -/
theorem ite_eq_of_checked {cf cf' : Conf} {disabled : Bool} (h : disabled = false → cf' = cf) :
    (if disabled then cf else cf') = cf := by
  cases disabled with
  | true => rfl
  | false => exact h rfl

theorem Checked.checkConf_eq {f : Option Features} {cf : Conf} (h : Checked cf)
    (hwizard : cf.wizard = false) (hf : checkClightdFeatures f cf = cf) : checkConf f cf = cf := by
  have hdelay : cf.checkResumedelay = cf := by
    have hin : ¬ (cf.resumedelay < 0 ∨ 30 < cf.resumedelay) := by
      have := h.resumedelay
      omega
    unfold Conf.checkResumedelay
    rw [if_neg hin]
  have hbl : cf.checkBl = cf := ite_eq_of_checked fun hd => by rw [h.bl hd, h.sens hd]
  have hkbd : cf.checkKbd = cf := ite_eq_of_checked fun hd => by rw [h.kbd hd]
  have hgamma : cf.checkGamma = cf := ite_eq_of_checked fun hd => by rw [h.gamma hd]
  have hday : cf.checkDay = cf := by
    unfold Conf.checkDay
    rw [h.day]
  have hdim : cf.checkDim = cf := ite_eq_of_checked fun hd => by rw [h.dim hd]
  have hdpms : cf.checkDpms = cf := ite_eq_of_checked fun hd => by rw [h.dpms hd]
  have hscreen : cf.checkScreen = cf := ite_eq_of_checked fun hd => by rw [h.screen hd]
  have hinh : cf.checkInh = cf := by
    unfold Conf.checkInh
    rw [h.inh]
  unfold checkConf
  rw [hwizard, hf, if_neg Bool.false_ne_true, hdelay, hbl, hkbd, hgamma, hday, hdim, hdpms, hscreen,
    hinh]

/-! ### Default values -/

theorem checkPoints_default (table : AcState → List ℚ)
    (h : ∀ ac, (table ac).length = defSizePoints)
    (hin : ∀ ac, ∀ p ∈ table ac, 0 ≤ p ∧ p ≤ 1) (ac : AcState) :
    checkPoints table h ac (defaultCurve table h ac) = defaultCurve table h ac := by
  unfold checkPoints
  apply if_neg
  intro hany
  obtain ⟨p, hp, hout⟩ := List.any_eq_true.mp hany
  have hpin := hin ac p hp
  rcases of_decide_eq_true hout with hlow | hhigh
  · exact absurd hlow (not_lt.mpr hpin.1)
  · exact absurd hhigh (not_lt.mpr hpin.2)

theorem blDefaultCurve_mem (ac : AcState) : ∀ p ∈ blDefaultCurve ac, 0 ≤ p ∧ p ≤ 1 := by
  cases ac <;> simp only [blDefaultCurve, List.forall_mem_cons] <;> norm_num

theorem kbdDefaultCurve_mem (ac : AcState) : ∀ p ∈ kbdDefaultCurve ac, 0 ≤ p ∧ p ≤ 1 := by
  cases ac <;> simp only [kbdDefaultCurve, List.forall_mem_cons] <;> norm_num

theorem checkSensConf_default : checkSensConf Conf.default.sens = Conf.default.sens := by
  have hcurve : checkCurvePoints blDefaultCurve blDefaultCurve_length Conf.default.sens.defaultCurve
      = Conf.default.sens.defaultCurve := by
    funext ac
    exact checkPoints_default _ _ blDefaultCurve_mem ac
  unfold checkSensConf
  rw [hcurve]
  norm_num [Conf.default, checkCaptures]

theorem checkKbdConf_default : checkKbdConf Conf.default.kbd = Conf.default.kbd := by
  have hcurve : checkCurvePoints kbdDefaultCurve kbdDefaultCurve_length Conf.default.kbd.curve
      = Conf.default.kbd.curve := by
    funext ac
    exact checkPoints_default _ _ kbdDefaultCurve_mem ac
  unfold checkKbdConf
  rw [hcurve]

/-- Every default value passes its own check. -/
theorem default_checked : Checked Conf.default where
  resumedelay := by decide
  bl _ := by norm_num [checkBlConf, Conf.default, checkTransStep, checkTransTimeout]
  sens _ := by rw [checkSensConf_default]; rfl
  kbd _ := checkKbdConf_default
  gamma _ := by
    have htemp : (fun d => match d with
        | .day => checkTemp 6500 (Conf.default.gamma.temp .day)
        | .night => checkTemp 4000 (Conf.default.gamma.temp .night)) = Conf.default.gamma.temp := by
      funext d
      cases d <;> decide
    unfold checkGammaConf
    rw [htemp]
    rfl
  day := by norm_num [checkDaytimeConf, Conf.default, checkCoord, checkEvent]
  dim _ := by norm_num [checkDimConf, Conf.default, checkTransStep, checkTransTimeout, checkFraction]
  dpms _ := by
    have htimeout : (fun ac => match ac with
        | .onAc => if Conf.default.dpms.timeout .onAc ≤ Conf.default.dim.timeout .onAc then 900
          else Conf.default.dpms.timeout .onAc
        | .onBattery =>
          if Conf.default.dpms.timeout .onBattery ≤ Conf.default.dim.timeout .onBattery then 300
          else Conf.default.dpms.timeout .onBattery) = Conf.default.dpms.timeout := by
      funext ac
      cases ac <;> decide
    unfold checkDpmsConf
    rw [htimeout]
    rfl
  screen _ := by norm_num [checkScreenConf, Conf.default, checkFraction]
  inh := rfl

end Clight
