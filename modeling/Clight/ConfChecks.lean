import Clight.CheckConf

/-! When check_conf resets nothing: the ranges that its checks test, section by section, and the
sections that it disables. -/
namespace Clight

/-- A value that is reset when it is bad is kept if and only if it is not. -/
theorem reset_eq_iff {α : Type} (bad : α → Prop) [DecidablePred bad] {dflt : α} (hd : ¬ bad dflt)
    (q : α) : (if bad q then dflt else q) = q ↔ ¬ bad q := by
  by_cases hq : bad q
  · rw [if_pos hq]
    refine ⟨fun heq => absurd (heq ▸ hq) hd, fun hgood => absurd hq hgood⟩
  · rw [if_neg hq]
    exact ⟨fun _ => hq, fun _ => rfl⟩

/-! ### Values with a range -/

theorem checkTransStep_eq_iff (step : ℚ) : checkTransStep step = step ↔ 0 < step ∧ step < 1 := by
  have hdflt : ¬ ((5/100 : ℚ) ≤ 0 ∨ (1 : ℚ) ≤ 5/100) := by norm_num
  have hreset := reset_eq_iff (fun q : ℚ => q ≤ 0 ∨ 1 ≤ q) hdflt step
  rw [not_or, not_le, not_le] at hreset
  exact hreset

theorem checkTransTimeout_eq_iff (timeout : ℤ) : checkTransTimeout timeout = timeout ↔ 0 < timeout := by
  have hreset := reset_eq_iff (fun t : ℤ => t ≤ 0) (show ¬ (30 : ℤ) ≤ 0 by decide) timeout
  rw [not_le] at hreset
  exact hreset

theorem checkCaptures_eq_iff (n : ℤ) : checkCaptures n = n ↔ 1 ≤ n ∧ n ≤ 20 := by
  have hdflt : ¬ ((5 : ℤ) < 1 ∨ (20 : ℤ) < 5) := by decide
  have hreset := reset_eq_iff (fun n : ℤ => n < 1 ∨ 20 < n) hdflt n
  rw [not_or, not_lt, not_lt] at hreset
  exact hreset

theorem checkTemp_eq_iff {dflt : ℤ} (hd : 1000 ≤ dflt ∧ dflt ≤ 10000) (temp : ℤ) :
    checkTemp dflt temp = temp ↔ 1000 ≤ temp ∧ temp ≤ 10000 := by
  have hdflt : ¬ (dflt < 1000 ∨ 10000 < dflt) := by omega
  have hreset := reset_eq_iff (fun t : ℤ => t < 1000 ∨ 10000 < t) hdflt temp
  rw [not_or, not_lt, not_lt] at hreset
  exact hreset

theorem checkFraction_eq_iff {dflt : ℚ} (hd : 0 ≤ dflt ∧ dflt ≤ 1) (q : ℚ) :
    checkFraction dflt q = q ↔ 0 ≤ q ∧ q ≤ 1 := by
  have hdflt : ¬ (dflt < 0 ∨ 1 < dflt) := by
    rw [not_or, not_lt, not_lt]
    exact hd
  have hreset := reset_eq_iff (fun q : ℚ => q < 0 ∨ 1 < q) hdflt q
  rw [not_or, not_lt, not_lt] at hreset
  exact hreset

theorem checkCoord_eq_iff (limit undefined q : ℚ) :
    checkCoord limit undefined q = q ↔ |q| ≤ limit ∨ q = undefined := by
  have hdflt : ¬ (limit < |undefined| ∧ undefined ≠ undefined) := fun hbad => hbad.2 rfl
  have hreset := reset_eq_iff (fun q : ℚ => limit < |q| ∧ q ≠ undefined) hdflt q
  rw [not_and_or, not_lt, not_not] at hreset
  exact hreset

theorem checkEvent_eq_iff (e : EventTime) :
    checkEvent e = e ↔ e.1 = [] ∨ (strptimeR e.1).isSome = true := by
  have hdflt : ¬ ((⟨[], Nat.zero_le 9⟩ : EventTime).1 ≠ [] ∧
      (strptimeR (⟨[], Nat.zero_le 9⟩ : EventTime).1).isNone = true) := fun hbad => hbad.1 rfl
  have hreset := reset_eq_iff (fun e : EventTime => e.1 ≠ [] ∧ (strptimeR e.1).isNone = true) hdflt e
  rw [not_and_or, not_not, Bool.not_eq_true, Option.isNone_eq_false_iff] at hreset
  exact hreset

/-- All points of a curve are in [0, 1]. -/
def Curve.InRange (c : Curve) : Prop := ∀ p ∈ c.points, 0 ≤ p ∧ p ≤ 1

theorem Curve.inRange_iff (c : Curve) :
    c.InRange ↔ ¬ (c.points.any fun p => p < 0 ∨ 1 < p) = true := by
  rw [List.any_eq_true]
  constructor
  · rintro hin ⟨p, hp, hout⟩
    rcases of_decide_eq_true hout with hlow | hhigh
    · exact absurd hlow (not_lt.mpr (hin p hp).1)
    · exact absurd hhigh (not_lt.mpr (hin p hp).2)
  · intro hnone p hp
    constructor
    · exact not_lt.mp fun hlow => hnone ⟨p, hp, decide_eq_true (.inl hlow)⟩
    · exact not_lt.mp fun hhigh => hnone ⟨p, hp, decide_eq_true (.inr hhigh)⟩

theorem checkPoints_eq_iff {table : AcState → List ℚ} (h : ∀ ac, (table ac).length = defSizePoints)
    (hin : ∀ ac, ∀ p ∈ table ac, 0 ≤ p ∧ p ≤ 1) (ac : AcState) (c : Curve) :
    checkPoints table h ac c = c ↔ c.InRange := by
  rw [c.inRange_iff]
  unfold checkPoints
  by_cases hany : (c.points.any fun p => p < 0 ∨ 1 < p) = true
  · rw [if_pos hany]
    refine ⟨fun heq => absurd hany ?_, fun hgood => absurd hany hgood⟩
    -- the default points are in range
    rw [← c.inRange_iff, ← heq]
    exact hin ac
  · rw [if_neg hany]
    exact ⟨fun _ => hany, fun _ => rfl⟩

theorem checkCurvePoints_eq_iff {table : AcState → List ℚ}
    (h : ∀ ac, (table ac).length = defSizePoints) (hin : ∀ ac, ∀ p ∈ table ac, 0 ≤ p ∧ p ≤ 1)
    (curve : AcState → Curve) :
    checkCurvePoints table h curve = curve ↔ ∀ ac, (curve ac).InRange := by
  rw [funext_iff]
  exact forall_congr' fun ac => checkPoints_eq_iff h hin ac (curve ac)

/-! ### Sections -/

def BlConf.InRange (bl : BlConf) : Prop :=
  (0 < bl.smooth.transStep ∧ bl.smooth.transStep < 1) ∧ 0 < bl.smooth.transTimeout ∧
    (0 ≤ bl.shutterThreshold ∧ bl.shutterThreshold < 1) ∧
    0 ≤ bl.syncMonitorsDelay ∧ bl.syncMonitorsDelay ≤ 10

theorem checkBlConf_eq_iff (bl : BlConf) : checkBlConf bl = bl ↔ bl.InRange := by
  have hdark : ¬ ((0 : ℚ) < 0 ∨ (1 : ℚ) ≤ 0) := by norm_num
  have hnow : ¬ ((0 : ℤ) < 0 ∨ (10 : ℤ) < 0) := by decide
  have hshutter := reset_eq_iff (fun q : ℚ => q < 0 ∨ 1 ≤ q) hdark bl.shutterThreshold
  have hsync := reset_eq_iff (fun n : ℤ => n < 0 ∨ 10 < n) hnow bl.syncMonitorsDelay
  rw [not_or, not_lt, not_le] at hshutter
  rw [not_or, not_lt, not_lt] at hsync
  unfold BlConf.InRange
  rw [← checkTransStep_eq_iff, ← checkTransTimeout_eq_iff, ← hshutter, ← hsync]
  obtain ⟨disabled, timeout, ⟨noSmooth, step, transTimeout, fixed⟩, noAutoCalib, shutter, pause,
    capture, restore, sync⟩ := bl
  simp only [checkBlConf, BlConf.mk.injEq, BlSmooth.mk.injEq, true_and, and_true, and_assoc]

def SensorConf.InRange (sens : SensorConf) : Prop :=
  (∀ ac, 1 ≤ sens.numCaptures ac ∧ sens.numCaptures ac ≤ 20) ∧
    ∀ ac, (sens.defaultCurve ac).InRange

theorem checkSensConf_eq_iff (sens : SensorConf) : checkSensConf sens = sens ↔ sens.InRange := by
  have hcaptures : (fun ac => checkCaptures (sens.numCaptures ac)) = sens.numCaptures ↔
      ∀ ac, 1 ≤ sens.numCaptures ac ∧ sens.numCaptures ac ≤ 20 := by
    rw [funext_iff]
    exact forall_congr' fun ac => checkCaptures_eq_iff _
  have hcurve := checkCurvePoints_eq_iff blDefaultCurve_length blDefaultCurve_mem sens.defaultCurve
  unfold SensorConf.InRange
  rw [← hcaptures, ← hcurve]
  obtain ⟨captures, name, opts, curve, specific⟩ := sens
  simp only [checkSensConf, SensorConf.mk.injEq, true_and, and_true]

/-- The curves of single monitors have a check of their own. -/
theorem checkSens_eq_iff (sens : SensorConf) :
    checkOverrideConf (checkSensConf sens) = sens ↔ sens.InRange ∧
      mapCurves (checkCurvePoints blDefaultCurve blDefaultCurve_length) sens.specificCurves =
        sens.specificCurves := by
  rw [← checkSensConf_eq_iff]
  obtain ⟨captures, name, opts, curve, specific⟩ := sens
  simp only [checkOverrideConf, checkSensConf, SensorConf.mk.injEq, true_and, and_true]
  tauto

def GammaConf.InRange (gamma : GammaConf) : Prop :=
  (∀ d, 1000 ≤ gamma.temp d ∧ gamma.temp d ≤ 10000) ∧ 0 < gamma.transStep ∧ 0 < gamma.transTimeout

/-- Without BACKLIGHT the gamma temperature does not follow the ambient brightness. -/
theorem checkGammaConf_eq_iff (bl : BlConf) (gamma : GammaConf) :
    checkGammaConf bl gamma = gamma ↔
      gamma.InRange ∧ (bl.disabled = true → gamma.ambientGamma = false) := by
  have htemp : (checkGammaConf bl gamma).temp = gamma.temp ↔
      ∀ d, 1000 ≤ gamma.temp d ∧ gamma.temp d ≤ 10000 := by
    rw [funext_iff]
    refine forall_congr' fun d => ?_
    cases d with
    | day => exact checkTemp_eq_iff (by decide) _
    | night => exact checkTemp_eq_iff (by decide) _
  have hstep := reset_eq_iff (fun n : ℤ => n ≤ 0) (show ¬ (50 : ℤ) ≤ 0 by decide) gamma.transStep
  have htimeout := reset_eq_iff (fun n : ℤ => n ≤ 0) (show ¬ (300 : ℤ) ≤ 0 by decide)
    gamma.transTimeout
  have hambient : (gamma.ambientGamma && !bl.disabled) = gamma.ambientGamma ↔
      (bl.disabled = true → gamma.ambientGamma = false) := by
    cases gamma.ambientGamma <;> cases bl.disabled <;> decide
  rw [not_le] at hstep htimeout
  unfold GammaConf.InRange
  rw [← htemp, ← hstep, ← htimeout, ← hambient]
  obtain ⟨disabled, temp, noSmooth, step, timeout, long, ambient, restore⟩ := gamma
  simp only [checkGammaConf, GammaConf.mk.injEq, true_and, and_true]
  tauto

def Loc.InRange (l : Loc) : Prop :=
  (|l.lat| ≤ 90 ∨ l.lat = latUndefined) ∧ (|l.lon| ≤ 180 ∨ l.lon = lonUndefined)

/-- What check_daytime_conf and validate_evt accept. -/
def EventTime.IsTime (e : EventTime) : Prop := e.1 = [] ∨ (strptimeR e.1).isSome = true

def DaytimeConf.InRange (day : DaytimeConf) : Prop :=
  0 < day.eventDuration ∧ day.loc.InRange ∧ ∀ e, EventTime.IsTime (day.dayEvents e)

theorem checkDaytimeConf_eq_iff (day : DaytimeConf) : checkDaytimeConf day = day ↔ day.InRange := by
  have hduration := reset_eq_iff (fun n : ℤ => n ≤ 0) (show ¬ (30 * 60 : ℤ) ≤ 0 by decide)
    day.eventDuration
  have hevents : (fun e => checkEvent (day.dayEvents e)) = day.dayEvents ↔
      ∀ e, EventTime.IsTime (day.dayEvents e) := by
    rw [funext_iff]
    exact forall_congr' fun e => checkEvent_eq_iff _
  rw [not_le] at hduration
  unfold DaytimeConf.InRange Loc.InRange
  rw [← hduration, ← checkCoord_eq_iff, ← checkCoord_eq_iff, ← hevents]
  obtain ⟨events, duration, ⟨lat, lon⟩, offsets⟩ := day
  simp only [checkDaytimeConf, DaytimeConf.mk.injEq, Loc.mk.injEq, and_true]
  tauto

def DimmerConf.InRange (dim : DimmerConf) : Prop :=
  (0 ≤ dim.dimmedPct ∧ dim.dimmedPct ≤ 1) ∧
    ∀ t, (0 < (dim.smooth t).transStep ∧ (dim.smooth t).transStep < 1) ∧
      0 < (dim.smooth t).transTimeout

theorem checkDimConf_eq_iff (bl : BlConf) (dim : DimmerConf) :
    checkDimConf bl dim = dim ↔ dim.InRange ∧ (bl.disabled = true → dim.disabled = true) := by
  have hdisabled : (dim.disabled || bl.disabled) = dim.disabled ↔
      (bl.disabled = true → dim.disabled = true) := by
    cases dim.disabled <;> cases bl.disabled <;> decide
  have hsmooth : (fun t => { dim.smooth t with
      transStep := checkTransStep (dim.smooth t).transStep
      transTimeout := checkTransTimeout (dim.smooth t).transTimeout }) = dim.smooth ↔
        ∀ t, (0 < (dim.smooth t).transStep ∧ (dim.smooth t).transStep < 1) ∧
          0 < (dim.smooth t).transTimeout := by
    rw [funext_iff]
    refine forall_congr' fun t => ?_
    rw [← checkTransStep_eq_iff, ← checkTransTimeout_eq_iff]
    obtain ⟨noSmooth, step, timeout, fixed⟩ := dim.smooth t
    simp only [BlSmooth.mk.injEq, true_and, and_true]
  have hpct := checkFraction_eq_iff (show (0 : ℚ) ≤ 2/10 ∧ (2/10 : ℚ) ≤ 1 by norm_num) dim.dimmedPct
  unfold DimmerConf.InRange
  rw [← hpct, ← hsmooth, ← hdisabled]
  obtain ⟨disabled, pct, timeout, smooth⟩ := dim
  simp only [checkDimConf, DimmerConf.mk.injEq, true_and]
  tauto

/-- The timeouts that a DPMS timeout is reset to. -/
def dpmsDefault : AcState → ℤ
  | .onAc => 900
  | .onBattery => 300

/-- The screen is switched off after it was dimmed, unless the timeout is already the one that it
would be reset to. -/
def DpmsConf.After (dpms : DpmsConf) (dim : DimmerConf) : Prop :=
  dim.disabled = false → ∀ ac, dim.timeout ac < dpms.timeout ac ∨ dpms.timeout ac = dpmsDefault ac

theorem checkDpmsConf_eq_iff (dim : DimmerConf) (dpms : DpmsConf) :
    checkDpmsConf dim dpms = dpms ↔ dpms.After dim := by
  have hafter : ∀ ac, (if dpms.timeout ac ≤ dim.timeout ac then dpmsDefault ac else dpms.timeout ac) =
      dpms.timeout ac ↔ dim.timeout ac < dpms.timeout ac ∨ dpms.timeout ac = dpmsDefault ac := by
    intro ac
    split_ifs <;> omega
  unfold DpmsConf.After
  cases hd : dim.disabled with
  | true =>
    have hoff : checkDpmsConf dim dpms = dpms := if_pos hd
    exact ⟨fun _ h => absurd h (by decide), fun _ => hoff⟩
  | false =>
    have hon : checkDpmsConf dim dpms =
        { dpms with timeout := (checkDpmsConf dim dpms).timeout } := by
      unfold checkDpmsConf
      rw [hd]
      rfl
    have htimeout : (checkDpmsConf dim dpms).timeout = dpms.timeout ↔
        ∀ ac, dim.timeout ac < dpms.timeout ac ∨ dpms.timeout ac = dpmsDefault ac := by
      rw [funext_iff]
      refine forall_congr' fun ac => ?_
      rw [← hafter ac]
      unfold checkDpmsConf
      rw [hd]
      cases ac with
      | onAc => exact Iff.rfl
      | onBattery => exact Iff.rfl
    constructor
    · intro heq _
      exact htimeout.mp (congrArg DpmsConf.timeout heq)
    · intro h
      rw [hon, htimeout.mpr (h rfl)]

/-- check_screen_conf, which disables SCREEN without BACKLIGHT. -/
theorem checkScreenConf_eq_iff (bl : BlConf) (screen : ScreenConf) :
    checkScreenConf bl screen = screen ↔ (0 ≤ screen.contrib ∧ screen.contrib ≤ 1) ∧
      (bl.disabled = true → screen.disabled = true) := by
  have hdisabled : (screen.disabled || bl.disabled) = screen.disabled ↔
      (bl.disabled = true → screen.disabled = true) := by
    cases screen.disabled <;> cases bl.disabled <;> decide
  have hcontrib := checkFraction_eq_iff (show (0 : ℚ) ≤ 2/10 ∧ (2/10 : ℚ) ≤ 1 by norm_num)
    screen.contrib
  rw [← hcontrib, ← hdisabled]
  obtain ⟨disabled, contrib, timeout⟩ := screen
  simp only [checkScreenConf, ScreenConf.mk.injEq, and_true]
  tauto

/-! ### What is disabled -/

/-- The start of check_conf: what wizard mode or Clightd disables. -/
def checkBase (f : Option Features) (cf : Conf) : Conf :=
  if cf.wizard then wizardConf cf else checkClightdFeatures f cf

theorem wizardConf_eq_iff (cf : Conf) : wizardConf cf = cf ↔ cf.bl.noAutoCalib = true ∧
    cf.kbd.disabled = true ∧ cf.gamma.disabled = true ∧ cf.dim.disabled = true ∧
    cf.dpms.disabled = true ∧ cf.screen.disabled = true := by
  obtain ⟨⟨⟩, sens, ⟨⟩, ⟨⟩, day, ⟨⟩, ⟨⟩, ⟨⟩, inh⟩ := cf
  simp only [wizardConf, Conf.mk.injEq, BlConf.mk.injEq, KbdConf.mk.injEq, GammaConf.mk.injEq,
    DimmerConf.mk.injEq, DpmsConf.mk.injEq, ScreenConf.mk.injEq, true_and, and_true]
  simp only [eq_comm]

theorem checkClightdFeatures_eq_iff (f : Option Features) (cf : Conf) :
    checkClightdFeatures f cf = cf ↔ ∀ f', f = some f' → (f'.gamma = false → cf.gamma.disabled = true) ∧
      (f'.screen = false → cf.screen.disabled = true) ∧
      (f'.dpms = false → cf.dpms.disabled = true) := by
  have hor : ∀ disabled feature : Bool,
      (disabled || !feature) = disabled ↔ (feature = false → disabled = true) := by decide
  cases f with
  | none => exact ⟨fun _ _ h => (Option.some_ne_none _ h.symm).elim, fun _ => rfl⟩
  | some f =>
    simp only [Option.some.injEq, forall_eq']
    rw [← hor, ← hor, ← hor]
    obtain ⟨bl, sens, kbd, ⟨⟩, day, dim, ⟨⟩, ⟨⟩, inh⟩ := cf
    simp only [checkClightdFeatures, Conf.mk.injEq, GammaConf.mk.injEq, DpmsConf.mk.injEq,
      ScreenConf.mk.injEq, true_and, and_true]
    tauto

/-! ### The whole of check_conf -/

/-- The check of a section, which is skipped when the section is disabled. -/
def checkUnless {α : Type} (disabled : Bool) (check : α → α) (section' : α) : α :=
  if disabled then section' else check section'

theorem checkUnless_disabled {α : Type} {disabled : Bool} (h : disabled = true) (check : α → α)
    (x : α) : checkUnless disabled check x = x := if_pos h

/-- A section that is in use and comes out as it was passes its check, and the other way round. -/
theorem checkUnless_eq_iff {α : Type} {disabled : Bool} {check : α → α} {x : α} :
    x = checkUnless disabled check x ↔ (disabled = false → check x = x) := by
  unfold checkUnless
  cases disabled with
  | true => exact ⟨fun _ h => absurd h (by decide), fun _ => rfl⟩
  | false => exact ⟨fun h _ => h.symm, fun h => (h rfl).symm⟩

namespace Conf

theorem checkBl_eq (cf : Conf) : cf.checkBl = { cf with
    bl := checkUnless cf.bl.disabled checkBlConf cf.bl
    sens := checkUnless cf.bl.disabled (fun sens => checkOverrideConf (checkSensConf sens)) cf.sens } := by
  unfold checkBl checkUnless
  split_ifs <;> rfl

theorem checkKbd_eq (cf : Conf) :
    cf.checkKbd = { cf with kbd := checkUnless cf.kbd.disabled checkKbdConf cf.kbd } := by
  unfold checkKbd checkUnless
  split_ifs <;> rfl

theorem checkGamma_eq (cf : Conf) :
    cf.checkGamma = { cf with gamma := checkUnless cf.gamma.disabled (checkGammaConf cf.bl) cf.gamma } := by
  unfold checkGamma checkUnless
  split_ifs <;> rfl

theorem checkDim_eq (cf : Conf) :
    cf.checkDim = { cf with dim := checkUnless cf.dim.disabled (checkDimConf cf.bl) cf.dim } := by
  unfold checkDim checkUnless
  split_ifs <;> rfl

theorem checkDpms_eq (cf : Conf) :
    cf.checkDpms = { cf with dpms := checkUnless cf.dpms.disabled (checkDpmsConf cf.dim) cf.dpms } := by
  unfold checkDpms checkUnless
  split_ifs <;> rfl

theorem checkScreen_eq (cf : Conf) :
    cf.checkScreen =
      { cf with screen := checkUnless cf.screen.disabled (checkScreenConf cf.bl) cf.screen } := by
  unfold checkScreen checkUnless
  split_ifs <;> rfl

end Conf

/-- Every section of the outcome, from those that check_conf started with. -/
theorem checkConf_eq (f : Option Features) (cf : Conf) :
    let b := checkBase f cf
    let bl := checkUnless b.bl.disabled checkBlConf b.bl
    let dim := checkUnless b.dim.disabled (checkDimConf bl) b.dim
    let dpms := checkUnless b.dpms.disabled (checkDpmsConf dim) b.dpms
    checkConf f cf =
      { bl := bl
        sens := checkUnless b.bl.disabled (fun sens => checkOverrideConf (checkSensConf sens)) b.sens
        kbd := checkUnless b.kbd.disabled checkKbdConf b.kbd
        gamma := checkUnless b.gamma.disabled (checkGammaConf bl) b.gamma
        day := checkDaytimeConf b.day
        dim := dim
        dpms := dpms
        screen := checkUnless b.screen.disabled (checkScreenConf bl) b.screen
        inh := checkInhConf dim dpms b.inh
        verbose := b.verbose
        wizard := b.wizard
        resumedelay := if b.resumedelay < 0 ∨ 30 < b.resumedelay then 0 else b.resumedelay } := by
  intro b bl dim dpms
  unfold checkConf
  simp only [Conf.checkScreen_eq, Conf.checkDpms_eq, Conf.checkDim_eq, Conf.checkGamma_eq,
    Conf.checkKbd_eq, Conf.checkBl_eq]
  rfl

/-- A configuration whose sections come out as they were had nothing left to disable. -/
theorem checkBase_eq_of_sections {f : Option Features} {cf : Conf} {bl : BlConf}
    {dim : DimmerConf}
    (hbl : cf.bl = checkUnless (checkBase f cf).bl.disabled checkBlConf (checkBase f cf).bl)
    (hkbd : cf.kbd = checkUnless (checkBase f cf).kbd.disabled checkKbdConf (checkBase f cf).kbd)
    (hgamma : cf.gamma =
      checkUnless (checkBase f cf).gamma.disabled (checkGammaConf bl) (checkBase f cf).gamma)
    (hdim : cf.dim = checkUnless (checkBase f cf).dim.disabled (checkDimConf bl) (checkBase f cf).dim)
    (hdpms : cf.dpms =
      checkUnless (checkBase f cf).dpms.disabled (checkDpmsConf dim) (checkBase f cf).dpms)
    (hscreen : cf.screen =
      checkUnless (checkBase f cf).screen.disabled (checkScreenConf bl) (checkBase f cf).screen) :
    checkBase f cf = cf := by
  -- what is disabled skips its check, so it is disabled from the start
  have hgammaOff := fun h => hgamma.trans (checkUnless_disabled h _ _)
  have hdpmsOff := fun h => hdpms.trans (checkUnless_disabled h _ _)
  have hscreenOff := fun h => hscreen.trans (checkUnless_disabled h _ _)
  have hkbdOff := fun h => hkbd.trans (checkUnless_disabled h _ _)
  have hdimOff := fun h => hdim.trans (checkUnless_disabled h _ _)
  have hcal : cf.bl.noAutoCalib = (checkBase f cf).bl.noAutoCalib := by
    have hkeep : ∀ bl : BlConf, (checkUnless bl.disabled checkBlConf bl).noAutoCalib =
        bl.noAutoCalib := by
      intro bl
      unfold checkUnless
      split_ifs <;> rfl
    exact (congrArg BlConf.noAutoCalib hbl).trans (hkeep _)
  unfold checkBase at hgammaOff hdpmsOff hscreenOff hkbdOff hdimOff hcal ⊢
  cases hw : cf.wizard with
  | true =>
    rw [hw, if_pos rfl] at hgammaOff hdpmsOff hscreenOff hkbdOff hdimOff hcal
    rw [if_pos rfl, wizardConf_eq_iff]
    refine ⟨hcal, ?_, ?_, ?_, ?_, ?_⟩
    · exact congrArg KbdConf.disabled (hkbdOff rfl)
    · exact congrArg GammaConf.disabled (hgammaOff rfl)
    · exact congrArg DimmerConf.disabled (hdimOff rfl)
    · exact congrArg DpmsConf.disabled (hdpmsOff rfl)
    · exact congrArg ScreenConf.disabled (hscreenOff rfl)
  | false =>
    rw [hw, if_neg Bool.false_ne_true] at hgammaOff hdpmsOff hscreenOff
    rw [if_neg Bool.false_ne_true, checkClightdFeatures_eq_iff]
    rintro f rfl
    have hor : ∀ disabled feature : Bool, feature = false → (disabled || !feature) = true := by decide
    refine ⟨fun hf => ?_, fun hf => ?_, fun hf => ?_⟩
    · have hoff := hor cf.gamma.disabled f.gamma hf
      exact (congrArg GammaConf.disabled (hgammaOff hoff)).trans hoff
    · have hoff := hor cf.screen.disabled f.screen hf
      exact (congrArg ScreenConf.disabled (hscreenOff hoff)).trans hoff
    · have hoff := hor cf.dpms.disabled f.dpms hf
      exact (congrArg DpmsConf.disabled (hdpmsOff hoff)).trans hoff

/-- check_conf resets nothing if and only if nothing is left to disable and every section that is in
use passes its own check. -/
theorem checkConf_eq_iff (f : Option Features) (cf : Conf) :
    checkConf f cf = cf ↔ checkBase f cf = cf ∧ Checked cf := by
  have heq := checkConf_eq f cf
  constructor
  · intro h
    rw [h] at heq
    dsimp only at heq
    have hbl := congrArg Conf.bl heq
    have hsens := congrArg Conf.sens heq
    have hkbd := congrArg Conf.kbd heq
    have hgamma := congrArg Conf.gamma heq
    have hday := congrArg Conf.day heq
    have hdim := congrArg Conf.dim heq
    have hdpms := congrArg Conf.dpms heq
    have hscreen := congrArg Conf.screen heq
    have hinh := congrArg Conf.inh heq
    have hdelay := congrArg Conf.resumedelay heq
    dsimp only at hbl hsens hkbd hgamma hday hdim hdpms hscreen hinh hdelay
    have hbase : checkBase f cf = cf := checkBase_eq_of_sections hbl hkbd hgamma hdim hdpms hscreen
    rw [hbase] at hbl hsens hkbd hgamma hday hdim hdpms hscreen hinh hdelay
    rw [← hbl] at hgamma hdim hscreen hdpms hinh
    rw [← hdim] at hdpms hinh
    rw [← hdpms] at hinh
    have hnow : ¬ ((0 : ℤ) < 0 ∨ (30 : ℤ) < 0) := by decide
    have hrange := (reset_eq_iff (fun n : ℤ => n < 0 ∨ 30 < n) hnow cf.resumedelay).mp hdelay.symm
    rw [not_or, not_lt, not_lt] at hrange
    refine ⟨hbase, ⟨hrange, ?_, ?_, ?_, ?_, hday.symm, ?_, ?_, ?_, hinh.symm⟩⟩
    · exact checkUnless_eq_iff.mp hbl
    · exact checkUnless_eq_iff.mp hsens
    · exact checkUnless_eq_iff.mp hkbd
    · exact checkUnless_eq_iff.mp hgamma
    · exact checkUnless_eq_iff.mp hdim
    · exact checkUnless_eq_iff.mp hdpms
    · exact checkUnless_eq_iff.mp hscreen
  · rintro ⟨hbase, hchecked⟩
    rw [hbase] at heq
    dsimp only at heq
    have hrange : ¬ (cf.resumedelay < 0 ∨ 30 < cf.resumedelay) := by
      have := hchecked.resumedelay
      omega
    rw [heq, ← checkUnless_eq_iff.mpr hchecked.bl, ← checkUnless_eq_iff.mpr hchecked.dim,
      ← checkUnless_eq_iff.mpr hchecked.dpms, ← checkUnless_eq_iff.mpr hchecked.sens,
      ← checkUnless_eq_iff.mpr hchecked.kbd, ← checkUnless_eq_iff.mpr hchecked.gamma,
      ← checkUnless_eq_iff.mpr hchecked.screen, hchecked.day, hchecked.inh, if_neg hrange]

end Clight
