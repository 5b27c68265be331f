import Clight.ConfChecks
import Clight.AssocMap
import Clight.CurveRange

/-! check_conf is a normalisation: it is done after one run, what is in use comes out in range, and
what was in range comes out as it went in. The timeouts of DPMS are an exception to that. -/
namespace Clight

/-! ### Values with a range -/

theorem checkTransStep_mem (step : ℚ) : 0 < checkTransStep step ∧ checkTransStep step < 1 := by
  unfold checkTransStep
  split_ifs with hbad
  · norm_num
  · exact ⟨not_le.mp (not_or.mp hbad).1, not_le.mp (not_or.mp hbad).2⟩

theorem checkTransTimeout_pos (timeout : ℤ) : 0 < checkTransTimeout timeout := by
  unfold checkTransTimeout
  split_ifs <;> omega

theorem checkCaptures_mem (n : ℤ) : 1 ≤ checkCaptures n ∧ checkCaptures n ≤ 20 := by
  unfold checkCaptures
  split_ifs <;> omega

theorem checkTemp_mem {dflt : ℤ} (hd : 1000 ≤ dflt ∧ dflt ≤ 10000) (temp : ℤ) :
    1000 ≤ checkTemp dflt temp ∧ checkTemp dflt temp ≤ 10000 := by
  unfold checkTemp
  split_ifs <;> omega

theorem checkFraction_mem {dflt : ℚ} (hd : 0 ≤ dflt ∧ dflt ≤ 1) (q : ℚ) :
    0 ≤ checkFraction dflt q ∧ checkFraction dflt q ≤ 1 := by
  unfold checkFraction
  split_ifs with hbad
  · exact hd
  · exact ⟨not_lt.mp (not_or.mp hbad).1, not_lt.mp (not_or.mp hbad).2⟩

theorem checkCoord_mem (limit undefined q : ℚ) :
    |checkCoord limit undefined q| ≤ limit ∨ checkCoord limit undefined q = undefined := by
  unfold checkCoord
  split_ifs with hbad
  · exact .inr rfl
  · rw [not_and_or, not_lt, not_not] at hbad
    exact hbad

theorem checkEvent_isTime (e : EventTime) : EventTime.IsTime (checkEvent e) := by
  unfold checkEvent EventTime.IsTime
  split_ifs with hbad
  · exact .inl rfl
  · rw [not_and_or, not_not, Bool.not_eq_true, Option.isNone_eq_false_iff] at hbad
    exact hbad

theorem checkPoints_inRange {table : AcState → List ℚ} (h : ∀ ac, (table ac).length = defSizePoints)
    (hin : ∀ ac, ∀ p ∈ table ac, 0 ≤ p ∧ p ≤ 1) (ac : AcState) (c : Curve) :
    (checkPoints table h ac c).InRange := by
  by_cases hc : c.InRange
  · rw [(checkPoints_eq_iff h hin ac c).mpr hc]
    exact hc
  · have hany : (c.points.any fun p => p < 0 ∨ 1 < p) = true := by
      rw [c.inRange_iff, not_not] at hc
      exact hc
    unfold checkPoints
    rw [if_pos hany]
    exact hin ac

/-! ### Sections -/

theorem checkBlConf_inRange (bl : BlConf) : (checkBlConf bl).InRange := by
  refine ⟨checkTransStep_mem _, checkTransTimeout_pos _, ?_, ?_⟩
  · change 0 ≤ (if bl.shutterThreshold < 0 ∨ 1 ≤ bl.shutterThreshold then 0 else _) ∧
      (if bl.shutterThreshold < 0 ∨ 1 ≤ bl.shutterThreshold then 0 else _) < 1
    split_ifs with hbad
    · norm_num
    · exact ⟨not_lt.mp (not_or.mp hbad).1, not_le.mp (not_or.mp hbad).2⟩
  · change 0 ≤ (if bl.syncMonitorsDelay < 0 ∨ 10 < bl.syncMonitorsDelay then 0 else _) ∧
      (if bl.syncMonitorsDelay < 0 ∨ 10 < bl.syncMonitorsDelay then 0 else _) ≤ 10
    split_ifs <;> omega

theorem checkSensConf_inRange (sens : SensorConf) :
    (checkOverrideConf (checkSensConf sens)).InRange := by
  constructor
  · intro ac
    exact checkCaptures_mem _
  · intro ac
    exact checkPoints_inRange _ blDefaultCurve_mem ac _

theorem checkGammaConf_inRange (bl : BlConf) (gamma : GammaConf) :
    (checkGammaConf bl gamma).InRange := by
  refine ⟨?_, ?_, ?_⟩
  · intro d
    cases d with
    | day => exact checkTemp_mem (by decide) _
    | night => exact checkTemp_mem (by decide) _
  · change 0 < if gamma.transStep ≤ 0 then (50 : ℤ) else gamma.transStep
    split_ifs <;> omega
  · change 0 < if gamma.transTimeout ≤ 0 then (300 : ℤ) else gamma.transTimeout
    split_ifs <;> omega

theorem checkDaytimeConf_inRange (day : DaytimeConf) : (checkDaytimeConf day).InRange := by
  refine ⟨?_, ⟨checkCoord_mem _ _ _, checkCoord_mem _ _ _⟩, fun e => checkEvent_isTime _⟩
  change 0 < if day.eventDuration ≤ 0 then (30 * 60 : ℤ) else day.eventDuration
  split_ifs <;> omega

theorem checkDimConf_inRange (bl : BlConf) (dim : DimmerConf) : (checkDimConf bl dim).InRange := by
  refine ⟨checkFraction_mem (by norm_num) _, fun t => ⟨checkTransStep_mem _, ?_⟩⟩
  exact checkTransTimeout_pos _

theorem checkDpmsConf_after (dim : DimmerConf) (dpms : DpmsConf) :
    (checkDpmsConf dim dpms).After dim := by
  intro hd ac
  unfold checkDpmsConf
  rw [hd, if_neg Bool.false_ne_true]
  cases ac with
  | onAc =>
    dsimp only [dpmsDefault]
    split_ifs <;> omega
  | onBattery =>
    dsimp only [dpmsDefault]
    split_ifs <;> omega

theorem mapCurves_eq (f : (AcState → Curve) → AcState → Curve)
    (curves : AList fun _ : MonId => AcState → Curve) :
    mapCurves f curves = AssocMap.mapValues (fun _ => f) curves := rfl

theorem mapCurves_eq_self {f : (AcState → Curve) → AcState → Curve}
    {curves : AList fun _ : MonId => AcState → Curve} (hf : ∀ e ∈ curves.entries, f e.2 = e.2) :
    mapCurves f curves = curves := by
  rw [mapCurves_eq]
  exact AssocMap.mapValues_eq_self hf

/-- The sensor keeps what its two checks made of it. -/
theorem checkSens_idem (sens : SensorConf) :
    checkOverrideConf (checkSensConf (checkOverrideConf (checkSensConf sens))) =
      checkOverrideConf (checkSensConf sens) := by
  refine (checkSens_eq_iff _).mpr ⟨checkSensConf_inRange sens, mapCurves_eq_self ?_⟩
  intro e he
  refine (checkCurvePoints_eq_iff _ blDefaultCurve_mem e.2).mpr fun ac => ?_
  exact (checkOverrideConf_fractions sens).specific e he ac

theorem checkBlConf_idem (bl : BlConf) : checkBlConf (checkBlConf bl) = checkBlConf bl :=
  (checkBlConf_eq_iff _).mpr (checkBlConf_inRange bl)

theorem checkKbdConf_inRange (kbd : KbdConf) : ∀ ac, ((checkKbdConf kbd).curve ac).InRange := by
  intro ac
  exact checkPoints_inRange _ kbdDefaultCurve_mem ac _

theorem checkKbdConf_idem (kbd : KbdConf) : checkKbdConf (checkKbdConf kbd) = checkKbdConf kbd := by
  have hcurve := (checkCurvePoints_eq_iff kbdDefaultCurve_length kbdDefaultCurve_mem _).mpr
    (checkKbdConf_inRange kbd)
  generalize checkKbdConf kbd = kbd at hcurve ⊢
  unfold checkKbdConf
  rw [hcurve]

theorem checkGammaConf_idem (bl : BlConf) (gamma : GammaConf) :
    checkGammaConf bl (checkGammaConf bl gamma) = checkGammaConf bl gamma := by
  refine (checkGammaConf_eq_iff bl _).mpr ⟨checkGammaConf_inRange bl gamma, fun hbl => ?_⟩
  change (gamma.ambientGamma && !bl.disabled) = false
  rw [hbl, Bool.not_true, Bool.and_false]

theorem checkDimConf_idem (bl : BlConf) (dim : DimmerConf) :
    checkDimConf bl (checkDimConf bl dim) = checkDimConf bl dim := by
  refine (checkDimConf_eq_iff bl _).mpr ⟨checkDimConf_inRange bl dim, fun hbl => ?_⟩
  change (dim.disabled || bl.disabled) = true
  rw [hbl, Bool.or_true]

theorem checkDpmsConf_idem (dim : DimmerConf) (dpms : DpmsConf) :
    checkDpmsConf dim (checkDpmsConf dim dpms) = checkDpmsConf dim dpms :=
  (checkDpmsConf_eq_iff dim _).mpr (checkDpmsConf_after dim dpms)

theorem checkScreenConf_mem (bl : BlConf) (screen : ScreenConf) :
    0 ≤ (checkScreenConf bl screen).contrib ∧ (checkScreenConf bl screen).contrib ≤ 1 :=
  checkFraction_mem (by norm_num) _

theorem checkScreenConf_idem (bl : BlConf) (screen : ScreenConf) :
    checkScreenConf bl (checkScreenConf bl screen) = checkScreenConf bl screen := by
  refine (checkScreenConf_eq_iff bl _).mpr ⟨checkScreenConf_mem bl screen, fun hbl => ?_⟩
  change (screen.disabled || bl.disabled) = true
  rw [hbl, Bool.or_true]

theorem checkInhConf_idem (dim : DimmerConf) (dpms : DpmsConf) (inh : InhConf) :
    checkInhConf dim dpms (checkInhConf dim dpms inh) = checkInhConf dim dpms inh := by
  unfold checkInhConf
  split_ifs <;> rfl

/-! ### The whole of check_conf -/

/-- A section is in use afterwards only if its check was run. -/
theorem checkUnless_of_check {α : Type} {disabled : α → Bool} {check : α → α} {P : α → Prop}
    (hcheck : ∀ x, P (check x)) {x : α} (h : disabled (checkUnless (disabled x) check x) = false) :
    P (checkUnless (disabled x) check x) := by
  unfold checkUnless at h ⊢
  cases hd : disabled x with
  | true =>
    rw [hd, if_pos rfl, hd] at h
    cases h
  | false => exact hcheck x

/-- Its check has nothing to change there any more. -/
theorem checkUnless_idem {α : Type} {disabled : α → Bool} {check : α → α}
    (hidem : ∀ x, check (check x) = check x) {x : α}
    (h : disabled (checkUnless (disabled x) check x) = false) :
    check (checkUnless (disabled x) check x) = checkUnless (disabled x) check x :=
  checkUnless_of_check (P := fun x => check x = x) hidem h

theorem checkBlConf_unless_disabled (bl : BlConf) :
    (checkUnless bl.disabled checkBlConf bl).disabled = bl.disabled := by
  unfold checkUnless
  split_ifs <;> rfl

/-- Every section that is in use after check_conf is what its own check makes of it. -/
theorem checked_checkConf (f : Option Features) (cf : Conf) : Checked (checkConf f cf) := by
  rw [checkConf_eq f cf]
  generalize checkBase f cf = b
  constructor
  case resumedelay =>
    dsimp only
    split_ifs <;> omega
  case bl => exact checkUnless_idem checkBlConf_idem
  case sens =>
    intro hon
    -- the flag is that of BACKLIGHT, which its check keeps
    have hbl : b.bl.disabled = false := (checkBlConf_unless_disabled b.bl).symm.trans hon
    dsimp only
    rw [hbl]
    exact checkSens_idem b.sens
  case kbd => exact checkUnless_idem checkKbdConf_idem
  case gamma => exact checkUnless_idem (checkGammaConf_idem _)
  case day => exact (checkDaytimeConf_eq_iff _).mpr (checkDaytimeConf_inRange _)
  case dim => exact checkUnless_idem (checkDimConf_idem _)
  case dpms => exact checkUnless_idem (checkDpmsConf_idem _)
  case screen => exact checkUnless_idem (checkScreenConf_idem _)
  case inh => exact checkInhConf_idem _ _ _

/-- What is disabled at the start of check_conf is still disabled at its end. -/
theorem checkBase_checkConf (f : Option Features) (cf : Conf) :
    checkBase f (checkConf f cf) = checkConf f cf := by
  have hcal : (checkConf f cf).bl.noAutoCalib = (checkBase f cf).bl.noAutoCalib := by
    rw [checkConf_eq f cf]
    dsimp only
    unfold checkUnless
    split_ifs <;> rfl
  have hkbd : (checkBase f cf).kbd.disabled = true → (checkConf f cf).kbd.disabled = true := by
    intro h
    rw [checkConf_eq f cf]
    exact (congrArg KbdConf.disabled (checkUnless_disabled h _ _)).trans h
  have hgamma : (checkBase f cf).gamma.disabled = true → (checkConf f cf).gamma.disabled = true := by
    intro h
    rw [checkConf_eq f cf]
    exact (congrArg GammaConf.disabled (checkUnless_disabled h _ _)).trans h
  have hdim : (checkBase f cf).dim.disabled = true → (checkConf f cf).dim.disabled = true := by
    intro h
    rw [checkConf_eq f cf]
    exact (congrArg DimmerConf.disabled (checkUnless_disabled h _ _)).trans h
  have hdpms : (checkBase f cf).dpms.disabled = true → (checkConf f cf).dpms.disabled = true := by
    intro h
    rw [checkConf_eq f cf]
    exact (congrArg DpmsConf.disabled (checkUnless_disabled h _ _)).trans h
  have hscreen : (checkBase f cf).screen.disabled = true →
      (checkConf f cf).screen.disabled = true := by
    intro h
    rw [checkConf_eq f cf]
    exact (congrArg ScreenConf.disabled (checkUnless_disabled h _ _)).trans h
  have hwizard : (checkConf f cf).wizard = cf.wizard := by
    rw [checkConf_eq f cf]
    change (checkBase f cf).wizard = cf.wizard
    unfold checkBase
    split_ifs
    · rfl
    · cases f with
      | none => rfl
      | some f => rfl
  unfold checkBase at hcal hkbd hgamma hdim hdpms hscreen ⊢
  rw [hwizard]
  cases hw : cf.wizard with
  | true =>
    rw [hw, if_pos rfl] at hcal hkbd hgamma hdim hdpms hscreen
    rw [if_pos rfl, wizardConf_eq_iff]
    exact ⟨hcal, hkbd rfl, hgamma rfl, hdim rfl, hdpms rfl, hscreen rfl⟩
  | false =>
    rw [hw, if_neg Bool.false_ne_true] at hgamma hdpms hscreen
    rw [if_neg Bool.false_ne_true, checkClightdFeatures_eq_iff]
    rintro f rfl
    have hor : ∀ disabled feature : Bool, feature = false → (disabled || !feature) = true := by decide
    refine ⟨fun hf => ?_, fun hf => ?_, fun hf => ?_⟩
    · exact hgamma (hor cf.gamma.disabled f.gamma hf)
    · exact hscreen (hor cf.screen.disabled f.screen hf)
    · exact hdpms (hor cf.dpms.disabled f.dpms hf)

theorem checkConf_idem (f : Option Features) (cf : Conf) :
    checkConf f (checkConf f cf) = checkConf f cf :=
  (checkConf_eq_iff f _).mpr ⟨checkBase_checkConf f cf, checked_checkConf f cf⟩

/-- The ranges that check_conf tests, in the sections that are in use. The sensor is a part of
BACKLIGHT, and DAYTIME cannot be disabled. -/
structure Conf.InRange (cf : Conf) : Prop where
  resumedelay : 0 ≤ cf.resumedelay ∧ cf.resumedelay ≤ 30
  bl : cf.bl.disabled = false → cf.bl.InRange
  sens : cf.bl.disabled = false → cf.sens.InRange
  specificCurves : cf.bl.disabled = false →
    ∀ e ∈ cf.sens.specificCurves.entries, ∀ ac, (e.2 ac).InRange
  kbd : cf.kbd.disabled = false → ∀ ac, (cf.kbd.curve ac).InRange
  gamma : cf.gamma.disabled = false → cf.gamma.InRange
  day : cf.day.InRange
  dim : cf.dim.disabled = false → cf.dim.InRange
  screen : cf.screen.disabled = false → 0 ≤ cf.screen.contrib ∧ cf.screen.contrib ≤ 1

theorem checkConf_inRange (f : Option Features) (cf : Conf) : (checkConf f cf).InRange where
  resumedelay := (checked_checkConf f cf).resumedelay
  bl hon := (checkBlConf_eq_iff _).mp ((checked_checkConf f cf).bl hon)
  sens hon := ((checkSens_eq_iff _).mp ((checked_checkConf f cf).sens hon)).1
  specificCurves hon := (checkConf_fractions hon).specific
  kbd hon := by
    have hcheck := (checked_checkConf f cf).kbd hon
    rw [← hcheck]
    exact checkKbdConf_inRange _
  gamma hon := ((checkGammaConf_eq_iff _ _).mp ((checked_checkConf f cf).gamma hon)).1
  day := (checkDaytimeConf_eq_iff _).mp (checked_checkConf f cf).day
  dim hon := ((checkDimConf_eq_iff _ _).mp ((checked_checkConf f cf).dim hon)).1
  screen hon := ((checkScreenConf_eq_iff _ _).mp ((checked_checkConf f cf).screen hon)).1

/-! ### What was in range -/

/-- Every field of `cf` with a range that was in it is the same in `cf'`. A curve is one field. -/
structure KeptInRange (cf cf' : Conf) : Prop where
  resumedelay : 0 ≤ cf.resumedelay ∧ cf.resumedelay ≤ 30 → cf'.resumedelay = cf.resumedelay
  blStep : 0 < cf.bl.smooth.transStep ∧ cf.bl.smooth.transStep < 1 →
    cf'.bl.smooth.transStep = cf.bl.smooth.transStep
  blTimeout : 0 < cf.bl.smooth.transTimeout →
    cf'.bl.smooth.transTimeout = cf.bl.smooth.transTimeout
  shutterThreshold : 0 ≤ cf.bl.shutterThreshold ∧ cf.bl.shutterThreshold < 1 →
    cf'.bl.shutterThreshold = cf.bl.shutterThreshold
  syncMonitorsDelay : 0 ≤ cf.bl.syncMonitorsDelay ∧ cf.bl.syncMonitorsDelay ≤ 10 →
    cf'.bl.syncMonitorsDelay = cf.bl.syncMonitorsDelay
  numCaptures : ∀ ac, 1 ≤ cf.sens.numCaptures ac ∧ cf.sens.numCaptures ac ≤ 20 →
    cf'.sens.numCaptures ac = cf.sens.numCaptures ac
  defaultCurve : ∀ ac, (cf.sens.defaultCurve ac).InRange →
    cf'.sens.defaultCurve ac = cf.sens.defaultCurve ac
  /-- No monitor is added or removed. -/
  monitors : cf'.sens.specificCurves.keys = cf.sens.specificCurves.keys
  specificCurves : ∀ id curve curve', cf.sens.specificCurves.lookup id = some curve →
    cf'.sens.specificCurves.lookup id = some curve' →
      ∀ ac, (curve ac).InRange → curve' ac = curve ac
  kbdCurve : ∀ ac, (cf.kbd.curve ac).InRange → cf'.kbd.curve ac = cf.kbd.curve ac
  temp : ∀ d, 1000 ≤ cf.gamma.temp d ∧ cf.gamma.temp d ≤ 10000 → cf'.gamma.temp d = cf.gamma.temp d
  gammaStep : 0 < cf.gamma.transStep → cf'.gamma.transStep = cf.gamma.transStep
  gammaTimeout : 0 < cf.gamma.transTimeout → cf'.gamma.transTimeout = cf.gamma.transTimeout
  eventDuration : 0 < cf.day.eventDuration → cf'.day.eventDuration = cf.day.eventDuration
  lat : |cf.day.loc.lat| ≤ 90 ∨ cf.day.loc.lat = latUndefined → cf'.day.loc.lat = cf.day.loc.lat
  lon : |cf.day.loc.lon| ≤ 180 ∨ cf.day.loc.lon = lonUndefined → cf'.day.loc.lon = cf.day.loc.lon
  dayEvents : ∀ e, EventTime.IsTime (cf.day.dayEvents e) → cf'.day.dayEvents e = cf.day.dayEvents e
  dimmedPct : 0 ≤ cf.dim.dimmedPct ∧ cf.dim.dimmedPct ≤ 1 → cf'.dim.dimmedPct = cf.dim.dimmedPct
  dimStep : ∀ t, 0 < (cf.dim.smooth t).transStep ∧ (cf.dim.smooth t).transStep < 1 →
    (cf'.dim.smooth t).transStep = (cf.dim.smooth t).transStep
  dimTimeout : ∀ t, 0 < (cf.dim.smooth t).transTimeout →
    (cf'.dim.smooth t).transTimeout = (cf.dim.smooth t).transTimeout
  contrib : 0 ≤ cf.screen.contrib ∧ cf.screen.contrib ≤ 1 → cf'.screen.contrib = cf.screen.contrib

/-- The start of check_conf changes flags only. -/
theorem checkBase_flags (f : Option Features) (cf : Conf) :
    ∃ noAutoCalib kbd gamma dim dpms screen : Bool, checkBase f cf =
      { cf with
        bl := { cf.bl with noAutoCalib := noAutoCalib }
        kbd := { cf.kbd with disabled := kbd }
        gamma := { cf.gamma with disabled := gamma }
        dim := { cf.dim with disabled := dim }
        dpms := { cf.dpms with disabled := dpms }
        screen := { cf.screen with disabled := screen } } := by
  unfold checkBase
  split_ifs
  · exact ⟨true, true, true, true, true, true, rfl⟩
  · cases f with
    | none =>
      exact ⟨cf.bl.noAutoCalib, cf.kbd.disabled, cf.gamma.disabled, cf.dim.disabled,
        cf.dpms.disabled, cf.screen.disabled, rfl⟩
    | some f =>
      exact ⟨cf.bl.noAutoCalib, cf.kbd.disabled, cf.gamma.disabled || !f.gamma, cf.dim.disabled,
        cf.dpms.disabled || !f.dpms, cf.screen.disabled || !f.screen, rfl⟩

/-- A field that the check of its section keeps is kept when that check is skipped too. -/
theorem checkUnless_field {α β : Type} {disabled : Bool} {check : α → α} {x : α} (field : α → β)
    (h : field (check x) = field x) : field (checkUnless disabled check x) = field x := by
  unfold checkUnless
  split_ifs
  · rfl
  · exact h

theorem lookup_mapCurves (f : (AcState → Curve) → AcState → Curve)
    (curves : AList fun _ : MonId => AcState → Curve) (id : MonId) :
    (mapCurves f curves).lookup id = (curves.lookup id).map f := by
  rw [mapCurves_eq]
  exact AssocMap.lookup_mapValues (fun _ => f) id curves

theorem keys_mapCurves (f : (AcState → Curve) → AcState → Curve)
    (curves : AList fun _ : MonId => AcState → Curve) : (mapCurves f curves).keys = curves.keys := by
  change (curves.entries.map _).map Sigma.fst = curves.entries.map Sigma.fst
  rw [List.map_map]
  rfl

/-- The curves of the single monitors, when the one asked for was in range. -/
theorem checkSens_specific {sens : SensorConf} {id : MonId} {curve curve' : AcState → Curve}
    (hold : sens.specificCurves.lookup id = some curve)
    (hnew : (checkOverrideConf (checkSensConf sens)).specificCurves.lookup id = some curve')
    {ac : AcState} (hin : (curve ac).InRange) : curve' ac = curve ac := by
  have hmap : (checkOverrideConf (checkSensConf sens)).specificCurves.lookup id =
      some (checkCurvePoints blDefaultCurve blDefaultCurve_length curve) := by
    refine (lookup_mapCurves _ sens.specificCurves id).trans ?_
    rw [hold, Option.map_some]
  have hcurve : checkCurvePoints blDefaultCurve blDefaultCurve_length curve = curve' :=
    Option.some.inj (hmap.symm.trans hnew)
  rw [← hcurve]
  exact (checkPoints_eq_iff blDefaultCurve_length blDefaultCurve_mem ac _).mpr hin

theorem checkConf_kept (f : Option Features) (cf : Conf) : KeptInRange cf (checkConf f cf) := by
  rw [checkConf_eq f cf]
  obtain ⟨noAutoCalib, kbd, gamma, dim, dpms, screen, hbase⟩ := checkBase_flags f cf
  rw [hbase]
  constructor
  case resumedelay =>
    intro hin
    have hgood : ¬ (cf.resumedelay < 0 ∨ 30 < cf.resumedelay) := by omega
    exact if_neg hgood
  case blStep =>
    intro hin
    refine checkUnless_field (fun bl : BlConf => bl.smooth.transStep) ?_
    exact (checkTransStep_eq_iff _).mpr hin
  case blTimeout =>
    intro hin
    refine checkUnless_field (fun bl : BlConf => bl.smooth.transTimeout) ?_
    exact (checkTransTimeout_eq_iff _).mpr hin
  case shutterThreshold =>
    intro hin
    refine checkUnless_field BlConf.shutterThreshold (if_neg ?_)
    exact not_or.mpr ⟨not_lt.mpr hin.1, not_le.mpr hin.2⟩
  case syncMonitorsDelay =>
    intro hin
    have hgood : ¬ (cf.bl.syncMonitorsDelay < 0 ∨ 10 < cf.bl.syncMonitorsDelay) := by omega
    exact checkUnless_field BlConf.syncMonitorsDelay (if_neg hgood)
  case numCaptures =>
    intro ac hin
    refine checkUnless_field (fun sens : SensorConf => sens.numCaptures ac) ?_
    exact (checkCaptures_eq_iff _).mpr hin
  case defaultCurve =>
    intro ac hin
    refine checkUnless_field (fun sens : SensorConf => sens.defaultCurve ac) ?_
    exact (checkPoints_eq_iff blDefaultCurve_length blDefaultCurve_mem ac _).mpr hin
  case monitors =>
    exact checkUnless_field (fun sens : SensorConf => sens.specificCurves.keys) (keys_mapCurves _ _)
  case specificCurves =>
    intro id curve curve' hold hnew ac hin
    dsimp only at hnew
    unfold checkUnless at hnew
    split_ifs at hnew
    · rw [Option.some.inj (hnew.symm.trans hold)]
    · exact checkSens_specific hold hnew hin
  case kbdCurve =>
    intro ac hin
    refine checkUnless_field (fun kbd : KbdConf => kbd.curve ac) ?_
    exact (checkPoints_eq_iff kbdDefaultCurve_length kbdDefaultCurve_mem ac _).mpr hin
  case temp =>
    intro d hin
    refine checkUnless_field (fun gamma : GammaConf => gamma.temp d) ?_
    cases d with
    | day => exact (checkTemp_eq_iff (by decide) _).mpr hin
    | night => exact (checkTemp_eq_iff (by decide) _).mpr hin
  case gammaStep =>
    intro hin
    exact checkUnless_field GammaConf.transStep (if_neg (not_le.mpr hin))
  case gammaTimeout =>
    intro hin
    exact checkUnless_field GammaConf.transTimeout (if_neg (not_le.mpr hin))
  case eventDuration =>
    intro hin
    exact if_neg (not_le.mpr hin)
  case lat => exact (checkCoord_eq_iff _ _ _).mpr
  case lon => exact (checkCoord_eq_iff _ _ _).mpr
  case dayEvents =>
    intro e
    exact (checkEvent_eq_iff _).mpr
  case dimmedPct =>
    intro hin
    exact checkUnless_field DimmerConf.dimmedPct ((checkFraction_eq_iff (by norm_num) _).mpr hin)
  case dimStep =>
    intro t hin
    refine checkUnless_field (fun dim : DimmerConf => (dim.smooth t).transStep) ?_
    exact (checkTransStep_eq_iff _).mpr hin
  case dimTimeout =>
    intro t hin
    refine checkUnless_field (fun dim : DimmerConf => (dim.smooth t).transTimeout) ?_
    exact (checkTransTimeout_eq_iff _).mpr hin
  case contrib =>
    intro hin
    exact checkUnless_field ScreenConf.contrib ((checkFraction_eq_iff (by norm_num) _).mpr hin)

/-- check_conf is a normalisation. -/
theorem checkConf_normalises (f : Option Features) (cf : Conf) :
    checkConf f (checkConf f cf) = checkConf f cf ∧ (checkConf f cf).InRange ∧
      KeptInRange cf (checkConf f cf) :=
  ⟨checkConf_idem f cf, checkConf_inRange f cf, checkConf_kept f cf⟩

/-- The step of GAMMA is not a fraction: it counts kelvins, 50 of them by default. -/
theorem checkConf_gamma_step : ¬ ∀ (f : Option Features) (cf : Conf),
    (checkConf f cf).gamma.disabled = false →
      0 < (checkConf f cf).gamma.transStep ∧ (checkConf f cf).gamma.transStep < 1 := by
  intro hall
  have hstep := hall none Conf.default
  have hsame : checkConf none Conf.default = Conf.default := default_checked.checkConf_eq rfl rfl
  rw [hsame] at hstep
  exact absurd (hstep rfl).2 (by decide)

/-! ### The timeouts of DPMS and DIMMER -/

/-- In this AC state DPMS is off exactly when it was configured so, and otherwise it comes after the
dimmer. -/
def DpmsOrdered (cf cf' : Conf) (ac : AcState) : Prop :=
  (cf'.dpms.timeout ac ≤ 0 ↔ cf.dpms.timeout ac ≤ 0) ∧
    (0 < cf'.dpms.timeout ac → cf'.dim.timeout ac < cf'.dpms.timeout ac)

theorem checkDpmsConf_timeout {dim : DimmerConf} (hd : dim.disabled = false) (dpms : DpmsConf)
    (ac : AcState) : (checkDpmsConf dim dpms).timeout ac =
      if dpms.timeout ac ≤ dim.timeout ac then dpmsDefault ac else dpms.timeout ac := by
  unfold checkDpmsConf
  rw [hd, if_neg Bool.false_ne_true]
  cases ac <;> rfl

/-- Both timeouts after check_conf, from those of the configuration file. -/
theorem checkConf_timeouts {f : Option Features} {cf : Conf}
    (hdim : (checkConf f cf).dim.disabled = false) (hdpms : (checkConf f cf).dpms.disabled = false)
    (ac : AcState) : (checkConf f cf).dim.timeout ac = cf.dim.timeout ac ∧
      (checkConf f cf).dpms.timeout ac =
        if cf.dpms.timeout ac ≤ cf.dim.timeout ac then dpmsDefault ac else cf.dpms.timeout ac := by
  obtain ⟨noAutoCalib, kbd, gamma, dim, dpms, screen, hbase⟩ := checkBase_flags f cf
  have hdimTimeout : (checkConf f cf).dim.timeout = cf.dim.timeout := by
    rw [checkConf_eq f cf, hbase]
    exact checkUnless_field DimmerConf.timeout rfl
  refine ⟨congrFun hdimTimeout ac, ?_⟩
  rw [← hdimTimeout]
  rw [checkConf_eq f cf, hbase] at hdim hdpms ⊢
  dsimp only at hdim hdpms ⊢
  -- DPMS is in use, so its check was run
  have hon : dpms = false := by
    cases dpms with
    | true => cases hdpms
    | false => rfl
  rw [hon]
  exact checkDpmsConf_timeout hdim _ ac

/-- A timeout of DPMS that is not after the dimmer's is reset, and this is right only if DPMS was not
switched off by it and the dimmer comes before the default. -/
theorem dpmsOrdered_iff {f : Option Features} {cf : Conf}
    (hdim : (checkConf f cf).dim.disabled = false) (hdpms : (checkConf f cf).dpms.disabled = false)
    (ac : AcState) : DpmsOrdered cf (checkConf f cf) ac ↔
      cf.dim.timeout ac < cf.dpms.timeout ac ∨
        (0 < cf.dpms.timeout ac ∧ cf.dim.timeout ac < dpmsDefault ac) := by
  obtain ⟨hdimTimeout, hdpmsTimeout⟩ := checkConf_timeouts hdim hdpms ac
  have hdflt : 0 < dpmsDefault ac := by cases ac <;> decide
  unfold DpmsOrdered
  rw [hdimTimeout, hdpmsTimeout]
  split_ifs with hreset
  · constructor
    · rintro ⟨hoff, hafter⟩
      exact .inr ⟨by omega, hafter hdflt⟩
    · rintro (hless | ⟨hpos, hless⟩)
      · omega
      · exact ⟨by omega, fun _ => hless⟩
  · have hless : cf.dim.timeout ac < cf.dpms.timeout ac := by omega
    exact ⟨fun _ => .inl hless, fun _ => ⟨Iff.rfl, fun _ => hless⟩⟩

theorem dpmsOrdered_default : DpmsOrdered Conf.default (checkConf none Conf.default) .onAc := by
  have hsame : checkConf none Conf.default = Conf.default := default_checked.checkConf_eq rfl rfl
  exact (dpmsOrdered_iff (congrArg (fun cf => cf.dim.disabled) hsame)
    (congrArg (fun cf => cf.dpms.disabled) hsame) .onAc).mpr (by decide)

/-- DPMS is configured off in both AC states: on AC with a dimmer that waits for 1000 seconds. -/
def dpmsOffConf : Conf :=
  { Conf.default with
    dim := { Conf.default.dim with timeout := fun ac => match ac with
      | .onAc => 1000
      | .onBattery => 20 }
    dpms := { Conf.default.dpms with timeout := fun _ => -1 } }

/-- It is switched on in both, and on AC before the dimmer. -/
theorem checkConf_dpmsOff : (checkConf none dpmsOffConf).dim.disabled = false ∧
    (checkConf none dpmsOffConf).dpms.disabled = false ∧
      ∀ ac, ¬ DpmsOrdered dpmsOffConf (checkConf none dpmsOffConf) ac := by
  have hdim : (checkConf none dpmsOffConf).dim.disabled = false := by
    rw [checkConf_eq]
    rfl
  have hdpms : (checkConf none dpmsOffConf).dpms.disabled = false := by
    rw [checkConf_eq]
    rfl
  refine ⟨hdim, hdpms, ?_⟩
  rintro ac ⟨hoff, -⟩
  rw [(checkConf_timeouts hdim hdpms ac).2] at hoff
  cases ac with
  | onAc => exact absurd (hoff.mpr (by decide)) (by decide)
  | onBattery => exact absurd (hoff.mpr (by decide)) (by decide)

end Clight
