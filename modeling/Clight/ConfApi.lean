import Clight.ConfChecks
import Clight.Pausables

/-! The configuration on the bus: the properties that a client writes straight into it, and what
the requests that the setters of the other ones publish make the modules store. -/
namespace Clight

/-! ### Properties -/

/-- The writable properties that end in the configuration without a request: those with no setter,
which the bus library writes, and those whose setter writes them itself (Location and the offsets).
A property for each AC state, event or end of dimming is one constructor. -/
inductive DirectWrite
  -- org.clight.clight.Conf.Backlight
  | blInhibitOnLidClosed (new : Bool)
  | blCaptureOnLidOpened (new : Bool)
  | blNoSmooth (new : Bool)
  | blTransStep (new : ℚ)
  | blTransDuration (new : ℤ)
  | blTransFixed (new : ℤ)
  | blShutterThreshold (new : ℚ)
  | blRestoreOnExit (new : Bool)
  -- org.clight.clight.Conf.Sensor
  | sensDevice (new : String)
  | sensSettings (new : String)
  | sensCaptures (ac : AcState) (new : ℤ)
  -- org.clight.clight.Conf.Daytime
  | dayLocation (new : Loc)
  | dayEventDuration (new : ℤ)
  | dayOffset (e : DayEvent) (new : ℤ)
  -- org.clight.clight.Conf.Dimmer
  | dimNoSmooth (t : DimTrans) (new : Bool)
  | dimDimmedPct (new : ℚ)
  | dimTransStep (t : DimTrans) (new : ℚ)
  | dimTransDuration (t : DimTrans) (new : ℤ)
  | dimTransFixed (t : DimTrans) (new : ℤ)
  -- org.clight.clight.Conf.Gamma
  | gammaNoSmooth (new : Bool)
  | gammaTransStep (new : ℤ)
  | gammaTransDuration (new : ℤ)
  | gammaLongTransition (new : Bool)
  | gammaRestoreOnExit (new : Bool)
  -- org.clight.clight.Conf.Inhibit
  | inhDocked (new : Bool)
  | inhPm (new : Bool)
  | inhBl (new : Bool)
  -- org.clight.clight.Conf
  | verbose (new : Bool)
  | resumeDelay (new : ℤ)

/-- Writes the smooth parameters of one end of dimming. -/
def DimmerConf.withSmooth (t : DimTrans) (smooth : BlSmooth) (dim : DimmerConf) : DimmerConf :=
  { dim with smooth := Function.update dim.smooth t smooth }

namespace DirectWrite

/-- What is written, whatever the value. -/
def store (w : DirectWrite) (cf : Conf) : Conf :=
  match w with
  | blInhibitOnLidClosed new => { cf with bl := { cf.bl with pauseOnLidClosed := new } }
  | blCaptureOnLidOpened new => { cf with bl := { cf.bl with captureOnLidOpened := new } }
  | blNoSmooth new => { cf with bl := { cf.bl with smooth := { cf.bl.smooth with noSmooth := new } } }
  | blTransStep new => { cf with bl := { cf.bl with smooth := { cf.bl.smooth with transStep := new } } }
  | blTransDuration new =>
    { cf with bl := { cf.bl with smooth := { cf.bl.smooth with transTimeout := new } } }
  | blTransFixed new =>
    { cf with bl := { cf.bl with smooth := { cf.bl.smooth with transFixed := new } } }
  | blShutterThreshold new => { cf with bl := { cf.bl with shutterThreshold := new } }
  | blRestoreOnExit new => { cf with bl := { cf.bl with restore := new } }
  | sensDevice new => { cf with sens := { cf.sens with devName := some new } }
  | sensSettings new => { cf with sens := { cf.sens with devOpts := some new } }
  | sensCaptures ac new =>
    { cf with sens := { cf.sens with numCaptures := Function.update cf.sens.numCaptures ac new } }
  | dayLocation new => { cf with day := { cf.day with loc := new } }
  | dayEventDuration new => { cf with day := { cf.day with eventDuration := new } }
  | dayOffset e new =>
    { cf with day := { cf.day with eventsOs := Function.update cf.day.eventsOs e new } }
  | dimNoSmooth t new =>
    { cf with dim := cf.dim.withSmooth t { cf.dim.smooth t with noSmooth := new } }
  | dimDimmedPct new => { cf with dim := { cf.dim with dimmedPct := new } }
  | dimTransStep t new =>
    { cf with dim := cf.dim.withSmooth t { cf.dim.smooth t with transStep := new } }
  | dimTransDuration t new =>
    { cf with dim := cf.dim.withSmooth t { cf.dim.smooth t with transTimeout := new } }
  | dimTransFixed t new =>
    { cf with dim := cf.dim.withSmooth t { cf.dim.smooth t with transFixed := new } }
  | gammaNoSmooth new => { cf with gamma := { cf.gamma with noSmooth := new } }
  | gammaTransStep new => { cf with gamma := { cf.gamma with transStep := new } }
  | gammaTransDuration new => { cf with gamma := { cf.gamma with transTimeout := new } }
  | gammaLongTransition new => { cf with gamma := { cf.gamma with longTransition := new } }
  | gammaRestoreOnExit new => { cf with gamma := { cf.gamma with restore := new } }
  | inhDocked new => { cf with inh := { cf.inh with inhibitDocked := new } }
  | inhPm new => { cf with inh := { cf.inh with inhibitPm := new } }
  | inhBl new => { cf with inh := { cf.inh with inhibitBl := new } }
  | verbose new => { cf with verbose := new }
  | resumeDelay new => { cf with resumedelay := new }

/-- The values that check_conf would let pass; most properties take them all. -/
def InRange : DirectWrite → Prop
  | blTransStep new | dimTransStep _ new => 0 < new ∧ new < 1
  | blTransDuration new | dimTransDuration _ new | gammaTransStep new | gammaTransDuration new
  | dayEventDuration new => 0 < new
  | blShutterThreshold new => 0 ≤ new ∧ new < 1
  | sensCaptures _ new => 1 ≤ new ∧ new ≤ 20
  | dimDimmedPct new => 0 ≤ new ∧ new ≤ 1
  | dayLocation new => new.InRange
  | resumeDelay new => 0 ≤ new ∧ new ≤ 30
  | _ => True

end DirectWrite

/-! ### Configurations that check_conf leaves alone -/

/-- No section is enabled or disabled, and wizard mode stays as it is. -/
structure SameFlags (cf cf' : Conf) : Prop where
  wizard : cf'.wizard = cf.wizard
  noAutoCalib : cf.wizard = true → cf'.bl.noAutoCalib = cf.bl.noAutoCalib
  bl : cf'.bl.disabled = cf.bl.disabled
  kbd : cf'.kbd.disabled = cf.kbd.disabled
  gamma : cf'.gamma.disabled = cf.gamma.disabled
  dim : cf'.dim.disabled = cf.dim.disabled
  dpms : cf'.dpms.disabled = cf.dpms.disabled
  screen : cf'.screen.disabled = cf.screen.disabled
  inh : cf'.inh.disabled = cf.inh.disabled

theorem checkBase_eq_of_sameFlags {f : Option Features} {cf cf' : Conf} (h : SameFlags cf cf')
    (hbase : checkBase f cf = cf) : checkBase f cf' = cf' := by
  unfold checkBase at hbase ⊢
  rw [h.wizard]
  cases hw : cf.wizard with
  | true =>
    rw [hw, if_pos rfl, wizardConf_eq_iff] at hbase
    rw [if_pos rfl, wizardConf_eq_iff, h.noAutoCalib hw, h.kbd, h.gamma, h.dim, h.dpms, h.screen]
    exact hbase
  | false =>
    rw [hw, if_neg Bool.false_ne_true, checkClightdFeatures_eq_iff] at hbase
    rw [if_neg Bool.false_ne_true, checkClightdFeatures_eq_iff, h.gamma, h.screen, h.dpms]
    exact hbase

namespace Checked
variable {cf : Conf}

/-! A new section that passes its check, and disables no more than the old one, keeps a checked
configuration checked. -/

theorem withBl (h : Checked cf) {bl : BlConf} (hdisabled : bl.disabled = cf.bl.disabled)
    (hbl : bl.disabled = false → bl.InRange) : Checked { cf with bl := bl } where
  resumedelay := h.resumedelay
  bl hd := (checkBlConf_eq_iff bl).mpr (hbl hd)
  sens hd := h.sens (hdisabled.symm.trans hd)
  kbd := h.kbd
  gamma hd := by
    have hgamma := h.gamma hd
    rw [checkGammaConf_eq_iff] at hgamma ⊢
    rw [hdisabled]
    exact hgamma
  day := h.day
  dim hd := by
    have hdim := h.dim hd
    rw [checkDimConf_eq_iff] at hdim ⊢
    rw [hdisabled]
    exact hdim
  dpms := h.dpms
  screen hd := by
    have hscreen := h.screen hd
    rw [checkScreenConf_eq_iff] at hscreen ⊢
    rw [hdisabled]
    exact hscreen
  inh := h.inh

theorem withSens (h : Checked cf) {sens : SensorConf} (hsens : cf.bl.disabled = false → sens.InRange)
    (hspecific : sens.specificCurves = cf.sens.specificCurves) : Checked { cf with sens := sens } :=
  { h with
    sens := fun hd => by
      rw [checkSens_eq_iff, hspecific]
      exact ⟨hsens hd, ((checkSens_eq_iff cf.sens).mp (h.sens hd)).2⟩ }

theorem withKbd (h : Checked cf) {kbd : KbdConf}
    (hkbd : kbd.disabled = false → ∀ ac, (kbd.curve ac).InRange) : Checked { cf with kbd := kbd } :=
  { h with
    kbd := fun hd => by
      have hcurve := (checkCurvePoints_eq_iff kbdDefaultCurve_length kbdDefaultCurve_mem
        kbd.curve).mpr (hkbd hd)
      unfold checkKbdConf
      rw [hcurve] }

theorem withGamma (h : Checked cf) {gamma : GammaConf} (hgamma : gamma.disabled = false →
      gamma.InRange ∧ (cf.bl.disabled = true → gamma.ambientGamma = false)) :
    Checked { cf with gamma := gamma } :=
  { h with gamma := fun hd => (checkGammaConf_eq_iff cf.bl gamma).mpr (hgamma hd) }

theorem withDay (h : Checked cf) {day : DaytimeConf} (hday : day.InRange) :
    Checked { cf with day := day } :=
  { h with day := (checkDaytimeConf_eq_iff day).mpr hday }

theorem withDim (h : Checked cf) {dim : DimmerConf} (hdisabled : dim.disabled = cf.dim.disabled)
    (hdim : dim.disabled = false → dim.InRange)
    (hafter : cf.dpms.disabled = false → cf.dpms.After dim) : Checked { cf with dim := dim } :=
  { h with
    dim := fun hd => by
      have hold := (checkDimConf_eq_iff cf.bl cf.dim).mp (h.dim (hdisabled.symm.trans hd))
      rw [checkDimConf_eq_iff, hdisabled]
      exact ⟨hdim hd, hold.2⟩
    dpms := fun hd => (checkDpmsConf_eq_iff dim cf.dpms).mpr (hafter hd)
    inh := by
      have hinh := h.inh
      unfold checkInhConf at hinh ⊢
      rw [hdisabled]
      exact hinh }

theorem withDpms (h : Checked cf) {dpms : DpmsConf} (hdisabled : dpms.disabled = cf.dpms.disabled)
    (hafter : dpms.disabled = false → dpms.After cf.dim) : Checked { cf with dpms := dpms } :=
  { h with
    dpms := fun hd => (checkDpmsConf_eq_iff cf.dim dpms).mpr (hafter hd)
    inh := by
      have hinh := h.inh
      unfold checkInhConf at hinh ⊢
      rw [hdisabled]
      exact hinh }

theorem withScreen (h : Checked cf) {screen : ScreenConf}
    (hdisabled : screen.disabled = cf.screen.disabled)
    (hcontrib : screen.disabled = false → 0 ≤ screen.contrib ∧ screen.contrib ≤ 1) :
    Checked { cf with screen := screen } :=
  { h with
    screen := fun hd => by
      have hold := (checkScreenConf_eq_iff cf.bl cf.screen).mp (h.screen (hdisabled.symm.trans hd))
      rw [checkScreenConf_eq_iff, hdisabled]
      exact ⟨hcontrib hd, hold.2⟩ }

/-- INHIBIT is disabled where there is nothing to inhibit. -/
theorem withInh (h : Checked cf) {inh : InhConf} (hinh : cf.inh.disabled = false) :
    Checked { cf with inh := inh } :=
  { h with
    inh := by
      have hold := h.inh
      unfold checkInhConf at hold ⊢
      split_ifs at hold with hnone
      · rw [← hold] at hinh
        exact Bool.noConfusion hinh
      · exact if_neg hnone }

end Checked

namespace DirectWrite
variable {cf : Conf} (w : DirectWrite)

theorem store_sameFlags : SameFlags cf (w.store cf) := by
  cases w <;> exact ⟨rfl, fun _ => rfl, rfl, rfl, rfl, rfl, rfl, rfl, rfl⟩

/-- The section that a property belongs to is in use, so that check_conf looks at it. -/
def InUse (cf : Conf) : DirectWrite → Prop
  | blInhibitOnLidClosed _ | blCaptureOnLidOpened _ | blNoSmooth _ | blTransStep _
  | blTransDuration _ | blTransFixed _ | blShutterThreshold _ | blRestoreOnExit _ | sensDevice _
  | sensSettings _ | sensCaptures _ _ => cf.bl.disabled = false
  | dimNoSmooth _ _ | dimDimmedPct _ | dimTransStep _ _ | dimTransDuration _ _
  | dimTransFixed _ _ => cf.dim.disabled = false
  | gammaNoSmooth _ | gammaTransStep _ | gammaTransDuration _ | gammaLongTransition _
  | gammaRestoreOnExit _ => cf.gamma.disabled = false
  | inhDocked _ | inhPm _ | inhBl _ => cf.inh.disabled = false
  | dayLocation _ | dayEventDuration _ | dayOffset _ _ | verbose _ | resumeDelay _ => True

theorem withSmooth_inRange {dim : DimmerConf} (h : dim.InRange) (t : DimTrans) {smooth : BlSmooth}
    (hsmooth : (0 < smooth.transStep ∧ smooth.transStep < 1) ∧ 0 < smooth.transTimeout) :
    (dim.withSmooth t smooth).InRange := by
  refine ⟨h.1, fun t' => ?_⟩
  unfold DimmerConf.withSmooth
  dsimp only
  by_cases ht : t' = t
  · rw [ht, Function.update_self]
    exact hsmooth
  · rw [Function.update_of_ne ht]
    exact h.2 t'

/-- Of a checked configuration, a write keeps the checks if and only if its value is in range. -/
theorem store_checked_iff (h : Checked cf) (huse : w.InUse cf) :
    Checked (w.store cf) ↔ w.InRange := by
  have hbl := fun hd => (checkBlConf_eq_iff cf.bl).mp (h.bl hd)
  have hsens := fun hd => ((checkSens_eq_iff cf.sens).mp (h.sens hd)).1
  have hgamma := fun hd => (checkGammaConf_eq_iff cf.bl cf.gamma).mp (h.gamma hd)
  have hday := (checkDaytimeConf_eq_iff cf.day).mp h.day
  have hdim := fun hd => ((checkDimConf_eq_iff cf.bl cf.dim).mp (h.dim hd)).1
  have hdpms := fun hd => (checkDpmsConf_eq_iff cf.dim cf.dpms).mp (h.dpms hd)
  cases w
  case blTransStep new =>
    exact ⟨fun h' => ((checkBlConf_eq_iff _).mp (h'.bl huse)).1,
      fun hw => h.withBl rfl fun hd => ⟨hw, (hbl hd).2⟩⟩
  case blTransDuration new =>
    exact ⟨fun h' => ((checkBlConf_eq_iff _).mp (h'.bl huse)).2.1,
      fun hw => h.withBl rfl fun hd => ⟨(hbl hd).1, hw, (hbl hd).2.2⟩⟩
  case blShutterThreshold new =>
    exact ⟨fun h' => ((checkBlConf_eq_iff _).mp (h'.bl huse)).2.2.1,
      fun hw => h.withBl rfl fun hd => ⟨(hbl hd).1, (hbl hd).2.1, hw, (hbl hd).2.2.2⟩⟩
  case blInhibitOnLidClosed | blCaptureOnLidOpened | blNoSmooth | blTransFixed | blRestoreOnExit =>
    exact ⟨fun _ => trivial, fun _ => h.withBl rfl hbl⟩
  case sensDevice | sensSettings =>
    exact ⟨fun _ => trivial, fun _ => h.withSens hsens rfl⟩
  case sensCaptures ac new =>
    constructor
    · intro h'
      have hnew := ((checkSens_eq_iff _).mp (h'.sens huse)).1.1 ac
      unfold store at hnew
      dsimp only at hnew
      rw [Function.update_self] at hnew
      exact hnew
    · intro hw
      refine h.withSens (fun hd => ⟨fun ac' => ?_, (hsens hd).2⟩) rfl
      dsimp only
      by_cases hac : ac' = ac
      · rw [hac, Function.update_self]
        exact hw
      · rw [Function.update_of_ne hac]
        exact (hsens hd).1 ac'
  case dayLocation new =>
    exact ⟨fun h' => ((checkDaytimeConf_eq_iff _).mp h'.day).2.1,
      fun hw => h.withDay ⟨hday.1, hw, hday.2.2⟩⟩
  case dayEventDuration new =>
    exact ⟨fun h' => ((checkDaytimeConf_eq_iff _).mp h'.day).1, fun hw => h.withDay ⟨hw, hday.2⟩⟩
  case dayOffset => exact ⟨fun _ => trivial, fun _ => h.withDay hday⟩
  case dimDimmedPct new =>
    exact ⟨fun h' => ((checkDimConf_eq_iff _ _).mp (h'.dim huse)).1.1,
      fun hw => h.withDim rfl (fun hd => ⟨hw, (hdim hd).2⟩) hdpms⟩
  case dimTransStep t new =>
    constructor
    · intro h'
      have hnew := (((checkDimConf_eq_iff _ _).mp (h'.dim huse)).1.2 t).1
      unfold store DimmerConf.withSmooth at hnew
      dsimp only at hnew
      rw [Function.update_self] at hnew
      exact hnew
    · exact fun hw => h.withDim rfl
        (fun hd => withSmooth_inRange (hdim hd) t ⟨hw, ((hdim hd).2 t).2⟩) hdpms
  case dimTransDuration t new =>
    constructor
    · intro h'
      have hnew := (((checkDimConf_eq_iff _ _).mp (h'.dim huse)).1.2 t).2
      unfold store DimmerConf.withSmooth at hnew
      dsimp only at hnew
      rw [Function.update_self] at hnew
      exact hnew
    · exact fun hw => h.withDim rfl
        (fun hd => withSmooth_inRange (hdim hd) t ⟨((hdim hd).2 t).1, hw⟩) hdpms
  case dimNoSmooth t new =>
    exact ⟨fun _ => trivial, fun _ => h.withDim rfl
      (fun hd => withSmooth_inRange (hdim hd) t ((hdim hd).2 t)) hdpms⟩
  case dimTransFixed t new =>
    exact ⟨fun _ => trivial, fun _ => h.withDim rfl
      (fun hd => withSmooth_inRange (hdim hd) t ((hdim hd).2 t)) hdpms⟩
  case gammaTransStep new =>
    exact ⟨fun h' => ((checkGammaConf_eq_iff _ _).mp (h'.gamma huse)).1.2.1,
      fun hw => h.withGamma fun hd => ⟨⟨(hgamma hd).1.1, hw, (hgamma hd).1.2.2⟩, (hgamma hd).2⟩⟩
  case gammaTransDuration new =>
    exact ⟨fun h' => ((checkGammaConf_eq_iff _ _).mp (h'.gamma huse)).1.2.2,
      fun hw => h.withGamma fun hd => ⟨⟨(hgamma hd).1.1, (hgamma hd).1.2.1, hw⟩, (hgamma hd).2⟩⟩
  case gammaNoSmooth | gammaLongTransition | gammaRestoreOnExit =>
    exact ⟨fun _ => trivial, fun _ => h.withGamma hgamma⟩
  case inhDocked | inhPm | inhBl => exact ⟨fun _ => trivial, fun _ => h.withInh huse⟩
  case verbose =>
    exact ⟨fun _ => trivial, fun _ => ⟨h.resumedelay, h.bl, h.sens, h.kbd, h.gamma, h.day, h.dim,
      h.dpms, h.screen, h.inh⟩⟩
  case resumeDelay new =>
    exact ⟨fun h' => h'.resumedelay, fun hw => ⟨hw, h.bl, h.sens, h.kbd, h.gamma, h.day, h.dim,
      h.dpms, h.screen, h.inh⟩⟩

end DirectWrite

end Clight
