import Clight.ConfigRoundTrip
import Clight.Layers

/-! The settings of Clight, one by one: their values in a configuration, and what a configuration
file says of each (config.c). -/
universe u
namespace Clight

/-- The settings that a file or the command line can change; a curve counts as its points. -/
inductive ConfSetting
  | verbose | resumedelay | wizard
  | blDisabled | blRestore | blNoSmooth | blTransStep | blTransTimeout | blTransFixed
  | shutterThreshold | noAutoCalib | pauseOnLidClosed | captureOnLidOpened | syncMonitorsDelay
  | blTimeout (ac : AcState) (t : BlTime)
  | devName | devOpts | numCaptures (ac : AcState) | sensPoints (ac : AcState) | override (mon : MonId)
  | kbdDisabled | kbdTimeout (ac : AcState) | kbdPoints (ac : AcState)
  | gammaDisabled | gammaRestore | gammaNoSmooth | gammaTransStep | gammaTransTimeout
  | longTransition | ambientGamma | temp (d : DayState)
  | latitude | longitude | eventDuration | offset (e : DayEvent) | event (e : DayEvent)
  | dimDisabled | dimmedPct | dimTimeout (ac : AcState) | dimNoSmooth (t : DimTrans)
  | dimTransStep (t : DimTrans) | dimTransTimeout (t : DimTrans) | dimTransFixed (t : DimTrans)
  | dpmsDisabled | dpmsTimeout (ac : AcState)
  | screenDisabled | contrib | screenTimeout (ac : AcState)
  | inhDisabled | inhibitDocked | inhibitPm | inhibitBl
  deriving DecidableEq

namespace ConfSetting

def Val : ConfSetting → Type
  | verbose | wizard | blDisabled | blRestore | blNoSmooth | noAutoCalib | pauseOnLidClosed
  | captureOnLidOpened | kbdDisabled | gammaDisabled | gammaRestore | gammaNoSmooth | longTransition
  | ambientGamma | dimDisabled | dimNoSmooth _ | dpmsDisabled | screenDisabled | inhDisabled
  | inhibitDocked | inhibitPm | inhibitBl => Bool
  | resumedelay | blTransTimeout | blTransFixed | syncMonitorsDelay | blTimeout _ _ | numCaptures _
  | kbdTimeout _ | gammaTransStep | gammaTransTimeout | temp _ | eventDuration | offset _
  | dimTimeout _ | dimTransTimeout _ | dimTransFixed _ | dpmsTimeout _ | screenTimeout _ => ℤ
  | blTransStep | shutterThreshold | latitude | longitude | dimmedPct | dimTransStep _ | contrib => ℚ
  | devName | devOpts => Option String
  | sensPoints _ | kbdPoints _ => List ℚ
  | override _ => Option (AcState → List ℚ)
  | event _ => EventTime

def get (cf : Conf) : (k : ConfSetting) → k.Val
  | verbose => cf.verbose
  | resumedelay => cf.resumedelay
  | wizard => cf.wizard
  | blDisabled => cf.bl.disabled
  | blRestore => cf.bl.restore
  | blNoSmooth => cf.bl.smooth.noSmooth
  | blTransStep => cf.bl.smooth.transStep
  | blTransTimeout => cf.bl.smooth.transTimeout
  | blTransFixed => cf.bl.smooth.transFixed
  | shutterThreshold => cf.bl.shutterThreshold
  | noAutoCalib => cf.bl.noAutoCalib
  | pauseOnLidClosed => cf.bl.pauseOnLidClosed
  | captureOnLidOpened => cf.bl.captureOnLidOpened
  | syncMonitorsDelay => cf.bl.syncMonitorsDelay
  | blTimeout ac t => cf.bl.timeout ac t
  | devName => cf.sens.devName
  | devOpts => cf.sens.devOpts
  | numCaptures ac => cf.sens.numCaptures ac
  | sensPoints ac => (cf.sens.defaultCurve ac).points
  | override mon => (cf.sens.specificCurves.lookup mon).map curvePoints
  | kbdDisabled => cf.kbd.disabled
  | kbdTimeout ac => cf.kbd.timeout ac
  | kbdPoints ac => (cf.kbd.curve ac).points
  | gammaDisabled => cf.gamma.disabled
  | gammaRestore => cf.gamma.restore
  | gammaNoSmooth => cf.gamma.noSmooth
  | gammaTransStep => cf.gamma.transStep
  | gammaTransTimeout => cf.gamma.transTimeout
  | longTransition => cf.gamma.longTransition
  | ambientGamma => cf.gamma.ambientGamma
  | temp d => cf.gamma.temp d
  | latitude => cf.day.loc.lat
  | longitude => cf.day.loc.lon
  | eventDuration => cf.day.eventDuration
  | offset e => cf.day.eventsOs e
  | event e => cf.day.dayEvents e
  | dimDisabled => cf.dim.disabled
  | dimmedPct => cf.dim.dimmedPct
  | dimTimeout ac => cf.dim.timeout ac
  | dimNoSmooth t => (cf.dim.smooth t).noSmooth
  | dimTransStep t => (cf.dim.smooth t).transStep
  | dimTransTimeout t => (cf.dim.smooth t).transTimeout
  | dimTransFixed t => (cf.dim.smooth t).transFixed
  | dpmsDisabled => cf.dpms.disabled
  | dpmsTimeout ac => cf.dpms.timeout ac
  | screenDisabled => cf.screen.disabled
  | contrib => cf.screen.contrib
  | screenTimeout ac => cf.screen.timeout ac
  | inhDisabled => cf.inh.disabled
  | inhibitDocked => cf.inh.inhibitDocked
  | inhibitPm => cf.inh.inhibitPm
  | inhibitBl => cf.inh.inhibitBl

end ConfSetting

/-! ### What a file says -/

variable {S : Type u} (L : Libconfig S)

def boolAt (g : S) (k : String) : Option Bool := (L.member g k).bind L.asBool
def intAt (g : S) (k : String) : Option ℤ := (L.member g k).bind L.asInt
def floatAt (g : S) (k : String) : Option ℚ := (L.member g k).bind L.asFloat

/-- An entry of a table, which counts only if it has the right length. -/
def tableAt {α β : Type} [DecidableEq α] (all : List α) (read : S → ℕ → β) (g : S) (k : String) (a : α) :
    Option β :=
  (L.member g k).bind fun s => if L.length s = all.length then some (read s (all.idxOf a)) else none

def pointsAt (g : S) (k : String) : Option (List ℚ) := (readPoints L g k).map Subtype.val

/-- An empty string counts as none. -/
def stringAt (g : S) (k : String) : Option (Option String) :=
  ((L.lookupString g k).filter (· ≠ "")).map some

def timeAt (g : S) (k : String) : Option EventTime := (L.lookupString g k).map EventTime.ofString

def timeoutsKey : AcState → String
  | .onAc => "ac_timeouts"
  | .onBattery => "batt_timeouts"

def pointsKey : AcState → String
  | .onAc => "ac_regression_points"
  | .onBattery => "batt_regression_points"

def offsetKey : DayEvent → String
  | .sunrise => "sunrise_offset"
  | .sunset => "sunset_offset"

def eventKey : DayEvent → String
  | .sunrise => "sunrise"
  | .sunset => "sunset"

/-- What an element of monitor_override says of a monitor. -/
def overrideAt (mon : MonId) (setting : S) : Option (Option (AcState → Curve)) :=
  (loadOverride L setting).bind fun p => if p.1 = mon then some (some p.2) else none

/-- The overrides of a file, in their order. -/
def overrideLayers : Layers (AList fun _ : MonId => AcState → Curve) S MonId
    fun _ => Option (AcState → Curve) where
  get curves mon := curves.lookup mon
  apply setting curves := putOverride L curves setting
  sets setting mon := overrideAt L mon setting
  get_apply setting curves mon := by
    unfold putOverride overrideAt
    cases loadOverride L setting with
    | none => rfl
    | some p =>
      obtain ⟨id, curve⟩ := p
      by_cases h : id = mon
      · subst h
        simp
      · have hne : mon ≠ id := fun h' => h h'.symm
        simp [h, AList.lookup_insert_ne hne]

namespace ConfSetting

/-- What the file says of a setting, if anything; its sections are groups of the root. -/
def inFile (root : S) : (k : ConfSetting) → Option k.Val
  | verbose => boolAt L root "verbose"
  | resumedelay => intAt L root "resumedelay"
  | wizard => none
  | blDisabled => (L.member root "backlight").bind (boolAt L · "disabled")
  | blRestore => (L.member root "backlight").bind (boolAt L · "restore_on_exit")
  | blNoSmooth => (L.member root "backlight").bind (boolAt L · "no_smooth_transition")
  | blTransStep => (L.member root "backlight").bind (floatAt L · "trans_step")
  | blTransTimeout => (L.member root "backlight").bind (intAt L · "trans_timeout")
  | blTransFixed => (L.member root "backlight").bind (intAt L · "trans_fixed")
  | shutterThreshold => (L.member root "backlight").bind (floatAt L · "shutter_threshold")
  | noAutoCalib => (L.member root "backlight").bind (boolAt L · "no_auto_calibration")
  | pauseOnLidClosed => (L.member root "backlight").bind (boolAt L · "pause_on_lid_closed")
  | captureOnLidOpened => (L.member root "backlight").bind (boolAt L · "capture_on_lid_opened")
  | syncMonitorsDelay => (L.member root "backlight").bind (intAt L · "hotplug_delay")
  | blTimeout ac t => (L.member root "backlight").bind (tableAt L blTimes L.intElem · (timeoutsKey ac) t)
  | devName => (L.member root "sensor").bind (stringAt L · "devname")
  | devOpts => (L.member root "sensor").bind (stringAt L · "settings")
  | numCaptures ac => (L.member root "sensor").bind (tableAt L acStates L.intElem · "captures" ac)
  | sensPoints ac => (L.member root "sensor").bind (pointsAt L · (pointsKey ac))
  | override mon => (L.member root "monitor_override").bind fun g =>
    ((overrideLayers L).setBy ((List.range (L.length g)).filterMap (L.elem g)) mon).map
      (Option.map curvePoints)
  | kbdDisabled => (L.member root "keyboard").bind (boolAt L · "disabled")
  | kbdTimeout ac => (L.member root "keyboard").bind (tableAt L acStates L.intElem · "timeouts" ac)
  | kbdPoints ac => (L.member root "keyboard").bind (pointsAt L · (pointsKey ac))
  | gammaDisabled => (L.member root "gamma").bind (boolAt L · "disabled")
  | gammaRestore => (L.member root "gamma").bind (boolAt L · "restore_on_exit")
  | gammaNoSmooth => (L.member root "gamma").bind (boolAt L · "no_smooth_transition")
  | gammaTransStep => (L.member root "gamma").bind (intAt L · "trans_step")
  | gammaTransTimeout => (L.member root "gamma").bind (intAt L · "trans_timeout")
  | longTransition => (L.member root "gamma").bind (boolAt L · "long_transition")
  | ambientGamma => (L.member root "gamma").bind (boolAt L · "ambient_gamma")
  | temp d => (L.member root "gamma").bind (tableAt L dayStates L.intElem · "temp" d)
  | latitude => (L.member root "daytime").bind (floatAt L · "latitude")
  | longitude => (L.member root "daytime").bind (floatAt L · "longitude")
  | eventDuration => (L.member root "daytime").bind (intAt L · "event_duration")
  | offset e => (L.member root "daytime").bind (intAt L · (offsetKey e))
  | event e => (L.member root "daytime").bind (timeAt L · (eventKey e))
  | dimDisabled => (L.member root "dimmer").bind (boolAt L · "disabled")
  | dimmedPct => (L.member root "dimmer").bind (floatAt L · "dimmed_pct")
  | dimTimeout ac => (L.member root "dimmer").bind (tableAt L acStates L.intElem · "timeouts" ac)
  | dimNoSmooth t =>
    (L.member root "dimmer").bind (tableAt L dimTrans (flagElem L) · "no_smooth_transition" t)
  | dimTransStep t => (L.member root "dimmer").bind (tableAt L dimTrans L.floatElem · "trans_steps" t)
  | dimTransTimeout t =>
    (L.member root "dimmer").bind (tableAt L dimTrans L.intElem · "trans_timeouts" t)
  | dimTransFixed t => (L.member root "dimmer").bind (tableAt L dimTrans L.intElem · "trans_fixed" t)
  | dpmsDisabled => (L.member root "dpms").bind (boolAt L · "disabled")
  | dpmsTimeout ac => (L.member root "dpms").bind (tableAt L acStates L.intElem · "timeouts" ac)
  | screenDisabled => (L.member root "screen").bind (boolAt L · "disabled")
  | contrib => (L.member root "screen").bind (floatAt L · "contrib")
  | screenTimeout ac => (L.member root "screen").bind (tableAt L acStates L.intElem · "timeouts" ac)
  | inhDisabled => (L.member root "inhibit").bind (boolAt L · "disabled")
  | inhibitDocked => (L.member root "inhibit").bind (boolAt L · "inhibit_docked")
  | inhibitPm => (L.member root "inhibit").bind (boolAt L · "inhibit_pm")
  | inhibitBl => (L.member root "inhibit").bind (boolAt L · "inhibit_bl")

end ConfSetting

/-! ### read_config follows it -/

section
variable {L}

theorem loadTable_eq {α β : Type} [DecidableEq α] (all : List α) (read : S → ℕ → β) (g : S) (k : String)
    (old : α → β) (a : α) : L.loadTable all read g k old a = (tableAt L all read g k a).getD (old a) := by
  unfold Libconfig.loadTable tableAt Libconfig.readTable
  cases L.member g k with
  | none => rfl
  | some s =>
    dsimp only [Option.bind_some]
    split_ifs
    · rfl
    · rfl

theorem loadPoints_points (g : S) (k : String) (c : Curve) :
    (loadPoints L g k c).points = (pointsAt L g k).getD c.points := by
  unfold loadPoints pointsAt
  cases readPoints L g k with
  | none => rfl
  | some ps => rfl

theorem loadString_eq (g : S) (k : String) (old : Option String) :
    loadString L g k old = (stringAt L g k).getD old := by
  unfold loadString stringAt
  cases L.lookupString g k with
  | none => rfl
  | some s =>
    by_cases h : s = ""
    · simp [h, Option.filter]
    · simp [h, Option.filter]

theorem loadCurves_points (g : S) (curve : AcState → Curve) (ac : AcState) :
    (loadCurves L g curve ac).points = (pointsAt L g (pointsKey ac)).getD (curve ac).points := by
  cases ac with
  | onAc => exact loadPoints_points g _ _
  | onBattery => exact loadPoints_points g _ _

theorem loadTimeouts_eq (g : S) (timeout : AcState → BlTime → ℤ) (ac : AcState) (t : BlTime) :
    loadTimeouts L g timeout ac t =
      (tableAt L blTimes L.intElem g (timeoutsKey ac) t).getD (timeout ac t) := by
  cases ac with
  | onAc => exact loadTable_eq blTimes L.intElem g _ _ t
  | onBattery => exact loadTable_eq blTimes L.intElem g _ _ t

end

theorem loadOverrideSettings_keeps (root : S) (sens : SensorConf) :
    (loadOverrideSettings L root sens).devName = sens.devName ∧
      (loadOverrideSettings L root sens).devOpts = sens.devOpts ∧
      (loadOverrideSettings L root sens).numCaptures = sens.numCaptures ∧
      (loadOverrideSettings L root sens).defaultCurve = sens.defaultCurve := by
  unfold loadOverrideSettings
  cases L.member root "monitor_override" <;> exact ⟨rfl, rfl, rfl, rfl⟩

theorem loadSensorSettings_curves (root : S) (sens : SensorConf) :
    (loadSensorSettings L root sens).specificCurves = sens.specificCurves := by
  unfold loadSensorSettings
  cases L.member root "sensor" <;> rfl

/-- The last valid override of a monitor replaces the one that it had. -/
theorem get_loadOverrideSettings (root : S) (sens : SensorConf) (mon : MonId) :
    ((loadOverrideSettings L root sens).specificCurves.lookup mon).map curvePoints =
      ((ConfSetting.override mon).inFile L root).getD
        ((sens.specificCurves.lookup mon).map curvePoints) := by
  unfold loadOverrideSettings
  dsimp only [ConfSetting.inFile]
  cases L.member root "monitor_override" with
  | none => rfl
  | some g =>
    have hlast := (overrideLayers L).get_applyAll ((List.range (L.length g)).filterMap (L.elem g))
      sens.specificCurves mon
    change Option.map _ ((overrideLayers L).get ((overrideLayers L).applyAll _ _) mon) = _
    rw [hlast, Option.bind_some]
    cases (overrideLayers L).setBy ((List.range (L.length g)).filterMap (L.elem g)) mon with
    | none => rfl
    | some c => rfl

/-- read_config changes each setting to what the file says of it, and no other. -/
theorem get_readConfig (root : S) (cf : Conf) (k : ConfSetting) :
    k.get (readConfig L root cf) = (k.inFile L root).getD (k.get cf) := by
  obtain ⟨hname, hopts, hcaptures, hcurve⟩ := loadOverrideSettings_keeps L root (loadSensorSettings L root cf.sens)
  cases k
  case verbose | resumedelay | wizard => rfl
  case blTimeout ac t =>
    dsimp only [ConfSetting.get, ConfSetting.inFile, readConfig, loadBacklightSettings]
    cases L.member root "backlight" with
    | none => rfl
    | some g => exact loadTimeouts_eq g _ ac t
  case blDisabled | blRestore | blNoSmooth | blTransStep | blTransTimeout | blTransFixed
    | shutterThreshold | noAutoCalib | pauseOnLidClosed | captureOnLidOpened | syncMonitorsDelay =>
    dsimp only [ConfSetting.get, ConfSetting.inFile, readConfig, loadBacklightSettings]
    cases L.member root "backlight" <;> rfl
  case devName | devOpts =>
    dsimp only [ConfSetting.get, ConfSetting.inFile, readConfig]
    first | rw [hname] | rw [hopts]
    unfold loadSensorSettings
    cases L.member root "sensor" with
    | none => rfl
    | some g => exact loadString_eq g _ _
  case numCaptures ac =>
    dsimp only [ConfSetting.get, ConfSetting.inFile, readConfig]
    rw [hcaptures]
    unfold loadSensorSettings
    cases L.member root "sensor" with
    | none => rfl
    | some g => exact loadTable_eq acStates L.intElem g _ _ ac
  case sensPoints ac =>
    dsimp only [ConfSetting.get, ConfSetting.inFile, readConfig]
    rw [hcurve]
    unfold loadSensorSettings
    cases L.member root "sensor" with
    | none => rfl
    | some g => exact loadCurves_points g _ ac
  case override mon =>
    dsimp only [ConfSetting.get, readConfig]
    rw [get_loadOverrideSettings, loadSensorSettings_curves]
  case kbdDisabled =>
    dsimp only [ConfSetting.get, ConfSetting.inFile, readConfig, loadKbdSettings]
    cases L.member root "keyboard" <;> rfl
  case kbdTimeout ac =>
    dsimp only [ConfSetting.get, ConfSetting.inFile, readConfig, loadKbdSettings]
    cases L.member root "keyboard" with
    | none => rfl
    | some g => exact loadTable_eq acStates L.intElem g _ _ ac
  case kbdPoints ac =>
    dsimp only [ConfSetting.get, ConfSetting.inFile, readConfig, loadKbdSettings]
    cases L.member root "keyboard" with
    | none => rfl
    | some g => exact loadCurves_points g _ ac
  case gammaDisabled | gammaRestore | gammaNoSmooth | gammaTransStep | gammaTransTimeout
    | longTransition | ambientGamma =>
    dsimp only [ConfSetting.get, ConfSetting.inFile, readConfig, loadGammaSettings]
    cases L.member root "gamma" <;> rfl
  case temp d =>
    dsimp only [ConfSetting.get, ConfSetting.inFile, readConfig, loadGammaSettings]
    cases L.member root "gamma" with
    | none => rfl
    | some g => exact loadTable_eq dayStates L.intElem g _ _ d
  case latitude | longitude | eventDuration =>
    dsimp only [ConfSetting.get, ConfSetting.inFile, readConfig, loadDaySettings]
    cases L.member root "daytime" <;> rfl
  case offset e | event e =>
    dsimp only [ConfSetting.get, ConfSetting.inFile, readConfig, loadDaySettings]
    cases L.member root "daytime" with
    | none => rfl
    | some g => cases e <;> rfl
  case dimDisabled | dimmedPct =>
    dsimp only [ConfSetting.get, ConfSetting.inFile, readConfig, loadDimmerSettings]
    cases L.member root "dimmer" <;> rfl
  case dimTimeout ac =>
    dsimp only [ConfSetting.get, ConfSetting.inFile, readConfig, loadDimmerSettings]
    cases L.member root "dimmer" with
    | none => rfl
    | some g => exact loadTable_eq acStates L.intElem g _ _ ac
  case dimNoSmooth t | dimTransStep t | dimTransTimeout t | dimTransFixed t =>
    dsimp only [ConfSetting.get, ConfSetting.inFile, readConfig, loadDimmerSettings]
    cases L.member root "dimmer" with
    | none => rfl
    | some g => exact loadTable_eq dimTrans _ g _ _ t
  case dpmsDisabled =>
    dsimp only [ConfSetting.get, ConfSetting.inFile, readConfig, loadDpmsSettings]
    cases L.member root "dpms" <;> rfl
  case dpmsTimeout ac =>
    dsimp only [ConfSetting.get, ConfSetting.inFile, readConfig, loadDpmsSettings]
    cases L.member root "dpms" with
    | none => rfl
    | some g => exact loadTable_eq acStates L.intElem g _ _ ac
  case screenDisabled | contrib =>
    dsimp only [ConfSetting.get, ConfSetting.inFile, readConfig, loadScreenSettings]
    cases L.member root "screen" <;> rfl
  case screenTimeout ac =>
    dsimp only [ConfSetting.get, ConfSetting.inFile, readConfig, loadScreenSettings]
    cases L.member root "screen" with
    | none => rfl
    | some g => exact loadTable_eq acStates L.intElem g _ _ ac
  case inhDisabled | inhibitDocked | inhibitPm | inhibitBl =>
    dsimp only [ConfSetting.get, ConfSetting.inFile, readConfig, loadInhSettings]
    cases L.member root "inhibit" <;> rfl

end Clight
