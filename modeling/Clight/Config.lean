import Clight.Libconfig
import Clight.Message
import Clight.Opts

/-! config.c: how a configuration is written to a file and read from it. -/
universe u
namespace Clight

def acStates : List AcState := [.onAc, .onBattery]
def dayStates : List DayState := [.day, .night]
/-- The +1 of the backlight timeouts: the event is exposed too. -/
def blTimes : List BlTime := [.day, .night, .inEvent]
def dimTrans : List DimTrans := [.enter, .exit]

theorem mem_acStates (a : AcState) : a ∈ acStates := by cases a <;> decide
theorem mem_dayStates (d : DayState) : d ∈ dayStates := by cases d <;> decide
theorem mem_blTimes (t : BlTime) : t ∈ blTimes := by cases t <;> decide
theorem mem_dimTrans (t : DimTrans) : t ∈ dimTrans := by cases t <;> decide

variable {S : Type u} (L : Libconfig S)

/-! ### Store -/

def storePoints (c : Curve) : S := L.array (c.points.map L.float)

def storeBacklightSettings (bl : BlConf) : S := L.group [
  ("disabled", L.bool bl.disabled),
  ("restore_on_exit", L.bool bl.restore),
  ("no_smooth_transition", L.bool bl.smooth.noSmooth),
  ("trans_step", L.float bl.smooth.transStep),
  ("trans_timeout", L.int bl.smooth.transTimeout),
  ("trans_fixed", L.int bl.smooth.transFixed),
  ("no_auto_calibration", L.bool bl.noAutoCalib),
  ("pause_on_lid_closed", L.bool bl.pauseOnLidClosed),
  ("capture_on_lid_opened", L.bool bl.captureOnLidOpened),
  ("shutter_threshold", L.float bl.shutterThreshold),
  ("hotplug_delay", L.int bl.syncMonitorsDelay),
  ("ac_timeouts", L.storeTable blTimes L.int (bl.timeout .onAc)),
  ("batt_timeouts", L.storeTable blTimes L.int (bl.timeout .onBattery))]

def storeString (k : String) : Option String → List (String × S)
  | some s => [(k, L.string s)]
  | none => []

def storeSensorsSettings (sens : SensorConf) : S := L.group
  ([("captures", L.storeTable acStates L.int sens.numCaptures)] ++
    storeString L "devname" sens.devName ++ storeString L "settings" sens.devOpts ++
    [("ac_regression_points", storePoints L (sens.defaultCurve .onAc)),
     ("batt_regression_points", storePoints L (sens.defaultCurve .onBattery))])

def storeOverride (m : Sigma fun _ : MonId => AcState → Curve) : S := L.group [
  ("monitor_id", L.string m.1),
  ("ac_regression_points", storePoints L (m.2 .onAc)),
  ("batt_regression_points", storePoints L (m.2 .onBattery))]

def storeOverrideSettings (sens : SensorConf) : S :=
  L.list (sens.specificCurves.entries.map (storeOverride L))

def storeKbdSettings (kbd : KbdConf) : S := L.group [
  ("disabled", L.bool kbd.disabled),
  ("ac_regression_points", storePoints L (kbd.curve .onAc)),
  ("batt_regression_points", storePoints L (kbd.curve .onBattery)),
  ("timeouts", L.storeTable acStates L.int kbd.timeout)]

def storeGammaSettings (gamma : GammaConf) : S := L.group [
  ("disabled", L.bool gamma.disabled),
  ("restore_on_exit", L.bool gamma.restore),
  ("no_smooth_transition", L.bool gamma.noSmooth),
  ("trans_step", L.int gamma.transStep),
  ("trans_timeout", L.int gamma.transTimeout),
  ("long_transition", L.bool gamma.longTransition),
  ("ambient_gamma", L.bool gamma.ambientGamma),
  ("temp", L.storeTable dayStates L.int gamma.temp)]

def storeLoc (loc : Loc) : List (String × S) :=
  if loc.lat ≠ latUndefined ∧ loc.lon ≠ lonUndefined then
    [("latitude", L.float loc.lat), ("longitude", L.float loc.lon)]
  else []

def storeDaytimeSettings (day : DaytimeConf) : S := L.group
  (storeLoc L day.loc ++
    [("event_duration", L.int day.eventDuration),
     ("sunrise_offset", L.int (day.eventsOs .sunrise)),
     ("sunset_offset", L.int (day.eventsOs .sunset)),
     ("sunrise", L.string (String.ofList (day.dayEvents .sunrise).1)),
     ("sunset", L.string (String.ofList (day.dayEvents .sunset).1))])

def storeDimmerSettings (dim : DimmerConf) : S := L.group [
  ("disabled", L.bool dim.disabled),
  ("no_smooth_transition", L.storeTable dimTrans L.bool fun t => (dim.smooth t).noSmooth),
  ("trans_steps", L.storeTable dimTrans L.float fun t => (dim.smooth t).transStep),
  ("trans_timeouts", L.storeTable dimTrans L.int fun t => (dim.smooth t).transTimeout),
  ("trans_fixed", L.storeTable dimTrans L.int fun t => (dim.smooth t).transFixed),
  ("dimmed_pct", L.float dim.dimmedPct),
  ("timeouts", L.storeTable acStates L.int dim.timeout)]

def storeDpmsSettings (dpms : DpmsConf) : S := L.group [
  ("disabled", L.bool dpms.disabled),
  ("timeouts", L.storeTable acStates L.int dpms.timeout)]

def storeScreenSettings (screen : ScreenConf) : S := L.group [
  ("disabled", L.bool screen.disabled),
  -- load_screen_settings knows this value as "contrib"
  ("content", L.float screen.contrib),
  ("timeouts", L.storeTable acStates L.int screen.timeout)]

def storeInhSettings (inh : InhConf) : S := L.group [
  ("disabled", L.bool inh.disabled),
  ("inhibit_docked", L.bool inh.inhibitDocked),
  ("inhibit_pm", L.bool inh.inhibitPm),
  ("inhibit_bl", L.bool inh.inhibitBl)]

/-- store_config: the root of the file written. -/
def storeConfig (cf : Conf) : S := L.group [
  ("verbose", L.bool cf.verbose),
  ("resumedelay", L.int cf.resumedelay),
  ("backlight", storeBacklightSettings L cf.bl),
  ("sensor", storeSensorsSettings L cf.sens),
  ("monitor_override", storeOverrideSettings L cf.sens),
  ("keyboard", storeKbdSettings L cf.kbd),
  ("gamma", storeGammaSettings L cf.gamma),
  ("daytime", storeDaytimeSettings L cf.day),
  ("dimmer", storeDimmerSettings L cf.dim),
  ("dpms", storeDpmsSettings L cf.dpms),
  ("screen", storeScreenSettings L cf.screen),
  ("inhibit", storeInhSettings L cf.inh)]

/-! ### Load -/

def loadTimeouts (g : S) (timeout : AcState → BlTime → ℤ) : AcState → BlTime → ℤ
  | .onAc => L.loadTable blTimes L.intElem g "ac_timeouts" (timeout .onAc)
  | .onBattery => L.loadTable blTimes L.intElem g "batt_timeouts" (timeout .onBattery)

def loadBacklightSettings (root : S) (bl : BlConf) : BlConf :=
  match L.member root "backlight" with
  | none => bl
  | some g =>
    { disabled := L.lookupBool g "disabled" bl.disabled
      restore := L.lookupBool g "restore_on_exit" bl.restore
      smooth :=
        { noSmooth := L.lookupBool g "no_smooth_transition" bl.smooth.noSmooth
          transStep := L.lookupFloat g "trans_step" bl.smooth.transStep
          transTimeout := L.lookupInt g "trans_timeout" bl.smooth.transTimeout
          transFixed := L.lookupInt g "trans_fixed" bl.smooth.transFixed }
      shutterThreshold := L.lookupFloat g "shutter_threshold" bl.shutterThreshold
      noAutoCalib := L.lookupBool g "no_auto_calibration" bl.noAutoCalib
      pauseOnLidClosed := L.lookupBool g "pause_on_lid_closed" bl.pauseOnLidClosed
      captureOnLidOpened := L.lookupBool g "capture_on_lid_opened" bl.captureOnLidOpened
      syncMonitorsDelay := L.lookupInt g "hotplug_delay" bl.syncMonitorsDelay
      timeout := loadTimeouts L g bl.timeout }

/-- The points of a curve, when there are 1 to MAX_SIZE_POINTS of them. -/
def readPoints (g : S) (k : String) :
    Option {ps : List ℚ // 0 < ps.length ∧ ps.length ≤ maxSizePoints} :=
  match L.member g k with
  | none => none
  | some s =>
    let ps := (List.range (L.length s)).map (L.floatElem s)
    if h : 0 < ps.length ∧ ps.length ≤ maxSizePoints then some ⟨ps, h⟩ else none

/-- The curve stays as it is when its points are missing or too many. -/
def loadPoints (g : S) (k : String) (c : Curve) : Curve :=
  match readPoints L g k with
  | none => c
  | some ps => { c with points := ps.1, nonempty := ps.2.1, bounded := ps.2.2 }

def loadCurves (g : S) (curve : AcState → Curve) : AcState → Curve
  | .onAc => loadPoints L g "ac_regression_points" (curve .onAc)
  | .onBattery => loadPoints L g "batt_regression_points" (curve .onBattery)

/-- A string setting is used only when it is not empty. -/
def loadString (g : S) (k : String) (old : Option String) : Option String :=
  match L.lookupString g k with
  | some s => if s = "" then old else some s
  | none => old

def loadSensorSettings (root : S) (sens : SensorConf) : SensorConf :=
  match L.member root "sensor" with
  | none => sens
  | some g =>
    { sens with
      devName := loadString L g "devname" sens.devName
      devOpts := loadString L g "settings" sens.devOpts
      numCaptures := L.loadTable acStates L.intElem g "captures" sens.numCaptures
      defaultCurve := loadCurves L g sens.defaultCurve }

/-- A curve in memory fresh from calloc. -/
def Curve.ofPoints (ps : {ps : List ℚ // 0 < ps.length ∧ ps.length ≤ maxSizePoints}) : Curve where
  points := ps.1
  fitParameters := (0, 0, 0)
  nonempty := ps.2.1
  bounded := ps.2.2

def overrideCurves (acPoints battPoints : {ps : List ℚ // 0 < ps.length ∧ ps.length ≤ maxSizePoints}) :
    AcState → Curve
  | .onAc => .ofPoints acPoints
  | .onBattery => .ofPoints battPoints

/-- One element of monitor_override: an id and both curves, or an error. -/
def loadOverride (setting : S) : Option (MonId × (AcState → Curve)) := do
  let monId ← L.lookupString setting "monitor_id"
  -- the id is checked first, then both curves
  if monId = "" then none
  let acPoints ← readPoints L setting "ac_regression_points"
  let battPoints ← readPoints L setting "batt_regression_points"
  return (monId, overrideCurves acPoints battPoints)

def putOverride (curves : AList fun _ : MonId => AcState → Curve) (setting : S) :
    AList fun _ : MonId => AcState → Curve :=
  match loadOverride L setting with
  | some (monId, curve) => curves.insert monId curve
  | none => curves

def loadOverrideSettings (root : S) (sens : SensorConf) : SensorConf :=
  match L.member root "monitor_override" with
  | none => sens
  | some g =>
    { sens with
      specificCurves :=
        ((List.range (L.length g)).filterMap (L.elem g)).foldl (putOverride L) sens.specificCurves }

def loadKbdSettings (root : S) (kbd : KbdConf) : KbdConf :=
  match L.member root "keyboard" with
  | none => kbd
  | some g =>
    { disabled := L.lookupBool g "disabled" kbd.disabled
      timeout := L.loadTable acStates L.intElem g "timeouts" kbd.timeout
      curve := loadCurves L g kbd.curve }

def loadGammaSettings (root : S) (gamma : GammaConf) : GammaConf :=
  match L.member root "gamma" with
  | none => gamma
  | some g =>
    { disabled := L.lookupBool g "disabled" gamma.disabled
      restore := L.lookupBool g "restore_on_exit" gamma.restore
      noSmooth := L.lookupBool g "no_smooth_transition" gamma.noSmooth
      transStep := L.lookupInt g "trans_step" gamma.transStep
      transTimeout := L.lookupInt g "trans_timeout" gamma.transTimeout
      longTransition := L.lookupBool g "long_transition" gamma.longTransition
      ambientGamma := L.lookupBool g "ambient_gamma" gamma.ambientGamma
      temp := L.loadTable dayStates L.intElem g "temp" gamma.temp }

/-- strncpy into a char[10]: what fits is kept, the rest is zeroed. -/
def EventTime.ofString (s : String) : EventTime := ⟨s.toList.take 9, List.length_take_le 9 _⟩

def loadOffsets (g : S) (eventsOs : DayEvent → ℤ) : DayEvent → ℤ
  | .sunrise => L.lookupInt g "sunrise_offset" (eventsOs .sunrise)
  | .sunset => L.lookupInt g "sunset_offset" (eventsOs .sunset)

def loadEvents (g : S) (dayEvents : DayEvent → EventTime) : DayEvent → EventTime
  | .sunrise => ((L.lookupString g "sunrise").map EventTime.ofString).getD (dayEvents .sunrise)
  | .sunset => ((L.lookupString g "sunset").map EventTime.ofString).getD (dayEvents .sunset)

def loadDaySettings (root : S) (day : DaytimeConf) : DaytimeConf :=
  match L.member root "daytime" with
  | none => day
  | some g =>
    { loc :=
        { lat := L.lookupFloat g "latitude" day.loc.lat
          lon := L.lookupFloat g "longitude" day.loc.lon }
      eventDuration := L.lookupInt g "event_duration" day.eventDuration
      eventsOs := loadOffsets L g day.eventsOs
      dayEvents := loadEvents L g day.dayEvents }

/-- A double assigned to an int flag is truncated first. -/
def flagElem (s : S) (i : ℕ) : Bool := truncRat (L.floatElem s i) ≠ 0

def loadDimmerSettings (root : S) (dim : DimmerConf) : DimmerConf :=
  match L.member root "dimmer" with
  | none => dim
  | some g =>
    { disabled := L.lookupBool g "disabled" dim.disabled
      dimmedPct := L.lookupFloat g "dimmed_pct" dim.dimmedPct
      smooth := fun t =>
        { noSmooth := L.loadTable dimTrans (flagElem L) g "no_smooth_transition"
            (fun t => (dim.smooth t).noSmooth) t
          transStep := L.loadTable dimTrans L.floatElem g "trans_steps"
            (fun t => (dim.smooth t).transStep) t
          transTimeout := L.loadTable dimTrans L.intElem g "trans_timeouts"
            (fun t => (dim.smooth t).transTimeout) t
          transFixed := L.loadTable dimTrans L.intElem g "trans_fixed"
            (fun t => (dim.smooth t).transFixed) t }
      timeout := L.loadTable acStates L.intElem g "timeouts" dim.timeout }

def loadDpmsSettings (root : S) (dpms : DpmsConf) : DpmsConf :=
  match L.member root "dpms" with
  | none => dpms
  | some g =>
    { disabled := L.lookupBool g "disabled" dpms.disabled
      timeout := L.loadTable acStates L.intElem g "timeouts" dpms.timeout }

def loadScreenSettings (root : S) (screen : ScreenConf) : ScreenConf :=
  match L.member root "screen" with
  | none => screen
  | some g =>
    { disabled := L.lookupBool g "disabled" screen.disabled
      contrib := L.lookupFloat g "contrib" screen.contrib
      timeout := L.loadTable acStates L.intElem g "timeouts" screen.timeout }

def loadInhSettings (root : S) (inh : InhConf) : InhConf :=
  match L.member root "inhibit" with
  | none => inh
  | some g =>
    { disabled := L.lookupBool g "disabled" inh.disabled
      inhibitDocked := L.lookupBool g "inhibit_docked" inh.inhibitDocked
      inhibitPm := L.lookupBool g "inhibit_pm" inh.inhibitPm
      inhibitBl := L.lookupBool g "inhibit_bl" inh.inhibitBl }

/-- read_config, for a file that was parsed. -/
def readConfig (root : S) (cf : Conf) : Conf where
  verbose := L.lookupBool root "verbose" cf.verbose
  resumedelay := L.lookupInt root "resumedelay" cf.resumedelay
  bl := loadBacklightSettings L root cf.bl
  sens := loadOverrideSettings L root (loadSensorSettings L root cf.sens)
  kbd := loadKbdSettings L root cf.kbd
  gamma := loadGammaSettings L root cf.gamma
  day := loadDaySettings L root cf.day
  dim := loadDimmerSettings L root cf.dim
  dpms := loadDpmsSettings L root cf.dpms
  screen := loadScreenSettings L root cf.screen
  inh := loadInhSettings L root cf.inh
  wizard := cf.wizard

end Clight
