import Clight.Ctx
import Clight.Curve

/-! The BACKLIGHT module (backlight.c): startup, captures, pausing, and the
levels it commands on Clightd. -/
namespace Clight

inductive BlRecv | waitingInit | paused
  deriving DecidableEq

/-- The messages that receive_waiting_init has seen. -/
structure BlStarted where
  upower : Bool
  lid : Bool
  daytime : Bool
  screen : Bool
  deriving DecidableEq

def BlStarted.all (ok : BlStarted) : Bool := ok.upower && ok.lid && ok.daytime && ok.screen

structure Backlight where
  stack : RecvStack BlRecv
  ok : BlStarted
  paused : PauseMask
  blFd : TimerFd
  blRegistered : Bool
  delayedFd : TimerFd
  delayedRegistered : Bool
  bls : AList fun _ : MonId => ℚ
  backlightInterface : Option MonId
  blReq : BlUpd
  captureReq : CaptureUpd

def Backlight.init : Backlight where
  stack := [.waitingInit]
  ok := ⟨false, false, false, false⟩
  paused := .unpaused
  blFd := .disarmed
  blRegistered := false
  delayedFd := .disarmed
  delayedRegistered := false
  bls := ∅
  backlightInterface := none
  blReq := { new := 0, smooth := -1, timeout := 0, step := 0 }
  captureReq := { resetTimer := true, captureOnly := false }

inductive BlCall
  | set (pct step : ℚ) (timeout : ℤ)
  | setMonitor (mon : MonId) (pct step : ℚ) (timeout : ℤ)

structure BlReplies where
  sensor : Bool
  capture : Option ℚ
  levels : List (MonId × ℚ)
  setSent : Bool

abbrev BlCtx := Ctx Backlight BlCall

namespace Backlight

def getCurrentTimeout (c : BlCtx) : ℤ :=
  c.cf.bl.timeoutAt c.st.acState
    (if c.st.inEvent then some .inEvent else c.st.dayTime.map DayState.toBlTime)

def pauseMod (reason : ModPause) (c : BlCtx) : BlCtx :=
  let chk := modCheckPause true reason c.loc.paused
  { c with loc := { c.loc with
      paused := chk.1
      stack := if chk.2 then become .paused c.loc.stack else c.loc.stack
      blRegistered := if chk.2 then false else c.loc.blRegistered } }

def resumeMod (reason : ModPause) (c : BlCtx) : BlCtx :=
  let chk := modCheckPause false reason c.loc.paused
  { c with loc := { c.loc with
      paused := chk.1
      stack := if chk.2 then unbecome c.loc.stack else c.loc.stack
      blRegistered := if chk.2 then true else c.loc.blRegistered } }

/-- `if (on) pause_mod(reason) else resume_mod(reason)`. -/
def pauseIf (on : Bool) (reason : ModPause) (c : BlCtx) : BlCtx :=
  if on then pauseMod reason c else resumeMod reason c

def setBlFd (t : TimerFd) (c : BlCtx) : BlCtx := { c with loc := { c.loc with blFd := t } }

/-- reset_or_pause: pauses BACKLIGHT if the timeout in force is not positive. -/
def resetOrPause (oldTimeout : ℤ) (reset : Bool) (c : BlCtx) : BlCtx :=
  let newTimeout := getCurrentTimeout c
  if newTimeout ≤ 0 then pauseMod .timeout c
  else
    let c := resumeMod .timeout c
    if reset then setBlFd (resetTimer oldTimeout newTimeout c.loc.blFd) c else c

def upowerCallback (c : BlCtx) : BlCtx :=
  setBlFd (setTimeout 0 (if 0 < getCurrentTimeout c then 1 else 0)) c

def dimmedCallback (c : BlCtx) : BlCtx := pauseIf c.st.displayBusy .display c

def suspendedCallback (c : BlCtx) : BlCtx := pauseIf c.st.suspended .suspend c

def inhibitCallback (c : BlCtx) : BlCtx :=
  pauseIf (c.st.inhibited && c.cf.inh.inhibitBl) .inhibit c

/-- time_callback; `oldVal` is the daytime before a DAYTIME_UPD. -/
def timeCallback (oldVal : Option DayState) (isEvent : Bool) (c : BlCtx) : BlCtx :=
  let oldCell :=
    if isEvent then
      if c.st.inEvent then c.st.dayTime.map DayState.toBlTime else some .inEvent
    else oldVal.map DayState.toBlTime
  resetOrPause (c.cf.bl.timeoutAt c.st.acState oldCell) true c

def onLidUpdate (c : BlCtx) : BlCtx :=
  if c.st.lidShut then
    if c.cf.bl.pauseOnLidClosed then pauseMod .lid c else c
  else
    -- a capture at once, by way of the timer
    let c := if c.cf.bl.captureOnLidOpened then setBlFd (setTimeout 0 1) c else c
    resumeMod .lid c

def onSensorChange (r : BlReplies) (c : BlCtx) : BlCtx :=
  if c.st.sensAvail = some r.sensor then c
  else
    let c := c.publish (.sensUpd c.st.sensAvail r.sensor)
    let c := { c with st := { c.st with sensAvail := some r.sensor } }
    if r.sensor then resumeMod .sensor c else pauseMod .sensor c

/-- interface_timeout_callback, on a request that passed validate_timeout. -/
def interfaceTimeoutCallback (ac : AcState) (up : TimeoutUpd) (c : BlCtx) : BlCtx :=
  match BlTime.ofInt? up.daytime with
  | none => c
  | some t =>
    let old := getCurrentTimeout c
    let c := { c with cf := { c.cf with bl := { c.cf.bl with
      timeout := Function.update c.cf.bl.timeout ac
        (Function.update (c.cf.bl.timeout ac) t up.new) } } }
    -- only a write to the cell in force tells on the timer
    if c.st.acState = some ac ∧ (c.st.dayTime.map DayState.toBlTime = some t ∨
        c.st.inEvent = true ∧ t = .inEvent) then
      resetOrPause old true c
    else c

def interfaceAutocalibCallback (new : Bool) (c : BlCtx) : BlCtx :=
  let c := { c with cf := { c.cf with bl := { c.cf.bl with noAutoCalib := new } } }
  let c := pauseIf new .autocalib c
  c.publish (.noAutocalibUpd new)

/-- interface_curve_callback with points that passed validate_curve. -/
def interfaceCurveCallback (fit : Fit) (pts : List ℚ) (ac : AcState) (c : BlCtx) : BlCtx :=
  let curve := Curve.refit fit pts (c.cf.sens.defaultCurve ac)
  { c with cf := { c.cf with sens := { c.cf.sens with
    defaultCurve := Function.update c.cf.sens.defaultCurve ac curve } } }

def publishBlUpd (pct : ℚ) (isSmooth : Bool) (step : ℚ) (timeout : ℤ) (c : BlCtx) : BlCtx :=
  c.publish (.blUpd c.st.currentBlPct
    { new := pct, smooth := if isSmooth then 1 else 0, timeout := timeout, step := step })

/-- The level set_each_brightness commands on a monitor: the saved one when
restoring, else the requested one, mapped by the monitor's own curve if any. -/
def monitorLevel (c : BlCtx) (pct : Option ℚ) (mon : MonId) (saved : ℚ) : ℚ :=
  match pct with
  | none => saved
  | some pct =>
    match c.cf.sens.specificCurves.lookup mon with
    | none => pct
    | some curve => match c.st.acState with
      | some ac => getValueFromCurve pct (curve ac)
      | none => pct

/-- set_each_brightness; `none` stands for -1, restore the saved levels. -/
def setEachBrightness (pct : Option ℚ) (step : ℚ) (timeout : ℤ) (c : BlCtx) : BlCtx :=
  { c with calls := c.calls ++ c.loc.bls.entries.map fun e =>
      .setMonitor e.1 (monitorLevel c pct e.1 e.2) step timeout }

def setBacklightLevel (r : BlReplies) (pct : ℚ) (isSmooth : Bool) (step : ℚ) (timeout : ℤ)
    (c : BlCtx) : BlCtx :=
  let step := if isSmooth then step else 0
  let timeout := if isSmooth then timeout else 0
  -- with overrides each monitor gets a level of its own
  if c.cf.sens.specificCurves.keys ≠ [] then setEachBrightness (some pct) step timeout c
  else
    let c := c.call (.set pct step timeout)
    if r.setSent && isSmooth then publishBlUpd pct true step timeout c else c

/-- The level set_new_backlight computes from a curve, the last ambient
brightness and the screen brightness, 0 meaning that there is none. -/
def newBacklight (curve : Curve) (ambientBr screenBr contrib : ℚ) : ℚ :=
  let newBl := getValueFromCurve ambientBr curve
  if screenBr = 0 then newBl
  else clamp (newBl + contrib - 2 * contrib * screenBr) curve.top curve.bottom

/-- The level of the static request, the only field of it that is written. -/
def storeBlReq (new : ℚ) (c : BlCtx) : BlCtx :=
  { c with loc := { c.loc with blReq := { c.loc.blReq with new := new } } }

/-- The end of set_new_backlight: less verbose, it only asks for real changes. -/
def requestBacklight (new : ℚ) (c : BlCtx) : BlCtx :=
  if new ≠ c.st.currentBlPct ∨ c.cf.verbose = true then (storeBlReq new c).publish .blReqStatic
  else storeBlReq new c

/-- set_new_backlight. With no AC state there is no curve to read; BACKLIGHT has one
as soon as it runs. -/
def setNewBacklight (c : BlCtx) : BlCtx :=
  match c.st.acState with
  | none => c
  | some ac => requestBacklight (newBacklight (c.cf.sens.defaultCurve ac) c.st.ambientBr
      c.st.screenBr c.cf.screen.contrib) c

theorem requestBacklight_eq (new : ℚ) (c : BlCtx) : ∃ out, (out = [] ∨ out = [Msg.blReqStatic]) ∧
    requestBacklight new c = { storeBlReq new c with out := c.out ++ out } := by
  unfold requestBacklight
  split_ifs
  · exact ⟨_, .inr rfl, rfl⟩
  · refine ⟨[], .inl rfl, ?_⟩
    rw [List.append_nil]
    rfl

/-- set_new_backlight writes the level of the static request, and may publish it. -/
theorem setNewBacklight_eq (c : BlCtx) : ∃ new out, (out = [] ∨ out = [Msg.blReqStatic]) ∧
    setNewBacklight c = { storeBlReq new c with out := c.out ++ out } := by
  unfold setNewBacklight
  cases c.st.acState with
  | none =>
    -- nothing is written: the level that was there
    refine ⟨c.loc.blReq.new, [], .inl rfl, ?_⟩
    rw [List.append_nil]
    rfl
  | some ac => exact ⟨_, requestBacklight_eq _ c⟩

/-- What do_capture does with the outcome of Capture. -/
def captured (reply : Option ℚ) (captureOnly : Bool) (c : BlCtx) : BlCtx :=
  match reply with
  | none => c
  | some br =>
    let old := c.st.ambientBr
    let c := { c with st := { c.st with ambientBr := br } }
    let c := c.publish (.ambientBrUpd old br)
    if c.cf.bl.shutterThreshold ≤ br ∧ captureOnly = false then setNewBacklight c else c

def doCapture (r : BlReplies) (reset captureOnly : Bool) (c : BlCtx) : BlCtx :=
  let c := captured r.capture captureOnly c
  if reset then setBlFd (setTimeout (getCurrentTimeout c) 0) c else c

/-- on_delayed_interface: a sync of gamma and backlight on all monitors. -/
def onDelayedInterface (c : BlCtx) : BlCtx :=
  let c := c.publish (.tempReq .backlight
    { daytime := -1, new := c.st.currentTemp, smooth := -1, step := 0, timeout := 0 })
  let c := c.publish (.blReq { new := c.st.currentBlPct, smooth := -1, timeout := 0, step := 0 })
  { c with loc := { c.loc with delayedRegistered := false } }

/-- Tail of the hotplug signals: sync now, or after the configured delay. -/
def scheduleSync (c : BlCtx) : BlCtx :=
  if 0 < c.cf.bl.syncMonitorsDelay then
    { c with loc := { c.loc with
        delayedFd := setTimeout c.cf.bl.syncMonitorsDelay 0, delayedRegistered := true } }
  else onDelayedInterface c

def onInterfaceAdded (mon : MonId) (c : BlCtx) : BlCtx :=
  scheduleSync { c with loc := { c.loc with bls := c.loc.bls.insert mon 1 } }

/-- on_interface_removed; `none` when it compares with an unset
backlight_interface, which no defined run survives. -/
def onInterfaceRemoved (mon : MonId) (c : BlCtx) : Option BlCtx :=
  match c.loc.backlightInterface with
  | none => none
  | some bi => some (scheduleSync { c with loc := { c.loc with
      backlightInterface := if bi = mon then none else some bi
      bls := c.loc.bls.erase mon } })

/-- on_bl_changed: only the first monitor heard of publishes its level. -/
def onBlChanged (mon : MonId) (pct : ℚ) (c : BlCtx) : BlCtx :=
  let bi := c.loc.backlightInterface.getD mon
  let c := { c with loc := { c.loc with backlightInterface := some bi } }
  if bi = mon then
    let c := publishBlUpd pct false 0 0 c
    { c with st := { c.st with currentBlPct := pct } }
  else c

/-- The startup of BACKLIGHT, once receive_waiting_init has seen all it waits for. -/
def startup (r : BlReplies) (c : BlCtx) : BlCtx :=
  let c := { c with loc := { c.loc with
    stack := unbecome c.loc.stack
    blFd := setTimeout 0 (if 0 < getCurrentTimeout c then 1 else 0)
    blRegistered := true } }
  let c := resetOrPause (-1) false c
  let c := onSensorChange r c
  -- full brightness is forced first, for DIMMER to start from a known level
  let c := if c.cf.bl.noAutoCalib then
      pauseMod .autocalib (setBacklightLevel r 1 (!c.cf.bl.smooth.noSmooth) 0 0 c)
    else c
  let c := if c.st.lidShut then onLidUpdate c else c
  { c with loc := { c.loc with bls := r.levels.foldl (fun b e => b.insert e.1 e.2) c.loc.bls } }

/-- The flags of receive_waiting_init after a message. -/
def started (cf : Conf) (m : Msg) (ok : BlStarted) : BlStarted :=
  let ok := if cf.screen.disabled then { ok with screen := true } else ok
  match m with
  | .upowerUpd _ _ => { ok with upower := true }
  | .lidUpd _ _ => { ok with lid := true }
  | .daytimeUpd _ _ => { ok with daytime := true }
  | .screenBrUpd _ _ => { ok with screen := true }
  | .systemUpd (.moduleStarted .wizard) => ⟨true, true, true, true⟩
  | .systemUpd (.moduleStopped .screen) => { ok with screen := true }
  | _ => ok

def receiveWaitingInit (r : BlReplies) (m : Msg) (c : BlCtx) : BlCtx :=
  let c := { c with loc := { c.loc with ok := started c.cf m c.loc.ok } }
  if c.loc.ok.all then startup r c else c

/-- CURVE_REQ, in both receivers. -/
def onCurveReq (fit : Fit) (up : CurveUpd) (c : BlCtx) : BlCtx :=
  let v := validateCurve c.st up
  if v.2 then
    match AcState.ofInt? v.1.state, v.1.regressionPoints with
    | some ac, some pts => interfaceCurveCallback fit pts ac c
    | _, _ => c
  else c

/-- BL_TO_REQ, in both receivers. -/
def onBlToReq (up : TimeoutUpd) (c : BlCtx) : BlCtx :=
  let v := (validateTimeout c.st up).1
  match AcState.ofInt? v.state with
  | some ac => interfaceTimeoutCallback ac v c
  | none => c

/-- NO_AUTOCALIB_REQ, in both receivers. -/
def onNoAutocalibReq (new : Bool) (c : BlCtx) : BlCtx :=
  if validateAutocalib c.cf new then interfaceAutocalibCallback new c else c

/-- BL_REQ; `accept` is the receiver's own guard, checked after the validator. -/
def onBlReq (r : BlReplies) (accept : Bool) (up : BlUpd) (c : BlCtx) : BlCtx :=
  let v := validateBacklight c.cf c.st up
  if v.2 && accept then
    setBacklightLevel r v.1.new (v.1.smooth ≠ 0) v.1.step v.1.timeout c
  else c

/-- The module's own BL_REQ: the validator rewrites the static message. -/
def onBlReqStatic (r : BlReplies) (accept : Bool) (c : BlCtx) : BlCtx :=
  let up := c.loc.blReq
  onBlReq r accept up
    { c with loc := { c.loc with blReq := (validateBacklight c.cf c.st up).1 } }

def onLoopStopped (c : BlCtx) : BlCtx :=
  if c.cf.bl.restore then setEachBrightness none 0 0 c else c

def readDelayed (c : BlCtx) : BlCtx :=
  { c with loc := { c.loc with delayedFd := c.loc.delayedFd.read } }

/-- bl_fd expired: BACKLIGHT asks itself for a capture. -/
def onBlFd (c : BlCtx) : BlCtx :=
  let c := setBlFd c.loc.blFd.read c
  let c := { c with loc := { c.loc with
    captureReq := { c.loc.captureReq with captureOnly := c.st.screenBr ≠ 0 } } }
  c.publish .captureReqStatic

def receive (fit : Fit) (r : BlReplies) (m : Msg) (c : BlCtx) : BlCtx :=
  match m with
  | .fdUpd .delayed => onDelayedInterface (readDelayed c)
  | .fdUpd _ => onBlFd c
  | .screenBrUpd _ _ => setNewBacklight c
  | .upowerUpd _ _ => upowerCallback c
  | .displayUpd _ _ => dimmedCallback c
  | .inEventUpd _ _ => timeCallback none true c
  | .daytimeUpd old _ => timeCallback old false c
  | .lidUpd _ _ => onLidUpdate c
  | .suspendUpd _ _ => suspendedCallback c
  | .inhibitUpd _ _ => inhibitCallback c
  | .blToReq up => onBlToReq up c
  | .captureReq _ up => doCapture r up.resetTimer up.captureOnly c
  | .captureReqStatic => doCapture r c.loc.captureReq.resetTimer c.loc.captureReq.captureOnly c
  | .curveReq up => onCurveReq fit up c
  | .noAutocalibReq new => onNoAutocalibReq new c
  | .blReq up => onBlReq r true up c
  | .blReqStatic => onBlReqStatic r true c
  | .systemUpd .loopStopped => onLoopStopped c
  | _ => c

/-- receive_paused. Only the delayed descriptor is registered while paused. -/
def receivePaused (fit : Fit) (r : BlReplies) (m : Msg) (c : BlCtx) : BlCtx :=
  match m with
  | .fdUpd _ => onDelayedInterface (readDelayed c)
  | .screenBrUpd _ _ => if c.st.displayBusy then c else setNewBacklight c
  | .upowerUpd _ _ => upowerCallback c
  | .displayUpd _ _ => dimmedCallback c
  | .inEventUpd _ _ => timeCallback none true c
  | .daytimeUpd old _ => timeCallback old false c
  | .lidUpd _ _ => onLidUpdate c
  | .suspendUpd _ _ => suspendedCallback c
  | .inhibitUpd _ _ => inhibitCallback c
  | .blToReq up => onBlToReq up c
  | .captureReq _ up =>
    if !c.st.displayBusy && c.st.sensOk then doCapture r up.resetTimer up.captureOnly c else c
  | .captureReqStatic =>
    if !c.st.displayBusy && c.st.sensOk then
      doCapture r c.loc.captureReq.resetTimer c.loc.captureReq.captureOnly c
    else c
  | .curveReq up => onCurveReq fit up c
  | .noAutocalibReq new => onNoAutocalibReq new c
  | .blReq up => onBlReq r (!c.st.displayBusy) up c
  | .blReqStatic => onBlReqStatic r (!c.st.displayBusy) c
  | .systemUpd .loopStopped => onLoopStopped c
  | _ => c

/-- What the module does with a message: the receiver on top of its stack runs. -/
def handle (fit : Fit) (r : BlReplies) (m : Msg) (c : BlCtx) : BlCtx :=
  match c.loc.stack with
  | .waitingInit :: _ => receiveWaitingInit r m c
  | .paused :: _ => receivePaused fit r m c
  | [] => receive fit r m c

def subscribes : Msg → Bool
  | .upowerUpd .. | .displayUpd .. | .lidUpd .. | .suspendUpd .. | .daytimeUpd .. | .inEventUpd ..
  | .blToReq .. | .captureReq .. | .captureReqStatic | .curveReq .. | .noAutocalibReq ..
  | .blReq .. | .blReqStatic | .blReqDimmer | .inhibitUpd .. | .screenBrUpd .. => true
  | _ => false

end Backlight
end Clight
