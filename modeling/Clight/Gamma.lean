import Clight.Binary64
import Clight.Ctx

/-! The GAMMA module (gamma.c): startup, pausing, and the temperatures it commands on
Clightd. -/
namespace Clight

inductive GammaRecv | waitingDaytime | paused
  deriving DecidableEq

structure Gamma where
  stack : RecvStack GammaRecv
  paused : PauseMask
  initialTemp : ℤ
  longTransitioning : Bool
  shouldSyncTemp : Bool
  lastT : ℤ
  isToggled : Bool

/-- GAMMA after init; Clightd tells the temperature found. -/
def Gamma.init (initialTemp : ℤ) : Gamma where
  stack := [.waitingDaytime]
  paused := .unpaused
  initialTemp := initialTemp
  longTransitioning := false
  shouldSyncTemp := false
  lastT := 0
  isToggled := false

/-- Gamma Set of Clightd, and each subscript of conf.gamma_conf.temp that is not a constant. -/
inductive GammaCall
  | set (temp : ℤ) (smooth : ℤ) (step timeout : ℤ)
  | subscript (i : ℤ)

/-- What a receiver asks of the outside: the time, the local year and day of an instant,
whether Gamma Set succeeds, whether DAYTIME is stopped, and the int that lies outside of the
table of temperatures. -/
structure GammaReplies where
  now : ℤ
  localDay : ℤ → ℤ × ℤ
  sent : Bool
  daytimeStopped : Bool
  junk : ℤ

abbrev GammaCtx := Ctx Gamma GammaCall

namespace Gamma

/-- conf.gamma_conf.temp[state.day_time], if the daytime is known. -/
def tempAt (t : DayState → ℤ) (d : Option DayState) : Option ℤ := d.map t

/-- C's `!state.day_time`. -/
def otherDay : Option DayState → DayState
  | some d => d.other
  | none => .day

/-- The table of temperatures is read or written at `i`, which C takes as unsigned. -/
def subscript (i : ℤ) (c : GammaCtx) : GammaCtx := c.call (.subscript (toUInt32 i))

/-- Goes on with the temperature of the current daytime. While that is -1 the subscript is 4294967295,
where there is no memory to read: the daemon dies. -/
def withCurrentTemp (f : ℤ → GammaCtx → GammaCtx) (c : GammaCtx) : GammaCtx :=
  match tempAt c.cf.gamma.temp c.st.dayTime with
  | some temp => f temp (subscript (dayInt c.st.dayTime) c)
  | none => subscript (dayInt c.st.dayTime) c

def longTransTimeout : ℤ := 10

def publishTempUpd (temp smooth step timeout : ℤ) (c : GammaCtx) : GammaCtx :=
  c.publish (.tempUpd c.st.currentTemp
    { daytime := dayInt c.st.dayTime, new := temp, smooth := smooth, step := step, timeout := timeout })

def tempDiff (cf : GammaConf) : ℤ := |cf.temp .day - cf.temp .night|

/-- The temperature, step and timeout that a long transition replaces the given ones by.
A timeout of 0, where the conversion of the step is not defined in C, gives a step of 0. -/
def longTransition (temp now : ℤ) (c : GammaCtx) : ℤ × ℤ × ℤ :=
  let next := (c.st.nextEvent.map c.st.dayEvents).getD 0
  let duration := c.cf.day.eventDuration
  let timeout := toInt32 (if c.st.eventTimeRange = 0 then (next - now) + duration
    else duration - (now - next))
  let temp := if c.st.eventTimeRange = 0 then c.cf.gamma.temp (otherDay c.st.dayTime) else temp
  -- the step is divided as a double
  (temp, truncRat (Binary64.div (tempDiff c.cf.gamma) (Binary64.div timeout longTransTimeout)),
    longTransTimeout * 1000)

/-- set_temp; `now` is the time that daytime requests give. -/
def setTemp (r : GammaReplies) (temp : ℤ) (now : Option ℤ) (smooth step timeout : ℤ)
    (c : GammaCtx) : GammaCtx :=
  -- a long transition only starts on a daytime request, within an event
  let long := c.cf.gamma.longTransition && now.isSome && c.st.inEvent
  let p := longTransition temp (now.getD 0) c
  let temp := if long then p.1 else temp
  let smooth := if long then 1 else smooth
  let step := if long then p.2.1 else step
  let timeout := if long then p.2.2 else timeout
  let c := if long && c.st.eventTimeRange = 0 then subscript (otherDay c.st.dayTime).toInt c else c
  let c := { c with loc := { c.loc with longTransitioning := long } }.call (.set temp smooth step timeout)
  if r.sent && (long || !c.cf.gamma.noSmooth) then publishTempUpd temp smooth step timeout c else c

/-- `!conf.gamma_conf.no_smooth`, as the int that Clightd takes. -/
def smoothInt (cf : GammaConf) : ℤ := if cf.noSmooth then 0 else 1

def setTempConf (r : GammaReplies) (temp : ℤ) (now : Option ℤ) (c : GammaCtx) : GammaCtx :=
  setTemp r temp now (smoothInt c.cf.gamma) c.cf.gamma.transStep c.cf.gamma.transTimeout c

def ambientCallback (r : GammaReplies) (smooth : Bool) (new : ℚ) (c : GammaCtx) : GammaCtx :=
  if c.cf.gamma.ambientGamma && !c.st.displayBusy && (smooth || c.cf.bl.smooth.noSmooth) then
    let minTemp := if c.cf.gamma.temp .night < c.cf.gamma.temp .day then c.cf.gamma.temp .night
      else c.cf.gamma.temp .day
    setTempConf r (truncRat (tempDiff c.cf.gamma * new + minTemp)) none c
  else c

def onNewNextDayevt (c : GammaCtx) : GammaCtx :=
  { c with loc := { c.loc with longTransitioning := false } }

def onDaytimeReq (r : GammaReplies) (c : GammaCtx) : GammaCtx :=
  -- a transition that was left over from another day ends here
  let c := if c.loc.longTransitioning && r.localDay r.now ≠ r.localDay c.loc.lastT then
    onNewNextDayevt c else c
  let c := { c with loc := { c.loc with lastT := r.now } }
  if !c.loc.longTransitioning && !c.cf.gamma.ambientGamma then
    withCurrentTemp (fun temp => setTempConf r temp (some r.now)) c
  else c

def setAmbientGamma (new : Bool) (c : GammaCtx) : GammaCtx :=
  { c with cf := { c.cf with gamma := { c.cf.gamma with ambientGamma := new } } }

def onAmbgammaReq (r : GammaReplies) (new : Bool) (c : GammaCtx) : GammaCtx :=
  let c := setAmbientGamma new c
  if new then ambientCallback r true c.st.currentBlPct c
  else withCurrentTemp (fun temp => setTempConf r temp none) c

def storeTemp (d : DayState) (temp : ℤ) (c : GammaCtx) : GammaCtx :=
  { c with cf := { c.cf with gamma := { c.cf.gamma with
      temp := Function.update c.cf.gamma.temp d temp } } }

/-- interface_callback, on a request that passed validate_temp. -/
def interfaceCallback (r : GammaReplies) (d : DayState) (req : TempUpd) (c : GammaCtx) : GammaCtx :=
  let c := storeTemp d req.new (subscript d.toInt c)
  -- the temperature of the other daytime is only stored
  if !c.cf.gamma.ambientGamma && c.st.dayTime = some d then
    setTemp r req.new none req.smooth req.step req.timeout c
  else ambientCallback r true c.st.currentBlPct c

def onTempChanged (new : ℤ) (c : GammaCtx) : GammaCtx :=
  let c := publishTempUpd new 0 |c.st.currentTemp - new| 0 c
  { c with st := { c.st with currentTemp := new } }

def pauseMod (r : GammaReplies) (pause : Bool) (reason : ModPause) (c : GammaCtx) : GammaCtx :=
  let chk := modCheckPause pause reason c.loc.paused
  let c := { c with loc := { c.loc with paused := chk.1 } }
  if chk.2 then
    if pause then { c with loc := { c.loc with stack := become .paused c.loc.stack } }
    else
      let c := { c with loc := { c.loc with stack := unbecome c.loc.stack } }
      -- a request that came while paused is made up for
      if c.loc.shouldSyncTemp then
        onDaytimeReq r { c with loc := { c.loc with shouldSyncTemp := false } }
      else c
  else c

def methodToggleGamma (r : GammaReplies) (c : GammaCtx) : GammaCtx :=
  let toggle (temp : ℤ) (c : GammaCtx) : GammaCtx :=
    setTemp r temp none 0 0 0 { c with loc := { c.loc with isToggled := !c.loc.isToggled } }
  if c.loc.isToggled then withCurrentTemp toggle c
  else toggle (c.cf.gamma.temp (otherDay c.st.dayTime)) (subscript (otherDay c.st.dayTime).toInt c)

/-- A Toggle that reads the temperature of an unknown daytime. -/
def toggleDies (c : GammaCtx) : Bool := c.loc.isToggled && c.st.dayTime.isNone

/-- validate_temp reads the temperature that a request for 0 stands for, before it checks the
daytime. -/
def validateSubscript (up : TempUpd) (c : GammaCtx) : GammaCtx :=
  if up.new = 0 then subscript (if up.daytime = -1 then dayInt c.st.dayTime else up.daytime) c else c

/-- A request that passes validate_temp, with the daytime it is about. -/
def acceptTemp (r : GammaReplies) (up : TempUpd) (c : GammaCtx) : Option (DayState × TempUpd) :=
  let v := validateTemp c.cf c.st r.junk up
  if v.2 then (DayState.ofInt? v.1.daytime).map fun d => (d, v.1) else none

/-- The TEMP_REQ of `receive`: DAYTIME's own requests only ask for a refresh. -/
def onTempReq (r : GammaReplies) (sender : ModName) (up : TempUpd) (c : GammaCtx) : GammaCtx :=
  let c := validateSubscript up c
  match acceptTemp r up c with
  | some (d, req) => if sender = .daytime then onDaytimeReq r c else interfaceCallback r d req c
  | none => c

def receive (r : GammaReplies) (m : Msg) (c : GammaCtx) : GammaCtx :=
  match m with
  | .blUpd _ up => ambientCallback r (up.smooth ≠ 0) up.new c
  | .tempReq sender up => onTempReq r sender up c
  | .ambGammaReq new => if validateAmbgamma c.cf new then onAmbgammaReq r new c else c
  | .nextDayevtUpd _ _ => onNewNextDayevt c
  | .suspendUpd _ _ => pauseMod r c.st.suspended .suspend c
  | .systemUpd .loopStopped =>
    if c.loc.initialTemp ≠ 0 ∧ c.cf.gamma.restore = true then setTemp r c.loc.initialTemp none 0 0 0 c
    else c
  | _ => c

def receivePaused (r : GammaReplies) (m : Msg) (c : GammaCtx) : GammaCtx :=
  match m with
  | .tempReq sender up =>
    let c := validateSubscript up c
    if (acceptTemp r up c).isSome ∧ sender = .daytime then
      { c with loc := { c.loc with shouldSyncTemp := true } }
    else c
  | .nextDayevtUpd _ _ => onNewNextDayevt c
  | .suspendUpd _ _ => pauseMod r c.st.suspended .suspend c
  | _ => c

/-- The receiver on top of the stack; `none` once the module has deregistered itself. -/
def handle (r : GammaReplies) (m : Msg) (c : GammaCtx) : Option GammaCtx :=
  match c.loc.stack, m with
  | .waitingDaytime :: _, .daytimeUpd _ _ =>
    if r.daytimeStopped then none
    else some { c with loc := { c.loc with stack := unbecome c.loc.stack } }
  | .waitingDaytime :: _, _ => some c
  | .paused :: _, m => some (receivePaused r m c)
  | [], m => some (receive r m c)

/-- What GAMMA subscribes to; system messages reach every module. -/
def subscribes : Msg → Bool
  | .blUpd _ _ | .tempReq _ _ | .ambGammaReq _ | .daytimeUpd _ _ | .nextDayevtUpd _ _
  | .suspendUpd _ _ | .systemUpd _ => true
  | _ => false

theorem handle_of_running (r : GammaReplies) (m : Msg) {c : GammaCtx}
    (h : c.loc.stack = pausedStack .paused c.loc.paused) : handle r m c =
      some (if c.loc.paused.isUnpaused then receive r m c else receivePaused r m c) := by
  unfold handle
  rw [h, pausedStack]
  split_ifs <;> rfl

/-! ### Who writes the configured temperatures -/

@[simp] theorem subscript_cf (i : ℤ) (c : GammaCtx) : (subscript i c).cf = c.cf := rfl
@[simp] theorem subscript_st (i : ℤ) (c : GammaCtx) : (subscript i c).st = c.st := rfl
@[simp] theorem subscript_loc (i : ℤ) (c : GammaCtx) : (subscript i c).loc = c.loc := rfl
@[simp] theorem subscript_out (i : ℤ) (c : GammaCtx) : (subscript i c).out = c.out := rfl

/-- What holds once the table was read, and of whatever is done with the temperature. -/
theorem withCurrentTemp_ind {P : GammaCtx → Prop} {f : ℤ → GammaCtx → GammaCtx} {c : GammaCtx}
    (hknown : ∀ temp, P (f temp (subscript (dayInt c.st.dayTime) c)))
    (hread : P (subscript (dayInt c.st.dayTime) c)) : P (withCurrentTemp f c) := by
  unfold withCurrentTemp
  split
  · exact hknown _
  · exact hread

theorem withCurrentTemp_of {f : ℤ → GammaCtx → GammaCtx} {c : GammaCtx} {d : DayState}
    (hd : c.st.dayTime = some d) :
    withCurrentTemp f c = f (c.cf.gamma.temp d) (subscript (dayInt c.st.dayTime) c) := by
  unfold withCurrentTemp tempAt
  rw [hd]
  rfl

theorem withCurrentTemp_cf {f : ℤ → GammaCtx → GammaCtx} (hf : ∀ temp c, (f temp c).cf = c.cf)
    (c : GammaCtx) : (withCurrentTemp f c).cf = c.cf :=
  withCurrentTemp_ind (P := fun c' => c'.cf = c.cf) (fun temp => hf temp _) rfl

/-- Validating a request changes nothing but the record of what was read. -/
theorem validateSubscript_eq (up : TempUpd) (c : GammaCtx) :
    ∃ calls, validateSubscript up c = { c with calls := calls } := by
  unfold validateSubscript
  by_cases hzero : up.new = 0
  · rw [if_pos hzero]
    exact ⟨_, rfl⟩
  · rw [if_neg hzero]
    exact ⟨c.calls, rfl⟩

@[simp] theorem validateSubscript_cf (up : TempUpd) (c : GammaCtx) :
    (validateSubscript up c).cf = c.cf := by
  obtain ⟨calls, he⟩ := validateSubscript_eq up c
  rw [he]

@[simp] theorem acceptTemp_validateSubscript (r : GammaReplies) (up : TempUpd) (c : GammaCtx) :
    acceptTemp r up (validateSubscript up c) = acceptTemp r up c := by
  obtain ⟨calls, he⟩ := validateSubscript_eq up c
  rw [he]
  rfl

@[simp] theorem setTemp_cf (r : GammaReplies) (temp : ℤ) (now : Option ℤ) (smooth step timeout : ℤ)
    (c : GammaCtx) : (setTemp r temp now smooth step timeout c).cf = c.cf := by
  simp only [setTemp]
  split_ifs <;> rfl

@[simp] theorem setTempConf_cf (r : GammaReplies) (temp : ℤ) (now : Option ℤ) (c : GammaCtx) :
    (setTempConf r temp now c).cf = c.cf := setTemp_cf ..

@[simp] theorem ambientCallback_cf (r : GammaReplies) (smooth : Bool) (new : ℚ) (c : GammaCtx) :
    (ambientCallback r smooth new c).cf = c.cf := by
  unfold ambientCallback
  split
  · exact setTempConf_cf ..
  · rfl

@[simp] theorem onDaytimeReq_cf (r : GammaReplies) (c : GammaCtx) : (onDaytimeReq r c).cf = c.cf := by
  simp only [onDaytimeReq]
  split_ifs <;> simp [onNewNextDayevt, withCurrentTemp_cf]

@[simp] theorem pauseMod_cf (r : GammaReplies) (pause : Bool) (reason : ModPause) (c : GammaCtx) :
    (pauseMod r pause reason c).cf = c.cf := by
  simp only [pauseMod]
  split_ifs <;> simp

theorem methodToggleGamma_cf (r : GammaReplies) (c : GammaCtx) : (methodToggleGamma r c).cf = c.cf := by
  simp only [methodToggleGamma]
  split_ifs <;> simp [withCurrentTemp_cf]

theorem onAmbgammaReq_cf (r : GammaReplies) (new : Bool) (c : GammaCtx) :
    (onAmbgammaReq r new c).cf = (setAmbientGamma new c).cf := by
  simp only [onAmbgammaReq]
  split_ifs <;> simp [withCurrentTemp_cf]

theorem interfaceCallback_cf (r : GammaReplies) (d : DayState) (req : TempUpd) (c : GammaCtx) :
    (interfaceCallback r d req c).cf = (storeTemp d req.new c).cf := by
  simp only [interfaceCallback]
  split_ifs
  · exact setTemp_cf ..
  · exact ambientCallback_cf ..

end Gamma
end Clight
