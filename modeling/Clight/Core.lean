import Clight.BacklightFrame
import Clight.Machine
import Clight.Screen

/-! BACKLIGHT and SCREEN as one machine: their data, the state they share, their
mailboxes, and every event that can reach them outside of the wizard. -/
namespace Clight

structure Core where
  bl : Backlight
  /-- `none` when SCREEN is disabled or has deregistered itself. -/
  scr : Option Screen
  st : State
  cf : Conf
  blBox : List Msg
  scrBox : List Msg
  blOut : List Msg

/-- Events of a run. `old` is what a static message holds when it is received;
`r` and `reply` are the outcomes of the bus calls made during the step. -/
inductive CoreEvent
  | deliverBl (r : BlReplies)
  | deliverScr (reply : Option ℚ)
  | blFd (r : BlReplies)
  | delayedFd (r : BlReplies)
  | screenFd (reply : Option ℚ)
  | elapse (fd : Fd) (sec : Option ℕ)
  | acState (old : Option AcState) (new : AcState)
  | lidState (new : LidState)
  | daytime (old : Option DayState) (new : DayState) (inEvent : Bool)
  | display (new : DisplayState)
  | suspended (new now : Bool)
  | resumed
  | inhibited (new : Bool)
  | request (m : Msg)
  | capture (up : CaptureUpd)
  | system (m : SysMsg)
  | sensorChanged (r : BlReplies)
  | blChanged (mon : MonId) (pct : ℚ)
  | interfaceAdded (mon : MonId)
  | interfaceRemoved (mon : MonId)

/-- Requests to BACKLIGHT and SCREEN that other modules and the bus API publish. The method
Capture is an event of its own. -/
def Msg.isRequest : Msg → Bool
  | .captureReq .interface _ => false
  | .blToReq _ | .captureReq _ _ | .curveReq _ | .noAutocalibReq _ | .blReq _ | .scrToReq _
  | .contribReq _ => true
  | _ => false

/-- INTERFACE publishes one static CAPTURE_REQ: what is queued of it holds what was written last. -/
def Msg.recaptured (up : CaptureUpd) : Msg → Msg
  | .captureReq .interface _ => .captureReq .interface up
  | m => m

def Msg.isInterfaceCapture : Msg → Bool
  | .captureReq .interface _ => true
  | _ => false

def Conf.IntTimeouts (cf : Conf) : Prop := ∀ ac, cf.screen.timeout ac < 2^31

namespace Core

/-- The pubsub of libmodule: each message is queued for its subscribers. -/
def publish (ms : List Msg) (s : Core) : Core :=
  { s with
    blBox := s.blBox ++ ms.filter Backlight.subscribes
    scrBox := if s.scr.isSome then s.scrBox ++ ms.filter Screen.subscribes else s.scrBox }

def blCtx (s : Core) : BlCtx := { loc := s.bl, st := s.st, cf := s.cf, out := [], calls := [] }
def scrCtx (scr : Screen) (s : Core) : ScreenCtx :=
  { loc := scr, st := s.st, cf := s.cf, out := [], calls := [] }

def onBacklight (f : BlCtx → BlCtx) (s : Core) : Core :=
  let c := f s.blCtx
  publish c.out { s with bl := c.loc, st := c.st, cf := c.cf, blOut := s.blOut ++ c.out }

def onScreen (f : ScreenCtx → ScreenCtx) (scr : Screen) (s : Core) : Core :=
  let c := f (s.scrCtx scr)
  publish c.out { s with scr := some c.loc, st := c.st, cf := c.cf }

/-- Timers run in real time, whatever the modules do. -/
def elapse (fd : Fd) (sec : Option ℕ) (s : Core) : Core :=
  match fd with
  | .bl => { s with bl := { s.bl with blFd := s.bl.blFd.elapse sec } }
  | .delayed => { s with bl := { s.bl with delayedFd := s.bl.delayedFd.elapse sec } }
  | .screen => { s with scr := s.scr.map fun scr => { scr with screenFd := scr.screenFd.elapse sec } }
  | .day => s

/-- method_capture: the static request is written, then published once more. -/
def methodCapture (up : CaptureUpd) (s : Core) : Core :=
  publish [.captureReq .interface up] { s with blBox := s.blBox.map (Msg.recaptured up) }

/-- What check_daytime announces, once it has computed the daytime and the event. -/
def daytimeMsgs (old : Option DayState) (new : DayState) (inEvent : Bool) (s : Core) : List Msg :=
  (if s.st.dayTime = some new then [] else [.daytimeUpd old new]) ++
    if s.st.inEvent = inEvent then [] else [.inEventUpd s.st.inEvent inEvent]

def next (fit : Fit) (s : Core) : CoreEvent → Option Core
  | .deliverBl r => match s.blBox with
    | [] => none
    | m :: box => some (onBacklight (Backlight.handle fit r m) { s with blBox := box })
  | .deliverScr reply => match s.scr, s.scrBox with
    | some scr, m :: box => some (onScreen (Screen.handle reply m) scr { s with scrBox := box })
    | _, _ => none
  | .blFd r =>
    if s.bl.blRegistered && s.bl.blFd = .expired then
      some (onBacklight (Backlight.handle fit r (.fdUpd .bl)) s)
    else none
  | .delayedFd r =>
    if s.bl.delayedRegistered && s.bl.delayedFd = .expired then
      some (onBacklight (Backlight.handle fit r (.fdUpd .delayed)) s)
    else none
  -- a descriptor is polled only while it is registered
  | .screenFd reply => match s.scr with
    | some scr =>
      if scr.registered && scr.screenFd = .expired then
        some (onScreen (Screen.handle reply (.fdUpd .screen)) scr s)
      else none
    | none => none
  | .elapse fd sec => some (elapse fd sec s)
  | .acState old new =>
    some (publish [.upowerUpd old new] { s with st := { s.st with acState := some new } })
  | .lidState new =>
    some (publish [.lidUpd s.st.lidState new] { s with st := { s.st with lidState := some new } })
  | .daytime old new inEvent =>
    some (publish (daytimeMsgs old new inEvent s)
      { s with st := { s.st with dayTime := some new, inEvent := inEvent } })
  | .display new =>
    some (publish [.displayUpd s.st.displayState new] { s with st := { s.st with displayState := new } })
  -- a resume may be announced later, by a timer of PM
  | .suspended new now =>
    some (publish (if now then [.suspendUpd s.st.suspended new] else [])
      { s with st := { s.st with suspended := new } })
  | .resumed => some (publish [.suspendUpd true false] s)
  | .inhibited new =>
    some (publish [.inhibitUpd s.st.inhibited new] { s with st := { s.st with inhibited := new } })
  | .request m => if m.isRequest then some (publish [m] s) else none
  | .capture up => some (methodCapture up s)
  | .system m =>
    if m = .moduleStarted .wizard ∨ m = .moduleStopped .screen then none
    else some { s with blBox := s.blBox ++ [.systemUpd m] }
  -- the matches on Clightd's signals are added at startup
  | .sensorChanged r =>
    if s.bl.isWaiting then none else some (onBacklight (Backlight.onSensorChange r) s)
  | .blChanged mon pct =>
    if s.bl.isWaiting then none else some (onBacklight (Backlight.onBlChanged mon pct) s)
  | .interfaceAdded mon =>
    if s.bl.isWaiting then none else some (onBacklight (Backlight.onInterfaceAdded mon) s)
  | .interfaceRemoved mon =>
    if s.bl.isWaiting then none
    else (Backlight.onInterfaceRemoved mon s.blCtx).map fun c => onBacklight (fun _ => c) s

/-- The main loop starts: BACKLIGHT and SCREEN have run init. If Clightd cannot
measure the screen, SCREEN has deregistered itself and BACKLIGHT is told so. -/
def Init (s : Core) : Prop :=
  s.bl = .init ∧ s.st = initState s.cf ∧ s.cf.IntTimeouts ∧ s.scrBox = [] ∧ s.blOut = [] ∧
    if s.cf.screen.disabled then s.scr = none ∧ s.blBox = []
    else s.scr = some .init ∧ s.blBox = [] ∨
      s.scr = none ∧ s.blBox = [.systemUpd (.moduleStopped .screen)]

def start (cf : Conf) : Core where
  bl := .init
  scr := if cf.screen.disabled then none else some .init
  st := initState cf
  cf := cf
  blBox := []
  scrBox := []
  blOut := []

theorem init_start {cf : Conf} (hcf : cf.IntTimeouts) : Init (start cf) := by
  refine ⟨rfl, rfl, hcf, rfl, rfl, ?_⟩
  by_cases h : cf.screen.disabled = true <;> simp [start, h]

end Core

/-- The machine of BACKLIGHT and SCREEN, over the regression of libgsl. -/
def core (fit : Fit) : Machine Core CoreEvent where
  init := Core.Init
  next := Core.next fit

end Clight
