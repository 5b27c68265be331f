import Clight.Ctx

/-! The SCREEN module (screen.c): it measures the brightness of the screen
content and publishes it, on a timer and after each ambient brightness change. -/
namespace Clight

inductive ScreenRecv | waitingState
  deriving DecidableEq

structure Screen where
  stack : RecvStack ScreenRecv
  paused : PauseMask
  screenFd : TimerFd
  registered : Bool
  msgOld : ℚ
  msgNew : ℚ

def Screen.init : Screen where
  stack := [.waitingState]
  paused := .unpaused
  screenFd := .disarmed
  registered := false
  msgOld := 0
  msgNew := 0

abbrev ScreenCtx := Ctx Screen Empty

namespace Screen

/-- pause_screen: registers the timer descriptor iff the mask is empty. -/
def pauseScreen (pause : Bool) (reason : ModPause) (resetScreenBr : Bool) (c : ScreenCtx) : ScreenCtx :=
  let chk := modCheckPause pause reason c.loc.paused
  { c with
    loc := { c.loc with
      paused := chk.1
      registered := if chk.2 then !pause else c.loc.registered }
    st := if pause && resetScreenBr then { c.st with screenBr := 0 } else c.st }

/-- get_screen_brightness; `reply` is the outcome of GetEmittedBrightness. -/
def getScreenBrightness (reply : Option ℚ) (c : ScreenCtx) : ScreenCtx :=
  if c.loc.paused.isUnpaused then
    match reply with
    -- a failed call leaves the brightness as it is
    | none => { c with loc := { c.loc with msgOld := c.st.screenBr } }
    | some br => Ctx.publish (.screenBrUpd c.st.screenBr br)
        { c with
          loc := { c.loc with msgOld := c.st.screenBr, msgNew := br }
          st := { c.st with screenBr := br } }
  else c

def timeoutCallback (oldVal : ℤ) (reset : Bool) (c : ScreenCtx) : ScreenCtx :=
  let timeout := atAc c.cf.screen.timeout c.st.acState
  if timeout ≤ 0 then pauseScreen true .timeout true c
  else
    let c := pauseScreen false .timeout false c
    if reset then
      { c with loc := { c.loc with screenFd := resetTimer oldVal timeout c.loc.screenFd } }
    else c

/-- receive_waiting_state: SCREEN starts with the first UPOWER_UPD. -/
def receiveWaitingState (m : Msg) (c : ScreenCtx) : ScreenCtx :=
  match m with
  | .upowerUpd _ _ =>
    let c := { c with
      loc := { c.loc with
        stack := unbecome c.loc.stack
        screenFd := setTimeout (atAc c.cf.screen.timeout c.st.acState) 0
        registered := true } }
    -- either of these may pause SCREEN before its first measure
    let c := timeoutCallback (-1) false c
    pauseScreen (c.cf.screen.contrib = 0) .contrib true c
  | _ => c

def onAmbientBr (reply : Option ℚ) (c : ScreenCtx) : ScreenCtx :=
  let c := pauseScreen (c.st.ambientBr < c.cf.bl.shutterThreshold) .clogged false c
  if c.loc.paused.isUnpaused then getScreenBrightness reply c else c

def onTimer (reply : Option ℚ) (c : ScreenCtx) : ScreenCtx :=
  let c := { c with loc := { c.loc with screenFd := c.loc.screenFd.read } }
  let c := getScreenBrightness reply c
  { c with loc := { c.loc with
      screenFd := setTimeout (atAc c.cf.screen.timeout c.st.acState) 0 } }

def onScrToReq (up : TimeoutUpd) (c : ScreenCtx) : ScreenCtx :=
  match AcState.ofInt? (validateTimeout c.st up).1.state with
  | none => c
  | some ac =>
    let old := c.cf.screen.timeout ac
    let c := { c with cf := { c.cf with screen := { c.cf.screen with
      timeout := Function.update c.cf.screen.timeout ac up.new } } }
    if c.st.acState = some ac then timeoutCallback old true c else c

def onContribReq (new : ℚ) (c : ScreenCtx) : ScreenCtx :=
  if validateContrib c.cf new then
    let c := { c with cf := { c.cf with screen := { c.cf.screen with contrib := new } } }
    let c := pauseScreen (new = 0) .contrib true c
    if c.loc.paused.isUnpaused then c.publish (.screenBrUpd c.loc.msgOld c.loc.msgNew) else c
  else c

def receive (reply : Option ℚ) (m : Msg) (c : ScreenCtx) : ScreenCtx :=
  match m with
  | .ambientBrUpd _ _ => onAmbientBr reply c
  | .fdUpd _ => onTimer reply c
  | .upowerUpd old _ => timeoutCallback (atAc c.cf.screen.timeout old) true c
  | .displayUpd _ _ => pauseScreen c.st.displayBusy .display false c
  | .sensUpd _ _ => pauseScreen (!c.st.sensOk) .sensor true c
  | .lidUpd _ _ =>
    if c.cf.bl.pauseOnLidClosed then pauseScreen c.st.lidShut .lid false c else c
  | .suspendUpd _ _ => pauseScreen c.st.suspended .suspend false c
  | .scrToReq up => onScrToReq up c
  | .noAutocalibUpd new => pauseScreen new .autocalib true c
  | .inhibitUpd _ _ => pauseScreen (c.st.inhibited && c.cf.inh.inhibitBl) .inhibit true c
  | .contribReq new => onContribReq new c
  | _ => c

def handle (reply : Option ℚ) (m : Msg) (c : ScreenCtx) : ScreenCtx :=
  match c.loc.stack with
  | .waitingState :: _ => receiveWaitingState m c
  | [] => receive reply m c

def subscribes : Msg → Bool
  | .ambientBrUpd .. | .scrToReq .. | .upowerUpd .. | .displayUpd .. | .sensUpd .. | .lidUpd ..
  | .suspendUpd .. | .noAutocalibUpd .. | .inhibitUpd .. | .contribReq .. => true
  | _ => false

end Screen
end Clight
