import Clight.Ctx
import Clight.Curve

/-! The KEYBOARD module (keyboard.c): its backlight goes with that of the screen. -/
namespace Clight

inductive KbdRecv | waitingInit | paused
  deriving DecidableEq

structure Keyboard where
  stack : RecvStack KbdRecv
  paused : PauseMask
  kbdReq : BlUpd

def Keyboard.init : Keyboard where
  stack := [.waitingInit]
  paused := .unpaused
  kbdReq := { new := 0, smooth := 0, timeout := 0, step := 0 }

inductive KbdCall
  | set (level : ℚ)
  | setTimeout (timeout : ℤ)

abbrev KbdCtx := Ctx Keyboard KbdCall

namespace Keyboard

/-- set_keyboard_level; `sent` is the outcome of the call. -/
def setKeyboardLevel (sent : Bool) (level : ℚ) (c : KbdCtx) : KbdCtx :=
  let old := c.st.currentKbdPct
  let c := c.call (.set level)
  if sent then Ctx.publish (.kbdBlUpd old level) { c with st := { c.st with currentKbdPct := level } }
  else c

def pauseKbd (sent pause : Bool) (reason : ModPause) (c : KbdCtx) : KbdCtx :=
  let chk := modCheckPause pause reason c.loc.paused
  let c := { c with loc := { c.loc with paused := chk.1 } }
  if chk.2 then
    if pause then
      let c := setKeyboardLevel sent 0 c
      { c with loc := { c.loc with stack := become .paused c.loc.stack } }
    else
      setKeyboardLevel sent (1 - c.st.currentBlPct)
        { c with loc := { c.loc with stack := unbecome c.loc.stack } }
  else c

def setKeyboardTimeout (sent : Bool) (c : KbdCtx) : KbdCtx :=
  let timeout := atAc c.cf.kbd.timeout c.st.acState
  let c := pauseKbd sent (timeout ≤ 0) .timeout c
  if 0 < timeout then c.call (.setTimeout timeout) else c

/-- on_screen_bl_update. KEYBOARD has an AC state as soon as it runs. -/
def onScreenBlUpdate (up : BlUpd) (c : KbdCtx) : KbdCtx :=
  match c.st.acState with
  | none => c
  | some ac =>
    if up.smooth = 0 then
      let new := getValueFromCurve up.new (c.cf.kbd.curve ac)
      Ctx.publish .kbdBlReqStatic
        { c with loc := { c.loc with kbdReq := { c.loc.kbdReq with new := new } } }
    else c

/-- KBD_BL_REQ: the level does not change while the display is dimmed or off. -/
def onKbdBlReq (sent : Bool) (up : BlUpd) (c : KbdCtx) : KbdCtx :=
  let v := validateBacklight c.cf c.st up
  if v.2 && !c.st.displayBusy then setKeyboardLevel sent v.1.new c else c

def onKbdToReq (sent : Bool) (up : TimeoutUpd) (c : KbdCtx) : KbdCtx :=
  match AcState.ofInt? (validateTimeout c.st up).1.state with
  | none => c
  | some ac =>
    -- stored for any AC state, applied for the one in force
    let c := { c with cf := { c.cf with kbd := { c.cf.kbd with
      timeout := Function.update c.cf.kbd.timeout ac up.new } } }
    if c.st.acState = some ac then setKeyboardTimeout sent c else c

/-- KBD_CURVE_REQ, in both receivers. -/
def onCurveReq (fit : Fit) (up : CurveUpd) (c : KbdCtx) : KbdCtx :=
  let v := validateCurve c.st up
  match v.2, AcState.ofInt? v.1.state, v.1.regressionPoints with
  | true, some ac, some pts =>
    let curve := Curve.refit fit pts (c.cf.kbd.curve ac)
    { c with cf := { c.cf with kbd := { c.cf.kbd with
      curve := Function.update c.cf.kbd.curve ac curve } } }
  | _, _, _ => c

def receiveWaitingInit (sent : Bool) (m : Msg) (c : KbdCtx) : KbdCtx :=
  match m with
  | .upowerUpd _ _ =>
    setKeyboardTimeout sent { c with loc := { c.loc with stack := unbecome c.loc.stack } }
  | _ => c

def receive (fit : Fit) (sent : Bool) (m : Msg) (c : KbdCtx) : KbdCtx :=
  match m with
  | .blUpd _ up => onScreenBlUpdate up c
  | .kbdBlReq new => onKbdBlReq sent { new := new, smooth := 0, timeout := 0, step := 0 } c
  -- the validator rewrites the static message
  | .kbdBlReqStatic => onKbdBlReq sent c.loc.kbdReq
      { c with loc := { c.loc with kbdReq := (validateBacklight c.cf c.st c.loc.kbdReq).1 } }
  | .kbdToReq up => onKbdToReq sent up c
  | .displayUpd _ _ => pauseKbd sent c.st.displayBusy .display c
  | .upowerUpd _ _ => setKeyboardTimeout sent c
  | .suspendUpd _ _ => pauseKbd sent c.st.suspended .suspend c
  | .kbdCurveReq up => onCurveReq fit up c
  | _ => c

/-- receive_paused: levels and timeouts are not for a paused KEYBOARD. -/
def receivePaused (fit : Fit) (sent : Bool) (m : Msg) (c : KbdCtx) : KbdCtx :=
  match m with
  | .displayUpd _ _ => pauseKbd sent c.st.displayBusy .display c
  | .upowerUpd _ _ => setKeyboardTimeout sent c
  | .suspendUpd _ _ => pauseKbd sent c.st.suspended .suspend c
  | .kbdCurveReq up => onCurveReq fit up c
  | _ => c

def handle (fit : Fit) (sent : Bool) (m : Msg) (c : KbdCtx) : KbdCtx :=
  match c.loc.stack with
  | .waitingInit :: _ => receiveWaitingInit sent m c
  | .paused :: _ => receivePaused fit sent m c
  | [] => receive fit sent m c

def subscribes : Msg → Bool
  | .displayUpd .. | .blUpd .. | .kbdBlReq .. | .kbdBlReqStatic | .upowerUpd .. | .kbdToReq ..
  | .suspendUpd .. | .kbdCurveReq .. => true
  | _ => false

/-! ### The receiver in force -/

def Running (l : Keyboard) : Prop := l.stack = pausedStack .paused l.paused

theorem handle_of_running (fit : Fit) (sent : Bool) (m : Msg) {c : KbdCtx} (h : Running c.loc) :
    handle fit sent m c =
      if c.loc.paused.isUnpaused then receive fit sent m c else receivePaused fit sent m c := by
  unfold handle
  rw [h, pausedStack]
  split_ifs <;> rfl

@[simp] theorem setKeyboardLevel_loc (sent : Bool) (level : ℚ) (c : KbdCtx) :
    (setKeyboardLevel sent level c).loc = c.loc := by
  unfold setKeyboardLevel
  split_ifs <;> rfl

@[simp] theorem setKeyboardLevel_cf (sent : Bool) (level : ℚ) (c : KbdCtx) :
    (setKeyboardLevel sent level c).cf = c.cf := by
  unfold setKeyboardLevel
  split_ifs <;> rfl

@[simp] theorem pauseKbd_cf (sent pause : Bool) (reason : ModPause) (c : KbdCtx) :
    (pauseKbd sent pause reason c).cf = c.cf := by
  unfold pauseKbd
  dsimp only
  split_ifs <;> simp

@[simp] theorem setKeyboardTimeout_cf (sent : Bool) (c : KbdCtx) :
    (setKeyboardTimeout sent c).cf = c.cf := by
  unfold setKeyboardTimeout
  dsimp only
  split_ifs <;> simp

theorem pauseKbd_paused (sent pause : Bool) (reason : ModPause) (c : KbdCtx) :
    (pauseKbd sent pause reason c).loc.paused = (modCheckPause pause reason c.loc.paused).1 := by
  unfold pauseKbd
  dsimp only
  split_ifs <;> simp

theorem pauseKbd_stack (sent pause : Bool) (reason : ModPause) (c : KbdCtx) :
    (pauseKbd sent pause reason c).loc.stack =
      if (modCheckPause pause reason c.loc.paused).2 then
        if pause then become .paused c.loc.stack else unbecome c.loc.stack
      else c.loc.stack := by
  unfold pauseKbd
  dsimp only
  split_ifs <;> simp

theorem pauseKbd_running (sent pause : Bool) (reason : ModPause) {c : KbdCtx} (h : Running c.loc) :
    Running (pauseKbd sent pause reason c).loc := by
  have hstack := pausedStack_modCheckPause KbdRecv.paused pause reason c.loc.paused
  unfold Running at h ⊢
  rw [pauseKbd_stack, pauseKbd_paused, h]
  exact hstack

theorem setKeyboardTimeout_running (sent : Bool) {c : KbdCtx} (h : Running c.loc) :
    Running (setKeyboardTimeout sent c).loc := by
  unfold setKeyboardTimeout
  dsimp only
  split_ifs
  · exact pauseKbd_running sent _ .timeout h
  · exact pauseKbd_running sent _ .timeout h

/-! ### Timeout requests -/

def withTimeout (ac : AcState) (new : ℤ) (cf : Conf) : Conf :=
  { cf with kbd := { cf.kbd with timeout := Function.update cf.kbd.timeout ac new } }

/-- An unpaused KEYBOARD stores the timeout; a paused one drops the request. -/
theorem handle_kbdToReq (fit : Fit) (sent : Bool) {up : TimeoutUpd} {ac : AcState} {c : KbdCtx}
    (h : Running c.loc) (hac : up.state = ac.toInt) :
    (handle fit sent (.kbdToReq up) c).cf =
        (if c.loc.paused.isUnpaused then withTimeout ac up.new c.cf else c.cf) ∧
      Running (handle fit sent (.kbdToReq up) c).loc := by
  have hname : AcState.ofInt? (validateTimeout c.st up).1.state = some ac := by
    rw [validateTimeout_state (hac ▸ ac.toInt_ne), hac, AcState.ofInt?_toInt]
  unfold handle
  rw [h, pausedStack]
  -- receive_paused has no case for KBD_TO_REQ
  cases hu : c.loc.paused.isUnpaused with
  | false => exact ⟨rfl, h⟩
  | true =>
    simp only [if_true, receive, onKbdToReq, hname]
    split_ifs
    · exact ⟨setKeyboardTimeout_cf sent _, setKeyboardTimeout_running sent h⟩
    · exact ⟨rfl, h⟩

theorem handle_kbdToReq_loc (fit : Fit) (sent : Bool) (up : TimeoutUpd) {c : KbdCtx}
    (h : Running c.loc) (hu : c.loc.paused.isUnpaused = false) :
    (handle fit sent (.kbdToReq up) c).loc = c.loc := by
  unfold handle
  rw [h, pausedStack, hu]
  rfl

end Keyboard
end Clight
