import Clight.Ctx

/-! The calibration wizard (wizard.c): five captures of the ambient brightness, each followed by the
backlight level that goes with it. -/
namespace Clight

/-- WIZ_IN_POINTS. -/
def wizInPoints : ℕ := 5

/-- WIZ_COMPUTE. The wiz_states before it are 0 at start, odd when capturing and even when
calibrating. -/
def wizCompute : ℕ := 11

inductive WizRecv | waitingSens | capturing | calibrating
  deriving DecidableEq

structure Wizard where
  stack : RecvStack WizRecv
  wizSt : ℕ
  ambBrs : List ℚ
  captureIdx : ℕ
  points : List ℚ
  /-- M_SUB(AMBIENT_BR_UPD) was called. -/
  ambSubscribed : Bool
  stdinRegistered : Bool
  /-- The code that modules_quit was called with. -/
  quit : Option ℤ

/-- WIZARD after init, when a screen was found. -/
def Wizard.init : Wizard where
  stack := [.waitingSens]
  wizSt := 0
  ambBrs := List.replicate wizInPoints 0
  captureIdx := 0
  points := List.replicate maxSizePoints 0
  ambSubscribed := false
  stdinRegistered := false
  quit := none

/-- Each access of amb_brs, each write of curve.points, and each call of polynomialfit. -/
inductive WizCall
  | ambBr (i : ℕ)
  | setAmbBr (i : ℕ) (br : ℚ)
  | setPoint (i : ℕ) (pct : ℚ)
  | polynomialfit (xs ys : List ℚ)
  deriving DecidableEq

/-- What Clightd gives to Get: no reply, one that cannot be read, or the level. -/
inductive BlReply
  | failed
  | unreadable
  | level (pct : ℚ)

/-- Messages of WIZARD. A character read from stdin comes with the reply to Get, if it is asked. -/
inductive WizMsg
  | fdUpd (ch : Char) (reply : BlReply)
  | sensUpd
  | ambientBrUpd

abbrev WizCtx := Ctx Wizard WizCall

namespace Wizard

/-- modules_quit. -/
def modulesQuit (code : ℤ) (c : WizCtx) : WizCtx := { c with loc := { c.loc with quit := some code } }

def push (r : WizRecv) (c : WizCtx) : WizCtx :=
  { c with loc := { c.loc with stack := become r c.loc.stack } }

def compute (c : WizCtx) : WizCtx :=
  c.call (.polynomialfit c.loc.ambBrs (c.loc.points.take wizInPoints))

def nextStep (c : WizCtx) : WizCtx :=
  let c := { c with loc := { c.loc with wizSt := c.loc.wizSt + 1 } }
  if c.loc.wizSt < wizCompute then
    if c.loc.wizSt % 2 = 0 then push .calibrating c else push .capturing c
  else modulesQuit 0 (compute c)

/-- get_backlight, through parse_bus_reply, and whether it returns 0. -/
def getBacklight (reply : BlReply) (c : WizCtx) : WizCtx × Bool :=
  match reply with
  | .failed => (c, false)
  | .unreadable => ({ c with loc := { c.loc with captureIdx := c.loc.captureIdx + 1 } }, false)
  | .level pct =>
    (Ctx.call (.setPoint c.loc.captureIdx pct) { c with loc := { c.loc with
      points := c.loc.points.set c.loc.captureIdx pct
      captureIdx := c.loc.captureIdx + 1 } }, true)

/-- 'y', 'Y' or 10. -/
def isYes (ch : Char) : Bool := ch = 'y' || ch = 'Y' || ch = '\n'

def receive (m : WizMsg) (c : WizCtx) : WizCtx :=
  match m with
  | .fdUpd ch _ => if isYes ch then nextStep c else modulesQuit 0 c
  | _ => c

def receiveWaitingSens (m : WizMsg) (c : WizCtx) : WizCtx :=
  match m with
  | .sensUpd =>
    if c.st.sensOk then
      { c with loc := { c.loc with
        ambSubscribed := true
        stdinRegistered := true
        stack := unbecome c.loc.stack } }
    else modulesQuit 1 c
  | _ => c

def receiveCapturing (m : WizMsg) (c : WizCtx) : WizCtx :=
  match m with
  | .fdUpd ch _ =>
    if isYes ch then
      let c := c.call (.ambBr c.loc.captureIdx)
      -- ENTER on a brightness that was captured falls through to the next step
      if c.loc.ambBrs.getD c.loc.captureIdx 0 = 0 ∨ ch ≠ '\n' then
        c.publish (.captureReq .wizard { resetTimer := false, captureOnly := true })
      else nextStep c
    else nextStep c
  | .ambientBrUpd =>
    Ctx.call (.setAmbBr c.loc.captureIdx c.st.ambientBr) { c with loc := { c.loc with
      ambBrs := c.loc.ambBrs.set c.loc.captureIdx c.st.ambientBr } }
  | .sensUpd => c

def receiveCalibrating (m : WizMsg) (c : WizCtx) : WizCtx :=
  match m with
  | .fdUpd ch reply =>
    if ch = '\n' then
      let r := getBacklight reply c
      if r.2 then nextStep r.1 else modulesQuit (-1) r.1
    else c
  | _ => c

/-- The receiver on top of the stack. -/
def handle (m : WizMsg) (c : WizCtx) : WizCtx :=
  match c.loc.stack with
  | [] => receive m c
  | .waitingSens :: _ => receiveWaitingSens m c
  | .capturing :: _ => receiveCapturing m c
  | .calibrating :: _ => receiveCalibrating m c

end Wizard
end Clight
