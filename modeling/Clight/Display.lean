import Clight.Ctx

/-! The DISPLAY module (display.c): the state of the display, and what a dimmed or switched
off display asks of BACKLIGHT and Clightd. -/
namespace Clight

structure Display where
  oldPct : ℚ
  /-- DIMMER's static request, published in its name. -/
  dimmerReq : BlUpd

def Display.init : Display where
  oldPct := -1
  dimmerReq := { new := 0, smooth := 0, timeout := 0, step := 0 }

inductive DisplayCall
  | setDpms (enable : Bool)
  | setIdleHint (hint : DisplayState)

abbrev DisplayCtx := Ctx Display DisplayCall

def State.isOff (st : State) : Bool := st.displayState.getLsbD 1
def State.isDimmed (st : State) : Bool := st.displayState.getLsbD 0

/-- `state.display_state |= bits` and `state.display_state &= ~bits`. -/
def State.setDisplay (bits : DisplayState) (st : State) : State :=
  { st with displayState := st.displayState ||| bits }
def State.clearDisplay (bits : DisplayState) (st : State) : State :=
  { st with displayState := st.displayState &&& ~~~bits }

/-- validate_display: a display that is off only accepts DISPLAY_ON. -/
def validateDisplay (st : State) (new : ℤ) : Bool :=
  0 ≤ new && new < 3 && if st.isOff then new = 0 else new ≠ st.displayState.toNat

def DimTrans.toInt : DimTrans → ℤ
  | .enter => 0
  | .exit => 1

namespace Display

def dimmerPublishBlReq (pct : ℚ) (trans : DimTrans) (c : DisplayCtx) : DisplayCtx :=
  Ctx.publish .blReqDimmer { c with loc := { c.loc with
    dimmerReq := { c.loc.dimmerReq with new := pct, smooth := -2 - trans.toInt } } }

def onDimmed (noBacklight : Bool) (c : DisplayCtx) : DisplayCtx :=
  let c := { c with st := c.st.setDisplay displayDimmed }
  -- a level below the dimmed one is left alone
  if noBacklight = false ∧ c.cf.dim.dimmedPct < c.st.currentBlPct then
    dimmerPublishBlReq c.cf.dim.dimmedPct .enter
      { c with loc := { c.loc with oldPct := c.st.currentBlPct } }
  else c

def onOff (noBacklight : Bool) (c : DisplayCtx) : DisplayCtx :=
  let c := { c with st := c.st.setDisplay displayOff }
  if noBacklight then c else c.call (.setDpms true)

def leaveOff (noBacklight : Bool) (c : DisplayCtx) : DisplayCtx :=
  if c.st.isOff then
    let c := { c with st := c.st.clearDisplay displayOff }
    if noBacklight then c else c.call (.setDpms false)
  else c

def leaveDimmed (noBacklight : Bool) (c : DisplayCtx) : DisplayCtx :=
  if c.st.isDimmed then
    let c := { c with st := c.st.clearDisplay displayDimmed }
    if noBacklight = false ∧ 0 ≤ c.loc.oldPct then
      let c := dimmerPublishBlReq c.loc.oldPct .exit c
      { c with loc := { c.loc with oldPct := -1 } }
    else c
  else c

/-- The switch of DISPLAY_REQ. -/
def change (new : ℤ) (noBacklight : Bool) (c : DisplayCtx) : DisplayCtx :=
  if new = 1 then onDimmed noBacklight c
  else if new = 2 then onOff noBacklight c
  else leaveDimmed noBacklight (leaveOff noBacklight c)

def onDisplayReq (new : ℤ) (noBacklight : Bool) (c : DisplayCtx) : DisplayCtx :=
  if validateDisplay c.st new then
    let old := c.st.displayState
    let c := change new noBacklight c
    Ctx.call (.setIdleHint c.st.displayState) (c.publish (.displayUpd old c.st.displayState))
  else c

end Display
end Clight
