import Clight.Display
import Clight.HeldFlags
import Clight.Machine
import Clight.Pausables
import Mathlib.Logic.Function.Basic

/-! The six modules with their mailboxes, and the three that write what they react to:
DISPLAY, INHIBIT and PM. -/
namespace Clight

structure Modules where
  loc : (x : PausableMod) → x.Loc
  /-- Modules that are disabled or have deregistered themselves. -/
  gone : PausableMod → Bool
  box : PausableMod → List Msg
  display : Display
  inhibitions : ℤ
  pm : Pm
  st : State
  cf : Conf

/-- Clightd's signals and D-Bus methods that act on a module outside of its receiver. -/
inductive ModSignal
  | sensorChanged (r : BlReplies)
  | blChanged (mon : MonId) (pct : ℚ)
  | interfaceAdded (mon : MonId)
  | interfaceRemoved (mon : MonId)
  | toggleGamma (r : GammaReplies)
  | tempChanged (new : ℤ)

/-- A registered descriptor may be reported at any time. `publish` is a message from any
other module, and `world` and `properties` are what others write into the state and the
configuration. -/
inductive ModulesEvent
  | deliver (x : PausableMod) (r : ModReplies)
  | timer (x : PausableMod) (fd : Fd) (r : ModReplies)
  | signal (e : ModSignal)
  | publish (m : Msg)
  | world (st : State)
  | properties (cf : Conf)
  | displayReq (new : ℤ) (noBacklight : Bool)
  | inhibitReq (r : FlagReq)
  | suspendReq (r : FlagReq)
  | delayedResume

namespace PausableMod

/-- System messages reach every module. -/
def receives (x : PausableMod) (m : Msg) : Bool :=
  x.subscribes m || match m with
    | .systemUpd _ => true
    | _ => false

def registered : (x : PausableMod) → x.Loc → Fd → Bool
  | backlight, l, .bl => Backlight.blRegistered l
  | backlight, l, .delayed => Backlight.delayedRegistered l
  | screen, l, .screen => Screen.registered l
  | _, _, _ => false

end PausableMod

namespace Modules

def publish (ms : List Msg) (s : Modules) : Modules :=
  { s with box := fun x => if s.gone x then [] else s.box x ++ ms.filter x.receives }

/-- A step of one module. -/
def onModule (x : PausableMod) (h : Handled x.Loc) (s : Modules) : Modules :=
  publish h.out { s with loc := Function.update s.loc x h.loc, st := h.st, cf := h.cf }

/-- DIMMER's static request holds what it holds when it is received. -/
def resolve (s : Modules) : Msg → Msg
  | .blReqDimmer => .blReq s.display.dimmerReq
  | m => m

def blCtx (s : Modules) : BlCtx := PausableMod.ctx (s.loc .backlight) s.st s.cf
def gammaCtx (s : Modules) : GammaCtx := PausableMod.ctx (s.loc .gamma) s.st s.cf

/-- The validator of BACKLIGHT's receivers writes back into DIMMER's static request. -/
def validated (s : Modules) : PausableMod → Msg → Display
  | .backlight, .blReqDimmer =>
    if s.blCtx.loc.isWaiting then s.display
    else { s.display with dimmerReq := (validateBacklight s.cf s.st s.display.dimmerReq).1 }
  | _, _ => s.display

/-- The matches on Clightd's signals are added when a module starts. -/
def signal (s : Modules) : ModSignal → Option Modules
  | .sensorChanged r =>
    if s.blCtx.loc.isWaiting then none
    else some (onModule .backlight (Backlight.onSensorChange r s.blCtx).handled s)
  | .blChanged mon pct =>
    if s.blCtx.loc.isWaiting then none
    else some (onModule .backlight (Backlight.onBlChanged mon pct s.blCtx).handled s)
  | .interfaceAdded mon =>
    if s.blCtx.loc.isWaiting then none
    else some (onModule .backlight (Backlight.onInterfaceAdded mon s.blCtx).handled s)
  | .interfaceRemoved mon =>
    if s.blCtx.loc.isWaiting then none
    else (Backlight.onInterfaceRemoved mon s.blCtx).map fun c => onModule .backlight c.handled s
  | .toggleGamma r =>
    if Gamma.toggleDies s.gammaCtx then none
    else some (onModule .gamma (Gamma.methodToggleGamma r s.gammaCtx).handled s)
  | .tempChanged new => some (onModule .gamma (Gamma.onTempChanged new s.gammaCtx).handled s)

def next (fit : Fit) (s : Modules) : ModulesEvent → Option Modules
  | .deliver x r => match s.box x with
    | [] => none
    | m :: box =>
      let s := { s with box := Function.update s.box x box }
      match x.handle fit r (s.resolve m) s.st s.cf (s.loc x) with
      | none => some { s with
          gone := Function.update s.gone x true
          box := Function.update s.box x [] }
      | some h => some (onModule x h { s with display := s.validated x m })
  | .timer x fd r =>
    if x.registered (s.loc x) fd && !s.gone x then
      (x.handle fit r (.fdUpd fd) s.st s.cf (s.loc x)).map fun h => onModule x h s
    else none
  | .signal e => s.signal e
  | .publish m => some (publish [m] s)
  | .world st => some { s with st := { st with
      displayState := s.st.displayState
      suspended := s.st.suspended
      inhibited := s.st.inhibited } }
  | .properties cf => some { s with cf := cf }
  | .displayReq new noBacklight =>
    let c := Display.onDisplayReq new noBacklight (PausableMod.ctx s.display s.st s.cf)
    some (publish c.out { s with display := c.loc, st := c.st })
  | .inhibitReq r =>
    let c := Inhibit.next (PausableMod.ctx s.inhibitions s.st s.cf) r
    some (publish c.out { s with inhibitions := c.loc, st := c.st })
  | .suspendReq r =>
    let c := Pm.next (PausableMod.ctx s.pm s.st s.cf) (.suspendReq r)
    some (publish c.out { s with pm := c.loc, st := c.st })
  | .delayedResume =>
    let c := Pm.next (PausableMod.ctx s.pm s.st s.cf) .delayedResume
    some (publish c.out { s with pm := c.loc, st := c.st })

/-- The main loop starts: the modules have run init, and nothing has been published. -/
structure Init (s : Modules) : Prop where
  waiting : ∀ x : PausableMod, x.Waiting (s.loc x)
  box : ∀ x, s.box x = []
  pm : s.pm = .init
  displayOn : s.st.displayBusy = false
  resumed : s.st.suspended = false
  notInhibited : s.st.inhibited = false

def initLoc (initialTemp : ℤ) : (x : PausableMod) → x.Loc
  | .backlight => Backlight.init
  | .screen => Screen.init
  | .keyboard => Keyboard.init
  | .dimmer => Idle.init
  | .dpms => Idle.init
  | .gamma => Gamma.init initialTemp

def start (cf : Conf) (initialTemp : ℤ) : Modules where
  loc := initLoc initialTemp
  gone _ := false
  box _ := []
  display := .init
  inhibitions := 0
  pm := .init
  st := initState cf
  cf := cf

theorem init_start (cf : Conf) (initialTemp : ℤ) : Init (start cf initialTemp) where
  waiting x := by
    cases x with
    | backlight => exact ⟨.init, rfl⟩
    | screen => exact ⟨rfl, rfl, rfl⟩
    | _ => exact ⟨rfl, rfl⟩
  box _ := rfl
  pm := rfl
  displayOn := rfl
  resumed := rfl
  notInhibited := rfl

/-- Replies of a desktop on which every call succeeds. -/
def okReplies : ModReplies where
  bl := { sensor := true, capture := none, levels := [], setSent := true }
  screen := none
  kbd := true
  idle := true
  gamma := { now := 0, localDay := fun _ => (2024, 1), sent := true, daytimeStopped := false, junk := 0 }

end Modules

def modules (fit : Fit) : Machine Modules ModulesEvent where
  init := Modules.Init
  next := Modules.next fit

end Clight
