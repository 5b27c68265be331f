import Clight.Costs
import Clight.DaytimeTimer
import Clight.LocationRuns
import Clight.Modules
import Clight.Network
import Clight.PmLock
import Clight.UpowerRuns
import Clight.Wizard
import Mathlib

/-! Clight as a whole: all its modules with their mailboxes, each of which may publish to the others on
what it receives. BACKLIGHT and SCREEN read their timers here. All other descriptors are outside, and so is
the bus: what their handlers publish arrives from there. -/
namespace Clight

inductive BusMod
  | backlight | screen | keyboard | dimmer | dpms | gamma | display | inhibit | pm | upower | daytime
  | location | wizard | interface | bus | signal
  deriving DecidableEq

instance : Fintype BusMod where
  elems := {.backlight, .screen, .keyboard, .dimmer, .dpms, .gamma, .display, .inhibit, .pm, .upower,
    .daytime, .location, .wizard, .interface, .bus, .signal}
  complete i := by cases i <;> decide

/-- Messages in the mailboxes. `eventReq` is the static request of set_event. -/
inductive BusMsg
  | shared (m : Msg)
  | locationReq (new : Loc)
  | locationReqStatic
  | eventReq (e : DayEvent)
  | pmReq (new : Bool)
  | pmUpd (upd : PmUpd)
  deriving DecidableEq

/-- The data of all modules. INTERFACE may have a bus, and `signalled` are the properties that it has told
this bus of. -/
structure Program where
  running : BusMod → Bool
  loc : (x : PausableMod) → x.Loc
  display : Display
  inhibitions : ℤ
  pm : Pm
  pmLock : PmLock
  upower : Upower
  daytime : DaytimeModule
  location : Location
  wizard : Wizard
  userbus : Bool
  signalled : List String
  st : State
  cf : Conf

/-- What a receipt finds outside: the outcomes of the calls that it makes. -/
structure BusReplies where
  mod : ModReplies
  lock : LockReplies
  upower : UpowerReplies
  ping : Bool
  matched : Bool
  cache : Option Loc
  geoclue : Bool

namespace PausableMod

def toBus : PausableMod → BusMod
  | backlight => .backlight
  | screen => .screen
  | keyboard => .keyboard
  | dimmer => .dimmer
  | dpms => .dpms
  | gamma => .gamma

end PausableMod

namespace BusMod

/-- The name of a module in the system messages. -/
def modName : BusMod → ModName
  | backlight => .backlight
  | screen => .screen
  | gamma => .gamma
  | daytime => .daytime
  | wizard => .wizard
  | interface => .interface
  | _ => .other

end BusMod

namespace BusMsg

def toDaytime : BusMsg → Option DayBoxMsg
  | shared (.locUpd new) => some (.locUpd new)
  | shared (.systemUpd .loopStarted) => some .loopStarted
  | eventReq e => some (.eventReqStatic e)
  | _ => none

def toLocation : BusMsg → Option LocationMsg
  | shared (.systemUpd .loopStarted) => some .loopStarted
  | locationReq new => some (.locationReq new)
  | locationReqStatic => some .locationReqStatic
  | _ => none

def toWizard : BusMsg → Option WizMsg
  | shared (.sensUpd _ _) => some .sensUpd
  | shared (.ambientBrUpd _ _) => some .ambientBrUpd
  | _ => none

def ofLocation : LocationPub → BusMsg
  | .locationReq _ => locationReqStatic
  | .locUpd new => shared (.locUpd new)

def topic : BusMsg → Option String
  | shared m => m.topic
  | locationReq _ | locationReqStatic => some "ReqLocation"
  | eventReq .sunrise => some "ReqSunrise"
  | eventReq .sunset => some "ReqSunset"
  | pmReq _ => some "ReqPm"
  | pmUpd _ => some "PmInhibited"

end BusMsg

namespace Program

/-- A module stops, and libmodule tells all the others. -/
def stop (i : BusMod) (ms : List BusMsg) (s : Program) : Program × List BusMsg :=
  ({ s with running := Function.update s.running i false },
    ms ++ [.shared (.systemUpd (.moduleStopped i.modName))])

/-- Static requests of DIMMER and DAYTIME hold what they hold when they are received. -/
def resolve (s : Program) : Msg → Msg
  | .blReqDimmer => .blReq s.display.dimmerReq
  | .tempReq .daytime _ => .tempReq .daytime s.daytime.ctx.loc.tempReq
  | m => m

/-- The validators of BACKLIGHT and GAMMA write back into them. -/
def validated (r : BusReplies) (m : Msg) (s : Program) : Program :=
  match m with
  | .blReqDimmer =>
    if Backlight.isWaiting (s.loc .backlight) then s
    else { s with display := { s.display with
      dimmerReq := (validateBacklight s.cf s.st s.display.dimmerReq).1 } }
  | .tempReq .daytime _ =>
    if (Gamma.stack (s.loc .gamma)).head? = some .waitingDaytime then s
    else { s with daytime := { s.daytime with ctx := { s.daytime.ctx with loc := { s.daytime.ctx.loc with
      tempReq := (validateTemp s.cf s.st r.mod.gamma.junk s.daytime.ctx.loc.tempReq).1 } } } }
  | _ => s

def onPausable (fit : Fit) (r : BusReplies) (x : PausableMod) (m : Msg) (s : Program) :
    Program × List BusMsg :=
  match x.handle fit r.mod (s.resolve m) s.st s.cf (s.loc x) with
  | none => stop x.toBus [] s
  | some h =>
    ({ s.validated r m with loc := Function.update s.loc x h.loc, st := h.st, cf := h.cf }, h.out.map .shared)

def onDisplay (m : Msg) (s : Program) : Program × List BusMsg :=
  match m with
  | .displayReq new noBacklight =>
    let c := Display.onDisplayReq new noBacklight (PausableMod.ctx s.display s.st s.cf)
    ({ s with display := c.loc, st := c.st }, c.out.map .shared)
  | _ => (s, [])

/-- UPOWER's request to INHIBIT is a static one, and never forced. -/
def onInhibit (m : Msg) (s : Program) : Program × List BusMsg :=
  let m := match m with
    | .inhibitReqStatic => .inhibitReq s.upower.inhReq false
    | m => m
  let c := Inhibit.receive (PausableMod.ctx s.inhibitions s.st s.cf) m
  ({ s with inhibitions := c.loc, st := c.st }, c.out.map .shared)

def onPmLock (e : PmLockEvent) (s : Program) : Program × List BusMsg :=
  ({ s with pmLock := (s.pmLock.receive e).1 }, (s.pmLock.receive e).2.map .pmUpd)

/-- receive of PM; its timer is outside. -/
def onPm (r : BusReplies) (m : BusMsg) (s : Program) : Program × List BusMsg :=
  match m with
  | .shared (.inhibitUpd _ _) => (s, if s.cf.inh.inhibitPm then [.pmReq s.st.inhibited] else [])
  | .pmReq new => onPmLock (.pmReq new r.lock) s
  | .shared (.systemUpd .loopStopped) => onPmLock (.loopStopped r.lock) s
  | .shared (.suspendReq new force) =>
    let c := Pm.onSuspendReq new force (PausableMod.ctx s.pm s.st s.cf)
    ({ s with pm := c.loc, st := c.st }, c.out.map .shared)
  | _ => (s, [])

/-- UPOWER deregisters itself on LOOP_STARTED only. -/
def onUpower (r : BusReplies) (m : Msg) (s : Program) : Program × List BusMsg :=
  let c := Upower.receive r.ping r.matched r.upower m (PausableMod.ctx s.upower s.st s.cf)
  let s' := { s with upower := c.loc, st := c.st }
  if m = .systemUpd .loopStarted ∧ c.loc.gone = true then stop .upower (c.out.map .shared) s'
  else (s', c.out.map .shared)

/-- DAYTIME as it finds the state and the configuration. -/
def dayModule (s : Program) : DaytimeModule :=
  { s.daytime with ctx := { s.daytime.ctx with st := s.st, cf := s.cf, out := [] } }

/-- DAYTIME stops itself when it is told that there is no position. -/
def onDaytime (m : DayBoxMsg) (s : Program) : Program × List BusMsg :=
  let d := s.dayModule.handle (s.running .location) m
  let s' := { s with daytime := d, st := d.ctx.st, cf := d.ctx.cf }
  if d.stopped && !s.daytime.stopped then stop .daytime (d.ctx.out.map .shared) s'
  else (s', d.ctx.out.map .shared)

/-- SUNRISE_REQ and SUNSET_REQ from others come with a time of their own. -/
def onEventReq (e : DayEvent) (event : EventTime) (s : Program) : Program × List BusMsg :=
  let asked := { s.dayModule with eventReqs := Function.update s.daytime.eventReqs e (some event) }
  let d := asked.handle (s.running .location) (.eventReqStatic e)
  ({ s with daytime := { d with eventReqs := s.daytime.eventReqs }, st := d.ctx.st, cf := d.ctx.cf },
    d.ctx.out.map .shared)

def onLocation (distance : Loc → Loc → ℚ) (r : BusReplies) (m : LocationMsg) (s : Program) :
    Program × List BusMsg :=
  let c := Location.receive distance r.cache r.geoclue m { loc := s.location, st := s.st, published := [] }
  ({ s with location := c.loc, st := c.st }, c.published.map BusMsg.ofLocation)

def onWizard (m : WizMsg) (s : Program) : Program × List BusMsg :=
  let c := Wizard.handle m (PausableMod.ctx s.wizard s.st s.cf)
  ({ s with wizard := c.loc }, c.out.map .shared)

/-- INTERFACE signals the property that the topic names. -/
def onInterface (m : BusMsg) (s : Program) : Program × List BusMsg :=
  match m.topic with
  | some topic => (if s.userbus then { s with signalled := s.signalled ++ [topic] } else s, [])
  | none => (s, [])

/-- One receipt. BUS and SIGNAL only read descriptors. -/
def receive (fit : Fit) (distance : Loc → Loc → ℚ) (r : BusReplies) (i : BusMod) (m : BusMsg)
    (s : Program) : Program × List BusMsg :=
  match i, m with
  | .backlight, .shared m => onPausable fit r .backlight m s
  | .screen, .shared m => onPausable fit r .screen m s
  | .keyboard, .shared m => onPausable fit r .keyboard m s
  | .dimmer, .shared m => onPausable fit r .dimmer m s
  | .dpms, .shared m => onPausable fit r .dpms m s
  | .gamma, .shared m => onPausable fit r .gamma m s
  | .display, .shared m => onDisplay m s
  | .inhibit, .shared m => onInhibit m s
  | .pm, m => onPm r m s
  | .upower, .shared m => onUpower r m s
  | .daytime, .shared (.sunriseReq event) => onEventReq .sunrise event s
  | .daytime, .shared (.sunsetReq event) => onEventReq .sunset event s
  | .daytime, m => m.toDaytime.elim (s, []) fun m => onDaytime m s
  | .location, m => m.toLocation.elim (s, []) fun m => onLocation distance r m s
  | .wizard, m => m.toWizard.elim (s, []) fun m => onWizard m s
  | .interface, m => onInterface m s
  | _, _ => (s, [])

/-- What each module has subscribed to. WIZARD waits for its sensor first. -/
def subscribesTo (s : Program) : BusMod → BusMsg → Bool
  | .backlight, .shared m => Backlight.subscribes m
  | .screen, .shared m => Screen.subscribes m
  | .keyboard, .shared m => Keyboard.subscribes m
  | .dimmer, .shared m => Idle.subscribes dimmerConf m
  | .dpms, .shared m => Idle.subscribes dpmsConf m
  | .gamma, .shared m => Gamma.subscribes m
  | .display, .shared (.displayReq _ _) => true
  | .inhibit, .shared (.inhibitReq _ _) | .inhibit, .shared .inhibitReqStatic => true
  | .pm, .pmReq _ | .pm, .shared (.inhibitUpd _ _) | .pm, .shared (.suspendReq _ _) => true
  | .upower, .shared m => Upower.subscribes m
  | .daytime, .shared (.locUpd _) | .daytime, .eventReq _ => true
  | .daytime, .shared (.sunriseReq _) | .daytime, .shared (.sunsetReq _) => true
  | .location, .locationReq _ | .location, .locationReqStatic => true
  | .wizard, .shared (.sensUpd _ _) => true
  | .wizard, .shared (.ambientBrUpd _ _) => s.wizard.ambSubscribed
  | .interface, m => m.topic.any Interface.subscribed
  | _, _ => false

/-- System messages reach every module. -/
def subscribes (s : Program) (i : BusMod) (m : BusMsg) : Bool :=
  s.subscribesTo i m || match m with
    | .shared (.systemUpd _) => true
    | _ => false

/-- After init; the configuration and what the system has decide which modules run. -/
def start (running : BusMod → Bool) (userbus : Bool) (initialTemp : ℤ) (cf : Conf) : Program where
  running := running
  loc := Modules.initLoc initialTemp
  display := .init
  inhibitions := 0
  pm := .init
  pmLock := .init
  upower := .init
  daytime := .init (initState cf) cf
  location := .init
  wizard := .init
  userbus := userbus
  signalled := []
  st := initState cf
  cf := cf

end Program

/-- All modules of Clight, with what a receipt finds outside. -/
def busNetwork (fit : Fit) (distance : Loc → Loc → ℚ) : Network Program BusMod BusMsg BusReplies where
  receive := Program.receive fit distance
  subscribes := Program.subscribes
  running := Program.running

def busMachine (fit : Fit) (distance : Loc → Loc → ℚ) :
    Machine (Boxes Program BusMod BusMsg) (NetworkEvent Program BusMod BusMsg BusReplies) :=
  (busNetwork fit distance).machine fun s =>
    (∃ running userbus initialTemp cf, s.state = .start running userbus initialTemp cf) ∧ ∀ i, s.box i = []

end Clight
