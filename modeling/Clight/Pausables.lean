import Clight.BacklightSpec
import Clight.Gamma
import Clight.Idle
import Clight.Keyboard
import Clight.Screen

/-! The six modules that can be paused, as one family: their file-static data, what they do
with a message, and their pause masks. -/
namespace Clight

inductive PausableMod | backlight | screen | keyboard | dimmer | dpms | gamma
  deriving DecidableEq

/-- The outcomes of the calls that a module makes during a step. -/
structure ModReplies where
  bl : BlReplies
  screen : Option ℚ
  kbd : Bool
  idle : Bool
  gamma : GammaReplies

/-- What a receiver leaves behind, its bus calls apart. -/
structure Handled (L : Type) where
  loc : L
  st : State
  cf : Conf
  out : List Msg

def Ctx.handled {L K : Type} (c : Ctx L K) : Handled L :=
  { loc := c.loc, st := c.st, cf := c.cf, out := c.out }

namespace PausableMod

def Loc : PausableMod → Type
  | backlight => Backlight
  | screen => Screen
  | keyboard => Keyboard
  | dimmer => Idle
  | dpms => Idle
  | gamma => Gamma

def mask : (x : PausableMod) → x.Loc → PauseMask
  | backlight, l => Backlight.paused l
  | screen, l => Screen.paused l
  | keyboard, l => Keyboard.paused l
  | dimmer, l => Idle.paused l
  | dpms, l => Idle.paused l
  | gamma, l => Gamma.paused l

/-- The context that a receiver starts from. -/
abbrev ctx {L K : Type} (l : L) (st : State) (cf : Conf) : Ctx L K :=
  { loc := l, st := st, cf := cf, out := [], calls := [] }

/-- One message to a module; `none` once it has deregistered itself. -/
def handle (fit : Fit) (r : ModReplies) (m : Msg) (st : State) (cf : Conf) :
    (x : PausableMod) → x.Loc → Option (Handled x.Loc)
  | backlight, l => some (Backlight.handle fit r.bl m (ctx l st cf)).handled
  | screen, l => some (Screen.handle r.screen m (ctx l st cf)).handled
  | keyboard, l => some (Keyboard.handle fit r.kbd m (ctx l st cf)).handled
  | dimmer, l => (Idle.handle dimmerConf r.idle m (ctx l st cf)).map Ctx.handled
  | dpms, l => (Idle.handle dpmsConf r.idle m (ctx l st cf)).map Ctx.handled
  | gamma, l => (Gamma.handle r.gamma m (ctx l st cf)).map Ctx.handled

/-- The module has left its waiting state, and its mask decides which receiver runs. -/
def Running : (x : PausableMod) → x.Loc → Prop
  | backlight, l => Backlight.Running l
  | screen, l => Screen.stack l = []
  | keyboard, l => Keyboard.Running l
  | dimmer, l => Idle.Running l
  | dpms, l => Idle.Running l
  | gamma, l => Gamma.stack l = pausedStack .paused (Gamma.paused l)

/-- The module waits for what it needs to start; it has registered nothing, and is paused for
no reason yet. -/
def Waiting : (x : PausableMod) → x.Loc → Prop
  | backlight, l => Backlight.Waiting l ∧ Backlight.blRegistered l = false
  | screen, l => Screen.stack l = [.waitingState] ∧ Screen.paused l = .unpaused ∧
      Screen.registered l = false
  | keyboard, l => Keyboard.stack l = [.waitingInit] ∧ Keyboard.paused l = .unpaused
  | dimmer, l => Idle.stack l = [.waitingAcstate] ∧ Idle.paused l = .unpaused
  | dpms, l => Idle.stack l = [.waitingAcstate] ∧ Idle.paused l = .unpaused
  | gamma, l => Gamma.stack l = [.waitingDaytime] ∧ Gamma.paused l = .unpaused

def subscribes : PausableMod → Msg → Bool
  | backlight => Backlight.subscribes
  | screen => Screen.subscribes
  | keyboard => Keyboard.subscribes
  | dimmer => Idle.subscribes dimmerConf
  | dpms => Idle.subscribes dpmsConf
  | gamma => Gamma.subscribes

end PausableMod
end Clight
