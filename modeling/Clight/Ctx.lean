import Clight.Message
import Clight.Pause
import Clight.Timer

/-! What a module's receiver reads and writes: its file-static data, the global
state and configuration, the messages it publishes and the bus calls it makes. -/
namespace Clight
universe u v

structure Ctx (L : Type u) (K : Type v) where
  loc : L
  st : State
  cf : Conf
  out : List Msg
  calls : List K

namespace Ctx
variable {L : Type u} {K : Type v}

/-- M_PUB. -/
def publish (m : Msg) (c : Ctx L K) : Ctx L K := { c with out := c.out ++ [m] }

/-- A call on the bus that expects no reply. -/
def call (k : K) (c : Ctx L K) : Ctx L K := { c with calls := c.calls ++ [k] }

@[simp] theorem publish_loc (m : Msg) (c : Ctx L K) : (c.publish m).loc = c.loc := rfl
@[simp] theorem publish_st (m : Msg) (c : Ctx L K) : (c.publish m).st = c.st := rfl
@[simp] theorem publish_cf (m : Msg) (c : Ctx L K) : (c.publish m).cf = c.cf := rfl
@[simp] theorem publish_out (m : Msg) (c : Ctx L K) : (c.publish m).out = c.out ++ [m] := rfl
@[simp] theorem publish_calls (m : Msg) (c : Ctx L K) : (c.publish m).calls = c.calls := rfl
@[simp] theorem call_loc (k : K) (c : Ctx L K) : (c.call k).loc = c.loc := rfl
@[simp] theorem call_st (k : K) (c : Ctx L K) : (c.call k).st = c.st := rfl
@[simp] theorem call_cf (k : K) (c : Ctx L K) : (c.call k).cf = c.cf := rfl
@[simp] theorem call_out (k : K) (c : Ctx L K) : (c.call k).out = c.out := rfl
@[simp] theorem call_calls (k : K) (c : Ctx L K) : (c.call k).calls = c.calls ++ [k] := rfl

end Ctx

/-- Receivers that a module has pushed over its base receiver with m_become. -/
abbrev RecvStack (ρ : Type u) := List ρ

def become {ρ : Type u} (r : ρ) (s : RecvStack ρ) : RecvStack ρ := r :: s

def unbecome {ρ : Type u} (s : RecvStack ρ) : RecvStack ρ := s.tail

/-- The stack of a running module whose paused receiver is `p`. -/
def pausedStack {ρ : Type u} (p : ρ) (m : PauseMask) : RecvStack ρ := if m.isUnpaused then [] else [p]

/-- A module that becomes paused, or stops being so, when CHECK_PAUSE tells it to
has the stack that goes with its mask. -/
theorem pausedStack_modCheckPause {ρ : Type u} (p : ρ) (pause : Bool) (r : ModPause) (m : PauseMask) :
    (if (modCheckPause pause r m).2 then
        if pause then become p (pausedStack p m) else unbecome (pausedStack p m)
      else pausedStack p m) = pausedStack p (modCheckPause pause r m).1 := by
  have hchanged := modCheckPause_changed pause r m
  unfold pausedStack
  -- pausing always leaves a reason; resuming may clear the last one
  cases pause with
  | true =>
    have hpaused : (modCheckPause true r m).1.isUnpaused = false := PauseMask.isUnpaused_set m r
    rw [hchanged, hpaused]
    cases m.isUnpaused <;> rfl
  | false =>
    rw [hchanged]
    cases hm : m.isUnpaused with
    | true =>
      have hstill : (modCheckPause false r m).1.isUnpaused = true := PauseMask.isUnpaused_clear hm r
      rw [hstill]
      rfl
    | false => cases (modCheckPause false r m).1.isUnpaused <;> rfl

end Clight
