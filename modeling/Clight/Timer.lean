import Mathlib.Data.Int.Init
import Mathlib.Tactic.Linarith

/-! timer.c: one-shot timer descriptors, with C's int and unsigned arithmetic. -/
namespace Clight

/-- Value of a 64-bit integer stored in an int. -/
def toInt32 (x : ℤ) : ℤ := x.bmod (2^32)

/-- Value of a 64-bit integer stored in an unsigned int. -/
def toUInt32 (x : ℤ) : ℤ := x % 2^32

/-- State of a timerfd: disarmed, armed with its remaining whole seconds, or
expired and not read yet. -/
inductive TimerFd
  | disarmed
  | armed (sec : ℕ)
  | expired
  deriving DecidableEq, Repr

namespace TimerFd

/-- The descriptor is readable or will become so by itself. -/
def live : TimerFd → Bool
  | disarmed => false
  | _ => true

def timeoutSec : TimerFd → ℤ
  | armed sec => sec
  | _ => 0

/-- What the passing of time can do to an armed timer. -/
def elapse (sec : Option ℕ) : TimerFd → TimerFd
  | armed s => match sec with
    | some s' => armed (min s s')
    | none => expired
  | t => t

/-- read_timer: reading an expired one-shot timer leaves it disarmed. -/
def read : TimerFd → TimerFd
  | expired => disarmed
  | t => t

end TimerFd

/-- set_timeout with flag 0: arms the timer, or disarms it when both times are 0. -/
def setTimeout (sec nsec : ℤ) : TimerFd :=
  let s := if sec < 0 then 0 else sec
  if s = 0 ∧ nsec = 0 then .disarmed else .armed s.toNat

/-- reset_timer: rescales the time left on `fd` from the old timeout to the new one. -/
def resetTimer (oldTimer newTimer : ℤ) (fd : TimerFd) : TimerFd :=
  if oldTimer ≤ 0 then setTimeout newTimer 0
  else if fd.timeoutSec = 0 ∧ 0 < newTimer then fd
  else
    let elapsedTime := toUInt32 (oldTimer - fd.timeoutSec)
    if elapsedTime < toUInt32 newTimer then
      setTimeout (toInt32 (toUInt32 (newTimer - elapsedTime))) 0
    else if 0 < newTimer then setTimeout 0 1
    else setTimeout 0 0

theorem setTimeout_live (sec nsec : ℤ) :
    (setTimeout sec nsec).live = decide (0 < sec ∨ nsec ≠ 0) := by
  -- a negative time is taken as 0
  have hs : ((if sec < 0 then 0 else sec) = 0 ∧ nsec = 0) ↔ ¬(0 < sec ∨ nsec ≠ 0) := by
    split <;> omega
  simp only [setTimeout, hs]
  by_cases h : 0 < sec ∨ nsec ≠ 0 <;> simp only [h, not_true_eq_false, not_false_eq_true,
    if_true, if_false, TimerFd.live, decide_true, decide_false]

theorem TimerFd.elapse_live (sec : Option ℕ) (t : TimerFd) : (t.elapse sec).live = t.live := by
  cases t with
  | armed s => cases sec <;> rfl
  | disarmed => rfl
  | expired => rfl

theorem toInt32_of_range {x : ℤ} (h1 : -2^31 ≤ x) (h2 : x < 2^31) : toInt32 x = x := by
  unfold toInt32
  rw [Int.bmod_def]
  split <;> omega

/-- Rescaling a live timer to a positive timeout never disarms it. -/
theorem resetTimer_live {old new : ℤ} {fd : TimerFd} (hnew : 0 < new) (hint : new < 2^31)
    (hfd : 0 < old → fd.live = true) : (resetTimer old new fd).live = true := by
  unfold resetTimer
  by_cases hold : old ≤ 0
  · rw [if_pos hold, setTimeout_live]
    simp [hnew]
  rw [if_neg hold]
  by_cases hz : fd.timeoutSec = 0 ∧ 0 < new
  · rw [if_pos hz]
    exact hfd (by omega)
  rw [if_neg hz]
  have he : 0 ≤ toUInt32 (old - fd.timeoutSec) := Int.emod_nonneg _ (by decide)
  dsimp only
  -- less has elapsed than the new timeout: what is left of it is a positive int
  split_ifs with hlt
  · have hn : toUInt32 new = new := Int.emod_eq_of_lt hnew.le (by omega)
    rw [hn] at hlt
    have hd : toUInt32 (new - toUInt32 (old - fd.timeoutSec)) =
        new - toUInt32 (old - fd.timeoutSec) := Int.emod_eq_of_lt (by omega) (by omega)
    rw [hd, toInt32_of_range (by omega) (by omega), setTimeout_live]
    simp [hlt]
  · rw [setTimeout_live]
    simp

end Clight
