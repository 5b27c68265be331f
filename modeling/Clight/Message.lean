import Clight.Double
import Clight.State
import Mathlib.Algebra.Order.Field.Rat
import Mathlib.Algebra.Order.Floor.Ring
import Mathlib.Data.Rat.Floor
import Mathlib.Order.Interval.Set.Defs

/-! Messages of public.h with the data that a receiver reads, and the validators
of validations.c. A validator returns the request as it leaves it: the special
values it replaces are written back into the message. -/
namespace Clight

structure TempUpd where
  daytime : ℤ
  new : ℤ
  smooth : ℤ
  step : ℤ
  timeout : ℤ
  deriving DecidableEq

structure TimeoutUpd where
  new : ℤ
  state : ℤ
  daytime : ℤ
  deriving DecidableEq

/-- Points are numbers, where no NaN is at issue. -/
structure CurveUpd (α : Type := ℚ) where
  state : ℤ
  regressionPoints : Option (List α)
  deriving DecidableEq

structure CaptureUpd where
  resetTimer : Bool
  captureOnly : Bool
  deriving DecidableEq

structure BlUpd where
  new : ℚ
  smooth : ℤ
  timeout : ℤ
  step : ℚ
  deriving DecidableEq

inductive Fd | bl | delayed | screen | day
  deriving DecidableEq

inductive ModName | backlight | screen | gamma | daytime | wizard | interface | other
  deriving DecidableEq

inductive SysMsg
  | moduleStarted (sender : ModName)
  | moduleStopped (sender : ModName)
  | loopStarted
  | loopStopped
  deriving DecidableEq

/-- Messages in a mailbox. A message that a module declares static and reads back
itself is queued by reference: its content is what the module holds when the
message is delivered. INTERFACE's CAPTURE_REQ is static too, and rewritten where it
is queued. -/
inductive Msg
  | systemUpd (m : SysMsg)
  | fdUpd (fd : Fd)
  | locUpd (new : Loc)
  | upowerUpd (old : Option AcState) (new : AcState)
  | inhibitUpd (old new : Bool)
  | displayUpd (old new : DisplayState)
  | daytimeUpd (old : Option DayState) (new : DayState)
  | inEventUpd (old new : Bool)
  | sunriseUpd (old new : ℤ)
  | sunsetUpd (old new : ℤ)
  | tempUpd (old : ℤ) (up : TempUpd)
  | ambientBrUpd (old new : ℚ)
  | blUpd (old : ℚ) (up : BlUpd)
  | kbdBlUpd (old new : ℚ)
  | inhibitReq (new force : Bool)
  | sunriseReq (event : EventTime)
  | sunsetReq (event : EventTime)
  | tempReq (sender : ModName) (up : TempUpd)
  | blReq (up : BlUpd)
  | blReqStatic
  | kbdBlReq (new : ℚ)
  | kbdBlReqStatic
  | dimmerToReq (up : TimeoutUpd)
  | dpmsToReq (up : TimeoutUpd)
  | scrToReq (up : TimeoutUpd)
  | blToReq (up : TimeoutUpd)
  | captureReq (sender : ModName) (up : CaptureUpd)
  | captureReqStatic
  | curveReq (up : CurveUpd)
  | noAutocalibReq (new : Bool)
  | contribReq (new : ℚ)
  | simulateReq
  | lidUpd (old : Option LidState) (new : LidState)
  | sensUpd (old : Option Bool) (new : Bool)
  | nextDayevtUpd (old : Option DayEvent) (new : DayEvent)
  | suspendUpd (old new : Bool)
  | kbdToReq (up : TimeoutUpd)
  | ambGammaReq (new : Bool)
  | kbdCurveReq (up : CurveUpd)
  | screenBrUpd (old new : ℚ)
  | noAutocalibUpd (new : Bool)
  | suspendReq (new force : Bool)
  | displayReq (new : ℤ) (noBacklight : Bool)
  | blReqDimmer
  | upowerReq (new : ℤ)
  | upowerReqStatic
  | lidReq (new : ℤ)
  | lidReqStatic
  | inhibitReqStatic
  deriving DecidableEq

def AcState.ofInt? : ℤ → Option AcState
  | 0 => some .onAc
  | 1 => some .onBattery
  | _ => none

def AcState.toInt : AcState → ℤ
  | .onAc => 0
  | .onBattery => 1

def DayState.ofInt? : ℤ → Option DayState
  | 0 => some .day
  | 1 => some .night
  | _ => none

def DayState.toInt : DayState → ℤ
  | .day => 0
  | .night => 1

/-- Columns 0 to SIZE_STATES of the backlight timeouts. -/
def BlTime.ofInt? : ℤ → Option BlTime
  | 0 => some .day
  | 1 => some .night
  | 2 => some .inEvent
  | _ => none

def BlTime.toInt : BlTime → ℤ
  | .day => 0
  | .night => 1
  | .inEvent => 2

@[simp] theorem AcState.ofInt?_toInt (a : AcState) : ofInt? a.toInt = some a := by cases a <;> rfl
@[simp] theorem DayState.ofInt?_toInt (d : DayState) : ofInt? d.toInt = some d := by cases d <;> rfl
@[simp] theorem BlTime.ofInt?_toInt (t : BlTime) : ofInt? t.toInt = some t := by cases t <;> rfl

/-- An undefined enumeration of the state, as the int -1 it holds. -/
def acInt (ac : Option AcState) : ℤ := (ac.map AcState.toInt).getD (-1)
def dayInt (d : Option DayState) : ℤ := (d.map DayState.toInt).getD (-1)

/-- validate_timeout: -1 stands for the current AC state and daytime. -/
def validateTimeout (st : State) (up : TimeoutUpd) : TimeoutUpd × Bool :=
  let up := if up.state = -1 then { up with state := acInt st.acState } else up
  let up := if up.daytime = -1 then { up with daytime := dayInt st.dayTime } else up
  (up, (AcState.ofInt? up.state).isSome)

theorem AcState.toInt_ne (ac : AcState) : ac.toInt ≠ -1 := by cases ac <;> decide
theorem BlTime.toInt_ne (t : BlTime) : t.toInt ≠ -1 := by cases t <;> decide

/-- The validator leaves a request alone that names an AC state and a daytime. -/
theorem validateTimeout_eq {st : State} {up : TimeoutUpd} (hstate : up.state ≠ -1)
    (hdaytime : up.daytime ≠ -1) : (validateTimeout st up).1 = up := by
  simp only [validateTimeout, if_neg hstate, if_neg hdaytime]

theorem validateTimeout_state {st : State} {up : TimeoutUpd} (hstate : up.state ≠ -1) :
    (validateTimeout st up).1.state = up.state := by
  simp only [validateTimeout, if_neg hstate]
  split
  · rfl
  · rfl

theorem validateTimeout_new (st : State) (up : TimeoutUpd) :
    (validateTimeout st up).1.new = up.new := by
  unfold validateTimeout
  dsimp only
  split_ifs <;> rfl

def validateInhibit (st : State) (new : Bool) : Bool := st.inhibited != new

def validateContrib (cf : Conf) (new : ℚ) : Bool :=
  0 ≤ new && new ≤ 1 && cf.screen.contrib != new

/-- validate_temp. A value of 0 reads the configured temperature before the
daytime is checked; an index outside of the table reads an unknown int `junk`. -/
def validateTemp (cf : Conf) (st : State) (junk : ℤ) (up : TempUpd) : TempUpd × Bool :=
  let up := if up.daytime = -1 then { up with daytime := dayInt st.dayTime } else up
  let up := if up.smooth = -1 then
      { up with
        smooth := if cf.gamma.noSmooth then 0 else 1
        step := cf.gamma.transStep
        timeout := cf.gamma.transTimeout }
    else up
  let up := if up.new = 0 then
      { up with new := ((DayState.ofInt? up.daytime).map cf.gamma.temp).getD junk }
    else up
  (up, 1000 ≤ up.new && up.new ≤ 10000 && (DayState.ofInt? up.daytime).isSome)

def validateAutocalib (cf : Conf) (new : Bool) : Bool := cf.bl.noAutoCalib != new

def validateCurve {α : Type} [Zero α] [One α] [LT α] [DecidableLT α] (st : State)
    (up : CurveUpd α) : CurveUpd α × Bool :=
  let up := if up.state = -1 then { up with state := acInt st.acState } else up
  (up, (AcState.ofInt? up.state).isSome &&
    match up.regressionPoints with
    | some pts => 0 < pts.length && pts.length ≤ maxSizePoints && pts.all pointOk
    | none => false)

def blFixedStep : ℚ := 1 / 100

/-- The smooth parameters that a special value of `smooth` stands for. -/
def specialSmooth (cf : Conf) : ℤ → Option BlSmooth
  | -1 => some cf.bl.smooth
  | -2 => some (cf.dim.smooth .enter)
  | -3 => some (cf.dim.smooth .exit)
  | _ => none

def truncRat (q : ℚ) : ℤ := if 0 ≤ q then ⌊q⌋ else ⌈q⌉

def validateBacklight (cf : Conf) (st : State) (up : BlUpd) : BlUpd × Bool :=
  let up := match specialSmooth cf up.smooth with
    | none => up
    | some s =>
      let smooth := if s.noSmooth then 0 else 1
      if s.transFixed ≤ 0 then
        { up with smooth := smooth, step := s.transStep, timeout := s.transTimeout }
      else
        let nSteps := |st.currentBlPct - up.new| / blFixedStep
        { up with smooth := smooth, step := blFixedStep, timeout := truncRat (s.transFixed / nSteps) }
  (up, 0 ≤ up.new && up.new ≤ 1)

/-- The validator writes back everything but the level. -/
theorem validateBacklight_new (cf : Conf) (st : State) (up : BlUpd) :
    (validateBacklight cf st up).1.new = up.new := by
  unfold validateBacklight
  dsimp only
  split
  · rfl
  · split <;> rfl

/-- validate_backlight accepts exactly the fractions, whatever it writes back. -/
theorem validateBacklight_accepts (cf : Conf) (st : State) (up : BlUpd) :
    (validateBacklight cf st up).2 = true ↔ up.new ∈ Set.Icc (0 : ℚ) 1 := by
  have hnew := validateBacklight_new cf st up
  have hok : (validateBacklight cf st up).2 = (decide (0 ≤ (validateBacklight cf st up).1.new) &&
      decide ((validateBacklight cf st up).1.new ≤ 1)) := rfl
  rw [hok, hnew, Bool.and_eq_true, decide_eq_true_iff, decide_eq_true_iff]
  rfl

def validateAmbgamma (cf : Conf) (new : Bool) : Bool := new != cf.gamma.ambientGamma

end Clight
