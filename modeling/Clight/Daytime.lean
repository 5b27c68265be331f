import Clight.Ctx

/-! The DAYTIME module (daytime.c): the sunrise and sunset in force, the daytime and the
event they give at an instant, and the alarm of the next change. -/
namespace Clight

/-- Outcome of calculate_sunrise or calculate_sunset: whether it returned 0, and what it
left in the time it was given, which it always writes. -/
structure Calc where
  ok : Bool
  tt : ℤ

/-- The outcomes of one run of check_daytime, for each event and day shift. -/
abbrev Calcs := DayEvent → ℤ → Calc

/-- The static data of DAYTIME; the timer does not exist before start_daytime. -/
structure Daytime where
  dayFd : Option TimerFd
  tempReq : TempUpd

abbrev DaytimeCtx := Ctx Daytime Empty

/-- Reads a table indexed by event, with 0 for the index -1 that next_event starts at. -/
def atEvent (t : DayEvent → ℤ) : Option DayEvent → ℤ
  | some e => t e
  | none => 0

namespace Daytime

def checkNextEvent (now : ℤ) (c : DaytimeCtx) : DaytimeCtx :=
  let ev := c.st.dayEvents
  { c with st := { c.st with
      dayTime := some (if ev .sunset < now + 1 ∨ now + 1 < ev .sunrise then .night else .day)
      nextEvent := some
        -- one second of slack: the timer may fire early
        (if now + 1 < ev .sunrise + c.cf.day.eventDuration then .sunrise else .sunset) } }

def checkState (now : ℤ) (c : DaytimeCtx) : DaytimeCtx :=
  let next := atEvent c.st.dayEvents c.st.nextEvent
  let duration := c.cf.day.eventDuration
  if |next - (now + 1)| ≤ duration then
    { c with st := { c.st with
        eventTimeRange := if now + 1 < next then 0 else duration
        inEvent := true } }
  else { c with st := { c.st with eventTimeRange := -duration, inEvent := false } }

/-- The events that get_next_events computes for a day. A sunrise after the sunset is
taken from the day before, whatever that computation answers; without any event the
sunset is put 12 hours from now. -/
def sunTimes (sun : Calcs) (now dayshift : ℤ) : DayEvent → ℤ :=
  let set := sun .sunset dayshift
  let rise := sun .sunrise dayshift
  let sunset := if set.ok then set.tt else -1
  let sunrise :=
    if rise.ok then
      -- the sunrise found belongs to the day after this sunset
      if sunset < rise.tt then (sun .sunrise (dayshift - 1)).tt else rise.tt
    else -1
  let sunset := if sunrise = -1 ∧ sunset = -1 then now + 12 * 60 * 60 else sunset
  fun
    | .sunrise => sunrise
    | .sunset => sunset

def storeEvents (sun : Calcs) (now dayshift : ℤ) (c : DaytimeCtx) : DaytimeCtx :=
  let old := c.st.dayEvents
  let new := sunTimes sun now dayshift
  ({ c with st := { c.st with dayEvents := new } }.publish
    (.sunriseUpd (old .sunrise) (new .sunrise))).publish
    (.sunsetUpd (old .sunset) (new .sunset))

/-- get_next_events; `fuel` bounds its calls of itself. -/
def getNextEvents (sun : Calcs) (now : ℤ) : ℕ → ℤ → DaytimeCtx → Option DaytimeCtx
  | 0, _, _ => none
  | fuel + 1, dayshift, c =>
    let duration := c.cf.day.eventDuration
    if c.st.dayEvents .sunset + duration ≤ now + 1 then
      let set := sun .sunset dayshift
      -- a failed sunset ends the search too
      if set.ok = true ∧ set.tt + duration ≤ now + 1 then
        getNextEvents sun now fuel (dayshift + 1) c
      else some (checkState now (checkNextEvent now (storeEvents sun now dayshift c)))
    else some (checkState now (checkNextEvent now c))

def alarm (c : DaytimeCtx) : ℤ :=
  atEvent c.st.dayEvents c.st.nextEvent + atEvent c.cf.day.eventsOs c.st.nextEvent +
    c.st.eventTimeRange

/-- Publishes a field of the state that may have changed. -/
def publishChange {α : Type} [DecidableEq α] (mk : Option α → α → Msg) (old new : Option α)
    (c : DaytimeCtx) : DaytimeCtx :=
  match new with
  | some v => if old = new then c else c.publish (mk old v)
  | none => c

/-- The request that makes GAMMA set the temperature of the daytime. -/
def requestTemp (c : DaytimeCtx) : DaytimeCtx :=
  match c.st.dayTime with
  | some d =>
    if c.cf.gamma.disabled then c
    else
      let up := { c.loc.tempReq with new := c.cf.gamma.temp d }
      { c with loc := { c.loc with tempReq := up } }.publish (.tempReq .daytime up)
  | none => c

/-- The messages that check_daytime publishes, given the state it started from. -/
def announce (old : State) (c : DaytimeCtx) : DaytimeCtx :=
  let c := publishChange .daytimeUpd old.dayTime c.st.dayTime c
  let c := publishChange .nextDayevtUpd old.nextEvent c.st.nextEvent c
  let c := if old.inEvent = c.st.inEvent then c else
    c.publish (.inEventUpd old.inEvent c.st.inEvent)
  requestTemp c

def setAlarm (t : ℤ) (c : DaytimeCtx) : DaytimeCtx :=
  { c with loc := { c.loc with
      dayFd := c.loc.dayFd.map fun _ => setTimeout (toInt32 (alarm c - t)) 0 } }

def checkDaytime (sun : Calcs) (t : ℤ) (fuel : ℕ) (c : DaytimeCtx) : Option DaytimeCtx :=
  (getNextEvents sun t fuel 0 c).map fun c' => setAlarm t (announce c.st c')

/-! ### What one evaluation gives -/

theorem checkNextEvent_dayEvents (now : ℤ) (c : DaytimeCtx) :
    (checkNextEvent now c).st.dayEvents = c.st.dayEvents := rfl

theorem checkNextEvent_cf (now : ℤ) (c : DaytimeCtx) : (checkNextEvent now c).cf = c.cf := rfl

theorem checkState_dayEvents (now : ℤ) (c : DaytimeCtx) :
    (checkState now c).st.dayEvents = c.st.dayEvents := by
  unfold checkState
  dsimp only
  split_ifs <;> rfl

theorem checkState_cf (now : ℤ) (c : DaytimeCtx) : (checkState now c).cf = c.cf := by
  unfold checkState
  dsimp only
  split_ifs <;> rfl

theorem checkState_dayTime (now : ℤ) (c : DaytimeCtx) :
    (checkState now c).st.dayTime = c.st.dayTime := by
  unfold checkState
  dsimp only
  split_ifs <;> rfl

theorem checkState_nextEvent (now : ℤ) (c : DaytimeCtx) :
    (checkState now c).st.nextEvent = c.st.nextEvent := by
  unfold checkState
  dsimp only
  split_ifs <;> rfl

theorem checkState_inEvent (now : ℤ) (c : DaytimeCtx) :
    (checkState now c).st.inEvent =
      decide (|atEvent c.st.dayEvents c.st.nextEvent - (now + 1)| ≤ c.cf.day.eventDuration) := by
  unfold checkState
  dsimp only
  split
  · rename_i h
    exact (decide_eq_true h).symm
  · rename_i h
    exact (decide_eq_false h).symm

theorem checkState_eventTimeRange (now : ℤ) (c : DaytimeCtx) :
    (checkState now c).st.eventTimeRange =
      if |atEvent c.st.dayEvents c.st.nextEvent - (now + 1)| ≤ c.cf.day.eventDuration then
        if now + 1 < atEvent c.st.dayEvents c.st.nextEvent then 0 else c.cf.day.eventDuration
      else -c.cf.day.eventDuration := by
  unfold checkState
  dsimp only
  split_ifs <;> rfl

end Daytime
end Clight
