import Clight.Daytime
import Clight.Opts

/-! The alarm that check_daytime programs: when it lies ahead, and when nothing changes
before it. -/
namespace Clight.Daytime

/-- What get_next_events ends with. -/
def evaluate (now : ℤ) (c : DaytimeCtx) : DaytimeCtx := checkState now (checkNextEvent now c)

def nextAt (dur now : ℤ) (ev : DayEvent → ℤ) : DayEvent :=
  if now + 1 < ev .sunrise + dur then .sunrise else .sunset

def nightAt (now : ℤ) (ev : DayEvent → ℤ) : Prop := ev .sunset < now + 1 ∨ now + 1 < ev .sunrise

instance (now : ℤ) (ev : DayEvent → ℤ) : Decidable (nightAt now ev) :=
  inferInstanceAs (Decidable (_ ∨ _))

def inEventAt (dur now : ℤ) (ev : DayEvent → ℤ) : Prop :=
  |ev (nextAt dur now ev) - (now + 1)| ≤ dur

theorem evaluate_dayEvents (now : ℤ) (c : DaytimeCtx) :
    (evaluate now c).st.dayEvents = c.st.dayEvents := by
  rw [evaluate, checkState_dayEvents, checkNextEvent_dayEvents]

theorem evaluate_cf (now : ℤ) (c : DaytimeCtx) : (evaluate now c).cf = c.cf := by
  rw [evaluate, checkState_cf, checkNextEvent_cf]

theorem evaluate_dayTime (now : ℤ) (c : DaytimeCtx) :
    (evaluate now c).st.dayTime = some (if nightAt now c.st.dayEvents then .night else .day) := by
  rw [evaluate, checkState_dayTime]
  rfl

theorem evaluate_nextEvent (now : ℤ) (c : DaytimeCtx) :
    (evaluate now c).st.nextEvent =
      some (nextAt c.cf.day.eventDuration now c.st.dayEvents) := by
  rw [evaluate, checkState_nextEvent]
  rfl

theorem evaluate_inEvent (now : ℤ) (c : DaytimeCtx) :
    (evaluate now c).st.inEvent = true ↔
      inEventAt c.cf.day.eventDuration now c.st.dayEvents := by
  rw [evaluate, checkState_inEvent]
  exact decide_eq_true_iff

theorem evaluate_dayTime_eq_iff (now now' : ℤ) (c c' : DaytimeCtx) :
    (evaluate now c).st.dayTime = (evaluate now' c').st.dayTime ↔
      (nightAt now c.st.dayEvents ↔ nightAt now' c'.st.dayEvents) := by
  rw [evaluate_dayTime, evaluate_dayTime, Option.some_inj]
  by_cases h : nightAt now c.st.dayEvents <;> by_cases h' : nightAt now' c'.st.dayEvents <;> simp [h, h']

theorem evaluate_inEvent_eq_iff (now now' : ℤ) (c c' : DaytimeCtx) :
    (evaluate now c).st.inEvent = (evaluate now' c').st.inEvent ↔
      (inEventAt c.cf.day.eventDuration now c.st.dayEvents ↔
        inEventAt c'.cf.day.eventDuration now' c'.st.dayEvents) := by
  rw [Bool.eq_iff_iff, evaluate_inEvent, evaluate_inEvent]

/-- Seconds from `now` to the next of the start of the window of `e`, `e` itself and the
end of the window; to its start, in the past, once the window is over. -/
def timeLeft (dur now e : ℤ) : ℤ :=
  if now + 1 < e - dur then e - dur - now
  else if now + 1 < e then e - now
  else if now + 1 ≤ e + dur then e + dur - now
  else e - dur - now

/-- The alarm is set to a boundary of the window of the next event, shifted by its
offset. -/
theorem alarm_evaluate (now : ℤ) (c : DaytimeCtx) :
    alarm (evaluate now c) = now +
      timeLeft c.cf.day.eventDuration now
        (c.st.dayEvents (nextAt c.cf.day.eventDuration now c.st.dayEvents)) +
      c.cf.day.eventsOs (nextAt c.cf.day.eventDuration now c.st.dayEvents) := by
  have hrange : (evaluate now c).st.eventTimeRange =
      timeLeft c.cf.day.eventDuration now
        (c.st.dayEvents (nextAt c.cf.day.eventDuration now c.st.dayEvents)) + now -
        c.st.dayEvents (nextAt c.cf.day.eventDuration now c.st.dayEvents) := by
    rw [evaluate, checkState_eventTimeRange]
    show (if |c.st.dayEvents (nextAt c.cf.day.eventDuration now c.st.dayEvents) - (now + 1)| ≤
        c.cf.day.eventDuration then
        if now + 1 < c.st.dayEvents (nextAt c.cf.day.eventDuration now c.st.dayEvents) then 0
        else c.cf.day.eventDuration
      else -c.cf.day.eventDuration) = _
    -- from here on only the distance to one event counts
    generalize c.st.dayEvents (nextAt c.cf.day.eventDuration now c.st.dayEvents) = e
    simp only [abs_le, timeLeft]
    split_ifs <;> omega
  simp only [alarm, hrange, evaluate_dayEvents, evaluate_cf, evaluate_nextEvent, atEvent]
  ring

/-! ### Which events are in force -/

section
variable (sun : Calcs) (dur now : ℤ)

/-- The computation of a day succeeds with a sunset whose window is over. -/
def SunsetOver (dayshift : ℤ) : Prop :=
  (sun .sunset dayshift).ok = true ∧ (sun .sunset dayshift).tt + dur ≤ now + 1

/-- The day that get_next_events settles on when started at `dayshift`: the first one
whose sunset is not over. -/
def FirstAhead (dayshift : ℤ) (k : ℕ) : Prop :=
  ¬SunsetOver sun dur now (dayshift + k) ∧ ∀ j < k, SunsetOver sun dur now (dayshift + j)

variable {sun dur now}

theorem FirstAhead.zero {dayshift : ℤ} (h : ¬SunsetOver sun dur now dayshift) :
    FirstAhead sun dur now dayshift 0 := by
  refine ⟨?_, fun j hj => absurd hj (Nat.not_lt_zero j)⟩
  rwa [Nat.cast_zero, add_zero]

theorem firstAhead_succ {dayshift : ℤ} {k : ℕ} :
    FirstAhead sun dur now dayshift (k + 1) ↔
      SunsetOver sun dur now dayshift ∧ FirstAhead sun dur now (dayshift + 1) k := by
  have hcast (j : ℕ) : dayshift + ((j + 1 : ℕ) : ℤ) = dayshift + 1 + j := by
    push_cast
    ring
  constructor
  · rintro ⟨hend, hover⟩
    have hzero := hover 0 (Nat.succ_pos k)
    rw [Nat.cast_zero, add_zero] at hzero
    refine ⟨hzero, by rwa [← hcast], fun j hj => ?_⟩
    rw [← hcast]
    exact hover (j + 1) (Nat.succ_lt_succ hj)
  · rintro ⟨hzero, hend, hover⟩
    refine ⟨by rwa [hcast], fun j hj => ?_⟩
    cases j with
    | zero => rwa [Nat.cast_zero, add_zero]
    | succ j =>
      rw [hcast]
      exact hover j (Nat.lt_of_succ_lt_succ hj)

end

section
variable {sun : Calcs} {now : ℤ} {c c' : DaytimeCtx}

theorem getNextEvents_ahead {fuel : ℕ} {dayshift : ℤ}
    (h : now + 1 < c.st.dayEvents .sunset + c.cf.day.eventDuration) :
    getNextEvents sun now (fuel + 1) dayshift c = some (evaluate now c) := by
  rw [getNextEvents, if_neg (by omega)]
  rfl

theorem getNextEvents_next {fuel : ℕ} {dayshift : ℤ}
    (h : c.st.dayEvents .sunset + c.cf.day.eventDuration ≤ now + 1)
    (hover : SunsetOver sun c.cf.day.eventDuration now dayshift) :
    getNextEvents sun now (fuel + 1) dayshift c = getNextEvents sun now fuel (dayshift + 1) c := by
  rw [getNextEvents, if_pos h]
  exact if_pos hover

theorem getNextEvents_stop {fuel : ℕ} {dayshift : ℤ}
    (h : c.st.dayEvents .sunset + c.cf.day.eventDuration ≤ now + 1)
    (hover : ¬SunsetOver sun c.cf.day.eventDuration now dayshift) :
    getNextEvents sun now (fuel + 1) dayshift c =
      some (evaluate now (storeEvents sun now dayshift c)) := by
  rw [getNextEvents, if_pos h]
  exact if_neg hover

/-- A run of get_next_events that has to compute ends on the first day ahead. -/
theorem getNextEvents_over {fuel : ℕ} {dayshift : ℤ}
    (h : c.st.dayEvents .sunset + c.cf.day.eventDuration ≤ now + 1)
    (hrun : getNextEvents sun now fuel dayshift c = some c') :
    ∃ k : ℕ, FirstAhead sun c.cf.day.eventDuration now dayshift k ∧
      c' = evaluate now (storeEvents sun now (dayshift + k) c) := by
  -- each call of itself moves on by a day
  induction fuel generalizing dayshift with
  | zero => cases hrun
  | succ fuel ih =>
    by_cases hover : SunsetOver sun c.cf.day.eventDuration now dayshift
    · rw [getNextEvents_next h hover] at hrun
      obtain ⟨k, hk, hc⟩ := ih hrun
      refine ⟨k + 1, firstAhead_succ.mpr ⟨hover, hk⟩, ?_⟩
      rw [hc, Nat.cast_succ, add_assoc dayshift 1, add_comm (1 : ℤ)]
    · rw [getNextEvents_stop h hover] at hrun
      refine ⟨0, .zero hover, ?_⟩
      rw [Nat.cast_zero, add_zero]
      exact (Option.some.inj hrun).symm

/-- With fuel for every day before it, the first day ahead is reached. -/
theorem getNextEvents_of_firstAhead {k : ℕ} {dayshift : ℤ}
    (h : c.st.dayEvents .sunset + c.cf.day.eventDuration ≤ now + 1)
    (hk : FirstAhead sun c.cf.day.eventDuration now dayshift k) :
    getNextEvents sun now (k + 1) dayshift c =
      some (evaluate now (storeEvents sun now (dayshift + k) c)) := by
  -- one unit of fuel for each day that is over
  induction k generalizing dayshift with
  | zero =>
    have hend := hk.1
    rw [Nat.cast_zero, add_zero] at hend ⊢
    exact getNextEvents_stop h hend
  | succ k ih =>
    obtain ⟨hover, hk⟩ := firstAhead_succ.mp hk
    rw [getNextEvents_next h hover, ih hk, Nat.cast_succ, add_assoc dayshift 1, add_comm (1 : ℤ)]

/-- The events in force after get_next_events: those of the state while its sunset is not
over, else those of the first day ahead. -/
def InForce (sun : Calcs) (now : ℤ) (c : DaytimeCtx) (ev : DayEvent → ℤ) : Prop :=
  if c.st.dayEvents .sunset + c.cf.day.eventDuration ≤ now + 1 then
    ∃ k : ℕ, FirstAhead sun c.cf.day.eventDuration now 0 k ∧ ev = sunTimes sun now k
  else ev = c.st.dayEvents

theorem getNextEvents_inForce {fuel : ℕ} (hrun : getNextEvents sun now fuel 0 c = some c') :
    ∃ c₁ : DaytimeCtx, c' = evaluate now c₁ ∧ InForce sun now c c₁.st.dayEvents ∧ c₁.cf = c.cf := by
  unfold InForce
  split
  · rename_i h
    obtain ⟨k, hk, hc⟩ := getNextEvents_over h hrun
    rw [zero_add] at hc
    exact ⟨_, hc, ⟨k, hk, rfl⟩, rfl⟩
  · rename_i h
    cases fuel with
    | zero => cases hrun
    | succ fuel =>
      rw [getNextEvents_ahead (by omega)] at hrun
      exact ⟨c, (Option.some.inj hrun).symm, rfl, rfl⟩

theorem exists_getNextEvents {ev : DayEvent → ℤ} (h : InForce sun now c ev) :
    ∃ fuel c₁, getNextEvents sun now fuel 0 c = some (evaluate now c₁) ∧
      c₁.st.dayEvents = ev ∧ c₁.cf = c.cf := by
  unfold InForce at h
  split at h
  · rename_i hle
    obtain ⟨k, hk, rfl⟩ := h
    refine ⟨k + 1, _, getNextEvents_of_firstAhead hle hk, ?_, rfl⟩
    rw [zero_add]
    rfl
  · rename_i hlt
    exact ⟨1, c, getNextEvents_ahead (by omega), h.symm, rfl⟩

end

/-! ### The alarm -/

/-- Only messages differ. -/
structure Same (c c' : DaytimeCtx) : Prop where
  st : c'.st = c.st
  cf : c'.cf = c.cf
  dayFd : c'.loc.dayFd = c.loc.dayFd

theorem Same.trans {c₁ c₂ c₃ : DaytimeCtx} (h : Same c₁ c₂) (h' : Same c₂ c₃) : Same c₁ c₃ :=
  ⟨h'.st.trans h.st, h'.cf.trans h.cf, h'.dayFd.trans h.dayFd⟩

theorem same_publishChange {α : Type} [DecidableEq α] (mk : Option α → α → Msg)
    (old new : Option α) (c : DaytimeCtx) : Same c (publishChange mk old new c) := by
  unfold publishChange
  split
  · split_ifs <;> exact ⟨rfl, rfl, rfl⟩
  · exact ⟨rfl, rfl, rfl⟩

theorem same_requestTemp (c : DaytimeCtx) : Same c (requestTemp c) := by
  unfold requestTemp
  split
  · split_ifs <;> exact ⟨rfl, rfl, rfl⟩
  · exact ⟨rfl, rfl, rfl⟩

theorem same_announce (old : State) (c : DaytimeCtx) : Same c (announce old c) := by
  have hev (c : DaytimeCtx) : Same c (if old.inEvent = c.st.inEvent then c else
      c.publish (.inEventUpd old.inEvent c.st.inEvent)) := by
    split_ifs <;> exact ⟨rfl, rfl, rfl⟩
  unfold announce
  exact (same_publishChange _ _ _ c).trans ((same_publishChange _ _ _ _).trans
    ((hev _).trans (same_requestTemp _)))

/-- check_daytime leaves the state of get_next_events, and sets the timer, if it exists,
to the time left to the alarm. -/
theorem checkDaytime_eq {sun : Calcs} {t : ℤ} {fuel : ℕ} {c c₁ : DaytimeCtx}
    (h : getNextEvents sun t fuel 0 c = some c₁) :
    ∃ c', checkDaytime sun t fuel c = some c' ∧ c'.st = c₁.st ∧ c'.cf = c₁.cf ∧
      c'.loc.dayFd = c₁.loc.dayFd.map fun _ => setTimeout (toInt32 (alarm c' - t)) 0 := by
  have hsame := same_announce c.st c₁
  refine ⟨setAlarm t (announce c.st c₁), ?_, hsame.st, hsame.cf, ?_⟩
  · rw [checkDaytime, h, Option.map_some]
  · show (announce c.st c₁).loc.dayFd.map _ = _
    rw [hsame.dayFd]
    rfl

theorem checkDaytime_alarm {sun : Calcs} {t : ℤ} {fuel : ℕ} {c c' : DaytimeCtx}
    (h : checkDaytime sun t fuel c = some c') :
    ∃ c₁ : DaytimeCtx, InForce sun t c c₁.st.dayEvents ∧ c₁.cf = c.cf ∧
      c'.st = (evaluate t c₁).st ∧ c'.cf = c.cf ∧ alarm c' = alarm (evaluate t c₁) := by
  cases hg : getNextEvents sun t fuel 0 c with
  | none =>
    rw [checkDaytime, hg] at h
    cases h
  | some c₂ =>
    obtain ⟨c₃, hc₃, hst, hcf, -⟩ := checkDaytime_eq hg
    obtain rfl : c' = c₃ := Option.some.inj (h.symm.trans hc₃)
    obtain ⟨c₁, rfl, hin, hcf₁⟩ := getNextEvents_inForce hg
    have hcf' : c'.cf = (evaluate t c₁).cf := hcf
    refine ⟨c₁, hin, hcf₁, hst, by rw [hcf', evaluate_cf, hcf₁], ?_⟩
    rw [alarm, alarm, hst, hcf']

/-- The offset of the next event does not reach back over the time left to it, and the
delay fits in the int that set_timeout takes. -/
def OffsetOk (cf : DaytimeConf) (now : ℤ) (ev : DayEvent → ℤ) : Prop :=
  let next := nextAt cf.eventDuration now ev
  timeLeft cf.eventDuration now (ev next) > -cf.eventsOs next ∧
    0 < toInt32 (timeLeft cf.eventDuration now (ev next) + cf.eventsOs next)

/-- The alarm lies ahead, with a positive delay, exactly when some day ahead is found and
the offset of the next event leaves time to it. -/
theorem alarm_progress_iff (sun : Calcs) (t : ℤ) (c : DaytimeCtx) :
    (∃ fuel c', checkDaytime sun t fuel c = some c' ∧ t < alarm c' ∧ 0 < toInt32 (alarm c' - t)) ↔
      ∃ ev, InForce sun t c ev ∧ OffsetOk c.cf.day t ev := by
  unfold OffsetOk
  constructor
  · rintro ⟨fuel, c', hc, hlt, hint⟩
    obtain ⟨c₁, hin, hcf, -, -, hal⟩ := checkDaytime_alarm hc
    rw [hal, alarm_evaluate, hcf] at hlt hint
    refine ⟨_, hin, by omega, ?_⟩
    convert hint using 2
    ring
  · rintro ⟨ev, hin, hos, hint⟩
    obtain ⟨fuel, c₁, hrun, rfl, hcf⟩ := exists_getNextEvents hin
    obtain ⟨c', hc', hst, hcf', -⟩ := checkDaytime_eq hrun
    have hal : alarm c' = alarm (evaluate t c₁) := by
      rw [alarm, alarm, hst, hcf']
    rw [← hcf] at hos hint
    refine ⟨fuel, c', hc', ?_, ?_⟩
    · rw [hal, alarm_evaluate]
      omega
    · rw [hal, alarm_evaluate]
      convert hint using 2
      ring

/-- An afternoon whose sunset was computed, with the sunset announced 10 minutes early. -/
def earlySunset : DaytimeCtx :=
  let cf := { Conf.default with day := { Conf.default.day with
    eventsOs := fun e => match e with
      | .sunrise => 0
      | .sunset => -600 } }
  { loc := { dayFd := some .disarmed, tempReq := ⟨-1, 0, -1, 0, 0⟩ }
    st := { initState cf with
      dayEvents := fun e => match e with
        | .sunrise => 20000
        | .sunset => 60000 }
    cf := cf
    out := []
    calls := [] }

/-- An alarm set early by its offset is set again to the same time when it fires. -/
theorem alarm_progress_fails : ¬ ∀ (sun : Calcs) (t : ℤ) (c : DaytimeCtx),
    0 < c.cf.day.eventDuration → ∃ fuel c', checkDaytime sun t fuel c = some c' ∧ t < alarm c' ∧
      0 < toInt32 (alarm c' - t) := by
  intro h
  -- at the alarm the sunset is half an hour and ten minutes ahead, as it was in the morning
  obtain ⟨fuel, c', hc, hlt, -⟩ := h (fun _ _ => ⟨false, 0⟩) 57600 earlySunset (by decide)
  obtain ⟨c₁, hin, hcf, -, -, hal⟩ := checkDaytime_alarm hc
  have hev : c₁.st.dayEvents = earlySunset.st.dayEvents := by
    unfold InForce at hin
    rwa [if_neg (by decide)] at hin
  rw [hal, alarm_evaluate, hcf, hev] at hlt
  revert hlt
  decide

/-- The alarm in force at that time is the one that check_daytime set in the morning. -/
example : (checkDaytime (fun _ _ => ⟨false, 0⟩) 50000 1 earlySunset).map alarm = some 57600 := by
  decide +kernel

/-! ### Between two alarms -/

/-- A sunset that was computed is ahead once its day is settled on. -/
theorem sunTimes_sunset_ahead {sun : Calcs} {dur now k : ℤ} (hdur : 0 < dur)
    (hok : (sun .sunset k).ok = true) (hk : ¬SunsetOver sun dur now k) :
    now + 1 < sunTimes sun now k .sunset + dur := by
  have hlt : now + 1 < (sun .sunset k).tt + dur := by
    by_contra hle
    exact hk ⟨hok, not_lt.mp hle⟩
  -- the 12 hours from now are ahead as well
  have hset : sunTimes sun now k .sunset = (sun .sunset k).tt ∨
      sunTimes sun now k .sunset = now + 12 * 60 * 60 := by
    simp only [sunTimes, hok, if_true]
    split_ifs
    all_goals first
      | exact .inl rfl
      | exact .inr rfl
  rcases hset with hs | hs <;> omega

/-- With the sunset of the day computed, its window is not over. -/
theorem InForce.sunset_ahead {sun : Calcs} {now : ℤ} {c : DaytimeCtx} {ev : DayEvent → ℤ}
    (h : InForce sun now c ev) (hdur : 0 < c.cf.day.eventDuration)
    (hok : ∀ d, (sun .sunset d).ok = true) : now + 1 < ev .sunset + c.cf.day.eventDuration := by
  unfold InForce at h
  split at h
  · obtain ⟨k, hk, rfl⟩ := h
    have hend := hk.1
    rw [zero_add] at hend
    exact sunTimes_sunset_ahead hdur (hok k) hend
  · subst h
    omega

theorem apply_nextAt (dur now : ℤ) (ev : DayEvent → ℤ) :
    ev (nextAt dur now ev) = if now + 1 < ev .sunrise + dur then ev .sunrise else ev .sunset :=
  apply_ite ev _ _ _

/-- Daytime and event stay as they are until the alarm, unless the alarm skips the end of
the sunset's second, or the sunset comes within the window of the sunrise. -/
theorem steady_iff {dur now : ℤ} {ev : DayEvent → ℤ} (hdur : 0 < dur)
    (hahead : now + 1 < ev .sunset + dur) :
    (∀ t, now ≤ t → t + 1 < now + timeLeft dur now (ev (nextAt dur now ev)) →
      (nightAt t ev ↔ nightAt now ev) ∧ (inEventAt dur t ev ↔ inEventAt dur now ev)) ↔
    ¬(now + 1 = ev .sunset ∧ ev .sunrise + dur ≤ ev .sunset ∧ 1 < dur) ∧
      ¬(ev .sunrise ≤ now + 1 ∧ now + 1 ≤ ev .sunset ∧ ev .sunset + 1 < ev .sunrise + dur) := by
  simp only [nightAt, inEventAt, apply_nextAt, timeLeft, abs_le]
  generalize ev .sunrise = rise at *
  generalize ev .sunset = set at *
  constructor
  · intro h
    constructor
    -- at the second of the sunset itself it is night already, before the alarm
    · rintro ⟨hnow, hrise, h1⟩
      have hnext := h set (by omega) (by split_ifs <;> omega)
      omega
    -- the sunset comes while the alarm waits for the end of the sunrise's window
    · rintro ⟨hr, hs, hwin⟩
      have hnext := h set (by omega) (by split_ifs <;> omega)
      omega
  · rintro ⟨hedge, hoverlap⟩ t ht halarm
    constructor
    · split_ifs at halarm <;> omega
    · split_ifs at halarm ⊢ <;> omega

/-- `now` is not read as the second of the sunset itself, once the sunrise is over, and the
sunset does not come within the window of a sunrise that is past. -/
def SteadyOk (dur now : ℤ) (ev : DayEvent → ℤ) : Prop :=
  ¬(now + 1 = ev .sunset ∧ ev .sunrise + dur ≤ ev .sunset ∧ 1 < dur) ∧
    ¬(ev .sunrise ≤ now + 1 ∧ now + 1 ≤ ev .sunset ∧ ev .sunset + 1 < ev .sunrise + dur)

/-- Without offsets, evaluating again before the alarm gives the daytime and the event
that check_daytime stored, exactly under that condition on the events it found. -/
theorem no_transition_missed_iff {sun : Calcs} {t : ℤ} {fuel : ℕ} {c c' : DaytimeCtx}
    (hdur : 0 < c.cf.day.eventDuration) (hos : ∀ e, c.cf.day.eventsOs e = 0)
    (hok : ∀ d, (sun .sunset d).ok = true) (h : checkDaytime sun t fuel c = some c') :
    (∀ t', t ≤ t' → t' + 1 < alarm c' →
      (evaluate t' c').st.dayTime = c'.st.dayTime ∧ (evaluate t' c').st.inEvent = c'.st.inEvent) ↔
      SteadyOk c.cf.day.eventDuration t c'.st.dayEvents := by
  obtain ⟨c₁, hin, hcf, hst, hcf', hal⟩ := checkDaytime_alarm h
  have hev : c'.st.dayEvents = c₁.st.dayEvents := by
    rw [hst, evaluate_dayEvents]
  have hsame (t' : ℤ) :
      ((evaluate t' c').st.dayTime = c'.st.dayTime ↔
        (nightAt t' c₁.st.dayEvents ↔ nightAt t c₁.st.dayEvents)) ∧
      ((evaluate t' c').st.inEvent = c'.st.inEvent ↔
        (inEventAt c.cf.day.eventDuration t' c₁.st.dayEvents ↔
          inEventAt c.cf.day.eventDuration t c₁.st.dayEvents)) := by
    constructor
    · rw [hst, evaluate_dayTime_eq_iff, hev]
    · rw [hst, evaluate_inEvent_eq_iff, hev, hcf', hcf]
  rw [hal, alarm_evaluate, hcf, hos, add_zero, hev]
  simp only [hsame]
  exact steady_iff hdur (hin.sunset_ahead hdur hok)

def afternoon : DaytimeCtx := { earlySunset with cf := .default }

theorem no_transition_missed_afternoon : ∃ c',
    checkDaytime (fun _ _ => ⟨true, 60000⟩) 50000 1 afternoon = some c' ∧
      ∀ t', 50000 ≤ t' → t' + 1 < alarm c' →
        (evaluate t' c').st.dayTime = c'.st.dayTime ∧
          (evaluate t' c').st.inEvent = c'.st.inEvent := by
  have h : checkDaytime (fun _ _ => ⟨true, 60000⟩) 50000 1 afternoon = some _ := rfl
  have hsteady := no_transition_missed_iff (by decide) (fun _ => rfl) (fun _ => rfl) h
  refine ⟨_, h, hsteady.mpr ?_⟩
  constructor <;> decide +kernel

/-- A timer that fires one second early finds the day not over, and the next alarm is at
the end of the window: the night begins only then. -/
theorem no_transition_missed_fails : ¬ ∀ (sun : Calcs) (t : ℤ) (fuel : ℕ) (c c' : DaytimeCtx),
    0 < c.cf.day.eventDuration → (∀ e, c.cf.day.eventsOs e = 0) →
    (∀ e d, (sun e d).ok = true) → checkDaytime sun t fuel c = some c' →
    ∀ t', t ≤ t' → t' + 1 < alarm c' →
      (evaluate t' c').st.dayTime = c'.st.dayTime ∧
        (evaluate t' c').st.inEvent = c'.st.inEvent := by
  intro h
  have hday := (h (fun _ _ => ⟨true, 60000⟩) 59999 1 afternoon _ (by decide) (fun _ => rfl)
    (fun _ _ => rfl) rfl 60000 (by decide) (by decide +kernel)).1
  revert hday
  decide +kernel

end Clight.Daytime
