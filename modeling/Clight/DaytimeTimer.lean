import Clight.ConfRuns
import Clight.DaytimeAlarm
import Clight.Location

/-! The timer of DAYTIME (daytime.c): it is created once a position or fixed events are known, and every
set_timeout on it should come after that. Writes of the offsets do not wait. -/
namespace Clight

inductive DaytimeRecv | waitingLoc
  deriving DecidableEq

/-- Messages in DAYTIME's mailbox; its own event requests are static ones. -/
inductive DayBoxMsg
  | loopStarted
  | locUpd (new : Loc)
  | eventReqStatic (e : DayEvent)
  deriving DecidableEq

structure DaytimeModule where
  stack : RecvStack DaytimeRecv
  /-- m_stop was called. -/
  stopped : Bool
  ctx : DaytimeCtx
  /-- The names in the static requests; one that does not fit is `none`. -/
  eventReqs : DayEvent → Option EventTime
  queue : List DayBoxMsg
  /-- For every set_timeout on day_fd, whether the timer had been created. -/
  timeouts : List Bool

theorem EventTime.nil_fits : ([] : List Char).length ≤ 9 := Nat.zero_le 9

/-- DAYTIME after init. -/
def DaytimeModule.init (st : State) (cf : Conf) : DaytimeModule where
  stack := [.waitingLoc]
  stopped := false
  ctx :=
    { loc := { dayFd := none, tempReq := ⟨-1, 0, -1, 0, 0⟩ }
      st := st
      cf := cf
      out := []
      calls := [] }
  eventReqs := fun _ => some ⟨[], EventTime.nil_fits⟩
  queue := []
  timeouts := []

/-- What reaches DAYTIME: messages of other modules, writes of its properties, and its timer. -/
inductive DaytimeStep
  | publish (m : DayBoxMsg)
  | setEvent (e : DayEvent) (event : Option EventTime)
  | setOs (e : DayEvent) (new : ℤ)
  | deliver (locationRunning : Bool)
  | timer (sun : Calcs) (now : ℤ) (fuel : ℕ)

namespace DaytimeModule

/-- set_timeout on day_fd, which is descriptor 0 until start_daytime. -/
def touch (s : DaytimeModule) : DaytimeModule :=
  { s with timeouts := s.timeouts ++ [s.ctx.loc.dayFd.isSome] }

def resetDaytime (s : DaytimeModule) : DaytimeModule :=
  { s.touch with ctx := Daytime.resetDaytime s.ctx }

def startDaytime (s : DaytimeModule) : DaytimeModule :=
  { s with
    stack := unbecome s.stack
    ctx := { s.ctx with loc := { s.ctx.loc with dayFd := some (setTimeout 0 1) } } }

/-- No location provider: DAYTIME stops itself for good, and it is day. -/
def fallback (s : DaytimeModule) : DaytimeModule :=
  { s with
    stopped := true
    ctx := { s.ctx.publish (.daytimeUpd s.ctx.st.dayTime .day) with
      st := { s.ctx.st with dayTime := some .day } } }

def receiveWaitingLoc (locationRunning : Bool) (m : DayBoxMsg) (s : DaytimeModule) : DaytimeModule :=
  match m with
  | .locUpd new => if new.lat = latUndefined then fallback s else startDaytime s
  | .loopStarted => if locationRunning then s else startDaytime s
  | .eventReqStatic _ => s

/-- SUNRISE_REQ and SUNSET_REQ, with the name that the static request holds by now. -/
def onEventReq (e : DayEvent) (s : DaytimeModule) : DaytimeModule :=
  match s.eventReqs e with
  | none => s
  | some event =>
    if validateEvt event then { s.touch with ctx := Daytime.onEventReq e event s.ctx } else s

def receive (m : DayBoxMsg) (s : DaytimeModule) : DaytimeModule :=
  match m with
  | .locUpd _ => resetDaytime s
  | .eventReqStatic e => onEventReq e s
  | .loopStarted => s

/-- The receiver on top of the stack. A module that was stopped receives nothing. -/
def handle (locationRunning : Bool) (m : DayBoxMsg) (s : DaytimeModule) : DaytimeModule :=
  if s.stopped then s
  else match s.stack with
    | .waitingLoc :: _ => receiveWaitingLoc locationRunning m s
    | [] => receive m s

/-- set_event publishes a request. -/
def setEvent (e : DayEvent) (event : Option EventTime) (s : DaytimeModule) : DaytimeModule :=
  { s with
    eventReqs := Function.update s.eventReqs e event
    queue := s.queue ++ [.eventReqStatic e] }

/-- set_os writes the offset and acts at once. -/
def setOs (e : DayEvent) (new : ℤ) (s : DaytimeModule) : DaytimeModule :=
  resetDaytime { s with ctx := { s.ctx with cf := { s.ctx.cf with day := { s.ctx.cf.day with
    eventsOs := Function.update s.ctx.cf.day.eventsOs e new } } } }

/-- FD_UPD comes from the timer, once it is registered. -/
def onTimer (sun : Calcs) (now : ℤ) (fuel : ℕ) (s : DaytimeModule) : Option DaytimeModule :=
  if s.stopped = true ∨ s.ctx.loc.dayFd.isNone = true then none
  else
    let c := { s.ctx with loc := { s.ctx.loc with dayFd := s.ctx.loc.dayFd.map TimerFd.read } }
    (Daytime.checkDaytime sun now fuel c).map fun c => { s.touch with ctx := c }

def next (s : DaytimeModule) : DaytimeStep → Option DaytimeModule
  | .publish m => some { s with queue := s.queue ++ [m] }
  | .setEvent e event => some (setEvent e event s)
  | .setOs e new => some (setOs e new s)
  | .deliver locationRunning =>
    match s.queue with
    | [] => none
    | m :: ms => some (handle locationRunning m { s with queue := ms })
  | .timer sun now fuel => onTimer sun now fuel s

end DaytimeModule

def daytimeTimer : Machine DaytimeModule DaytimeStep where
  init s := ∃ st cf, s = .init st cf
  next := DaytimeModule.next

namespace DaytimeModule

/-- The base receiver is reached only through start_daytime. -/
def Ready (s : DaytimeModule) : Prop := s.stack = [] → s.ctx.loc.dayFd.isSome = true

/-- No offset is written before the timer was created. -/
def OffsetInTime (s : DaytimeModule) : DaytimeStep → Prop
  | .setOs _ _ => s.ctx.loc.dayFd.isSome = true
  | _ => True

instance (s : DaytimeModule) : ∀ e, Decidable (OffsetInTime s e)
  | .setOs _ _ => inferInstanceAs (Decidable (s.ctx.loc.dayFd.isSome = true))
  | .publish _ | .setEvent _ _ | .deliver _ | .timer _ _ _ => isTrue trivial

/-- Every set_timeout on day_fd found the timer. -/
def Safe (s : DaytimeModule) : Prop := ∀ created ∈ s.timeouts, created = true

/-! ### What a step does to the timer -/

/-- A step adds `ts` to the record of set_timeout, and leaves the module ready. -/
structure Touches (ts : List Bool) (s s' : DaytimeModule) : Prop where
  timeouts : s'.timeouts = s.timeouts ++ ts
  ready : Ready s'

theorem Touches.none {s s' : DaytimeModule} (h : s'.timeouts = s.timeouts) (hr : Ready s') :
    Touches [] s s' := ⟨h.trans (List.append_nil _).symm, hr⟩

variable {s : DaytimeModule}

theorem resetDaytime_touches (h : Ready s) : Touches [s.ctx.loc.dayFd.isSome] s (resetDaytime s) where
  timeouts := rfl
  ready := by
    intro hstack
    change (s.ctx.loc.dayFd.map _).isSome = true
    rw [Option.isSome_map]
    exact h hstack

theorem startDaytime_ready (s : DaytimeModule) : Ready (startDaytime s) := fun _ => rfl

/-- While DAYTIME waits, it does not use its timer. -/
theorem receiveWaitingLoc_touches (h : Ready s) (locationRunning : Bool) (m : DayBoxMsg) :
    Touches [] s (receiveWaitingLoc locationRunning m s) := by
  have hstart : Touches [] s (startDaytime s) := .none rfl (startDaytime_ready s)
  have hsame : Touches [] s s := .none rfl h
  cases m with
  | loopStarted =>
    dsimp only [receiveWaitingLoc]
    split_ifs
    · exact hsame
    · exact hstart
  | locUpd new =>
    dsimp only [receiveWaitingLoc]
    split_ifs
    · exact .none rfl h
    · exact hstart
  | eventReqStatic e => exact hsame

theorem dayFd_onEventReq (e : DayEvent) (event : EventTime) (c : DaytimeCtx) :
    (Daytime.onEventReq e event c).loc.dayFd.isSome = c.loc.dayFd.isSome := by
  unfold Daytime.onEventReq Daytime.resetDaytime
  split_ifs
  · exact Option.isSome_map
  · rfl

theorem onEventReq_touches (h : Ready s) (e : DayEvent) :
    ∃ ts, Touches ts s (onEventReq e s) ∧ ∀ created ∈ ts, created = s.ctx.loc.dayFd.isSome := by
  unfold onEventReq
  cases s.eventReqs e with
  | none => exact ⟨[], .none rfl h, by simp⟩
  | some event =>
    dsimp only
    split_ifs
    · refine ⟨[s.ctx.loc.dayFd.isSome], ⟨rfl, fun hstack => ?_⟩, by simp⟩
      exact (dayFd_onEventReq e event s.ctx).trans (h hstack)
    · exact ⟨[], .none rfl h, by simp⟩

/-- Afterwards it uses the one that it has. -/
theorem receive_touches (h : Ready s) (m : DayBoxMsg) :
    ∃ ts, Touches ts s (receive m s) ∧ ∀ created ∈ ts, created = s.ctx.loc.dayFd.isSome := by
  cases m with
  | loopStarted => exact ⟨[], .none rfl h, by simp⟩
  | locUpd new => exact ⟨_, resetDaytime_touches h, by simp⟩
  | eventReqStatic e => exact onEventReq_touches h e

theorem handle_touches (h : Ready s) (locationRunning : Bool) (m : DayBoxMsg) :
    ∃ ts, Touches ts s (handle locationRunning m s) ∧ ∀ created ∈ ts, created = true := by
  unfold handle
  split_ifs
  · exact ⟨[], .none rfl h, by simp⟩
  · split
    · exact ⟨[], receiveWaitingLoc_touches h locationRunning m, by simp⟩
    · next hstack =>
      obtain ⟨ts, htouch, hts⟩ := receive_touches h m
      exact ⟨ts, htouch, fun created hc => (hts created hc).trans (h hstack)⟩

theorem getNextEvents_loc {sun : Calcs} {now : ℤ} {fuel : ℕ} {dayshift : ℤ} {c c' : DaytimeCtx}
    (h : Daytime.getNextEvents sun now fuel dayshift c = some c') : c'.loc = c.loc := by
  have hcheck (c : DaytimeCtx) : (Daytime.checkState now (Daytime.checkNextEvent now c)).loc = c.loc := by
    unfold Daytime.checkState
    dsimp only
    split_ifs <;> rfl
  induction fuel generalizing dayshift with
  | zero => cases h
  | succ fuel ih =>
    unfold Daytime.getNextEvents at h
    dsimp only at h
    split_ifs at h
    · exact ih h
    · rw [← Option.some.inj h, hcheck]
      rfl
    · rw [← Option.some.inj h, hcheck]

theorem checkDaytime_dayFd {sun : Calcs} {now : ℤ} {fuel : ℕ} {c c' : DaytimeCtx}
    (h : Daytime.checkDaytime sun now fuel c = some c') :
    c'.loc.dayFd.isSome = c.loc.dayFd.isSome := by
  obtain ⟨c₁, hnext, -⟩ := Option.map_eq_some_iff.mp h
  obtain ⟨c₂, hc₂, -, -, hfd⟩ := Daytime.checkDaytime_eq hnext
  obtain rfl := Option.some.inj (hc₂.symm.trans h)
  rw [hfd, Option.isSome_map, getNextEvents_loc hnext]

theorem onTimer_touches {sun : Calcs} {now : ℤ} {fuel : ℕ} {s' : DaytimeModule}
    (hn : onTimer sun now fuel s = some s') : Touches [true] s s' := by
  unfold onTimer at hn
  split_ifs at hn with hoff
  obtain ⟨c, hc, rfl⟩ := Option.map_eq_some_iff.mp hn
  have hfd : s.ctx.loc.dayFd.isSome = true := by
    cases hnone : s.ctx.loc.dayFd with
    | none => exact absurd (.inr (hnone ▸ rfl)) hoff
    | some t => rfl
  refine ⟨?_, fun _ => ?_⟩
  · rw [← hfd]
    rfl
  · refine (checkDaytime_dayFd hc).trans ?_
    rw [Option.isSome_map]
    exact hfd

/-- One step: everything that it does to the timer is right exactly when it is not an offset that comes
too early. -/
theorem next_touches (h : Ready s) {e : DaytimeStep} {s' : DaytimeModule} (hn : next s e = some s') :
    ∃ ts, Touches ts s s' ∧ ((∀ created ∈ ts, created = true) ↔ OffsetInTime s e) := by
  cases e with
  | publish m =>
    obtain rfl := Option.some.inj hn
    exact ⟨[], .none rfl h, by simp [OffsetInTime]⟩
  | setEvent e event =>
    obtain rfl := Option.some.inj hn
    exact ⟨[], .none rfl h, by simp [OffsetInTime]⟩
  | setOs e new =>
    obtain rfl := Option.some.inj hn
    refine ⟨[s.ctx.loc.dayFd.isSome], ?_, by simp [OffsetInTime]⟩
    exact ⟨rfl, (resetDaytime_touches (s := { s with ctx := _ }) h).ready⟩
  | deliver locationRunning =>
    unfold next at hn
    cases hq : s.queue with
    | nil =>
      rw [hq] at hn
      cases hn
    | cons m ms =>
      rw [hq] at hn
      obtain rfl := Option.some.inj hn
      obtain ⟨ts, htouch, hts⟩ := handle_touches (s := { s with queue := ms }) h locationRunning m
      exact ⟨ts, ⟨htouch.timeouts, htouch.ready⟩, fun _ => trivial, fun _ => hts⟩
  | timer sun now fuel => exact ⟨[true], onTimer_touches hn, by simp [OffsetInTime]⟩

/-! ### Runs -/

theorem safe_next (h : Ready s) {e : DaytimeStep} {s' : DaytimeModule} (hn : next s e = some s') :
    (Safe s' ↔ Safe s ∧ OffsetInTime s e) ∧ Ready s' := by
  obtain ⟨ts, htouch, hts⟩ := next_touches h hn
  unfold Safe
  rw [htouch.timeouts, List.forall_mem_append, hts]
  exact ⟨Iff.rfl, htouch.ready⟩

/-- A run uses the timer only after its creation if and only if no offset is written before that: not
while DAYTIME waits for a position, and never once it has stopped itself for lack of one. -/
theorem safe_iff {s s' : DaytimeModule} {es : List DaytimeStep} (hs : daytimeTimer.init s)
    (hrun : daytimeTimer.run s es = some s') :
    Safe s' ↔ daytimeTimer.RunBy OffsetInTime s es := by
  obtain ⟨st, cf, rfl⟩ := hs
  have hready : Ready (.init st cf) := by
    intro habsurd
    cases habsurd
  have hsafe : Safe (.init st cf) := fun created hmem => absurd hmem List.not_mem_nil
  have hiff := Machine.iff_runBy_of_step (I := Ready) (P := Safe) (C := OffsetInTime)
    (fun _ _ _ h hn => safe_next h hn) hready hrun
  exact hiff.trans (and_iff_right hsafe)

/-- DAYTIME before the loop starts. -/
def beforeLoop : DaytimeModule := .init (initState .default) .default

theorem beforeLoop_init : daytimeTimer.init beforeLoop := ⟨_, _, rfl⟩

theorem safe_started : ∃ s', daytimeTimer.run beforeLoop
    [.publish .loopStarted, .deliver false, .setOs .sunrise 60] = some s' ∧ Safe s' := by
  have hrun : daytimeTimer.run beforeLoop
      [.publish .loopStarted, .deliver false, .setOs .sunrise 60] = some _ := rfl
  exact ⟨_, hrun, (safe_iff beforeLoop_init hrun).mpr (by decide)⟩

/-- LOCATION runs, so DAYTIME waits; the offset of the sunrise is written meanwhile. -/
theorem safe_waiting : ¬ ∀ (s s' : DaytimeModule) (es : List DaytimeStep), daytimeTimer.init s →
    daytimeTimer.run s es = some s' → Safe s' := by
  intro hall
  have hsafe := hall beforeLoop _ [.publish .loopStarted, .deliver true, .setOs .sunrise 60]
    beforeLoop_init rfl
  exact absurd (hsafe false List.mem_cons_self) Bool.false_ne_true

end DaytimeModule

end Clight
