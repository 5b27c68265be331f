import Clight.BacklightSpec
import Clight.DaytimeEvents
import Clight.ResetTimer

/-! The time that the capture timer has waited, when the daytime or the event changes: each
message rescales the timer from the timeout that its handler takes for the old one. -/
namespace Clight

/-! ### One rescale -/

/-- Seconds left after reset_timer: it lets a timer in its last second fire, and takes a
negative elapsed time for a huge one. -/
def rescaled (old new s : ℤ) : ℤ := if s = 0 ∨ old < s then 0 else max 0 (new - (old - s))

theorem resetTimer_armed {old new : ℤ} {s : ℕ} (hold : 0 < old) (hold' : old < 2^31) (hnew : 0 < new)
    (hnew' : new < 2^31) (hs : (s : ℤ) < 2^31) :
    resetTimer old new (.armed s) = .armed (rescaled old new s).toNat := by
  have hn : toUInt32 new = new := Int.emod_eq_of_lt hnew.le (by omega)
  have hfire : TimerFd.now = .armed (0 : ℤ).toNat := rfl
  rw [rescaled]
  by_cases hzero : (s : ℤ) = 0
  · have hs0 : s = 0 := by omega
    unfold resetTimer
    rw [if_neg (not_le.mpr hold), if_pos ⟨hzero, hnew⟩, if_pos (Or.inl hzero), hs0]
    rfl
  · by_cases hwrap : old < s
    · -- the difference wraps to more than any int
      have he : toUInt32 (old - s) = old - s + 2^32 := by
        unfold toUInt32
        omega
      have hreset : resetTimer old new (.armed s) = _ := resetTimer_of_pos hold fun h => hzero h.1
      rw [hreset, TimerFd.timeoutSec, he, hn, if_neg (by omega), if_pos hnew, if_pos (Or.inr hwrap), hfire]
    · have hleft : (TimerFd.armed s).timeoutSec ≠ 0 := hzero
      have hspec : resetTimer old new (.armed s) = resetTimerSpec old new (.armed s) :=
        (resetTimer_rescale hold ⟨by omega, hold'⟩ hnew ⟨by omega, hnew'⟩ hleft).mpr (not_lt.mp hwrap)
      rw [hspec, resetTimerSpec, if_neg (not_le.mpr hold), if_neg (not_le.mpr hnew), TimerFd.timeoutSec,
        if_neg hzero, if_neg fun h : (s : ℤ) = 0 ∨ old < s => h.elim hzero hwrap]
      by_cases hrest : 0 < new - (old - s)
      · rw [if_pos hrest, max_eq_right hrest.le]
        exact if_pos hrest
      · rw [if_neg hrest, max_eq_left (not_lt.mp hrest), hfire]

theorem rescaled_le {old new s : ℤ} (hnew : 0 < new) : rescaled old new s ≤ new := by
  unfold rescaled
  split_ifs
  · exact hnew.le
  · omega

theorem rescaled_nonneg (old new s : ℤ) : 0 ≤ rescaled old new s := by
  unfold rescaled
  split_ifs
  · exact le_rfl
  · exact le_max_left _ _

/-- With the right old timeout the time waited is kept, but for a timer in its last second. -/
theorem rescaled_eq_iff {old new s : ℤ} (hs : 0 ≤ s) (hle : s ≤ old) :
    rescaled old new s = max 0 (new - (old - s)) ↔ 0 < s ∨ new ≤ old := by
  unfold rescaled
  split_ifs <;> omega

/-- When the timeout in force stays as it is, another one taken for the old one does harm. -/
theorem rescaled_same_iff {taken new s : ℤ} (hs : 0 ≤ s) (hle : s ≤ new) :
    rescaled taken new s = s ↔ s = 0 ∨ taken = new := by
  unfold rescaled
  split_ifs <;> omega

/-- Rescaled as it should, and then once more from another timeout. -/
theorem rescaled_again_iff {old new taken s : ℤ} (hs : 0 ≤ s)
    (hle : s ≤ old) : rescaled taken new (rescaled old new s) = max 0 (new - (old - s)) ↔
      (0 < s ∨ new ≤ old) ∧ (new ≤ old - s ∨ taken = new) := by
  by_cases hright : 0 < s ∨ new ≤ old
  · rw [(rescaled_eq_iff hs hle).mpr hright]
    unfold rescaled
    split_ifs <;> omega
  · have hzero : rescaled old new s = 0 := if_pos (.inl (by omega))
    rw [hzero]
    unfold rescaled
    rw [if_pos (.inl rfl)]
    omega

/-- Rescaled from another timeout first, and then from the right one. -/
theorem rescaled_late_iff {old new taken s : ℤ} (hs : 0 ≤ s) (hle : s ≤ old) :
    rescaled old new (rescaled taken new s) = max 0 (new - (old - s)) ↔
      if new ≤ old - s then
        s = 0 ∨ taken < s ∨ 2 * new + s ≤ old + taken ∨ old + taken < new + s
      else 0 < s ∧ taken = new ∧ s ≤ taken := by
  unfold rescaled
  split_ifs <;> omega

/-! ### The messages of one change -/

section
variable (t : BlTime → ℤ) (d d' : DayState) (ev ev' : Bool)

/-- The timeout of a daytime and an event state, for one AC state. -/
def timeoutIn (d : DayState) (ev : Bool) : ℤ := if ev then t .inEvent else t d.toBlTime

/-- After the DAYTIME_UPD of a change: the old timeout is taken to be that of the old daytime. -/
def afterDaytime (s : ℤ) : ℤ :=
  if d = d' then s else rescaled (t d.toBlTime) (timeoutIn t d' ev') s

/-- After its IN_EVENT_UPD: the old timeout is that of the new daytime when an event begins. -/
def afterEvent (s : ℤ) : ℤ :=
  if ev = ev' then s else rescaled (if ev' then t d'.toBlTime else t .inEvent) (timeoutIn t d' ev') s

/-- What should be left: the new timeout less the time already waited. -/
def expected (s : ℤ) : ℤ := max 0 (timeoutIn t d' ev' - (timeoutIn t d ev - s))

/-- When the handlers take the right timeouts for the old ones, or the wrong ones make no
difference; `s` seconds are left before the change. -/
def WaitKept (s : ℤ) : Prop :=
  let old := timeoutIn t d ev
  let new := timeoutIn t d' ev'
  if d = d' then ev = ev' ∨ 0 < s ∨ new ≤ old
  else if ev = ev' then
    -- within an event the old daytime's timeout is not the one that was in force
    if ev then s = 0 ∨ t d.toBlTime = old else 0 < s ∨ new ≤ old
  else if ev' then (0 < s ∨ new ≤ old) ∧ (new ≤ old - s ∨ t d'.toBlTime = new)
  else if new ≤ old - s then
    s = 0 ∨ t d.toBlTime < s ∨ 2 * new + s ≤ old + t d.toBlTime ∨ old + t d.toBlTime < new + s
  else 0 < s ∧ t d.toBlTime = new ∧ s ≤ t d.toBlTime

instance (s : ℤ) : Decidable (WaitKept t d d' ev ev' s) := by
  unfold WaitKept
  infer_instance

variable {t}

theorem afterEvent_afterDaytime_iff {s : ℤ} (hs : 0 ≤ s)
    (hle : s ≤ timeoutIn t d ev) :
    afterEvent t d' ev ev' (afterDaytime t d d' ev' s) = expected t d d' ev ev' s ↔
      WaitKept t d d' ev ev' s := by
  unfold afterEvent afterDaytime expected WaitKept
  simp only [timeoutIn] at hle ⊢
  by_cases hd : d = d'
  · -- at most the event changes: the handler knows the old timeout
    subst hd
    cases ev with
    | false =>
      cases ev' with
      | false => simpa using by omega
      | true => simpa using rescaled_eq_iff hs hle
    | true =>
      cases ev' with
      | false => simpa using rescaled_eq_iff hs hle
      | true => simpa using by omega
  · simp only [hd, if_false]
    cases ev with
    | false =>
      cases ev' with
      | false => simpa using rescaled_eq_iff hs hle
      | true => simpa using rescaled_again_iff hs hle
    | true =>
      cases ev' with
      | false => simpa using rescaled_late_iff hs hle
      | true => simpa [max_eq_right hs] using rescaled_same_iff hs hle

end

/-! ### What BACKLIGHT makes of the messages -/

namespace Backlight

/-- BACKLIGHT once it has handled, of these messages, those it subscribes to. -/
def hears (fit : Fit) (r : BlReplies) (ms : List Msg) (c : BlCtx) : BlCtx :=
  (ms.filter subscribes).foldl (fun c m => handle fit r m c) c

/-- BACKLIGHT runs, with these timeouts for its AC state, and `s` seconds are left. -/
structure Waits (ac : AcState) (t : BlTime → ℤ) (d : DayState) (ev : Bool) (s : ℤ) (c : BlCtx) : Prop where
  running : Running c.loc
  acState : c.st.acState = some ac
  dayTime : c.st.dayTime = some d
  inEvent : c.st.inEvent = ev
  timeout : c.cf.bl.timeout ac = t
  left : c.loc.blFd = .armed s.toNat
  range : 0 ≤ s ∧ s < 2^31

variable {ac : AcState} {t : BlTime → ℤ} {d : DayState} {ev : Bool} {s : ℤ} {c : BlCtx}

theorem Waits.timeoutAt (h : Waits ac t d ev s c) (x : BlTime) :
    c.cf.bl.timeoutAt c.st.acState (some x) = t x := by
  rw [h.acState, ← h.timeout]
  rfl

theorem Waits.currentTimeout (h : Waits ac t d ev s c) : getCurrentTimeout c = timeoutIn t d ev := by
  unfold getCurrentTimeout timeoutIn
  rw [h.inEvent, h.dayTime]
  cases ev with
  | false => exact h.timeoutAt d.toBlTime
  | true => exact h.timeoutAt .inEvent

/-- The timeout that time_callback takes for the old one, once the state has changed. -/
def takenTimeout (t : BlTime → ℤ) (d : DayState) (ev : Bool) (old : DayState) (isEvent : Bool) : ℤ :=
  if isEvent then if ev then t d.toBlTime else t .inEvent else t old.toBlTime

theorem takenTimeout_range (ht : ∀ x, 0 < t x ∧ t x < 2^31) (d : DayState) (ev : Bool)
    (old : DayState) (isEvent : Bool) :
    0 < takenTimeout t d ev old isEvent ∧ takenTimeout t d ev old isEvent < 2^31 := by
  unfold takenTimeout
  split_ifs
  · exact ht d.toBlTime
  · exact ht .inEvent
  · exact ht old.toBlTime

theorem timeoutIn_range (ht : ∀ x, 0 < t x ∧ t x < 2^31) (d : DayState) (ev : Bool) :
    0 < timeoutIn t d ev ∧ timeoutIn t d ev < 2^31 := by
  unfold timeoutIn
  split_ifs
  · exact ht .inEvent
  · exact ht d.toBlTime

theorem Waits.taken (h : Waits ac t d ev s c) (old : DayState) (isEvent : Bool) :
    c.cf.bl.timeoutAt c.st.acState
      (if isEvent then if c.st.inEvent then c.st.dayTime.map DayState.toBlTime else some .inEvent
        else (some old).map DayState.toBlTime) = takenTimeout t d ev old isEvent := by
  unfold takenTimeout
  rw [h.inEvent, h.dayTime]
  cases isEvent with
  | false => exact h.timeoutAt old.toBlTime
  | true =>
    cases ev with
    | false => exact h.timeoutAt .inEvent
    | true => exact h.timeoutAt d.toBlTime

/-- One of the two updates: the timer is rescaled from the timeout that the handler takes. -/
theorem Waits.timeCallback (h : Waits ac t d ev s c) (ht : ∀ x, 0 < t x ∧ t x < 2^31)
    (old : DayState) (isEvent : Bool) :
    Waits ac t d ev (rescaled (takenTimeout t d ev old isEvent) (timeoutIn t d ev) s)
      (timeCallback (some old) isEvent c) := by
  obtain ⟨hnew, hnew'⟩ := timeoutIn_range ht d ev
  obtain ⟨hpos, hlt⟩ := takenTimeout_range ht d ev old isEvent
  have hframe : Frame [.timeout] (fun _ => True) c (Backlight.timeCallback (some old) isEvent c) :=
    frame_timeCallback (by decide) (some old) isEvent c
  have hfd : (Backlight.timeCallback (some old) isEvent c).loc.blFd =
      resetTimer (takenTimeout t d ev old isEvent) (timeoutIn t d ev) c.loc.blFd := by
    unfold Backlight.timeCallback resetOrPause
    dsimp only
    rw [h.currentTimeout, h.taken old isEvent, if_neg (not_le.mpr hnew)]
    rfl
  have hrange : ((s.toNat : ℕ) : ℤ) = s := Int.toNat_of_nonneg h.range.1
  refine ⟨hframe.running h.running, hframe.acState.trans h.acState, hframe.dayTime.trans h.dayTime,
    hframe.inEvent.trans h.inEvent, ?_, ?_, rescaled_nonneg _ _ _, ?_⟩
  · rw [hframe.timeout]
    exact h.timeout
  · rw [hfd, h.left, resetTimer_armed hpos hlt hnew hnew' (by rw [hrange]; exact h.range.2), hrange]
  · exact (rescaled_le hnew).trans_lt hnew'

theorem Waits.daytimeUpd (h : Waits ac t d ev s c) (ht : ∀ x, 0 < t x ∧ t x < 2^31) (fit : Fit)
    (r : BlReplies) (old new : DayState) :
    Waits ac t d ev (rescaled (t old.toBlTime) (timeoutIn t d ev) s)
      (handle fit r (.daytimeUpd (some old) new) c) := by
  rcases handle_of_running fit r (.daytimeUpd (some old) new) h.running with he | he
  · rw [he]
    exact h.timeCallback ht old false
  · rw [he]
    exact h.timeCallback ht old false

theorem Waits.inEventUpd (h : Waits ac t d ev s c) (ht : ∀ x, 0 < t x ∧ t x < 2^31) (fit : Fit)
    (r : BlReplies) (old new : Bool) :
    Waits ac t d ev (rescaled (if ev then t d.toBlTime else t .inEvent) (timeoutIn t d ev) s)
      (handle fit r (.inEventUpd old new) c) := by
  rcases handle_of_running fit r (.inEventUpd old new) h.running with he | he
  · rw [he]
    exact h.timeCallback ht d true
  · rw [he]
    exact h.timeCallback ht d true

/-- The updates of one change, in the order in which check_daytime publishes them. -/
def changeUpds (d d' : DayState) (ev ev' : Bool) : List Msg :=
  (if d = d' then [] else [.daytimeUpd (some d) d']) ++ if ev = ev' then [] else [.inEventUpd ev ev']

theorem Waits.changeUpds {d' : DayState} {ev' : Bool} (h : Waits ac t d' ev' s c)
    (ht : ∀ x, 0 < t x ∧ t x < 2^31) (fit : Fit) (r : BlReplies) (d : DayState) (ev : Bool) :
    Waits ac t d' ev' (afterEvent t d' ev ev' (afterDaytime t d d' ev' s))
      ((changeUpds d d' ev ev').foldl (fun c m => handle fit r m c) c) := by
  have hday : Waits ac t d' ev' (afterDaytime t d d' ev' s)
      ((if d = d' then [] else [Msg.daytimeUpd (some d) d']).foldl (fun c m => handle fit r m c) c) := by
    unfold afterDaytime
    split_ifs
    · exact h
    · exact h.daytimeUpd ht fit r d d'
  unfold Backlight.changeUpds afterEvent
  rw [List.foldl_append]
  by_cases hev : ev = ev'
  · rw [if_pos hev, if_pos hev]
    exact hday
  · rw [if_neg hev, if_neg hev]
    exact hday.inEventUpd ht fit r ev ev'

end Backlight

/-! ### What check_daytime publishes -/

namespace Daytime

/-- What BACKLIGHT subscribes to of the messages published between two contexts. -/
def PublishedBetween (ms : List Msg) (c c' : DaytimeCtx) : Prop :=
  ∃ new, c'.out = c.out ++ new ∧ new.filter Backlight.subscribes = ms

theorem PublishedBetween.trans {ms ms' : List Msg} {c c₁ c₂ : DaytimeCtx}
    (h : PublishedBetween ms c c₁) (h' : PublishedBetween ms' c₁ c₂) :
    PublishedBetween (ms ++ ms') c c₂ := by
  obtain ⟨new, hout, rfl⟩ := h
  obtain ⟨new', hout', rfl⟩ := h'
  refine ⟨new ++ new', ?_, List.filter_append ..⟩
  rw [hout', hout, List.append_assoc]

theorem publishedBetween_change {α : Type} [DecidableEq α] (mk : Option α → α → Msg) (old : Option α)
    (v : α) (c : DaytimeCtx) : PublishedBetween
      (if old = some v then [] else [mk old v].filter Backlight.subscribes) c
      (publishChange mk old (some v) c) := by
  unfold publishChange
  by_cases h : old = some v
  · exact ⟨[], by simp [h], by simp [h]⟩
  · exact ⟨[mk old v], by simp [h], by simp [h]⟩

theorem publishedBetween_inEvent (old new : Bool) (c : DaytimeCtx) : PublishedBetween
    (if old = new then [] else [.inEventUpd old new]) c
    (if old = new then c else c.publish (.inEventUpd old new)) := by
  split_ifs
  · exact ⟨[], (List.append_nil _).symm, rfl⟩
  · exact ⟨[_], rfl, rfl⟩

theorem publishedBetween_requestTemp (c : DaytimeCtx) : PublishedBetween [] c (requestTemp c) := by
  unfold requestTemp
  split
  · split_ifs
    · exact ⟨[], (List.append_nil _).symm, rfl⟩
    · exact ⟨[_], rfl, rfl⟩
  · exact ⟨[], (List.append_nil _).symm, rfl⟩

theorem publishedBetween_announce {old : State} {c : DaytimeCtx} {d d' : DayState} {next : DayEvent}
    (hold : old.dayTime = some d) (hday : c.st.dayTime = some d') (hnext : c.st.nextEvent = some next) :
    PublishedBetween (Backlight.changeUpds d d' old.inEvent c.st.inEvent) c (announce old c) := by
  have hday' := publishedBetween_change .daytimeUpd old.dayTime d' c
  have hst := (same_publishChange .daytimeUpd old.dayTime (some d') c).st
  unfold announce
  rw [hday]
  generalize publishChange .daytimeUpd old.dayTime (some d') c = c₁ at hday' hst
  have hnext' := publishedBetween_change .nextDayevtUpd old.nextEvent next c₁
  have hst' := (same_publishChange .nextDayevtUpd old.nextEvent (some next) c₁).st
  dsimp only
  rw [hst, hnext]
  generalize publishChange .nextDayevtUpd old.nextEvent (some next) c₁ = c₂ at hnext' hst'
  rw [hst', hst]
  -- NEXT_DAYEVT_UPD and TEMP_REQ are not for BACKLIGHT
  have hsilent : (if old.nextEvent = some next then []
      else [Msg.nextDayevtUpd old.nextEvent next].filter Backlight.subscribes) = [] := ite_self []
  rw [hsilent] at hnext'
  rw [hold] at hday'
  have hevent := publishedBetween_inEvent old.inEvent c.st.inEvent c₂
  have hall := ((hday'.trans hnext').trans hevent).trans (publishedBetween_requestTemp _)
  rw [List.append_nil, List.append_nil] at hall
  have hname : (if some d = some d' then [] else [Msg.daytimeUpd (some d) d'].filter Backlight.subscribes) =
      if d = d' then [] else [.daytimeUpd (some d) d'] := by
    simp only [Option.some_inj]
    rfl
  rw [hname] at hall
  exact hall

/-- One run of check_daytime: only the two updates of the change are for BACKLIGHT. -/
theorem checkDaytime_published {sun : Calcs} {now : ℤ} {fuel : ℕ} {c c' : DaytimeCtx} {d : DayState}
    (h : checkDaytime sun now fuel c = some c') (hday : c.st.dayTime = some d) :
    c'.st.acState = c.st.acState ∧ ∃ d', c'.st.dayTime = some d' ∧
      PublishedBetween (Backlight.changeUpds d d' c.st.inEvent c'.st.inEvent) c c' := by
  obtain ⟨c₁, hg, rfl⟩ := Option.map_eq_some_iff.mp h
  have hkept : ∀ c₀ : DaytimeCtx, c₁ = evaluate now c₀ → c₀.st.acState = c.st.acState →
      PublishedBetween [] c c₀ → c₁.st.acState = c.st.acState ∧ (∃ d', c₁.st.dayTime = some d') ∧
        (∃ next, c₁.st.nextEvent = some next) ∧ PublishedBetween [] c c₁ := by
    rintro c₀ rfl hac ⟨new, hout, hnew⟩
    refine ⟨(evaluate_acState now c₀).trans hac, ⟨_, evaluate_dayTime now c₀⟩,
      ⟨_, evaluate_nextEvent now c₀⟩, new, ?_, hnew⟩
    rw [evaluate_out, hout]
  have hrun : c₁.st.acState = c.st.acState ∧ (∃ d', c₁.st.dayTime = some d') ∧
      (∃ next, c₁.st.nextEvent = some next) ∧ PublishedBetween [] c c₁ := by
    rcases getNextEvents_cases hg with ⟨-, hc⟩ | ⟨k, -, hc⟩
    · exact hkept c hc rfl ⟨[], (List.append_nil _).symm, rfl⟩
    · exact hkept _ hc rfl ⟨_, storeEvents_out sun now k c, rfl⟩
  obtain ⟨hac, ⟨d', hd'⟩, ⟨next, hnext⟩, hstored⟩ := hrun
  have hst : (setAlarm now (announce c.st c₁)).st = c₁.st := (same_announce c.st c₁).st
  rw [hst]
  refine ⟨hac, d', hd', ?_⟩
  have hannounce := publishedBetween_announce hday hd' hnext
  exact hstored.trans hannounce

end Daytime

/-- DAYTIME on AC, as its check at this time leaves it: sunrise at 20000, sunset at 60000. -/
def checkedAt (now : ℤ) : DaytimeCtx :=
  Daytime.evaluate now
    { Daytime.afternoon with st := { Daytime.afternoon.st with acState := some .onAc } }

/-- A running BACKLIGHT that has this long to wait. -/
def waitingBl (s : ℕ) (st : State) : BlCtx where
  loc := { Backlight.init with stack := [], blRegistered := true, blFd := .armed s }
  st := st
  cf := .default
  out := []
  calls := []

def idleReplies : BlReplies := { sensor := true, capture := none, levels := [], setSent := true }

theorem defaultTimeouts_pos (x : BlTime) :
    0 < Conf.default.bl.timeout .onAc x ∧ Conf.default.bl.timeout .onAc x < 2^31 := by
  cases x <;> decide

end Clight
