import Clight.DaytimeAlarm
import Clight.Gamma
import Mathlib.Data.Rat.Floor
import Mathlib.Tactic.NormNum

/-! Long gamma transitions: a step every 10 seconds until the window of the event is over.
The step is a truncated quotient of the difference of the temperatures, which is divided as a double. -/
namespace Clight

/-! ### Truncated steps over whole ticks -/

/-- A difference `d` is covered, in steps of the whole part of a share, within `t` seconds and one
tick more exactly when a whole number of units for each tick covers it and is no more than the
share. -/
theorem truncated_steps_iff {d t : ℤ} {share : ℚ} (hd : 0 ≤ d) (ht : 0 < t) (hshare : 0 ≤ share) :
    ((d ≠ 0 → 1 ≤ ⌊share⌋) ∧ ⌈(d : ℚ) / ⌊share⌋⌉ * 10 ≤ t + 10) ↔
      ∃ m : ℤ, (m : ℚ) ≤ share ∧ d ≤ m * (t / 10 + 1) := by
  have hticks : 0 < t / 10 + 1 := by omega
  rcases hd.eq_or_lt with rfl | hpos
  · -- nothing to cover: no step is needed
    constructor
    · intro _
      exact ⟨0, by exact_mod_cast hshare, by omega⟩
    · intro _
      refine ⟨fun h => absurd rfl h, ?_⟩
      simp only [Int.cast_zero, zero_div, Int.ceil_zero]
      omega
  · have hcover {s : ℤ} (hs : 1 ≤ s) :
        ⌈(d : ℚ) / s⌉ * 10 ≤ t + 10 ↔ d ≤ s * (t / 10 + 1) := by
      have hs' : (0 : ℚ) < s := by exact_mod_cast hs
      calc ⌈(d : ℚ) / s⌉ * 10 ≤ t + 10
          ↔ ⌈(d : ℚ) / s⌉ ≤ t / 10 + 1 := by omega
        _ ↔ (d : ℚ) ≤ ((t / 10 + 1 : ℤ) : ℚ) * s := by rw [Int.ceil_le, div_le_iff₀ hs']
        _ ↔ d ≤ (t / 10 + 1) * s := by exact_mod_cast Iff.rfl
        _ ↔ d ≤ s * (t / 10 + 1) := by rw [mul_comm]
    constructor
    · rintro ⟨hstep, hlen⟩
      have hone := hstep hpos.ne'
      exact ⟨⌊share⌋, Int.floor_le share, (hcover hone).mp hlen⟩
    · rintro ⟨m, hbelow, hm⟩
      have hle : m ≤ ⌊share⌋ := Int.le_floor.mpr hbelow
      -- a step of 0 covers nothing
      have hmpos : 1 ≤ m := by
        by_contra hneg
        have hzero : m * (t / 10 + 1) ≤ 0 := mul_nonpos_of_nonpos_of_nonneg (by omega) hticks.le
        omega
      have hone : 1 ≤ ⌊share⌋ := hmpos.trans hle
      refine ⟨fun _ => hone, (hcover hone).mpr ?_⟩
      exact hm.trans (mul_le_mul_of_nonneg_right hle hticks.le)

namespace Gamma

/-- The remaining time that set_temp computes, in either half of an event. -/
def remaining (now : ℤ) (c : GammaCtx) : ℤ :=
  let next := (c.st.nextEvent.map c.st.dayEvents).getD 0
  toInt32 (if c.st.eventTimeRange = 0 then (next - now) + c.cf.day.eventDuration
    else c.cf.day.eventDuration - (now - next))

/-- Both halves count to the end of the window. -/
theorem remaining_eq (now : ℤ) (c : GammaCtx) : remaining now c =
    toInt32 ((c.st.nextEvent.map c.st.dayEvents).getD 0 + c.cf.day.eventDuration - now) := by
  unfold remaining
  dsimp only
  congr 1
  split_ifs <;> omega

/-- The step of a long transition. -/
def longStep (now : ℤ) (c : GammaCtx) : ℤ :=
  truncRat (Binary64.div (tempDiff c.cf.gamma) (Binary64.div (remaining now c) longTransTimeout))

theorem share_nonneg {now : ℤ} {c : GammaCtx} (h : 0 < remaining now c) :
    0 ≤ Binary64.div (tempDiff c.cf.gamma) (Binary64.div (remaining now c) longTransTimeout) := by
  have htimeout : 0 ≤ Binary64.div (remaining now c) longTransTimeout :=
    Binary64.zero_le_div (by exact_mod_cast h.le) (by decide)
  exact Binary64.zero_le_div (by exact_mod_cast abs_nonneg _) htimeout

theorem longStep_eq {now : ℤ} {c : GammaCtx} (h : 0 < remaining now c) : longStep now c =
    ⌊Binary64.div (tempDiff c.cf.gamma) (Binary64.div (remaining now c) longTransTimeout)⌋ :=
  if_pos (share_nonneg h)

/-- Within an event set_temp ends with the call that starts a long transition. -/
theorem setTempConf_long {r : GammaReplies} {c c' : GammaCtx} (temp : ℤ) (hcf : c'.cf = c.cf)
    (hst : c'.st = c.st) (hlong : c.cf.gamma.longTransition = true) (hevent : c.st.inEvent = true) :
    ∃ temp', (setTempConf r temp (some r.now) c').calls.getLast? =
      some (.set temp' 1 (longStep r.now c) 10000) := by
  have hguard : (c'.cf.gamma.longTransition && (some r.now).isSome && c'.st.inEvent) = true := by
    rw [hcf, hst, hlong, hevent]
    rfl
  have hstep : (longTransition temp r.now c').2 = (longStep r.now c, 10000) := by
    unfold longTransition longStep remaining
    rw [hcf, hst]
    rfl
  have hcalls : ∀ (b : Bool) (m : Msg) (k : GammaCall) (c' : GammaCtx),
      (if b then (c'.call k).publish m else c'.call k).calls.getLast? = some k := by
    intro b m k c'
    cases b <;> exact List.getLast?_concat
  unfold setTempConf setTemp
  simp only [hguard, if_true, Option.getD_some, hstep]
  exact ⟨_, hcalls _ _ _ _⟩

/-- On DAYTIME's request, within an event, the last call starts a long transition. -/
theorem onDaytimeReq_long {r : GammaReplies} {c : GammaCtx} {d : DayState} (hday : c.st.dayTime = some d)
    (hlong : c.cf.gamma.longTransition = true) (hevent : c.st.inEvent = true)
    (hambient : c.cf.gamma.ambientGamma = false)
    (hfresh : c.loc.longTransitioning = true → r.localDay r.now ≠ r.localDay c.loc.lastT) :
    ∃ temp, (onDaytimeReq r c).calls.getLast? = some (.set temp 1 (longStep r.now c) 10000) := by
  -- a transition left over from another day has ended when set_temp is reached
  have hended : ∀ c' : GammaCtx, c' = (if c.loc.longTransitioning && r.localDay r.now ≠
      r.localDay c.loc.lastT then onNewNextDayevt c else c) →
      c'.cf = c.cf ∧ c'.st = c.st ∧ c'.loc.longTransitioning = false := by
    rintro c' rfl
    cases hl : c.loc.longTransitioning with
    | false => exact ⟨rfl, rfl, hl⟩
    | true =>
      have hday : (true && decide (r.localDay r.now ≠ r.localDay c.loc.lastT)) = true :=
        decide_eq_true (hfresh hl)
      rw [if_pos hday]
      exact ⟨rfl, rfl, rfl⟩
  unfold onDaytimeReq
  generalize hc : (if c.loc.longTransitioning && r.localDay r.now ≠ r.localDay c.loc.lastT then
    onNewNextDayevt c else c) = c'
  obtain ⟨hcf, hst, hdone⟩ := hended c' hc.symm
  have hday' : c'.st.dayTime = some d := by
    rw [hst]
    exact hday
  simp only [hdone, hcf, hambient, Bool.not_false, Bool.and_self, if_true]
  rw [withCurrentTemp_of (by exact hday')]
  exact setTempConf_long _ rfl hst hlong hevent

/-- There is time left, each step is felt when the temperatures differ, and the steps needed
take at most one tick longer. -/
structure FitsWindow (cf : GammaConf) (remaining step : ℤ) : Prop where
  ahead : 0 < remaining
  felt : tempDiff cf ≠ 0 → 1 ≤ step
  duration : ⌈(tempDiff cf : ℚ) / step⌉ * 10 ≤ remaining + 10

/-- The end of the window lies ahead, and a whole number of kelvin for each tick covers the
difference and is less than the exact share, or is that share, unless doubles make less of it. -/
def WholeStep (cf : GammaConf) (remaining : ℤ) : Prop :=
  0 < remaining ∧ ∃ m : ℤ, tempDiff cf ≤ m * (remaining / 10 + 1) ∧
    (m * remaining < 10 * tempDiff cf ∨ m * remaining = 10 * tempDiff cf ∧
      (m : ℚ) ≤ Binary64.div (tempDiff cf) (Binary64.div remaining (10 : ℤ)))

theorem tempDiff_le {cf : GammaConf} (hlimits : ∀ d, 1000 ≤ cf.temp d ∧ cf.temp d ≤ 10000) :
    tempDiff cf ≤ 9000 := by
  have hday := hlimits .day
  have hnight := hlimits .night
  unfold tempDiff
  rw [abs_le]
  omega

theorem fitsWindow_iff (now : ℤ) {c : GammaCtx}
    (hlimits : ∀ d, 1000 ≤ c.cf.gamma.temp d ∧ c.cf.gamma.temp d ≤ 10000) :
    FitsWindow c.cf.gamma (remaining now c) (longStep now c) ↔
      WholeStep c.cf.gamma (remaining now c) := by
  by_cases hahead : 0 < remaining now c
  · have hdiff : 0 ≤ tempDiff c.cf.gamma := abs_nonneg _
    have hsmall : 10 * tempDiff c.cf.gamma < 2 ^ 50 := by
      have hle := tempDiff_le hlimits
      omega
    have hiff := truncated_steps_iff hdiff hahead (share_nonneg hahead)
    have hwhole (m : ℤ) := Binary64.le_div_div_iff (m := m) hdiff hsmall hahead (by decide : (0 : ℤ) < 10)
    have hstep := longStep_eq hahead
    constructor
    · intro h
      have hfelt := h.felt
      have hduration := h.duration
      rw [hstep] at hfelt hduration
      obtain ⟨m, hshare, hm⟩ := hiff.mp ⟨hfelt, hduration⟩
      exact ⟨hahead, m, hm, (hwhole m).mp hshare⟩
    · rintro ⟨-, m, hm, hshare⟩
      obtain ⟨hfelt, hduration⟩ := hiff.mpr ⟨m, (hwhole m).mpr hshare, hm⟩
      refine ⟨hahead, ?_, ?_⟩
      · rw [hstep]
        exact hfelt
      · rw [hstep]
        exact hduration
  · exact iff_of_false (fun h => hahead h.ahead) fun h => hahead h.1

end Gamma

open Gamma in
/-- The long transition that GAMMA starts on DAYTIME's request, at whatever time it handles it,
fits the window of the event exactly when the time left allows for a whole step. -/
theorem long_transition_fits_iff {r : GammaReplies} {c : GammaCtx} {d : DayState}
    (hday : c.st.dayTime = some d) (hlimits : ∀ d, 1000 ≤ c.cf.gamma.temp d ∧ c.cf.gamma.temp d ≤ 10000)
    (hlong : c.cf.gamma.longTransition = true) (hevent : c.st.inEvent = true)
    (hambient : c.cf.gamma.ambientGamma = false)
    (hfresh : c.loc.longTransitioning = true → r.localDay r.now ≠ r.localDay c.loc.lastT) :
    ∃ temp step, (onDaytimeReq r c).calls.getLast? = some (.set temp 1 step 10000) ∧
      (FitsWindow c.cf.gamma (remaining r.now c) step ↔
        WholeStep c.cf.gamma (toInt32 ((c.st.nextEvent.map c.st.dayEvents).getD 0 +
          c.cf.day.eventDuration - r.now))) := by
  obtain ⟨temp, hcall⟩ := onDaytimeReq_long hday hlong hevent hambient hfresh
  refine ⟨temp, longStep r.now c, hcall, ?_⟩
  rw [← remaining_eq]
  exact fitsWindow_iff r.now hlimits

def longConf : Conf :=
  { Conf.default with gamma := { Conf.default.gamma with longTransition := true } }

/-- DAYTIME on a day with the sunrise at 50000 and the sunset at 100000. -/
def eveningCtx : DaytimeCtx where
  loc := { dayFd := none, tempReq := { daytime := -1, new := 0, smooth := 0, step := 0, timeout := 0 } }
  st := { initState longConf with dayEvents := fun e => if e = .sunrise then 50000 else 100000 }
  cf := longConf
  out := []
  calls := []

/-- A running GAMMA, with the state that DAYTIME leaves at `now`. -/
def eveningGamma (now : ℤ) : GammaCtx where
  loc := { Gamma.init 6500 with stack := [] }
  st := (Daytime.evaluate now eveningCtx).st
  cf := longConf
  out := []
  calls := []

def gammaRepliesAt (now : ℤ) : GammaReplies where
  now := now
  localDay := fun _ => (70, 1)
  sent := true
  daytimeStopped := false
  junk := 0

/-- With 2500 seconds left, 10 kelvin every 10 seconds do it. -/
theorem long_transition_fits_exact : ∃ temp step,
    (Gamma.onDaytimeReq (gammaRepliesAt 99300) (eveningGamma 99300)).calls.getLast? =
      some (.set temp 1 step 10000) ∧
    Gamma.FitsWindow longConf.gamma (Gamma.remaining 99300 (eveningGamma 99300)) step := by
  obtain ⟨temp, step, hcall, hiff⟩ := long_transition_fits_iff (r := gammaRepliesAt 99300)
    (c := eveningGamma 99300) (d := .day) (by decide +kernel) (fun d => by cases d <;> decide) rfl
    (by decide +kernel) rfl nofun
  refine ⟨temp, step, hcall, hiff.mpr ⟨by decide +kernel, 10, by decide +kernel, .inr ?_⟩⟩
  exact ⟨by decide +kernel, by decide +kernel⟩

/-- 2412 kelvin in 1608 seconds are 15 for each tick, and the double is less: 173 steps of 14 kelvin take
1730 seconds. -/
example : ¬Gamma.WholeStep { Conf.default.gamma with temp := fun d => if d = .day then 6412 else 4000 }
    1608 := by
  rintro ⟨-, m, hcover, hshare⟩
  have hdiff : Gamma.tempDiff { Conf.default.gamma with temp := fun d => if d = .day then 6412 else 4000 } =
      2412 := by decide
  rw [hdiff] at hcover hshare
  have hm : m = 15 := by omega
  subst hm
  exact absurd hshare (by decide +kernel)

/-- The default temperatures, at the first second of the event: steps of 6 kelvin take 4170
seconds, and there are 3601. -/
theorem long_transition_overruns : ¬ ∀ (r : GammaReplies) (c : GammaCtx) (d : DaytimeCtx) (t : ℤ),
    c.cf = d.cf → c.st = (Daytime.evaluate t d).st → t ≤ r.now → 0 < c.cf.day.eventDuration →
    (∀ s, 1000 ≤ c.cf.gamma.temp s ∧ c.cf.gamma.temp s ≤ 10000) → c.cf.gamma.longTransition = true →
    c.st.inEvent = true → c.cf.gamma.ambientGamma = false →
    (c.loc.longTransitioning = true → r.localDay r.now ≠ r.localDay c.loc.lastT) →
    ∃ temp step, (Gamma.onDaytimeReq r c).calls.getLast? = some (.set temp 1 step 10000) ∧
      Gamma.FitsWindow c.cf.gamma (Gamma.remaining r.now c) step := by
  intro h
  have htemps : ∀ s, 1000 ≤ longConf.gamma.temp s ∧ longConf.gamma.temp s ≤ 10000 := by
    intro s
    cases s <;> decide
  have hevent : (eveningGamma 98199).st.inEvent = true := by decide +kernel
  obtain ⟨temp, step, hcall, hfits⟩ := h (gammaRepliesAt 98199) (eveningGamma 98199) eveningCtx 98199
    rfl rfl le_rfl (by decide) htemps rfl hevent rfl nofun
  obtain ⟨temp', hcall'⟩ := Gamma.onDaytimeReq_long (r := gammaRepliesAt 98199) (c := eveningGamma 98199)
    (d := .day) (by decide +kernel) rfl hevent rfl nofun
  have hstep : step = 6 := by
    have hsame := Option.some.inj (hcall.symm.trans hcall')
    have hsix : Gamma.longStep 98199 (eveningGamma 98199) = 6 := by decide +kernel
    rw [← hsix]
    exact (GammaCall.set.inj hsame).2.2.1
  have hduration := hfits.duration
  rw [hstep] at hduration
  exact absurd hduration (by decide +kernel)

end Clight
