import Clight.DaytimeAlarm
import Clight.PauseBitsIdle
import Clight.ToggleRuns

/-! GAMMA behind its mailbox and the real alarms of DAYTIME: the temperature it commanded last is the
one of the time of day, as soon as it has received what was published. -/
namespace Clight
namespace Gamma
variable {c c' : GammaCtx} {d d' : DayState} {r : GammaReplies}

/-- There are no long transitions, so that temperatures are commanded at once. -/
structure Prompt (c : GammaCtx) (d : DayState) : Prop where
  dayTime : c.st.dayTime = some d
  longTransition : c.cf.gamma.longTransition = false
  longTransitioning : c.loc.longTransitioning = false

/-- Out of ambient gamma mode the screen has the temperature of the daytime. -/
def Lit (c : GammaCtx) (d : DayState) : Prop :=
  c.cf.gamma.ambientGamma = false → lastTemp c.calls = some (c.cf.gamma.temp d)

theorem Prompt.setTemp (h : Prompt c d) (r : GammaReplies) (temp : ℤ) (now : Option ℤ)
    (smooth step timeout : ℤ) : Prompt (setTemp r temp now smooth step timeout c) d ∧
      lastTemp (Gamma.setTemp r temp now smooth step timeout c).calls = some temp := by
  rw [setTemp_short h.longTransition]
  dsimp only
  split_ifs
  · exact ⟨⟨h.dayTime, h.longTransition, rfl⟩, lastTemp_set ..⟩
  · exact ⟨⟨h.dayTime, h.longTransition, rfl⟩, lastTemp_set ..⟩

theorem Prompt.subscript (h : Prompt c d) (i : ℤ) : Prompt (subscript i c) d :=
  ⟨h.dayTime, h.longTransition, h.longTransitioning⟩

theorem lit_subscript (i : ℤ) : Lit (subscript i c) d ↔ Lit c d := by
  unfold Lit
  have hlast : lastTemp (subscript i c).calls = lastTemp c.calls := lastTemp_subscript ..
  rw [hlast]
  rfl

/-- DAYTIME's request sets the temperature of the daytime. -/
theorem Prompt.onDaytimeReq (h : Prompt c d) (r : GammaReplies) :
    Prompt (onDaytimeReq r c) d ∧ Lit (Gamma.onDaytimeReq r c) d := by
  have hcf := onDaytimeReq_cf r c
  have hlast : Prompt { c with loc := { c.loc with lastT := r.now } } d :=
    ⟨h.dayTime, h.longTransition, h.longTransitioning⟩
  have hset := (hlast.subscript (dayInt c.st.dayTime)).setTemp r (c.cf.gamma.temp d) (some r.now)
    (smoothInt c.cf.gamma) c.cf.gamma.transStep c.cf.gamma.transTimeout
  have hended : (c.loc.longTransitioning && decide (r.localDay r.now ≠ r.localDay c.loc.lastT)) = false := by
    rw [h.longTransitioning]
    rfl
  have hguard : (!c.loc.longTransitioning && !c.cf.gamma.ambientGamma) = !c.cf.gamma.ambientGamma := by
    rw [h.longTransitioning]
    rfl
  unfold Lit
  rw [hcf]
  unfold Gamma.onDaytimeReq
  rw [hended, if_neg Bool.false_ne_true]
  dsimp only
  rw [hguard, withCurrentTemp_of hlast.dayTime]
  cases c.cf.gamma.ambientGamma with
  | true => exact ⟨hlast, nofun⟩
  | false => exact ⟨hset.1, fun _ => hset.2⟩

/-- Outside of ambient gamma mode the backlight does not matter. -/
theorem Prompt.ambientCallback (h : Prompt c d) (r : GammaReplies) (smooth : Bool) (new : ℚ) :
    Prompt (ambientCallback r smooth new c) d ∧ (Lit c d → Lit (Gamma.ambientCallback r smooth new c) d) := by
  have hcf := ambientCallback_cf r smooth new c
  unfold Lit
  rw [hcf]
  unfold Gamma.ambientCallback setTempConf
  by_cases hon : (c.cf.gamma.ambientGamma && !c.st.displayBusy &&
      (smooth || c.cf.bl.smooth.noSmooth)) = true
  · rw [if_pos hon]
    refine ⟨(h.setTemp r _ none _ _ _).1, fun _ hoff => ?_⟩
    rw [hoff] at hon
    cases hon
  · rw [if_neg hon]
    exact ⟨h, id⟩

theorem Prompt.onAmbgammaReq (h : Prompt c d) (r : GammaReplies) (new : Bool) :
    Prompt (onAmbgammaReq r new c) d ∧ Lit (Gamma.onAmbgammaReq r new c) d := by
  have hcf := onAmbgammaReq_cf r new c
  have hset : Prompt (setAmbientGamma new c) d := ⟨h.dayTime, h.longTransition, h.longTransitioning⟩
  unfold Lit
  rw [hcf]
  unfold Gamma.onAmbgammaReq setTempConf
  cases new with
  | true => exact ⟨(hset.ambientCallback r true c.st.currentBlPct).1, nofun⟩
  | false =>
    have hcommand := (hset.subscript (dayInt c.st.dayTime)).setTemp r (c.cf.gamma.temp d) none
      (smoothInt c.cf.gamma) c.cf.gamma.transStep c.cf.gamma.transTimeout
    dsimp only
    rw [if_neg Bool.false_ne_true, withCurrentTemp_of hset.dayTime]
    exact ⟨hcommand.1, fun _ => hcommand.2⟩

/-- The temperature of the daytime is set as it is stored, that of the other one only stored. -/
theorem Prompt.interfaceCallback (h : Prompt c d) (r : GammaReplies) (d' : DayState) (req : TempUpd) :
    Prompt (interfaceCallback r d' req c) d ∧
      (Lit c d → Lit (Gamma.interfaceCallback r d' req c) d) := by
  have hcf := interfaceCallback_cf r d' req c
  have hstore : Prompt (storeTemp d' req.new (Gamma.subscript d'.toInt c)) d :=
    ⟨h.dayTime, h.longTransition, h.longTransitioning⟩
  have hset := hstore.setTemp r req.new none req.smooth req.step req.timeout
  have hambient := hstore.ambientCallback r true c.st.currentBlPct
  unfold Gamma.interfaceCallback
  dsimp only
  split_ifs with hnow
  · obtain ⟨hoff, hday⟩ := Bool.and_eq_true_iff.mp hnow
    obtain rfl : d = d' := Option.some.inj (h.dayTime.symm.trans (of_decide_eq_true hday))
    refine ⟨hset.1, fun _ _ => ?_⟩
    have hnew : Function.update c.cf.gamma.temp d req.new d = req.new := Function.update_self ..
    rw [hset.2, setTemp_cf]
    exact congrArg some hnew.symm
  · refine ⟨hambient.1, fun hlit => hambient.2 ?_⟩
    intro hoff
    have hne : d ≠ d' := by
      rintro rfl
      apply hnow
      rw [Bool.and_eq_true_iff]
      exact ⟨congrArg not hoff, decide_eq_true h.dayTime⟩
    have hlast := (lit_subscript d'.toInt).mpr hlit hoff
    have hkept : Function.update c.cf.gamma.temp d' req.new d = c.cf.gamma.temp d :=
      Function.update_of_ne hne ..
    exact hlast.trans (congrArg some hkept.symm)

theorem Prompt.validateSubscript (h : Prompt c d) (up : TempUpd) :
    Prompt (validateSubscript up c) d ∧ (Lit c d → Lit (Gamma.validateSubscript up c) d) := by
  unfold Gamma.validateSubscript
  by_cases hzero : up.new = 0
  · rw [if_pos hzero]
    exact ⟨h.subscript _, (lit_subscript _).mpr⟩
  · rw [if_neg hzero]
    exact ⟨h, id⟩

/-- A request of another module, whether it is accepted or not. -/
theorem Prompt.onTempReq (h : Prompt c d) (r : GammaReplies) (sender : ModName) (up : TempUpd) :
    Prompt (onTempReq r sender up c) d ∧ (Lit c d → Lit (Gamma.onTempReq r sender up c) d) := by
  have hvalid := h.validateSubscript up
  unfold Gamma.onTempReq
  dsimp only
  split
  · next d' req _ =>
    split_ifs
    · have hreq := hvalid.1.onDaytimeReq r
      exact ⟨hreq.1, fun _ => hreq.2⟩
    · have hstore := hvalid.1.interfaceCallback r d' req
      exact ⟨hstore.1, fun hlit => hstore.2 (hvalid.2 hlit)⟩
  · exact hvalid

/-- DAYTIME's request is never rejected: it is about a temperature within the limits. -/
theorem Prompt.daytimeReq (h : Prompt c d) (r : GammaReplies) {up : TempUpd}
    (hup : (acceptTemp r up c).isSome = true) : Lit (Gamma.onTempReq r .daytime up c) d := by
  have hvalid := h.validateSubscript up
  obtain ⟨p, hp⟩ := Option.isSome_iff_exists.mp hup
  have heq : Gamma.onTempReq r .daytime up c = Gamma.onDaytimeReq r (Gamma.validateSubscript up c) := by
    unfold Gamma.onTempReq
    dsimp only
    rw [acceptTemp_validateSubscript, hp]
    exact if_pos rfl
  rw [heq]
  exact (hvalid.1.onDaytimeReq r).2

/-! ### The receiver in force -/

/-- The temperature is right, or it is set when GAMMA resumes. -/
def Due (c : GammaCtx) (d : DayState) : Prop := Lit c d ∨ (c.loc.stack ≠ [] ∧ c.loc.shouldSyncTemp = true)

theorem Due.of_running (h : Due c d) (hrun : c.loc.stack = []) : Lit c d := by
  rcases h with hlit | ⟨hstack, -⟩
  · exact hlit
  · exact absurd hrun hstack

/-- What came while GAMMA was paused is made up for. -/
theorem Prompt.pauseMod (h : Prompt c d) (r : GammaReplies) (pause : Bool) (reason : ModPause) :
    Prompt (pauseMod r pause reason c) d ∧ (Due c d → Due (Gamma.pauseMod r pause reason c) d) := by
  have hresume : Prompt { c with loc := { c.loc with
      paused := (modCheckPause pause reason c.loc.paused).1
      stack := unbecome c.loc.stack
      shouldSyncTemp := false } } d := ⟨h.dayTime, h.longTransition, h.longTransitioning⟩
  have hsynced := hresume.onDaytimeReq r
  unfold Gamma.pauseMod
  dsimp only
  split_ifs with hchanged hpause hsync
  · refine ⟨⟨h.dayTime, h.longTransition, h.longTransitioning⟩, ?_⟩
    rintro (hlit | ⟨-, hsync⟩)
    · exact .inl hlit
    · exact .inr ⟨List.cons_ne_nil _ _, hsync⟩
  · exact ⟨hsynced.1, fun _ => .inl hsynced.2⟩
  · refine ⟨⟨h.dayTime, h.longTransition, h.longTransitioning⟩, ?_⟩
    rintro (hlit | ⟨-, hsync'⟩)
    · exact .inl hlit
    · exact absurd hsync' hsync
  · exact ⟨⟨h.dayTime, h.longTransition, h.longTransitioning⟩, id⟩

theorem Prompt.onNewNextDayevt (h : Prompt c d) : Prompt (onNewNextDayevt c) d :=
  ⟨h.dayTime, h.longTransition, rfl⟩

/-- A running GAMMA and any message, the end of the main loop apart. -/
theorem Prompt.receive (h : Prompt c d) (hrun : c.loc.stack = []) (r : GammaReplies) {m : Msg}
    (hm : ∀ sys, m ≠ .systemUpd sys) : Prompt (receive r m c) d ∧ (Due c d → Due (Gamma.receive r m c) d) := by
  have hlit : ∀ {c' : GammaCtx}, Prompt c' d ∧ (Lit c d → Lit c' d) → Prompt c' d ∧ (Due c d → Due c' d) :=
    fun hc => ⟨hc.1, fun hdue => .inl (hc.2 (hdue.of_running hrun))⟩
  unfold Gamma.receive
  split
  · exact hlit (h.ambientCallback r _ _)
  · exact hlit (h.onTempReq r _ _)
  · split_ifs
    · have hreq := h.onAmbgammaReq r
      exact hlit ⟨(hreq _).1, fun _ => (hreq _).2⟩
    · exact ⟨h, id⟩
  · exact hlit ⟨h.onNewNextDayevt, id⟩
  · exact h.pauseMod r _ _
  · exact absurd rfl (hm _)
  · exact ⟨h, id⟩

/-- A paused GAMMA remembers that DAYTIME has asked for a temperature. -/
theorem Prompt.receivePaused (h : Prompt c d) (hpaused : c.loc.stack ≠ []) (r : GammaReplies) (m : Msg) :
    Prompt (receivePaused r m c) d ∧ (Due c d → Due (Gamma.receivePaused r m c) d) := by
  unfold Gamma.receivePaused
  split
  · next sender up =>
    obtain ⟨calls, heq⟩ := validateSubscript_eq up c
    have hvalid := h.validateSubscript up
    dsimp only
    split_ifs
    · refine ⟨⟨hvalid.1.dayTime, hvalid.1.longTransition, hvalid.1.longTransitioning⟩, fun _ => .inr ⟨?_, rfl⟩⟩
      rw [heq]
      exact hpaused
    · refine ⟨hvalid.1, ?_⟩
      rintro (hlit | ⟨hstack, hsync⟩)
      · exact .inl (hvalid.2 hlit)
      · rw [heq]
        exact .inr ⟨hstack, hsync⟩
  · exact ⟨h.onNewNextDayevt, id⟩
  · exact h.pauseMod r _ _
  · exact ⟨h, id⟩

/-- A running or paused GAMMA. -/
theorem Prompt.handle (h : Prompt c d) (hrun : c.loc.stack = pausedStack .paused c.loc.paused)
    {m : Msg} (hm : ∀ sys, m ≠ .systemUpd sys) (hc : handle r m c = some c') :
    Prompt c' d ∧ (Due c d → Due c' d) := by
  rw [handle_of_running r m hrun] at hc
  obtain rfl := Option.some.inj hc
  unfold pausedStack at hrun
  split_ifs at hrun ⊢ with hunpaused
  · exact h.receive hrun r hm
  · exact h.receivePaused (by rw [hrun]; exact List.cons_ne_nil _ _) r m

/-- Whatever was commanded before, DAYTIME's request puts it right. -/
theorem Prompt.handle_daytime (h : Prompt c d) (hrun : c.loc.stack = pausedStack .paused c.loc.paused)
    {up : TempUpd} (hup : (acceptTemp r up c).isSome = true)
    (hc : Gamma.handle r (.tempReq .daytime up) c = some c') : Due c' d := by
  rw [handle_of_running r _ hrun] at hc
  obtain rfl := Option.some.inj hc
  unfold pausedStack at hrun
  split_ifs at hrun ⊢ with hunpaused
  · exact .inl (h.daytimeReq r hup)
  · obtain ⟨calls, heq⟩ := validateSubscript_eq up c
    unfold Gamma.receivePaused
    dsimp only
    rw [acceptTemp_validateSubscript, if_pos ⟨hup, rfl⟩, heq]
    exact .inr ⟨by rw [hrun]; exact List.cons_ne_nil _ _, rfl⟩

end Gamma
end Clight
