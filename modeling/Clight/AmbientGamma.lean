import Clight.GammaRuns

/-! Ambient gamma and long transitions: setting the temperature for the backlight ends a long
transition, so that none is under way while the temperature follows the ambient brightness, unless
ambient gamma is enabled while the screen is dimmed or off. -/
namespace Clight

namespace Gamma

/-- In ambient gamma mode no long transition is under way. -/
def Settled (c : GammaCtx) : Prop :=
  c.cf.gamma.ambientGamma = true → c.loc.longTransitioning = false

variable {c : GammaCtx} {r : GammaReplies}

theorem settled_of_time (h : c.cf.gamma.ambientGamma = false) : Settled c := by
  intro hambient
  exact absurd (h.symm.trans hambient) Bool.false_ne_true

/-! ### Who sets and clears the flag -/

/-- Without the time of a daytime request, a temperature ends a long transition. -/
theorem setTemp_none_long (r : GammaReplies) (temp smooth step timeout : ℤ) (c : GammaCtx) :
    (setTemp r temp none smooth step timeout c).loc.longTransitioning = false := by
  simp only [setTemp, Option.isSome_none, Bool.and_false, Bool.false_and, Bool.false_eq_true, if_false]
  split_ifs
  · rfl
  · rfl

theorem settled_setTemp_none (r : GammaReplies) (temp smooth step timeout : ℤ) (c : GammaCtx) :
    Settled (setTemp r temp none smooth step timeout c) :=
  fun _ => setTemp_none_long r temp smooth step timeout c

theorem Settled.ambientCallback (h : Settled c) (r : GammaReplies) (smooth : Bool) (new : ℚ) :
    Settled (ambientCallback r smooth new c) := by
  unfold Gamma.ambientCallback
  split
  · exact settled_setTemp_none _ _ _ _ _ _
  · exact h

theorem settled_onNewNextDayevt (c : GammaCtx) : Settled (onNewNextDayevt c) := fun _ => rfl

/-- A long transition only starts outside of ambient gamma mode. -/
theorem Settled.onDaytimeReq (h : Settled c) (r : GammaReplies) : Settled (onDaytimeReq r c) := by
  cases hambient : c.cf.gamma.ambientGamma with
  | false =>
    apply settled_of_time
    rw [onDaytimeReq_cf]
    exact hambient
  | true =>
    have hlong : c.loc.longTransitioning = false := h hambient
    -- neither branch that writes the flag is taken
    intro _
    unfold Gamma.onDaytimeReq
    dsimp only
    rw [hlong, Bool.false_and, if_neg Bool.false_ne_true, hlong, hambient, Bool.not_true, Bool.and_false,
      if_neg Bool.false_ne_true]

theorem Settled.interfaceCallback (h : Settled c) (r : GammaReplies) (d : DayState) (req : TempUpd) :
    Settled (interfaceCallback r d req c) := by
  unfold Gamma.interfaceCallback
  dsimp only
  split_ifs
  · exact settled_setTemp_none _ _ _ _ _ _
  · have hstored : Settled (storeTemp d req.new (subscript d.toInt c)) := h
    exact hstored.ambientCallback r true _

theorem Settled.validateSubscript (h : Settled c) (up : TempUpd) : Settled (validateSubscript up c) := by
  obtain ⟨calls, heq⟩ := validateSubscript_eq up c
  rw [heq]
  exact h

theorem Settled.onTempReq (h : Settled c) (r : GammaReplies) (sender : ModName) (up : TempUpd) :
    Settled (onTempReq r sender up c) := by
  have hvalidated := h.validateSubscript up
  unfold Gamma.onTempReq
  dsimp only
  split
  · split_ifs
    · exact hvalidated.onDaytimeReq r
    · exact hvalidated.interfaceCallback r _ _
  · exact hvalidated

theorem Settled.pauseMod (h : Settled c) (r : GammaReplies) (pause : Bool) (reason : ModPause) :
    Settled (pauseMod r pause reason c) := by
  unfold Gamma.pauseMod
  dsimp only
  split_ifs
  · exact h
  · apply Settled.onDaytimeReq
    exact h
  · exact h
  · exact h

/-- Enabling ambient gamma ends a long transition if the screen shows the new temperature at once. -/
theorem settled_enable_iff (r : GammaReplies) (c : GammaCtx) :
    Settled (onAmbgammaReq r true c) ↔ c.st.displayBusy = false ∨ c.loc.longTransitioning = false := by
  unfold onAmbgammaReq Gamma.ambientCallback
  dsimp only
  rw [if_pos rfl]
  cases hbusy : c.st.displayBusy with
  | false =>
    -- the temperature is set, without a time
    refine iff_of_true ?_ (.inl rfl)
    have hshown : (setAmbientGamma true c).st.displayBusy = false := hbusy
    rw [hshown]
    exact settled_setTemp_none _ _ _ _ _ _
  | true =>
    have hbusy' : (setAmbientGamma true c).st.displayBusy = true := hbusy
    rw [hbusy', Bool.not_true, Bool.and_false, Bool.false_and, if_neg Bool.false_ne_true]
    -- only the mode has changed
    constructor
    · intro h
      exact .inr (h rfl)
    · rintro (habsurd | hlong) _
      · cases habsurd
      · exact hlong

theorem settled_disable (r : GammaReplies) (c : GammaCtx) : Settled (onAmbgammaReq r false c) := by
  apply settled_of_time
  rw [onAmbgammaReq_cf]
  rfl

/-- A request that enables ambient gamma finds the screen on, or no long transition. -/
def EnabledShown (c : GammaCtx) (m : Msg) : Prop :=
  m = .ambGammaReq true → c.loc.stack = [] →
    c.st.displayBusy = false ∨ c.loc.longTransitioning = false

instance (c : GammaCtx) (m : Msg) : Decidable (EnabledShown c m) :=
  inferInstanceAs (Decidable (m = .ambGammaReq true → c.loc.stack = [] →
    c.st.displayBusy = false ∨ c.loc.longTransitioning = false))

theorem enabledShown_of_ne {m : Msg} (hm : m ≠ .ambGammaReq true) : EnabledShown c m :=
  fun heq => absurd heq hm

theorem settled_receive_iff (h : Settled c) (hrun : c.loc.stack = []) (r : GammaReplies) (m : Msg) :
    Settled (receive r m c) ↔ EnabledShown c m := by
  by_cases hm : m = .ambGammaReq true
  · subst hm
    have hshown : EnabledShown c (.ambGammaReq true) ↔
        c.st.displayBusy = false ∨ c.loc.longTransitioning = false := by
      constructor
      · intro he
        exact he rfl hrun
      · intro he _ _
        exact he
    rw [hshown]
    unfold Gamma.receive
    dsimp only
    by_cases hvalid : validateAmbgamma c.cf true = true
    · rw [if_pos hvalid]
      exact settled_enable_iff r c
    · -- ambient gamma was enabled before: the request is dropped
      rw [if_neg hvalid]
      have hambient : c.cf.gamma.ambientGamma = true := by
        simpa [validateAmbgamma] using hvalid
      exact iff_of_true h (.inr (h hambient))
  · refine iff_of_true ?_ (enabledShown_of_ne hm)
    unfold Gamma.receive
    split
    · exact h.ambientCallback r _ _
    · exact h.onTempReq r _ _
    · next new =>
      have hnew : new = false := Bool.eq_false_iff.mpr fun htrue => hm (congrArg Msg.ambGammaReq htrue)
      subst hnew
      split_ifs
      · exact settled_disable r c
      · exact h
    · exact settled_onNewNextDayevt c
    · exact h.pauseMod r _ _
    · split_ifs
      · exact settled_setTemp_none _ _ _ _ _ _
      · exact h
    · exact h

theorem Settled.receivePaused (h : Settled c) (r : GammaReplies) (m : Msg) :
    Settled (receivePaused r m c) := by
  unfold Gamma.receivePaused
  split
  · next sender up =>
    have hvalidated := h.validateSubscript up
    dsimp only
    split_ifs
    · exact hvalidated
    · exact hvalidated
  · exact settled_onNewNextDayevt c
  · exact h.pauseMod r _ _
  · exact h

/-- A message keeps GAMMA settled exactly when it does not enable ambient gamma unseen. -/
theorem settled_handle_iff (h : Settled c) (r : GammaReplies) (m : Msg) :
    (∀ c', handle r m c = some c' → Settled c') ↔ EnabledShown c m := by
  unfold handle
  cases hstack : c.loc.stack with
  | nil =>
    rw [← settled_receive_iff h hstack r m]
    constructor
    · intro hall
      exact hall _ rfl
    · intro hr c' hc'
      obtain rfl := Option.some.inj hc'
      exact hr
  | cons recv rest =>
    have hshown : EnabledShown c m := by
      intro _ hrun
      rw [hstack] at hrun
      cases hrun
    refine iff_of_true (fun c' hc' => ?_) hshown
    cases recv with
    | waitingDaytime =>
      dsimp only at hc'
      split at hc'
      · split_ifs at hc'
        obtain rfl := Option.some.inj hc'
        exact h
      · obtain rfl := Option.some.inj hc'
        exact h
      · next habsurd => cases habsurd
      · next habsurd => cases habsurd
    | paused =>
      obtain rfl := Option.some.inj hc'
      exact h.receivePaused r m

theorem Settled.methodToggleGamma (h : Settled c) (r : GammaReplies) :
    Settled (methodToggleGamma r c) := by
  unfold Gamma.methodToggleGamma
  dsimp only
  split_ifs
  · exact withCurrentTemp_ind (P := Settled) (fun _ => settled_setTemp_none _ _ _ _ _ _) h
  · exact settled_setTemp_none _ _ _ _ _ _

end Gamma

namespace GammaRun
open Gamma

/-- A step of GAMMA and of what is around it: any request and message at any time, whatever they
carry. Only GAMMA writes gamma_conf.ambient_gamma. -/
def ambientNext (s : GammaRun) : GammaRunEvent → Option GammaRun
  | .receive r m => s.gamma.bind fun g =>
    if Gamma.subscribes m then some ((Gamma.handle r m (s.ctx g)).elim { s with gamma := none } set)
    else none
  | .toggle r => s.gamma.bind fun g =>
    if Gamma.toggleDies (s.ctx g) then none else some (set (Gamma.methodToggleGamma r (s.ctx g)))
  | .tempChanged new => s.gamma.map fun g => set (Gamma.onTempChanged new (s.ctx g))
  | .others st cf =>
    if cf.gamma.ambientGamma = s.cf.gamma.ambientGamma then some { s with st := st, cf := cf } else none

/-- In ambient gamma mode no long transition is under way. -/
def AmbientSettled (s : GammaRun) : Prop :=
  s.cf.gamma.ambientGamma = true → ∀ g, s.gamma = some g → g.longTransitioning = false

/-- A request that enables ambient gamma finds the screen on, or no long transition. -/
def ShownWhenEnabled (s : GammaRun) : GammaRunEvent → Prop
  | .receive _ m => ∀ g ∈ s.gamma, EnabledShown (s.ctx g) m
  | _ => True

instance (s : GammaRun) : ∀ e, Decidable (ShownWhenEnabled s e)
  | .receive _ m => inferInstanceAs (Decidable (∀ g ∈ s.gamma, EnabledShown (s.ctx g) m))
  | .toggle _ | .tempChanged _ | .others _ _ => isTrue trivial

/-- In the state that the event leads to, no long transition is under way in ambient gamma mode. -/
def AmbientAfter (s : GammaRun) (e : GammaRunEvent) : Prop := ∀ s', s.ambientNext e = some s' → AmbientSettled s'

variable {s s' : GammaRun} {g : Gamma}

theorem AmbientSettled.settled (h : AmbientSettled s) (hg : s.gamma = some g) : Settled (s.ctx g) :=
  fun hambient => h hambient g hg

theorem ambient_set_iff (c : GammaCtx) : AmbientSettled (set c) ↔ Settled c := by
  constructor
  · intro h hambient
    exact h hambient c.loc rfl
  · intro h hambient g hg
    obtain rfl := Option.some.inj hg
    exact h hambient

theorem ambient_next_iff (h : AmbientSettled s) {e : GammaRunEvent} (hn : s.ambientNext e = some s') :
    AmbientSettled s' ↔ ShownWhenEnabled s e := by
  cases e with
  | receive r m =>
    obtain ⟨g, hg, hn⟩ := Option.bind_eq_some_iff.mp hn
    split_ifs at hn
    have hcond : ShownWhenEnabled s (.receive r m) ↔ EnabledShown (s.ctx g) m := by
      constructor
      · intro hall
        exact hall g hg
      · intro hm g' hg'
        obtain rfl := Option.some.inj (hg.symm.trans hg')
        exact hm
    rw [hcond, ← settled_handle_iff (h.settled hg) r m, ← Option.some.inj hn]
    cases hh : Gamma.handle r m (s.ctx g) with
    | none =>
      refine iff_of_true (fun _ g' hg' => ?_) fun c' hc' => ?_
      · cases hg'
      · cases hc'
    | some c =>
      refine (ambient_set_iff c).trans ?_
      constructor
      · intro hc c' hc'
        obtain rfl := Option.some.inj hc'
        exact hc
      · intro hall
        exact hall c rfl
  | toggle r =>
    obtain ⟨g, hg, hn⟩ := Option.bind_eq_some_iff.mp hn
    split_ifs at hn
    obtain rfl := Option.some.inj hn
    exact iff_of_true ((ambient_set_iff _).mpr ((h.settled hg).methodToggleGamma r)) trivial
  | tempChanged new =>
    obtain ⟨g, hg, rfl⟩ := Option.map_eq_some_iff.mp hn
    have hkept : Settled (Gamma.onTempChanged new (s.ctx g)) := h.settled hg
    exact iff_of_true ((ambient_set_iff _).mpr hkept) trivial
  | others st cf =>
    dsimp only [ambientNext] at hn
    split_ifs at hn with hsame
    obtain rfl := Option.some.inj hn
    refine iff_of_true (fun hambient g hg => ?_) trivial
    exact h (hsame.symm.trans hambient) g hg

end GammaRun

def ambientRun : Machine GammaRun GammaRunEvent where
  init s := ∃ (cf : Conf) (initialTemp : ℤ), s = .start cf initialTemp
  next := GammaRun.ambientNext

namespace GammaRun
variable {s s' : GammaRun}

/-- In ambient gamma mode no long transition is under way in any state of a run exactly when each
request that enables it finds the screen on, or no long transition. -/
theorem ambientAfter_iff {es : List GammaRunEvent} (hs : ambientRun.init s)
    (hrun : ambientRun.run s es = some s') :
    ambientRun.RunBy AmbientAfter s es ↔ ambientRun.RunBy ShownWhenEnabled s es := by
  have hinit : AmbientSettled s := by
    obtain ⟨cf, initialTemp, rfl⟩ := hs
    intro _ g hg
    obtain rfl := Option.some.inj hg
    rfl
  apply Machine.runBy_after_iff (I := fun _ => True) ?_ hinit trivial hrun
  intro s e s' h _ hn
  exact ⟨ambient_next_iff h hn, trivial⟩

/-- GAMMA with long transitions. -/
def slow : GammaRun :=
  start { Conf.default with gamma := { Conf.default.gamma with longTransition := true } } 6500

theorem slow_init : ambientRun.init slow := ⟨_, _, rfl⟩

/-- The day is about to end. -/
def dusk : State :=
  { initState .default with dayTime := some .day, inEvent := true, nextEvent := some .sunset }

/-- A long transition begins. -/
def begins : List GammaRunEvent :=
  [.others dusk slow.cf, .receive sentReplies (.daytimeUpd none .day),
    .receive sentReplies (.tempReq .daytime { daytime := -1, new := 0, smooth := -1, step := 0, timeout := 0 })]

/-- Ambient gamma is enabled in the middle of it. -/
def enabled : List GammaRunEvent := begins ++ [.receive sentReplies (.ambGammaReq true)]

/-- The same with the screen dimmed. -/
def enabledDimmed : List GammaRunEvent :=
  begins ++ [.others { dusk with displayState := displayDimmed } slow.cf, .receive sentReplies (.ambGammaReq true)]

theorem ambientAfter_enabled : ∃ s', ambientRun.run slow enabled = some s' ∧
    ambientRun.RunBy AmbientAfter slow enabled := by
  have hrun : ambientRun.run slow enabled = some _ := rfl
  exact ⟨_, hrun, (ambientAfter_iff slow_init hrun).mpr (by decide +kernel)⟩

/-- While the screen is dimmed, the request sets no temperature, and the transition goes on. -/
theorem ambientAfter_dimmed : ¬ ∀ (s s' : GammaRun) (es : List GammaRunEvent), ambientRun.init s →
    ambientRun.run s es = some s' → ambientRun.RunBy AmbientAfter s es := by
  intro hall
  have hrun : ambientRun.run slow enabledDimmed = some _ := rfl
  have hafter := hall _ _ _ slow_init hrun
  have hlast := ((((hafter.2 _ rfl).2 _ rfl).2 _ rfl).2 _ rfl).1 _ rfl
  exact absurd (hlast rfl _ rfl) (by decide +kernel)

end GammaRun
end Clight
