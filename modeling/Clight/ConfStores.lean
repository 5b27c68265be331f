import Clight.ConfApi
import Clight.Hotplug
import Clight.Timeouts

/-! What a message makes a module store in the configuration. -/
namespace Clight

/-- A request as it is stored: what its validator lets through, in the cell that it names. -/
inductive Stored (st : State) (cf : Conf) (m : Msg) : Conf → Prop
  | nothing : Stored st cf m cf
  | blTimeout (t : AcState → BlTime → ℤ) :
    Stored st cf m { cf with bl := { cf.bl with timeout := t } }
  | noAutoCalib (new : Bool) (hm : m = .noAutocalibReq new) :
    Stored st cf m { cf with bl := { cf.bl with noAutoCalib := new } }
  | blCurve (ac : AcState) (c : Curve) (hc : c.InRange) :
    Stored st cf m { cf with sens := { cf.sens with
      defaultCurve := Function.update cf.sens.defaultCurve ac c } }
  | scrTimeout (t : AcState → ℤ) :
    Stored st cf m { cf with screen := { cf.screen with timeout := t } }
  | contrib (new : ℚ) (hnew : 0 ≤ new ∧ new ≤ 1) :
    Stored st cf m { cf with screen := { cf.screen with contrib := new } }
  | kbdTimeout (t : AcState → ℤ) : Stored st cf m { cf with kbd := { cf.kbd with timeout := t } }
  | kbdCurve (ac : AcState) (c : Curve) (hc : c.InRange) :
    Stored st cf m { cf with kbd := { cf.kbd with
      curve := Function.update cf.kbd.curve ac c } }
  | dimTimeout (up : TimeoutUpd) (ac : AcState) (hm : m = .dimmerToReq up)
    (hac : AcState.ofInt? (validateTimeout st up).1.state = some ac) :
    Stored st cf m { cf with dim := { cf.dim with
      timeout := Function.update cf.dim.timeout ac up.new } }
  | dpmsTimeout (up : TimeoutUpd) (ac : AcState) (hm : m = .dpmsToReq up)
    (hac : AcState.ofInt? (validateTimeout st up).1.state = some ac) :
    Stored st cf m { cf with dpms := { cf.dpms with
      timeout := Function.update cf.dpms.timeout ac up.new } }
  | temp (t : DayState → ℤ) (ht : (∀ d, 1000 ≤ cf.gamma.temp d ∧ cf.gamma.temp d ≤ 10000) →
      ∀ d, 1000 ≤ t d ∧ t d ≤ 10000) : Stored st cf m { cf with gamma := { cf.gamma with temp := t } }
  | ambientGamma (new : Bool) (hm : m = .ambGammaReq new) :
    Stored st cf m { cf with gamma := { cf.gamma with ambientGamma := new } }

theorem refit_inRange {st : State} {up : CurveUpd} {pts : List ℚ}
    (hvalid : (validateCurve st up).2 = true) (hpts : (validateCurve st up).1.regressionPoints = some pts)
    (fit : Fit) (c : Curve) : (Curve.refit fit pts c).InRange := by
  unfold validateCurve at hvalid hpts
  dsimp only at hvalid hpts
  rw [hpts] at hvalid
  simp only [Bool.and_eq_true, decide_eq_true_eq, List.all_eq_true, pointOk_iff] at hvalid
  obtain ⟨-, hlength, hrange⟩ := hvalid
  unfold Curve.refit
  rw [dif_pos hlength]
  exact hrange

/-! ### BACKLIGHT -/

namespace Backlight

@[simp] theorem pauseIf_cf (on : Bool) (reason : ModPause) (c : BlCtx) :
    (pauseIf on reason c).cf = c.cf := by
  unfold pauseIf
  split_ifs <;> rfl

@[simp] theorem onLidUpdate_cf (c : BlCtx) : (onLidUpdate c).cf = c.cf := by
  unfold onLidUpdate
  dsimp only
  split_ifs <;> rfl

@[simp] theorem onSensorChange_cf (r : BlReplies) (c : BlCtx) : (onSensorChange r c).cf = c.cf := by
  unfold onSensorChange
  dsimp only
  split_ifs <;> rfl

@[simp] theorem setBacklightLevel_cf (r : BlReplies) (pct : ℚ) (isSmooth : Bool) (step : ℚ)
    (timeout : ℤ) (c : BlCtx) : (setBacklightLevel r pct isSmooth step timeout c).cf = c.cf := by
  unfold setBacklightLevel
  dsimp only
  split_ifs <;> rfl

@[simp] theorem setNewBacklight_cf (c : BlCtx) : (setNewBacklight c).cf = c.cf := by
  obtain ⟨new, out, -, heq⟩ := setNewBacklight_eq c
  rw [heq]
  rfl

@[simp] theorem doCapture_cf (r : BlReplies) (reset captureOnly : Bool) (c : BlCtx) :
    (doCapture r reset captureOnly c).cf = c.cf :=
  doCapture_of_steps (Q := fun c c' => c'.cf = c.cf) (fun _ => rfl) (fun _ _ _ h h' => h'.trans h)
    (fun _ _ => rfl) setNewBacklight_cf (fun _ _ => rfl) r reset captureOnly c

@[simp] theorem onBlReq_cf (r : BlReplies) (accept : Bool) (up : BlUpd) (c : BlCtx) :
    (onBlReq r accept up c).cf = c.cf := by
  unfold onBlReq
  dsimp only
  split_ifs
  · exact setBacklightLevel_cf ..
  · rfl

theorem onLoopStopped_cf (c : BlCtx) : (onLoopStopped c).cf = c.cf := by
  unfold onLoopStopped
  split_ifs <;> rfl

theorem startup_cf (r : BlReplies) (c : BlCtx) : (startup r c).cf = c.cf := by
  have hlid : ∀ c' : BlCtx, (if c'.st.lidShut then onLidUpdate c' else c').cf = c'.cf := by
    intro c'
    split_ifs
    · exact onLidUpdate_cf c'
    · rfl
  have hcal : ∀ c' : BlCtx, (if c'.cf.bl.noAutoCalib then
      pauseMod .autocalib (setBacklightLevel r 1 (!c'.cf.bl.smooth.noSmooth) 0 0 c')
        else c').cf = c'.cf := by
    intro c'
    split_ifs
    · exact setBacklightLevel_cf ..
    · rfl
  unfold startup
  dsimp only
  rw [hlid, hcal, onSensorChange_cf, resetOrPause_cf]

theorem stored_onBlToReq (up : TimeoutUpd) (m : Msg) (c : BlCtx) :
    Stored c.st c.cf m (onBlToReq up c).cf := by
  unfold onBlToReq
  dsimp only
  cases AcState.ofInt? (validateTimeout c.st up).1.state with
  | none => exact .nothing
  | some ac =>
    dsimp only [interfaceTimeoutCallback]
    cases BlTime.ofInt? (validateTimeout c.st up).1.daytime with
    | none => exact .nothing
    | some t =>
      dsimp only
      split_ifs
      · rw [resetOrPause_cf]
        exact .blTimeout _
      · exact .blTimeout _

theorem stored_onNoAutocalibReq (new : Bool) (c : BlCtx) :
    Stored c.st c.cf (.noAutocalibReq new) (onNoAutocalibReq new c).cf := by
  unfold onNoAutocalibReq
  split_ifs
  · have hcf : (interfaceAutocalibCallback new c).cf =
        { c.cf with bl := { c.cf.bl with noAutoCalib := new } } := pauseIf_cf ..
    rw [hcf]
    exact .noAutoCalib new rfl
  · exact .nothing

theorem stored_onCurveReq (fit : Fit) (up : CurveUpd) (m : Msg) (c : BlCtx) :
    Stored c.st c.cf m (onCurveReq fit up c).cf := by
  unfold onCurveReq
  dsimp only
  split_ifs with hvalid
  · split
    · next ac pts hac hpts =>
      exact .blCurve ac _ (refit_inRange hvalid hpts fit _)
    · exact .nothing
  · exact .nothing

/-- BACKLIGHT stores timeouts, the NoAutoCalib flag and curves. -/
theorem stored_handle (fit : Fit) (r : BlReplies) (m : Msg) (c : BlCtx) :
    Stored c.st c.cf m (handle fit r m c).cf := by
  have hsame : ∀ {c' : BlCtx}, c'.cf = c.cf → Stored c.st c.cf m c'.cf := by
    intro c' he
    rw [he]
    exact .nothing
  unfold handle
  split
  · refine hsame ?_
    unfold receiveWaitingInit
    dsimp only
    split_ifs
    · exact startup_cf ..
    · rfl
  · unfold receivePaused
    split
    · exact hsame rfl
    · split_ifs
      · exact .nothing
      · exact hsame (setNewBacklight_cf c)
    · exact hsame rfl
    · exact hsame (pauseIf_cf ..)
    · exact hsame (resetOrPause_cf ..)
    · exact hsame (resetOrPause_cf ..)
    · exact hsame (onLidUpdate_cf c)
    · exact hsame (pauseIf_cf ..)
    · exact hsame (pauseIf_cf ..)
    · exact stored_onBlToReq _ _ c
    · split_ifs
      · exact hsame (doCapture_cf ..)
      · exact .nothing
    · split_ifs
      · exact hsame (doCapture_cf ..)
      · exact .nothing
    · exact stored_onCurveReq fit _ _ c
    · exact stored_onNoAutocalibReq _ c
    · exact hsame (onBlReq_cf ..)
    · exact hsame (onBlReq_cf ..)
    · exact hsame (onLoopStopped_cf c)
    · exact .nothing
  · unfold receive
    split
    · exact hsame rfl
    · exact hsame rfl
    · exact hsame (setNewBacklight_cf c)
    · exact hsame rfl
    · exact hsame (pauseIf_cf ..)
    · exact hsame (resetOrPause_cf ..)
    · exact hsame (resetOrPause_cf ..)
    · exact hsame (onLidUpdate_cf c)
    · exact hsame (pauseIf_cf ..)
    · exact hsame (pauseIf_cf ..)
    · exact stored_onBlToReq _ _ c
    · exact hsame (doCapture_cf ..)
    · exact hsame (doCapture_cf ..)
    · exact stored_onCurveReq fit _ _ c
    · exact stored_onNoAutocalibReq _ c
    · exact hsame (onBlReq_cf ..)
    · exact hsame (onBlReq_cf ..)
    · exact hsame (onLoopStopped_cf c)
    · exact .nothing

end Backlight

/-! ### SCREEN -/

namespace Screen

theorem stored_onScrToReq (up : TimeoutUpd) (m : Msg) (c : ScreenCtx) :
    Stored c.st c.cf m (onScrToReq up c).cf := by
  unfold onScrToReq
  cases AcState.ofInt? (validateTimeout c.st up).1.state with
  | none => exact .nothing
  | some ac =>
    dsimp only
    split_ifs
    · rw [timeoutCallback_cf]
      exact .scrTimeout _
    · exact .scrTimeout _

theorem stored_onContribReq (new : ℚ) (m : Msg) (c : ScreenCtx) :
    Stored c.st c.cf m (onContribReq new c).cf := by
  unfold onContribReq
  split_ifs with hvalid
  · have hrange : 0 ≤ new ∧ new ≤ 1 := by
      unfold validateContrib at hvalid
      simp only [Bool.and_eq_true, decide_eq_true_eq] at hvalid
      exact hvalid.1
    dsimp only
    split_ifs <;> exact .contrib new hrange
  · exact .nothing

theorem stored_handle (reply : Option ℚ) (m : Msg) (c : ScreenCtx) :
    Stored c.st c.cf m (handle reply m c).cf := by
  have hsame : ∀ {c' : ScreenCtx}, c'.cf = c.cf → Stored c.st c.cf m c'.cf := by
    intro c' he
    rw [he]
    exact .nothing
  have hmeasure : ∀ c' : ScreenCtx, (getScreenBrightness reply c').cf = c'.cf := by
    intro c'
    unfold getScreenBrightness
    cases reply with
    | none => split_ifs <;> rfl
    | some br => split_ifs <;> rfl
  unfold handle
  split
  · refine hsame ?_
    unfold receiveWaitingState
    split
    · exact timeoutCallback_cf ..
    · rfl
  · unfold receive
    split
    · refine hsame ?_
      unfold onAmbientBr
      dsimp only
      split_ifs
      · exact hmeasure _
      · rfl
    · exact hsame (hmeasure _)
    · exact hsame (timeoutCallback_cf ..)
    · exact .nothing
    · exact .nothing
    · split_ifs <;> exact .nothing
    · exact .nothing
    · exact stored_onScrToReq _ _ c
    · exact .nothing
    · exact .nothing
    · exact stored_onContribReq _ _ c
    · exact .nothing

end Screen

/-! ### KEYBOARD -/

namespace Keyboard

theorem stored_onKbdToReq (sent : Bool) (up : TimeoutUpd) (m : Msg) (c : KbdCtx) :
    Stored c.st c.cf m (onKbdToReq sent up c).cf := by
  unfold onKbdToReq
  cases AcState.ofInt? (validateTimeout c.st up).1.state with
  | none => exact .nothing
  | some ac =>
    dsimp only
    split_ifs
    · rw [setKeyboardTimeout_cf]
      exact .kbdTimeout _
    · exact .kbdTimeout _

theorem stored_onCurveReq (fit : Fit) (up : CurveUpd) (m : Msg) (c : KbdCtx) :
    Stored c.st c.cf m (onCurveReq fit up c).cf := by
  unfold onCurveReq
  dsimp only
  split
  · next ac pts hvalid hac hpts =>
    exact .kbdCurve ac _ (refit_inRange hvalid hpts fit _)
  · exact .nothing

theorem stored_handle (fit : Fit) (sent : Bool) (m : Msg) (c : KbdCtx) :
    Stored c.st c.cf m (handle fit sent m c).cf := by
  have hsame : ∀ {c' : KbdCtx}, c'.cf = c.cf → Stored c.st c.cf m c'.cf := by
    intro c' he
    rw [he]
    exact .nothing
  have hlevel : ∀ (up : BlUpd) (c' : KbdCtx), (onKbdBlReq sent up c').cf = c'.cf := by
    intro up c'
    unfold onKbdBlReq
    dsimp only
    split_ifs
    · exact setKeyboardLevel_cf ..
    · rfl
  unfold handle
  split
  · refine hsame ?_
    unfold receiveWaitingInit
    split
    · exact setKeyboardTimeout_cf ..
    · rfl
  · unfold receivePaused
    split
    · exact hsame (pauseKbd_cf ..)
    · exact hsame (setKeyboardTimeout_cf ..)
    · exact hsame (pauseKbd_cf ..)
    · exact stored_onCurveReq fit _ _ c
    · exact .nothing
  · unfold receive
    split
    · refine hsame ?_
      unfold onScreenBlUpdate
      split
      · rfl
      · dsimp only
        split_ifs <;> rfl
    · exact hsame (hlevel _ c)
    · exact hsame (hlevel _ _)
    · exact stored_onKbdToReq sent _ _ c
    · exact hsame (pauseKbd_cf ..)
    · exact hsame (setKeyboardTimeout_cf ..)
    · exact hsame (pauseKbd_cf ..)
    · exact stored_onCurveReq fit _ _ c
    · exact .nothing

end Keyboard

/-! ### DIMMER and DPMS -/

namespace Idle
variable (k : IdleConf)

/-- The module only stores a timeout that it was asked for after it has started. -/
theorem handle_cf {ok : Bool} {m : Msg} {c c' : IdleCtx} (h : handle k ok m c = some c') :
    c'.cf = c.cf ∨ c.loc.stack.head? ≠ some .waitingAcstate ∧ ∃ up ac, k.toReq m = some up ∧
      AcState.ofInt? (validateTimeout c.st up).1.state = some ac ∧
      c'.cf = k.withTimeout (Function.update (k.timeout c.cf) ac up.new) c.cf := by
  have hreq : ∀ up, (onToReq k up c).cf = c.cf ∨ ∃ ac,
      AcState.ofInt? (validateTimeout c.st up).1.state = some ac ∧
      (onToReq k up c).cf = k.withTimeout (Function.update (k.timeout c.cf) ac up.new) c.cf := by
    intro up
    unfold onToReq
    cases hac : AcState.ofInt? (validateTimeout c.st up).1.state with
    | none => exact .inl rfl
    | some ac =>
      refine .inr ⟨ac, rfl, ?_⟩
      dsimp only
      split_ifs
      · exact timeoutCallback_cf k _
      · rfl
  have hpaused : (receivePaused k m c).cf = c.cf ∨ ∃ up ac, k.toReq m = some up ∧
      AcState.ofInt? (validateTimeout c.st up).1.state = some ac ∧
      (receivePaused k m c).cf = k.withTimeout (Function.update (k.timeout c.cf) ac up.new) c.cf := by
    unfold receivePaused
    split
    · exact .inl (timeoutCallback_cf k c)
    · exact .inl (pauseIdle_cf k _ _ c)
    · exact .inl (pauseIdle_cf k _ _ c)
    · split
      · next up hup =>
        refine (hreq up).imp id fun ⟨ac, hac, hcf⟩ => ⟨up, ac, hup, hac, hcf⟩
      · exact .inl rfl
  unfold handle at h
  cases hs : c.loc.stack with
  | nil =>
    rw [hs] at h
    obtain rfl := Option.some.inj h
    unfold receive
    split
    · refine .inl ?_
      unfold clientReset clientStop
      rw [clientStart_cf, clientCall_cf]
    · exact hpaused.imp id fun hstore => ⟨nofun, hstore⟩
  | cons top rest =>
    rw [hs] at h
    cases top with
    | paused =>
      obtain rfl := Option.some.inj h
      exact hpaused.imp id fun hstore => ⟨by simp, hstore⟩
    | waitingAcstate =>
      refine .inl ?_
      have hwait : receiveWaitingAcstate k ok m c = some c' := h
      clear h hpaused hreq
      unfold receiveWaitingAcstate at hwait
      split at hwait
      · split_ifs at hwait
        obtain rfl := Option.some.inj hwait
        exact timeoutCallback_cf k _
      · obtain rfl := Option.some.inj hwait
        rfl

end Idle

/-! ### GAMMA -/

namespace Gamma

theorem onTempReq_gamma (r : GammaReplies) (sender : ModName) (up : TempUpd) (c : GammaCtx) :
    ∃ t, (onTempReq r sender up c).cf = { c.cf with gamma := { c.cf.gamma with temp := t } } := by
  have hcf := validateSubscript_cf up c
  unfold onTempReq
  dsimp only
  split
  · split_ifs
    · exact ⟨c.cf.gamma.temp, by rw [onDaytimeReq_cf, hcf]⟩
    · rw [interfaceCallback_cf]
      dsimp only [storeTemp]
      rw [hcf]
      exact ⟨_, rfl⟩
  · exact ⟨c.cf.gamma.temp, by rw [hcf]⟩

/-- A running GAMMA stores temperatures and the AmbientGamma flag. -/
theorem handle_cf {r : GammaReplies} {m : Msg} {c c' : GammaCtx} (h : handle r m c = some c') :
    c'.cf = c.cf ∨ c.loc.stack = [] ∧
      ((∃ t, c'.cf = { c.cf with gamma := { c.cf.gamma with temp := t } }) ∨
        ∃ new, m = .ambGammaReq new ∧
          c'.cf = { c.cf with gamma := { c.cf.gamma with ambientGamma := new } }) := by
  unfold handle at h
  split at h
  · split_ifs at h
    obtain rfl := Option.some.inj h
    exact .inl rfl
  · obtain rfl := Option.some.inj h
    exact .inl rfl
  · obtain rfl := Option.some.inj h
    exact .inl (receivePaused_cf ..)
  · next hs =>
    obtain rfl := Option.some.inj h
    unfold receive
    split
    · exact .inl (ambientCallback_cf ..)
    · exact .inr ⟨hs, .inl (onTempReq_gamma ..)⟩
    · split_ifs
      · exact .inr ⟨hs, .inr ⟨_, rfl, onAmbgammaReq_cf ..⟩⟩
      · exact .inl rfl
    · exact .inl rfl
    · exact .inl (pauseMod_cf ..)
    · split_ifs
      · exact .inl (setTemp_cf ..)
      · exact .inl rfl
    · exact .inl rfl

end Gamma

end Clight
