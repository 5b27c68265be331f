import Clight.PropertyTracks

/-! What a message may lead to: the receipts by the modules that hear of it, with those of all that they
publish in turn; and that no module publishes more than the message it received is worth. -/
namespace Clight

/-- Receipts that follow once a message is published, at most. -/
def Msg.cost : Msg → ℕ
  | .sunriseUpd _ _ | .sunsetUpd _ _ | .tempUpd _ _ | .kbdBlUpd _ _ => 1
  | .nextDayevtUpd _ _ | .noAutocalibUpd _ => 2
  | .sensUpd _ _ => 3
  | .kbdBlReq _ | .kbdBlReqStatic | .kbdToReq _ | .tempReq _ _ | .ambGammaReq _ => 2
  | .kbdCurveReq _ | .scrToReq _ | .dimmerToReq _ | .dpmsToReq _ | .sunriseReq _ | .sunsetReq _ => 1
  | .simulateReq => 2
  | .blUpd _ _ => 6
  | .blReq _ | .blReqStatic | .blReqDimmer | .blToReq _ | .curveReq _ | .noAutocalibReq _ => 10
  | .inEventUpd _ _ => 11
  | .screenBrUpd _ _ | .lidUpd _ _ => 12
  | .contribReq _ | .lidReq _ | .lidReqStatic => 13
  | .displayUpd _ _ => 14
  | .ambientBrUpd _ _ => 15
  | .inhibitUpd _ _ => 17
  | .suspendUpd _ _ | .inhibitReq _ _ | .inhibitReqStatic => 18
  | .suspendReq _ _ => 19
  | .displayReq _ _ => 25
  | .captureReq _ _ | .captureReqStatic => 26
  | .fdUpd _ => 27
  | .systemUpd (.moduleStarted _) | .systemUpd (.moduleStopped _) => 25
  | .daytimeUpd _ _ => 37
  | .systemUpd .loopStopped => 27
  | .locUpd _ => 64
  | .upowerUpd _ _ => 66
  | .upowerReq _ | .upowerReqStatic => 67
  | .systemUpd .loopStarted => 291

/-- The cost of several messages. -/
def spent (ms : List Msg) : ℕ := (ms.map Msg.cost).sum

@[simp] theorem spent_nil : spent [] = 0 := rfl

theorem spent_append (ms ms' : List Msg) : spent (ms ++ ms') = spent ms + spent ms' := by
  unfold spent
  rw [List.map_append, List.sum_append]

@[simp] theorem spent_singleton (m : Msg) : spent [m] = m.cost := List.sum_singleton

namespace Ctx
variable {L K : Type} {c c₁ c₂ : Ctx L K} {n k : ℕ}

/-- Code that publishes messages of cost `n` at most. -/
def Spends (n : ℕ) (c c' : Ctx L K) : Prop := spent c'.out ≤ spent c.out + n

theorem Spends.of_out (h : c₁.out = c.out) : Spends n c c₁ := by
  unfold Spends
  rw [h]
  exact Nat.le_add_right _ _

theorem Spends.refl (c : Ctx L K) : Spends n c c := .of_out rfl

theorem Spends.trans (h : Spends n c c₁) (h' : Spends k c₁ c₂) : Spends (n + k) c c₂ := by
  unfold Spends at h h' ⊢
  omega

theorem Spends.mono (h : Spends n c c₁) (hn : n ≤ k) : Spends k c c₁ := by
  unfold Spends at h ⊢
  omega

theorem Spends.publish (m : Msg) (c : Ctx L K) : Spends m.cost c (c.publish m) := by
  unfold Spends
  rw [publish_out, spent_append, spent_singleton]

theorem Spends.ite {b : Prop} [Decidable b] (h : Spends n c c₁) (h' : Spends n c c₂) :
    Spends n c (if b then c₁ else c₂) := by
  split_ifs
  exacts [h, h']

/-- Code that starts with nothing published. -/
theorem Spends.le (h : Spends n c c₁) (hout : c.out = []) : spent c₁.out ≤ n := by
  unfold Spends at h
  rw [hout, spent_nil] at h
  omega

end Ctx
open Ctx (Spends)

/-! ### BACKLIGHT -/

namespace Backlight

/-- A waiting BACKLIGHT may start on any message. -/
def worth : Msg → ℕ
  | .captureReq _ _ | .captureReqStatic => 26
  | .fdUpd _ => 27
  | .screenBrUpd _ _ => 11
  | _ => 10

theorem nine_le_worth (m : Msg) : 9 ≤ worth m - 1 := by
  unfold worth
  split <;> decide

theorem spends_setBacklightLevel (r : BlReplies) (pct : ℚ) (isSmooth : Bool) (step : ℚ) (timeout : ℤ)
    (c : BlCtx) : Spends 6 c (setBacklightLevel r pct isSmooth step timeout c) := by
  have hcalls (ks : List BlCall) : Spends 0 c { c with calls := ks } := .of_out rfl
  have hpub (ks : List BlCall) (up : BlUpd) :
      Spends 6 c (Ctx.publish (.blUpd c.st.currentBlPct up) { c with calls := ks }) :=
    (hcalls ks).trans (.publish (.blUpd c.st.currentBlPct up) _)
  refine ((hcalls _).mono (Nat.zero_le 6)).ite ((hpub _ _).ite ?_)
  exact (hcalls _).mono (Nat.zero_le 6)

theorem spends_onBlReq (r : BlReplies) (accept : Bool) (up : BlUpd) (c : BlCtx) :
    Spends 6 c (onBlReq r accept up c) :=
  (spends_setBacklightLevel r _ _ _ _ c).ite (.refl c)

theorem spends_onBlReqStatic (r : BlReplies) (accept : Bool) (c : BlCtx) :
    Spends 6 c (onBlReqStatic r accept c) := by
  have hloc : Spends 0 c { c with loc := { c.loc with
    blReq := (validateBacklight c.cf c.st c.loc.blReq).1 } } := .of_out rfl
  exact hloc.trans (spends_onBlReq r accept _ _)

theorem onBlToReq_out (up : TimeoutUpd) (c : BlCtx) : (onBlToReq up c).out = c.out := by
  unfold onBlToReq interfaceTimeoutCallback
  dsimp only
  split
  · split
    · rfl
    · split_ifs
      · exact resetOrPause_out _ true _
      · rfl
  · rfl

theorem onCurveReq_out (fit : Fit) (up : CurveUpd) (c : BlCtx) : (onCurveReq fit up c).out = c.out := by
  unfold onCurveReq
  dsimp only
  split_ifs
  · split <;> rfl
  · rfl

theorem spends_onNoAutocalibReq (new : Bool) (c : BlCtx) : Spends 2 c (onNoAutocalibReq new c) := by
  have hpause : Spends 0 c (pauseIf new .autocalib { c with cf := { c.cf with bl := { c.cf.bl with
      noAutoCalib := new } } }) := .of_out (pauseIf_out new .autocalib _)
  exact (hpause.trans (.publish (.noAutocalibUpd new) _)).ite (.refl c)

theorem spends_setNewBacklight (c : BlCtx) : Spends 10 c (setNewBacklight c) := by
  obtain ⟨new, out, hout, heq⟩ := setNewBacklight_eq c
  rw [heq]
  unfold Ctx.Spends
  dsimp only
  rw [spent_append]
  rcases hout with rfl | rfl
  · exact Nat.add_le_add_left (Nat.zero_le 10) _
  · exact Nat.le_refl _

/-- The ambient brightness is announced, and may be followed by a request. -/
theorem spends_doCapture (r : BlReplies) (reset captureOnly : Bool) (c : BlCtx) :
    Spends 25 c (doCapture r reset captureOnly c) := by
  have hcaptured : Spends 25 c (captured r.capture captureOnly c) := by
    unfold captured
    split
    · exact .refl c
    · next br _ =>
      have hst : Spends 0 c { c with st := { c.st with ambientBr := br } } := .of_out rfl
      have hpub := hst.trans (.publish (.ambientBrUpd c.st.ambientBr br) _)
      exact (hpub.trans (spends_setNewBacklight _)).ite (hpub.mono (Nat.le_add_right _ 10))
  have htimer (t : TimerFd) : Spends 0 (captured r.capture captureOnly c)
      (setBlFd t (captured r.capture captureOnly c)) := .of_out rfl
  exact (hcaptured.trans (htimer _)).ite hcaptured

theorem spends_onSensorChange (r : BlReplies) (c : BlCtx) : Spends 3 c (onSensorChange r c) := by
  have hpub := Spends.publish (.sensUpd c.st.sensAvail r.sensor) c
  refine (Spends.refl c).ite (Spends.ite ?_ ?_)
  · exact hpub.trans (k := 0) (.of_out rfl)
  · exact hpub.trans (k := 0) (.of_out rfl)

theorem spends_onDelayedInterface (c : BlCtx) : Spends 12 c (onDelayedInterface c) := by
  have htemp := Spends.publish (.tempReq .backlight
    { daytime := -1, new := c.st.currentTemp, smooth := -1, step := 0, timeout := 0 }) c
  have hboth := htemp.trans (.publish (.blReq
    { new := c.st.currentBlPct, smooth := -1, timeout := 0, step := 0 }) _)
  exact hboth.trans (k := 0) (.of_out rfl)

/-- A start announces the sensor, and the full brightness if it is forced. -/
theorem spends_startup (r : BlReplies) (c : BlCtx) : Spends 9 c (startup r c) := by
  have hreset : Spends 0 c (resetOrPause (-1) false { c with loc := { c.loc with
      stack := unbecome c.loc.stack
      blFd := setTimeout 0 (if 0 < getCurrentTimeout c then 1 else 0)
      blRegistered := true } }) := .of_out (resetOrPause_out (-1) false _)
  have hcal (c' : BlCtx) : Spends 6 c' (if c'.cf.bl.noAutoCalib then
      pauseMod .autocalib (setBacklightLevel r 1 (!c'.cf.bl.smooth.noSmooth) 0 0 c') else c') := by
    have hset : Spends 6 c' (pauseMod .autocalib
        (setBacklightLevel r 1 (!c'.cf.bl.smooth.noSmooth) 0 0 c')) :=
      (spends_setBacklightLevel r 1 _ 0 0 c').trans (k := 0) (.of_out rfl)
    exact hset.ite (.refl c')
  have hlid (c' : BlCtx) : Spends 0 c' (if c'.st.lidShut then onLidUpdate c' else c') :=
    Spends.ite (.of_out (onLidUpdate_out c')) (.refl c')
  have hall := ((hreset.trans (spends_onSensorChange r _)).trans (hcal _)).trans (hlid _)
  exact hall.trans (k := 0) (.of_out rfl)

theorem spends_readDelayed (c : BlCtx) : Spends 12 c (onDelayedInterface (readDelayed c)) := by
  have hread : Spends 0 c (readDelayed c) := .of_out rfl
  exact hread.trans (spends_onDelayedInterface _)

theorem spends_onBlFd (c : BlCtx) : Spends 26 c (onBlFd c) := by
  have hread : Spends 0 c (setBlFd c.loc.blFd.read c) := .of_out rfl
  exact hread.trans (k := 26) ((Spends.of_out (n := 0) rfl).trans (.publish .captureReqStatic _))

theorem onLoopStopped_out (c : BlCtx) : (onLoopStopped c).out = c.out := by
  unfold onLoopStopped
  split_ifs <;> rfl

/-- The startup, or nothing but a flag. -/
theorem spends_receiveWaitingInit (r : BlReplies) (m : Msg) (c : BlCtx) :
    Spends (worth m - 1) c (receiveWaitingInit r m c) := by
  have hok : Spends 0 c { c with loc := { c.loc with ok := started c.cf m c.loc.ok } } := .of_out rfl
  have hstart := (hok.trans (spends_startup r _)).mono (nine_le_worth m)
  exact hstart.ite (hok.mono (Nat.zero_le _))

theorem spends_receive (fit : Fit) (r : BlReplies) (m : Msg) (c : BlCtx) :
    Spends (worth m - 1) c (receive fit r m c) := by
  unfold receive
  split
  · exact (spends_readDelayed c).mono (by decide)
  · exact spends_onBlFd c
  · exact spends_setNewBacklight c
  · exact .of_out rfl
  · exact .of_out (pauseIf_out _ _ c)
  · exact .of_out (resetOrPause_out _ _ c)
  · exact .of_out (resetOrPause_out _ _ c)
  · exact .of_out (onLidUpdate_out c)
  · exact .of_out (pauseIf_out _ _ c)
  · exact .of_out (pauseIf_out _ _ c)
  · exact .of_out (onBlToReq_out _ c)
  · exact spends_doCapture r _ _ c
  · exact spends_doCapture r _ _ c
  · exact .of_out (onCurveReq_out fit _ c)
  · exact (spends_onNoAutocalibReq _ c).mono (show 2 ≤ 9 by decide)
  · exact (spends_onBlReq r _ _ c).mono (show 6 ≤ 9 by decide)
  · exact (spends_onBlReqStatic r _ c).mono (show 6 ≤ 9 by decide)
  · exact .of_out (onLoopStopped_out c)
  · exact .refl c

/-- A paused BACKLIGHT does what `receive` does or less. -/
theorem spends_receivePaused (fit : Fit) (r : BlReplies) (m : Msg) (c : BlCtx) :
    Spends (worth m - 1) c (receivePaused fit r m c) := by
  have hbl (accept : Bool) (up : BlUpd) : Spends 9 c (onBlReq r accept up c) :=
    (spends_onBlReq r accept up c).mono (by decide)
  have hstatic (accept : Bool) : Spends 9 c (onBlReqStatic r accept c) :=
    (spends_onBlReqStatic r accept c).mono (by decide)
  have hshared := spends_receive fit r m c
  unfold receivePaused
  split
  · exact (spends_readDelayed c).mono (show 12 ≤ 26 by decide)
  · exact (Spends.refl c).ite hshared
  · exact hshared
  · exact hshared
  · exact hshared
  · exact hshared
  · exact hshared
  · exact hshared
  · exact hshared
  · exact hshared
  · exact hshared.ite (.refl c)
  · exact hshared.ite (.refl c)
  · exact hshared
  · exact hshared
  · exact hbl _ _
  · exact hstatic _
  · exact hshared
  · exact .refl c

/-- Whatever state BACKLIGHT is in, a message pays for what is published on it. -/
theorem spends_handle (fit : Fit) (r : BlReplies) (m : Msg) (c : BlCtx) :
    Spends (worth m - 1) c (handle fit r m c) := by
  unfold handle
  split
  · exact spends_receiveWaitingInit r m c
  · exact spends_receivePaused fit r m c
  · exact spends_receive fit r m c

end Backlight

/-! ### SCREEN and KEYBOARD -/

namespace Screen

def worth : Msg → ℕ
  | .ambientBrUpd _ _ | .fdUpd _ | .contribReq _ => 13
  | _ => 1

theorem spends_getScreenBrightness (reply : Option ℚ) (c : ScreenCtx) :
    Spends 12 c (getScreenBrightness reply c) := by
  refine Spends.ite ?_ (.refl c)
  cases reply with
  | none => exact .of_out rfl
  | some br =>
    have hset : Spends 0 c { c with
        loc := { c.loc with msgOld := c.st.screenBr, msgNew := br }
        st := { c.st with screenBr := br } } := .of_out rfl
    exact hset.trans (.publish (.screenBrUpd c.st.screenBr br) _)

theorem onScrToReq_out (up : TimeoutUpd) (c : ScreenCtx) : (onScrToReq up c).out = c.out := by
  unfold onScrToReq
  split
  · rfl
  · dsimp only
    split_ifs
    · exact timeoutCallback_out _ true _
    · rfl

theorem spends_handle (reply : Option ℚ) (m : Msg) (c : ScreenCtx) :
    Spends (worth m - 1) c (handle reply m c) := by
  have hpause (pause : Bool) (reason : ModPause) (b : Bool) (m : Msg) :
      Spends (worth m - 1) c (pauseScreen pause reason b c) := .of_out rfl
  have hambient : Spends 12 c (onAmbientBr reply c) := by
    have hpaused : Spends 0 c (pauseScreen (c.st.ambientBr < c.cf.bl.shutterThreshold) .clogged false c) :=
      .of_out rfl
    exact (hpaused.trans (spends_getScreenBrightness reply _)).ite (hpaused.mono (Nat.zero_le 12))
  have htimer : Spends 12 c (onTimer reply c) := by
    have hread : Spends 0 c { c with loc := { c.loc with screenFd := c.loc.screenFd.read } } := .of_out rfl
    exact (hread.trans (spends_getScreenBrightness reply _)).trans (k := 0) (.of_out rfl)
  have hcontrib (new : ℚ) : Spends 12 c (onContribReq new c) := by
    have hstore : Spends 0 c (pauseScreen (new = 0) .contrib true
        { c with cf := { c.cf with screen := { c.cf.screen with contrib := new } } }) := .of_out rfl
    have hpub := hstore.trans (.publish (.screenBrUpd c.loc.msgOld c.loc.msgNew) _)
    exact (hpub.ite (hstore.mono (Nat.zero_le _))).ite (.refl c)
  unfold handle
  split
  · -- the start measures nothing yet
    unfold receiveWaitingState
    split
    · exact .of_out (timeoutCallback_out (-1) false _)
    · exact .refl c
  · unfold receive
    split
    · exact hambient
    · exact htimer
    · exact .of_out (timeoutCallback_out _ true c)
    · exact hpause _ .display false _
    · exact hpause _ .sensor true _
    · exact (hpause _ .lid false _).ite (.refl c)
    · exact hpause _ .suspend false _
    · exact .of_out (onScrToReq_out _ c)
    · exact hpause _ .autocalib true _
    · exact hpause _ .inhibit true _
    · exact hcontrib _
    · exact .refl c

end Screen

namespace Keyboard

def worth : Msg → ℕ
  | .blUpd _ _ => 3
  | .displayUpd _ _ | .upowerUpd _ _ | .suspendUpd _ _ | .kbdBlReq _ | .kbdBlReqStatic | .kbdToReq _ => 2
  | _ => 1

theorem spends_setKeyboardLevel (sent : Bool) (level : ℚ) (c : KbdCtx) :
    Spends 1 c (setKeyboardLevel sent level c) := by
  have hcall : Spends 0 c { c.call (.set level) with st := { c.st with currentKbdPct := level } } :=
    .of_out rfl
  exact (hcall.trans (.publish (.kbdBlUpd c.st.currentKbdPct level) _)).ite (.of_out rfl)

theorem spends_pauseKbd (sent pause : Bool) (reason : ModPause) (c : KbdCtx) :
    Spends 1 c (pauseKbd sent pause reason c) := by
  have hlevel (level : ℚ) (l : Keyboard) : Spends 1 c (setKeyboardLevel sent level { c with loc := l }) :=
    (Spends.of_out (n := 0) rfl).trans (spends_setKeyboardLevel sent level _)
  have hdark (l l' : Keyboard) :
      Spends 1 c { setKeyboardLevel sent 0 { c with loc := l } with loc := l' } :=
    (hlevel 0 l).trans (k := 0) (.of_out rfl)
  have hkept (l : Keyboard) : Spends 1 c { c with loc := l } := .of_out rfl
  exact Spends.ite (Spends.ite (hdark _ _) (hlevel _ _)) (hkept _)

theorem spends_setKeyboardTimeout (sent : Bool) (c : KbdCtx) : Spends 1 c (setKeyboardTimeout sent c) := by
  have hpause := spends_pauseKbd sent (atAc c.cf.kbd.timeout c.st.acState ≤ 0) .timeout c
  have hcall (timeout : ℤ) : Spends 1 c (Ctx.call (.setTimeout timeout)
      (pauseKbd sent (atAc c.cf.kbd.timeout c.st.acState ≤ 0) .timeout c)) :=
    hpause.trans (k := 0) (.of_out rfl)
  exact (hcall _).ite hpause

theorem spends_onKbdBlReq (sent : Bool) (up : BlUpd) (c : KbdCtx) : Spends 1 c (onKbdBlReq sent up c) :=
  (spends_setKeyboardLevel sent _ c).ite (.refl c)

theorem spends_onKbdToReq (sent : Bool) (up : TimeoutUpd) (c : KbdCtx) :
    Spends 1 c (onKbdToReq sent up c) := by
  unfold onKbdToReq
  split
  · exact .refl c
  · next ac _ =>
    have hstore : Spends 0 c { c with cf := { c.cf with kbd := { c.cf.kbd with
        timeout := Function.update c.cf.kbd.timeout ac up.new } } } := .of_out rfl
    exact Spends.ite (hstore.trans (spends_setKeyboardTimeout sent _)) (hstore.mono (Nat.zero_le 1))

theorem onCurveReq_out (fit : Fit) (up : CurveUpd) (c : KbdCtx) : (onCurveReq fit up c).out = c.out := by
  unfold onCurveReq
  dsimp only
  split <;> rfl

theorem spends_onScreenBlUpdate (up : BlUpd) (c : KbdCtx) : Spends 2 c (onScreenBlUpdate up c) := by
  unfold onScreenBlUpdate
  split
  · exact .refl c
  · have hstore (l : Keyboard) : Spends 0 c { c with loc := l } := .of_out rfl
    exact ((hstore _).trans (.publish .kbdBlReqStatic _)).ite (.refl c)

theorem spends_handle (fit : Fit) (sent : Bool) (m : Msg) (c : KbdCtx) :
    Spends (worth m - 1) c (handle fit sent m c) := by
  have hstatic : Spends 1 c (onKbdBlReq sent c.loc.kbdReq
      { c with loc := { c.loc with kbdReq := (validateBacklight c.cf c.st c.loc.kbdReq).1 } }) :=
    (Spends.of_out (n := 0) rfl).trans (spends_onKbdBlReq sent _ _)
  have hstart : Spends 1 c (setKeyboardTimeout sent { c with loc := { c.loc with
      stack := unbecome c.loc.stack } }) :=
    (Spends.of_out (n := 0) rfl).trans (spends_setKeyboardTimeout sent _)
  unfold handle
  split
  · unfold receiveWaitingInit
    split
    · exact hstart
    · exact .refl c
  · unfold receivePaused
    split
    · exact spends_pauseKbd sent _ .display c
    · exact spends_setKeyboardTimeout sent c
    · exact spends_pauseKbd sent _ .suspend c
    · exact .of_out (onCurveReq_out fit _ c)
    · exact .refl c
  · unfold receive
    split
    · exact spends_onScreenBlUpdate _ c
    · exact spends_onKbdBlReq sent _ c
    · exact hstatic
    · exact spends_onKbdToReq sent _ c
    · exact spends_pauseKbd sent _ .display c
    · exact spends_setKeyboardTimeout sent c
    · exact spends_pauseKbd sent _ .suspend c
    · exact .of_out (onCurveReq_out fit _ c)
    · exact .refl c

end Keyboard

/-! ### DIMMER, DPMS and GAMMA -/

namespace Idle

/-- DIMMER and DPMS only publish from the signals of their clients; they may deregister themselves as
they start. -/
def worth : Msg → ℕ
  | .upowerUpd _ _ => 26
  | _ => 1

theorem clientCall_out (call : IdleCall) (c : IdleCtx) : (clientCall call c).out = c.out := by
  unfold clientCall
  split_ifs <;> rfl

theorem clientStart_out (timeout : ℤ) (c : IdleCtx) : (clientStart timeout c).out = c.out := by
  unfold clientStart
  split_ifs
  · exact clientCall_out .start c
  · rfl

theorem setTimeout_out (timeout : ℤ) (c : IdleCtx) : (setTimeout timeout c).out = c.out := by
  unfold setTimeout
  dsimp only
  split_ifs
  · exact clientCall_out _ c
  · exact (clientStart_out timeout _).trans (clientCall_out _ c)
  · exact clientCall_out .stop c

theorem pauseIdle_out (k : IdleConf) (pause : Bool) (reason : ModPause) (c : IdleCtx) :
    (pauseIdle k pause reason c).out = c.out := by
  unfold pauseIdle
  dsimp only
  split_ifs
  · exact clientCall_out .stop _
  · exact clientStart_out _ _
  · rfl

theorem timeoutCallback_out (k : IdleConf) (c : IdleCtx) : (timeoutCallback k c).out = c.out := by
  unfold timeoutCallback
  split_ifs
  · exact pauseIdle_out k true .timeout c
  · exact (setTimeout_out _ _).trans (pauseIdle_out k false .timeout c)

theorem receivePaused_out (k : IdleConf) (m : Msg) (c : IdleCtx) : (receivePaused k m c).out = c.out := by
  unfold receivePaused
  split
  · exact timeoutCallback_out k c
  · exact pauseIdle_out k _ .inhibit c
  · exact pauseIdle_out k _ .suspend c
  · split
    · unfold onToReq
      split
      · rfl
      · dsimp only
        split_ifs
        · exact timeoutCallback_out k _
        · rfl
    · rfl

theorem handle_out {k : IdleConf} {ok : Bool} {m : Msg} {c c' : IdleCtx} (h : handle k ok m c = some c') :
    c'.out = c.out := by
  unfold handle at h
  split at h
  · unfold receiveWaitingAcstate at h
    split at h
    · split_ifs at h
      obtain rfl := Option.some.inj h
      exact timeoutCallback_out k _
    · obtain rfl := Option.some.inj h
      rfl
  · obtain rfl := Option.some.inj h
    exact receivePaused_out k m c
  · obtain rfl := Option.some.inj h
    unfold receive
    split
    · unfold clientReset clientStop
      exact (clientStart_out _ _).trans (clientCall_out .stop c)
    · exact receivePaused_out k m c

/-- It gives up only on the message that it starts with. -/
theorem handle_none {k : IdleConf} {ok : Bool} {m : Msg} {c : IdleCtx} (h : handle k ok m c = none) :
    worth m = 26 := by
  unfold handle receiveWaitingAcstate at h
  split at h
  · split at h
    · rfl
    · cases h
  · cases h
  · cases h

end Idle

namespace Gamma

def worth : Msg → ℕ
  | .daytimeUpd _ _ => 26
  | .blUpd _ _ | .tempReq _ _ | .ambGammaReq _ | .suspendUpd _ _ | .systemUpd .loopStopped => 2
  | _ => 1

theorem spends_setTemp (r : GammaReplies) (temp : ℤ) (now : Option ℤ) (smooth step timeout : ℤ)
    (c : GammaCtx) : Spends 1 c (setTemp r temp now smooth step timeout c) := by
  have hset (c' : GammaCtx) (hout : c'.out = c.out) (b : Bool) (t sm sp tm : ℤ) :
      Spends 1 c (if b then publishTempUpd t sm sp tm c' else c') := by
    have hsame : Spends 0 c c' := .of_out hout
    exact (hsame.trans (.publish (.tempUpd c'.st.currentTemp _) c')).ite (hsame.mono (Nat.zero_le 1))
  unfold setTemp
  dsimp only
  apply hset
  split_ifs <;> rfl

theorem spends_setTempConf (r : GammaReplies) (temp : ℤ) (now : Option ℤ) (c : GammaCtx) :
    Spends 1 c (setTempConf r temp now c) := spends_setTemp ..

theorem spends_ambientCallback (r : GammaReplies) (smooth : Bool) (new : ℚ) (c : GammaCtx) :
    Spends 1 c (ambientCallback r smooth new c) :=
  Spends.ite (spends_setTempConf r _ none c) (.refl c)

theorem spends_withCurrentTemp (r : GammaReplies) (now : Option ℤ) (c : GammaCtx) :
    Spends 1 c (withCurrentTemp (fun temp => setTempConf r temp now) c) := by
  refine withCurrentTemp_ind (P := Spends 1 c) ?_ (.of_out rfl)
  intro temp
  exact (Spends.of_out (n := 0) rfl).trans (spends_setTempConf r _ _ _)

theorem spends_onDaytimeReq (r : GammaReplies) (c : GammaCtx) : Spends 1 c (onDaytimeReq r c) := by
  have hset (l : Gamma) :
      Spends 1 c (withCurrentTemp (fun temp => setTempConf r temp (some r.now)) { c with loc := l }) :=
    (Spends.of_out (n := 0) rfl).trans (spends_withCurrentTemp r _ _)
  have hkept (l : Gamma) : Spends 1 c { c with loc := l } := .of_out rfl
  unfold onDaytimeReq
  dsimp only
  split_ifs
  · exact hset _
  · exact hkept _
  · exact hset _
  · exact hkept _

theorem spends_onAmbgammaReq (r : GammaReplies) (new : Bool) (c : GammaCtx) :
    Spends 1 c (onAmbgammaReq r new c) := by
  have hstore : Spends 0 c (setAmbientGamma new c) := .of_out rfl
  exact Spends.ite (hstore.trans (spends_ambientCallback r true _ _))
    (hstore.trans (spends_withCurrentTemp r none _))

theorem spends_interfaceCallback (r : GammaReplies) (d : DayState) (req : TempUpd) (c : GammaCtx) :
    Spends 1 c (interfaceCallback r d req c) := by
  have hstore : Spends 0 c (storeTemp d req.new (subscript d.toInt c)) := .of_out rfl
  exact Spends.ite (hstore.trans (spends_setTemp r _ none _ _ _ _))
    (hstore.trans (spends_ambientCallback r true _ _))

theorem spends_onTempReq (r : GammaReplies) (sender : ModName) (up : TempUpd) (c : GammaCtx) :
    Spends 1 c (onTempReq r sender up c) := by
  obtain ⟨calls, heq⟩ := validateSubscript_eq up c
  have hvalid : Spends 0 c (validateSubscript up c) := .of_out (by rw [heq])
  refine hvalid.trans (k := 1) ?_
  unfold onTempReq
  dsimp only
  rw [acceptTemp_validateSubscript]
  split
  · exact Spends.ite (spends_onDaytimeReq r _) (spends_interfaceCallback r _ _ _)
  · exact .refl _

theorem spends_pauseMod (r : GammaReplies) (pause : Bool) (reason : ModPause) (c : GammaCtx) :
    Spends 1 c (pauseMod r pause reason c) := by
  have hkept (l : Gamma) : Spends 1 c { c with loc := l } := .of_out rfl
  have hsync (l : Gamma) : Spends 1 c (onDaytimeReq r { c with loc := l }) :=
    (Spends.of_out (n := 0) rfl).trans (spends_onDaytimeReq r _)
  exact Spends.ite (Spends.ite (hkept _) (Spends.ite (hsync _) (hkept _))) (hkept _)

theorem spends_handle {r : GammaReplies} {m : Msg} {c c' : GammaCtx} (h : handle r m c = some c') :
    Spends (worth m - 1) c c' := by
  unfold handle at h
  split at h
  · split_ifs at h
    obtain rfl := Option.some.inj h
    exact .of_out rfl
  · obtain rfl := Option.some.inj h
    exact .refl c
  · obtain rfl := Option.some.inj h
    unfold receivePaused
    split
    · next sender up =>
      obtain ⟨calls, heq⟩ := validateSubscript_eq up c
      dsimp only
      split_ifs
      · exact .of_out (by rw [heq])
      · exact .of_out (by rw [heq])
    · exact .of_out rfl
    · exact spends_pauseMod r _ .suspend c
    · exact .refl c
  · obtain rfl := Option.some.inj h
    unfold receive
    split
    · exact spends_ambientCallback r _ _ c
    · exact spends_onTempReq r _ _ c
    · exact (spends_onAmbgammaReq r _ c).ite (.refl c)
    · exact .of_out rfl
    · exact spends_pauseMod r _ .suspend c
    · exact (spends_setTemp r _ none 0 0 0 c).ite (.refl c)
    · exact .refl c

/-- It deregisters itself only on the daytime that it waits for. -/
theorem handle_none {r : GammaReplies} {m : Msg} {c : GammaCtx} (h : handle r m c = none) : worth m = 26 := by
  unfold handle at h
  split at h
  · rfl
  · cases h
  · cases h
  · cases h

end Gamma
end Clight
