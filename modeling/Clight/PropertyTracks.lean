import Clight.DaytimeEvents
import Clight.DaytimeTimer
import Clight.Display
import Clight.HeldFlags
import Clight.PauseBits
import Clight.Properties
import Clight.ScreenFrame
import Clight.Upower

/-! Every module publishes the update of each property that it writes: BACKLIGHT, KEYBOARD, GAMMA,
DISPLAY, INHIBIT, UPOWER and DAYTIME; SCREEN and DAYTIME also reset one in silence. -/
namespace Clight
variable {Q : (p : Property) → p.Val → Prop}

/-! ### BACKLIGHT -/

namespace Backlight

theorem pauseIf_out (on : Bool) (reason : ModPause) (c : BlCtx) : (pauseIf on reason c).out = c.out := by
  unfold pauseIf
  split_ifs <;> rfl

theorem resetOrPause_out (old : ℤ) (reset : Bool) (c : BlCtx) : (resetOrPause old reset c).out = c.out := by
  unfold resetOrPause
  dsimp only
  split_ifs <;> rfl

theorem onLidUpdate_out (c : BlCtx) : (onLidUpdate c).out = c.out := by
  unfold onLidUpdate
  dsimp only
  split_ifs <;> rfl

theorem tracks_setBacklightLevel (r : BlReplies) (pct : ℚ) (isSmooth : Bool) (step : ℚ) (timeout : ℤ)
    (c : BlCtx) : Tracks Q c (setBacklightLevel r pct isSmooth step timeout c) := by
  have hcalls (ks : List BlCall) : Tracks Q c { c with calls := ks } := Tracks.of_eq rfl rfl
  exact (hcalls _).ite (((hcalls _).publish _).ite (hcalls _))

theorem tracks_onBlReq (r : BlReplies) (accept : Bool) (up : BlUpd) (c : BlCtx) :
    Tracks Q c (onBlReq r accept up c) :=
  (tracks_setBacklightLevel r _ _ _ _ c).ite (.refl c)

theorem tracks_onBlReqStatic (r : BlReplies) (accept : Bool) (c : BlCtx) :
    Tracks Q c (onBlReqStatic r accept c) := by
  have hloc := Tracks.withLoc (Q := Q) { c.loc with
    blReq := (validateBacklight c.cf c.st c.loc.blReq).1 } c
  exact hloc.trans (tracks_onBlReq r accept _ _)

theorem tracks_onBlToReq (up : TimeoutUpd) (c : BlCtx) : Tracks Q c (onBlToReq up c) := by
  refine Tracks.of_eq (onBlToReq_st up c) ?_
  unfold onBlToReq interfaceTimeoutCallback
  dsimp only
  split
  · split
    · rfl
    · split_ifs
      · exact resetOrPause_out _ true _
      · rfl
  · rfl

theorem tracks_onNoAutocalibReq (new : Bool) (c : BlCtx) : Tracks Q c (onNoAutocalibReq new c) := by
  have hpause : Tracks Q c (pauseIf new .autocalib { c with cf := { c.cf with bl := { c.cf.bl with
      noAutoCalib := new } } }) := Tracks.of_eq (pauseIf_st new .autocalib _) (pauseIf_out new .autocalib _)
  exact (hpause.publish _).ite (.refl c)

theorem tracks_onCurveReq (fit : Fit) (up : CurveUpd) (c : BlCtx) : Tracks Q c (onCurveReq fit up c) := by
  refine Tracks.of_eq (onCurveReq_st fit up c) ?_
  unfold onCurveReq
  dsimp only
  split_ifs
  · split
    · rfl
    · rfl
  · rfl

theorem tracks_setNewBacklight (c : BlCtx) : Tracks Q c (setNewBacklight c) := by
  obtain ⟨new, out, -, heq⟩ := setNewBacklight_eq c
  rw [heq]
  exact .of_st rfl fun _ => List.mem_append_left _

/-- The only properties that a capture writes are the ambient brightness and, later, the level. -/
theorem tracks_doCapture (r : BlReplies) (reset captureOnly : Bool) (c : BlCtx) :
    Tracks Q c (doCapture r reset captureOnly c) := by
  refine doCapture_of_steps .refl (fun _ _ _ => .trans) ?_ tracks_setNewBacklight
    (fun _ _ => Tracks.of_eq rfl rfl) r reset captureOnly c
  intro br c
  refine .write .ambientBr rfl ?_ rfl
  intro q hq pm
  cases q <;> first | rfl | exact absurd rfl hq

theorem tracks_onSensorChange (r : BlReplies) (c : BlCtx) : Tracks Q c (onSensorChange r c) := by
  have hwrite : Tracks Q c { c.publish (.sensUpd c.st.sensAvail r.sensor) with
      st := { c.st with sensAvail := some r.sensor } } := by
    refine .write .sensorAvail rfl ?_ rfl
    intro q hq pm
    cases q <;> first | rfl | exact absurd rfl hq
  refine (Tracks.refl c).ite ((hwrite.trans ?_).ite (hwrite.trans ?_))
  · exact Tracks.of_eq rfl rfl
  · exact Tracks.of_eq rfl rfl

theorem tracks_onBlChanged (mon : MonId) (pct : ℚ) (c : BlCtx) : Tracks Q c (onBlChanged mon pct c) := by
  refine Tracks.ite (.write .blPct rfl ?_ rfl) (Tracks.of_eq rfl rfl)
  intro q hq pm
  cases q <;> first | rfl | exact absurd rfl hq

theorem tracks_onDelayedInterface (c : BlCtx) : Tracks Q c (onDelayedInterface c) := by
  have hpub := ((Tracks.refl (Q := Q) c).publish (.tempReq .backlight
    { daytime := -1, new := c.st.currentTemp, smooth := -1, step := 0, timeout := 0 })).publish
    (.blReq { new := c.st.currentBlPct, smooth := -1, timeout := 0, step := 0 })
  exact hpub.trans (Tracks.of_eq rfl rfl)

theorem tracks_scheduleSync (c : BlCtx) : Tracks Q c (scheduleSync c) :=
  Tracks.ite (Tracks.of_eq rfl rfl) (tracks_onDelayedInterface c)

theorem tracks_onInterfaceAdded (mon : MonId) (c : BlCtx) : Tracks Q c (onInterfaceAdded mon c) :=
  (Tracks.withLoc { c.loc with bls := c.loc.bls.insert mon 1 } c).trans (tracks_scheduleSync _)

theorem tracks_onInterfaceRemoved {mon : MonId} {c c' : BlCtx} (h : onInterfaceRemoved mon c = some c') :
    Tracks Q c c' := by
  unfold onInterfaceRemoved at h
  split at h
  · cases h
  · next bi _ =>
    obtain rfl := Option.some.inj h
    exact (Tracks.withLoc { c.loc with
      backlightInterface := if bi = mon then none else some bi
      bls := c.loc.bls.erase mon } c).trans (tracks_scheduleSync _)

theorem tracks_startup (r : BlReplies) (c : BlCtx) : Tracks Q c (startup r c) := by
  have hreset : Tracks Q c (resetOrPause (-1) false { c with loc := { c.loc with
      stack := unbecome c.loc.stack
      blFd := setTimeout 0 (if 0 < getCurrentTimeout c then 1 else 0)
      blRegistered := true } }) := Tracks.of_eq (resetOrPause_st (-1) false _) (resetOrPause_out (-1) false _)
  have hcal (c' : BlCtx) : Tracks Q c' (if c'.cf.bl.noAutoCalib then
      pauseMod .autocalib (setBacklightLevel r 1 (!c'.cf.bl.smooth.noSmooth) 0 0 c') else c') :=
    Tracks.ite ((tracks_setBacklightLevel r 1 _ 0 0 c').trans (Tracks.of_eq rfl rfl)) (.refl c')
  have hlid (c' : BlCtx) : Tracks Q c' (if c'.st.lidShut then onLidUpdate c' else c') :=
    Tracks.ite (Tracks.of_eq (onLidUpdate_st c') (onLidUpdate_out c')) (.refl c')
  exact (hreset.trans ((tracks_onSensorChange r _).trans ((hcal _).trans (hlid _)))).trans
    (Tracks.of_eq rfl rfl)

/-- Whatever BACKLIGHT receives, it tells of what it writes. -/
theorem tracks_handle (fit : Fit) (r : BlReplies) (m : Msg) (c : BlCtx) : Tracks Q c (handle fit r m c) := by
  have hpause (on : Bool) (reason : ModPause) : Tracks Q c (pauseIf on reason c) :=
    Tracks.of_eq (pauseIf_st on reason c) (pauseIf_out on reason c)
  have hreset (old : ℤ) : Tracks Q c (resetOrPause old true c) :=
    Tracks.of_eq (resetOrPause_st old true c) (resetOrPause_out old true c)
  have hlid : Tracks Q c (onLidUpdate c) := Tracks.of_eq (onLidUpdate_st c) (onLidUpdate_out c)
  have htimer (t : TimerFd) : Tracks Q c (setBlFd t c) := Tracks.of_eq rfl rfl
  have hdelayed : Tracks Q c (onDelayedInterface (readDelayed c)) :=
    (Tracks.withLoc { c.loc with delayedFd := c.loc.delayedFd.read } c).trans (tracks_onDelayedInterface _)
  have hstop : Tracks Q c (onLoopStopped c) := Tracks.ite (Tracks.of_eq rfl rfl) (.refl c)
  have hcapture : Tracks Q c (onBlFd c) := (Tracks.withLoc _ c).publish .captureReqStatic
  unfold handle
  split
  · -- waiting: the startup, or nothing but a flag
    have hok := Tracks.withLoc (Q := Q) { c.loc with ok := started c.cf m c.loc.ok } c
    exact Tracks.ite (hok.trans (tracks_startup r _)) hok
  · unfold receivePaused
    split
    · exact hdelayed
    · exact (Tracks.refl c).ite (tracks_setNewBacklight c)
    · exact htimer _
    · exact hpause _ _
    · exact hreset _
    · exact hreset _
    · exact hlid
    · exact hpause _ _
    · exact hpause _ _
    · exact tracks_onBlToReq _ c
    · exact (tracks_doCapture r _ _ c).ite (.refl c)
    · exact (tracks_doCapture r _ _ c).ite (.refl c)
    · exact tracks_onCurveReq fit _ c
    · exact tracks_onNoAutocalibReq _ c
    · exact tracks_onBlReq r _ _ c
    · exact tracks_onBlReqStatic r _ c
    · exact hstop
    · exact .refl c
  · unfold receive
    split
    · exact hdelayed
    · exact hcapture
    · exact tracks_setNewBacklight c
    · exact htimer _
    · exact hpause _ _
    · exact hreset _
    · exact hreset _
    · exact hlid
    · exact hpause _ _
    · exact hpause _ _
    · exact tracks_onBlToReq _ c
    · exact tracks_doCapture r _ _ c
    · exact tracks_doCapture r _ _ c
    · exact tracks_onCurveReq fit _ c
    · exact tracks_onNoAutocalibReq _ c
    · exact tracks_onBlReq r _ _ c
    · exact tracks_onBlReqStatic r _ c
    · exact hstop
    · exact .refl c

end Backlight

/-! ### SCREEN, KEYBOARD and GAMMA -/

namespace Screen

/-- A pause may reset the brightness of the screen, in silence. -/
theorem tracks_pauseScreen (h0 : Q .screenBr (0 : ℚ)) (pause : Bool) (reason : ModPause)
    (resetScreenBr : Bool) (c : ScreenCtx) : Tracks Q c (pauseScreen pause reason resetScreenBr c) := by
  refine .exempt rfl ?_
  intro p pm
  unfold pauseScreen
  dsimp only
  split_ifs
  · cases p with
    | screenBr => exact .inr h0
    | _ => exact .inl rfl
  · exact .inl rfl

theorem tracks_getScreenBrightness (reply : Option ℚ) (c : ScreenCtx) :
    Tracks Q c (getScreenBrightness reply c) := by
  refine Tracks.ite ?_ (.refl c)
  cases reply with
  | none => exact .withLoc _ c
  | some br =>
    refine .write .screenBr rfl ?_ rfl
    intro q hq pm
    cases q <;> first | rfl | exact absurd rfl hq

theorem tracks_timeoutCallback (h0 : Q .screenBr (0 : ℚ)) (oldVal : ℤ) (reset : Bool) (c : ScreenCtx) :
    Tracks Q c (timeoutCallback oldVal reset c) := by
  have hresume := tracks_pauseScreen h0 false .timeout false c
  exact (tracks_pauseScreen h0 true .timeout true c).ite ((hresume.trans (.withLoc _ _)).ite hresume)

theorem tracks_onScrToReq (h0 : Q .screenBr (0 : ℚ)) (up : TimeoutUpd) (c : ScreenCtx) :
    Tracks Q c (onScrToReq up c) := by
  unfold onScrToReq
  split
  · exact .refl c
  · next ac _ =>
    have hstore : Tracks Q c { c with cf := { c.cf with screen := { c.cf.screen with
      timeout := Function.update c.cf.screen.timeout ac up.new } } } := .of_eq rfl rfl
    exact (hstore.trans (tracks_timeoutCallback h0 _ true _)).ite hstore

theorem tracks_receive (h0 : Q .screenBr (0 : ℚ)) (reply : Option ℚ) (m : Msg) (c : ScreenCtx) :
    Tracks Q c (receive reply m c) := by
  have hpause (pause : Bool) (reason : ModPause) (b : Bool) : Tracks Q c (pauseScreen pause reason b c) :=
    tracks_pauseScreen h0 pause reason b c
  unfold receive
  split
  · exact ((hpause _ .clogged false).trans (tracks_getScreenBrightness reply _)).ite (hpause _ _ _)
  · exact ((Tracks.withLoc _ c).trans (tracks_getScreenBrightness reply _)).trans (.withLoc _ _)
  · exact tracks_timeoutCallback h0 _ true c
  · exact hpause _ .display false
  · exact hpause _ .sensor true
  · exact (hpause _ .lid false).ite (.refl c)
  · exact hpause _ .suspend false
  · exact tracks_onScrToReq h0 _ c
  · exact hpause _ .autocalib true
  · exact hpause _ .inhibit true
  · next new =>
    have hstore : Tracks Q c { c with cf := { c.cf with screen := { c.cf.screen with contrib := new } } } :=
      .of_eq rfl rfl
    have hcontrib := hstore.trans (tracks_pauseScreen h0 (new = 0) .contrib true _)
    exact ((hcontrib.publish _).ite hcontrib).ite (.refl c)
  · exact .refl c

theorem tracks_handle (h0 : Q .screenBr (0 : ℚ)) (reply : Option ℚ) (m : Msg) (c : ScreenCtx) :
    Tracks Q c (handle reply m c) := by
  unfold handle
  split
  · unfold receiveWaitingState
    split
    · exact ((Tracks.withLoc _ c).trans (tracks_timeoutCallback h0 (-1) false _)).trans
        (tracks_pauseScreen h0 _ .contrib true _)
    · exact .refl c
  · exact tracks_receive h0 reply m c

end Screen

namespace Keyboard

theorem tracks_setKeyboardLevel (sent : Bool) (level : ℚ) (c : KbdCtx) :
    Tracks Q c (setKeyboardLevel sent level c) := by
  refine Tracks.ite (.write .kbdPct rfl ?_ rfl) (Tracks.of_eq rfl rfl)
  intro q hq pm
  cases q <;> first | rfl | exact absurd rfl hq

theorem tracks_pauseKbd (sent pause : Bool) (reason : ModPause) (c : KbdCtx) :
    Tracks Q c (pauseKbd sent pause reason c) := by
  have hmask := Tracks.withLoc (Q := Q) { c.loc with paused := (modCheckPause pause reason c.loc.paused).1 } c
  refine Tracks.ite (Tracks.ite ?_ ?_) hmask
  · exact (hmask.trans (tracks_setKeyboardLevel sent 0 _)).trans (Tracks.withLoc _ _)
  · exact (hmask.trans (Tracks.withLoc _ _)).trans (tracks_setKeyboardLevel sent _ _)

theorem tracks_setKeyboardTimeout (sent : Bool) (c : KbdCtx) : Tracks Q c (setKeyboardTimeout sent c) :=
  Tracks.ite ((tracks_pauseKbd sent _ .timeout c).trans (Tracks.of_eq rfl rfl))
    (tracks_pauseKbd sent _ .timeout c)

theorem tracks_onKbdBlReq (sent : Bool) (up : BlUpd) (c : KbdCtx) : Tracks Q c (onKbdBlReq sent up c) :=
  Tracks.ite (tracks_setKeyboardLevel sent _ c) (.refl c)

theorem tracks_onKbdToReq (sent : Bool) (up : TimeoutUpd) (c : KbdCtx) :
    Tracks Q c (onKbdToReq sent up c) := by
  unfold onKbdToReq
  split
  · exact .refl c
  · next ac _ =>
    have hstore : Tracks Q c { c with cf := { c.cf with kbd := { c.cf.kbd with
        timeout := Function.update c.cf.kbd.timeout ac up.new } } } := Tracks.of_eq rfl rfl
    exact Tracks.ite (hstore.trans (tracks_setKeyboardTimeout sent _)) hstore

theorem tracks_onCurveReq (fit : Fit) (up : CurveUpd) (c : KbdCtx) : Tracks Q c (onCurveReq fit up c) := by
  unfold onCurveReq
  dsimp only
  split
  · exact Tracks.of_eq rfl rfl
  · exact .refl c

theorem tracks_onScreenBlUpdate (up : BlUpd) (c : KbdCtx) : Tracks Q c (onScreenBlUpdate up c) := by
  unfold onScreenBlUpdate
  split
  · exact .refl c
  · exact Tracks.ite ((Tracks.withLoc _ c).publish .kbdBlReqStatic) (.refl c)

theorem tracks_handle (fit : Fit) (sent : Bool) (m : Msg) (c : KbdCtx) :
    Tracks Q c (handle fit sent m c) := by
  have hstatic (c : KbdCtx) : Tracks Q c (onKbdBlReq sent c.loc.kbdReq
      { c with loc := { c.loc with kbdReq := (validateBacklight c.cf c.st c.loc.kbdReq).1 } }) :=
    (Tracks.withLoc _ c).trans (tracks_onKbdBlReq sent _ _)
  unfold handle
  split
  · unfold receiveWaitingInit
    split
    · exact (Tracks.withLoc _ c).trans (tracks_setKeyboardTimeout sent _)
    · exact .refl c
  · unfold receivePaused
    split
    · exact tracks_pauseKbd sent _ .display c
    · exact tracks_setKeyboardTimeout sent c
    · exact tracks_pauseKbd sent _ .suspend c
    · exact tracks_onCurveReq fit _ c
    · exact .refl c
  · unfold receive
    split
    · exact tracks_onScreenBlUpdate _ c
    · exact tracks_onKbdBlReq sent _ c
    · exact hstatic c
    · exact tracks_onKbdToReq sent _ c
    · exact tracks_pauseKbd sent _ .display c
    · exact tracks_setKeyboardTimeout sent c
    · exact tracks_pauseKbd sent _ .suspend c
    · exact tracks_onCurveReq fit _ c
    · exact .refl c

end Keyboard

namespace Gamma

/-- A new target is only announced; Clightd tells of the temperature itself. -/
theorem tracks_setTemp (r : GammaReplies) (temp : ℤ) (now : Option ℤ) (smooth step timeout : ℤ)
    (c : GammaCtx) : Tracks Q c (setTemp r temp now smooth step timeout c) := by
  have hset (c c' : GammaCtx) (hst : c'.st = c.st) (hout : c'.out = c.out) (b : Bool) (t sm sp tm : ℤ) :
      Tracks Q c (if b then publishTempUpd t sm sp tm c' else c') := by
    have hsame : Tracks Q c c' := Tracks.of_eq hst hout
    exact (hsame.publish _).ite hsame
  unfold setTemp
  dsimp only
  apply hset
  · split_ifs <;> rfl
  · split_ifs <;> rfl

theorem tracks_setTempConf (r : GammaReplies) (temp : ℤ) (now : Option ℤ) (c : GammaCtx) :
    Tracks Q c (setTempConf r temp now c) := tracks_setTemp ..

theorem tracks_ambientCallback (r : GammaReplies) (smooth : Bool) (new : ℚ) (c : GammaCtx) :
    Tracks Q c (ambientCallback r smooth new c) :=
  Tracks.ite (tracks_setTempConf r _ none c) (.refl c)

theorem tracks_subscript (i : ℤ) (c : GammaCtx) : Tracks Q c (subscript i c) := Tracks.of_eq rfl rfl

theorem tracks_withCurrentTemp {f : ℤ → GammaCtx → GammaCtx} (hf : ∀ temp c, Tracks Q c (f temp c))
    (c : GammaCtx) : Tracks Q c (withCurrentTemp f c) :=
  withCurrentTemp_ind (P := Tracks Q c) (fun temp => (tracks_subscript _ c).trans (hf temp _))
    (tracks_subscript _ c)

theorem tracks_onDaytimeReq (r : GammaReplies) (c : GammaCtx) : Tracks Q c (onDaytimeReq r c) := by
  have hset (l : Gamma) :
      Tracks Q c (withCurrentTemp (fun temp => setTempConf r temp (some r.now)) { c with loc := l }) :=
    (Tracks.withLoc l c).trans (tracks_withCurrentTemp (fun _ _ => tracks_setTempConf r _ _ _) _)
  unfold onDaytimeReq
  dsimp only
  split_ifs
  · exact hset _
  · exact Tracks.withLoc _ c
  · exact hset _
  · exact Tracks.withLoc _ c

theorem tracks_onAmbgammaReq (r : GammaReplies) (new : Bool) (c : GammaCtx) :
    Tracks Q c (onAmbgammaReq r new c) := by
  have hstore : Tracks Q c (setAmbientGamma new c) := Tracks.of_eq rfl rfl
  exact Tracks.ite (hstore.trans (tracks_ambientCallback r true _ _))
    (hstore.trans (tracks_withCurrentTemp (fun _ _ => tracks_setTempConf r _ none _) _))

theorem tracks_interfaceCallback (r : GammaReplies) (d : DayState) (req : TempUpd) (c : GammaCtx) :
    Tracks Q c (interfaceCallback r d req c) := by
  have hstore : Tracks Q c (storeTemp d req.new (subscript d.toInt c)) := Tracks.of_eq rfl rfl
  exact Tracks.ite (hstore.trans (tracks_setTemp r _ none _ _ _ _))
    (hstore.trans (tracks_ambientCallback r true _ _))

theorem tracks_validateSubscript (up : TempUpd) (c : GammaCtx) : Tracks Q c (validateSubscript up c) := by
  obtain ⟨calls, heq⟩ := validateSubscript_eq up c
  rw [heq]
  exact Tracks.of_eq rfl rfl

theorem tracks_onTempReq (r : GammaReplies) (sender : ModName) (up : TempUpd) (c : GammaCtx) :
    Tracks Q c (onTempReq r sender up c) := by
  refine (tracks_validateSubscript up c).trans ?_
  unfold onTempReq
  dsimp only
  rw [acceptTemp_validateSubscript]
  split
  · exact Tracks.ite ((tracks_onDaytimeReq r _)) (tracks_interfaceCallback r _ _ _)
  · exact .refl _

theorem tracks_pauseMod (r : GammaReplies) (pause : Bool) (reason : ModPause) (c : GammaCtx) :
    Tracks Q c (pauseMod r pause reason c) := by
  have hmask := Tracks.withLoc (Q := Q) { c.loc with paused := (modCheckPause pause reason c.loc.paused).1 } c
  have hresume := hmask.trans (Tracks.withLoc { c.loc with
    paused := (modCheckPause pause reason c.loc.paused).1
    stack := unbecome c.loc.stack } _)
  refine Tracks.ite (Tracks.ite (hmask.trans (Tracks.withLoc _ _)) (Tracks.ite ?_ hresume)) hmask
  exact (hresume.trans (Tracks.withLoc _ _)).trans (tracks_onDaytimeReq r _)

theorem tracks_methodToggleGamma (r : GammaReplies) (c : GammaCtx) :
    Tracks Q c (methodToggleGamma r c) := by
  have htoggle (temp : ℤ) (c : GammaCtx) : Tracks Q c
      (setTemp r temp none 0 0 0 { c with loc := { c.loc with isToggled := !c.loc.isToggled } }) :=
    (Tracks.withLoc _ c).trans (tracks_setTemp r _ none 0 0 0 _)
  exact Tracks.ite (tracks_withCurrentTemp htoggle c) ((tracks_subscript _ c).trans (htoggle _ _))

theorem tracks_onTempChanged (new : ℤ) (c : GammaCtx) : Tracks Q c (onTempChanged new c) := by
  refine .write .temp rfl ?_ rfl
  intro q hq pm
  cases q <;> first | rfl | exact absurd rfl hq

theorem tracks_receivePaused (r : GammaReplies) (m : Msg) (c : GammaCtx) :
    Tracks Q c (receivePaused r m c) := by
  unfold receivePaused
  split
  · next sender up =>
    have hvalid := tracks_validateSubscript (Q := Q) up c
    dsimp only
    split_ifs
    · exact hvalid.trans (Tracks.withLoc _ _)
    · exact hvalid
  · exact Tracks.withLoc _ c
  · exact tracks_pauseMod r _ .suspend c
  · exact .refl c

theorem tracks_receive (r : GammaReplies) (m : Msg) (c : GammaCtx) : Tracks Q c (receive r m c) := by
  unfold receive
  split
  · exact tracks_ambientCallback r _ _ c
  · exact tracks_onTempReq r _ _ c
  · exact (tracks_onAmbgammaReq r _ c).ite (.refl c)
  · exact Tracks.withLoc _ c
  · exact tracks_pauseMod r _ .suspend c
  · exact (tracks_setTemp r _ none 0 0 0 c).ite (.refl c)
  · exact .refl c

theorem tracks_handle (r : GammaReplies) (m : Msg) {c c' : GammaCtx} (h : handle r m c = some c') :
    Tracks Q c c' := by
  unfold handle at h
  rcases hstack : c.loc.stack with _ | ⟨recv, rest⟩
  · rw [hstack] at h
    obtain rfl := Option.some.inj h
    exact tracks_receive r m c
  · rw [hstack] at h
    cases recv with
    | paused =>
      obtain rfl := Option.some.inj h
      exact tracks_receivePaused r m c
    | waitingDaytime =>
      -- the daytime starts GAMMA, or makes it leave
      cases m with
      | daytimeUpd old new =>
        dsimp only at h
        split_ifs at h
        obtain rfl := Option.some.inj h
        exact Tracks.withLoc _ c
      | _ =>
        obtain rfl := Option.some.inj h
        exact .refl c

end Gamma

/-! ### DISPLAY, INHIBIT and UPOWER -/

namespace Display

/-- Whatever is asked of the display, only its state changes. -/
theorem change_eq (new : ℤ) (noBacklight : Bool) (c : DisplayCtx) :
    (∃ d, (change new noBacklight c).st = { c.st with displayState := d }) ∧
      ∀ m ∈ c.out, m ∈ (change new noBacklight c).out := by
  unfold change
  split_ifs
  · unfold onDimmed
    dsimp only
    split_ifs
    · exact ⟨⟨_, rfl⟩, fun _ => List.mem_append_left _⟩
    · exact ⟨⟨_, rfl⟩, fun _ => id⟩
  · unfold onOff
    dsimp only
    split_ifs
    · exact ⟨⟨_, rfl⟩, fun _ => id⟩
    · exact ⟨⟨_, rfl⟩, fun _ => id⟩
  · have hoff : (∃ d, (leaveOff noBacklight c).st = { c.st with displayState := d }) ∧
        (leaveOff noBacklight c).out = c.out := by
      unfold leaveOff
      dsimp only
      split_ifs <;> exact ⟨⟨_, rfl⟩, rfl⟩
    obtain ⟨⟨d, hst⟩, hout⟩ := hoff
    rw [← hout]
    unfold leaveDimmed
    dsimp only
    split_ifs
    · refine ⟨⟨d &&& ~~~displayDimmed, ?_⟩, fun _ => List.mem_append_left _⟩
      change (leaveOff noBacklight c).st.clearDisplay displayDimmed = _
      rw [State.clearDisplay, hst]
    · refine ⟨⟨d &&& ~~~displayDimmed, ?_⟩, fun _ => id⟩
      change (leaveOff noBacklight c).st.clearDisplay displayDimmed = _
      rw [State.clearDisplay, hst]
    · exact ⟨⟨d, hst⟩, fun _ => id⟩

theorem tracks_onDisplayReq (new : ℤ) (noBacklight : Bool) (c : DisplayCtx) :
    Tracks Q c (onDisplayReq new noBacklight c) := by
  obtain ⟨⟨d, hst⟩, hgrows⟩ := change_eq new noBacklight c
  refine Tracks.ite ⟨fun m hm => List.mem_append_left _ (hgrows m hm), ?_⟩ (.refl c)
  intro p pm
  by_cases hp : p = .displayState
  · refine .inr (.inl ⟨_, List.mem_append_right _ (List.mem_singleton_self _), ?_⟩)
    rw [hp]
    rfl
  · left
    change p.get (change new noBacklight c).st pm = p.get c.st pm
    rw [hst]
    cases p <;> first | rfl | exact absurd rfl hp

end Display

namespace Inhibit

theorem tracks_next (c : InhibitCtx) (r : FlagReq) : Tracks Q c (next c r) := by
  have hnext : next c r = onInhibitReq r.new r.force c := rfl
  rw [hnext, onInhibitReq_eq]
  split_ifs with hflag
  · refine .of_st ?_ fun _ => id
    rw [setCounted, hflag]
  · refine .write .inhibited rfl ?_ rfl
    intro q hq pm
    cases q <;> first | rfl | exact absurd rfl hq

end Inhibit

namespace Upower

theorem tracks_onUpowerChange (r : UpowerReplies) (c : UpowerCtx) : Tracks Q c (onUpowerChange r c) := by
  have hupower (new : ℤ) (c : UpowerCtx) : Tracks Q c (publishUpower new c) :=
    (Tracks.withLoc _ c).publish _
  have hlid (new : Bool) (c : UpowerCtx) : Tracks Q c (publishLid new c) := (Tracks.withLoc _ c).publish _
  have hinh (new : Bool) (c : UpowerCtx) : Tracks Q c (publishInh new c) := (Tracks.withLoc _ c).publish _
  have hbattery : Tracks Q c (checkBattery r c) := by
    unfold checkBattery
    split
    · exact (hupower _ c).ite (.refl c)
    · exact .refl c
  have hclosed (c : UpowerCtx) : Tracks Q c (checkLid r c) :=
    (((hinh _ c).trans (hlid _ _)).ite (hlid _ c)).ite (.refl c)
  exact hbattery.trans (hclosed (checkBattery r c))

theorem tracks_acState (ac : AcState) (c : UpowerCtx) : Tracks Q c
    { Ctx.publish (.upowerUpd c.st.acState ac) c with st := { c.st with acState := some ac } } := by
  refine .write .acState rfl ?_ rfl
  intro q hq pm
  cases q <;> first | rfl | exact absurd rfl hq

/-- The message may say closed for docked, but it names the property. -/
theorem tracks_lidState (lid : LidState) (c : UpowerCtx) : Tracks Q c
    { Ctx.publish (lidMsg c.st lid) c with st := { c.st with lidState := some lid } } := by
  refine .write .lidState rfl ?_ rfl
  intro q hq pm
  cases q <;> first | rfl | exact absurd rfl hq

theorem tracks_onLoopStarted (ping matched : Bool) (r : UpowerReplies) (c : UpowerCtx) :
    Tracks Q c (onLoopStarted ping matched r c) := by
  have hfirst : Tracks Q c (if ping then onUpowerChange r c else c) :=
    (tracks_onUpowerChange r c).ite (.refl c)
  refine hfirst.trans ?_
  unfold onLoopStarted
  dsimp only
  generalize (if ping then onUpowerChange r c else c) = c₁
  split_ifs
  · exact Tracks.withLoc _ c₁
  · exact ((tracks_acState .onAc c₁).trans (tracks_lidState .opened _)).trans (Tracks.withLoc _ _)

theorem tracks_receive (ping matched : Bool) (r : UpowerReplies) (m : Msg) (c : UpowerCtx) :
    Tracks Q c (receive ping matched r m c) := by
  have hac (new : ℤ) : Tracks Q c (onUpowerReq new c) := by
    unfold onUpowerReq
    split
    · exact (tracks_acState _ c).ite (.refl c)
    · exact .refl c
  have hlid (new : ℤ) : Tracks Q c (onLidReq new c) := by
    unfold onLidReq
    split
    · exact (tracks_lidState _ c).ite (.refl c)
    · exact .refl c
  unfold receive
  split
  · exact tracks_onLoopStarted ping matched r c
  · exact hac _
  · exact hac _
  · exact hlid _
  · exact hlid _
  · exact .refl c

end Upower

/-! ### DAYTIME -/

namespace Daytime

/-- The temperature of the daytime is asked for, not written. -/
theorem tracks_requestTemp (c : DaytimeCtx) : Tracks Q c (requestTemp c) := by
  unfold requestTemp
  split
  · refine Tracks.ite (.refl c) (.publish _ ?_)
    exact Tracks.of_eq rfl rfl
  · exact .refl c

theorem tracks_publishChange {α : Type} [DecidableEq α] (mk : Option α → α → Msg) (old new : Option α)
    (c : DaytimeCtx) : Tracks Q c (publishChange mk old new c) := by
  unfold publishChange
  split
  · exact (Tracks.refl c).ite (.publish _ (.refl c))
  · exact .refl c

theorem mem_publishChange {α : Type} [DecidableEq α] (mk : Option α → α → Msg) (old : Option α) (v : α)
    (c : DaytimeCtx) : some v = old ∨ mk old v ∈ (publishChange mk old (some v) c).out := by
  by_cases h : old = some v
  · exact .inl h.symm
  · unfold publishChange
    dsimp only
    rw [if_neg h]
    exact .inr (List.mem_append_right _ (List.mem_singleton_self _))

/-- What the evaluation writes is announced where it differs from the old state. -/
theorem announce_tells (old : State) {c : DaytimeCtx} {d : DayState} {e : DayEvent}
    (hday : c.st.dayTime = some d) (hnext : c.st.nextEvent = some e) :
    (c.st.dayTime = old.dayTime ∨ .daytimeUpd old.dayTime d ∈ (announce old c).out) ∧
      (c.st.nextEvent = old.nextEvent ∨ .nextDayevtUpd old.nextEvent e ∈ (announce old c).out) ∧
      (c.st.inEvent = old.inEvent ∨ .inEventUpd old.inEvent c.st.inEvent ∈ (announce old c).out) := by
  rw [hday, hnext]
  unfold announce
  rw [hday]
  have hday' := mem_publishChange .daytimeUpd old.dayTime d c
  have hst := (same_publishChange .daytimeUpd old.dayTime (some d) c).st
  generalize publishChange .daytimeUpd old.dayTime (some d) c = c₁ at hday' hst
  dsimp only
  rw [hst, hnext]
  have hnext' := mem_publishChange .nextDayevtUpd old.nextEvent e c₁
  have hgrows₂ : ∀ m ∈ c₁.out, m ∈ (publishChange .nextDayevtUpd old.nextEvent (some e) c₁).out :=
    (tracks_publishChange (Q := Property.Reset) .nextDayevtUpd old.nextEvent (some e) c₁).grows
  have hst₂ := (same_publishChange .nextDayevtUpd old.nextEvent (some e) c₁).st
  generalize publishChange .nextDayevtUpd old.nextEvent (some e) c₁ = c₂ at hnext' hgrows₂ hst₂
  rw [hst₂, hst]
  have hgrows₃ : ∀ m ∈ c₂.out, m ∈ (if old.inEvent = c.st.inEvent then c₂
      else c₂.publish (.inEventUpd old.inEvent c.st.inEvent)).out :=
    ((Tracks.refl (Q := Property.Reset) c₂).ite (.publish _ (.refl c₂))).grows
  have hev : c.st.inEvent = old.inEvent ∨ .inEventUpd old.inEvent c.st.inEvent ∈
      (if old.inEvent = c.st.inEvent then c₂
        else c₂.publish (.inEventUpd old.inEvent c.st.inEvent)).out := by
    split_ifs with h
    · exact .inl h.symm
    · exact .inr (List.mem_append_right _ (List.mem_singleton_self _))
  generalize (if old.inEvent = c.st.inEvent then c₂
    else c₂.publish (.inEventUpd old.inEvent c.st.inEvent)) = c₃ at hgrows₃ hev
  have hgrows₄ : ∀ m ∈ c₃.out, m ∈ (requestTemp c₃).out :=
    (tracks_requestTemp (Q := Property.Reset) c₃).grows
  refine ⟨hday'.imp_right fun hm => ?_, hnext'.imp_right fun hm => ?_, hev.imp_right fun hm => ?_⟩
  · exact hgrows₄ _ (hgrows₃ _ (hgrows₂ _ hm))
  · exact hgrows₄ _ (hgrows₃ _ hm)
  · exact hgrows₄ _ hm

theorem tracks_announce (old : State) (c : DaytimeCtx) : Tracks Q c (announce old c) := by
  unfold announce
  have hev (c : DaytimeCtx) : Tracks Q c (if old.inEvent = c.st.inEvent then c
      else c.publish (.inEventUpd old.inEvent c.st.inEvent)) := (Tracks.refl c).ite (.publish _ (.refl c))
  exact (tracks_publishChange _ _ _ c).trans ((tracks_publishChange _ _ _ _).trans
    ((hev _).trans (tracks_requestTemp _)))

theorem evaluate_st (now : ℤ) (c : DaytimeCtx) : ∃ d e v r, (evaluate now c).st =
    { c.st with dayTime := d, nextEvent := e, inEvent := v, eventTimeRange := r } := by
  unfold evaluate checkState
  dsimp only
  split_ifs <;> exact ⟨_, _, _, _, rfl⟩

theorem tracks_evaluate (now : ℤ) (c : DaytimeCtx) :
    Tracks (fun p _ => p ∈ [.dayTime, .nextEvent, .inEvent]) c (evaluate now c) := by
  obtain ⟨d, e, v, r, hst⟩ := evaluate_st now c
  refine .exempt (evaluate_out now c) ?_
  intro p pm
  rw [hst]
  cases p <;> first | exact .inl rfl | exact .inr (by decide)

theorem tracks_storeEvents (sun : Calcs) (now dayshift : ℤ) (c : DaytimeCtx) :
    Tracks Q c (storeEvents sun now dayshift c) where
  grows m hm := by
    rw [storeEvents_out]
    exact List.mem_append_left _ hm
  told p pm := by
    rw [storeEvents_out]
    cases p with
    | sunrise => exact .inr (.inl ⟨_, List.mem_append_right _ (List.mem_cons_self ..), rfl⟩)
    | sunset =>
      refine .inr (.inl ⟨.sunsetUpd (c.st.dayEvents .sunset) (sunTimes sun now dayshift .sunset),
        List.mem_append_right _ ?_, rfl⟩)
      exact List.mem_cons_of_mem _ (List.mem_singleton_self _)
    | _ => exact .inl rfl

theorem tracks_checkDaytime {sun : Calcs} {t : ℤ} {fuel : ℕ} {c c' : DaytimeCtx}
    (h : checkDaytime sun t fuel c = some c') : Tracks Q c c' := by
  obtain ⟨c₁, hrun, rfl⟩ := Option.map_eq_some_iff.mp h
  have hevents : Tracks (fun p _ => p ∈ [.dayTime, .nextEvent, .inEvent]) c c₁ ∧
      (∃ d, c₁.st.dayTime = some d) ∧ ∃ e, c₁.st.nextEvent = some e := by
    rcases getNextEvents_cases hrun with ⟨-, rfl⟩ | ⟨k, -, rfl⟩
    · exact ⟨tracks_evaluate t c, ⟨_, evaluate_dayTime t c⟩, ⟨_, evaluate_nextEvent t c⟩⟩
    · exact ⟨(tracks_storeEvents sun t k c).trans (tracks_evaluate t _), ⟨_, evaluate_dayTime t _⟩,
        ⟨_, evaluate_nextEvent t _⟩⟩
  obtain ⟨htracks, ⟨d, hday⟩, e, hnext⟩ := hevents
  obtain ⟨hday', hnext', hev⟩ := announce_tells c.st hday hnext
  have hafter := htracks.trans (tracks_announce c.st c₁)
  have hst := (same_announce c.st c₁).st
  refine ⟨hafter.grows, ?_⟩
  intro p pm
  rcases hafter.told p pm with hsame | htold | hmem
  · exact .inl hsame
  · exact .inr (.inl htold)
  · -- the three that the evaluation writes are announced at the end
    change p.get (announce c.st c₁).st pm = _ ∨ (∃ m ∈ (announce c.st c₁).out, _) ∨ _
    rw [hst]
    refine or_assoc.mp (.inl ?_)
    cases p with
    | dayTime => exact hday'.imp_right fun hm => ⟨_, hm, rfl⟩
    | nextEvent => exact hnext'.imp_right fun hm => ⟨_, hm, rfl⟩
    | inEvent => exact hev.imp_right fun hm => ⟨_, hm, rfl⟩
    | _ => simp at hmem

/-- A reset forgets the sunset in silence: the timer that it arms stores the next one. -/
theorem tracks_resetDaytime (h0 : Q .sunset (0 : ℤ)) (c : DaytimeCtx) : Tracks Q c (resetDaytime c) := by
  refine .exempt rfl ?_
  intro p pm
  cases p with
  | sunset => exact .inr h0
  | _ => exact .inl rfl

end Daytime
end Clight
