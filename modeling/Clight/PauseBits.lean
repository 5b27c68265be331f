import Clight.BacklightSpec
import Clight.ScreenFrame

/-! The pause reasons that mirror the global state: DISPLAY, SUSPEND and INHIBIT. Their bits
change only when the message comes that announces a change of the state. -/
namespace Clight

/-- The part of the state that these reasons mirror; no pausable module writes it. -/
def State.facts (st : State) : DisplayState × Bool × Bool :=
  (st.displayState, st.suspended, st.inhibited)

def factReasons : List ModPause := [.display, .suspend, .inhibit]

def State.fact (st : State) : ModPause → Bool
  | .display => st.displayBusy
  | .suspend => st.suspended
  | .inhibit => st.inhibited
  | _ => false

theorem State.fact_congr {st st' : State} (h : st'.facts = st.facts) (r : ModPause) :
    st'.fact r = st.fact r := by
  have hdisplay : st'.displayState = st.displayState := congrArg (fun f => f.1) h
  have hsuspended : st'.suspended = st.suspended := congrArg (fun f => f.2.1) h
  have hinhibited : st'.inhibited = st.inhibited := congrArg (fun f => f.2.2) h
  cases r with
  | display => exact congrArg (fun d => decide (d ≠ displayOn)) hdisplay
  | suspend => exact hsuspended
  | inhibit => exact hinhibited
  | _ => rfl

/-- The update that announces a change of a fact. -/
def Msg.announces (r : ModPause) : Msg → Bool
  | .displayUpd _ _ => r = .display
  | .suspendUpd _ _ => r = .suspend
  | .inhibitUpd _ _ => r = .inhibit
  | _ => false

/-- CHECK_PAUSE on the announced reason, as seen at any reason. -/
theorem Msg.has_announced {m : Msg} {reason q : ModPause} (hm : m.announces reason = decide (reason = q))
    (on : ModPause → Bool) (was : Bool) :
    (if q = reason then on q else was) = if m.announces reason then on reason else was := by
  rw [hm]
  by_cases hq : q = reason
  · subst hq
    simp
  · have hq' : reason ≠ q := fun h => hq h.symm
    simp [hq, hq']

/-- What the fact is to BACKLIGHT and SCREEN, which an inhibition pauses only on request. -/
def heardBl (st : State) (cf : Conf) : ModPause → Bool
  | .inhibit => st.inhibited && cf.inh.inhibitBl
  | r => st.fact r

/-! ### BACKLIGHT -/

namespace Backlight

theorem pauseIf_has (on : Bool) (reason r : ModPause) (c : BlCtx) :
    (pauseIf on reason c).loc.paused.has r = if reason = r then on else c.loc.paused.has r := by
  unfold pauseIf
  cases on with
  | true => exact modCheckPause_has true reason r c.loc.paused
  | false => exact modCheckPause_has false reason r c.loc.paused

@[simp] theorem pauseIf_st (on : Bool) (reason : ModPause) (c : BlCtx) :
    (pauseIf on reason c).st = c.st := by
  unfold pauseIf
  cases on with
  | true => rfl
  | false => rfl

@[simp] theorem resetOrPause_st (old : ℤ) (reset : Bool) (c : BlCtx) :
    (resetOrPause old reset c).st = c.st := by
  unfold resetOrPause
  dsimp only
  split_ifs <;> rfl

@[simp] theorem onLidUpdate_st (c : BlCtx) : (onLidUpdate c).st = c.st := by
  unfold onLidUpdate
  dsimp only
  split_ifs <;> rfl

@[simp] theorem onBlToReq_st (up : TimeoutUpd) (c : BlCtx) : (onBlToReq up c).st = c.st := by
  unfold onBlToReq interfaceTimeoutCallback
  dsimp only
  split
  · split
    · rfl
    · split_ifs
      · exact resetOrPause_st _ true _
      · rfl
  · rfl

@[simp] theorem onNoAutocalibReq_st (new : Bool) (c : BlCtx) : (onNoAutocalibReq new c).st = c.st := by
  unfold onNoAutocalibReq
  split_ifs
  · exact pauseIf_st new .autocalib _
  · rfl

@[simp] theorem onCurveReq_st (fit : Fit) (up : CurveUpd) (c : BlCtx) :
    (onCurveReq fit up c).st = c.st := by
  unfold onCurveReq
  dsimp only
  split_ifs
  · split
    · rfl
    · rfl
  · rfl

@[simp] theorem setBacklightLevel_st (r : BlReplies) (pct : ℚ) (isSmooth : Bool) (step : ℚ)
    (timeout : ℤ) (c : BlCtx) : (setBacklightLevel r pct isSmooth step timeout c).st = c.st := by
  unfold setBacklightLevel
  dsimp only
  split_ifs <;> rfl

@[simp] theorem onBlReq_st (r : BlReplies) (accept : Bool) (up : BlUpd) (c : BlCtx) :
    (onBlReq r accept up c).st = c.st := by
  unfold onBlReq
  dsimp only
  split_ifs
  · exact setBacklightLevel_st r _ _ _ _ c
  · rfl

@[simp] theorem setNewBacklight_st (c : BlCtx) : (setNewBacklight c).st = c.st := by
  obtain ⟨new, out, -, heq⟩ := setNewBacklight_eq c
  rw [heq]
  rfl

theorem doCapture_facts (r : BlReplies) (reset captureOnly : Bool) (c : BlCtx) :
    (doCapture r reset captureOnly c).st.facts = c.st.facts := by
  have hlevel (c : BlCtx) : (setNewBacklight c).st.facts = c.st.facts := by rw [setNewBacklight_st]
  exact doCapture_of_steps (Q := fun c c' => c'.st.facts = c.st.facts) (fun _ => rfl)
    (fun _ _ _ h h' => h'.trans h) (fun _ _ => rfl) hlevel (fun _ _ => rfl) r reset captureOnly c

theorem onSensorChange_facts (r : BlReplies) (c : BlCtx) :
    (onSensorChange r c).st.facts = c.st.facts := by
  unfold onSensorChange
  dsimp only
  split_ifs <;> rfl

theorem onBlChanged_facts (mon : MonId) (pct : ℚ) (c : BlCtx) :
    (onBlChanged mon pct c).st.facts = c.st.facts := by
  unfold onBlChanged
  dsimp only
  split_ifs <;> rfl

theorem scheduleSync_st (c : BlCtx) : (scheduleSync c).st = c.st := by
  unfold scheduleSync
  split_ifs <;> rfl

theorem onInterfaceRemoved_st {mon : MonId} {c c' : BlCtx} (h : onInterfaceRemoved mon c = some c') :
    c'.st = c.st := by
  unfold onInterfaceRemoved at h
  split at h
  · cases h
  · obtain rfl := Option.some.inj h
    exact scheduleSync_st _

/-- No message makes a running BACKLIGHT write the facts. -/
theorem handle_facts (fit : Fit) (r : BlReplies) (m : Msg) {c : BlCtx} (h : Running c.loc) :
    (handle fit r m c).st.facts = c.st.facts := by
  have hscr : ∀ b : Bool, (if b then c else setNewBacklight c).st.facts = c.st.facts := by
    intro b
    cases b with
    | true => rfl
    | false => exact congrArg State.facts (setNewBacklight_st c)
  have hcap : ∀ (b reset only : Bool),
      (if b then doCapture r reset only c else c).st.facts = c.st.facts := by
    intro b reset only
    cases b with
    | true => exact doCapture_facts r reset only c
    | false => rfl
  have hstop : (onLoopStopped c).st = c.st := by
    unfold onLoopStopped
    split_ifs <;> rfl
  have hcase := handle_of_running fit r m h
  cases m
  all_goals rcases hcase with he | he
  all_goals rw [he]
  case fdUpd.inl fd => cases fd <;> rfl
  case systemUpd.inl sm =>
    cases sm with
    | loopStopped => exact congrArg State.facts hstop
    | _ => rfl
  case systemUpd.inr sm =>
    cases sm with
    | loopStopped => exact congrArg State.facts hstop
    | _ => rfl
  case screenBrUpd.inl => exact congrArg State.facts (setNewBacklight_st c)
  case screenBrUpd.inr => exact hscr _
  case captureReq.inl => exact doCapture_facts r _ _ c
  case captureReq.inr => exact hcap _ _ _
  case captureReqStatic.inl => exact doCapture_facts r _ _ c
  case captureReqStatic.inr => exact hcap _ _ _
  case blReqStatic.inl => exact congrArg State.facts (onBlReq_st r true _ _)
  case blReqStatic.inr => exact congrArg State.facts (onBlReq_st r _ _ _)
  -- what is left writes no state at all
  all_goals simp [receive, receivePaused, upowerCallback, setBlFd, dimmedCallback, timeCallback,
    suspendedCallback, inhibitCallback, onDelayedInterface, readDelayed]

theorem startup_facts (r : BlReplies) (c : BlCtx) : (startup r c).st.facts = c.st.facts := by
  have hcal : ∀ c' : BlCtx, (if c'.cf.bl.noAutoCalib then
      pauseMod .autocalib (setBacklightLevel r 1 (!c'.cf.bl.smooth.noSmooth) 0 0 c')
        else c').st = c'.st := by
    intro c'
    split_ifs
    · exact setBacklightLevel_st r 1 _ 0 0 c'
    · rfl
  have hlid : ∀ c' : BlCtx, (if c'.st.lidShut then onLidUpdate c' else c').st = c'.st := by
    intro c'
    split_ifs
    · exact onLidUpdate_st c'
    · rfl
  unfold startup
  dsimp only
  rw [hlid, hcal, onSensorChange_facts, resetOrPause_st]

/-! The bits. -/

/-- A message to a running BACKLIGHT sets the bit that it announces, and leaves the others
alone. -/
theorem handle_bit (fit : Fit) (r : BlReplies) (m : Msg) {c : BlCtx} (h : Running c.loc)
    {reason : ModPause} (hr : reason ∈ factReasons) :
    (handle fit r m c).loc.paused.has reason =
      if m.announces reason then heardBl c.st c.cf reason else c.loc.paused.has reason := by
  have hcase := handle_of_running fit r m h
  -- callbacks of other reasons are within frames that do not name this one
  have hkeep : ∀ {R : List ModPause} {c₀ c' : BlCtx}, Frame R (fun _ => True) c₀ c' →
      c₀.loc = c.loc → (∀ q ∈ R, q ∉ factReasons) →
        c'.loc.paused.has reason = c.loc.paused.has reason := by
    intro R c₀ c' hf hloc hR
    have hbit := hf.has reason fun hmem => hR reason hmem hr
    rw [hloc] at hbit
    exact hbit
  have hupd : ∀ q : ModPause, handle fit r m c = pauseIf (heardBl c.st c.cf q) q c →
      m.announces reason = decide (reason = q) → (handle fit r m c).loc.paused.has reason =
        if m.announces reason then heardBl c.st c.cf reason else c.loc.paused.has reason := by
    intro q he hm
    rw [he, pauseIf_has]
    exact Msg.has_announced hm (heardBl c.st c.cf) _
  have hdel : Frame [] (fun _ => True) c (onDelayedInterface (readDelayed c)) :=
    Frame.trans (frame_local { c.loc with delayedFd := c.loc.delayedFd.read } rfl rfl rfl)
      (frame_onDelayedInterface (fun _ _ => trivial) (fun _ => trivial) _)
  have hbr : Frame [] (fun _ => True) c (setNewBacklight c) := frame_setNewBacklight trivial c
  have hcap : ∀ reset only : Bool, Frame [] (fun _ => True) c (doCapture r reset only c) :=
    fun reset only => frame_doCapture (fun _ _ => trivial) trivial r reset only c
  have hnil : ∀ q ∈ ([] : List ModPause), q ∉ factReasons := by decide
  cases m
  case displayUpd => exact hupd .display (or_self_iff.mp hcase) rfl
  case suspendUpd => exact hupd .suspend (or_self_iff.mp hcase) rfl
  case inhibitUpd => exact hupd .inhibit (or_self_iff.mp hcase) rfl
  all_goals clear hupd
  all_goals change _ = c.loc.paused.has reason
  -- both receivers call the same callback
  case upowerUpd =>
    rw [or_self_iff.mp hcase]
    rfl
  case daytimeUpd old _ =>
    rw [or_self_iff.mp hcase]
    exact hkeep (frame_timeCallback (List.mem_singleton_self _) old false c) rfl (by decide)
  case inEventUpd =>
    rw [or_self_iff.mp hcase]
    exact hkeep (frame_timeCallback (List.mem_singleton_self _) none true c) rfl (by decide)
  case lidUpd =>
    rw [or_self_iff.mp hcase]
    exact hkeep (frame_onLidUpdate (List.mem_singleton_self _) c) rfl (by decide)
  case curveReq up =>
    rw [or_self_iff.mp hcase]
    exact hkeep (frame_onCurveReq fit up c) rfl hnil
  case blToReq up =>
    obtain ⟨t, hf⟩ := frame_onBlToReq (R := [.timeout]) (List.mem_singleton_self _) up c
    rw [or_self_iff.mp hcase]
    exact hkeep hf rfl (by decide)
  case noAutocalibReq new =>
    obtain ⟨b, hf⟩ := frame_onNoAutocalibReq (R := [.autocalib]) (P := fun _ => True)
      (List.mem_singleton_self _) (fun _ => trivial) new c
    rw [or_self_iff.mp hcase]
    exact hkeep hf rfl (by decide)
  case systemUpd sm =>
    cases sm with
    | loopStopped =>
      rw [or_self_iff.mp hcase]
      exact hkeep (frame_onLoopStopped c) rfl hnil
    | _ =>
      rw [or_self_iff.mp hcase]
      rfl
  -- the receivers differ
  all_goals rcases hcase with he | he
  all_goals rw [he]
  case fdUpd.inl fd =>
    cases fd with
    | delayed => exact hkeep hdel rfl hnil
    | _ => exact hkeep (frame_onBlFd trivial c) rfl hnil
  case fdUpd.inr => exact hkeep hdel rfl hnil
  case screenBrUpd.inl => exact hkeep hbr rfl hnil
  case screenBrUpd.inr => exact hkeep ((Frame.refl c).ite hbr) rfl hnil
  case captureReq.inl => exact hkeep (hcap _ _) rfl hnil
  case captureReq.inr => exact hkeep ((hcap _ _).ite (.refl c)) rfl hnil
  case captureReqStatic.inl => exact hkeep (hcap _ _) rfl hnil
  case captureReqStatic.inr => exact hkeep ((hcap _ _).ite (.refl c)) rfl hnil
  case blReq.inl up => exact hkeep (frame_onBlReq (fun _ _ => trivial) r true up c) rfl hnil
  case blReq.inr up => exact hkeep (frame_onBlReq (fun _ _ => trivial) r _ up c) rfl hnil
  case blReqStatic.inl => exact hkeep (frame_onBlReqStatic (fun _ _ => trivial) r true c) rfl hnil
  case blReqStatic.inr => exact hkeep (frame_onBlReqStatic (fun _ _ => trivial) r _ c) rfl hnil
  -- or have no case for the message
  all_goals rfl

/-- A BACKLIGHT that has just started is paused for none of these reasons. -/
theorem startup_bit (r : BlReplies) {c : BlCtx} (hp : c.loc.paused = .unpaused) {reason : ModPause}
    (hr : reason ∈ factReasons) : (startup r c).loc.paused.has reason = false := by
  have hdisj : ∀ q ∈ [ModPause.timeout, .sensor, .autocalib, .lid], q ∉ factReasons := by decide
  have hbit := (frame_startup_all r c).has reason fun hmem => hdisj reason hmem hr
  have hclear : (timerStarted c).loc.paused.has reason = false := by
    change c.loc.paused.has reason = false
    rw [hp, PauseMask.has_unpaused]
  exact hbit.trans hclear

/-- One message to a waiting BACKLIGHT, with respect to the facts. -/
theorem handle_waiting_bits (fit : Fit) (r : BlReplies) (m : Msg) {c : BlCtx} (h : Waiting c.loc)
    (hreg : c.loc.blRegistered = false) :
    (handle fit r m c).st.facts = c.st.facts ∧
      ((Waiting (handle fit r m c).loc ∧ (handle fit r m c).loc.blRegistered = false) ∨
        (started c.cf m c.loc.ok).all = true ∧ Running (handle fit r m c).loc ∧
          ∀ q ∈ factReasons, (handle fit r m c).loc.paused.has q = false) := by
  rcases handle_waiting fit r m h with ⟨hw, he⟩ | ⟨hall, he⟩
  · rw [he]
    exact ⟨rfl, .inl ⟨hw, hreg⟩⟩
  · rw [he]
    refine ⟨startup_facts r (seen m c), .inr ⟨hall, ?_, ?_⟩⟩
    · exact startup_running r (c := seen m c) h.stack h.paused
    · intro q hq
      exact startup_bit r (c := seen m c) h.paused hq

end Backlight

/-! ### SCREEN -/

namespace Screen

theorem pauseScreen_has (pause : Bool) (reason r : ModPause) (b : Bool) (c : ScreenCtx) :
    (pauseScreen pause reason b c).loc.paused.has r =
      if reason = r then pause else c.loc.paused.has r :=
  modCheckPause_has pause reason r c.loc.paused

@[simp] theorem pauseScreen_stack (pause : Bool) (reason : ModPause) (b : Bool) (c : ScreenCtx) :
    (pauseScreen pause reason b c).loc.stack = c.loc.stack := rfl

theorem timeoutCallback_has (old : ℤ) (reset : Bool) (c : ScreenCtx) {r : ModPause}
    (hr : r ≠ .timeout) : (timeoutCallback old reset c).loc.paused.has r = c.loc.paused.has r := by
  have hp : ∀ p b : Bool, (pauseScreen p .timeout b c).loc.paused.has r = c.loc.paused.has r := by
    intro p b
    rw [pauseScreen_has, if_neg hr.symm]
  unfold timeoutCallback
  dsimp only
  split_ifs
  · exact hp true true
  · exact hp false false
  · exact hp false false

theorem getScreenBrightness_loc (reply : Option ℚ) (c : ScreenCtx) :
    (getScreenBrightness reply c).loc.paused = c.loc.paused ∧
      (getScreenBrightness reply c).loc.stack = c.loc.stack := by
  unfold getScreenBrightness
  split
  · cases reply with
    | none => exact ⟨rfl, rfl⟩
    | some br => exact ⟨rfl, rfl⟩
  · exact ⟨rfl, rfl⟩

theorem handle_facts (reply : Option ℚ) (m : Msg) (c : ScreenCtx) :
    (handle reply m c).st.facts = c.st.facts := by
  obtain ⟨br, hst⟩ := (frame_handle reply m c).st
  rw [hst]
  rfl

/-- SCREEN has one receiver, whether it is paused or not. -/
theorem handle_bit (reply : Option ℚ) (m : Msg) {c : ScreenCtx} (h : c.loc.stack = [])
    {reason : ModPause} (hr : reason ∈ factReasons) :
    (handle reply m c).loc.paused.has reason =
        (if m.announces reason then heardBl c.st c.cf reason else c.loc.paused.has reason) ∧
      (handle reply m c).loc.stack = [] := by
  have hdisj : ∀ q ∉ factReasons, q ≠ reason := fun q hq he => hq (he ▸ hr)
  have hne : reason ≠ .timeout := (hdisj .timeout (by decide)).symm
  have hkeep : ∀ (p : Bool) (q : ModPause) (b : Bool) (c' : ScreenCtx), q ∉ factReasons →
      (pauseScreen p q b c').loc.paused.has reason = c'.loc.paused.has reason := by
    intro p q b c' hq
    rw [pauseScreen_has, if_neg (hdisj q hq)]
  have hupd : ∀ (q : ModPause) (b : Bool), handle reply m c = pauseScreen (heardBl c.st c.cf q) q b c →
      m.announces reason = decide (reason = q) → (handle reply m c).loc.paused.has reason =
          (if m.announces reason then heardBl c.st c.cf reason else c.loc.paused.has reason) ∧
        (handle reply m c).loc.stack = [] := by
    intro q b he hm
    rw [he, pauseScreen_has]
    exact ⟨Msg.has_announced hm (heardBl c.st c.cf) _, h⟩
  have he : handle reply m c = receive reply m c := by
    unfold handle
    rw [h]
  cases m
  case displayUpd => exact hupd .display false he rfl
  case suspendUpd => exact hupd .suspend false he rfl
  case inhibitUpd => exact hupd .inhibit true he rfl
  all_goals clear hupd
  all_goals change _ = c.loc.paused.has reason ∧ _
  all_goals rw [he]
  case ambientBrUpd =>
    have hclog := hkeep (decide (c.st.ambientBr < c.cf.bl.shutterThreshold)) .clogged false c (by decide)
    unfold receive onAmbientBr
    dsimp only
    split_ifs
    · obtain ⟨hpaused, hstack⟩ := getScreenBrightness_loc reply
        (pauseScreen (decide (c.st.ambientBr < c.cf.bl.shutterThreshold)) .clogged false c)
      exact ⟨(congrArg (PauseMask.has · reason) hpaused).trans hclog, hstack.trans h⟩
    · exact ⟨hclog, h⟩
  case fdUpd =>
    obtain ⟨hpaused, hstack⟩ := getScreenBrightness_loc reply
      { c with loc := { c.loc with screenFd := c.loc.screenFd.read } }
    exact ⟨congrArg (PauseMask.has · reason) hpaused, hstack.trans h⟩
  case upowerUpd => exact ⟨timeoutCallback_has _ true c hne, (timeoutCallback_stack _ true c).trans h⟩
  case sensUpd => exact ⟨hkeep _ .sensor true c (by decide), h⟩
  case lidUpd =>
    unfold receive
    dsimp only
    split_ifs
    · exact ⟨hkeep _ .lid false c (by decide), h⟩
    · exact ⟨rfl, h⟩
  case scrToReq up =>
    unfold receive onScrToReq
    dsimp only
    split
    · exact ⟨rfl, h⟩
    · split_ifs
      · exact ⟨timeoutCallback_has _ true _ hne, (timeoutCallback_stack _ true _).trans h⟩
      · exact ⟨rfl, h⟩
  case noAutocalibUpd new => exact ⟨hkeep new .autocalib true c (by decide), h⟩
  case contribReq new =>
    unfold receive onContribReq
    dsimp only
    split_ifs
    · exact ⟨hkeep _ .contrib true _ (by decide), h⟩
    · exact ⟨hkeep _ .contrib true _ (by decide), h⟩
    · exact ⟨rfl, h⟩
  all_goals exact ⟨rfl, h⟩

/-- One message to a waiting SCREEN. -/
theorem handle_waiting (reply : Option ℚ) (m : Msg) {c : ScreenCtx}
    (h : c.loc.stack = [.waitingState]) (hp : c.loc.paused = .unpaused) :
    handle reply m c = c ∨ (∃ old new, m = .upowerUpd old new) ∧
      (handle reply m c).loc.stack = [] ∧
      ∀ r ∈ factReasons, (handle reply m c).loc.paused.has r = false := by
  have he : handle reply m c = receiveWaitingState m c := by
    unfold handle
    rw [h]
  rw [he]
  unfold receiveWaitingState
  split
  · refine .inr ⟨⟨_, _, rfl⟩, ?_, ?_⟩
    · rw [pauseScreen_stack, timeoutCallback_stack]
      exact congrArg List.tail h
    · intro r hr
      have hdisj : ∀ q ∉ factReasons, q ≠ r := fun q hq he => hq (he ▸ hr)
      have hne : r ≠ .timeout := (hdisj .timeout (by decide)).symm
      rw [pauseScreen_has, if_neg (hdisj .contrib (by decide)), timeoutCallback_has _ _ _ hne]
      exact (congrArg (PauseMask.has · r) hp).trans (PauseMask.has_unpaused r)
  · exact .inl rfl

end Screen

end Clight
