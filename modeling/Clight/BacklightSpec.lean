import Clight.BacklightFrame

/-! What startup and the callbacks that touch the configuration establish: the
receiver in force, the TIMEOUT and AUTOCALIB reasons, and what is published. -/
namespace Clight.Backlight
variable {R : List ModPause} {P : Msg → Prop}

def TimeoutOk (c : BlCtx) : Prop := c.loc.paused.has .timeout = decide (getCurrentTimeout c ≤ 0)

theorem Frame.timeoutOk {c c' : BlCtx} (h : Frame R P c c') (hr : ModPause.timeout ∉ R)
    (hc : TimeoutOk c) : TimeoutOk c' := by
  rw [TimeoutOk, h.has _ hr, h.currentTimeout]
  exact hc

theorem resetOrPause_timeoutOk (old : ℤ) (reset : Bool) (c : BlCtx) :
    TimeoutOk (resetOrPause old reset c) := by
  have hf := frame_resetOrPause (R := [.timeout]) (P := fun _ => True) (by decide) old reset c
  rw [TimeoutOk, hf.currentTimeout]
  unfold resetOrPause
  dsimp only
  split_ifs with hle hreset
  · simp [pauseMod, modCheckPause_has, hle]
  · simp [setBlFd, resumeMod, modCheckPause_has, hle]
  · simp [resumeMod, modCheckPause_has, hle]

theorem timeCallback_timeoutOk (old : Option DayState) (isEvent : Bool) (c : BlCtx) :
    TimeoutOk (timeCallback old isEvent c) :=
  resetOrPause_timeoutOk _ true c

theorem frame_timeCallback (hr : ModPause.timeout ∈ R) (old : Option DayState) (isEvent : Bool)
    (c : BlCtx) : Frame R P c (timeCallback old isEvent c) :=
  frame_resetOrPause hr _ true c

def withTimeouts (t : AcState → BlTime → ℤ) (c : BlCtx) : BlCtx :=
  { c with cf := { c.cf with bl := { c.cf.bl with timeout := t } } }

theorem frame_onBlToReq (hr : ModPause.timeout ∈ R) (up : TimeoutUpd) (c : BlCtx) :
    ∃ t, Frame R P (withTimeouts t c) (onBlToReq up c) := by
  unfold onBlToReq
  dsimp only
  split
  · unfold interfaceTimeoutCallback
    split
    · exact ⟨c.cf.bl.timeout, .refl c⟩
    · exact ⟨_, (frame_resetOrPause hr _ true _).ite (.refl _)⟩
  · exact ⟨c.cf.bl.timeout, .refl c⟩

theorem timeoutAt_update_other (bl : BlConf) {ac : Option AcState} {t' : Option BlTime}
    {a : AcState} {t : BlTime} (new : ℤ) (h : ¬(ac = some a ∧ t' = some t)) :
    BlConf.timeoutAt
      { bl with timeout := Function.update bl.timeout a (Function.update (bl.timeout a) t new) }
      ac t' = bl.timeoutAt ac t' := by
  cases t' with
  | none => rfl
  | some t' =>
    cases ac with
    | none => rfl
    | some a' =>
      simp only [BlConf.timeoutAt, atAc, Function.update_apply]
      by_cases ha : a' = a
      · subst ha
        have ht : t' ≠ t := fun ht => h ⟨rfl, congrArg some ht⟩
        simp [ht]
      · simp [ha]

/-- interface_timeout_callback re-evaluates the pause whenever it writes the cell in
force, so a write it skips leaves the timeout in force. -/
theorem currentTimeout_update_other {c : BlCtx} {ac : AcState} {t : BlTime} (new : ℤ)
    (h : ¬(c.st.acState = some ac ∧ (c.st.dayTime.map DayState.toBlTime = some t ∨
      c.st.inEvent = true ∧ t = .inEvent))) :
    getCurrentTimeout (withTimeouts (Function.update c.cf.bl.timeout ac
      (Function.update (c.cf.bl.timeout ac) t new)) c) = getCurrentTimeout c := by
  refine timeoutAt_update_other c.cf.bl new ?_
  rintro ⟨hac, ht⟩
  refine h ⟨hac, ?_⟩
  change (if c.st.inEvent then some .inEvent else _) = some t at ht
  by_cases hev : c.st.inEvent = true
  · rw [if_pos hev] at ht
    exact .inr ⟨hev, (Option.some.inj ht).symm⟩
  · rw [if_neg hev] at ht
    exact .inl ht

theorem onBlToReq_timeoutOk (up : TimeoutUpd) {c : BlCtx} (hc : TimeoutOk c) :
    TimeoutOk (onBlToReq up c) := by
  unfold onBlToReq
  dsimp only
  split
  · unfold interfaceTimeoutCallback
    split
    · exact hc
    · dsimp only
      split_ifs with h
      · exact resetOrPause_timeoutOk _ true _
      -- not the cell in force
      · exact hc.trans (congrArg (fun z => decide (z ≤ 0)) (currentTimeout_update_other _ h).symm)
  · exact hc

theorem frame_onNoAutocalibReq (hr : ModPause.autocalib ∈ R) (hP : ∀ b, P (.noAutocalibUpd b))
    (new : Bool) (c : BlCtx) :
    ∃ b, Frame R P { c with cf := { c.cf with bl := { c.cf.bl with noAutoCalib := b } } }
      (onNoAutocalibReq new c) := by
  unfold onNoAutocalibReq
  split
  · exact ⟨new, (frame_pauseIf hr new _).publish (hP new)⟩
  · exact ⟨c.cf.bl.noAutoCalib, .refl c⟩

theorem onNoAutocalibReq_timeoutOk (new : Bool) {c : BlCtx} (hc : TimeoutOk c) :
    TimeoutOk (onNoAutocalibReq new c) := by
  obtain ⟨b, hf⟩ := frame_onNoAutocalibReq (R := [.autocalib]) (P := fun _ => True) (by decide)
    (fun _ => trivial) new c
  exact hf.timeoutOk (by decide) hc

/-- Whatever a running BACKLIGHT receives, it stays in a frame, but for the two options that
requests write. -/
theorem handle_frame (fit : Fit) (r : BlReplies) (m : Msg) {c : BlCtx} (h : Running c.loc) :
    ∃ c₀ : BlCtx, c₀.loc = c.loc ∧ c₀.cf.gamma = c.cf.gamma ∧
      Frame (.timeout :: .autocalib :: otherReasons) (fun _ => True) c₀ (handle fit r m c) := by
  rcases handle_cases fit r m h with ⟨up, -, he⟩ | ⟨new, -, he⟩ | ⟨old, new, -, he⟩ |
    ⟨old, new, -, he⟩ | hf
  · obtain ⟨t, hf⟩ := frame_onBlToReq (R := .timeout :: .autocalib :: otherReasons)
      (P := fun _ => True) (by decide) up c
    exact ⟨withTimeouts t c, rfl, rfl, he ▸ hf⟩
  · obtain ⟨b, hf⟩ := frame_onNoAutocalibReq (R := .timeout :: .autocalib :: otherReasons)
      (P := fun _ => True) (by decide) (fun _ => trivial) new c
    exact ⟨{ c with cf := { c.cf with bl := { c.cf.bl with noAutoCalib := b } } }, rfl, rfl, he ▸ hf⟩
  · exact ⟨c, rfl, rfl, he ▸ frame_timeCallback (by decide) old false c⟩
  · exact ⟨c, rfl, rfl, he ▸ frame_timeCallback (by decide) none true c⟩
  · have hmono : Frame (.timeout :: .autocalib :: otherReasons) _ c (handle fit r m c) :=
      hf.mono (by decide)
    exact ⟨c, rfl, rfl, { hmono with out := fun _ _ => .inr trivial }⟩

theorem handle_running (fit : Fit) (r : BlReplies) (m : Msg) {c : BlCtx} (h : Running c.loc) :
    Running (handle fit r m c).loc := by
  obtain ⟨c₀, hloc, -, hf⟩ := handle_frame fit r m h
  apply hf.running
  rw [hloc]
  exact h

/-- Messages on which BACKLIGHT evaluates its timeout again, whatever it holds. -/
def reevaluates : Msg → Bool
  | .daytimeUpd _ _ | .inEventUpd _ _ => true
  | _ => false

theorem handle_reevaluates (fit : Fit) (r : BlReplies) {m : Msg} {c : BlCtx} (h : Running c.loc)
    (hm : reevaluates m = true) : ∃ old ev, handle fit r m c = timeCallback old ev c := by
  unfold reevaluates at hm
  split at hm
  · rcases handle_of_running fit r _ h with he | he <;> exact ⟨_, _, he⟩
  · rcases handle_of_running fit r _ h with he | he <;> exact ⟨_, _, he⟩
  · cases hm

/-- Every message keeps the TIMEOUT reason right, and these two restore it. -/
theorem handle_timeoutOk (fit : Fit) (r : BlReplies) {m : Msg} {c : BlCtx} (h : Running c.loc)
    (hc : reevaluates m = true ∨ TimeoutOk c) : TimeoutOk (handle fit r m c) := by
  rcases hc with hm | hc
  · obtain ⟨old, ev, he⟩ := handle_reevaluates fit r h hm
    rw [he]
    exact timeCallback_timeoutOk old ev c
  rcases handle_cases fit r m h with ⟨up, -, he⟩ | ⟨new, -, he⟩ | ⟨old, new, -, he⟩ |
    ⟨old, new, -, he⟩ | hf
  · rw [he]
    exact onBlToReq_timeoutOk up hc
  · rw [he]
    exact onNoAutocalibReq_timeoutOk new hc
  · rw [he]
    exact timeCallback_timeoutOk old false c
  · rw [he]
    exact timeCallback_timeoutOk none true c
  · exact hf.timeoutOk (by decide) hc

/-- A BACKLIGHT that AUTOCALIB pauses stays so, and answers with quiet messages, unless
it is asked to calibrate or hears of the screen brightness with the display on. -/
theorem handle_quiet (fit : Fit) (r : BlReplies) {m : Msg} {c : BlCtx} (h : Running c.loc)
    (hp : c.loc.paused.has .autocalib = true) (hm : quiet m = true)
    (hscr : ∀ old new, m = .screenBrUpd old new → c.st.displayBusy = true) :
    (handle fit r m c).loc.paused.has .autocalib = true ∧
      (handle fit r m c).cf.bl.noAutoCalib = c.cf.bl.noAutoCalib ∧
      ∀ m' ∈ (handle fit r m c).out, m' ∈ c.out ∨ quiet m' = true := by
  rcases handle_cases fit r m h with ⟨up, -, he⟩ | ⟨new, rfl, -⟩ | ⟨old, new, -, he⟩ |
    ⟨old, new, -, he⟩ | hf
  · obtain ⟨t, hf⟩ := frame_onBlToReq (R := [.timeout]) (P := fun m => quiet m = true)
      (by decide) up c
    rw [he]
    exact ⟨(hf.has .autocalib (by decide)).trans hp, hf.noAutoCalib, hf.out⟩
  · cases hm
  · have hf := frame_timeCallback (R := [.timeout]) (P := fun m => quiet m = true) (by decide)
      old false c
    rw [he]
    exact ⟨(hf.has .autocalib (by decide)).trans hp, hf.noAutoCalib, hf.out⟩
  · have hf := frame_timeCallback (R := [.timeout]) (P := fun m => quiet m = true) (by decide)
      none true c
    rw [he]
    exact ⟨(hf.has .autocalib (by decide)).trans hp, hf.noAutoCalib, hf.out⟩
  · refine ⟨(hf.has .autocalib (by decide)).trans hp, hf.noAutoCalib, ?_⟩
    intro m' hm'
    rcases hf.out m' hm' with hm' | hl | hq
    · exact .inl hm'
    -- AUTOCALIB is set, so the paused receiver runs
    · have hs := h.stack
      rw [PauseMask.not_isUnpaused_of_has hp] at hs
      cases m <;> simp only [loud, quiet, Bool.false_eq_true] at hl hm
      case fdUpd fd => cases fd <;> simp at hl hm
      case screenBrUpd old new =>
        have hno : handle fit r (.screenBrUpd old new) c = c := by
          unfold handle
          rw [hs]
          exact if_pos (hscr old new rfl)
        rw [hno] at hm'
        exact .inl hm'
    · exact .inr hq

/-! ### Startup -/

/-- BACKLIGHT before its startup: paused for no reason, with nothing registered. -/
structure Waiting (l : Backlight) : Prop where
  stack : l.stack = [.waitingInit]
  paused : l.paused = .unpaused
  delayed : l.delayedRegistered = false
  notAll : l.ok.all = false

theorem Waiting.isWaiting {l : Backlight} (h : Waiting l) : l.isWaiting = true := by
  rw [Backlight.isWaiting, h.stack]
  rfl

theorem Waiting.init : Waiting .init := ⟨rfl, rfl, rfl, rfl⟩

/-- The first part of startup: bl_fd is created and registered. -/
def timerStarted (c : BlCtx) : BlCtx :=
  { c with loc := { c.loc with
      stack := unbecome c.loc.stack
      blFd := setTimeout 0 (if 0 < getCurrentTimeout c then 1 else 0)
      blRegistered := true } }

/-- The part of startup after reset_or_pause. -/
theorem frame_startup (r : BlReplies) (c : BlCtx) :
    Frame [.sensor, .autocalib, .lid] (fun m => quiet m = true)
      (resetOrPause (-1) false (timerStarted c)) (startup r c) := by
  have hsens (c' : BlCtx) : Frame [.sensor, .autocalib, .lid] (fun m => quiet m = true) c'
      (onSensorChange r c') := frame_onSensorChange (by decide) (fun _ _ => rfl) r c'
  have hcal (c' : BlCtx) : Frame [.sensor, .autocalib, .lid] (fun m => quiet m = true) c'
      (if c'.cf.bl.noAutoCalib then
        pauseMod .autocalib (setBacklightLevel r 1 (!c'.cf.bl.smooth.noSmooth) 0 0 c') else c') :=
    ((frame_setBacklightLevel (fun _ _ => rfl) r 1 _ 0 0 c').trans
      (frame_pauseMod (r := .autocalib) (by decide) _)).ite (.refl c')
  have hlid (c' : BlCtx) : Frame [.sensor, .autocalib, .lid] (fun m => quiet m = true) c'
      (if c'.st.lidShut then onLidUpdate c' else c') :=
    (frame_onLidUpdate (by decide) c').ite (.refl c')
  exact (hsens _).trans ((hcal _).trans ((hlid _).trans (frame_local _ rfl rfl rfl)))

/-- The whole startup, as a frame from the creation of bl_fd on. -/
theorem frame_startup_all (r : BlReplies) (c : BlCtx) :
    Frame [.timeout, .sensor, .autocalib, .lid] (fun m => quiet m = true)
      (timerStarted c) (startup r c) :=
  (frame_resetOrPause (by decide) (-1) false _).trans ((frame_startup r c).mono (by decide))

theorem startup_running (r : BlReplies) {c : BlCtx} (hs : c.loc.stack = [.waitingInit])
    (hp : c.loc.paused = .unpaused) : Running (startup r c).loc := by
  have h0 : Running (timerStarted c).loc := by
    constructor <;> simp [timerStarted, hs, hp, unbecome]
  exact (frame_startup_all r c).running h0

theorem startup_timeoutOk (r : BlReplies) (c : BlCtx) : TimeoutOk (startup r c) :=
  (frame_startup r c).timeoutOk (by decide) (resetOrPause_timeoutOk _ false _)

theorem startup_autocalib (r : BlReplies) {c : BlCtx} (h : c.cf.bl.noAutoCalib = true) :
    (startup r c).loc.paused.has .autocalib = true := by
  have hpre : Frame [.timeout, .sensor] (fun _ => True) (timerStarted c)
      (onSensorChange r (resetOrPause (-1) false (timerStarted c))) :=
    (frame_resetOrPause (by decide) (-1) false _).trans
      (frame_onSensorChange (by decide) (fun _ _ => trivial) r _)
  have hlid (c' : BlCtx) : (if c'.st.lidShut then onLidUpdate c' else c').loc.paused.has .autocalib =
      c'.loc.paused.has .autocalib :=
    ((frame_onLidUpdate (R := [.lid]) (P := fun _ => True) (by decide) c').ite (.refl c')).has _
      (by decide)
  -- nothing before it in startup writes the option
  have hcal := hpre.noAutoCalib.trans h
  unfold timerStarted at hcal
  unfold startup
  dsimp only at hcal ⊢
  rw [hlid, if_pos hcal]
  simp [pauseMod, modCheckPause_has]

/-- The first part of receive_waiting_init: the flags. -/
def seen (m : Msg) (c : BlCtx) : BlCtx :=
  { c with loc := { c.loc with ok := started c.cf m c.loc.ok } }

/-- One message to a waiting BACKLIGHT: either it still waits, with nothing but its
flags changed, or it has run startup. -/
theorem handle_waiting (fit : Fit) (r : BlReplies) (m : Msg) {c : BlCtx} (h : Waiting c.loc) :
    (Waiting (seen m c).loc ∧ handle fit r m c = seen m c) ∨
      ((started c.cf m c.loc.ok).all = true ∧ handle fit r m c = startup r (seen m c)) := by
  have hh : handle fit r m c = receiveWaitingInit r m c := by
    unfold handle
    rw [h.stack]
  rw [hh]
  unfold receiveWaitingInit
  dsimp only
  cases hall : (started c.cf m c.loc.ok).all
  · exact .inl ⟨⟨h.stack, h.paused, h.delayed, hall⟩, if_neg (by decide)⟩
  · exact .inr ⟨rfl, if_pos rfl⟩

/-- The last message that it waits for. -/
theorem handle_startup (fit : Fit) {m : Msg} (r : BlReplies) {c : BlCtx} (hw : Waiting c.loc)
    (hall : (started c.cf m c.loc.ok).all = true) :
    handle fit r m c = startup r (seen m c) := by
  rcases handle_waiting fit r m hw with ⟨hstill, -⟩ | ⟨-, he⟩
  · have hnot : (started c.cf m c.loc.ok).all = false := hstill.notAll
    rw [hall] at hnot
    cases hnot
  · exact he

/-- Any message before that. -/
theorem handle_waits (fit : Fit) {m : Msg} (r : BlReplies) {c : BlCtx} (hw : Waiting c.loc)
    (hall : (started c.cf m c.loc.ok).all = false) :
    Waiting (seen m c).loc ∧ handle fit r m c = seen m c := by
  rcases handle_waiting fit r m hw with hstill | ⟨hstarts, -⟩
  · exact hstill
  · rw [hall] at hstarts
    cases hstarts

/-- No message makes BACKLIGHT write GAMMA's section of the configuration. -/
theorem handle_gamma (fit : Fit) (r : BlReplies) (m : Msg) {c : BlCtx}
    (h : Waiting c.loc ∨ Running c.loc) : (handle fit r m c).cf.gamma = c.cf.gamma := by
  rcases h with hw | hr
  · rcases handle_waiting fit r m hw with ⟨-, he⟩ | ⟨-, he⟩
    · rw [he]
      rfl
    · rw [he]
      exact (frame_startup_all r (seen m c)).gamma
  · obtain ⟨c₀, -, hgamma, hf⟩ := handle_frame fit r m hr
    exact hf.gamma.trans hgamma

end Clight.Backlight
