import Clight.CoreRuns
import Clight.Opts
import Clight.ScreenFrame

/-! Startup of BACKLIGHT: it waits for SCREEN to measure the screen once, and a
SCREEN that pauses itself never does. -/
namespace Clight

namespace Screen

def isWaiting (scr : Screen) : Bool := scr.stack.head? = some .waitingState

/-- SCREEN can still publish a SCREEN_BR_UPD by itself: it has not handled UPOWER_UPD
yet, or its timer is registered and will expire. -/
def Produces (scr : Screen) : Prop :=
  scr.isWaiting = true ∨
    scr.paused.isUnpaused = true ∧ scr.registered = true ∧ scr.screenFd.live = true

instance (scr : Screen) : Decidable scr.Produces := inferInstanceAs (Decidable (_ ∨ _))

structure Fresh (scr : Screen) : Prop where
  stack : scr.stack = [.waitingState]
  unpaused : scr.paused.isUnpaused = true
  unregistered : scr.registered = false

structure Measuring (scr : Screen) : Prop where
  stack : scr.stack = []
  unpaused : scr.paused.isUnpaused = true
  registered : scr.registered = true
  live : scr.screenFd.live = true

theorem Fresh.produces {scr : Screen} (h : scr.Fresh) : scr.Produces := by
  left
  rw [isWaiting, h.stack]
  rfl

theorem Measuring.produces {scr : Screen} (h : scr.Measuring) : scr.Produces :=
  .inr ⟨h.unpaused, h.registered, h.live⟩

theorem Fresh.isWaiting {scr : Screen} (h : scr.Fresh) : scr.isWaiting = true := by
  rw [Screen.isWaiting, h.stack]
  rfl

theorem Measuring.not_waiting {scr : Screen} (h : scr.Measuring) : scr.isWaiting = false := by
  rw [Screen.isWaiting, h.stack]
  rfl

theorem pauseScreen_false {reason : ModPause} {b : Bool} {c : ScreenCtx}
    (hu : c.loc.paused.isUnpaused = true) :
    pauseScreen false reason b c =
      { c with loc := { c.loc with paused := c.loc.paused.clear reason } } := by
  simp [pauseScreen, modCheckPause, hu]

theorem Measuring.pauseScreen_false {reason : ModPause} {b : Bool} {c : ScreenCtx}
    (h : c.loc.Measuring) : (pauseScreen false reason b c).loc.Measuring := by
  rw [Screen.pauseScreen_false h.unpaused]
  exact ⟨h.stack, PauseMask.isUnpaused_clear h.unpaused reason, h.registered, h.live⟩

theorem Measuring.timeoutCallback (old : ℤ) (reset : Bool) {c : ScreenCtx} (h : c.loc.Measuring)
    (hpos : 0 < atAc c.cf.screen.timeout c.st.acState)
    (hint : atAc c.cf.screen.timeout c.st.acState < 2^31) :
    (timeoutCallback old reset c).loc.Measuring := by
  have hp : (pauseScreen false .timeout false c).loc.Measuring := h.pauseScreen_false
  unfold Screen.timeoutCallback
  dsimp only
  rw [if_neg (not_le.mpr hpos)]
  split
  · exact ⟨hp.stack, hp.unpaused, hp.registered,
      resetTimer_live hpos hint fun _ => hp.live⟩
  · exact hp

/-- The first UPOWER_UPD starts SCREEN measuring if the timeout in force is positive
and the contribution of the screen is not null. -/
theorem Fresh.upower {reply : Option ℚ} {old : Option AcState} {new : AcState} {c : ScreenCtx}
    (h : c.loc.Fresh) (hpos : 0 < atAc c.cf.screen.timeout c.st.acState)
    (hint : atAc c.cf.screen.timeout c.st.acState < 2^31) (hc : c.cf.screen.contrib ≠ 0) :
    (handle reply (.upowerUpd old new) c).loc.Measuring := by
  have hstart : ({ c.loc with
      stack := unbecome c.loc.stack
      screenFd := setTimeout (atAc c.cf.screen.timeout c.st.acState) 0
      registered := true } : Screen).Measuring := by
    refine ⟨by simp [h.stack, unbecome], h.unpaused, rfl, ?_⟩
    rw [setTimeout_live]
    simp [hpos]
  unfold handle
  rw [h.stack]
  dsimp only [receiveWaitingState]
  have hto := Measuring.timeoutCallback (-1) false (c := { c with loc := _ }) hstart hpos hint
  rw [timeoutCallback_cf, decide_eq_false hc]
  exact hto.pauseScreen_false

/-- The updates that reach SCREEN before BACKLIGHT has started. -/
def isStartupUpd : Msg → Bool
  | .upowerUpd _ _ | .lidUpd _ _ => true
  | _ => false

/-- On these SCREEN writes no configuration and publishes nothing. -/
theorem handle_startupUpd {reply : Option ℚ} {m : Msg} (hm : isStartupUpd m = true) (c : ScreenCtx) :
    (handle reply m c).cf = c.cf ∧ (handle reply m c).out = c.out := by
  cases m <;> simp only [isStartupUpd, Bool.false_eq_true] at hm
  case upowerUpd old new =>
    unfold handle
    split
    · exact ⟨timeoutCallback_cf _ _ _, timeoutCallback_out _ _ _⟩
    · exact ⟨timeoutCallback_cf _ _ c, timeoutCallback_out _ _ c⟩
  case lidUpd old new =>
    unfold handle
    split
    · exact ⟨rfl, rfl⟩
    · dsimp only [receive]
      split <;> exact ⟨rfl, rfl⟩

theorem getScreenBrightness_cf (reply : Option ℚ) (c : ScreenCtx) :
    (getScreenBrightness reply c).cf = c.cf := by
  unfold getScreenBrightness
  split
  · cases reply with
    | none => rfl
    | some br => rfl
  · rfl

theorem handle_timer_cf (reply : Option ℚ) (c : ScreenCtx) :
    (handle reply (.fdUpd .screen) c).cf = c.cf := by
  unfold handle
  split
  · rfl
  · exact getScreenBrightness_cf reply _

/-- When its timer fires, a measuring SCREEN publishes a brightness, or goes on with
a timer armed again. -/
theorem Measuring.timer (reply : Option ℚ) {c : ScreenCtx} (h : c.loc.Measuring)
    (hpos : reply = none → 0 < atAc c.cf.screen.timeout c.st.acState) :
    (handle reply (.fdUpd .screen) c).loc.Measuring ∨
      ∃ old new, .screenBrUpd old new ∈ (handle reply (.fdUpd .screen) c).out := by
  have hh : handle reply (.fdUpd .screen) c = onTimer reply c := by
    unfold handle
    rw [h.stack]
    rfl
  rw [hh]
  unfold onTimer getScreenBrightness
  dsimp only
  rw [if_pos h.unpaused]
  cases reply with
  | some br => exact .inr ⟨_, _, List.mem_append_right _ (List.mem_singleton_self _)⟩
  | none =>
    refine .inl ⟨h.stack, h.unpaused, h.registered, ?_⟩
    rw [setTimeout_live]
    simp [hpos rfl]

end Screen

namespace Core

/-- A message that ends BACKLIGHT's wait for SCREEN. -/
def startsScreen : Msg → Bool
  | .screenBrUpd _ _ | .systemUpd (.moduleStopped .screen) => true
  | _ => false

/-- Having heard of the AC state, the lid and the daytime, BACKLIGHT has started, or
will hear of SCREEN, or SCREEN can still speak. -/
def StartupProgress (s : Core) : Prop :=
  s.bl.ok.upower = true → s.bl.ok.lid = true → s.bl.ok.daytime = true →
    s.bl.isWaiting = false ∨ (∃ m ∈ s.blBox, startsScreen m = true) ∨
      ∃ scr ∈ s.scr, scr.Produces

instance (s : Core) : Decidable (StartupProgress s) :=
  inferInstanceAs (Decidable (s.bl.ok.upower = true → s.bl.ok.lid = true → _))

/-- Deliveries, timers, and the updates of UPOWER and DAYTIME. -/
def startupEvent : CoreEvent → Bool
  | .deliverBl _ | .deliverScr _ | .blFd _ | .delayedFd _ | .screenFd _ | .elapse _ _ | .acState _ _
  | .lidState _ | .daytime _ _ _ => true
  | _ => false

/-- BACKLIGHT waits for SCREEN and nothing queued will end that. -/
structure Awaiting (s : Core) : Prop where
  waiting : s.bl.isWaiting = true
  enabled : s.cf.screen.disabled = false
  notSeen : s.bl.ok.screen = false
  notQueued : ∀ m ∈ s.blBox, startsScreen m = false

/-- What a step that SCREEN takes while BACKLIGHT awaits it must find, for SCREEN not
to stop: a positive timeout, a contribution, and a lid that does not pause it. -/
def ScreenGoesOn (s : Core) (e : CoreEvent) : Prop :=
  Awaiting s → match e, s.scr, s.scrBox with
    | .deliverScr _, some scr, .upowerUpd _ _ :: _ =>
      0 < atAc s.cf.screen.timeout s.st.acState ∧
        (scr.isWaiting = true → s.cf.screen.contrib ≠ 0)
    | .deliverScr _, some scr, .lidUpd _ _ :: _ =>
      scr.isWaiting = false → ¬(s.cf.bl.pauseOnLidClosed = true ∧ s.st.lidShut = true)
    | .screenFd none, _, _ => 0 < atAc s.cf.screen.timeout s.st.acState
    | _, _, _ => True

instance (s : Core) : Decidable (Awaiting s) :=
  decidable_of_iff (s.bl.isWaiting = true ∧ s.cf.screen.disabled = false ∧ s.bl.ok.screen = false ∧
    ∀ m ∈ s.blBox, startsScreen m = false)
    ⟨fun ⟨hw, hen, hseen, hq⟩ => ⟨hw, hen, hseen, hq⟩, fun ⟨hw, hen, hseen, hq⟩ => ⟨hw, hen, hseen, hq⟩⟩

def isUpowerUpd : Msg → Bool
  | .upowerUpd _ _ => true
  | _ => false

def isLidUpd : Msg → Bool
  | .lidUpd _ _ => true
  | _ => false

theorem screenGoesOn_deliverScr {s : Core} {reply : Option ℚ} :
    (Awaiting s → ∀ scr ∈ s.scr, ∀ m ∈ s.scrBox.head?,
      (isUpowerUpd m = true → 0 < atAc s.cf.screen.timeout s.st.acState ∧
        (scr.isWaiting = true → s.cf.screen.contrib ≠ 0)) ∧
      (isLidUpd m = true → scr.isWaiting = false →
        ¬(s.cf.bl.pauseOnLidClosed = true ∧ s.st.lidShut = true))) ↔
    ScreenGoesOn s (.deliverScr reply) := by
  refine forall_congr' fun _ => ?_
  cases s.scr with
  | none => simp
  | some scr =>
    cases s.scrBox with
    | nil => simp
    | cons m box => cases m <;> simp [isUpowerUpd, isLidUpd]

instance (s : Core) : (e : CoreEvent) → Decidable (ScreenGoesOn s e)
  | .deliverScr _ => decidable_of_iff _ screenGoesOn_deliverScr
  | .screenFd none => inferInstanceAs (Decidable (Awaiting s → 0 < atAc s.cf.screen.timeout s.st.acState))
  | .screenFd (some _) | .deliverBl _ | .blFd _ | .delayedFd _ | .elapse _ _ | .acState _ _
  | .lidState _ | .daytime _ _ _ | .display _ | .suspended _ _ | .resumed | .inhibited _ | .request _
  | .capture _ | .system _ | .sensorChanged _ | .blChanged _ _ | .interfaceAdded _
  | .interfaceRemoved _ => isTrue fun _ => trivial

structure StartupInv (s : Core) : Prop where
  phase : Phase s
  ints : s.bl.isWaiting = true → s.cf.IntTimeouts
  box : s.bl.isWaiting = true → ∀ m ∈ s.scrBox, Screen.isStartupUpd m = true
  screen : Awaiting s → ∃ scr, s.scr = some scr ∧ (scr.Fresh ∨ scr.Measuring)

theorem StartupInv.of_running {s : Core} (h : Backlight.Running s.bl) : StartupInv s where
  phase := .inr h
  ints hw := absurd hw (by simp [h.not_waiting])
  box hw := absurd hw (by simp [h.not_waiting])
  screen ha := absurd ha.waiting (by simp [h.not_waiting])

theorem StartupInv.init {s : Core} (h : Init s) : StartupInv s := by
  obtain ⟨hbl, -, hints, hbox, -, hscr⟩ := h
  refine ⟨.inl (hbl ▸ .init), fun _ => hints, fun _ m hm => ?_, fun ha => ?_⟩
  · rw [hbox] at hm
    cases hm
  · rw [if_neg (by simp [ha.enabled])] at hscr
    rcases hscr with ⟨hs, -⟩ | ⟨-, hb⟩
    · exact ⟨_, hs, .inl ⟨rfl, rfl, rfl⟩⟩
    · have hq := ha.notQueued (.systemUpd (.moduleStopped .screen)) (by simp [hb])
      cases hq

theorem started_of_starts (cf : Conf) {m : Msg} (ok : BlStarted) (h : startsScreen m = true) :
    (Backlight.started cf m ok).screen = true := by
  unfold startsScreen at h
  split at h
  · rfl
  · rfl
  · cases h

theorem started_of_screen (cf : Conf) (m : Msg) {ok : BlStarted} (h : ok.screen = true) :
    (Backlight.started cf m ok).screen = true := by
  have hd : (if cf.screen.disabled then { ok with screen := true } else ok).screen = true := by
    split
    · rfl
    · exact h
  unfold Backlight.started
  dsimp only
  split <;> first | exact hd | rfl

/-- SCREEN_STARTED is never dropped, and both kinds of message set it. -/
theorem started_screen {cf : Conf} {m : Msg} {ok : BlStarted}
    (h : (Backlight.started cf m ok).screen = false) : ok.screen = false ∧ startsScreen m = false := by
  constructor
  · rw [Bool.eq_false_iff]
    intro hok
    simp [started_of_screen cf m hok] at h
  · rw [Bool.eq_false_iff]
    intro hm
    simp [started_of_starts cf ok hm] at h

/-- A step of BACKLIGHT that leaves it waiting changes nothing but its flags. -/
theorem onBacklight_seen {f : BlCtx → BlCtx} {m : Msg} {t : Core}
    (h : f t.blCtx = Backlight.seen m t.blCtx) :
    onBacklight f t = { t with bl := (Backlight.seen m t.blCtx).loc } := by
  unfold onBacklight
  simp only [h]
  simp [publish, blCtx, Backlight.seen]

/-- BACKLIGHT handles a message, popped from its mailbox or from a descriptor. -/
theorem StartupInv.handle {fit : Fit} {r : BlReplies} {m : Msg} {s t : Core} (h : StartupInv s)
    (hbl : t.bl = s.bl) (hcf : t.cf = s.cf) (hscr : t.scr = s.scr) (hsb : t.scrBox = s.scrBox)
    (hbox : s.blBox = t.blBox ∨ s.blBox = m :: t.blBox) :
    StartupInv (onBacklight (Backlight.handle fit r m) t) := by
  -- the invariant says something only while BACKLIGHT waits, before the step and after it
  have hphase := phase_handle fit r m h.phase hbl
  rcases hphase with hw | hr
  swap
  · exact .of_running hr
  have hphase' := h.phase
  rcases hphase' with hw0 | hr0
  swap
  · have hr := Backlight.handle_running fit r m (c := t.blCtx) (by simpa [blCtx, hbl] using hr0)
    exact .of_running hr
  have hw0' : s.bl.isWaiting = true := hw0.isWaiting
  rcases Backlight.handle_waiting fit r m (c := t.blCtx) (by simpa [blCtx, hbl] using hw0)
    with ⟨-, he⟩ | ⟨-, he⟩
  · rw [onBacklight_seen he] at hw ⊢
    refine ⟨.inl hw, fun _ => hcf ▸ h.ints hw0', fun _ => hsb ▸ h.box hw0', fun ha => ?_⟩
    have hstart := started_screen (m := m) ha.notSeen
    -- it awaited SCREEN before the step too: the message handled was no news of SCREEN
    have ha' : Awaiting s := by
      refine ⟨hw0', hcf ▸ ha.enabled, hbl ▸ hstart.1, fun m' hm' => ?_⟩
      rcases hbox with hb | hb
      · exact ha.notQueued m' (hb ▸ hm')
      · rw [hb] at hm'
        rcases List.mem_cons.mp hm' with rfl | hm'
        · exact hstart.2
        · exact ha.notQueued m' hm'
    obtain ⟨scr, hs, hk⟩ := h.screen ha'
    exact ⟨scr, hscr.trans hs, hk⟩
  · have hrun := Backlight.startup_running r (c := Backlight.seen m t.blCtx)
      (by simpa [blCtx, hbl, Backlight.seen] using hw0.stack)
      (by simpa [blCtx, hbl, Backlight.seen] using hw0.paused)
    exact .of_running (by simpa [onBacklight, he] using hrun)

/-- Events that only add updates to the mailboxes and write the state they announce. -/
theorem StartupInv.environment {s : Core} (h : StartupInv s) {ms : List Msg} (st : State)
    (hms : ∀ m ∈ ms, Screen.subscribes m = true → Screen.isStartupUpd m = true) :
    StartupInv (publish ms { s with st := st }) where
  phase := h.phase
  ints := h.ints
  box hw m hm := by
    rcases mem_publish_scrBox hm with hm | ⟨hm, hsub⟩
    · exact h.box hw m hm
    · exact hms m hm hsub
  screen ha := h.screen ⟨ha.waiting, ha.enabled, ha.notSeen, fun m hm =>
    ha.notQueued m (mem_publish_blBox.mpr (.inl hm))⟩

/-- A step of SCREEN, which finds `t`: `s` with a message taken from its mailbox. -/
theorem StartupInv.screenStep {f : ScreenCtx → ScreenCtx} {scr : Screen} {s t : Core}
    (h : StartupInv s) (hbl : t.bl = s.bl) (hcf : t.cf = s.cf) (hbox : t.blBox = s.blBox)
    (hsb : s.bl.isWaiting = true → ∀ m ∈ t.scrBox, Screen.isStartupUpd m = true)
    (hfcf : s.bl.isWaiting = true → (f (t.scrCtx scr)).cf = t.cf)
    (hfout : s.bl.isWaiting = true → ∀ m ∈ (f (t.scrCtx scr)).out, Screen.subscribes m = false)
    (hk : Awaiting s → (f (t.scrCtx scr)).loc.Fresh ∨ (f (t.scrCtx scr)).loc.Measuring ∨
      ∃ m ∈ (f (t.scrCtx scr)).out, startsScreen m = true ∧ Backlight.subscribes m = true) :
    StartupInv (onScreen f scr t) where
  phase := by
    have hp := h.phase
    unfold Phase at hp ⊢
    simpa [onScreen, hbl] using hp
  ints hw := by
    have hw' : s.bl.isWaiting = true := by simpa [onScreen, hbl] using hw
    simpa [onScreen, hfcf hw', hcf] using h.ints hw'
  box hw m hm := by
    have hw' : s.bl.isWaiting = true := by simpa [onScreen, hbl] using hw
    rcases mem_publish_scrBox hm with hm | ⟨hm, hsub⟩
    · exact hsb hw' m hm
    · rw [hfout hw' m hm] at hsub
      cases hsub
  screen ha := by
    have hw' : s.bl.isWaiting = true := by simpa [onScreen, hbl] using ha.waiting
    have hold (m : Msg) (hm : m ∈ s.blBox) : startsScreen m = false :=
      ha.notQueued m (mem_publish_blBox.mpr (.inl (hbox ▸ hm)))
    have ha' : Awaiting s := by
      refine ⟨hw', ?_, ?_, hold⟩
      · simpa [onScreen, hfcf hw', hcf] using ha.enabled
      · simpa [onScreen, hbl] using ha.notSeen
    rcases hk ha' with hf | hm | ⟨m, hm, hst, hsub⟩
    · exact ⟨_, rfl, .inl hf⟩
    · exact ⟨_, rfl, .inr hm⟩
    · -- SCREEN has spoken, so its message is in the mailbox
      rw [ha.notQueued m (mem_publish_blBox.mpr (.inr ⟨hm, hsub⟩))] at hst
      cases hst

theorem StartupInv.elapse {s : Core} (h : StartupInv s) (fd : Fd) (sec : Option ℕ) :
    StartupInv (Core.elapse fd sec s) := by
  have hp := phase_elapse h.phase fd sec
  cases fd
  case bl => exact ⟨hp, h.ints, h.box, fun ha => h.screen ⟨ha.1, ha.2, ha.3, ha.4⟩⟩
  case delayed => exact ⟨hp, h.ints, h.box, fun ha => h.screen ⟨ha.1, ha.2, ha.3, ha.4⟩⟩
  case day => exact h
  case screen =>
    refine ⟨hp, h.ints, h.box, fun ha => ?_⟩
    obtain ⟨scr, hs, hk⟩ := h.screen ⟨ha.1, ha.2, ha.3, ha.4⟩
    refine ⟨{ scr with screenFd := scr.screenFd.elapse sec }, by simp [Core.elapse, hs], ?_⟩
    rcases hk with hf | hme
    · exact .inl ⟨hf.stack, hf.unpaused, hf.unregistered⟩
    · refine .inr ⟨hme.stack, hme.unpaused, hme.registered, ?_⟩
      rw [TimerFd.elapse_live]
      exact hme.live

/-- One message to a SCREEN that BACKLIGHT awaits, under the condition on that step. -/
theorem screen_handle_startupUpd (reply : Option ℚ) {m : Msg} {scr : Screen} {c : ScreenCtx}
    (hm : Screen.isStartupUpd m = true) (hint : c.cf.IntTimeouts) (hc : c.loc = scr)
    (hk : scr.Fresh ∨ scr.Measuring)
    (hup : ∀ old new, m = .upowerUpd old new → 0 < atAc c.cf.screen.timeout c.st.acState ∧
      (scr.isWaiting = true → c.cf.screen.contrib ≠ 0))
    (hlid : ∀ old new, m = .lidUpd old new → scr.isWaiting = false →
      ¬(c.cf.bl.pauseOnLidClosed = true ∧ c.st.lidShut = true)) :
    (Screen.handle reply m c).loc.Fresh ∨ (Screen.handle reply m c).loc.Measuring := by
  subst hc
  have hint' : atAc c.cf.screen.timeout c.st.acState < 2^31 := by
    cases c.st.acState with
    | none => exact show (0 : ℤ) < 2^31 by decide
    | some ac => exact hint ac
  cases m <;> simp only [Screen.isStartupUpd, Bool.false_eq_true] at hm
  case upowerUpd old new =>
    obtain ⟨hpos, hcontrib⟩ := hup old new rfl
    right
    rcases hk with hf | hme
    · exact hf.upower hpos hint' (hcontrib hf.isWaiting)
    · unfold Screen.handle
      rw [hme.stack]
      exact hme.timeoutCallback _ _ hpos hint'
  case lidUpd old new =>
    rcases hk with hf | hme
    · -- receive_waiting_state ignores the lid
      left
      unfold Screen.handle
      rw [hf.stack]
      exact hf
    · right
      have hopen := hlid old new rfl hme.not_waiting
      unfold Screen.handle
      rw [hme.stack]
      dsimp only [Screen.receive]
      split
      · rename_i hp
        have hshut : c.st.lidShut = false := by
          rw [Bool.eq_false_iff]
          exact fun hs => hopen ⟨hp, hs⟩
        rw [hshut]
        exact hme.pauseScreen_false
      · exact hme

theorem StartupInv.deliverScr {reply : Option ℚ} {s : Core} {scr : Screen} {m : Msg} {box : List Msg}
    (h : StartupInv s) (hscr : s.scr = some scr) (hbox : s.scrBox = m :: box)
    (hgo : ScreenGoesOn s (.deliverScr reply)) :
    StartupInv (onScreen (Screen.handle reply m) scr { s with scrBox := box }) := by
  have hm (hw : s.bl.isWaiting = true) : Screen.isStartupUpd m = true :=
    h.box hw m (by simp [hbox])
  refine h.screenStep rfl rfl rfl (fun hw m' hm' => h.box hw m' (by simp [hbox, hm']))
    (fun hw => (Screen.handle_startupUpd (hm hw) _).1) (fun hw m' hm' => ?_) (fun ha => ?_)
  · rw [(Screen.handle_startupUpd (hm hw) _).2] at hm'
    cases hm'
  · obtain ⟨scr', hs', hk⟩ := h.screen ha
    obtain rfl : scr = scr' := Option.some.inj (hscr.symm.trans hs')
    have hcond := hgo ha
    rw [hscr, hbox] at hcond
    have hres := screen_handle_startupUpd reply (m := m)
      (c := scrCtx scr { s with scrBox := box }) (hm ha.waiting) (h.ints ha.waiting) rfl hk
      (by rintro old new rfl; exact hcond) (by rintro old new rfl; exact hcond)
    rcases hres with hf | hme
    · exact .inl hf
    · exact .inr (.inl hme)

theorem StartupInv.screenFd {reply : Option ℚ} {s : Core} {scr : Screen} (h : StartupInv s)
    (hscr : s.scr = some scr) (hreg : scr.registered = true) (hgo : ScreenGoesOn s (.screenFd reply)) :
    StartupInv (onScreen (Screen.handle reply (.fdUpd .screen)) scr s) := by
  have hframe := Screen.frame_handle reply (.fdUpd .screen) (s.scrCtx scr)
  refine h.screenStep rfl rfl rfl h.box (fun _ => Screen.handle_timer_cf reply _)
    (fun _ m hm => ?_) (fun ha => ?_)
  · rcases hframe.out m hm with hm | ⟨old, new, rfl⟩
    · cases hm
    · rfl
  · obtain ⟨scr', hs', hk⟩ := h.screen ha
    obtain rfl : scr = scr' := Option.some.inj (hscr.symm.trans hs')
    have hcond := hgo ha
    -- a SCREEN that has not started has no registered timer
    have hme : scr.Measuring := by
      rcases hk with hf | hme
      · rw [hf.unregistered] at hreg
        cases hreg
      · exact hme
    rcases Screen.Measuring.timer reply (c := s.scrCtx scr) hme
      (by rintro rfl; exact hcond) with hm | ⟨old, new, hm⟩
    · exact .inr (.inl hm)
    · exact .inr (.inr ⟨_, hm, rfl, rfl⟩)

/-- One startup event: BACKLIGHT or SCREEN takes a step, time passes, or the environment
publishes an update. -/
theorem startup_step {fit : Fit} {s s' : Core} {e : CoreEvent} (h : StartupInv s)
    (he : startupEvent e = true) (hgo : ScreenGoesOn s e) (hn : next fit s e = some s') :
    StartupInv s' := by
  cases e <;> simp only [startupEvent, Bool.false_eq_true] at he <;> simp only [next] at hn
  case deliverBl r =>
    obtain ⟨m, box, hbox, rfl⟩ := next_deliverBl hn
    exact h.handle rfl rfl rfl rfl (.inr hbox)
  case blFd r =>
    split_ifs at hn
    obtain rfl := Option.some.inj hn
    exact h.handle rfl rfl rfl rfl (.inl rfl)
  case delayedFd r =>
    split_ifs at hn
    obtain rfl := Option.some.inj hn
    exact h.handle rfl rfl rfl rfl (.inl rfl)
  case deliverScr reply =>
    obtain ⟨scr, m, box, hscr, hbox, rfl⟩ := next_deliverScr fit hn
    exact h.deliverScr hscr hbox hgo
  case screenFd reply =>
    obtain ⟨scr, hscr, hregistered, rfl⟩ := next_screenFd fit hn
    exact h.screenFd hscr hregistered hgo
  case elapse fd sec =>
    obtain rfl := Option.some.inj hn
    exact h.elapse fd sec
  case acState old new =>
    obtain rfl := Option.some.inj hn
    refine h.environment _ fun m hm _ => ?_
    rw [List.mem_singleton.mp hm]
    rfl
  case lidState new =>
    obtain rfl := Option.some.inj hn
    refine h.environment _ fun m hm _ => ?_
    rw [List.mem_singleton.mp hm]
    rfl
  case daytime old new inEvent =>
    obtain rfl := Option.some.inj hn
    refine h.environment _ fun m hm hsub => ?_
    rcases mem_daytimeMsgs hm with rfl | rfl <;> cases hsub

/-- BACKLIGHT never waits forever for a SCREEN that goes on. -/
theorem startup_progress (fit : Fit) {s : Core}
    (hs : (core fit).ReachableBy (fun s e => startupEvent e = true ∧ ScreenGoesOn s e) s)
    (henabled : s.cf.screen.disabled = false) : StartupProgress s := by
  intro hu hl hd
  have hinv : StartupInv s := Machine.ReachableBy.invariant (I := StartupInv)
    (fun _ h => .init h) (fun _ _ _ h hc hn => startup_step h hc.1 hc.2 hn) hs
  by_cases hw : s.bl.isWaiting = true
  swap
  · exact .inl (by simpa using hw)
  by_cases hq : ∃ m ∈ s.blBox, startsScreen m = true
  · exact .inr (.inl hq)
  -- the fourth flag is missing, or BACKLIGHT would have started
  have hscr : s.bl.ok.screen = false := by
    have hall := (hinv.phase.waiting hw).notAll
    simpa [BlStarted.all, hu, hl, hd] using hall
  have ha : Awaiting s := ⟨hw, henabled, hscr, fun m hm => by
    rw [Bool.eq_false_iff]
    exact fun hm' => hq ⟨m, hm, hm'⟩⟩
  obtain ⟨scr, hs, hk⟩ := hinv.screen ha
  exact .inr (.inr ⟨scr, hs, hk.elim (·.produces) (·.produces)⟩)

/-- On AC all updates but SCREEN's are delivered. -/
def allButScreen : List CoreEvent :=
  [.acState none .onAc, .lidState .opened, .daytime none .day false, .deliverScr none,
    .deliverScr none, .deliverBl noCapture, .deliverBl noCapture, .deliverBl noCapture]

/-- There the default configuration lets SCREEN go on: BACKLIGHT waits, and SCREEN is measuring. -/
theorem startup_progress_onAc : ∃ s, (core fun _ => (0, 0, 0)).run (start .default) allButScreen = some s ∧
    (s.bl.ok.upower && s.bl.ok.lid && s.bl.ok.daytime && s.bl.isWaiting) = true ∧
      StartupProgress s := by
  have hints : Conf.default.IntTimeouts := by
    intro ac
    cases ac <;> decide
  have hseen : ((core fun _ => (0, 0, 0)).run (start .default) allButScreen).any (fun s =>
      s.bl.ok.upower && s.bl.ok.lid && s.bl.ok.daytime && s.bl.isWaiting &&
        !s.cf.screen.disabled) = true := by decide +kernel
  have hby : (core fun _ => (0, 0, 0)).RunBy (fun s e => startupEvent e = true ∧ ScreenGoesOn s e)
      (start .default) allButScreen := by decide +kernel
  obtain ⟨s, hs, hp⟩ := (Option.any_eq_true _ _).mp hseen
  obtain ⟨hok, henabled⟩ := Bool.and_eq_true_iff.mp hp
  exact ⟨s, hs, hok, startup_progress (fun _ => (0, 0, 0))
    (.of_run _ (.init (init_start hints)) hby hs) (Bool.not_eq_true' _ ▸ henabled)⟩

/-- On battery, where the default screen timeout is -1, SCREEN pauses itself as soon as
it hears of the AC state, and BACKLIGHT waits for it forever. -/
theorem startup_progress_fails : ¬ ∀ (fit : Fit) (s : Core),
    (core fit).ReachableBy (fun _ e => startupEvent e = true) s → s.cf.screen.disabled = false →
      StartupProgress s := by
  intro h
  let es : List CoreEvent := [.acState none .onBattery, .lidState .opened, .daytime none .day false,
    .deliverScr none, .deliverScr none, .deliverBl noCapture, .deliverBl noCapture,
    .deliverBl noCapture]
  have hrun : ((core fun _ => (0, 0, 0)).run (start .default) es).any
      (fun s => !s.cf.screen.disabled && !decide (StartupProgress s)) = true := by decide +kernel
  obtain ⟨s, hs, hp⟩ := (Option.any_eq_true _ _).mp hrun
  simp only [Bool.and_eq_true, Bool.not_eq_true', decide_eq_false_iff_not] at hp
  have hes : ∀ e ∈ es, ∀ _ : Core, startupEvent e = true := by simp [es, startupEvent]
  refine hp.2 (h (fun _ => (0, 0, 0)) s (Machine.ReachableBy.of_run es
    (.init (init_start fun ac => ?_)) (Machine.runBy_of_forall hes _) hs) hp.1)
  cases ac <;> decide

end Core
end Clight
