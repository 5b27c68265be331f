import Clight.CoreRuns
import Clight.Opts
import Clight.ScreenFrame

/-! The TIMEOUT reason of BACKLIGHT over a run: it follows the daytime, the events
and BL_TO_REQ, but upower_callback does not touch it. -/
namespace Clight.Core

def currentTimeout (s : Core) : ℤ := Backlight.getCurrentTimeout s.blCtx

/-- A change of AC state is harmless when the timeout is about to be evaluated again
or stays on the same side of 0. -/
def TimeoutStepOk (s : Core) : CoreEvent → Prop
  | .acState _ new => s.bl.isWaiting = false →
      (∃ m ∈ s.blBox, Backlight.reevaluates m = true) ∨
        (currentTimeout { s with st := { s.st with acState := some new } } ≤ 0 ↔ currentTimeout s ≤ 0)
  | _ => True

/-- Once BACKLIGHT runs, the reason is right unless its re-evaluation is pending. -/
def TimeoutInv (s : Core) : Prop :=
  s.bl.isWaiting = false → (∀ m ∈ s.blBox, Backlight.reevaluates m = false) → Backlight.TimeoutOk s.blCtx

theorem TimeoutInv.of_timeoutOk {s : Core} (h : Backlight.TimeoutOk s.blCtx) : TimeoutInv s :=
  fun _ _ => h

theorem TimeoutInv.of_waiting {s : Core} (h : Backlight.Waiting s.bl) : TimeoutInv s :=
  fun hw _ => absurd hw (by simp [h.isWaiting])

/-- Steps that add messages and keep what the reason depends on. -/
theorem TimeoutInv.mono {s s' : Core} (h : TimeoutInv s)
    (hw : s'.bl.isWaiting = false → s.bl.isWaiting = false) (hbox : ∀ m ∈ s.blBox, m ∈ s'.blBox)
    (hok : Backlight.TimeoutOk s.blCtx → Backlight.TimeoutOk s'.blCtx) : TimeoutInv s' :=
  fun hw' hq => hok (h (hw hw') fun m hm => hq m (hbox m hm))

theorem TimeoutInv.handle {fit : Fit} {r : BlReplies} {m : Msg} {s t : Core} (hp : Phase s)
    (h : TimeoutInv s) (hbl : t.bl = s.bl) (hst : t.st = s.st) (hcf : t.cf = s.cf)
    (hbox : s.blBox = t.blBox ∨ s.blBox = m :: t.blBox) :
    TimeoutInv (onBacklight (Backlight.handle fit r m) t) := by
  have hctx : t.blCtx = s.blCtx := by simp only [blCtx, hbl, hst, hcf]
  rcases hp with hw | hr
  · rcases Backlight.handle_waiting fit r m (c := t.blCtx) (hctx ▸ hw) with ⟨hw', he⟩ | ⟨-, he⟩
    · exact .of_waiting (by simpa [onBacklight, he] using hw')
    · refine .of_timeoutOk ?_
      have hs := Backlight.startup_timeoutOk r (Backlight.seen m t.blCtx)
      simp only [onBacklight, he]
      exact hs
  · intro _ hq
    have hok : Backlight.TimeoutOk (Backlight.handle fit r m t.blCtx) := by
      refine Backlight.handle_timeoutOk fit r (hctx ▸ hr) ?_
      -- either the message re-evaluates, or nothing that was queued before it did
      cases hm : Backlight.reevaluates m
      · right
        rw [hctx]
        refine h hr.not_waiting fun m' hm' => ?_
        have hold (hm' : m' ∈ t.blBox) : Backlight.reevaluates m' = false :=
          hq m' (mem_publish_blBox.mpr (.inl hm'))
        rcases hbox with hb | hb
        · exact hold (hb ▸ hm')
        · rw [hb] at hm'
          rcases List.mem_cons.mp hm' with rfl | hm'
          · exact hm
          · exact hold hm'
      · exact .inl rfl
    exact hok

theorem TimeoutInv.screenStep {reply : Option ℚ} {m : Msg} {scr : Screen} {s t : Core}
    (h : TimeoutInv s) (hbl : t.bl = s.bl) (hst : t.st = s.st) (hcf : t.cf = s.cf)
    (hbox : t.blBox = s.blBox) : TimeoutInv (onScreen (Screen.handle reply m) scr t) := by
  have hf := Screen.frame_handle reply m (t.scrCtx scr)
  obtain ⟨br, hst'⟩ := hf.st
  obtain ⟨screen, hcf'⟩ := hf.cf
  refine h.mono (fun hw => ?_) (fun m' hm' => mem_publish_blBox.mpr (.inl (hbox ▸ hm')))
    fun hok => ?_
  · simpa [onScreen, hbl] using hw
  · have hout : (onScreen (Screen.handle reply m) scr t).blCtx =
        { t.blCtx with
          st := { t.st with screenBr := br }
          cf := { t.cf with screen := screen } } := by
      simp only [blCtx, onScreen, publish_bl, publish_st, publish_cf, hst', hcf']
      rfl
    rw [hout]
    simp only [blCtx, hbl, hst, hcf]
    exact hok

theorem timeout_step {fit : Fit} {s s' : Core} {e : CoreEvent} (hp : Phase s) (h : TimeoutInv s)
    (hok : TimeoutStepOk s e) (hn : next fit s e = some s') : TimeoutInv s' := by
  have hgrow (ms : List Msg) (t : Core) : ∀ m ∈ t.blBox, m ∈ (publish ms t).blBox :=
    fun m hm => mem_publish_blBox.mpr (.inl hm)
  cases next_cases hn with
  | deliver r m box _ hbox hs' =>
    subst hs'
    exact h.handle hp rfl rfl rfl (.inr hbox)
  | fd r fd _ hs' =>
    subst hs'
    exact h.handle hp rfl rfl rfl (.inl rfl)
  | screen reply m scr box hs' =>
    subst hs'
    exact h.screenStep rfl rfl rfl rfl
  | signal c hw hf hs' =>
    subst hs'
    exact h.mono (fun _ => hw) (hgrow _ _) (hf.timeoutOk (by decide))
  | elapse fd sec hs' =>
    subst hs'
    cases fd <;> exact h
  | acState old new he hs' =>
    subst he hs'
    intro hw hq
    -- no re-evaluation is queued, so the change must be harmless
    have hstep := (hok hw).resolve_left fun ⟨m, hm, hm'⟩ => by
      rw [hq m (hgrow _ _ m hm)] at hm'
      cases hm'
    have hbit := h hw fun m hm => hq m (hgrow _ _ m hm)
    exact hbit.trans (by simp only [decide_eq_decide]; exact hstep.symm)
  | daytime old new inEvent _ hs' =>
    subst hs'
    intro hw hq
    -- an announcement would be queued, and is a re-evaluation
    have hnil : daytimeMsgs old new inEvent s = [] := by
      refine List.eq_nil_iff_forall_not_mem.mpr fun m hm => ?_
      rcases mem_daytimeMsgs hm with rfl | rfl
      · cases hq _ (mem_publish_blBox.mpr (.inr ⟨hm, rfl⟩))
      · cases hq _ (mem_publish_blBox.mpr (.inr ⟨hm, rfl⟩))
    obtain ⟨hday, hev⟩ := daytimeMsgs_eq_nil hnil
    have hbit := h hw fun m hm => hq m (hgrow _ _ m hm)
    have hctx : (publish (daytimeMsgs old new inEvent s)
        { s with st := { s.st with dayTime := some new, inEvent := inEvent } }).blCtx = s.blCtx := by
      rw [← hday, ← hev]
      rfl
    rw [hctx]
    exact hbit
  | capture up _ hs' =>
    subst hs'
    intro hw hq
    refine h hw fun m hm => ?_
    -- no request for a capture is a re-evaluation, whatever it holds
    have hkept : Backlight.reevaluates (m.recaptured up) = Backlight.reevaluates m := by
      unfold Msg.recaptured
      split <;> rfl
    rw [← hkept]
    exact hq _ (mem_methodCapture_blBox up hm)
  | announce ms st hs' hac hday hev =>
    subst hs'
    have hf : Backlight.Frame [] (fun _ => True) s.blCtx (publish ms { s with st := st }).blCtx :=
      ⟨fun _ _ => rfl, id, fun _ => .inl, hac, hday, hev, rfl, rfl, rfl⟩
    exact h.mono id (hgrow _ _) (hf.timeoutOk (by decide))
  | system m hs' =>
    subst hs'
    exact h.mono id (fun m hm => List.mem_append_left _ hm) id

/-- In every run whose changes of AC state are harmless, TIMEOUT is set exactly when the
timeout in force is not positive, as soon as BACKLIGHT has no message to handle. -/
theorem timeout_reason_iff (fit : Fit) {s : Core} (hs : (core fit).ReachableBy TimeoutStepOk s)
    (hw : s.bl.isWaiting = false) (hbox : s.blBox = []) :
    s.bl.paused.has .timeout = true ↔ currentTimeout s ≤ 0 := by
  have hinv : TimeoutInv s := by
    refine hs.induct (I := TimeoutInv) ?_ fun s e s' hr h hok hn =>
      timeout_step (phase_of_reachable hr.reachable) h hok hn
    intro s h
    exact .of_waiting (h.1 ▸ .init)
  have hok : s.bl.paused.has .timeout = decide (currentTimeout s ≤ 0) := hinv hw (by simp [hbox])
  rw [hok]
  exact decide_eq_true_iff

/-- Without SCREEN, and with captures disabled on battery only. -/
def acOnlyConf : Conf :=
  { Conf.default with
    screen := { Conf.default.screen with disabled := true }
    bl := { Conf.default.bl with timeout := fun ac _ => match ac with
      | .onAc => 600
      | .onBattery => 0 } }

theorem acOnlyConf_ints : acOnlyConf.IntTimeouts := by
  intro ac
  cases ac <;> decide

def startOnAc : List CoreEvent :=
  [.acState none .onAc, .lidState .opened, .daytime none .day false, .deliverBl noCapture,
    .deliverBl noCapture, .deliverBl noCapture]

instance (s : Core) : (e : CoreEvent) → Decidable (TimeoutStepOk s e)
  | .acState _ _ => inferInstanceAs (Decidable (_ → _ ∨ _))
  | .deliverBl _ | .deliverScr _ | .blFd _ | .delayedFd _ | .screenFd _ | .elapse _ _ | .lidState _
  | .daytime _ _ _ | .display _ | .suspended _ _ | .resumed | .inhibited _ | .request _ | .capture _
  | .system _ | .sensorChanged _ | .blChanged _ _ | .interfaceAdded _ | .interfaceRemoved _ => isTrue trivial

/-- After startup night falls within an event, the timeout on AC is disabled, and AC is unplugged. -/
def unplugDisabled : List CoreEvent :=
  startOnAc ++ [.daytime (some .day) .night true, .deliverBl noCapture, .deliverBl noCapture,
    .request (.blToReq ⟨-1, 0, 2⟩), .deliverBl noCapture, .acState (some .onAc) .onBattery,
    .deliverBl noCapture]

theorem timeout_reason_iff_onAc : ∃ s,
    (core fun _ => (0, 0, 0)).run (start acOnlyConf) unplugDisabled = some s ∧
      s.st.acState = some .onBattery ∧ (s.bl.paused.has .timeout = true ↔ currentTimeout s ≤ 0) := by
  have hheard : ((core fun _ => (0, 0, 0)).run (start acOnlyConf) unplugDisabled).any (fun s =>
      !s.bl.isWaiting && s.blBox.isEmpty && decide (s.st.acState = some .onBattery)) = true := by
    decide +kernel
  have hby : (core fun _ => (0, 0, 0)).RunBy TimeoutStepOk (start acOnlyConf) unplugDisabled := by
    decide +kernel
  obtain ⟨s, hs, hp⟩ := (Option.any_eq_true _ _).mp hheard
  simp only [Bool.and_eq_true, Bool.not_eq_true', List.isEmpty_iff, decide_eq_true_eq] at hp
  obtain ⟨⟨hw, hbox⟩, hac⟩ := hp
  have hreach := Machine.ReachableBy.of_run _ (.init (init_start acOnlyConf_ints)) hby hs
  exact ⟨s, hs, hac, timeout_reason_iff (fun _ => (0, 0, 0)) hreach hw hbox⟩

/-- Unplugging AC leaves captures running although the timeout on battery is 0. -/
theorem timeout_reason_stale : ¬ ∀ (fit : Fit) (s : Core), (core fit).Reachable s →
    s.bl.isWaiting = false → s.blBox = [] →
      (s.bl.paused.has .timeout = true ↔ currentTimeout s ≤ 0) := by
  intro h
  let es := startOnAc ++ [.acState (some .onAc) .onBattery, .deliverBl noCapture]
  have hrun : ((core fun _ => (0, 0, 0)).run (start acOnlyConf) es).any
      (fun s => !s.bl.isWaiting && s.blBox.isEmpty && !s.bl.paused.has .timeout &&
        currentTimeout s ≤ 0) = true := by decide +kernel
  obtain ⟨s, hs, hp⟩ := (Option.any_eq_true _ _).mp hrun
  simp only [Bool.and_eq_true, Bool.not_eq_true', List.isEmpty_iff, decide_eq_true_eq] at hp
  obtain ⟨⟨⟨hw, hbox⟩, hbit⟩, hto⟩ := hp
  have hiff := h _ s (Machine.reachable_of_run (init_start acOnlyConf_ints) hs) hw hbox
  rw [hiff.mpr hto] at hbit
  cases hbit

end Clight.Core
