import Clight.CoreRuns
import Clight.Opts
import Clight.ScreenFrame

/-! Runs with no_auto_calib set from startup: BACKLIGHT is paused, but SCREEN goes on
telling it of the screen brightness, and the paused receiver calibrates on it. -/
namespace Clight.Core

def noCalibRequest : CoreEvent → Bool
  | .request m => Backlight.quiet m
  | .capture _ => false
  | _ => true

/-- A started BACKLIGHT hears of the screen brightness only while the display is dimmed
or off. -/
def ScreenUnheard (s : Core) : CoreEvent → Prop
  | .deliverBl _ => s.bl.isWaiting = false →
      ∀ old new, s.blBox.head? = some (.screenBrUpd old new) → s.st.displayBusy = true
  | _ => True

def isMeasure : Msg → Bool
  | .screenBrUpd _ _ => true
  | _ => false

instance (s : Core) : ∀ e : CoreEvent, Decidable (ScreenUnheard s e) := by
  intro e
  cases e
  case deliverBl r =>
    refine decidable_of_iff (s.bl.isWaiting = false →
      ∀ m ∈ s.blBox.head?, isMeasure m = true → s.st.displayBusy = true) ?_
    refine forall_congr' fun _ => ⟨fun h old new hm => h _ hm rfl, fun h m hm hk => ?_⟩
    cases m <;> simp only [isMeasure, Bool.false_eq_true] at hk
    exact h _ _ hm
  all_goals exact isTrue trivial

structure CalibInv (s : Core) : Prop where
  phase : Phase s
  off : s.cf.bl.noAutoCalib = true
  paused : s.bl.isWaiting = false → s.bl.paused.has .autocalib = true
  box : ∀ m ∈ s.blBox, Backlight.quiet m = true
  out : Msg.blReqStatic ∉ s.blOut

theorem CalibInv.init {s : Core} (h : Init s) (hoff : s.cf.bl.noAutoCalib = true) : CalibInv s := by
  obtain ⟨hbl, -, -, -, hout, hscr⟩ := h
  refine ⟨.inl (hbl ▸ .init), hoff, fun hw => ?_, fun m hm => ?_, by simp [hout]⟩
  · rw [hbl] at hw
    cases hw
  · split at hscr
    · rw [hscr.2] at hm
      cases hm
    · rcases hscr with ⟨-, hb⟩ | ⟨-, hb⟩ <;> rw [hb] at hm
      · cases hm
      · rw [List.mem_singleton.mp hm]
        rfl

/-- What a step of BACKLIGHT has to leave: AUTOCALIB set if it runs, the configuration,
and quiet messages. -/
theorem CalibInv.onBacklight {f : BlCtx → BlCtx} {s t : Core} (h : CalibInv s)
    (hcf : t.cf = s.cf) (hout : t.blOut = s.blOut) (hbox : ∀ m ∈ t.blBox, m ∈ s.blBox)
    (hphase : Phase (onBacklight f t))
    (hp : (f t.blCtx).loc.isWaiting = false → (f t.blCtx).loc.paused.has .autocalib = true)
    (hoff : (f t.blCtx).cf.bl.noAutoCalib = t.cf.bl.noAutoCalib)
    (hq : ∀ m ∈ (f t.blCtx).out, Backlight.quiet m = true) : CalibInv (onBacklight f t) where
  phase := hphase
  off := by
    have := hoff.trans ((congrArg (fun cf : Conf => cf.bl.noAutoCalib) hcf).trans h.off)
    exact this
  paused := hp
  box m hm := by
    rcases mem_publish_blBox.mp hm with hm | ⟨hm, -⟩
    · exact h.box m (hbox m hm)
    · exact hq m hm
  out hm := by
    rcases List.mem_append.mp hm with hm | hm
    · exact h.out (hout ▸ hm)
    · cases hq _ hm

theorem CalibInv.handle {fit : Fit} {r : BlReplies} {m : Msg} {s t : Core} (h : CalibInv s)
    (hbl : t.bl = s.bl) (hst : t.st = s.st) (hcf : t.cf = s.cf) (hout : t.blOut = s.blOut)
    (hbox : ∀ m ∈ t.blBox, m ∈ s.blBox) (hm : s.bl.isWaiting = false → Backlight.quiet m = true)
    (hscr : s.bl.isWaiting = false → ∀ old new, m = .screenBrUpd old new → s.st.displayBusy = true) :
    CalibInv (Core.onBacklight (Backlight.handle fit r m) t) := by
  have hphase := phase_handle fit r m h.phase hbl
  have hloc : t.blCtx.loc = s.bl := hbl
  rcases h.phase with hw | hr
  · rcases Backlight.handle_waiting fit r m (c := t.blCtx) (hloc ▸ hw) with ⟨hw', he⟩ | ⟨-, he⟩
    · refine h.onBacklight hcf hout hbox hphase (fun hw'' => ?_) (by rw [he]; rfl) (fun m' hm' => ?_)
      · rw [he, hw'.isWaiting] at hw''
        cases hw''
      · rw [he] at hm'
        cases hm'
    -- the last message it waited for: startup sets AUTOCALIB
    · have hf := Backlight.frame_startup_all r (Backlight.seen m t.blCtx)
      refine h.onBacklight hcf hout hbox hphase (fun _ => ?_) (by rw [he]; exact hf.noAutoCalib)
        (fun m' hm' => ?_)
      · rw [he]
        refine Backlight.startup_autocalib r ?_
        exact (congrArg (fun cf : Conf => cf.bl.noAutoCalib) hcf).trans h.off
      · rw [he] at hm'
        rcases hf.out m' hm' with hm' | hq
        · cases hm'
        · exact hq
  · have hnw := hr.not_waiting
    have hspec := Backlight.handle_quiet fit r (m := m) (c := t.blCtx) (hloc ▸ hr)
      (by rw [hloc]; exact h.paused hnw) (hm hnw)
      (fun old new he => (congrArg State.displayBusy hst).trans (hscr hnw old new he))
    refine h.onBacklight hcf hout hbox hphase (fun _ => hspec.1) hspec.2.1 (fun m' hm' => ?_)
    rcases hspec.2.2 m' hm' with hm' | hq
    · cases hm'
    · exact hq

theorem CalibInv.announce {s : Core} (h : CalibInv s) {ms : List Msg} (st : State)
    (hms : ∀ m ∈ ms, Backlight.quiet m = true) : CalibInv (publish ms { s with st := st }) where
  phase := h.phase
  off := h.off
  paused := h.paused
  box m hm := by
    rcases mem_publish_blBox.mp hm with hm | ⟨hm, -⟩
    · exact h.box m hm
    · exact hms m hm
  out := h.out

theorem CalibInv.screenStep {reply : Option ℚ} {m : Msg} {scr : Screen} {s t : Core}
    (h : CalibInv s) (hbl : t.bl = s.bl) (hcf : t.cf = s.cf) (hbox : t.blBox = s.blBox)
    (hout : t.blOut = s.blOut) : CalibInv (onScreen (Screen.handle reply m) scr t) := by
  have hf := Screen.frame_handle reply m (t.scrCtx scr)
  obtain ⟨screen, hcf'⟩ := hf.cf
  refine ⟨?_, ?_, ?_, fun m' hm' => ?_, ?_⟩
  · have hp := h.phase
    unfold Phase at hp ⊢
    simpa [onScreen, hbl] using hp
  · have hoff := h.off
    rw [← hcf] at hoff
    have hbl' := congrArg (fun cf : Conf => cf.bl.noAutoCalib) hcf'
    exact hbl'.trans hoff
  · simpa [onScreen, hbl] using h.paused
  · rcases mem_publish_blBox.mp hm' with hm' | ⟨hm', -⟩
    · exact h.box m' (hbox ▸ hm')
    · rcases hf.out m' hm' with hm' | ⟨old, new, rfl⟩
      · cases hm'
      · rfl
  · simpa [onScreen, hout] using h.out

theorem calib_step {fit : Fit} {s s' : Core} {e : CoreEvent} (h : CalibInv s)
    (hreq : noCalibRequest e = true) (hun : ScreenUnheard s e) (hn : next fit s e = some s') :
    CalibInv s' := by
  cases next_cases hn with
  | deliver r m box he hbox hs' =>
    subst he hs'
    exact h.handle rfl rfl rfl rfl (fun m' hm' => by simp [hbox, hm'])
      (fun _ => h.box m (by simp [hbox]))
      (fun hw old new hscr => hun hw old new (by simp [hbox, hscr]))
  | fd r fd hfd hs' =>
    subst hs'
    refine h.handle rfl rfl rfl rfl (fun _ => id) (fun hw => ?_) (fun _ old new hscr => by cases hscr)
    rcases hfd with rfl | ⟨-, hreg⟩
    · rfl
    · -- bl_fd is not registered while AUTOCALIB pauses BACKLIGHT
      rw [(h.phase.running hw).registered, PauseMask.not_isUnpaused_of_has (h.paused hw)] at hreg
      cases hreg
  | screen reply m scr box hs' =>
    subst hs'
    exact h.screenStep rfl rfl rfl rfl
  | signal c hw hf hs' =>
    subst hs'
    refine h.onBacklight rfl rfl (fun _ => id) (.inr (hf.running (h.phase.running hw)))
      (fun _ => (hf.has .autocalib (by decide)).trans (h.paused hw)) hf.noAutoCalib fun m hm => ?_
    rcases hf.out m hm with hm | hq
    · cases hm
    · exact hq
  | elapse fd sec hs' =>
    subst hs'
    have hp := phase_elapse h.phase fd sec
    cases fd <;> exact ⟨hp, h.off, h.paused, h.box, h.out⟩
  | acState old new _ hs' =>
    subst hs'
    exact h.announce _ fun m hm => by rw [List.mem_singleton.mp hm]; rfl
  | daytime old new inEvent _ hs' =>
    subst hs'
    refine h.announce _ fun m hm => ?_
    rcases mem_daytimeMsgs hm with rfl | rfl <;> rfl
  | announce ms st hs' _ _ _ hms =>
    subst hs'
    refine h.announce _ fun m hm => ?_
    rcases hms m hm with hq | rfl
    · exact hq
    · exact hreq
  | capture up he hs' =>
    subst he
    cases hreq
  | system m hs' =>
    subst hs'
    refine ⟨h.phase, h.off, h.paused, fun m' hm' => ?_, h.out⟩
    rcases List.mem_append.mp hm' with hm' | hm'
    · exact h.box m' hm'
    · rw [List.mem_singleton.mp hm']
      rfl

/-- With no_auto_calib set from startup, BACKLIGHT publishes no level of its own as long
as it hears of the screen brightness only while the display is dimmed or off. -/
theorem no_auto_calib_respected (fit : Fit) {s : Core}
    (hs : ((core fit).startedIn fun s => s.cf.bl.noAutoCalib = true).ReachableBy
      (fun s e => noCalibRequest e = true ∧ ScreenUnheard s e) s) : Msg.blReqStatic ∉ s.blOut := by
  have hinv : CalibInv s := by
    refine Machine.ReachableBy.invariant (I := CalibInv) ?_ ?_ hs
    · intro s h
      exact .init h.1 h.2
    · intro s e s' h hc hn
      exact calib_step h hc.1 hc.2 hn
  exact hinv.out

def noAutoCalibConf : Conf :=
  { Conf.default with bl := { Conf.default.bl with noAutoCalib := true } }

theorem noAutoCalibConf_ints : noAutoCalibConf.IntTimeouts := by
  intro ac
  cases ac <;> decide

/-- A startup on AC with SCREEN: it measures the screen once, then BACKLIGHT starts. -/
def startWithScreen : List CoreEvent :=
  [.acState none .onAc, .lidState .opened, .daytime none .day false, .deliverScr none,
    .deliverScr none, .elapse .screen none, .screenFd (some (1/2)), .deliverBl noCapture,
    .deliverBl noCapture, .deliverBl noCapture, .deliverBl noCapture]

/-- After that startup, the display is dimmed while the next measure of the screen arrives. -/
def measureWhileDimmed : List CoreEvent :=
  startWithScreen ++ [.display displayDimmed, .elapse .screen none, .screenFd (some (1/4)),
    .deliverBl noCapture, .deliverBl noCapture]

/-- BACKLIGHT hears of that measure too, with automatic calibration paused. -/
theorem no_auto_calib_respected_start : ∃ s,
    (core fun _ => (0, 0, 0)).run (start noAutoCalibConf) measureWhileDimmed = some s ∧
    (!s.bl.isWaiting && s.bl.paused.has .autocalib && s.blBox.isEmpty && s.st.displayBusy) = true ∧
      Msg.blReqStatic ∉ s.blOut := by
  have hheard : ((core fun _ => (0, 0, 0)).run (start noAutoCalibConf) measureWhileDimmed).any
      (fun s => !s.bl.isWaiting && s.bl.paused.has .autocalib && s.blBox.isEmpty &&
        s.st.displayBusy) = true := by decide +kernel
  have hby : ((core fun _ => (0, 0, 0)).startedIn fun s => s.cf.bl.noAutoCalib = true).RunBy
      (fun s e => noCalibRequest e = true ∧ ScreenUnheard s e)
      (start noAutoCalibConf) measureWhileDimmed := by decide +kernel
  obtain ⟨s, hs, hp⟩ := (Option.any_eq_true _ _).mp hheard
  exact ⟨s, hs, hp, no_auto_calib_respected (fun _ => (0, 0, 0))
    (.of_run _ (.init ⟨init_start noAutoCalibConf_ints, rfl⟩) hby hs)⟩

/-- After such a startup the next measure of the screen makes BACKLIGHT publish a level:
SCREEN was never told that automatic calibration is disabled. -/
theorem no_auto_calib_ignored : ¬ ∀ (fit : Fit) (s : Core),
    ((core fit).startedIn fun s => s.cf.bl.noAutoCalib = true).ReachableBy
      (fun _ e => noCalibRequest e = true) s → Msg.blReqStatic ∉ s.blOut := by
  intro h
  let es := startWithScreen ++ [.elapse .screen none, .screenFd (some (1/4)), .deliverBl noCapture]
  have hrun : ((core fun _ => (0, 0, 0)).run (start noAutoCalibConf) es).any
      (fun s => decide (Msg.blReqStatic ∈ s.blOut)) = true := by decide +kernel
  obtain ⟨s, hs, hp⟩ := (Option.any_eq_true _ _).mp hrun
  have hes : ∀ e ∈ es, ∀ _ : Core, noCalibRequest e = true := by
    simp [es, startWithScreen, noCalibRequest]
  exact h (fun _ => (0, 0, 0)) s (Machine.ReachableBy.of_run es
    (.init ⟨init_start noAutoCalibConf_ints, rfl⟩) (Machine.runBy_of_forall hes _) hs)
    (of_decide_eq_true hp)

end Clight.Core
