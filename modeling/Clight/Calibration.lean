import Clight.CoreRuns
import Clight.MonOverride
import Clight.ScreenFrame

/-! Automatic calibration: which messages make BACKLIGHT capture or compute a level, and
what all others leave alone. BACKLIGHT and SCREEN run beside the bus, which writes the
options of the configuration that have no request of their own. -/
namespace Clight

namespace Backlight

/-- The guard of both receivers on SCREEN_BR_UPD and BL_REQ. -/
def accepts (c : BlCtx) : Bool :=
  match c.loc.stack with
  | .waitingInit :: _ => false
  | .paused :: _ => !c.st.displayBusy
  | [] => true

/-- The guard of both receivers on CAPTURE_REQ. -/
def acceptsCapture (c : BlCtx) : Bool :=
  match c.loc.stack with
  | .waitingInit :: _ => false
  | .paused :: _ => !c.st.displayBusy && c.st.sensOk
  | [] => true

theorem accepts_of_waiting {c : BlCtx} (h : Waiting c.loc) :
    accepts c = false ∧ acceptsCapture c = false := by
  unfold accepts acceptsCapture
  rw [h.stack]
  exact ⟨rfl, rfl⟩

section Running
variable (fit : Fit) (r : BlReplies) {c : BlCtx} (h : Running c.loc)
include h

theorem handle_screenBrUpd (old new : ℚ) :
    handle fit r (.screenBrUpd old new) c = if accepts c then setNewBacklight c else c := by
  have hs := h.stack
  unfold handle accepts
  split at hs <;> rw [hs]
  · rfl
  · dsimp only [receivePaused]
    cases c.st.displayBusy <;> rfl

theorem handle_captureReq (sender : ModName) (up : CaptureUpd) : handle fit r (.captureReq sender up) c =
    if acceptsCapture c then doCapture r up.resetTimer up.captureOnly c else c := by
  have hs := h.stack
  unfold handle acceptsCapture
  split at hs <;> rw [hs]
  · rfl
  · rfl

theorem handle_captureReqStatic : handle fit r .captureReqStatic c =
    if acceptsCapture c then
      doCapture r c.loc.captureReq.resetTimer c.loc.captureReq.captureOnly c
    else c := by
  have hs := h.stack
  unfold handle acceptsCapture
  split at hs <;> rw [hs]
  · rfl
  · rfl

theorem handle_blReqStatic :
    handle fit r .blReqStatic c = onBlReqStatic r (accepts c) c := by
  have hs := h.stack
  unfold handle accepts
  split at hs <;> rw [hs]
  · rfl
  · rfl

end Running

/-- What Capture answered, if handling the message makes BACKLIGHT capture. -/
def captures (r : BlReplies) (m : Msg) (c : BlCtx) : Option ℚ :=
  match m with
  | .captureReq _ _ | .captureReqStatic => if acceptsCapture c then r.capture else none
  | _ => none

/-- Messages on which BACKLIGHT may compute a level. -/
def calibrates : Msg → Bool
  | .screenBrUpd _ _ | .captureReq _ _ | .captureReqStatic => true
  | _ => false

/-! ### What the other messages leave alone -/

/-- The last ambient brightness and the static requests are as they were, and
set_new_backlight has not asked for a level. -/
structure Calm (c c' : BlCtx) : Prop where
  ambientBr : c'.st.ambientBr = c.st.ambientBr
  blReq : c'.loc.blReq = c.loc.blReq
  resetTimer : c'.loc.captureReq.resetTimer = c.loc.captureReq.resetTimer
  out : Msg.blReqStatic ∈ c'.out → Msg.blReqStatic ∈ c.out

namespace Calm
variable {c c₁ c₂ : BlCtx}

theorem refl (c : BlCtx) : Calm c c := ⟨rfl, rfl, rfl, id⟩

theorem trans (h₁ : Calm c c₁) (h₂ : Calm c₁ c₂) : Calm c c₂ where
  ambientBr := h₂.ambientBr.trans h₁.ambientBr
  blReq := h₂.blReq.trans h₁.blReq
  resetTimer := h₂.resetTimer.trans h₁.resetTimer
  out h := h₁.out (h₂.out h)

theorem ite {b : Prop} [Decidable b] (h₁ : Calm c c₁) (h₂ : Calm c c₂) :
    Calm c (if b then c₁ else c₂) := by
  split
  · exact h₁
  · exact h₂

theorem publish (h : Calm c c₁) {m : Msg} (hm : m ≠ .blReqStatic) : Calm c (c₁.publish m) where
  ambientBr := h.ambientBr
  blReq := h.blReq
  resetTimer := h.resetTimer
  out hout := by
    rcases List.mem_append.mp hout with hout | hout
    · exact h.out hout
    · exact absurd (List.mem_singleton.mp hout).symm hm

end Calm

theorem calm_pauseIf (on : Bool) (r : ModPause) (c : BlCtx) : Calm c (pauseIf on r c) :=
  Calm.ite ⟨rfl, rfl, rfl, id⟩ ⟨rfl, rfl, rfl, id⟩

theorem calm_resetOrPause (old : ℤ) (reset : Bool) (c : BlCtx) : Calm c (resetOrPause old reset c) :=
  Calm.ite ⟨rfl, rfl, rfl, id⟩ (.ite ⟨rfl, rfl, rfl, id⟩ ⟨rfl, rfl, rfl, id⟩)

theorem calm_onLidUpdate (c : BlCtx) : Calm c (onLidUpdate c) := by
  have htimer : Calm c (if c.cf.bl.captureOnLidOpened then setBlFd (setTimeout 0 1) c else c) :=
    .ite ⟨rfl, rfl, rfl, id⟩ (.refl c)
  exact .ite (.ite ⟨rfl, rfl, rfl, id⟩ (.refl c)) (htimer.trans ⟨rfl, rfl, rfl, id⟩)

theorem calm_onSensorChange (r : BlReplies) (c : BlCtx) : Calm c (onSensorChange r c) := by
  refine .ite (.refl c) ?_
  have hpub : Calm c { c.publish (.sensUpd c.st.sensAvail r.sensor) with
      st := { c.st with sensAvail := some r.sensor } } := by
    have hmsg := (Calm.refl c).publish (m := .sensUpd c.st.sensAvail r.sensor) nofun
    exact ⟨rfl, rfl, rfl, hmsg.out⟩
  exact .ite (hpub.trans ⟨rfl, rfl, rfl, id⟩) (hpub.trans ⟨rfl, rfl, rfl, id⟩)

theorem calm_setBacklightLevel (r : BlReplies) (pct : ℚ) (isSmooth : Bool) (step : ℚ)
    (timeout : ℤ) (c : BlCtx) : Calm c (setBacklightLevel r pct isSmooth step timeout c) := by
  have hcall (k : BlCall) : Calm c (c.call k) := ⟨rfl, rfl, rfl, id⟩
  refine .ite ⟨rfl, rfl, rfl, id⟩ (.ite ?_ (hcall _))
  exact (hcall _).publish nofun

theorem calm_onDelayedInterface (c : BlCtx) : Calm c (onDelayedInterface c) := by
  have htemp := (Calm.refl c).publish (m := .tempReq .backlight
    { daytime := -1, new := c.st.currentTemp, smooth := -1, step := 0, timeout := 0 }) nofun
  have hboth := htemp.publish (m := .blReq
    { new := c.st.currentBlPct, smooth := -1, timeout := 0, step := 0 }) nofun
  exact hboth.trans ⟨rfl, rfl, rfl, id⟩

theorem calm_scheduleSync (c : BlCtx) : Calm c (scheduleSync c) :=
  Calm.ite ⟨rfl, rfl, rfl, id⟩ (calm_onDelayedInterface c)

theorem calm_onInterfaceAdded (mon : MonId) (c : BlCtx) : Calm c (onInterfaceAdded mon c) := by
  refine Calm.trans ?_ (calm_scheduleSync _)
  exact ⟨rfl, rfl, rfl, id⟩

theorem calm_onInterfaceRemoved {mon : MonId} {c c' : BlCtx}
    (h : onInterfaceRemoved mon c = some c') : Calm c c' := by
  unfold onInterfaceRemoved at h
  split at h
  · cases h
  · obtain rfl := Option.some.inj h
    refine Calm.trans ?_ (calm_scheduleSync _)
    exact ⟨rfl, rfl, rfl, id⟩

theorem calm_onBlChanged (mon : MonId) (pct : ℚ) (c : BlCtx) : Calm c (onBlChanged mon pct c) := by
  have hstore : Calm c { c with loc := { c.loc with
      backlightInterface := some (c.loc.backlightInterface.getD mon) } } := ⟨rfl, rfl, rfl, id⟩
  have hpub := hstore.publish (m := .blUpd c.st.currentBlPct
    { new := pct, smooth := 0, timeout := 0, step := 0 }) nofun
  exact .ite (hpub.trans ⟨rfl, rfl, rfl, id⟩) hstore

theorem onSensorChange_blFd (r : BlReplies) (c : BlCtx) :
    (onSensorChange r c).loc.blFd = c.loc.blFd := by
  unfold onSensorChange
  split
  · rfl
  · dsimp only
    split <;> rfl

theorem scheduleSync_blFd (c : BlCtx) : (scheduleSync c).loc.blFd = c.loc.blFd := by
  unfold scheduleSync
  split <;> rfl

theorem onBlChanged_blFd (mon : MonId) (pct : ℚ) (c : BlCtx) :
    (onBlChanged mon pct c).loc.blFd = c.loc.blFd := by
  unfold onBlChanged
  dsimp only
  split <;> rfl

theorem onInterfaceRemoved_blFd {mon : MonId} {c c' : BlCtx}
    (h : onInterfaceRemoved mon c = some c') : c'.loc.blFd = c.loc.blFd := by
  unfold onInterfaceRemoved at h
  split at h
  · cases h
  · obtain rfl := Option.some.inj h
    exact scheduleSync_blFd _

theorem calm_onCurveReq (fit : Fit) (up : CurveUpd) (c : BlCtx) : Calm c (onCurveReq fit up c) := by
  refine .ite ?_ (.refl c)
  split
  · exact ⟨rfl, rfl, rfl, id⟩
  · exact .refl c

theorem calm_onBlToReq (up : TimeoutUpd) (c : BlCtx) : Calm c (onBlToReq up c) := by
  unfold onBlToReq
  dsimp only
  split
  · unfold interfaceTimeoutCallback
    split
    · exact .refl c
    · have hwrite (t : AcState → BlTime → ℤ) : Calm c (withTimeouts t c) := ⟨rfl, rfl, rfl, id⟩
      exact .ite ((hwrite _).trans (calm_resetOrPause _ true _)) (hwrite _)
  · exact .refl c

theorem calm_onNoAutocalibReq (new : Bool) (c : BlCtx) : Calm c (onNoAutocalibReq new c) := by
  have hwrite : Calm c { c with cf := { c.cf with bl := { c.cf.bl with noAutoCalib := new } } } :=
    ⟨rfl, rfl, rfl, id⟩
  have hpause := hwrite.trans (calm_pauseIf new .autocalib _)
  exact .ite (hpause.publish nofun) (.refl c)

theorem calm_onBlReq (r : BlReplies) (accept : Bool) (up : BlUpd) (c : BlCtx) :
    Calm c (onBlReq r accept up c) :=
  Calm.ite (calm_setBacklightLevel r _ _ _ _ c) (.refl c)

theorem calm_onBlFd (c : BlCtx) : Calm c (onBlFd c) := by
  have hread : Calm c (setBlFd c.loc.blFd.read c) := ⟨rfl, rfl, rfl, id⟩
  refine hread.trans (Calm.publish ?_ nofun)
  exact ⟨rfl, rfl, rfl, id⟩

theorem calm_startup (r : BlReplies) (c : BlCtx) : Calm c (startup r c) := by
  have hcal (c' : BlCtx) : Calm c' (if c'.cf.bl.noAutoCalib then
      pauseMod .autocalib (setBacklightLevel r 1 (!c'.cf.bl.smooth.noSmooth) 0 0 c') else c') := by
    have hfull := calm_setBacklightLevel r 1 (!c'.cf.bl.smooth.noSmooth) 0 0 c'
    exact .ite (hfull.trans ⟨rfl, rfl, rfl, id⟩) (.refl c')
  have hlid (c' : BlCtx) : Calm c' (if c'.st.lidShut then onLidUpdate c' else c') :=
    .ite (calm_onLidUpdate c') (.refl c')
  have hstart : Calm c (onSensorChange r (resetOrPause (-1) false (timerStarted c))) := by
    refine Calm.trans ?_ ((calm_resetOrPause (-1) false _).trans (calm_onSensorChange r _))
    exact ⟨rfl, rfl, rfl, id⟩
  have hrest := (hstart.trans (hcal _)).trans (hlid _)
  exact hrest.trans ⟨rfl, rfl, rfl, id⟩

/-- Every message but those on which BACKLIGHT computes a level, and its own request. -/
theorem calm_receive (fit : Fit) (r : BlReplies) {m : Msg} (hm : calibrates m = false)
    (hreq : m ≠ .blReqStatic) (c : BlCtx) : Calm c (receive fit r m c) := by
  have hread : Calm c (readDelayed c) := ⟨rfl, rfl, rfl, id⟩
  unfold receive
  split
  · exact hread.trans (calm_onDelayedInterface _)
  · exact calm_onBlFd c
  · cases hm
  · exact ⟨rfl, rfl, rfl, id⟩
  · exact calm_pauseIf _ .display c
  · exact calm_resetOrPause _ true c
  · exact calm_resetOrPause _ true c
  · exact calm_onLidUpdate c
  · exact calm_pauseIf _ .suspend c
  · exact calm_pauseIf _ .inhibit c
  · exact calm_onBlToReq _ c
  · cases hm
  · cases hm
  · exact calm_onCurveReq fit _ c
  · exact calm_onNoAutocalibReq _ c
  · exact calm_onBlReq r true _ c
  · exact absurd rfl hreq
  · exact .ite ⟨rfl, rfl, rfl, id⟩ (.refl c)
  · exact .refl c

theorem calm_handle_waiting (fit : Fit) (r : BlReplies) (m : Msg) {c : BlCtx}
    (h : Waiting c.loc) : Calm c (handle fit r m c) := by
  have hseen : Calm c (seen m c) := ⟨rfl, rfl, rfl, id⟩
  rcases handle_waiting fit r m h with ⟨-, he⟩ | ⟨-, he⟩
  · rw [he]
    exact hseen
  · rw [he]
    exact hseen.trans (calm_startup r _)

theorem calm_handle (fit : Fit) (r : BlReplies) {m : Msg} {c : BlCtx}
    (h : Running c.loc) (hm : calibrates m = false) (hreq : m ≠ .blReqStatic) :
    Calm c (handle fit r m c) := by
  rcases handle_eq_receive fit r m h with he | he | he | ⟨hstatic, -⟩
  · rw [he]
    exact calm_receive fit r hm hreq c
  · rw [he]
    exact .refl c
  · rw [he]
    refine Calm.trans ?_ (calm_onDelayedInterface _)
    exact ⟨rfl, rfl, rfl, id⟩
  · exact absurd hstatic hreq

/-! ### What the messages on which it computes a level do -/

theorem setNewBacklight_params (c : BlCtx) :
    ∃ new, (setNewBacklight c).loc.blReq = { c.loc.blReq with new := new } := by
  obtain ⟨new, out, -, heq⟩ := setNewBacklight_eq c
  rw [heq]
  exact ⟨new, rfl⟩

theorem setNewBacklight_ambientBr (c : BlCtx) :
    (setNewBacklight c).st.ambientBr = c.st.ambientBr := by
  obtain ⟨new, out, -, heq⟩ := setNewBacklight_eq c
  rw [heq]
  rfl

/-- do_capture is the outcome of Capture; only the timer may follow. -/
theorem doCapture_eq (r : BlReplies) (reset captureOnly : Bool) (c : BlCtx) :
    ∃ fd, doCapture r reset captureOnly c = setBlFd fd (captured r.capture captureOnly c) := by
  unfold doCapture
  dsimp only
  split
  · exact ⟨_, rfl⟩
  · exact ⟨(captured r.capture captureOnly c).loc.blFd, rfl⟩

/-- do_capture stores what Capture answered, and asks for a level only if it is clear. -/
theorem doCapture_ambientBr (r : BlReplies) (reset captureOnly : Bool) (c : BlCtx) :
    (doCapture r reset captureOnly c).st.ambientBr = r.capture.getD c.st.ambientBr := by
  obtain ⟨fd, he⟩ := doCapture_eq r reset captureOnly c
  rw [he]
  show (captured r.capture captureOnly c).st.ambientBr = r.capture.getD c.st.ambientBr
  unfold captured
  cases r.capture with
  | none => rfl
  | some br =>
    dsimp only
    split
    · exact setNewBacklight_ambientBr _
    · rfl

theorem doCapture_out (r : BlReplies) (reset captureOnly : Bool) {c : BlCtx}
    (hout : Msg.blReqStatic ∈ (doCapture r reset captureOnly c).out) :
    Msg.blReqStatic ∈ c.out ∨ ∃ br, r.capture = some br ∧ c.cf.bl.shutterThreshold ≤ br := by
  obtain ⟨fd, he⟩ := doCapture_eq r reset captureOnly c
  rw [he] at hout
  have hcapt : Msg.blReqStatic ∈ (captured r.capture captureOnly c).out := hout
  unfold captured at hcapt
  cases hr : r.capture with
  | none =>
    rw [hr] at hcapt
    exact .inl hcapt
  | some br =>
    rw [hr] at hcapt
    dsimp only at hcapt
    split at hcapt
    · next hclear => exact .inr ⟨br, rfl, hclear.1⟩
    · left
      rcases List.mem_append.mp hcapt with hcapt | hcapt
      · exact hcapt
      · cases List.mem_singleton.mp hcapt

theorem doCapture_params (r : BlReplies) (reset captureOnly : Bool) (c : BlCtx) :
    ∃ new, (doCapture r reset captureOnly c).loc.blReq = { c.loc.blReq with new := new } := by
  obtain ⟨fd, he⟩ := doCapture_eq r reset captureOnly c
  rw [he]
  show ∃ new, (captured r.capture captureOnly c).loc.blReq = { c.loc.blReq with new := new }
  unfold captured
  cases r.capture with
  | none => exact ⟨c.loc.blReq.new, rfl⟩
  | some br =>
    dsimp only
    split
    · exact setNewBacklight_params _
    · exact ⟨c.loc.blReq.new, rfl⟩

theorem captures_of_not_calibrates (r : BlReplies) {m : Msg} (hm : calibrates m = false)
    (c : BlCtx) : captures r m c = none := by
  unfold calibrates at hm
  unfold captures
  split at hm <;> simp_all

/-- A request for a capture is met, or dropped as a whole. -/
theorem captures_or_drops {fit : Fit} {r : BlReplies} {m : Msg} {c : BlCtx} {reset captureOnly : Bool}
    (hcapt : captures r m c = if acceptsCapture c then r.capture else none)
    (hhandle : handle fit r m c = if acceptsCapture c then doCapture r reset captureOnly c else c) :
    captures r m c = none ∧ Calm c (handle fit r m c) ∨
      ∃ reset captureOnly, captures r m c = r.capture ∧
        handle fit r m c = doCapture r reset captureOnly c := by
  rw [hcapt, hhandle]
  by_cases hacc : acceptsCapture c = true
  · rw [if_pos hacc, if_pos hacc]
    exact .inr ⟨reset, captureOnly, rfl, rfl⟩
  · rw [if_neg hacc, if_neg hacc]
    exact .inl ⟨rfl, .refl c⟩

/-- All that BACKLIGHT can do with a message: nothing that matters to the calibration, its
own request, a new level for SCREEN_BR_UPD, or a capture. -/
theorem handle_calibration (fit : Fit) (r : BlReplies) (m : Msg) {c : BlCtx}
    (h : Waiting c.loc ∨ Running c.loc) :
    captures r m c = none ∧ Calm c (handle fit r m c) ∨
    m = .blReqStatic ∧ Running c.loc ∧ handle fit r m c = onBlReqStatic r (accepts c) c ∨
    (∃ old new, m = .screenBrUpd old new ∧ accepts c = true ∧
      handle fit r m c = setNewBacklight c) ∨
    ∃ reset captureOnly, captures r m c = r.capture ∧
      handle fit r m c = doCapture r reset captureOnly c := by
  rcases h with h | h
  · -- a waiting module captures nothing
    have hnone : captures r m c = none := by
      unfold captures
      rw [(accepts_of_waiting h).2]
      split <;> rfl
    exact .inl ⟨hnone, calm_handle_waiting fit r m h⟩
  by_cases hreq : m = .blReqStatic
  · subst hreq
    exact .inr (.inl ⟨rfl, h, handle_blReqStatic fit r h⟩)
  cases hm : calibrates m with
  | false => exact .inl ⟨captures_of_not_calibrates r hm c, calm_handle fit r h hm hreq⟩
  | true =>
    unfold calibrates at hm
    split at hm
    · rw [handle_screenBrUpd fit r h]
      split
      · next hacc => exact .inr (.inr (.inl ⟨_, _, rfl, hacc, rfl⟩))
      · exact .inl ⟨rfl, .refl c⟩
    · exact (captures_or_drops rfl (handle_captureReq fit r h ..)).imp_right fun h => .inr (.inr h)
    · exact (captures_or_drops rfl (handle_captureReqStatic fit r h)).imp_right fun h => .inr (.inr h)
    · cases hm

end Backlight

/-! ### The machine -/

inductive CalibrationEvent
  | core (e : CoreEvent)
  | properties (cf : Conf)

/-- What the bus can write straight into the configuration: the rest is written by the
receivers of requests. -/
def Conf.write (old new : Conf) : Conf :=
  { new with
    bl := { new.bl with timeout := old.bl.timeout, noAutoCalib := old.bl.noAutoCalib }
    sens := { new.sens with defaultCurve := old.sens.defaultCurve }
    screen := { new.screen with contrib := old.screen.contrib, timeout := old.screen.timeout } }

def CoreEvent.isSignal : CoreEvent → Bool
  | .sensorChanged _ | .blChanged _ _ | .interfaceAdded _ | .interfaceRemoved _ => true
  | _ => false

def calibration (fit : Fit) : Machine Core CalibrationEvent where
  init := Core.Init
  next s
    | .core e => Core.next fit s e
    | .properties cf => some { s with cf := s.cf.write cf }

namespace Core

theorem phase_calibration {fit : Fit} {s : Core} (hs : (calibration fit).Reachable s) : Phase s := by
  refine Machine.ReachableBy.invariant (I := Phase) ?_ ?_ hs
  · intro s h
    left
    rw [h.1]
    exact .init
  · intro s e s' h _ hn
    cases e with
    | core e => exact phase_step h hn
    | properties cf =>
      obtain rfl := Option.some.inj hn
      exact h

/-- The message that BACKLIGHT handles in a step, with the outcome of its calls. -/
def handled (s : Core) : CoreEvent → Option (BlReplies × Msg)
  | .deliverBl r => s.blBox.head?.map fun m => (r, m)
  | .blFd r => some (r, .fdUpd .bl)
  | .delayedFd r => some (r, .fdUpd .delayed)
  | _ => none

/-- All but the expirations of its timers come from the mailbox. -/
theorem handled_mailbox {s : Core} {e : CoreEvent} {r : BlReplies} {m : Msg}
    (he : handled s e = some (r, m)) (hm : ∀ fd, m ≠ .fdUpd fd) :
    e = .deliverBl r ∧ ∃ box, s.blBox = m :: box := by
  cases e
  case deliverBl r' =>
    obtain ⟨m', hhead, hp⟩ := Option.map_eq_some_iff.mp he
    obtain ⟨rfl, rfl⟩ := Prod.mk.inj hp
    exact ⟨rfl, List.head?_eq_some_iff.mp hhead⟩
  case blFd r' => exact absurd (Prod.mk.inj (Option.some.inj he)).2.symm (hm .bl)
  case delayedFd r' => exact absurd (Prod.mk.inj (Option.some.inj he)).2.symm (hm .delayed)
  all_goals cases he

/-- What BACKLIGHT has published in the step from `s` to `s'`. -/
def published (s s' : Core) : List Msg := s'.blOut.drop s.blOut.length

theorem published_onBacklight (f : BlCtx → BlCtx) {s t : Core} (hout : t.blOut = s.blOut) :
    published s (onBacklight f t) = (f t.blCtx).out := by
  have happ : (onBacklight f t).blOut = s.blOut ++ (f t.blCtx).out := by
    rw [← hout]
    rfl
  unfold published
  rw [happ, List.drop_left]

/-- A step in which BACKLIGHT computes no level and handles none of its own requests. -/
structure CalmStep (s s' : Core) : Prop where
  ambientBr : s'.st.ambientBr = s.st.ambientBr
  blReq : s'.bl.blReq = s.bl.blReq
  resetTimer : s'.bl.captureReq.resetTimer = s.bl.captureReq.resetTimer
  published : Msg.blReqStatic ∉ published s s'

theorem CalmStep.onBacklight {f : BlCtx → BlCtx} {s t : Core} (hbl : t.bl = s.bl)
    (hst : t.st = s.st) (hout : t.blOut = s.blOut) (hf : Backlight.Calm t.blCtx (f t.blCtx)) :
    CalmStep s (onBacklight f t) where
  ambientBr := hf.ambientBr.trans (congrArg State.ambientBr hst)
  blReq := hf.blReq.trans (congrArg Backlight.blReq hbl)
  resetTimer := hf.resetTimer.trans (congrArg (fun l : Backlight => l.captureReq.resetTimer) hbl)
  published hmem := by
    rw [published_onBacklight f hout] at hmem
    cases hf.out hmem

/-- A step that is not BACKLIGHT's. -/
theorem CalmStep.of_eq {s s' : Core} (hambient : s'.st.ambientBr = s.st.ambientBr)
    (hreq : s'.bl.blReq = s.bl.blReq) (hcapture : s'.bl.captureReq = s.bl.captureReq)
    (hout : s'.blOut = s.blOut) : CalmStep s s' where
  ambientBr := hambient
  blReq := hreq
  resetTimer := congrArg CaptureUpd.resetTimer hcapture
  published hmem := by
    unfold Core.published at hmem
    rw [hout, List.drop_length] at hmem
    cases hmem

theorem CalmStep.onScreen (reply : Option ℚ) (m : Msg) (scr : Screen) {s t : Core}
    (hbl : t.bl = s.bl) (hst : t.st = s.st) (hout : t.blOut = s.blOut) :
    CalmStep s (onScreen (Screen.handle reply m) scr t) := by
  obtain ⟨br, hframe⟩ := (Screen.frame_handle reply m (t.scrCtx scr)).st
  have hkept : t.st.ambientBr = s.st.ambientBr := congrArg State.ambientBr hst
  have hambient : (Screen.handle reply m (t.scrCtx scr)).st.ambientBr = s.st.ambientBr := by
    rw [hframe]
    exact hkept
  exact .of_eq hambient (congrArg Backlight.blReq hbl) (congrArg Backlight.captureReq hbl) hout

/-- What is left by a signal of Clightd: a started BACKLIGHT that has computed no level and not
touched its timer. -/
structure Signalled (s : Core) (c : BlCtx) : Prop where
  started : s.bl.isWaiting = false
  frame : Backlight.Frame [.sensor] (fun m => Backlight.quiet m = true) s.blCtx c
  calm : Backlight.Calm s.blCtx c
  blFd : c.loc.blFd = s.bl.blFd

theorem next_signal {fit : Fit} {s s' : Core} {e : CoreEvent} (he : e.isSignal = true)
    (hn : next fit s e = some s') : ∃ c, Signalled s c ∧ s' = onBacklight (fun _ => c) s := by
  unfold CoreEvent.isSignal at he
  split at he
  all_goals simp only [next] at hn
  · split_ifs at hn with hw
    exact ⟨_, ⟨Bool.eq_false_iff.mpr hw,
      Backlight.frame_onSensorChange (by decide) (fun _ _ => rfl) _ _,
      Backlight.calm_onSensorChange _ _, Backlight.onSensorChange_blFd _ _⟩,
      (Option.some.inj hn).symm⟩
  · split_ifs at hn with hw
    exact ⟨_, ⟨Bool.eq_false_iff.mpr hw, Backlight.frame_onBlChanged (fun _ _ => rfl) _ _ _,
      Backlight.calm_onBlChanged _ _ _, Backlight.onBlChanged_blFd _ _ _⟩,
      (Option.some.inj hn).symm⟩
  · split_ifs at hn with hw
    exact ⟨_, ⟨Bool.eq_false_iff.mpr hw,
      Backlight.frame_onInterfaceAdded (fun _ _ => rfl) (fun _ => rfl) _ _,
      Backlight.calm_onInterfaceAdded _ _, Backlight.scheduleSync_blFd _⟩,
      (Option.some.inj hn).symm⟩
  · split_ifs at hn with hw
    obtain ⟨c, hc, rfl⟩ := Option.map_eq_some_iff.mp hn
    exact ⟨c, ⟨Bool.eq_false_iff.mpr hw,
      Backlight.frame_onInterfaceRemoved (fun _ _ => rfl) (fun _ => rfl) hc,
      Backlight.calm_onInterfaceRemoved hc, Backlight.onInterfaceRemoved_blFd hc⟩, rfl⟩
  · cases he

/-- BACKLIGHT handles a message, or the step is calm. -/
theorem next_handled {fit : Fit} {s s' : Core} {e : CoreEvent} (hn : next fit s e = some s') :
    (∃ r m box, handled s e = some (r, m) ∧
      s' = onBacklight (Backlight.handle fit r m) { s with blBox := box }) ∨
    handled s e = none ∧ CalmStep s s' := by
  by_cases hsig : e.isSignal = true
  · obtain ⟨c, hc, rfl⟩ := next_signal hsig hn
    refine .inr ⟨?_, .onBacklight rfl rfl rfl hc.calm⟩
    unfold CoreEvent.isSignal at hsig
    split at hsig <;> first | rfl | cases hsig
  cases e <;> simp only [next] at hn
  case deliverBl r =>
    obtain ⟨m, box, hbox, hs'⟩ := next_deliverBl hn
    refine .inl ⟨r, m, box, ?_, hs'⟩
    unfold handled
    rw [hbox]
    rfl
  case deliverScr reply =>
    obtain ⟨scr, m, box, -, -, rfl⟩ := next_deliverScr fit hn
    exact .inr ⟨rfl, .onScreen reply _ _ rfl rfl rfl⟩
  case blFd r =>
    split_ifs at hn
    exact .inl ⟨r, .fdUpd .bl, s.blBox, rfl, (Option.some.inj hn).symm⟩
  case delayedFd r =>
    split_ifs at hn
    exact .inl ⟨r, .fdUpd .delayed, s.blBox, rfl, (Option.some.inj hn).symm⟩
  case screenFd reply =>
    obtain ⟨scr, -, -, rfl⟩ := next_screenFd fit hn
    exact .inr ⟨rfl, .onScreen reply _ _ rfl rfl rfl⟩
  case elapse fd sec =>
    obtain rfl := Option.some.inj hn
    cases fd <;> exact .inr ⟨rfl, .of_eq rfl rfl rfl rfl⟩
  case request m =>
    split_ifs at hn
    obtain rfl := Option.some.inj hn
    exact .inr ⟨rfl, .of_eq rfl rfl rfl rfl⟩
  case system m =>
    split_ifs at hn
    obtain rfl := Option.some.inj hn
    exact .inr ⟨rfl, .of_eq rfl rfl rfl rfl⟩
  case sensorChanged | blChanged | interfaceAdded | interfaceRemoved => exact absurd rfl hsig
  all_goals
    obtain rfl := Option.some.inj hn
    exact .inr ⟨rfl, .of_eq rfl rfl rfl rfl⟩

/-! ### A run of the start -/

/-- The default configuration without SCREEN, with straight curves. -/
def blOnlyConf : Conf := initCurves (fun _ => (0, 1/10, 0))
  { Conf.default with screen := { Conf.default.screen with disabled := true } }

theorem init_blOnly : Init (start blOnlyConf) := by
  apply init_start
  intro ac
  cases ac <;> decide

/-- BACKLIGHT starts on AC by day with the lid open. -/
def startCapturing : List CalibrationEvent :=
  [.core (.acState none .onAc), .core (.lidState .opened), .core (.daytime none .day false),
    .core (.deliverBl noCapture), .core (.deliverBl noCapture), .core (.deliverBl noCapture)]

end Core
end Clight
