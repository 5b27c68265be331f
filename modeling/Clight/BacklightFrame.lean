import Clight.Backlight

/-! What the callbacks of BACKLIGHT leave unchanged: the pause reasons they do
not handle, the receiver that the mask selects, and the cell of the timeout table
in force. -/
namespace Clight.Backlight

def isWaiting (l : Backlight) : Bool := l.stack.head? = some .waitingInit

/-- After startup the mask decides which receiver runs and whether bl_fd is
registered. -/
structure Running (l : Backlight) : Prop where
  stack : l.stack = if l.paused.isUnpaused then [] else [.paused]
  registered : l.blRegistered = l.paused.isUnpaused

theorem Running.not_waiting {l : Backlight} (h : Running l) : l.isWaiting = false := by
  rw [isWaiting, h.stack]
  split <;> rfl

/-- `c'` comes from `c` by code that handles only the reasons of `R`, publishes
only messages of `P` and writes neither the backlight timeouts nor GAMMA's section. -/
structure Frame (R : List ModPause) (P : Msg → Prop) (c c' : BlCtx) : Prop where
  has : ∀ r ∉ R, c'.loc.paused.has r = c.loc.paused.has r
  running : Running c.loc → Running c'.loc
  out : ∀ m ∈ c'.out, m ∈ c.out ∨ P m
  acState : c'.st.acState = c.st.acState
  dayTime : c'.st.dayTime = c.st.dayTime
  inEvent : c'.st.inEvent = c.st.inEvent
  timeout : c'.cf.bl.timeout = c.cf.bl.timeout
  noAutoCalib : c'.cf.bl.noAutoCalib = c.cf.bl.noAutoCalib
  gamma : c'.cf.gamma = c.cf.gamma

namespace Frame
variable {R : List ModPause} {P : Msg → Prop} {c c₁ c₂ : BlCtx}

theorem refl (c : BlCtx) : Frame R P c c where
  has _ _ := rfl
  running := id
  out _ := Or.inl
  acState := rfl
  dayTime := rfl
  inEvent := rfl
  timeout := rfl
  noAutoCalib := rfl
  gamma := rfl

theorem trans (h₁ : Frame R P c c₁) (h₂ : Frame R P c₁ c₂) : Frame R P c c₂ where
  has r hr := (h₂.has r hr).trans (h₁.has r hr)
  running h := h₂.running (h₁.running h)
  out m hm := (h₂.out m hm).elim (h₁.out m) Or.inr
  acState := h₂.acState.trans h₁.acState
  dayTime := h₂.dayTime.trans h₁.dayTime
  inEvent := h₂.inEvent.trans h₁.inEvent
  timeout := h₂.timeout.trans h₁.timeout
  noAutoCalib := h₂.noAutoCalib.trans h₁.noAutoCalib
  gamma := h₂.gamma.trans h₁.gamma

theorem mono {R' : List ModPause} (h : Frame R P c c₁) (hR : R ⊆ R') : Frame R' P c c₁ :=
  { h with has := fun r hr => h.has r fun hmem => hr (hR hmem) }

theorem ite {b : Prop} [Decidable b] (h₁ : Frame R P c c₁) (h₂ : Frame R P c c₂) :
    Frame R P c (if b then c₁ else c₂) := by
  split
  exacts [h₁, h₂]

theorem publish {m : Msg} (h : Frame R P c c₁) (hm : P m) : Frame R P c (c₁.publish m) where
  has := h.has
  running := h.running
  out m' hm' := by
    rcases List.mem_append.mp hm' with hm' | hm'
    · exact h.out m' hm'
    · exact Or.inr (List.mem_singleton.mp hm' ▸ hm)
  acState := h.acState
  dayTime := h.dayTime
  inEvent := h.inEvent
  timeout := h.timeout
  noAutoCalib := h.noAutoCalib
  gamma := h.gamma

theorem withSt {st : State} (h : Frame R P c c₁) (hac : st.acState = c₁.st.acState)
    (hday : st.dayTime = c₁.st.dayTime) (hev : st.inEvent = c₁.st.inEvent) :
    Frame R P c { c₁ with st := st } where
  has := h.has
  running := h.running
  out := h.out
  acState := hac.trans h.acState
  dayTime := hday.trans h.dayTime
  inEvent := hev.trans h.inEvent
  timeout := h.timeout
  noAutoCalib := h.noAutoCalib
  gamma := h.gamma

theorem calls (h : Frame R P c c₁) (ks : List BlCall) : Frame R P c { c₁ with calls := ks } :=
  { h with }

theorem currentTimeout (h : Frame R P c c₁) : getCurrentTimeout c₁ = getCurrentTimeout c := by
  simp only [getCurrentTimeout, BlConf.timeoutAt, h.acState, h.dayTime, h.inEvent, h.timeout]

end Frame

variable {R : List ModPause} {P : Msg → Prop}

theorem frame_pauseMod {r : ModPause} (hr : r ∈ R) (c : BlCtx) : Frame R P c (pauseMod r c) where
  has r' hr' := by
    have hne : r ≠ r' := fun h => hr' (h ▸ hr)
    simp [pauseMod, modCheckPause_has, hne]
  running h := by
    constructor <;> cases hm : c.loc.paused.isUnpaused <;>
      simp [pauseMod, modCheckPause, h.stack, h.registered, hm, become]
  out _ := Or.inl
  acState := rfl
  dayTime := rfl
  inEvent := rfl
  timeout := rfl
  noAutoCalib := rfl
  gamma := rfl

theorem frame_resumeMod {r : ModPause} (hr : r ∈ R) (c : BlCtx) : Frame R P c (resumeMod r c) where
  has r' hr' := by
    have hne : r ≠ r' := fun h => hr' (h ▸ hr)
    simp [resumeMod, modCheckPause_has, hne]
  running h := by
    -- paused before: the reason cleared may be the last one
    cases hm : c.loc.paused.isUnpaused
    · constructor <;> cases hm' : (c.loc.paused.clear r).isUnpaused <;>
        simp [resumeMod, modCheckPause, h.stack, h.registered, hm, hm', unbecome]
    · have hm' := PauseMask.isUnpaused_clear hm r
      constructor <;> simp [resumeMod, modCheckPause, h.stack, h.registered, hm, hm']
  out _ := Or.inl
  acState := rfl
  dayTime := rfl
  inEvent := rfl
  timeout := rfl
  noAutoCalib := rfl
  gamma := rfl

theorem frame_pauseIf {r : ModPause} (hr : r ∈ R) (on : Bool) (c : BlCtx) :
    Frame R P c (pauseIf on r c) :=
  (frame_pauseMod hr c).ite (frame_resumeMod hr c)

/-- Writing local data other than the mask, the stack and the registration. -/
theorem frame_local {c : BlCtx} (l : Backlight) (hp : l.paused = c.loc.paused)
    (hs : l.stack = c.loc.stack) (hr : l.blRegistered = c.loc.blRegistered) :
    Frame R P c { c with loc := l } where
  has r _ := congrArg (PauseMask.has · r) hp
  running h := ⟨by rw [hs, hp, h.stack], by rw [hr, hp, h.registered]⟩
  out _ := Or.inl
  acState := rfl
  dayTime := rfl
  inEvent := rfl
  timeout := rfl
  noAutoCalib := rfl
  gamma := rfl

theorem frame_setBlFd (t : TimerFd) (c : BlCtx) : Frame R P c (setBlFd t c) :=
  frame_local _ rfl rfl rfl

theorem frame_resetOrPause (hr : ModPause.timeout ∈ R) (old : ℤ) (reset : Bool) (c : BlCtx) :
    Frame R P c (resetOrPause old reset c) := by
  refine (frame_pauseMod hr c).ite ?_
  have hres : Frame R P c (resumeMod .timeout c) := frame_resumeMod hr c
  exact (hres.trans (frame_setBlFd _ _)).ite hres

theorem frame_onLidUpdate (hr : ModPause.lid ∈ R) (c : BlCtx) : Frame R P c (onLidUpdate c) :=
  ((frame_pauseMod hr c).ite (.refl c)).ite
    (((frame_setBlFd _ c).ite (.refl c)).trans (frame_resumeMod hr _))

theorem frame_onSensorChange (hr : ModPause.sensor ∈ R) (hP : ∀ o n, P (.sensUpd o n))
    (r : BlReplies) (c : BlCtx) : Frame R P c (onSensorChange r c) := by
  refine (Frame.refl c).ite ?_
  have hpub : Frame R P c { c.publish (.sensUpd c.st.sensAvail r.sensor) with
      st := { c.st with sensAvail := some r.sensor } } :=
    ((Frame.refl c).publish (hP _ _)).withSt rfl rfl rfl
  exact (hpub.trans (frame_resumeMod hr _)).ite (hpub.trans (frame_pauseMod hr _))

theorem frame_setBacklightLevel (hP : ∀ o up, P (.blUpd o up)) (r : BlReplies) (pct : ℚ)
    (isSmooth : Bool) (step : ℚ) (timeout : ℤ) (c : BlCtx) :
    Frame R P c (setBacklightLevel r pct isSmooth step timeout c) := by
  have hcalls (ks : List BlCall) : Frame R P c { c with calls := ks } := (Frame.refl c).calls ks
  exact (hcalls _).ite (((hcalls _).publish (hP _ _)).ite (hcalls _))

theorem frame_interfaceCurveCallback (fit : Fit) (pts : List ℚ) (ac : AcState) (c : BlCtx) :
    Frame R P c (interfaceCurveCallback fit pts ac c) := by
  exact ⟨fun _ _ => rfl, id, fun _ => Or.inl, rfl, rfl, rfl, rfl, rfl, rfl⟩

theorem frame_onCurveReq (fit : Fit) (up : CurveUpd) (c : BlCtx) :
    Frame R P c (onCurveReq fit up c) := by
  unfold onCurveReq
  dsimp only
  split
  · split
    · exact frame_interfaceCurveCallback fit _ _ c
    · exact .refl c
  · exact .refl c

theorem frame_onBlReq (hP : ∀ o up, P (.blUpd o up)) (r : BlReplies) (accept : Bool) (up : BlUpd)
    (c : BlCtx) : Frame R P c (onBlReq r accept up c) :=
  (frame_setBacklightLevel hP r _ _ _ _ c).ite (.refl c)

theorem frame_onBlReqStatic (hP : ∀ o up, P (.blUpd o up)) (r : BlReplies) (accept : Bool)
    (c : BlCtx) : Frame R P c (onBlReqStatic r accept c) := by
  have hloc := frame_local (R := R) (P := P) (c := c)
    { c.loc with blReq := (validateBacklight c.cf c.st c.loc.blReq).1 } rfl rfl rfl
  exact hloc.trans (frame_onBlReq hP r accept _ _)

theorem frame_onLoopStopped (c : BlCtx) : Frame R P c (onLoopStopped c) := by
  refine Frame.ite ?_ (.refl c)
  exact (Frame.refl c).calls _

theorem frame_onDelayedInterface (hT : ∀ s up, P (.tempReq s up)) (hB : ∀ up, P (.blReq up))
    (c : BlCtx) : Frame R P c (onDelayedInterface c) := by
  have h := ((Frame.refl (R := R) c).publish (hT .backlight
    { daytime := -1, new := c.st.currentTemp, smooth := -1, step := 0, timeout := 0 })).publish
    (hB { new := c.st.currentBlPct, smooth := -1, timeout := 0, step := 0 })
  exact h.trans (frame_local _ rfl rfl rfl)

theorem frame_scheduleSync (hT : ∀ s up, P (.tempReq s up)) (hB : ∀ up, P (.blReq up))
    (c : BlCtx) : Frame R P c (scheduleSync c) :=
  Frame.ite (frame_local _ rfl rfl rfl) (frame_onDelayedInterface hT hB c)

theorem frame_onInterfaceAdded (hT : ∀ s up, P (.tempReq s up)) (hB : ∀ up, P (.blReq up))
    (mon : MonId) (c : BlCtx) : Frame R P c (onInterfaceAdded mon c) := by
  have hloc := frame_local (R := R) (P := P) (c := c)
    { c.loc with bls := c.loc.bls.insert mon 1 } rfl rfl rfl
  exact hloc.trans (frame_scheduleSync hT hB _)

theorem frame_onInterfaceRemoved (hT : ∀ s up, P (.tempReq s up)) (hB : ∀ up, P (.blReq up))
    {mon : MonId} {c c' : BlCtx} (h : onInterfaceRemoved mon c = some c') : Frame R P c c' := by
  unfold onInterfaceRemoved at h
  split at h
  · cases h
  · rename_i bi _
    obtain rfl := Option.some.inj h
    have hloc := frame_local (R := R) (P := P) (c := c) { c.loc with
      backlightInterface := if bi = mon then none else some bi
      bls := c.loc.bls.erase mon } rfl rfl rfl
    exact hloc.trans (frame_scheduleSync hT hB _)

theorem frame_onBlChanged (hP : ∀ o up, P (.blUpd o up)) (mon : MonId) (pct : ℚ) (c : BlCtx) :
    Frame R P c (onBlChanged mon pct c) := by
  unfold onBlChanged
  dsimp only
  have hloc (bi : Option MonId) :
      Frame R P c { c with loc := { c.loc with backlightInterface := bi } } :=
    frame_local _ rfl rfl rfl
  split
  · have h := (hloc (some (c.loc.backlightInterface.getD mon))).publish (hP c.st.currentBlPct
      { new := pct, smooth := 0, timeout := 0, step := 0 })
    exact h.withSt rfl rfl rfl
  · exact hloc _

theorem frame_setNewBacklight (hP : P .blReqStatic) (c : BlCtx) : Frame R P c (setNewBacklight c) := by
  have hloc (new : ℚ) : Frame R P c (storeBlReq new c) := frame_local _ rfl rfl rfl
  obtain ⟨new, out, rfl | rfl, heq⟩ := setNewBacklight_eq c
  · rw [heq, List.append_nil]
    exact hloc new
  · rw [heq]
    exact (hloc new).publish hP

section Capture
variable {Q : BlCtx → BlCtx → Prop} (hrefl : ∀ c, Q c c)
  (htrans : ∀ c c₁ c₂, Q c c₁ → Q c₁ c₂ → Q c c₂)
  (hstore : ∀ br c, Q c (Ctx.publish (.ambientBrUpd c.st.ambientBr br)
    { c with st := { c.st with ambientBr := br } }))
  (hlevel : ∀ c, Q c (setNewBacklight c)) (htimer : ∀ fd c, Q c (setBlFd fd c))
include hrefl htrans hstore hlevel

/-- A brightness is stored, and a level may follow. -/
theorem captured_of_steps (reply : Option ℚ) (captureOnly : Bool) (c : BlCtx) :
    Q c (captured reply captureOnly c) := by
  unfold captured
  cases reply with
  | none => exact hrefl c
  | some br =>
    dsimp only
    split_ifs
    · exact htrans _ _ _ (hstore br c) (hlevel _)
    · exact hstore br c

include htimer

theorem doCapture_of_steps (r : BlReplies) (reset captureOnly : Bool) (c : BlCtx) :
    Q c (doCapture r reset captureOnly c) := by
  have hcaptured := captured_of_steps hrefl htrans hstore hlevel r.capture captureOnly c
  unfold doCapture
  dsimp only
  split_ifs
  · exact htrans _ _ _ hcaptured (htimer _ _)
  · exact hcaptured

end Capture

theorem frame_captured (hA : ∀ o n, P (.ambientBrUpd o n)) (hP : P .blReqStatic) (reply : Option ℚ)
    (captureOnly : Bool) (c : BlCtx) : Frame R P c (captured reply captureOnly c) := by
  refine captured_of_steps .refl (fun _ _ _ => .trans) (fun br c => ?_) (frame_setNewBacklight hP)
    reply captureOnly c
  have hst : Frame R P c { c with st := { c.st with ambientBr := br } } :=
    (Frame.refl c).withSt rfl rfl rfl
  exact hst.publish (hA c.st.ambientBr br)

theorem frame_doCapture (hA : ∀ o n, P (.ambientBrUpd o n)) (hP : P .blReqStatic) (r : BlReplies)
    (reset captureOnly : Bool) (c : BlCtx) : Frame R P c (doCapture r reset captureOnly c) := by
  have hcap := frame_captured (R := R) hA hP r.capture captureOnly c
  exact (hcap.trans (frame_setBlFd _ _)).ite hcap

theorem frame_onBlFd (hP : P .captureReqStatic) (c : BlCtx) : Frame R P c (onBlFd c) :=
  Frame.publish ((frame_setBlFd _ c).trans (frame_local _ rfl rfl rfl)) hP

/-! ### What a running BACKLIGHT does with a message -/

/-- All messages but those by which BACKLIGHT calibrates, or is asked to. -/
def quiet : Msg → Bool
  | .fdUpd .delayed => true
  | .fdUpd _ | .blReqStatic | .captureReq _ _ | .captureReqStatic | .noAutocalibReq _ => false
  | _ => true

/-- Messages on which BACKLIGHT may calibrate or ask itself for a capture. -/
def loud : Msg → Bool
  | .fdUpd .delayed => false
  | .fdUpd _ | .screenBrUpd _ _ | .captureReq _ _ | .captureReqStatic => true
  | _ => false

/-- Reasons handled by the messages other than timeouts, daytimes and NO_AUTOCALIB_REQ. -/
def otherReasons : List ModPause := [.display, .lid, .suspend, .inhibit]

theorem handle_of_running (fit : Fit) (r : BlReplies) (m : Msg) {c : BlCtx} (h : Running c.loc) :
    handle fit r m c = receive fit r m c ∨ handle fit r m c = receivePaused fit r m c := by
  have hs := h.stack
  unfold handle
  cases hu : c.loc.paused.isUnpaused <;> rw [hu] at hs <;> simp [hs]

/-- The paused receiver does what the other one does, or nothing, but for the descriptors
and for the validator that it runs before its guard. -/
theorem receivePaused_cases (fit : Fit) (r : BlReplies) (m : Msg) (c : BlCtx) :
    receivePaused fit r m c = receive fit r m c ∨ receivePaused fit r m c = c ∨
      receivePaused fit r m c = onDelayedInterface (readDelayed c) ∨
      m = .blReqStatic ∧ receivePaused fit r m c = onBlReqStatic r false c := by
  cases m
  case fdUpd fd => exact .inr (.inr (.inl rfl))
  case screenBrUpd old new =>
    unfold receivePaused
    dsimp only
    split
    · exact .inr (.inl rfl)
    · exact .inl rfl
  case captureReq sender up =>
    unfold receivePaused
    dsimp only
    split
    · exact .inl rfl
    · exact .inr (.inl rfl)
  case captureReqStatic =>
    unfold receivePaused
    dsimp only
    split
    · exact .inl rfl
    · exact .inr (.inl rfl)
  case blReq up =>
    cases hbusy : c.st.displayBusy
    · left
      simp only [receivePaused, receive, hbusy, Bool.not_false]
    · right
      left
      simp [receivePaused, hbusy, onBlReq]
  case blReqStatic =>
    cases hbusy : c.st.displayBusy
    · left
      simp only [receivePaused, receive, hbusy, Bool.not_false]
    · right
      right
      right
      simp only [receivePaused, hbusy, Bool.not_true, true_and]
  case systemUpd sm => exact .inl (by cases sm <;> rfl)
  all_goals exact .inl rfl

theorem handle_eq_receive (fit : Fit) (r : BlReplies) (m : Msg) {c : BlCtx} (h : Running c.loc) :
    handle fit r m c = receive fit r m c ∨ handle fit r m c = c ∨
      handle fit r m c = onDelayedInterface (readDelayed c) ∨
      m = .blReqStatic ∧ handle fit r m c = onBlReqStatic r false c := by
  rcases handle_of_running fit r m h with he | he
  · exact .inl he
  · rw [he]
    exact receivePaused_cases fit r m c

/-- Every message but four kinds is handled within a frame; a message that is not
loud is answered by quiet ones. -/
theorem handle_cases (fit : Fit) (r : BlReplies) (m : Msg) {c : BlCtx} (h : Running c.loc) :
    (∃ up, m = .blToReq up ∧ handle fit r m c = onBlToReq up c) ∨
    (∃ new, m = .noAutocalibReq new ∧ handle fit r m c = onNoAutocalibReq new c) ∨
    (∃ old new, m = .daytimeUpd old new ∧ handle fit r m c = timeCallback old false c) ∨
    (∃ old new, m = .inEventUpd old new ∧ handle fit r m c = timeCallback none true c) ∨
    Frame otherReasons (fun m' => loud m = true ∨ quiet m' = true) c (handle fit r m c) := by
  have hcase := handle_of_running fit r m h
  have hdel (P : Msg → Prop) (hT : ∀ s up, P (.tempReq s up)) (hB : ∀ up, P (.blReq up)) :
      Frame otherReasons P c (onDelayedInterface (readDelayed c)) :=
    Frame.trans (frame_local { c.loc with delayedFd := c.loc.delayedFd.read } rfl rfl rfl)
      (frame_onDelayedInterface hT hB _)
  -- the four kinds first, then the rest for either receiver
  cases m
  case blToReq up => exact .inl ⟨up, rfl, by rcases hcase with hc | hc <;> rw [hc] <;> rfl⟩
  case noAutocalibReq new =>
    exact .inr (.inl ⟨new, rfl, by rcases hcase with hc | hc <;> rw [hc] <;> rfl⟩)
  case daytimeUpd old new =>
    exact .inr (.inr (.inl ⟨old, new, rfl, by rcases hcase with hc | hc <;> rw [hc] <;> rfl⟩))
  case inEventUpd old new =>
    exact .inr (.inr (.inr (.inl ⟨old, new, rfl, by rcases hcase with hc | hc <;> rw [hc] <;> rfl⟩)))
  all_goals
    refine .inr (.inr (.inr (.inr ?_)))
    rcases hcase with hc | hc <;> rw [hc]
  case fdUpd.inl fd =>
    cases fd
    case delayed => exact hdel _ (fun _ _ => .inr rfl) (fun _ => .inr rfl)
    all_goals exact frame_onBlFd (.inl rfl) c
  case fdUpd.inr fd => exact hdel _ (fun _ _ => .inr rfl) (fun _ => .inr rfl)
  case screenBrUpd.inl => exact frame_setNewBacklight (.inl rfl) c
  case screenBrUpd.inr => exact (Frame.refl c).ite (frame_setNewBacklight (.inl rfl) c)
  case captureReq.inl => exact frame_doCapture (fun _ _ => .inl rfl) (.inl rfl) r _ _ c
  case captureReq.inr =>
    exact (frame_doCapture (fun _ _ => .inl rfl) (.inl rfl) r _ _ c).ite (.refl c)
  case captureReqStatic.inl => exact frame_doCapture (fun _ _ => .inl rfl) (.inl rfl) r _ _ c
  case captureReqStatic.inr =>
    exact (frame_doCapture (fun _ _ => .inl rfl) (.inl rfl) r _ _ c).ite (.refl c)
  case upowerUpd.inl => exact frame_setBlFd _ c
  case upowerUpd.inr => exact frame_setBlFd _ c
  case displayUpd.inl => exact frame_pauseIf (by decide) _ c
  case displayUpd.inr => exact frame_pauseIf (by decide) _ c
  case lidUpd.inl => exact frame_onLidUpdate (by decide) c
  case lidUpd.inr => exact frame_onLidUpdate (by decide) c
  case suspendUpd.inl => exact frame_pauseIf (by decide) _ c
  case suspendUpd.inr => exact frame_pauseIf (by decide) _ c
  case inhibitUpd.inl => exact frame_pauseIf (by decide) _ c
  case inhibitUpd.inr => exact frame_pauseIf (by decide) _ c
  case curveReq.inl up => exact frame_onCurveReq fit up c
  case curveReq.inr up => exact frame_onCurveReq fit up c
  case blReq.inl up => exact frame_onBlReq (fun _ _ => .inr rfl) r _ up c
  case blReq.inr up => exact frame_onBlReq (fun _ _ => .inr rfl) r _ up c
  case blReqStatic.inl => exact frame_onBlReqStatic (fun _ _ => .inr rfl) r _ c
  case blReqStatic.inr => exact frame_onBlReqStatic (fun _ _ => .inr rfl) r _ c
  case systemUpd.inl sm =>
    cases sm
    case loopStopped => exact frame_onLoopStopped c
    all_goals exact .refl c
  case systemUpd.inr sm =>
    cases sm
    case loopStopped => exact frame_onLoopStopped c
    all_goals exact .refl c
  all_goals exact .refl c

end Clight.Backlight
