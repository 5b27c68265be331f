import Clight.BacklightSpec
import Clight.Core

/-! Facts about every run of the machine: BACKLIGHT waits or runs, and what a step
leaves alone. -/
namespace Clight.Core

/-- Replies of a bus with a sensor, on which every call but Capture succeeds. -/
def noCapture : BlReplies := { sensor := true, capture := none, levels := [], setSent := true }

@[simp] theorem publish_bl (ms : List Msg) (s : Core) : (publish ms s).bl = s.bl := rfl
@[simp] theorem publish_st (ms : List Msg) (s : Core) : (publish ms s).st = s.st := rfl
@[simp] theorem publish_cf (ms : List Msg) (s : Core) : (publish ms s).cf = s.cf := rfl
@[simp] theorem publish_blOut (ms : List Msg) (s : Core) : (publish ms s).blOut = s.blOut := rfl

theorem mem_publish_blBox {ms : List Msg} {s : Core} {m : Msg} :
    m ∈ (publish ms s).blBox ↔ m ∈ s.blBox ∨ m ∈ ms ∧ Backlight.subscribes m = true := by
  simp [publish]

theorem mem_publish_scrBox {ms : List Msg} {s : Core} {m : Msg} (h : m ∈ (publish ms s).scrBox) :
    m ∈ s.scrBox ∨ m ∈ ms ∧ Screen.subscribes m = true := by
  unfold publish at h
  dsimp only at h
  split_ifs at h
  · simpa using h
  · exact .inl h

theorem mem_daytimeMsgs {old : Option DayState} {new : DayState} {inEvent : Bool} {s : Core}
    {m : Msg} (h : m ∈ daytimeMsgs old new inEvent s) :
    m = .daytimeUpd old new ∨ m = .inEventUpd s.st.inEvent inEvent := by
  rcases List.mem_append.mp h with h | h
  · split at h
    · cases h
    · exact .inl (List.mem_singleton.mp h)
  · split at h
    · cases h
    · exact .inr (List.mem_singleton.mp h)

theorem daytimeMsgs_eq_nil {old : Option DayState} {new : DayState} {inEvent : Bool} {s : Core}
    (h : daytimeMsgs old new inEvent s = []) : s.st.dayTime = some new ∧ s.st.inEvent = inEvent := by
  obtain ⟨h₁, h₂⟩ := List.append_eq_nil_iff.mp h
  constructor
  · by_contra hne
    simp [hne] at h₁
  · by_contra hne
    simp [hne] at h₂

/-- What Capture leaves of a message that is queued. -/
theorem mem_methodCapture_blBox (up : CaptureUpd) {s : Core} {m : Msg} (hm : m ∈ s.blBox) :
    m.recaptured up ∈ (methodCapture up s).blBox :=
  mem_publish_blBox.mpr (.inl (List.mem_map_of_mem hm))

theorem recaptured_of_other {up : CaptureUpd} {m : Msg} (hm : m.isInterfaceCapture = false) :
    m.recaptured up = m := by
  unfold Msg.recaptured
  split
  · cases hm
  · rfl

/-- BACKLIGHT waits or runs. -/
def Phase (s : Core) : Prop := Backlight.Waiting s.bl ∨ Backlight.Running s.bl

theorem Phase.running {s : Core} (h : Phase s) (hw : s.bl.isWaiting = false) :
    Backlight.Running s.bl := by
  rcases h with h | h
  · rw [h.isWaiting] at hw
    cases hw
  · exact h

theorem Phase.waiting {s : Core} (h : Phase s) (hw : s.bl.isWaiting = true) :
    Backlight.Waiting s.bl := by
  rcases h with h | h
  · exact h
  · rw [h.not_waiting] at hw
    cases hw

theorem phase_handle (fit : Fit) (r : BlReplies) (m : Msg) {s t : Core} (h : Phase s)
    (ht : t.bl = s.bl) : Phase (onBacklight (Backlight.handle fit r m) t) := by
  have hloc : t.blCtx.loc = s.bl := ht
  rcases h with h | h
  · rcases Backlight.handle_waiting fit r m (c := t.blCtx) (hloc ▸ h) with ⟨hw, he⟩ | ⟨-, he⟩
    · exact .inl (by simpa [onBacklight, he] using hw)
    · have hrun := Backlight.startup_running r (c := Backlight.seen m t.blCtx)
        ((congrArg Backlight.stack hloc).trans h.stack) ((congrArg Backlight.paused hloc).trans h.paused)
      exact .inr (by simpa [onBacklight, he] using hrun)
  · exact .inr (Backlight.handle_running fit r m (c := t.blCtx) (hloc ▸ h))

theorem running_elapse {s : Core} (h : Backlight.Running s.bl) (fd : Fd) (sec : Option ℕ) :
    Backlight.Running (elapse fd sec s).bl := by
  cases fd
  case bl => exact ⟨h.stack, h.registered⟩
  case delayed => exact ⟨h.stack, h.registered⟩
  all_goals exact h

theorem phase_elapse {s : Core} (h : Phase s) (fd : Fd) (sec : Option ℕ) : Phase (elapse fd sec s) := by
  rcases h with h | h
  · left
    cases fd
    case bl => exact ⟨h.stack, h.paused, h.delayed, h.notAll⟩
    case delayed => exact ⟨h.stack, h.paused, h.delayed, h.notAll⟩
    all_goals exact h
  · exact .inr (running_elapse h fd sec)

/-- What a step can do, by who takes it: BACKLIGHT or SCREEN handles a message, a signal
of Clightd reaches a running BACKLIGHT, time passes, or the environment writes the state
and announces it. -/
inductive StepKind (fit : Fit) (s : Core) (e : CoreEvent) (s' : Core) : Prop
  | deliver (r : BlReplies) (m : Msg) (box : List Msg) (he : e = .deliverBl r)
      (hbox : s.blBox = m :: box)
      (hs' : s' = onBacklight (Backlight.handle fit r m) { s with blBox := box })
  | fd (r : BlReplies) (fd : Fd) (hfd : fd = .delayed ∨ fd = .bl ∧ s.bl.blRegistered = true)
      (hs' : s' = onBacklight (Backlight.handle fit r (.fdUpd fd)) s)
  | screen (reply : Option ℚ) (m : Msg) (scr : Screen) (box : List Msg)
      (hs' : s' = onScreen (Screen.handle reply m) scr { s with scrBox := box })
  | signal (c : BlCtx) (hw : s.bl.isWaiting = false)
      (hf : Backlight.Frame [.sensor] (fun m => Backlight.quiet m = true) s.blCtx c)
      (hs' : s' = onBacklight (fun _ => c) s)
  | elapse (fd : Fd) (sec : Option ℕ) (hs' : s' = elapse fd sec s)
  | acState (old : Option AcState) (new : AcState) (he : e = .acState old new)
      (hs' : s' = publish [.upowerUpd old new] { s with st := { s.st with acState := some new } })
  | daytime (old : Option DayState) (new : DayState) (inEvent : Bool)
      (he : e = .daytime old new inEvent)
      (hs' : s' = publish (daytimeMsgs old new inEvent s)
        { s with st := { s.st with dayTime := some new, inEvent := inEvent } })
  | announce (ms : List Msg) (st : State) (hs' : s' = publish ms { s with st := st })
      (hac : st.acState = s.st.acState) (hday : st.dayTime = s.st.dayTime)
      (hev : st.inEvent = s.st.inEvent)
      (hms : ∀ m ∈ ms, Backlight.quiet m = true ∨ e = .request m)
  | capture (up : CaptureUpd) (he : e = .capture up) (hs' : s' = methodCapture up s)
  | system (m : SysMsg) (hs' : s' = { s with blBox := s.blBox ++ [.systemUpd m] })

/-! ### The events that the loop delivers -/

theorem next_deliverBl {fit : Fit} {s s' : Core} {r : BlReplies}
    (hn : next fit s (.deliverBl r) = some s') : ∃ m box, s.blBox = m :: box ∧
      s' = onBacklight (Backlight.handle fit r m) { s with blBox := box } := by
  simp only [next] at hn
  split at hn
  · cases hn
  · next m box hbox => exact ⟨m, box, hbox, (Option.some.inj hn).symm⟩

theorem next_deliverScr (fit : Fit) {s s' : Core} {reply : Option ℚ}
    (hn : next fit s (.deliverScr reply) = some s') : ∃ scr m box, s.scr = some scr ∧
      s.scrBox = m :: box ∧ s' = onScreen (Screen.handle reply m) scr { s with scrBox := box } := by
  simp only [next] at hn
  split at hn
  · next scr m box hscr hbox => exact ⟨scr, m, box, hscr, hbox, (Option.some.inj hn).symm⟩
  · cases hn

theorem next_screenFd (fit : Fit) {s s' : Core} {reply : Option ℚ}
    (hn : next fit s (.screenFd reply) = some s') : ∃ scr, s.scr = some scr ∧
      scr.registered = true ∧ s' = onScreen (Screen.handle reply (.fdUpd .screen)) scr s := by
  simp only [next] at hn
  split at hn
  · next scr hscr =>
    split_ifs at hn with hfd
    exact ⟨scr, hscr, (Bool.and_eq_true_iff.mp hfd).1, (Option.some.inj hn).symm⟩
  · cases hn

theorem next_cases {fit : Fit} {s s' : Core} {e : CoreEvent} (hn : next fit s e = some s') :
    StepKind fit s e s' := by
  cases e <;> simp only [next] at hn
  case deliverBl r =>
    obtain ⟨m, box, hbox, hs'⟩ := next_deliverBl hn
    exact .deliver r m box rfl hbox hs'
  case deliverScr reply =>
    obtain ⟨scr, m, box, -, -, hs'⟩ := next_deliverScr fit hn
    exact .screen reply _ _ _ hs'
  case blFd r =>
    split_ifs at hn with hfd
    simp only [Bool.and_eq_true] at hfd
    exact .fd r .bl (.inr ⟨rfl, hfd.1⟩) (Option.some.inj hn).symm
  case delayedFd r =>
    split_ifs at hn
    exact .fd r .delayed (.inl rfl) (Option.some.inj hn).symm
  case screenFd reply =>
    obtain ⟨scr, -, -, hs'⟩ := next_screenFd fit hn
    exact .screen reply _ _ _ hs'
  case elapse fd sec => exact .elapse fd sec (Option.some.inj hn).symm
  case acState old new => exact .acState old new rfl (Option.some.inj hn).symm
  case daytime old new inEvent => exact .daytime old new inEvent rfl (Option.some.inj hn).symm
  case suspended new now =>
    refine .announce _ _ (Option.some.inj hn).symm rfl rfl rfl fun m hm => ?_
    split at hm
    · rw [List.mem_singleton.mp hm]
      exact .inl rfl
    · cases hm
  case request m =>
    split_ifs at hn
    refine .announce [m] s.st (Option.some.inj hn).symm rfl rfl rfl fun m' hm' => ?_
    rw [List.mem_singleton.mp hm']
    exact .inr rfl
  case capture up => exact .capture up rfl (Option.some.inj hn).symm
  case system m =>
    split_ifs at hn
    exact .system m (Option.some.inj hn).symm
  case sensorChanged r =>
    split_ifs at hn with hw
    exact .signal _ (by simpa using hw)
      (Backlight.frame_onSensorChange (by decide) (fun _ _ => rfl) r _) (Option.some.inj hn).symm
  case blChanged mon pct =>
    split_ifs at hn with hw
    exact .signal _ (by simpa using hw) (Backlight.frame_onBlChanged (fun _ _ => rfl) mon pct _)
      (Option.some.inj hn).symm
  case interfaceAdded mon =>
    split_ifs at hn with hw
    exact .signal _ (by simpa using hw)
      (Backlight.frame_onInterfaceAdded (fun _ _ => rfl) (fun _ => rfl) mon _) (Option.some.inj hn).symm
  case interfaceRemoved mon =>
    split_ifs at hn with hw
    obtain ⟨c, hc, rfl⟩ := Option.map_eq_some_iff.mp hn
    exact .signal c (by simpa using hw)
      (Backlight.frame_onInterfaceRemoved (fun _ _ => rfl) (fun _ => rfl) hc) rfl
  all_goals
    refine .announce _ _ (Option.some.inj hn).symm rfl rfl rfl fun m hm => ?_
    rw [List.mem_singleton.mp hm]
    exact .inl rfl

/-- A BACKLIGHT that runs goes on doing so. -/
theorem running_step {fit : Fit} {s t : Core} {e : CoreEvent} (h : Backlight.Running s.bl)
    (hn : next fit s e = some t) : Backlight.Running t.bl := by
  cases next_cases hn with
  | deliver r m box _ _ hs' => exact hs' ▸ Backlight.handle_running fit r m (c := s.blCtx) h
  | fd r fd _ hs' => exact hs' ▸ Backlight.handle_running fit r _ (c := s.blCtx) h
  | signal c _ hf hs' => exact hs' ▸ hf.running h
  | elapse fd sec hs' => exact hs' ▸ running_elapse h fd sec
  | screen _ _ _ _ hs' => exact hs' ▸ h
  | acState _ _ _ hs' => exact hs' ▸ h
  | daytime _ _ _ _ hs' => exact hs' ▸ h
  | announce _ _ hs' => exact hs' ▸ h
  | capture _ _ hs' => exact hs' ▸ h
  | system _ hs' => exact hs' ▸ h

theorem phase_step {fit : Fit} {s s' : Core} {e : CoreEvent} (h : Phase s)
    (hn : next fit s e = some s') : Phase s' := by
  cases next_cases hn with
  | deliver r m box _ _ hs' => exact hs' ▸ phase_handle fit r m h rfl
  | fd r fd _ hs' => exact hs' ▸ phase_handle fit r _ h rfl
  | signal c hw hf hs' => exact .inr (hs' ▸ hf.running (h.running hw))
  | elapse fd sec hs' => exact hs' ▸ phase_elapse h fd sec
  | screen _ _ _ _ hs' => exact hs' ▸ h
  | acState _ _ _ hs' => exact hs' ▸ h
  | daytime _ _ _ _ hs' => exact hs' ▸ h
  | announce _ _ hs' => exact hs' ▸ h
  | capture _ _ hs' => exact hs' ▸ h
  | system _ hs' => exact hs' ▸ h

theorem phase_of_reachable {fit : Fit} {s : Core} (hs : (core fit).Reachable s) : Phase s := by
  refine Machine.ReachableBy.invariant (I := Phase) ?_ ?_ hs
  · intro s h
    left
    rw [h.1]
    exact .init
  · intro s e s' h _ hn
    exact phase_step h hn

end Clight.Core
