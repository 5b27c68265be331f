import Clight.Calibration
import Clight.History
import Clight.PauseBits

/-! The captures of BACKLIGHT's timer over the runs of BACKLIGHT and SCREEN: a level comes of
each, at once or by way of the screen brightness that SCREEN publishes for it. -/
namespace Clight

namespace Backlight

/-- Capture answers with a brightness that is not below the threshold. -/
def clear (r : BlReplies) (c : BlCtx) : Bool :=
  r.capture.any fun br => c.cf.bl.shutterThreshold ≤ br

/-- Handling the message executes set_new_backlight. -/
def computes (r : BlReplies) (m : Msg) (c : BlCtx) : Bool :=
  match m with
  | .screenBrUpd _ _ => accepts c
  | .captureReq _ up => acceptsCapture c && clear r c && !up.captureOnly
  | .captureReqStatic => acceptsCapture c && clear r c && !c.loc.captureReq.captureOnly
  | _ => false

/-- Handling the message is a clear capture, asked for by the timer. -/
def timerCapture (r : BlReplies) (m : Msg) (c : BlCtx) : Bool :=
  match m with
  | .captureReqStatic => acceptsCapture c && clear r c
  | _ => false

theorem captured_of_clear {r : BlReplies} {c : BlCtx} (hclear : clear r c = true) :
    ∃ br, r.capture = some br ∧ c.cf.bl.shutterThreshold ≤ br := by
  obtain ⟨br, hbr, hle⟩ := (Option.any_eq_true _ _).mp hclear
  exact ⟨br, hbr, of_decide_eq_true hle⟩

/-- A clear capture that is not for SCREEN only ends with set_new_backlight. -/
theorem doCapture_computes {r : BlReplies} {c : BlCtx} (hclear : clear r c = true) (reset : Bool) :
    ∃ fd c₁, doCapture r reset false c = setBlFd fd (setNewBacklight c₁) := by
  obtain ⟨br, hbr, hle⟩ := captured_of_clear hclear
  obtain ⟨fd, he⟩ := doCapture_eq r reset false c
  rw [he]
  unfold captured
  rw [hbr]
  exact ⟨fd, _, congrArg (setBlFd fd) (if_pos ⟨hle, rfl⟩)⟩

/-- What `computes` tells is what the receivers do. -/
theorem handle_computes (fit : Fit) {r : BlReplies} {m : Msg} {c : BlCtx} (h : Running c.loc)
    (hm : computes r m c = true) :
    ∃ fd c₁, handle fit r m c = setBlFd fd (setNewBacklight c₁) := by
  unfold computes at hm
  split at hm
  · rw [handle_screenBrUpd fit r h, if_pos hm]
    exact ⟨(setNewBacklight c).loc.blFd, c, rfl⟩
  · simp only [Bool.and_eq_true, Bool.not_eq_true'] at hm
    obtain ⟨⟨hacc, hclear⟩, honly⟩ := hm
    rw [handle_captureReq fit r h, if_pos hacc, honly]
    exact doCapture_computes hclear _
  · simp only [Bool.and_eq_true, Bool.not_eq_true'] at hm
    obtain ⟨⟨hacc, hclear⟩, honly⟩ := hm
    rw [handle_captureReqStatic fit r h, if_pos hacc, honly]
    exact doCapture_computes hclear _
  · cases hm

/-- A clear capture of the timer of which no level comes at once is announced to SCREEN. -/
theorem handle_timerCapture (fit : Fit) {r : BlReplies} {m : Msg} {c : BlCtx} (h : Running c.loc)
    (hm : timerCapture r m c = true) (hnot : computes r m c = false) :
    ∃ old new, .ambientBrUpd old new ∈ (handle fit r m c).out := by
  unfold timerCapture at hm
  split at hm
  · obtain ⟨hacc, hclear⟩ := Bool.and_eq_true_iff.mp hm
    have honly : c.loc.captureReq.captureOnly = true := by
      unfold computes at hnot
      simp only [hacc, hclear, Bool.and_self, Bool.true_and, Bool.not_eq_false'] at hnot
      exact hnot
    obtain ⟨br, hbr, -⟩ := captured_of_clear hclear
    obtain ⟨fd, he⟩ := doCapture_eq r c.loc.captureReq.resetTimer true c
    rw [handle_captureReqStatic fit r h, if_pos hacc, honly, he]
    refine ⟨c.st.ambientBr, br, ?_⟩
    change _ ∈ (captured r.capture true c).out
    unfold captured
    rw [hbr]
    dsimp only
    rw [if_neg fun hboth => absurd hboth.2 (by decide)]
    exact List.mem_append_right _ (List.mem_singleton_self _)
  · cases hm

end Backlight

/-- SCREEN measures the screen, once it has evaluated CLOGGED again. -/
def Screen.measures (reply : Option ℚ) (c : ScreenCtx) : Bool :=
  c.cf.bl.shutterThreshold ≤ c.st.ambientBr && (c.loc.paused.clear .clogged).isUnpaused &&
    reply.isSome

theorem Screen.handle_measures {reply : Option ℚ} {c : ScreenCtx} (hstack : c.loc.stack = [])
    (hm : Screen.measures reply c = true) (old new : ℚ) :
    ∃ old' new', .screenBrUpd old' new' ∈ (Screen.handle reply (.ambientBrUpd old new) c).out := by
  unfold Screen.measures at hm
  simp only [Bool.and_eq_true, decide_eq_true_eq] at hm
  obtain ⟨⟨hclear, hrun⟩, hreply⟩ := hm
  obtain ⟨br, rfl⟩ := Option.isSome_iff_exists.mp hreply
  have hresume : (Screen.pauseScreen (c.st.ambientBr < c.cf.bl.shutterThreshold) .clogged false
      c).loc.paused = c.loc.paused.clear .clogged := by
    rw [decide_eq_false (not_lt.mpr hclear)]
    rfl
  have hhandle : Screen.handle (some br) (.ambientBrUpd old new) c = Screen.onAmbientBr (some br) c := by
    unfold Screen.handle
    rw [hstack]
    rfl
  rw [hhandle]
  unfold Screen.onAmbientBr Screen.getScreenBrightness
  dsimp only
  rw [hresume, if_pos hrun, if_pos hrun]
  exact ⟨_, br, List.mem_append_right _ (List.mem_singleton_self _)⟩

def Msg.isAmbientBrUpd : Msg → Bool
  | .ambientBrUpd _ _ => true
  | _ => false

def Msg.isScreenBrUpd : Msg → Bool
  | .screenBrUpd _ _ => true
  | _ => false

namespace Core

def screenStarted (s : Core) : Bool := s.scr.any fun scr => scr.stack.isEmpty

/-- A clear capture of the timer is owed a level from then on, until set_new_backlight is
executed or BACKLIGHT is paused. It counts while both modules are started. -/
def recordOwed (owed : Bool) (s : Core) (e : CalibrationEvent) (t : Core) : Bool :=
  match e with
  | .core e => match handled s e with
    | some (r, m) => t.bl.paused.isUnpaused && !Backlight.computes r m s.blCtx &&
        (owed || s.screenStarted && Backlight.timerCapture r m s.blCtx)
    | none => owed && t.bl.paused.isUnpaused
  | .properties _ => owed

/-- The calibration of BACKLIGHT with what it owes. -/
def owedRun (fit : Fit) : Machine (Core × Bool) CalibrationEvent :=
  (calibration fit).withHistory false recordOwed

/-- SCREEN measures the screen when it hears of the ambient brightness, as long as a level is
owed and no other update on the way is going to bring one. -/
def Answered (s : Core × Bool) : CalibrationEvent → Prop
  | .core (.deliverScr reply) => s.2 = true → s.1.scrBox.head?.any Msg.isAmbientBrUpd = true →
      s.1.scr.any (fun scr => Screen.measures reply (scrCtx scr s.1)) = true ∨
        (∃ m ∈ s.1.scrBox.tail, m.isAmbientBrUpd = true) ∨ ∃ m ∈ s.1.blBox, m.isScreenBrUpd = true
  | _ => True

/-- A level that is owed is on its way: SCREEN is to hear of the ambient brightness, or BACKLIGHT
of the screen brightness. -/
structure Due (s : Core) : Prop where
  running : Backlight.Running s.bl
  unpaused : s.bl.paused.isUnpaused = true
  started : s.screenStarted = true
  inFlight : (∃ m ∈ s.scrBox, m.isAmbientBrUpd = true) ∨ ∃ m ∈ s.blBox, m.isScreenBrUpd = true

/-! ### What steps leave in the mailboxes -/

/-- No message leaves the mailbox of SCREEN, nor what it announces that of BACKLIGHT, and SCREEN
stays started. -/
structure Onward (s t : Core) : Prop where
  blBox : ∀ m ∈ s.blBox, m.isScreenBrUpd = true → m ∈ t.blBox
  scrBox : ∀ m ∈ s.scrBox, m ∈ t.scrBox
  started : s.screenStarted = true → t.screenStarted = true

theorem Onward.publish (ms : List Msg) {s t : Core} (hbl : t.blBox = s.blBox)
    (hscrBox : t.scrBox = s.scrBox) (hscr : t.scr = s.scr) : Onward s (publish ms t) where
  blBox m hm _ := List.mem_append_left _ (hbl ▸ hm)
  scrBox m hm := by
    change m ∈ (if t.scr.isSome then t.scrBox ++ ms.filter Screen.subscribes else t.scrBox)
    rw [hscrBox]
    split_ifs
    · exact List.mem_append_left _ hm
    · exact hm
  started h := by
    change t.scr.any (fun scr => scr.stack.isEmpty) = true
    rw [hscr]
    exact h

/-- What SCREEN is told once it has started reaches its mailbox. -/
theorem mem_scrBox_publish {ms : List Msg} {s : Core} (hstarted : s.screenStarted = true) {m : Msg}
    (hm : m ∈ ms) (hsub : Screen.subscribes m = true) : m ∈ (publish ms s).scrBox := by
  obtain ⟨scr, hscr, -⟩ := (Option.any_eq_true _ _).mp hstarted
  change m ∈ (if s.scr.isSome then s.scrBox ++ ms.filter Screen.subscribes else s.scrBox)
  rw [hscr, Option.isSome_some, if_pos rfl]
  exact List.mem_append_right _ (List.mem_filter.mpr ⟨hm, hsub⟩)

theorem Onward.onBacklight (f : BlCtx → BlCtx) (s : Core) : Onward s (onBacklight f s) :=
  Onward.publish _ rfl rfl rfl

theorem Onward.onScreen (reply : Option ℚ) (m : Msg) {scr : Screen} {s : Core}
    (hscr : s.scr = some scr) : Onward s (onScreen (Screen.handle reply m) scr s) where
  blBox m' hm' _ := List.mem_append_left _ hm'
  scrBox m' hm' := List.mem_append_left _ hm'
  started h := by
    unfold screenStarted at h
    rw [hscr] at h
    have hstack : (s.scrCtx scr).loc.stack = [] := List.isEmpty_iff.mp h
    have hsuspend : ModPause.suspend ∈ factReasons := by decide
    exact List.isEmpty_iff.mpr (Screen.handle_bit reply m hstack hsuspend).2

theorem Onward.elapse (fd : Fd) (sec : Option ℕ) (s : Core) : Onward s (elapse fd sec s) := by
  cases fd with
  | screen =>
    refine ⟨fun _ hm _ => hm, fun _ => id, fun h => ?_⟩
    unfold screenStarted at h ⊢
    change (s.scr.map fun scr => { scr with screenFd := scr.screenFd.elapse sec }).any
      (fun scr => scr.stack.isEmpty) = true
    rw [Option.any_map]
    exact h
  | _ => exact ⟨fun _ hm _ => hm, fun _ => id, id⟩

theorem Onward.methodCapture (up : CaptureUpd) (s : Core) : Onward s (methodCapture up s) := by
  have hon := Onward.publish (s := { s with blBox := s.blBox.map (Msg.recaptured up) })
    [.captureReq .interface up] rfl rfl rfl
  refine ⟨fun m hm his => ?_, hon.scrBox, hon.started⟩
  have hmem := mem_methodCapture_blBox up hm
  have hother : m.isInterfaceCapture = false := by
    unfold Msg.isScreenBrUpd at his
    split at his
    · rfl
    · cases his
  rwa [recaptured_of_other hother] at hmem

/-- The mailbox that a step takes a message from; all else only grows. -/
theorem next_onward {fit : Fit} {s t : Core} {e : CoreEvent} (hn : next fit s e = some t) :
    (∃ r m box, e = .deliverBl r ∧ s.blBox = m :: box ∧
      t = onBacklight (Backlight.handle fit r m) { s with blBox := box }) ∨
    (∃ reply m box scr, e = .deliverScr reply ∧ s.scrBox = m :: box ∧ s.scr = some scr ∧
      t = onScreen (Screen.handle reply m) scr { s with scrBox := box }) ∨
    (∀ r, e ≠ .deliverBl r) ∧ Onward s t := by
  cases e <;> simp only [next] at hn
  case deliverBl r =>
    obtain ⟨m, box, hbox, ht⟩ := next_deliverBl hn
    exact .inl ⟨r, m, box, rfl, hbox, ht⟩
  case deliverScr reply =>
    obtain ⟨scr, m, box, hscr, hbox, ht⟩ := next_deliverScr fit hn
    exact .inr (.inl ⟨reply, m, box, scr, rfl, hbox, hscr, ht⟩)
  all_goals refine .inr (.inr ⟨(by intro r he; cases he), ?_⟩)
  case screenFd reply =>
    obtain ⟨scr, hscr, -, rfl⟩ := next_screenFd fit hn
    exact .onScreen reply _ hscr
  case elapse fd sec =>
    obtain rfl := Option.some.inj hn
    exact .elapse fd sec s
  case system m =>
    split_ifs at hn
    obtain rfl := Option.some.inj hn
    exact ⟨fun _ hm _ => List.mem_append_left _ hm, fun _ => id, id⟩
  case interfaceRemoved mon =>
    split_ifs at hn
    obtain ⟨c, -, rfl⟩ := Option.map_eq_some_iff.mp hn
    exact .onBacklight _ s
  -- other steps of BACKLIGHT
  case blFd r | delayedFd r | sensorChanged r | blChanged mon pct | interfaceAdded mon =>
    split_ifs at hn
    obtain rfl := Option.some.inj hn
    exact .onBacklight _ s
  case request m =>
    split_ifs at hn
    obtain rfl := Option.some.inj hn
    exact .publish _ rfl rfl rfl
  case capture up =>
    obtain rfl := Option.some.inj hn
    exact .methodCapture up s
  all_goals
    obtain rfl := Option.some.inj hn
    exact .publish _ rfl rfl rfl

/-! ### What is owed is on its way -/

theorem Due.accepts {s : Core} (h : Due s) : Backlight.accepts s.blCtx = true := by
  have hstack : s.blCtx.loc.stack = [] := by
    have hrun := h.running.stack
    rw [h.unpaused] at hrun
    exact hrun
  unfold Backlight.accepts
  rw [hstack]

/-- Steps that take no message which was on the way. -/
theorem Due.onward {s t : Core} (h : Due s) (hrun : Backlight.Running t.bl)
    (hunpaused : t.bl.paused.isUnpaused = true) (hon : Onward s t) : Due t where
  running := hrun
  unpaused := hunpaused
  started := hon.started h.started
  inFlight := h.inFlight.imp (fun ⟨m, hm, his⟩ => ⟨m, hon.scrBox m hm, his⟩)
    fun ⟨m, hm, his⟩ => ⟨m, hon.blBox m hm his, his⟩

/-- BACKLIGHT handles a message without computing a level. -/
theorem Due.deliverBl {fit : Fit} {r : BlReplies} {m : Msg} {box : List Msg} {s : Core}
    (hphase : Phase s) (hbox : s.blBox = m :: box)
    (hnot : Backlight.computes r m s.blCtx = false)
    (howed : Due s ∨ s.screenStarted = true ∧ Backlight.timerCapture r m s.blCtx = true)
    (hunpaused : (Backlight.handle fit r m s.blCtx).loc.paused.isUnpaused = true) :
    Due (onBacklight (Backlight.handle fit r m) { s with blBox := box }) := by
  have hon := Onward.onBacklight (Backlight.handle fit r m) { s with blBox := box }
  rcases howed with hdue | ⟨hstarted, hcapture⟩
  · -- owed before the step: the message taken is not the one that it waits for
    have hrest : Due { s with blBox := box } := by
      refine ⟨hdue.running, hdue.unpaused, hdue.started, ?_⟩
      rcases hdue.inFlight with hscr | ⟨m', hm', hscreen⟩
      · exact .inl hscr
      · rw [hbox] at hm'
        rcases List.mem_cons.mp hm' with rfl | hm'
        · -- the update that it waits for would compute a level, as BACKLIGHT is not paused
          unfold Msg.isScreenBrUpd at hscreen
          split at hscreen
          · have hcomputes : Backlight.accepts s.blCtx = false := hnot
            rw [hdue.accepts] at hcomputes
            cases hcomputes
          · cases hscreen
        · exact .inr ⟨m', hm', hscreen⟩
    have hrun := Backlight.handle_running fit r m (c := s.blCtx) hdue.running
    exact hrest.onward hrun hunpaused hon
  · -- owed by the step itself: SCREEN is told, and has a mailbox since it is started
    have hrun : Backlight.Running s.bl := by
      refine hphase.resolve_left fun hwait => ?_
      have hno := (Backlight.accepts_of_waiting (c := s.blCtx) hwait).2
      unfold Backlight.timerCapture at hcapture
      split at hcapture
      · rw [hno] at hcapture
        cases hcapture
      · cases hcapture
    obtain ⟨old, new, hout⟩ := Backlight.handle_timerCapture fit (c := s.blCtx) hrun hcapture hnot
    refine ⟨Backlight.handle_running fit r m (c := s.blCtx) hrun, hunpaused, hon.started hstarted, ?_⟩
    exact .inl ⟨_, mem_scrBox_publish hstarted hout rfl, rfl⟩

/-- SCREEN handles a message: if it hears of the ambient brightness, it answers. -/
theorem Due.deliverScr {reply : Option ℚ} {m : Msg} {box : List Msg} {scr : Screen} {s : Core}
    (h : Due s) (hbox : s.scrBox = m :: box) (hscr : s.scr = some scr)
    (hc : Answered (s, true) (.core (.deliverScr reply))) :
    Due (onScreen (Screen.handle reply m) scr { s with scrBox := box }) := by
  have hon := Onward.onScreen reply m (s := { s with scrBox := box }) hscr
  refine ⟨h.running, h.unpaused, hon.started h.started, ?_⟩
  -- what else is on the way stays there
  have hother : (∃ m ∈ box, m.isAmbientBrUpd = true) ∨ (∃ m ∈ s.blBox, m.isScreenBrUpd = true) →
      (∃ m' ∈ (onScreen (Screen.handle reply m) scr { s with scrBox := box }).scrBox,
        m'.isAmbientBrUpd = true) ∨
      ∃ m' ∈ (onScreen (Screen.handle reply m) scr { s with scrBox := box }).blBox,
        m'.isScreenBrUpd = true :=
    Or.imp (fun ⟨m', hm', his⟩ => ⟨m', hon.scrBox m' hm', his⟩)
      fun ⟨m', hm', his⟩ => ⟨m', hon.blBox m' hm' his, his⟩
  rcases h.inFlight with ⟨m', hm', hambient⟩ | hbl
  · rw [hbox] at hm'
    rcases List.mem_cons.mp hm' with rfl | hm'
    · -- this is the update: the condition of the run is about it
      have hhead : s.scrBox.head?.any Msg.isAmbientBrUpd = true := by
        rw [hbox]
        exact hambient
      rcases hc rfl hhead with hmeasures | htail
      · have hstarted := h.started
        unfold screenStarted at hstarted
        change s.scr.any (fun scr => Screen.measures reply (scrCtx scr s)) = true at hmeasures
        rw [hscr] at hstarted hmeasures
        have hstack : (s.scrCtx scr).loc.stack = [] := List.isEmpty_iff.mp hstarted
        unfold Msg.isAmbientBrUpd at hambient
        split at hambient
        · obtain ⟨old, new, hout⟩ := Screen.handle_measures hstack hmeasures _ _
          exact .inr ⟨_, mem_publish_blBox.mpr (.inr ⟨hout, rfl⟩), rfl⟩
        · cases hambient
      · have htail' : s.scrBox.tail = box := congrArg List.tail hbox
        rw [htail'] at htail
        exact hother htail
    · exact hother (.inl ⟨m', hm', hambient⟩)
  · exact hother (.inr hbl)

/-- A level that is owed after a step is on its way if one that was owed before it was. -/
theorem Due.next {fit : Fit} {s t : Core} {owed : Bool} {e : CoreEvent} (hphase : Phase s)
    (hdue : owed = true → Due s) (hc : Answered (s, owed) (.core e)) (hn : Core.next fit s e = some t)
    (howed : recordOwed owed s (.core e) t = true) : Due t := by
  unfold recordOwed at howed
  dsimp only at howed
  rcases next_onward hn with ⟨r, m, box, rfl, hbox, rfl⟩ | ⟨reply, m, box, scr, rfl, hbox, hscr, rfl⟩ |
    ⟨hne, hon⟩
  · have hhandled : handled s (.deliverBl r) = some (r, m) := by
      unfold handled
      rw [hbox]
      rfl
    rw [hhandled] at howed
    simp only [Bool.and_eq_true, Bool.or_eq_true, Bool.not_eq_true'] at howed
    obtain ⟨⟨hunpaused, hnot⟩, hwhich⟩ := howed
    exact .deliverBl hphase hbox hnot (hwhich.imp hdue id) hunpaused
  · obtain ⟨rfl, -⟩ := Bool.and_eq_true_iff.mp howed
    exact (hdue rfl).deliverScr hbox hscr hc
  · -- neither mailbox is read, so nothing is owed that was not
    have hboth : owed = true ∧ t.bl.paused.isUnpaused = true := by
      cases hhandled : handled s e with
      | none =>
        rw [hhandled] at howed
        exact Bool.and_eq_true_iff.mp howed
      | some p =>
        rw [hhandled] at howed
        simp only [Bool.and_eq_true, Bool.or_eq_true] at howed
        obtain ⟨⟨hunpaused, -⟩, hwhich⟩ := howed
        refine ⟨hwhich.resolve_right ?_, hunpaused⟩
        -- a capture comes from the mailbox
        rintro ⟨-, hcapture⟩
        have hfd : ∀ fd, p.2 ≠ .fdUpd fd := by
          intro fd he
          rw [he] at hcapture
          cases hcapture
        exact hne p.1 (handled_mailbox hhandled hfd).1
    have hbefore := hdue hboth.1
    exact hbefore.onward (running_step hbefore.running hn) hboth.2 hon

/-- In every run in which SCREEN measures the screen when it hears of the ambient brightness, as
long as a level is owed and nothing else is going to bring one, a level has come of every clear
capture of the timer by the time the mailboxes are empty, if BACKLIGHT was not paused since. -/
theorem timer_captures_reach (fit : Fit) {s : Core × Bool}
    (hs : (owedRun fit).ReachableBy Answered s) (hbl : s.1.blBox = []) (hscr : s.1.scrBox = []) :
    s.2 = false := by
  -- by induction on the run: what is owed is on its way
  have hdue : s.2 = true → Due s.1 := by
    refine Machine.ReachableBy.history (I := fun s owed => owed = true → Due s) ?_ ?_ hs
    · intro s _ howed
      cases howed
    · intro s owed e t hr hdue hc hn howed
      cases e with
      | core e => exact .next (phase_calibration hr) hdue hc hn howed
      | properties cf =>
        obtain rfl := Option.some.inj hn
        have hbefore := hdue howed
        exact ⟨hbefore.running, hbefore.unpaused, hbefore.started, hbefore.inFlight⟩
  rw [Bool.eq_false_iff]
  intro howed
  -- but nothing is on its way in an empty mailbox
  rcases (hdue howed).inFlight with ⟨m, hm, -⟩ | ⟨m, hm, -⟩
  · rw [hscr] at hm
    cases hm
  · rw [hbl] at hm
    cases hm

instance (s : Core × Bool) : ∀ e : CalibrationEvent, Decidable (Answered s e)
  | .core (.deliverScr reply) => inferInstanceAs (Decidable (s.2 = true →
      s.1.scrBox.head?.any Msg.isAmbientBrUpd = true →
      s.1.scr.any (fun scr => Screen.measures reply (scrCtx scr s.1)) = true ∨
        (∃ m ∈ s.1.scrBox.tail, m.isAmbientBrUpd = true) ∨ ∃ m ∈ s.1.blBox, m.isScreenBrUpd = true))
  | .properties _ => isTrue trivial
  | .core (.deliverBl _) | .core (.blFd _) | .core (.delayedFd _) | .core (.screenFd _)
  | .core (.elapse _ _) | .core (.acState _ _) | .core (.lidState _) | .core (.daytime _ _ _)
  | .core (.display _) | .core (.suspended _ _) | .core .resumed | .core (.inhibited _)
  | .core (.request _) | .core (.capture _) | .core (.system _) | .core (.sensorChanged _)
  | .core (.blChanged _ _) | .core (.interfaceAdded _) | .core (.interfaceRemoved _) => isTrue trivial

/-! ### Runs -/

/-- The default configuration with straight curves, where a closed lid pauses BACKLIGHT or not. -/
def lidConf (pauseOnLidClosed : Bool) : Conf := initCurves (fun _ => (0, 1/10, 0))
  { Conf.default with bl := { Conf.default.bl with pauseOnLidClosed := pauseOnLidClosed } }

def owedStart : Core × Bool := (start (lidConf true), false)

theorem init_owedStart (fit : Fit) : (owedRun fit).init owedStart := by
  refine ⟨init_start ?_, rfl⟩
  intro ac
  cases ac <;> decide

/-- Both modules start on AC by day with the lid open, and SCREEN has measured the screen. -/
def startMeasured : List CalibrationEvent :=
  [.core (.acState none .onAc), .core (.lidState .opened), .core (.daytime none .day false),
    .core (.deliverScr none), .core (.deliverScr none), .core (.deliverBl noCapture),
    .core (.deliverBl noCapture), .core (.deliverBl noCapture), .core (.elapse .screen none),
    .core (.screenFd (some (1/2))), .core (.deliverBl noCapture), .core (.deliverScr none)]

/-- BACKLIGHT's timer makes it capture, and SCREEN hears of it. -/
def leaveToScreen : List CalibrationEvent :=
  [.core (.elapse .bl none), .core (.blFd noCapture),
    .core (.deliverBl { noCapture with capture := some (3/4) }), .core (.deliverScr (some (1/2)))]

/-- The lid is closed, the option is switched off over the bus, and the lid is opened. -/
def closeSwitchOpen : List CalibrationEvent :=
  [.core (.lidState .closed), .core (.deliverScr none), .core (.deliverBl noCapture),
    .properties (lidConf false),
    .core (.lidState .opened), .core (.deliverScr none), .core (.deliverBl noCapture)]

theorem timer_captures_reach_measured : ∃ s, (owedRun fun _ => (0, 1/10, 0)).run owedStart
      (startMeasured ++ leaveToScreen ++ [.core (.deliverBl noCapture), .core (.deliverBl noCapture)]) =
        some s ∧ .blReqStatic ∈ s.1.blOut ∧ s.2 = false := by
  have hrun : ((owedRun fun _ => (0, 1/10, 0)).run owedStart (startMeasured ++ leaveToScreen ++
      [.core (.deliverBl noCapture), .core (.deliverBl noCapture)])).any (fun s =>
        s.1.blBox.isEmpty && s.1.scrBox.isEmpty && s.1.blOut.contains .blReqStatic) = true := by
    decide +kernel
  obtain ⟨s, hs, hp⟩ := (Option.any_eq_true _ _).mp hrun
  simp only [Bool.and_eq_true, List.isEmpty_iff, List.contains_iff_mem] at hp
  obtain ⟨⟨hbl, hscr⟩, hreq⟩ := hp
  have hby : (owedRun fun _ => (0, 1/10, 0)).RunBy Answered owedStart (startMeasured ++
      leaveToScreen ++ [.core (.deliverBl noCapture), .core (.deliverBl noCapture)]) := by
    decide +kernel
  have hreach := Machine.ReachableBy.of_run _ (.init (init_owedStart _)) hby hs
  exact ⟨s, hs, hreq, timer_captures_reach _ hreach hbl hscr⟩

/-- SCREEN is left paused by the lid, and nothing comes of a capture that is left to it. -/
theorem timer_capture_lost : ¬ ∀ (fit : Fit) (s : Core × Bool), (owedRun fit).Reachable s →
    s.1.blBox = [] → s.1.scrBox = [] → s.2 = false := by
  intro h
  have hrun : ((owedRun fun _ => (0, 1/10, 0)).run owedStart
      (startMeasured ++ closeSwitchOpen ++ leaveToScreen)).any
        (fun s => s.1.blBox.isEmpty && s.1.scrBox.isEmpty && s.2) = true := by
    decide +kernel
  obtain ⟨s, hs, hp⟩ := (Option.any_eq_true _ _).mp hrun
  simp only [Bool.and_eq_true, List.isEmpty_iff] at hp
  obtain ⟨⟨hbl, hscr⟩, howed⟩ := hp
  have hreach := Machine.reachable_of_run (init_owedStart _) hs
  rw [h _ s hreach hbl hscr] at howed
  cases howed

end Core
end Clight
