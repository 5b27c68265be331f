import Clight.Calibration

/-! The timer of automatic calibration: it is one-shot, and only the handling of a
CAPTURE_REQ with reset_timer arms it again, which a paused BACKLIGHT may drop. -/
namespace Clight

/-- The timeouts of BACKLIGHT are C ints. -/
def BlConf.IntTimeouts (bl : BlConf) : Prop := ∀ ac t, bl.timeout ac t < 2^31

theorem BlConf.IntTimeouts.timeoutAt_lt {bl : BlConf} (h : bl.IntTimeouts) (ac : Option AcState)
    (t : Option BlTime) : bl.timeoutAt ac t < 2^31 := by
  have hzero : (0 : ℤ) < 2^31 := by decide
  cases t with
  | none => exact hzero
  | some t =>
    cases ac with
    | none => exact hzero
    | some ac => exact h ac t

namespace Backlight

/-- CAPTURE_REQ with reset_timer, which the module's own request holds too. -/
def resets (l : Backlight) : Msg → Bool
  | .captureReq _ up => up.resetTimer
  | .captureReqStatic => l.captureReq.resetTimer
  | _ => false

/-- Timeouts remain ints, and a timer that is live whenever the timeout in force is positive
remains so. -/
structure KeepsTimer (c c' : BlCtx) : Prop where
  ints : c.cf.bl.IntTimeouts → c'.cf.bl.IntTimeouts
  live : c.cf.bl.IntTimeouts → (0 < getCurrentTimeout c → c.loc.blFd.live = true) →
    0 < getCurrentTimeout c' → c'.loc.blFd.live = true

/-- Code that writes no timeout keeps them ints. -/
theorem Frame.intTimeouts {R : List ModPause} {P : Msg → Prop} {c c' : BlCtx}
    (h : Frame R P c c') (hint : c.cf.bl.IntTimeouts) : c'.cf.bl.IntTimeouts := by
  unfold BlConf.IntTimeouts
  rw [h.timeout]
  exact hint

namespace KeepsTimer
variable {c c₁ c₂ : BlCtx} {R : List ModPause} {P : Msg → Prop}

theorem refl (c : BlCtx) : KeepsTimer c c := ⟨id, fun _ hlive => hlive⟩

theorem trans (h₁ : KeepsTimer c c₁) (h₂ : KeepsTimer c₁ c₂) : KeepsTimer c c₂ where
  ints h := h₂.ints (h₁.ints h)
  live h hlive := h₂.live (h₁.ints h) (h₁.live h hlive)

/-- Code that writes neither the timeouts nor what they depend on, nor the timer. -/
theorem of_frame (h : Frame R P c c₁) (hfd : c₁.loc.blFd = c.loc.blFd) : KeepsTimer c c₁ where
  ints := h.intTimeouts
  live _ hlive hpos := by
    rw [hfd]
    apply hlive
    rw [← h.currentTimeout]
    exact hpos

/-- Code that does, but leaves the timer live. -/
theorem of_live (h : Frame R P c c₁) (hlive : 0 < getCurrentTimeout c → c₁.loc.blFd.live = true) :
    KeepsTimer c c₁ where
  ints := h.intTimeouts
  live _ _ hpos := by
    apply hlive
    rw [← h.currentTimeout]
    exact hpos

end KeepsTimer

/-- reset_or_pause leaves the timer live if it was so under a positive old timeout. -/
theorem resetOrPause_live {old : ℤ} {c : BlCtx} (hint : c.cf.bl.IntTimeouts)
    (hfd : 0 < old → c.loc.blFd.live = true) (hpos : 0 < getCurrentTimeout c) :
    (resetOrPause old true c).loc.blFd.live = true := by
  unfold resetOrPause
  dsimp only
  rw [if_neg (not_le.mpr hpos), if_pos rfl]
  exact resetTimer_live hpos (hint.timeoutAt_lt _ _) hfd

theorem keepsTimer_resetOrPause (old : ℤ) (c : BlCtx) :
    KeepsTimer c (resetOrPause old true c) := by
  have hframe : Frame [.timeout] (fun _ => True) c (resetOrPause old true c) :=
    frame_resetOrPause (by decide) old true c
  refine ⟨hframe.intTimeouts, ?_⟩
  intro hint hlive hpos
  rw [hframe.currentTimeout] at hpos
  exact resetOrPause_live hint (fun _ => hlive hpos) hpos

theorem keepsTimer_onLidUpdate (c : BlCtx) : KeepsTimer c (onLidUpdate c) := by
  have hframe : Frame [.lid] (fun _ => True) c (onLidUpdate c) := frame_onLidUpdate (by decide) c
  by_cases hcapture : c.st.lidShut = false ∧ c.cf.bl.captureOnLidOpened = true
  · apply KeepsTimer.of_live hframe
    intro _
    unfold onLidUpdate
    rw [hcapture.1, if_neg Bool.false_ne_true, if_pos hcapture.2]
    rfl
  · apply KeepsTimer.of_frame hframe
    unfold onLidUpdate
    split_ifs with hshut hpause hopen
    · rfl
    · rfl
    · exact absurd ⟨Bool.eq_false_iff.mpr hshut, hopen⟩ hcapture
    · rfl

theorem keepsTimer_upowerCallback (c : BlCtx) : KeepsTimer c (upowerCallback c) := by
  have hframe : Frame [] (fun _ => True) c (upowerCallback c) := frame_setBlFd _ c
  apply KeepsTimer.of_live hframe
  intro hpos
  unfold upowerCallback
  rw [if_pos hpos]
  rfl

/-- A new timeout that is an int, for the cell in force or for another. -/
theorem keepsTimer_onBlToReq {up : TimeoutUpd} (hup : up.new < 2^31) (c : BlCtx) :
    KeepsTimer c (onBlToReq up c) := by
  have hnew := validateTimeout_new c.st up
  unfold onBlToReq
  dsimp only
  split
  · next ac _ =>
    unfold interfaceTimeoutCallback
    split
    · exact .refl c
    · next t _ =>
      -- the configuration with the new cell
      have hint (h : c.cf.bl.IntTimeouts) : BlConf.IntTimeouts { c.cf.bl with
          timeout := Function.update c.cf.bl.timeout ac
            (Function.update (c.cf.bl.timeout ac) t (validateTimeout c.st up).1.new) } := by
        intro ac' t'
        rw [hnew]
        by_cases hac : ac' = ac
        · subst hac
          by_cases ht : t' = t
          · subst ht
            simpa only [Function.update_self] using hup
          · simpa only [Function.update_self, Function.update_of_ne ht] using h ac' t'
        · simpa only [Function.update_of_ne hac] using h ac' t'
      dsimp only
      split_ifs with hforce
      · have hframe := frame_resetOrPause (R := [.timeout]) (P := fun _ => True) (by decide)
          (getCurrentTimeout c) true (withTimeouts (Function.update c.cf.bl.timeout ac
            (Function.update (c.cf.bl.timeout ac) t (validateTimeout c.st up).1.new)) c)
        refine ⟨fun h => hframe.intTimeouts (hint h), ?_⟩
        intro h hlive hpos
        have hpos' := hframe.currentTimeout ▸ hpos
        exact resetOrPause_live (hint h) hlive hpos'
      · refine ⟨hint, ?_⟩
        intro _ hlive hpos
        apply hlive
        rw [← currentTimeout_update_other _ hforce]
        exact hpos
  · exact .refl c

/-- Messages whose handling may set the timer, or read it. -/
def setsTimer : Msg → Bool
  | .fdUpd .delayed => false
  | .upowerUpd _ _ | .lidUpd _ _ | .daytimeUpd _ _ | .inEventUpd _ _ | .blToReq _ | .captureReq _ _
  | .captureReqStatic | .fdUpd _ => true
  | _ => false

theorem setBacklightLevel_loc (r : BlReplies) (pct : ℚ) (isSmooth : Bool) (step : ℚ) (timeout : ℤ)
    (c : BlCtx) : (setBacklightLevel r pct isSmooth step timeout c).loc = c.loc := by
  unfold setBacklightLevel
  dsimp only
  split
  · rfl
  · split <;> rfl

theorem onBlReq_loc (r : BlReplies) (accept : Bool) (up : BlUpd) (c : BlCtx) :
    (onBlReq r accept up c).loc = c.loc := by
  unfold onBlReq
  dsimp only
  split
  · exact setBacklightLevel_loc r _ _ _ _ c
  · rfl

theorem pauseIf_blFd (on : Bool) (reason : ModPause) (c : BlCtx) :
    (pauseIf on reason c).loc.blFd = c.loc.blFd := by
  unfold pauseIf
  split <;> rfl

theorem setNewBacklight_blFd (c : BlCtx) : (setNewBacklight c).loc.blFd = c.loc.blFd := by
  obtain ⟨new, out, -, heq⟩ := setNewBacklight_eq c
  rw [heq]
  rfl

theorem captured_blFd (reply : Option ℚ) (captureOnly : Bool) (c : BlCtx) :
    (captured reply captureOnly c).loc.blFd = c.loc.blFd :=
  captured_of_steps (Q := fun c c' => c'.loc.blFd = c.loc.blFd) (fun _ => rfl)
    (fun _ _ _ h h' => h'.trans h) (fun _ _ => rfl) setNewBacklight_blFd reply captureOnly c

theorem receive_blFd (fit : Fit) (r : BlReplies) {m : Msg} (hm : setsTimer m = false)
    (c : BlCtx) : (receive fit r m c).loc.blFd = c.loc.blFd := by
  unfold receive
  split
  · rfl
  · next fd hfd =>
    cases fd
    case delayed => exact absurd rfl hfd
    all_goals cases hm
  · exact setNewBacklight_blFd c
  · cases hm
  · exact pauseIf_blFd _ .display c
  · cases hm
  · cases hm
  · cases hm
  · exact pauseIf_blFd _ .suspend c
  · exact pauseIf_blFd _ .inhibit c
  · cases hm
  · cases hm
  · cases hm
  · unfold onCurveReq
    dsimp only
    split
    · split <;> rfl
    · rfl
  · unfold onNoAutocalibReq
    split
    · exact pauseIf_blFd _ .autocalib _
    · rfl
  · exact congrArg Backlight.blFd (onBlReq_loc r true _ c)
  · unfold onBlReqStatic
    rw [onBlReq_loc]
  · unfold onLoopStopped
    split <;> rfl
  · rfl

theorem handle_blFd (fit : Fit) (r : BlReplies) {m : Msg} {c : BlCtx} (h : Running c.loc)
    (hm : setsTimer m = false) : (handle fit r m c).loc.blFd = c.loc.blFd := by
  rcases handle_eq_receive fit r m h with he | he | he | ⟨-, he⟩
  · rw [he]
    exact receive_blFd fit r hm c
  · rw [he]
  · rw [he]
    rfl
  · rw [he]
    unfold onBlReqStatic
    rw [onBlReq_loc]

theorem keepsTimer_doCapture (r : BlReplies) (reset captureOnly : Bool) (c : BlCtx) :
    KeepsTimer c (doCapture r reset captureOnly c) ∧
      (reset = true → 0 < getCurrentTimeout c →
        (doCapture r reset captureOnly c).loc.blFd.live = true) := by
  have hframe : Frame [] (fun _ => True) c (doCapture r reset captureOnly c) :=
    frame_doCapture (fun _ _ => trivial) trivial r reset captureOnly c
  have hcapt : Frame [] (fun _ => True) c (captured r.capture captureOnly c) :=
    frame_captured (fun _ _ => trivial) trivial r.capture captureOnly c
  cases reset with
  | false => exact ⟨.of_frame hframe (captured_blFd r.capture captureOnly c), nofun⟩
  | true =>
    have hlive (hpos : 0 < getCurrentTimeout c) :
        (doCapture r true captureOnly c).loc.blFd.live = true := by
      show (setTimeout (getCurrentTimeout (captured r.capture captureOnly c)) 0).live = true
      rw [setTimeout_live, hcapt.currentTimeout]
      simp [hpos]
    exact ⟨.of_live hframe hlive, fun _ => hlive⟩

/-- Whatever a running BACKLIGHT receives except the expiration of the timer. -/
theorem keepsTimer_handle (fit : Fit) (r : BlReplies) {m : Msg} {c : BlCtx} (h : Running c.loc)
    (hfd : ∀ fd, m = .fdUpd fd → fd = .delayed) (hup : ∀ up, m = .blToReq up → up.new < 2^31) :
    KeepsTimer c (handle fit r m c) := by
  have hcase := handle_of_running fit r m h
  cases hset : setsTimer m with
  | false =>
    have hkept := handle_blFd fit r h hset
    rcases handle_cases fit r m h with ⟨up, rfl, -⟩ | ⟨new, rfl, he⟩ | ⟨old, new, rfl, -⟩ |
      ⟨old, new, rfl, -⟩ | hf
    · cases hset
    · obtain ⟨b, hf⟩ := frame_onNoAutocalibReq (R := [.autocalib]) (P := fun _ => True) (by decide)
        (fun _ => trivial) new c
      rw [he] at hkept ⊢
      have hwrite : KeepsTimer c
          { c with cf := { c.cf with bl := { c.cf.bl with noAutoCalib := b } } } :=
        ⟨id, fun _ hlive => hlive⟩
      exact hwrite.trans (.of_frame hf hkept)
    · cases hset
    · cases hset
    · exact .of_frame hf hkept
  | true =>
    cases m
    case upowerUpd old new =>
      rcases hcase with he | he <;> rw [he]
      · exact keepsTimer_upowerCallback c
      · exact keepsTimer_upowerCallback c
    case lidUpd old new =>
      rcases hcase with he | he <;> rw [he]
      · exact keepsTimer_onLidUpdate c
      · exact keepsTimer_onLidUpdate c
    case daytimeUpd old new =>
      rcases hcase with he | he <;> rw [he]
      · exact keepsTimer_resetOrPause _ c
      · exact keepsTimer_resetOrPause _ c
    case inEventUpd old new =>
      rcases hcase with he | he <;> rw [he]
      · exact keepsTimer_resetOrPause _ c
      · exact keepsTimer_resetOrPause _ c
    case blToReq up =>
      rcases hcase with he | he <;> rw [he]
      · exact keepsTimer_onBlToReq (hup up rfl) c
      · exact keepsTimer_onBlToReq (hup up rfl) c
    case captureReq sender up =>
      rw [handle_captureReq fit r h]
      split
      · exact (keepsTimer_doCapture r _ _ c).1
      · exact .refl c
    case captureReqStatic =>
      rw [handle_captureReqStatic fit r h]
      split
      · exact (keepsTimer_doCapture r _ _ c).1
      · exact .refl c
    case fdUpd fd =>
      rw [hfd fd rfl] at hset
      cases hset
    all_goals cases hset

/-- An expired descriptor is the timer's or the delayed one's; a paused BACKLIGHT takes it
for the latter. -/
theorem handle_fdUpd (fit : Fit) (r : BlReplies) (fd : Fd) {c : BlCtx} (h : Running c.loc) :
    handle fit r (.fdUpd fd) c = onBlFd c ∨
      handle fit r (.fdUpd fd) c = onDelayedInterface (readDelayed c) := by
  rcases handle_of_running fit r (.fdUpd fd) h with he | he
  · rw [he]
    cases fd
    case delayed => exact .inr rfl
    all_goals exact .inl rfl
  · exact .inr he

theorem keepsTimer_onDelayedInterface (c : BlCtx) :
    KeepsTimer c (onDelayedInterface (readDelayed c)) := by
  have hread : Frame [] (fun _ => True) c (readDelayed c) := frame_local _ rfl rfl rfl
  exact .of_frame (hread.trans (frame_onDelayedInterface (fun _ _ => trivial) (fun _ => trivial) _)) rfl

/-- A capture that resets the timer arms it, if BACKLIGHT accepts it. -/
theorem handle_resets (fit : Fit) (r : BlReplies) {m : Msg} {c : BlCtx} (h : Running c.loc)
    (hm : resets c.loc m = true) :
    if acceptsCapture c then
      0 < getCurrentTimeout (handle fit r m c) → (handle fit r m c).loc.blFd.live = true
    else handle fit r m c = c := by
  have hreset (captureOnly : Bool) (hpos : 0 < getCurrentTimeout (doCapture r true captureOnly c)) :
      (doCapture r true captureOnly c).loc.blFd.live = true := by
    have hframe : Frame [] (fun _ => True) c (doCapture r true captureOnly c) :=
      frame_doCapture (fun _ _ => trivial) trivial r true captureOnly c
    rw [hframe.currentTimeout] at hpos
    exact (keepsTimer_doCapture r true captureOnly c).2 rfl hpos
  cases m
  case captureReq sender up =>
    have hup : up.resetTimer = true := hm
    rw [handle_captureReq fit r h, hup]
    split
    · exact hreset up.captureOnly
    · rfl
  case captureReqStatic =>
    have hup : c.loc.captureReq.resetTimer = true := hm
    rw [handle_captureReqStatic fit r h, hup]
    split
    · exact hreset c.loc.captureReq.captureOnly
    · rfl
  all_goals cases hm

/-- BACKLIGHT starts with a live timer, if the timeout in force is positive. -/
theorem keepsTimer_startup (r : BlReplies) (c : BlCtx) : KeepsTimer (timerStarted c) (startup r c) := by
  have hpause : KeepsTimer (timerStarted c) (resetOrPause (-1) false (timerStarted c)) := by
    have hframe : Frame [.timeout] (fun _ => True) (timerStarted c)
        (resetOrPause (-1) false (timerStarted c)) := frame_resetOrPause (by decide) (-1) false _
    apply KeepsTimer.of_frame hframe
    unfold resetOrPause
    dsimp only
    split <;> rfl
  have hsens (c' : BlCtx) : KeepsTimer c' (onSensorChange r c') := by
    have hframe : Frame [.sensor] (fun _ => True) c' (onSensorChange r c') :=
      frame_onSensorChange (by decide) (fun _ _ => trivial) r c'
    exact .of_frame hframe (onSensorChange_blFd r c')
  have hcal (c' : BlCtx) : KeepsTimer c' (if c'.cf.bl.noAutoCalib then
      pauseMod .autocalib (setBacklightLevel r 1 (!c'.cf.bl.smooth.noSmooth) 0 0 c') else c') := by
    have hset : Frame [.autocalib] (fun _ => True) c'
        (setBacklightLevel r 1 (!c'.cf.bl.smooth.noSmooth) 0 0 c') :=
      frame_setBacklightLevel (fun _ _ => trivial) r 1 _ 0 0 c'
    have hfull := hset.trans (frame_pauseMod (r := .autocalib) (by decide) _)
    have hkept : (setBacklightLevel r 1 (!c'.cf.bl.smooth.noSmooth) 0 0 c').loc.blFd =
        c'.loc.blFd := by
      rw [setBacklightLevel_loc]
    split
    · exact .of_frame hfull hkept
    · exact .refl c'
  have hlid (c' : BlCtx) : KeepsTimer c' (if c'.st.lidShut then onLidUpdate c' else c') := by
    split
    · exact keepsTimer_onLidUpdate c'
    · exact .refl c'
  have hrest := ((hpause.trans (hsens _)).trans (hcal _)).trans (hlid _)
  exact ⟨hrest.ints, hrest.live⟩

/-- The reset flag of the module's own request is never written after init. -/
theorem handle_resetTimer (fit : Fit) (r : BlReplies) (m : Msg) {c : BlCtx}
    (h : Waiting c.loc ∨ Running c.loc) :
    (handle fit r m c).loc.captureReq.resetTimer = c.loc.captureReq.resetTimer := by
  have hset (c' : BlCtx) : (setNewBacklight c').loc.captureReq = c'.loc.captureReq := by
    obtain ⟨new, out, -, heq⟩ := setNewBacklight_eq c'
    rw [heq]
    rfl
  have hcapt (captureOnly : Bool) :
      (captured r.capture captureOnly c).loc.captureReq = c.loc.captureReq :=
    captured_of_steps (Q := fun c c' => c'.loc.captureReq = c.loc.captureReq) (fun _ => rfl)
      (fun _ _ _ h h' => h'.trans h) (fun _ _ => rfl) hset r.capture captureOnly c
  rcases handle_calibration fit r m h with ⟨-, hcalm⟩ | ⟨rfl, -, he⟩ | ⟨old, new, rfl, -, he⟩ |
    ⟨reset, captureOnly, -, he⟩
  · exact hcalm.resetTimer
  · rw [he]
    unfold onBlReqStatic
    rw [onBlReq_loc]
  · rw [he]
    exact congrArg CaptureUpd.resetTimer (hset c)
  · obtain ⟨fd, hfd⟩ := doCapture_eq r reset captureOnly c
    rw [he, hfd]
    exact congrArg CaptureUpd.resetTimer (hcapt captureOnly)

end Backlight

namespace Core

/-! ### Runs -/

/-- Calibration with timeouts that are C ints. -/
def timed (fit : Fit) : Machine Core CalibrationEvent :=
  (calibration fit).startedIn fun s => s.cf.bl.IntTimeouts

/-- The steps of a run: the AC state and the daytime change only before startup, timeouts are
ints, and a CAPTURE_REQ that resets the timer is lost only while the timeout in force is not
positive, the timer is live, or another such request is queued. A paused BACKLIGHT may drop it,
and a later Capture that does not reset the timer rewrites it. -/
def Rearms (s : Core) : CalibrationEvent → Prop
  | .core (.acState _ _) | .core (.daytime _ _ _) => s.bl.isWaiting = true
  | .core (.deliverBl _) => match s.blBox with
    | .blToReq up :: _ => up.new < 2^31
    | m :: box => s.bl.isWaiting = false → Backlight.resets s.bl m = true →
        Backlight.acceptsCapture s.blCtx = false → 0 < Backlight.getCurrentTimeout s.blCtx →
          s.bl.blFd.live = true ∨ box.any (Backlight.resets s.bl) = true
    | [] => True
  | .core (.capture up) => s.bl.isWaiting = false → up.resetTimer = false →
      s.blBox.any (fun m => m.isInterfaceCapture && Backlight.resets s.bl m) = true →
        0 < Backlight.getCurrentTimeout s.blCtx →
          s.bl.blFd.live = true ∨
            s.blBox.any (fun m => !m.isInterfaceCapture && Backlight.resets s.bl m) = true
  | _ => True

instance (s : Core) (e : CalibrationEvent) : Decidable (Rearms s e) := by
  unfold Rearms
  split
  · infer_instance
  · infer_instance
  · split <;> infer_instance
  · infer_instance
  · infer_instance

/-- The timer is live, or it will be set by a request that is still queued. -/
def Alive (s : Core) : Prop :=
  0 < Backlight.getCurrentTimeout s.blCtx →
    s.bl.blFd.live = true ∨ ∃ m ∈ s.blBox, Backlight.resets s.bl m = true

structure ArmedInv (s : Core) : Prop where
  phase : Phase s
  ints : s.cf.bl.IntTimeouts
  resetTimer : s.bl.captureReq.resetTimer = true
  alive : s.bl.isWaiting = false → Alive s

theorem resets_congr {l l' : Backlight} (h : l'.captureReq.resetTimer = l.captureReq.resetTimer)
    (m : Msg) : Backlight.resets l' m = Backlight.resets l m := by
  cases m
  case captureReqStatic => exact h
  all_goals rfl

theorem mem_onBacklight_blBox (f : BlCtx → BlCtx) {t : Core} {m : Msg} (hm : m ∈ t.blBox) :
    m ∈ (onBacklight f t).blBox :=
  List.mem_append_left _ hm

/-- A timer that is live when the timeout is positive, or an earlier request that is still
queued, is enough after any message. -/
theorem alive_of_keepsTimer {f : BlCtx → BlCtx} {s t : Core} (hinv : ArmedInv s)
    (hbl : t.blCtx = s.blCtx) (hf : Backlight.KeepsTimer s.blCtx (f s.blCtx))
    (hreset : (f s.blCtx).loc.captureReq.resetTimer = s.bl.captureReq.resetTimer)
    (halive : 0 < Backlight.getCurrentTimeout s.blCtx →
      s.bl.blFd.live = true ∨ ∃ m ∈ t.blBox, Backlight.resets s.bl m = true) :
    Alive (onBacklight f t) := by
  intro hpos
  by_cases hqueued : ∃ m ∈ t.blBox, Backlight.resets s.bl m = true
  · right
    obtain ⟨m, hm, hresets⟩ := hqueued
    refine ⟨m, mem_onBacklight_blBox f hm, ?_⟩
    have hloc : (onBacklight f t).bl.captureReq.resetTimer = s.bl.captureReq.resetTimer := by
      rw [← hreset, ← hbl]
      rfl
    rw [resets_congr hloc]
    exact hresets
  · left
    have hlive : 0 < Backlight.getCurrentTimeout s.blCtx → s.bl.blFd.live = true := fun h =>
      (halive h).resolve_right hqueued
    have hpos' : 0 < Backlight.getCurrentTimeout (f s.blCtx) := by
      rw [← hbl]
      exact hpos
    show (f t.blCtx).loc.blFd.live = true
    rw [hbl]
    exact hf.live hinv.ints hlive hpos'

/-- The expiration of the timer is answered by a request that will set it again. -/
theorem alive_onBlFd {s t : Core} {f : BlCtx → BlCtx} (hinv : ArmedInv s) (hbl : t.blCtx = s.blCtx)
    (hf : f s.blCtx = Backlight.onBlFd s.blCtx) : Alive (onBacklight f t) := by
  intro _
  right
  refine ⟨.captureReqStatic, ?_, ?_⟩
  · refine List.mem_append_right _ (List.mem_filter.mpr ⟨?_, rfl⟩)
    rw [hbl, hf]
    exact List.mem_append_right _ (List.mem_singleton_self _)
  · show (f t.blCtx).loc.captureReq.resetTimer = true
    rw [hbl, hf]
    exact hinv.resetTimer

theorem alive_startup {r : BlReplies} {m : Msg} {s t : Core} {f : BlCtx → BlCtx}
    (hinv : ArmedInv s) (hbl : t.blCtx = s.blCtx)
    (hf : f s.blCtx = Backlight.startup r (Backlight.seen m s.blCtx)) : Alive (onBacklight f t) := by
  intro hpos
  left
  have hkeeps := Backlight.keepsTimer_startup r (Backlight.seen m s.blCtx)
  have hstart : 0 < Backlight.getCurrentTimeout (Backlight.timerStarted (Backlight.seen m s.blCtx)) →
      (Backlight.timerStarted (Backlight.seen m s.blCtx)).loc.blFd.live = true := by
    intro hpos
    have hcell : 0 < Backlight.getCurrentTimeout (Backlight.seen m s.blCtx) := hpos
    show (setTimeout 0 (if 0 < Backlight.getCurrentTimeout (Backlight.seen m s.blCtx) then 1 else 0)).live
      = true
    rw [if_pos hcell]
    rfl
  have hpos' : 0 < Backlight.getCurrentTimeout (f s.blCtx) := by
    rw [← hbl]
    exact hpos
  show (f t.blCtx).loc.blFd.live = true
  rw [hf] at hpos'
  rw [hbl, hf]
  exact hkeeps.live hinv.ints hstart hpos'

/-- A running BACKLIGHT handles a message; `t` is the state without it in the mailbox. -/
theorem alive_handle {fit : Fit} {r : BlReplies} {m : Msg} {s t : Core} (hinv : ArmedInv s)
    (hrun : Backlight.Running s.bl) (hbl : t.blCtx = s.blCtx)
    (hbox : ∀ m' ∈ s.blBox, m' = m ∨ m' ∈ t.blBox) (hup : ∀ up, m = .blToReq up → up.new < 2^31)
    (hdrop : Backlight.resets s.bl m = true → Backlight.acceptsCapture s.blCtx = false →
      0 < Backlight.getCurrentTimeout s.blCtx →
        s.bl.blFd.live = true ∨ ∃ m' ∈ t.blBox, Backlight.resets s.bl m' = true) :
    Alive (onBacklight (Backlight.handle fit r m) t) := by
  have hreset := Backlight.handle_resetTimer fit r m (c := s.blCtx) (.inr hrun)
  by_cases hm : Backlight.resets s.bl m = true
  · have hspec := Backlight.handle_resets fit r (c := s.blCtx) hrun hm
    split at hspec
    · intro hpos
      left
      show (Backlight.handle fit r m t.blCtx).loc.blFd.live = true
      rw [hbl]
      apply hspec
      rw [← hbl]
      exact hpos
    · next hacc =>
      -- the request is dropped, and nothing else happens
      have hkeeps : Backlight.KeepsTimer s.blCtx (Backlight.handle fit r m s.blCtx) := by
        rw [hspec]
        exact .refl s.blCtx
      exact alive_of_keepsTimer hinv hbl hkeeps hreset (hdrop hm (Bool.eq_false_iff.mpr hacc))
  · have halive : 0 < Backlight.getCurrentTimeout s.blCtx →
        s.bl.blFd.live = true ∨ ∃ m' ∈ t.blBox, Backlight.resets s.bl m' = true := by
      intro hpos
      rcases hinv.alive hrun.not_waiting hpos with hlive | ⟨m', hm', hresets⟩
      · exact .inl hlive
      · rcases hbox m' hm' with rfl | hm'
        · exact absurd hresets hm
        · exact .inr ⟨m', hm', hresets⟩
    by_cases hfd : ∃ fd, m = .fdUpd fd
    · obtain ⟨fd, rfl⟩ := hfd
      rcases Backlight.handle_fdUpd fit r fd (c := s.blCtx) hrun with he | he
      · exact alive_onBlFd hinv hbl he
      · refine alive_of_keepsTimer hinv hbl ?_ hreset halive
        rw [he]
        exact Backlight.keepsTimer_onDelayedInterface _
    · refine alive_of_keepsTimer hinv hbl ?_ hreset halive
      exact Backlight.keepsTimer_handle fit r (c := s.blCtx) hrun (fun fd he => absurd ⟨fd, he⟩ hfd) hup

/-- BACKLIGHT handles a message, before or after its startup. -/
theorem armed_handle {fit : Fit} {r : BlReplies} {m : Msg} {s t : Core} (hinv : ArmedInv s)
    (hphase : Phase (onBacklight (Backlight.handle fit r m) t)) (hbl : t.blCtx = s.blCtx)
    (hbox : ∀ m' ∈ s.blBox, m' = m ∨ m' ∈ t.blBox) (hup : ∀ up, m = .blToReq up → up.new < 2^31)
    (hdrop : s.bl.isWaiting = false → Backlight.resets s.bl m = true →
      Backlight.acceptsCapture s.blCtx = false → 0 < Backlight.getCurrentTimeout s.blCtx →
        s.bl.blFd.live = true ∨ ∃ m' ∈ t.blBox, Backlight.resets s.bl m' = true) :
    ArmedInv (onBacklight (Backlight.handle fit r m) t) := by
  have hreset := Backlight.handle_resetTimer fit r m (c := s.blCtx) hinv.phase
  have hctx : Backlight.handle fit r m t.blCtx = Backlight.handle fit r m s.blCtx := by
    rw [hbl]
  refine ⟨hphase, ?_, ?_, ?_⟩
  · show (Backlight.handle fit r m t.blCtx).cf.bl.IntTimeouts
    rw [hctx]
    rcases hinv.phase with hw | hrun
    · rcases Backlight.handle_waiting fit r m (c := s.blCtx) hw with ⟨-, he⟩ | ⟨-, he⟩
      · rw [he]
        exact hinv.ints
      · rw [he]
        exact (Backlight.keepsTimer_startup r _).ints hinv.ints
    · by_cases hfd : ∃ fd, m = .fdUpd fd
      · obtain ⟨fd, rfl⟩ := hfd
        rcases Backlight.handle_fdUpd fit r fd (c := s.blCtx) hrun with he | he
        · rw [he]
          exact hinv.ints
        · rw [he]
          exact hinv.ints
      · exact (Backlight.keepsTimer_handle fit r (c := s.blCtx) hrun
          (fun fd he => absurd ⟨fd, he⟩ hfd) hup).ints hinv.ints
  · show (Backlight.handle fit r m t.blCtx).loc.captureReq.resetTimer = true
    rw [hctx, hreset]
    exact hinv.resetTimer
  · intro hrunning
    rcases hinv.phase with hw | hrun
    · rcases Backlight.handle_waiting fit r m (c := s.blCtx) hw with ⟨hw', he⟩ | ⟨-, he⟩
      · have hstill : (Backlight.handle fit r m t.blCtx).loc.isWaiting = true := by
          rw [hctx, he]
          exact hw'.isWaiting
        have hnot : (Backlight.handle fit r m t.blCtx).loc.isWaiting = false := hrunning
        rw [hstill] at hnot
        cases hnot
      · exact alive_startup hinv hbl he
    · exact alive_handle hinv hrun hbl hbox hup (hdrop hrun.not_waiting)

/-- A step in which BACKLIGHT handles no message and the environment does not change what the
timeout in force depends on. -/
structure TimerStep (s s' : Core) : Prop where
  waiting : s'.bl.isWaiting = s.bl.isWaiting
  live : s'.bl.blFd.live = s.bl.blFd.live
  resetTimer : s'.bl.captureReq.resetTimer = s.bl.captureReq.resetTimer
  table : s'.cf.bl.timeout = s.cf.bl.timeout
  timeout : Backlight.getCurrentTimeout s'.blCtx = Backlight.getCurrentTimeout s.blCtx
  box : ∀ m ∈ s.blBox, m ∈ s'.blBox

theorem TimerStep.armed {s s' : Core} (h : TimerStep s s') (hphase : Phase s') (hinv : ArmedInv s) :
    ArmedInv s' := by
  refine ⟨hphase, ?_, h.resetTimer.trans hinv.resetTimer, ?_⟩
  · unfold BlConf.IntTimeouts
    rw [h.table]
    exact hinv.ints
  · intro hw hpos
    rw [h.timeout] at hpos
    rcases hinv.alive (h.waiting ▸ hw) hpos with hlive | ⟨m, hm, hresets⟩
    · left
      rw [h.live]
      exact hlive
    · right
      refine ⟨m, h.box m hm, ?_⟩
      rw [resets_congr h.resetTimer]
      exact hresets

theorem timeout_congr {c c' : BlCtx} (htable : c'.cf.bl.timeout = c.cf.bl.timeout)
    (hac : c'.st.acState = c.st.acState) (hday : c'.st.dayTime = c.st.dayTime)
    (hev : c'.st.inEvent = c.st.inEvent) :
    Backlight.getCurrentTimeout c' = Backlight.getCurrentTimeout c := by
  simp only [Backlight.getCurrentTimeout, BlConf.timeoutAt, htable, hac, hday, hev]

theorem timerStep_signal {s : Core} {c : BlCtx} {R : List ModPause} {P : Msg → Prop}
    (hrun : Backlight.Running s.bl) (hf : Backlight.Frame R P s.blCtx c)
    (hcalm : Backlight.Calm s.blCtx c) (hfd : c.loc.blFd = s.bl.blFd) :
    TimerStep s (onBacklight (fun _ => c) s) where
  waiting := by
    rw [hrun.not_waiting]
    exact (hf.running hrun).not_waiting
  live := congrArg TimerFd.live hfd
  resetTimer := hcalm.resetTimer
  table := hf.timeout
  timeout := hf.currentTimeout
  box _ hm := List.mem_append_left _ hm

theorem timerStep_screen (reply : Option ℚ) (m : Msg) (scr : Screen) {s t : Core}
    (hbl : t.bl = s.bl) (hst : t.st = s.st) (hcf : t.cf = s.cf) (hbox : t.blBox = s.blBox) :
    TimerStep s (onScreen (Screen.handle reply m) scr t) := by
  have hframe := Screen.frame_handle reply m (t.scrCtx scr)
  obtain ⟨br, hst'⟩ := hframe.st
  obtain ⟨screen, hcf'⟩ := hframe.cf
  have htable : (Screen.handle reply m (t.scrCtx scr)).cf.bl = s.cf.bl := by
    rw [hcf', ← hcf]
    rfl
  have hbl' : (onScreen (Screen.handle reply m) scr t).bl = s.bl := hbl
  have hac : t.st.acState = s.st.acState := congrArg State.acState hst
  have hday : t.st.dayTime = s.st.dayTime := congrArg State.dayTime hst
  have hev : t.st.inEvent = s.st.inEvent := congrArg State.inEvent hst
  refine ⟨by rw [hbl'], by rw [hbl'], by rw [hbl'], congrArg BlConf.timeout htable, ?_, ?_⟩
  · refine timeout_congr (congrArg BlConf.timeout htable) ?_ ?_ ?_
    · exact (congrArg State.acState hst').trans hac
    · exact (congrArg State.dayTime hst').trans hday
    · exact (congrArg State.inEvent hst').trans hev
  · intro m' hm'
    exact List.mem_append_left _ (hbox ▸ hm')

/-- BACKLIGHT handles a message, the AC state or the daytime changes, Capture is called, or the
step is none of the timer's concern. -/
theorem next_timer {fit : Fit} {s s' : Core} {e : CoreEvent} (hphase : Phase s)
    (hn : next fit s e = some s') :
    (∃ r m box, e = .deliverBl r ∧ s.blBox = m :: box ∧
      s' = onBacklight (Backlight.handle fit r m) { s with blBox := box }) ∨
    (∃ r fd, s' = onBacklight (Backlight.handle fit r (.fdUpd fd)) s) ∨
    ((∃ old new, e = .acState old new) ∨ ∃ old new inEvent, e = .daytime old new inEvent) ∧
      s'.bl = s.bl ∧ s'.cf = s.cf ∨
    (∃ up, e = .capture up ∧ s' = methodCapture up s) ∨
    TimerStep s s' := by
  have hkept (ms : List Msg) (st : State) (hac : st.acState = s.st.acState)
      (hday : st.dayTime = s.st.dayTime) (hev : st.inEvent = s.st.inEvent) :
      TimerStep s (publish ms { s with st := st }) := by
    exact ⟨rfl, rfl, rfl, rfl, timeout_congr rfl hac hday hev, fun m hm => List.mem_append_left _ hm⟩
  by_cases hsig : e.isSignal = true
  · obtain ⟨c, hc, rfl⟩ := next_signal hsig hn
    exact .inr (.inr (.inr (.inr
      (timerStep_signal (hphase.running hc.started) hc.frame hc.calm hc.blFd))))
  cases e <;> simp only [next] at hn
  case deliverBl r =>
    obtain ⟨m, box, hbox, hs'⟩ := next_deliverBl hn
    exact .inl ⟨r, m, box, rfl, hbox, hs'⟩
  case deliverScr reply =>
    obtain ⟨scr, m, box, -, -, rfl⟩ := next_deliverScr fit hn
    exact .inr (.inr (.inr (.inr (timerStep_screen reply _ _ rfl rfl rfl rfl))))
  case blFd r =>
    split_ifs at hn
    exact .inr (.inl ⟨r, .bl, (Option.some.inj hn).symm⟩)
  case delayedFd r =>
    split_ifs at hn
    exact .inr (.inl ⟨r, .delayed, (Option.some.inj hn).symm⟩)
  case screenFd reply =>
    obtain ⟨scr, -, -, rfl⟩ := next_screenFd fit hn
    exact .inr (.inr (.inr (.inr (timerStep_screen reply _ _ rfl rfl rfl rfl))))
  case elapse fd sec =>
    obtain rfl := Option.some.inj hn
    refine .inr (.inr (.inr (.inr ?_)))
    cases fd
    case bl => exact ⟨rfl, TimerFd.elapse_live sec _, rfl, rfl, rfl, fun _ => id⟩
    all_goals exact ⟨rfl, rfl, rfl, rfl, rfl, fun _ => id⟩
  case acState old new =>
    obtain rfl := Option.some.inj hn
    exact .inr (.inr (.inl ⟨.inl ⟨old, new, rfl⟩, rfl, rfl⟩))
  case daytime old new inEvent =>
    obtain rfl := Option.some.inj hn
    exact .inr (.inr (.inl ⟨.inr ⟨old, new, inEvent, rfl⟩, rfl, rfl⟩))
  case request m =>
    split_ifs at hn
    obtain rfl := Option.some.inj hn
    exact .inr (.inr (.inr (.inr (hkept [m] s.st rfl rfl rfl))))
  case capture up => exact .inr (.inr (.inr (.inl ⟨up, rfl, (Option.some.inj hn).symm⟩)))
  case system m =>
    split_ifs at hn
    obtain rfl := Option.some.inj hn
    exact .inr (.inr (.inr (.inr ⟨rfl, rfl, rfl, rfl, rfl, fun _ hm => List.mem_append_left _ hm⟩)))
  case sensorChanged | blChanged | interfaceAdded | interfaceRemoved => exact absurd rfl hsig
  all_goals
    obtain rfl := Option.some.inj hn
    exact .inr (.inr (.inr (.inr (hkept _ _ rfl rfl rfl))))

/-- Capture: its own request resets the timer, or one that it does not rewrite does. -/
theorem alive_methodCapture {up : CaptureUpd} {s : Core} (hinv : ArmedInv s)
    (hw : s.bl.isWaiting = false) (hrewrite : up.resetTimer = false →
      s.blBox.any (fun m => m.isInterfaceCapture && Backlight.resets s.bl m) = true →
        0 < Backlight.getCurrentTimeout s.blCtx → s.bl.blFd.live = true ∨
          s.blBox.any (fun m => !m.isInterfaceCapture && Backlight.resets s.bl m) = true) :
    Alive (methodCapture up s) := by
  intro hpos
  have hkept {m : Msg} (hm : m ∈ s.blBox) (hother : m.isInterfaceCapture = false)
      (hresets : Backlight.resets s.bl m = true) :
      ∃ m ∈ (methodCapture up s).blBox, Backlight.resets s.bl m = true := by
    have hmem := mem_methodCapture_blBox up hm
    rw [recaptured_of_other hother] at hmem
    exact ⟨m, hmem, hresets⟩
  cases hreset : up.resetTimer with
  | true =>
    right
    exact ⟨.captureReq .interface up, mem_publish_blBox.mpr (.inr ⟨List.mem_singleton_self _, rfl⟩),
      hreset⟩
  | false =>
    cases hqueued : s.blBox.any fun m => m.isInterfaceCapture && Backlight.resets s.bl m with
    | true =>
      refine (hrewrite hreset hqueued hpos).imp_right fun hother => ?_
      obtain ⟨m, hm, hboth⟩ := List.any_eq_true.mp hother
      obtain ⟨hnot, hresets⟩ := Bool.and_eq_true_iff.mp hboth
      exact hkept hm (by simpa using hnot) hresets
    | false =>
      refine (hinv.alive hw hpos).imp_right fun ⟨m, hm, hresets⟩ => hkept hm ?_ hresets
      have hnone := List.any_eq_false.mp hqueued m hm
      rw [hresets, Bool.and_true] at hnone
      exact Bool.eq_false_iff.mpr hnone

theorem armed_core {fit : Fit} {s s' : Core} {e : CoreEvent} (hinv : ArmedInv s)
    (hc : Rearms s (.core e)) (hn : next fit s e = some s') : ArmedInv s' := by
  have hphase := phase_step hinv.phase hn
  rcases next_timer hinv.phase hn with ⟨r, m, box, rfl, hbox, rfl⟩ | ⟨r, fd, rfl⟩ | ⟨he, hbl, hcf⟩ |
    ⟨up, rfl, rfl⟩ | hstep
  · unfold Rearms at hc
    dsimp only at hc
    rw [hbox] at hc
    refine armed_handle (t := { s with blBox := box }) hinv hphase rfl ?_ ?_ ?_
    · intro m' hm'
      rw [hbox] at hm'
      exact List.mem_cons.mp hm'
    · rintro up rfl
      exact hc
    · intro hw hresets hacc hpos
      cases m
      case blToReq up => cases hresets
      all_goals
        rcases hc hw hresets hacc hpos with hlive | hqueued
        · exact .inl hlive
        · exact .inr (List.any_eq_true.mp hqueued)
  · refine armed_handle (t := s) hinv hphase rfl (fun _ => .inr) nofun ?_
    intro _ hresets
    cases hresets
  · have hw : s.bl.isWaiting = true := by
      rcases he with ⟨old, new, rfl⟩ | ⟨old, new, inEvent, rfl⟩
      · exact hc
      · exact hc
    refine ⟨hphase, ?_, ?_, ?_⟩
    · rw [hcf]
      exact hinv.ints
    · rw [hbl]
      exact hinv.resetTimer
    · intro hw'
      rw [hbl, hw] at hw'
      cases hw'
  · exact ⟨hphase, hinv.ints, hinv.resetTimer, fun hw => alive_methodCapture hinv hw (hc hw)⟩
  · exact hstep.armed hphase hinv

/-- In every run in which a paused BACKLIGHT drops no request that its timer needs, automatic
calibration does not die: whenever BACKLIGHT is unpaused and its timeout is positive, the timer
is registered, and it is armed or has expired, or will be set by a request that is queued. -/
theorem calibration_stays_alive (fit : Fit) {s : Core}
    (hs : (timed fit).ReachableBy Rearms s)
    (hstarted : s.bl.isWaiting = false) (hunpaused : s.bl.paused.isUnpaused = true)
    (hpos : 0 < Backlight.getCurrentTimeout s.blCtx) :
    s.bl.blRegistered = true ∧
      (s.bl.blFd.live = true ∨ ∃ m ∈ s.blBox, Backlight.resets s.bl m = true) := by
  have hinv : ArmedInv s := by
    refine Machine.ReachableBy.invariant (I := ArmedInv) ?_ ?_ hs
    · rintro s ⟨h0, hint⟩
      have hwaiting : Backlight.Waiting s.bl := by
        rw [h0.1]
        exact .init
      refine ⟨.inl hwaiting, hint, ?_, ?_⟩
      · rw [h0.1]
        rfl
      · intro hw
        rw [hwaiting.isWaiting] at hw
        cases hw
    · intro s e s' hinv hc hn
      cases e with
      | core e => exact armed_core hinv hc hn
      | properties cf =>
        obtain rfl := Option.some.inj hn
        exact ⟨hinv.phase, hinv.ints, hinv.resetTimer, hinv.alive⟩
  refine ⟨?_, hinv.alive hstarted hpos⟩
  rw [(hinv.phase.running hstarted).registered]
  exact hunpaused

theorem init_timed (fit : Fit) : (timed fit).init (start blOnlyConf) := by
  refine ⟨init_blOnly, ?_⟩
  intro ac t
  cases ac <;> cases t <;> decide

/-- The timer expires, and BACKLIGHT captures. -/
def captureOnTimer : List CalibrationEvent :=
  startCapturing ++ [.core (.elapse .bl none), .core (.blFd noCapture), .core (.deliverBl noCapture)]

theorem calibration_stays_alive_capture :
    ∃ s, (timed fun _ => (0, 1/10, 0)).run (start blOnlyConf) captureOnTimer = some s ∧
      s.bl.isWaiting = false ∧ s.bl.paused.isUnpaused = true ∧
      0 < Backlight.getCurrentTimeout s.blCtx ∧ s.bl.blRegistered = true ∧
      (s.bl.blFd.live = true ∨ ∃ m ∈ s.blBox, Backlight.resets s.bl m = true) := by
  have hrun : ((timed fun _ => (0, 1/10, 0)).run (start blOnlyConf) captureOnTimer).any
      (fun s => s.bl.isWaiting = false ∧ s.bl.paused.isUnpaused = true ∧
        0 < Backlight.getCurrentTimeout s.blCtx) = true := by
    decide +kernel
  obtain ⟨s, hs, hp⟩ := (Option.any_eq_true _ _).mp hrun
  obtain ⟨hstarted, hunpaused, hpos⟩ := of_decide_eq_true hp
  have hby : (timed fun _ => (0, 1/10, 0)).RunBy Rearms (start blOnlyConf) captureOnTimer := by
    decide +kernel
  have hreach := Machine.ReachableBy.of_run _ (.init (init_timed _)) hby hs
  exact ⟨s, hs, hstarted, hunpaused, hpos, calibration_stays_alive _ hreach hstarted hunpaused hpos⟩

/-- The display is dimmed just before the timer expires: BACKLIGHT handles that first and drops
its own CAPTURE_REQ; then the display comes back. -/
def dimBeforeTimer : List CalibrationEvent :=
  startCapturing ++ [.core (.elapse .bl none), .core (.display displayDimmed), .core (.blFd noCapture),
    .core (.deliverBl noCapture), .core (.deliverBl noCapture), .core (.display displayOn),
    .core (.deliverBl noCapture)]

/-- BACKLIGHT is unpaused with a positive timeout, its timer is disarmed and no message is
queued: it will never calibrate again by itself. -/
theorem calibration_dies : ¬ ∀ (fit : Fit) (s : Core),
    (timed fit).Reachable s → s.bl.isWaiting = false → s.bl.paused.isUnpaused = true →
      0 < Backlight.getCurrentTimeout s.blCtx →
      s.bl.blRegistered = true ∧
        (s.bl.blFd.live = true ∨ ∃ m ∈ s.blBox, Backlight.resets s.bl m = true) := by
  intro h
  have hrun : ((timed fun _ => (0, 1/10, 0)).run (start blOnlyConf) dimBeforeTimer).any
      (fun s => s.bl.isWaiting = false ∧ s.bl.paused.isUnpaused = true ∧
        0 < Backlight.getCurrentTimeout s.blCtx ∧ s.bl.blFd = .disarmed ∧ s.blBox = []) = true := by
    decide +kernel
  obtain ⟨s, hs, hp⟩ := (Option.any_eq_true _ _).mp hrun
  obtain ⟨hstarted, hunpaused, hpos, hfd, hbox⟩ := of_decide_eq_true hp
  have hreach := Machine.reachable_of_run (init_timed _) hs
  obtain ⟨-, hlive | ⟨m, hm, -⟩⟩ := h _ s hreach hstarted hunpaused hpos
  · rw [hfd] at hlive
    cases hlive
  · rw [hbox] at hm
    cases hm

end Core
end Clight
