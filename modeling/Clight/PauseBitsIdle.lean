import Clight.PauseBits
import Clight.Pausables

/-! The bits of DISPLAY, SUSPEND and INHIBIT in the masks of KEYBOARD, DIMMER, DPMS and GAMMA. -/
namespace Clight

/-! ### KEYBOARD -/

namespace Keyboard

theorem setKeyboardLevel_facts (sent : Bool) (level : ℚ) (c : KbdCtx) :
    (setKeyboardLevel sent level c).st.facts = c.st.facts := by
  unfold setKeyboardLevel
  split_ifs <;> rfl

theorem pauseKbd_facts (sent pause : Bool) (reason : ModPause) (c : KbdCtx) :
    (pauseKbd sent pause reason c).st.facts = c.st.facts := by
  unfold pauseKbd
  dsimp only
  split_ifs <;> simp only [setKeyboardLevel_facts]

theorem setKeyboardTimeout_facts (sent : Bool) (c : KbdCtx) :
    (setKeyboardTimeout sent c).st.facts = c.st.facts := by
  unfold setKeyboardTimeout
  dsimp only
  split_ifs
  · exact pauseKbd_facts sent _ .timeout c
  · exact pauseKbd_facts sent _ .timeout c

theorem setKeyboardTimeout_paused (sent : Bool) (c : KbdCtx) :
    (setKeyboardTimeout sent c).loc.paused =
      (pauseKbd sent (decide (atAc c.cf.kbd.timeout c.st.acState ≤ 0)) .timeout c).loc.paused := by
  unfold setKeyboardTimeout
  dsimp only
  split_ifs
  · rfl
  · rfl

theorem pauseKbd_has (sent pause : Bool) (reason r : ModPause) (c : KbdCtx) :
    (pauseKbd sent pause reason c).loc.paused.has r =
      if reason = r then pause else c.loc.paused.has r := by
  rw [pauseKbd_paused]
  exact modCheckPause_has pause reason r c.loc.paused

theorem setKeyboardTimeout_has (sent : Bool) (c : KbdCtx) {r : ModPause} (hr : r ≠ .timeout) :
    (setKeyboardTimeout sent c).loc.paused.has r = c.loc.paused.has r := by
  rw [setKeyboardTimeout_paused, pauseKbd_has, if_neg hr.symm]

/-- What a message other than the updates of the facts leaves of a running KEYBOARD. -/
structure Kept (c c' : KbdCtx) : Prop where
  running : Running c'.loc
  facts : c'.st.facts = c.st.facts
  has : ∀ r ∈ factReasons, c'.loc.paused.has r = c.loc.paused.has r

theorem Kept.refl {c : KbdCtx} (h : Running c.loc) : Kept c c := ⟨h, rfl, fun _ _ => rfl⟩

theorem kept_setKeyboardTimeout (sent : Bool) {c : KbdCtx} (h : Running c.loc) :
    Kept c (setKeyboardTimeout sent c) where
  running := setKeyboardTimeout_running sent h
  facts := setKeyboardTimeout_facts sent c
  has r hr := by
    apply setKeyboardTimeout_has
    rintro rfl
    exact absurd hr (by decide)

theorem kept_setKeyboardLevel (sent : Bool) (level : ℚ) {c : KbdCtx} (h : Running c.loc) :
    Kept c (setKeyboardLevel sent level c) where
  running := by
    rw [setKeyboardLevel_loc]
    exact h
  facts := setKeyboardLevel_facts sent level c
  has r _ := by rw [setKeyboardLevel_loc]

theorem kept_onScreenBlUpdate (up : BlUpd) {c : KbdCtx} (h : Running c.loc) :
    Kept c (onScreenBlUpdate up c) := by
  unfold onScreenBlUpdate
  split
  · exact .refl h
  · dsimp only
    split_ifs
    · exact ⟨h, rfl, fun _ _ => rfl⟩
    · exact .refl h

theorem kept_onKbdBlReq (sent : Bool) (up : BlUpd) {c : KbdCtx} (h : Running c.loc) :
    Kept c (onKbdBlReq sent up c) := by
  unfold onKbdBlReq
  dsimp only
  split_ifs
  · exact kept_setKeyboardLevel sent _ h
  · exact .refl h

theorem kept_onKbdToReq (sent : Bool) (up : TimeoutUpd) {c : KbdCtx} (h : Running c.loc) :
    Kept c (onKbdToReq sent up c) := by
  unfold onKbdToReq
  split
  · exact .refl h
  · dsimp only
    split_ifs
    · have hk := fun cf : Conf => kept_setKeyboardTimeout sent (c := { c with cf := cf }) h
      exact ⟨(hk _).running, (hk _).facts, (hk _).has⟩
    · exact ⟨h, rfl, fun _ _ => rfl⟩

theorem kept_onCurveReq (fit : Fit) (up : CurveUpd) {c : KbdCtx} (h : Running c.loc) :
    Kept c (onCurveReq fit up c) := by
  unfold onCurveReq
  dsimp only
  split
  · exact ⟨h, rfl, fun _ _ => rfl⟩
  · exact .refl h

/-- DISPLAY_UPD and SUSPEND_UPD set their own bits, and nothing else sets a bit of a fact. -/
theorem handle_bit (fit : Fit) (sent : Bool) (m : Msg) {c : KbdCtx} (h : Running c.loc)
    {reason : ModPause} (hr : reason = .display ∨ reason = .suspend) :
    (handle fit sent m c).loc.paused.has reason =
        (if m.announces reason then c.st.fact reason else c.loc.paused.has reason) ∧
      (handle fit sent m c).st.facts = c.st.facts ∧ Running (handle fit sent m c).loc := by
  have hmem : reason ∈ factReasons := by rcases hr with rfl | rfl <;> decide
  have hne : reason ≠ .inhibit := by rcases hr with rfl | rfl <;> decide
  have hcase : handle fit sent m c = receive fit sent m c ∨
      handle fit sent m c = receivePaused fit sent m c := by
    rw [handle_of_running fit sent m h]
    split_ifs
    · exact .inl rfl
    · exact .inr rfl
  have hkept : ∀ {c' : KbdCtx}, Kept c c' → c'.loc.paused.has reason = c.loc.paused.has reason ∧
      c'.st.facts = c.st.facts ∧ Running c'.loc := fun hk => ⟨hk.has reason hmem, hk.facts, hk.running⟩
  have hupd : ∀ q : ModPause, handle fit sent m c = pauseKbd sent (c.st.fact q) q c →
      m.announces reason = decide (reason = q) → (handle fit sent m c).loc.paused.has reason =
          (if m.announces reason then c.st.fact reason else c.loc.paused.has reason) ∧
        (handle fit sent m c).st.facts = c.st.facts ∧ Running (handle fit sent m c).loc := by
    intro q he hm
    rw [he, pauseKbd_has]
    exact ⟨Msg.has_announced hm c.st.fact _, pauseKbd_facts sent _ q c, pauseKbd_running sent _ q h⟩
  cases m
  case displayUpd => exact hupd .display (or_self_iff.mp hcase) rfl
  case suspendUpd => exact hupd .suspend (or_self_iff.mp hcase) rfl
  case inhibitUpd =>
    rw [if_neg (by simpa [Msg.announces] using hne)]
    rcases hcase with he | he
    all_goals
      rw [he]
      exact hkept (.refl h)
  all_goals clear hupd
  all_goals change _ = c.loc.paused.has reason ∧ _
  all_goals rcases hcase with he | he
  all_goals rw [he]
  case blUpd.inl => exact hkept (kept_onScreenBlUpdate _ h)
  case kbdBlReq.inl => exact hkept (kept_onKbdBlReq sent _ h)
  case kbdBlReqStatic.inl =>
    have hk := kept_onKbdBlReq sent c.loc.kbdReq
      (c := { c with loc := { c.loc with kbdReq := (validateBacklight c.cf c.st c.loc.kbdReq).1 } }) h
    exact ⟨hk.has reason hmem, hk.facts, hk.running⟩
  case kbdToReq.inl up => exact hkept (kept_onKbdToReq sent up h)
  case upowerUpd.inl => exact hkept (kept_setKeyboardTimeout sent h)
  case upowerUpd.inr => exact hkept (kept_setKeyboardTimeout sent h)
  case kbdCurveReq.inl up => exact hkept (kept_onCurveReq fit up h)
  case kbdCurveReq.inr up => exact hkept (kept_onCurveReq fit up h)
  all_goals exact hkept (.refl h)

/-- One message to a waiting KEYBOARD, with respect to the facts. -/
theorem handle_waiting_bits (fit : Fit) (sent : Bool) (m : Msg) {c : KbdCtx}
    (h : c.loc.stack = [.waitingInit]) (hp : c.loc.paused = .unpaused) :
    (handle fit sent m c).st.facts = c.st.facts ∧
      (handle fit sent m c = c ∨ (∃ old new, m = .upowerUpd old new) ∧
        Running (handle fit sent m c).loc ∧
        ∀ r ∈ factReasons, (handle fit sent m c).loc.paused.has r = false) := by
  have he : handle fit sent m c = receiveWaitingInit sent m c := by
    unfold handle
    rw [h]
  rw [he]
  unfold receiveWaitingInit
  split
  · have hrun : Running { c.loc with stack := unbecome c.loc.stack } := by
      change unbecome c.loc.stack = pausedStack .paused c.loc.paused
      rw [h, hp]
      rfl
    have hk := kept_setKeyboardTimeout sent
      (c := { c with loc := { c.loc with stack := unbecome c.loc.stack } }) hrun
    refine ⟨hk.facts, .inr ⟨⟨_, _, rfl⟩, hk.running, ?_⟩⟩
    intro r hr
    rw [hk.has r hr]
    exact (congrArg (PauseMask.has · r) hp).trans (PauseMask.has_unpaused r)
  · exact ⟨rfl, .inl rfl⟩

end Keyboard

/-! ### DIMMER and DPMS -/

namespace Idle
variable (k : IdleConf)

@[simp] theorem clientCall_st (call : IdleCall) (c : IdleCtx) : (clientCall call c).st = c.st := by
  unfold clientCall
  split_ifs <;> rfl

@[simp] theorem clientStart_st (timeout : ℤ) (c : IdleCtx) : (clientStart timeout c).st = c.st := by
  unfold clientStart
  split_ifs <;> simp

@[simp] theorem setTimeout_st (timeout : ℤ) (c : IdleCtx) : (setTimeout timeout c).st = c.st := by
  unfold setTimeout clientStop
  dsimp only
  split_ifs <;> simp

@[simp] theorem pauseIdle_st (pause : Bool) (reason : ModPause) (c : IdleCtx) :
    (pauseIdle k pause reason c).st = c.st := by
  unfold pauseIdle clientStop
  dsimp only
  split_ifs <;> simp

theorem pauseIdle_has (pause : Bool) (reason r : ModPause) (c : IdleCtx) :
    (pauseIdle k pause reason c).loc.paused.has r = if reason = r then pause else c.loc.paused.has r := by
  rw [pauseIdle_paused]
  exact modCheckPause_has pause reason r c.loc.paused

/-- What a message other than the updates of the facts leaves of a running watcher. -/
structure Kept (c c' : IdleCtx) : Prop where
  running : Running c'.loc
  st : c'.st = c.st
  has : ∀ r ∈ factReasons, c'.loc.paused.has r = c.loc.paused.has r

theorem Kept.refl {c : IdleCtx} (h : Running c.loc) : Kept c c := ⟨h, rfl, fun _ _ => rfl⟩

theorem kept_timeoutCallback {c : IdleCtx} (h : Running c.loc) : Kept c (timeoutCallback k c) where
  running := timeoutCallback_running k h
  st := by
    unfold timeoutCallback
    split_ifs <;> simp
  has r hr := by
    have hne : ModPause.timeout ≠ r := by
      rintro rfl
      exact absurd hr (by decide)
    unfold timeoutCallback
    split_ifs
    · rw [pauseIdle_has, if_neg hne]
    · rw [setTimeout_loc, pauseIdle_has, if_neg hne]

theorem kept_onToReq (up : TimeoutUpd) {c : IdleCtx} (h : Running c.loc) : Kept c (onToReq k up c) := by
  unfold onToReq
  split
  · exact .refl h
  · dsimp only
    split_ifs
    · have hk := fun cf : Conf => kept_timeoutCallback k (c := { c with cf := cf }) h
      exact ⟨(hk _).running, (hk _).st, (hk _).has⟩
    · exact ⟨h, rfl, fun _ _ => rfl⟩

theorem kept_clientReset (timeout : ℤ) {c : IdleCtx} (h : Running c.loc) :
    Kept c (clientReset timeout c) := by
  unfold clientReset clientStop
  refine ⟨?_, by simp, ?_⟩
  · simpa using h
  · intro r _
    simp

theorem receivePaused_bit (m : Msg) {c : IdleCtx} (h : Running c.loc) {reason : ModPause}
    (hr : reason = .suspend ∨ reason = .inhibit) :
    (receivePaused k m c).loc.paused.has reason =
        (if m.announces reason then c.st.fact reason else c.loc.paused.has reason) ∧
      (receivePaused k m c).st = c.st ∧ Running (receivePaused k m c).loc := by
  have hmem : reason ∈ factReasons := by rcases hr with rfl | rfl <;> decide
  have hne : reason ≠ .display := by rcases hr with rfl | rfl <;> decide
  have hkept : ∀ {c' : IdleCtx}, Kept c c' → c'.loc.paused.has reason = c.loc.paused.has reason ∧
      c'.st = c.st ∧ Running c'.loc := fun hk => ⟨hk.has reason hmem, hk.st, hk.running⟩
  have hupd : ∀ q : ModPause, m.announces reason = decide (reason = q) →
      (pauseIdle k (c.st.fact q) q c).loc.paused.has reason =
          (if m.announces reason then c.st.fact reason else c.loc.paused.has reason) ∧
        (pauseIdle k (c.st.fact q) q c).st = c.st ∧ Running (pauseIdle k (c.st.fact q) q c).loc := by
    intro q hm
    rw [pauseIdle_has]
    exact ⟨Msg.has_announced hm c.st.fact _, pauseIdle_st k _ q c, pauseIdle_running k _ q h⟩
  have hother : m.announces reason = false → Kept c (receivePaused k m c) →
      (receivePaused k m c).loc.paused.has reason =
          (if m.announces reason then c.st.fact reason else c.loc.paused.has reason) ∧
        (receivePaused k m c).st = c.st ∧ Running (receivePaused k m c).loc := by
    intro hm hk
    rw [hm]
    exact hkept hk
  have hreq : (∀ old new, m ≠ .upowerUpd old new) → (∀ old new, m ≠ .inhibitUpd old new) →
      (∀ old new, m ≠ .suspendUpd old new) → Kept c (receivePaused k m c) := by
    intro hup hinh hsus
    rw [receivePaused_other k hup hinh hsus]
    cases k.toReq m with
    | none => exact .refl h
    | some up => exact kept_onToReq k up h
  cases m
  case inhibitUpd => exact hupd .inhibit rfl
  case suspendUpd => exact hupd .suspend rfl
  case displayUpd =>
    apply hother
    · simpa [Msg.announces] using hne
    · exact hreq nofun nofun nofun
  case upowerUpd => exact hother rfl (kept_timeoutCallback k h)
  all_goals exact hother rfl (hreq nofun nofun nofun)

/-- INHIBIT_UPD and SUSPEND_UPD set their own bits, and nothing else sets a bit of a fact. -/
theorem handle_bit (ok : Bool) (m : Msg) {c c' : IdleCtx} (h : Running c.loc)
    (hc : handle k ok m c = some c') {reason : ModPause}
    (hr : reason = .suspend ∨ reason = .inhibit) :
    c'.loc.paused.has reason =
        (if m.announces reason then c.st.fact reason else c.loc.paused.has reason) ∧
      c'.st = c.st ∧ Running c'.loc := by
  have hmem : reason ∈ factReasons := by rcases hr with rfl | rfl <;> decide
  have hpaused := receivePaused_bit k m h hr
  rw [handle_of_running k ok m h] at hc
  obtain rfl := Option.some.inj hc
  by_cases hu : c.loc.paused.isUnpaused = true
  · rw [if_pos hu]
    unfold receive
    split
    · have hk := kept_clientReset (currentTimeout k c) h
      exact ⟨hk.has reason hmem, hk.st, hk.running⟩
    · exact hpaused
  · rw [if_neg hu]
    exact hpaused

/-- One message to a waiting watcher. -/
theorem handle_waiting (ok : Bool) (m : Msg) {c c' : IdleCtx} (h : c.loc.stack = [.waitingAcstate])
    (hp : c.loc.paused = .unpaused) (hc : handle k ok m c = some c') :
    c' = c ∨ (∃ old new, m = .upowerUpd old new) ∧ c'.st = c.st ∧ Running c'.loc ∧
      ∀ r ∈ factReasons, c'.loc.paused.has r = false := by
  unfold handle at hc
  rw [h] at hc
  unfold receiveWaitingAcstate at hc
  split at hc
  · rename_i heq
    cases heq
    split at hc
    · split_ifs at hc
      obtain rfl := Option.some.inj hc
      have hrun : Running { c.loc with client := true, stack := unbecome c.loc.stack } := by
        change unbecome c.loc.stack = pausedStack .paused c.loc.paused
        rw [h, hp]
        rfl
      have hk := kept_timeoutCallback k
        (c := { c with loc := { c.loc with client := true, stack := unbecome c.loc.stack } }) hrun
      refine .inr ⟨⟨_, _, rfl⟩, hk.st, hk.running, ?_⟩
      intro r hr
      rw [hk.has r hr]
      exact (congrArg (PauseMask.has · r) hp).trans (PauseMask.has_unpaused r)
    · exact .inl (Option.some.inj hc).symm
  all_goals
    rename_i heq
    cases heq

end Idle

/-! ### GAMMA -/

namespace Gamma

/-- The pause mask, the stack and the state are left alone. -/
structure Same (c c' : GammaCtx) : Prop where
  paused : c'.loc.paused = c.loc.paused
  stack : c'.loc.stack = c.loc.stack
  st : c'.st = c.st

theorem Same.refl (c : GammaCtx) : Same c c := ⟨rfl, rfl, rfl⟩

theorem Same.trans {c c₁ c₂ : GammaCtx} (h : Same c c₁) (h' : Same c₁ c₂) : Same c c₂ :=
  ⟨h'.paused.trans h.paused, h'.stack.trans h.stack, h'.st.trans h.st⟩

theorem Same.subscript {c c' : GammaCtx} (h : Same c c') (i : ℤ) : Same c (subscript i c') :=
  ⟨h.paused, h.stack, h.st⟩

theorem same_validateSubscript (up : TempUpd) (c : GammaCtx) : Same c (validateSubscript up c) := by
  obtain ⟨calls, he⟩ := validateSubscript_eq up c
  rw [he]
  exact ⟨rfl, rfl, rfl⟩

theorem same_setTemp (r : GammaReplies) (temp : ℤ) (now : Option ℤ) (smooth step timeout : ℤ)
    (c : GammaCtx) : Same c (setTemp r temp now smooth step timeout c) := by
  unfold setTemp
  dsimp only
  split_ifs <;> exact ⟨rfl, rfl, rfl⟩

theorem same_ambientCallback (r : GammaReplies) (smooth : Bool) (new : ℚ) (c : GammaCtx) :
    Same c (ambientCallback r smooth new c) := by
  unfold ambientCallback setTempConf
  dsimp only
  split
  · exact same_setTemp ..
  · exact .refl c

theorem Same.withCurrentTemp {c c' : GammaCtx} (h : Same c c') {f : ℤ → GammaCtx → GammaCtx}
    (hf : ∀ temp c, Same c (f temp c)) : Same c (withCurrentTemp f c') :=
  withCurrentTemp_ind (P := Same c) (fun temp => (h.subscript _).trans (hf temp _)) (h.subscript _)

theorem same_onDaytimeReq (r : GammaReplies) (c : GammaCtx) : Same c (onDaytimeReq r c) := by
  unfold onDaytimeReq setTempConf
  dsimp only
  split_ifs
  · have hend : Same c { onNewNextDayevt c with
        loc := { (onNewNextDayevt c).loc with lastT := r.now } } := ⟨rfl, rfl, rfl⟩
    exact hend.withCurrentTemp fun _ _ => same_setTemp ..
  · exact ⟨rfl, rfl, rfl⟩
  · have hlast : Same c { c with loc := { c.loc with lastT := r.now } } := ⟨rfl, rfl, rfl⟩
    exact hlast.withCurrentTemp fun _ _ => same_setTemp ..
  · exact ⟨rfl, rfl, rfl⟩

theorem same_onAmbgammaReq (r : GammaReplies) (new : Bool) (c : GammaCtx) :
    Same c (onAmbgammaReq r new c) := by
  have hset : Same c (setAmbientGamma new c) := ⟨rfl, rfl, rfl⟩
  unfold onAmbgammaReq setTempConf
  dsimp only
  split_ifs
  · exact hset.trans (same_ambientCallback ..)
  · exact hset.withCurrentTemp fun _ _ => same_setTemp ..

theorem same_onTempReq (r : GammaReplies) (sender : ModName) (up : TempUpd) (c : GammaCtx) :
    Same c (onTempReq r sender up c) := by
  have hvalid := same_validateSubscript up c
  unfold onTempReq
  generalize validateSubscript up c = c₁ at hvalid
  dsimp only
  split
  · split_ifs
    · exact hvalid.trans (same_onDaytimeReq r c₁)
    · rename_i d req _ _
      have hset : Same c (storeTemp d req.new (subscript d.toInt c₁)) :=
        hvalid.trans ⟨rfl, rfl, rfl⟩
      unfold interfaceCallback
      dsimp only
      split
      · exact hset.trans (same_setTemp ..)
      · exact hset.trans (same_ambientCallback ..)
  · exact hvalid

theorem same_methodToggleGamma (r : GammaReplies) (c : GammaCtx) : Same c (methodToggleGamma r c) := by
  have htoggle (temp : ℤ) (c : GammaCtx) : Same c
      (setTemp r temp none 0 0 0 { c with loc := { c.loc with isToggled := !c.loc.isToggled } }) := by
    have hset : Same c { c with loc := { c.loc with isToggled := !c.loc.isToggled } } := ⟨rfl, rfl, rfl⟩
    exact hset.trans (same_setTemp ..)
  unfold methodToggleGamma
  dsimp only
  split_ifs
  · exact (Same.refl c).withCurrentTemp htoggle
  · exact ((Same.refl c).subscript _).trans (htoggle ..)

theorem pauseMod_bit (r : GammaReplies) (pause : Bool) (q reason : ModPause) {c : GammaCtx}
    (h : c.loc.stack = pausedStack .paused c.loc.paused) :
    (pauseMod r pause q c).loc.paused.has reason =
        (if q = reason then pause else c.loc.paused.has reason) ∧
      (pauseMod r pause q c).st = c.st ∧
      (pauseMod r pause q c).loc.stack = pausedStack .paused (pauseMod r pause q c).loc.paused := by
  have hstack := pausedStack_modCheckPause GammaRecv.paused pause q c.loc.paused
  have hhas := modCheckPause_has pause q reason c.loc.paused
  rw [← h] at hstack
  unfold pauseMod
  dsimp only
  by_cases hchk : (modCheckPause pause q c.loc.paused).2 = true
  · rw [if_pos hchk] at hstack ⊢
    cases pause with
    | true => exact ⟨hhas, rfl, hstack⟩
    | false =>
      rw [if_neg Bool.false_ne_true] at hstack ⊢
      by_cases hsync : c.loc.shouldSyncTemp = true
      · rw [if_pos hsync]
        have hs := same_onDaytimeReq r { c with loc := { c.loc with
          paused := (modCheckPause false q c.loc.paused).1
          stack := unbecome c.loc.stack
          shouldSyncTemp := false } }
        refine ⟨(congrArg (PauseMask.has · reason) hs.paused).trans hhas, hs.st, ?_⟩
        rw [hs.stack, hs.paused]
        exact hstack
      · rw [if_neg hsync]
        exact ⟨hhas, rfl, hstack⟩
  · rw [if_neg hchk] at hstack ⊢
    exact ⟨hhas, rfl, hstack⟩

/-- SUSPEND_UPD sets its bit, and nothing else does. -/
theorem handle_bit (r : GammaReplies) (m : Msg) {c c' : GammaCtx}
    (h : c.loc.stack = pausedStack .paused c.loc.paused) (hc : handle r m c = some c') :
    c'.loc.paused.has .suspend =
        (if m.announces .suspend then c.st.suspended else c.loc.paused.has .suspend) ∧
      c'.st = c.st ∧ c'.loc.stack = pausedStack .paused c'.loc.paused := by
  have hsame : ∀ {c' : GammaCtx}, Same c c' → c'.loc.paused.has .suspend = c.loc.paused.has .suspend ∧
      c'.st = c.st ∧ c'.loc.stack = pausedStack .paused c'.loc.paused := by
    intro c' hs
    refine ⟨congrArg (PauseMask.has · .suspend) hs.paused, hs.st, ?_⟩
    rw [hs.stack, hs.paused]
    exact h
  have hsync : ∀ (b : Prop) [Decidable b] (c₁ : GammaCtx), Same c c₁ →
      Same c (if b then { c₁ with loc := { c₁.loc with shouldSyncTemp := true } } else c₁) := by
    intro b _ c₁ hs
    split
    · exact hs.trans ⟨rfl, rfl, rfl⟩
    · exact hs
  have hcase : c' = receive r m c ∨ c' = receivePaused r m c := by
    rw [handle_of_running r m h] at hc
    obtain rfl := Option.some.inj hc
    split_ifs
    · exact .inl rfl
    · exact .inr rfl
  cases m
  case suspendUpd =>
    rw [or_self_iff.mp hcase]
    exact pauseMod_bit r c.st.suspended .suspend .suspend h
  all_goals change _ = c.loc.paused.has .suspend ∧ _
  all_goals rcases hcase with he | he
  all_goals rw [he]
  case blUpd.inl => exact hsame (same_ambientCallback ..)
  case tempReq.inl => exact hsame (same_onTempReq ..)
  case tempReq.inr => exact hsame (hsync _ _ (same_validateSubscript ..))
  case ambGammaReq.inl new =>
    unfold receive
    dsimp only
    split_ifs
    · exact hsame (same_onAmbgammaReq r new c)
    · exact hsame (.refl c)
  case nextDayevtUpd.inl => exact hsame ⟨rfl, rfl, rfl⟩
  case nextDayevtUpd.inr => exact hsame ⟨rfl, rfl, rfl⟩
  case systemUpd.inl sm =>
    cases sm with
    | loopStopped =>
      unfold receive
      dsimp only
      split_ifs
      · exact hsame (same_setTemp ..)
      · exact hsame (.refl c)
    | _ => exact hsame (.refl c)
  all_goals exact hsame (.refl c)

/-- One message to a waiting GAMMA. -/
theorem handle_waiting (r : GammaReplies) (m : Msg) {c c' : GammaCtx}
    (h : c.loc.stack = [.waitingDaytime]) (hc : handle r m c = some c') :
    c' = c ∨ (∃ old new, m = .daytimeUpd old new) ∧
      c' = { c with loc := { c.loc with stack := [] } } := by
  unfold handle at hc
  rw [h] at hc
  cases m
  case daytimeUpd =>
    dsimp only at hc
    split_ifs at hc
    obtain rfl := Option.some.inj hc
    exact .inr ⟨⟨_, _, rfl⟩, rfl⟩
  all_goals exact .inl (Option.some.inj hc).symm

end Gamma

end Clight
