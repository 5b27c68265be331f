import Clight.Modules
import Clight.PauseBitsIdle

/-! When the idle client of DIMMER or DPMS runs. Pausing and resuming stop and start it, and so
does idle_set_timeout, which looks at the inhibitions only. -/
namespace Clight

/-- Whether the client runs after a call. -/
def IdleCall.runs (on : Bool) : IdleCall → Bool
  | .start => true
  | .stop => false
  | .timeout _ => on

/-- The client runs if the last of Start and Stop that it was sent is Start. -/
def clientStarted (calls : List IdleCall) : Bool := calls.foldl IdleCall.runs false

theorem clientStarted_append (calls : List IdleCall) (call : IdleCall) :
    clientStarted (calls ++ [call]) = call.runs (clientStarted calls) := by
  unfold clientStarted
  rw [List.foldl_append]
  rfl

inductive IdleMod | dimmer | dpms
  deriving DecidableEq

def IdleMod.conf : IdleMod → IdleConf
  | dimmer => dimmerConf
  | dpms => dpmsConf

theorem IdleMod.timeout_withTimeout (x : IdleMod) (t : AcState → ℤ) (cf : Conf) :
    x.conf.timeout (x.conf.withTimeout t cf) = t := by
  cases x with
  | dimmer => rfl
  | dpms => rfl

namespace Idle
variable (k : IdleConf)

abbrev started (c : IdleCtx) : Bool := clientStarted c.calls

/-! ### The client after each call -/

theorem started_clientCall (call : IdleCall) {c : IdleCtx} (hc : c.loc.client = true) :
    started (clientCall call c) = call.runs (started c) := by
  unfold clientCall
  rw [if_pos hc]
  exact clientStarted_append c.calls call

theorem started_clientStart (timeout : ℤ) {c : IdleCtx} (hc : c.loc.client = true) :
    started (clientStart timeout c) = (decide (0 < timeout) || started c) := by
  unfold clientStart
  by_cases ht : 0 < timeout
  · rw [if_pos ht, started_clientCall .start hc, decide_eq_true ht]
    rfl
  · rw [if_neg ht, decide_eq_false ht, Bool.false_or]

theorem started_clientStop {c : IdleCtx} (hc : c.loc.client = true) :
    started (clientStop c) = false :=
  started_clientCall .stop hc

theorem started_clientReset (timeout : ℤ) {c : IdleCtx} (hc : c.loc.client = true) :
    started (clientReset timeout c) = decide (0 < timeout) := by
  have hstop : (clientStop c).loc.client = true := by
    unfold clientStop
    rw [clientCall_loc]
    exact hc
  unfold clientReset
  rw [started_clientStart timeout hstop, started_clientStop hc, Bool.or_false]

/-- With a positive timeout the client is started unless an inhibition is in force. -/
theorem started_setTimeout {timeout : ℤ} (ht : 0 < timeout) {c : IdleCtx} (hc : c.loc.client = true) :
    started (setTimeout timeout c) = if c.st.inhibited then started c else true := by
  have hcall : started (clientCall (.timeout timeout) c) = started c :=
    started_clientCall (.timeout timeout) hc
  unfold setTimeout
  rw [if_pos ht]
  dsimp only
  rw [clientCall_st]
  split_ifs
  · exact hcall
  · rw [started_clientStart timeout (by rw [clientCall_loc]; exact hc), decide_eq_true ht, Bool.true_or]

theorem started_pauseIdle (pause : Bool) (reason : ModPause) {c : IdleCtx} (hc : c.loc.client = true) :
    started (pauseIdle k pause reason c) =
      if (modCheckPause pause reason c.loc.paused).2 then
        if pause then false else decide (0 < currentTimeout k c) || started c
      else started c := by
  unfold pauseIdle
  dsimp only
  split_ifs
  · exact started_clientStop (c := { c with loc := { c.loc with
      paused := (modCheckPause pause reason c.loc.paused).1 } }) hc
  · exact started_clientStart (currentTimeout k c) (c := { c with loc := { c.loc with
      paused := (modCheckPause pause reason c.loc.paused).1 } }) hc
  · rfl

/-! ### A paused watcher -/

/-- The client of a paused watcher does not run. -/
def Quiet (c : IdleCtx) : Prop := started c = true → c.loc.paused.isUnpaused = true

/-- The watcher is not paused, and yet its client does not run. -/
def Stalled (c : IdleCtx) : Prop := c.loc.paused.isUnpaused = true ∧ started c = false

@[simp] theorem pauseIdle_client (pause : Bool) (reason : ModPause) (c : IdleCtx) :
    (pauseIdle k pause reason c).loc.client = c.loc.client := by
  unfold pauseIdle clientStop
  dsimp only
  split_ifs <;> simp

theorem pause_quiet (reason : ModPause) {c : IdleCtx} (hc : c.loc.client = true) (hq : Quiet c) :
    Quiet (pauseIdle k true reason c) ∧ ¬Stalled (pauseIdle k true reason c) := by
  have hpaused : (pauseIdle k true reason c).loc.paused.isUnpaused = false := by
    rw [pauseIdle_paused]
    exact PauseMask.isUnpaused_set c.loc.paused reason
  have hstopped : started (pauseIdle k true reason c) = false := by
    rw [started_pauseIdle k true reason hc]
    change (if c.loc.paused.isUnpaused = true then false else started c) = false
    split_ifs with hu
    · rfl
    · -- it was paused already, and its client stopped
      exact Bool.eq_false_iff.mpr fun hs => hu (hq hs)
  constructor
  · intro hs
    rw [hstopped] at hs
    cases hs
  · rintro ⟨hu, -⟩
    rw [hpaused] at hu
    cases hu

theorem resume_quiet (reason : ModPause) {c : IdleCtx} (hc : c.loc.client = true) (hq : Quiet c) :
    Quiet (pauseIdle k false reason c) ∧
      (Stalled (pauseIdle k false reason c) → Stalled c ∨ currentTimeout k c ≤ 0) := by
  have hmask : (pauseIdle k false reason c).loc.paused = c.loc.paused.clear reason :=
    pauseIdle_paused k false reason c
  have hstart := started_pauseIdle k false reason hc
  have hchanged : (modCheckPause false reason c.loc.paused).2 =
      (!c.loc.paused.isUnpaused && (c.loc.paused.clear reason).isUnpaused) := rfl
  rw [hchanged, if_neg Bool.false_ne_true] at hstart
  unfold Quiet Stalled
  rw [hmask, hstart]
  cases hu : c.loc.paused.isUnpaused with
  | true =>
    -- it was not paused: nothing changes
    have hclear := PauseMask.isUnpaused_clear hu reason
    simp only [hclear, Bool.not_true, Bool.false_and, Bool.false_eq_true, if_false]
    exact ⟨fun _ => trivial, .inl⟩
  | false =>
    have hstopped : started c = false := by
      rw [Bool.eq_false_iff]
      intro hs
      rw [hq hs] at hu
      cases hu
    cases hclear : (c.loc.paused.clear reason).isUnpaused with
    | true => simp [hstopped]
    | false => simp [hstopped]

/-! ### timeout_callback -/

@[simp] theorem timeoutCallback_client (c : IdleCtx) :
    (timeoutCallback k c).loc.client = c.loc.client := by
  unfold timeoutCallback
  split_ifs <;> simp

@[simp] theorem timeoutCallback_st (c : IdleCtx) : (timeoutCallback k c).st = c.st := by
  unfold timeoutCallback
  split_ifs <;> simp

theorem timeoutCallback_has {c : IdleCtx} (ht : currentTimeout k c ≤ 0) :
    (timeoutCallback k c).loc.paused.has .timeout = true := by
  unfold timeoutCallback
  rw [if_pos ht, pauseIdle_has, if_pos rfl]

/-- timeout_callback starts the client of a paused watcher, unless something is inhibited or
TIMEOUT was its only reason; and it can leave the client of a watcher that is not paused stopped. -/
theorem timeoutCallback_quiet {c : IdleCtx} (hc : c.loc.client = true) (hq : Quiet c)
    (hfree : 0 < currentTimeout k c → c.st.inhibited = false →
      (c.loc.paused.clear .timeout).isUnpaused = true) :
    Quiet (timeoutCallback k c) ∧ (Stalled (timeoutCallback k c) →
      0 < currentTimeout k c ∧ c.st.inhibited = true ∧ Stalled c) := by
  unfold timeoutCallback
  split_ifs with ht
  · obtain ⟨hquiet, hnot⟩ := pause_quiet k .timeout hc hq
    exact ⟨hquiet, fun hs => absurd hs hnot⟩
  · have hpos : 0 < currentTimeout k c := not_le.mp ht
    obtain ⟨hquiet, hstalled⟩ := resume_quiet k .timeout hc hq
    have hmask : (pauseIdle k false .timeout c).loc.paused = c.loc.paused.clear .timeout :=
      pauseIdle_paused k false .timeout c
    have hset := started_setTimeout hpos (c := pauseIdle k false .timeout c) (by simpa using hc)
    rw [pauseIdle_st] at hset
    unfold Quiet Stalled
    rw [setTimeout_loc]
    cases hinh : c.st.inhibited with
    | false =>
      rw [hinh, if_neg Bool.false_ne_true] at hset
      have hunpaused := hfree hpos hinh
      rw [hmask, hset]
      exact ⟨fun _ => hunpaused, fun hs => absurd hs.2 (by decide)⟩
    | true =>
      rw [hinh, if_pos rfl] at hset
      rw [hset]
      refine ⟨hquiet, fun hs => ⟨hpos, rfl, ?_⟩⟩
      rcases hstalled hs with hs | hle
      · exact hs
      · omega

end Idle
end Clight
