import Clight.Ctx

/-! The idle watchers: DIMMER and DPMS (dimmer.c, dpms.c), over a client of Clightd's idle
service (idler.c). -/
namespace Clight

inductive IdleRecv | waitingAcstate | paused
  deriving DecidableEq

structure Idle where
  stack : RecvStack IdleRecv
  paused : PauseMask
  /-- The path of the client is not empty. -/
  client : Bool

def Idle.init : Idle where
  stack := [.waitingAcstate]
  paused := .unpaused
  client := false

/-- Calls on the client: its Timeout property, Start and Stop. -/
inductive IdleCall
  | timeout (timeout : ℤ)
  | start
  | stop

abbrev IdleCtx := Ctx Idle IdleCall

/-- What DIMMER and DPMS do not share: their timeouts and the topic of their requests. -/
structure IdleConf where
  timeout : Conf → AcState → ℤ
  withTimeout : (AcState → ℤ) → Conf → Conf
  toReq : Msg → Option TimeoutUpd

def dimmerConf : IdleConf where
  timeout cf := cf.dim.timeout
  withTimeout t cf := { cf with dim := { cf.dim with timeout := t } }
  toReq m := match m with
    | .dimmerToReq up => some up
    | _ => none

def dpmsConf : IdleConf where
  timeout cf := cf.dpms.timeout
  withTimeout t cf := { cf with dpms := { cf.dpms with timeout := t } }
  toReq m := match m with
    | .dpmsToReq up => some up
    | _ => none

namespace Idle
variable (k : IdleConf)

/-! ### The client -/

/-- A call that VALIDATE_CLIENT lets through. -/
def clientCall (call : IdleCall) (c : IdleCtx) : IdleCtx := if c.loc.client then c.call call else c

def clientStart (timeout : ℤ) (c : IdleCtx) : IdleCtx :=
  if 0 < timeout then clientCall .start c else c

def clientStop (c : IdleCtx) : IdleCtx := clientCall .stop c

def clientReset (timeout : ℤ) (c : IdleCtx) : IdleCtx := clientStart timeout (clientStop c)

/-- idle_set_timeout: a client is not started while inhibited. -/
def setTimeout (timeout : ℤ) (c : IdleCtx) : IdleCtx :=
  if 0 < timeout then
    let c := clientCall (.timeout timeout) c
    -- the client is started once the inhibition ends
    if c.st.inhibited then c else clientStart timeout c
  else clientStop c

/-! ### The module -/

def currentTimeout (c : IdleCtx) : ℤ := atAc (k.timeout c.cf) c.st.acState

/-- pause_dimmer and pause_dpms. -/
def pauseIdle (pause : Bool) (reason : ModPause) (c : IdleCtx) : IdleCtx :=
  let chk := modCheckPause pause reason c.loc.paused
  let c := { c with loc := { c.loc with paused := chk.1 } }
  if chk.2 then
    if pause then
      let c := clientStop c
      { c with loc := { c.loc with stack := become .paused c.loc.stack } }
    else
      let c := clientStart (currentTimeout k c) c
      { c with loc := { c.loc with stack := unbecome c.loc.stack } }
  else c

def timeoutCallback (c : IdleCtx) : IdleCtx :=
  if currentTimeout k c ≤ 0 then pauseIdle k true .timeout c
  else setTimeout (currentTimeout k c) (pauseIdle k false .timeout c)

/-- DIMMER_TO_REQ and DPMS_TO_REQ, in both receivers. -/
def onToReq (up : TimeoutUpd) (c : IdleCtx) : IdleCtx :=
  match AcState.ofInt? (validateTimeout c.st up).1.state with
  | none => c
  | some ac =>
    let c := { c with cf := k.withTimeout (Function.update (k.timeout c.cf) ac up.new) c.cf }
    if c.st.acState = some ac then timeoutCallback k c else c

/-- receive_waiting_acstate; `ok` is the outcome of idle_init, without which the module
deregisters itself. -/
def receiveWaitingAcstate (ok : Bool) (m : Msg) (c : IdleCtx) : Option IdleCtx :=
  match m with
  | .upowerUpd _ _ =>
    if ok then
      some (timeoutCallback k
        { c with loc := { c.loc with client := true, stack := unbecome c.loc.stack } })
    else none
  | _ => some c

def receivePaused (m : Msg) (c : IdleCtx) : IdleCtx :=
  match m with
  | .upowerUpd _ _ => timeoutCallback k c
  | .inhibitUpd _ _ => pauseIdle k c.st.inhibited .inhibit c
  | .suspendUpd _ _ => pauseIdle k c.st.suspended .suspend c
  | m => match k.toReq m with
    | some up => onToReq k up c
    | none => c

/-- receive: user activity is only simulated while running. -/
def receive (m : Msg) (c : IdleCtx) : IdleCtx :=
  match m with
  | .simulateReq => clientReset (currentTimeout k c) c
  | m => receivePaused k m c

def handle (ok : Bool) (m : Msg) (c : IdleCtx) : Option IdleCtx :=
  match c.loc.stack with
  | .waitingAcstate :: _ => receiveWaitingAcstate k ok m c
  | .paused :: _ => some (receivePaused k m c)
  | [] => some (receive k m c)

def subscribes : Msg → Bool
  | .upowerUpd .. | .inhibitUpd .. | .suspendUpd .. | .simulateReq => true
  | m => (k.toReq m).isSome

/-! ### The receiver in force -/

def Running (l : Idle) : Prop := l.stack = pausedStack .paused l.paused

theorem handle_of_running (ok : Bool) (m : Msg) {c : IdleCtx} (h : Running c.loc) :
    handle k ok m c =
      some (if c.loc.paused.isUnpaused then receive k m c else receivePaused k m c) := by
  unfold handle
  rw [h, pausedStack]
  split_ifs <;> rfl

@[simp] theorem clientCall_loc (call : IdleCall) (c : IdleCtx) : (clientCall call c).loc = c.loc := by
  unfold clientCall
  split_ifs <;> rfl

@[simp] theorem clientCall_cf (call : IdleCall) (c : IdleCtx) : (clientCall call c).cf = c.cf := by
  unfold clientCall
  split_ifs <;> rfl

@[simp] theorem clientStart_loc (timeout : ℤ) (c : IdleCtx) : (clientStart timeout c).loc = c.loc := by
  unfold clientStart
  split_ifs <;> simp

@[simp] theorem clientStart_cf (timeout : ℤ) (c : IdleCtx) : (clientStart timeout c).cf = c.cf := by
  unfold clientStart
  split_ifs <;> simp

@[simp] theorem setTimeout_loc (timeout : ℤ) (c : IdleCtx) : (setTimeout timeout c).loc = c.loc := by
  unfold setTimeout clientStop
  dsimp only
  split_ifs <;> simp

@[simp] theorem setTimeout_cf (timeout : ℤ) (c : IdleCtx) : (setTimeout timeout c).cf = c.cf := by
  unfold setTimeout clientStop
  dsimp only
  split_ifs <;> simp

@[simp] theorem pauseIdle_cf (pause : Bool) (reason : ModPause) (c : IdleCtx) :
    (pauseIdle k pause reason c).cf = c.cf := by
  unfold pauseIdle clientStop
  dsimp only
  split_ifs <;> simp

@[simp] theorem timeoutCallback_cf (c : IdleCtx) : (timeoutCallback k c).cf = c.cf := by
  unfold timeoutCallback
  split_ifs <;> simp

theorem pauseIdle_paused (pause : Bool) (reason : ModPause) (c : IdleCtx) :
    (pauseIdle k pause reason c).loc.paused = (modCheckPause pause reason c.loc.paused).1 := by
  unfold pauseIdle clientStop
  dsimp only
  split_ifs <;> simp

theorem pauseIdle_stack (pause : Bool) (reason : ModPause) (c : IdleCtx) :
    (pauseIdle k pause reason c).loc.stack =
      if (modCheckPause pause reason c.loc.paused).2 then
        if pause then become .paused c.loc.stack else unbecome c.loc.stack
      else c.loc.stack := by
  unfold pauseIdle clientStop
  dsimp only
  split_ifs <;> simp

theorem pauseIdle_running (pause : Bool) (reason : ModPause) {c : IdleCtx} (h : Running c.loc) :
    Running (pauseIdle k pause reason c).loc := by
  have hstack := pausedStack_modCheckPause IdleRecv.paused pause reason c.loc.paused
  unfold Running at h ⊢
  rw [pauseIdle_stack, pauseIdle_paused, h]
  exact hstack

theorem timeoutCallback_running {c : IdleCtx} (h : Running c.loc) :
    Running (timeoutCallback k c).loc := by
  unfold timeoutCallback
  split_ifs
  · exact pauseIdle_running k true .timeout h
  · rw [setTimeout_loc]
    exact pauseIdle_running k false .timeout h

/-! ### Timeout requests -/

/-- Of the other messages, only a request of the module's own is handled while paused. -/
theorem receivePaused_other {m : Msg} (hup : ∀ old new, m ≠ .upowerUpd old new)
    (hinh : ∀ old new, m ≠ .inhibitUpd old new) (hsus : ∀ old new, m ≠ .suspendUpd old new)
    (c : IdleCtx) : receivePaused k m c = (k.toReq m).elim c fun up => onToReq k up c := by
  unfold receivePaused
  split
  · exact absurd rfl (hup _ _)
  · exact absurd rfl (hinh _ _)
  · exact absurd rfl (hsus _ _)
  · split
    · rename_i hreq
      rw [hreq]
      rfl
    · rename_i hreq
      rw [hreq]
      rfl

/-- The timeout is stored, whether the module is paused or not. -/
theorem onToReq_cf {up : TimeoutUpd} {ac : AcState} (hac : up.state = ac.toInt) (c : IdleCtx) :
    (onToReq k up c).cf = k.withTimeout (Function.update (k.timeout c.cf) ac up.new) c.cf := by
  have hname : AcState.ofInt? (validateTimeout c.st up).1.state = some ac := by
    rw [validateTimeout_state (hac ▸ ac.toInt_ne), hac, AcState.ofInt?_toInt]
  simp only [onToReq, hname]
  split_ifs
  · exact timeoutCallback_cf k _
  · rfl

theorem onToReq_running (up : TimeoutUpd) {c : IdleCtx} (h : Running c.loc) :
    Running (onToReq k up c).loc := by
  unfold onToReq
  split
  · exact h
  · dsimp only
    split_ifs
    · exact timeoutCallback_running k h
    · exact h

theorem handle_dimmerToReq (ok : Bool) (up : TimeoutUpd) {c : IdleCtx} (h : Running c.loc) :
    handle dimmerConf ok (.dimmerToReq up) c = some (onToReq dimmerConf up c) := by
  unfold handle
  rw [h, pausedStack]
  split_ifs <;> rfl

theorem handle_dpmsToReq (ok : Bool) (up : TimeoutUpd) {c : IdleCtx} (h : Running c.loc) :
    handle dpmsConf ok (.dpmsToReq up) c = some (onToReq dpmsConf up c) := by
  unfold handle
  rw [h, pausedStack]
  split_ifs <;> rfl

end Idle
end Clight
