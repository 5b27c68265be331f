import Clight.BacklightSpec
import Clight.Idle
import Clight.Keyboard
import Clight.Machine
import Clight.ScreenFrame

/-! Timeouts that are written over D-Bus (interface.c): set_timeouts, and the five modules
that receive what it publishes. Requests are static and queued by reference. -/
namespace Clight

/-- The properties that set_timeouts serves. -/
inductive TimeoutProp
  | bl (ac : AcState) (t : BlTime)
  | kbd (ac : AcState)
  | dim (ac : AcState)
  | dpms (ac : AcState)
  | scr (ac : AcState)
  deriving DecidableEq

/-- bl_to_req, kbd_to_req, dimmer_to_req, dpms_to_req and scr_to_req. -/
inductive ToReq | bl | kbd | dimmer | dpms | scr
  deriving DecidableEq

abbrev ToReqs := ToReq → TimeoutUpd

def TimeoutProp.req : TimeoutProp → ToReq
  | bl _ _ => .bl
  | kbd _ => .kbd
  | dim _ => .dimmer
  | dpms _ => .dpms
  | scr _ => .scr

def Conf.timeouts (cf : Conf) : TimeoutProp → ℤ
  | .bl ac t => cf.bl.timeout ac t
  | .kbd ac => cf.kbd.timeout ac
  | .dim ac => cf.dim.timeout ac
  | .dpms ac => cf.dpms.timeout ac
  | .scr ac => cf.screen.timeout ac

def Conf.withTimeout (cf : Conf) (v : ℤ) : TimeoutProp → Conf
  | .bl ac t =>
    let row := Function.update (cf.bl.timeout ac) t v
    { cf with bl := { cf.bl with timeout := Function.update cf.bl.timeout ac row } }
  | .kbd ac => { cf with kbd := { cf.kbd with timeout := Function.update cf.kbd.timeout ac v } }
  | .dim ac => { cf with dim := { cf.dim with timeout := Function.update cf.dim.timeout ac v } }
  | .dpms ac => { cf with dpms := { cf.dpms with timeout := Function.update cf.dpms.timeout ac v } }
  | .scr ac =>
    { cf with screen := { cf.screen with timeout := Function.update cf.screen.timeout ac v } }

theorem Conf.timeouts_withTimeout (cf : Conf) (v : ℤ) (p : TimeoutProp) :
    (cf.withTimeout v p).timeouts = Function.update cf.timeouts p v := by
  funext q
  cases p with
  | bl ac t =>
    cases q with
    | bl ac' t' =>
      by_cases hac : ac' = ac
      · subst hac
        by_cases ht : t' = t <;> simp [timeouts, withTimeout, ht]
      · simp [timeouts, withTimeout, hac]
    | _ => rfl
  | kbd ac => cases q <;> simp [timeouts, withTimeout, Function.update_apply]
  | dim ac => cases q <;> simp [timeouts, withTimeout, Function.update_apply]
  | dpms ac => cases q <;> simp [timeouts, withTimeout, Function.update_apply]
  | scr ac => cases q <;> simp [timeouts, withTimeout, Function.update_apply]

def setState (k : ToReq) (ac : AcState) (reqs : ToReqs) : ToReqs :=
  Function.update reqs k { reqs k with state := ac.toInt }

def setDaytime (k : ToReq) (t : BlTime) (reqs : ToReqs) : ToReqs :=
  Function.update reqs k { reqs k with daytime := t.toInt }

def setNew (k : ToReq) (v : ℤ) (reqs : ToReqs) : ToReqs :=
  Function.update reqs k { reqs k with new := v }

theorem setState_of_ne {k k' : ToReq} (h : k' ≠ k) (ac : AcState) (reqs : ToReqs) :
    setState k' ac reqs k = reqs k := Function.update_of_ne h.symm _ _

theorem setDaytime_of_ne {k k' : ToReq} (h : k' ≠ k) (t : BlTime) (reqs : ToReqs) :
    setDaytime k' t reqs k = reqs k := Function.update_of_ne h.symm _ _

theorem setState_state (k : ToReq) (ac : AcState) (reqs : ToReqs) :
    (setState k ac reqs k).state = ac.toInt := by rw [setState, Function.update_self]

theorem setDaytime_daytime (k : ToReq) (t : BlTime) (reqs : ToReqs) :
    (setDaytime k t reqs k).daytime = t.toInt := by rw [setDaytime, Function.update_self]

theorem setState_daytime (k : ToReq) (ac : AcState) (reqs : ToReqs) :
    (setState k ac reqs k).daytime = (reqs k).daytime := by rw [setState, Function.update_self]

theorem setState_new (k k' : ToReq) (ac : AcState) (reqs : ToReqs) :
    (setState k' ac reqs k).new = (reqs k).new := by
  by_cases hk : k' = k
  · subst hk
    rw [setState, Function.update_self]
  · rw [setState_of_ne hk]

theorem setDaytime_new (k k' : ToReq) (t : BlTime) (reqs : ToReqs) :
    (setDaytime k' t reqs k).new = (reqs k).new := by
  by_cases hk : k' = k
  · subst hk
    rw [setDaytime, Function.update_self]
  · rw [setDaytime_of_ne hk]

/-- The chain of comparisons of set_timeouts: what names the property's timeout. -/
def setName (p : TimeoutProp) (reqs : ToReqs) : ToReqs :=
  match p with
  | .bl ac t => setState .bl ac (setDaytime .bl t reqs)
  | .kbd ac => setState .kbd ac reqs
  | .dim ac => setState .dimmer ac reqs
  | .dpms .onAc => setState .dpms .onAc reqs
  -- the last branch of DPMS writes into the request of DIMMER
  | .dpms .onBattery => setState .dimmer .onBattery reqs
  | .scr ac => setState .scr ac reqs

/-- set_timeouts, up to M_PUB. -/
def setTimeouts (p : TimeoutProp) (v : ℤ) (reqs : ToReqs) : ToReqs := setNew p.req v (setName p reqs)

/-- The five modules, with the requests of interface.c and the references in flight. -/
structure Daemon where
  bl : Backlight
  scr : Screen
  kbd : Keyboard
  dim : Idle
  dpms : Idle
  st : State
  cf : Conf
  reqs : ToReqs
  queue : List ToReq

structure DaemonReplies where
  bl : BlReplies
  screen : Option ℚ
  kbd : Bool
  idle : Bool

inductive DaemonEvent
  | write (p : TimeoutProp) (v : ℤ)
  | deliver (r : DaemonReplies)

namespace Daemon

/-- What the validator leaves in the request it was given. -/
def wroteBack (k : ToReq) (s : Daemon) : ToReqs :=
  Function.update s.reqs k (validateTimeout s.st (s.reqs k)).1

/-- Handling of a request by its module. What KEYBOARD publishes meanwhile, KBD_BL_UPD, is
for the bus only. -/
def deliver (fit : Fit) (r : DaemonReplies) (s : Daemon) : ToReq → Option Daemon
  | .bl =>
    let c := Backlight.handle fit r.bl (.blToReq (s.reqs .bl)) ⟨s.bl, s.st, s.cf, [], []⟩
    some { s with bl := c.loc, st := c.st, cf := c.cf, reqs := wroteBack .bl s }
  | .kbd =>
    let c := Keyboard.handle fit r.kbd (.kbdToReq (s.reqs .kbd)) ⟨s.kbd, s.st, s.cf, [], []⟩
    some { s with
      kbd := c.loc, st := c.st, cf := c.cf
      reqs := if s.kbd.paused.isUnpaused then wroteBack .kbd s else s.reqs }
  | .dimmer =>
    (Idle.handle dimmerConf r.idle (.dimmerToReq (s.reqs .dimmer)) ⟨s.dim, s.st, s.cf, [], []⟩).map
      fun c => { s with dim := c.loc, st := c.st, cf := c.cf, reqs := wroteBack .dimmer s }
  | .dpms =>
    (Idle.handle dpmsConf r.idle (.dpmsToReq (s.reqs .dpms)) ⟨s.dpms, s.st, s.cf, [], []⟩).map
      fun c => { s with dpms := c.loc, st := c.st, cf := c.cf, reqs := wroteBack .dpms s }
  | .scr =>
    let c := Screen.handle r.screen (.scrToReq (s.reqs .scr)) ⟨s.scr, s.st, s.cf, [], []⟩
    some { s with scr := c.loc, st := c.st, cf := c.cf, reqs := wroteBack .scr s }

def next (fit : Fit) (s : Daemon) : DaemonEvent → Option Daemon
  | .write p v => some { s with reqs := setTimeouts p v s.reqs, queue := s.queue ++ [p.req] }
  | .deliver r => match s.queue with
    | [] => none
    | k :: queue => deliver fit r { s with queue := queue } k

/-- The modules have started; each may be paused. -/
structure Running (s : Daemon) : Prop where
  bl : Backlight.Running s.bl
  scr : s.scr.stack = []
  kbd : Keyboard.Running s.kbd
  dim : Idle.Running s.dim
  dpms : Idle.Running s.dpms

/-- No request was ever published: static memory is zero. -/
def Init (s : Daemon) : Prop :=
  Running s ∧ s.reqs = (fun _ => { new := 0, state := 0, daytime := 0 }) ∧ s.queue = []

end Daemon

def daemon (fit : Fit) : Machine Daemon DaemonEvent where
  init := Daemon.Init
  next := Daemon.next fit

/-! ### What a request names -/

def TimeoutUpd.Names (up : TimeoutUpd) : TimeoutProp → Prop
  | .bl ac t => up.state = ac.toInt ∧ up.daytime = t.toInt
  | .kbd ac | .dim ac | .dpms ac | .scr ac => up.state = ac.toInt ∧ up.daytime = BlTime.day.toInt

theorem TimeoutUpd.Names.validate {up : TimeoutUpd} {p : TimeoutProp} (h : up.Names p) (st : State) :
    (validateTimeout st up).1 = up := by
  cases p with
  | bl ac t => exact validateTimeout_eq (h.1 ▸ ac.toInt_ne) (h.2 ▸ t.toInt_ne)
  | kbd ac => exact validateTimeout_eq (h.1 ▸ ac.toInt_ne) (h.2 ▸ BlTime.day.toInt_ne)
  | dim ac => exact validateTimeout_eq (h.1 ▸ ac.toInt_ne) (h.2 ▸ BlTime.day.toInt_ne)
  | dpms ac => exact validateTimeout_eq (h.1 ▸ ac.toInt_ne) (h.2 ▸ BlTime.day.toInt_ne)
  | scr ac => exact validateTimeout_eq (h.1 ▸ ac.toInt_ne) (h.2 ▸ BlTime.day.toInt_ne)

/-- Only the requests of BACKLIGHT are about a daytime. -/
theorem TimeoutUpd.Names.daytime {up : TimeoutUpd} {p : TimeoutProp} (h : up.Names p)
    (hp : p.req ≠ .bl) : up.daytime = BlTime.day.toInt := by
  cases p with
  | bl ac t => exact absurd rfl hp
  | kbd ac => exact h.2
  | dim ac => exact h.2
  | dpms ac => exact h.2
  | scr ac => exact h.2

/-! ### The timeout requests of BACKLIGHT and SCREEN -/

theorem Backlight.resetOrPause_cf (old : ℤ) (reset : Bool) (c : BlCtx) :
    (resetOrPause old reset c).cf = c.cf := by
  unfold resetOrPause
  dsimp only
  split_ifs <;> rfl

/-- BACKLIGHT stores the timeout, whether it is paused or not. -/
theorem Backlight.handle_blToReq (fit : Fit) (r : BlReplies) {up : TimeoutUpd} {ac : AcState}
    {t : BlTime} {c : BlCtx} (h : Running c.loc) (hup : up.Names (.bl ac t)) :
    (handle fit r (.blToReq up) c).cf = c.cf.withTimeout up.new (.bl ac t) ∧
      Running (handle fit r (.blToReq up) c).loc := by
  have hhandle : handle fit r (.blToReq up) c = onBlToReq up c := by
    rcases handle_of_running fit r (.blToReq up) h with he | he
    · exact he
    · exact he
  have hac : AcState.ofInt? up.state = some ac := by rw [hup.1, AcState.ofInt?_toInt]
  have ht : BlTime.ofInt? up.daytime = some t := by rw [hup.2, BlTime.ofInt?_toInt]
  obtain ⟨timeout, hframe⟩ :=
    frame_onBlToReq (R := [.timeout]) (P := fun _ => True) (by decide) up c
  rw [hhandle]
  refine ⟨?_, hframe.running h⟩
  simp only [onBlToReq, hup.validate, hac, interfaceTimeoutCallback, ht]
  split_ifs
  · exact resetOrPause_cf _ true _
  · rfl

/-- SCREEN has one receiver once it has started. -/
theorem Screen.handle_scrToReq (reply : Option ℚ) {up : TimeoutUpd} {ac : AcState} {c : ScreenCtx}
    (h : c.loc.stack = []) (hup : up.Names (.scr ac)) :
    (handle reply (.scrToReq up) c).cf = c.cf.withTimeout up.new (.scr ac) ∧
      (handle reply (.scrToReq up) c).loc.stack = [] := by
  have hac : AcState.ofInt? up.state = some ac := by rw [hup.1, AcState.ofInt?_toInt]
  unfold handle
  rw [h]
  simp only [receive, onScrToReq, hup.validate, hac]
  split_ifs
  · exact ⟨timeoutCallback_cf _ true _, (timeoutCallback_stack _ true _).trans h⟩
  · exact ⟨rfl, h⟩

namespace Daemon

theorem wroteBack_eq {s : Daemon} {k : ToReq} {p : TimeoutProp} (h : (s.reqs k).Names p) :
    wroteBack k s = s.reqs := by
  rw [wroteBack, h.validate, Function.update_eq_self]

/-! ### Delivery of one request -/

/-- What is left of a daemon after it has handled a request for `p`. -/
structure Delivered (p : TimeoutProp) (s s' : Daemon) : Prop where
  running : Running s'
  reqs : s'.reqs = s.reqs
  queue : s'.queue = s.queue
  kbd : p.req ≠ .kbd ∨ s.kbd.paused.isUnpaused = false → s'.kbd = s.kbd
  timeouts : s'.cf.timeouts =
    if p.req = .kbd ∧ s.kbd.paused.isUnpaused = false then s.cf.timeouts
    else Function.update s.cf.timeouts p (s.reqs p.req).new

theorem Delivered.of_stored {p : TimeoutProp} {s s' : Daemon} (hrun : Running s')
    (hreqs : s'.reqs = s.reqs) (hqueue : s'.queue = s.queue) (hkbd : p.req ≠ .kbd → s'.kbd = s.kbd)
    (hpaused : p.req = .kbd → s.kbd.paused.isUnpaused = true)
    (hcf : s'.cf = s.cf.withTimeout (s.reqs p.req).new p) : Delivered p s s' := by
  have hstored : ¬ (p.req = .kbd ∧ s.kbd.paused.isUnpaused = false) := by
    intro ⟨hk, hu⟩
    rw [hpaused hk] at hu
    cases hu
  refine ⟨hrun, hreqs, hqueue, ?_, ?_⟩
  · intro h
    exact hkbd fun hk => hstored ⟨hk, h.resolve_left fun hne => hne hk⟩
  · rw [if_neg hstored, hcf, Conf.timeouts_withTimeout]

/-- One delivery to each module. A paused KEYBOARD drops the request. -/
theorem deliver_spec (fit : Fit) (r : DaemonReplies) {s : Daemon} {p : TimeoutProp} (h : Running s)
    (hup : (s.reqs p.req).Names p) : ∃ s', deliver fit r s p.req = some s' ∧ Delivered p s s' := by
  cases p with
  | bl ac t =>
    obtain ⟨hcf, hrun⟩ := Backlight.handle_blToReq fit r.bl (c := ⟨s.bl, s.st, s.cf, [], []⟩) h.bl hup
    refine ⟨_, rfl, .of_stored { h with bl := hrun } (wroteBack_eq hup) rfl (fun _ => rfl) ?_ hcf⟩
    intro hk
    cases hk
  | kbd ac =>
    obtain ⟨hcf, hrun⟩ := Keyboard.handle_kbdToReq fit r.kbd (c := ⟨s.kbd, s.st, s.cf, [], []⟩)
      h.kbd hup.1
    cases hu : s.kbd.paused.isUnpaused with
    | true =>
      rw [if_pos hu] at hcf
      refine ⟨_, rfl, .of_stored { h with kbd := hrun } ?_ rfl (fun hk => absurd rfl hk) (fun _ => hu)
        hcf⟩
      exact (if_pos hu).trans (wroteBack_eq hup)
    | false =>
      have hpaused : ¬ s.kbd.paused.isUnpaused = true := by
        rw [hu]
        exact Bool.false_ne_true
      have hdropped : (TimeoutProp.kbd ac).req = .kbd ∧ s.kbd.paused.isUnpaused = false := ⟨rfl, hu⟩
      rw [if_neg hpaused] at hcf
      refine ⟨_, rfl, { h with kbd := hrun }, if_neg hpaused, rfl, ?_, ?_⟩
      · intro _
        exact Keyboard.handle_kbdToReq_loc fit r.kbd _ h.kbd hu
      · exact (congrArg Conf.timeouts hcf).trans (if_pos hdropped).symm
  | dim ac =>
    have hhandle := Idle.handle_dimmerToReq r.idle (s.reqs .dimmer) (c := ⟨s.dim, s.st, s.cf, [], []⟩)
      h.dim
    have hcf := Idle.onToReq_cf dimmerConf hup.1 ⟨s.dim, s.st, s.cf, [], []⟩
    have hrun := Idle.onToReq_running dimmerConf (s.reqs .dimmer) (c := ⟨s.dim, s.st, s.cf, [], []⟩)
      h.dim
    refine ⟨_, congrArg (Option.map _) hhandle,
      .of_stored { h with dim := hrun } (wroteBack_eq hup) rfl (fun _ => rfl) ?_ hcf⟩
    intro hk
    cases hk
  | dpms ac =>
    have hhandle := Idle.handle_dpmsToReq r.idle (s.reqs .dpms) (c := ⟨s.dpms, s.st, s.cf, [], []⟩)
      h.dpms
    have hcf := Idle.onToReq_cf dpmsConf hup.1 ⟨s.dpms, s.st, s.cf, [], []⟩
    have hrun := Idle.onToReq_running dpmsConf (s.reqs .dpms) (c := ⟨s.dpms, s.st, s.cf, [], []⟩)
      h.dpms
    refine ⟨_, congrArg (Option.map _) hhandle,
      .of_stored { h with dpms := hrun } (wroteBack_eq hup) rfl (fun _ => rfl) ?_ hcf⟩
    intro hk
    cases hk
  | scr ac =>
    obtain ⟨hcf, hrun⟩ := Screen.handle_scrToReq r.screen (c := ⟨s.scr, s.st, s.cf, [], []⟩) h.scr hup
    refine ⟨_, rfl, .of_stored { h with scr := hrun } (wroteBack_eq hup) rfl (fun _ => rfl) ?_ hcf⟩
    intro hk
    cases hk

end Daemon
end Clight
