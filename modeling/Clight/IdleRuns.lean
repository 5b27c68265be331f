import Clight.IdleClient

/-! DIMMER or DPMS with its mailbox, in every run: with nothing in the mailbox, the client runs
exactly when the watcher is not paused. -/
namespace Clight

structure Watcher where
  loc : Idle
  /-- idle_init has failed, and the module has deregistered itself. -/
  gone : Bool
  box : List Msg
  /-- The calls made on the client so far. -/
  calls : List IdleCall
  inhibitions : ℤ
  pm : Pm
  st : State
  cf : Conf

/-- `publish` is a timeout request, simulated activity or any other message. -/
inductive WatcherEvent
  | deliver (ok : Bool)
  | publish (m : Msg)
  | acState (old : Option AcState) (new : AcState)
  | inhibitReq (r : FlagReq)
  | suspendReq (r : FlagReq)
  | delayedResume

namespace Watcher
variable (k : IdleConf)

def publish (ms : List Msg) (s : Watcher) : Watcher :=
  { s with box := if s.gone then [] else s.box ++ ms.filter (Idle.subscribes k) }

def ctx (s : Watcher) : IdleCtx :=
  { loc := s.loc, st := s.st, cf := s.cf, out := [], calls := s.calls }

def next (s : Watcher) : WatcherEvent → Option Watcher
  | .deliver ok => match s.box with
    | [] => none
    | m :: box => match Idle.handle k ok m s.ctx with
      | none => some { s with gone := true, box := [] }
      | some c => some (publish k c.out
          { s with box := box, loc := c.loc, calls := c.calls, st := c.st, cf := c.cf })
  | .publish m => some (publish k [m] s)
  | .acState old new =>
    some (publish k [.upowerUpd old new] { s with st := { s.st with acState := some new } })
  | .inhibitReq r =>
    let c := Inhibit.next (PausableMod.ctx s.inhibitions s.st s.cf) r
    some (publish k c.out { s with inhibitions := c.loc, st := c.st })
  | .suspendReq r =>
    let c := Pm.next (PausableMod.ctx s.pm s.st s.cf) (.suspendReq r)
    some (publish k c.out { s with pm := c.loc, st := c.st })
  | .delayedResume =>
    let c := Pm.next (PausableMod.ctx s.pm s.st s.cf) .delayedResume
    some (publish k c.out { s with pm := c.loc, st := c.st })

def start (cf : Conf) : Watcher where
  loc := .init
  gone := false
  box := []
  calls := []
  inhibitions := 0
  pm := .init
  st := initState cf
  cf := cf

end Watcher

def watcher (x : IdleMod) : Machine Watcher WatcherEvent where
  init s := ∃ cf, s = Watcher.start cf
  next := Watcher.next x.conf

namespace Idle
variable (k : IdleConf)

def AwaitsUpower (box : List Msg) : Prop := ∃ old new, .upowerUpd old new ∈ box

def AwaitsInhibit (box : List Msg) : Prop := ∃ m ∈ box, m.announces .inhibit = true

/-- The timeout with which a message leads to timeout_callback. -/
def callbackTimeout (m : Msg) (c : IdleCtx) : Option ℤ :=
  match m, k.toReq m with
  | .upowerUpd _ _, _ => some (currentTimeout k c)
  | _, some up =>
    if c.loc.client && c.st.acState.isSome &&
        AcState.ofInt? (validateTimeout c.st up).1.state = c.st.acState then some up.new
    else none
  | _, none => none

/-- What a message has to find, with `box` queued behind it. -/
structure Minds (c : IdleCtx) (m : Msg) (box : List Msg) : Prop where
  /-- A client that is started is not that of a paused watcher. -/
  free : ∀ t, callbackTimeout k m c = some t → 0 < t → c.st.inhibited = false →
    (c.loc.paused.clear .timeout).isUnpaused = true
  /-- A client that an inhibition keeps from being started is about to be paused by it. -/
  inhibited : ∀ t, callbackTimeout k m c = some t → 0 < t → c.st.inhibited = true → Stalled c →
    AwaitsInhibit box
  /-- An inhibition that has ended already has kept no client from being started. -/
  ended : m.announces .inhibit = true → c.loc.client = true → c.st.inhibited = false → Stalled c →
    AwaitsUpower box

/-- The invariant of a watcher that has started, and of the messages queued for it. -/
structure Sound (c : IdleCtx) (box : List Msg) : Prop where
  running : Running c.loc
  client : c.loc.client = true
  quiet : Quiet c
  timeout : currentTimeout k c ≤ 0 → c.loc.paused.has .timeout = true ∨ AwaitsUpower box
  stalled : Stalled c → AwaitsUpower box ∨ AwaitsInhibit box

/-- A watcher that waits for the AC state. -/
structure Fresh (c : IdleCtx) : Prop where
  stack : c.loc.stack = [.waitingAcstate]
  paused : c.loc.paused = .unpaused
  stopped : started c = false

theorem AwaitsUpower.mono {box box' : List Msg} (h : AwaitsUpower box) (hsub : box ⊆ box') :
    AwaitsUpower box' := by
  obtain ⟨old, new, hm⟩ := h
  exact ⟨old, new, hsub hm⟩

theorem AwaitsInhibit.mono {box box' : List Msg} (h : AwaitsInhibit box) (hsub : box ⊆ box') :
    AwaitsInhibit box' := by
  obtain ⟨m, hm, ha⟩ := h
  exact ⟨m, hsub hm, ha⟩

variable {k} {c c' : IdleCtx} {m : Msg} {box box' : List Msg}

theorem AwaitsUpower.pop (h : AwaitsUpower (m :: box)) (hm : ∀ old new, m ≠ .upowerUpd old new) :
    AwaitsUpower box := by
  obtain ⟨old, new, hmem⟩ := h
  rcases List.mem_cons.mp hmem with he | hmem
  · exact absurd he.symm (hm old new)
  · exact ⟨old, new, hmem⟩

theorem AwaitsInhibit.pop (h : AwaitsInhibit (m :: box)) (hm : m.announces .inhibit = false) :
    AwaitsInhibit box := by
  obtain ⟨m', hmem, ha⟩ := h
  rcases List.mem_cons.mp hmem with rfl | hmem
  · rw [hm] at ha
    cases ha
  · exact ⟨m', hmem, ha⟩

/-- While a watcher is not paused, a timeout that would pause it is still to be announced. -/
theorem Sound.upower_of_unpaused (h : Sound k c box) (hu : c.loc.paused.isUnpaused = true)
    (ht : currentTimeout k c ≤ 0) : AwaitsUpower box := by
  rcases h.timeout ht with hbit | hup
  · rw [(PauseMask.isUnpaused_iff _).mp hu] at hbit
    cases hbit
  · exact hup

/-- A message that is neither UPOWER_UPD nor INHIBIT_UPD leaves the mailbox. -/
theorem Sound.pop (h : Sound k c (m :: box)) (hup : ∀ old new, m ≠ .upowerUpd old new)
    (hinh : m.announces .inhibit = false) : Sound k c box where
  running := h.running
  client := h.client
  quiet := h.quiet
  timeout ht := (h.timeout ht).imp id fun hbox => hbox.pop hup
  stalled hs := (h.stalled hs).imp (fun hbox => hbox.pop hup) fun hbox => hbox.pop hinh

/-- What others do: the mailbox grows, and a change of the AC state is announced. -/
theorem Sound.grow (h : Sound k c box) (hsub : box ⊆ box') (hloc : c'.loc = c.loc)
    (hcalls : c'.calls = c.calls)
    (ht : currentTimeout k c' = currentTimeout k c ∨ AwaitsUpower box') : Sound k c' box' where
  running := hloc ▸ h.running
  client := hloc ▸ h.client
  quiet := by
    have hstarted : started c' = started c := congrArg clientStarted hcalls
    intro hs
    rw [hloc]
    exact h.quiet (hstarted ▸ hs)
  timeout hle := by
    rcases ht with ht | hup
    · rw [hloc]
      exact (h.timeout (ht ▸ hle)).imp id fun hup => hup.mono hsub
    · exact .inr hup
  stalled hs := by
    have hstarted : started c' = started c := congrArg clientStarted hcalls
    have hstalled : Stalled c := ⟨hloc ▸ hs.1, hstarted ▸ hs.2⟩
    exact (h.stalled hstalled).imp (fun hup => hup.mono hsub) fun hinh => hinh.mono hsub

/-! ### One message -/

/-- timeout_callback, in a watcher that has just started or has been running. -/
theorem Sound.callback (hrun : Running c.loc) (hc : c.loc.client = true) (hq : Quiet c)
    (hfree : 0 < currentTimeout k c → c.st.inhibited = false →
      (c.loc.paused.clear .timeout).isUnpaused = true)
    (hinh : 0 < currentTimeout k c → c.st.inhibited = true → Stalled c → AwaitsInhibit box) :
    Sound k (timeoutCallback k c) box := by
  obtain ⟨hquiet, hstalled⟩ := timeoutCallback_quiet k hc hq hfree
  have htimeout : currentTimeout k (timeoutCallback k c) = currentTimeout k c := by
    unfold currentTimeout
    rw [timeoutCallback_cf, timeoutCallback_st]
  refine ⟨timeoutCallback_running k hrun, ?_, hquiet, ?_, ?_⟩
  · rw [timeoutCallback_client]
    exact hc
  · intro ht
    rw [htimeout] at ht
    exact .inl (timeoutCallback_has k ht)
  · intro hs
    obtain ⟨hpos, hon, hbefore⟩ := hstalled hs
    exact .inr (hinh hpos hon hbefore)

/-- INHIBIT_UPD and SUSPEND_UPD. -/
theorem Sound.update (h : Sound k c (m :: box)) (hup : ∀ old new, m ≠ .upowerUpd old new)
    {pause : Bool} {reason : ModPause} (hreason : reason ≠ .timeout)
    (hstalled : pause = false → Stalled c → AwaitsUpower box ∨ AwaitsInhibit box) :
    Sound k (pauseIdle k pause reason c) box := by
  have htimeout : currentTimeout k (pauseIdle k pause reason c) = currentTimeout k c := by
    unfold currentTimeout
    rw [pauseIdle_cf, pauseIdle_st]
  have hclient : (pauseIdle k pause reason c).loc.client = true := by
    rw [pauseIdle_client]
    exact h.client
  have hbit : currentTimeout k (pauseIdle k pause reason c) ≤ 0 →
      (pauseIdle k pause reason c).loc.paused.has .timeout = true ∨ AwaitsUpower box := by
    intro ht
    rw [htimeout] at ht
    rw [pauseIdle_has, if_neg hreason]
    exact (h.timeout ht).imp id fun hawaits => hawaits.pop hup
  cases pause with
  | true =>
    obtain ⟨hquiet, hnot⟩ := pause_quiet k reason h.client h.quiet
    exact ⟨pauseIdle_running k true reason h.running, hclient, hquiet, hbit, fun hs => absurd hs hnot⟩
  | false =>
    obtain ⟨hquiet, hresume⟩ := resume_quiet k reason h.client h.quiet
    refine ⟨pauseIdle_running k false reason h.running, hclient, hquiet, hbit, ?_⟩
    intro hs
    rcases hresume hs with hbefore | ht
    · exact hstalled rfl hbefore
    · -- it resumed while its timeout was about to pause it
      have hclear := (PauseMask.isUnpaused_iff _).mp hs.1 .timeout
      rcases hbit (htimeout ▸ ht) with hset | hup
      · rw [hclear] at hset
        cases hset
      · exact .inl hup

/-- SIMULATE_REQ, in a watcher that is not paused. -/
theorem Sound.simulate (h : Sound k c box) (hu : c.loc.paused.isUnpaused = true) :
    Sound k (clientReset (currentTimeout k c) c) box := by
  have hloc : (clientReset (currentTimeout k c) c).loc = c.loc := by simp [clientReset, clientStop]
  have htimeout : currentTimeout k (clientReset (currentTimeout k c) c) = currentTimeout k c := by
    simp [currentTimeout, clientReset, clientStop]
  have hstarted := started_clientReset (currentTimeout k c) h.client
  refine ⟨hloc ▸ h.running, hloc ▸ h.client, ?_, ?_, ?_⟩
  · intro _
    rw [hloc]
    exact hu
  · rw [htimeout, hloc]
    exact h.timeout
  · rintro ⟨-, hs⟩
    rw [hstarted] at hs
    have ht : currentTimeout k c ≤ 0 := not_lt.mp (of_decide_eq_false hs)
    exact .inl (h.upower_of_unpaused hu ht)

theorem callbackTimeout_upowerUpd (old : Option AcState) (new : AcState) (c : IdleCtx) :
    callbackTimeout k (.upowerUpd old new) c = some (currentTimeout k c) := rfl

theorem callbackTimeout_toReq {up : TimeoutUpd} {ac : AcState} (hreq : k.toReq m = some up)
    (hup : ∀ old new, m ≠ .upowerUpd old new) (hc : c.loc.client = true)
    (hac : AcState.ofInt? (validateTimeout c.st up).1.state = some ac) (hnow : c.st.acState = some ac) :
    callbackTimeout k m c = some up.new := by
  unfold callbackTimeout
  rw [hreq]
  split
  · exact absurd rfl (hup _ _)
  · rename_i heq
    cases heq
    rw [hc, hac, hnow]
    simp
  · rename_i heq
    cases heq

/-- A timeout request, of the module or of another one. -/
theorem Sound.toReq (hk : ∀ t cf, k.timeout (k.withTimeout t cf) = t) (h : Sound k c (m :: box))
    (hup : ∀ old new, m ≠ .upowerUpd old new) (hinh : ∀ old new, m ≠ .inhibitUpd old new)
    (hsus : ∀ old new, m ≠ .suspendUpd old new) (hm : Minds k c m box) :
    Sound k (receivePaused k m c) box := by
  have hquiet : m.announces .inhibit = false := by
    cases m
    case inhibitUpd old new => exact absurd rfl (hinh old new)
    all_goals rfl
  have hpop := h.pop hup hquiet
  rw [receivePaused_other k hup hinh hsus]
  cases hreq : k.toReq m with
  | none => exact hpop
  | some up =>
    change Sound k (onToReq k up c) box
    unfold onToReq
    split
    · exact hpop
    · rename_i ac hac
      have hstored : ∀ cf, k.timeout (k.withTimeout (Function.update (k.timeout cf) ac up.new) cf) =
          Function.update (k.timeout cf) ac up.new := fun cf => hk _ cf
      dsimp only
      split_ifs with hnow
      · -- the timeout in force is the one that is stored
        have hcall := callbackTimeout_toReq hreq hup h.client hac hnow
        have htimeout : currentTimeout k { c with
            cf := k.withTimeout (Function.update (k.timeout c.cf) ac up.new) c.cf } = up.new := by
          unfold currentTimeout
          rw [hstored, hnow]
          exact Function.update_self ..
        apply Sound.callback
        · exact h.running
        · exact h.client
        · exact h.quiet
        · rw [htimeout]
          exact fun hpos hfree => hm.free _ hcall hpos hfree
        · rw [htimeout]
          exact fun hpos hon hs => hm.inhibited _ hcall hpos hon hs
      · refine hpop.grow (List.Subset.refl box) rfl rfl (.inl ?_)
        unfold currentTimeout
        rw [hstored]
        cases hst : c.st.acState with
        | none => rfl
        | some now =>
          have hne : now ≠ ac := by
            rintro rfl
            exact hnow hst
          exact Function.update_of_ne hne _ _

theorem Sound.receivePaused (hk : ∀ t cf, k.timeout (k.withTimeout t cf) = t)
    (h : Sound k c (m :: box)) (hm : Minds k c m box) : Sound k (receivePaused k m c) box := by
  cases m with
  | upowerUpd old new =>
    have hcall := callbackTimeout_upowerUpd (k := k) old new c
    exact .callback h.running h.client h.quiet (hm.free _ hcall) (hm.inhibited _ hcall)
  | inhibitUpd old new =>
    refine h.update nofun (by decide) ?_
    intro hoff hs
    exact .inl (hm.ended rfl h.client hoff hs)
  | suspendUpd old new =>
    refine h.update nofun (by decide) ?_
    intro _ hs
    exact (h.pop nofun rfl).stalled hs
  | _ => exact h.toReq hk nofun nofun nofun hm

/-- One message to a running watcher. -/
theorem Sound.handle (hk : ∀ t cf, k.timeout (k.withTimeout t cf) = t) {ok : Bool}
    (h : Sound k c (m :: box)) (hm : Minds k c m box) (hh : handle k ok m c = some c') :
    Sound k c' box := by
  have hpaused := h.receivePaused hk hm
  rw [handle_of_running k ok m h.running] at hh
  obtain rfl := Option.some.inj hh
  by_cases hu : c.loc.paused.isUnpaused = true
  · rw [if_pos hu]
    unfold receive
    split
    · exact (h.pop nofun rfl).simulate hu
    · exact hpaused
  · rw [if_neg hu]
    exact hpaused

/-- One message to a waiting watcher, which starts on the first UPOWER_UPD. -/
theorem Fresh.handle {ok : Bool} (h : Fresh c) (hm : Minds k c m box)
    (hh : handle k ok m c = some c') : Fresh c' ∨ Sound k c' box := by
  have hwaiting : Idle.handle k ok m c = receiveWaitingAcstate k ok m c := by
    unfold Idle.handle
    rw [h.stack]
  rw [hwaiting] at hh
  cases m with
  | upowerUpd old new =>
    unfold receiveWaitingAcstate at hh
    dsimp only at hh
    split_ifs at hh
    obtain rfl := Option.some.inj hh
    have hcall := callbackTimeout_upowerUpd (k := k) old new c
    have hrun : Running { c.loc with client := true, stack := unbecome c.loc.stack } := by
      change unbecome c.loc.stack = pausedStack .paused c.loc.paused
      rw [h.stack, h.paused]
      rfl
    right
    refine .callback hrun rfl ?_ (hm.free _ hcall) (hm.inhibited _ hcall)
    intro hs
    exact absurd (h.stopped.symm.trans hs) Bool.false_ne_true
  | _ =>
    left
    obtain rfl := Option.some.inj hh
    exact h

end Idle

/-! ### Runs -/

namespace Watcher
variable {k : IdleConf} {s s' : Watcher}

theorem subset_publish (hg : s.gone = false) (ms : List Msg) : s.box ⊆ (publish k ms s).box := by
  change s.box ⊆ if s.gone then [] else s.box ++ ms.filter (Idle.subscribes k)
  rw [hg, if_neg Bool.false_ne_true]
  exact List.subset_append_left _ _

/-- The watcher waits, is gone, or runs and is sound. -/
def Inv (k : IdleConf) (s : Watcher) : Prop :=
  Idle.Fresh s.ctx ∧ (s.gone = true → s.box = []) ∨ s.gone = false ∧ Idle.Sound k s.ctx s.box

/-- Each message finds what it has to find. -/
def Minds (k : IdleConf) (s : Watcher) (e : WatcherEvent) : Prop :=
  ∀ ok m box, e = .deliver ok → s.box = m :: box → Idle.Minds k s.ctx m box

/-- A step that leaves the module itself alone. -/
theorem Inv.announce (hinv : Inv k s) {t : Watcher} {ms : List Msg} (hloc : t.loc = s.loc)
    (hcalls : t.calls = s.calls) (hgone : t.gone = s.gone) (hbox : t.box = s.box) (hcf : t.cf = s.cf)
    (hac : t.st.acState = s.st.acState ∨ Idle.AwaitsUpower ms) : Inv k (publish k ms t) := by
  rcases hinv with ⟨hfresh, -⟩ | ⟨hg, hsound⟩
  · left
    have hstack : t.loc.stack = s.loc.stack := congrArg Idle.stack hloc
    have hpaused : t.loc.paused = s.loc.paused := congrArg Idle.paused hloc
    have hstarted : clientStarted t.calls = clientStarted s.calls := congrArg clientStarted hcalls
    refine ⟨⟨hstack.trans hfresh.stack, hpaused.trans hfresh.paused, hstarted.trans hfresh.stopped⟩, ?_⟩
    intro hg
    exact if_pos hg
  · right
    have hgt : t.gone = false := hgone.trans hg
    refine ⟨hgt, hsound.grow ?_ hloc hcalls ?_⟩
    · rw [← hbox]
      exact subset_publish hgt ms
    · rcases hac with hac | ⟨old, new, hm⟩
      · left
        change atAc (k.timeout t.cf) t.st.acState = atAc (k.timeout s.cf) s.st.acState
        rw [hcf, hac]
      · right
        refine ⟨old, new, ?_⟩
        change _ ∈ if t.gone then [] else t.box ++ ms.filter (Idle.subscribes k)
        rw [hgt, if_neg Bool.false_ne_true]
        exact List.mem_append_right _ (List.mem_filter.mpr ⟨hm, rfl⟩)

theorem inhibitNext_acState (r : FlagReq) (c : InhibitCtx) :
    (Inhibit.next c r).st.acState = c.st.acState := by
  rw [Inhibit.next, Inhibit.onInhibitReq_eq]
  split_ifs <;> rfl

theorem pmNext_acState (r : FlagReq) (c : PmCtx) :
    (Pm.next c (.suspendReq r)).st.acState = c.st.acState := by
  rw [Pm.next, Pm.onSuspendReq_eq]
  split_ifs
  · rfl
  · rw [Pm.announce_st]
    rfl

theorem pmDelayed_st (c : PmCtx) : (Pm.next c .delayedResume).st = c.st := by
  rw [Pm.next, Pm.onDelayedResume]
  split <;> rfl

/-- The watcher takes the next message of its mailbox. -/
theorem Inv.deliver (hk : ∀ t cf, k.timeout (k.withTimeout t cf) = t) {ok : Bool} (hinv : Inv k s)
    (hm : Minds k s (.deliver ok)) (hn : next k s (.deliver ok) = some s') : Inv k s' := by
  simp only [next] at hn
  split at hn
  · cases hn
  rename_i m box hbox
  have hminds := hm ok m box rfl hbox
  have hgrow : ∀ {c : IdleCtx}, s.gone = false → Idle.Sound k c box → Inv k (publish k c.out
      { s with box := box, loc := c.loc, calls := c.calls, st := c.st, cf := c.cf }) := by
    intro c hg hsound
    have hsub := subset_publish (k := k)
      (s := { s with box := box, loc := c.loc, calls := c.calls, st := c.st, cf := c.cf }) hg c.out
    exact .inr ⟨hg, hsound.grow hsub rfl rfl (.inl rfl)⟩
  rcases hinv with ⟨hfresh, hgone⟩ | ⟨hg, hsound⟩
  · have hg : s.gone = false := by
      rw [Bool.eq_false_iff]
      intro hg
      rw [hgone hg] at hbox
      cases hbox
    split at hn
    · obtain rfl := Option.some.inj hn
      exact .inl ⟨⟨hfresh.stack, hfresh.paused, hfresh.stopped⟩, fun _ => rfl⟩
    · rename_i c hh
      obtain rfl := Option.some.inj hn
      rcases hfresh.handle hminds hh with hfresh' | hsound'
      · refine .inl ⟨⟨hfresh'.stack, hfresh'.paused, hfresh'.stopped⟩, fun hg' => ?_⟩
        exact absurd (hg.symm.trans hg') Bool.false_ne_true
      · exact hgrow hg hsound'
  · rw [hbox] at hsound
    split at hn
    · rename_i hh
      rw [Idle.handle_of_running k ok m hsound.running] at hh
      cases hh
    · rename_i c hh
      obtain rfl := Option.some.inj hn
      exact hgrow hg (hsound.handle hk hminds hh)

theorem Inv.next (hk : ∀ t cf, k.timeout (k.withTimeout t cf) = t) {e : WatcherEvent} (hinv : Inv k s)
    (hm : Minds k s e) (hn : Watcher.next k s e = some s') : Inv k s' := by
  cases e with
  | deliver ok => exact hinv.deliver hk hm hn
  | publish m =>
    obtain rfl := Option.some.inj hn
    exact hinv.announce rfl rfl rfl rfl rfl (.inl rfl)
  | acState old new =>
    obtain rfl := Option.some.inj hn
    exact hinv.announce rfl rfl rfl rfl rfl (.inr ⟨old, new, List.mem_singleton_self _⟩)
  | inhibitReq r =>
    obtain rfl := Option.some.inj hn
    exact hinv.announce rfl rfl rfl rfl rfl (.inl (inhibitNext_acState r _))
  | suspendReq r =>
    obtain rfl := Option.some.inj hn
    exact hinv.announce rfl rfl rfl rfl rfl (.inl (pmNext_acState r _))
  | delayedResume =>
    obtain rfl := Option.some.inj hn
    exact hinv.announce rfl rfl rfl rfl rfl (.inl (congrArg State.acState (pmDelayed_st _)))

/-- In every run whose messages find what they have to find, the client of a started watcher
with an empty mailbox runs exactly when the watcher is not paused. -/
theorem client_runs_iff_unpaused (x : IdleMod) {s : Watcher}
    (hs : (watcher x).ReachableBy (Minds x.conf) s) (hrun : Idle.Running s.loc) (hbox : s.box = []) :
    clientStarted s.calls = true ↔ s.loc.paused.isUnpaused = true := by
  have hinv : Inv x.conf s := by
    refine hs.invariant (I := Inv x.conf) ?_ ?_
    · rintro _ ⟨cf, rfl⟩
      exact .inl ⟨⟨rfl, rfl, rfl⟩, fun _ => rfl⟩
    · exact fun _ _ _ hinv hm hn => hinv.next x.timeout_withTimeout hm hn
  rcases hinv with ⟨hfresh, -⟩ | ⟨-, hsound⟩
  · -- a waiting watcher is not running
    have hstack : [IdleRecv.waitingAcstate] = pausedStack .paused s.loc.paused :=
      hfresh.stack.symm.trans hrun
    have hpaused : s.loc.paused = .unpaused := hfresh.paused
    rw [hpaused] at hstack
    cases hstack
  · refine ⟨hsound.quiet, fun hu => ?_⟩
    by_contra hstopped
    rcases hsound.stalled ⟨hu, Bool.eq_false_iff.mpr hstopped⟩ with ⟨_, _, hm⟩ | ⟨_, hm, -⟩
    · rw [hbox] at hm
      cases hm
    · rw [hbox] at hm
      cases hm

theorem minds_of_other {e : WatcherEvent} (he : ∀ ok, e ≠ .deliver ok) : Minds k s e :=
  fun ok _ _ h => absurd h (he ok)

theorem minds_deliver {ok : Bool} {m : Msg} {box : List Msg} (hbox : s.box = m :: box)
    (hm : Idle.Minds k s.ctx m box) : Minds k s (.deliver ok) := by
  intro _ m' box' _ hbox'
  cases hbox.symm.trans hbox'
  exact hm

/-- The watcher starts on AC, and then the session is suspended. -/
def suspendRunning : List WatcherEvent :=
  [.acState none .onAc, .deliver true, .suspendReq ⟨true, false⟩, .deliver true]

/-- DIMMER, with the default configuration: SUSPEND stops its client. -/
theorem client_runs_iff_unpaused_suspended :
    ∃ s, (watcher .dimmer).run (start .default) suspendRunning = some s ∧
      (clientStarted s.calls = true ↔ s.loc.paused.isUnpaused = true) := by
  have hrun : (watcher .dimmer).RunBy (Minds dimmerConf) (start .default) suspendRunning := by
    refine ⟨minds_of_other nofun, fun s₁ h₁ => ?_⟩
    obtain rfl := Option.some.inj h₁
    refine ⟨minds_deliver rfl ⟨?_, ?_, nofun⟩, fun s₂ h₂ => ?_⟩
    · intro _ _ _ _
      rfl
    · intro _ _ _ hon
      cases hon
    obtain rfl := Option.some.inj h₂
    refine ⟨minds_of_other nofun, fun s₃ h₃ => ?_⟩
    obtain rfl := Option.some.inj h₃
    -- SUSPEND_UPD does not lead to timeout_callback
    exact ⟨minds_deliver rfl ⟨nofun, nofun, nofun⟩, fun _ _ => trivial⟩
  exact ⟨_, rfl, client_runs_iff_unpaused .dimmer
    (Machine.ReachableBy.of_run _ (.init ⟨.default, rfl⟩) hrun rfl) rfl rfl⟩

/-- The AC cable is unplugged while the session is suspended: the client of a paused watcher is
started. -/
theorem paused_client_runs : ¬ ∀ (x : IdleMod) (s : Watcher), (watcher x).Reachable s →
    Idle.Running s.loc → s.box = [] →
      (clientStarted s.calls = true ↔ s.loc.paused.isUnpaused = true) := by
  intro h
  have hrun : ((watcher .dimmer).run (start .default)
      (suspendRunning ++ [.acState (some .onAc) .onBattery, .deliver true])).any
      (fun s => s.loc.stack = [.paused] && s.box.isEmpty && !s.loc.paused.isUnpaused &&
        clientStarted s.calls) = true := by decide +kernel
  obtain ⟨s, hs, hp⟩ := (Option.any_eq_true _ _).mp hrun
  simp only [Bool.and_eq_true, Bool.not_eq_true', decide_eq_true_eq, List.isEmpty_iff] at hp
  obtain ⟨⟨⟨hstack, hbox⟩, hpaused⟩, hstarted⟩ := hp
  have hrunning : Idle.Running s.loc := by
    unfold Idle.Running
    rw [hstack, pausedStack, hpaused]
    rfl
  have hreach : (watcher .dimmer).Reachable s :=
    Machine.reachable_of_run (s := start .default) ⟨.default, rfl⟩ hs
  have hu := (h .dimmer s hreach hrunning hbox).mp hstarted
  exact absurd (hpaused.symm.trans hu) Bool.false_ne_true

end Watcher
end Clight
