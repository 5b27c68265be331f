import Clight.HeldFlags
import Clight.PmLock

/-! How PM follows INHIBIT: under InhibitPM each INHIBIT_UPD makes PM ask itself for what
state.inhibited tells then, and PM acts once that request has come round its own mailbox. -/
namespace Clight

/-- What PM receives of it. -/
inductive PmMsg
  | inhibitUpd
  | pmReq (new : Bool)
  deriving DecidableEq

def Msg.toPm : Msg → Option PmMsg
  | .inhibitUpd _ _ => some .inhibitUpd
  | _ => none

/-- INHIBIT's counter, PM's mailbox and the inhibition that PM holds. -/
structure InhibitedPm where
  inhibitionCtr : ℤ
  st : State
  cf : Conf
  box : List PmMsg
  lock : PmLock

/-- `deliver` has the outcomes of the bus calls that the message takes. -/
inductive InhibitedPmEvent
  | inhibitReq (r : FlagReq)
  | deliver (r : LockReplies)
  | inhibitPm (new : Bool)

namespace InhibitedPm

def ctx (s : InhibitedPm) : InhibitCtx :=
  { loc := s.inhibitionCtr, st := s.st, cf := s.cf, out := [], calls := [] }

def onInhibitReq (r : FlagReq) (s : InhibitedPm) : InhibitedPm :=
  let c := Inhibit.onInhibitReq r.new r.force s.ctx
  { s with inhibitionCtr := c.loc, st := c.st, cf := c.cf, box := s.box ++ c.out.filterMap Msg.toPm }

/-- receive of PM. -/
def receive (r : LockReplies) (s : InhibitedPm) : PmMsg → InhibitedPm
  | .inhibitUpd =>
    if s.cf.inh.inhibitPm then { s with box := s.box ++ [.pmReq s.st.inhibited] } else s
  | .pmReq new => { s with lock := (s.lock.receive (.pmReq new r)).1 }

def next (s : InhibitedPm) : InhibitedPmEvent → Option InhibitedPm
  | .inhibitReq r => some (onInhibitReq r s)
  | .deliver r => match s.box with
    | [] => none
    | m :: box => some (receive r { s with box := box } m)
  | .inhibitPm new => some { s with cf := { s.cf with inh := { s.cf.inh with inhibitPm := new } } }

structure Init (s : InhibitedPm) : Prop where
  inhibitionCtr : s.inhibitionCtr = 0
  st : s.st = initState s.cf
  box : s.box = []
  lock : s.lock = .init

end InhibitedPm

def inhibitedPm : Machine InhibitedPm InhibitedPmEvent where
  init := InhibitedPm.Init
  next := InhibitedPm.next

/-- systemd or else the power manager gives a token that is told from -1. -/
def LockReplies.Granted (r : LockReplies) : Prop :=
  if r.systemd && r.descriptor then r.dup ≠ none
  else r.manager = true ∧ r.cookie.isSome = true ∧ r.cookie ≠ some (-1)

instance (r : LockReplies) : Decidable r.Granted := by
  unfold LockReplies.Granted
  infer_instance

namespace PmLock
variable {l : PmLock} {r : LockReplies}

/-- The calls that a request takes succeed. -/
def Obliged (l : PmLock) (r : LockReplies) : Bool → Prop
  | true => l.pmInhibited = false → r.Granted
  | false => l.inhApi = .powerManagement → r.unInhibit = true

instance (l : PmLock) (r : LockReplies) : ∀ new, Decidable (Obliged l r new)
  | true => inferInstanceAs (Decidable (l.pmInhibited = false → r.Granted))
  | false => inferInstanceAs (Decidable (l.inhApi = .powerManagement → r.unInhibit = true))

theorem acquire_granted (h : r.Granted) : ∃ token api,
    acquire r init = ({ init with inhApi := api, pmInhToken := token }, true) ∧
      api ≠ .none ∧ token ≠ -1 := by
  unfold acquire
  unfold LockReplies.Granted at h
  rw [acquireSystemdLock_init]
  by_cases hread : (r.systemd && r.descriptor) = true
  · rw [if_pos hread] at h ⊢
    exact ⟨fcntl r.dup, .systemd, rfl, nofun, fun hfail => h ((fcntl_eq_iff r.dup).mp hfail)⟩
  · rw [if_neg hread] at h ⊢
    obtain ⟨hmanager, hcookie, hu⟩ := h
    obtain ⟨u, hcookie⟩ := Option.isSome_iff_exists.mp hcookie
    refine ⟨u, .powerManagement, ?_, nofun, ?_⟩
    · unfold acquirePmLock call parseBusReply
      simp [hmanager, hcookie]
    · rintro rfl
      exact hu hcookie

/-- What is held is given up, unless the power manager refuses. -/
theorem Consistent.given_up (h : Consistent l) (hheld : l.pmInhibited = true)
    (hcall : l.inhApi = .powerManagement → r.unInhibit = true) : (onPmReq r false l).1 = init := by
  have htoken := h.token.mp hheld
  unfold onPmReq releaseLock
  rw [if_neg (by simp), if_pos (by simpa using htoken)]
  cases hapi : l.inhApi with
  | none => exact absurd hapi (h.api.mp htoken)
  | systemd => rfl
  | powerManagement =>
    rw [hcall hapi]
    rfl

/-- A request that is obliged leaves what it asked for. -/
theorem Consistent.obliged (h : Consistent l) {new : Bool} (hr : l.Obliged r new) :
    Consistent (l.receive (.pmReq new r)).1 ∧ (l.receive (.pmReq new r)).1.pmInhibited = new := by
  by_cases hsame : new = l.pmInhibited
  · have hinvalid : validatePm l new = false := by simp [validatePm, hsame]
    have hrejected : l.receive (.pmReq new r) = (l, []) := if_neg (by rw [hinvalid]; decide)
    rw [hrejected]
    exact ⟨h, hsame.symm⟩
  · have hvalid : validatePm l new = true := by simp [validatePm, hsame]
    have haccepted : l.receive (.pmReq new r) = onPmReq r new l := if_pos hvalid
    rw [haccepted]
    cases new with
    | true =>
      have hfree : l.pmInhibited = false := by simpa using Ne.symm hsame
      have hgranted := hr hfree
      obtain rfl := h.free hfree
      obtain ⟨token, api, he, hapi, htoken⟩ := acquire_granted hgranted
      have hreq : onPmReq r true init =
          if (acquire r init).2 then publishPmMsg false true (acquire r init).1
          else ((acquire r init).1, []) := rfl
      rw [hreq, he]
      exact ⟨⟨iff_of_true rfl htoken, iff_of_true htoken hapi⟩, rfl⟩
    | false =>
      have hheld : l.pmInhibited = true := by simpa using Ne.symm hsame
      rw [h.given_up hheld hr]
      exact ⟨consistent_init, rfl⟩

end PmLock

namespace InhibitedPm
variable {s : InhibitedPm}

/-- InhibitPM is on when PM receives an INHIBIT_UPD, and the calls of its requests succeed. -/
def Followed (s : InhibitedPm) : InhibitedPmEvent → Prop
  | .deliver r => match s.box.head? with
    | some .inhibitUpd => s.cf.inh.inhibitPm = true
    | some (.pmReq new) => s.lock.Obliged r new
    | none => True
  | _ => True

instance (s : InhibitedPm) : ∀ e, Decidable (Followed s e)
  | .deliver _ => by
    unfold Followed
    dsimp only
    split <;> infer_instance
  | .inhibitReq _ | .inhibitPm _ => isTrue trivial

/-- What PM is asked for last, once its mailbox is empty. -/
def asked (held : Bool) (box : List PmMsg) : Bool :=
  box.foldl (fun held m => match m with | .inhibitUpd => held | .pmReq new => new) held

/-- PM is told that it has to look, or what is asked of it is what it would see. -/
structure Inv (s : InhibitedPm) : Prop where
  counts : ∃ n, (Inhibit.counted s.ctx).Counts n
  lock : s.lock.Consistent
  follows : .inhibitUpd ∈ s.box ∨ asked s.lock.pmInhibited s.box = s.st.inhibited

theorem Inv.init (h : Init s) : Inv s where
  counts := ⟨0, h.inhibitionCtr, by change s.st.inhibited = false; rw [h.st]; rfl⟩
  lock := by
    rw [h.lock]
    exact PmLock.consistent_init
  follows := by
    right
    rw [h.box, h.lock, h.st]
    rfl

/-- INHIBIT tells PM of each change. -/
theorem onInhibitReq_box (r : FlagReq) (s : InhibitedPm) :
    (onInhibitReq r s).box = s.box ∧ (onInhibitReq r s).st.inhibited = s.st.inhibited ∨
      .inhibitUpd ∈ (onInhibitReq r s).box := by
  have heq := Inhibit.onInhibitReq_eq r s.ctx
  unfold onInhibitReq
  dsimp only
  rw [heq]
  split_ifs with hsame
  · left
    exact ⟨List.append_nil _, hsame⟩
  · right
    exact List.mem_append_right _ (List.mem_singleton_self _)

theorem Inv.onInhibitReq (h : Inv s) (r : FlagReq) : Inv (s.onInhibitReq r) where
  counts := by
    obtain ⟨n, hn⟩ := h.counts
    have hstep := hn.handle r
    rw [← Inhibit.counted_onInhibitReq] at hstep
    exact ⟨r.refs n, hstep⟩
  lock := h.lock
  follows := by
    rcases onInhibitReq_box r s with ⟨hbox, hflag⟩ | hbox
    · rw [hbox, hflag]
      exact h.follows
    · exact .inl hbox

/-- PM looks at state.inhibited. -/
theorem Inv.inhibitUpd (h : Inv s) (box : List PmMsg) :
    Inv { s with box := box ++ [.pmReq s.st.inhibited] } where
  counts := h.counts
  lock := h.lock
  follows := by
    right
    unfold asked
    dsimp only
    rw [List.foldl_append]
    rfl

/-- PM acts on the oldest request. -/
theorem Inv.pmReq {new : Bool} {box : List PmMsg} {r : LockReplies} (h : Inv s)
    (hbox : s.box = .pmReq new :: box) (hr : s.lock.Obliged r new) :
    Inv { s with box := box, lock := (s.lock.receive (.pmReq new r)).1 } where
  counts := h.counts
  lock := (h.lock.obliged hr).1
  follows := by
    have hfollows := h.follows
    dsimp only
    rw [(h.lock.obliged hr).2]
    rw [hbox, List.mem_cons] at hfollows
    rcases hfollows with (hne | hmem) | hasked
    · cases hne
    · exact .inl hmem
    · exact .inr hasked

theorem Inv.step {s' : InhibitedPm} {e : InhibitedPmEvent} (h : Inv s) (he : Followed s e)
    (hn : inhibitedPm.next s e = some s') : Inv s' := by
  cases e with
  | inhibitReq r =>
    obtain rfl := Option.some.inj hn
    exact h.onInhibitReq r
  | inhibitPm new =>
    obtain rfl := Option.some.inj hn
    exact ⟨h.counts, h.lock, h.follows⟩
  | deliver r =>
    obtain ⟨ctr, st, cf, box, lock⟩ := s
    cases box with
    | nil => cases hn
    | cons m box =>
      obtain rfl := Option.some.inj hn
      cases m with
      | inhibitUpd =>
        have hon : cf.inh.inhibitPm = true := he
        unfold receive
        rw [if_pos hon]
        exact h.inhibitUpd box
      | pmReq new => exact h.pmReq rfl he

end InhibitedPm

/-- Whatever INHIBIT is asked for while PM still works on older changes, PM holds an idle
inhibition, once it has received everything, exactly if something inhibits Clight; and it gives
that up when Clight leaves. -/
theorem pm_follows_inhibit {s : InhibitedPm} (hs : inhibitedPm.ReachableBy InhibitedPm.Followed s)
    (hbox : s.box = []) :
    s.lock.pmInhibited = s.st.inhibited ∧
      (s.lock.pmInhToken ≠ -1 ↔ 0 < s.inhibitionCtr) ∧
      ∀ r, s.lock.Obliged r false → (s.lock.receive (.loopStopped r)).1 = .init := by
  have h : InhibitedPm.Inv s :=
    hs.invariant (fun _ => InhibitedPm.Inv.init) fun _ _ _ h he hn => h.step he hn
  obtain ⟨n, hcounts⟩ := h.counts
  have hfollows : s.lock.pmInhibited = s.st.inhibited := by
    rcases h.follows with hmem | hasked
    · rw [hbox] at hmem
      cases hmem
    · rw [hbox] at hasked
      exact hasked
  refine ⟨hfollows, ?_, ?_⟩
  · rw [← h.lock.token, hfollows]
    exact hcounts.flag_iff
  · intro r hr
    unfold PmLock.receive
    dsimp only
    split_ifs with htoken
    · exact h.lock.given_up (h.lock.token.mpr htoken) hr
    · apply h.lock.free
      rw [Bool.eq_false_iff]
      intro hheld
      exact htoken (h.lock.token.mp hheld)

def InhibitedPm.start (cf : Conf) : InhibitedPm :=
  { inhibitionCtr := 0, st := initState cf, cf := cf, box := [], lock := .init }

/-- Inhibited and released before PM has acted on the first change, and inhibited again. -/
theorem pm_follows_inhibit_late : ∃ s, inhibitedPm.run (InhibitedPm.start .default)
      [.inhibitPm true, .inhibitReq ⟨true, false⟩, .deliver (PmLock.fromSystemd (some PmLock.descriptor)),
        .inhibitReq ⟨false, false⟩, .deliver (PmLock.fromSystemd (some PmLock.descriptor)),
        .inhibitReq ⟨true, false⟩, .deliver (PmLock.fromSystemd none), .deliver (PmLock.fromSystemd none),
        .deliver (PmLock.fromSystemd none), .deliver (PmLock.fromSystemd none)] = some s ∧
      s.lock.pmInhibited = s.st.inhibited ∧
      (s.lock.pmInhToken ≠ -1 ↔ 0 < s.inhibitionCtr) ∧
      ∀ r, s.lock.Obliged r false → (s.lock.receive (.loopStopped r)).1 = .init := by
  have hinit : inhibitedPm.init (InhibitedPm.start .default) := ⟨rfl, rfl, rfl, rfl⟩
  exact ⟨_, rfl, pm_follows_inhibit (.of_run
    [.inhibitPm true, .inhibitReq ⟨true, false⟩, .deliver (PmLock.fromSystemd (some PmLock.descriptor)),
      .inhibitReq ⟨false, false⟩, .deliver (PmLock.fromSystemd (some PmLock.descriptor)),
      .inhibitReq ⟨true, false⟩, .deliver (PmLock.fromSystemd none), .deliver (PmLock.fromSystemd none),
      .deliver (PmLock.fromSystemd none), .deliver (PmLock.fromSystemd none)]
    (.init hinit) (by decide) rfl) rfl⟩

end Clight
