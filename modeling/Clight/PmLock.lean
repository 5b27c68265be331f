import Clight.Machine
import Mathlib.Data.BitVec

/-! The power-management side of the PM module (pm.c): the inhibition that it holds through
systemd or through the power manager, under every outcome of the bus calls. -/
namespace Clight

inductive InhApi | none | systemd | powerManagement
  deriving DecidableEq

/-- A descriptor as fcntl(F_DUPFD_CLOEXEC, 3) returns it when it does not fail. -/
structure DupFd where
  fd : ℕ
  min : 3 ≤ fd
  max : fd < 2^31

structure PmLock where
  /-- An unsigned int; -1 is "no inhibition". -/
  pmInhToken : BitVec 32
  inhApi : InhApi
  /-- state.pm_inhibited. -/
  pmInhibited : Bool

/-- PM_UPD. -/
structure PmUpd where
  old : Bool
  new : Bool
  deriving DecidableEq

/-- The outcomes of the calls that one message may take: Inhibit of systemd with the descriptor
in its reply and its copy, Inhibit of the power manager with its cookie, and UnInhibit. -/
structure LockReplies where
  systemd : Bool
  descriptor : Bool
  dup : Option DupFd
  manager : Bool
  cookie : Option (BitVec 32)
  unInhibit : Bool

namespace PmLock

def init : PmLock where
  pmInhToken := -1
  inhApi := .none
  pmInhibited := false

/-- The value that fcntl leaves in an unsigned int: -1 if it fails. -/
def fcntl : Option DupFd → BitVec 32
  | some d => BitVec.ofNat 32 d.fd
  | none => -1

/-- parse_bus_reply; the result tells whether the reply could be read. -/
def parseBusReply (r : LockReplies) (l : PmLock) : PmLock × Bool :=
  match l.inhApi with
  | .systemd => if r.descriptor then ({ l with pmInhToken := fcntl r.dup }, true) else (l, false)
  | .powerManagement => match r.cookie with
    | some u => ({ l with pmInhToken := u }, true)
    | none => (l, false)
  | .none => (l, false)

/-- call: a reply is parsed if there is one. -/
def call (answered : Bool) (r : LockReplies) (l : PmLock) : PmLock × Bool :=
  if answered then parseBusReply r l else (l, false)

def acquireSystemdLock (r : LockReplies) (l : PmLock) : PmLock × Bool :=
  let (l, ok) := call r.systemd r { l with inhApi := .systemd }
  if ok && 0#32 < l.pmInhToken then (l, true) else ({ l with inhApi := .none }, false)

def acquirePmLock (r : LockReplies) (l : PmLock) : PmLock × Bool :=
  let (l, ok) := call r.manager r { l with inhApi := .powerManagement }
  if ok then (l, true) else ({ l with inhApi := .none }, false)

def releaseLock (r : LockReplies) (l : PmLock) : PmLock × Bool :=
  match l.inhApi with
  | .systemd => ({ l with pmInhToken := -1 }, true)
  | .powerManagement => if r.unInhibit then ({ l with pmInhToken := -1 }, true) else (l, false)
  | .none => (l, false)

def publishPmMsg (old new : Bool) (l : PmLock) : PmLock × List PmUpd :=
  ({ l with pmInhibited := new }, [{ old := old, new := new }])

/-- `acquire_systemd_lock() || acquire_pm_lock()`. -/
def acquire (r : LockReplies) (l : PmLock) : PmLock × Bool :=
  let (l, ok) := acquireSystemdLock r l
  if ok then (l, true) else acquirePmLock r l

def onPmReq (r : LockReplies) (new : Bool) (l : PmLock) : PmLock × List PmUpd :=
  if new && l.pmInhToken = -1 then
    let (l, ok) := acquire r l
    if ok then publishPmMsg false true l else (l, [])
  else if !new && l.pmInhToken ≠ -1 then
    let (l, ok) := releaseLock r l
    if ok then
      let (l, upd) := publishPmMsg true false l
      ({ l with inhApi := .none }, upd)
    else (l, [])
  else (l, [])

def validatePm (l : PmLock) (new : Bool) : Bool := new != l.pmInhibited

end PmLock

/-- `loopStopped` is the end of the main loop, when PM gives up what it holds. -/
inductive PmLockEvent
  | pmReq (new : Bool) (r : LockReplies)
  | loopStopped (r : LockReplies)

namespace PmLock

def receive (l : PmLock) : PmLockEvent → PmLock × List PmUpd
  | .pmReq new r => if validatePm l new then onPmReq r new l else (l, [])
  | .loopStopped r => if l.pmInhToken ≠ -1 then onPmReq r false l else (l, [])

end PmLock

def pmLock : Machine PmLock PmLockEvent where
  init l := l = .init
  next l e := some (l.receive e).1

namespace PmLock
variable {l : PmLock} {r : LockReplies}

/-- An inhibition is held iff there is a token, and iff there is one who gave it. -/
structure Consistent (l : PmLock) : Prop where
  token : l.pmInhibited = true ↔ l.pmInhToken ≠ -1
  api : l.pmInhToken ≠ -1 ↔ l.inhApi ≠ .none

theorem consistent_init : Consistent init := ⟨by decide, by decide⟩

/-- Without a token there is nothing held. -/
theorem Consistent.free (h : Consistent l) (hfree : l.pmInhibited = false) : l = .init := by
  have htoken : l.pmInhToken = -1 := by
    by_contra hne
    rw [h.token.mpr hne] at hfree
    cases hfree
  have hapi : l.inhApi = .none := by
    by_contra hne
    exact h.api.mpr hne htoken
  obtain ⟨token, api, inhibited⟩ := l
  dsimp only at hfree htoken hapi
  rw [hfree, htoken, hapi]
  rfl

theorem fcntl_pos (d : Option DupFd) : 0#32 < fcntl d := by
  cases d with
  | none => decide
  | some d =>
    obtain ⟨fd, hmin, hmax⟩ := d
    have hfd : (BitVec.ofNat 32 fd).toNat = fd := by
      rw [BitVec.toNat_ofNat]
      exact Nat.mod_eq_of_lt (by omega)
    change 0 < (BitVec.ofNat 32 fd).toNat
    omega

/-- A descriptor that could be duplicated is told from -1. -/
theorem fcntl_eq_iff (d : Option DupFd) : fcntl d = -1 ↔ d = none := by
  cases d with
  | none => exact ⟨fun _ => rfl, fun _ => rfl⟩
  | some d =>
    obtain ⟨fd, hmin, hmax⟩ := d
    refine ⟨fun h => ?_, nofun⟩
    have hval := congrArg BitVec.toNat h
    have hfd : (BitVec.ofNat 32 fd).toNat = fd := by
      rw [BitVec.toNat_ofNat]
      exact Nat.mod_eq_of_lt (by omega)
    have hmarker : (-1 : BitVec 32).toNat = 2^32 - 1 := by decide
    rw [show fcntl (some ⟨fd, hmin, hmax⟩) = BitVec.ofNat 32 fd from rfl, hfd, hmarker] at hval
    omega

end PmLock

/-- What is acquired is not -1: the descriptor that systemd gives can be duplicated, and the
power manager, which is asked if systemd gives none, does not give 2^32 - 1 as its cookie. -/
def LockReplies.Usable (r : LockReplies) : Prop :=
  if r.systemd && r.descriptor then r.dup ≠ none else r.manager = true → r.cookie ≠ some (-1)

namespace PmLock
variable {l : PmLock} {r : LockReplies}

theorem acquireSystemdLock_init (r : LockReplies) : acquireSystemdLock r init =
    if r.systemd && r.descriptor then
      ({ init with inhApi := .systemd, pmInhToken := fcntl r.dup }, true)
    else (init, false) := by
  have hpos := fcntl_pos r.dup
  unfold acquireSystemdLock call parseBusReply
  cases r.systemd with
  | false => rfl
  | true =>
    cases r.descriptor with
    | false => rfl
    | true => exact if_pos (decide_eq_true hpos)

/-- An attempt to acquire the inhibition gives a token from one of the two, or changes nothing. -/
theorem acquire_init (r : LockReplies) :
    (acquire r init = (init, false) ∧ r.Usable) ∨
      ∃ token api, acquire r init = ({ init with inhApi := api, pmInhToken := token }, true) ∧
        api ≠ .none ∧ (token ≠ -1 ↔ r.Usable) := by
  unfold acquire LockReplies.Usable
  rw [acquireSystemdLock_init]
  by_cases hread : (r.systemd && r.descriptor) = true
  · right
    rw [if_pos hread, if_pos hread]
    exact ⟨fcntl r.dup, .systemd, rfl, nofun, not_congr (fcntl_eq_iff r.dup)⟩
  · rw [if_neg hread, if_neg hread]
    -- systemd gave nothing, the power manager is asked
    unfold acquirePmLock call parseBusReply
    cases hmanager : r.manager with
    | false => exact .inl ⟨rfl, nofun⟩
    | true =>
      cases hcookie : r.cookie with
      | none => exact .inl ⟨rfl, nofun⟩
      | some u =>
        right
        exact ⟨u, .powerManagement, rfl, nofun, by simp⟩

/-- What a message leaves, and what it publishes: a change of pm_inhibited that PM_UPD tells, or
nothing at all. -/
def Announced (l : PmLock) (res : PmLock × List PmUpd) : Prop :=
  res = (l, []) ∨ (res.1.pmInhibited = !l.pmInhibited ∧
    res.2 = [{ old := l.pmInhibited, new := res.1.pmInhibited }])

/-- A message acquires no token that is -1. -/
def Usable (l : PmLock) : PmLockEvent → Prop
  | .pmReq true r => l.pmInhibited = false → r.Usable
  | .pmReq false _ | .loopStopped _ => True

/-- What the power manager releases is freed if the call succeeds, what systemd gave in any case. -/
theorem Consistent.release (h : Consistent l) (hheld : l.pmInhibited = true) (r : LockReplies) :
    (r.unInhibit = false ∧ onPmReq r false l = (l, [])) ∨
      onPmReq r false l = (init, [{ old := true, new := false }]) := by
  have htoken := h.token.mp hheld
  unfold onPmReq releaseLock
  rw [if_neg (by simp), if_pos (by simpa using htoken)]
  cases hapi : l.inhApi with
  | none => exact absurd hapi (h.api.mp htoken)
  | systemd => exact .inr rfl
  | powerManagement =>
    cases r.unInhibit with
    | true => exact .inr rfl
    | false => exact .inl ⟨rfl, rfl⟩

/-- A later request releases what is held, if the bus calls go through. -/
theorem Consistent.released (h : Consistent l) (hheld : l.pmInhibited = true)
    (hcall : r.unInhibit = true) : (l.receive (.pmReq false r)).1 = init := by
  have hvalid : validatePm l false = true := by
    unfold validatePm
    rw [hheld]
    rfl
  have hreceive : l.receive (.pmReq false r) = onPmReq r false l := if_pos hvalid
  rw [hreceive]
  rcases h.release hheld r with ⟨hfailed, -⟩ | he
  · rw [hcall] at hfailed
    cases hfailed
  · rw [he]

/-- One message: it is announced as it should be, and it leaves PM consistent exactly when it
acquires no token that is -1. -/
theorem Consistent.receive (h : Consistent l) (e : PmLockEvent) :
    Announced l (l.receive e) ∧ (Consistent (l.receive e).1 ↔ Usable l e) := by
  have hstay : Announced l (l, []) ∧ Consistent l := ⟨.inl rfl, h⟩
  have hfreed : l.pmInhibited = true → ∀ r, Announced l (onPmReq r false l) ∧
      Consistent (onPmReq r false l).1 := by
    intro hheld r
    rcases h.release hheld r with ⟨-, he⟩ | he
    · rw [he]
      exact hstay
    · rw [he]
      refine ⟨.inr ⟨?_, ?_⟩, consistent_init⟩
      · rw [hheld]
        rfl
      · rw [hheld]
        rfl
  cases e with
  | loopStopped r =>
    have hok : Announced l (l.receive (.loopStopped r)) ∧
        Consistent (l.receive (.loopStopped r)).1 := by
      unfold PmLock.receive
      dsimp only
      split_ifs with htoken
      · exact hfreed (h.token.mpr htoken) r
      · exact hstay
    exact ⟨hok.1, fun _ => trivial, fun _ => hok.2⟩
  | pmReq new r =>
    cases new with
    | false =>
      have hok : Announced l (l.receive (.pmReq false r)) ∧
          Consistent (l.receive (.pmReq false r)).1 := by
        unfold PmLock.receive
        dsimp only
        split_ifs with hvalid
        · refine hfreed ?_ r
          unfold validatePm at hvalid
          simpa using hvalid
        · exact hstay
      exact ⟨hok.1, fun _ => trivial, fun _ => hok.2⟩
    | true =>
      cases hinhibited : l.pmInhibited with
      | true =>
        have hinvalid : validatePm l true = false := by
          unfold validatePm
          rw [hinhibited]
          rfl
        have hrejected : l.receive (.pmReq true r) = (l, []) := if_neg (by rw [hinvalid]; decide)
        rw [hrejected]
        refine ⟨hstay.1, fun _ hfree => ?_, fun _ => h⟩
        rw [hinhibited] at hfree
        cases hfree
      | false =>
        obtain rfl := h.free hinhibited
        have husable : Usable init (.pmReq true r) ↔ r.Usable := ⟨fun hu => hu rfl, fun hu _ => hu⟩
        have hreceive : init.receive (.pmReq true r) =
            if (acquire r init).2 then publishPmMsg false true (acquire r init).1
            else ((acquire r init).1, []) := rfl
        rw [husable, hreceive]
        rcases acquire_init r with ⟨he, hu⟩ | ⟨token, api, he, hapi, hu⟩
        · rw [he]
          exact ⟨.inl rfl, fun _ => hu, fun _ => consistent_init⟩
        · rw [he]
          refine ⟨.inr ⟨rfl, rfl⟩, ?_⟩
          rw [← hu]
          exact ⟨fun hc => hc.token.mp rfl, fun htoken => ⟨iff_of_true rfl htoken, iff_of_true htoken hapi⟩⟩

/-- In every run in which no message acquires a token that is -1, the inhibition, its token and
its giver agree after each message, each change is announced, a failure changes nothing and a
later request can release what is held; and a message that acquires such a token breaks this. -/
theorem pm_lock_consistent (hs : pmLock.ReachableBy Usable l) :
    Consistent l ∧ (∀ e, Announced l (l.receive e)) ∧
      (l.pmInhibited = true → ∀ r : LockReplies, r.unInhibit = true →
        (l.receive (.pmReq false r)).1 = init) ∧
      ∀ e, Consistent (l.receive e).1 ↔ Usable l e := by
  have h : Consistent l := by
    refine Machine.ReachableBy.invariant (I := Consistent) ?_ ?_ hs
    · rintro _ rfl
      exact consistent_init
    · intro s e s' hi hc hn
      obtain rfl := Option.some.inj hn
      exact (hi.receive e).2.mpr hc
  exact ⟨h, fun e => (h.receive e).1, fun hheld r hcall => h.released hheld hcall,
    fun e => (h.receive e).2⟩

/-- systemd gives a descriptor; `dup` is the outcome of copying it. -/
def fromSystemd (dup : Option DupFd) : LockReplies where
  systemd := true
  descriptor := true
  dup := dup
  manager := false
  cookie := none
  unInhibit := false

def descriptor : DupFd := { fd := 7, min := by decide, max := by decide }

theorem pm_lock_consistent_systemd : ∃ l,
    pmLock.run init [.pmReq true (fromSystemd (some descriptor))] = some l ∧
      l.pmInhibited = true ∧ Consistent l := by
  have hreach : pmLock.ReachableBy Usable
      (init.receive (.pmReq true (fromSystemd (some descriptor)))).1 := by
    refine .step (.init rfl) (e := .pmReq true (fromSystemd (some descriptor))) ?_ rfl
    intro _
    exact nofun
  exact ⟨_, rfl, by decide, (pm_lock_consistent hreach).1⟩

/-- fcntl fails: PM is inhibited without a token, and no request gives the inhibition up. -/
theorem pm_lock_stuck : (¬ ∀ l, pmLock.Reachable l → Consistent l) ∧
    ∃ l, pmLock.Reachable l ∧ l.pmInhibited = true ∧ ∀ r, (l.receive (.pmReq false r)).1 = l := by
  have hreach : pmLock.Reachable (init.receive (.pmReq true (fromSystemd none))).1 :=
    .step (.init rfl) trivial rfl
  have htoken : (init.receive (.pmReq true (fromSystemd none))).1 =
      { pmInhToken := -1, inhApi := .systemd, pmInhibited := true } := rfl
  rw [htoken] at hreach
  refine ⟨fun h => ?_, _, hreach, rfl, fun r => rfl⟩
  exact (h _ hreach).token.mp rfl rfl

end PmLock
end Clight
