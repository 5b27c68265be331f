import Clight.HeldFlags
import Clight.History
import Clight.InhibitRuns
import Clight.Upower

/-! The dock and the applications as users of one inhibition. UPOWER publishes at each change of
the lid whether the laptop is docked; INHIBIT counts what it receives as grabs and releases. -/
namespace Clight

/-! ### The applications -/

/-- Each application holds a lock with as many references as it is owed, and nobody else
holds one. -/
structure Apps (s : Held) : Prop where
  clight : s.locks.lockMap.lookup .clight = none
  refs : ∀ name l, s.locks.lockMap.lookup (.client name) = some l →
    l.refs = s.owed name ∧ 0 < s.owed name
  free : ∀ name, s.locks.lockMap.lookup (.client name) = none → s.owed name = 0

/-- Applications grab and release; Clight's own lock, with its forced release, is not used. -/
def LockEvent.fromApp : LockEvent → Bool
  | .clightInhibit _ _ _ => false
  | _ => true

/-- The requests of applications take their count from `p` to `a`, and release only what
is counted. -/
def Balances (p : ℕ) : List Msg → ℕ → Prop
  | [], a => p = a
  | .inhibitReq true _ :: ms, a => Balances (p + 1) ms a
  | .inhibitReq false force :: ms, a => force = false ∧ 1 ≤ p ∧ Balances (p - 1) ms a
  | _ :: ms, a => Balances p ms a

theorem Balances.append {p a b : ℕ} {ms ms' : List Msg} (h : Balances p ms a)
    (h' : Balances a ms' b) : Balances p (ms ++ ms') b := by
  induction ms generalizing p with
  | nil =>
    have hp : p = a := h
    rw [hp]
    exact h'
  | cons m ms ih =>
    cases m with
    | inhibitReq new force =>
      cases new with
      | true => exact ih h
      | false =>
        obtain ⟨hforce, hpos, hrest⟩ := h
        exact ⟨hforce, hpos, ih hrest⟩
    | _ => exact ih h

namespace Apps
variable {s : Held} {name : String} {l l₀ : Lock}

/-- The number of applications that hold a lock. -/
def holders (s : Held) : ℕ := s.locks.lockMap.keys.length

theorem holders_pos_iff (h : Apps s) : 0 < holders s ↔ ∃ name, 0 < s.owed name := by
  constructor
  · intro hpos
    obtain ⟨k, hk⟩ := List.exists_mem_of_length_pos hpos
    obtain ⟨l, hl⟩ := Option.isSome_iff_exists.mp (AList.lookup_isSome.mpr (AList.mem_keys.mpr hk))
    cases k with
    | clight =>
      rw [h.clight] at hl
      cases hl
    | client name => exact ⟨name, (h.refs name l hl).2⟩
  · rintro ⟨name, hpos⟩
    have hsome : s.locks.lockMap.lookup (.client name) ≠ none := by
      intro hnone
      rw [h.free name hnone] at hpos
      exact lt_irrefl 0 hpos
    have hk := AList.lookup_isSome.mp (Option.isSome_iff_ne_none.mpr hsome)
    exact List.length_pos_of_mem (AList.mem_keys.mp hk)

theorem init : Apps { locks := .init, owed := fun _ => 0 } where
  clight := rfl
  refs _ _ h := by cases h
  free _ _ := rfl

/-- A lock of an application is written. -/
theorem insert (h : Apps s) {t : Locks} {n : ℕ} (hn : 0 < n) (hl : l.refs = n)
    (ht : t.lockMap = s.locks.lockMap.insert (.client name) l) :
    Apps { locks := t, owed := Function.update s.owed name n } where
  clight := by
    have hne : LockKey.clight ≠ .client name := nofun
    dsimp only
    rw [ht, AList.lookup_insert_ne hne]
    exact h.clight
  refs name' l' hl' := by
    dsimp only at hl' ⊢
    rw [ht] at hl'
    by_cases hname : name' = name
    · subst hname
      rw [AList.lookup_insert] at hl'
      obtain rfl := Option.some.inj hl'
      rw [Function.update_self]
      exact ⟨hl, hn⟩
    · rw [AList.lookup_insert_ne (by simpa using hname)] at hl'
      rw [Function.update_of_ne hname]
      exact h.refs name' l' hl'
  free name' hl' := by
    dsimp only at hl' ⊢
    rw [ht] at hl'
    by_cases hname : name' = name
    · subst hname
      rw [AList.lookup_insert] at hl'
      cases hl'
    · rw [AList.lookup_insert_ne (by simpa using hname)] at hl'
      rw [Function.update_of_ne hname]
      exact h.free name' hl'

/-- The lock of an application goes. -/
theorem erase (h : Apps s) {t : Locks}
    (ht : t.lockMap = (s.locks.lockMap.insert (.client name) l₀).erase (.client name)) :
    Apps { locks := t, owed := Function.update s.owed name 0 } where
  clight := by
    have hne : LockKey.clight ≠ .client name := nofun
    dsimp only
    rw [ht, Locks.lookup_insert_erase, if_neg hne]
    exact h.clight
  refs name' l' hl' := by
    dsimp only at hl' ⊢
    rw [ht, Locks.lookup_insert_erase] at hl'
    split_ifs at hl' with hkey
    have hname : name' ≠ name := fun he => hkey (congrArg LockKey.client he)
    rw [Function.update_of_ne hname]
    exact h.refs name' l' hl'
  free name' hl' := by
    dsimp only at hl' ⊢
    rw [ht, Locks.lookup_insert_erase] at hl'
    by_cases hname : name' = name
    · subst hname
      exact Function.update_self ..
    · rw [if_neg (by simpa using hname)] at hl'
      rw [Function.update_of_ne hname]
      exact h.free name' hl'

/-- What a call of an application leaves: its effect on the count is what it publishes. -/
structure Called (s : Held) (r : Held × List Msg) : Prop where
  apps : Apps r.1
  balances : Balances (holders s) r.2 (holders r.1)

/-- A call that fails. -/
theorem Called.refl (h : Apps s) : Called s (s, []) := ⟨h, rfl⟩

theorem createInhibit (h : Apps s) {rand cookie : ℤ} {alloc : Bool} {t : Locks} {ms : List Msg}
    (hc : s.locks.createInhibit 0 (.client name) rand alloc = some (cookie, t, ms)) :
    Called s ({ locks := t, owed := Function.update s.owed name (s.owed name + 1) }, ms) := by
  rcases Locks.createInhibit_cases hc with ⟨l, hl, -, rfl, ht⟩ | ⟨hl, -, rfl, ht⟩
  · have hrefs := (h.refs name l hl).1
    refine ⟨h.insert (by omega) ?_ ht, ?_⟩
    · change l.refs + 1 = ((s.owed name + 1 : ℕ) : ℤ)
      omega
    · change holders s = t.lockMap.keys.length
      rw [ht, Locks.length_keys_insert_old _ hl]
      rfl
  · have hfree := h.free name hl
    refine ⟨h.insert (by omega) ?_ ht, ?_⟩
    · change (1 : ℤ) = ((s.owed name + 1 : ℕ) : ℤ)
      omega
    · change holders s + 1 = t.lockMap.keys.length
      rw [ht, Locks.length_keys_insert_new _ hl]
      rfl

/-- An application drops a lock of its own: by UnInhibit, or (`force`) as it disconnects. -/
theorem dropInhibit (h : Apps s) {cookie : Option ℤ} {force : Bool} {t : Locks} {ms : List Msg}
    (hd : s.locks.dropInhibit cookie (.client name) force = some (t, ms))
    (hown : ∀ k l, s.locks.findLock cookie (.client name) = some (k, l) → k = .client name) :
    Called s ({ locks := t
                owed := Function.update s.owed name (if force then 0 else s.owed name - 1) }, ms) := by
  obtain ⟨k, l, hf, hcase⟩ := Locks.dropInhibit_cases hd
  obtain rfl := hown k l hf
  have hl : s.locks.lockMap.lookup (.client name) = some l := (Locks.findLock_some hf).1
  obtain ⟨hrefs, hpos⟩ := h.refs name l hl
  rcases hcase with ⟨hz, rfl, ht⟩ | ⟨hz, rfl, rfl, ht⟩
  · -- its last reference
    have hzero : (if force then 0 else s.owed name - 1) = 0 := by
      split_ifs at hz ⊢
      · rfl
      · omega
    have hlen := Locks.length_keys_insert_erase { l with refs := 0 } hl
    have hholders : holders s = t.lockMap.keys.length + 1 := by
      rw [ht, hlen]
      rfl
    have hforce : decide (LockKey.client name = .clight) = false := rfl
    rw [hzero]
    refine ⟨h.erase ht, ?_⟩
    change decide (LockKey.client name = .clight) = false ∧ 1 ≤ holders s ∧
      holders s - 1 = t.lockMap.keys.length
    exact ⟨hforce, by omega, by omega⟩
  · simp only [Bool.false_eq_true, if_false] at hz ⊢
    refine ⟨h.insert (by omega) ?_ ht, ?_⟩
    · change l.refs - 1 = ((s.owed name - 1 : ℕ) : ℤ)
      omega
    · change holders s = t.lockMap.keys.length
      rw [ht, Locks.length_keys_insert_old _ hl]
      rfl

/-- Each event of an application that only releases what it acquired. -/
theorem step (h : Apps s) {e : LockEvent} (happ : e.fromApp = true) (hown : s.OwnCookie e)
    {r : Held × List Msg} (hn : s.next e = some r) : Called s r := by
  obtain ⟨⟨t, ms⟩, ht, rfl⟩ := Option.map_eq_some_iff.mp hn
  change Called s ({ locks := t, owed := s.owedAfter e }, ms)
  cases e <;> simp only [Locks.next] at ht <;> simp only [Held.owedAfter]
  case inhibit name rand alloc =>
    rcases Locks.create_called ht with ⟨hc, hsame⟩ | ⟨cookie, hc⟩
    · obtain ⟨rfl, rfl⟩ := hsame
      rw [hc]
      exact .refl h
    · rw [hc]
      exact h.createInhibit hc
  case unInhibit name cookie =>
    rcases Locks.drop_called ht with ⟨hd, hsame⟩ | hd
    · obtain ⟨rfl, rfl⟩ := hsame
      rw [hd]
      exact .refl h
    · rw [hd]
      exact h.dropInhibit hd fun k l hf => Held.OwnCookie.key_eq hown hf
  case unInhibitObserved name =>
    rcases Locks.drop_called ht with ⟨hd, hsame⟩ | hd
    · obtain ⟨rfl, rfl⟩ := hsame
      rw [hd]
      exact .refl h
    · rw [hd]
      exact h.dropInhibit hd fun k l hf => (Locks.findLock_none hf).1
  case clightInhibit inhibit rand alloc => cases happ
  case disconnect name =>
    split_ifs at ht with hlisten hmem
    · obtain ⟨l, hl⟩ := Option.isSome_iff_exists.mp (AList.lookup_isSome.mpr hmem)
      rcases Locks.drop_called ht with ⟨hd, -⟩ | hd
      · have hf := Locks.dropInhibit_eq_none.mp hd
        rw [Locks.findLock_own hl] at hf
        cases hf
      · exact h.dropInhibit hd fun k l hf => (Locks.findLock_none hf).1
    · -- an application without a lock is owed nothing
      obtain ⟨rfl, rfl⟩ := Option.some.inj ht
      rw [← h.free name (AList.lookup_eq_none.mpr hmem), Function.update_eq_self]
      exact .refl h

end Apps

/-! ### UPOWER -/

def isInhibitReq : Msg → Bool
  | .inhibitReq _ _ | .inhibitReqStatic => true
  | _ => false

theorem Balances.filter {p a : ℕ} {ms : List Msg} (h : Balances p ms a) :
    Balances p (ms.filter isInhibitReq) a := by
  induction ms generalizing p with
  | nil => exact h
  | cons m ms ih =>
    cases m with
    | inhibitReq new force =>
      cases new with
      | true => exact ih h
      | false =>
        obtain ⟨hforce, hpos, hrest⟩ := h
        exact ⟨hforce, hpos, ih hrest⟩
    | _ => exact ih h

namespace Upower

/-- What a step of UPOWER is to INHIBIT: `change` is the dock at a change of the lid. -/
structure Tells (change : Option Bool) (c c' : UpowerCtx) : Prop where
  request : c'.loc.inhReq = change.getD c.loc.inhReq
  out : c'.out.filter isInhibitReq =
    c.out.filter isInhibitReq ++ if change.isSome then [.inhibitReqStatic] else []
  inhibited : c'.st.inhibited = c.st.inhibited

theorem Tells.refl (c : UpowerCtx) : Tells none c c := ⟨rfl, (List.append_nil _).symm, rfl⟩

theorem tells_checkBattery (r : UpowerReplies) (c : UpowerCtx) : Tells none c (checkBattery r c) := by
  unfold checkBattery
  split
  · split_ifs
    · refine ⟨rfl, ?_, rfl⟩
      simp [publishUpower, Ctx.publish, isInhibitReq]
    · exact .refl c
  · exact .refl c

theorem checkBattery_kept (r : UpowerReplies) (c : UpowerCtx) :
    (checkBattery r c).st = c.st ∧ (checkBattery r c).cf = c.cf := by
  unfold checkBattery
  split
  · split_ifs <;> exact ⟨rfl, rfl⟩
  · exact ⟨rfl, rfl⟩

/-- The dock that a check of the lid reads, if the lid has changed. -/
def lidChange (st : State) (r : UpowerReplies) : Option Bool :=
  if lidChanged st r then some (isDocked r) else none

theorem tells_onUpowerChange (r : UpowerReplies) {c : UpowerCtx} (hd : c.cf.inh.inhibitDocked = true) :
    Tells (lidChange c.st r) c (onUpowerChange r c) := by
  obtain ⟨hst, hcf⟩ := checkBattery_kept r c
  have hbatt := tells_checkBattery r c
  unfold onUpowerChange checkLid lidChange
  rw [hst, hcf, hd]
  by_cases hl : lidChanged c.st r = true
  · rw [if_pos hl, if_pos hl, if_pos rfl]
    refine ⟨rfl, ?_, hbatt.inhibited⟩
    have hout := hbatt.out
    simp only [Option.isSome_none, Bool.false_eq_true, if_false, List.append_nil] at hout
    simp only [publishLid, publishInh, Ctx.publish, List.filter_append, hout, List.append_assoc]
    rfl
  · rw [if_neg hl, if_neg hl]
    exact hbatt

/-- A request that is announced, or discarded. -/
theorem tells_announced {c : UpowerCtx} {m : Msg} {st : State} {ok : Bool} (hm : isInhibitReq m = false)
    (hst : st.inhibited = c.st.inhibited) :
    Tells none c (if ok then { Ctx.publish m c with st := st } else c) := by
  cases ok with
  | true =>
    refine ⟨rfl, ?_, hst⟩
    simp [Ctx.publish, hm]
  | false => exact .refl c

theorem tells_onUpowerReq (new : ℤ) (c : UpowerCtx) : Tells none c (onUpowerReq new c) := by
  unfold onUpowerReq
  split
  · exact tells_announced rfl rfl
  · exact .refl c

theorem tells_onLidReq (new : ℤ) (c : UpowerCtx) : Tells none c (onLidReq new c) := by
  unfold onLidReq
  split
  · exact tells_announced rfl rfl
  · exact .refl c

/-- The dock that a message leads UPOWER to read, if the lid has changed. -/
def receiveChange (ping : Bool) (r : UpowerReplies) (m : Msg) (st : State) : Option Bool :=
  match m with
  | .systemUpd .loopStarted => if ping then lidChange st r else none
  | _ => none

theorem tells_onLoopStarted (ping matched : Bool) (r : UpowerReplies) {c : UpowerCtx}
    (hd : c.cf.inh.inhibitDocked = true) :
    Tells (if ping then lidChange c.st r else none) c (onLoopStarted ping matched r c) := by
  have hchange : Tells (if ping then lidChange c.st r else none) c
      (if ping then onUpowerChange r c else c) := by
    cases ping with
    | true => exact tells_onUpowerChange r hd
    | false => exact .refl c
  unfold onLoopStarted
  generalize (if ping then onUpowerChange r c else c) = c₁ at hchange
  by_cases hok : (ping && matched) = true
  · rw [if_pos hok]
    exact ⟨hchange.request, hchange.out, hchange.inhibited⟩
  · rw [if_neg hok]
    refine ⟨hchange.request, ?_, hchange.inhibited⟩
    rw [← hchange.out]
    simp [Ctx.publish, lidMsg, isInhibitReq]

theorem tells_receive (ping matched : Bool) (r : UpowerReplies) (m : Msg) {c : UpowerCtx}
    (hd : c.cf.inh.inhibitDocked = true) :
    Tells (receiveChange ping r m c.st) c (receive ping matched r m c) := by
  cases m with
  | systemUpd sm =>
    cases sm with
    | loopStarted => exact tells_onLoopStarted ping matched r hd
    | _ => exact .refl c
  | upowerReq new => exact tells_onUpowerReq new c
  | upowerReqStatic => exact tells_onUpowerReq c.loc.upowerReq c
  | lidReq new => exact tells_onLidReq new c
  | lidReqStatic => exact tells_onLidReq c.loc.lidReq c
  | _ => exact .refl c

end Upower

/-! ### UPOWER, INTERFACE and INHIBIT -/

structure Docking where
  upower : Upower
  held : Held
  inhibitions : ℤ
  st : State
  cf : Conf
  upBox : List Msg
  inhBox : List Msg

/-- `upowerChange` is a signal of UPower, `app` a call of an application. -/
inductive DockingEvent
  | upowerChange (r : UpowerReplies)
  | app (e : LockEvent)
  | deliverUpower (ping matched : Bool) (r : UpowerReplies)
  | deliverInhibit

namespace Docking

def publish (ms : List Msg) (s : Docking) : Docking :=
  { s with
    upBox := if s.upower.gone then [] else s.upBox ++ ms.filter Upower.subscribes
    inhBox := s.inhBox ++ ms.filter isInhibitReq }

def upCtx (s : Docking) : UpowerCtx :=
  { loc := s.upower, st := s.st, cf := s.cf, out := [], calls := [] }

def inhCtx (s : Docking) : InhibitCtx :=
  { loc := s.inhibitions, st := s.st, cf := s.cf, out := [], calls := [] }

def onUpower (f : UpowerCtx → UpowerCtx) (s : Docking) : Docking :=
  let c := f s.upCtx
  publish c.out { s with upower := c.loc, st := c.st }

/-- UPOWER's static request holds what it holds when it is received. -/
def resolve (s : Docking) : Msg → Msg
  | .inhibitReqStatic => .inhibitReq s.upower.inhReq false
  | m => m

def next (s : Docking) : DockingEvent → Option Docking
  | .upowerChange r =>
    if s.upower.listening then some (onUpower (Upower.onUpowerChange r) s) else none
  | .app e => (s.held.next e).map fun r => publish r.2 { s with held := r.1 }
  | .deliverUpower ping matched r => match s.upBox with
    | [] => none
    | m :: box => some (onUpower (Upower.receive ping matched r m) { s with upBox := box })
  | .deliverInhibit => match s.inhBox with
    | [] => none
    | m :: box =>
      let c := Inhibit.receive s.inhCtx (s.resolve m)
      some (publish c.out { s with inhBox := box, inhibitions := c.loc, st := c.st })

/-- The main loop starts. -/
def start (cf : Conf) : Docking where
  upower := .init
  held := { locks := .init, owed := fun _ => 0 }
  inhibitions := 0
  st := initState cf
  cf := cf
  upBox := [.systemUpd .loopStarted]
  inhBox := []

end Docking

/-- What has been read of the dock, and what INHIBIT has counted for it. -/
structure DockLog where
  /-- The laptop was docked at the last change of the lid. -/
  docked : Bool
  /-- INHIBIT counts a grab of UPOWER. -/
  counted : Bool

namespace DockLog

def start : DockLog where
  docked := false
  counted := false

/-- The dock read by a step that finds the lid changed. -/
def lidChange (s : Docking) : DockingEvent → Option Bool
  | .upowerChange r => Upower.lidChange s.st r
  | .deliverUpower ping _ r => s.upBox.head?.bind fun m => Upower.receiveChange ping r m s.st
  | _ => none

def record (h : DockLog) (s : Docking) (e : DockingEvent) (_ : Docking) : DockLog :=
  match e with
  | .deliverInhibit =>
    if s.inhBox.head? = some .inhibitReqStatic then { h with counted := s.upower.inhReq } else h
  | e => { h with docked := (lidChange s e).getD h.docked }

end DockLog

/-- UPOWER, INTERFACE and INHIBIT with inhibit_docked, and the log of the dock. -/
def docking : Machine (Docking × DockLog) DockingEvent :=
  Machine.withHistory
    { init := fun s => ∃ cf : Conf, cf.inh.inhibitDocked = true ∧ s = .start cf
      next := Docking.next } .start DockLog.record

namespace Docking
variable {s t : Docking} {h : DockLog}

/-- Applications release only what they acquired, and nothing is released by force. -/
def AppsOnly (s : Docking) : DockingEvent → Prop
  | .app e => e.fromApp = true ∧ s.held.OwnCookie e
  | _ => True

/-- The requests of UPOWER come to INHIBIT in pairs: a grab finds none of its own counted, and
a release finds one, or nothing inhibited. -/
def Paired (s : Docking) (h : DockLog) : DockingEvent → Prop
  | .deliverInhibit => s.inhBox.head? = some .inhibitReqStatic →
      if s.upower.inhReq then h.counted = false else h.counted = true ∨ s.st.inhibited = false
  | _ => True

structure Inv (s : Docking) (h : DockLog) : Prop where
  enabled : s.cf.inh.inhibitDocked = true
  apps : Apps s.held
  count : ∃ p : ℕ, Balances p s.inhBox (Apps.holders s.held) ∧
    s.inhibitions = p + if h.counted then 1 else 0
  consistent : Inhibit.Consistent s.inhCtx
  request : s.upower.inhReq = h.docked
  settled : .inhibitReqStatic ∈ s.inhBox ∨ h.counted = h.docked

theorem Inv.init {cf : Conf} (hcf : cf.inh.inhibitDocked = true) : Inv (start cf) .start where
  enabled := hcf
  apps := Apps.init
  count := ⟨0, rfl, rfl⟩
  consistent := ⟨le_rfl, rfl⟩
  request := rfl
  settled := .inr rfl

/-- A step of UPOWER, which tells INHIBIT of a change of the lid. -/
theorem Inv.onUpower (hinv : Inv s h) {change : Option Bool} {c : UpowerCtx}
    (htells : Upower.Tells change s.upCtx c) :
    Inv (publish c.out { s with upower := c.loc, st := c.st })
      { h with docked := change.getD h.docked } := by
  have hout : c.out.filter isInhibitReq = if change.isSome then [.inhibitReqStatic] else [] :=
    htells.out
  have hreq : c.loc.inhReq = change.getD s.upower.inhReq := htells.request
  have hinh : c.st.inhibited = s.st.inhibited := htells.inhibited
  have hconsistent := hinv.consistent
  obtain ⟨p, hbal, hcount⟩ := hinv.count
  refine ⟨hinv.enabled, hinv.apps, ⟨p, ?_, hcount⟩, ⟨hconsistent.nonneg, ?_⟩, ?_, ?_⟩
  · refine hbal.append ?_
    rw [hout]
    split_ifs
    · rfl
    · rfl
  · exact hinh.trans hconsistent.flag
  · change c.loc.inhReq = change.getD h.docked
    rw [hreq, hinv.request]
  · change .inhibitReqStatic ∈ s.inhBox ++ c.out.filter isInhibitReq ∨ h.counted = change.getD h.docked
    rw [hout]
    cases change with
    | none => exact hinv.settled.imp (fun hm => List.mem_append_left _ hm) id
    | some docked => exact .inl (List.mem_append_right _ (List.mem_singleton_self _))

/-- A call of an application. -/
theorem Inv.onApp (hinv : Inv s h) {r : Held × List Msg} (hcalled : Apps.Called s.held r) :
    Inv (publish r.2 { s with held := r.1 }) h := by
  obtain ⟨p, hbal, hcount⟩ := hinv.count
  refine ⟨hinv.enabled, hcalled.apps, ⟨p, ?_, hcount⟩, hinv.consistent, hinv.request, ?_⟩
  · exact hbal.append hcalled.balances.filter
  · exact hinv.settled.imp (fun hm => List.mem_append_left _ hm) id

theorem receive_out (c : InhibitCtx) (m : Msg) :
    (Inhibit.receive c m).out.filter isInhibitReq = c.out.filter isInhibitReq := by
  unfold Inhibit.receive
  split
  · rename_i new force
    rw [Inhibit.onInhibitReq_eq ⟨new, force⟩ c]
    split_ifs
    · rfl
    · simp [Ctx.publish, Inhibit.setCounted, isInhibitReq]
  · rfl

/-- INHIBIT has taken the first message of its mailbox. -/
theorem Inv.onInhibit (hinv : Inv s h) {m : Msg} {box : List Msg} {counted : Bool} {p : ℕ}
    (hbal : Balances p box (Apps.holders s.held))
    (hcount : (Inhibit.receive s.inhCtx m).loc = p + if counted then 1 else 0)
    (hconsistent : Inhibit.Consistent (Inhibit.receive s.inhCtx m))
    (hsettled : .inhibitReqStatic ∈ box ∨ counted = h.docked) :
    Inv (publish (Inhibit.receive s.inhCtx m).out { s with
        inhBox := box
        inhibitions := (Inhibit.receive s.inhCtx m).loc
        st := (Inhibit.receive s.inhCtx m).st }) { h with counted := counted } := by
  have hout := receive_out s.inhCtx m
  refine ⟨hinv.enabled, hinv.apps, ⟨p, ?_, hcount⟩, ⟨hconsistent.nonneg, hconsistent.flag⟩,
    hinv.request, ?_⟩
  · refine hbal.append ?_
    rw [hout]
    rfl
  · exact hsettled.imp (fun hm => List.mem_append_left _ hm) id

/-- A request of UPOWER, paired with what is counted for it. -/
theorem Inv.fromUpower (hinv : Inv s h) {box : List Msg} (hbox : s.inhBox = .inhibitReqStatic :: box)
    (hpaired : Paired s h .deliverInhibit) :
    Inv (publish (Inhibit.receive s.inhCtx (.inhibitReq s.upower.inhReq false)).out { s with
        inhBox := box
        inhibitions := (Inhibit.receive s.inhCtx (.inhibitReq s.upower.inhReq false)).loc
        st := (Inhibit.receive s.inhCtx (.inhibitReq s.upower.inhReq false)).st })
      { h with counted := s.upower.inhReq } := by
  have hpair : if s.upower.inhReq then h.counted = false
      else h.counted = true ∨ s.st.inhibited = false := hpaired (congrArg List.head? hbox)
  have hconsistent := hinv.consistent
  obtain ⟨p, hbal, hcount⟩ := hinv.count
  rw [hbox] at hbal
  have hrest : Balances p box (Apps.holders s.held) := hbal
  have hloc : s.inhCtx.loc = p + if h.counted then 1 else 0 := hcount
  have hflag : s.inhCtx.st.inhibited = s.st.inhibited := rfl
  cases hreq : s.upower.inhReq with
  | true =>
    -- a grab, with none of its own counted
    rw [hreq, if_pos rfl] at hpair
    rw [hpair, if_neg Bool.false_ne_true, add_zero] at hloc
    refine hinv.onInhibit hrest ?_ (hconsistent.grab false) (.inr (hreq.symm.trans hinv.request))
    rw [(Inhibit.receive_grab s.inhCtx false).1, hloc]
    rfl
  | false =>
    rw [hreq, if_neg Bool.false_ne_true] at hpair
    obtain ⟨hreleased, hleft⟩ := hconsistent.release
    refine hinv.onInhibit hrest ?_ hreleased (.inr (hreq.symm.trans hinv.request))
    rw [hleft, if_neg Bool.false_ne_true, add_zero]
    rcases hpair with hcounted | hfree
    · -- its own grab is released
      rw [hcounted, if_pos rfl] at hloc
      rw [hloc, if_pos (by omega)]
      omega
    · -- nothing is inhibited, so nothing is counted
      have hzero : ¬0 < s.inhCtx.loc := by
        have hoff := hconsistent.flag
        rw [hflag, hfree] at hoff
        exact of_decide_eq_false hoff.symm
      have hnn := hconsistent.nonneg
      rw [if_neg hzero]
      split_ifs at hloc <;> omega

/-- INHIBIT takes the next message of its mailbox. -/
theorem Inv.deliverInhibit (hinv : Inv s h) (hpaired : Paired s h .deliverInhibit)
    (hn : next s .deliverInhibit = some t) : Inv t (DockLog.record h s .deliverInhibit t) := by
  simp only [next] at hn
  split at hn
  · cases hn
  rename_i m box hbox
  obtain rfl := Option.some.inj hn
  have hhead : s.inhBox.head? = some m := congrArg List.head? hbox
  have hconsistent := hinv.consistent
  obtain ⟨p, hbal, hcount⟩ := hinv.count
  have hloc : s.inhCtx.loc = p + if h.counted then 1 else 0 := hcount
  rw [hbox] at hbal
  unfold DockLog.record
  rw [hhead]
  by_cases hstatic : m = .inhibitReqStatic
  · subst hstatic
    rw [if_pos rfl]
    exact hinv.fromUpower hbox hpaired
  · rw [if_neg fun he => hstatic (Option.some.inj he)]
    have hsettled : .inhibitReqStatic ∈ box ∨ h.counted = h.docked := by
      refine hinv.settled.imp ?_ id
      intro hm
      rw [hbox] at hm
      exact (List.mem_cons.mp hm).resolve_left fun he => hstatic he.symm
    cases m with
    | inhibitReq new force =>
      cases new with
      | true =>
        have hrest : Balances (p + 1) box (Apps.holders s.held) := hbal
        refine hinv.onInhibit (m := .inhibitReq true force) hrest ?_ (hconsistent.grab force) hsettled
        rw [(Inhibit.receive_grab s.inhCtx force).1, hloc]
        push_cast
        ring
      | false =>
        -- an application releases what is counted for it
        obtain ⟨rfl, hpos, hrest⟩ := hbal
        obtain ⟨hreleased, hleft⟩ := hconsistent.release
        refine hinv.onInhibit (m := .inhibitReq false false) hrest ?_ hreleased hsettled
        have hcounted : 0 < s.inhCtx.loc := by
          rw [hloc]
          split_ifs <;> omega
        rw [hleft, if_pos hcounted, hloc]
        split_ifs <;> omega
    | inhibitReqStatic => exact absurd rfl hstatic
    | _ => exact hinv.onInhibit hbal hloc hconsistent hsettled

theorem Inv.next (hinv : Inv s h) {e : DockingEvent} (happs : AppsOnly s e) (hpaired : Paired s h e)
    (hn : Docking.next s e = some t) : Inv t (DockLog.record h s e t) := by
  cases e with
  | upowerChange r =>
    simp only [Docking.next] at hn
    split_ifs at hn
    obtain rfl := Option.some.inj hn
    exact hinv.onUpower (Upower.tells_onUpowerChange r (c := s.upCtx) hinv.enabled)
  | app e =>
    obtain ⟨r, hr, rfl⟩ := Option.map_eq_some_iff.mp hn
    exact hinv.onApp (hinv.apps.step happs.1 happs.2 hr)
  | deliverUpower ping matched r =>
    simp only [Docking.next] at hn
    split at hn
    · cases hn
    rename_i m box hbox
    obtain rfl := Option.some.inj hn
    have hhead : s.upBox.head? = some m := congrArg List.head? hbox
    have htells := Upower.tells_receive ping matched r m (c := s.upCtx) hinv.enabled
    have hinv' : Inv { s with upBox := box } h :=
      ⟨hinv.enabled, hinv.apps, hinv.count, ⟨hinv.consistent.nonneg, hinv.consistent.flag⟩,
        hinv.request, hinv.settled⟩
    have hchange : DockLog.lidChange s (.deliverUpower ping matched r) =
        Upower.receiveChange ping r m s.st := by
      unfold DockLog.lidChange
      rw [hhead]
      rfl
    have hrecord : ∀ t, DockLog.record h s (.deliverUpower ping matched r) t =
        { h with docked := (Upower.receiveChange ping r m s.st).getD h.docked } := by
      intro t
      rw [← hchange]
      rfl
    rw [hrecord]
    exact hinv'.onUpower htells
  | deliverInhibit => exact hinv.deliverInhibit hpaired hn

/-- In every run in which the requests of UPOWER come to INHIBIT in pairs, Clight is inhibited,
once INHIBIT's mailbox is empty, exactly when the laptop is docked or an application holds an
inhibition. -/
theorem inhibited_iff_docked_or_held {s : Docking × DockLog}
    (hs : docking.ReachableBy (fun s e => AppsOnly s.1 e ∧ Paired s.1 s.2 e) s)
    (hbox : s.1.inhBox = []) :
    s.1.st.inhibited = true ↔ s.2.docked = true ∨ ∃ name, 0 < s.1.held.owed name := by
  have hinv : Inv s.1 s.2 := by
    refine Machine.ReachableBy.history (I := Inv) ?_ ?_ hs
    · rintro _ ⟨cf, hcf, rfl⟩
      exact .init hcf
    · exact fun _ _ _ _ _ hi hc hn => hi.next hc.1 hc.2 hn
  obtain ⟨p, hbal, hcount⟩ := hinv.count
  rw [hbox] at hbal
  have hp : p = Apps.holders s.1.held := hbal
  have hcounted : s.2.counted = s.2.docked := by
    refine hinv.settled.resolve_left fun hm => ?_
    rw [hbox] at hm
    cases hm
  have hflag : s.1.st.inhibited = decide (0 < s.1.inhibitions) := hinv.consistent.flag
  rw [hflag, hcount, hcounted, hp, decide_eq_true_iff, ← hinv.apps.holders_pos_iff]
  cases s.2.docked with
  | true =>
    simp only [if_true, true_or, iff_true]
    omega
  | false => simp

def dockedConf : Conf := { Conf.default with inh := { Conf.default.inh with inhibitDocked := true } }

theorem init_start : docking.init (start dockedConf, .start) := ⟨⟨dockedConf, rfl, rfl⟩, rfl⟩

/-- UPower answers: on AC, with the lid as given. -/
def replies (closed docked : Bool) : UpowerReplies :=
  { onBattery := some false, lidIsClosed := some closed, docked := some docked }

/-- The loop starts with the lid open; what UPOWER publishes is handled. -/
def startOpened : List DockingEvent :=
  [.deliverUpower true true (replies false false), .deliverUpower true true (replies false false),
    .deliverUpower true true (replies false false), .deliverInhibit]

instance (s : Docking) (h : DockLog) : (e : DockingEvent) → Decidable (Paired s h e)
  | .deliverInhibit => inferInstanceAs (Decidable (_ → _))
  | .upowerChange _ | .app _ | .deliverUpower _ _ _ => isTrue trivial

/-- The lid is closed on a docked laptop while an application holds an inhibition; then the
application goes. -/
def dockWhileHeld : List DockingEvent :=
  [.app (.inhibit ":1.1" 7 true), .deliverInhibit, .upowerChange (replies true true),
    .deliverInhibit, .deliverUpower true true (replies true true), .app (.disconnect ":1.1"),
    .deliverInhibit]

theorem inhibited_iff_docked_or_held_released : ∃ s,
    docking.run (start dockedConf, .start) (startOpened ++ dockWhileHeld) = some s ∧
      s.2.docked = true ∧ s.1.held.owed ":1.1" = 0 ∧
      (s.1.st.inhibited = true ↔ s.2.docked = true ∨ ∃ name, 0 < s.1.held.owed name) := by
  have hrun : (docking.run (start dockedConf, .start) (startOpened ++ dockWhileHeld)).any
      (fun s => s.1.inhBox.isEmpty && s.2.docked && s.1.held.owed ":1.1" = 0) = true := by
    decide +kernel
  obtain ⟨s, hs, hp⟩ := (Option.any_eq_true _ _).mp hrun
  simp only [Bool.and_eq_true, decide_eq_true_eq, List.isEmpty_iff] at hp
  obtain ⟨⟨hbox, hdocked⟩, howed⟩ := hp
  have happs : docking.RunBy (fun s e => AppsOnly s.1 e) (start dockedConf, .start)
      (startOpened ++ dockWhileHeld) := by
    apply Machine.runBy_of_forall
    simp [startOpened, dockWhileHeld, AppsOnly, LockEvent.fromApp, Held.OwnCookie]
  have hpaired : docking.RunBy (fun s e => Paired s.1 s.2 e) (start dockedConf, .start)
      (startOpened ++ dockWhileHeld) := by decide +kernel
  exact ⟨s, hs, hdocked, howed, inhibited_iff_docked_or_held
    (Machine.ReachableBy.of_run _ (.init init_start) (happs.and hpaired) hs) hbox⟩

/-- The lid is closed away from the dock while an application holds an inhibition. -/
def closeWhileHeld : List DockingEvent :=
  [.app (.inhibit ":1.1" 7 true), .deliverInhibit, .upowerChange (replies true false),
    .deliverInhibit, .deliverUpower true true (replies true false)]

/-- The lid releases the inhibition of the application. -/
theorem inhibition_released_by_lid : ¬ ∀ s : Docking × DockLog,
    docking.ReachableBy (fun s e => AppsOnly s.1 e) s → s.1.upBox = [] → s.1.inhBox = [] →
      (s.1.st.inhibited = true ↔ s.2.docked = true ∨ ∃ name, 0 < s.1.held.owed name) := by
  intro h
  have hrun : (docking.run (start dockedConf, .start) (startOpened ++ closeWhileHeld)).any
      (fun s => s.1.upBox.isEmpty && s.1.inhBox.isEmpty && !s.1.st.inhibited &&
        decide (0 < s.1.held.owed ":1.1")) = true := by
    decide +kernel
  obtain ⟨s, hs, hp⟩ := (Option.any_eq_true _ _).mp hrun
  simp only [Bool.and_eq_true, Bool.not_eq_true', decide_eq_true_eq, List.isEmpty_iff] at hp
  obtain ⟨⟨⟨hup, hinh⟩, hoff⟩, howed⟩ := hp
  have happs : docking.RunBy (fun s e => AppsOnly s.1 e) (start dockedConf, .start)
      (startOpened ++ closeWhileHeld) := by
    apply Machine.runBy_of_forall
    simp [startOpened, closeWhileHeld, AppsOnly, LockEvent.fromApp, Held.OwnCookie]
  have hreach := Machine.ReachableBy.of_run _ (.init init_start) happs hs
  have hon := (h s hreach hup hinh).mpr (.inr ⟨":1.1", howed⟩)
  exact absurd (hoff.symm.trans hon) Bool.false_ne_true

end Docking
end Clight
