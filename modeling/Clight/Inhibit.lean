import Clight.Ctx
import Clight.LockAccounting
import Clight.Opts
import Mathlib.Data.List.Count

/-! The INHIBIT module (inhibit.c) behind the locks of INTERFACE: a counter of
INHIBIT_REQ, and what it owes to the clients that hold locks. -/
namespace Clight

abbrev InhibitCtx := Ctx ℤ Empty

namespace Inhibit

def onInhibitReq (new force : Bool) (c : InhibitCtx) : InhibitCtx :=
  let c :=
    if validateInhibit c.st new then
      -- a release that finds Clight not inhibited never gets here, and does not count
      let c := if new then c else { c with loc := if force then 0 else c.loc - 1 }
      if new || c.loc = 0 then
        { c with st := { c.st with inhibited := new } }.publish (.inhibitUpd c.st.inhibited new)
      else c
    else c
  -- a grab counts whether or not it was valid
  if new then { c with loc := c.loc + 1 } else c

def receive (c : InhibitCtx) (m : Msg) : InhibitCtx :=
  match m with
  | .inhibitReq new force => onInhibitReq new force c
  | _ => c

def init (cf : Conf) : InhibitCtx := { loc := 0, st := initState cf, cf := cf, out := [], calls := [] }

/-- A grab always counts, and always leaves the flag set. -/
theorem receive_grab (c : InhibitCtx) (force : Bool) :
    (receive c (.inhibitReq true force)).loc = c.loc + 1 ∧
      (receive c (.inhibitReq true force)).st.inhibited = true := by
  unfold receive onInhibitReq validateInhibit
  cases hi : c.st.inhibited <;> simp [hi]

/-- A release counts only while inhibited, and clears the flag when nothing is left. -/
theorem receive_release (c : InhibitCtx) (force : Bool) :
    (receive c (.inhibitReq false force)).loc =
        (if c.st.inhibited then if force then 0 else c.loc - 1 else c.loc) ∧
      (receive c (.inhibitReq false force)).st.inhibited =
        (c.st.inhibited && !decide ((if force then 0 else c.loc - 1) = 0)) := by
  unfold receive onInhibitReq validateInhibit
  cases hi : c.st.inhibited
  · simp [hi]
  · cases force
    · by_cases hz : c.loc - 1 = 0 <;> simp [hi, hz]
    · simp

/-- The flag tells whether the counter is positive. -/
structure Consistent (c : InhibitCtx) : Prop where
  nonneg : 0 ≤ c.loc
  flag : c.st.inhibited = decide (0 < c.loc)

theorem Consistent.grab {c : InhibitCtx} (h : Consistent c) (force : Bool) :
    Consistent (receive c (.inhibitReq true force)) := by
  obtain ⟨hloc, hflag⟩ := receive_grab c force
  have hnn := h.nonneg
  constructor
  · omega
  · rw [hflag, hloc]
    exact (decide_eq_true (by omega)).symm

theorem Consistent.release {c : InhibitCtx} (h : Consistent c) :
    Consistent (receive c (.inhibitReq false false)) ∧
      (receive c (.inhibitReq false false)).loc = if 0 < c.loc then c.loc - 1 else c.loc := by
  obtain ⟨hloc, hflag⟩ := receive_release c false
  have hnn := h.nonneg
  rw [h.flag] at hloc hflag
  by_cases hpos : 0 < c.loc
  · have hl : (receive c (.inhibitReq false false)).loc = c.loc - 1 := by simpa [hpos] using hloc
    refine ⟨⟨by omega, ?_⟩, by rw [hl, if_pos hpos]⟩
    rw [hflag, hl]
    simp only [hpos, decide_true, Bool.true_and, Bool.false_eq_true, if_false]
    rw [← decide_not]
    exact decide_eq_decide.mpr (by omega)
  · have hl : (receive c (.inhibitReq false false)).loc = c.loc := by simpa [hpos] using hloc
    refine ⟨⟨by omega, ?_⟩, by rw [hl, if_neg hpos]⟩
    rw [hflag, hl]
    simp [hpos]

theorem Consistent.force {c : InhibitCtx} (h : Consistent c) :
    Consistent (receive c (.inhibitReq false true)) ∧ (receive c (.inhibitReq false true)).loc = 0 := by
  obtain ⟨hloc, hflag⟩ := receive_release c true
  have hnn := h.nonneg
  have hl : (receive c (.inhibitReq false true)).loc = 0 := by
    rw [hloc, h.flag]
    by_cases hpos : 0 < c.loc
    · simp [hpos]
    · simp only [hpos, decide_false, Bool.false_eq_true, if_false]
      omega
  refine ⟨⟨by omega, ?_⟩, hl⟩
  rw [hflag, hl]
  simp

end Inhibit

/-! ### What is owed to the clients -/

/-- The locks, with the number of Inhibit calls that each client has made since the last
forced release and has not released. -/
structure Held where
  locks : Locks
  owed : String → ℕ

namespace Held

def owedAfter (s : Held) : LockEvent → String → ℕ
  | .inhibit name rand alloc =>
    if (s.locks.createInhibit 0 (.client name) rand alloc).isSome then
      Function.update s.owed name (s.owed name + 1)
    else s.owed
  | .unInhibit name c =>
    if (s.locks.dropInhibit (some c) (.client name) false).isSome then
      Function.update s.owed name (s.owed name - 1)
    else s.owed
  | .unInhibitObserved name =>
    if (s.locks.dropInhibit none (.client name) false).isSome then
      Function.update s.owed name (s.owed name - 1)
    else s.owed
  | .clightInhibit inhibit _ _ =>
    if inhibit = false ∧ (s.locks.dropInhibit none .clight true).isSome then fun _ => 0 else s.owed
  | .disconnect name => Function.update s.owed name 0

def next (s : Held) (e : LockEvent) : Option (Held × List Msg) :=
  (s.locks.next e).map fun r => ({ locks := r.1, owed := s.owedAfter e }, r.2)

/-- A client that holds no lock does not name the cookie of another's. -/
def OwnCookie (s : Held) : LockEvent → Prop
  | .unInhibit name c => s.locks.lockMap.lookup (.client name) = none →
      ∀ k l, s.locks.lockMap.lookup k = some l → l.cookie ≠ c
  | _ => True

/-- The client's lock was taken before the last forced release. -/
def Stale (s : Held) (name : String) : Prop := .client name ∈ s.locks.lockMap ∧ s.owed name = 0

/-- A stale lock is not acquired again, and goes only while nothing is owed. -/
def StaleUnused (s : Held) : LockEvent → Prop
  | .inhibit name _ _ => ¬s.Stale name
  | .unInhibit name _ | .unInhibitObserved name => s.Stale name →
      (∃ l, s.locks.lockMap.lookup (.client name) = some l ∧ l.refs ≠ 1) ∨ ∀ n, s.owed n = 0
  | .disconnect name => s.Stale name → ∀ n, s.owed n = 0
  | _ => True

end Held

def heldSource : Source Held LockEvent Msg where
  init s := s.locks = .init ∧ s.owed = fun _ => 0
  next := Held.next

end Clight
