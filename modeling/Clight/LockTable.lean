import Clight.Mailbox
import Clight.Message
import Mathlib.Data.List.AList

/-! The ScreenSaver locks of interface.c: lock_map, and the INHIBIT_REQ messages that
taking and dropping locks publishes. -/
namespace Clight

/-- Keys of lock_map: CLIGHT_INH_KEY, or the unique bus name of a client. -/
inductive LockKey | clight | client (name : String)
  deriving DecidableEq

structure Lock where
  cookie : ℤ
  refs : ℤ
  deriving DecidableEq

def clightCookie : ℤ := -1

structure Locks where
  lockMap : AList fun _ : LockKey => Lock
  /-- lock_slot: whether NameOwnerChanged is listened to. -/
  listening : Bool

/-- Calls of the bus API. `rand` is the next value of random(), `alloc` the outcome of
malloc. While another service owns the ScreenSaver name, Clight only observes the calls
made to it, and UnInhibit carries no cookie. With inh_conf.disabled the calls of Clight
fail, and are no events. -/
inductive LockEvent
  | inhibit (name : String) (rand : ℤ) (alloc : Bool)
  | unInhibit (name : String) (cookie : ℤ)
  | unInhibitObserved (name : String)
  | clightInhibit (inhibit : Bool) (rand : ℤ) (alloc : Bool)
  | disconnect (name : String)

namespace Locks

def init : Locks := { lockMap := ∅, listening := false }

/-- create_inhibit: the cookie, the locks and what is published, or -1. -/
def createInhibit (cookie : ℤ) (key : LockKey) (rand : ℤ) (alloc : Bool) (s : Locks) :
    Option (ℤ × Locks × List Msg) :=
  match s.lockMap.lookup key with
  | some l =>
    some (l.cookie, { s with lockMap := s.lockMap.insert key { l with refs := l.refs + 1 } }, [])
  | none =>
    if alloc then
      -- Clight keeps its own cookie
      let cookie := if cookie ≠ clightCookie then rand else cookie
      let lockMap := s.lockMap.insert key { cookie := cookie, refs := 1 }
      some (cookie,
        { lockMap := lockMap, listening := if lockMap.keys.length = 1 then true else s.listening },
        [.inhibitReq true false])
    else none

/-- The lock that drop_inhibit works on: the one of the caller, else the first with the
cookie. -/
def findLock (cookie : Option ℤ) (key : LockKey) (s : Locks) : Option (LockKey × Lock) :=
  match s.lockMap.lookup key, cookie with
  | some l, _ => some (key, l)
  | none, some c => (s.lockMap.entries.find? fun e => e.2.cookie = c).map fun e => (e.1, e.2)
  | none, none => none

/-- drop_inhibit. The lock found is written in place; what is removed is the key of the
caller. -/
def dropInhibit (cookie : Option ℤ) (key : LockKey) (force : Bool) (s : Locks) :
    Option (Locks × List Msg) :=
  match findLock cookie key s with
  | none => none
  | some (k, l) =>
    let l := { l with refs := if force then 0 else l.refs - 1 }
    let lockMap := s.lockMap.insert k l
    -- the key removed is not that of the lock found, when this is another sender's
    if l.refs = 0 then
      let lockMap := lockMap.erase key
      some ({ lockMap := lockMap, listening := if lockMap.keys.length = 0 then false else s.listening },
        [.inhibitReq false (key = .clight)])
    else some ({ s with lockMap := lockMap }, [])

/-- A call that fails is answered with an error and changes nothing. -/
def next (s : Locks) : LockEvent → Option (Locks × List Msg)
  | .inhibit name rand alloc =>
    some (((createInhibit 0 (.client name) rand alloc s).map Prod.snd).getD (s, []))
  | .unInhibit name cookie => some ((dropInhibit (some cookie) (.client name) false s).getD (s, []))
  | .unInhibitObserved name => some ((dropInhibit none (.client name) false s).getD (s, []))
  | .clightInhibit inhibit rand alloc =>
    if inhibit then
      some (((createInhibit clightCookie .clight rand alloc s).map Prod.snd).getD (s, []))
    else some ((dropInhibit none .clight true s).getD (s, []))
  | .disconnect name =>
    if s.listening then
      -- NameOwnerChanged tells of every name that goes
      if .client name ∈ s.lockMap then
        some ((dropInhibit none (.client name) true s).getD (s, []))
      else some (s, [])
    else none

end Locks

def lockSource : Source Locks LockEvent Msg where
  init s := s = .init
  next := Locks.next

namespace Locks

/-! ### What the two operations do -/

/-- A call of drop_inhibit, as an event: it fails and changes nothing, or it succeeds. -/
theorem drop_called {o : Option (Locks × List Msg)} {s : Locks} {r : Locks × List Msg}
    (h : some (o.getD (s, [])) = some r) : o = none ∧ (s, []) = r ∨ o = some r := by
  obtain rfl := Option.some.inj h
  cases o with
  | none => exact .inl ⟨rfl, rfl⟩
  | some r => exact .inr rfl

/-- The same for create_inhibit, whose cookie goes to the caller. -/
theorem create_called {o : Option (ℤ × Locks × List Msg)} {s : Locks} {r : Locks × List Msg}
    (h : some ((o.map Prod.snd).getD (s, [])) = some r) :
    o = none ∧ (s, []) = r ∨ ∃ cookie, o = some (cookie, r) := by
  rcases drop_called h with ⟨hnone, hr⟩ | hsome
  · exact .inl ⟨Option.map_eq_none_iff.mp hnone, hr⟩
  · obtain ⟨⟨cookie, r'⟩, ho, rfl⟩ := Option.map_eq_some_iff.mp hsome
    exact .inr ⟨cookie, ho⟩

theorem createInhibit_cases {cookie rand c : ℤ} {key : LockKey} {alloc : Bool} {s s' : Locks}
    {ms : List Msg} (h : createInhibit cookie key rand alloc s = some (c, s', ms)) :
    (∃ l, s.lockMap.lookup key = some l ∧ c = l.cookie ∧ ms = [] ∧
      s'.lockMap = s.lockMap.insert key { l with refs := l.refs + 1 }) ∨
    (s.lockMap.lookup key = none ∧ c = (if cookie ≠ clightCookie then rand else cookie) ∧
      ms = [.inhibitReq true false] ∧
      s'.lockMap = s.lockMap.insert key { cookie := c, refs := 1 }) := by
  unfold createInhibit at h
  split at h
  · rename_i l hl
    obtain ⟨rfl, rfl, rfl⟩ := Option.some.inj h
    exact .inl ⟨l, hl, rfl, rfl, rfl⟩
  · rename_i hl
    cases alloc with
    | false => cases h
    | true =>
      obtain ⟨rfl, rfl, rfl⟩ := Option.some.inj h
      exact .inr ⟨hl, rfl, rfl, rfl⟩

theorem dropInhibit_cases {cookie : Option ℤ} {key : LockKey} {force : Bool} {s s' : Locks}
    {ms : List Msg} (h : dropInhibit cookie key force s = some (s', ms)) :
    ∃ k l, findLock cookie key s = some (k, l) ∧
      (((if force then 0 else l.refs - 1) = 0 ∧ ms = [.inhibitReq false (key = .clight)] ∧
        s'.lockMap = (s.lockMap.insert k { l with refs := 0 }).erase key) ∨
      ((if force then 0 else l.refs - 1) ≠ 0 ∧ force = false ∧ ms = [] ∧
        s'.lockMap = s.lockMap.insert k { l with refs := l.refs - 1 })) := by
  unfold dropInhibit at h
  split at h
  · cases h
  · rename_i k l hf
    refine ⟨k, l, hf, ?_⟩
    by_cases hz : (if force then 0 else l.refs - 1) = 0
    · dsimp only at h
      rw [hz, if_pos rfl] at h
      obtain ⟨rfl, rfl⟩ := Option.some.inj h
      exact .inl ⟨hz, rfl, rfl⟩
    · cases force with
      | true => exact absurd rfl hz
      | false =>
        dsimp only at h
        rw [if_neg hz] at h
        obtain ⟨rfl, rfl⟩ := Option.some.inj h
        exact .inr ⟨hz, rfl, rfl, rfl⟩

theorem dropInhibit_eq_none {cookie : Option ℤ} {key : LockKey} {force : Bool} {s : Locks} :
    dropInhibit cookie key force s = none ↔ findLock cookie key s = none := by
  unfold dropInhibit
  cases hf : findLock cookie key s with
  | none => simp
  | some kl =>
    dsimp only
    split_ifs <;> simp

theorem exists_dropInhibit {cookie : Option ℤ} {key k : LockKey} {l : Lock} {s : Locks}
    (hf : findLock cookie key s = some (k, l)) (force : Bool) :
    ∃ s' ms, dropInhibit cookie key force s = some (s', ms) := by
  have hne : dropInhibit cookie key force s ≠ none := by
    rw [ne_eq, dropInhibit_eq_none, hf]
    exact Option.some_ne_none _
  obtain ⟨⟨s', ms⟩, hd⟩ := Option.ne_none_iff_exists'.mp hne
  exact ⟨s', ms, hd⟩

theorem findLock_own {cookie : Option ℤ} {key : LockKey} {s : Locks} {l : Lock}
    (h : s.lockMap.lookup key = some l) : findLock cookie key s = some (key, l) := by
  unfold findLock
  rw [h]

/-- Without a cookie only the caller's own lock is found. -/
theorem findLock_none {key : LockKey} {s : Locks} {k : LockKey} {l : Lock}
    (h : findLock none key s = some (k, l)) : k = key ∧ s.lockMap.lookup key = some l := by
  unfold findLock at h
  split at h
  · rename_i l' _ hl
    obtain ⟨rfl, rfl⟩ := Option.some.inj h
    exact ⟨rfl, hl⟩
  · rename_i hc
    cases hc
  · cases h

end Locks
end Clight
