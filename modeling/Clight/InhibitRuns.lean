import Clight.Inhibit

/-! Runs of INTERFACE and INHIBIT with the requests in flight between them: what a
client is owed after a forced release, and when it gets it. -/
namespace Clight.Held

/-- Keys that must be counted: the locks of the clients that are owed something. -/
def owes (owed : String → ℕ) : LockKey → Bool
  | .client name => 0 < owed name
  | .clight => false

def counts (owed : String → ℕ) (k : LockKey) : Bool := owes owed k || k = .clight

/-- Every client that is owed something holds a lock with as many references, and the
counter lies between the locks that are owed and the same with Clight's own. -/
structure HeldInv (m : Locks.LockMap) (owed : String → ℕ) (c : InhibitCtx) : Prop where
  refs : ∀ k l, m.lookup k = some l → 1 ≤ l.refs
  held : ∀ n, 0 < owed n → ∃ l, m.lookup (.client n) = some l ∧ l.refs = owed n
  lower : (m.keys.countP (owes owed) : ℤ) ≤ c.loc
  upper : c.loc ≤ m.keys.countP (counts owed)
  consistent : Inhibit.Consistent c

variable {m : Locks.LockMap} {owed owed' : String → ℕ} {c : InhibitCtx} {name : String}
  {k : LockKey} {l l₀ : Lock}

theorem countP_owes_congr (h : ∀ k ∈ m.keys, owes owed' k = owes owed k) :
    m.keys.countP (owes owed') = m.keys.countP (owes owed) :=
  List.countP_congr fun k hk => by rw [h k hk]

theorem countP_counts_congr (h : ∀ k ∈ m.keys, owes owed' k = owes owed k) :
    m.keys.countP (counts owed') = m.keys.countP (counts owed) :=
  List.countP_congr fun k hk => by rw [counts, counts, h k hk]

theorem HeldInv.init (cf : Conf) : HeldInv ∅ (fun _ => 0) (Inhibit.init cf) := by
  refine ⟨by simp, by simp, by simp [Inhibit.init], by simp [Inhibit.init], ⟨le_rfl, rfl⟩⟩

theorem HeldInv.owed_of_none (h : HeldInv m owed c) (hl : m.lookup (.client name) = none) :
    owed name = 0 := by
  by_contra hne
  obtain ⟨l, hl', -⟩ := h.held name (by omega)
  rw [hl] at hl'
  cases hl'

/-- Nothing is owed once the map is empty, and something counts while anything is owed. -/
theorem HeldInv.inhibited (h : HeldInv m owed c) :
    ((∃ n, 0 < owed n) → c.st.inhibited = true) ∧ (m.keys = [] → c.st.inhibited = false) := by
  have hlow := h.lower
  have hup := h.upper
  rw [h.consistent.flag]
  constructor
  · rintro ⟨n, hn⟩
    obtain ⟨l, hl, -⟩ := h.held n hn
    have hk : .client n ∈ m.keys := AList.lookup_isSome.mp (by simp [hl])
    have hpos : 0 < m.keys.countP (owes owed) :=
      List.countP_pos_iff.mpr ⟨_, hk, by simpa [owes] using hn⟩
    exact decide_eq_true (by omega)
  · intro hm
    rw [hm, List.countP_nil] at hup
    exact decide_eq_false (by omega)

/-! ### One operation on the map -/

/-- Only the references of a lock change, and who is owed something does not. -/
theorem HeldInv.rewrite (h : HeldInv m owed c) (hl : m.lookup k = some l₀) (hrefs : 1 ≤ l.refs)
    (hagree : ∀ k, owes owed' k = owes owed k)
    (hheld : ∀ n, 0 < owed' n → ∃ l', (m.insert k l).lookup (.client n) = some l' ∧
      l'.refs = owed' n) : HeldInv (m.insert k l) owed' c := by
  have hlow := h.lower
  have hup := h.upper
  refine ⟨fun k' l' hl' => ?_, hheld, ?_, ?_, h.consistent⟩
  · by_cases hk : k' = k
    · subst hk
      rw [AList.lookup_insert] at hl'
      rw [← Option.some.inj hl']
      exact hrefs
    · rw [AList.lookup_insert_ne hk] at hl'
      exact h.refs k' l' hl'
  · rw [Locks.countP_insert_old _ _ hl, countP_owes_congr fun k _ => hagree k]
    exact hlow
  · rw [Locks.countP_insert_old _ _ hl, countP_counts_congr fun k _ => hagree k]
    exact hup

/-- A lock that was not there is taken, and INHIBIT counts it. -/
theorem HeldInv.take (h : HeldInv m owed c) (hl : m.lookup k = none) (hrefs : 1 ≤ l.refs)
    (hagree : ∀ k ∈ m.keys, owes owed' k = owes owed k) (hk : counts owed' k = true)
    (hheld : ∀ n, 0 < owed' n → ∃ l', (m.insert k l).lookup (.client n) = some l' ∧
      l'.refs = owed' n) (force : Bool) :
    HeldInv (m.insert k l) owed' (Inhibit.receive c (.inhibitReq true force)) := by
  have hloc := (Inhibit.receive_grab c force).1
  have hlow := h.lower
  have hup := h.upper
  refine ⟨fun k' l' hl' => ?_, hheld, ?_, ?_, h.consistent.grab force⟩
  · by_cases hk' : k' = k
    · subst hk'
      rw [AList.lookup_insert] at hl'
      rw [← Option.some.inj hl']
      exact hrefs
    · rw [AList.lookup_insert_ne hk'] at hl'
      exact h.refs k' l' hl'
  -- one more key at most, and the counter grows by one
  · have hle : (if owes owed' k = true then 1 else 0) ≤ 1 := by
      split_ifs <;> omega
    rw [Locks.countP_insert_new _ _ hl, countP_owes_congr hagree, hloc]
    omega
  · rw [Locks.countP_insert_new _ _ hl, countP_counts_congr hagree, hloc, if_pos hk]
    omega

/-! ### The calls of a client -/

theorem owes_update_of_ne {n : ℕ} (hk : k ≠ .client name) :
    owes (Function.update owed name n) k = owes owed k := by
  cases k with
  | clight => rfl
  | client n' =>
    have hn : n' ≠ name := by
      rintro rfl
      exact hk rfl
    simp [owes, hn]

theorem HeldInv.held_update (h : HeldInv m owed c) {n : ℕ} (hrefs : 0 < n → l.refs = n) :
    ∀ n', 0 < Function.update owed name n n' →
      ∃ l', (m.insert (.client name) l).lookup (.client n') = some l' ∧
        l'.refs = Function.update owed name n n' := by
  intro n' hn'
  by_cases hnn : n' = name
  · subst hnn
    rw [Function.update_self] at hn' ⊢
    exact ⟨l, AList.lookup_insert _, hrefs hn'⟩
  · rw [Function.update_of_ne hnn] at hn' ⊢
    obtain ⟨l', hl', hr⟩ := h.held n' hn'
    exact ⟨l', by rw [AList.lookup_insert_ne (by simpa using hnn)]; exact hl', hr⟩

theorem HeldInv.grab (h : HeldInv m owed c) (hl : m.lookup (.client name) = none) (cookie : ℤ) :
    HeldInv (m.insert (.client name) ⟨cookie, 1⟩) (Function.update owed name (owed name + 1))
      (Inhibit.receive c (.inhibitReq true false)) := by
  have h0 := h.owed_of_none hl
  refine h.take hl le_rfl (fun k hk => owes_update_of_ne ?_) (by simp [counts, owes])
    (h.held_update fun _ => by simp [h0]) false
  rintro rfl
  exact AList.lookup_eq_none.mp hl hk

/-- Inhibit by a client whose lock is not stale. -/
theorem HeldInv.regrab (h : HeldInv m owed c) (hl : m.lookup (.client name) = some l)
    (hfresh : 0 < owed name) :
    HeldInv (m.insert (.client name) { l with refs := l.refs + 1 })
      (Function.update owed name (owed name + 1)) c := by
  obtain ⟨l', hl', hr⟩ := h.held name hfresh
  obtain rfl : l = l' := Option.some.inj (hl.symm.trans hl')
  have hpos := h.refs _ l hl
  refine h.rewrite hl (by simp; omega) (fun k => ?_) (h.held_update fun _ => by simp [hr])
  by_cases hk : k = .client name
  · subst hk
    simp [owes, hfresh]
  · exact owes_update_of_ne hk

theorem HeldInv.release (h : HeldInv m owed c) (hl : m.lookup (.client name) = some l)
    (hrefs : l.refs ≠ 1) :
    HeldInv (m.insert (.client name) { l with refs := l.refs - 1 })
      (Function.update owed name (owed name - 1)) c := by
  have hpos := h.refs _ l hl
  have howed (hn : 0 < owed name) : l.refs = owed name := by
    obtain ⟨l', hl', hr⟩ := h.held name hn
    rw [Option.some.inj (hl.symm.trans hl'), hr]
  refine h.rewrite hl (by simp; omega) (fun k => ?_) (h.held_update fun hn => ?_)
  · by_cases hk : k = .client name
    · subst hk
      have hiff : 0 < owed name - 1 ↔ 0 < owed name := by
        constructor
        · intro hn
          omega
        · intro hn
          have := howed hn
          omega
      simp [owes, hiff]
    · exact owes_update_of_ne hk
  · have := howed (by omega)
    show l.refs - 1 = ((owed name - 1 : ℕ) : ℤ)
    omega

/-- The last reference of a client goes: of a stale lock only while nothing is owed. -/
theorem HeldInv.drop (h : HeldInv m owed c) (hl : m.lookup (.client name) = some l)
    (howed' : owed' = Function.update owed name 0)
    (hstale : owed name = 0 → ∀ n, owed n = 0) :
    HeldInv ((m.insert (.client name) l₀).erase (.client name)) owed'
      (Inhibit.receive c (.inhibitReq false false)) := by
  obtain ⟨hcons, hloc⟩ := h.consistent.release
  have hlow := h.lower
  have hup := h.upper
  have hnn := h.consistent.nonneg
  have hkey : .client name ∉ ((m.insert (.client name) l₀).erase (.client name)).keys := by
    rw [← AList.mem_keys, AList.mem_erase]
    exact fun hk => hk.1 rfl
  have hagree (k : LockKey) (hk : k ∈ ((m.insert (.client name) l₀).erase (.client name)).keys) :
      owes owed' k = owes owed k := by
    rw [howed']
    refine owes_update_of_ne ?_
    rintro rfl
    exact hkey hk
  have howes := Locks.countP_insert_erase (owes owed) l₀ hl
  have hcounts := Locks.countP_insert_erase (counts owed) l₀ hl
  refine ⟨fun k' l' hl' => ?_, fun n hn => ?_, ?_, ?_, hcons⟩
  · rw [Locks.lookup_insert_erase] at hl'
    split_ifs at hl'
    exact h.refs k' l' hl'
  -- other clients keep their locks
  · have hne : n ≠ name := by
      rintro rfl
      simp [howed'] at hn
    rw [howed', Function.update_of_ne hne] at hn ⊢
    obtain ⟨l', hl', hr⟩ := h.held n hn
    exact ⟨l', by rw [Locks.lookup_insert_erase, if_neg (by simpa using hne)]; exact hl', hr⟩
  · rw [countP_owes_congr hagree, hloc]
    -- the key that goes was counted if its client was owed something
    by_cases hn : 0 < owed name
    · rw [if_pos (by simpa [owes] using hn)] at howes
      split_ifs <;> omega
    · -- nothing is owed, so nothing needs to be counted
      have hzero : m.keys.countP (owes owed) = 0 := by
        rw [List.countP_eq_zero]
        rintro (_ | n) -
        · simp [owes]
        · simp [owes, hstale (by omega) n]
      split_ifs <;> omega
  · rw [countP_counts_congr hagree, hloc]
    by_cases hn : 0 < owed name
    · rw [if_pos (by simpa [counts, owes] using hn)] at hcounts
      rw [if_pos (by simpa [owes] using hn)] at howes
      split_ifs <;> omega
    · rw [if_neg (by simpa [counts, owes] using hn)] at hcounts
      split_ifs <;> omega

/-! ### The calls of Clight -/

theorem HeldInv.clightGrab (h : HeldInv m owed c) (hl : m.lookup .clight = none) (cookie : ℤ) :
    HeldInv (m.insert .clight ⟨cookie, 1⟩) owed (Inhibit.receive c (.inhibitReq true false)) := by
  refine h.take hl le_rfl (fun _ _ => rfl) (by simp [counts]) (fun n hn => ?_) false
  obtain ⟨l, hl, hr⟩ := h.held n hn
  exact ⟨l, by rw [AList.lookup_insert_ne (by simp)]; exact hl, hr⟩

theorem HeldInv.clightRegrab (h : HeldInv m owed c) (hl : m.lookup .clight = some l) :
    HeldInv (m.insert .clight { l with refs := l.refs + 1 }) owed c := by
  have hpos := h.refs _ l hl
  refine h.rewrite hl (by simp; omega) (fun _ => rfl) fun n hn => ?_
  obtain ⟨l, hl, hr⟩ := h.held n hn
  exact ⟨l, by rw [AList.lookup_insert_ne (by simp)]; exact hl, hr⟩

/-- Inhibit(false) from the Clight interface: nothing is owed any more. -/
theorem HeldInv.force (h : HeldInv m owed c) :
    HeldInv ((m.insert .clight l₀).erase .clight) (fun _ => 0)
      (Inhibit.receive c (.inhibitReq false true)) := by
  obtain ⟨hcons, hloc⟩ := h.consistent.force
  refine ⟨fun k' l' hl' => ?_, fun n hn => absurd hn (lt_irrefl 0), ?_, ?_, hcons⟩
  · rw [Locks.lookup_insert_erase] at hl'
    split_ifs at hl'
    exact h.refs k' l' hl'
  · have hzero : ((m.insert .clight l₀).erase .clight).keys.countP (owes fun _ => 0) = 0 := by
      rw [List.countP_eq_zero]
      rintro (_ | n) - <;> simp [owes]
    rw [hzero, hloc]
    rfl
  · rw [hloc]
    exact Int.natCast_nonneg _

/-! ### One event -/

/-- A successful Inhibit: of a client, unless its lock is stale, or of Clight. -/
theorem HeldInv.createInhibit {s : Held} (h : HeldInv s.locks.lockMap s.owed c)
    (hstale : ¬s.Stale name) {rand cookie : ℤ} {alloc : Bool} {t : Locks} {ms : List Msg}
    (hc : s.locks.createInhibit 0 (.client name) rand alloc = some (cookie, t, ms)) :
    HeldInv t.lockMap (Function.update s.owed name (s.owed name + 1))
      (ms.foldl Inhibit.receive c) := by
  rcases Locks.createInhibit_cases hc with ⟨l, hl, -, rfl, hm⟩ | ⟨hl, -, rfl, hm⟩
  -- the lock is there: it is not stale, so something is owed
  · have hmem : .client name ∈ s.locks.lockMap := AList.lookup_isSome.mp (by simp [hl])
    have hpos : 0 < s.owed name := by
      by_contra hno
      exact hstale ⟨hmem, by omega⟩
    rw [hm]
    exact h.regrab hl hpos
  · rw [hm]
    exact h.grab hl cookie

theorem HeldInv.clightInhibit {s : Held} (h : HeldInv s.locks.lockMap s.owed c)
    {rand cookie : ℤ} {alloc : Bool} {t : Locks} {ms : List Msg}
    (hc : s.locks.createInhibit clightCookie .clight rand alloc = some (cookie, t, ms)) :
    HeldInv t.lockMap s.owed (ms.foldl Inhibit.receive c) := by
  rcases Locks.createInhibit_cases hc with ⟨l, hl, -, rfl, hm⟩ | ⟨hl, -, rfl, hm⟩
  · rw [hm]
    exact h.clightRegrab hl
  · rw [hm]
    exact h.clightGrab hl cookie

/-- A successful drop of a lock that is the client's own: a call of UnInhibit, or (`force`)
its disconnection. -/
theorem HeldInv.dropInhibit {s : Held} (h : HeldInv s.locks.lockMap s.owed c)
    {cookie : Option ℤ} {force : Bool} {t : Locks} {ms : List Msg}
    (hd : s.locks.dropInhibit cookie (.client name) force = some (t, ms))
    (hown : ∀ k l, s.locks.findLock cookie (.client name) = some (k, l) → k = .client name)
    (hstale : s.Stale name → (force = false ∧ ∃ l, s.locks.lockMap.lookup (.client name) = some l ∧
      l.refs ≠ 1) ∨ ∀ n, s.owed n = 0) :
    HeldInv t.lockMap (Function.update s.owed name (if force then 0 else s.owed name - 1))
      (ms.foldl Inhibit.receive c) := by
  obtain ⟨k, l, hf, hcase⟩ := Locks.dropInhibit_cases hd
  obtain rfl := hown k l hf
  have hl : s.locks.lockMap.lookup (.client name) = some l := (Locks.findLock_some hf).1
  have hmem : .client name ∈ s.locks.lockMap := AList.lookup_isSome.mp (by simp [hl])
  rcases hcase with ⟨hz, rfl, hm⟩ | ⟨hz, rfl, rfl, hm⟩
  · rw [hm]
    refine h.drop hl ?_ fun h0 => ?_
    · -- an unforced drop took the last reference
      cases force with
      | true => rfl
      | false =>
        have hrefs : l.refs = 1 := by
          simp only [Bool.false_eq_true, if_false] at hz
          omega
        have hone : s.owed name ≤ 1 := by
          by_contra hno
          obtain ⟨l', hl', hr⟩ := h.held name (by omega)
          obtain rfl : l = l' := Option.some.inj (hl.symm.trans hl')
          omega
        simp only [Bool.false_eq_true, if_false]
        rw [show s.owed name - 1 = 0 by omega]
    · rcases hstale ⟨hmem, h0⟩ with ⟨rfl, l', hl', hr⟩ | hall
      · obtain rfl : l = l' := Option.some.inj (hl.symm.trans hl')
        simp only [Bool.false_eq_true, if_false] at hz
        omega
      · exact hall
  · rw [hm]
    simp only [Bool.false_eq_true, if_false] at hz ⊢
    exact h.release hl (by omega)

/-- Clight's Inhibit(false) with a lock of its own. -/
theorem HeldInv.clightRelease {s : Held} (h : HeldInv s.locks.lockMap s.owed c) {t : Locks}
    {ms : List Msg} (hd : s.locks.dropInhibit none .clight true = some (t, ms)) :
    HeldInv t.lockMap (fun _ => 0) (ms.foldl Inhibit.receive c) := by
  obtain ⟨k, l, hf, hcase⟩ := Locks.dropInhibit_cases hd
  obtain ⟨rfl, -⟩ := Locks.findLock_none hf
  rcases hcase with ⟨-, rfl, hm⟩ | ⟨hz, -⟩
  · rw [hm]
    exact h.force
  · exact absurd rfl hz

/-- A client that only names its own cookie only drops its own lock. -/
theorem OwnCookie.key_eq {s : Held} {cookie : ℤ} (h : s.OwnCookie (.unInhibit name cookie))
    (hf : s.locks.findLock (some cookie) (.client name) = some (k, l)) : k = .client name := by
  obtain ⟨hl, hk | hc⟩ := Locks.findLock_some hf
  · exact hk
  -- a lock found by the cookie of a client without one would be another's
  by_contra hne
  have hnone : s.locks.lockMap.lookup (.client name) = none := by
    by_contra hsome
    obtain ⟨l', hl'⟩ := Option.ne_none_iff_exists'.mp hsome
    rw [Locks.findLock_own hl'] at hf
    exact hne (congrArg Prod.fst (Option.some.inj hf)).symm
  exact h hnone k l hl (Option.some.inj hc).symm

/-- Each event on which no stale lock is used keeps the invariant, once INHIBIT has
received what it publishes. -/
theorem HeldInv.step {s : Held} {e : LockEvent} {r : Held × List Msg}
    (h : HeldInv s.locks.lockMap s.owed c) (hown : s.OwnCookie e) (hstale : s.StaleUnused e)
    (hn : s.next e = some r) :
    HeldInv r.1.locks.lockMap r.1.owed (r.2.foldl Inhibit.receive c) := by
  obtain ⟨⟨t, ms⟩, ht, rfl⟩ := Option.map_eq_some_iff.mp hn
  show HeldInv t.lockMap (s.owedAfter e) (ms.foldl Inhibit.receive c)
  -- a call that fails leaves the locks and what is owed as they are
  cases e <;> simp only [Locks.next] at ht <;> simp only [owedAfter]
  case inhibit name rand alloc =>
    rcases Locks.create_called ht with ⟨hc, hsame⟩ | ⟨cookie, hc⟩
    · obtain ⟨rfl, rfl⟩ := hsame
      rw [hc]
      exact h
    · rw [hc]
      exact h.createInhibit hstale hc
  case unInhibit name cookie =>
    rcases Locks.drop_called ht with ⟨hd, hsame⟩ | hd
    · obtain ⟨rfl, rfl⟩ := hsame
      rw [hd]
      exact h
    · rw [hd]
      exact h.dropInhibit hd (fun k l hf => hown.key_eq hf) fun hst =>
        (hstale hst).imp_left fun hl => ⟨rfl, hl⟩
  case unInhibitObserved name =>
    rcases Locks.drop_called ht with ⟨hd, hsame⟩ | hd
    · obtain ⟨rfl, rfl⟩ := hsame
      rw [hd]
      exact h
    · rw [hd]
      exact h.dropInhibit hd (fun k l hf => (Locks.findLock_none hf).1) fun hst =>
        (hstale hst).imp_left fun hl => ⟨rfl, hl⟩
  case clightInhibit inhibit rand alloc =>
    cases inhibit with
    | true =>
      rw [if_pos rfl] at ht
      rcases Locks.create_called ht with ⟨-, hsame⟩ | ⟨cookie, hc⟩
      · obtain ⟨rfl, rfl⟩ := hsame
        exact h
      · exact h.clightInhibit hc
    | false =>
      rw [if_neg Bool.false_ne_true] at ht
      rcases Locks.drop_called ht with ⟨hd, hsame⟩ | hd
      · obtain ⟨rfl, rfl⟩ := hsame
        rw [hd]
        exact h
      · rw [hd]
        exact h.clightRelease hd
  case disconnect name =>
    split_ifs at ht with hlisten hmem
    · rcases Locks.drop_called ht with ⟨hd, -⟩ | hd
      · have hf := Locks.dropInhibit_eq_none.mp hd
        obtain ⟨l, hl⟩ := Option.isSome_iff_exists.mp (AList.lookup_isSome.mpr hmem)
        rw [Locks.findLock_own hl] at hf
        cases hf
      · exact h.dropInhibit hd (fun k l hf => (Locks.findLock_none hf).1) fun hst =>
          .inr (hstale hst)
    · -- a client without a lock is owed nothing
      obtain ⟨rfl, rfl⟩ := Option.some.inj ht
      rw [← h.owed_of_none (AList.lookup_eq_none.mpr hmem), Function.update_eq_self]
      exact h

/-! ### Runs -/

/-- While no stale lock is used, whoever is owed an inhibition gets it once the requests
in flight are handled, and nobody is inhibited when no lock is held. -/
theorem inhibited_when_held (cf : Conf) {s : Boxed Held Msg InhibitCtx}
    (hs : (heldSource.boxed Inhibit.receive (Inhibit.init cf)).ReachableBy
      (fun s e => ∀ e', e = .source e' → s.source.OwnCookie e' ∧ s.source.StaleUnused e') s)
    (hbox : s.box = []) :
    ((∃ n, 0 < s.source.owed n) → s.handler.st.inhibited = true) ∧
      (s.source.locks.lockMap.keys = [] → s.handler.st.inhibited = false) := by
  have hsync := Source.boxed_refines_sync
    (C := fun (s : Held) (e : LockEvent) => s.OwnCookie e ∧ s.StaleUnused e) hs
  rw [Source.drained_of_empty _ hbox] at hsync
  have hinv := Machine.ReachableBy.invariant
    (I := fun s : Held × InhibitCtx => HeldInv s.1.locks.lockMap s.1.owed s.2) ?_ ?_ hsync
  · exact hinv.inhibited
  · rintro ⟨s, c⟩ ⟨⟨hlocks, howed⟩, hc⟩
    dsimp only at hlocks howed hc ⊢
    rw [hlocks, howed, hc]
    exact .init cf
  · rintro ⟨s, c⟩ e s' h hok hn
    obtain ⟨t, ms, hnext, rfl⟩ := Source.sync_next hn
    exact h.step hok.1 hok.2 hnext

def start : Boxed Held Msg InhibitCtx :=
  { source := { locks := .init, owed := fun _ => 0 }, box := [], handler := Inhibit.init .default }

theorem init_start : (heldSource.boxed Inhibit.receive (Inhibit.init .default)).init start :=
  ⟨⟨rfl, rfl⟩, rfl, rfl⟩

/-- Clight releases all while a client holds a lock, which is stale then; another client inhibits. -/
def grabAfterRelease : List (BoxedEvent LockEvent) :=
  [.source (.inhibit ":1.2" 5 true), .deliver, .source (.clightInhibit true 0 true),
    .source (.clightInhibit false 0 true), .deliver, .deliver, .source (.inhibit ":1.1" 7 true), .deliver]

theorem staleUnused_grabAfterRelease : (heldSource.boxed Inhibit.receive (Inhibit.init .default)).RunBy
    (fun s e => ∀ e', e = .source e' → s.source.OwnCookie e' ∧ s.source.StaleUnused e') start
    grabAfterRelease := by
  refine ⟨?_, fun s₁ h₁ => ⟨nofun, fun s₂ h₂ => ⟨?_, fun s₃ h₃ => ⟨?_, fun s₄ h₄ => ⟨nofun,
    fun s₅ h₅ => ⟨nofun, fun s₆ h₆ => ⟨?_, fun s₇ _ => ⟨nofun, fun _ _ => trivial⟩⟩⟩⟩⟩⟩⟩⟩
  · rintro _ ⟨rfl⟩
    exact ⟨trivial, fun hstale => absurd hstale.1 (by decide)⟩
  · rintro _ ⟨rfl⟩
    exact ⟨trivial, trivial⟩
  · rintro _ ⟨rfl⟩
    exact ⟨trivial, trivial⟩
  · -- the stale lock is not the one that is asked for
    rintro _ ⟨rfl⟩
    obtain rfl := Option.some.inj h₁
    obtain rfl := Option.some.inj h₂
    obtain rfl := Option.some.inj h₃
    obtain rfl := Option.some.inj h₄
    obtain rfl := Option.some.inj h₅
    obtain rfl := Option.some.inj h₆
    exact ⟨trivial, fun hstale => absurd hstale.1 (by decide)⟩

theorem inhibited_when_held_grab : ∃ s,
    (heldSource.boxed Inhibit.receive (Inhibit.init .default)).run start grabAfterRelease = some s ∧
      s.source.locks.lockMap.keys.length = 2 ∧ s.source.owed ":1.2" = 0 ∧
      s.handler.st.inhibited = true := by
  have hheld : ((heldSource.boxed Inhibit.receive (Inhibit.init .default)).run start
      grabAfterRelease).any (fun s => s.box.isEmpty && decide (s.source.locks.lockMap.keys.length = 2) &&
        decide (s.source.owed ":1.2" = 0) && decide (0 < s.source.owed ":1.1")) = true := by
    decide +kernel
  obtain ⟨s, hs, hp⟩ := (Option.any_eq_true _ _).mp hheld
  simp only [Bool.and_eq_true, decide_eq_true_eq, List.isEmpty_iff] at hp
  obtain ⟨⟨⟨hbox, hlocks⟩, hstale⟩, howed⟩ := hp
  have hreach := Machine.ReachableBy.of_run _ (.init init_start) staleUnused_grabAfterRelease hs
  exact ⟨s, hs, hlocks, hstale, (inhibited_when_held .default hreach hbox).1 ⟨":1.1", howed⟩⟩

/-- A client inhibits again after a forced release: its lock is still there, so nothing is
published, and INHIBIT has forgotten it. -/
theorem inhibited_when_held_fails : ¬ ∀ (cf : Conf) (s : Boxed Held Msg InhibitCtx),
    (heldSource.boxed Inhibit.receive (Inhibit.init cf)).ReachableBy
      (fun s e => ∀ e', e = .source e' → s.source.OwnCookie e') s → s.box = [] →
    ((∃ n, 0 < s.source.owed n) → s.handler.st.inhibited = true) ∧
      (s.source.locks.lockMap.keys = [] → s.handler.st.inhibited = false) := by
  intro h
  let es : List (BoxedEvent LockEvent) := [.source (.inhibit ":1.1" 7 true), .deliver,
    .source (.clightInhibit true 0 true), .deliver, .source (.clightInhibit false 0 true), .deliver,
    .source (.inhibit ":1.1" 8 true)]
  have hrun : ((heldSource.boxed Inhibit.receive (Inhibit.init .default)).run start es).any
      (fun s => s.box.isEmpty && decide (0 < s.source.owed ":1.1") && !s.handler.st.inhibited) =
        true := by decide +kernel
  obtain ⟨s, hs, hp⟩ := (Option.any_eq_true _ _).mp hrun
  simp only [Bool.and_eq_true, Bool.not_eq_true', List.isEmpty_iff, decide_eq_true_eq] at hp
  obtain ⟨⟨hbox, howed⟩, hinh⟩ := hp
  have hes : ∀ e ∈ es, ∀ s : Boxed Held Msg InhibitCtx, ∀ e', e = .source e' →
      s.source.OwnCookie e' := by
    simp [es, OwnCookie]
  have hreach := Machine.ReachableBy.of_run es (.init init_start) (Machine.runBy_of_forall hes _) hs
  rw [(h .default s hreach hbox).1 ⟨_, howed⟩] at hinh
  cases hinh

end Clight.Held
