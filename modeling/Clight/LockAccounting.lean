import Clight.LockTable

/-! Accounting of the ScreenSaver locks: references, cookies, and the balance of the
INHIBIT_REQ messages published. -/
namespace Clight.Locks

abbrev LockMap := AList fun _ : LockKey => Lock

/-! ### Counting the keys of the map -/

theorem countP_insert_new {m : LockMap} {k : LockKey} (p : LockKey → Bool) (l : Lock)
    (h : m.lookup k = none) :
    (m.insert k l).keys.countP p = m.keys.countP p + if p k then 1 else 0 := by
  have hk : k ∉ m.keys := AList.lookup_eq_none.mp h
  rw [AList.keys_insert, List.countP_cons, List.erase_of_not_mem hk]

theorem countP_erase_add {m : LockMap} {k : LockKey} (p : LockKey → Bool) (h : k ∈ m.keys) :
    (m.keys.erase k).countP p + (if p k then 1 else 0) = m.keys.countP p := by
  have hperm := (List.perm_cons_erase h).countP_eq p
  rw [List.countP_cons] at hperm
  exact hperm.symm

theorem countP_insert_old {m : LockMap} {k : LockKey} {l₀ : Lock} (p : LockKey → Bool) (l : Lock)
    (h : m.lookup k = some l₀) : (m.insert k l).keys.countP p = m.keys.countP p := by
  have hk : k ∈ m.keys := AList.lookup_isSome.mp (by simp [h])
  rw [AList.keys_insert, List.countP_cons, countP_erase_add p hk]

theorem countP_insert_erase {m : LockMap} {k : LockKey} {l₀ : Lock} (p : LockKey → Bool) (l : Lock)
    (h : m.lookup k = some l₀) :
    ((m.insert k l).erase k).keys.countP p + (if p k then 1 else 0) = m.keys.countP p := by
  have hk : k ∈ m.keys := AList.lookup_isSome.mp (by simp [h])
  rw [AList.keys_erase, AList.keys_insert, List.erase_cons_head, countP_erase_add p hk]

theorem length_keys_insert_new {m : LockMap} {k : LockKey} (l : Lock) (h : m.lookup k = none) :
    (m.insert k l).keys.length = m.keys.length + 1 := by
  simpa using countP_insert_new (fun _ => true) l h

theorem length_keys_insert_old {m : LockMap} {k : LockKey} {l₀ : Lock} (l : Lock)
    (h : m.lookup k = some l₀) : (m.insert k l).keys.length = m.keys.length := by
  simpa using countP_insert_old (fun _ => true) l h

theorem length_keys_insert_erase {m : LockMap} {k : LockKey} {l₀ : Lock} (l : Lock)
    (h : m.lookup k = some l₀) : ((m.insert k l).erase k).keys.length + 1 = m.keys.length := by
  simpa using countP_insert_erase (fun _ => true) l h

theorem lookup_insert_erase (m : LockMap) (k k' : LockKey) (l : Lock) :
    ((m.insert k l).erase k).lookup k' = if k' = k then none else m.lookup k' := by
  by_cases h : k' = k
  · subst h
    simp
  · rw [if_neg h, AList.lookup_erase_ne h, AList.lookup_insert_ne h]

/-! ### The invariant of the table -/

/-- Every lock is referenced, and no two locks share a cookie. -/
structure LockInv (m : LockMap) : Prop where
  refs : ∀ k l, m.lookup k = some l → 1 ≤ l.refs
  distinct : ∀ k k' l l', m.lookup k = some l → m.lookup k' = some l' → l.cookie = l'.cookie → k = k'
  client : ∀ name l, m.lookup (.client name) = some l → 0 ≤ l.cookie

theorem LockInv.empty : LockInv ∅ := by
  constructor <;> simp

theorem LockInv.mono {m m' : LockMap} (h : LockInv m)
    (hsub : ∀ k l, m'.lookup k = some l → m.lookup k = some l) : LockInv m' where
  refs k l hl := h.refs k l (hsub k l hl)
  distinct k k' l l' hl hl' := h.distinct k k' l l' (hsub k l hl) (hsub k' l' hl')
  client name l hl := h.client name l (hsub _ l hl)

theorem LockInv.insert {m : LockMap} (h : LockInv m) {k : LockKey} {l : Lock} (hrefs : 1 ≤ l.refs)
    (hother : ∀ k' l', k' ≠ k → m.lookup k' = some l' → l'.cookie ≠ l.cookie)
    (hclient : ∀ name, k = .client name → 0 ≤ l.cookie) : LockInv (m.insert k l) := by
  have hcase (k' : LockKey) (l' : Lock) (hl' : (m.insert k l).lookup k' = some l') :
      k' = k ∧ l' = l ∨ k' ≠ k ∧ m.lookup k' = some l' := by
    by_cases hk : k' = k
    · subst hk
      rw [AList.lookup_insert] at hl'
      exact .inl ⟨rfl, (Option.some.inj hl').symm⟩
    · rw [AList.lookup_insert_ne hk] at hl'
      exact .inr ⟨hk, hl'⟩
  -- each lookup is of the new lock or of an old one
  constructor
  · intro k' l' hl'
    rcases hcase k' l' hl' with ⟨-, rfl⟩ | ⟨-, hl'⟩
    · exact hrefs
    · exact h.refs k' l' hl'
  · intro k₁ k₂ l₁ l₂ hl₁ hl₂ hc
    rcases hcase k₁ l₁ hl₁ with ⟨rfl, rfl⟩ | ⟨hk₁, hm₁⟩ <;>
      rcases hcase k₂ l₂ hl₂ with ⟨rfl, rfl⟩ | ⟨hk₂, hm₂⟩
    · rfl
    · exact absurd hc.symm (hother k₂ l₂ hk₂ hm₂)
    · exact absurd hc (hother k₁ l₁ hk₁ hm₁)
    · exact h.distinct k₁ k₂ l₁ l₂ hm₁ hm₂ hc
  · intro name l' hl'
    rcases hcase _ l' hl' with ⟨hk, rfl⟩ | ⟨-, hl'⟩
    · exact hclient name hk.symm
    · exact h.client name l' hl'

theorem LockInv.setRefs {m : LockMap} (h : LockInv m) {k : LockKey} {l : Lock} {n : ℤ}
    (hl : m.lookup k = some l) (hn : 1 ≤ n) : LockInv (m.insert k { l with refs := n }) := by
  refine h.insert hn (fun k' l' hk' hl' hc => hk' ?_) (fun name hk => ?_)
  · exact h.distinct k' k l' l hl' hl hc
  · exact h.client name l (hk ▸ hl)

/-! ### Which lock is dropped -/

theorem findLock_cookie {s : Locks} (h : LockInv s.lockMap) {key k : LockKey} {l : Lock}
    (hkey : s.lockMap.lookup key = none) (hl : s.lockMap.lookup k = some l) :
    findLock (some l.cookie) key s = some (k, l) := by
  unfold findLock
  rw [hkey]
  dsimp only
  have hmem : ⟨k, l⟩ ∈ s.lockMap.entries := AList.mem_lookup_iff.mp hl
  cases hf : s.lockMap.entries.find? (fun e => e.2.cookie = l.cookie) with
  | none =>
    have hno := List.find?_eq_none.mp hf _ hmem
    simp at hno
  | some e =>
    have hcookie : e.2.cookie = l.cookie := by simpa using List.find?_some hf
    have he : s.lockMap.lookup e.1 = some e.2 := AList.mem_lookup_iff.mpr (List.mem_of_find?_eq_some hf)
    have hk : e.1 = k := h.distinct e.1 k e.2 l he hl hcookie
    have hlock : e.2 = l := Option.some.inj (he.symm.trans (hk ▸ hl))
    simp [hk, hlock]

theorem findLock_some {s : Locks} {cookie : Option ℤ} {key k : LockKey} {l : Lock}
    (h : findLock cookie key s = some (k, l)) :
    s.lockMap.lookup k = some l ∧ (k = key ∨ cookie = some l.cookie) := by
  unfold findLock at h
  split at h
  · rename_i l' _ hl
    obtain ⟨rfl, rfl⟩ := Option.some.inj h
    exact ⟨hl, .inl rfl⟩
  · rename_i c hl
    obtain ⟨e, he, hkl⟩ := Option.map_eq_some_iff.mp h
    obtain ⟨rfl, rfl⟩ := hkl
    have hc : e.2.cookie = c := by simpa using List.find?_some he
    exact ⟨AList.mem_lookup_iff.mpr (List.mem_of_find?_eq_some he), .inr (by rw [hc])⟩
  · cases h

/-! ### UnInhibit -/

/-- What UnInhibit with cookie `c` should do: the lock with that cookie, whoever holds
it, loses one reference, and goes with one INHIBIT_REQ false when that was the last; no
other lock changes. If there is no such lock the call fails. -/
def UnInhibitLaw (s : Locks) (name : String) (c : ℤ) : Prop :=
  (∀ k l, s.lockMap.lookup k = some l → l.cookie = c →
    ∃ s' ms, dropInhibit (some c) (.client name) false s = some (s', ms) ∧
      (∀ k', k' ≠ k → s'.lockMap.lookup k' = s.lockMap.lookup k') ∧
      if l.refs - 1 = 0 then
        s'.lockMap.lookup k = none ∧ ∃ force, ms = [.inhibitReq false force]
      else s'.lockMap.lookup k = some { l with refs := l.refs - 1 } ∧ ms = []) ∧
  ((∀ k l, s.lockMap.lookup k = some l → l.cookie ≠ c) →
    dropInhibit (some c) (.client name) false s = none)

/-- The sender's own lock, if any, has the cookie; else the lock that has it, if any,
keeps a reference. -/
def UnInhibitOk (s : Locks) (name : String) (c : ℤ) : Prop :=
  match s.lockMap.lookup (.client name) with
  | some l => l.cookie = c
  | none => ∀ k l, s.lockMap.lookup k = some l → l.cookie = c → l.refs ≠ 1

theorem unInhibitLaw_own {s : Locks} (h : LockInv s.lockMap) {name : String} {l : Lock}
    (hl : s.lockMap.lookup (.client name) = some l) : UnInhibitLaw s name l.cookie := by
  constructor
  · intro k l' hl' hc
    obtain rfl : k = .client name := h.distinct k _ l' l hl' hl hc
    obtain rfl : l' = l := Option.some.inj (hl'.symm.trans hl)
    have hf : findLock (some l'.cookie) (.client name) s = some (.client name, l') := findLock_own hl
    obtain ⟨s', ms, hd⟩ := exists_dropInhibit hf false
    obtain ⟨k, l, hf', hcase⟩ := dropInhibit_cases hd
    obtain ⟨rfl, rfl⟩ := Option.some.inj (hf.symm.trans hf')
    refine ⟨s', ms, hd, ?_⟩
    rcases hcase with ⟨hz, hms, hm⟩ | ⟨hz, -, hms, hm⟩
    · -- own lock: the key removed is that of the lock found
      rw [if_pos (by simpa using hz), hm]
      refine ⟨fun k' hk' => ?_, ?_, _, hms⟩
      · rw [lookup_insert_erase, if_neg hk']
      · rw [lookup_insert_erase, if_pos rfl]
    · rw [if_neg (by simpa using hz), hm]
      exact ⟨fun k' hk' => AList.lookup_insert_ne hk', AList.lookup_insert _, hms⟩
  · intro hno
    exact absurd rfl (hno _ l hl)

theorem unInhibitLaw_other {s : Locks} (h : LockInv s.lockMap) {name : String} {c : ℤ}
    (hnone : s.lockMap.lookup (.client name) = none)
    (hok : ∀ k l, s.lockMap.lookup k = some l → l.cookie = c → l.refs ≠ 1) :
    UnInhibitLaw s name c := by
  constructor
  · rintro k l hl rfl
    have hf := findLock_cookie h hnone hl
    have hrefs : ¬l.refs - 1 = 0 := by
      have := hok k l hl rfl
      omega
    obtain ⟨s', ms, hd⟩ := exists_dropInhibit hf false
    obtain ⟨k', l', hf', hcase⟩ := dropInhibit_cases hd
    obtain ⟨rfl, rfl⟩ := Option.some.inj (hf.symm.trans hf')
    refine ⟨s', ms, hd, ?_⟩
    -- another sender's lock: the condition keeps it from its last reference
    rcases hcase with ⟨hz, -⟩ | ⟨-, -, hms, hm⟩
    · exact absurd (by simpa using hz) hrefs
    · rw [if_neg hrefs, hm]
      exact ⟨fun k' hk' => AList.lookup_insert_ne hk', AList.lookup_insert _, hms⟩
  · intro hno
    rw [dropInhibit_eq_none]
    cases hf : findLock (some c) (.client name) s with
    | none => rfl
    | some kl =>
      obtain ⟨hl, hkl⟩ := findLock_some hf
      rcases hkl with hk | hc
      · rw [hk, hnone] at hl
        cases hl
      · exact absurd (Option.some.inj hc).symm (hno _ _ hl)

/-- With a lock of its own, the sender has that one dropped: the law asks for its cookie. -/
theorem UnInhibitLaw.own_cookie {s : Locks} {name : String} {c : ℤ} {l : Lock}
    (h : UnInhibitLaw s name c) (hl : s.lockMap.lookup (.client name) = some l) : l.cookie = c := by
  obtain ⟨hhas, hno⟩ := h
  by_contra hne
  have hf : findLock (some c) (.client name) s = some (.client name, l) := findLock_own hl
  by_cases hex : ∃ k l', s.lockMap.lookup k = some l' ∧ l'.cookie = c
  · obtain ⟨k, l', hl', hc⟩ := hex
    have hk : .client name ≠ k := by
      rintro rfl
      exact hne (Option.some.inj (hl.symm.trans hl') ▸ hc)
    obtain ⟨s', ms, hd, hsame, -⟩ := hhas k l' hl' hc
    -- the sender's own lock changes instead
    obtain ⟨k₀, l₀, hf', hcase⟩ := dropInhibit_cases hd
    obtain ⟨rfl, rfl⟩ := Option.some.inj (hf.symm.trans hf')
    have hown := hsame _ hk
    rcases hcase with ⟨-, -, hm⟩ | ⟨-, -, -, hm⟩
    · rw [hm, AList.lookup_erase, hl] at hown
      cases hown
    · rw [hm, AList.lookup_insert, hl] at hown
      have hr := congrArg Lock.refs (Option.some.inj hown)
      dsimp only at hr
      omega
  · -- the call should fail, and does not
    have hd := hno fun k l' hl' hc => hex ⟨k, l', hl', hc⟩
    rw [dropInhibit_eq_none.mp hd] at hf
    cases hf

/-- Without one, the lock that has the cookie is dropped but not removed: the law asks for
another reference to it. -/
theorem UnInhibitLaw.refs_ne {s : Locks} (hinv : LockInv s.lockMap) {name : String} {k : LockKey}
    {l : Lock} (h : UnInhibitLaw s name l.cookie) (hnone : s.lockMap.lookup (.client name) = none)
    (hl : s.lockMap.lookup k = some l) : l.refs ≠ 1 := by
  intro hrefs
  obtain ⟨s', ms, hd, -, hif⟩ := h.1 k l hl rfl
  rw [if_pos (by omega)] at hif
  -- what is removed is the key of the sender, which holds no lock
  obtain ⟨k₀, l₀, hf, hcase⟩ := dropInhibit_cases hd
  obtain ⟨rfl, rfl⟩ := Option.some.inj (hf.symm.trans (findLock_cookie hinv hnone hl))
  have hk : k ≠ .client name := by
    rintro rfl
    rw [hnone] at hl
    cases hl
  rcases hcase with ⟨-, -, hm⟩ | ⟨hz, -⟩
  · rw [hm, AList.lookup_erase_ne hk, AList.lookup_insert] at hif
    cases hif.1
  · exact hz (by simp [hrefs])

/-- UnInhibit does what it should exactly under that condition: another cookie drops the
sender's own lock, and the last reference dropped by another sender leaves the lock. -/
theorem unInhibitLaw_iff {s : Locks} (h : LockInv s.lockMap) (name : String) (c : ℤ) :
    UnInhibitLaw s name c ↔ UnInhibitOk s name c := by
  unfold UnInhibitOk
  cases hl : s.lockMap.lookup (.client name) with
  | some l =>
    dsimp only
    constructor
    · intro hlaw
      exact hlaw.own_cookie hl
    · rintro rfl
      exact unInhibitLaw_own h hl
  | none =>
    dsimp only
    constructor
    · rintro hlaw k l hlk rfl
      exact hlaw.refs_ne h hl hlk
    · exact unInhibitLaw_other h hl

/-! ### Runs -/

def isGrab : Msg → Bool
  | .inhibitReq true _ => true
  | _ => false

def isRelease : Msg → Bool
  | .inhibitReq false _ => true
  | _ => false

/-- INHIBIT_REQ(true) minus INHIBIT_REQ(false) in a log of messages. -/
def balance (log : List Msg) : ℤ := (log.countP isGrab : ℤ) - log.countP isRelease

theorem balance_append (log ms : List Msg) : balance (log ++ ms) = balance log + balance ms := by
  simp only [balance, List.countP_append]
  omega

/-- A handler that keeps the log of what is published. -/
def record (log : List Msg) (m : Msg) : List Msg := log ++ [m]

theorem foldl_record (ms log : List Msg) : ms.foldl record log = log ++ ms := by
  induction ms generalizing log with
  | nil => simp
  | cons m ms ih => simp [record, ih]

/-- random() gives a cookie that no lock has. -/
def FreshCookie (s : Locks) : LockEvent → Prop
  | .inhibit _ rand _ => 0 ≤ rand ∧ ∀ k l, s.lockMap.lookup k = some l → l.cookie ≠ rand
  | _ => True

def LockStepOk (s : Locks) : LockEvent → Prop
  | .unInhibit name c => UnInhibitOk s name c
  | _ => True

/-- The table stays well formed, and its size follows the messages published. -/
def Accounts (s : Locks) (r : Locks × List Msg) : Prop :=
  LockInv r.1.lockMap ∧ (r.1.lockMap.keys.length : ℤ) = s.lockMap.keys.length + balance r.2

theorem Accounts.refl {s : Locks} (h : LockInv s.lockMap) : Accounts s (s, []) := ⟨h, by simp [balance]⟩

theorem createInhibit_accounts {cookie rand : ℤ} {key : LockKey} {alloc : Bool} {s : Locks}
    (h : LockInv s.lockMap)
    (hfresh : s.lockMap.lookup key = none → ∀ k l, s.lockMap.lookup k = some l →
      l.cookie ≠ if cookie ≠ clightCookie then rand else cookie)
    (hclient : ∀ name, key = .client name → 0 ≤ if cookie ≠ clightCookie then rand else cookie) :
    Accounts s (((createInhibit cookie key rand alloc s).map Prod.snd).getD (s, [])) := by
  cases hc : createInhibit cookie key rand alloc s with
  | none => exact .refl h
  | some r =>
    obtain ⟨c, s', ms⟩ := r
    rcases createInhibit_cases hc with ⟨l, hl, rfl, rfl, hm⟩ | ⟨hl, rfl, rfl, hm⟩
    · refine ⟨?_, ?_⟩
      · show LockInv s'.lockMap
        rw [hm]
        have := h.refs key l hl
        exact h.setRefs hl (by omega)
      · show (s'.lockMap.keys.length : ℤ) = _
        rw [hm, length_keys_insert_old _ hl]
        simp [balance]
    · refine ⟨?_, ?_⟩
      · show LockInv s'.lockMap
        rw [hm]
        exact h.insert le_rfl (fun k l _ => hfresh hl k l) hclient
      · show (s'.lockMap.keys.length : ℤ) = _
        rw [hm, length_keys_insert_new _ hl]
        simp [balance, isGrab, isRelease]

theorem dropInhibit_accounts {cookie : Option ℤ} {key : LockKey} {force : Bool} {s : Locks}
    (h : LockInv s.lockMap)
    (hok : ∀ k l, findLock cookie key s = some (k, l) → k = key ∨ force = false ∧ l.refs ≠ 1) :
    Accounts s ((dropInhibit cookie key force s).getD (s, [])) := by
  cases hd : dropInhibit cookie key force s with
  | none => exact .refl h
  | some r =>
    obtain ⟨s', ms⟩ := r
    obtain ⟨k, l, hf, hcase⟩ := dropInhibit_cases hd
    have hl := (findLock_some hf).1
    rcases hcase with ⟨hz, rfl, hm⟩ | ⟨hz, rfl, rfl, hm⟩
    -- only a lock that goes by its own key keeps the size and the messages together
    · obtain rfl : k = key := by
        rcases hok k l hf with hk | ⟨rfl, hrefs⟩
        · exact hk
        · exact absurd (by simpa using hz) (show ¬l.refs - 1 = 0 by omega)
      refine ⟨?_, ?_⟩
      · show LockInv s'.lockMap
        rw [hm]
        refine h.mono fun k' l' hl' => ?_
        rw [lookup_insert_erase] at hl'
        split_ifs at hl'
        exact hl'
      · show (s'.lockMap.keys.length : ℤ) = _
        rw [hm]
        have hlen := length_keys_insert_erase { l with refs := 0 } hl
        have hbal : balance [.inhibitReq false (k = .clight)] = -1 := rfl
        change _ = (s.lockMap.keys.length : ℤ) + balance [.inhibitReq false (k = .clight)]
        omega
    · refine ⟨?_, ?_⟩
      · show LockInv s'.lockMap
        rw [hm]
        have hpos := h.refs k l hl
        have hne : l.refs - 1 ≠ 0 := by simpa using hz
        exact h.setRefs hl (by omega)
      · show (s'.lockMap.keys.length : ℤ) = _
        rw [hm, length_keys_insert_old _ hl]
        simp [balance]

theorem next_accounts {s : Locks} {e : LockEvent} {r : Locks × List Msg} (h : LockInv s.lockMap)
    (hfresh : FreshCookie s e) (hok : LockStepOk s e) (hn : next s e = some r) : Accounts s r := by
  have hown {force : Bool} (key k : LockKey) (l : Lock) (hf : findLock none key s = some (k, l)) :
      k = key ∨ force = false ∧ l.refs ≠ 1 := .inl (findLock_none hf).1
  cases e <;> simp only [next] at hn
  case inhibit name rand alloc =>
    obtain rfl := Option.some.inj hn
    exact createInhibit_accounts h (fun _ => hfresh.2) fun _ _ => hfresh.1
  case unInhibit name c =>
    obtain rfl := Option.some.inj hn
    refine dropInhibit_accounts h fun k l hf => ?_
    obtain ⟨hl, hk | hc⟩ := findLock_some hf
    · exact .inl hk
    -- found by its cookie, or own
    · by_cases hk : k = .client name
      · exact .inl hk
      · refine .inr ⟨rfl, ?_⟩
        -- a lock found by its cookie: the sender has none
        simp only [LockStepOk, UnInhibitOk] at hok
        split at hok
        · rename_i l' hl'
          rw [findLock_own hl'] at hf
          obtain ⟨rfl, -⟩ := Option.some.inj hf
          exact absurd rfl hk
        · exact hok k l hl (Option.some.inj hc).symm
  case unInhibitObserved name =>
    obtain rfl := Option.some.inj hn
    exact dropInhibit_accounts h (hown _)
  case clightInhibit inhibit rand alloc =>
    split_ifs at hn
    · obtain rfl := Option.some.inj hn
      refine createInhibit_accounts h (fun hnone k l hl => ?_) fun name hk => by cases hk
      -- Clight's cookie is negative, those of clients are not
      cases k with
      | clight =>
        rw [hnone] at hl
        cases hl
      | client name =>
        have hpos := h.client name l hl
        intro hc
        rw [hc, if_neg (by simp)] at hpos
        exact absurd hpos (by decide)
    · obtain rfl := Option.some.inj hn
      exact dropInhibit_accounts h (hown _)
  case disconnect name =>
    split_ifs at hn
    · obtain rfl := Option.some.inj hn
      exact dropInhibit_accounts h (hown _)
    · obtain rfl := Option.some.inj hn
      exact .refl h

def lockMachine : Machine (Locks × List Msg) LockEvent := lockSource.sync record []

theorem lockMachine_init : lockMachine.init (.init, []) := ⟨rfl, rfl⟩

/-- In every run whose UnInhibit calls meet the condition, every lock is referenced, the
messages published balance the table, and the condition is exactly when the next
UnInhibit does what it should. -/
theorem lock_accounting {s : Locks × List Msg}
    (hs : lockMachine.ReachableBy (fun s e => FreshCookie s.1 e ∧ LockStepOk s.1 e) s) :
    (∀ k l, s.1.lockMap.lookup k = some l → 1 ≤ l.refs) ∧
      balance s.2 = s.1.lockMap.keys.length ∧
      ∀ name c, UnInhibitLaw s.1 name c ↔ UnInhibitOk s.1 name c := by
  have hinv : LockInv s.1.lockMap ∧ balance s.2 = s.1.lockMap.keys.length := by
    refine Machine.ReachableBy.invariant
      (I := fun s => LockInv s.1.lockMap ∧ balance s.2 = s.1.lockMap.keys.length) ?_ ?_ hs
    · rintro ⟨s, log⟩ ⟨rfl, rfl⟩
      exact ⟨.empty, rfl⟩
    · rintro ⟨s, log⟩ e s' ⟨h, hbal⟩ ⟨hfresh, hok⟩ hn
      obtain ⟨t, ms, hnext, rfl⟩ := Source.sync_next hn
      obtain ⟨ht, hlen⟩ := next_accounts h hfresh hok hnext
      refine ⟨ht, ?_⟩
      dsimp only at hbal hlen ⊢
      rw [foldl_record, balance_append]
      omega
  exact ⟨hinv.1.refs, hinv.2, fun name c => unInhibitLaw_iff hinv.1 name c⟩

/-- A client takes a lock and drops it with its own cookie. -/
theorem lock_accounting_own : ∃ s, lockMachine.run (.init, [])
    [.inhibit ":1.1" 7 true, .unInhibit ":1.1" 7] = some s ∧
    balance s.2 = s.1.lockMap.keys.length := by
  refine ⟨_, rfl, (lock_accounting (Machine.ReachableBy.of_run
    [.inhibit ":1.1" 7 true, .unInhibit ":1.1" 7] (.init lockMachine_init) ?_ rfl)).2.1⟩
  refine ⟨⟨⟨by decide, fun k l hl => ?_⟩, trivial⟩, fun s' hs' => ?_⟩
  · cases hl
  · obtain rfl := Option.some.inj hs'
    exact ⟨⟨trivial, rfl⟩, fun _ _ => trivial⟩

/-- Another client drops the last reference: INHIBIT_REQ false goes out, and the lock
stays with no reference. -/
theorem lock_accounting_fails : ¬ ∀ s, lockMachine.ReachableBy (fun s e => FreshCookie s.1 e) s →
    (∀ k l, s.1.lockMap.lookup k = some l → 1 ≤ l.refs) ∧
      balance s.2 = s.1.lockMap.keys.length ∧ ∀ name c, UnInhibitLaw s.1 name c := by
  intro h
  let es : List LockEvent := [.inhibit ":1.1" 7 true, .unInhibit ":1.2" 7]
  have hrun : (lockMachine.run (.init, []) es).any
      (fun s => s.1.lockMap.lookup (.client ":1.1") = some ⟨7, 0⟩) = true := by decide +kernel
  obtain ⟨s, hs, hp⟩ := (Option.any_eq_true _ _).mp hrun
  have hreach : lockMachine.ReachableBy (fun s e => FreshCookie s.1 e) s := by
    refine Machine.ReachableBy.of_run es (.init lockMachine_init) ?_ hs
    refine ⟨⟨by decide, fun k l hl => ?_⟩, fun _ _ => ⟨trivial, fun _ _ => trivial⟩⟩
    cases hl
  have hrefs := (h s hreach).1 _ _ (of_decide_eq_true hp)
  exact absurd hrefs (by decide)

end Clight.Locks
