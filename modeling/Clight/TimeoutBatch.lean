import Clight.Opts
import Clight.Timeouts

/-! Several timeouts written before their requests are handled. A request is what its static
message holds at the end, however many references to it are queued. -/
namespace Clight

abbrev TimeoutWrite := TimeoutProp × ℤ

/-! ### The last write of a kind -/

def lastOf (q : TimeoutProp → Bool) (ws : List TimeoutWrite) : Option TimeoutWrite :=
  ws.reverse.find? fun w => q w.1

@[simp] theorem lastOf_append (q : TimeoutProp → Bool) (ws : List TimeoutWrite) (w : TimeoutWrite) :
    lastOf q (ws ++ [w]) = if q w.1 then some w else lastOf q ws := by
  unfold lastOf
  rw [List.reverse_append, List.reverse_singleton, List.singleton_append, List.find?_cons]
  cases q w.1 <;> rfl

theorem lastOf_mem {q : TimeoutProp → Bool} {ws : List TimeoutWrite} {w : TimeoutWrite}
    (h : lastOf q ws = some w) : w ∈ ws ∧ q w.1 = true := by
  unfold lastOf at h
  have hq := List.find?_some h
  exact ⟨List.mem_reverse.mp (List.mem_of_find?_eq_some h), hq⟩

theorem lastOf_eq_some {q : TimeoutProp → Bool} {ws : List TimeoutWrite} {w : TimeoutWrite}
    (hmem : w ∈ ws) (hq : q w.1 = true) (honly : ∀ w' ∈ ws, q w'.1 = true → w' = w) :
    lastOf q ws = some w := by
  cases hlast : lastOf q ws with
  | none =>
    have hno := List.find?_eq_none.mp hlast w (List.mem_reverse.mpr hmem)
    exact absurd hq hno
  | some w' =>
    obtain ⟨hmem', hq'⟩ := lastOf_mem hlast
    rw [honly w' hmem' hq']

/-- The value of a timeout once the writes were applied one after the other. -/
def lastValue (t : TimeoutProp → ℤ) (ws : List TimeoutWrite) (p : TimeoutProp) : ℤ :=
  ((lastOf (· = p) ws).map Prod.snd).getD (t p)

def applyWrites (ws : List TimeoutWrite) (t : TimeoutProp → ℤ) : TimeoutProp → ℤ :=
  ws.foldl (fun t w => Function.update t w.1 w.2) t

theorem applyWrites_eq (ws : List TimeoutWrite) (t : TimeoutProp → ℤ) :
    applyWrites ws t = lastValue t ws := by
  induction ws using List.reverseRecOn with
  | nil => rfl
  | append_singleton ws w ih =>
    funext p
    unfold applyWrites at ih ⊢
    rw [List.foldl_append, ih, List.foldl_cons, List.foldl_nil, lastValue, lastOf_append]
    by_cases hp : w.1 = p
    · subst hp
      simp
    · rw [Function.update_of_ne (Ne.symm hp)]
      simp [hp, lastValue]

/-! ### What the requests name -/

/-- The timeout that the branch of a property names, in the request it belongs to. -/
def branchTarget : TimeoutProp → TimeoutProp
  | .dpms .onBattery => .dim .onBattery
  | p => p

/-- The timeout that a request names after some writes, if any of them has named it. -/
def lastTarget (k : ToReq) (ws : List TimeoutWrite) : Option TimeoutProp :=
  (lastOf (fun p => (branchTarget p).req = k) ws).map fun w => branchTarget w.1

def batch (ws : List TimeoutWrite) (reqs : ToReqs) : ToReqs :=
  ws.foldl (fun reqs w => setTimeouts w.1 w.2 reqs) reqs

theorem batch_append (ws : List TimeoutWrite) (w : TimeoutWrite) (reqs : ToReqs) :
    batch (ws ++ [w]) reqs = setTimeouts w.1 w.2 (batch ws reqs) := by
  unfold batch
  rw [List.foldl_append, List.foldl_cons, List.foldl_nil]

theorem names_setNew (k k' : ToReq) (v : ℤ) (reqs : ToReqs) (p : TimeoutProp) :
    (setNew k' v reqs k).Names p ↔ (reqs k).Names p := by
  unfold setNew
  by_cases hk : k = k'
  · subst hk
    rw [Function.update_self]
    cases p <;> rfl
  · rw [Function.update_of_ne hk]

theorem setName_of_ne {p : TimeoutProp} {k : ToReq} (h : (branchTarget p).req ≠ k) (reqs : ToReqs) :
    setName p reqs k = reqs k := by
  cases p with
  | bl ac t => exact (setState_of_ne h ac _).trans (setDaytime_of_ne h t reqs)
  | kbd ac => exact setState_of_ne h ac reqs
  | dim ac => exact setState_of_ne h ac reqs
  | dpms ac =>
    cases ac with
    | onAc => exact setState_of_ne h .onAc reqs
    | onBattery => exact setState_of_ne h .onBattery reqs
  | scr ac => exact setState_of_ne h ac reqs

/-- There it names the target of the branch; only BACKLIGHT's requests have a daytime. -/
theorem setName_names {p n : TimeoutProp} {reqs : ToReqs} (hn : n.req = (branchTarget p).req)
    (h : (reqs n.req).Names n) : (setName p reqs (branchTarget p).req).Names (branchTarget p) := by
  have hday := h.daytime
  rw [hn] at hday
  cases p with
  | bl ac t =>
    have ht : (setName (.bl ac t) reqs .bl).daytime = t.toInt :=
      (setState_daytime ..).trans (setDaytime_daytime ..)
    exact ⟨setState_state .., ht⟩
  | kbd ac => exact ⟨setState_state .., (setState_daytime ..).trans (hday nofun)⟩
  | dim ac => exact ⟨setState_state .., (setState_daytime ..).trans (hday nofun)⟩
  | dpms ac =>
    cases ac with
    | onAc => exact ⟨setState_state .., (setState_daytime ..).trans (hday nofun)⟩
    | onBattery => exact ⟨setState_state .., (setState_daytime ..).trans (hday nofun)⟩
  | scr ac => exact ⟨setState_state .., (setState_daytime ..).trans (hday nofun)⟩

/-- One write: the request of the branch names its target, the others what they did. -/
theorem setTimeouts_names {n : TimeoutProp} {reqs : ToReqs} (h : (reqs n.req).Names n)
    (p : TimeoutProp) (v : ℤ) : (setTimeouts p v reqs n.req).Names
      (if (branchTarget p).req = n.req then branchTarget p else n) := by
  rw [setTimeouts, names_setNew]
  by_cases hk : (branchTarget p).req = n.req
  · rw [if_pos hk, ← hk]
    exact setName_names hk.symm h
  · rw [if_neg hk, setName_of_ne hk]
    exact h

/-- All writes: a request names the last target, or what it did if it has none. -/
theorem batch_names {n : TimeoutProp} {reqs : ToReqs} (h : (reqs n.req).Names n)
    (ws : List TimeoutWrite) : ((lastTarget n.req ws).getD n).req = n.req ∧
      (batch ws reqs n.req).Names ((lastTarget n.req ws).getD n) := by
  induction ws using List.reverseRecOn with
  | nil => exact ⟨rfl, h⟩
  | append_singleton ws w ih =>
    obtain ⟨hreq, hnames⟩ := ih
    have hstep := setTimeouts_names (n := (lastTarget n.req ws).getD n) (by rw [hreq]; exact hnames)
      w.1 w.2
    rw [hreq] at hstep
    rw [batch_append, lastTarget, lastOf_append]
    by_cases hk : (branchTarget w.1).req = n.req
    · rw [if_pos hk] at hstep
      simp only [hk, decide_true, if_true, Option.map_some, Option.getD_some, true_and]
      exact hstep
    · rw [if_neg hk] at hstep
      simp only [hk, decide_false, Bool.false_eq_true, if_false]
      exact ⟨hreq, hstep⟩

theorem setName_new (p : TimeoutProp) (reqs : ToReqs) (k : ToReq) :
    (setName p reqs k).new = (reqs k).new := by
  cases p with
  | bl ac t => exact (setState_new ..).trans (setDaytime_new ..)
  | kbd ac => exact setState_new ..
  | dim ac => exact setState_new ..
  | dpms ac => cases ac <;> exact setState_new ..
  | scr ac => exact setState_new ..

/-- A request carries the value of the last write to its module. -/
theorem batch_new {k : ToReq} {ws : List TimeoutWrite} {w : TimeoutWrite} {reqs : ToReqs}
    (h : lastOf (fun p => p.req = k) ws = some w) : (batch ws reqs k).new = w.2 := by
  induction ws using List.reverseRecOn with
  | nil => cases h
  | append_singleton ws w' ih =>
    rw [lastOf_append] at h
    rw [batch_append, setTimeouts, setNew]
    by_cases hk : w'.1.req = k
    · simp only [hk, decide_true, if_true] at h
      obtain rfl := Option.some.inj h
      rw [hk, Function.update_self]
    · simp only [hk, decide_false, Bool.false_eq_true, if_false] at h
      rw [Function.update_of_ne (Ne.symm hk), setName_new]
      exact ih h

/-! ### Runs -/

namespace Daemon

/-- Every request names a timeout of its module; that of DPMS never names the one on battery. -/
structure Inv (s : Daemon) : Prop where
  running : Running s
  names : ∀ k, ∃ n : TimeoutProp, n.req = k ∧ (s.reqs k).Names n
  dpms : (s.reqs .dpms).Names (.dpms .onAc)

theorem Inv.of_init {s : Daemon} (h : Init s) : Inv s := by
  obtain ⟨hrun, hreqs, -⟩ := h
  refine ⟨hrun, ?_, ?_⟩
  · intro k
    rw [hreqs]
    cases k with
    | bl => exact ⟨.bl .onAc .day, rfl, rfl, rfl⟩
    | kbd => exact ⟨.kbd .onAc, rfl, rfl, rfl⟩
    | dimmer => exact ⟨.dim .onAc, rfl, rfl, rfl⟩
    | dpms => exact ⟨.dpms .onAc, rfl, rfl, rfl⟩
    | scr => exact ⟨.scr .onAc, rfl, rfl, rfl⟩
  · rw [hreqs]
    exact ⟨rfl, rfl⟩

/-- A delivery hands the first request of the queue to its module. -/
theorem Inv.next_deliver {fit : Fit} {s s' : Daemon} {r : DaemonReplies} (h : Inv s)
    (hn : Daemon.next fit s (.deliver r) = some s') :
    ∃ (n : TimeoutProp) (queue : List ToReq), s.queue = n.req :: queue ∧
      Delivered n { s with queue := queue } s' := by
  obtain ⟨bl, scr, kbd, dim, dpms, st, cf, reqs, queue⟩ := s
  cases queue with
  | nil => cases hn
  | cons k queue =>
    obtain ⟨n, rfl, hnames⟩ := h.names k
    obtain ⟨t, ht, hdel⟩ := deliver_spec fit r (s := ⟨bl, scr, kbd, dim, dpms, st, cf, reqs, queue⟩)
      { h.running with } hnames
    obtain rfl : t = s' := Option.some.inj (ht.symm.trans hn)
    exact ⟨n, queue, rfl, hdel⟩

theorem Inv.next {fit : Fit} {s s' : Daemon} {e : DaemonEvent} (h : Inv s)
    (hn : next fit s e = some s') : Inv s' := by
  cases e with
  | write p v =>
    obtain rfl := Option.some.inj hn
    refine ⟨{ h.running with }, ?_, ?_⟩
    · intro k
      obtain ⟨n, rfl, hnames⟩ := h.names k
      refine ⟨_, ?_, setTimeouts_names hnames p v⟩
      split_ifs with hk
      · exact hk
      · rfl
    · have hstep := setTimeouts_names (n := .dpms .onAc) h.dpms p v
      have hsame : (if (branchTarget p).req = (TimeoutProp.dpms .onAc).req then branchTarget p
          else .dpms .onAc) = .dpms .onAc := by
        cases p with
        | dpms ac => cases ac <;> rfl
        | _ => rfl
      rw [hsame] at hstep
      exact hstep
  | deliver r =>
    obtain ⟨n, queue, -, hdel⟩ := h.next_deliver hn
    refine ⟨hdel.running, ?_, ?_⟩
    · rw [hdel.reqs]
      exact h.names
    · rw [hdel.reqs]
      exact h.dpms

theorem inv_of_reachable {fit : Fit} {s : Daemon} (hs : (daemon fit).Reachable s) : Inv s :=
  hs.invariant (fun _ => .of_init) fun _ _ _ h _ hn => h.next hn

/-- The loop on the bus only writes and queues. -/
theorem run_writes (fit : Fit) (ws : List TimeoutWrite) (s : Daemon) :
    (daemon fit).run s (ws.map fun w => .write w.1 w.2) =
      some { s with reqs := batch ws s.reqs, queue := s.queue ++ ws.map fun w => w.1.req } := by
  induction ws generalizing s with
  | nil => simp [Machine.run, batch]
  | cons w ws ih =>
    rw [List.map_cons, Machine.run]
    refine (ih _).trans ?_
    simp [batch]

def Drops (s : Daemon) (k : ToReq) : Prop := k = .kbd ∧ s.kbd.paused.isUnpaused = false

instance (s : Daemon) (k : ToReq) : Decidable (Drops s k) := by unfold Drops; infer_instance

/-- The value of a timeout once the requests in `queue` were delivered: the one that a module's
request names has the value that the request carries, if there is a request and it is not dropped. -/
def settled (s : Daemon) (n : ToReq → TimeoutProp) (queue : List ToReq) (p : TimeoutProp) : ℤ :=
  if p.req ∈ queue ∧ ¬ Drops s p.req ∧ p = n p.req then (s.reqs p.req).new else s.cf.timeouts p

/-- A delivery to another module does not make KEYBOARD drop its requests, or stop to. -/
theorem Delivered.drops_iff {p : TimeoutProp} {s t : Daemon} (h : Delivered p s t) {k : ToReq}
    (hk : k ≠ p.req) : Drops t k ↔ Drops s k := by
  unfold Drops
  by_cases hkbd : k = .kbd
  · have hne : p.req ≠ .kbd := by
      rw [← hkbd]
      exact hk.symm
    rw [h.kbd (.inl hne)]
  · simp [hkbd]

/-- One delivery: the requests left give the rest the values that they had to give before it. -/
theorem Delivered.settled_eq {s t : Daemon} {n : ToReq → TimeoutProp} {k : ToReq}
    (hn : ∀ k, (n k).req = k) (hdel : Delivered (n k) s t) (queue : List ToReq) (p : TimeoutProp) :
    settled t n queue p = settled s n (k :: queue) p := by
  unfold settled
  rw [hdel.reqs]
  have hkept (hne : p ≠ n k) : t.cf.timeouts p = s.cf.timeouts p := by
    rw [hdel.timeouts]
    split
    · rfl
    · exact Function.update_of_ne hne _ _
  by_cases hp : p = n k
  · have hk : p.req = k := hp ▸ hn k
    have hpn : p = n p.req := by rw [hk]; exact hp
    have hmem : p.req ∈ k :: queue := hk ▸ List.mem_cons_self
    by_cases hd : Drops s p.req
    · -- dropped now, hence dropped again
      have hkbd : t.kbd = s.kbd := hdel.kbd (.inr hd.2)
      have hd' : Drops t p.req := ⟨hd.1, by rw [hkbd]; exact hd.2⟩
      have hsame : t.cf.timeouts p = s.cf.timeouts p := by
        rw [hdel.timeouts, if_pos ⟨hp ▸ hd.1, hd.2⟩]
      rw [if_neg (fun h' => h'.2.1 hd'), if_neg (fun h' => h'.2.1 hd), hsame]
    · -- stored now, and stored again with the same value if it is still in the queue
      have hstored : t.cf.timeouts p = (s.reqs p.req).new := by
        rw [hdel.timeouts, if_neg (hp ▸ hd), ← hp, Function.update_self]
      rw [hstored, ite_self, if_pos ⟨hmem, hd, hpn⟩]
  · by_cases hk : p.req = k
    · -- of this module, but not what its request names
      have hpn : p ≠ n p.req := by rw [hk]; exact hp
      rw [if_neg (fun h' => hpn h'.2.2), if_neg (fun h' => hpn h'.2.2), hkept hp]
    · -- of another module
      have hdrops : Drops t p.req ↔ Drops s p.req := by
        apply hdel.drops_iff
        rw [hn k]
        exact hk
      have hmem : p.req ∈ k :: queue ↔ p.req ∈ queue := by simp [hk]
      rw [hkept hp]
      simp only [hdrops, hmem]

/-- Draining the queue settles every timeout. The induction is on the deliveries. -/
theorem drain (fit : Fit) (rs : List DaemonReplies) {s : Daemon} {n : ToReq → TimeoutProp}
    (h : Running s) (hn : ∀ k, (n k).req = k) (hnames : ∀ k, (s.reqs k).Names (n k))
    (hlen : rs.length = s.queue.length) :
    ∃ s', (daemon fit).run s (rs.map .deliver) = some s' ∧ s'.queue = [] ∧
      ∀ p, s'.cf.timeouts p = settled s n s.queue p := by
  induction rs generalizing s with
  | nil =>
    have hnil : s.queue = [] := List.length_eq_zero_iff.mp hlen.symm
    exact ⟨s, rfl, hnil, fun p => by simp [hnil, settled]⟩
  | cons r rs ih =>
    obtain ⟨k, queue, hqueue⟩ := List.exists_cons_of_length_eq_add_one hlen.symm
    obtain ⟨t, ht, hdel⟩ := deliver_spec fit r (s := { s with queue := queue }) (p := n k)
      { h with } (by rw [hn k]; exact hnames k)
    have hlen' : rs.length = t.queue.length := by
      rw [hdel.queue]
      rw [hqueue, List.length_cons, List.length_cons] at hlen
      exact Nat.succ.inj hlen
    obtain ⟨s', hrun, hempty, htimeouts⟩ := ih hdel.running (hdel.reqs.symm ▸ hnames) hlen'
    have hnext : next fit s (.deliver r) = some t := by
      rw [hn k] at ht
      simp only [next, hqueue]
      exact ht
    refine ⟨s', ?_, hempty, ?_⟩
    · rw [List.map_cons, Machine.run]
      exact (congrArg (Option.bind · _) hnext).trans hrun
    · intro p
      calc s'.cf.timeouts p = settled t n t.queue p := htimeouts p
        _ = settled t n queue p := by rw [hdel.queue]
        _ = settled s n (k :: queue) p := hdel.settled_eq hn queue p
        _ = settled s n s.queue p := by rw [hqueue]

/-! ### Which writes survive -/

/-- The writes to a timeout end with the value that it has already. -/
def Restates (t : TimeoutProp → ℤ) (ws : List TimeoutWrite) (p : TimeoutProp) : Prop :=
  ∀ w, lastOf (· = p) ws = some w → w.2 = t p

theorem restates_iff {t : TimeoutProp → ℤ} {ws : List TimeoutWrite} {p : TimeoutProp} :
    Restates t ws p ↔ lastValue t ws p = t p := by
  unfold Restates lastValue
  cases lastOf (· = p) ws with
  | none => simp
  | some w => simp

/-- For each module written to: its last write is the last one to the timeout that the request
ends up naming, and every other timeout of the module is written with the value it has. A
paused KEYBOARD stores nothing, so that there all writes are of the latter kind. -/
def NoWriteLost (s : Daemon) (ws : List TimeoutWrite) : Prop :=
  ∀ k w, lastOf (fun p => p.req = k) ws = some w →
    if Drops s k then ∀ p : TimeoutProp, p.req = k → Restates s.cf.timeouts ws p
    else
      let named := (lastTarget k ws).getD (.dpms .onAc)
      lastValue s.cf.timeouts ws named = w.2 ∧
        ∀ p : TimeoutProp, p.req = k → p ≠ named → Restates s.cf.timeouts ws p

/-- Only DPMS can be written to without its request being named. -/
theorem lastTarget_isSome {k : ToReq} {ws : List TimeoutWrite} {w : TimeoutWrite}
    (h : lastOf (fun p => p.req = k) ws = some w) (hk : k ≠ .dpms) : (lastTarget k ws).isSome := by
  obtain ⟨hmem, hreq⟩ := lastOf_mem h
  have hbranch : (branchTarget w.1).req = k := by
    rw [← of_decide_eq_true hreq]
    rw [← of_decide_eq_true hreq] at hk
    cases hp : w.1 with
    | dpms ac => exact absurd (congrArg TimeoutProp.req hp) hk
    | _ => rfl
  unfold lastTarget lastOf
  rw [Option.isSome_map, List.find?_isSome]
  exact ⟨w, List.mem_reverse.mpr hmem, decide_eq_true hbranch⟩

theorem lastOf_isSome_iff {k : ToReq} {ws : List TimeoutWrite} :
    (lastOf (fun p => p.req = k) ws).isSome ↔ k ∈ ws.map fun w => w.1.req := by
  unfold lastOf
  rw [List.find?_isSome]
  simp

theorem lastValue_of_notMem {t : TimeoutProp → ℤ} {ws : List TimeoutWrite} {p : TimeoutProp}
    (h : p.req ∉ ws.map fun w => w.1.req) : lastValue t ws p = t p := by
  refine restates_iff.mp ?_
  intro w hw
  obtain ⟨hmem, hp⟩ := lastOf_mem hw
  exact absurd (List.mem_map.mpr ⟨w, hmem, congrArg TimeoutProp.req (of_decide_eq_true hp)⟩) h

/-- One module: `t'` are its timeouts after a request that names `n` and carries `v` was stored,
or dropped, if there was one. -/
theorem module_kept_iff {t t' : TimeoutProp → ℤ} {ws : List TimeoutWrite} {k : ToReq}
    {n : TimeoutProp} {v : ℤ} (dropped : Prop) [Decidable dropped] (hn : n.req = k)
    (hv : ∀ w, lastOf (fun p => p.req = k) ws = some w → v = w.2)
    (ht : ∀ p : TimeoutProp, p.req = k →
      t' p = if k ∈ (ws.map fun w => w.1.req) ∧ ¬ dropped ∧ p = n then v else t p) :
    (∀ p : TimeoutProp, p.req = k → t' p = lastValue t ws p) ↔
      ∀ w, lastOf (fun p => p.req = k) ws = some w →
        if dropped then ∀ p : TimeoutProp, p.req = k → Restates t ws p
        else lastValue t ws n = w.2 ∧ ∀ p : TimeoutProp, p.req = k → p ≠ n → Restates t ws p := by
  cases hlast : lastOf (fun p => p.req = k) ws with
  | none =>
    have hnone : k ∉ ws.map fun w => w.1.req := by
      rw [← lastOf_isSome_iff, hlast]
      exact Bool.false_ne_true
    constructor
    · intro _ w hw
      cases hw
    · intro _ p hp
      rw [ht p hp, if_neg (fun h => hnone h.1), lastValue_of_notMem (hp ▸ hnone)]
  | some w =>
    have hmem : k ∈ ws.map fun w => w.1.req := by
      rw [← lastOf_isSome_iff, hlast]
      rfl
    have hall {q : TimeoutWrite → Prop} : (∀ w', some w = some w' → q w') ↔ q w := by simp
    rw [hall]
    by_cases hd : dropped
    · rw [if_pos hd]
      have hsame (p : TimeoutProp) (hp : p.req = k) : t' p = t p := by
        rw [ht p hp, if_neg (fun h => h.2.1 hd)]
      constructor
      · intro h p hp
        exact restates_iff.mpr ((h p hp).symm.trans (hsame p hp))
      · intro h p hp
        exact (hsame p hp).trans (restates_iff.mp (h p hp)).symm
    · rw [if_neg hd]
      have hstored : t' n = w.2 := by
        rw [ht n hn, if_pos ⟨hmem, hd, rfl⟩]
        exact hv w hlast
      have hsame (p : TimeoutProp) (hp : p.req = k) (hne : p ≠ n) : t' p = t p := by
        rw [ht p hp, if_neg (fun h => hne h.2.2)]
      constructor
      · intro h
        refine ⟨(h n hn).symm.trans hstored, ?_⟩
        intro p hp hne
        exact restates_iff.mpr ((h p hp).symm.trans (hsame p hp hne))
      · intro h p hp
        by_cases hne : p = n
        · rw [hne, hstored, h.1]
        · exact (hsame p hp hne).trans (restates_iff.mp (h.2 p hp hne)).symm

/-- However the writes of one loop on the bus are followed by their deliveries, the timeouts in
use are in the end those that the writes give one after the other, if and only if no write is
lost in this sense. -/
theorem timeouts_kept_iff (fit : Fit) {s : Daemon} (hs : (daemon fit).Reachable s)
    (hqueue : s.queue = []) (ws : List TimeoutWrite) (rs : List DaemonReplies)
    (hlen : rs.length = ws.length) :
    ∃ s', (daemon fit).run s (ws.map (fun w => .write w.1 w.2) ++ rs.map .deliver) = some s' ∧
      s'.queue = [] ∧ (s'.cf.timeouts = applyWrites ws s.cf.timeouts ↔ NoWriteLost s ws) := by
  have hinv := inv_of_reachable hs
  -- what each request named before the writes; DPMS's never names the timeout on battery
  have hbefore : ∀ k, ∃ n : TimeoutProp, n.req = k ∧ (s.reqs k).Names n ∧ (k = .dpms → n = .dpms .onAc) := by
    intro k
    by_cases hk : k = .dpms
    · subst hk
      exact ⟨.dpms .onAc, rfl, hinv.dpms, fun _ => rfl⟩
    · obtain ⟨n, hreq, hnames⟩ := hinv.names k
      exact ⟨n, hreq, hnames, fun h => absurd h hk⟩
  choose n₀ hn₀ using hbefore
  -- what it names once all writes are done
  have hafter (k : ToReq) : ((lastTarget k ws).getD (n₀ k)).req = k ∧
      (batch ws s.reqs k).Names ((lastTarget k ws).getD (n₀ k)) := by
    obtain ⟨hreq, hnames, -⟩ := hn₀ k
    have hbatch := batch_names (n := n₀ k) (by rw [hreq]; exact hnames) ws
    rw [hreq] at hbatch
    exact hbatch
  obtain ⟨s', hrun, hempty, htimeouts⟩ := drain fit rs
    (s := { s with reqs := batch ws s.reqs, queue := s.queue ++ ws.map fun w => w.1.req })
    { hinv.running with } (fun k => (hafter k).1) (fun k => (hafter k).2) (by simp [hqueue, hlen])
  refine ⟨s', ?_, hempty, ?_⟩
  · rw [Machine.run_append, run_writes]
    exact hrun
  -- a request that was published was named by a write, but for DPMS's
  have hnamed (k : ToReq) (w : TimeoutWrite) (hw : lastOf (fun p => p.req = k) ws = some w) :
      (lastTarget k ws).getD (n₀ k) = (lastTarget k ws).getD (.dpms .onAc) := by
    by_cases hk : k = .dpms
    · rw [(hn₀ k).2.2 hk]
    · obtain ⟨n, hsome⟩ := Option.isSome_iff_exists.mp (lastTarget_isSome hw hk)
      rw [hsome]
      rfl
  rw [applyWrites_eq]
  calc s'.cf.timeouts = lastValue s.cf.timeouts ws
      ↔ ∀ k, ∀ p : TimeoutProp, p.req = k → s'.cf.timeouts p = lastValue s.cf.timeouts ws p :=
        ⟨fun h _ p _ => congrFun h p, fun h => funext fun p => h p.req p rfl⟩
    _ ↔ NoWriteLost s ws := by
        refine forall_congr' fun k => ?_
        have hv (w : TimeoutWrite) (hw : lastOf (fun p => p.req = k) ws = some w) :
            (batch ws s.reqs k).new = w.2 := batch_new hw
        refine (module_kept_iff (Drops s k) (hafter k).1 hv ?_).trans ?_
        · intro p hp
          subst hp
          rw [htimeouts, hqueue]
          rfl
        · refine forall_congr' fun w => forall_congr' fun hw => ?_
          rw [hnamed k w hw]

/-- One write to each module, none of them to DPMS's timeout on battery, and KEYBOARD not
paused: then no write is lost. -/
theorem noWriteLost_of_nodup {s : Daemon} {ws : List TimeoutWrite} (hkbd : ¬ Drops s .kbd)
    (hone : (ws.map fun w => w.1.req).Nodup) (hdpms : ∀ w ∈ ws, w.1 ≠ .dpms .onBattery) :
    NoWriteLost s ws := by
  have hunique {w w' : TimeoutWrite} (hw : w ∈ ws) (hw' : w' ∈ ws) (h : w.1.req = w'.1.req) : w = w' :=
    List.inj_on_of_nodup_map hone hw hw' h
  have hbranch {w : TimeoutWrite} (hw : w ∈ ws) : branchTarget w.1 = w.1 := by
    have hne := hdpms w hw
    cases hp : w.1 with
    | dpms ac =>
      cases ac with
      | onAc => rfl
      | onBattery => exact absurd hp hne
    | _ => rfl
  intro k w hlast
  obtain ⟨hmem, hreq⟩ := lastOf_mem hlast
  have hk : w.1.req = k := of_decide_eq_true hreq
  have hdrops : ¬ Drops s k := by
    intro hd
    exact hkbd ⟨rfl, hd.2⟩
  have htarget : lastTarget k ws = some w.1 := by
    have hlast' : lastOf (fun p => (branchTarget p).req = k) ws = some w := by
      apply lastOf_eq_some hmem
      · rw [hbranch hmem]
        exact hreq
      · intro w' hmem' hreq'
        have hk' := of_decide_eq_true hreq'
        rw [hbranch hmem'] at hk'
        exact hunique hmem' hmem (hk'.trans hk.symm)
    rw [lastTarget, hlast', Option.map_some, hbranch hmem]
  have hvalue : lastValue s.cf.timeouts ws w.1 = w.2 := by
    have hlast' : lastOf (· = w.1) ws = some w := by
      apply lastOf_eq_some hmem
      · exact decide_eq_true rfl
      · intro w' hmem' hp
        exact hunique hmem' hmem (congrArg TimeoutProp.req (of_decide_eq_true hp))
    rw [lastValue, hlast', Option.map_some, Option.getD_some]
  rw [if_neg hdrops, htarget]
  refine ⟨hvalue, ?_⟩
  intro p hp hne w' hw'
  obtain ⟨hmem', hp'⟩ := lastOf_mem hw'
  have hw : w' = w := hunique hmem' hmem (by rw [of_decide_eq_true hp', hp, hk])
  subst hw
  exact absurd (of_decide_eq_true hp').symm hne

/-- The five modules running on AC by day, none of them paused. -/
def start (cf : Conf) : Daemon where
  bl := { Backlight.init with stack := [], blRegistered := true }
  scr := { Screen.init with stack := [] }
  kbd := { Keyboard.init with stack := [] }
  dim := { Idle.init with stack := [], client := true }
  dpms := { Idle.init with stack := [], client := true }
  st := { initState cf with acState := some .onAc, dayTime := some .day, lidState := some .opened }
  cf := cf
  reqs := fun _ => { new := 0, state := 0, daytime := 0 }
  queue := []

theorem init_start (cf : Conf) : Init (start cf) := ⟨⟨⟨rfl, rfl⟩, rfl, rfl, rfl, rfl⟩, rfl, rfl⟩

def okReplies : DaemonReplies where
  bl := { sensor := true, capture := none, levels := [], setSent := true }
  screen := none
  kbd := true
  idle := true

def threeWrites : List TimeoutWrite := [(.bl .onAc .day, 100), (.kbd .onBattery, 7), (.dim .onAc, 60)]

theorem timeouts_kept_iff_three : ∃ s', (daemon fun _ => (0, 0, 0)).run (start Conf.default)
      (threeWrites.map (fun w => .write w.1 w.2) ++ (List.replicate 3 okReplies).map .deliver) = some s' ∧
    s'.queue = [] ∧ s'.cf.timeouts = applyWrites threeWrites Conf.default.timeouts := by
  have hreach : (daemon fun _ => (0, 0, 0)).Reachable (start Conf.default) :=
    .init (init_start Conf.default)
  obtain ⟨s', hrun, hempty, hiff⟩ :=
    timeouts_kept_iff (fun _ => (0, 0, 0)) hreach rfl threeWrites (List.replicate 3 okReplies) rfl
  refine ⟨s', hrun, hempty, hiff.mpr ?_⟩
  apply noWriteLost_of_nodup
  · decide
  · decide
  · decide

/-- Two writes to BACKLIGHT in one loop: the first one is lost. -/
theorem timeout_write_lost : ¬ ∀ (fit : Fit) (s : Daemon), (daemon fit).Reachable s → s.queue = [] →
    s.kbd.paused.isUnpaused = true → ∀ (ws : List TimeoutWrite) (rs : List DaemonReplies),
      rs.length = ws.length → ∃ s',
        (daemon fit).run s (ws.map (fun w => .write w.1 w.2) ++ rs.map .deliver) = some s' ∧
          s'.queue = [] ∧ s'.cf.timeouts = applyWrites ws s.cf.timeouts := by
  intro h
  obtain ⟨s', hrun, -, heq⟩ := h (fun _ => (0, 0, 0)) (start Conf.default) (.init (init_start _)) rfl rfl
    [(.bl .onAc .day, 100), (.bl .onAc .night, 200)] [okReplies, okReplies] rfl
  have hday : ((daemon fun _ => (0, 0, 0)).run (start Conf.default)
      [.write (.bl .onAc .day) 100, .write (.bl .onAc .night) 200, .deliver okReplies,
        .deliver okReplies]).map (fun s => s.cf.timeouts (.bl .onAc .day)) = some 600 := by
    decide +kernel
  have hlost : s'.cf.timeouts (.bl .onAc .day) = 600 :=
    Option.some.inj ((congrArg (Option.map _) hrun).symm.trans hday)
  rw [heq] at hlost
  exact absurd hlost (by decide)

end Daemon
end Clight
