import Clight.TimeoutBatch

/-! One timeout written over D-Bus, whatever was written before: what the module that is
asked stores for it. -/
namespace Clight

theorem update_eq_update_iff {α : Type*} {β : Type*} [DecidableEq α] {f : α → β} {a b : α}
    (hne : a ≠ b) (v : β) :
    Function.update f a v = Function.update f b v ↔ f a = v ∧ f b = v := by
  constructor
  · intro h
    have ha := congrFun h a
    have hb := congrFun h b
    rw [Function.update_self, Function.update_of_ne hne] at ha
    rw [Function.update_self, Function.update_of_ne hne.symm] at hb
    exact ⟨ha.symm, hb⟩
  · rintro ⟨ha, hb⟩
    rw [Function.update_eq_iff.mpr ⟨ha.symm, fun _ _ => rfl⟩]
    exact (Function.update_eq_iff.mpr ⟨hb.symm, fun _ _ => rfl⟩).symm

namespace Daemon

/-- A delivery leaves the requests as they are, and takes one reference from the queue. -/
theorem next_deliver_kept {fit : Fit} {s s' : Daemon} {r : DaemonReplies} (h : Inv s)
    (hn : next fit s (.deliver r) = some s') : s'.reqs = s.reqs ∧ s'.queue = s.queue.tail := by
  obtain ⟨n, queue, hqueue, hdel⟩ := h.next_deliver hn
  rw [hqueue]
  exact ⟨hdel.reqs, hdel.queue⟩

theorem run_deliver_kept {fit : Fit} (rs : List DaemonReplies) {s t : Daemon} (h : Inv s)
    (hrun : (daemon fit).run s (rs.map .deliver) = some t) :
    Inv t ∧ t.reqs = s.reqs ∧ t.queue = s.queue.drop rs.length := by
  induction rs generalizing s with
  | nil =>
    obtain rfl := Option.some.inj hrun
    exact ⟨h, rfl, rfl⟩
  | cons r rs ih =>
    obtain ⟨u, hn, hrest⟩ := Option.bind_eq_some_iff.mp hrun
    have hu : next fit s (.deliver r) = some u := hn
    obtain ⟨hreqs, hqueue⟩ := next_deliver_kept h hu
    obtain ⟨hinv, hreqs', hqueue'⟩ := ih (Inv.next h hu) hrest
    refine ⟨hinv, hreqs'.trans hreqs, ?_⟩
    rw [hqueue', hqueue, List.drop_tail, List.length_cons]

/-- The timeout that a request names once it is published for a property: the property's own,
but for DPMS's timeout on battery. -/
def publishedFor : TimeoutProp → TimeoutProp
  | .dpms .onBattery => .dpms .onAc
  | p => p

theorem publishedFor_of_ne {p : TimeoutProp} (h : p ≠ .dpms .onBattery) : publishedFor p = p := by
  cases p with
  | dpms ac =>
    cases ac with
    | onAc => rfl
    | onBattery => exact absurd rfl h
  | _ => rfl

theorem publishedFor_req (p : TimeoutProp) : (publishedFor p).req = p.req := by
  by_cases h : p = .dpms .onBattery
  · rw [h]
    rfl
  · rw [publishedFor_of_ne h]

theorem names_publishedFor {s : Daemon} (h : Inv s) (p : TimeoutProp) (v : ℤ) :
    (setTimeouts p v s.reqs p.req).Names (publishedFor p) := by
  by_cases hp : p = .dpms .onBattery
  · subst hp
    exact setTimeouts_names (n := .dpms .onAc) h.dpms (.dpms .onBattery) v
  · have hbranch : branchTarget p = p := by
      cases p with
      | dpms ac =>
        cases ac with
        | onAc => rfl
        | onBattery => exact absurd rfl hp
      | _ => rfl
    obtain ⟨n, hreq, hnames⟩ := h.names p.req
    have hstep := setTimeouts_names (n := n) (by rw [hreq]; exact hnames) p v
    rw [hbranch, hreq, if_pos rfl] at hstep
    rw [publishedFor_of_ne hp]
    exact hstep

/-- Whatever was written before and is still in the queue: when the request of a write is
handled, its own timeout and no other is set, unless it is DPMS's timeout on battery. -/
theorem timeout_stored_iff {fit : Fit} {s t : Daemon} (hs : (daemon fit).Reachable s)
    (p : TimeoutProp) (v : ℤ) (rs : List DaemonReplies) (hlen : rs.length = s.queue.length)
    (ht : (daemon fit).run s (.write p v :: rs.map .deliver) = some t)
    (hkbd : p.req = .kbd → t.kbd.paused.isUnpaused = true) (r : DaemonReplies) :
    ∃ s', (daemon fit).next t (.deliver r) = some s' ∧ s'.queue = [] ∧
      (s'.cf.timeouts = Function.update t.cf.timeouts p v ↔
        p ≠ .dpms .onBattery ∨
          t.cf.timeouts (.dpms .onAc) = v ∧ t.cf.timeouts (.dpms .onBattery) = v) := by
  have hinv := inv_of_reachable hs
  have hwrite : next fit s (.write p v) =
      some { s with reqs := setTimeouts p v s.reqs, queue := s.queue ++ [p.req] } := rfl
  obtain ⟨hinv', hreqs, hqueue⟩ := run_deliver_kept rs (hinv.next hwrite) ht
  -- the request of the write is the only one left
  have hlast : t.queue = [p.req] := by
    rw [hqueue]
    exact (congrArg (List.drop · _) rfl).trans (by rw [hlen, List.drop_left])
  have hnames : (t.reqs (publishedFor p).req).Names (publishedFor p) := by
    rw [hreqs, publishedFor_req]
    exact names_publishedFor hinv p v
  obtain ⟨s', hs', hdel⟩ := deliver_spec fit r (s := { t with queue := [] }) { hinv'.running with } hnames
  have hnew : (t.reqs (publishedFor p).req).new = v := by
    rw [hreqs, publishedFor_req]
    change (setTimeouts p v s.reqs p.req).new = v
    rw [setTimeouts, setNew, Function.update_self]
  have htimeouts : s'.cf.timeouts = Function.update t.cf.timeouts (publishedFor p) v := by
    have hheard : ¬ ((publishedFor p).req = .kbd ∧ t.kbd.paused.isUnpaused = false) := by
      rintro ⟨hreq, hpaused⟩
      rw [publishedFor_req] at hreq
      rw [hkbd hreq] at hpaused
      cases hpaused
    rw [hdel.timeouts, if_neg hheard, hnew]
  refine ⟨s', ?_, hdel.queue, ?_⟩
  · change next fit t (.deliver r) = some s'
    rw [publishedFor_req] at hs'
    simp only [next, hlast]
    exact hs'
  · rw [htimeouts]
    by_cases hp : p = .dpms .onBattery
    · subst hp
      exact (update_eq_update_iff (by decide) v).trans (or_iff_right (not_not_intro rfl)).symm
    · rw [publishedFor_of_ne hp]
      exact iff_of_true rfl (.inl hp)

def earlierWrites : List DaemonEvent :=
  [.write (.dim .onAc) 60, .deliver okReplies, .write (.dpms .onBattery) 5, .deliver okReplies,
    .write (.scr .onBattery) 10]

/-- With a request of SCREEN still queued, the backlight timeout of the events on battery is
written and nothing else is. -/
theorem timeout_stored_event : ∃ s t s',
    (daemon fun _ => (0, 0, 0)).run (start Conf.default) earlierWrites = some s ∧
    (daemon fun _ => (0, 0, 0)).run s [.write (.bl .onBattery .inEvent) 90, .deliver okReplies] = some t ∧
    (daemon fun _ => (0, 0, 0)).next t (.deliver okReplies) = some s' ∧ s'.queue = [] ∧
    s'.cf.timeouts = Function.update t.cf.timeouts (.bl .onBattery .inEvent) 90 := by
  have hany : ((daemon fun _ => (0, 0, 0)).run (start Conf.default) earlierWrites).any
      (fun s => s.queue.length = 1) = true := by decide +kernel
  obtain ⟨s, hs, hp⟩ := (Option.any_eq_true _ _).mp hany
  have hlen : [okReplies].length = s.queue.length := (of_decide_eq_true hp).symm
  have hsome : ((daemon fun _ => (0, 0, 0)).run (start Conf.default) (earlierWrites ++
      [.write (.bl .onBattery .inEvent) 90, .deliver okReplies])).isSome = true := by decide +kernel
  rw [Machine.run_append, hs] at hsome
  obtain ⟨t, ht⟩ := Option.isSome_iff_exists.mp hsome
  have hreach := Machine.reachable_of_run (init_start Conf.default) hs
  obtain ⟨s', hs', hempty, hiff⟩ := timeout_stored_iff hreach (.bl .onBattery .inEvent) 90
    [okReplies] hlen ht nofun okReplies
  exact ⟨s, t, s', hs, ht, hs', hempty, hiff.mpr (.inl nofun)⟩

/-- DPMS's timeout on battery is asked for, and the one on AC is set. -/
theorem timeout_stored_elsewhere : ¬ ∀ (fit : Fit) (s t : Daemon), (daemon fit).Reachable s →
    ∀ (p : TimeoutProp) (v : ℤ) (rs : List DaemonReplies), rs.length = s.queue.length →
      (daemon fit).run s (.write p v :: rs.map .deliver) = some t →
      (p.req = .kbd → t.kbd.paused.isUnpaused = true) → ∀ r : DaemonReplies,
        ∃ s', (daemon fit).next t (.deliver r) = some s' ∧
          s'.cf.timeouts = Function.update t.cf.timeouts p v := by
  intro h
  obtain ⟨t, ht⟩ := Option.isSome_iff_exists.mp (show ((daemon fun _ => (0, 0, 0)).run
    (start Conf.default) [.write (.dpms .onBattery) 7]).isSome = true from rfl)
  obtain ⟨s', hs', heq⟩ := h (fun _ => (0, 0, 0)) (start Conf.default) t (.init (init_start _))
    (.dpms .onBattery) 7 [] rfl ht nofun okReplies
  have hrun : (((daemon fun _ => (0, 0, 0)).run (start Conf.default) [.write (.dpms .onBattery) 7]).bind
      fun t => (daemon fun _ => (0, 0, 0)).next t (.deliver okReplies)).map
      (fun s => s.cf.timeouts (.dpms .onBattery)) = some 300 := by decide +kernel
  have hstored : s'.cf.timeouts (.dpms .onBattery) = 300 := by
    rw [ht] at hrun
    exact Option.some.inj ((congrArg (Option.map _) hs').symm.trans hrun)
  rw [heq, Function.update_self] at hstored
  exact absurd hstored (by decide)

end Daemon
end Clight
