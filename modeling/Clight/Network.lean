import Clight.Machine
import Mathlib

/-! Modules that receive messages from mailboxes of their own, and publish others as they do. If every
receipt is worth more than all that it publishes, only so many receipts follow from what is queued. -/
universe u v w x

/-- `receive` is one receipt, given what it finds outside. Modules that do not run have no mailbox. -/
structure Network (σ : Type u) (ι : Type v) (μ : Type w) (ρ : Type x) where
  receive : ρ → ι → μ → σ → σ × List μ
  subscribes : σ → ι → μ → Bool
  running : σ → ι → Bool

structure Boxes (σ : Type u) (ι : Type v) (μ : Type w) where
  state : σ
  box : ι → List μ

/-- A receipt, or what comes from outside: messages for all or for one module, and writes. -/
inductive NetworkEvent (σ : Type u) (ι : Type v) (μ : Type w) (ρ : Type x)
  | deliver (i : ι) (r : ρ)
  | publish (m : μ)
  | tell (i : ι) (m : μ)
  | write (state : σ)

namespace NetworkEvent
variable {σ : Type u} {ι : Type v} {μ : Type w} {ρ : Type x}

def receipts : NetworkEvent σ ι μ ρ → ℕ
  | deliver _ _ => 1
  | _ => 0

/-- Messages that come from outside. -/
def arrivals : NetworkEvent σ ι μ ρ → ℕ
  | publish _ | tell _ _ => 1
  | _ => 0

end NetworkEvent

namespace Network
variable {σ : Type u} {ι : Type v} {μ : Type w} {ρ : Type x} (N : Network σ ι μ ρ)

def publish (ms : List μ) (s : Boxes σ ι μ) : Boxes σ ι μ :=
  { s with box := fun i =>
      if N.running s.state i then s.box i ++ ms.filter (N.subscribes s.state i) else [] }

section receipts
variable [DecidableEq ι]

/-- A module has received the first message of its mailbox. -/
def received (r : ρ) (i : ι) (m : μ) (box : List μ) (s : Boxes σ ι μ) : Boxes σ ι μ :=
  N.publish (N.receive r i m s.state).2
    { state := (N.receive r i m s.state).1, box := Function.update s.box i box }

def next (s : Boxes σ ι μ) : NetworkEvent σ ι μ ρ → Option (Boxes σ ι μ)
  | .deliver i r => match s.box i with
    | [] => none
    | m :: box => some (N.received r i m box s)
  | .publish m => some (N.publish [m] s)
  | .tell i m =>
    if N.running s.state i then some { s with box := Function.update s.box i (s.box i ++ [m]) } else none
  | .write state => some (N.publish [] { s with state := state })

def machine (init : Boxes σ ι μ → Prop) : Machine (Boxes σ ι μ) (NetworkEvent σ ι μ ρ) where
  init := init
  next := N.next

end receipts

/-- `worth` is what a receipt may lead to, itself included, and `cost` what a message is worth to all who
hear of it. -/
structure Price [Fintype ι] where
  worth : ι → μ → ℕ
  cost : μ → ℕ
  heard : ∀ s m, (∑ i, if N.subscribes s i m then worth i m else 0) ≤ cost m
  paid : ∀ r i m s, ((N.receive r i m s).2.map cost).sum < worth i m

namespace Price
variable [Fintype ι] {N} (P : N.Price) {s t : Boxes σ ι μ}

/-- What the messages in the mailboxes may lead to. -/
def backlog (s : Boxes σ ι μ) : ℕ := ∑ i, ((s.box i).map (P.worth i)).sum

def charge : NetworkEvent σ ι μ ρ → ℕ
  | .publish m => P.cost m
  | .tell i m => P.worth i m
  | _ => 0

theorem heard_list (state : σ) (ms : List μ) :
    (∑ i, ((ms.filter (N.subscribes state i)).map (P.worth i)).sum) ≤ (ms.map P.cost).sum := by
  induction ms with
  | nil => simp
  | cons m ms ih =>
    have hone (i : ι) : (((m :: ms).filter (N.subscribes state i)).map (P.worth i)).sum =
        (if N.subscribes state i m then P.worth i m else 0) +
          ((ms.filter (N.subscribes state i)).map (P.worth i)).sum := by
      rw [List.filter_cons]
      split_ifs
      · rw [List.map_cons, List.sum_cons]
      · rw [Nat.zero_add]
    simp only [hone]
    rw [Finset.sum_add_distrib, List.map_cons, List.sum_cons]
    exact Nat.add_le_add (P.heard state m) ih

/-- What is published adds its cost; the mailboxes of modules that stop go. -/
theorem backlog_publish (ms : List μ) (s : Boxes σ ι μ) :
    P.backlog (N.publish ms s) ≤ P.backlog s + (ms.map P.cost).sum := by
  have hbox (i : ι) : (((N.publish ms s).box i).map (P.worth i)).sum ≤
      ((s.box i).map (P.worth i)).sum + ((ms.filter (N.subscribes s.state i)).map (P.worth i)).sum := by
    unfold publish
    dsimp only
    split_ifs
    · rw [List.map_append, List.sum_append]
    · exact Nat.zero_le _
  calc P.backlog (N.publish ms s)
      ≤ ∑ i, (((s.box i).map (P.worth i)).sum +
          ((ms.filter (N.subscribes s.state i)).map (P.worth i)).sum) :=
        Finset.sum_le_sum fun i _ => hbox i
    _ = P.backlog s + ∑ i, ((ms.filter (N.subscribes s.state i)).map (P.worth i)).sum :=
        Finset.sum_add_distrib
    _ ≤ P.backlog s + (ms.map P.cost).sum := Nat.add_le_add_left (P.heard_list s.state ms) _

variable [DecidableEq ι]

/-- One mailbox apart, the backlog stays. -/
theorem backlog_update (i : ι) (box : List μ) (s : Boxes σ ι μ) (state : σ) :
    P.backlog { state := state, box := Function.update s.box i box } + ((s.box i).map (P.worth i)).sum =
      P.backlog s + (box.map (P.worth i)).sum := by
  have hothers : ∀ j ∈ Finset.univ.erase i,
      ((Function.update s.box i box j).map (P.worth j)).sum = ((s.box j).map (P.worth j)).sum := by
    intro j hj
    rw [Function.update_of_ne (Finset.ne_of_mem_erase hj)]
  have hnew := Finset.add_sum_erase Finset.univ
    (fun j => ((Function.update s.box i box j).map (P.worth j)).sum) (Finset.mem_univ i)
  have hold := Finset.add_sum_erase Finset.univ
    (fun j => ((s.box j).map (P.worth j)).sum) (Finset.mem_univ i)
  rw [Finset.sum_congr rfl hothers] at hnew
  rw [Function.update_self] at hnew
  unfold backlog
  dsimp only
  omega

/-- A receipt is paid by the message that it takes out of its mailbox. -/
theorem step {e : NetworkEvent σ ι μ ρ} (hn : N.next s e = some t) :
    e.receipts + P.backlog t ≤ P.backlog s + P.charge e := by
  cases e with
  | deliver i r =>
    simp only [next] at hn
    cases hbox : s.box i with
    | nil =>
      rw [hbox] at hn
      cases hn
    | cons m box =>
      rw [hbox] at hn
      obtain rfl := Option.some.inj hn
      have hpaid := P.paid r i m s.state
      have hpub := P.backlog_publish (N.receive r i m s.state).2
        { state := (N.receive r i m s.state).1, box := Function.update s.box i box }
      have hrest := P.backlog_update i box s (N.receive r i m s.state).1
      rw [hbox, List.map_cons, List.sum_cons] at hrest
      unfold charge NetworkEvent.receipts received
      dsimp only
      omega
  | publish m =>
    obtain rfl := Option.some.inj hn
    have hpub := P.backlog_publish [m] s
    rw [List.map_singleton, List.sum_singleton] at hpub
    exact (Nat.zero_add _).trans_le hpub
  | tell i m =>
    simp only [next] at hn
    split_ifs at hn
    obtain rfl := Option.some.inj hn
    have hrest := P.backlog_update i (s.box i ++ [m]) s s.state
    rw [List.map_append, List.sum_append, List.map_singleton, List.sum_singleton] at hrest
    change 0 + P.backlog { state := s.state, box := Function.update s.box i (s.box i ++ [m]) } ≤
      P.backlog s + P.worth i m
    omega
  | write state =>
    obtain rfl := Option.some.inj hn
    exact (Nat.zero_add _).trans_le (P.backlog_publish [] { s with state := state })

/-- Over any run, receipts are paid by what was queued and by what came from outside. -/
theorem run {init : Boxes σ ι μ → Prop} {es : List (NetworkEvent σ ι μ ρ)}
    (hrun : (N.machine init).run s es = some t) :
    (es.map NetworkEvent.receipts).sum + P.backlog t ≤ P.backlog s + (es.map P.charge).sum := by
  induction es generalizing s with
  | nil =>
    obtain rfl := Option.some.inj hrun
    exact (Nat.zero_add _).le
  | cons e es ih =>
    obtain ⟨s', hs', hrest⟩ := Option.bind_eq_some_iff.mp hrun
    have hstep := P.step hs'
    have hlater := ih hrest
    simp only [List.map_cons, List.sum_cons]
    omega

/-- Whatever is queued, the mailboxes can be emptied. -/
theorem drains {init : Boxes σ ι μ → Prop} (r : ρ) (s : Boxes σ ι μ) :
    ∃ es t, (N.machine init).run s es = some t ∧ (∀ e ∈ es, ∃ i, e = .deliver i r) ∧
      es.length ≤ P.backlog s ∧ ∀ i, t.box i = [] := by
  induction hb : P.backlog s using Nat.strong_induction_on generalizing s with
  | _ n ih =>
    by_cases hempty : ∀ i, s.box i = []
    · exact ⟨[], s, rfl, nofun, Nat.zero_le _, hempty⟩
    · obtain ⟨i, hi⟩ := not_forall.mp hempty
      obtain ⟨m, box, hbox⟩ := List.exists_cons_of_ne_nil hi
      have hnext : ∃ s', N.next s (.deliver i r) = some s' := by
        simp only [next, hbox]
        exact ⟨_, rfl⟩
      obtain ⟨s', hs'⟩ := hnext
      have hstep : 1 + P.backlog s' ≤ P.backlog s + 0 := P.step hs'
      obtain ⟨es, t, hrun, hes, hlength, ht⟩ := ih (P.backlog s') (by omega) s' rfl
      refine ⟨.deliver i r :: es, t, ?_, ?_, ?_, ht⟩
      · exact Option.bind_eq_some_iff.mpr ⟨s', hs', hrun⟩
      · intro e he
        rcases List.mem_cons.mp he with rfl | he
        · exact ⟨i, rfl⟩
        · exact hes e he
      · rw [List.length_cons]
        omega

end Price
end Network
