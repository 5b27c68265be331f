/-! A value that changes by request. An observer that reads a value other than the one held asks
for the change; all its requests share one cell, so that each of them, when it is served, stores
what was asked for last. -/
universe u

structure SharedRequest (α : Type u) where
  held : α
  cell : α
  pending : Nat

namespace SharedRequest
variable {α : Type u} {l : SharedRequest α}

def observe [DecidableEq α] (v : α) (l : SharedRequest α) : SharedRequest α :=
  if l.held ≠ v then { l with cell := v, pending := l.pending + 1 } else l

def serve (l : SharedRequest α) : SharedRequest α :=
  { l with held := l.cell, pending := l.pending - 1 }

/-- What is held once all requests in flight are served. -/
def settled (l : SharedRequest α) : α := if l.pending = 0 then l.held else l.cell

theorem settled_of_idle (hidle : l.pending = 0) : l.settled = l.held := if_pos hidle

theorem settled_serve (hpending : 0 < l.pending) : l.serve.settled = l.settled := by
  have hbusy : l.pending ≠ 0 := Nat.ne_of_gt hpending
  unfold settled serve
  rw [if_neg hbusy]
  exact ite_self l.cell

/-- What was just read will be held, unless it is held now and a request in flight asks for
another value: the observer then does not ask. -/
theorem settled_observe [DecidableEq α] {v : α} :
    (l.observe v).settled = v ↔ (l.held = v → l.settled = v) := by
  unfold observe
  by_cases hheld : l.held = v
  · rw [if_neg fun hne => hne hheld]
    exact ⟨fun h _ => h, fun h => h hheld⟩
  · rw [if_pos hheld]
    have hasked : ({ l with cell := v, pending := l.pending + 1 } : SharedRequest α).settled = v :=
      if_neg l.pending.succ_ne_zero
    exact ⟨fun _ hv => absurd hv hheld, fun _ => hasked⟩

end SharedRequest
