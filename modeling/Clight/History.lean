import Clight.Machine

/-! History variables: a record of what a machine did, kept beside its state. -/
universe u v w

namespace Machine
variable {σ : Type u} {ε : Type v} {η : Type w} (M : Machine σ ε)

/-- The machine with what `record` keeps of each step. The record restrains no step. -/
def withHistory (h₀ : η) (record : η → σ → ε → σ → η) : Machine (σ × η) ε where
  init s := M.init s.1 ∧ s.2 = h₀
  next s e := (M.next s.1 e).map fun t => (t, record s.2 s.1 e t)

variable {M} {h₀ : η} {record : η → σ → ε → σ → η} {C : σ × η → ε → Prop}

theorem withHistory_next {s s' : σ × η} {e : ε} (hn : (M.withHistory h₀ record).next s e = some s') :
    M.next s.1 e = some s'.1 ∧ s'.2 = record s.2 s.1 e s'.1 := by
  obtain ⟨t, ht, rfl⟩ := Option.map_eq_some_iff.mp hn
  exact ⟨ht, rfl⟩

/-- Without its history, a state is one that the machine reaches. -/
theorem ReachableBy.forget {s : σ × η} (hs : (M.withHistory h₀ record).ReachableBy C s) :
    M.Reachable s.1 := by
  induction hs with
  | init h => exact .init h.1
  | step _ _ hn ih => exact .step ih trivial (withHistory_next hn).1

/-- The invariant rule for a state and its history. -/
theorem ReachableBy.history {I : σ → η → Prop} (h0 : ∀ s, M.init s → I s h₀)
    (hstep : ∀ s h e t, M.Reachable s → I s h → C (s, h) e → M.next s e = some t →
      I t (record h s e t))
    {s : σ × η} (hs : (M.withHistory h₀ record).ReachableBy C s) : I s.1 s.2 := by
  refine hs.induct (I := fun s => I s.1 s.2) ?_ ?_
  · rintro ⟨s, h⟩ ⟨hinit, hh⟩
    dsimp only at hinit hh ⊢
    rw [hh]
    exact h0 s hinit
  · rintro ⟨s, h⟩ e ⟨t, h'⟩ hr hi hc hn
    obtain ⟨ht, hrec⟩ := withHistory_next hn
    dsimp only at hrec hi ht ⊢
    rw [hrec]
    exact hstep s h e t hr.forget hi hc ht

end Machine
