import Clight.Machine
import Mathlib.Data.List.Sigma

/-! Cells that are written one at a time: after any run a cell holds what was written to it last. -/
universe u v w x

namespace WriteLog
variable {σ : Type u} {ε : Type v} {κ : Type w} {ν : κ → Type x} [DecidableEq κ]
variable (get : σ → (k : κ) → ν k)

/-- The writes `ps`, with the newest first, and no others lie between the two states. -/
def Written (ps : List (Sigma ν)) (s s' : σ) : Prop := ∀ k, get s' k = (ps.dlookup k).getD (get s k)

variable {get} {ps qs : List (Sigma ν)} {s s' s'' : σ} {k : κ} {v : ν k}

theorem Written.refl (s : σ) : Written get [] s s := fun _ => rfl

theorem Written.trans (h : Written get ps s s') (h' : Written get qs s' s'') :
    Written get (qs ++ ps) s s'' := by
  intro k
  rw [h' k, h k, List.dlookup_append]
  cases qs.dlookup k with
  | none => rfl
  | some v => rfl

/-- One cell is written, and the others are left alone. -/
theorem Written.cell (hk : get s' k = v) (hframe : ∀ k', k' ≠ k → get s' k' = get s k') :
    Written get [⟨k, v⟩] s s' := by
  intro k'
  by_cases h : k' = k
  · subst h
    rw [List.dlookup_cons_eq]
    exact hk
  · rw [List.dlookup_cons_ne _ ⟨k, v⟩ h]
    exact hframe k' h

variable (M : Machine σ ε) (puts : σ → ε → List (Sigma ν))

/-- All that a run writes. -/
def log : σ → List ε → List (Sigma ν)
  | _, [] => []
  | s, e :: es => ((M.next s e).elim [] fun s' => log s' es) ++ puts s e

variable {M puts}

/-- If each step writes what it is said to write, so does a run. -/
theorem Written.run (hstep : ∀ s e s', M.next s e = some s' → Written get (puts s e) s s')
    {es : List ε} (hrun : M.run s es = some s') : Written get (log M puts s es) s s' := by
  induction es generalizing s with
  | nil =>
    obtain rfl := Option.some.inj hrun
    exact .refl s
  | cons e es ih =>
    obtain ⟨t, ht, hrest⟩ := Option.bind_eq_some_iff.mp hrun
    have hlog : log M puts s (e :: es) = log M puts t es ++ puts s e := by
      rw [log, ht]
      rfl
    rw [hlog]
    exact (hstep s e t ht).trans (ih hrest)

end WriteLog
