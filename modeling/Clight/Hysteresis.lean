import Mathlib.Data.List.Chain
import Mathlib.Data.Real.Basic
import Mathlib.Tactic.Linarith

/-! A value with hysteresis: an input replaces it only if it is far from it. -/
universe u

namespace Hysteresis
variable {α : Type u} (far : α → α → Prop) [DecidableRel far]

/-- The value that the inputs leave, the oldest input first. -/
def held (a : α) (rs : List α) : α := rs.foldl (fun a r => if far r a then r else a) a

/-- The inputs that have replaced the value. -/
def taken : α → List α → List α
  | _, [] => []
  | a, r :: rs => if far r a then r :: taken r rs else taken a rs

variable {far} {a r r' : α} {rs : List α}

theorem held_append (a : α) (rs : List α) (r : α) :
    held far a (rs ++ [r]) = if far r (held far a rs) then r else held far a rs :=
  List.foldl_concat ..

theorem taken_append (a : α) (rs : List α) (r : α) :
    taken far a (rs ++ [r]) = taken far a rs ++ if far r (held far a rs) then [r] else [] := by
  induction rs generalizing a with
  | nil =>
    have hone : taken far a [r] = if far r a then [r] else [] := rfl
    exact hone
  | cons q rs ih =>
    unfold held at ih ⊢
    rw [List.cons_append, taken, taken, List.foldl_cons]
    by_cases hq : far q a
    · rw [if_pos hq, if_pos hq, if_pos hq, ih, List.cons_append]
    · rw [if_neg hq, if_neg hq, if_neg hq, ih]

/-- Each value taken is far from the one before. -/
theorem isChain_taken (a : α) (rs : List α) : (a :: taken far a rs).IsChain fun x y => far y x := by
  induction rs generalizing a with
  | nil => exact .singleton a
  | cons r rs ih =>
    rw [taken]
    by_cases hr : far r a
    · rw [if_pos hr]
      exact .cons_cons hr (ih r)
    · rw [if_neg hr]
      exact ih a

theorem taken_sublist (a : α) (rs : List α) : (taken far a rs).Sublist rs := by
  induction rs generalizing a with
  | nil => exact .slnil
  | cons r rs ih =>
    rw [taken]
    by_cases hr : far r a
    · rw [if_pos hr]
      exact (ih r).cons_cons r
    · rw [if_neg hr]
      exact (ih a).cons r

theorem held_eq_getLastD (a : α) (rs : List α) : held far a rs = (taken far a rs).getLastD a := by
  induction rs using List.reverseRecOn with
  | nil => rfl
  | append_singleton rs r ih =>
    rw [held_append, taken_append]
    by_cases hr : far r (held far a rs)
    · rw [if_pos hr, if_pos hr, List.getLastD_concat]
    · rw [if_neg hr, if_neg hr, List.append_nil, ih]

/-- The value is never far from the newest input. -/
theorem not_far_held (hself : ∀ r, ¬far r r) (a : α) (rs : List α) (r : α) :
    ¬far r (held far a (rs ++ [r])) := by
  rw [held_append]
  by_cases hr : far r (held far a rs)
  · rw [if_pos hr]
    exact hself r
  · rw [if_neg hr]
    exact hr

section Metric
variable {d : α → α → ℝ} {thr : ℝ}

/-- An input that lies twice the threshold from the one before is taken. -/
theorem taken_of_twice (hfar : ∀ r a, far r a ↔ thr ≤ d r a) (hself : ∀ r, ¬far r r)
    (htri : ∀ x y z, d x z ≤ d x y + d y z) (hcomm : ∀ x y, d x y = d y x) (h : thr + thr ≤ d r' r)
    (a : α) (rs : List α) : taken far a (rs ++ [r, r']) = taken far a (rs ++ [r]) ++ [r'] := by
  have hnear : d r (held far a (rs ++ [r])) < thr := by
    have hnot := not_far_held hself a rs r
    rw [hfar, not_le] at hnot
    exact hnot
  have hmove : far r' (held far a (rs ++ [r])) := by
    rw [hfar]
    -- over the value, the way from the older input is no shorter
    have hover := htri r' (held far a (rs ++ [r])) r
    have hback := hcomm (held far a (rs ++ [r])) r
    linarith
  have hsplit : rs ++ [r, r'] = (rs ++ [r]) ++ [r'] := by
    rw [List.append_assoc]
    rfl
  rw [hsplit, taken_append, if_pos hmove]

end Metric
end Hysteresis
