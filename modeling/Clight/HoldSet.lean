import Mathlib.Data.List.Induction
import Mathlib.Data.Set.Insert
import Mathlib.Order.BooleanAlgebra.Set
import Mathlib.Tactic.Tauto

/-! Sets kept by requests that may repeat and overlap: whoever asked last to hold is held. A component
that tracks such a set reports when it stops being empty, and when it is empty again. -/
universe u v

namespace HoldSet
variable {α : Type u} {a : α}

/-- A request to hold an element, or to release it. -/
abbrev Request (α : Type u) := Bool × α

/-- What a request makes of the set that is held. -/
def request (r : Request α) (held : Set α) : Set α := if r.1 then insert r.2 held else held \ {r.2}

section Last
variable [DecidableEq α] {rs : List (Request α)}

/-- The last request about `a`. -/
def last (a : α) (rs : List (Request α)) : Option Bool :=
  (rs.filter fun r => r.2 = a).getLast?.map Prod.fst

/-- The elements whose last request was to hold them. -/
def held (rs : List (Request α)) : Set α := { a | last a rs = some true }

theorem last_append (a : α) (rs : List (Request α)) (r : Request α) :
    last a (rs ++ [r]) = if r.2 = a then some r.1 else last a rs := by
  unfold last
  rw [List.filter_append]
  by_cases hr : r.2 = a
  · have hone : [r].filter (fun r => decide (r.2 = a)) = [r] := by simp [hr]
    rw [if_pos hr, hone, List.getLast?_concat]
    rfl
  · have hnone : [r].filter (fun r => decide (r.2 = a)) = [] := by simp [hr]
    rw [if_neg hr, hnone, List.append_nil]

theorem held_nil : held ([] : List (Request α)) = ∅ := by
  apply Set.eq_empty_iff_forall_notMem.mpr
  intro a ha
  cases ha

theorem held_append (rs : List (Request α)) (r : Request α) : held (rs ++ [r]) = request r (held rs) := by
  ext a
  have hlast : a ∈ held (rs ++ [r]) ↔ (if r.2 = a then some r.1 else last a rs) = some true := by
    rw [← last_append]
    exact Iff.rfl
  rw [hlast]
  unfold request
  by_cases hr : r.2 = a
  · subst hr
    cases hb : r.1 with
    | true => simp
    | false => simp
  · have hne : a ≠ r.2 := fun h => hr h.symm
    rw [if_neg hr]
    cases hb : r.1 with
    | true => simp [hne, held]
    | false => simp [hne, held]

end Last

/-- `b`, then its negation, and so on in turn. -/
def Alternates : Bool → List Bool → Prop
  | _, [] => True
  | b, x :: xs => x = b ∧ Alternates (!b) xs

section Component
variable {σ : Type v} {step : Request α → σ → σ × Bool} {abs : σ → Set α} {s : σ}

/-- The component holds the set that it is asked to, and reports when it becomes empty or stops being
so. -/
structure Tracks (step : Request α → σ → σ × Bool) (abs : σ → Set α) : Prop where
  set : ∀ r s, abs (step r s).1 = request r (abs s)
  changed : ∀ r s, (step r s).2 = true ↔ ((abs s).Nonempty ↔ ¬ (abs (step r s).1).Nonempty)

/-- The component after a list of requests. -/
def after (step : Request α → σ → σ × Bool) (s : σ) (rs : List (Request α)) : σ :=
  rs.foldl (fun s r => (step r s).1) s

/-- The requests that were reported to change something: whether each was to hold. -/
def reports (step : Request α → σ → σ × Bool) : σ → List (Request α) → List Bool
  | _, [] => []
  | s, r :: rs =>
    if (step r s).2 then r.1 :: reports step (step r s).1 rs else reports step (step r s).1 rs

theorem after_append (s : σ) (rs : List (Request α)) (r : Request α) :
    after step s (rs ++ [r]) = (step r (after step s rs)).1 := by
  unfold after
  rw [List.foldl_append]
  rfl

theorem Tracks.after_eq [DecidableEq α] (h : Tracks step abs) (hs : abs s = ∅) (rs : List (Request α)) :
    abs (after step s rs) = held rs := by
  -- on the requests, from the last one
  induction rs using List.reverseRecOn with
  | nil => exact hs.trans held_nil.symm
  | append_singleton rs r ih => rw [after_append, h.set, ih, held_append]

/-- A report is about a request to hold exactly when nothing was held. -/
theorem Tracks.report (h : Tracks step abs) {r : Request α} (hr : (step r s).2 = true) :
    r.1 = true ↔ ¬ (abs s).Nonempty := by
  have hchanged := (h.changed r s).mp hr
  have hset := h.set r s
  unfold request at hset
  constructor
  · intro hb hne
    rw [if_pos hb] at hset
    apply hchanged.mp hne
    rw [hset]
    exact Set.insert_nonempty _ _
  · intro hempty
    by_contra hb
    rw [if_neg hb, Set.not_nonempty_iff_eq_empty.mp hempty, Set.empty_sdiff] at hset
    have hstill : ¬ (abs (step r s).1).Nonempty := by
      rw [hset]
      exact Set.not_nonempty_empty
    exact hempty (hchanged.mpr hstill)

/-- Reports to hold and to release alternate. -/
theorem Tracks.reports_alternate (h : Tracks step abs) (rs : List (Request α)) {b : Bool}
    (hb : b = true ↔ ¬ (abs s).Nonempty) : Alternates b (reports step s rs) := by
  induction rs generalizing s b with
  | nil => trivial
  | cons r rs ih =>
    unfold reports
    by_cases hr : (step r s).2 = true
    · rw [if_pos hr]
      have hsame : r.1 = b := Bool.eq_iff_iff.mpr ((h.report hr).trans hb.symm)
      have hflip : (!b) = true ↔ ¬ (abs (step r s).1).Nonempty := by
        rw [← (h.changed r s).mp hr, ← not_not (a := (abs s).Nonempty), ← hb]
        cases b
        · exact iff_of_true rfl (by decide)
        · exact iff_of_false (by decide) (by decide)
      exact ⟨hsame, ih hflip⟩
    · rw [if_neg hr]
      have hkept : (abs (step r s).1).Nonempty ↔ (abs s).Nonempty := by
        have hnot := fun h' => hr ((h.changed r s).mpr h')
        tauto
      exact ih (hb.trans (not_congr hkept.symm))

end Component
end HoldSet
