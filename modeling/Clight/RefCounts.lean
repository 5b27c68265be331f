import Mathlib.Data.List.Count

/-! Reference counts: how often each object was referenced and released, and the holders that the
references which are left belong to. -/
universe u

structure RefCounts (α : Type u) where
  refs : α → ℕ
  unrefs : α → ℕ

namespace RefCounts
variable {α : Type u} [DecidableEq α] {c : RefCounts α} {a : α} {holders holders' : List α}

def empty : RefCounts α := ⟨fun _ => 0, fun _ => 0⟩

def ref (c : RefCounts α) (a : α) : RefCounts α :=
  { c with refs := fun b => if a = b then c.refs b + 1 else c.refs b }

def unref (c : RefCounts α) (a : α) : RefCounts α :=
  { c with unrefs := fun b => if a = b then c.unrefs b + 1 else c.unrefs b }

/-- A release through a pointer that may be null. -/
def release (c : RefCounts α) (p : Option α) : RefCounts α := p.elim c c.unref

/-- A reference to the object is left. -/
def Held (c : RefCounts α) (a : α) : Prop := c.unrefs a < c.refs a

/-- Each holder has a reference of its own, and there are no others. -/
def Backed (c : RefCounts α) (holders : List α) : Prop :=
  ∀ a, c.refs a = c.unrefs a + holders.count a

theorem backed_empty : (empty : RefCounts α).Backed [] := fun _ => rfl

theorem Backed.perm (h : c.Backed holders) (hp : holders.Perm holders') : c.Backed holders' := by
  intro a
  rw [← hp.count_eq a]
  exact h a

theorem Backed.ref (h : c.Backed holders) (a : α) : (c.ref a).Backed (a :: holders) := by
  intro b
  have hb := h b
  unfold RefCounts.ref
  dsimp only
  by_cases hab : a = b
  · subst hab
    rw [if_pos rfl, List.count_cons_self]
    omega
  · rw [if_neg hab, List.count_cons_of_ne hab]
    exact hb

theorem Backed.unref (h : c.Backed (a :: holders)) : (c.unref a).Backed holders := by
  intro b
  have hb := h b
  unfold RefCounts.unref
  dsimp only
  by_cases hab : a = b
  · subst hab
    rw [List.count_cons_self] at hb
    rw [if_pos rfl]
    omega
  · rw [List.count_cons_of_ne hab] at hb
    rw [if_neg hab]
    exact hb

theorem Backed.release {p : Option α} (h : c.Backed (p.toList ++ holders)) :
    (c.release p).Backed holders := by
  cases p with
  | none => exact h
  | some a => exact h.unref

/-- What is held is what some holder has. -/
theorem Backed.held_iff (h : c.Backed holders) : c.Held a ↔ a ∈ holders := by
  have ha := h a
  unfold Held
  rw [← List.count_pos_iff]
  omega

theorem Backed.unrefs_le (h : c.Backed holders) (a : α) : c.unrefs a ≤ c.refs a := by
  have ha := h a
  omega

end RefCounts
