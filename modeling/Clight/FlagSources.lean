import Clight.CountedFlag
import Mathlib.Data.Fintype.Card
import Mathlib.Data.Finset.Card

/-! Named sources of a counted flag: each is on or off and asks the owner of the flag whenever it
changes. The flag then tells whether any source is on. -/
universe u

namespace FlagSources
variable {ι : Type u} [Fintype ι]

/-- The sources that are on. -/
def users (on : ι → Bool) : Finset ι := Finset.univ.filter fun i => on i = true

theorem mem_users {on : ι → Bool} {i : ι} : i ∈ users on ↔ on i = true := by
  rw [users, Finset.mem_filter]
  exact and_iff_right (Finset.mem_univ i)

theorem users_off : users (fun _ : ι => false) = ∅ := by
  apply Finset.eq_empty_of_forall_notMem
  intro i hi
  exact Bool.false_ne_true (mem_users.mp hi)

/-- The counter stands for the sources that are on. -/
def Counted (s : CountedFlag) (on : ι → Bool) : Prop := s.Counts (users on).card

variable {s : CountedFlag} {on : ι → Bool}

/-- The flag is set exactly if some source is on. -/
theorem Counted.flag_iff (h : Counted s on) : s.flag = true ↔ ∃ i, on i = true := by
  rw [h.flag, decide_eq_true_iff, Finset.card_pos]
  constructor
  · rintro ⟨i, hi⟩
    exact ⟨i, mem_users.mp hi⟩
  · rintro ⟨i, hi⟩
    exact ⟨i, mem_users.mpr hi⟩

variable [DecidableEq ι]

theorem users_update_true (on : ι → Bool) (i : ι) : users (Function.update on i true) = insert i (users on) := by
  ext j
  rw [Finset.mem_insert, mem_users, mem_users]
  by_cases hj : j = i
  · simp [hj]
  · simp [hj]

theorem users_update_false (on : ι → Bool) (i : ι) : users (Function.update on i false) = (users on).erase i := by
  ext j
  rw [Finset.mem_erase, mem_users, mem_users]
  by_cases hj : j = i
  · simp [hj]
  · simp [hj]

/-- A source that changes adds a use or gives its own back. -/
theorem refs_users {on : ι → Bool} {i : ι} {b : Bool} (h : on i ≠ b) :
    FlagReq.refs (users on).card { new := b, force := false } = (users (Function.update on i b)).card := by
  cases b with
  | true =>
    have hoff : i ∉ users on := fun hi => h (mem_users.mp hi)
    rw [users_update_true, Finset.card_insert_of_notMem hoff]
    rfl
  | false =>
    have hon : i ∈ users on := mem_users.mpr (Bool.eq_true_of_not_eq_false h)
    rw [users_update_false, Finset.card_erase_of_mem hon]
    rfl

/-- A change of a source, once the owner has handled the request for it. -/
theorem Counted.change (h : Counted s on) {i : ι} {b : Bool} (hb : on i ≠ b) :
    Counted (s.handle { new := b, force := false }) (Function.update on i b) := by
  have hstep := h.handle { new := b, force := false }
  rw [refs_users hb] at hstep
  exact hstep

end FlagSources
