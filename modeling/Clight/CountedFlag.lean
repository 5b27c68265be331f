import Mathlib.Algebra.Order.Group.Unbundled.Int
import Mathlib.Tactic.Ring

/-! A flag that stays set while it is in use. Each use is counted, a release gives one
back, and a forced release gives all of them back. -/

/-- A use of the flag or a release of it. -/
structure FlagReq where
  new : Bool
  force : Bool
  deriving DecidableEq

/-- A flag with the counter that its owner keeps. -/
structure CountedFlag where
  count : ℤ
  flag : Bool

namespace FlagReq

/-- The number of uses left after a request; a release without a use is lost. -/
def refs (n : ℕ) (r : FlagReq) : ℕ :=
  if r.new then n + 1 else if r.force then 0 else n - 1

/-- The reference count of a history of requests. -/
def refCount (rs : List FlagReq) : ℕ := rs.foldl refs 0

end FlagReq

namespace CountedFlag

/-- How an owner that trusts its flag handles a request: a use always counts, and a
release counts only while the flag is set. -/
def handle (s : CountedFlag) (r : FlagReq) : CountedFlag :=
  if r.new then { count := s.count + 1, flag := true }
  else if s.flag then
    let count := if r.force then 0 else s.count - 1
    { count := count, flag := decide (count ≠ 0) }
  else s

/-- The counter is the number of uses, and the flag tells whether there are any. -/
structure Counts (s : CountedFlag) (n : ℕ) : Prop where
  count : s.count = n
  flag : s.flag = decide (0 < n)

theorem Counts.nonneg {s : CountedFlag} {n : ℕ} (h : s.Counts n) : 0 ≤ s.count := by
  have hcount := h.count
  omega

theorem Counts.flag_iff {s : CountedFlag} {n : ℕ} (h : s.Counts n) :
    s.flag = true ↔ 0 < s.count := by
  have hcount := h.count
  rw [h.flag, decide_eq_true_iff]
  omega

/-- One request keeps the law. -/
theorem Counts.handle {s : CountedFlag} {n : ℕ} (h : s.Counts n) (r : FlagReq) :
    (s.handle r).Counts (r.refs n) := by
  have hcount := h.count
  obtain ⟨new, force⟩ := r
  unfold CountedFlag.handle FlagReq.refs
  cases new with
  | true => exact ⟨by simp [hcount], by simp⟩
  | false =>
    simp only [Bool.false_eq_true, if_false]
    -- a release while nothing is held is dropped, and costs nothing
    by_cases hn : 0 < n
    · have hflag : s.flag = true := by simpa [hn] using h.flag
      rw [if_pos hflag]
      cases force with
      | true => exact ⟨by simp, by simp⟩
      | false =>
        have hpred : s.count - 1 = ((n - 1 : ℕ) : ℤ) := by omega
        refine ⟨by simpa using hpred, ?_⟩
        simp only [Bool.false_eq_true, if_false, decide_eq_decide]
        omega
    · have hflag : s.flag = false := by simpa [hn] using h.flag
      have hzero : n = 0 := by omega
      rw [if_neg (by simp [hflag])]
      subst hzero
      cases force with
      | true => exact h
      | false => exact h

/-- The law after any history of requests. -/
theorem Counts.foldl {s : CountedFlag} {n : ℕ} (h : s.Counts n) (rs : List FlagReq) :
    (rs.foldl CountedFlag.handle s).Counts (rs.foldl FlagReq.refs n) := by
  induction rs generalizing s n with
  | nil => exact h
  | cons r rs ih => exact ih (h.handle r)

end CountedFlag
