import Mathlib.Data.BitVec
import Mathlib.Tactic.IntervalCases

/-! The pause mask of utils.c: one bit for each reason to pause a module. -/
namespace Clight

inductive ModPause
  | display | sensor | autocalib | lid | suspend | timeout | inhibit | contrib | clogged
  deriving DecidableEq, Repr

/-- Position of a reason's bit in X_FIELDS. -/
def ModPause.idx : ModPause → ℕ
  | .display => 0
  | .sensor => 1
  | .autocalib => 2
  | .lid => 3
  | .suspend => 4
  | .timeout => 5
  | .inhibit => 6
  | .contrib => 7
  | .clogged => 8

def ModPause.bit (r : ModPause) : BitVec 32 := BitVec.twoPow 32 r.idx

theorem ModPause.idx_lt (r : ModPause) : r.idx < 9 := by cases r <;> decide

theorem ModPause.idx_inj {r r' : ModPause} : r.idx = r'.idx ↔ r = r' := by
  cases r <;> cases r' <;> decide

theorem ModPause.exists_idx {i : ℕ} (hi : i < 9) : ∃ r : ModPause, r.idx = i := by
  interval_cases i
  exacts [⟨.display, rfl⟩, ⟨.sensor, rfl⟩, ⟨.autocalib, rfl⟩, ⟨.lid, rfl⟩, ⟨.suspend, rfl⟩,
    ⟨.timeout, rfl⟩, ⟨.inhibit, rfl⟩, ⟨.contrib, rfl⟩, ⟨.clogged, rfl⟩]

theorem ModPause.getLsbD_bit (r : ModPause) (i : ℕ) : r.bit.getLsbD i = decide (r.idx = i) := by
  have hr := r.idx_lt
  by_cases h : r.idx = i
  · subst h
    simp [ModPause.bit, BitVec.getLsbD_twoPow]
    omega
  · simp [ModPause.bit, BitVec.getLsbD_twoPow, h]

/-- A pause mask: an int in which no bit other than the nine reasons is set. -/
structure PauseMask where
  bits : BitVec 32
  valid : ∀ i, bits.getLsbD i = true → i < 9

namespace PauseMask

def has (m : PauseMask) (r : ModPause) : Bool := m.bits.getLsbD r.idx

def unpaused : PauseMask := ⟨0#32, by simp⟩

/-- `*paused_state |= reason`. -/
def set (m : PauseMask) (r : ModPause) : PauseMask where
  bits := m.bits ||| r.bit
  valid := by
    intro i hi
    rw [BitVec.getLsbD_or, Bool.or_eq_true, ModPause.getLsbD_bit, decide_eq_true_iff] at hi
    rcases hi with hi | hi
    · exact m.valid i hi
    · exact hi ▸ r.idx_lt

/-- `*paused_state &= ~reason`. -/
def clear (m : PauseMask) (r : ModPause) : PauseMask where
  bits := m.bits &&& ~~~r.bit
  valid := by
    intro i hi
    rw [BitVec.getLsbD_and, Bool.and_eq_true] at hi
    exact m.valid i hi.1

def isUnpaused (m : PauseMask) : Bool := m.bits = 0#32

@[simp] theorem has_unpaused (r : ModPause) : unpaused.has r = false := by
  simp [has, unpaused]

@[simp] theorem has_set (m : PauseMask) (r r' : ModPause) :
    (m.set r).has r' = (m.has r' || decide (r = r')) := by
  simp only [has, set, BitVec.getLsbD_or, ModPause.getLsbD_bit, ModPause.idx_inj]

@[simp] theorem has_clear (m : PauseMask) (r r' : ModPause) :
    (m.clear r).has r' = (m.has r' && !decide (r = r')) := by
  have hr := r'.idx_lt
  simp only [has, clear, BitVec.getLsbD_and, BitVec.getLsbD_not, ModPause.getLsbD_bit,
    ModPause.idx_inj, show r'.idx < 32 from by omega, decide_true, Bool.true_and]

/-- A mask is the set of its reasons. -/
theorem ext_has {m m' : PauseMask} (h : ∀ r, m.has r = m'.has r) : m = m' := by
  obtain ⟨b, hb⟩ := m
  obtain ⟨b', hb'⟩ := m'
  -- bits from 9 on are clear in both, by `valid`
  have hbits : b = b' := by
    apply BitVec.eq_of_getLsbD_eq
    intro i _
    by_cases hi : i < 9
    · obtain ⟨r, rfl⟩ := ModPause.exists_idx hi
      exact h r
    · have h0 : b.getLsbD i = false := Bool.eq_false_iff.mpr fun ht => hi (hb i ht)
      have h1 : b'.getLsbD i = false := Bool.eq_false_iff.mpr fun ht => hi (hb' i ht)
      rw [h0, h1]
  subst hbits
  rfl

theorem isUnpaused_iff (m : PauseMask) : m.isUnpaused = true ↔ ∀ r, m.has r = false := by
  constructor
  · intro h r
    simp only [isUnpaused, decide_eq_true_iff] at h
    simp [has, h]
  · intro h
    have hm : m = unpaused := ext_has fun r => (h r).trans (has_unpaused r).symm
    simp [hm, isUnpaused, unpaused]

@[simp] theorem isUnpaused_unpaused : unpaused.isUnpaused = true := rfl

@[simp] theorem isUnpaused_set (m : PauseMask) (r : ModPause) : (m.set r).isUnpaused = false := by
  rw [Bool.eq_false_iff]
  intro h
  simpa using (isUnpaused_iff _).mp h r

theorem isUnpaused_clear {m : PauseMask} (h : m.isUnpaused = true) (r : ModPause) :
    (m.clear r).isUnpaused = true := by
  rw [isUnpaused_iff] at h ⊢
  intro r'
  simp [h r']

theorem not_isUnpaused_of_has {m : PauseMask} {r : ModPause} (h : m.has r = true) :
    m.isUnpaused = false := by
  rw [Bool.eq_false_iff]
  intro hu
  rw [(isUnpaused_iff m).mp hu r] at h
  exact Bool.noConfusion h

end PauseMask

/-- mod_check_pause: the new mask, and whether the module has to be paused or
resumed. -/
def modCheckPause (pause : Bool) (reason : ModPause) (m : PauseMask) : PauseMask × Bool :=
  if pause then (m.set reason, m.isUnpaused)
  else (m.clear reason, !m.isUnpaused && (m.clear reason).isUnpaused)

theorem modCheckPause_has (pause : Bool) (r r' : ModPause) (m : PauseMask) :
    (modCheckPause pause r m).1.has r' = if r = r' then pause else m.has r' := by
  cases pause <;> by_cases h : r = r' <;> simp [modCheckPause, h]

/-- The result tells exactly whether the mask went from empty to non-empty or back. -/
theorem modCheckPause_changed (pause : Bool) (r : ModPause) (m : PauseMask) :
    (modCheckPause pause r m).2 = (m.isUnpaused != (modCheckPause pause r m).1.isUnpaused) := by
  cases pause
  · cases hm : m.isUnpaused
    · simp [modCheckPause, hm]
    · simp [modCheckPause, hm, PauseMask.isUnpaused_clear hm r]
  · cases hm : m.isUnpaused <;> simp [modCheckPause, hm]

end Clight
