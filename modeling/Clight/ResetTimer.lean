import Clight.Timer

/-! What reset_timer is for: the time that has passed counts towards the new timeout. Where C's unsigned
arithmetic follows it, and where it does not. -/
namespace Clight

/-- A value of type int. -/
def IsInt (x : ℤ) : Prop := -2^31 ≤ x ∧ x < 2^31

instance (x : ℤ) : Decidable (IsInt x) := inferInstanceAs (Decidable (-2^31 ≤ x ∧ x < 2^31))

/-- Armed to fire in `sec` seconds, or disarmed when there is no time to wait. -/
def TimerFd.ofSec (sec : ℤ) : TimerFd := if 0 < sec then .armed sec.toNat else .disarmed

/-- Armed to fire at once. -/
def TimerFd.now : TimerFd := .armed 0

/-- reset_timer over the integers. -/
def resetTimerSpec (oldTimer newTimer : ℤ) (fd : TimerFd) : TimerFd :=
  if oldTimer ≤ 0 then .ofSec newTimer
  else if newTimer ≤ 0 then .disarmed
  else if fd.timeoutSec = 0 then fd
  else if 0 < newTimer - (oldTimer - fd.timeoutSec) then
    .ofSec (newTimer - (oldTimer - fd.timeoutSec))
  else .now

/-- No more time is left than the old timeout, unless the timer is to be disarmed: then the time that
has passed since the new timeout, modulo 2^32, is not more than 2^31. -/
def ElapsedFits (oldTimer newTimer remaining : ℤ) : Prop :=
  oldTimer ≤ 0 ∨ newTimer = 0 ∨ (0 < newTimer ∧ remaining ≤ oldTimer) ∨
    (newTimer < 0 ∧ (oldTimer - remaining - newTimer) % 2^32 ≤ 2^31)

instance (oldTimer newTimer remaining : ℤ) : Decidable (ElapsedFits oldTimer newTimer remaining) :=
  inferInstanceAs (Decidable (oldTimer ≤ 0 ∨ newTimer = 0 ∨ (0 < newTimer ∧ remaining ≤ oldTimer) ∨
    (newTimer < 0 ∧ (oldTimer - remaining - newTimer) % 2^32 ≤ 2^31)))

theorem setTimeout_ofSec (sec : ℤ) : setTimeout sec 0 = .ofSec sec := by
  unfold setTimeout TimerFd.ofSec
  by_cases hpos : 0 < sec
  · have hneg : ¬ sec < 0 := by omega
    have hne : sec ≠ 0 := by omega
    simp [hpos, hneg, hne]
  · have hzero : (if sec < 0 then 0 else sec) = 0 := by
      split_ifs
      · rfl
      · omega
    simp [hzero, hpos]

theorem TimerFd.ofSec_inj {a b : ℤ} (ha : 0 < a) (hb : 0 < b) : ofSec a = ofSec b ↔ a = b := by
  unfold ofSec
  rw [if_pos ha, if_pos hb, TimerFd.armed.injEq]
  omega

theorem TimerFd.ofSec_ne_now {a : ℤ} (ha : 0 < a) : ofSec a ≠ now := by
  unfold ofSec now
  rw [if_pos ha]
  intro heq
  have hzero := TimerFd.armed.inj heq
  omega

theorem TimerFd.ofSec_eq_disarmed_iff (a : ℤ) : ofSec a = disarmed ↔ a ≤ 0 := by
  unfold ofSec
  split_ifs with ha
  · exact iff_of_false (fun heq => by cases heq) (by omega)
  · exact iff_of_true rfl (by omega)

theorem TimerFd.timeoutSec_nonneg (fd : TimerFd) : 0 ≤ fd.timeoutSec := by
  cases fd with
  | armed sec => exact Int.natCast_nonneg sec
  | disarmed => exact le_rfl
  | expired => exact le_rfl

/-- An int that is read from an unsigned difference is positive exactly when the opposite difference
is large modulo 2^32. -/
theorem toInt32_nonpos_iff (x : ℤ) : toInt32 (toUInt32 x) ≤ 0 ↔ (-x) % 2^32 ≤ 2^31 := by
  unfold toInt32 toUInt32
  rw [Int.bmod_def]
  split_ifs with h
  · omega
  · omega

/-- The branch of reset_timer that rescales. -/
theorem resetTimer_of_pos {old new : ℤ} (hold : 0 < old) {fd : TimerFd}
    (hr : ¬ (fd.timeoutSec = 0 ∧ 0 < new)) :
    resetTimer old new fd =
      if toUInt32 (old - fd.timeoutSec) < toUInt32 new then
        .ofSec (toInt32 (toUInt32 (new - toUInt32 (old - fd.timeoutSec))))
      else if 0 < new then .now else .disarmed := by
  unfold resetTimer
  rw [if_neg (not_le.mpr hold), if_neg hr]
  dsimp only
  rw [setTimeout_ofSec]
  rfl

/-- The old timeout was running, with time left, and the new one is positive. -/
theorem resetTimer_rescale {old new : ℤ} (hold : 0 < old) (hold' : IsInt old) (hnew : 0 < new)
    (hnew' : IsInt new) {fd : TimerFd} (hr : fd.timeoutSec ≠ 0) :
    resetTimer old new fd = resetTimerSpec old new fd ↔ fd.timeoutSec ≤ old := by
  have hr0 := fd.timeoutSec_nonneg
  have hn : toUInt32 new = new := Int.emod_eq_of_lt hnew.le (by unfold IsInt at hnew'; omega)
  have hspec : resetTimerSpec old new fd = if 0 < new - (old - fd.timeoutSec) then
      .ofSec (new - (old - fd.timeoutSec)) else .now := by
    unfold resetTimerSpec
    rw [if_neg (not_le.mpr hold), if_neg (not_le.mpr hnew), if_neg hr]
  rw [resetTimer_of_pos hold fun h => hr h.1, hspec, hn, if_pos hnew]
  obtain ⟨-, holdmax⟩ := hold'
  obtain ⟨-, hnewmax⟩ := hnew'
  by_cases hle : fd.timeoutSec ≤ old
  · -- the elapsed time does not wrap
    have he : toUInt32 (old - fd.timeoutSec) = old - fd.timeoutSec :=
      Int.emod_eq_of_lt (by omega) (by omega)
    rw [he]
    refine iff_of_true ?_ hle
    by_cases hleft : old - fd.timeoutSec < new
    · have hd : toUInt32 (new - (old - fd.timeoutSec)) = new - (old - fd.timeoutSec) :=
        Int.emod_eq_of_lt (by omega) (by omega)
      rw [if_pos hleft, if_pos (by omega), hd, toInt32_of_range (by omega) (by omega)]
    · rw [if_neg hleft, if_neg (by omega)]
  · -- the elapsed time is negative, and becomes a value that is not
    have he : 0 ≤ toUInt32 (old - fd.timeoutSec) := Int.emod_nonneg _ (by decide)
    have hleft : 0 < new - (old - fd.timeoutSec) := by omega
    refine iff_of_false ?_ hle
    rw [if_pos hleft]
    split_ifs with hlt
    · have hd : toUInt32 (new - toUInt32 (old - fd.timeoutSec)) =
          new - toUInt32 (old - fd.timeoutSec) := Int.emod_eq_of_lt (by omega) (by omega)
      rw [hd, toInt32_of_range (by omega) (by omega), TimerFd.ofSec_inj (by omega) hleft]
      omega
    · exact (TimerFd.ofSec_ne_now hleft).symm

/-- A negative new timeout, as an unsigned one, is above most elapsed times. -/
theorem resetTimer_disarm {old new : ℤ} (hold : 0 < old) (hnew : new < 0) (hnew' : IsInt new)
    (fd : TimerFd) :
    resetTimer old new fd = .disarmed ↔ (old - fd.timeoutSec - new) % 2^32 ≤ 2^31 := by
  obtain ⟨hmin, -⟩ := hnew'
  have hwrap : toUInt32 (new - toUInt32 (old - fd.timeoutSec)) = toUInt32 (new - (old - fd.timeoutSec)) := by
    unfold toUInt32
    omega
  have hneg : -(new - (old - fd.timeoutSec)) = old - fd.timeoutSec - new := by omega
  rw [resetTimer_of_pos hold fun h => by omega, if_neg (show ¬ 0 < new by omega), hwrap]
  split_ifs with hlt
  · -- it is disarmed if what it is set to is not positive as an int
    rw [TimerFd.ofSec_eq_disarmed_iff, toInt32_nonpos_iff, hneg]
  · -- more has elapsed, as an unsigned value, than the new timeout
    refine iff_of_true rfl ?_
    unfold toUInt32 at hlt
    omega

theorem resetTimer_zero {old : ℤ} (hold : 0 < old) (fd : TimerFd) : resetTimer old 0 fd = .disarmed := by
  have he : 0 ≤ toUInt32 (old - fd.timeoutSec) := Int.emod_nonneg _ (by decide)
  have hzero : toUInt32 0 = 0 := rfl
  rw [resetTimer_of_pos hold fun h => absurd h.2 (lt_irrefl 0), hzero, if_neg (not_lt.mpr he),
    if_neg (lt_irrefl 0)]

/-- reset_timer does what it is for exactly when the elapsed time fits. -/
theorem resetTimer_eq_spec_iff {old new : ℤ} (hold : IsInt old) (hnew : IsInt new) (fd : TimerFd) :
    resetTimer old new fd = resetTimerSpec old new fd ↔ ElapsedFits old new fd.timeoutSec := by
  unfold ElapsedFits
  by_cases hpos : 0 < old
  · rcases lt_trichotomy new 0 with hneg | rfl | hposNew
    · have hspec : resetTimerSpec old new fd = .disarmed := by
        unfold resetTimerSpec
        rw [if_neg (not_le.mpr hpos), if_pos hneg.le]
      rw [hspec, resetTimer_disarm hpos hneg hnew]
      omega
    · have hspec : resetTimerSpec old 0 fd = .disarmed := by
        unfold resetTimerSpec
        rw [if_neg (not_le.mpr hpos), if_pos le_rfl]
      rw [hspec, resetTimer_zero hpos]
      exact iff_of_true rfl (.inr (.inl rfl))
    · by_cases hr : fd.timeoutSec = 0
      · -- the timer is ready to fire
        have heq : resetTimer old new fd = resetTimerSpec old new fd := by
          unfold resetTimer resetTimerSpec
          rw [if_neg (not_le.mpr hpos), if_pos ⟨hr, hposNew⟩, if_neg (not_le.mpr hpos),
            if_neg (not_le.mpr hposNew), if_pos hr]
        refine iff_of_true heq (.inr (.inr (.inl ⟨hposNew, ?_⟩)))
        rw [hr]
        exact hpos.le
      · rw [resetTimer_rescale hpos hold hposNew hnew hr]
        omega
  · have heq : resetTimer old new fd = resetTimerSpec old new fd := by
      unfold resetTimer resetTimerSpec
      rw [if_pos (not_lt.mp hpos), if_pos (not_lt.mp hpos), setTimeout_ofSec]
    exact iff_of_true heq (.inl (not_lt.mp hpos))

/-- Four of ten seconds have passed: with a new timeout of thirty, twenty-six are left. -/
theorem resetTimer_running : resetTimer 10 30 (.armed 6) = resetTimerSpec 10 30 (.armed 6) :=
  (resetTimer_eq_spec_iff (by decide) (by decide) (.armed 6)).mpr (by decide)

/-- Armed for fifteen seconds in the other AC state, and rescaled from ten to twenty: it fires at once. -/
theorem resetTimer_overlong : ¬ ∀ (old new : ℤ) (fd : TimerFd), IsInt old → IsInt new →
    resetTimer old new fd = resetTimerSpec old new fd := by
  intro hall
  have heq := hall 10 20 (.armed 15) (by decide) (by decide)
  exact absurd heq (by decide)

end Clight
