import Clight.Backlight
import Clight.Opts
import Mathlib.Algebra.Order.Field.Basic
import Mathlib.Data.Rat.Floor
import Mathlib.Tactic.NormNum

/-! Transitions of a fixed duration: the validator divides the duration by the number of
steps of 1% that a level is away. -/
namespace Clight

/-- The largest int of C. -/
def intMax : ℤ := 2 ^ 31 - 1

/-- Whole steps, each of a truncated share of the time, fit in it exactly when truncating
the share gives no more than the share of a whole number of steps. -/
theorem ceil_mul_floor_div_le_iff {n : ℚ} (hn : 0 < n) (t : ℤ) :
    ⌈n⌉ * ⌊(t : ℚ) / n⌋ ≤ t ↔ (t : ℚ) < n * ((t / ⌈n⌉ : ℤ) + 1) := by
  have hceil : 0 < ⌈n⌉ := Int.ceil_pos.mpr hn
  calc ⌈n⌉ * ⌊(t : ℚ) / n⌋ ≤ t
      ↔ ⌊(t : ℚ) / n⌋ ≤ t / ⌈n⌉ := by rw [mul_comm, Int.le_ediv_iff_mul_le hceil]
    _ ↔ (t : ℚ) / n < ((t / ⌈n⌉ + 1 : ℤ) : ℚ) := by rw [← Int.lt_add_one_iff, Int.floor_lt]
    _ ↔ (t : ℚ) < n * ((t / ⌈n⌉ : ℤ) + 1) := by
      rw [div_lt_iff₀ hn, mul_comm]
      push_cast
      rfl

/-- `n_steps` of validate_backlight. -/
def nSteps (st : State) (up : BlUpd) : ℚ := |st.currentBlPct - up.new| / blFixedStep

theorem nSteps_nonneg (st : State) (up : BlUpd) : 0 ≤ nSteps st up :=
  div_nonneg (abs_nonneg _) (by norm_num [blFixedStep])

theorem validateBacklight_timeout {cf : Conf} (st : State) {up : BlUpd} {s : BlSmooth}
    (hs : specialSmooth cf up.smooth = some s) (hfixed : 0 < s.transFixed) :
    (validateBacklight cf st up).1.timeout = truncRat (s.transFixed / nSteps st up) := by
  unfold validateBacklight
  simp only [hs, if_neg (not_le.mpr hfixed)]
  rfl

/-- The divisor is not zero, the quotient is an int, and the steps needed, one timeout each,
take no longer than what was configured. -/
structure FixedDuration (s : BlSmooth) (st : State) (up up' : BlUpd) : Prop where
  divisor : nSteps st up ≠ 0
  fits : -intMax - 1 ≤ up'.timeout ∧ up'.timeout ≤ intMax
  duration : ⌈nSteps st up⌉ * up'.timeout ≤ s.transFixed

/-- The levels differ, and the configured duration is below the truncated share of a whole
number of steps, plus one, for each step there is. -/
def Divides (t : ℤ) (n : ℚ) : Prop := 0 < n ∧ (t : ℚ) < n * ((t / ⌈n⌉ : ℤ) + 1)

/-- So it is for each whole number of steps. -/
theorem Divides.of_whole (t : ℤ) {k : ℤ} (hk : 0 < k) : Divides t k := by
  have hshare : t < k * (t / k + 1) := by
    have hlt := Int.lt_ediv_add_one_mul_self t hk
    rwa [mul_comm] at hlt
  refine ⟨by exact_mod_cast hk, ?_⟩
  rw [Int.ceil_intCast]
  exact_mod_cast hshare

/-- A fixed duration is well defined and kept exactly when it divides so. -/
theorem fixed_duration_iff {cf : Conf} {st : State} {up : BlUpd} {s : BlSmooth}
    (hs : specialSmooth cf up.smooth = some s) (hfixed : 0 < s.transFixed)
    (hint : s.transFixed ≤ intMax) :
    FixedDuration s st up (validateBacklight cf st up).1 ↔ Divides s.transFixed (nSteps st up) := by
  have htimeout := validateBacklight_timeout st hs hfixed
  by_cases hpos : 0 < nSteps st up
  · -- a positive quotient is truncated downwards
    have hquot : 0 ≤ (s.transFixed : ℚ) / nSteps st up :=
      div_nonneg (by exact_mod_cast hfixed.le) hpos.le
    have hfloor : (validateBacklight cf st up).1.timeout = ⌊(s.transFixed : ℚ) / nSteps st up⌋ :=
      htimeout.trans (if_pos hquot)
    have hiff := ceil_mul_floor_div_le_iff hpos s.transFixed
    constructor
    · intro h
      have hduration := h.duration
      rw [hfloor] at hduration
      exact ⟨hpos, hiff.mp hduration⟩
    · intro h
      have hduration := hiff.mpr h.2
      have hnonneg : 0 ≤ ⌊(s.transFixed : ℚ) / nSteps st up⌋ := Int.floor_nonneg.mpr hquot
      have hceil : 1 ≤ ⌈nSteps st up⌉ := Int.one_le_ceil_iff.mpr hpos
      -- at least one step, so a timeout is at most the whole
      have hle : ⌊(s.transFixed : ℚ) / nSteps st up⌋ ≤ s.transFixed :=
        (le_mul_of_one_le_left hnonneg hceil).trans hduration
      have hmax : (0 : ℤ) ≤ intMax := by decide
      refine ⟨hpos.ne', ?_, ?_⟩
      · rw [hfloor]
        omega
      · rw [hfloor]
        exact hduration
  · have hzero : nSteps st up = 0 := le_antisymm (not_lt.mp hpos) (nSteps_nonneg st up)
    exact iff_of_false (fun h => h.divisor hzero) fun h => hpos h.1

/-- What on_delayed_interface asks for is the level in force: no step at all. -/
theorem nSteps_onDelayedInterface (c : BlCtx) : ∃ up : BlUpd,
    .blReq up ∈ (Backlight.onDelayedInterface c).out ∧ up.smooth = -1 ∧
      up.new = c.st.currentBlPct ∧ nSteps c.st up = 0 := by
  refine ⟨{ new := c.st.currentBlPct, smooth := -1, timeout := 0, step := 0 }, ?_, rfl, rfl, ?_⟩
  · exact List.mem_append_right _ (List.mem_singleton_self _)
  · simp [nSteps]

def fixedConf : Conf :=
  { Conf.default with bl := { Conf.default.bl with
      smooth := { Conf.default.bl.smooth with transFixed := 1000 } } }

def halfLit : State := { initState fixedConf with currentBlPct := 1 / 2 }

/-- 30 steps in a second. -/
theorem fixed_duration_thirty : FixedDuration fixedConf.bl.smooth halfLit ⟨4 / 5, -1, 0, 0⟩
    (validateBacklight fixedConf halfLit ⟨4 / 5, -1, 0, 0⟩).1 := by
  have hs : specialSmooth fixedConf (⟨4 / 5, -1, 0, 0⟩ : BlUpd).smooth = some fixedConf.bl.smooth := rfl
  have hn : nSteps halfLit ⟨4 / 5, -1, 0, 0⟩ = ((30 : ℤ) : ℚ) := by decide +kernel
  have hdivides : Divides fixedConf.bl.smooth.transFixed (nSteps halfLit ⟨4 / 5, -1, 0, 0⟩) := by
    rw [hn]
    exact .of_whole 1000 (by decide)
  exact (fixed_duration_iff hs (by decide) (by decide)).mpr hdivides

/-- Half-way and asked for the same, by the delayed sync of a monitor that was plugged. -/
theorem fixed_duration_undefined : ¬ ∀ (cf : Conf) (st : State) (up : BlUpd) (s : BlSmooth),
    specialSmooth cf up.smooth = some s → 0 < s.transFixed → s.transFixed ≤ intMax →
    st.currentBlPct ∈ Set.Icc (0 : ℚ) 1 → up.new ∈ Set.Icc (0 : ℚ) 1 →
    FixedDuration s st up (validateBacklight cf st up).1 := by
  intro h
  obtain ⟨up, -, hsmooth, hnew, hzero⟩ :=
    nSteps_onDelayedInterface ⟨Backlight.init, halfLit, fixedConf, [], []⟩
  have hs : specialSmooth fixedConf up.smooth = some fixedConf.bl.smooth := by
    rw [hsmooth]
    rfl
  have hhalf : (1 / 2 : ℚ) ∈ Set.Icc (0 : ℚ) 1 := by constructor <;> norm_num
  have hfixed := h fixedConf halfLit up _ hs (by decide) (by decide) hhalf (hnew ▸ hhalf)
  exact hfixed.divisor hzero

end Clight
