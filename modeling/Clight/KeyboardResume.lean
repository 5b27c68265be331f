import Clight.CurveRange
import Clight.Keyboard
import Clight.Opts
import Mathlib.Tactic.Linarith

/-! The level that KEYBOARD commands when it is resumed, against the level of its curve. -/
namespace Clight

/-- When clamping gives `v`: inside the range the value is kept, at an end of it the value
may lie beyond. -/
theorem clamp_eq_iff {max min : ℚ} (h : min ≤ max) (value v : ℚ) :
    clamp value max min = v ↔
      min ≤ v ∧ v ≤ max ∧ (v < max → value ≤ v) ∧ (min < v → v ≤ value) := by
  unfold clamp
  split_ifs with hmax hmin
  · constructor
    · rintro rfl
      exact ⟨h, le_rfl, fun hlt => absurd hlt (lt_irrefl _), fun _ => hmax.le⟩
    · rintro ⟨-, hv, hbelow, -⟩
      by_contra hne
      have hlt : v < max := lt_of_le_of_ne hv (Ne.symm hne)
      exact absurd (hbelow hlt) (not_le.mpr (hlt.trans hmax))
  · constructor
    · rintro rfl
      exact ⟨le_rfl, h, fun _ => hmin.le, fun hlt => absurd hlt (lt_irrefl _)⟩
    · rintro ⟨hv, -, -, habove⟩
      by_contra hne
      have hlt : min < v := lt_of_le_of_ne hv hne
      exact absurd (habove hlt) (not_le.mpr (hmin.trans hlt))
  · constructor
    · rintro rfl
      exact ⟨not_lt.mp hmin, not_lt.mp hmax, fun _ => le_rfl, fun _ => le_rfl⟩
    · rintro ⟨hlo, hhi, hbelow, habove⟩
      rcases hhi.lt_or_eq with hlt | rfl
      · rcases hlo.lt_or_eq with hlt' | rfl
        · exact le_antisymm (hbelow hlt) (habove hlt')
        · exact le_antisymm (hbelow hlt) (not_lt.mp hmin)
      · rcases hlo.lt_or_eq with hlt' | hmin'
        · exact le_antisymm (not_lt.mp hmax) (habove hlt')
        · exact le_antisymm (not_lt.mp hmax) (hmin' ▸ not_lt.mp hmin)

namespace Curve

/-- The fitted parabola at a backlight level, before it is clamped. -/
def parabola (c : Curve) (perc : ℚ) : ℚ :=
  c.fitParameters.1 + c.fitParameters.2.1 * (perc * ((c.points.length : ℚ) - 1)) +
    c.fitParameters.2.2 * (perc * ((c.points.length : ℚ) - 1)) ^ 2

/-- The descending diagonal passes through the range of the end points at this level, and
the parabola meets it there, or is beyond the end point that it meets. -/
structure MeetsDiagonal (c : Curve) (perc : ℚ) : Prop where
  above : c.bottom ≤ 1 - perc
  below : 1 - perc ≤ c.top
  atMost : 1 - perc < c.top → c.parabola perc ≤ 1 - perc
  atLeast : c.bottom < 1 - perc → 1 - perc ≤ c.parabola perc

theorem meetsDiagonal_iff (c : Curve) (perc : ℚ) :
    c.MeetsDiagonal perc ↔ getValueFromCurve perc c = 1 - perc := by
  have hclamp : getValueFromCurve perc c = clamp (c.parabola perc) c.top c.bottom := rfl
  rw [hclamp, clamp_eq_iff c.bottom_le_top]
  constructor
  · intro h
    exact ⟨h.above, h.below, h.atMost, h.atLeast⟩
  · rintro ⟨habove, hbelow, hmost, hleast⟩
    exact ⟨habove, hbelow, hmost, hleast⟩

/-- Curves that meet the diagonal at every level: a straight fit from 1 down to 0, between
end points that leave room for it. -/
theorem meetsDiagonal_everywhere_iff (c : Curve) :
    (∀ perc ∈ Set.Icc (0 : ℚ) 1, c.MeetsDiagonal perc) ↔
      c.bottom ≤ 0 ∧ 1 ≤ c.top ∧ c.fitParameters.1 = 1 ∧
        c.fitParameters.2.1 * ((c.points.length : ℚ) - 1) = -1 ∧
        c.fitParameters.2.2 * ((c.points.length : ℚ) - 1) ^ 2 = 0 := by
  have hparabola : ∀ perc, c.parabola perc = c.fitParameters.1 +
      c.fitParameters.2.1 * ((c.points.length : ℚ) - 1) * perc +
      c.fitParameters.2.2 * ((c.points.length : ℚ) - 1) ^ 2 * perc ^ 2 := by
    intro perc
    unfold parabola
    ring
  constructor
  · intro h
    have hbottom : c.bottom ≤ 0 := by simpa using (h 1 ⟨by norm_num, le_rfl⟩).above
    have htop : 1 ≤ c.top := by simpa using (h 0 ⟨le_rfl, by norm_num⟩).below
    -- strictly inside, nothing is clamped: three levels determine the parabola
    have hinside : ∀ perc : ℚ, 0 < perc → perc < 1 → c.parabola perc = 1 - perc := by
      intro perc hpos hlt
      have hm := h perc ⟨hpos.le, hlt.le⟩
      exact le_antisymm (hm.atMost (by linarith)) (hm.atLeast (by linarith))
    have hquarter := hinside (1 / 4) (by norm_num) (by norm_num)
    have hhalf := hinside (1 / 2) (by norm_num) (by norm_num)
    have hmost := hinside (3 / 4) (by norm_num) (by norm_num)
    rw [hparabola] at hquarter hhalf hmost
    exact ⟨hbottom, htop, by linarith, by linarith, by linarith⟩
  · rintro ⟨hbottom, htop, h0, h1, h2⟩ perc ⟨hlo, hhi⟩
    have hline : c.parabola perc = 1 - perc := by
      rw [hparabola, h0, h1, h2]
      ring
    exact ⟨by linarith, by linarith, fun _ => hline.le, fun _ => hline.ge⟩

end Curve

namespace Keyboard

/-- Resuming commands the complement of the screen level, whatever the curve says. -/
theorem pauseKbd_resume_calls (sent : Bool) (reason : ModPause) {c : KbdCtx}
    (hresume : (modCheckPause false reason c.loc.paused).2 = true) :
    (pauseKbd sent false reason c).calls = c.calls ++ [.set (1 - c.st.currentBlPct)] := by
  have hcalls : ∀ (level : ℚ) (c : KbdCtx),
      (setKeyboardLevel sent level c).calls = c.calls ++ [.set level] := by
    intro level c
    unfold setKeyboardLevel
    split_ifs
    · rfl
    · rfl
  unfold pauseKbd
  simp only [hresume, if_true, Bool.false_eq_true, if_false, hcalls]

theorem onScreenBlUpdate_new {up : BlUpd} {ac : AcState} {c : KbdCtx}
    (hac : c.st.acState = some ac) (hstep : up.smooth = 0) :
    (onScreenBlUpdate up c).loc.kbdReq.new = getValueFromCurve up.new (c.cf.kbd.curve ac) := by
  unfold onScreenBlUpdate
  simp only [hac, hstep, if_true]
  rfl

end Keyboard

/-- Three keyboard points that a parabola goes through. -/
def bentCurve : Curve := ⟨[1, 1 / 4, 0], (1, -1, 1 / 4), by decide, by decide⟩

def bentCtx (level : ℚ) : KbdCtx where
  loc := { Keyboard.init with stack := [.paused], paused := PauseMask.unpaused.set .display }
  st := { initState .default with acState := some .onAc, currentBlPct := level }
  cf := { Conf.default with kbd := { Conf.default.kbd with curve := fun _ => bentCurve } }
  out := []
  calls := []

end Clight
