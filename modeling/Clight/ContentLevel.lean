import Clight.KeyboardResume

/-! The backlight level against the brightness of what the screen shows: brighter content never asks
for a higher level, except that a black screen is taken for one that nothing is known about. -/
namespace Clight

/-! ### Clamping keeps the order -/

theorem clamp_mono {max min : ℚ} (h : min ≤ max) {v w : ℚ} (hvw : v ≤ w) :
    clamp v max min ≤ clamp w max min := by
  unfold clamp
  split_ifs <;> linarith

/-- What is clamped stays below a level of the range if and only if it was below, or that level is
already the upper end. -/
theorem clamp_le_iff {max min v level : ℚ} (hmin : min ≤ level) (hmax : level ≤ max) :
    clamp v max min ≤ level ↔ v ≤ level ∨ level = max := by
  unfold clamp
  split_ifs with hhigh hlow
  · constructor
    · intro hle
      exact .inr (le_antisymm hmax hle)
    · rintro (hle | rfl)
      · exact hhigh.le.trans hle
      · exact le_rfl
  · exact ⟨fun _ => .inl (hlow.le.trans hmin), fun _ => hmin⟩
  · constructor
    · intro hle
      exact .inl hle
    · rintro (hle | rfl)
      · exact hle
      · exact not_lt.mp hhigh

/-- The level of a curve is its upper end where the parabola reaches it, and everywhere on a curve
that is flat. -/
theorem getValueFromCurve_eq_top_iff (perc : ℚ) (c : Curve) :
    getValueFromCurve perc c = c.top ↔ c.top ≤ c.parabola perc ∨ c.bottom = c.top := by
  have hclamp : getValueFromCurve perc c = clamp (c.parabola perc) c.top c.bottom := rfl
  rw [hclamp, clamp_eq_iff c.bottom_le_top]
  constructor
  · rintro ⟨-, -, -, hleast⟩
    rcases c.bottom_le_top.lt_or_eq with hlt | heq
    · exact .inl (hleast hlt)
    · exact .inr heq
  · intro h
    refine ⟨c.bottom_le_top, le_rfl, fun hlt => absurd hlt (lt_irrefl _), fun hlt => ?_⟩
    exact h.resolve_right hlt.ne

namespace Backlight

/-! ### The compensation -/

/-- With content on the screen the level goes down as the content gets brighter. -/
theorem newBacklight_antitone (curve : Curve) (ambientBr : ℚ) {contrib s t : ℚ} (hcontrib : 0 ≤ contrib)
    (hs : s ≠ 0) (ht : t ≠ 0) (hst : s ≤ t) :
    newBacklight curve ambientBr t contrib ≤ newBacklight curve ambientBr s contrib := by
  unfold newBacklight
  rw [if_neg hs, if_neg ht]
  apply clamp_mono curve.bottom_le_top
  have hmul : 2 * contrib * s ≤ 2 * contrib * t := by
    apply mul_le_mul_of_nonneg_left hst
    linarith
  linarith

/-- Without, it is the level of the curve alone: the window around it has that level in its middle. -/
theorem newBacklight_le_zero_iff (curve : Curve) (ambientBr : ℚ) {contrib t : ℚ}
    (hcontrib : 0 < contrib) (ht : t ≠ 0) :
    newBacklight curve ambientBr t contrib ≤ newBacklight curve ambientBr 0 contrib ↔
      1/2 ≤ t ∨ curve.top ≤ curve.parabola ambientBr ∨ curve.bottom = curve.top := by
  have hlevel := getValueFromCurve_mem ambientBr curve
  have hhalf : getValueFromCurve ambientBr curve + contrib - 2 * contrib * t ≤
      getValueFromCurve ambientBr curve ↔ 1/2 ≤ t := by
    have hmul : contrib - 2 * contrib * t = contrib * (1 - 2 * t) := by ring
    constructor
    · intro hle
      by_contra hlt
      have hpos : 0 < contrib * (1 - 2 * t) := mul_pos hcontrib (by linarith)
      linarith
    · intro hle
      have hneg : contrib * (1 - 2 * t) ≤ 0 :=
        mul_nonpos_of_nonneg_of_nonpos hcontrib.le (by linarith)
      linarith
  unfold newBacklight
  rw [if_neg ht, if_pos rfl, clamp_le_iff hlevel.1 hlevel.2, hhalf, getValueFromCurve_eq_top_iff]

/-! ### Requests -/

/-- What set_new_backlight requests when the screen shows content of brightness `s`. -/
def requestedLevel (c : BlCtx) (s : ℚ) : ℚ :=
  (setNewBacklight { c with st := { c.st with screenBr := s } }).loc.blReq.new

theorem requestedLevel_eq {c : BlCtx} {ac : AcState} (hac : c.st.acState = some ac) (s : ℚ) :
    requestedLevel c s =
      newBacklight (c.cf.sens.defaultCurve ac) c.st.ambientBr s c.cf.screen.contrib := by
  unfold requestedLevel setNewBacklight
  rw [hac]
  dsimp only
  unfold requestBacklight
  split_ifs <;> rfl

/-- Content `t` does not ask for a higher level than content `s`, and both levels are between the end
points of the curve. -/
structure DimsContent (c : BlCtx) (curve : Curve) (s t : ℚ) : Prop where
  antitone : requestedLevel c t ≤ requestedLevel c s
  darker : curve.bottom ≤ requestedLevel c s ∧ requestedLevel c s ≤ curve.top
  brighter : curve.bottom ≤ requestedLevel c t ∧ requestedLevel c t ≤ curve.top

/-- A black screen is lit up less than one that is a little brighter, until the content is so bright
that its window is below the curve, or unless the curve is at its upper end anyway. -/
theorem dimsContent_iff {c : BlCtx} {ac : AcState} (hac : c.st.acState = some ac)
    (hcontrib : 0 < c.cf.screen.contrib) {s t : ℚ} (hs : 0 ≤ s) (hst : s ≤ t) :
    DimsContent c (c.cf.sens.defaultCurve ac) s t ↔ 0 < s ∨ t = 0 ∨ 1/2 ≤ t ∨
      (c.cf.sens.defaultCurve ac).top ≤ (c.cf.sens.defaultCurve ac).parabola c.st.ambientBr ∨
        (c.cf.sens.defaultCurve ac).bottom = (c.cf.sens.defaultCurve ac).top := by
  have hrange (s : ℚ) : (c.cf.sens.defaultCurve ac).bottom ≤ requestedLevel c s ∧
      requestedLevel c s ≤ (c.cf.sens.defaultCurve ac).top := by
    rw [requestedLevel_eq hac]
    exact newBacklight_mem _ _ s _
  have hiff : DimsContent c (c.cf.sens.defaultCurve ac) s t ↔
      requestedLevel c t ≤ requestedLevel c s :=
    ⟨fun h => h.antitone, fun h => ⟨h, hrange s, hrange t⟩⟩
  rw [hiff, requestedLevel_eq hac, requestedLevel_eq hac]
  rcases hs.lt_or_eq with hpos | rfl
  · have hbelow := newBacklight_antitone (c.cf.sens.defaultCurve ac) c.st.ambientBr hcontrib.le
      hpos.ne' (hpos.trans_le hst).ne' hst
    exact ⟨fun _ => .inl hpos, fun _ => hbelow⟩
  · by_cases ht : t = 0
    · subst ht
      exact ⟨fun _ => .inr (.inl rfl), fun _ => le_rfl⟩
    · rw [newBacklight_le_zero_iff _ _ hcontrib ht]
      constructor
      · intro h
        exact .inr (.inr h)
      · rintro (habsurd | hzero | h)
        · exact absurd habsurd (lt_irrefl _)
        · exact absurd hzero ht
        · exact h

/-- A straight curve from 0 to 1, in a room that is half as bright as it can be. -/
def straightCtx : BlCtx where
  loc := Backlight.init
  st := { initState .default with acState := some .onAc, ambientBr := 1/2 }
  cf := { Conf.default with sens := { Conf.default.sens with
    defaultCurve := fun _ => ⟨[0, 1/2, 1], (0, 1/2, 0), by decide, by decide⟩ } }
  out := []
  calls := []

theorem dimsContent_grey : DimsContent straightCtx (straightCtx.cf.sens.defaultCurve .onAc) (1/10) 1 :=
  (dimsContent_iff rfl (by norm_num [straightCtx, Conf.default]) (by norm_num) (by norm_num)).mpr
    (.inl (by norm_num))

theorem dimsContent_black : ¬ ∀ (c : BlCtx) (ac : AcState) (s t : ℚ), c.st.acState = some ac →
    (c.cf.sens.defaultCurve ac).Fractions → (0 ≤ c.st.ambientBr ∧ c.st.ambientBr ≤ 1) →
      (0 < c.cf.screen.contrib ∧ c.cf.screen.contrib ≤ 1) → 0 ≤ s → s ≤ t → t ≤ 1 →
        DimsContent c (c.cf.sens.defaultCurve ac) s t := by
  intro hall
  have hpoints : (straightCtx.cf.sens.defaultCurve .onAc).Fractions := by
    unfold Curve.Fractions
    simp only [straightCtx, List.forall_mem_cons, Set.mem_Icc]
    norm_num
  have hdims := hall straightCtx .onAc 0 (1/10) rfl hpoints (by norm_num [straightCtx])
    (by norm_num [straightCtx, Conf.default]) le_rfl (by norm_num) (by norm_num)
  have hlevels := hdims.antitone
  rw [requestedLevel_eq rfl, requestedLevel_eq rfl] at hlevels
  norm_num [straightCtx, Conf.default, newBacklight, getValueFromCurve, clamp, Curve.top, Curve.bottom,
    Curve.first, Curve.last] at hlevels

end Backlight

end Clight
