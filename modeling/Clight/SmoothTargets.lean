import Clight.Backlight
import Clight.Gamma
import Clight.Opts

/-! A smooth backlight target is announced by a BL_UPD of its own, ahead of its steps;
ambient gamma follows it. -/
namespace Clight

namespace Backlight

/-- The BL_UPD of publish_bl_upd for a smooth target. -/
def target (c : BlCtx) (pct step : ℚ) (timeout : ℤ) : Msg :=
  .blUpd c.st.currentBlPct { new := pct, smooth := 1, timeout := timeout, step := step }

def hasOverrides (cf : Conf) : Bool := cf.sens.specificCurves.keys ≠ []

/-- The broadcast call announces its target; the calls to each monitor announce nothing. -/
theorem setBacklightLevel_out {r : BlReplies} (hsent : r.setSent = true) (pct : ℚ)
    (isSmooth : Bool) (step : ℚ) (timeout : ℤ) (c : BlCtx) :
    (setBacklightLevel r pct isSmooth step timeout c).out =
      c.out ++ if isSmooth && !hasOverrides c.cf then [target c pct step timeout] else [] := by
  unfold setBacklightLevel hasOverrides
  by_cases hkeys : c.cf.sens.specificCurves.keys = []
  · cases isSmooth with
    | true => simp [hkeys, hsent, publishBlUpd, target]
    | false => simp [hkeys]
  · simp [hkeys, setEachBrightness]

end Backlight

namespace Gamma

/-- The temperature of ambient gamma for a backlight level. -/
def ambientTemp (cf : GammaConf) (pct : ℚ) : ℤ :=
  truncRat (tempDiff cf * pct +
    ((if cf.temp .night < cf.temp .day then cf.temp .night else cf.temp .day : ℤ) : ℚ))

/-- A GAMMA whose temperature goes with the backlight. -/
structure Ambient (c : GammaCtx) : Prop where
  on : c.cf.gamma.ambientGamma = true
  display : c.st.displayBusy = false

theorem receive_target {c : GammaCtx} (h : Ambient c) (r : GammaReplies) (old pct step : ℚ)
    (timeout : ℤ) :
    (receive r (.blUpd old { new := pct, smooth := 1, timeout := timeout, step := step }) c).calls =
      c.calls ++ [.set (ambientTemp c.cf.gamma pct) (smoothInt c.cf.gamma) c.cf.gamma.transStep
        c.cf.gamma.transTimeout] := by
  have hcalls : ∀ temp : ℤ, (setTempConf r temp none c).calls = c.calls ++
      [.set temp (smoothInt c.cf.gamma) c.cf.gamma.transStep c.cf.gamma.transTimeout] := by
    intro temp
    unfold setTempConf setTemp
    simp only [Option.isSome_none, Bool.and_false, Bool.false_and, Bool.false_eq_true, if_false]
    split_ifs
    · rfl
    · rfl
  have hguard : (c.cf.gamma.ambientGamma && !c.st.displayBusy &&
      (true || c.cf.bl.smooth.noSmooth)) = true := by
    rw [h.on, h.display]
    rfl
  change (ambientCallback r true pct c).calls = _
  unfold ambientCallback
  rw [if_pos hguard]
  exact hcalls _

/-- GAMMA once it has received these messages. -/
def hears (r : GammaReplies) (ms : List Msg) (c : GammaCtx) : GammaCtx :=
  ms.foldl (fun c m => receive r m c) c

end Gamma

/-- Smooth targets, and only these, are announced; an ambient GAMMA that hears what is
published sets the temperature of the target. -/
structure Announced (c c' : BlCtx) (pct : ℚ) (isSmooth : Bool) (step : ℚ) (timeout : ℤ) : Prop where
  out : c'.out = c.out ++ if isSmooth then [Backlight.target c pct step timeout] else []
  followed : isSmooth = true → ∀ (r : GammaReplies) (g : GammaCtx), Gamma.Ambient g →
    (Gamma.hears r (c'.out.drop c.out.length) g).calls =
      g.calls ++ [.set (Gamma.ambientTemp g.cf.gamma pct) (Gamma.smoothInt g.cf.gamma)
        g.cf.gamma.transStep g.cf.gamma.transTimeout]

theorem Announced.of_out {c c' : BlCtx} {pct : ℚ} {isSmooth : Bool} {step : ℚ} {timeout : ℤ}
    (h : c'.out = c.out ++ if isSmooth then [Backlight.target c pct step timeout] else []) :
    Announced c c' pct isSmooth step timeout where
  out := h
  followed := by
    intro hs r g hg
    rw [h, hs, if_pos rfl, List.drop_left]
    exact Gamma.receive_target hg r c.st.currentBlPct pct step timeout

/-- A target is announced as it should exactly when no monitor has a curve of its own, or
there is nothing to announce. -/
theorem smooth_target_announced_iff {r : BlReplies} (hsent : r.setSent = true) (pct : ℚ)
    (isSmooth : Bool) (step : ℚ) (timeout : ℤ) (c : BlCtx) :
    Announced c (Backlight.setBacklightLevel r pct isSmooth step timeout c) pct isSmooth step
        timeout ↔
      (isSmooth = true → c.cf.sens.specificCurves.keys = []) := by
  have hout := Backlight.setBacklightLevel_out hsent pct isSmooth step timeout c
  constructor
  · intro h hs
    have hsame := List.append_cancel_left (hout.symm.trans h.out)
    by_contra hkeys
    have hover : Backlight.hasOverrides c.cf = true := decide_eq_true hkeys
    rw [hs, hover] at hsame
    exact absurd hsame (List.cons_ne_nil _ _).symm
  · intro h
    apply Announced.of_out
    rw [hout]
    cases isSmooth with
    | false => rfl
    | true =>
      have hover : Backlight.hasOverrides c.cf = false := by simp [Backlight.hasOverrides, h rfl]
      rw [hover]
      rfl

def okBlReplies : BlReplies := { sensor := true, capture := none, levels := [], setSent := true }

/-- BACKLIGHT on a configuration, with one monitor plugged. -/
def pluggedCtx (cf : Conf) : BlCtx where
  loc := { Backlight.init with stack := [], bls := (∅ : AList fun _ : MonId => ℚ).insert "edp" 1 }
  st := initState cf
  cf := cf
  out := []
  calls := []

/-- Without overrides, a smooth step to half the backlight is announced. -/
theorem smooth_target_announced_default :
    Announced (pluggedCtx .default)
      (Backlight.setBacklightLevel okBlReplies (1 / 2) true (1 / 20) 30 (pluggedCtx .default))
      (1 / 2) true (1 / 20) 30 :=
  (smooth_target_announced_iff rfl (1 / 2) true (1 / 20) 30 (pluggedCtx .default)).mpr
    fun _ => rfl

/-- The default curves, also as those of the plugged monitor. -/
def overriddenConf : Conf :=
  { Conf.default with sens := { Conf.default.sens with
      specificCurves := (∅ : AList fun _ : MonId => AcState → Curve).insert "edp"
        Conf.default.sens.defaultCurve } }

/-- With an override the monitor is set and nothing is published. -/
theorem smooth_target_silent : ¬ ∀ (r : BlReplies) (pct : ℚ) (isSmooth : Bool) (step : ℚ)
    (timeout : ℤ) (c : BlCtx), r.setSent = true →
    Announced c (Backlight.setBacklightLevel r pct isSmooth step timeout c) pct isSmooth step
      timeout := by
  intro h
  have hout := (h okBlReplies (1 / 2) true (1 / 20) 30 (pluggedCtx overriddenConf) rfl).out
  have hlength := congrArg List.length hout
  have hsilent : (Backlight.setBacklightLevel okBlReplies (1 / 2) true (1 / 20) 30
      (pluggedCtx overriddenConf)).out = [] := rfl
  rw [hsilent] at hlength
  exact absurd hlength (by decide)

end Clight
