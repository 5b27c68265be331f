import Clight.Modules
import Clight.Opts
import Clight.Timeouts

/-! Settings requests to a paused module. Each module has a receiver for when it runs and one
for when it is paused; both should store what is asked. -/
namespace Clight

/-! ### What a settings request leaves in the configuration -/

theorem Backlight.onBlToReq_conf (up : TimeoutUpd) (l l' : Backlight) (st : State) (cf : Conf) :
    (onBlToReq up (PausableMod.ctx l st cf)).cf = (onBlToReq up (PausableMod.ctx l' st cf)).cf := by
  unfold onBlToReq
  dsimp only [PausableMod.ctx]
  split
  · unfold interfaceTimeoutCallback
    split
    · rfl
    · dsimp only
      split_ifs
      · rw [resetOrPause_cf, resetOrPause_cf]
      · rfl
  · rfl

theorem Backlight.onNoAutocalibReq_conf (new : Bool) (l l' : Backlight) (st : State) (cf : Conf) :
    (onNoAutocalibReq new (PausableMod.ctx l st cf)).cf =
      (onNoAutocalibReq new (PausableMod.ctx l' st cf)).cf := by
  unfold onNoAutocalibReq
  dsimp only [PausableMod.ctx]
  by_cases hv : validateAutocalib cf new = true
  · rw [if_pos hv, if_pos hv]
    cases new with
    | true => rfl
    | false => rfl
  · rw [if_neg hv, if_neg hv]

theorem Backlight.onCurveReq_conf (fit : Fit) (up : CurveUpd) (l l' : Backlight) (st : State)
    (cf : Conf) : (onCurveReq fit up (PausableMod.ctx l st cf)).cf =
      (onCurveReq fit up (PausableMod.ctx l' st cf)).cf := by
  unfold onCurveReq
  dsimp only [PausableMod.ctx]
  by_cases hv : (validateCurve st up).2 = true
  · rw [if_pos hv, if_pos hv]
    split
    · rfl
    · rfl
  · rw [if_neg hv, if_neg hv]

theorem Screen.onScrToReq_conf (up : TimeoutUpd) (l l' : Screen) (st : State) (cf : Conf) :
    (onScrToReq up (PausableMod.ctx l st cf)).cf = (onScrToReq up (PausableMod.ctx l' st cf)).cf := by
  unfold onScrToReq
  dsimp only [PausableMod.ctx]
  split
  · rfl
  · split_ifs
    · rw [timeoutCallback_cf, timeoutCallback_cf]
    · rfl

theorem Screen.onContribReq_conf (new : ℚ) (l l' : Screen) (st : State) (cf : Conf) :
    (onContribReq new (PausableMod.ctx l st cf)).cf =
      (onContribReq new (PausableMod.ctx l' st cf)).cf := by
  have hstored : ∀ l : Screen, (onContribReq new (PausableMod.ctx l st cf)).cf =
      if validateContrib cf new then { cf with screen := { cf.screen with contrib := new } } else cf := by
    intro l
    unfold onContribReq
    dsimp only [PausableMod.ctx]
    by_cases hv : validateContrib cf new = true
    · rw [if_pos hv, if_pos hv]
      split_ifs
      · rfl
      · rfl
    · rw [if_neg hv, if_neg hv]
  rw [hstored l, hstored l']

theorem Keyboard.onCurveReq_conf (fit : Fit) (up : CurveUpd) (l l' : Keyboard) (st : State)
    (cf : Conf) : (onCurveReq fit up (PausableMod.ctx l st cf)).cf =
      (onCurveReq fit up (PausableMod.ctx l' st cf)).cf := by
  unfold onCurveReq
  dsimp only [PausableMod.ctx]
  split
  · rfl
  · rfl

theorem Idle.onToReq_conf (k : IdleConf) (up : TimeoutUpd) (l l' : Idle) (st : State) (cf : Conf) :
    (onToReq k up (PausableMod.ctx l st cf)).cf = (onToReq k up (PausableMod.ctx l' st cf)).cf := by
  unfold onToReq
  dsimp only [PausableMod.ctx]
  split
  · rfl
  · split_ifs
    · rw [timeoutCallback_cf, timeoutCallback_cf]
    · rfl

/-! ### Settings requests -/

namespace PausableMod

/-- The settings requests that a running module stores, and that pass their validators. -/
def Setting (st : State) (cf : Conf) : PausableMod → Msg → Prop
  | backlight, .blToReq up => (validateTimeout st up).2 = true
  | backlight, .curveReq up => (validateCurve st up).2 = true
  | backlight, .noAutocalibReq new => validateAutocalib cf new = true
  | screen, .scrToReq up => (validateTimeout st up).2 = true
  | screen, .contribReq new => validateContrib cf new = true
  | keyboard, .kbdToReq up => (validateTimeout st up).2 = true
  | keyboard, .kbdCurveReq up => (validateCurve st up).2 = true
  | dimmer, .dimmerToReq up => (validateTimeout st up).2 = true
  | dpms, .dpmsToReq up => (validateTimeout st up).2 = true
  | gamma, .ambGammaReq new => validateAmbgamma cf new = true
  | _, _ => False

/-- The settings that paused receivers have no case for: a KEYBOARD timeout that is not the
one stored already, and AMB_GAMMA_REQ. -/
def Unheard (st : State) (cf : Conf) : PausableMod → Msg → Prop
  | keyboard, .kbdToReq up => ∃ ac, AcState.ofInt? (validateTimeout st up).1.state = some ac ∧
      cf.kbd.timeout ac ≠ up.new
  | gamma, .ambGammaReq _ => True
  | _, _ => False

/-- The configuration once a message has been handled. -/
def confAfter (fit : Fit) (r : ModReplies) (x : PausableMod) (m : Msg) (l : x.Loc) (st : State)
    (cf : Conf) : Option Conf :=
  (handle fit r m st cf x l).map Handled.cf

theorem backlight_confAfter (fit : Fit) (r r' : ModReplies) {l l' : Backlight} {m : Msg}
    {st : State} {cf : Conf} (hl : Backlight.Running l) (hl' : Backlight.Running l')
    (hm : Setting st cf .backlight m) :
    confAfter fit r .backlight m l st cf = confAfter fit r' .backlight m l' st cf := by
  have hrun := Backlight.handle_of_running fit r.bl m (c := ctx l st cf) hl
  have hrun' := Backlight.handle_of_running fit r'.bl m (c := ctx l' st cf) hl'
  -- both receivers call the same callback
  apply congrArg some
  cases m with
  | blToReq up =>
    have h : Backlight.handle fit r.bl (.blToReq up) (ctx l st cf) = _ := or_self_iff.mp hrun
    have h' : Backlight.handle fit r'.bl (.blToReq up) (ctx l' st cf) = _ := or_self_iff.mp hrun'
    simp only [Ctx.handled, h, h']
    exact Backlight.onBlToReq_conf up l l' st cf
  | curveReq up =>
    have h : Backlight.handle fit r.bl (.curveReq up) (ctx l st cf) = _ := or_self_iff.mp hrun
    have h' : Backlight.handle fit r'.bl (.curveReq up) (ctx l' st cf) = _ := or_self_iff.mp hrun'
    simp only [Ctx.handled, h, h']
    exact Backlight.onCurveReq_conf fit up l l' st cf
  | noAutocalibReq new =>
    have h : Backlight.handle fit r.bl (.noAutocalibReq new) (ctx l st cf) = _ := or_self_iff.mp hrun
    have h' : Backlight.handle fit r'.bl (.noAutocalibReq new) (ctx l' st cf) = _ :=
      or_self_iff.mp hrun'
    simp only [Ctx.handled, h, h']
    exact Backlight.onNoAutocalibReq_conf new l l' st cf
  | _ => exact hm.elim

theorem screen_confAfter (fit : Fit) (r r' : ModReplies) {l l' : Screen} {m : Msg}
    {st : State} {cf : Conf} (hl : l.stack = []) (hl' : l'.stack = [])
    (hm : Setting st cf .screen m) :
    confAfter fit r .screen m l st cf = confAfter fit r' .screen m l' st cf := by
  have hrun : ∀ (reply : Option ℚ) {l : Screen}, l.stack = [] →
      Screen.handle reply m (ctx l st cf) = Screen.receive reply m (ctx l st cf) := by
    intro reply l hl
    unfold Screen.handle
    rw [hl]
  have h := hrun r.screen hl
  have h' := hrun r'.screen hl'
  apply congrArg some
  simp only [Ctx.handled, h, h']
  cases m with
  | scrToReq up => exact Screen.onScrToReq_conf up l l' st cf
  | contribReq new => exact Screen.onContribReq_conf new l l' st cf
  | _ => exact hm.elim

theorem idle_confAfter (k : IdleConf) (ok ok' : Bool) {l l' : Idle} {up : TimeoutUpd} {m : Msg}
    {st : State} {cf : Conf} (hl : Idle.Running l) (hl' : Idle.Running l')
    (hm : Idle.receive k m = Idle.onToReq k up ∧ Idle.receivePaused k m = Idle.onToReq k up) :
    ((Idle.handle k ok m (ctx l st cf)).map Ctx.handled).map Handled.cf =
      ((Idle.handle k ok' m (ctx l' st cf)).map Ctx.handled).map Handled.cf := by
  have h := Idle.handle_of_running k ok m (c := ctx l st cf) hl
  have h' := Idle.handle_of_running k ok' m (c := ctx l' st cf) hl'
  rw [h, h', hm.1, hm.2, ite_self, ite_self]
  exact congrArg some (Idle.onToReq_conf k up l l' st cf)

/-- KEYBOARD stores curves in both receivers, and timeouts only while it is not paused. -/
theorem keyboard_confAfter (fit : Fit) (r r' : ModReplies) {l l' : Keyboard} {m : Msg}
    {st : State} {cf : Conf} (hl : Keyboard.Running l) (hl' : Keyboard.Running l')
    (hp : l.paused.isUnpaused = false) (hu : l'.paused.isUnpaused = true)
    (hm : Setting st cf .keyboard m) :
    confAfter fit r .keyboard m l st cf = confAfter fit r' .keyboard m l' st cf ↔
      ¬ Unheard st cf .keyboard m := by
  have h := Keyboard.handle_of_running fit r.kbd m (c := ctx l st cf) hl
  have h' := Keyboard.handle_of_running fit r'.kbd m (c := ctx l' st cf) hl'
  simp only [hp, Bool.false_eq_true, if_false] at h
  simp only [hu, if_true] at h'
  have hc : confAfter fit r .keyboard m l st cf =
      some (Keyboard.receivePaused fit r.kbd m (ctx l st cf)).cf :=
    congrArg (fun c : KbdCtx => some c.cf) h
  have hc' : confAfter fit r' .keyboard m l' st cf =
      some (Keyboard.receive fit r'.kbd m (ctx l' st cf)).cf :=
    congrArg (fun c : KbdCtx => some c.cf) h'
  rw [hc, hc', Option.some.injEq]
  cases m with
  | kbdCurveReq up => exact iff_of_true (Keyboard.onCurveReq_conf fit up l l' st cf) id
  | kbdToReq up =>
    obtain ⟨ac, hac⟩ : ∃ ac, AcState.ofInt? (validateTimeout st up).1.state = some ac :=
      Option.isSome_iff_exists.mp hm
    have hstored : (Keyboard.onKbdToReq r'.kbd up (ctx l' st cf)).cf =
        Keyboard.withTimeout ac up.new cf := by
      unfold Keyboard.onKbdToReq
      simp only [hac]
      split_ifs
      · exact Keyboard.setKeyboardTimeout_cf r'.kbd _
      · rfl
    have hread : (Keyboard.withTimeout ac up.new cf).kbd.timeout ac = up.new :=
      Function.update_self ..
    change cf = (Keyboard.onKbdToReq r'.kbd up (ctx l' st cf)).cf ↔ _
    rw [hstored]
    constructor
    · rintro hsame ⟨ac', hac', hne⟩
      obtain rfl := Option.some.inj (hac.symm.trans hac')
      rw [← hsame] at hread
      exact hne hread
    · intro hheard
      have hval : cf.kbd.timeout ac = up.new := by
        by_contra hne
        exact hheard ⟨ac, hac, hne⟩
      unfold Keyboard.withTimeout
      rw [← hval, Function.update_eq_self]
  | _ => exact hm.elim

/-- A paused GAMMA does not store AMB_GAMMA_REQ. -/
theorem gamma_confAfter (fit : Fit) (r r' : ModReplies) {l l' : Gamma} {m : Msg} {st : State}
    {cf : Conf} (hl : Running .gamma l) (hl' : Running .gamma l') (hp : l.paused.isUnpaused = false)
    (hu : l'.paused.isUnpaused = true) (hm : Setting st cf .gamma m) :
    confAfter fit r .gamma m l st cf = confAfter fit r' .gamma m l' st cf ↔
      ¬ Unheard st cf .gamma m := by
  have h := Gamma.handle_of_running r.gamma m (c := ctx l st cf) hl
  have h' := Gamma.handle_of_running r'.gamma m (c := ctx l' st cf) hl'
  simp only [hp, Bool.false_eq_true, if_false] at h
  simp only [hu, if_true] at h'
  have hc : confAfter fit r .gamma m l st cf =
      some (Gamma.receivePaused r.gamma m (ctx l st cf)).cf :=
    congrArg (fun o : Option GammaCtx => (o.map Ctx.handled).map Handled.cf) h
  have hc' : confAfter fit r' .gamma m l' st cf =
      some (Gamma.receive r'.gamma m (ctx l' st cf)).cf :=
    congrArg (fun o : Option GammaCtx => (o.map Ctx.handled).map Handled.cf) h'
  rw [hc, hc', Option.some.injEq]
  cases m with
  | ambGammaReq new =>
    have hv : validateAmbgamma cf new = true := hm
    have hstored : (Gamma.receive r'.gamma (.ambGammaReq new) (ctx l' st cf)).cf =
        (Gamma.setAmbientGamma new (ctx l' st cf)).cf := by
      unfold Gamma.receive
      simp only [hv, if_true]
      exact Gamma.onAmbgammaReq_cf r'.gamma new _
    refine iff_of_false ?_ (not_not_intro trivial)
    intro hsame
    rw [hstored] at hsame
    have hambient : cf.gamma.ambientGamma = new := congrArg (fun cf => cf.gamma.ambientGamma) hsame
    rw [validateAmbgamma, hambient, bne_self_eq_false] at hv
    cases hv
  | _ => exact hm.elim

end PausableMod

open PausableMod in
/-- Pausing a module loses a setting exactly when its paused receiver has no case for it. -/
theorem paused_settings_kept_iff (fit : Fit) (r r' : ModReplies) {x : PausableMod} {l l' : x.Loc}
    {m : Msg} {st : State} {cf : Conf} (hl : Running x l) (hl' : Running x l')
    (hp : (mask x l).isUnpaused = false) (hu : (mask x l').isUnpaused = true)
    (hm : Setting st cf x m) :
    confAfter fit r x m l st cf = confAfter fit r' x m l' st cf ↔ ¬ Unheard st cf x m := by
  cases x with
  | backlight => exact iff_of_true (backlight_confAfter fit r r' hl hl' hm) id
  | screen => exact iff_of_true (screen_confAfter fit r r' hl hl' hm) id
  | keyboard => exact keyboard_confAfter fit r r' hl hl' hp hu hm
  | dimmer =>
    cases m with
    | dimmerToReq up => exact iff_of_true (idle_confAfter dimmerConf _ _ hl hl' ⟨rfl, rfl⟩) id
    | _ => exact hm.elim
  | dpms =>
    cases m with
    | dpmsToReq up => exact iff_of_true (idle_confAfter dpmsConf _ _ hl hl' ⟨rfl, rfl⟩) id
    | _ => exact hm.elim
  | gamma => exact gamma_confAfter fit r r' hl hl' hp hu hm

def pausedDimmer : Idle := { stack := [.paused], paused := PauseMask.unpaused.set .timeout, client := true }
def runningDimmer : Idle := { stack := [], paused := .unpaused, client := true }

/-- DIMMER, paused by TIMEOUT, takes the same timeout as a running DIMMER does. -/
theorem paused_settings_kept_dimmer :
    PausableMod.confAfter (fun _ => (0, 0, 0)) Modules.okReplies .dimmer (.dimmerToReq ⟨10, 0, 0⟩)
        pausedDimmer (initState .default) .default =
      PausableMod.confAfter (fun _ => (0, 0, 0)) Modules.okReplies .dimmer (.dimmerToReq ⟨10, 0, 0⟩)
        runningDimmer (initState .default) .default := by
  have hl : PausableMod.Running .dimmer pausedDimmer := rfl
  have hl' : PausableMod.Running .dimmer runningDimmer := rfl
  have hm : PausableMod.Setting (initState .default) .default .dimmer (.dimmerToReq ⟨10, 0, 0⟩) := rfl
  exact (paused_settings_kept_iff _ _ _ hl hl' rfl rfl hm).mpr id

/-- KEYBOARD with no timeout on AC, so that TIMEOUT pauses it when it starts. -/
def noKbdTimeoutConf : Conf :=
  { Conf.default with kbd := { Conf.default.kbd with timeout := fun _ => 0 } }

def startKeyboard : List ModulesEvent :=
  [.world { initState noKbdTimeoutConf with acState := some .onAc }, .publish (.upowerUpd none .onAc),
    .deliver .keyboard Modules.okReplies]

/-- The timeout that would let a paused KEYBOARD run again is dropped. -/
theorem paused_settings_lost : ¬ ∀ (fit : Fit) (r : ModReplies) (s : Modules) (x : PausableMod)
    (l' : x.Loc) (m : Msg), (modules fit).Reachable s → x.Running (s.loc x) →
    (x.mask (s.loc x)).isUnpaused = false → x.Running l' → (x.mask l').isUnpaused = true →
    x.Setting s.st s.cf m →
    x.confAfter fit r m (s.loc x) s.st s.cf = x.confAfter fit r m l' s.st s.cf := by
  intro h
  have hrun : ((modules fun _ => (0, 0, 0)).run (Modules.start noKbdTimeoutConf 6500) startKeyboard).any
      (fun s => Keyboard.stack (s.loc .keyboard) = [.paused] &&
        !(Keyboard.paused (s.loc .keyboard)).isUnpaused &&
        s.cf.kbd.timeout .onAc = 0) = true := by decide +kernel
  obtain ⟨s, hs, hp⟩ := (Option.any_eq_true _ _).mp hrun
  simp only [Bool.and_eq_true, Bool.not_eq_true', decide_eq_true_eq] at hp
  obtain ⟨⟨hstack, hpaused⟩, hzero⟩ := hp
  have hreach := Machine.reachable_of_run (Modules.init_start noKbdTimeoutConf 6500) hs
  have hrunning : PausableMod.Running .keyboard (s.loc .keyboard) := by
    change Keyboard.stack (s.loc .keyboard) = _
    rw [hstack, pausedStack, hpaused]
    rfl
  let running : Keyboard := { Keyboard.init with stack := [] }
  have hl' : PausableMod.Running .keyboard running := rfl
  have hm : PausableMod.Setting s.st s.cf .keyboard (.kbdToReq ⟨10, 0, 0⟩) := rfl
  have hsame := h (fun _ => (0, 0, 0)) Modules.okReplies s .keyboard running (.kbdToReq ⟨10, 0, 0⟩)
    hreach hrunning hpaused hl' rfl hm
  have hheard := (PausableMod.keyboard_confAfter _ _ _ hrunning hl' hpaused rfl hm).mp hsame
  apply hheard
  refine ⟨.onAc, rfl, ?_⟩
  rw [hzero]
  decide

end Clight
