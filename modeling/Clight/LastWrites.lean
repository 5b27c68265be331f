import Clight.ConfWrites

/-! The configuration over any run: each setting holds what was stored in it last, and nothing else
ever changes it. -/
namespace Clight
variable {cf : Conf} {st : State}

theorem puts_of_eq {cf' : Conf} (h : cf' = cf) : Puts [] cf cf' := by
  rw [h]
  exact .refl cf

/-! ### BACKLIGHT -/

namespace Backlight

theorem puts_blTimeout (cf : Conf) (ac : AcState) (t : BlTime) (new : ℤ) :
    Puts [⟨.blTimeout ac t, new⟩] cf { cf with bl := { cf.bl with
      timeout := Function.update cf.bl.timeout ac (Function.update (cf.bl.timeout ac) t new) } } := by
  have hself : Function.update cf.bl.timeout ac (Function.update (cf.bl.timeout ac) t new) ac t = new := by
    rw [Function.update_self, Function.update_self]
  have hother : ∀ ac' t', ConfSetting.blTimeout ac' t' ≠ ConfSetting.blTimeout ac t →
      Function.update cf.bl.timeout ac (Function.update (cf.bl.timeout ac) t new) ac' t' =
        cf.bl.timeout ac' t' := by
    intro ac' t' hne
    by_cases hac : ac' = ac
    · subst hac
      rw [Function.update_self]
      exact update_frame (ConfSetting.blTimeout ac') hne
    · rw [Function.update_of_ne hac]
  refine .cell hself ?_
  intro k hk
  cases k
  case blTimeout ac' t' => exact hother ac' t' hk
  all_goals rfl

theorem puts_noAutoCalib (cf : Conf) (new : Bool) :
    Puts [⟨.noAutoCalib, new⟩] cf { cf with bl := { cf.bl with noAutoCalib := new } } := by
  refine .cell (by rfl) ?_
  intro k hk
  cases k <;> first
    | rfl
    | exact absurd rfl hk

theorem isTable_defaultCurve : IsTable .sensPoints (fun _ => Curve.points) (fun cf => cf.sens.defaultCurve)
    fun t cf => { cf with sens := { cf.sens with defaultCurve := t } } where
  get_table _ _ := rfl
  get_write _ _ _ := rfl
  frame _ _ k hk := by cases k <;> first | rfl | exact absurd rfl (hk _)

theorem puts_onBlToReq (up : TimeoutUpd) (c : BlCtx) :
    Puts (timeoutPuts c.st up) c.cf (onBlToReq up c).cf := by
  unfold timeoutPuts onBlToReq
  dsimp only
  cases AcState.ofInt? (validateTimeout c.st up).1.state with
  | none => exact .refl c.cf
  | some ac =>
    dsimp only [interfaceTimeoutCallback]
    cases BlTime.ofInt? (validateTimeout c.st up).1.daytime with
    | none => exact .refl c.cf
    | some t =>
      dsimp only
      split_ifs
      · rw [resetOrPause_cf]
        exact puts_blTimeout c.cf ac t _
      · exact puts_blTimeout c.cf ac t _

theorem puts_onNoAutocalibReq (new : Bool) (c : BlCtx) :
    Puts (puts c.st c.cf (.noAutocalibReq new)) c.cf (onNoAutocalibReq new c).cf := by
  unfold puts onNoAutocalibReq
  dsimp only
  split_ifs
  · have hcf : (interfaceAutocalibCallback new c).cf =
        { c.cf with bl := { c.cf.bl with noAutoCalib := new } } := pauseIf_cf ..
    rw [hcf]
    exact puts_noAutoCalib c.cf new
  · exact .refl c.cf

end Backlight

/-- A curve that passed validate_curve holds the points that were sent. -/
theorem refit_points {up : CurveUpd} {pts : List ℚ} (hvalid : (validateCurve st up).2 = true)
    (hpts : (validateCurve st up).1.regressionPoints = some pts) (fit : Fit) (c : Curve) :
    (Curve.refit fit pts c).points = pts := by
  unfold validateCurve at hvalid hpts
  dsimp only at hvalid hpts
  rw [hpts] at hvalid
  simp only [Bool.and_eq_true, decide_eq_true_eq] at hvalid
  unfold Curve.refit
  rw [dif_pos hvalid.2.1]
  rfl

/-- A request for a curve of a table stores its points, if it passes validate_curve. -/
theorem puts_curve {f : AcState → ConfSetting} {p : (ac : AcState) → Curve → (f ac).Val}
    {table : Conf → AcState → Curve} {write : (AcState → Curve) → Conf → Conf}
    {put : AcState → List ℚ → Put} (h : IsTable f p table write)
    (hput : ∀ ac c, put ac c.points = ⟨f ac, p ac c⟩) (fit : Fit) (up : CurveUpd) {cf' : Conf}
    (hkept : (curvePuts put st up = []) → cf' = cf)
    (hstored : ∀ ac pts, (validateCurve st up).2 = true →
      AcState.ofInt? (validateCurve st up).1.state = some ac →
      (validateCurve st up).1.regressionPoints = some pts →
      cf' = write (Function.update (table cf) ac (Curve.refit fit pts (table cf ac))) cf) :
    Puts (curvePuts put st up) cf cf' := by
  unfold curvePuts at hkept ⊢
  dsimp only at hkept ⊢
  split
  · next ac pts hvalid hac hpts =>
    have hentry := h.puts cf ac (Curve.refit fit pts (table cf ac))
    rw [← hput, refit_points hvalid hpts] at hentry
    rw [hstored ac pts hvalid hac hpts]
    exact hentry
  · next hnone =>
    refine puts_of_eq (hkept ?_)
    split
    · next ac pts hvalid hac hpts => exact absurd hpts (hnone ac pts hvalid hac)
    · rfl

namespace Backlight

theorem puts_onCurveReq (fit : Fit) (up : CurveUpd) (c : BlCtx) :
    Puts (puts c.st c.cf (.curveReq up)) c.cf (onCurveReq fit up c).cf := by
  refine puts_curve isTable_defaultCurve (fun _ _ => rfl) fit up ?_ ?_
  · intro hnone
    unfold curvePuts at hnone
    unfold onCurveReq
    dsimp only at hnone ⊢
    split_ifs with hvalid
    · split
      · next ac pts hac hpts =>
        rw [hvalid, hac, hpts] at hnone
        cases hnone
      · rfl
    · rfl
  · intro ac pts hvalid hac hpts
    unfold onCurveReq
    dsimp only
    rw [if_pos hvalid, hac, hpts]
    rfl

theorem puts_handle (fit : Fit) (r : BlReplies) (m : Msg) (c : BlCtx) :
    Puts (if c.loc.isWaiting then [] else puts c.st c.cf m) c.cf (handle fit r m c).cf := by
  have hsame : ∀ {c' : BlCtx}, c'.cf = c.cf → Puts [] c.cf c'.cf := puts_of_eq
  have hother : (∀ up, m ≠ .blToReq up) → (∀ up, m ≠ .curveReq up) → (∀ new, m ≠ .noAutocalibReq new) →
      puts c.st c.cf m = [] := by
    intro hto hcurve hcal
    cases m
    case blToReq up => exact absurd rfl (hto up)
    case curveReq up => exact absurd rfl (hcurve up)
    case noAutocalibReq new => exact absurd rfl (hcal new)
    all_goals rfl
  have hpaused : Puts (puts c.st c.cf m) c.cf (receivePaused fit r m c).cf := by
    unfold receivePaused
    split
    · exact hsame rfl
    · split_ifs
      · exact .refl c.cf
      · exact hsame (setNewBacklight_cf c)
    · exact hsame rfl
    · exact hsame (pauseIf_cf ..)
    · exact hsame (resetOrPause_cf ..)
    · exact hsame (resetOrPause_cf ..)
    · exact hsame (onLidUpdate_cf c)
    · exact hsame (pauseIf_cf ..)
    · exact hsame (pauseIf_cf ..)
    · exact puts_onBlToReq _ c
    · split_ifs
      · exact hsame (doCapture_cf ..)
      · exact .refl c.cf
    · split_ifs
      · exact hsame (doCapture_cf ..)
      · exact .refl c.cf
    · exact puts_onCurveReq fit _ c
    · exact puts_onNoAutocalibReq _ c
    · exact hsame (onBlReq_cf ..)
    · exact hsame (onBlReq_cf ..)
    · exact hsame (onLoopStopped_cf c)
    · rw [hother ‹_› ‹_› ‹_›]
      exact .refl c.cf
  have hrunning : Puts (puts c.st c.cf m) c.cf (receive fit r m c).cf := by
    unfold receive
    split
    · exact hsame rfl
    · exact hsame rfl
    · exact hsame (setNewBacklight_cf c)
    · exact hsame rfl
    · exact hsame (pauseIf_cf ..)
    · exact hsame (resetOrPause_cf ..)
    · exact hsame (resetOrPause_cf ..)
    · exact hsame (onLidUpdate_cf c)
    · exact hsame (pauseIf_cf ..)
    · exact hsame (pauseIf_cf ..)
    · exact puts_onBlToReq _ c
    · exact hsame (doCapture_cf ..)
    · exact hsame (doCapture_cf ..)
    · exact puts_onCurveReq fit _ c
    · exact puts_onNoAutocalibReq _ c
    · exact hsame (onBlReq_cf ..)
    · exact hsame (onBlReq_cf ..)
    · exact hsame (onLoopStopped_cf c)
    · rw [hother ‹_› ‹_› ‹_›]
      exact .refl c.cf
  have hwaiting : Puts [] c.cf (receiveWaitingInit r m c).cf := by
    refine hsame ?_
    unfold receiveWaitingInit
    dsimp only
    split_ifs
    · exact startup_cf ..
    · rfl
  unfold handle isWaiting
  cases c.loc.stack with
  | nil => exact hrunning
  | cons top rest =>
    cases top with
    | waitingInit => exact hwaiting
    | paused => exact hpaused

end Backlight

/-! ### SCREEN -/

namespace Screen

theorem isTable_timeout : IsTable .screenTimeout (fun _ t => t) (fun cf => cf.screen.timeout)
    fun t cf => { cf with screen := { cf.screen with timeout := t } } where
  get_table _ _ := rfl
  get_write _ _ _ := rfl
  frame _ _ k hk := by cases k <;> first | rfl | exact absurd rfl (hk _)

theorem puts_contrib (cf : Conf) (new : ℚ) :
    Puts [⟨.contrib, new⟩] cf { cf with screen := { cf.screen with contrib := new } } := by
  refine .cell (by rfl) ?_
  intro k hk
  cases k <;> first
    | rfl
    | exact absurd rfl hk

theorem puts_onScrToReq (up : TimeoutUpd) (c : ScreenCtx) :
    Puts (puts c.st c.cf (.scrToReq up)) c.cf (onScrToReq up c).cf := by
  unfold puts timeoutPuts onScrToReq
  dsimp only
  cases AcState.ofInt? (validateTimeout c.st up).1.state with
  | none => exact .refl c.cf
  | some ac =>
    dsimp only
    split_ifs
    · rw [timeoutCallback_cf]
      exact isTable_timeout.puts c.cf ac up.new
    · exact isTable_timeout.puts c.cf ac up.new

theorem puts_onContribReq (new : ℚ) (c : ScreenCtx) :
    Puts (puts c.st c.cf (.contribReq new)) c.cf (onContribReq new c).cf := by
  unfold puts onContribReq
  dsimp only
  split_ifs
  · exact puts_contrib c.cf new
  · exact puts_contrib c.cf new
  · exact .refl c.cf

theorem puts_handle (reply : Option ℚ) (m : Msg) (c : ScreenCtx) :
    Puts (if c.loc.stack.head? = some .waitingState then [] else puts c.st c.cf m) c.cf
      (handle reply m c).cf := by
  have hsame : ∀ {c' : ScreenCtx}, c'.cf = c.cf → Puts [] c.cf c'.cf := puts_of_eq
  have hmeasure : ∀ c' : ScreenCtx, (getScreenBrightness reply c').cf = c'.cf := by
    intro c'
    unfold getScreenBrightness
    cases reply with
    | none => split_ifs <;> rfl
    | some br => split_ifs <;> rfl
  have hother : (∀ up, m ≠ .scrToReq up) → (∀ new, m ≠ .contribReq new) → puts c.st c.cf m = [] := by
    intro hto hcontrib
    cases m
    case scrToReq up => exact absurd rfl (hto up)
    case contribReq new => exact absurd rfl (hcontrib new)
    all_goals rfl
  have hrunning : Puts (puts c.st c.cf m) c.cf (receive reply m c).cf := by
    unfold receive
    split
    · refine hsame ?_
      unfold onAmbientBr
      dsimp only
      split_ifs
      · exact hmeasure _
      · rfl
    · exact hsame (hmeasure _)
    · exact hsame (timeoutCallback_cf ..)
    · exact .refl c.cf
    · exact .refl c.cf
    · split_ifs <;> exact .refl c.cf
    · exact .refl c.cf
    · exact puts_onScrToReq _ c
    · exact .refl c.cf
    · exact .refl c.cf
    · exact puts_onContribReq _ c
    · rw [hother ‹_› ‹_›]
      exact .refl c.cf
  have hwaiting : Puts [] c.cf (receiveWaitingState m c).cf := by
    refine hsame ?_
    unfold receiveWaitingState
    split
    · exact timeoutCallback_cf ..
    · rfl
  unfold handle
  cases c.loc.stack with
  | nil => exact hrunning
  | cons top rest =>
    cases top
    exact hwaiting

end Screen

/-! ### KEYBOARD -/

namespace Keyboard

theorem isTable_timeout : IsTable .kbdTimeout (fun _ t => t) (fun cf => cf.kbd.timeout)
    fun t cf => { cf with kbd := { cf.kbd with timeout := t } } where
  get_table _ _ := rfl
  get_write _ _ _ := rfl
  frame _ _ k hk := by cases k <;> first | rfl | exact absurd rfl (hk _)

theorem isTable_curve : IsTable .kbdPoints (fun _ => Curve.points) (fun cf => cf.kbd.curve)
    fun t cf => { cf with kbd := { cf.kbd with curve := t } } where
  get_table _ _ := rfl
  get_write _ _ _ := rfl
  frame _ _ k hk := by cases k <;> first | rfl | exact absurd rfl (hk _)

theorem puts_onKbdToReq (sent : Bool) (up : TimeoutUpd) (c : KbdCtx) :
    Puts (timeoutPuts (fun ac new => ⟨.kbdTimeout ac, new⟩) c.st up) c.cf (onKbdToReq sent up c).cf := by
  unfold timeoutPuts onKbdToReq
  cases AcState.ofInt? (validateTimeout c.st up).1.state with
  | none => exact .refl c.cf
  | some ac =>
    dsimp only
    split_ifs
    · rw [setKeyboardTimeout_cf]
      exact isTable_timeout.puts c.cf ac up.new
    · exact isTable_timeout.puts c.cf ac up.new

theorem puts_onCurveReq (fit : Fit) (up : CurveUpd) (c : KbdCtx) :
    Puts (curvePuts (fun ac pts => ⟨.kbdPoints ac, pts⟩) c.st up) c.cf (onCurveReq fit up c).cf := by
  refine puts_curve isTable_curve (fun _ _ => rfl) fit up ?_ ?_
  · intro hnone
    unfold curvePuts at hnone
    unfold onCurveReq
    dsimp only at hnone ⊢
    split
    · next ac pts hvalid hac hpts =>
      rw [hvalid, hac, hpts] at hnone
      cases hnone
    · rfl
  · intro ac pts hvalid hac hpts
    unfold onCurveReq
    dsimp only
    rw [hvalid, hac, hpts]

theorem puts_handle (fit : Fit) (sent : Bool) (m : Msg) (c : KbdCtx) :
    Puts (if c.loc.stack.head? = some .waitingInit then [] else puts c.loc c.st m) c.cf
      (handle fit sent m c).cf := by
  have hsame : ∀ {c' : KbdCtx}, c'.cf = c.cf → Puts [] c.cf c'.cf := puts_of_eq
  have hlevel : ∀ (up : BlUpd) (c' : KbdCtx), (onKbdBlReq sent up c').cf = c'.cf := by
    intro up c'
    unfold onKbdBlReq
    dsimp only
    split_ifs
    · exact setKeyboardLevel_cf ..
    · rfl
  have hother : (∀ up, m = .kbdToReq up → c.loc.stack ≠ []) → (∀ up, m ≠ .kbdCurveReq up) →
      puts c.loc c.st m = [] := by
    intro hto hcurve
    cases m
    case kbdToReq up => exact if_neg (hto up rfl)
    case kbdCurveReq up => exact absurd rfl (hcurve up)
    all_goals rfl
  have hpaused : c.loc.stack ≠ [] → Puts (puts c.loc c.st m) c.cf (receivePaused fit sent m c).cf := by
    intro hstack
    unfold receivePaused
    split
    · exact hsame (pauseKbd_cf ..)
    · exact hsame (setKeyboardTimeout_cf ..)
    · exact hsame (pauseKbd_cf ..)
    · exact puts_onCurveReq fit _ c
    · rw [hother (fun _ _ => hstack) ‹_›]
      exact .refl c.cf
  have hrunning : c.loc.stack = [] → Puts (puts c.loc c.st m) c.cf (receive fit sent m c).cf := by
    intro hstack
    unfold receive
    split
    · refine hsame ?_
      unfold onScreenBlUpdate
      split
      · rfl
      · dsimp only
        split_ifs <;> rfl
    · exact hsame (hlevel _ c)
    · exact hsame (hlevel _ _)
    · next up =>
      have hput : puts c.loc c.st (.kbdToReq up) =
          timeoutPuts (fun ac new => ⟨.kbdTimeout ac, new⟩) c.st up := if_pos hstack
      rw [hput]
      exact puts_onKbdToReq sent up c
    · exact hsame (pauseKbd_cf ..)
    · exact hsame (setKeyboardTimeout_cf ..)
    · exact hsame (pauseKbd_cf ..)
    · exact puts_onCurveReq fit _ c
    · have hto : ∀ up, m ≠ .kbdToReq up := ‹_›
      rw [hother (fun up hup => absurd hup (hto up)) ‹_›]
      exact .refl c.cf
  have hwaiting : Puts [] c.cf (receiveWaitingInit sent m c).cf := by
    refine hsame ?_
    unfold receiveWaitingInit
    split
    · exact setKeyboardTimeout_cf ..
    · rfl
  unfold handle
  cases hs : c.loc.stack with
  | nil => exact hrunning hs
  | cons top rest =>
    cases top with
    | waitingInit => exact hwaiting
    | paused => exact hpaused (by simp [hs])

end Keyboard

/-! ### DIMMER and DPMS -/

namespace Idle
variable {k : IdleConf} {put : AcState → ℤ → Put}

theorem puts_onToReq (hput : ∀ cf ac new, Puts [put ac new] cf
      (k.withTimeout (Function.update (k.timeout cf) ac new) cf)) (up : TimeoutUpd) (c : IdleCtx) :
    Puts (timeoutPuts put c.st up) c.cf (onToReq k up c).cf := by
  unfold timeoutPuts onToReq
  cases AcState.ofInt? (validateTimeout c.st up).1.state with
  | none => exact .refl c.cf
  | some ac =>
    dsimp only
    split_ifs
    · rw [timeoutCallback_cf]
      exact hput c.cf ac up.new
    · exact hput c.cf ac up.new

theorem puts_handle (hput : ∀ cf ac new, Puts [put ac new] cf
      (k.withTimeout (Function.update (k.timeout cf) ac new) cf))
    (hreq : ∀ m up, k.toReq m = some up → m = .dimmerToReq up ∨ m = .dpmsToReq up)
    {ok : Bool} {m : Msg} {c c' : IdleCtx} (h : handle k ok m c = some c') :
    Puts (if c.loc.stack.head? = some .waitingAcstate then [] else puts k put c.st m) c.cf c'.cf := by
  have hnone : (∀ up, m ≠ .dimmerToReq up ∧ m ≠ .dpmsToReq up) → puts k put c.st m = [] := by
    intro hne
    unfold puts
    cases hto : k.toReq m with
    | none => rfl
    | some up =>
      rcases hreq m up hto with hm | hm
      · exact absurd hm (hne up).1
      · exact absurd hm (hne up).2
  have hsame : ∀ {c' : IdleCtx}, c'.cf = c.cf → (∀ up, m ≠ .dimmerToReq up ∧ m ≠ .dpmsToReq up) →
      Puts (puts k put c.st m) c.cf c'.cf := by
    intro c' he hne
    rw [hnone hne]
    exact puts_of_eq he
  have hpaused : Puts (puts k put c.st m) c.cf (receivePaused k m c).cf := by
    unfold receivePaused
    split
    · exact hsame (timeoutCallback_cf k c) fun _ => ⟨nofun, nofun⟩
    · exact hsame (pauseIdle_cf k _ _ c) fun _ => ⟨nofun, nofun⟩
    · exact hsame (pauseIdle_cf k _ _ c) fun _ => ⟨nofun, nofun⟩
    · unfold puts
      cases k.toReq m with
      | none => exact .refl c.cf
      | some up => exact puts_onToReq hput up c
  have hrunning : Puts (puts k put c.st m) c.cf (receive k m c).cf := by
    unfold receive
    split
    · refine hsame ?_ fun _ => ⟨nofun, nofun⟩
      unfold clientReset clientStop
      rw [clientStart_cf, clientCall_cf]
    · exact hpaused
  unfold handle at h
  cases hs : c.loc.stack with
  | nil =>
    rw [hs] at h
    obtain rfl := Option.some.inj h
    exact hrunning
  | cons top rest =>
    rw [hs] at h
    cases top with
    | paused =>
      obtain rfl := Option.some.inj h
      exact hpaused
    | waitingAcstate =>
      have hwait : receiveWaitingAcstate k ok m c = some c' := h
      refine puts_of_eq ?_
      clear h hpaused hrunning hsame hnone
      unfold receiveWaitingAcstate at hwait
      split at hwait
      · split_ifs at hwait
        obtain rfl := Option.some.inj hwait
        exact timeoutCallback_cf k _
      · obtain rfl := Option.some.inj hwait
        rfl

theorem isTable_dimTimeout : IsTable .dimTimeout (fun _ t => t) (fun cf => cf.dim.timeout)
    fun t cf => { cf with dim := { cf.dim with timeout := t } } where
  get_table _ _ := rfl
  get_write _ _ _ := rfl
  frame _ _ k hk := by cases k <;> first | rfl | exact absurd rfl (hk _)

theorem isTable_dpmsTimeout : IsTable .dpmsTimeout (fun _ t => t) (fun cf => cf.dpms.timeout)
    fun t cf => { cf with dpms := { cf.dpms with timeout := t } } where
  get_table _ _ := rfl
  get_write _ _ _ := rfl
  frame _ _ k hk := by cases k <;> first | rfl | exact absurd rfl (hk _)

end Idle

/-! ### GAMMA -/

namespace Gamma

theorem isTable_temp : IsTable .temp (fun _ t => t) (fun cf => cf.gamma.temp)
    fun t cf => { cf with gamma := { cf.gamma with temp := t } } where
  get_table _ _ := rfl
  get_write _ _ _ := rfl
  frame _ _ k hk := by cases k <;> first | rfl | exact absurd rfl (hk _)

theorem puts_ambientGamma (cf : Conf) (new : Bool) :
    Puts [⟨.ambientGamma, new⟩] cf { cf with gamma := { cf.gamma with ambientGamma := new } } := by
  refine .cell (by rfl) ?_
  intro k hk
  cases k <;> first
    | rfl
    | exact absurd rfl hk

theorem puts_onTempReq (r : GammaReplies) (sender : ModName) (up : TempUpd) (c : GammaCtx) :
    Puts (puts r c.st c.cf (.tempReq sender up)) c.cf (onTempReq r sender up c).cf := by
  have hcf := validateSubscript_cf up c
  have hst : (validateSubscript up c).st = c.st := by
    unfold validateSubscript
    split_ifs <;> rfl
  have haccept : acceptTemp r up (validateSubscript up c) =
      if (validateTemp c.cf c.st r.junk up).2 then
        (DayState.ofInt? (validateTemp c.cf c.st r.junk up).1.daytime).map
          fun d => (d, (validateTemp c.cf c.st r.junk up).1)
      else none := by
    unfold acceptTemp
    rw [hcf, hst]
  unfold puts onTempReq
  dsimp only
  rw [haccept]
  cases (validateTemp c.cf c.st r.junk up).2 with
  | false => exact puts_of_eq hcf
  | true =>
    cases DayState.ofInt? (validateTemp c.cf c.st r.junk up).1.daytime with
    | none =>
      simp only [Option.map_none, Option.toList_none, ite_self]
      exact puts_of_eq hcf
    | some d =>
      by_cases hsender : sender = .daytime
      · simp only [if_true, Option.map_some, hsender, ne_eq, not_true_eq_false, decide_false, Bool.and_false,
          Bool.false_eq_true, if_false]
        exact puts_of_eq (by rw [onDaytimeReq_cf, hcf])
      · simp only [if_true, Option.map_some, hsender, ne_eq, not_false_eq_true, decide_true, Bool.and_true,
          if_false]
        rw [interfaceCallback_cf]
        dsimp only [storeTemp]
        rw [hcf]
        exact isTable_temp.puts c.cf d _

theorem puts_handle {r : GammaReplies} {m : Msg} {c c' : GammaCtx} (h : handle r m c = some c') :
    Puts (if c.loc.stack = [] then puts r c.st c.cf m else []) c.cf c'.cf := by
  have hother : (∀ sender up, m ≠ .tempReq sender up) → (∀ new, m ≠ .ambGammaReq new) →
      puts r c.st c.cf m = [] := by
    intro htemp hambient
    cases m
    case tempReq sender up => exact absurd rfl (htemp sender up)
    case ambGammaReq new => exact absurd rfl (hambient new)
    all_goals rfl
  unfold handle at h
  split at h
  · next hs =>
    split_ifs at h
    obtain rfl := Option.some.inj h
    rw [hs, if_neg (by simp)]
    exact .refl c.cf
  · next hs _ =>
    obtain rfl := Option.some.inj h
    rw [hs, if_neg (by simp)]
    exact .refl c.cf
  · next hs =>
    obtain rfl := Option.some.inj h
    rw [hs, if_neg (by simp)]
    exact puts_of_eq (receivePaused_cf ..)
  · next hs =>
    obtain rfl := Option.some.inj h
    rw [if_pos hs]
    unfold receive
    split
    · exact puts_of_eq (ambientCallback_cf ..)
    · exact puts_onTempReq r _ _ c
    · unfold puts
      dsimp only
      split_ifs
      · rw [onAmbgammaReq_cf]
        exact puts_ambientGamma c.cf _
      · exact .refl c.cf
    · exact .refl c.cf
    · exact puts_of_eq (pauseMod_cf ..)
    · split_ifs
      · exact puts_of_eq (setTemp_cf ..)
      · exact .refl c.cf
    · rw [hother ‹_› ‹_›]
      exact .refl c.cf

end Gamma

/-! ### Runs -/

/-- Each module stores the settings that it is asked for. -/
theorem PausableMod.puts_handle {fit : Fit} {r : ModReplies} {m : Msg} {x : PausableMod} {l : x.Loc}
    {h : Handled x.Loc} (hh : x.handle fit r m st cf l = some h) : Puts (x.puts r m st cf l) cf h.cf := by
  have htimeout : ∀ m up, dimmerConf.toReq m = some up → m = .dimmerToReq up ∨ m = .dpmsToReq up := by
    intro m up hup
    cases m
    case dimmerToReq up' => exact .inl (congrArg Msg.dimmerToReq (Option.some.inj hup))
    all_goals cases hup
  have hdpms : ∀ m up, dpmsConf.toReq m = some up → m = .dimmerToReq up ∨ m = .dpmsToReq up := by
    intro m up hup
    cases m
    case dpmsToReq up' => exact .inr (congrArg Msg.dpmsToReq (Option.some.inj hup))
    all_goals cases hup
  cases x with
  | backlight =>
    obtain rfl := Option.some.inj hh
    exact Backlight.puts_handle fit r.bl m (ctx l st cf)
  | screen =>
    obtain rfl := Option.some.inj hh
    exact Screen.puts_handle r.screen m (ctx l st cf)
  | keyboard =>
    obtain rfl := Option.some.inj hh
    exact Keyboard.puts_handle fit r.kbd m (ctx l st cf)
  | dimmer =>
    obtain ⟨c', hc, rfl⟩ := Option.map_eq_some_iff.mp hh
    exact Idle.puts_handle Idle.isTable_dimTimeout.puts htimeout hc
  | dpms =>
    obtain ⟨c', hc, rfl⟩ := Option.map_eq_some_iff.mp hh
    exact Idle.puts_handle Idle.isTable_dpmsTimeout.puts hdpms hc
  | gamma =>
    obtain ⟨c', hc, rfl⟩ := Option.map_eq_some_iff.mp hh
    exact Gamma.puts_handle hc

theorem Idle.waiting_of_gone {k : IdleConf} {ok : Bool} {m : Msg} {c : IdleCtx}
    (h : Idle.handle k ok m c = none) : c.loc.stack.head? = some .waitingAcstate := by
  unfold Idle.handle at h
  split at h
  · next hs => rw [hs, List.head?_cons]
  · cases h
  · cases h

theorem Gamma.waiting_of_gone {r : GammaReplies} {m : Msg} {c : GammaCtx}
    (h : Gamma.handle r m c = none) : c.loc.stack ≠ [] := by
  intro hs
  unfold Gamma.handle at h
  rw [hs] at h
  cases h

/-- A module that deregisters itself stores nothing. -/
theorem PausableMod.puts_gone {fit : Fit} {r : ModReplies} {m : Msg} {x : PausableMod} {l : x.Loc}
    (hh : x.handle fit r m st cf l = none) : x.puts r m st cf l = [] := by
  cases x with
  | backlight => cases hh
  | screen => cases hh
  | keyboard => cases hh
  | dimmer => exact if_pos (Idle.waiting_of_gone (Option.map_eq_none_iff.mp hh))
  | dpms => exact if_pos (Idle.waiting_of_gone (Option.map_eq_none_iff.mp hh))
  | gamma => exact if_neg (Gamma.waiting_of_gone (Option.map_eq_none_iff.mp hh))

namespace ConfRun

/-- What a step stores: a property its own settings, a request those that its module accepts. -/
def puts (s : ConfRun) : ConfRunEvent → List Put
  | .write w => w.puts
  | .receive r x m => (s.loc x).elim [] (x.puts r m s.st s.cf)
  | .eventReq e event => if validateEvt event then [⟨.event e, event⟩] else []
  | .others _ => []

theorem isTable_event : IsTable .event (fun _ e => e) (fun cf => cf.day.dayEvents)
    fun t cf => { cf with day := { cf.day with dayEvents := t } } where
  get_table _ _ := rfl
  get_write _ _ _ := rfl
  frame _ _ k hk := by cases k <;> first | rfl | exact absurd rfl (hk _)

theorem onWrite_cf (w : DirectWrite) (s : ConfRun) : (onWrite w s).cf = w.store s.cf := by
  unfold onWrite
  dsimp only
  split
  · cases s.daytime with
    | none => rfl
    | some d => rfl
  · rfl

theorem puts_next {fit : Fit} {s s' : ConfRun} {e : ConfRunEvent} (hn : next fit s e = some s') :
    Puts (s.puts e) s.cf s'.cf := by
  cases e with
  | write w =>
    dsimp only [ConfRun.next] at hn
    split_ifs at hn
    obtain rfl := Option.some.inj hn
    rw [onWrite_cf]
    exact w.puts_store s.cf
  | receive r x m =>
    dsimp only [ConfRun.next] at hn
    obtain ⟨l, hl, hn⟩ := Option.bind_eq_some_iff.mp hn
    split_ifs at hn
    obtain rfl := Option.some.inj hn
    have hputs : s.puts (.receive r x m) = x.puts r m s.st s.cf l := by
      change (s.loc x).elim [] (x.puts r m s.st s.cf) = _
      rw [hl]
      rfl
    rw [hputs]
    cases hh : x.handle fit r m s.st s.cf l with
    | none =>
      rw [PausableMod.puts_gone hh]
      exact .refl s.cf
    | some h => exact PausableMod.puts_handle hh
  | eventReq e event =>
    dsimp only [ConfRun.next] at hn
    obtain ⟨d, hd, rfl⟩ := Option.map_eq_some_iff.mp hn
    unfold puts onDaytime Daytime.onEventReq
    dsimp only
    split_ifs
    · exact isTable_event.puts s.cf e event
    · exact .refl s.cf
  | others st =>
    obtain rfl := Option.some.inj hn
    exact .refl s.cf

end ConfRun

/-- Whatever D-Bus writes and messages come in whatever order, each setting has the value of the
newest write or accepted request for that very setting, and the value that it started with if
there was none. -/
theorem newest_write_holds {fit : Fit} {f : Option Features} {s t : ConfRun} {es : List ConfRunEvent}
    (hrun : (confRun fit f).run s es = some t) (k : ConfSetting) :
    ConfSetting.get t.cf k = ((WriteLog.log (confRun fit f) ConfRun.puts s es).dlookup k).getD
      (ConfSetting.get s.cf k) := by
  have hwritten : WriteLog.Written (fun s : ConfRun => ConfSetting.get s.cf)
      (WriteLog.log (confRun fit f) ConfRun.puts s es) s t := by
    refine WriteLog.Written.run ?_ hrun
    intro s e s' hn
    exact ConfRun.puts_next hn
  exact hwritten k

/-- DIMMER's timeout is written twice, with another AC state in between. -/
def dimmedTwice : List ConfRunEvent :=
  ConfRun.someWrites ++
    [.write (.inhPm true),
      .receive Modules.okReplies .dimmer (.dimmerToReq { new := 90, state := 1, daytime := 0 }),
      .receive Modules.okReplies .dimmer (.dimmerToReq { new := 70, state := 0, daytime := 0 })]

theorem newest_write_holds_timeout : ∃ t,
    (confRun ConfRun.noFit none).run ConfRun.startAll dimmedTwice = some t ∧ t.cf.dim.timeout .onAc = 70 ∧
      ConfSetting.get t.cf (.dimTimeout .onAc) =
        ((WriteLog.log (confRun ConfRun.noFit none) ConfRun.puts ConfRun.startAll dimmedTwice).dlookup
          (.dimTimeout .onAc)).getD (ConfSetting.get ConfRun.startAll.cf (.dimTimeout .onAc)) := by
  have hrun : ((confRun ConfRun.noFit none).run ConfRun.startAll dimmedTwice).any
      (fun s => s.cf.dim.timeout .onAc = 70) = true := by
    decide +kernel
  obtain ⟨t, ht, hp⟩ := (Option.any_eq_true _ _).mp hrun
  exact ⟨t, ht, of_decide_eq_true hp, newest_write_holds ht (.dimTimeout .onAc)⟩

end Clight
