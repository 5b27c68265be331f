import Clight.BacklightFrame
import Clight.CheckNormal
import Clight.Keyboard
import Clight.OverrideCalls

/-! Every call of polynomialfit: when a module starts, on a request, for a single monitor and in the
wizard. The regression needs as many points as it has parameters, and aborts the daemon otherwise. -/
namespace Clight

/-- DEGREE: the parameters of a fit. -/
def degree : ℕ := 3

/-- Points that the regression takes. -/
structure Fittable (pts : List Double) : Prop where
  enough : degree ≤ pts.length
  bounded : pts.length ≤ maxSizePoints
  fractions : ∀ p ∈ pts, p.Fraction

/-- What the model of a module stores of the points: numbers, one in place of each NaN. The regression
is called on the points as they come, and no later event hands it stored ones. -/
def standing (pts : List Double) : List ℚ := pts.map Double.stand

def CurveUpd.standing (up : CurveUpd Double) : CurveUpd where
  state := up.state
  regressionPoints := up.regressionPoints.map Clight.standing

def Msg.isCurveReq : Msg → Bool
  | .curveReq _ | .kbdCurveReq _ => true
  | _ => false

namespace OverrideCall

/-- A Set call that passes the checks, with curves. -/
def Stores (call : OverrideCall) : Prop :=
  (overridePointsOk call.acPoints = true ∧ overridePointsOk call.battPoints = true) ∧
    call.acPoints.length = call.battPoints.length ∧ 0 < call.acPoints.length

instance (call : OverrideCall) : Decidable call.Stores := inferInstanceAs (Decidable (_ ∧ _))

/-- What Set leaves of the curves. -/
def applyCurves (fit : Fit) (call : OverrideCall) (sens : SensorConf) : SensorConf :=
  match methodSetMonOverride fit call.sn (standing call.acPoints) (standing call.battPoints) sens with
  | .ok sens => sens
  | .error _ => sens

end OverrideCall

def Keyboard.isWaiting (l : Keyboard) : Bool := l.stack.head? = some .waitingInit

/-- The fits of KEYBOARD's init. -/
def initKbdCurves (fit : Fit) (cf : Conf) : Conf :=
  { cf with kbd := { cf.kbd with curve := Curve.polynomialfits fit cf.kbd.curve } }

/-- The daemon as far as curves go. `loaded` comes from the files and the command line, and `fitted`
are the points of every call of polynomialfit so far. -/
structure Fitting where
  loaded : Conf
  features : Option Features
  started : Bool
  bl : Option Backlight
  kbd : Option Keyboard
  st : State
  cf : Conf
  fitted : List (List Double)

/-- The modules start in either order. Clightd may have no keyboard backlight, and answers the wizard
with levels that are fractions. The points of CURVE_REQ, KBD_CURVE_REQ and Set come from the bus. -/
inductive FitEvent
  | start (kbdFirst kbdSupported : Bool)
  | blReceive (m : Msg) (r : BlReplies)
  | kbdReceive (m : Msg) (sent : Bool)
  | blCurveReq (up : CurveUpd Double) (r : BlReplies)
  | kbdCurveReq (up : CurveUpd Double) (sent : Bool)
  | setMonOverride (call : OverrideCall)
  | wizard (levels : Fin 5 → {q : ℚ // 0 ≤ q ∧ q ≤ 1})
  | world (st : State)
  | properties (cf : Conf)

namespace Fitting

def bothPoints (curve : AcState → Curve) : List (List Double) :=
  [doublePoints curve .onAc, doublePoints curve .onBattery]

/-- What init_curves goes through. -/
def blPoints (sens : SensorConf) : List (List Double) :=
  bothPoints sens.defaultCurve ++ sens.specificCurves.entries.flatMap fun e => bothPoints e.2

/-- A request that its validator accepts. -/
def requested (st : State) (up : CurveUpd Double) : List (List Double) :=
  if (validateCurve st up).2 then up.regressionPoints.toList else []

def overridden (call : OverrideCall) : List (List Double) :=
  if call.Stores then [call.acPoints, call.battPoints] else []

def checked (s : Fitting) : Conf := checkConf s.features s.loaded

def startPoints (kbdSupported : Bool) (cf : Conf) : List (List Double) × List (List Double) :=
  (if cf.bl.disabled || cf.wizard then [] else blPoints cf.sens,
    if cf.kbd.disabled || !kbdSupported then [] else bothPoints cf.kbd.curve)

/-- The points that an event hands to the regression, in order. -/
def handed (s : Fitting) : FitEvent → List (List Double)
  | .start kbdFirst kbdSupported =>
    let pts := startPoints kbdSupported s.checked
    if kbdFirst then pts.2 ++ pts.1 else pts.1 ++ pts.2
  | .blCurveReq up _ => if s.bl.all Backlight.isWaiting then [] else requested s.st up
  | .kbdCurveReq up _ => if s.kbd.all Keyboard.isWaiting then [] else requested s.st up
  | .setMonOverride call => overridden call
  | .wizard levels => [List.ofFn fun i => .num (levels i).1]
  | _ => []

/-- The calls that are made of them: none after one that aborts. -/
def untilAbort : List (List Double) → List (List Double)
  | [] => []
  | pts :: rest => if degree ≤ pts.length then pts :: untilAbort rest else [pts]

/-- The configuration once the modules that are in use have started. -/
def startConf (fit : Fit) (kbdSupported : Bool) (cf : Conf) : Conf :=
  let cf := if cf.bl.disabled || cf.wizard then cf else initCurves fit cf
  if cf.kbd.disabled || !kbdSupported then cf else initKbdCurves fit cf

def blCtx (s : Fitting) (bl : Backlight) : BlCtx :=
  { loc := bl, st := s.st, cf := s.cf, out := [], calls := [] }

def kbdCtx (s : Fitting) (kbd : Keyboard) : KbdCtx :=
  { loc := kbd, st := s.st, cf := s.cf, out := [], calls := [] }

def receiveBl (fit : Fit) (m : Msg) (r : BlReplies) (s : Fitting) : Option Fitting := s.bl.map fun bl =>
  let c := Backlight.handle fit r m (s.blCtx bl)
  { s with bl := some c.loc, st := c.st, cf := c.cf }

def receiveKbd (fit : Fit) (m : Msg) (sent : Bool) (s : Fitting) : Option Fitting := s.kbd.map fun kbd =>
  let c := Keyboard.handle fit sent m (s.kbdCtx kbd)
  { s with kbd := some c.loc, st := c.st, cf := c.cf }

/-- What an event does, as long as the regression returns. -/
def act (fit : Fit) (s : Fitting) : FitEvent → Option Fitting
  | .start _ kbdSupported =>
    if s.started then none
    else some { s with
      started := true
      bl := if s.checked.bl.disabled then none else some .init
      kbd := if s.checked.kbd.disabled || !kbdSupported then none else some .init
      cf := startConf fit kbdSupported s.checked }
  -- requests for a curve are events of their own
  | .blReceive m r => if m.isCurveReq then none else receiveBl fit m r s
  | .kbdReceive m sent => if m.isCurveReq then none else receiveKbd fit m sent s
  | .blCurveReq up r => receiveBl fit (.curveReq up.standing) r s
  | .kbdCurveReq up sent => receiveKbd fit (.kbdCurveReq up.standing) sent s
  -- there is no API in wizard mode
  | .setMonOverride call =>
    if s.bl.isNone || s.loaded.wizard then none
    else some { s with cf := { s.cf with sens := call.applyCurves fit s.cf.sens } }
  -- the wizard only prints what it computed
  | .wizard _ => if s.started && s.loaded.wizard then some s else none
  | .world st => some { s with st := st }
  -- no other property is a curve
  | .properties cf => some { s with cf := { cf with
      sens := { cf.sens with
        defaultCurve := s.cf.sens.defaultCurve
        specificCurves := s.cf.sens.specificCurves }
      kbd := { cf.kbd with curve := s.cf.kbd.curve } } }

def next (fit : Fit) (s : Fitting) (e : FitEvent) : Option Fitting :=
  if ∃ pts ∈ s.fitted, pts.length < degree then none
  else (act fit s e).map fun s' => { s' with fitted := s.fitted ++ untilAbort (s.handed e) }

/-- A curve has too few points for a fit, and check_conf keeps it. -/
def KeptShort (c : Curve) : Prop := c.InRange ∧ c.points.length < degree

/-- No curve that a module starts with is too short. -/
structure LoadedLong (kbdSupported : Bool) (cf : Conf) : Prop where
  bl : cf.bl.disabled = false → cf.wizard = false →
    (∀ ac, ¬ KeptShort (cf.sens.defaultCurve ac)) ∧
      ∀ e ∈ cf.sens.specificCurves.entries, ∀ ac, ¬ KeptShort (e.2 ac)
  kbd : cf.kbd.disabled = false ∧ cf.wizard = false → kbdSupported = true →
    ∀ ac, ¬ KeptShort (cf.kbd.curve ac)

/-- Enough points, and no NaN among them. -/
def Sound (pts : List Double) : Prop := degree ≤ pts.length ∧ ∀ p ∈ pts, p.isNaN = false

instance (pts : List Double) : Decidable (Sound pts) := inferInstanceAs (Decidable (_ ∧ _))

def RequestSound (st : State) (up : CurveUpd Double) : Prop :=
  (validateCurve st up).2 = true → ∀ pts, up.regressionPoints = some pts → Sound pts

/-- No writer of a curve is given a short one that it accepts, or one with a NaN. -/
def Sane (s : Fitting) : FitEvent → Prop
  | .start _ kbdSupported => LoadedLong kbdSupported s.loaded
  | .blCurveReq up _ => s.bl.all Backlight.isWaiting = false → RequestSound s.st up
  | .kbdCurveReq up _ => s.kbd.all Keyboard.isWaiting = false → RequestSound s.st up
  | .setMonOverride call => call.Stores → Sound call.acPoints ∧ Sound call.battPoints
  | _ => True

end Fitting

def fitRun (fit : Fit) : Machine Fitting FitEvent where
  init s := (∃ roots : List SettingTree, SameCurves (loadConfigs roots) s.loaded) ∧
    s.started = false ∧ s.bl = none ∧ s.kbd = none ∧ s.fitted = []
  next := Fitting.next fit

namespace Fitting

variable {fit fit' : Fit} {s s' : Fitting} {e : FitEvent}

/-! ### The regression is called on nothing else -/

theorem polynomialfit_congr {c : Curve} (h : fit c.points = fit' c.points) :
    c.polynomialfit fit = c.polynomialfit fit' := by
  unfold Curve.polynomialfit
  rw [h]

theorem standing_doublePoints (curve : AcState → Curve) (ac : AcState) :
    standing (doublePoints curve ac) = (curve ac).points := by
  unfold standing doublePoints
  rw [List.map_map]
  exact List.map_id _

theorem polynomialfits_congr {curve : AcState → Curve}
    (h : ∀ pts ∈ bothPoints curve, fit (standing pts) = fit' (standing pts)) :
    Curve.polynomialfits fit curve = Curve.polynomialfits fit' curve := by
  have hac : ∀ ac, fit (curve ac).points = fit' (curve ac).points := by
    intro ac
    rw [← standing_doublePoints curve ac]
    apply h
    cases ac with
    | onAc => exact List.mem_cons_self
    | onBattery => exact List.mem_cons_of_mem _ List.mem_cons_self
  funext ac
  exact polynomialfit_congr (hac ac)

theorem initCurves_congr {cf : Conf}
    (h : ∀ pts ∈ blPoints cf.sens, fit (standing pts) = fit' (standing pts)) :
    initCurves fit cf = initCurves fit' cf := by
  have hdefault := polynomialfits_congr fun pts hpts => h pts (List.mem_append_left _ hpts)
  have hspecific : mapCurves (Curve.polynomialfits fit) cf.sens.specificCurves =
      mapCurves (Curve.polynomialfits fit') cf.sens.specificCurves := by
    rw [mapCurves_eq, mapCurves_eq]
    apply AssocMap.mapValues_congr
    intro e he
    apply polynomialfits_congr
    intro pts hpts
    exact h pts (List.mem_append_right _ (List.mem_flatMap.mpr ⟨e, he, hpts⟩))
  unfold initCurves
  rw [hdefault, hspecific]

theorem initKbdCurves_congr {cf : Conf}
    (h : ∀ pts ∈ bothPoints cf.kbd.curve, fit (standing pts) = fit' (standing pts)) :
    initKbdCurves fit cf = initKbdCurves fit' cf := by
  unfold initKbdCurves
  rw [polynomialfits_congr h]

theorem startConf_congr {kbdSupported : Bool} {cf : Conf}
    (h : ∀ pts ∈ (startPoints kbdSupported cf).1 ++ (startPoints kbdSupported cf).2,
      fit (standing pts) = fit' (standing pts)) :
    startConf fit kbdSupported cf = startConf fit' kbdSupported cf := by
  have hbl : (if cf.bl.disabled || cf.wizard then cf else initCurves fit cf) =
      if cf.bl.disabled || cf.wizard then cf else initCurves fit' cf := by
    split_ifs with hoff
    · rfl
    · apply initCurves_congr
      intro pts hpts
      apply h pts (List.mem_append_left _ _)
      unfold startPoints
      dsimp only
      rwa [if_neg hoff]
  unfold startConf
  rw [hbl]
  -- init_curves leaves KEYBOARD alone
  generalize hcf : (if cf.bl.disabled || cf.wizard then cf else initCurves fit' cf) = cf'
  have hkbd : cf'.kbd = cf.kbd := by
    rw [← hcf]
    split_ifs <;> rfl
  dsimp only
  split_ifs with hoff
  · rfl
  · apply initKbdCurves_congr
    intro pts hpts
    apply h pts (List.mem_append_right _ _)
    unfold startPoints
    dsimp only
    rw [hkbd] at hoff hpts
    rwa [if_neg hoff]

theorem refit_congr {pts : List ℚ} (h : fit pts = fit' pts) (c : Curve) :
    c.refit fit pts = c.refit fit' pts := by
  unfold Curve.refit
  split_ifs
  · exact polynomialfit_congr h
  · rfl

theorem mem_requested {st : State} {up : CurveUpd Double} {pts : List Double} :
    pts ∈ requested st up ↔ (validateCurve st up).2 = true ∧ up.regressionPoints = some pts := by
  unfold requested
  split_ifs with hvalid
  · rw [Option.mem_toList]
    exact ⟨fun h => ⟨hvalid, h⟩, And.right⟩
  · exact ⟨fun h => absurd h List.not_mem_nil, fun h => absurd h.1 hvalid⟩

theorem validateCurve_points (st : State) (up : CurveUpd) :
    (validateCurve st up).1.regressionPoints = up.regressionPoints := by
  unfold validateCurve
  dsimp only
  split_ifs <;> rfl

/-- What stands for the points passes the check when they do. -/
theorem validateCurve_standing (st : State) (up : CurveUpd Double) :
    (validateCurve st up.standing).2 = (validateCurve st up).2 := by
  obtain ⟨state, points⟩ := up
  unfold validateCurve CurveUpd.standing
  cases points with
  | none =>
    dsimp only [Option.map_none]
    split_ifs <;> rfl
  | some pts =>
    dsimp only [Option.map_some]
    split_ifs
    · dsimp only
      rw [Clight.standing, all_pointOk_map Double.pointOk_stand, List.length_map]
    · dsimp only
      rw [Clight.standing, all_pointOk_map Double.pointOk_stand, List.length_map]

/-- The points of a request that is accepted are handed to the regression. -/
theorem fit_congr_requested {st : State} {up : CurveUpd Double} {pts : List ℚ}
    (h : ∀ pts ∈ requested st up, fit (standing pts) = fit' (standing pts))
    (hvalid : (validateCurve st up.standing).2 = true)
    (hpts : up.standing.regressionPoints = some pts) : fit pts = fit' pts := by
  obtain ⟨dbls, hdbls, rfl⟩ := Option.map_eq_some_iff.mp hpts
  rw [validateCurve_standing] at hvalid
  exact h dbls (mem_requested.mpr ⟨hvalid, hdbls⟩)

theorem bl_onCurveReq_congr {up : CurveUpd Double} {c : BlCtx}
    (h : ∀ pts ∈ requested c.st up, fit (standing pts) = fit' (standing pts)) :
    Backlight.onCurveReq fit up.standing c = Backlight.onCurveReq fit' up.standing c := by
  unfold Backlight.onCurveReq
  dsimp only
  split_ifs with hvalid
  · rw [validateCurve_points]
    split
    · next ac pts _ hpts =>
      unfold Backlight.interfaceCurveCallback
      rw [refit_congr (fit_congr_requested h hvalid hpts)]
    · rfl
  · rfl

theorem kbd_onCurveReq_congr {up : CurveUpd Double} {c : KbdCtx}
    (h : ∀ pts ∈ requested c.st up, fit (standing pts) = fit' (standing pts)) :
    Keyboard.onCurveReq fit up.standing c = Keyboard.onCurveReq fit' up.standing c := by
  unfold Keyboard.onCurveReq
  dsimp only
  rw [validateCurve_points]
  split
  · next ac pts hvalid _ hpts =>
    rw [refit_congr (fit_congr_requested h hvalid hpts)]
  · rfl

theorem applyCurves_congr {call : OverrideCall} {sens : SensorConf}
    (h : ∀ pts ∈ overridden call, fit (standing pts) = fit' (standing pts)) :
    call.applyCurves fit sens = call.applyCurves fit' sens := by
  have hok (pts : List Double) : overridePointsOk (standing pts) = overridePointsOk pts :=
    overridePointsOk_map Double.pointOk_stand pts
  have hlen (pts : List Double) : (standing pts).length = pts.length := List.length_map _
  have hset : methodSetMonOverride fit call.sn (standing call.acPoints) (standing call.battPoints) sens =
      methodSetMonOverride fit' call.sn (standing call.acPoints) (standing call.battPoints) sens := by
    unfold methodSetMonOverride
    split_ifs with hpass hne
    · dsimp only
      have hstores : call.Stores := by
        rw [hok, hok, hlen, hlen] at hpass
        rw [hlen] at hne
        exact ⟨Bool.and_eq_true_iff.mp hpass.1, hpass.2, hne⟩
      unfold overridden at h
      rw [if_pos hstores, List.forall_mem_cons, List.forall_mem_singleton] at h
      congr 3
      funext ac
      cases ac with
      | onAc => exact polynomialfit_congr h.1
      | onBattery => exact polynomialfit_congr h.2
    · rfl
    · rfl
    · rfl
  unfold OverrideCall.applyCurves
  rw [hset]

/-- Both receivers but the first one take a curve. -/
theorem bl_receive_congr {r : BlReplies} {m : Msg} {c : BlCtx}
    (h : ∀ up, m = .curveReq up → Backlight.onCurveReq fit up c = Backlight.onCurveReq fit' up c) :
    Backlight.receive fit r m c = Backlight.receive fit' r m c ∧
      Backlight.receivePaused fit r m c = Backlight.receivePaused fit' r m c := by
  cases m with
  | curveReq up => exact ⟨h up rfl, h up rfl⟩
  | fdUpd fd => cases fd <;> exact ⟨rfl, rfl⟩
  | systemUpd sys => cases sys <;> exact ⟨rfl, rfl⟩
  | _ => exact ⟨rfl, rfl⟩

theorem bl_handle_congr {r : BlReplies} {m : Msg} {c : BlCtx} (h : c.loc.isWaiting = false →
    ∀ up, m = .curveReq up → Backlight.onCurveReq fit up c = Backlight.onCurveReq fit' up c) :
    Backlight.handle fit r m c = Backlight.handle fit' r m c := by
  cases hw : c.loc.isWaiting with
  | true =>
    obtain ⟨rest, hstack⟩ := List.head?_eq_some_iff.mp (of_decide_eq_true hw)
    unfold Backlight.handle
    rw [hstack]
  | false =>
    obtain ⟨hreceive, hpaused⟩ := bl_receive_congr (r := r) (h hw)
    unfold Backlight.handle
    rw [hreceive, hpaused]

theorem kbd_receive_congr {sent : Bool} {m : Msg} {c : KbdCtx}
    (h : ∀ up, m = .kbdCurveReq up → Keyboard.onCurveReq fit up c = Keyboard.onCurveReq fit' up c) :
    Keyboard.receive fit sent m c = Keyboard.receive fit' sent m c ∧
      Keyboard.receivePaused fit sent m c = Keyboard.receivePaused fit' sent m c := by
  cases m with
  | kbdCurveReq up => exact ⟨h up rfl, h up rfl⟩
  | _ => exact ⟨rfl, rfl⟩

theorem kbd_handle_congr {sent : Bool} {m : Msg} {c : KbdCtx} (h : c.loc.isWaiting = false →
    ∀ up, m = .kbdCurveReq up → Keyboard.onCurveReq fit up c = Keyboard.onCurveReq fit' up c) :
    Keyboard.handle fit sent m c = Keyboard.handle fit' sent m c := by
  cases hw : c.loc.isWaiting with
  | true =>
    obtain ⟨rest, hstack⟩ := List.head?_eq_some_iff.mp (of_decide_eq_true hw)
    unfold Keyboard.handle
    rw [hstack]
  | false =>
    obtain ⟨hreceive, hpaused⟩ := kbd_receive_congr (h hw)
    unfold Keyboard.handle
    rw [hreceive, hpaused]

/-- What BACKLIGHT does, if a request for a curve that it does not discard leaves the same. -/
theorem receiveBl_congr {m : Msg} {r : BlReplies} (h : s.bl.all Backlight.isWaiting = false →
    ∀ up c, c.st = s.st → m = .curveReq up →
      Backlight.onCurveReq fit up c = Backlight.onCurveReq fit' up c) :
    receiveBl fit m r s = receiveBl fit' m r s := by
  unfold receiveBl
  cases hbl : s.bl with
  | none => rfl
  | some bl =>
    rw [hbl] at h
    rw [Option.map_some, Option.map_some, bl_handle_congr (c := s.blCtx bl) fun hw up =>
      h hw up (s.blCtx bl) rfl]

theorem receiveKbd_congr {m : Msg} {sent : Bool} (h : s.kbd.all Keyboard.isWaiting = false →
    ∀ up c, c.st = s.st → m = .kbdCurveReq up →
      Keyboard.onCurveReq fit up c = Keyboard.onCurveReq fit' up c) :
    receiveKbd fit m sent s = receiveKbd fit' m sent s := by
  unfold receiveKbd
  cases hkbd : s.kbd with
  | none => rfl
  | some kbd =>
    rw [hkbd] at h
    rw [Option.map_some, Option.map_some, kbd_handle_congr (c := s.kbdCtx kbd) fun hw up =>
      h hw up (s.kbdCtx kbd) rfl]

/-- What an event does depends on the regression at the points handed to it, and nowhere else. -/
theorem act_congr (h : ∀ pts ∈ s.handed e, fit (standing pts) = fit' (standing pts)) :
    act fit s e = act fit' s e := by
  cases e with
  | start kbdFirst kbdSupported =>
    have hconf : startConf fit kbdSupported s.checked = startConf fit' kbdSupported s.checked := by
      apply startConf_congr
      intro pts hpts
      apply h
      unfold handed
      dsimp only
      split_ifs
      · exact List.mem_append.mpr (List.mem_append.mp hpts).symm
      · exact hpts
    simp only [act, hconf]
  | blReceive m r =>
    unfold act
    dsimp only
    split_ifs with hcurve
    · rfl
    · refine receiveBl_congr ?_
      rintro - up c - rfl
      exact absurd rfl hcurve
  | kbdReceive m sent =>
    unfold act
    dsimp only
    split_ifs with hcurve
    · rfl
    · refine receiveKbd_congr ?_
      rintro - up c - rfl
      exact absurd rfl hcurve
  | blCurveReq up r =>
    refine receiveBl_congr ?_
    rintro hw up' c hst hm
    obtain rfl := Msg.curveReq.inj hm
    refine bl_onCurveReq_congr fun pts hpts => h pts ?_
    unfold handed
    dsimp only
    rw [hst] at hpts
    rwa [if_neg (ne_true_of_eq_false hw)]
  | kbdCurveReq up sent =>
    refine receiveKbd_congr ?_
    rintro hw up' c hst hm
    obtain rfl := Msg.kbdCurveReq.inj hm
    refine kbd_onCurveReq_congr fun pts hpts => h pts ?_
    unfold handed
    dsimp only
    rw [hst] at hpts
    rwa [if_neg (ne_true_of_eq_false hw)]
  | setMonOverride call => simp only [act, applyCurves_congr h]
  | _ => rfl

/-! ### Whatever is handed to the regression passes the check -/

def Passed (pts : List Double) : Prop := pts.length ≤ maxSizePoints ∧ ∀ p ∈ pts, pointOk p = true

theorem bothPoints_forall {curve : AcState → Curve} {P : List Double → Prop} :
    (∀ pts ∈ bothPoints curve, P pts) ↔ ∀ ac, P (doublePoints curve ac) := by
  unfold bothPoints
  rw [List.forall_mem_cons, List.forall_mem_singleton]
  constructor
  · rintro ⟨hac, hbatt⟩ ac
    cases ac with
    | onAc => exact hac
    | onBattery => exact hbatt
  · exact fun h => ⟨h .onAc, h .onBattery⟩

theorem blPoints_forall {sens : SensorConf} {P : List Double → Prop} :
    (∀ pts ∈ blPoints sens, P pts) ↔ (∀ ac, P (doublePoints sens.defaultCurve ac)) ∧
      ∀ e ∈ sens.specificCurves.entries, ∀ ac, P (doublePoints e.2 ac) := by
  unfold blPoints
  rw [List.forall_mem_append, bothPoints_forall, List.forall_mem_flatMap]
  exact and_congr_right fun _ => forall₂_congr fun e _ => bothPoints_forall

theorem forall_mem_unless {off : Bool} {l : List (List Double)} {P : List Double → Prop} :
    (∀ pts ∈ (if off then [] else l), P pts) ↔ (off = false → ∀ pts ∈ l, P pts) := by
  cases off with
  | true => exact ⟨fun _ h => absurd h (by decide), fun _ pts h => absurd h List.not_mem_nil⟩
  | false => exact ⟨fun h _ => h, fun h => h rfl⟩

/-- The curves that the modules which are in use start with. -/
theorem startPoints_forall {kbdSupported : Bool} {cf : Conf} {P : List Double → Prop} :
    (∀ pts ∈ (startPoints kbdSupported cf).1 ++ (startPoints kbdSupported cf).2, P pts) ↔
      (cf.bl.disabled = false → cf.wizard = false → (∀ ac, P (doublePoints cf.sens.defaultCurve ac)) ∧
        ∀ e ∈ cf.sens.specificCurves.entries, ∀ ac, P (doublePoints e.2 ac)) ∧
      (cf.kbd.disabled = false → kbdSupported = true → ∀ ac, P (doublePoints cf.kbd.curve ac)) := by
  unfold startPoints
  rw [List.forall_mem_append, forall_mem_unless, forall_mem_unless, Bool.or_eq_false_iff,
    Bool.or_eq_false_iff, and_imp, and_imp, blPoints_forall, bothPoints_forall, Bool.not_eq_false']

/-- The order in which the modules start does not matter. -/
theorem handed_start_forall {kbdFirst kbdSupported : Bool} {P : List Double → Prop} :
    (∀ pts ∈ s.handed (.start kbdFirst kbdSupported), P pts) ↔
      ∀ pts ∈ (startPoints kbdSupported s.checked).1 ++ (startPoints kbdSupported s.checked).2, P pts := by
  unfold handed
  dsimp only
  split_ifs
  · rw [List.forall_mem_append, List.forall_mem_append, and_comm]
  · exact Iff.rfl

theorem requested_passed {st : State} {up : CurveUpd Double} {pts : List Double}
    (h : pts ∈ requested st up) : Passed pts := by
  obtain ⟨hvalid, hpts⟩ := mem_requested.mp h
  have hcheck : (decide (0 < pts.length) && decide (pts.length ≤ maxSizePoints) && pts.all pointOk) =
      true := by
    obtain ⟨state, points⟩ := up
    obtain rfl : points = some pts := hpts
    unfold validateCurve at hvalid
    dsimp only at hvalid
    split_ifs at hvalid
    · exact (Bool.and_eq_true_iff.mp hvalid).2
    · exact (Bool.and_eq_true_iff.mp hvalid).2
  obtain ⟨hlen, hall⟩ := Bool.and_eq_true_iff.mp hcheck
  exact ⟨of_decide_eq_true (Bool.and_eq_true_iff.mp hlen).2, List.all_eq_true.mp hall⟩

theorem overridden_passed {call : OverrideCall} {pts : List Double} (h : pts ∈ overridden call) :
    Passed pts := by
  unfold overridden at h
  split_ifs at h with hstores
  · obtain ⟨hac, hbatt⟩ := hstores.1
    rcases List.mem_pair.mp h with rfl | rfl
    · exact OverrideCall.overridePointsOk_iff.mp hac
    · exact OverrideCall.overridePointsOk_iff.mp hbatt
  · cases h

theorem doublePoints_passed {curve : AcState → Curve} {ac : AcState}
    (h : ∀ p ∈ (curve ac).points, 0 ≤ p ∧ p ≤ 1) : Passed (doublePoints curve ac) := by
  unfold doublePoints
  refine ⟨(List.length_map _).trans_le (curve ac).bounded, fun p hp => ?_⟩
  obtain ⟨q, hq, rfl⟩ := List.mem_map.mp hp
  rw [Double.pointOk_num]
  exact pointOk_iff.mpr (h q hq)

theorem checked_inRange (s : Fitting) : s.checked.InRange := checkConf_inRange s.features s.loaded

theorem handed_passed (s : Fitting) (e : FitEvent) : ∀ pts ∈ s.handed e, Passed pts := by
  cases e with
  | start kbdFirst kbdSupported =>
    rw [handed_start_forall, startPoints_forall]
    refine ⟨fun hbl _ => ⟨fun ac => ?_, fun e he ac => ?_⟩, fun hkbd _ ac => ?_⟩
    · exact doublePoints_passed ((s.checked_inRange.sens hbl).2 ac)
    · exact doublePoints_passed (s.checked_inRange.specificCurves hbl e he ac)
    · exact doublePoints_passed (s.checked_inRange.kbd hkbd ac)
  | blCurveReq up r => exact forall_mem_unless.mpr fun _ pts => requested_passed
  | kbdCurveReq up sent => exact forall_mem_unless.mpr fun _ pts => requested_passed
  | setMonOverride call => exact fun pts => overridden_passed
  | wizard levels =>
    intro pts hpts
    obtain rfl := List.mem_singleton.mp hpts
    refine ⟨by rw [List.length_ofFn]; decide, fun p hp => ?_⟩
    obtain ⟨i, rfl⟩ := List.mem_ofFn.mp hp
    rw [Double.pointOk_num]
    exact pointOk_iff.mpr (levels i).2
  | _ => exact fun pts hpts => absurd hpts List.not_mem_nil

/-! ### What is long enough, and without NaN -/

/-- check_conf replaces a curve that is out of range by one of DEF_SIZE_POINTS points. -/
theorem checkPoints_long {table : AcState → List ℚ} (h : ∀ ac, (table ac).length = defSizePoints)
    (ac : AcState) (c : Curve) : degree ≤ (checkPoints table h ac c).points.length ↔ ¬ KeptShort c := by
  unfold checkPoints KeptShort
  split_ifs with hany
  · have hout : ¬ c.InRange := by
      rw [c.inRange_iff, not_not]
      exact hany
    have htable : degree ≤ (table ac).length := by
      rw [h ac]
      decide
    exact ⟨fun _ hkept => hout hkept.1, fun _ => htable⟩
  · have hin : c.InRange := c.inRange_iff.mpr hany
    rw [not_and, not_lt]
    exact ⟨fun hlong _ => hlong, fun hlong => hlong hin⟩

theorem sound_doublePoints {curve : AcState → Curve} {ac : AcState} :
    Sound (doublePoints curve ac) ↔ degree ≤ (curve ac).points.length := by
  unfold Sound doublePoints
  rw [List.length_map]
  refine and_iff_left fun p hp => ?_
  obtain ⟨q, -, rfl⟩ := List.mem_map.mp hp
  rfl

theorem requested_sound {st : State} {up : CurveUpd Double} :
    (∀ pts ∈ requested st up, Sound pts) ↔ RequestSound st up := by
  constructor
  · intro h hvalid pts hpts
    exact h pts (mem_requested.mpr ⟨hvalid, hpts⟩)
  · intro h pts hpts
    obtain ⟨hvalid, hpts⟩ := mem_requested.mp hpts
    exact h hvalid pts hpts

theorem overridden_sound {call : OverrideCall} : (∀ pts ∈ overridden call, Sound pts) ↔
    (call.Stores → Sound call.acPoints ∧ Sound call.battPoints) := by
  unfold overridden
  split_ifs with hstores
  · rw [List.forall_mem_cons, List.forall_mem_singleton]
    exact ⟨fun h _ => h, fun h => h hstores⟩
  · exact ⟨fun _ h => absurd h hstores, fun _ pts hpts => absurd hpts List.not_mem_nil⟩

/-- The start of check_conf changes no curve, but wizard mode disables KEYBOARD. -/
theorem checkBase_sections (f : Option Features) (cf : Conf) :
    (checkBase f cf).wizard = cf.wizard ∧ (checkBase f cf).bl.disabled = cf.bl.disabled ∧
      (checkBase f cf).sens = cf.sens ∧
      (checkBase f cf).kbd = { cf.kbd with disabled := cf.kbd.disabled || cf.wizard } := by
  unfold checkBase
  cases hw : cf.wizard with
  | true =>
    rw [Bool.or_true]
    exact ⟨hw, rfl, rfl, rfl⟩
  | false =>
    rw [Bool.or_false]
    cases f with
    | none => exact ⟨hw, rfl, rfl, rfl⟩
    | some f => exact ⟨hw, rfl, rfl, rfl⟩

theorem checked_bl (s : Fitting) : s.checked.wizard = s.loaded.wizard ∧
    s.checked.bl.disabled = s.loaded.bl.disabled ∧ (s.loaded.bl.disabled = false →
      s.checked.sens = checkOverrideConf (checkSensConf s.loaded.sens)) := by
  obtain ⟨hwizard, hbl, hsens, -⟩ := checkBase_sections s.features s.loaded
  unfold checked
  rw [checkConf_eq]
  refine ⟨hwizard, (checkBlConf_unless_disabled _).trans hbl, fun hon => ?_⟩
  dsimp only
  rw [hbl, hon, hsens]
  rfl

theorem checked_kbd (s : Fitting) :
    s.checked.kbd.disabled = (s.loaded.kbd.disabled || s.loaded.wizard) ∧
      (s.checked.kbd.disabled = false → s.checked.kbd.curve = (checkKbdConf s.loaded.kbd).curve) := by
  obtain ⟨-, -, -, hkbd⟩ := checkBase_sections s.features s.loaded
  unfold checked
  rw [checkConf_eq]
  dsimp only
  rw [hkbd]
  unfold checkUnless
  split_ifs with hoff
  · exact ⟨rfl, fun hon => absurd (hon.symm.trans hoff) Bool.false_ne_true⟩
  · exact ⟨rfl, fun _ => rfl⟩

theorem bl_long {sens : SensorConf} {sens' : SensorConf}
    (h : sens' = checkOverrideConf (checkSensConf sens)) :
    ((∀ ac, degree ≤ (sens'.defaultCurve ac).points.length) ∧
      ∀ e ∈ sens'.specificCurves.entries, ∀ ac, degree ≤ (e.2 ac).points.length) ↔
    (∀ ac, ¬ KeptShort (sens.defaultCurve ac)) ∧
      ∀ e ∈ sens.specificCurves.entries, ∀ ac, ¬ KeptShort (e.2 ac) := by
  rw [h]
  apply and_congr
  · exact forall_congr' fun ac => checkPoints_long _ ac _
  · refine List.forall_mem_map.trans (forall₂_congr fun e _ => forall_congr' fun ac => ?_)
    exact checkPoints_long _ ac _

theorem start_sound {kbdSupported : Bool} : (∀ pts ∈ (startPoints kbdSupported s.checked).1 ++
    (startPoints kbdSupported s.checked).2, Sound pts) ↔ LoadedLong kbdSupported s.loaded := by
  obtain ⟨hwizard, hbl, hsens⟩ := s.checked_bl
  obtain ⟨hoff, hkbd⟩ := s.checked_kbd
  have hkbdLong (hon : s.checked.kbd.disabled = false) :
      (∀ ac, degree ≤ (s.checked.kbd.curve ac).points.length) ↔
        ∀ ac, ¬ KeptShort (s.loaded.kbd.curve ac) := by
    rw [hkbd hon]
    exact forall_congr' fun ac => checkPoints_long _ ac _
  simp only [startPoints_forall, sound_doublePoints]
  rw [hwizard, hbl]
  constructor
  · rintro ⟨hlong, hlongKbd⟩
    constructor
    · intro hon hw
      exact (bl_long (hsens hon)).mp (hlong hon hw)
    · intro hused hsupported
      have hon := hoff.trans (Bool.or_eq_false_iff.mpr hused)
      exact (hkbdLong hon).mp (hlongKbd hon hsupported)
  · intro h
    constructor
    · intro hon hw
      exact (bl_long (hsens hon)).mpr (h.bl hon hw)
    · intro hon hsupported
      have hused := Bool.or_eq_false_iff.mp (hoff.symm.trans hon)
      exact (hkbdLong hon).mpr (h.kbd hused hsupported)

theorem handed_sound (s : Fitting) (e : FitEvent) : (∀ pts ∈ s.handed e, Sound pts) ↔ s.Sane e := by
  cases e with
  | start kbdFirst kbdSupported => exact handed_start_forall.trans start_sound
  | blCurveReq up r => exact forall_mem_unless.trans (imp_congr_right fun _ => requested_sound)
  | kbdCurveReq up sent => exact forall_mem_unless.trans (imp_congr_right fun _ => requested_sound)
  | setMonOverride call => exact overridden_sound
  | wizard levels =>
    refine ⟨fun _ => trivial, fun _ pts hpts => ?_⟩
    obtain rfl := List.mem_singleton.mp hpts
    refine ⟨by rw [List.length_ofFn]; decide, fun p hp => ?_⟩
    obtain ⟨i, rfl⟩ := List.mem_ofFn.mp hp
    rfl
  | _ => exact ⟨fun _ => trivial, fun _ pts hpts => absurd hpts List.not_mem_nil⟩

/-! ### Runs -/

theorem fittable_of_passed {pts : List Double} (h : Passed pts) : Fittable pts ↔ Sound pts := by
  constructor
  · exact fun hfit => ⟨hfit.enough, fun p hp => (Double.fraction_iff.mp (hfit.fractions p hp)).2⟩
  · exact fun hsound => ⟨hsound.1, h.1, fun p hp => Double.fraction_iff.mpr ⟨h.2 p hp, hsound.2 p hp⟩⟩

theorem untilAbort_fittable {l : List (List Double)} (h : ∀ pts ∈ l, Passed pts) :
    (∀ pts ∈ untilAbort l, Fittable pts) ↔ ∀ pts ∈ l, Sound pts := by
  induction l with
  | nil => exact iff_of_true (List.forall_mem_nil _) (List.forall_mem_nil _)
  | cons pts rest ih =>
    obtain ⟨hpassed, hrest⟩ := List.forall_mem_cons.mp h
    unfold untilAbort
    split_ifs with hlong
    · rw [List.forall_mem_cons, List.forall_mem_cons, ih hrest, fittable_of_passed hpassed]
    · rw [List.forall_mem_singleton, List.forall_mem_cons]
      exact ⟨fun hfit => absurd hfit.enough hlong, fun hall => absurd hall.1.1 hlong⟩

/-- One step calls the regression on nothing that it cannot fit, if and only if no curve that it is
given is too short or holds a NaN. -/
theorem next_fittable (hn : next fit s e = some s') : (∀ pts ∈ s'.fitted, Fittable pts) ↔
    (∀ pts ∈ s.fitted, Fittable pts) ∧ s.Sane e := by
  unfold next at hn
  split_ifs at hn
  obtain ⟨t, -, rfl⟩ := Option.map_eq_some_iff.mp hn
  rw [List.forall_mem_append, untilAbort_fittable (handed_passed s e), handed_sound]

theorem fittable_iff {es : List FitEvent} (h0 : (fitRun fit).init s)
    (hrun : (fitRun fit).run s es = some s') :
    (∀ pts ∈ s'.fitted, Fittable pts) ↔ (fitRun fit).RunBy Sane s es := by
  have hnone : ∀ pts ∈ s.fitted, Fittable pts := by
    obtain ⟨-, -, -, -, hfitted⟩ := h0
    rw [hfitted]
    exact fun pts hpts => absurd hpts List.not_mem_nil
  have hiff := Machine.iff_runBy_of_step (I := fun _ => True)
    (fun _ _ _ _ hn => ⟨next_fittable hn, trivial⟩) trivial hrun
  exact hiff.trans (and_iff_right hnone)

/-- The daemon before its modules start. -/
def loadedFrom (roots : List SettingTree) : Fitting where
  loaded := loadConfigs roots
  features := none
  started := false
  bl := none
  kbd := none
  st := initState .default
  cf := .default
  fitted := []

theorem loadedFrom_init (roots : List SettingTree) : (fitRun fit).init (loadedFrom roots) :=
  ⟨⟨roots, rfl, rfl, rfl⟩, rfl, rfl, rfl, rfl⟩

/-- BACKLIGHT starts, and three points are set for a monitor. -/
def setThree (third : Double) : List FitEvent :=
  [.start false true, .setMonOverride ⟨"DP-1", [.num 0, .num (1 / 2), third], [.num 0, .num (1 / 2), third]⟩]

theorem fittable_default : ∃ s',
    (fitRun OverrideCall.flatFit).run (loadedFrom []) (setThree (.num 1)) = some s' ∧
    ∀ pts ∈ s'.fitted, Fittable pts := by
  have hlong : LoadedLong true (loadedFrom []).loaded := by
    constructor
    · intro _ _
      refine ⟨fun ac hkept => ?_, fun e he => absurd he List.not_mem_nil⟩
      cases ac <;> exact absurd hkept.2 (by decide)
    · intro _ _ ac hkept
      cases ac <;> exact absurd hkept.2 (by decide)
  have hsome : ((fitRun OverrideCall.flatFit).run (loadedFrom []) (setThree (.num 1))).isSome = true := by
    decide +kernel
  obtain ⟨s', hrun⟩ := Option.isSome_iff_exists.mp hsome
  have hset : ∀ s, Sane s (.setMonOverride ⟨"DP-1", [.num 0, .num (1 / 2), .num 1],
      [.num 0, .num (1 / 2), .num 1]⟩) := fun _ _ => ⟨by decide, by decide⟩
  exact ⟨s', hrun, (fittable_iff (loadedFrom_init []) hrun).mpr
    ⟨hlong, fun _ _ => ⟨hset _, fun _ _ => trivial⟩⟩⟩

/-- Two points for the sensor. -/
def shortConfig : SettingTree :=
  .group [("sensor", .group [("ac_regression_points", .array [.float 0, .float 1])])]

theorem fittable_short : ¬ ∀ (s s' : Fitting) (es : List FitEvent), (fitRun OverrideCall.flatFit).init s →
    (fitRun OverrideCall.flatFit).run s es = some s' → ∀ pts ∈ s'.fitted, Fittable pts := by
  intro hall
  have hmem : [0, 1] ∈ untilAbort ((loadedFrom [shortConfig]).handed (.start false true)) := by
    decide +kernel
  have hfit := hall _ _ [.start false true] (loadedFrom_init [shortConfig]) rfl [0, 1] hmem
  exact absurd hfit.enough (by decide)

-- a NaN passes the check of Set
example : ((fitRun OverrideCall.flatFit).run (loadedFrom []) (setThree .nan)).any
    (fun s => [.num 0, .num (1 / 2), .nan] ∈ s.fitted) = true := by
  decide +kernel

end Fitting

end Clight
