import Clight.BacklightSpec
import Clight.CurveRange
import Clight.Machine

/-! The levels that BACKLIGHT commands on Clightd, in an environment that sends it any
message and writes what it likes into the state and the options. -/
namespace Clight

def BlCall.level : BlCall → ℚ
  | .set pct _ _ => pct
  | .setMonitor _ pct _ _ => pct

/-- `restored` are the commands of a restore on exit, `commands` all others. -/
structure Commanded where
  bl : Backlight
  st : State
  cf : Conf
  commands : List BlCall
  restored : List BlCall

/-- Messages of any module, signals of Clightd, and what others write. -/
inductive CommandedEvent
  | receive (m : Msg) (r : BlReplies)
  | sensorChanged (r : BlReplies)
  | blChanged (mon : MonId) (pct : ℚ)
  | interfaceAdded (mon : MonId)
  | interfaceRemoved (mon : MonId)
  | setMonOverride (sn : MonId) (acPoints battPoints : List ℚ)
  | world (st : State)
  | properties (cf : Conf)

namespace Commanded

def ctx (s : Commanded) : BlCtx := { loc := s.bl, st := s.st, cf := s.cf, out := [], calls := [] }

def act (c : BlCtx) (s : Commanded) : Commanded :=
  { s with bl := c.loc, st := c.st, cf := c.cf, commands := s.commands ++ c.calls }

/-- Both receivers restore the saved levels on LOOP_STOPPED. -/
def actRestoring (c : BlCtx) (s : Commanded) : Commanded :=
  { s with bl := c.loc, st := c.st, cf := c.cf, restored := s.restored ++ c.calls }

def next (fit : Fit) (s : Commanded) : CommandedEvent → Option Commanded
  | .receive m r =>
    let c := Backlight.handle fit r m s.ctx
    if m = .systemUpd .loopStopped ∧ s.bl.isWaiting = false then some (actRestoring c s)
    else some (act c s)
  | .sensorChanged r =>
    if s.bl.isWaiting then none else some (act (Backlight.onSensorChange r s.ctx) s)
  | .blChanged mon pct =>
    if s.bl.isWaiting then none else some (act (Backlight.onBlChanged mon pct s.ctx) s)
  | .interfaceAdded mon =>
    if s.bl.isWaiting then none else some (act (Backlight.onInterfaceAdded mon s.ctx) s)
  | .interfaceRemoved mon =>
    if s.bl.isWaiting then none
    else (Backlight.onInterfaceRemoved mon s.ctx).map fun c => act c s
  | .setMonOverride sn acPoints battPoints =>
    match methodSetMonOverride fit sn acPoints battPoints s.cf.sens with
    | .ok sens => some { s with cf := { s.cf with sens := sens } }
    | .error _ => some s
  | .world st => some { s with st := st }
  -- no other property is a curve
  | .properties cf => some { s with cf := { cf with sens := { cf.sens with
      defaultCurve := s.cf.sens.defaultCurve
      specificCurves := s.cf.sens.specificCurves } } }

/-- BACKLIGHT has run init, over a configuration that was loaded and checked. -/
def Init (fit : Fit) (s : Commanded) : Prop :=
  s.bl = .init ∧ s.commands = [] ∧ s.restored = [] ∧
    ∃ f loaded, (checkConf f loaded).bl.disabled = false ∧
      s.cf = if loaded.wizard then checkConf f loaded else initCurves fit (checkConf f loaded)

end Commanded

def commanded (fit : Fit) : Machine Commanded CommandedEvent where
  init := Commanded.Init fit
  next := Commanded.next fit

namespace Backlight

/-! ### What the code of BACKLIGHT commands -/

/-- As long as the curves are of fractions they remain so, the levels commanded are
fractions, and so is the level of the static request. -/
structure InRange (c c' : BlCtx) : Prop where
  curves : c.cf.sens.Fractions → c'.cf.sens.Fractions
  calls : c.cf.sens.Fractions → ∀ k ∈ c'.calls, k ∈ c.calls ∨ k.level ∈ Set.Icc (0 : ℚ) 1
  request : c.cf.sens.Fractions → c.loc.blReq.new ∈ Set.Icc (0 : ℚ) 1 →
    c'.loc.blReq.new ∈ Set.Icc (0 : ℚ) 1

namespace InRange
variable {c c₁ c₂ : BlCtx}

theorem of_eq (hsens : c₁.cf.sens = c.cf.sens) (hcalls : c₁.calls = c.calls)
    (hreq : c₁.loc.blReq = c.loc.blReq) : InRange c c₁ where
  curves h := hsens ▸ h
  calls _ _ hk := .inl (hcalls ▸ hk)
  request _ h := hreq ▸ h

theorem refl (c : BlCtx) : InRange c c := of_eq rfl rfl rfl

theorem trans (h₁ : InRange c c₁) (h₂ : InRange c₁ c₂) : InRange c c₂ where
  curves h := h₂.curves (h₁.curves h)
  calls h k hk := (h₂.calls (h₁.curves h) k hk).elim (h₁.calls h k) .inr
  request h hreq := h₂.request (h₁.curves h) (h₁.request h hreq)

theorem ite {b : Prop} [Decidable b] (h₁ : InRange c c₁) (h₂ : InRange c c₂) :
    InRange c (if b then c₁ else c₂) := by
  split
  · exact h₁
  · exact h₂

end InRange

theorem inRange_pauseIf (on : Bool) (r : ModPause) (c : BlCtx) : InRange c (pauseIf on r c) :=
  InRange.ite (.of_eq rfl rfl rfl) (.of_eq rfl rfl rfl)

theorem inRange_resetOrPause (old : ℤ) (reset : Bool) (c : BlCtx) :
    InRange c (resetOrPause old reset c) :=
  InRange.ite (.of_eq rfl rfl rfl) (.ite (.of_eq rfl rfl rfl) (.of_eq rfl rfl rfl))

theorem inRange_onLidUpdate (c : BlCtx) : InRange c (onLidUpdate c) := by
  have htimer : InRange c (if c.cf.bl.captureOnLidOpened then setBlFd (setTimeout 0 1) c else c) :=
    .ite (.of_eq rfl rfl rfl) (.refl c)
  exact .ite (.ite (.of_eq rfl rfl rfl) (.refl c)) (htimer.trans (.of_eq rfl rfl rfl))

theorem inRange_onSensorChange (r : BlReplies) (c : BlCtx) : InRange c (onSensorChange r c) :=
  InRange.ite (.refl c) (.ite (.of_eq rfl rfl rfl) (.of_eq rfl rfl rfl))

/-- The level of a monitor comes from a fraction, by its own curve if it has one. -/
theorem monitorLevel_mem {c : BlCtx} (h : c.cf.sens.Fractions) {pct : ℚ}
    (hpct : pct ∈ Set.Icc (0 : ℚ) 1) (mon : MonId) (saved : ℚ) :
    monitorLevel c (some pct) mon saved ∈ Set.Icc (0 : ℚ) 1 := by
  unfold monitorLevel
  dsimp only
  cases hcurve : c.cf.sens.specificCurves.lookup mon with
  | none => exact hpct
  | some curve =>
    cases c.st.acState with
    | none => exact hpct
    | some ac =>
      have hmem := AList.mem_lookup_iff.mp hcurve
      exact (h.specific _ hmem ac).of_mem (getValueFromCurve_mem pct (curve ac))

theorem inRange_setBacklightLevel (r : BlReplies) {pct : ℚ} (hpct : pct ∈ Set.Icc (0 : ℚ) 1)
    (isSmooth : Bool) (step : ℚ) (timeout : ℤ) (c : BlCtx) :
    InRange c (setBacklightLevel r pct isSmooth step timeout c) := by
  unfold setBacklightLevel
  dsimp only
  refine .ite ?_ ?_
  · refine ⟨id, ?_, fun _ => id⟩
    intro h k hk
    rcases List.mem_append.mp hk with hk | hk
    · exact .inl hk
    · obtain ⟨e, -, rfl⟩ := List.mem_map.mp hk
      exact .inr (monitorLevel_mem h hpct e.1 e.2)
  · have hset : InRange c (c.call (.set pct (if isSmooth then step else 0)
        (if isSmooth then timeout else 0))) := by
      refine ⟨id, ?_, fun _ => id⟩
      intro _ k hk
      rcases List.mem_append.mp hk with hk | hk
      · exact .inl hk
      · rw [List.mem_singleton.mp hk]
        exact .inr hpct
    exact .ite (hset.trans (.of_eq rfl rfl rfl)) hset

/-- The level that set_new_backlight computes lies between the end points of the curve. -/
theorem setNewBacklight_mem {c : BlCtx} {ac : AcState} (hac : c.st.acState = some ac) :
    (setNewBacklight c).loc.blReq.new ∈
      Set.Icc (c.cf.sens.defaultCurve ac).bottom (c.cf.sens.defaultCurve ac).top := by
  have hmem := newBacklight_mem (c.cf.sens.defaultCurve ac) c.st.ambientBr c.st.screenBr
    c.cf.screen.contrib
  unfold setNewBacklight requestBacklight
  rw [hac]
  dsimp only
  split_ifs
  · exact hmem
  · exact hmem

theorem inRange_setNewBacklight (c : BlCtx) : InRange c (setNewBacklight c) := by
  cases hac : c.st.acState with
  | none =>
    have hno : setNewBacklight c = c := by
      unfold setNewBacklight
      rw [hac]
    rw [hno]
    exact .refl c
  | some ac =>
    refine ⟨?_, ?_, fun h _ => (h.default ac).of_mem (setNewBacklight_mem hac)⟩
    all_goals
      unfold setNewBacklight requestBacklight
      rw [hac]
      dsimp only
    · split_ifs <;> exact id
    · split_ifs <;> exact fun _ _ => .inl

theorem inRange_doCapture (r : BlReplies) (reset captureOnly : Bool) (c : BlCtx) :
    InRange c (doCapture r reset captureOnly c) :=
  doCapture_of_steps .refl (fun _ _ _ => .trans) (fun _ _ => .of_eq rfl rfl rfl)
    inRange_setNewBacklight (fun _ _ => .of_eq rfl rfl rfl) r reset captureOnly c

theorem inRange_scheduleSync (c : BlCtx) : InRange c (scheduleSync c) :=
  InRange.ite (.of_eq rfl rfl rfl) (.of_eq rfl rfl rfl)

theorem inRange_onInterfaceRemoved {mon : MonId} {c c' : BlCtx}
    (h : onInterfaceRemoved mon c = some c') : InRange c c' := by
  unfold onInterfaceRemoved at h
  split at h
  · cases h
  · obtain rfl := Option.some.inj h
    refine InRange.trans ?_ (inRange_scheduleSync _)
    exact .of_eq rfl rfl rfl

theorem inRange_onBlChanged (mon : MonId) (pct : ℚ) (c : BlCtx) :
    InRange c (onBlChanged mon pct c) :=
  InRange.ite (.of_eq rfl rfl rfl) (.of_eq rfl rfl rfl)

theorem inRange_onCurveReq (fit : Fit) (up : CurveUpd) (c : BlCtx) :
    InRange c (onCurveReq fit up c) := by
  unfold onCurveReq
  dsimp only
  split_ifs with hok
  · split
    · next ac pts _ hpts =>
      refine ⟨?_, fun _ _ => .inl, fun _ => id⟩
      intro h
      have hmem := validateCurve_mem hok hpts
      refine ⟨?_, h.specific⟩
      intro ac'
      -- only the curve of one AC state is written
      by_cases hac : ac' = ac
      · rw [hac]
        unfold interfaceCurveCallback
        dsimp only
        rw [Function.update_self]
        exact (h.default ac).refit fit hmem
      · unfold interfaceCurveCallback
        dsimp only
        rw [Function.update_of_ne hac]
        exact h.default ac'
    · exact .refl c
  · exact .refl c

theorem inRange_onBlToReq (up : TimeoutUpd) (c : BlCtx) : InRange c (onBlToReq up c) := by
  unfold onBlToReq
  dsimp only
  split
  · unfold interfaceTimeoutCallback
    split
    · exact .refl c
    · have hwrite (t : AcState → BlTime → ℤ) :
          InRange c { c with cf := { c.cf with bl := { c.cf.bl with timeout := t } } } :=
        .of_eq rfl rfl rfl
      exact .ite ((hwrite _).trans (inRange_resetOrPause _ true _)) (hwrite _)
  · exact .refl c

theorem inRange_onNoAutocalibReq (new : Bool) (c : BlCtx) : InRange c (onNoAutocalibReq new c) := by
  have hwrite : InRange c
      { c with cf := { c.cf with bl := { c.cf.bl with noAutoCalib := new } } } :=
    .of_eq rfl rfl rfl
  have hpause := hwrite.trans (inRange_pauseIf new .autocalib _)
  exact .ite (hpause.trans (.of_eq rfl rfl rfl)) (.refl c)

theorem inRange_onBlReq (r : BlReplies) (accept : Bool) (up : BlUpd) (c : BlCtx) :
    InRange c (onBlReq r accept up c) := by
  unfold onBlReq
  dsimp only
  split_ifs with hok
  · have hmem := (validateBacklight_accepts c.cf c.st up).mp (Bool.and_eq_true_iff.mp hok).1
    rw [← validateBacklight_new c.cf c.st up] at hmem
    exact inRange_setBacklightLevel r hmem _ _ _ c
  · exact .refl c

theorem inRange_onBlReqStatic (r : BlReplies) (accept : Bool) (c : BlCtx) :
    InRange c (onBlReqStatic r accept c) := by
  have hvalid : InRange c
      { c with loc := { c.loc with blReq := (validateBacklight c.cf c.st c.loc.blReq).1 } } := by
    refine ⟨id, fun _ _ => .inl, fun _ h => ?_⟩
    show (validateBacklight c.cf c.st c.loc.blReq).1.new ∈ Set.Icc (0 : ℚ) 1
    rw [validateBacklight_new]
    exact h
  exact hvalid.trans (inRange_onBlReq r accept _ _)

theorem inRange_startup (r : BlReplies) (c : BlCtx) : InRange c (startup r c) := by
  have hcal (c' : BlCtx) : InRange c' (if c'.cf.bl.noAutoCalib then
      pauseMod .autocalib (setBacklightLevel r 1 (!c'.cf.bl.smooth.noSmooth) 0 0 c') else c') := by
    have hfull : InRange c' (setBacklightLevel r 1 (!c'.cf.bl.smooth.noSmooth) 0 0 c') :=
      inRange_setBacklightLevel r ⟨zero_le_one, le_rfl⟩ _ 0 0 c'
    exact .ite (hfull.trans (.of_eq rfl rfl rfl)) (.refl c')
  have hlid (c' : BlCtx) : InRange c' (if c'.st.lidShut then onLidUpdate c' else c') :=
    .ite (inRange_onLidUpdate c') (.refl c')
  have hstart : InRange c (onSensorChange r (resetOrPause (-1) false (timerStarted c))) := by
    refine InRange.trans ?_ ((inRange_resetOrPause (-1) false _).trans (inRange_onSensorChange r _))
    exact .of_eq rfl rfl rfl
  have hrest := (hstart.trans (hcal _)).trans (hlid _)
  exact hrest.trans (.of_eq rfl rfl rfl)

/-- Whatever BACKLIGHT receives while it waits. -/
theorem inRange_receiveWaitingInit (r : BlReplies) (m : Msg) (c : BlCtx) :
    InRange c (receiveWaitingInit r m c) := by
  have hseen : InRange c (seen m c) := .of_eq rfl rfl rfl
  exact .ite (hseen.trans (inRange_startup r _)) hseen

theorem inRange_onDelayedInterface (c : BlCtx) : InRange c (onDelayedInterface (readDelayed c)) :=
  .of_eq rfl rfl rfl

/-- Whatever it receives while it runs, LOOP_STOPPED apart. -/
theorem inRange_receive (fit : Fit) (r : BlReplies) {m : Msg} (hm : m ≠ .systemUpd .loopStopped)
    (c : BlCtx) : InRange c (receive fit r m c) := by
  unfold receive
  split
  · exact inRange_onDelayedInterface c
  · exact .of_eq rfl rfl rfl
  · exact inRange_setNewBacklight c
  · exact .of_eq rfl rfl rfl
  · exact inRange_pauseIf _ .display c
  · exact inRange_resetOrPause _ true c
  · exact inRange_resetOrPause _ true c
  · exact inRange_onLidUpdate c
  · exact inRange_pauseIf _ .suspend c
  · exact inRange_pauseIf _ .inhibit c
  · exact inRange_onBlToReq _ c
  · exact inRange_doCapture r _ _ c
  · exact inRange_doCapture r _ _ c
  · exact inRange_onCurveReq fit _ c
  · exact inRange_onNoAutocalibReq _ c
  · exact inRange_onBlReq r true _ c
  · exact inRange_onBlReqStatic r true c
  · exact absurd rfl hm
  · exact .refl c

theorem inRange_handle (fit : Fit) (r : BlReplies) {m : Msg} {c : BlCtx}
    (hm : m = .systemUpd .loopStopped → c.loc.isWaiting = true) :
    InRange c (handle fit r m c) := by
  -- only a waiting BACKLIGHT may receive LOOP_STOPPED here
  have hne (hw : c.loc.isWaiting = false) : m ≠ .systemUpd .loopStopped := by
    intro he
    rw [hm he] at hw
    cases hw
  unfold handle
  unfold isWaiting at hne
  rcases hstack : c.loc.stack with _ | ⟨recv, rest⟩
  · exact inRange_receive fit r (hne (by rw [hstack]; rfl)) c
  · cases recv with
    | waitingInit => exact inRange_receiveWaitingInit r m c
    | paused =>
      show InRange c (receivePaused fit r m c)
      rcases receivePaused_cases fit r m c with he | he | he | ⟨-, he⟩
      · rw [he]
        exact inRange_receive fit r (hne (by rw [hstack]; rfl)) c
      · rw [he]
        exact .refl c
      · rw [he]
        exact inRange_onDelayedInterface c
      · rw [he]
        exact inRange_onBlReqStatic r false c

/-- LOOP_STOPPED changes neither a curve nor the static request. -/
theorem handle_loopStopped (fit : Fit) (r : BlReplies) {c : BlCtx} (hw : c.loc.isWaiting = false) :
    (handle fit r (.systemUpd .loopStopped) c).cf = c.cf ∧
      (handle fit r (.systemUpd .loopStopped) c).loc = c.loc := by
  have hstop : handle fit r (.systemUpd .loopStopped) c = onLoopStopped c := by
    unfold handle
    unfold isWaiting at hw
    rcases hstack : c.loc.stack with _ | ⟨recv, rest⟩
    · rfl
    · rw [hstack] at hw
      cases recv with
      | waitingInit => cases hw
      | paused => rfl
  rw [hstop]
  unfold onLoopStopped
  split
  · exact ⟨rfl, rfl⟩
  · exact ⟨rfl, rfl⟩

end Backlight

namespace Commanded

/-! ### Runs -/

/-- The curves are of fractions, and so are the levels commanded and the level asked for. -/
structure Fractions (s : Commanded) : Prop where
  curves : s.cf.sens.Fractions
  commands : ∀ k ∈ s.commands, k.level ∈ Set.Icc (0 : ℚ) 1
  request : s.bl.blReq.new ∈ Set.Icc (0 : ℚ) 1

theorem Fractions.act {s : Commanded} {c : BlCtx} (h : s.Fractions)
    (hc : Backlight.InRange s.ctx c) : (act c s).Fractions := by
  refine ⟨hc.curves h.curves, ?_, hc.request h.curves h.request⟩
  intro k hk
  rcases List.mem_append.mp hk with hk | hk
  · exact h.commands k hk
  · rcases hc.calls h.curves k hk with hk | hk
    · cases hk
    · exact hk

theorem fractions_init {fit : Fit} {s : Commanded} (h : Init fit s) : s.Fractions := by
  obtain ⟨hbl, hcommands, -, f, loaded, hdisabled, hcf⟩ := h
  have hchecked := checkConf_fractions hdisabled
  refine ⟨?_, ?_, ?_⟩
  · rw [hcf]
    split
    · exact hchecked
    · exact initCurves_fractions fit hchecked
  · rw [hcommands]
    intro k hk
    cases hk
  · rw [hbl]
    exact ⟨le_rfl, zero_le_one⟩

theorem fractions_step {fit : Fit} {s s' : Commanded} {e : CommandedEvent} (h : s.Fractions)
    (hn : next fit s e = some s') : s'.Fractions := by
  cases e <;> simp only [next] at hn
  case receive m r =>
    split_ifs at hn with hstop
    · obtain rfl := Option.some.inj hn
      obtain ⟨rfl, hw⟩ := hstop
      obtain ⟨hcf, hloc⟩ := Backlight.handle_loopStopped fit r (c := s.ctx) hw
      refine ⟨?_, h.commands, ?_⟩
      · show (Backlight.handle fit r (.systemUpd .loopStopped) s.ctx).cf.sens.Fractions
        rw [hcf]
        exact h.curves
      · show (Backlight.handle fit r (.systemUpd .loopStopped) s.ctx).loc.blReq.new ∈ Set.Icc (0 : ℚ) 1
        rw [hloc]
        exact h.request
    · obtain rfl := Option.some.inj hn
      refine h.act (Backlight.inRange_handle fit r ?_)
      intro hm
      by_contra hw
      exact hstop ⟨hm, Bool.eq_false_iff.mpr hw⟩
  case sensorChanged r =>
    split_ifs at hn
    obtain rfl := Option.some.inj hn
    exact h.act (Backlight.inRange_onSensorChange r _)
  case blChanged mon pct =>
    split_ifs at hn
    obtain rfl := Option.some.inj hn
    exact h.act (Backlight.inRange_onBlChanged mon pct _)
  case interfaceAdded mon =>
    split_ifs at hn
    obtain rfl := Option.some.inj hn
    refine h.act (Backlight.InRange.trans ?_ (Backlight.inRange_scheduleSync _))
    exact .of_eq rfl rfl rfl
  case interfaceRemoved mon =>
    split_ifs at hn
    obtain ⟨c, hc, rfl⟩ := Option.map_eq_some_iff.mp hn
    exact h.act (Backlight.inRange_onInterfaceRemoved hc)
  case setMonOverride sn acPoints battPoints =>
    split at hn
    · next sens hset =>
      obtain rfl := Option.some.inj hn
      exact ⟨methodSetMonOverride_fractions h.curves hset, h.commands, h.request⟩
    · obtain rfl := Option.some.inj hn
      exact h
  case world st =>
    obtain rfl := Option.some.inj hn
    exact ⟨h.curves, h.commands, h.request⟩
  case properties cf =>
    obtain rfl := Option.some.inj hn
    exact ⟨⟨h.curves.default, h.curves.specific⟩, h.commands, h.request⟩

/-- In every run each level commanded is a fraction, the levels restored on exit apart. And
whatever the ambient and the screen brightness are when set_new_backlight runs, the level it
stores in its request lies between the end points of the default curve in force, and the
request is accepted whenever it is delivered. -/
theorem levels_are_fractions (fit : Fit) {s : Commanded} (hs : (commanded fit).Reachable s) :
    (∀ k ∈ s.commands, k.level ∈ Set.Icc (0 : ℚ) 1) ∧
      (∀ st ac, st.acState = some ac →
        (Backlight.setNewBacklight { s.ctx with st := st }).loc.blReq.new ∈
            Set.Icc (s.cf.sens.defaultCurve ac).bottom (s.cf.sens.defaultCurve ac).top ∧
          ∀ cf' st', (validateBacklight cf' st'
            (Backlight.setNewBacklight { s.ctx with st := st }).loc.blReq).2 = true) ∧
      (validateBacklight s.cf s.st s.bl.blReq).2 = true := by
  have hinv : s.Fractions := by
    refine Machine.ReachableBy.invariant (I := Fractions) ?_ ?_ hs
    · intro s h
      exact fractions_init h
    · intro s e s' h _ hn
      exact fractions_step h hn
  refine ⟨hinv.commands, ?_, (validateBacklight_accepts _ _ _).mpr hinv.request⟩
  intro st ac hac
  have hmem := Backlight.setNewBacklight_mem (c := { s.ctx with st := st }) hac
  refine ⟨hmem, fun cf' st' => ?_⟩
  rw [validateBacklight_accepts]
  exact (hinv.curves.default ac).of_mem hmem

def start (fit : Fit) : Commanded where
  bl := .init
  st := initState Conf.default
  cf := initCurves fit (checkConf none Conf.default)
  commands := []
  restored := []

theorem init_start (fit : Fit) : Init fit (start fit) :=
  ⟨rfl, rfl, rfl, none, Conf.default, rfl, rfl⟩

def replies : BlReplies := { sensor := true, capture := none, levels := [], setSent := true }

/-- BACKLIGHT starts on AC by day, captures, and handles the request that it sends itself;
then one monitor gets curves of its own and is asked for another level. -/
def captureAndOverride : List CommandedEvent :=
  [.world { initState Conf.default with
      acState := some .onAc, dayTime := some .day, lidState := some .opened },
    .receive (.upowerUpd none .onAc) replies,
    .receive (.lidUpd none .opened) replies,
    .receive (.daytimeUpd none .day) replies,
    .receive (.screenBrUpd 0 (1/2)) { replies with levels := [("mon", 1)] },
    .receive (.captureReq .interface ⟨true, false⟩) { replies with capture := some (1/2) },
    .receive .blReqStatic replies,
    .setMonOverride "mon" [1/4, 3/4] [0, 1/2],
    .receive (.blReq ⟨1/2, 0, 0, 0⟩) replies]

theorem levels_are_fractions_override : ∃ s,
    (commanded fun _ => (0, 1, 0)).run (start fun _ => (0, 1, 0)) captureAndOverride = some s ∧
      s.commands.length = 2 ∧ ∀ k ∈ s.commands, k.level ∈ Set.Icc (0 : ℚ) 1 := by
  have hrun : ((commanded fun _ => (0, 1, 0)).run (start fun _ => (0, 1, 0)) captureAndOverride).any
      (fun s => s.commands.length = 2) = true := by
    decide +kernel
  obtain ⟨s, hs, hlen⟩ := (Option.any_eq_true _ _).mp hrun
  have hreach := Machine.reachable_of_run (init_start fun _ => (0, 1, 0)) hs
  exact ⟨s, hs, of_decide_eq_true hlen, (levels_are_fractions _ hreach).1⟩

end Commanded
end Clight
