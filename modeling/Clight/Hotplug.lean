import Clight.CoreRuns
import Clight.Gamma
import Clight.Opts
import Clight.ScreenFrame

/-! BACKLIGHT and GAMMA when monitors come and go: the TEMP_REQ that BACKLIGHT publishes
to sync all monitors, and the temperatures of the configuration. -/
namespace Clight

/-- The temperature that a message makes GAMMA store in the configuration. -/
def Gamma.tempAsked (r : GammaReplies) (m : Msg) (c : GammaCtx) : Option (DayState × ℤ) :=
  match c.loc.stack, m with
  | [], .tempReq sender up =>
    if sender = .daytime then none else (acceptTemp r up c).map fun p => (p.1, p.2.new)
  | _, _ => none

def storeAsked (ask : Option (DayState × ℤ)) (t : DayState → ℤ) : DayState → ℤ :=
  match ask with
  | some (d, new) => Function.update t d new
  | none => t

/-- A request that passes validate_temp is stored, unless DAYTIME sent it. -/
theorem Gamma.onTempReq_temp (r : GammaReplies) (sender : ModName) (up : TempUpd) (c : GammaCtx) :
    (onTempReq r sender up c).cf.gamma.temp =
      storeAsked (if sender = .daytime then none else (acceptTemp r up c).map fun p => (p.1, p.2.new))
        c.cf.gamma.temp := by
  have hcf := validateSubscript_cf up c
  unfold onTempReq
  dsimp only
  rw [acceptTemp_validateSubscript]
  cases acceptTemp r up c with
  | none =>
    dsimp only
    rw [hcf]
    split_ifs <;> rfl
  | some p =>
    dsimp only
    split_ifs
    · rw [onDaytimeReq_cf, hcf]
      rfl
    · rw [interfaceCallback_cf]
      exact congrArg (fun cf : Conf => Function.update cf.gamma.temp p.1 p.2.new) hcf

theorem Gamma.receivePaused_cf (r : GammaReplies) (m : Msg) (c : GammaCtx) :
    (receivePaused r m c).cf = c.cf := by
  unfold receivePaused
  split
  · dsimp only
    split_ifs
    · exact validateSubscript_cf ..
    · exact validateSubscript_cf ..
  · rfl
  · exact pauseMod_cf ..
  · rfl

/-- The messages of a running GAMMA other than TEMP_REQ leave the temperatures alone. -/
theorem Gamma.receive_temp (r : GammaReplies) {m : Msg} (hm : ∀ sender up, m ≠ .tempReq sender up)
    (c : GammaCtx) : (receive r m c).cf.gamma.temp = c.cf.gamma.temp := by
  unfold receive
  split
  · rw [ambientCallback_cf]
  · exact absurd rfl (hm _ _)
  · split_ifs
    · rw [onAmbgammaReq_cf]
      rfl
    · rfl
  · rfl
  · rw [pauseMod_cf]
  · split_ifs
    · rw [setTemp_cf]
    · rfl
  · rfl

/-- TEMP_REQ apart, no message changes the configured temperatures. -/
theorem Gamma.handle_temp {r : GammaReplies} {m : Msg} {c c' : GammaCtx}
    (h : handle r m c = some c') :
    c'.cf.gamma.temp = storeAsked (tempAsked r m c) c.cf.gamma.temp := by
  unfold handle at h
  unfold tempAsked
  -- by the receiver on top of the stack
  rcases hs : c.loc.stack with _ | ⟨recv, rest⟩ <;> rw [hs] at h
  · obtain rfl := Option.some.inj h
    split
    · exact onTempReq_temp r _ _ c
    · next hm => exact receive_temp r (fun sender up he => hm sender up rfl he) c
  · cases recv with
    | waitingDaytime =>
      cases m
      case daytimeUpd old new =>
        dsimp only at h
        split_ifs at h
        obtain rfl := Option.some.inj h
        rfl
      all_goals
        obtain rfl := Option.some.inj h
        rfl
    | paused =>
      obtain rfl := Option.some.inj h
      rw [receivePaused_cf]
      rfl

/-! ### The machine -/

/-- The requests by which BACKLIGHT syncs the temperature of all monitors. -/
def Msg.isSync : Msg → Bool
  | .tempReq .backlight _ => true
  | _ => false

/-- None of these modules reads what GAMMA publishes, TEMP_UPD. -/
structure CoreGamma where
  core : Core
  /-- `none` when GAMMA is disabled or has deregistered itself. -/
  gamma : Option Gamma
  box : List Msg
  /-- The temperatures of the configuration at startup, as changed by all the requests
  that are not syncs. -/
  asked : DayState → ℤ

/-- `queue` is what any module or the bus API publishes to GAMMA, syncs apart; `world` and
`properties` are what others write into the state and the configuration, where the current
temperature and the configured ones are GAMMA's. -/
inductive GammaEvent
  | core (e : CoreEvent)
  | deliver (r : GammaReplies)
  | toggle (r : GammaReplies)
  | tempChanged (new : ℤ)
  | queue (m : Msg)
  | world (st : State)
  | properties (cf : Conf)

namespace CoreGamma

def gammaCtx (g : Gamma) (s : CoreGamma) : GammaCtx :=
  { loc := g, st := s.core.st, cf := s.core.cf, out := [], calls := [] }

def setGamma (c : GammaCtx) (s : CoreGamma) : CoreGamma :=
  { s with core := { s.core with st := c.st, cf := c.cf }, gamma := some c.loc }

def next (fit : Fit) (s : CoreGamma) : GammaEvent → Option CoreGamma
  | .core e => (Core.next fit s.core e).map fun core =>
    { s with
      core := core
      box := if s.gamma.isSome then
          s.box ++ (core.blOut.drop s.core.blOut.length).filter Gamma.subscribes
        else s.box }
  | .deliver r => match s.gamma, s.box with
    | some g, m :: box => match Gamma.handle r m (s.gammaCtx g) with
      | none => some { s with gamma := none, box := [] }
      | some c => some { setGamma c s with
          box := box
          asked := if m.isSync then s.asked
            else storeAsked (Gamma.tempAsked r m (s.gammaCtx g)) s.asked }
    | _, _ => none
  | .toggle r => s.gamma.bind fun g =>
    if Gamma.toggleDies (s.gammaCtx g) then none
    else some (setGamma (Gamma.methodToggleGamma r (s.gammaCtx g)) s)
  -- the match on Changed is added when GAMMA starts
  | .tempChanged new => match s.gamma with
    | some g => if g.stack.head? = some .waitingDaytime then none
      else some (setGamma (Gamma.onTempChanged new (s.gammaCtx g)) s)
    | none => none
  | .queue m =>
    if Gamma.subscribes m && !m.isSync then some { s with box := s.box ++ [m] } else none
  | .world st =>
    some { s with core := { s.core with st := { st with currentTemp := s.core.st.currentTemp } } }
  | .properties cf =>
    some { s with core := { s.core with cf := { cf with
      gamma := { cf.gamma with temp := s.core.cf.gamma.temp } } } }

def start (cf : Conf) (initialTemp : ℤ) : CoreGamma where
  core := Core.start cf
  gamma := if cf.gamma.disabled then none else some (.init initialTemp)
  box := []
  asked := cf.gamma.temp

end CoreGamma

/-- The main loop starts: GAMMA, when enabled, has run init. -/
def coreGamma (fit : Fit) : Machine CoreGamma GammaEvent where
  init s := Core.Init s.core ∧ s.asked = s.core.cf.gamma.temp ∧ s.box = [] ∧
    (s.gamma = none ∨ ∃ t, s.gamma = some (.init t))
  next := CoreGamma.next fit

/-! ### Who writes the configured temperatures -/

theorem Core.next_gamma {fit : Fit} {s s' : Core} {e : CoreEvent} (h : Phase s)
    (hn : next fit s e = some s') : s'.cf.gamma = s.cf.gamma := by
  cases next_cases hn with
  | deliver r m box _ _ hs' =>
    rw [hs']
    exact Backlight.handle_gamma fit r m h
  | fd r fd _ hs' =>
    rw [hs']
    exact Backlight.handle_gamma fit r _ h
  | screen reply m scr box hs' =>
    rw [hs']
    obtain ⟨screen, hcf⟩ := (Screen.frame_handle reply m (scrCtx scr { s with scrBox := box })).cf
    have hgamma := congrArg Conf.gamma hcf
    exact hgamma
  | signal c _ hf hs' =>
    rw [hs']
    exact hf.gamma
  | elapse fd sec hs' =>
    rw [hs']
    cases fd <;> rfl
  | acState _ _ _ hs' => rw [hs']; rfl
  | daytime _ _ _ _ hs' => rw [hs']; rfl
  | capture _ _ hs' => rw [hs']; rfl
  | announce _ _ hs' => rw [hs']; rfl
  | system _ hs' => rw [hs']

def syncDay (st : State) (up : TempUpd) : Option DayState :=
  DayState.ofInt? (if up.daytime = -1 then dayInt st.dayTime else up.daytime)

/-- A sync is harmless when validate_temp rejects it, or it asks for the temperature that
is configured. -/
def Harmless (cf : GammaConf) (st : State) (up : TempUpd) : Prop :=
  match syncDay st up with
  | some d => up.new = 0 ∨ up.new < 1000 ∨ 10000 < up.new ∨ up.new = cf.temp d
  | none => True

instance (cf : GammaConf) (st : State) (up : TempUpd) : Decidable (Harmless cf st up) := by
  unfold Harmless
  split <;> infer_instance

theorem validateTemp_daytime (cf : Conf) (st : State) (junk : ℤ) (up : TempUpd) :
    DayState.ofInt? (validateTemp cf st junk up).1.daytime = syncDay st up := by
  unfold validateTemp syncDay
  dsimp only
  split_ifs <;> rfl

theorem validateTemp_new (cf : Conf) (st : State) (junk : ℤ) (up : TempUpd) :
    (validateTemp cf st junk up).1.new =
      if up.new = 0 then ((syncDay st up).map cf.gamma.temp).getD junk else up.new := by
  unfold validateTemp syncDay
  dsimp only
  split_ifs <;> simp_all

theorem validateTemp_ok (cf : Conf) (st : State) (junk : ℤ) (up : TempUpd) :
    (validateTemp cf st junk up).2 = true ↔ 1000 ≤ (validateTemp cf st junk up).1.new ∧
      (validateTemp cf st junk up).1.new ≤ 10000 ∧ (syncDay st up).isSome = true := by
  rw [← validateTemp_daytime cf st junk up]
  unfold validateTemp
  simp only [Bool.and_eq_true, decide_eq_true_eq, and_assoc]

theorem Gamma.acceptTemp_new (r : GammaReplies) (up : TempUpd) (c : GammaCtx) :
    (acceptTemp r up c).map (fun p => (p.1, p.2.new)) = (syncDay c.st up).bind fun d =>
      let new := if up.new = 0 then c.cf.gamma.temp d else up.new
      if 1000 ≤ new ∧ new ≤ 10000 then some (d, new) else none := by
  unfold acceptTemp
  dsimp only
  simp only [validateTemp_ok, validateTemp_daytime, validateTemp_new]
  cases hd : syncDay c.st up with
  | none => simp
  | some d =>
    simp only [Option.map_some, Option.getD_some, Option.isSome_some, and_true, Option.bind_some]
    by_cases h0 : up.new = 0
    · simp only [h0, if_true]
      split_ifs <;> simp [validateTemp_new, hd, h0]
    · simp only [h0, if_false]
      split_ifs <;> simp [validateTemp_new, h0]

/-- A sync leaves the configured temperatures as they are exactly when it is harmless, or
GAMMA does not handle it. -/
theorem sync_keeps_iff (r : GammaReplies) (up : TempUpd) (c : GammaCtx) :
    storeAsked (Gamma.tempAsked r (.tempReq .backlight up) c) c.cf.gamma.temp = c.cf.gamma.temp ↔
      c.loc.stack ≠ [] ∨ Harmless c.cf.gamma c.st up := by
  unfold Gamma.tempAsked
  rcases hs : c.loc.stack with _ | ⟨recv, rest⟩
  -- a GAMMA that waits or is paused stores nothing
  swap
  · simp [storeAsked]
  dsimp only
  rw [if_neg (by simp), Gamma.acceptTemp_new]
  unfold Harmless
  cases hd : syncDay c.st up with
  | none => simp [storeAsked]
  | some d =>
    have hstore (new : ℤ) :
        storeAsked (some (d, new)) c.cf.gamma.temp = c.cf.gamma.temp ↔ new = c.cf.gamma.temp d :=
      Function.update_eq_self_iff
    simp only [Option.bind_some, ne_eq, not_true_eq_false, false_or]
    constructor
    · intro hkeep
      by_cases h0 : up.new = 0
      · exact .inl h0
      rw [if_neg h0] at hkeep
      by_cases hr : 1000 ≤ up.new ∧ up.new ≤ 10000
      · rw [if_pos hr, hstore] at hkeep
        exact .inr (.inr (.inr hkeep))
      · omega
    · intro hh
      split_ifs with h0 hr hr
      · exact (hstore _).mpr rfl
      · rfl
      · exact (hstore _).mpr (by omega)
      · rfl

/-! ### Runs -/

/-- A sync that a running GAMMA handles is harmless. -/
def SyncHarmless (s : CoreGamma) : GammaEvent → Prop
  | .deliver _ => match s.gamma, s.box with
    | some g, .tempReq .backlight up :: _ => g.stack ≠ [] ∨ Harmless s.core.cf.gamma s.core.st up
    | _, _ => True
  | _ => True

instance (s : CoreGamma) (e : GammaEvent) : Decidable (SyncHarmless s e) := by
  unfold SyncHarmless
  split
  · split <;> infer_instance
  · infer_instance

namespace CoreGamma

/-- BACKLIGHT waits or runs, and the configured temperatures are those asked for. -/
structure TempInv (s : CoreGamma) : Prop where
  phase : Core.Phase s.core
  temp : s.core.cf.gamma.temp = s.asked

theorem temp_step {fit : Fit} {s s' : CoreGamma} {e : GammaEvent} (h : TempInv s)
    (hok : SyncHarmless s e) (hn : next fit s e = some s') : TempInv s' := by
  cases e <;> simp only [next] at hn
  case core e =>
    obtain ⟨core, hc, rfl⟩ := Option.map_eq_some_iff.mp hn
    refine ⟨Core.phase_step h.phase hc, ?_⟩
    show core.cf.gamma.temp = s.asked
    rw [Core.next_gamma h.phase hc, h.temp]
  case deliver r =>
    split at hn
    · rename_i g m box hg hbox
      split at hn
      · obtain rfl := Option.some.inj hn
        exact ⟨h.phase, h.temp⟩
      · rename_i c hc
        obtain rfl := Option.some.inj hn
        refine ⟨h.phase, ?_⟩
        show c.cf.gamma.temp = if m.isSync = true then s.asked else _
        have hstore := Gamma.handle_temp hc
        have htemp : (s.gammaCtx g).cf.gamma.temp = s.asked := h.temp
        -- what others ask for is stored and recorded alike
        by_cases hsync : m.isSync = true
        · rw [if_pos hsync, hstore]
          unfold Msg.isSync at hsync
          split at hsync
          · rename_i up
            rw [← htemp]
            refine (sync_keeps_iff r up _).mpr ?_
            simp only [SyncHarmless, hg, hbox] at hok
            exact hok
          · cases hsync
        · rw [if_neg hsync, hstore, htemp]
    · cases hn
  case toggle r =>
    obtain ⟨g, -, hn⟩ := Option.bind_eq_some_iff.mp hn
    split_ifs at hn
    obtain rfl := Option.some.inj hn
    refine ⟨h.phase, ?_⟩
    show (Gamma.methodToggleGamma r (s.gammaCtx g)).cf.gamma.temp = s.asked
    rw [Gamma.methodToggleGamma_cf]
    exact h.temp
  case tempChanged new =>
    split at hn
    · split_ifs at hn
      obtain rfl := Option.some.inj hn
      exact ⟨h.phase, h.temp⟩
    · cases hn
  case queue m =>
    split_ifs at hn
    obtain rfl := Option.some.inj hn
    exact ⟨h.phase, h.temp⟩
  case world st =>
    obtain rfl := Option.some.inj hn
    exact ⟨h.phase, h.temp⟩
  case properties cf =>
    obtain rfl := Option.some.inj hn
    exact ⟨h.phase, h.temp⟩

/-- In every run in which the syncs that GAMMA handles are harmless, hotplug never changes
a configured temperature. -/
theorem hotplug_keeps_temps (fit : Fit) {s : CoreGamma}
    (hs : (coreGamma fit).ReachableBy SyncHarmless s) : s.core.cf.gamma.temp = s.asked := by
  have hinv : TempInv s := by
    refine Machine.ReachableBy.invariant (I := TempInv) ?_ ?_ hs
    · rintro s ⟨hcore, hasked, -⟩
      refine ⟨.inl ?_, hasked.symm⟩
      rw [hcore.1]
      exact .init
    · intro s e s' h hok hn
      exact temp_step h hok hn
  exact hinv.temp

def gammaReplies : GammaReplies :=
  { now := 50000, localDay := fun _ => (0, 0), sent := true, daytimeStopped := false, junk := 0 }

def noScreenConf : Conf := { Conf.default with screen := { Conf.default.screen with disabled := true } }

/-- BACKLIGHT and GAMMA start by day; then Clightd tells of a step of a transition to
`temp`, and a monitor is added. -/
def plugWhile (temp : ℤ) : List GammaEvent :=
  [.core (.acState none .onAc), .core (.lidState .opened), .core (.daytime none .day false),
    .core (.deliverBl Core.noCapture), .core (.deliverBl Core.noCapture),
    .core (.deliverBl Core.noCapture), .queue (.daytimeUpd none .day), .deliver gammaReplies,
    .tempChanged temp, .core (.interfaceAdded "mon"), .deliver gammaReplies,
    .core (.deliverBl Core.noCapture), .deliver gammaReplies]

theorem init_start : (coreGamma fun _ => (0, 0, 0)).init (start noScreenConf 6500) := by
  refine ⟨Core.init_start ?_, rfl, rfl, .inr ⟨6500, rfl⟩⟩
  intro ac
  cases ac <;> decide

/-- A monitor added while the temperature is the configured one. -/
theorem hotplug_keeps_temps_settled : ∃ s, (coreGamma fun _ => (0, 0, 0)).run
    (start noScreenConf 6500) (plugWhile 6500) = some s ∧ s.core.cf.gamma.temp = s.asked := by
  refine ⟨_, rfl, hotplug_keeps_temps (fun _ => (0, 0, 0)) (Machine.ReachableBy.of_run
    (plugWhile 6500) (.init init_start) ?_ rfl)⟩
  decide +kernel

/-- A monitor added in the middle of a transition makes the temperature of that moment the
configured one. -/
theorem hotplug_overwrites_temp : ¬ ∀ (fit : Fit) (s : CoreGamma), (coreGamma fit).Reachable s →
    s.core.cf.gamma.temp = s.asked := by
  intro h
  have hrun : ((coreGamma fun _ => (0, 0, 0)).run (start noScreenConf 6500) (plugWhile 5000)).any
      (fun s => s.box.isEmpty && decide (s.core.cf.gamma.temp .day ≠ s.asked .day)) = true := by
    decide +kernel
  obtain ⟨s, hs, hp⟩ := (Option.any_eq_true _ _).mp hrun
  simp only [Bool.and_eq_true, decide_eq_true_eq] at hp
  exact hp.2 (congrFun (h _ s (Machine.reachable_of_run init_start hs)) .day)

end CoreGamma
end Clight
