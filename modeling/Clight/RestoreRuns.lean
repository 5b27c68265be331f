import Clight.AssocMap
import Clight.BacklightSpec
import Clight.Machine
import Clight.Opts

/-! The levels that BACKLIGHT saves when it starts and restores on exit, over its runs, beside
the levels of the monitors that Clightd drives. -/
namespace Clight

abbrev MonLevels := AList fun _ : MonId => ℚ

/-- The levels after Clightd has served a call. A smooth one gets there step by step. -/
def BlCall.serve (levels : MonLevels) : BlCall → MonLevels
  | .set pct _ _ => AssocMap.mapValues (fun _ _ => pct) levels
  | .setMonitor mon pct _ _ => AssocMap.mapValues (fun m old => if m = mon then pct else old) levels

/-- The level that a call commands for a monitor. -/
def BlCall.levelFor (mon : MonId) : BlCall → Option ℚ
  | .set pct _ _ => some pct
  | .setMonitor m pct _ _ => if m = mon then some pct else none

structure RestoreRun where
  bl : Backlight
  st : State
  cf : Conf
  /-- The monitors that are plugged, with their levels. -/
  levels : MonLevels
  /-- The levels when Clight issued its first Set. -/
  own : Option MonLevels
  /-- The monitors present when BACKLIGHT started and not unplugged since. -/
  kept : List MonId

/-- `got` tells whether a Get made in the step succeeds. `levelChanged` is a level that someone
else sets, or that a smooth change passes; `others` is what other modules and the bus write. -/
inductive RestoreEvent
  | receive (m : Msg) (r : BlReplies) (got : Bool)
  | sensorChanged (r : BlReplies)
  | blChanged (mon : MonId) (pct : ℚ)
  | levelChanged (mon : MonId) (pct : ℚ)
  | plug (mon : MonId) (pct : ℚ)
  | unplug (mon : MonId)
  | others (st : State) (cf : Conf)

namespace RestoreRun

def ctx (s : RestoreRun) : BlCtx := { loc := s.bl, st := s.st, cf := s.cf, out := [], calls := [] }

def act (c : BlCtx) (s : RestoreRun) : RestoreRun := { s with bl := c.loc, st := c.st, cf := c.cf }

/-- The message is the last one that receive_waiting_init waits for. -/
def startsUp (s : RestoreRun) (m : Msg) : Bool :=
  s.bl.isWaiting && (Backlight.started s.cf m s.bl.ok).all

/-- The calls that a message makes BACKLIGHT issue. -/
def issued (fit : Fit) (s : RestoreRun) (m : Msg) (r : BlReplies) : List BlCall :=
  (Backlight.handle fit { r with levels := [] } m s.ctx).calls

/-- The levels once the calls are served, or as they were if Clightd fails them. -/
def levelsAfter (fit : Fit) (s : RestoreRun) (m : Msg) (r : BlReplies) : MonLevels :=
  if r.setSent then (issued fit s m r).foldl BlCall.serve s.levels else s.levels

def next (fit : Fit) (s : RestoreRun) : RestoreEvent → Option RestoreRun
  | .receive m r got =>
    -- Get is the last call of the step, so its reply tells what the others have done
    let levels := levelsAfter fit s m r
    let c := Backlight.handle fit
      { r with levels := if got then AssocMap.pairs levels else [] } m s.ctx
    some { act c s with
      levels := levels
      own := s.own.or (if (issued fit s m r).isEmpty then none else some s.levels)
      kept := if s.startsUp m then levels.keys else s.kept }
  | .sensorChanged r =>
    if s.bl.isWaiting then none else some (act (Backlight.onSensorChange r s.ctx) s)
  | .blChanged mon pct =>
    if s.bl.isWaiting then none else some (act (Backlight.onBlChanged mon pct s.ctx) s)
  | .levelChanged mon pct =>
    some { s with levels := AssocMap.mapValues (fun m old => if m = mon then pct else old) s.levels }
  | .plug mon pct =>
    if mon ∈ s.levels then none
    else
      let c := if s.bl.isWaiting then s.ctx else Backlight.onInterfaceAdded mon s.ctx
      some { act c s with levels := s.levels.insert mon pct }
  | .unplug mon =>
    (if s.bl.isWaiting then some s.ctx else Backlight.onInterfaceRemoved mon s.ctx).map fun c =>
      { act c s with levels := s.levels.erase mon, kept := s.kept.filter (· ≠ mon) }
  | .others st cf => some { s with st := st, cf := cf }

def start (st : State) (cf : Conf) (levels : MonLevels) : RestoreRun where
  bl := .init
  st := st
  cf := cf
  levels := levels
  own := none
  kept := []

end RestoreRun

def restoreRun (fit : Fit) : Machine RestoreRun RestoreEvent where
  init s := ∃ st cf levels, s = .start st cf levels
  next := RestoreRun.next fit

/-! ### Who writes the saved levels -/

namespace Backlight

/-- `c'` comes from `c` by code that calls nothing and writes neither the saved levels nor the
options. -/
structure Silent (c c' : BlCtx) : Prop where
  cf : c'.cf = c.cf
  bls : c'.loc.bls = c.loc.bls
  calls : c'.calls = c.calls

namespace Silent
variable {c c₁ c₂ : BlCtx}

theorem refl (c : BlCtx) : Silent c c := ⟨rfl, rfl, rfl⟩

theorem trans (h₁ : Silent c c₁) (h₂ : Silent c₁ c₂) : Silent c c₂ where
  cf := h₂.cf.trans h₁.cf
  bls := h₂.bls.trans h₁.bls
  calls := h₂.calls.trans h₁.calls

theorem ite {b : Prop} [Decidable b] (h₁ : Silent c c₁) (h₂ : Silent c c₂) :
    Silent c (if b then c₁ else c₂) := by
  split
  · exact h₁
  · exact h₂

end Silent

theorem silent_pauseIf (on : Bool) (reason : ModPause) (c : BlCtx) :
    Silent c (pauseIf on reason c) :=
  Silent.ite ⟨rfl, rfl, rfl⟩ ⟨rfl, rfl, rfl⟩

theorem silent_resetOrPause (old : ℤ) (reset : Bool) (c : BlCtx) :
    Silent c (resetOrPause old reset c) :=
  Silent.ite ⟨rfl, rfl, rfl⟩ (.ite ⟨rfl, rfl, rfl⟩ ⟨rfl, rfl, rfl⟩)

theorem silent_onLidUpdate (c : BlCtx) : Silent c (onLidUpdate c) := by
  have htimer : Silent c (if c.cf.bl.captureOnLidOpened then setBlFd (setTimeout 0 1) c else c) :=
    .ite ⟨rfl, rfl, rfl⟩ (.refl c)
  exact .ite (.ite ⟨rfl, rfl, rfl⟩ (.refl c)) (htimer.trans ⟨rfl, rfl, rfl⟩)

theorem silent_onSensorChange (r : BlReplies) (c : BlCtx) : Silent c (onSensorChange r c) :=
  Silent.ite (.refl c) (.ite ⟨rfl, rfl, rfl⟩ ⟨rfl, rfl, rfl⟩)

theorem silent_setNewBacklight (c : BlCtx) : Silent c (setNewBacklight c) := by
  obtain ⟨new, out, -, heq⟩ := setNewBacklight_eq c
  rw [heq]
  exact ⟨rfl, rfl, rfl⟩

theorem silent_doCapture (r : BlReplies) (reset captureOnly : Bool) (c : BlCtx) :
    Silent c (doCapture r reset captureOnly c) :=
  doCapture_of_steps .refl (fun _ _ _ => .trans) (fun _ _ => ⟨rfl, rfl, rfl⟩)
    silent_setNewBacklight (fun _ _ => ⟨rfl, rfl, rfl⟩) r reset captureOnly c

theorem setBacklightLevel_bls (r : BlReplies) (pct : ℚ) (isSmooth : Bool) (step : ℚ)
    (timeout : ℤ) (c : BlCtx) :
    (setBacklightLevel r pct isSmooth step timeout c).loc.bls = c.loc.bls := by
  unfold setBacklightLevel
  dsimp only
  split_ifs <;> rfl

theorem onBlToReq_bls (up : TimeoutUpd) (c : BlCtx) : (onBlToReq up c).loc.bls = c.loc.bls := by
  unfold onBlToReq
  dsimp only
  split
  · unfold interfaceTimeoutCallback
    split
    · rfl
    · dsimp only
      split_ifs
      · exact (silent_resetOrPause _ true _).bls
      · rfl
  · rfl

theorem onCurveReq_bls (fit : Fit) (up : CurveUpd) (c : BlCtx) :
    (onCurveReq fit up c).loc.bls = c.loc.bls := by
  unfold onCurveReq
  dsimp only
  split_ifs
  · split <;> rfl
  · rfl

theorem onNoAutocalibReq_bls (new : Bool) (c : BlCtx) :
    (onNoAutocalibReq new c).loc.bls = c.loc.bls := by
  unfold onNoAutocalibReq
  split_ifs
  · exact (silent_pauseIf new .autocalib _).bls
  · rfl

theorem onBlReq_bls (r : BlReplies) (accept : Bool) (up : BlUpd) (c : BlCtx) :
    (onBlReq r accept up c).loc.bls = c.loc.bls := by
  unfold onBlReq
  dsimp only
  split_ifs
  · apply setBacklightLevel_bls
  · rfl

theorem onBlReqStatic_bls (r : BlReplies) (accept : Bool) (c : BlCtx) :
    (onBlReqStatic r accept c).loc.bls = c.loc.bls :=
  onBlReq_bls r accept _ _

theorem scheduleSync_bls (c : BlCtx) : (scheduleSync c).loc.bls = c.loc.bls := by
  unfold scheduleSync
  split_ifs <;> rfl

theorem onInterfaceRemoved_bls {mon : MonId} {c c' : BlCtx} (h : onInterfaceRemoved mon c = some c') :
    c'.loc.bls = c.loc.bls.erase mon := by
  unfold onInterfaceRemoved at h
  split at h
  · cases h
  · obtain rfl := Option.some.inj h
    apply scheduleSync_bls

theorem onBlChanged_bls (mon : MonId) (pct : ℚ) (c : BlCtx) :
    (onBlChanged mon pct c).loc.bls = c.loc.bls := by
  unfold onBlChanged
  dsimp only
  split_ifs <;> rfl

theorem receive_bls (fit : Fit) (r : BlReplies) (m : Msg) (c : BlCtx) :
    (receive fit r m c).loc.bls = c.loc.bls := by
  cases m with
  | fdUpd fd => cases fd <;> rfl
  | screenBrUpd old new => exact (silent_setNewBacklight c).bls
  | displayUpd old new => exact (silent_pauseIf _ .display c).bls
  | inEventUpd old new => exact (silent_resetOrPause _ true c).bls
  | daytimeUpd old new => exact (silent_resetOrPause _ true c).bls
  | lidUpd old new => exact (silent_onLidUpdate c).bls
  | suspendUpd old new => exact (silent_pauseIf _ .suspend c).bls
  | inhibitUpd old new => exact (silent_pauseIf _ .inhibit c).bls
  | blToReq up => exact onBlToReq_bls up c
  | captureReq sender up => exact (silent_doCapture r _ _ c).bls
  | captureReqStatic => exact (silent_doCapture r _ _ c).bls
  | curveReq up => exact onCurveReq_bls fit up c
  | noAutocalibReq new => exact onNoAutocalibReq_bls new c
  | blReq up => exact onBlReq_bls r true up c
  | blReqStatic => exact onBlReqStatic_bls r true c
  | systemUpd sm =>
    cases sm with
    | loopStopped =>
      change (onLoopStopped c).loc.bls = c.loc.bls
      unfold onLoopStopped
      split_ifs <;> rfl
    | _ => rfl
  | _ => rfl

/-- No message makes a running BACKLIGHT write the levels it saved. -/
theorem handle_bls (fit : Fit) (r : BlReplies) (m : Msg) {c : BlCtx} (h : Running c.loc) :
    (handle fit r m c).loc.bls = c.loc.bls := by
  -- the paused receiver does no more than the other one
  rcases handle_eq_receive fit r m h with he | he | he | ⟨-, he⟩
  · rw [he]
    exact receive_bls fit r m c
  · rw [he]
  · rw [he]
    rfl
  · rw [he]
    exact onBlReqStatic_bls r false c

/-! ### What startup commands and what it saves -/

/-- With per-monitor curves the level goes to each monitor saved, and there is none yet. -/
theorem setBacklightLevel_calls_empty (r : BlReplies) (pct : ℚ) (isSmooth : Bool) {c : BlCtx}
    (hbls : c.loc.bls = ∅) : (setBacklightLevel r pct isSmooth 0 0 c).calls =
      c.calls ++ if c.cf.sens.specificCurves.keys = [] then [.set pct 0 0] else [] := by
  have hstep : (if isSmooth then (0 : ℚ) else 0) = 0 := ite_self 0
  have htimeout : (if isSmooth then (0 : ℤ) else 0) = 0 := ite_self 0
  unfold setBacklightLevel
  dsimp only
  rw [hstep, htimeout]
  by_cases hkeys : c.cf.sens.specificCurves.keys = []
  · rw [if_neg (not_not.mpr hkeys), if_pos hkeys]
    split_ifs <;> rfl
  · rw [if_pos hkeys, if_neg hkeys]
    unfold setEachBrightness
    rw [hbls]
    rfl

/-- Startup, but for the reading of the levels. -/
def beforeGet (r : BlReplies) (c : BlCtx) : BlCtx :=
  let c := onSensorChange r (resetOrPause (-1) false (timerStarted c))
  let c := if c.cf.bl.noAutoCalib then
      pauseMod .autocalib (setBacklightLevel r 1 (!c.cf.bl.smooth.noSmooth) 0 0 c)
    else c
  if c.st.lidShut then onLidUpdate c else c

theorem startup_eq (r : BlReplies) (c : BlCtx) : startup r c =
    { beforeGet r c with loc := { (beforeGet r c).loc with
        bls := r.levels.foldl (fun b e => b.insert e.1 e.2) (beforeGet r c).loc.bls } } := by
  unfold startup beforeGet timerStarted
  rfl

theorem startup_bls (r : BlReplies) (c : BlCtx) :
    (startup r c).loc.bls = r.levels.foldl (fun b e => b.insert e.1 e.2) (beforeGet r c).loc.bls := by
  rw [startup_eq]

theorem startup_calls (r : BlReplies) (c : BlCtx) : (startup r c).calls = (beforeGet r c).calls := by
  rw [startup_eq]

/-- Only full brightness may be commanded before the levels are read. -/
theorem beforeGet_spec (r : BlReplies) {c : BlCtx} (hbls : c.loc.bls = ∅) :
    (beforeGet r c).loc.bls = ∅ ∧ (beforeGet r c).calls = c.calls ++
      if c.cf.bl.noAutoCalib = true ∧ c.cf.sens.specificCurves.keys = [] then [.set 1 0 0] else [] := by
  have hprep : Silent c (onSensorChange r (resetOrPause (-1) false (timerStarted c))) := by
    have htimer : Silent c (timerStarted c) := ⟨rfl, rfl, rfl⟩
    exact (htimer.trans (silent_resetOrPause (-1) false _)).trans (silent_onSensorChange r _)
  have hlid : ∀ c' : BlCtx, Silent c' (if c'.st.lidShut then onLidUpdate c' else c') :=
    fun c' => .ite (silent_onLidUpdate c') (.refl c')
  -- only the middle part calls
  unfold beforeGet
  dsimp only
  rw [(hlid _).bls, (hlid _).calls]
  generalize onSensorChange r (resetOrPause (-1) false (timerStarted c)) = c₁ at hprep
  have hbls₁ : c₁.loc.bls = ∅ := hprep.bls.trans hbls
  rw [← hprep.cf, ← hprep.calls]
  by_cases hcal : c₁.cf.bl.noAutoCalib = true
  · have hfull := setBacklightLevel_calls_empty r 1 (!c₁.cf.bl.smooth.noSmooth) hbls₁
    simp only [hcal, if_true, true_and]
    exact ⟨(setBacklightLevel_bls ..).trans hbls₁, hfull⟩
  · rw [if_neg hcal, if_neg fun hboth => hcal hboth.1, List.append_nil]
    exact ⟨hbls₁, rfl⟩

end Backlight

namespace RestoreRun
variable {fit : Fit} {s t : RestoreRun}

/-- At LOOP_STOPPED each monitor kept is commanded the level that it had before the first Set,
and no other. -/
def RestoresOwn (fit : Fit) (s : RestoreRun) : Prop :=
  s.cf.bl.restore = true → ∀ mon ∈ s.kept, ∀ r, ∃ lv,
    (s.own.getD s.levels).lookup mon = some lv ∧
      (issued fit s (.systemUpd .loopStopped) r).filterMap (BlCall.levelFor mon) = [lv]

/-- The Get of startup succeeds and full brightness has not been forced on other levels before
it; and no level changes from then on until the first Set. -/
def ReadsOwn (s : RestoreRun) : RestoreEvent → Prop
  | .receive m r got => s.startsUp m = true → got = true ∧
      (s.cf.bl.noAutoCalib = false ∨ s.cf.sens.specificCurves.keys ≠ [] ∨ r.setSent = false ∨
        ∀ e ∈ s.levels.entries, e.2 = 1)
  | .levelChanged mon pct => s.own = none → mon ∈ s.kept → s.levels.lookup mon = some pct
  | _ => True

/-! ### What a message does to the levels -/

theorem mem_serve (mon : MonId) (levels : MonLevels) (k : BlCall) :
    mon ∈ k.serve levels ↔ mon ∈ levels := by
  cases k with
  | set pct step timeout => exact AssocMap.mem_mapValues
  | setMonitor m pct step timeout => exact AssocMap.mem_mapValues

theorem mem_foldl_serve (mon : MonId) (ks : List BlCall) (levels : MonLevels) :
    mon ∈ ks.foldl BlCall.serve levels ↔ mon ∈ levels := by
  induction ks generalizing levels with
  | nil => rfl
  | cons k ks ih => rw [List.foldl_cons, ih, mem_serve]

theorem mem_levelsAfter (m : Msg) (r : BlReplies) (mon : MonId) :
    mon ∈ levelsAfter fit s m r ↔ mon ∈ s.levels := by
  unfold levelsAfter
  split_ifs
  · exact mem_foldl_serve mon _ s.levels
  · -- Clightd has failed the calls
    rfl

/-- The levels before the first Set, told after a message as they are told before it. -/
theorem own_after (m : Msg) (r : BlReplies) :
    (s.own.or (if (issued fit s m r).isEmpty then none else some s.levels)).getD
      (levelsAfter fit s m r) = s.own.getD s.levels := by
  cases hown : s.own with
  | some own => rfl
  | none =>
    cases hissued : issued fit s m r with
    | nil =>
      -- no call, no change
      change levelsAfter fit s m r = s.levels
      unfold levelsAfter
      rw [hissued]
      exact ite_self _
    | cons k ks => rfl

/-- The levels that startup reads are those from before it. -/
theorem levelsAfter_startup {m : Msg} {r : BlReplies} (hw : Backlight.Waiting s.bl)
    (hbls : s.bl.bls = ∅) (hall : (Backlight.started s.cf m s.bl.ok).all = true)
    (hread : s.cf.bl.noAutoCalib = false ∨ s.cf.sens.specificCurves.keys ≠ [] ∨ r.setSent = false ∨
      ∀ e ∈ s.levels.entries, e.2 = 1) : levelsAfter fit s m r = s.levels := by
  have hissued : issued fit s m r = if s.cf.bl.noAutoCalib = true ∧
      s.cf.sens.specificCurves.keys = [] then [.set 1 0 0] else [] := by
    have hspec := (Backlight.beforeGet_spec { r with levels := [] }
      (c := Backlight.seen m s.ctx) hbls).2
    unfold issued
    rw [Backlight.handle_startup fit _ (c := s.ctx) hw hall, Backlight.startup_calls, hspec]
    rfl
  unfold levelsAfter
  rw [hissued]
  split_ifs with hsent hforced
  · -- full brightness is forced, so it is what the monitors have already
    obtain ⟨hcal, hkeys⟩ := hforced
    change AssocMap.mapValues (fun _ _ => 1) s.levels = s.levels
    apply AssocMap.mapValues_eq_self
    intro e he
    rcases hread with hno | hcurves | hfail | hfull
    · rw [hcal] at hno
      cases hno
    · exact absurd hkeys hcurves
    · rw [hsent] at hfail
      cases hfail
    · exact (hfull e he).symm
  · rfl
  · rfl

/-! ### Runs -/

/-- Before startup nothing is saved and nothing was commanded; from then on the level saved of a
monitor kept is its own. -/
structure Inv (s : RestoreRun) : Prop where
  phase : Backlight.Waiting s.bl ∧ s.bl.bls = ∅ ∧ s.own = none ∧ s.kept = [] ∨
    Backlight.Running s.bl
  plugged : ∀ mon ∈ s.kept, mon ∈ s.levels
  saved : ∀ mon ∈ s.kept, ∃ lv, s.bl.bls.lookup mon = some lv ∧
    (s.own.getD s.levels).lookup mon = some lv

theorem Inv.start (st : State) (cf : Conf) (levels : MonLevels) : Inv (.start st cf levels) where
  phase := .inl ⟨.init, rfl, rfl, rfl⟩
  plugged := fun _ hmon => absurd hmon List.not_mem_nil
  saved := fun _ hmon => absurd hmon List.not_mem_nil

theorem Inv.running (hi : Inv s) (hw : ¬s.bl.isWaiting = true) : Backlight.Running s.bl :=
  hi.phase.resolve_left fun hwait => hw hwait.1.isWaiting

/-- A step that leaves alone what was saved and what is the monitors' own. -/
theorem Inv.keep (hi : Inv s) (hphase : Backlight.Waiting t.bl ∧ t.bl.bls = ∅ ∧ t.own = none ∧
      t.kept = [] ∨ Backlight.Running t.bl) (hkept : t.kept = s.kept) (hbls : t.bl.bls = s.bl.bls)
    (hmem : ∀ mon, mon ∈ s.levels → mon ∈ t.levels)
    (hown : t.own.getD t.levels = s.own.getD s.levels) : Inv t where
  phase := hphase
  plugged mon hmon := hmem mon (hi.plugged mon (hkept ▸ hmon))
  saved mon hmon := by
    rw [hbls, hown]
    exact hi.saved mon (hkept ▸ hmon)

/-- Startup saves the levels that the monitors have. -/
theorem Inv.startup {m : Msg} {r : BlReplies} (hown : s.own = none)
    (hw : Backlight.Waiting s.bl) (hbls : s.bl.bls = ∅)
    (hall : (Backlight.started s.cf m s.bl.ok).all = true)
    (hc : ReadsOwn s (.receive m r true)) (hn : next fit s (.receive m r true) = some t) : Inv t := by
  obtain rfl := Option.some.inj hn
  have hstarts : s.startsUp m = true := by
    unfold startsUp
    rw [hw.isWaiting, hall]
    rfl
  have hlevels : levelsAfter fit s m r = s.levels :=
    levelsAfter_startup hw hbls hall (hc hstarts).2
  have he := Backlight.handle_startup fit { r with levels := AssocMap.pairs (levelsAfter fit s m r) }
    (c := s.ctx) hw hall
  refine ⟨.inr ?_, ?_, ?_⟩
  · change Backlight.Running (Backlight.handle fit
      { r with levels := AssocMap.pairs (levelsAfter fit s m r) } m s.ctx).loc
    rw [he]
    exact Backlight.startup_running _ hw.stack hw.paused
  · intro mon hmon
    change mon ∈ (if s.startsUp m then (levelsAfter fit s m r).keys else s.kept) at hmon
    rw [if_pos hstarts] at hmon
    exact hmon
  · intro mon hmon
    change mon ∈ (if s.startsUp m then (levelsAfter fit s m r).keys else s.kept) at hmon
    rw [if_pos hstarts, hlevels] at hmon
    obtain ⟨lv, hlv⟩ := Option.isSome_iff_exists.mp (AList.lookup_isSome.mpr hmon)
    refine ⟨lv, ?_, ?_⟩
    · change (Backlight.handle fit { r with levels := AssocMap.pairs (levelsAfter fit s m r) } m
        s.ctx).loc.bls.lookup mon = some lv
      have hempty := (Backlight.beforeGet_spec { r with levels := AssocMap.pairs s.levels }
        (c := Backlight.seen m s.ctx) hbls).1
      rw [he, Backlight.startup_bls, hlevels, hempty, AssocMap.lookup_foldl_pairs]
      exact hlv
    · rw [own_after, hown]
      exact hlv

theorem Inv.receive (hi : Inv s) {m : Msg} {r : BlReplies} {got : Bool}
    (hc : ReadsOwn s (.receive m r got)) (hn : next fit s (.receive m r got) = some t) : Inv t := by
  rcases hi.phase with ⟨hw, hbls, hown, hkept⟩ | hrun
  · -- by whether the message is the last one waited for
    cases hall : (Backlight.started s.cf m s.bl.ok).all with
    | true =>
      have hstarts : s.startsUp m = true := by
        unfold startsUp
        rw [hw.isWaiting, hall]
        rfl
      have hgot : got = true := (hc hstarts).1
      rw [hgot] at hc hn
      exact .startup hown hw hbls hall hc hn
    | false =>
      obtain rfl := Option.some.inj hn
      have hstarts : s.startsUp m = false := by
        unfold startsUp
        rw [hall]
        exact Bool.and_false _
      have hwaits := fun r' => Backlight.handle_waits fit r' (c := s.ctx) hw hall
      have hissued : issued fit s m r = [] := by
        unfold issued
        rw [(hwaits _).2]
        rfl
      have hkept' : (if s.startsUp m then (levelsAfter fit s m r).keys else s.kept) = s.kept := by
        rw [hstarts]
        rfl
      have hbls' : ∀ r', (Backlight.handle fit r' m s.ctx).loc.bls = s.bl.bls := by
        intro r'
        rw [(hwaits r').2]
        rfl
      refine hi.keep (.inl ⟨?_, (hbls' _).trans hbls, ?_, hkept'.trans hkept⟩) hkept' (hbls' _) ?_ ?_
      · change Backlight.Waiting (Backlight.handle fit
          { r with levels := if got then AssocMap.pairs (levelsAfter fit s m r) else [] } m
          s.ctx).loc
        rw [(hwaits _).2]
        exact (hwaits r).1
      · change s.own.or (if (issued fit s m r).isEmpty then none else some s.levels) = none
        rw [hown, hissued]
        rfl
      · intro mon hmon
        exact (mem_levelsAfter m r mon).mpr hmon
      · exact own_after m r
  · obtain rfl := Option.some.inj hn
    have hstarts : s.startsUp m = false := by
      unfold startsUp
      rw [hrun.not_waiting]
      rfl
    apply hi.keep
    · exact .inr (Backlight.handle_running fit _ m (c := s.ctx) hrun)
    · change (if s.startsUp m then (levelsAfter fit s m r).keys else s.kept) = s.kept
      rw [hstarts]
      rfl
    · exact Backlight.handle_bls fit _ m (c := s.ctx) hrun
    · intro mon hmon
      exact (mem_levelsAfter m r mon).mpr hmon
    · exact own_after m r

/-- A level that someone sets, before the first Set only to what it is already. -/
theorem Inv.levelChanged (hi : Inv s) {mon : MonId} {pct : ℚ}
    (hc : ReadsOwn s (.levelChanged mon pct)) (hn : next fit s (.levelChanged mon pct) = some t) :
    Inv t := by
  obtain rfl := Option.some.inj hn
  refine ⟨hi.phase, ?_, ?_⟩
  · intro m hm
    exact AssocMap.mem_mapValues.mpr (hi.plugged m hm)
  · intro m hm
    obtain ⟨lv, hbls, hown⟩ := hi.saved m hm
    refine ⟨lv, hbls, ?_⟩
    cases hset : s.own with
    | some own =>
      rw [hset] at hown
      exact hown
    | none =>
      -- before the first Set the level is what it was
      rw [hset] at hown
      change (AssocMap.mapValues (fun m old => if m = mon then pct else old) s.levels).lookup m =
        some lv
      rw [AssocMap.lookup_mapValues]
      change s.levels.lookup m = some lv at hown
      rw [hown, Option.map_some]
      split_ifs with hmon
      · rw [hmon] at hown hm
        exact (hc hset hm).symm.trans hown
      · rfl

/-- A step that tells only on one monitor, and it is none of those kept. -/
theorem Inv.elsewhere (hi : Inv s) {mon : MonId} (hphase : Backlight.Waiting t.bl ∧ t.bl.bls = ∅ ∧
      t.own = none ∧ t.kept = [] ∨ Backlight.Running t.bl)
    (hkept : ∀ m ∈ t.kept, m ∈ s.kept ∧ m ≠ mon) (hown : t.own = s.own)
    (hbls : ∀ m, m ≠ mon → t.bl.bls.lookup m = s.bl.bls.lookup m)
    (hlevels : ∀ m, m ≠ mon → t.levels.lookup m = s.levels.lookup m) : Inv t := by
  refine ⟨hphase, ?_, ?_⟩
  · intro m hm
    obtain ⟨hold, hne⟩ := hkept m hm
    rw [← AList.lookup_isSome, hlevels m hne, AList.lookup_isSome]
    exact hi.plugged m hold
  · intro m hm
    obtain ⟨hold, hne⟩ := hkept m hm
    obtain ⟨lv, hsaved, hlv⟩ := hi.saved m hold
    refine ⟨lv, (hbls m hne).trans hsaved, ?_⟩
    rw [hown]
    cases hset : s.own with
    | some own =>
      rw [hset] at hlv
      exact hlv
    | none =>
      rw [hset] at hlv
      exact (hlevels m hne).trans hlv

/-- A monitor that is plugged was not, so it is none of those kept. -/
theorem Inv.plug (hi : Inv s) {mon : MonId} {pct : ℚ} (hn : next fit s (.plug mon pct) = some t) :
    Inv t := by
  simp only [RestoreRun.next] at hn
  by_cases hmon : mon ∈ s.levels
  · rw [if_pos hmon] at hn
    cases hn
  rw [if_neg hmon] at hn
  obtain rfl := Option.some.inj hn
  have hkept : ∀ m ∈ s.kept, m ∈ s.kept ∧ m ≠ mon :=
    fun m hm => ⟨hm, fun he => hmon (he ▸ hi.plugged m hm)⟩
  have hlevels : ∀ m, m ≠ mon → (s.levels.insert mon pct).lookup m = s.levels.lookup m :=
    fun m hne => AList.lookup_insert_ne hne
  by_cases hw : s.bl.isWaiting = true
  · rw [if_pos hw]
    exact hi.elsewhere hi.phase hkept rfl (fun _ _ => rfl) hlevels
  · rw [if_neg hw]
    have hframe := Backlight.frame_onInterfaceAdded (R := []) (P := fun _ => True)
      (fun _ _ => trivial) (fun _ => trivial) mon s.ctx
    refine hi.elsewhere (.inr (hframe.running (hi.running hw))) hkept rfl ?_ hlevels
    intro m hne
    change (Backlight.onInterfaceAdded mon s.ctx).loc.bls.lookup m = s.bl.bls.lookup m
    unfold Backlight.onInterfaceAdded
    rw [Backlight.scheduleSync_bls]
    exact AList.lookup_insert_ne hne

theorem Inv.unplug (hi : Inv s) {mon : MonId} (hn : next fit s (.unplug mon) = some t) : Inv t := by
  simp only [RestoreRun.next] at hn
  obtain ⟨c, hc, rfl⟩ := Option.map_eq_some_iff.mp hn
  have hkept : ∀ m ∈ s.kept.filter (· ≠ mon), m ∈ s.kept ∧ m ≠ mon := by
    intro m hm
    obtain ⟨hold, hne⟩ := List.mem_filter.mp hm
    exact ⟨hold, of_decide_eq_true hne⟩
  have hlevels : ∀ m, m ≠ mon → (s.levels.erase mon).lookup m = s.levels.lookup m :=
    fun m hne => AList.lookup_erase_ne hne
  by_cases hw : s.bl.isWaiting = true
  · rw [if_pos hw] at hc
    obtain rfl := Option.some.inj hc
    refine hi.elsewhere ?_ hkept rfl (fun _ _ => rfl) hlevels
    rcases hi.phase with ⟨hwait, hbls, hown, hnone⟩ | hrun
    · refine .inl ⟨hwait, hbls, hown, ?_⟩
      change s.kept.filter (· ≠ mon) = []
      rw [hnone]
      rfl
    · exact .inr hrun
  · rw [if_neg hw] at hc
    have hframe := Backlight.frame_onInterfaceRemoved (R := []) (P := fun _ => True)
      (fun _ _ => trivial) (fun _ => trivial) hc
    refine hi.elsewhere (.inr (hframe.running (hi.running hw))) hkept rfl ?_ hlevels
    intro m hne
    change c.loc.bls.lookup m = s.bl.bls.lookup m
    rw [Backlight.onInterfaceRemoved_bls hc]
    exact AList.lookup_erase_ne hne

theorem Inv.next (hi : Inv s) {e : RestoreEvent} (hc : ReadsOwn s e)
    (hn : next fit s e = some t) : Inv t := by
  cases e with
  | receive m r got => exact hi.receive hc hn
  | levelChanged mon pct => exact hi.levelChanged hc hn
  | plug mon pct => exact hi.plug hn
  | unplug mon => exact hi.unplug hn
  | others st cf =>
    obtain rfl := Option.some.inj hn
    exact ⟨hi.phase, hi.plugged, hi.saved⟩
  | sensorChanged r =>
    simp only [RestoreRun.next] at hn
    split_ifs at hn with hw
    obtain rfl := Option.some.inj hn
    have hframe := Backlight.frame_onSensorChange (R := [.sensor]) (P := fun _ => True) (by decide)
      (fun _ _ => trivial) r s.ctx
    exact hi.keep (.inr (hframe.running (hi.running hw))) rfl
      (Backlight.silent_onSensorChange r s.ctx).bls (fun _ => id) rfl
  | blChanged mon pct =>
    simp only [RestoreRun.next] at hn
    split_ifs at hn with hw
    obtain rfl := Option.some.inj hn
    have hframe := Backlight.frame_onBlChanged (R := []) (P := fun _ => True) (fun _ _ => trivial)
      mon pct s.ctx
    exact hi.keep (.inr (hframe.running (hi.running hw))) rfl
      (Backlight.onBlChanged_bls mon pct s.ctx) (fun _ => id) rfl

/-- BACKLIGHT restores the level saved of each monitor. -/
theorem issued_loopStopped (hrun : Backlight.Running s.bl) (hrestore : s.cf.bl.restore = true)
    (mon : MonId) (r : BlReplies) :
    (issued fit s (.systemUpd .loopStopped) r).filterMap (BlCall.levelFor mon) =
      (s.bl.bls.lookup mon).toList := by
  have hstop : issued fit s (.systemUpd .loopStopped) r =
      (Backlight.setEachBrightness none 0 0 s.ctx).calls := by
    have hloop : Backlight.onLoopStopped s.ctx = Backlight.setEachBrightness none 0 0 s.ctx :=
      if_pos hrestore
    rw [← hloop]
    unfold issued
    -- both receivers do the same
    rcases Backlight.handle_of_running fit { r with levels := [] } (.systemUpd .loopStopped)
      (c := s.ctx) hrun with he | he
    · rw [he]
      rfl
    · rw [he]
      rfl
  rw [hstop, ← AssocMap.filterMap_entries]
  change ([] ++ s.bl.bls.entries.map _).filterMap _ = _
  rw [List.nil_append, List.filterMap_map]
  rfl

/-- In every run in which startup reads the monitors' own levels, and nobody changes one between
that and the first Set, the monitors kept get back their own levels at LOOP_STOPPED. -/
theorem restores_own {s : RestoreRun} (hs : (restoreRun fit).ReachableBy ReadsOwn s) :
    RestoresOwn fit s := by
  have hi : Inv s := by
    refine Machine.ReachableBy.invariant (I := Inv) ?_ ?_ hs
    · rintro _ ⟨st, cf, levels, rfl⟩
      exact .start st cf levels
    · exact fun _ _ _ hi hc hn => hi.next hc hn
  intro hrestore mon hmon r
  obtain ⟨lv, hsaved, hown⟩ := hi.saved mon hmon
  -- a monitor is kept only from startup on
  have hrun : Backlight.Running s.bl := by
    rcases hi.phase with ⟨-, -, -, hnone⟩ | hrun
    · rw [hnone] at hmon
      cases hmon
    · exact hrun
  refine ⟨lv, hown, ?_⟩
  rw [issued_loopStopped hrun hrestore, hsaved]
  rfl

instance (s : RestoreRun) : ∀ e : RestoreEvent, Decidable (ReadsOwn s e)
  | .receive m r got => inferInstanceAs (Decidable (s.startsUp m = true → got = true ∧
      (s.cf.bl.noAutoCalib = false ∨ s.cf.sens.specificCurves.keys ≠ [] ∨ r.setSent = false ∨
        ∀ e ∈ s.levels.entries, e.2 = 1)))
  | .levelChanged mon pct => inferInstanceAs (Decidable
      (s.own = none → mon ∈ s.kept → s.levels.lookup mon = some pct))
  | .sensorChanged _ | .blChanged _ _ | .plug _ _ | .unplug _ | .others _ _ => isTrue trivial

def identity : Fit := fun _ => (0, 1, 0)

def restoreConf (noAutoCalib : Bool) : Conf :=
  { Conf.default with bl := { Conf.default.bl with noAutoCalib := noAutoCalib, restore := true } }

/-- On AC by day with the lid open, and one monitor at half of its brightness. -/
def oneMonitor (noAutoCalib : Bool) : RestoreRun :=
  .start { initState Conf.default with
      acState := some .onAc, dayTime := some .day, lidState := some .opened }
    (restoreConf noAutoCalib) (AList.singleton "mon" (1/2))

theorem init_oneMonitor (noAutoCalib : Bool) :
    (restoreRun identity).init (oneMonitor noAutoCalib) := ⟨_, _, _, rfl⟩

def startsOnAc : List RestoreEvent :=
  let r : BlReplies := { sensor := true, capture := none, levels := [], setSent := true }
  [.receive (.upowerUpd none .onAc) r true, .receive (.lidUpd none .opened) r true,
    .receive (.daytimeUpd none .day) r true, .receive (.screenBrUpd 0 (1/2)) r true]

/-- A second monitor is plugged after startup, and a request sets both to another level. -/
def plugAndSet : List RestoreEvent :=
  startsOnAc ++ [.plug "other" (3/4), .receive (.blReq ⟨1/4, 0, 0, 0⟩)
    { sensor := true, capture := none, levels := [], setSent := true } true]

theorem restores_own_set : ∃ s,
    (restoreRun identity).run (oneMonitor false) plugAndSet = some s ∧ s.kept = ["mon"] ∧
      s.levels.lookup "mon" = some (1/4) ∧ RestoresOwn identity s := by
  have hrun : ((restoreRun identity).run (oneMonitor false) plugAndSet).any (fun s =>
      s.kept = ["mon"] ∧ s.levels.lookup "mon" = some (1/4)) = true := by decide +kernel
  obtain ⟨s, hs, hp⟩ := (Option.any_eq_true _ _).mp hrun
  have hby : (restoreRun identity).RunBy ReadsOwn (oneMonitor false) plugAndSet := by decide +kernel
  obtain ⟨hkept, hlevel⟩ := of_decide_eq_true hp
  exact ⟨s, hs, hkept, hlevel,
    restores_own (Machine.ReachableBy.of_run _ (.init (init_oneMonitor false)) hby hs)⟩

/-- With no automatic calibration startup reads the full brightness that it has just forced. -/
theorem restores_forced_level :
    ¬ ∀ s : RestoreRun, (restoreRun identity).Reachable s → RestoresOwn identity s := by
  intro h
  let r : BlReplies := { sensor := true, capture := none, levels := [], setSent := true }
  have hrun : ((restoreRun identity).run (oneMonitor true) startsOnAc).any (fun s =>
      s.cf.bl.restore = true ∧ s.kept = ["mon"] ∧
        (s.own.getD s.levels).lookup "mon" = some (1/2) ∧
        (issued identity s (.systemUpd .loopStopped) r).filterMap (BlCall.levelFor "mon") = [1]) =
      true := by decide +kernel
  obtain ⟨s, hs, hp⟩ := (Option.any_eq_true _ _).mp hrun
  obtain ⟨hrestore, hkept, hown, hissued⟩ := of_decide_eq_true hp
  have hreach := Machine.reachable_of_run (init_oneMonitor true) hs
  obtain ⟨lv, hlv, hback⟩ := h s hreach hrestore "mon" (hkept ▸ List.mem_singleton_self _) r
  rw [hissued] at hback
  have hone : (1 : ℚ) = lv := (List.cons.inj hback).1
  rw [hown, ← hone] at hlv
  exact absurd (Option.some.inj hlv) (by norm_num)

end RestoreRun
end Clight
