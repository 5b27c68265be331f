import Clight.History
import Clight.PauseFacts

/-! What a dimmed display asks of BACKLIGHT, and whether BACKLIGHT sends it. DISPLAY changes
the display state before its request is handled, and a paused BACKLIGHT handles no request
while the display is dimmed. -/
namespace Clight

/-! ### Levels on the bus -/

def BlCall.sets (pct : ℚ) : BlCall → Bool
  | .set pct' _ _ => pct' = pct
  | .setMonitor _ _ _ _ => false

def BlCall.setsMonitor (mon : MonId) (pct : ℚ) : BlCall → Bool
  | .set _ _ _ => false
  | .setMonitor mon' pct' _ _ => mon' = mon && pct' = pct

/-- A level has been sent to Clightd. With overrides each monitor is sent its own, and there must
be one. -/
def sentLevel (pct : ℚ) (c : BlCtx) (calls : List BlCall) : Bool :=
  if c.cf.sens.specificCurves.keys = [] then calls.any (BlCall.sets pct)
  else !c.loc.bls.entries.isEmpty && c.loc.bls.entries.all fun e =>
    calls.any (BlCall.setsMonitor e.1 (Backlight.monitorLevel c (some pct) e.1 e.2))

namespace Backlight

theorem sentLevel_setBacklightLevel (r : BlReplies) (pct : ℚ) (isSmooth : Bool) (step : ℚ)
    (timeout : ℤ) {c : BlCtx} (hknown : c.cf.sens.specificCurves.keys ≠ [] → c.loc.bls.entries ≠ []) :
    sentLevel pct c (setBacklightLevel r pct isSmooth step timeout c).calls = true := by
  unfold sentLevel setBacklightLevel
  dsimp only
  generalize (if isSmooth then step else 0) = step'
  generalize (if isSmooth then timeout else 0) = timeout'
  by_cases hkeys : c.cf.sens.specificCurves.keys = []
  · rw [if_pos hkeys, if_neg (not_not_intro hkeys)]
    have hcalls : (if (r.setSent && isSmooth) = true then
        publishBlUpd pct true step' timeout' (c.call (.set pct step' timeout'))
      else c.call (.set pct step' timeout')).calls = c.calls ++ [.set pct step' timeout'] := by
      split_ifs
      · rfl
      · rfl
    rw [hcalls]
    simp [BlCall.sets]
  · have hmonitor : (!c.loc.bls.entries.isEmpty) = true := by simpa using hknown hkeys
    rw [if_neg hkeys, if_pos hkeys, hmonitor, Bool.true_and, List.all_eq_true]
    intro e he
    refine List.any_eq_true.mpr ⟨_, List.mem_append_right _ (List.mem_map_of_mem he), ?_⟩
    simp [BlCall.setsMonitor]

/-- A request in range is carried out, unless BACKLIGHT is paused and the display is not on, or
knows no monitor to override. -/
theorem handle_blReq_sent (fit : Fit) (r : BlReplies) (up : BlUpd) {c : BlCtx} (h : Running c.loc)
    (hopen : c.st.displayBusy = true → c.loc.paused.isUnpaused = true)
    (hknown : c.cf.sens.specificCurves.keys ≠ [] → c.loc.bls.entries ≠ [])
    (hnew : up.new ∈ Set.Icc (0 : ℚ) 1) :
    sentLevel up.new c (handle fit r (.blReq up) c).calls = true := by
  have hreq : ∀ accept, accept = true → sentLevel up.new c (onBlReq r accept up c).calls = true := by
    rintro accept rfl
    have hvalid := (validateBacklight_accepts c.cf c.st up).mpr hnew
    unfold onBlReq
    dsimp only
    rw [hvalid, Bool.and_true, if_pos rfl, validateBacklight_new]
    exact sentLevel_setBacklightLevel r up.new _ _ _ hknown
  have hstack := h.stack
  cases hu : c.loc.paused.isUnpaused with
  | true =>
    rw [hu] at hstack
    have hreceive : handle fit r (.blReq up) c = onBlReq r true up c := by
      unfold handle
      rw [hstack]
      rfl
    rw [hreceive]
    exact hreq true rfl
  | false =>
    rw [hu] at hstack
    have hpaused : handle fit r (.blReq up) c = onBlReq r (!c.st.displayBusy) up c := by
      unfold handle
      rw [hstack]
      rfl
    have hon : c.st.displayBusy = false := by
      rw [Bool.eq_false_iff]
      intro hb
      rw [hopen hb] at hu
      cases hu
    rw [hpaused]
    apply hreq
    rw [hon]
    rfl

end Backlight

/-! ### Requests to DISPLAY -/

namespace Display

/-- Dimming saves the level and asks for the dimmed one. -/
theorem onDisplayReq_dim {c : DisplayCtx} (hv : validateDisplay c.st 1 = true)
    (hlt : c.cf.dim.dimmedPct < c.st.currentBlPct) :
    (onDisplayReq 1 false c).loc.oldPct = c.st.currentBlPct ∧
      (onDisplayReq 1 false c).loc.dimmerReq.new = c.cf.dim.dimmedPct ∧
      .blReqDimmer ∈ (onDisplayReq 1 false c).out := by
  have hdim : change 1 false c = dimmerPublishBlReq c.cf.dim.dimmedPct .enter
      { c with st := c.st.setDisplay displayDimmed, loc := { c.loc with oldPct := c.st.currentBlPct } } := by
    change onDimmed false c = _
    unfold onDimmed
    dsimp only
    exact if_pos ⟨rfl, hlt⟩
  unfold onDisplayReq
  rw [if_pos hv]
  dsimp only
  rw [hdim]
  refine ⟨rfl, rfl, ?_⟩
  simp [dimmerPublishBlReq, Ctx.publish, Ctx.call]

/-- Leaving the dimmed state asks for the level that was saved. -/
theorem onDisplayReq_undim {new : ℤ} {c : DisplayCtx} (hv : validateDisplay c.st new = true)
    (h1 : new ≠ 1) (h2 : new ≠ 2) (hdim : c.st.isDimmed = true) (hold : 0 ≤ c.loc.oldPct) :
    (onDisplayReq new false c).loc.dimmerReq.new = c.loc.oldPct ∧
      .blReqDimmer ∈ (onDisplayReq new false c).out := by
  have hoff : (leaveOff false c).loc = c.loc ∧ (leaveOff false c).st.isDimmed = true := by
    unfold leaveOff
    by_cases hoff : c.st.isOff = true
    · rw [if_pos hoff]
      refine ⟨rfl, ?_⟩
      change (c.st.displayState &&& ~~~displayOff).getLsbD 0 = true
      rw [BitVec.getLsbD_and]
      exact (Bool.and_true _).trans hdim
    · rw [if_neg hoff]
      exact ⟨rfl, hdim⟩
  have hchange : change new false c = leaveDimmed false (leaveOff false c) := by
    unfold change
    rw [if_neg h1, if_neg h2]
  unfold onDisplayReq
  rw [if_pos hv]
  dsimp only
  rw [hchange]
  unfold leaveDimmed
  dsimp only
  rw [if_pos hoff.2, hoff.1, if_pos ⟨rfl, hold⟩]
  refine ⟨rfl, ?_⟩
  simp [dimmerPublishBlReq, Ctx.publish, Ctx.call]

/-- Switching the display off saves nothing and asks for nothing. -/
theorem onDisplayReq_off (noBacklight : Bool) (c : DisplayCtx) :
    (onDisplayReq 2 noBacklight c).loc = c.loc := by
  have hoff : (change 2 noBacklight c).loc = c.loc := by
    change (onOff noBacklight c).loc = c.loc
    unfold onOff
    dsimp only
    split_ifs <;> rfl
  unfold onDisplayReq
  split_ifs
  · exact hoff
  · rfl

end Display

/-! ### The requests and their levels, in every run -/

/-- What the display requests so far ask of a BACKLIGHT that has started. -/
structure Dimming where
  /-- The level in force when the display was dimmed. -/
  saved : Option ℚ
  /-- The level that the last request asks for. -/
  asked : Option ℚ
  /-- BACKLIGHT has sent that level since. -/
  sent : Bool

namespace Dimming
variable (fit : Fit)

def start : Dimming where
  saved := none
  asked := none
  sent := false

/-- BACKLIGHT has started. -/
def listens (s : Modules) : Bool := !s.gone .backlight && !s.blCtx.loc.isWaiting

def ask (s : Modules) (pct : Option ℚ) : Option ℚ := if listens s then pct else none

/-- An accepted request. Dimming asks for the dimmed level if the level is above it, and
leaving the dimmed state asks for the level back. -/
def accepted (new : ℤ) (noBacklight : Bool) (s : Modules) (d : Dimming) : Dimming :=
  if new = 1 then
    if noBacklight = false ∧ s.cf.dim.dimmedPct < s.st.currentBlPct then
      { saved := some s.st.currentBlPct, asked := ask s (some s.cf.dim.dimmedPct), sent := false }
    else { saved := none, asked := none, sent := false }
  else if new = 2 then { d with asked := none, sent := false }
  else
    { saved := none
      asked := if s.st.isDimmed && !noBacklight then ask s d.saved else none
      sent := false }

/-- The calls of BACKLIGHT's receiver on the next message of its mailbox. -/
def blCalls (rep : ModReplies) (s : Modules) : List BlCall :=
  match s.box .backlight with
  | m :: _ => (Backlight.handle fit rep.bl (s.resolve m) s.blCtx).calls
  | [] => []

def record (d : Dimming) (s : Modules) (e : ModulesEvent) (_ : Modules) : Dimming :=
  match e with
  | .displayReq new noBacklight =>
    if validateDisplay s.st new then accepted new noBacklight s d else d
  | .deliver .backlight rep =>
    { d with sent := d.sent || d.asked.any fun pct => sentLevel pct s.blCtx (blCalls fit rep s) }
  | _ => d

end Dimming

/-- The six modules, with what the display requests ask of BACKLIGHT. -/
def dimming (fit : Fit) : Machine (Modules × Dimming) ModulesEvent :=
  (modules fit).withHistory .start (Dimming.record fit)

namespace Dimming
variable {fit : Fit} {s t : Modules} {d : Dimming}

/-- DIMMER's request is on its way, with a level that BACKLIGHT accepts. -/
structure InFlight (s : Modules) (pct : ℚ) : Prop where
  running : Backlight.Running (s.loc .backlight)
  here : s.gone .backlight = false
  queued : .blReqDimmer ∈ s.box .backlight
  level : s.display.dimmerReq.new = pct
  range : pct ∈ Set.Icc (0 : ℚ) 1

structure Inv (s : Modules) (d : Dimming) : Prop where
  phase : PausableMod.Waiting .backlight (s.loc .backlight) ∨ Backlight.Running (s.loc .backlight)
  saved : ∀ pct, d.saved = some pct → s.display.oldPct = pct ∧ pct ∈ Set.Icc (0 : ℚ) 1
  asked : ∀ pct, d.asked = some pct → d.sent = false → InFlight s pct

/-- The dimmed level is a fraction, and so is the level that Clightd reports. -/
def Fractions (s : Modules) : ModulesEvent → Prop
  | .displayReq _ _ => s.cf.dim.dimmedPct ∈ Set.Icc (0 : ℚ) 1 ∧ s.st.currentBlPct ≤ 1
  | _ => True

/-- BACKLIGHT is not paused when DIMMER's request reaches it with the display dimmed or off. -/
def Unpaused (s : Modules) : ModulesEvent → Prop
  | .deliver .backlight _ => (s.box .backlight).head? = some .blReqDimmer →
      s.st.displayBusy = true → (Backlight.paused (s.loc .backlight)).isUnpaused = true
  | _ => True

/-- With overrides, BACKLIGHT knows a monitor when DIMMER's request reaches it. -/
def KnowsMonitor (s : Modules) : ModulesEvent → Prop
  | .deliver .backlight _ => (s.box .backlight).head? = some .blReqDimmer →
      s.blCtx.cf.sens.specificCurves.keys ≠ [] → s.blCtx.loc.bls.entries ≠ []
  | _ => True

instance (s : Modules) : (e : ModulesEvent) → Decidable (Fractions s e)
  | .displayReq _ _ => instDecidableAnd
  | .deliver _ _ | .timer _ _ _ | .signal _ | .publish _ | .world _ | .properties _
  | .inhibitReq _ | .suspendReq _ | .delayedResume => isTrue trivial

instance (s : Modules) : (e : ModulesEvent) → Decidable (Unpaused s e)
  | .deliver .backlight _ => inferInstanceAs (Decidable (_ → _ → _))
  | .deliver .screen _ | .deliver .keyboard _ | .deliver .dimmer _ | .deliver .dpms _
  | .deliver .gamma _ | .timer _ _ _ | .signal _ | .publish _ | .world _ | .properties _
  | .displayReq _ _ | .inhibitReq _ | .suspendReq _ | .delayedResume => isTrue trivial

instance (s : Modules) : (e : ModulesEvent) → Decidable (KnowsMonitor s e)
  | .deliver .backlight _ => inferInstanceAs (Decidable (_ → _ → _))
  | .deliver .screen _ | .deliver .keyboard _ | .deliver .dimmer _ | .deliver .dpms _
  | .deliver .gamma _ | .timer _ _ _ | .signal _ | .publish _ | .world _ | .properties _
  | .displayReq _ _ | .inhibitReq _ | .suspendReq _ | .delayedResume => isTrue trivial

theorem Inv.init (h : Modules.Init s) : Inv s .start where
  phase := .inl (h.waiting .backlight)
  saved := nofun
  asked := nofun

/-- Others only add to BACKLIGHT's mailbox. -/
theorem Inv.mono (h : Inv s d) (hloc : t.loc .backlight = s.loc .backlight)
    (hgone : t.gone .backlight = s.gone .backlight) (hdisplay : t.display = s.display)
    (hbox : s.gone .backlight = false → s.box .backlight ⊆ t.box .backlight) : Inv t d where
  phase := by
    rw [hloc]
    exact h.phase
  saved := by
    rw [hdisplay]
    exact h.saved
  asked pct hp hs := by
    have hin := h.asked pct hp hs
    refine ⟨?_, hgone.trans hin.here, hbox hin.here hin.queued, ?_, hin.range⟩
    · rw [hloc]
      exact hin.running
    · rw [hdisplay]
      exact hin.level

theorem subset_publish (ms : List Msg) (hg : s.gone .backlight = false) :
    s.box .backlight ⊆ (Modules.publish ms s).box .backlight :=
  fun _ hm => Modules.mem_publish_box hg (.inl hm)

/-- A step of another module. -/
theorem Inv.onOther (h : Inv s d) {y : PausableMod} (hy : y ≠ .backlight) (r : Handled y.Loc) :
    Inv (Modules.onModule y r s) d := by
  refine h.mono ?_ rfl rfl ?_
  · exact Function.update_of_ne hy.symm _ _
  · intro hg
    exact subset_publish (s := { s with loc := Function.update s.loc y r.loc, st := r.st, cf := r.cf })
      r.out hg

/-- A step of BACKLIGHT itself. -/
theorem Inv.onBacklight (h : Inv s d) {r : Handled (PausableMod.Loc .backlight)}
    (hphase : PausableMod.Waiting .backlight r.loc ∨ Backlight.Running r.loc)
    (hrun : Backlight.Running (s.loc .backlight) → Backlight.Running r.loc) :
    Inv (Modules.onModule .backlight r s) d := by
  have hloc : (Modules.onModule .backlight r s).loc .backlight = r.loc := by
    change Function.update s.loc .backlight r.loc .backlight = r.loc
    exact Function.update_self ..
  refine ⟨?_, h.saved, ?_⟩
  · rw [hloc]
    exact hphase
  · intro pct hp hs
    have hin := h.asked pct hp hs
    refine ⟨?_, hin.here, ?_, hin.level, hin.range⟩
    · rw [hloc]
      exact hrun hin.running
    · exact subset_publish
        (s := { s with loc := Function.update s.loc .backlight r.loc, st := r.st, cf := r.cf })
        r.out hin.here hin.queued

/-! ### One kind of step at a time -/

theorem Inv.running (h : Inv s d) (hl : listens s = true) :
    Backlight.Running (s.loc .backlight) ∧ s.gone .backlight = false := by
  simp only [listens, Bool.and_eq_true, Bool.not_eq_true'] at hl
  refine ⟨h.phase.resolve_left ?_, hl.1⟩
  intro hwait
  have hw : s.blCtx.loc.isWaiting = true := hwait.1.isWaiting
  rw [hl.2] at hw
  cases hw

/-- DISPLAY has published DIMMER's request. -/
theorem Inv.inFlight (h : Inv s d) (hl : listens s = true) {c : DisplayCtx} {pct : ℚ}
    (hnew : c.loc.dimmerReq.new = pct) (hout : .blReqDimmer ∈ c.out) (hpct : pct ∈ Set.Icc (0 : ℚ) 1) :
    InFlight (Modules.publish c.out { s with display := c.loc, st := c.st }) pct := by
  obtain ⟨hrun, hg⟩ := h.running hl
  exact ⟨hrun, hg, Modules.mem_publish_box hg (.inr ⟨hout, rfl⟩), hnew, hpct⟩

theorem ask_eq_some {o : Option ℚ} {pct : ℚ} (h : ask s o = some pct) : listens s = true ∧ o = some pct := by
  unfold ask at h
  split_ifs at h with hl
  exact ⟨hl, h⟩

theorem Inv.displayReq (h : Inv s d) {new : ℤ} {noBacklight : Bool} {c : DisplayCtx}
    (hlevels : s.cf.dim.dimmedPct ∈ Set.Icc (0 : ℚ) 1 ∧ s.st.currentBlPct ≤ 1)
    (hc : c = Display.onDisplayReq new noBacklight (PausableMod.ctx s.display s.st s.cf)) :
    Inv (Modules.publish c.out { s with display := c.loc, st := c.st })
      (if validateDisplay s.st new then accepted new noBacklight s d else d) := by
  obtain ⟨hdimmed, hcur⟩ := hlevels
  by_cases hv : validateDisplay s.st new = true
  · rw [if_pos hv]
    unfold accepted
    split_ifs with h1 hdim h2 hback
    · -- the display is dimmed
      subst h1
      obtain ⟨rfl, hlt⟩ := hdim
      obtain ⟨hold, hnew, hout⟩ := Display.onDisplayReq_dim (c := PausableMod.ctx s.display s.st s.cf) hv hlt
      rw [← hc] at hold hnew hout
      refine ⟨h.phase, ?_, ?_⟩
      · rintro _ ⟨rfl⟩
        exact ⟨hold, (hdimmed.1.trans hlt.le), hcur⟩
      · intro pct hp _
        obtain ⟨hl, hpct⟩ := ask_eq_some hp
        obtain rfl := Option.some.inj hpct
        exact h.inFlight hl hnew hout hdimmed
    · exact ⟨h.phase, nofun, nofun⟩
    · subst h2
      refine ⟨h.phase, ?_, nofun⟩
      have hloc : c.loc = s.display := by
        rw [hc]
        exact Display.onDisplayReq_off noBacklight _
      intro pct hp
      change c.loc.oldPct = pct ∧ _
      rw [hloc]
      exact h.saved pct hp
    · -- the display comes back on
      refine ⟨h.phase, nofun, ?_⟩
      intro pct hp _
      obtain ⟨hl, hsaved⟩ := ask_eq_some hp
      obtain ⟨hold, hrange⟩ := h.saved pct hsaved
      obtain ⟨hdim, hnb⟩ := Bool.and_eq_true_iff.mp hback
      obtain rfl : noBacklight = false := by simpa using hnb
      have h0 : 0 ≤ s.display.oldPct := by
        rw [hold]
        exact hrange.1
      obtain ⟨hnew, hout⟩ := Display.onDisplayReq_undim (c := PausableMod.ctx s.display s.st s.cf)
        hv h1 h2 hdim h0
      rw [← hc] at hnew hout
      exact h.inFlight hl (hnew.trans hold) hout hrange
    · exact ⟨h.phase, nofun, nofun⟩
  · -- a request that is not accepted changes nothing
    have hsame : c = PausableMod.ctx s.display s.st s.cf := by
      rw [hc]
      exact if_neg hv
    rw [if_neg hv, hsame]
    exact h.mono rfl rfl rfl fun hg => subset_publish (s := s) [] hg

theorem validated_of_ne {y : PausableMod} (hy : y ≠ .backlight) (s : Modules) (m : Msg) :
    s.validated y m = s.display := by
  cases y with
  | backlight => exact absurd rfl hy
  | _ => rfl

theorem validated_level (s : Modules) (y : PausableMod) (m : Msg) :
    (s.validated y m).oldPct = s.display.oldPct ∧
      (s.validated y m).dimmerReq.new = s.display.dimmerReq.new := by
  unfold Modules.validated
  split
  · split_ifs
    · exact ⟨rfl, rfl⟩
    · exact ⟨rfl, validateBacklight_new s.cf s.st s.display.dimmerReq⟩
  · exact ⟨rfl, rfl⟩

/-- BACKLIGHT takes a message: if it is DIMMER's request, the level is sent. -/
theorem Inv.take (h : Inv s d) {rep : ModReplies} {m : Msg} {box : List Msg}
    (hheard : Unpaused s (.deliver .backlight rep)) (hknown : KnowsMonitor s (.deliver .backlight rep))
    (hbox : s.box .backlight = m :: box) :
    Inv { s with box := Function.update s.box .backlight box, display := s.validated .backlight m }
      (record fit d s (.deliver .backlight rep) t) := by
  obtain ⟨hold, hnew⟩ := validated_level s .backlight m
  have hcalls : blCalls fit rep s = (Backlight.handle fit rep.bl (s.resolve m) s.blCtx).calls := by
    unfold blCalls
    rw [hbox]
  refine ⟨h.phase, ?_, ?_⟩
  · intro pct hp
    change (s.validated .backlight m).oldPct = pct ∧ _
    rw [hold]
    exact h.saved pct hp
  · intro pct hp hs
    have hp' : d.asked = some pct := hp
    have hsent : (d.sent || d.asked.any fun pct => sentLevel pct s.blCtx (blCalls fit rep s)) = false := hs
    rw [hp', Option.any_some, Bool.or_eq_false_iff] at hsent
    have hin := h.asked pct hp' hsent.1
    refine ⟨hin.running, hin.here, ?_, hnew.trans hin.level, hin.range⟩
    have hrest : Function.update s.box .backlight box .backlight = box := Function.update_self ..
    change _ ∈ Function.update s.box .backlight box .backlight
    rw [hrest]
    have hmem := hin.queued
    rw [hbox] at hmem
    rcases List.mem_cons.mp hmem with rfl | hmem
    · -- it is DIMMER's request, which would have been carried out
      have hopen : s.blCtx.st.displayBusy = true → s.blCtx.loc.paused.isUnpaused = true :=
        hheard (congrArg List.head? hbox)
      have hcarried := Backlight.handle_blReq_sent fit rep.bl s.display.dimmerReq (c := s.blCtx)
        hin.running hopen (hknown (congrArg List.head? hbox)) (hin.level ▸ hin.range)
      rw [hin.level] at hcarried
      rw [hcalls] at hsent
      exact absurd (hcarried.symm.trans hsent.2) (by decide)
    · exact hmem

/-- A module takes the next message of its mailbox. -/
theorem Inv.deliver (h : Inv s d) {y : PausableMod} {rep : ModReplies}
    (hheard : Unpaused s (.deliver y rep)) (hknown : KnowsMonitor s (.deliver y rep))
    (hn : Modules.next fit s (.deliver y rep) = some t) :
    Inv t (record fit d s (.deliver y rep) t) := by
  simp only [Modules.next] at hn
  split at hn
  · cases hn
  rename_i m box hbox
  by_cases hy : y = .backlight
  · subst hy
    have htake : Inv _ (record fit d s (.deliver .backlight rep) t) := h.take hheard hknown hbox
    split at hn
    · rename_i hh
      cases hh
    · rename_i r hh
      obtain rfl := Option.some.inj hn
      have hphase := (Modules.handle_phase h.phase hh).1
      refine htake.onBacklight hphase ?_
      intro hrun
      obtain rfl := Option.some.inj hh
      exact Backlight.handle_running fit rep.bl _ hrun
  · have hrecord : record fit d s (.deliver y rep) t = d := by
      cases y with
      | backlight => exact absurd rfl hy
      | _ => rfl
    have hne : ∀ b, Function.update s.box y b .backlight = s.box .backlight :=
      fun b => Function.update_of_ne (Ne.symm hy) _ _
    rw [hrecord]
    split at hn
    · obtain rfl := Option.some.inj hn
      refine h.mono rfl ?_ rfl ?_
      · exact Function.update_of_ne (Ne.symm hy) _ _
      · intro _
        change _ ⊆ Function.update (Function.update s.box y box) y [] .backlight
        rw [Function.update_of_ne (Ne.symm hy), hne]
        exact List.Subset.refl _
    · rename_i r hh
      obtain rfl := Option.some.inj hn
      refine Inv.onOther ?_ hy r
      refine h.mono rfl rfl (validated_of_ne hy s m) ?_
      intro _
      change _ ⊆ Function.update s.box y box .backlight
      rw [hne]
      exact List.Subset.refl _

theorem Inv.timer (h : Inv s d) {y : PausableMod} {fd : Fd} {rep : ModReplies}
    (hn : Modules.next fit s (.timer y fd rep) = some t) : Inv t d := by
  simp only [Modules.next] at hn
  split_ifs at hn
  obtain ⟨r, hh, rfl⟩ := Option.map_eq_some_iff.mp hn
  by_cases hy : y = .backlight
  · subst hy
    refine h.onBacklight (Modules.handle_phase h.phase hh).1 ?_
    intro hrun
    obtain rfl := Option.some.inj hh
    exact Backlight.handle_running fit rep.bl _ hrun
  · exact h.onOther hy r

/-- A signal within a frame of BACKLIGHT. -/
theorem Inv.blSignal (h : Inv s d) (hw : ¬s.blCtx.loc.isWaiting = true) {c : BlCtx} {R : List ModPause}
    (hf : Backlight.Frame R (fun _ => True) s.blCtx c) : Inv (Modules.onModule .backlight c.handled s) d := by
  have hrun : Backlight.Running (s.loc .backlight) := by
    refine h.phase.resolve_left fun hwait => hw ?_
    exact hwait.1.isWaiting
  exact h.onBacklight (r := c.handled) (.inr (hf.running hrun)) hf.running

theorem Inv.signal (h : Inv s d) {e : ModSignal} (hn : Modules.signal s e = some t) : Inv t d := by
  cases e <;> simp only [Modules.signal] at hn
  case sensorChanged rep =>
    split_ifs at hn with hw
    obtain rfl := Option.some.inj hn
    exact h.blSignal hw
      (Backlight.frame_onSensorChange (List.mem_singleton_self _) (fun _ _ => trivial) rep _)
  case blChanged mon pct =>
    split_ifs at hn with hw
    obtain rfl := Option.some.inj hn
    exact h.blSignal hw (Backlight.frame_onBlChanged (R := []) (fun _ _ => trivial) mon pct _)
  case interfaceAdded mon =>
    split_ifs at hn with hw
    obtain rfl := Option.some.inj hn
    exact h.blSignal hw
      (Backlight.frame_onInterfaceAdded (R := []) (fun _ _ => trivial) (fun _ => trivial) mon _)
  case interfaceRemoved mon =>
    split_ifs at hn with hw
    obtain ⟨c, hc, rfl⟩ := Option.map_eq_some_iff.mp hn
    exact h.blSignal hw
      (Backlight.frame_onInterfaceRemoved (R := []) (fun _ _ => trivial) (fun _ => trivial) hc)
  case toggleGamma rep =>
    split_ifs at hn
    obtain rfl := Option.some.inj hn
    exact h.onOther (y := .gamma) (by decide) _
  case tempChanged new =>
    obtain rfl := Option.some.inj hn
    exact h.onOther (y := .gamma) (by decide) _

theorem Inv.next (h : Inv s d) {e : ModulesEvent} (hheard : Unpaused s e) (hknown : KnowsMonitor s e)
    (hlevels : Fractions s e) (hn : Modules.next fit s e = some t) : Inv t (record fit d s e t) := by
  cases e with
  | deliver y rep => exact h.deliver hheard hknown hn
  | timer y fd rep => exact h.timer hn
  | signal e => exact h.signal hn
  | displayReq new noBacklight =>
    obtain rfl := Option.some.inj hn
    exact h.displayReq hlevels rfl
  | publish m =>
    obtain rfl := Option.some.inj hn
    exact h.mono rfl rfl rfl fun hg => subset_publish (s := s) [m] hg
  | world st =>
    obtain rfl := Option.some.inj hn
    exact h.mono rfl rfl rfl fun _ => List.Subset.refl _
  | properties cf =>
    obtain rfl := Option.some.inj hn
    exact h.mono rfl rfl rfl fun _ => List.Subset.refl _
  | inhibitReq r | suspendReq r | delayedResume =>
    obtain rfl := Option.some.inj hn
    exact h.mono rfl rfl rfl fun hg _ hm => Modules.mem_publish_box hg (.inl hm)

/-- In every run in which BACKLIGHT is not paused when DIMMER's requests reach it with the
display dimmed or off, and knows a monitor if there are overrides, the level that the last display
request asks for has been sent once BACKLIGHT's mailbox is empty. -/
theorem asked_level_sent (fit : Fit) {s : Modules × Dimming} {pct : ℚ}
    (hs : (dimming fit).ReachableBy
      (fun s e => Unpaused s.1 e ∧ KnowsMonitor s.1 e ∧ Fractions s.1 e) s)
    (hbox : s.1.box .backlight = []) (hasked : s.2.asked = some pct) : s.2.sent = true := by
  have hinv : Inv s.1 s.2 := by
    refine Machine.ReachableBy.history (I := Inv) ?_ ?_ hs
    · exact fun _ h0 => Inv.init h0
    · exact fun _ _ _ _ _ hi hc hn => hi.next hc.1 hc.2.1 hc.2.2 hn
  by_contra hsent
  have hqueued := (hinv.asked pct hasked (Bool.eq_false_iff.mpr hsent)).queued
  rw [hbox] at hqueued
  cases hqueued

/-- BACKLIGHT starts on AC by day with the lid open, and Clightd reports a full level. -/
def startBacklight : List ModulesEvent :=
  [.world { initState .default with
      acState := some .onAc, lidState := some .opened, dayTime := some .day },
    .publish (.upowerUpd none .onAc), .publish (.lidUpd none .opened),
    .publish (.daytimeUpd none .day), .deliver .backlight Modules.okReplies,
    .deliver .backlight Modules.okReplies, .deliver .backlight Modules.okReplies,
    .signal (.blChanged "monitor" 1)]

/-- The display is dimmed, and BACKLIGHT handles DIMMER's request and DISPLAY_UPD. -/
def dim : List ModulesEvent :=
  [.displayReq 1 false, .deliver .backlight Modules.okReplies, .deliver .backlight Modules.okReplies]

/-- Without SCREEN, which BACKLIGHT would wait for. -/
def noScreenConf : Conf := { Conf.default with screen := { Conf.default.screen with disabled := true } }

theorem init_noScreen (cf : Conf) :
    (dimming fit).init (Modules.start cf 6500, .start) := ⟨Modules.init_start cf 6500, rfl⟩

/-- BACKLIGHT runs, and is sent to the dimmed level. -/
theorem asked_level_sent_dimmed : ∃ s, (dimming fun _ => (0, 0, 0)).run
      (Modules.start noScreenConf 6500, .start) (startBacklight ++ dim) = some s ∧
    s.2.asked = some (1/5) ∧ s.2.sent = true := by
  have hrun : ((dimming fun _ => (0, 0, 0)).run (Modules.start noScreenConf 6500, .start)
      (startBacklight ++ dim)).any
      (fun s => (s.1.box .backlight).isEmpty && s.2.asked = some (1/5)) = true := by decide +kernel
  obtain ⟨s, hs, hp⟩ := (Option.any_eq_true _ _).mp hrun
  simp only [Bool.and_eq_true, decide_eq_true_eq, List.isEmpty_iff] at hp
  have hreach : (dimming fun _ => (0, 0, 0)).ReachableBy
      (fun s e => Unpaused s.1 e ∧ KnowsMonitor s.1 e ∧ Fractions s.1 e) s :=
    Machine.ReachableBy.of_run _ (.init (init_noScreen noScreenConf)) (by decide +kernel) hs
  exact ⟨s, hs, hp.2, asked_level_sent _ hreach hp.1 hp.2⟩

def noAutocalibConf : Conf := { noScreenConf with bl := { noScreenConf.bl with noAutoCalib := true } }

/-- With automatic calibration disabled, the dimmed level is never sent. -/
theorem dimmed_level_dropped : ¬ ∀ (fit : Fit) (s : Modules × Dimming) (pct : ℚ),
    (dimming fit).ReachableBy (fun s e => Fractions s.1 e) s → s.1.box .backlight = [] →
      s.2.asked = some pct → s.2.sent = true := by
  intro h
  have hrun : ((dimming fun _ => (0, 0, 0)).run (Modules.start noAutocalibConf 6500, .start)
      (startBacklight ++ dim)).any
      (fun s => (s.1.box .backlight).isEmpty && s.2.asked = some (1/5) && !s.2.sent) = true := by
    decide +kernel
  obtain ⟨s, hs, hp⟩ := (Option.any_eq_true _ _).mp hrun
  simp only [Bool.and_eq_true, Bool.not_eq_true', decide_eq_true_eq, List.isEmpty_iff] at hp
  obtain ⟨⟨hbox, hasked⟩, hsent⟩ := hp
  have hreach : (dimming fun _ => (0, 0, 0)).ReachableBy (fun s e => Fractions s.1 e) s :=
    Machine.ReachableBy.of_run _ (.init (init_noScreen noAutocalibConf)) (by decide +kernel) hs
  exact absurd (hsent.symm.trans (h _ s (1/5) hreach hbox hasked)) (by decide)

end Dimming
end Clight
