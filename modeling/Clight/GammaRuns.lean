import Clight.CheckConf
import Clight.History
import Clight.Hotplug
import Clight.PauseBitsIdle

/-! The runs of GAMMA: every temperature that it commands on Clightd, and every subscript of its
table, whatever it is asked and in whatever order. -/
namespace Clight

/-- The limits of Clightd. -/
def minTemp : ℤ := 1000
def maxTemp : ℤ := 10000

def TempInLimits (temp : ℤ) : Prop := minTemp ≤ temp ∧ temp ≤ maxTemp

/-- A command within the limits of Clightd, or a subscript that is DAY or NIGHT. -/
def GammaCall.WithinLimits : GammaCall → Prop
  | .set temp _ _ _ => TempInLimits temp
  | .subscript i => i = 0 ∨ i = 1

/-- Both configured temperatures are within the limits. -/
def GammaConf.TempsInLimits (cf : GammaConf) : Prop := ∀ d, TempInLimits (cf.temp d)

structure GammaRun where
  gamma : Option Gamma
  st : State
  cf : Conf
  /-- The daemon has read outside of its memory, and is gone. -/
  died : Bool

/-- `receive` is a message, `toggle` and `tempChanged` are calls and signals on the bus, `others`
is what other modules and the bus library write. -/
inductive GammaRunEvent
  | receive (r : GammaReplies) (m : Msg)
  | toggle (r : GammaReplies)
  | tempChanged (new : ℤ)
  | others (st : State) (cf : Conf)

namespace GammaRun

def ctx (s : GammaRun) (g : Gamma) : GammaCtx :=
  { loc := g, st := s.st, cf := s.cf, out := [], calls := [] }

def set (c : GammaCtx) : GammaRun := { gamma := some c.loc, st := c.st, cf := c.cf, died := false }

/-- BACKLIGHT reports levels between 0 and 1, and a daytime is known when it is announced. -/
def delivered (s : GammaRun) : Msg → Bool
  | .blUpd _ up => 0 ≤ up.new && up.new ≤ 1
  | .daytimeUpd _ _ => s.st.dayTime.isSome
  | _ => true

/-- The daytime is never forgotten, the backlight is between 0 and 1, and only GAMMA writes the
temperatures. -/
def allowed (s : GammaRun) (st : State) (cf : Conf) : Bool :=
  (s.st.dayTime.isNone || st.dayTime.isSome) && 0 ≤ st.currentBlPct && st.currentBlPct ≤ 1 &&
    cf.gamma.temp .day = s.cf.gamma.temp .day && cf.gamma.temp .night = s.cf.gamma.temp .night

/-- A step of the daemon while it lives. -/
def alive (s : GammaRun) : GammaRunEvent → Option GammaRun
  | .receive r m => s.gamma.bind fun g =>
    if Gamma.subscribes m && delivered s m then
      some ((Gamma.handle r m (s.ctx g)).elim { s with gamma := none } set)
    else none
  | .toggle r => s.gamma.map fun g =>
    { set (Gamma.methodToggleGamma r (s.ctx g)) with died := Gamma.toggleDies (s.ctx g) }
  | .tempChanged new => s.gamma.map fun g => set (Gamma.onTempChanged new (s.ctx g))
  | .others st cf => if allowed s st cf then some { s with st := st, cf := cf } else none

def next (s : GammaRun) (e : GammaRunEvent) : Option GammaRun := if s.died then none else s.alive e

/-- What GAMMA asks of Clightd and of its table in a step. The temperature that is restored on
exit is the one it found. -/
def commands (s : GammaRun) (e : GammaRunEvent) : List GammaCall :=
  s.gamma.elim [] fun g => match e with
    | .receive r m =>
      if m = .systemUpd .loopStopped then [] else (Gamma.handle r m (s.ctx g)).elim [] Ctx.calls
    | .toggle r => (Gamma.methodToggleGamma r (s.ctx g)).calls
    | .tempChanged _ | .others _ _ => []

/-- GAMMA is enabled and the configuration was checked. -/
def start (cf : Conf) (initialTemp : ℤ) : GammaRun where
  gamma := some (.init initialTemp)
  st := initState cf
  cf := cf
  died := false

end GammaRun

/-- GAMMA, and all that it has commanded. -/
def gammaRun : Machine (GammaRun × List GammaCall) GammaRunEvent :=
  Machine.withHistory
    { init := fun s => ∃ (f : Option Features) (cf : Conf) (initialTemp : ℤ),
        (checkConf f cf).gamma.disabled = false ∧ s = .start (checkConf f cf) initialTemp
      next := GammaRun.next } [] fun h s e _ => h ++ s.commands e

/-! ### What a handler commands -/

/-- A rational between two ints is truncated to an int between them. -/
theorem truncRat_mem {lo hi : ℤ} (hlo : 0 ≤ lo) {q : ℚ} (h₁ : (lo : ℚ) ≤ q) (h₂ : q ≤ hi) :
    lo ≤ truncRat q ∧ truncRat q ≤ hi := by
  have hnonneg : 0 ≤ q := le_trans (by exact_mod_cast hlo) h₁
  have hfloor : truncRat q = ⌊q⌋ := if_pos hnonneg
  rw [hfloor]
  refine ⟨Int.le_floor.mpr h₁, ?_⟩
  have hcast : (⌊q⌋ : ℚ) ≤ hi := le_trans (Int.floor_le q) h₂
  exact_mod_cast hcast

namespace Gamma
variable {c c₁ c₂ : GammaCtx} {r : GammaReplies}

/-- What a step adds to the calls is within the limits. -/
def Commands (c c' : GammaCtx) : Prop := ∀ k ∈ c'.calls, k ∈ c.calls ∨ k.WithinLimits

theorem Commands.refl (c : GammaCtx) : Commands c c := fun _ hk => .inl hk

theorem Commands.trans (h₁ : Commands c c₁) (h₂ : Commands c₁ c₂) : Commands c c₂ :=
  fun k hk => (h₂ k hk).elim (h₁ k) .inr

theorem Commands.of_eq (h : c₁.calls = c.calls) : Commands c c₁ :=
  fun _ hk => .inl (h ▸ hk)

theorem Commands.call {k : GammaCall} (hk : k.WithinLimits) (c : GammaCtx) :
    Commands c (c.call k) := by
  intro k' hk'
  rcases List.mem_append.mp hk' with hold | hnew
  · exact .inl hold
  · exact .inr (List.mem_singleton.mp hnew ▸ hk)

theorem dayInt_subscript {d : Option DayState} (hd : d.isSome = true) :
    (GammaCall.subscript (toUInt32 (dayInt d))).WithinLimits := by
  obtain ⟨d, rfl⟩ := Option.isSome_iff_exists.mp hd
  cases d
  · exact .inl rfl
  · exact .inr rfl

theorem day_subscript (d : DayState) : (GammaCall.subscript (toUInt32 d.toInt)).WithinLimits := by
  cases d
  · exact .inl rfl
  · exact .inr rfl

/-- A long transition goes to a configured temperature, any other one to the one given. -/
theorem commands_setTemp (hcf : c.cf.gamma.TempsInLimits) {temp : ℤ} (htemp : TempInLimits temp)
    (r : GammaReplies) (now : Option ℤ) (smooth step timeout : ℤ) :
    Commands c (setTemp r temp now smooth step timeout c) := by
  have hlong : TempInLimits (longTransition temp (now.getD 0) c).1 := by
    unfold longTransition
    dsimp only
    split_ifs
    · exact hcf _
    · exact htemp
  have hsub : ∀ b : Bool,
      Commands c (if b then subscript (otherDay c.st.dayTime).toInt c else c) := by
    intro b
    cases b with
    | true => exact .call (day_subscript _) c
    | false => exact .refl c
  unfold setTemp
  dsimp only
  generalize (c.cf.gamma.longTransition && now.isSome && c.st.inEvent) = long
  have hset : ∀ smooth step timeout, (GammaCall.set (if long then
      (longTransition temp (now.getD 0) c).1 else temp) smooth step timeout).WithinLimits := by
    intro _ _ _
    change TempInLimits _
    cases long with
    | true => exact hlong
    | false => exact htemp
  have hlongTrans : ∀ c₁ : GammaCtx,
      Commands c₁ { c₁ with loc := { c₁.loc with longTransitioning := long } } := fun _ => .of_eq rfl
  have hcall := fun smooth step timeout => (hsub (long && c.st.eventTimeRange = 0)).trans
    ((hlongTrans _).trans (.call (hset smooth step timeout) _))
  -- TEMP_UPD is no command
  have hpublish : ∀ (b : Prop) [Decidable b] (new smooth step timeout : ℤ) (c₁ : GammaCtx),
      Commands c c₁ → Commands c (if b then publishTempUpd new smooth step timeout c₁ else c₁) := by
    intro b _ new smooth step timeout c₁ h
    split
    · exact h.trans (.of_eq rfl)
    · exact h
  exact hpublish _ _ _ _ _ _ (hcall _ _ _)

/-- A temperature that was read in the table is set. -/
theorem commands_setTempConf (hcf : c.cf.gamma.TempsInLimits) {temp : ℤ} (htemp : TempInLimits temp)
    (r : GammaReplies) (now : Option ℤ) : Commands c (setTempConf r temp now c) :=
  commands_setTemp hcf htemp r now _ _ _

/-- The ambient temperature lies between the configured ones. -/
theorem ambientTemp_inLimits {cf : GammaConf} (hcf : cf.TempsInLimits) {new : ℚ} (hnew : 0 ≤ new)
    (hone : new ≤ 1) : TempInLimits (truncRat (tempDiff cf * new +
      (if cf.temp .night < cf.temp .day then cf.temp .night else cf.temp .day : ℤ))) := by
  have hmin : (if cf.temp .night < cf.temp .day then cf.temp .night else cf.temp .day) =
      min (cf.temp .night) (cf.temp .day) := by
    rw [min_def]
    split_ifs <;> omega
  have hdiff : tempDiff cf + min (cf.temp .night) (cf.temp .day) =
      max (cf.temp .night) (cf.temp .day) := by
    have habs := max_sub_min_eq_abs (cf.temp .night) (cf.temp .day)
    unfold tempDiff
    omega
  have hlow : minTemp ≤ min (cf.temp .night) (cf.temp .day) := le_min (hcf .night).1 (hcf .day).1
  have hhigh : max (cf.temp .night) (cf.temp .day) ≤ maxTemp := max_le (hcf .night).2 (hcf .day).2
  have hpos : (0 : ℚ) ≤ tempDiff cf := by exact_mod_cast abs_nonneg _
  rw [hmin]
  apply truncRat_mem (by decide)
  · have hlow' : (minTemp : ℚ) ≤ (min (cf.temp .night) (cf.temp .day) : ℤ) := by exact_mod_cast hlow
    have hscaled : 0 ≤ (tempDiff cf : ℚ) * new := mul_nonneg hpos hnew
    linarith
  · have hhigh' : (tempDiff cf : ℚ) + (min (cf.temp .night) (cf.temp .day) : ℤ) ≤ maxTemp := by
      exact_mod_cast hdiff.trans_le hhigh
    have hscaled : (tempDiff cf : ℚ) * new ≤ tempDiff cf := mul_le_of_le_one_right hpos hone
    linarith

theorem commands_ambientCallback (hcf : c.cf.gamma.TempsInLimits) {new : ℚ} (hnew : 0 ≤ new)
    (hone : new ≤ 1) (r : GammaReplies) (smooth : Bool) :
    Commands c (ambientCallback r smooth new c) := by
  unfold ambientCallback
  dsimp only
  split
  · exact commands_setTempConf hcf (ambientTemp_inLimits hcf hnew hone) r none
  · exact .refl c

/-- The daytime is known, the temperatures and the backlight are in their ranges. -/
structure Ready (c : GammaCtx) : Prop where
  temps : c.cf.gamma.TempsInLimits
  blPct : 0 ≤ c.st.currentBlPct ∧ c.st.currentBlPct ≤ 1
  dayTime : c.st.dayTime.isSome = true

/-- The table is read at a known daytime. -/
theorem commands_withCurrentTemp (hcf : c.cf.gamma.TempsInLimits) (hday : c.st.dayTime.isSome = true)
    {f : ℤ → GammaCtx → GammaCtx} (hf : ∀ temp, TempInLimits temp →
      Commands (subscript (dayInt c.st.dayTime) c) (f temp (subscript (dayInt c.st.dayTime) c))) :
    Commands c (withCurrentTemp f c) := by
  obtain ⟨d, hd⟩ := Option.isSome_iff_exists.mp hday
  rw [withCurrentTemp_of hd]
  exact (Commands.call (dayInt_subscript hday) c).trans (hf _ (hcf d))

/-- The temperature of the current daytime is set. -/
theorem Ready.setCurrent (h : Ready c) (r : GammaReplies) (now : Option ℤ) :
    Commands c (withCurrentTemp (fun temp => setTempConf r temp now) c) :=
  commands_withCurrentTemp h.temps h.dayTime fun _ htemp =>
    commands_setTempConf (c := subscript (dayInt c.st.dayTime) c) h.temps htemp r now

theorem Ready.onDaytimeReq (h : Ready c) (r : GammaReplies) : Commands c (onDaytimeReq r c) := by
  unfold Gamma.onDaytimeReq
  dsimp only
  have hset : ∀ c₁ : GammaCtx, c₁.cf = c.cf → c₁.st = c.st → c₁.calls = c.calls →
      Commands c (withCurrentTemp (fun temp => setTempConf r temp (some r.now)) c₁) := by
    intro c₁ hcf hst hcalls
    have hready : Ready c₁ := ⟨hcf ▸ h.temps, hst ▸ h.blPct, hst ▸ h.dayTime⟩
    exact (Commands.of_eq hcalls).trans (hready.setCurrent r _)
  split_ifs
  · exact hset _ rfl rfl rfl
  · exact .of_eq rfl
  · exact hset _ rfl rfl rfl
  · exact .of_eq rfl

theorem Ready.onAmbgammaReq (h : Ready c) (r : GammaReplies) (new : Bool) :
    Commands c (onAmbgammaReq r new c) := by
  have hset : Ready (setAmbientGamma new c) := ⟨h.temps, h.blPct, h.dayTime⟩
  have hstart : Commands c (setAmbientGamma new c) := .of_eq rfl
  unfold Gamma.onAmbgammaReq
  dsimp only
  split_ifs
  · exact hstart.trans (commands_ambientCallback hset.temps h.blPct.1 h.blPct.2 r true)
  · exact hstart.trans (hset.setCurrent r none)

theorem update_inLimits {t : DayState → ℤ} (ht : ∀ d, TempInLimits (t d)) (d : DayState) {temp : ℤ}
    (htemp : TempInLimits temp) : ∀ d', TempInLimits (Function.update t d temp d') := by
  intro d'
  by_cases hd : d' = d
  · rw [hd, Function.update_self]
    exact htemp
  · rw [Function.update_of_ne hd]
    exact ht d'

theorem Ready.interfaceCallback (h : Ready c) (r : GammaReplies) (d : DayState) {req : TempUpd}
    (hreq : TempInLimits req.new) : Commands c (interfaceCallback r d req c) := by
  have hstored : Commands c (storeTemp d req.new (subscript d.toInt c)) :=
    (Commands.call (day_subscript d) c).trans (.of_eq rfl)
  have hcf : (storeTemp d req.new (subscript d.toInt c)).cf.gamma.TempsInLimits :=
    update_inLimits h.temps d hreq
  unfold Gamma.interfaceCallback
  dsimp only
  split_ifs
  · exact hstored.trans (commands_setTemp hcf hreq r none _ _ _)
  · exact hstored.trans (commands_ambientCallback hcf h.blPct.1 h.blPct.2 r true)

theorem acceptTemp_inLimits {up : TempUpd} {d : DayState} {req : TempUpd}
    (h : acceptTemp r up c = some (d, req)) : TempInLimits req.new := by
  unfold acceptTemp at h
  dsimp only at h
  split_ifs at h with hok
  obtain ⟨d', -, heq⟩ := Option.map_eq_some_iff.mp h
  have hrange := (validateTemp_ok c.cf c.st r.junk up).mp hok
  cases heq
  exact ⟨hrange.1, hrange.2.1⟩

/-- A temperature that is stored is one that validate_temp accepted. -/
theorem tempAsked_inLimits {m : Msg} {d : DayState} {new : ℤ}
    (h : tempAsked r m c = some (d, new)) : TempInLimits new := by
  unfold tempAsked at h
  split at h
  · split_ifs at h
    obtain ⟨⟨d', req⟩, hacc, heq⟩ := Option.map_eq_some_iff.mp h
    cases heq
    exact acceptTemp_inLimits hacc
  · cases h

theorem handle_inLimits {m : Msg} {c' : GammaCtx} (hcf : c.cf.gamma.TempsInLimits)
    (hc : handle r m c = some c') : c'.cf.gamma.TempsInLimits := by
  intro d
  rw [handle_temp hc]
  cases hask : tempAsked r m c with
  | none => exact hcf d
  | some p => exact update_inLimits hcf p.1 (tempAsked_inLimits hask) d

/-- A request for 0 is about DAY, NIGHT or, with -1, the current daytime. -/
def AsksTable (up : TempUpd) : Prop := up.new = 0 → up.daytime = -1 ∨ up.daytime = 0 ∨ up.daytime = 1

instance (up : TempUpd) : Decidable (AsksTable up) := inferInstanceAs (Decidable (_ → _))

theorem Ready.validateSubscript (h : Ready c) {up : TempUpd} (hup : AsksTable up) :
    Commands c (validateSubscript up c) := by
  unfold Gamma.validateSubscript
  split_ifs with hzero hcurrent
  · exact .call (dayInt_subscript h.dayTime) c
  · have hday : (GammaCall.subscript (toUInt32 up.daytime)).WithinLimits := by
      rcases (hup hzero).resolve_left hcurrent with h0 | h1
      · rw [h0]
        exact .inl rfl
      · rw [h1]
        exact .inr rfl
    exact .call hday c
  · exact .refl c

theorem Ready.of_validateSubscript (h : Ready c) (up : TempUpd) : Ready (Gamma.validateSubscript up c) := by
  obtain ⟨calls, he⟩ := validateSubscript_eq up c
  rw [he]
  exact ⟨h.temps, h.blPct, h.dayTime⟩

theorem Ready.onTempReq (h : Ready c) {up : TempUpd} (hup : AsksTable up) (r : GammaReplies)
    (sender : ModName) : Commands c (onTempReq r sender up c) := by
  have hvalid := h.validateSubscript hup
  have hready := h.of_validateSubscript up
  unfold Gamma.onTempReq
  dsimp only
  split
  · next d req hacc =>
    split_ifs
    · exact hvalid.trans (hready.onDaytimeReq r)
    · exact hvalid.trans (hready.interfaceCallback r d (acceptTemp_inLimits hacc))
  · exact hvalid

theorem Ready.pauseMod (h : Ready c) (r : GammaReplies) (pause : Bool) (reason : ModPause) :
    Commands c (pauseMod r pause reason c) := by
  unfold Gamma.pauseMod
  dsimp only
  split_ifs
  · exact .of_eq rfl
  · have hready : Ready { c with loc := { c.loc with
        paused := (modCheckPause pause reason c.loc.paused).1
        stack := unbecome c.loc.stack
        shouldSyncTemp := false } } := ⟨h.temps, h.blPct, h.dayTime⟩
    exact (Commands.of_eq rfl).trans (hready.onDaytimeReq r)
  · exact .of_eq rfl
  · exact .of_eq rfl

def asksTable : Msg → Bool
  | .tempReq _ up => decide (AsksTable up)
  | _ => true

theorem Ready.receive (h : Ready c) {m : Msg} (hm : asksTable m = true)
    (hbl : ∀ old up, m = .blUpd old up → 0 ≤ up.new ∧ up.new ≤ 1) (hstop : m ≠ .systemUpd .loopStopped)
    (r : GammaReplies) : Commands c (receive r m c) := by
  unfold Gamma.receive
  split
  · next old up =>
    obtain ⟨hnew, hone⟩ := hbl old up rfl
    exact commands_ambientCallback h.temps hnew hone r _
  · exact h.onTempReq (of_decide_eq_true hm) r _
  · split_ifs
    · exact h.onAmbgammaReq r _
    · exact .refl c
  · exact .of_eq rfl
  · exact h.pauseMod r _ _
  · exact absurd rfl hstop
  · exact .refl c

theorem Ready.receivePaused (h : Ready c) {m : Msg} (hm : asksTable m = true) (r : GammaReplies) :
    Commands c (receivePaused r m c) := by
  unfold Gamma.receivePaused
  split
  · have hvalid := h.validateSubscript (of_decide_eq_true hm)
    dsimp only
    split_ifs
    · exact hvalid.trans (.of_eq rfl)
    · exact hvalid
  · exact .of_eq rfl
  · exact h.pauseMod r _ _
  · exact .refl c

theorem Ready.methodToggleGamma (hcf : c.cf.gamma.TempsInLimits)
    (hday : c.loc.isToggled = false ∨ c.st.dayTime.isSome = true) (r : GammaReplies) :
    Commands c (methodToggleGamma r c) := by
  have hset : ∀ (c₁ : GammaCtx) (temp : ℤ), c₁.cf = c.cf → TempInLimits temp →
      Commands c₁ (setTemp r temp none 0 0 0
        { c₁ with loc := { c₁.loc with isToggled := !c₁.loc.isToggled } }) := by
    intro c₁ temp hsame htemp
    have htoggled : Commands c₁ { c₁ with loc := { c₁.loc with isToggled := !c₁.loc.isToggled } } :=
      .of_eq rfl
    refine htoggled.trans (commands_setTemp ?_ htemp r none 0 0 0)
    exact hsame ▸ hcf
  unfold Gamma.methodToggleGamma
  dsimp only
  split_ifs with ht
  · have hknown := hday.resolve_left (by rw [ht]; decide)
    exact commands_withCurrentTemp hcf hknown fun temp htemp => hset _ temp rfl htemp
  · exact (Commands.call (day_subscript _) c).trans (hset _ _ rfl (hcf _))

end Gamma

/-! ### Runs -/

theorem checkTemp_inLimits {dflt : ℤ} (hdflt : TempInLimits dflt) (temp : ℤ) :
    TempInLimits (checkTemp dflt temp) := by
  unfold checkTemp
  split_ifs with hout
  · exact hdflt
  · unfold TempInLimits minTemp maxTemp
    omega

/-- check_conf leaves temperatures that Clightd takes. -/
theorem checkConf_temps {f : Option Features} {cf : Conf}
    (h : (checkConf f cf).gamma.disabled = false) : (checkConf f cf).gamma.TempsInLimits := by
  -- no section after GAMMA's writes into it
  have hgamma : (checkConf f cf).gamma =
      ((if cf.wizard then wizardConf cf else checkClightdFeatures f cf).checkResumedelay.checkBl.checkKbd
        |>.checkGamma).gamma := by
    unfold checkConf Conf.checkInh Conf.checkScreen Conf.checkDpms Conf.checkDim Conf.checkDay
    dsimp only
    split_ifs <;> rfl
  rw [hgamma] at h ⊢
  generalize (if cf.wizard then wizardConf cf else
    checkClightdFeatures f cf).checkResumedelay.checkBl.checkKbd = cf' at h ⊢
  unfold Conf.checkGamma at h ⊢
  by_cases hdisabled : cf'.gamma.disabled = true
  · rw [if_pos hdisabled, hdisabled] at h
    exact Bool.noConfusion h
  · rw [if_neg hdisabled]
    intro d
    cases d with
    | day => exact checkTemp_inLimits ⟨by decide, by decide⟩ _
    | night => exact checkTemp_inLimits ⟨by decide, by decide⟩ _

namespace GammaRun
variable {s t : GammaRun} {e : GammaRunEvent}

/-- GAMMA waits for the daytime, or runs once there is one. -/
structure Safe (s : GammaRun) : Prop where
  temps : s.cf.gamma.TempsInLimits
  blPct : 0 ≤ s.st.currentBlPct ∧ s.st.currentBlPct ≤ 1
  gamma : ∀ g, s.gamma = some g → g.stack = [.waitingDaytime] ∧ g.paused = .unpaused ∨
    g.stack = pausedStack .paused g.paused ∧ s.st.dayTime.isSome = true

/-- Toggle goes back to the current daytime only if there is one, and no request that GAMMA handles
reads past the table. -/
def Careful (s : GammaRun) : GammaRunEvent → Prop
  | .receive _ m =>
    (s.gamma.all (fun g => g.stack = [.waitingDaytime]) || Gamma.asksTable m) = true
  | .toggle _ => (s.gamma.all (fun g => !g.isToggled) || s.st.dayTime.isSome) = true
  | .tempChanged _ | .others _ _ => True

theorem Safe.start {f : Option Features} {cf : Conf} (h : (checkConf f cf).gamma.disabled = false)
    (initialTemp : ℤ) : Safe (start (checkConf f cf) initialTemp) where
  temps := checkConf_temps h
  blPct := ⟨le_rfl, zero_le_one⟩
  gamma g hg := by
    obtain rfl := Option.some.inj hg
    exact .inl ⟨rfl, rfl⟩

theorem Safe.ready (h : Safe s) (hday : s.st.dayTime.isSome = true) (g : Gamma) :
    Gamma.Ready (s.ctx g) := ⟨h.temps, h.blPct, hday⟩

/-- A message brings GAMMA from waiting to running, or leaves it running. -/
theorem Safe.receive (h : Safe s) {g : Gamma} (hg : s.gamma = some g) {r : GammaReplies} {m : Msg}
    (hm : delivered s m = true) {c : GammaCtx} (hc : Gamma.handle r m (s.ctx g) = some c) :
    Safe (set c) := by
  have htemps : c.cf.gamma.TempsInLimits := Gamma.handle_inLimits (c := s.ctx g) h.temps hc
  rcases h.gamma g hg with ⟨hwait, hpaused⟩ | ⟨hrun, hday⟩
  · rcases Gamma.handle_waiting r m (c := s.ctx g) hwait hc with hsame | ⟨⟨old, new, rfl⟩, hstart⟩
    · subst hsame
      refine ⟨htemps, h.blPct, ?_⟩
      rintro g' hg'
      obtain rfl := Option.some.inj hg'
      exact .inl ⟨hwait, hpaused⟩
    · subst hstart
      refine ⟨htemps, h.blPct, ?_⟩
      rintro g' hg'
      obtain rfl := Option.some.inj hg'
      refine .inr ⟨?_, hm⟩
      change [] = pausedStack GammaRecv.paused g.paused
      rw [hpaused]
      rfl
  · obtain ⟨-, hst, hstack⟩ := Gamma.handle_bit r m (c := s.ctx g) hrun hc
    refine ⟨htemps, ?_, ?_⟩
    · change 0 ≤ c.st.currentBlPct ∧ c.st.currentBlPct ≤ 1
      rw [hst]
      exact h.blPct
    · rintro g' hg'
      obtain rfl := Option.some.inj hg'
      refine .inr ⟨hstack, ?_⟩
      change c.st.dayTime.isSome = true
      rw [hst]
      exact hday

theorem Safe.receive_commands (h : Safe s) {g : Gamma} (hg : s.gamma = some g) {r : GammaReplies}
    {m : Msg} (hm : delivered s m = true) (hstop : m ≠ .systemUpd .loopStopped)
    (hask : g.stack = [.waitingDaytime] ∨ Gamma.asksTable m = true) {c : GammaCtx}
    (hc : Gamma.handle r m (s.ctx g) = some c) : Gamma.Commands (s.ctx g) c := by
  rcases h.gamma g hg with ⟨hwait, -⟩ | ⟨hrun, hday⟩
  · rcases Gamma.handle_waiting r m (c := s.ctx g) hwait hc with hsame | ⟨-, hstart⟩
    · exact hsame ▸ .refl _
    · exact hstart ▸ .of_eq rfl
  · have hready := h.ready hday g
    have htable : Gamma.asksTable m = true := by
      refine hask.resolve_left fun hwait => ?_
      rw [hrun] at hwait
      unfold pausedStack at hwait
      split_ifs at hwait
      exact absurd (List.head_eq_of_cons_eq hwait) (by decide)
    have hbl : ∀ old up, m = .blUpd old up → 0 ≤ up.new ∧ up.new ≤ 1 := by
      rintro old up rfl
      have hrange := Bool.and_eq_true_iff.mp hm
      exact ⟨of_decide_eq_true hrange.1, of_decide_eq_true hrange.2⟩
    rw [Gamma.handle_of_running r m (c := s.ctx g) hrun] at hc
    obtain rfl := Option.some.inj hc
    split_ifs
    · exact hready.receive htable hbl hstop r
    · exact hready.receivePaused htable r

theorem Safe.toggle (h : Safe s) {g : Gamma} (hg : s.gamma = some g) (r : GammaReplies) (died : Bool) :
    Safe { set (Gamma.methodToggleGamma r (s.ctx g)) with died := died } := by
  have hsame := Gamma.same_methodToggleGamma r (s.ctx g)
  have hcf : (Gamma.methodToggleGamma r (s.ctx g)).cf = s.cf := Gamma.methodToggleGamma_cf ..
  have hst : (Gamma.methodToggleGamma r (s.ctx g)).st = s.st := hsame.st
  refine ⟨?_, ?_, ?_⟩
  · change (Gamma.methodToggleGamma r (s.ctx g)).cf.gamma.TempsInLimits
    rw [hcf]
    exact h.temps
  · dsimp only [set]
    rw [hst]
    exact h.blPct
  · rintro g' hg'
    obtain rfl := Option.some.inj hg'
    dsimp only [set]
    rw [hst, hsame.stack, hsame.paused]
    exact h.gamma g hg

theorem Safe.tempChanged (h : Safe s) {g : Gamma} (hg : s.gamma = some g) (new : ℤ) :
    Safe (set (Gamma.onTempChanged new (s.ctx g))) := by
  refine ⟨h.temps, h.blPct, ?_⟩
  rintro g' hg'
  obtain rfl := Option.some.inj hg'
  exact h.gamma g hg

theorem Safe.others (h : Safe s) {st : State} {cf : Conf} (hok : allowed s st cf = true) :
    Safe { s with st := st, cf := cf } := by
  unfold allowed at hok
  simp only [Bool.and_eq_true, decide_eq_true_eq] at hok
  obtain ⟨⟨⟨⟨hday, hlow⟩, hhigh⟩, htempDay⟩, htempNight⟩ := hok
  refine ⟨?_, ⟨hlow, hhigh⟩, ?_⟩
  · intro d
    cases d with
    | day => exact htempDay ▸ h.temps .day
    | night => exact htempNight ▸ h.temps .night
  · intro g hg
    refine (h.gamma g hg).imp id fun ⟨hstack, hknown⟩ => ⟨hstack, ?_⟩
    rcases Bool.or_eq_true_iff.mp hday with hnone | hsome
    · rw [Option.isNone_iff_eq_none.mp hnone] at hknown
      exact Bool.noConfusion hknown
    · exact hsome

/-- One step: GAMMA stays safe, and what it commands is within the limits. -/
theorem Safe.next (h : Safe s) (hcare : Careful s e) (hn : next s e = some t) :
    Safe t ∧ ∀ k ∈ s.commands e, k.WithinLimits := by
  unfold GammaRun.next at hn
  split_ifs at hn
  have hfresh : ∀ {g : Gamma} {c : GammaCtx}, Gamma.Commands (s.ctx g) c →
      ∀ k ∈ c.calls, k.WithinLimits := fun hcmd k hk => (hcmd k hk).resolve_left List.not_mem_nil
  cases hg : s.gamma with
  | none =>
    have hnone : s.commands e = [] := by
      unfold commands
      rw [hg]
      rfl
    refine ⟨?_, fun k hk => absurd hk (hnone ▸ List.not_mem_nil)⟩
    cases e with
    | others st cf =>
      unfold alive at hn
      dsimp only at hn
      split_ifs at hn with hok
      obtain rfl := Option.some.inj hn
      exact h.others hok
    | _ =>
      unfold alive at hn
      rw [hg] at hn
      cases hn
  | some g =>
    unfold alive at hn
    unfold commands
    unfold Careful at hcare
    rw [hg] at hn hcare ⊢
    cases e with
    | receive r m =>
      dsimp only [Option.bind_some, Option.elim_some, Option.all_some] at hn hcare ⊢
      split_ifs at hn with hdel
      obtain rfl := Option.some.inj hn
      have hm := (Bool.and_eq_true_iff.mp hdel).2
      have hask := (Bool.or_eq_true_iff.mp hcare).imp_left of_decide_eq_true
      cases hc : Gamma.handle r m (s.ctx g) with
      | none =>
        refine ⟨⟨h.temps, h.blPct, nofun⟩, ?_⟩
        split_ifs <;> exact fun k hk => absurd hk List.not_mem_nil
      | some c =>
        refine ⟨h.receive hg hm hc, ?_⟩
        split_ifs with hstop
        · exact fun k hk => absurd hk List.not_mem_nil
        · exact hfresh (h.receive_commands hg hm hstop hask hc)
    | toggle r =>
      obtain rfl := Option.some.inj hn
      refine ⟨h.toggle hg r _, hfresh (Gamma.Ready.methodToggleGamma h.temps ?_ r)⟩
      refine (Bool.or_eq_true_iff.mp hcare).imp_left fun hoff => ?_
      exact (Bool.not_eq_true' g.isToggled).mp hoff
    | tempChanged new =>
      obtain rfl := Option.some.inj hn
      exact ⟨h.tempChanged hg new, fun k hk => absurd hk List.not_mem_nil⟩
    | others st cf =>
      dsimp only at hn
      split_ifs at hn with hok
      obtain rfl := Option.some.inj hn
      have hothers := h.others hok
      rw [hg] at hothers
      exact ⟨hothers, fun k hk => absurd hk List.not_mem_nil⟩

/-- As long as Toggle and the requests for 0 are careful, every temperature commanded is one that
Clightd takes, and the table is only read and written at DAY and NIGHT. -/
theorem commands_within_limits {s : GammaRun × List GammaCall}
    (hs : gammaRun.ReachableBy (fun s e => Careful s.1 e) s) : ∀ k ∈ s.2, k.WithinLimits := by
  have hinv : Safe s.1 ∧ ∀ k ∈ s.2, k.WithinLimits := by
    refine hs.history (I := fun s log => Safe s ∧ ∀ k ∈ log, k.WithinLimits) ?_ ?_
    · rintro s ⟨f, cf, initialTemp, henabled, rfl⟩
      exact ⟨.start henabled initialTemp, fun k hk => absurd hk List.not_mem_nil⟩
    · intro s log e t _ hi hcare hn
      obtain ⟨hsafe, hcmd⟩ := hi.1.next hcare hn
      refine ⟨hsafe, fun k hk => ?_⟩
      exact (List.mem_append.mp hk).elim (hi.2 k) (hcmd k)
  exact hinv.2

instance (s : GammaRun) : (e : GammaRunEvent) → Decidable (Careful s e)
  | .receive _ _ | .toggle _ => instDecidableEqBool _ _
  | .tempChanged _ | .others _ _ => isTrue trivial

def startDefault : GammaRun := start (checkConf none Conf.default) 6500

theorem startDefault_init : gammaRun.init (startDefault, []) := by
  refine ⟨⟨none, Conf.default, 6500, ?_, rfl⟩, rfl⟩
  rw [default_checked.checkConf_eq rfl rfl]
  rfl

def sentReplies : GammaReplies :=
  { now := 0, localDay := fun _ => (0, 0), sent := true, daytimeStopped := false, junk := 0 }

/-- A user goes to the other temperature and back, then asks for the one of the daytime. -/
def toggleTwice : List GammaRunEvent :=
  [.toggle sentReplies,
    .others { initState Conf.default with dayTime := some .day } (checkConf none Conf.default),
    .receive sentReplies (.daytimeUpd none .day), .toggle sentReplies,
    .receive sentReplies
      (.tempReq .other { daytime := -1, new := 0, smooth := -1, step := 0, timeout := 0 })]

theorem commands_within_limits_toggled : ∃ s,
    gammaRun.run (startDefault, []) toggleTwice = some s ∧ s.2.length = 7 ∧
      ∀ k ∈ s.2, k.WithinLimits := by
  have hrun : (gammaRun.run (startDefault, []) toggleTwice).any
      (fun s => s.2.length = 7) = true := by decide +kernel
  obtain ⟨s, hs, hp⟩ := (Option.any_eq_true _ _).mp hrun
  have hcare : gammaRun.RunBy (fun s e => Careful s.1 e) (startDefault, []) toggleTwice := by
    decide +kernel
  exact ⟨s, hs, of_decide_eq_true hp,
    commands_within_limits (Machine.ReachableBy.of_run _ (.init startDefault_init) hcare hs)⟩

instance : (k : GammaCall) → Decidable k.WithinLimits
  | .set _ _ _ _ => instDecidableAnd
  | .subscript _ => instDecidableOr

/-- The user toggles twice before DAYTIME has computed the daytime: the second Toggle reads at
4294967295. -/
theorem commands_within_limits_fails : ¬ ∀ s : GammaRun × List GammaCall,
    gammaRun.Reachable s → ∀ k ∈ s.2, k.WithinLimits := by
  intro h
  have hrun : (gammaRun.run (startDefault, []) [.toggle sentReplies, .toggle sentReplies]).any
      (fun s => s.2.any fun k => !decide k.WithinLimits) = true := by decide +kernel
  obtain ⟨s, hs, hp⟩ := (Option.any_eq_true _ _).mp hrun
  obtain ⟨k, hk, hout⟩ := List.any_eq_true.mp hp
  have hin := h s (Machine.reachable_of_run startDefault_init hs) k hk
  rw [decide_eq_true hin] at hout
  exact Bool.noConfusion hout

/-- It commands nothing more, and the run ends there. -/
example : ((gammaRun.run (startDefault, []) [.toggle sentReplies, .toggle sentReplies]).map
    fun s => (s.1.died, s.2.length)) = some (true, 3) := by decide +kernel

end GammaRun
end Clight
