import Clight.GammaRuns

/-! Toggle calls of GAMMA among changes of the daytime and writes of the temperature: the flag that
remembers a Toggle does not know about the others. -/
namespace Clight

/-- The temperature of a command. -/
def GammaCall.temp? : GammaCall → Option ℤ
  | .set temp _ _ _ => some temp
  | .subscript _ => none

/-- The last temperature that was commanded. -/
def lastTemp (calls : List GammaCall) : Option ℤ := (calls.filterMap GammaCall.temp?).getLast?

@[simp] theorem lastTemp_set (calls : List GammaCall) (temp smooth step timeout : ℤ) :
    lastTemp (calls ++ [.set temp smooth step timeout]) = some temp := by
  unfold lastTemp
  rw [List.filterMap_append]
  exact List.getLast?_append_of_ne_nil _ (List.cons_ne_nil _ _)

@[simp] theorem lastTemp_subscript (calls : List GammaCall) (i : ℤ) :
    lastTemp (calls ++ [.subscript i]) = lastTemp calls := by
  unfold lastTemp
  rw [List.filterMap_append]
  exact congrArg List.getLast? (List.append_nil _)

theorem TempInLimits.ne_zero {temp : ℤ} (h : TempInLimits temp) : temp ≠ 0 := by
  rintro rfl
  exact absurd h.1 (by decide)

instance (temp : ℤ) : Decidable (TempInLimits temp) :=
  inferInstanceAs (Decidable (minTemp ≤ temp ∧ temp ≤ maxTemp))

/-- Toggle, a change of the daytime with the request of DAYTIME that follows it, and a write of
DayTemp or NightTemp, whichever is in force. The requests are static: what an earlier validation left
in them is `asked`, -1 at first, and `up`. -/
inductive ToggleEvent
  | toggle (r : GammaReplies)
  | daytime (r : GammaReplies) (d : DayState) (asked : Option DayState) (up : TempUpd)
  | write (r : GammaReplies) (up : TempUpd) (new : ℤ)

namespace Gamma

/-- GAMMA is running, its temperatures differ, and neither the ambient brightness nor a long transition
determines them. -/
structure Steady (c : GammaCtx) (d : DayState) : Prop where
  running : c.loc.stack = []
  dayTime : c.st.dayTime = some d
  ambientGamma : c.cf.gamma.ambientGamma = false
  longTransition : c.cf.gamma.longTransition = false
  longTransitioning : c.loc.longTransitioning = false
  inLimits : c.cf.gamma.TempsInLimits
  distinct : c.cf.gamma.temp .day ≠ c.cf.gamma.temp .night

variable {c c' : GammaCtx} {d : DayState} {r : GammaReplies}

theorem Steady.other_ne (h : Steady c d) : c.cf.gamma.temp d.other ≠ c.cf.gamma.temp d := by
  cases d with
  | day => exact Ne.symm h.distinct
  | night => exact h.distinct

/-- A step that commands `temp` and leaves the flag of Toggle at `toggled`. -/
structure Commanded (temp : ℤ) (toggled : Bool) (c c' : GammaCtx) : Prop where
  last : lastTemp c'.calls = some temp
  isToggled : c'.loc.isToggled = toggled
  st : c'.st = c.st
  stack : c'.loc.stack = c.loc.stack
  longTransitioning : c'.loc.longTransitioning = false

/-- Without long transitions, only the announcement depends on anything but the arguments. -/
theorem setTemp_short (hlong : c.cf.gamma.longTransition = false) (temp : ℤ) (now : Option ℤ)
    (smooth step timeout : ℤ) :
    let set := { c with loc := { c.loc with longTransitioning := false } }.call
      (.set temp smooth step timeout)
    setTemp r temp now smooth step timeout c =
      if r.sent && !c.cf.gamma.noSmooth then publishTempUpd temp smooth step timeout set else set := by
  unfold setTemp
  rw [hlong, Bool.false_and, Bool.false_and]
  rfl

/-- From a state that differs from `c` in what is not looked at any more. -/
theorem commanded_setTemp {c₁ : GammaCtx} {toggled : Bool}
    (hlong : c₁.cf.gamma.longTransition = false) (hst : c₁.st = c.st)
    (hstack : c₁.loc.stack = c.loc.stack) (htoggled : c₁.loc.isToggled = toggled) (temp : ℤ)
    (now : Option ℤ) (smooth step timeout : ℤ) :
    Commanded temp toggled c (setTemp r temp now smooth step timeout c₁) := by
  rw [setTemp_short hlong]
  dsimp only
  split_ifs
  · exact ⟨lastTemp_set .., htoggled, hst, hstack, rfl⟩
  · exact ⟨lastTemp_set .., htoggled, hst, hstack, rfl⟩

/-- A step that does so keeps GAMMA steady, if it leaves the temperatures distinct. -/
theorem Steady.commanded (h : Steady c d) {temp : ℤ} {toggled : Bool} (hc : Commanded temp toggled c c')
    (hcf : c'.cf = c.cf) : Steady c' d where
  running := hc.stack.trans h.running
  dayTime := hc.st ▸ h.dayTime
  ambientGamma := hcf ▸ h.ambientGamma
  longTransition := hcf ▸ h.longTransition
  longTransitioning := hc.longTransitioning
  inLimits := hcf ▸ h.inLimits
  distinct := hcf ▸ h.distinct

/-! ### One lemma for each event -/

/-- A Toggle goes to the other temperature and back with its flag. -/
theorem Steady.toggle (h : Steady c d) (r : GammaReplies) :
    Commanded (if c.loc.isToggled then c.cf.gamma.temp d else c.cf.gamma.temp d.other)
      (!c.loc.isToggled) c (methodToggleGamma r c) := by
  unfold methodToggleGamma
  dsimp only
  rw [withCurrentTemp_of h.dayTime, h.dayTime]
  split_ifs with ht
  · apply commanded_setTemp
    · exact h.longTransition
    · rfl
    · rfl
    · rfl
  · apply commanded_setTemp
    · exact h.longTransition
    · rfl
    · rfl
    · rfl

/-- DAYTIME's request commands the temperature of the daytime. -/
theorem Steady.onDaytimeReq (h : Steady c d) (r : GammaReplies) :
    Commanded (c.cf.gamma.temp d) c.loc.isToggled c (onDaytimeReq r c) := by
  unfold Gamma.onDaytimeReq
  rw [h.longTransitioning, Bool.false_and, if_neg Bool.false_ne_true]
  dsimp only
  rw [h.longTransitioning, h.ambientGamma, if_pos (by decide),
    withCurrentTemp_of (d := d) (by exact h.dayTime)]
  apply commanded_setTemp
  · exact h.longTransition
  · rfl
  · rfl
  · rfl

theorem Steady.handle_tempReq (h : Steady c d) (r : GammaReplies) (sender : ModName) (up : TempUpd) :
    handle r (.tempReq sender up) c = some (onTempReq r sender up c) := by
  unfold handle
  rw [h.running]
  rfl

theorem onTempReq_accepted {up : TempUpd} {req : DayState × TempUpd}
    (h : acceptTemp r up c = some req) (sender : ModName) : onTempReq r sender up c =
      if sender = .daytime then Gamma.onDaytimeReq r (validateSubscript up c)
      else interfaceCallback r req.1 req.2 (validateSubscript up c) := by
  unfold onTempReq
  dsimp only
  rw [acceptTemp_validateSubscript, h]

/-- DAYTIME asks for the temperature of the daytime, which is accepted. -/
theorem Steady.daytime (h : Steady c d) (r : GammaReplies) (asked : Option DayState) (up : TempUpd) :
    ∃ c', handle r (.tempReq .daytime
        { up with daytime := dayInt asked, new := c.cf.gamma.temp d }) c = some c' ∧ c'.cf = c.cf ∧
      Commanded (c.cf.gamma.temp d) c.loc.isToggled c c' := by
  have hlimits : TempInLimits (c.cf.gamma.temp d) := h.inLimits d
  have hday : syncDay c.st { up with daytime := dayInt asked, new := c.cf.gamma.temp d } =
      some (asked.getD d) := by
    unfold syncDay
    rw [h.dayTime]
    cases asked with
    | none => cases d <;> rfl
    | some a => cases a <;> rfl
  have hacc := acceptTemp_new r { up with daytime := dayInt asked, new := c.cf.gamma.temp d } c
  rw [hday, Option.bind_some] at hacc
  dsimp only at hacc
  rw [if_neg (TempInLimits.ne_zero hlimits), if_pos ⟨hlimits.1, hlimits.2⟩] at hacc
  obtain ⟨req, haccept, -⟩ := Option.map_eq_some_iff.mp hacc
  refine ⟨Gamma.onDaytimeReq r c, ?_, onDaytimeReq_cf r c, h.onDaytimeReq r⟩
  rw [h.handle_tempReq, onTempReq_accepted haccept, if_pos rfl]
  unfold validateSubscript
  rw [if_neg (TempInLimits.ne_zero hlimits)]

/-- A request for the temperature in force commands it at once. -/
theorem Steady.interfaceCallback (h : Steady c d) (r : GammaReplies) (req : TempUpd) :
    Commanded req.new c.loc.isToggled c (interfaceCallback r d req c) := by
  have hnow : (!(storeTemp d req.new (subscript d.toInt c)).cf.gamma.ambientGamma &&
      decide ((storeTemp d req.new (subscript d.toInt c)).st.dayTime = some d)) = true := by
    change (!c.cf.gamma.ambientGamma && decide (c.st.dayTime = some d)) = true
    rw [h.ambientGamma, h.dayTime, decide_eq_true rfl]
    rfl
  unfold Gamma.interfaceCallback
  dsimp only
  rw [if_pos hnow]
  apply commanded_setTemp
  · exact h.longTransition
  · rfl
  · rfl
  · rfl

/-- What a write of the temperature in force asks for: 0 stands for the one that is configured. -/
def askedTemp (cf : GammaConf) (d : DayState) (new : ℤ) : ℤ := if new = 0 then cf.temp d else new

/-- validate_temp accepts the write. -/
def Accepts (cf : GammaConf) (d : DayState) (new : ℤ) : Prop := TempInLimits (askedTemp cf d new)

instance (cf : GammaConf) (d : DayState) (new : ℤ) : Decidable (Accepts cf d new) :=
  inferInstanceAs (Decidable (TempInLimits (askedTemp cf d new)))

theorem Steady.acceptTemp_write (h : Steady c d) (r : GammaReplies) {up : TempUpd}
    (hup : up.daytime = d.toInt) : (acceptTemp r up c).map (fun p => (p.1, p.2.new)) =
      if Accepts c.cf.gamma d up.new then some (d, askedTemp c.cf.gamma d up.new) else none := by
  have hday : syncDay c.st up = some d := by
    unfold syncDay
    rw [hup]
    cases d <;> rfl
  rw [acceptTemp_new, hday, Option.bind_some]
  rfl

/-- A write that is accepted is stored and commanded. -/
theorem Steady.write (h : Steady c d) (r : GammaReplies) (up : TempUpd) (hup : up.daytime = d.toInt)
    (hacc : Accepts c.cf.gamma d up.new) :
    ∃ c', handle r (.tempReq .gamma up) c = some c' ∧
      c'.cf.gamma = { c.cf.gamma with
        temp := Function.update c.cf.gamma.temp d (askedTemp c.cf.gamma d up.new) } ∧
      Commanded (askedTemp c.cf.gamma d up.new) c.loc.isToggled c c' := by
  have hmap := h.acceptTemp_write r hup
  rw [if_pos hacc] at hmap
  obtain ⟨⟨d', req⟩, haccept, hreq⟩ := Option.map_eq_some_iff.mp hmap
  obtain ⟨hd, hnew⟩ := Prod.mk.inj hreq
  dsimp only at hd hnew
  subst hd
  obtain ⟨calls, hcalls⟩ := validateSubscript_eq up c
  have hsteady : Steady { c with calls := calls } d' := ⟨h.running, h.dayTime, h.ambientGamma,
    h.longTransition, h.longTransitioning, h.inLimits, h.distinct⟩
  refine ⟨Gamma.interfaceCallback r d' req { c with calls := calls }, ?_, ?_, ?_⟩
  · rw [h.handle_tempReq, onTempReq_accepted haccept, if_neg (by decide), hcalls]
  · rw [interfaceCallback_cf, ← hnew]
    rfl
  · have hcommand := hsteady.interfaceCallback r req
    rw [hnew] at hcommand
    exact ⟨hcommand.last, hcommand.isToggled, hcommand.st, hcommand.stack,
      hcommand.longTransitioning⟩

/-- A write that is rejected changes nothing. -/
theorem Steady.write_rejected (h : Steady c d) (r : GammaReplies) (up : TempUpd)
    (hup : up.daytime = d.toInt) (hrej : ¬ Accepts c.cf.gamma d up.new) :
    handle r (.tempReq .gamma up) c = some (validateSubscript up c) := by
  have hmap := h.acceptTemp_write r hup
  rw [if_neg hrej] at hmap
  rw [h.handle_tempReq]
  unfold onTempReq
  dsimp only
  rw [acceptTemp_validateSubscript, Option.map_eq_none_iff.mp hmap]

theorem lastTemp_validateSubscript (up : TempUpd) (c : GammaCtx) :
    lastTemp (validateSubscript up c).calls = lastTemp c.calls := by
  unfold validateSubscript
  by_cases hzero : up.new = 0
  · rw [if_pos hzero]
    exact lastTemp_subscript _ _
  · rw [if_neg hzero]

/-! ### Runs -/

/-- A write that would leave both temperatures the same is not one of these events. -/
def toggleNext (c : GammaCtx) : ToggleEvent → Option GammaCtx
  | .toggle r => some (methodToggleGamma r c)
  | .daytime r d asked up =>
    handle r (.tempReq .daytime { up with daytime := dayInt asked, new := c.cf.gamma.temp d })
      { c with st := { c.st with dayTime := some d } }
  | .write r up new =>
    (handle r (.tempReq .gamma { up with daytime := dayInt c.st.dayTime, new := new, smooth := -1 })
      c).filter fun c' => c'.cf.gamma.temp .day ≠ c'.cf.gamma.temp .night

/-- GAMMA when it starts running, without ambient gamma and long transitions. -/
structure ToggleStart (c : GammaCtx) : Prop where
  loc : ∃ initialTemp, c.loc = { Gamma.init initialTemp with stack := [] }
  ambientGamma : c.cf.gamma.ambientGamma = false
  longTransition : c.cf.gamma.longTransition = false
  inLimits : c.cf.gamma.TempsInLimits
  distinct : c.cf.gamma.temp .day ≠ c.cf.gamma.temp .night

/-- How many Toggle calls there were, and whether the last of them was followed by a change of the
daytime or by a write that was accepted. -/
structure ToggleHistory where
  toggles : ℕ
  disturbed : Bool

def ToggleHistory.record (h : ToggleHistory) (c : GammaCtx) : ToggleEvent → ToggleHistory
  | .toggle _ => ⟨h.toggles + 1, false⟩
  | .daytime _ _ _ _ => { h with disturbed := true }
  | .write _ _ new => { h with disturbed :=
      h.disturbed || c.st.dayTime.any (fun d => decide (Accepts c.cf.gamma d new)) }

/-- GAMMA after the request with which DAYTIME starts it, and what happened since. -/
def toggleRun : Machine (GammaCtx × ToggleHistory) ToggleEvent :=
  Machine.withHistory
    { init := fun c => ∃ c₀ r d asked up, ToggleStart c₀ ∧ toggleNext c₀ (.daytime r d asked up) = some c
      next := toggleNext } ⟨0, false⟩ fun h c e _ => h.record c e

/-- What ties the flag and the last command to the history. -/
structure ToggleInv (c : GammaCtx) (h : ToggleHistory) (d : DayState) : Prop where
  steady : Steady c d
  isToggled : c.loc.isToggled = true ↔ h.toggles % 2 = 1
  last : lastTemp c.calls = some (c.cf.gamma.temp d) ↔ c.loc.isToggled = false ∨ h.disturbed = true

theorem ToggleInv.toggle {h : ToggleHistory} (hi : ToggleInv c h d) (r : GammaReplies) :
    ToggleInv (methodToggleGamma r c) ⟨h.toggles + 1, false⟩ d where
  steady := hi.steady.commanded (hi.steady.toggle r) (methodToggleGamma_cf r c)
  isToggled := by
    have hodd := hi.isToggled
    rw [(hi.steady.toggle r).isToggled]
    cases hflag : c.loc.isToggled with
    | true =>
      have hodd := hodd.mp hflag
      exact ⟨fun habsurd => (by cases habsurd), fun hodd' => by dsimp only at hodd'; omega⟩
    | false =>
      have heven : ¬ h.toggles % 2 = 1 := fun h => Bool.false_ne_true (hflag.symm.trans (hodd.mpr h))
      exact ⟨fun _ => by dsimp only; omega, fun _ => rfl⟩
  last := by
    have hne := hi.steady.other_ne
    rw [(hi.steady.toggle r).last, (hi.steady.toggle r).isToggled, methodToggleGamma_cf]
    cases c.loc.isToggled with
    | true => exact ⟨fun _ => .inl rfl, fun _ => rfl⟩
    | false =>
      constructor
      · intro heq
        exact absurd (Option.some.inj heq) hne
      · rintro (habsurd | habsurd) <;> cases habsurd

/-- A step that commands the temperature in force, whatever the flag says. -/
theorem ToggleInv.disturb {h : ToggleHistory} (hi : ToggleInv c h d) {d' : DayState}
    (hs : Steady c' d') (hc : lastTemp c'.calls = some (c'.cf.gamma.temp d'))
    (hflag : c'.loc.isToggled = c.loc.isToggled) : ToggleInv c' { h with disturbed := true } d' where
  steady := hs
  isToggled := hflag ▸ hi.isToggled
  last := ⟨fun _ => .inr rfl, fun _ => hc⟩

theorem ToggleInv.rejected {h : ToggleHistory} (hi : ToggleInv c h d) (up : TempUpd) :
    ToggleInv (validateSubscript up c) h d := by
  have hlast := lastTemp_validateSubscript up c
  obtain ⟨calls, hcalls⟩ := validateSubscript_eq up c
  rw [hcalls] at hlast ⊢
  refine ⟨⟨hi.steady.running, hi.steady.dayTime, hi.steady.ambientGamma, hi.steady.longTransition,
    hi.steady.longTransitioning, hi.steady.inLimits, hi.steady.distinct⟩, hi.isToggled, ?_⟩
  rw [hlast]
  exact hi.last

/-- A write that is accepted keeps GAMMA steady, if it leaves the temperatures distinct. -/
theorem Steady.of_write (h : Steady c d) {temp : ℤ} (htemp : TempInLimits temp)
    (hcf : c'.cf.gamma = { c.cf.gamma with temp := Function.update c.cf.gamma.temp d temp })
    (hc : Commanded temp c.loc.isToggled c c')
    (hdistinct : c'.cf.gamma.temp .day ≠ c'.cf.gamma.temp .night) : Steady c' d where
  running := hc.stack.trans h.running
  dayTime := hc.st ▸ h.dayTime
  ambientGamma := by
    rw [hcf]
    exact h.ambientGamma
  longTransition := by
    rw [hcf]
    exact h.longTransition
  longTransitioning := hc.longTransitioning
  inLimits := by
    intro d'
    rw [hcf]
    dsimp only
    by_cases hd : d' = d
    · rw [hd, Function.update_self]
      exact htemp
    · rw [Function.update_of_ne hd]
      exact h.inLimits d'
  distinct := hdistinct

theorem toggleInv_step {c c' : GammaCtx} {h : ToggleHistory} (hi : ∃ d, ToggleInv c h d)
    {e : ToggleEvent} (hn : toggleNext c e = some c') : ∃ d, ToggleInv c' (h.record c e) d := by
  obtain ⟨d, hi⟩ := hi
  cases e with
  | toggle r =>
    obtain rfl := Option.some.inj hn
    exact ⟨d, hi.toggle r⟩
  | daytime r d' asked up =>
    -- the request comes after the daytime was changed
    have hs : Steady { c with st := { c.st with dayTime := some d' } } d' :=
      ⟨hi.steady.running, rfl, hi.steady.ambientGamma, hi.steady.longTransition,
        hi.steady.longTransitioning, hi.steady.inLimits, hi.steady.distinct⟩
    obtain ⟨c₁, hhandle, hcf, hc⟩ := hs.daytime r asked up
    obtain rfl := Option.some.inj (hhandle.symm.trans hn)
    refine ⟨d', hi.disturb (hs.commanded hc hcf) ?_ hc.isToggled⟩
    rw [hcf]
    exact hc.last
  | write r up new =>
    obtain ⟨hhandle, hdistinct⟩ := Option.filter_eq_some_iff.mp hn
    rw [hi.steady.dayTime] at hhandle
    have hrecord : h.record c (.write r up new) =
        { h with disturbed := h.disturbed || decide (Accepts c.cf.gamma d new) } := by
      unfold ToggleHistory.record
      rw [hi.steady.dayTime]
      rfl
    rw [hrecord]
    by_cases hacc : Accepts c.cf.gamma d new
    · obtain ⟨c₁, hwrite, hcf, hc⟩ := hi.steady.write r
        { up with daytime := dayInt (some d), new := new, smooth := -1 } rfl hacc
      obtain rfl := Option.some.inj (hwrite.symm.trans hhandle)
      rw [decide_eq_true hacc, Bool.or_true]
      refine ⟨d, hi.disturb (hi.steady.of_write hacc hcf hc (of_decide_eq_true hdistinct)) ?_
        hc.isToggled⟩
      rw [hcf, hc.last]
      exact congrArg some (Function.update_self d _ c.cf.gamma.temp).symm
    · have hreject := hi.steady.write_rejected r
        { up with daytime := dayInt (some d), new := new, smooth := -1 } rfl hacc
      obtain rfl := Option.some.inj (hreject.symm.trans hhandle)
      rw [decide_eq_false hacc, Bool.or_false]
      exact ⟨d, hi.rejected _⟩

theorem toggleInv_reachable {s : GammaCtx × ToggleHistory} (hs : toggleRun.Reachable s) :
    ∃ d, ToggleInv s.1 s.2 d := by
  refine hs.history (I := fun c h => ∃ d, ToggleInv c h d) ?_ ?_
  · rintro c ⟨c₀, r, d, asked, up, hstart, hn⟩
    obtain ⟨initialTemp, hloc⟩ := hstart.loc
    have hs : Steady { c₀ with st := { c₀.st with dayTime := some d } } d :=
      ⟨congrArg Gamma.stack hloc, rfl, hstart.ambientGamma, hstart.longTransition,
        congrArg Gamma.longTransitioning hloc, hstart.inLimits, hstart.distinct⟩
    obtain ⟨c₁, hhandle, hcf, hc⟩ := hs.daytime r asked up
    obtain rfl := Option.some.inj (hhandle.symm.trans hn)
    have hflag : c₁.loc.isToggled = false := hc.isToggled.trans (congrArg Gamma.isToggled hloc)
    refine ⟨d, hs.commanded hc hcf, ?_, ?_⟩
    · rw [hflag]
      decide
    · rw [hcf]
      exact ⟨fun _ => .inl hflag, fun _ => hc.last⟩
  · intro c h e c' _ hi _ hn
    exact toggleInv_step hi hn

/-- A Toggle commands the temperature of the other daytime if the last one commanded was that of the
current daytime, which it commands otherwise. -/
def ToggleRight (r : GammaReplies) (c : GammaCtx) : Prop :=
  lastTemp (methodToggleGamma r c).calls =
    if lastTemp c.calls = tempAt c.cf.gamma.temp c.st.dayTime
      then some (c.cf.gamma.temp (otherDay c.st.dayTime)) else tempAt c.cf.gamma.temp c.st.dayTime

theorem ToggleInv.right_iff {h : ToggleHistory} (hi : ToggleInv c h d) (r : GammaReplies) :
    ToggleRight r c ↔ c.loc.isToggled = false ∨ h.disturbed = false := by
  have hlast := hi.last
  have hne := hi.steady.other_ne
  have hright : ToggleRight r c ↔
      (if c.loc.isToggled then c.cf.gamma.temp d else c.cf.gamma.temp d.other) =
        if lastTemp c.calls = some (c.cf.gamma.temp d) then c.cf.gamma.temp d.other
        else c.cf.gamma.temp d := by
    unfold ToggleRight
    have hside : (if lastTemp c.calls = tempAt c.cf.gamma.temp (some d)
        then some (c.cf.gamma.temp (otherDay (some d))) else tempAt c.cf.gamma.temp (some d)) =
          some (if lastTemp c.calls = some (c.cf.gamma.temp d) then c.cf.gamma.temp d.other
            else c.cf.gamma.temp d) := (apply_ite some _ _ _).symm
    rw [(hi.steady.toggle r).last, hi.steady.dayTime, hside]
    exact Option.some_inj
  rw [hright]
  cases hflag : c.loc.isToggled with
  | false =>
    rw [hflag] at hlast
    rw [if_pos (hlast.mpr (.inl rfl))]
    exact ⟨fun _ => .inl rfl, fun _ => rfl⟩
  | true =>
    rw [hflag] at hlast
    cases hdisturbed : h.disturbed with
    | false =>
      rw [hdisturbed] at hlast
      have hother : lastTemp c.calls ≠ some (c.cf.gamma.temp d) := by
        intro heq
        rcases hlast.mp heq with habsurd | habsurd <;> cases habsurd
      rw [if_neg hother]
      exact ⟨fun _ => .inr rfl, fun _ => rfl⟩
    | true =>
      rw [if_pos (hlast.mpr (.inr hdisturbed)), if_pos rfl]
      constructor
      · intro heq
        exact absurd heq.symm hne
      · rintro (habsurd | habsurd) <;> cases habsurd

/-- In every run, a Toggle is wrong when the last Toggle was an odd one and the daytime changed or the
temperature was written since, and only then. -/
theorem toggleRight_iff {s : GammaCtx × ToggleHistory} (hs : toggleRun.Reachable s)
    (r : GammaReplies) : ToggleRight r s.1 ↔ s.2.toggles % 2 = 0 ∨ s.2.disturbed = false := by
  obtain ⟨d, hi⟩ := toggleInv_reachable hs
  have hodd := hi.isToggled
  rw [hi.right_iff r]
  have heven : s.1.loc.isToggled = false ↔ s.2.toggles % 2 = 0 := by
    cases hflag : s.1.loc.isToggled with
    | true =>
      have := hodd.mp hflag
      exact ⟨fun habsurd => (by cases habsurd), fun habsurd => by omega⟩
    | false =>
      have : ¬ s.2.toggles % 2 = 1 := fun h => Bool.false_ne_true (hflag.symm.trans (hodd.mpr h))
      exact ⟨fun _ => by omega, fun _ => rfl⟩
  rw [heven]

/-- Clightd accepts every command, and the clock stands still. -/
def sentReplies : GammaReplies := ⟨0, fun _ => (0, 0), true, false, 0⟩

/-- GAMMA at its start, with the default configuration. -/
def startedCtx : GammaCtx where
  loc := { Gamma.init 6500 with stack := [] }
  st := initState .default
  cf := .default
  out := []
  calls := []

/-- It is day when DAYTIME's first request comes. -/
def followingCtx : GammaCtx :=
  Gamma.onDaytimeReq sentReplies { startedCtx with st := { startedCtx.st with dayTime := some .day } }

theorem followingCtx_init : toggleRun.init (followingCtx, ⟨0, false⟩) := by
  refine ⟨⟨startedCtx, sentReplies, .day, none, ⟨-1, 0, -1, 0, 0⟩, ?_, rfl⟩, rfl⟩
  exact ⟨⟨6500, rfl⟩, rfl, rfl, fun d => by cases d <;> decide, by decide⟩

/-- A Toggle by day and one in the following night leave the next one right. -/
theorem toggleRight_twice : ∃ s, toggleRun.run (followingCtx, ⟨0, false⟩)
      [.toggle sentReplies, .daytime sentReplies .night none ⟨-1, 0, -1, 0, 0⟩, .toggle sentReplies] =
        some s ∧ s.2 = ⟨2, false⟩ ∧ ToggleRight sentReplies s.1 := by
  have hrun : toggleRun.run (followingCtx, ⟨0, false⟩) [.toggle sentReplies,
      .daytime sentReplies .night none ⟨-1, 0, -1, 0, 0⟩, .toggle sentReplies] = some _ := rfl
  refine ⟨_, hrun, rfl, ?_⟩
  exact (toggleRight_iff (Machine.reachable_of_run followingCtx_init hrun) sentReplies).mpr (.inl rfl)

/-- By day one Toggle commands the temperature of the night; once the night has come, the next one
commands it again. -/
theorem toggleRight_nightfall : ¬ ∀ s : GammaCtx × ToggleHistory, toggleRun.Reachable s →
    ∀ r, ToggleRight r s.1 := by
  intro hall
  have hrun : toggleRun.run (followingCtx, ⟨0, false⟩)
      [.toggle sentReplies, .daytime sentReplies .night none ⟨-1, 0, -1, 0, 0⟩] = some _ := rfl
  have hright := hall _ (Machine.reachable_of_run followingCtx_init hrun) sentReplies
  unfold ToggleRight at hright
  exact absurd hright (by decide)

end Gamma

end Clight
