import Clight.ConfStores
import Clight.GammaFollow

/-! DAYTIME and GAMMA over whole runs: alarms, the messages of all the others, suspends and resumes. -/
namespace Clight

/-- DAYTIME with its static request, GAMMA with its mailbox, and all that GAMMA has commanded. -/
structure DayGamma where
  daytime : Daytime
  gamma : Gamma
  st : State
  cf : Conf
  calls : List GammaCall
  box : List Msg

/-- `alarm` is check_daytime, `publish` a message of any other module, with what a static one will hold
when it is received, and `others` what other modules and the bus library write. -/
inductive DayGammaEvent
  | alarm (sun : Calcs) (t : ℤ) (fuel : ℕ)
  | publish (m : Msg)
  | others (st : State) (cf : Conf)
  | deliver (r : GammaReplies)

namespace DayGamma

def dayCtx (s : DayGamma) : DaytimeCtx :=
  { loc := s.daytime, st := s.st, cf := s.cf, out := [], calls := [] }

def gammaCtx (s : DayGamma) : GammaCtx :=
  { loc := s.gamma, st := s.st, cf := s.cf, out := [], calls := s.calls }

/-- DAYTIME's request holds what it holds when it is received. -/
def resolve (s : DayGamma) : Msg → Msg
  | .tempReq .daytime _ => .tempReq .daytime s.daytime.tempReq
  | m => m

/-- The validator of GAMMA's receivers writes back into DAYTIME's request. -/
def validated (r : GammaReplies) (s : DayGamma) : Msg → Daytime
  | .tempReq .daytime _ =>
    if s.gamma.stack.head? = some .waitingDaytime then s.daytime
    else { s.daytime with tempReq := (validateTemp s.cf s.st r.junk s.daytime.tempReq).1 }
  | _ => s.daytime

/-- Messages that only DAYTIME or the main loop publish. -/
def reserved : Msg → Bool
  | .tempReq .daytime _ | .daytimeUpd _ _ | .systemUpd _ => true
  | _ => false

/-- Only DAYTIME writes the daytime, and only GAMMA the temperatures and the AmbientGamma flag. -/
def allowed (s : DayGamma) (st : State) (cf : Conf) : Bool :=
  st.dayTime = s.st.dayTime && cf.gamma.temp .day = s.cf.gamma.temp .day &&
    cf.gamma.temp .night = s.cf.gamma.temp .night && cf.gamma.ambientGamma = s.cf.gamma.ambientGamma &&
    cf.gamma.disabled = s.cf.gamma.disabled

def received (r : GammaReplies) (m : Msg) (box : List Msg) (c : GammaCtx) (s : DayGamma) : DayGamma :=
  { daytime := s.validated r m, gamma := c.loc, st := c.st, cf := c.cf, calls := c.calls, box := box }

def next (s : DayGamma) : DayGammaEvent → Option DayGamma
  | .alarm sun t fuel => (Daytime.checkDaytime sun t fuel s.dayCtx).map fun c =>
    { s with daytime := c.loc, st := c.st, box := s.box ++ c.out.filter Gamma.subscribes }
  | .publish m => if reserved m then none else some { s with box := s.box ++ [m] }
  | .others st cf => if s.allowed st cf then some { s with st := st, cf := cf } else none
  | .deliver r => match s.box with
    | [] => none
    | m :: box => (Gamma.handle r (s.resolve m) s.gammaCtx).map fun c => s.received r m box c

/-- GAMMA is enabled with temperatures that were checked, and DAYTIME has not computed anything. -/
structure Init (s : DayGamma) : Prop where
  gamma : s.gamma.stack = [.waitingDaytime] ∧ s.gamma.paused = .unpaused ∧
    s.gamma.longTransitioning = false
  tempReq : s.daytime.tempReq.daytime = -1 ∧ s.daytime.tempReq.new = 0
  enabled : s.cf.gamma.disabled = false
  inLimits : s.cf.gamma.TempsInLimits
  longTransition : s.cf.gamma.longTransition = false
  dayTime : s.st.dayTime = none
  box : s.box = []

/-- LongTransition stays off. -/
def Short (_ : DayGamma) : DayGammaEvent → Prop
  | .others _ cf => cf.gamma.longTransition = false
  | _ => True

end DayGamma

def dayGamma : Machine DayGamma DayGammaEvent where
  init := DayGamma.Init
  next := DayGamma.next

/-! ### What an alarm publishes -/

namespace Daytime

/-- The daytime is known, and everything that does not depend on the sun stays. -/
structure Told (c c' : DaytimeCtx) : Prop where
  dayTime : c'.st.dayTime.isSome = true
  cf : c'.cf = c.cf
  tempReq : c'.loc.tempReq = c.loc.tempReq
  out : c'.out.filter Gamma.subscribes = c.out.filter Gamma.subscribes

theorem told_evaluate {c c₁ : DaytimeCtx} (now : ℤ) (hcf : c₁.cf = c.cf)
    (hreq : c₁.loc.tempReq = c.loc.tempReq)
    (hout : c₁.out.filter Gamma.subscribes = c.out.filter Gamma.subscribes) :
    Told c (checkState now (checkNextEvent now c₁)) := by
  unfold checkState
  dsimp only
  split_ifs <;> exact ⟨rfl, hcf, hreq, hout⟩

theorem told_getNextEvents {sun : Calcs} {now : ℤ} {fuel : ℕ} {dayshift : ℤ} {c c' : DaytimeCtx}
    (h : getNextEvents sun now fuel dayshift c = some c') : Told c c' := by
  induction fuel generalizing dayshift with
  | zero => cases h
  | succ fuel ih =>
    unfold getNextEvents at h
    dsimp only at h
    split_ifs at h
    · exact ih h
    · obtain rfl := Option.some.inj h
      refine told_evaluate now rfl rfl ?_
      -- the sunrise and the sunset are not for GAMMA
      unfold storeEvents
      simp [Gamma.subscribes]
    · obtain rfl := Option.some.inj h
      exact told_evaluate now rfl rfl rfl

theorem publishChange_out {α : Type} [DecidableEq α] (mk : Option α → α → Msg) (old new : Option α)
    (c : DaytimeCtx) : ∃ ms, publishChange mk old new c = { c with out := c.out ++ ms } ∧
      (∀ v, new = some v → old ≠ new → ms = [mk old v]) ∧ ∀ m ∈ ms, ∃ v, m = mk old v := by
  unfold publishChange
  cases new with
  | none => exact ⟨[], by simp, nofun, nofun⟩
  | some v =>
    dsimp only
    split_ifs with hsame
    · exact ⟨[], by simp, fun v' _ hne => absurd hsame hne, nofun⟩
    · refine ⟨[mk old v], rfl, ?_, fun m hm => ⟨v, List.mem_singleton.mp hm⟩⟩
      intro v' hv _
      rw [Option.some.inj hv]

/-- The daytime is announced first, as GAMMA waits for it, and the temperature is asked for last. -/
structure Asks (c c' : DaytimeCtx) (d : DayState) (ms : List Msg) : Prop where
  dayTime : c'.st.dayTime = some d
  cf : c'.cf = c.cf
  tempReq : c'.loc.tempReq = { c.loc.tempReq with new := c.cf.gamma.temp d }
  request : ∃ up, .tempReq .daytime up ∈ ms
  first : c.st.dayTime ≠ some d → ∃ old rest up, ms = .daytimeUpd old d :: rest ∧ .tempReq .daytime up ∈ rest
  ordinary : ∀ sys, .systemUpd sys ∉ ms

theorem asks_checkDaytime {sun : Calcs} {t : ℤ} {fuel : ℕ} {c c' : DaytimeCtx} (hout : c.out = [])
    (henabled : c.cf.gamma.disabled = false) (h : checkDaytime sun t fuel c = some c') :
    ∃ d, Asks c c' d (c'.out.filter Gamma.subscribes) := by
  obtain ⟨c₁, hc₁, rfl⟩ := Option.map_eq_some_iff.mp h
  have htold := told_getNextEvents hc₁
  obtain ⟨d, hd⟩ := Option.isSome_iff_exists.mp htold.dayTime
  obtain ⟨ms, hms, hfirst, hday⟩ := publishChange_out .daytimeUpd c.st.dayTime c₁.st.dayTime c₁
  obtain ⟨ms', hms', -, hnext⟩ := publishChange_out .nextDayevtUpd c.st.nextEvent c₁.st.nextEvent
    { c₁ with out := c₁.out ++ ms }
  have hevent : ∃ ms'', (if c.st.inEvent = c₁.st.inEvent then { c₁ with out := c₁.out ++ ms ++ ms' } else
      Ctx.publish (.inEventUpd c.st.inEvent c₁.st.inEvent) { c₁ with out := c₁.out ++ ms ++ ms' }) =
        { c₁ with out := c₁.out ++ ms ++ ms' ++ ms'' } ∧ ∀ sys, .systemUpd sys ∉ ms'' := by
    split_ifs
    · exact ⟨[], by simp, nofun⟩
    · exact ⟨_, rfl, by simp⟩
  obtain ⟨ms'', hms'', hin⟩ := hevent
  have hann : announce c.st c₁ = requestTemp { c₁ with out := c₁.out ++ ms ++ ms' ++ ms'' } := by
    unfold announce
    rw [hms]
    dsimp only
    rw [hms']
    dsimp only
    rw [hms'']
  have henabled₁ : c₁.cf.gamma.disabled = false := by
    rw [htold.cf]
    exact henabled
  have hreq : requestTemp { c₁ with out := c₁.out ++ ms ++ ms' ++ ms'' } =
      { c₁ with
        loc := { c₁.loc with tempReq := { c₁.loc.tempReq with new := c₁.cf.gamma.temp d } }
        out := c₁.out ++ ms ++ ms' ++ ms'' ++
          [.tempReq .daytime { c₁.loc.tempReq with new := c₁.cf.gamma.temp d }] } := by
    unfold requestTemp
    dsimp only
    rw [hd]
    dsimp only
    rw [henabled₁]
    rfl
  have hfiltered : (setAlarm t (announce c.st c₁)).out.filter Gamma.subscribes =
      ms.filter Gamma.subscribes ++ (ms'.filter Gamma.subscribes ++ ms''.filter Gamma.subscribes ++
        [.tempReq .daytime { c₁.loc.tempReq with new := c₁.cf.gamma.temp d }]) := by
    have hnone : c₁.out.filter Gamma.subscribes = [] := by
      rw [htold.out, hout]
      rfl
    rw [hann, hreq]
    unfold setAlarm
    simp [List.filter_append, hnone, Gamma.subscribes]
  have hlast : Msg.tempReq .daytime { c₁.loc.tempReq with new := c₁.cf.gamma.temp d } ∈
      ms'.filter Gamma.subscribes ++ ms''.filter Gamma.subscribes ++
        [.tempReq .daytime { c₁.loc.tempReq with new := c₁.cf.gamma.temp d }] :=
    List.mem_append_right _ (List.mem_singleton_self _)
  have hordinary : ∀ sys, Msg.systemUpd sys ∉ (setAlarm t (announce c.st c₁)).out.filter Gamma.subscribes := by
    intro sys hsys
    simp only [hfiltered, List.mem_append, List.mem_filter, List.mem_singleton] at hsys
    rcases hsys with hsys | (hsys | hsys) | hsys
    · obtain ⟨v, hv⟩ := hday _ hsys.1
      cases hv
    · obtain ⟨v, hv⟩ := hnext _ hsys.1
      cases hv
    · exact hin sys hsys.1
    · cases hsys
  refine ⟨d, ?_, ?_, ?_, ?_, ?_, hordinary⟩
  · rw [hann, hreq]
    exact hd
  · rw [hann, hreq]
    exact htold.cf
  · rw [hann, hreq, htold.cf, htold.tempReq]
    rfl
  · rw [hfiltered]
    exact ⟨_, List.mem_append_right _ hlast⟩
  · intro hne
    rw [hfiltered, hfirst d hd (by rw [hd]; exact hne)]
    exact ⟨_, _, _, rfl, hlast⟩

end Daytime
namespace DayGamma

/-! ### The request of DAYTIME -/

/-- What DAYTIME's request may hold: a daytime or -1, and a temperature within the limits or 0. -/
structure Asked (up : TempUpd) : Prop where
  daytime : up.daytime = -1 ∨ (DayState.ofInt? up.daytime).isSome = true
  new : up.new = 0 ∨ TempInLimits up.new

theorem ofInt_dayInt (d : DayState) : DayState.ofInt? (dayInt (some d)) = some d := by
  cases d <;> rfl

theorem Asked.syncDay {up : TempUpd} (h : Asked up) {st : State} {d : DayState} (hd : st.dayTime = some d) :
    (syncDay st up).isSome = true := by
  unfold Clight.syncDay
  rw [hd]
  rcases h.daytime with hnone | hday
  · rw [if_pos hnone, ofInt_dayInt]
    rfl
  · split_ifs
    · rw [ofInt_dayInt]
      rfl
    · exact hday

theorem Asked.inLimits {up : TempUpd} (h : Asked up) {st : State} {d : DayState} (hd : st.dayTime = some d)
    {cf : Conf} (hcf : cf.gamma.TempsInLimits) (junk : ℤ) : TempInLimits (validateTemp cf st junk up).1.new := by
  obtain ⟨d', hd'⟩ := Option.isSome_iff_exists.mp (h.syncDay hd)
  rw [validateTemp_new, hd']
  split_ifs with hzero
  · exact hcf d'
  · exact h.new.resolve_left hzero

/-- The validator leaves it such a request. -/
theorem Asked.validated {up : TempUpd} (h : Asked up) {st : State} {d : DayState} (hd : st.dayTime = some d)
    {cf : Conf} (hcf : cf.gamma.TempsInLimits) (junk : ℤ) : Asked (validateTemp cf st junk up).1 where
  daytime := by
    rw [validateTemp_daytime]
    exact .inr (h.syncDay hd)
  new := .inr (h.inLimits hd hcf junk)

theorem Asked.accepted {up : TempUpd} (h : Asked up) {c : GammaCtx} {d : DayState}
    (hd : c.st.dayTime = some d) (hcf : c.cf.gamma.TempsInLimits) (r : GammaReplies) :
    (Gamma.acceptTemp r up c).isSome = true := by
  have hlimits := h.inLimits hd hcf r.junk
  have hsync := h.syncDay hd
  have hok : (validateTemp c.cf c.st r.junk up).2 = true :=
    (validateTemp_ok c.cf c.st r.junk up).mpr ⟨hlimits.1, hlimits.2, hsync⟩
  unfold Gamma.acceptTemp
  dsimp only
  rw [if_pos hok, Option.isSome_map, validateTemp_daytime]
  exact hsync

/-! ### The invariant -/

/-- DAYTIME's request is on its way. -/
def Pending (box : List Msg) : Prop := ∃ up, .tempReq .daytime up ∈ box

/-- So is the message that GAMMA waits for, before a request. -/
def Announced (box : List Msg) : Prop :=
  ∃ pre old d rest, box = pre ++ .daytimeUpd old d :: rest ∧ Pending rest

theorem Pending.append {box : List Msg} (h : Pending box) (ms : List Msg) : Pending (box ++ ms) := by
  obtain ⟨up, hup⟩ := h
  exact ⟨up, List.mem_append_left ms hup⟩

theorem Announced.append {box : List Msg} (h : Announced box) (ms : List Msg) : Announced (box ++ ms) := by
  obtain ⟨pre, old, d, rest, rfl, hrest⟩ := h
  refine ⟨pre, old, d, rest ++ ms, ?_, hrest.append ms⟩
  rw [List.append_assoc, List.cons_append]

theorem Announced.pending {m : Msg} {box : List Msg} (h : Announced (m :: box)) : Pending box := by
  obtain ⟨pre, old, d, rest, hbox, up, hup⟩ := h
  cases pre with
  | nil =>
    obtain ⟨-, rfl⟩ := List.cons.inj hbox
    exact ⟨up, hup⟩
  | cons x pre =>
    obtain ⟨-, rfl⟩ := List.cons.inj hbox
    exact ⟨up, List.mem_append_right pre (List.mem_cons_of_mem _ hup)⟩

theorem Announced.tail {m : Msg} {box : List Msg} (h : Announced (m :: box))
    (hm : ∀ old d, m ≠ .daytimeUpd old d) : Announced box := by
  obtain ⟨pre, old, d, rest, hbox, hrest⟩ := h
  cases pre with
  | nil => exact absurd (List.cons.inj hbox).1 (hm old d)
  | cons x pre => exact ⟨pre, old, d, rest, (List.cons.inj hbox).2, hrest⟩

/-- GAMMA has not started, and will once there is a daytime. -/
structure Waiting (s : DayGamma) : Prop where
  stack : s.gamma.stack = [.waitingDaytime]
  paused : s.gamma.paused.isUnpaused = true
  box : (s.st.dayTime = none ∧ ∀ old d, .daytimeUpd old d ∉ s.box) ∨
    (s.st.dayTime.isSome = true ∧ Announced s.box)

/-- GAMMA has the temperature of the daytime, or will have it. -/
structure Started (s : DayGamma) : Prop where
  stack : s.gamma.stack = pausedStack .paused s.gamma.paused
  due : ∃ d, s.st.dayTime = some d ∧ (Gamma.Due s.gammaCtx d ∨ Pending s.box)

structure Inv (s : DayGamma) : Prop where
  asked : Asked s.daytime.tempReq
  enabled : s.cf.gamma.disabled = false
  inLimits : s.cf.gamma.TempsInLimits
  longTransition : s.cf.gamma.longTransition = false
  longTransitioning : s.gamma.longTransitioning = false
  ordinary : ∀ sys, .systemUpd sys ∉ s.box
  stage : Waiting s ∨ Started s

variable {s s' : DayGamma}

theorem Inv.prompt (h : Inv s) {d : DayState} (hd : s.st.dayTime = some d) : Gamma.Prompt s.gammaCtx d :=
  ⟨hd, h.longTransition, h.longTransitioning⟩

theorem Inv.init (h : Init s) : Inv s where
  asked := ⟨.inl h.tempReq.1, .inl h.tempReq.2⟩
  enabled := h.enabled
  inLimits := h.inLimits
  longTransition := h.longTransition
  longTransitioning := h.gamma.2.2
  ordinary := by
    rw [h.box]
    exact fun _ => List.not_mem_nil
  stage := by
    refine .inl ⟨h.gamma.1, ?_, .inl ⟨h.dayTime, ?_⟩⟩
    · rw [h.gamma.2.1]
      rfl
    · rw [h.box]
      exact fun _ _ => List.not_mem_nil

/-! ### Steps -/

theorem Inv.alarm (h : Inv s) {c : DaytimeCtx} {d : DayState} {ms : List Msg}
    (hc : Daytime.Asks s.dayCtx c d ms) : Inv { s with daytime := c.loc, st := c.st, box := s.box ++ ms } where
  asked := by
    have hold := h.asked
    dsimp only
    rw [hc.tempReq]
    exact ⟨hold.daytime, .inr (h.inLimits d)⟩
  enabled := h.enabled
  inLimits := h.inLimits
  longTransition := h.longTransition
  longTransitioning := h.longTransitioning
  ordinary sys hsys := by
    rcases List.mem_append.mp hsys with hsys | hsys
    · exact h.ordinary sys hsys
    · exact hc.ordinary sys hsys
  stage := by
    rcases h.stage with hwait | hrun
    · refine .inl ⟨hwait.stack, hwait.paused, .inr ⟨by dsimp only; rw [hc.dayTime]; rfl, ?_⟩⟩
      rcases hwait.box with ⟨hnone, -⟩ | ⟨-, hann⟩
      · -- the first alarm announces the daytime
        have hnew : s.dayCtx.st.dayTime ≠ some d := by
          change s.st.dayTime ≠ some d
          rw [hnone]
          exact nofun
        obtain ⟨old, rest, up, hms, hup⟩ := hc.first hnew
        exact ⟨s.box, old, d, rest, by rw [hms], up, hup⟩
      · exact hann.append ms
    · obtain ⟨up, hup⟩ := hc.request
      exact .inr ⟨hrun.stack, d, hc.dayTime, .inr ⟨up, List.mem_append_right s.box hup⟩⟩

theorem Inv.publish (h : Inv s) {m : Msg} (hm : reserved m = false) : Inv { s with box := s.box ++ [m] } where
  asked := h.asked
  enabled := h.enabled
  inLimits := h.inLimits
  longTransition := h.longTransition
  longTransitioning := h.longTransitioning
  ordinary sys hsys := by
    rcases List.mem_append.mp hsys with hsys | hsys
    · exact h.ordinary sys hsys
    · rw [← List.mem_singleton.mp hsys] at hm
      cases hm
  stage := by
    rcases h.stage with hwait | hrun
    · refine .inl ⟨hwait.stack, hwait.paused, ?_⟩
      rcases hwait.box with ⟨hnone, hbox⟩ | ⟨hsome, hann⟩
      · refine .inl ⟨hnone, fun old d hmem => ?_⟩
        rcases List.mem_append.mp hmem with hmem | hmem
        · exact hbox old d hmem
        · rw [← List.mem_singleton.mp hmem] at hm
          cases hm
      · exact .inr ⟨hsome, hann.append [m]⟩
    · obtain ⟨d, hd, hdue⟩ := hrun.due
      exact .inr ⟨hrun.stack, d, hd, hdue.imp id fun hp => hp.append [m]⟩

/-- Nobody else tells GAMMA what its temperatures are. -/
theorem Inv.others (h : Inv s) {st : State} {cf : Conf} (hok : s.allowed st cf = true)
    (hlong : cf.gamma.longTransition = false) : Inv { s with st := st, cf := cf } := by
  unfold allowed at hok
  simp only [Bool.and_eq_true, decide_eq_true_eq] at hok
  obtain ⟨⟨⟨⟨hday, htempDay⟩, htempNight⟩, hambient⟩, hdisabled⟩ := hok
  have htemp : ∀ d, cf.gamma.temp d = s.cf.gamma.temp d := by
    intro d
    cases d with
    | day => exact htempDay
    | night => exact htempNight
  refine ⟨h.asked, hdisabled.trans h.enabled, fun d => ?_, hlong, h.longTransitioning, h.ordinary, ?_⟩
  · dsimp only
    rw [htemp d]
    exact h.inLimits d
  · rcases h.stage with hwait | hrun
    · refine .inl ⟨hwait.stack, hwait.paused, ?_⟩
      dsimp only
      rw [hday]
      exact hwait.box
    · obtain ⟨d, hd, hdue⟩ := hrun.due
      refine .inr ⟨hrun.stack, d, hday.trans hd, hdue.imp ?_ id⟩
      rintro (hlit | hsync)
      · left
        intro hoff
        have hlast := hlit (hambient.symm.trans hoff)
        exact hlast.trans (congrArg some (htemp d).symm)
      · exact .inr hsync

theorem Inv.ordinary_tail (h : Inv s) {m : Msg} {box : List Msg} (hbox : s.box = m :: box) :
    ∀ sys, .systemUpd sys ∉ box := by
  intro sys hsys
  apply h.ordinary sys
  rw [hbox]
  exact List.mem_cons_of_mem m hsys

/-- A waiting GAMMA does not look at DAYTIME's request. -/
theorem Waiting.validated (hwait : Waiting s) (r : GammaReplies) (m : Msg) : s.validated r m = s.daytime := by
  unfold DayGamma.validated
  split
  · rw [hwait.stack]
    rfl
  · rfl

/-- The first daytime starts GAMMA. -/
theorem Inv.receive_first (h : Inv s) (hwait : Waiting s) {old : Option DayState} {d : DayState}
    {box : List Msg} (hbox : s.box = .daytimeUpd old d :: box) {r : GammaReplies} {c : GammaCtx}
    (hc : Gamma.handle r (.daytimeUpd old d) s.gammaCtx = some c) :
    Inv (s.received r (.daytimeUpd old d) box c) := by
  have hstart : c = { s.gammaCtx with loc := { s.gamma with stack := unbecome s.gamma.stack } } := by
    unfold Gamma.handle gammaCtx at hc
    dsimp only at hc
    rw [hwait.stack] at hc ⊢
    dsimp only at hc
    split_ifs at hc
    exact (Option.some.inj hc).symm
  subst hstart
  have hstage := hwait.box
  rw [hbox] at hstage
  rcases hstage with ⟨-, hnone⟩ | ⟨hsome, hann⟩
  · exact absurd List.mem_cons_self (hnone old d)
  · obtain ⟨d', hd'⟩ := Option.isSome_iff_exists.mp hsome
    have hstack : unbecome s.gamma.stack = pausedStack .paused s.gamma.paused := by
      unfold pausedStack
      rw [hwait.stack, if_pos hwait.paused]
      rfl
    exact ⟨h.asked, h.enabled, h.inLimits, h.longTransition, h.longTransitioning, h.ordinary_tail hbox,
      .inr ⟨hstack, d', hd', .inr hann.pending⟩⟩

/-- Before it, GAMMA listens to nothing. -/
theorem Inv.receive_waiting (h : Inv s) (hwait : Waiting s) {m : Msg} {box : List Msg}
    (hbox : s.box = m :: box) (hm : ∀ old d, m ≠ .daytimeUpd old d) {r : GammaReplies} {c : GammaCtx}
    (hc : Gamma.handle r (s.resolve m) s.gammaCtx = some c) : Inv (s.received r m box c) := by
  have hsame : c = s.gammaCtx := by
    unfold Gamma.handle gammaCtx at hc
    dsimp only at hc
    rw [hwait.stack] at hc
    cases m
    case daytimeUpd old d => exact absurd rfl (hm old d)
    case tempReq sender up => cases sender <;> exact (Option.some.inj hc).symm
    all_goals exact (Option.some.inj hc).symm
  subst hsame
  have hstage := hwait.box
  rw [hbox] at hstage
  refine ⟨?_, h.enabled, h.inLimits, h.longTransition, h.longTransitioning, h.ordinary_tail hbox,
    .inl ⟨hwait.stack, hwait.paused, ?_⟩⟩
  · unfold received
    rw [hwait.validated r m]
    exact h.asked
  · rcases hstage with ⟨hnone, hbox⟩ | ⟨hsome, hann⟩
    · exact .inl ⟨hnone, fun old d hmem => hbox old d (List.mem_cons_of_mem m hmem)⟩
    · exact .inr ⟨hsome, hann.tail hm⟩

/-- Once GAMMA runs, DAYTIME's request puts its temperature right, and nothing else puts it wrong. -/
theorem Inv.receive_started (h : Inv s) (hrun : Started s) {m : Msg} {box : List Msg}
    (hbox : s.box = m :: box) {r : GammaReplies} {c : GammaCtx}
    (hc : Gamma.handle r (s.resolve m) s.gammaCtx = some c) : Inv (s.received r m box c) := by
  obtain ⟨d, hd, hdue⟩ := hrun.due
  have hsys : ∀ sys, s.resolve m ≠ .systemUpd sys := by
    intro sys hsys
    have hm : m = .systemUpd sys := by
      unfold resolve at hsys
      split at hsys
      · cases hsys
      · exact hsys
    apply h.ordinary sys
    rw [hbox, hm]
    exact List.mem_cons_self
  obtain ⟨hprompt, hkept⟩ := (h.prompt hd).handle hrun.stack hsys hc
  have hbit := Gamma.handle_bit r (s.resolve m) hrun.stack hc
  have hstage : Gamma.Due c d ∨ Pending box := by
    by_cases hm : ∃ up, m = .tempReq .daytime up
    · obtain ⟨up, rfl⟩ := hm
      have haccepted := h.asked.accepted (c := s.gammaCtx) hd h.inLimits r
      exact .inl ((h.prompt hd).handle_daytime hrun.stack haccepted hc)
    · refine hdue.imp hkept ?_
      rintro ⟨up, hup⟩
      rw [hbox, List.mem_cons] at hup
      rcases hup with hup | hup
      · exact absurd ⟨up, hup.symm⟩ hm
      · exact ⟨up, hup⟩
  refine ⟨?_, ?_, Gamma.handle_inLimits h.inLimits hc, hprompt.longTransition, hprompt.longTransitioning,
    h.ordinary_tail hbox, .inr ⟨hbit.2.2, d, hprompt.dayTime, hstage⟩⟩
  · unfold received DayGamma.validated
    dsimp only
    split
    · split_ifs
      · exact h.asked
      · exact h.asked.validated hd h.inLimits r.junk
    · exact h.asked
  · change c.cf.gamma.disabled = false
    rcases Gamma.handle_cf hc with hcf | ⟨-, ⟨t, hcf⟩ | ⟨new, -, hcf⟩⟩
    · rw [hcf]
      exact h.enabled
    · rw [hcf]
      exact h.enabled
    · rw [hcf]
      exact h.enabled

theorem Inv.step {e : DayGammaEvent} (h : Inv s) (he : Short s e) (hn : dayGamma.next s e = some s') :
    Inv s' := by
  cases e with
  | alarm sun t fuel =>
    obtain ⟨c, hc, rfl⟩ := Option.map_eq_some_iff.mp hn
    obtain ⟨d, hasks⟩ := Daytime.asks_checkDaytime rfl h.enabled hc
    exact h.alarm hasks
  | publish m =>
    change (if reserved m then none else _) = some s' at hn
    split_ifs at hn with hm
    obtain rfl := Option.some.inj hn
    exact h.publish (by simpa using hm)
  | others st cf =>
    change (if s.allowed st cf then _ else none) = some s' at hn
    split_ifs at hn with hok
    obtain rfl := Option.some.inj hn
    exact h.others hok he
  | deliver r =>
    cases hbox : s.box with
    | nil =>
      have hnone : dayGamma.next s (.deliver r) = none := by simp [dayGamma, next, hbox]
      rw [hnone] at hn
      cases hn
    | cons m box =>
      have hsome : dayGamma.next s (.deliver r) =
          (Gamma.handle r (s.resolve m) s.gammaCtx).map fun c => s.received r m box c := by
        simp [dayGamma, next, hbox]
      rw [hsome] at hn
      obtain ⟨c, hc, rfl⟩ := Option.map_eq_some_iff.mp hn
      rcases h.stage with hwait | hrun
      · by_cases hm : ∃ old d, m = .daytimeUpd old d
        · obtain ⟨old, d, rfl⟩ := hm
          exact h.receive_first hwait hbox hc
        · exact h.receive_waiting hwait hbox (fun old d he => hm ⟨old, d, he⟩) hc
      · exact h.receive_started hrun hbox hc

end DayGamma

/-- Through any alarms, suspends, writes and requests of others, syncs after a hotplug and spells of
ambient gamma, and however late GAMMA receives it all: once it has, and runs, the temperature that
it commanded last is the one configured for the time of day, unless ambient gamma is on. -/
theorem gamma_follows_daytime {s : DayGamma} (hs : dayGamma.ReachableBy DayGamma.Short s)
    (hbox : s.box = []) (hrun : s.gamma.stack = []) (hambient : s.cf.gamma.ambientGamma = false) :
    ∃ d, s.st.dayTime = some d ∧ lastTemp s.calls = some (s.cf.gamma.temp d) := by
  have h : DayGamma.Inv s :=
    hs.invariant (fun _ => DayGamma.Inv.init) fun _ _ _ h he hn => h.step he hn
  rcases h.stage with hwait | hstarted
  · rw [hwait.stack] at hrun
    cases hrun
  · obtain ⟨d, hd, hdue | ⟨up, hup⟩⟩ := hstarted.due
    · exact ⟨d, hd, hdue.of_running hrun hambient⟩
    · rw [hbox] at hup
      cases hup

def DayGamma.start (cf : Conf) : DayGamma where
  daytime := { dayFd := none, tempReq := { daytime := -1, new := 0, smooth := -1, step := 0, timeout := 0 } }
  gamma := .init 6500
  st := initState cf
  cf := cf
  calls := []
  box := []

/-- An alarm at noon, with the night temperature changed before GAMMA receives it, and one at night. -/
def DayGamma.nightfall : List DayGammaEvent :=
  let sun : Calcs := fun e _ => match e with
    | .sunrise => ⟨true, 20000⟩
    | .sunset => ⟨true, 60000⟩
  [.alarm sun 40000 2,
    .publish (.tempReq .gamma { daytime := 1, new := 3000, smooth := -1, step := 0, timeout := 0 }),
    .deliver Gamma.sentReplies, .deliver Gamma.sentReplies, .deliver Gamma.sentReplies,
    .deliver Gamma.sentReplies, .alarm sun 61000 2, .deliver Gamma.sentReplies,
    .deliver Gamma.sentReplies]

theorem gamma_follows_daytime_nightfall : ∃ s, dayGamma.run (.start .default) DayGamma.nightfall = some s ∧
    lastTemp s.calls = some 3000 ∧
      ∃ d, s.st.dayTime = some d ∧ lastTemp s.calls = some (s.cf.gamma.temp d) := by
  have hinit : dayGamma.init (.start .default) :=
    ⟨⟨rfl, rfl, rfl⟩, ⟨rfl, rfl⟩, rfl, fun d => by cases d <;> decide, rfl, rfl, rfl⟩
  have hend : (dayGamma.run (.start .default) DayGamma.nightfall).any (fun s =>
      s.box.isEmpty && s.gamma.stack.isEmpty && !s.cf.gamma.ambientGamma &&
        lastTemp s.calls = some 3000) = true := by
    decide +kernel
  obtain ⟨s, hs, hp⟩ := (Option.any_eq_true _ _).mp hend
  simp only [Bool.and_eq_true, List.isEmpty_iff, Bool.not_eq_true', decide_eq_true_eq] at hp
  have hshort : dayGamma.RunBy DayGamma.Short (.start .default) DayGamma.nightfall := by
    apply Machine.runBy_of_forall
    intro e he s'
    unfold DayGamma.nightfall at he
    simp only [List.mem_cons, List.not_mem_nil, or_false] at he
    rcases he with rfl | rfl | rfl | rfl | rfl | rfl | rfl | rfl | rfl
    all_goals trivial
  exact ⟨s, hs, hp.2, gamma_follows_daytime (.of_run _ (.init hinit) hshort hs) hp.1.1.1 hp.1.1.2 hp.1.2⟩

end Clight
