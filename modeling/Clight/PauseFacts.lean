import Clight.Modules
import Clight.PauseBitsIdle

/-! The pause masks against the state they mirror, in every run of the six modules. A module
hears of a change by an update; one that comes before the module has started is lost on it. -/
namespace Clight

namespace PausableMod

/-- The facts that a module subscribes to. -/
def watches : PausableMod → ModPause → Bool
  | _, .suspend => true
  | backlight, .display | screen, .display | keyboard, .display => true
  | backlight, .inhibit | screen, .inhibit | dimmer, .inhibit | dpms, .inhibit => true
  | _, _ => false

def heard (st : State) (cf : Conf) (r : ModPause) : PausableMod → Bool
  | backlight | screen => heardBl st cf r
  | _ => st.fact r

/-- An inhibition counts for the module. -/
def Heeds (cf : Conf) (r : ModPause) (x : PausableMod) : Prop :=
  r = .inhibit → x = backlight ∨ x = screen → cf.inh.inhibitBl = true

theorem heard_eq_fact {st : State} {cf : Conf} {r : ModPause} {x : PausableMod}
    (h : x.Heeds cf r) : x.heard st cf r = st.fact r := by
  have hbl : x = backlight ∨ x = screen → heardBl st cf r = st.fact r := by
    intro hx
    cases r with
    | inhibit =>
      have hon := h rfl hx
      change (st.inhibited && cf.inh.inhibitBl) = st.inhibited
      rw [hon, Bool.and_true]
    | _ => rfl
  cases x with
  | backlight => exact hbl (.inl rfl)
  | screen => exact hbl (.inr rfl)
  | _ => rfl

theorem watches_mem {x : PausableMod} {r : ModPause} (h : x.watches r = true) : r ∈ factReasons := by
  revert h
  cases x <;> cases r <;> decide

theorem receives_of_announces {x : PausableMod} {r : ModPause} {m : Msg} (hx : x.watches r = true)
    (hm : m.announces r = true) : x.receives m = true := by
  cases m <;> simp only [Msg.announces, Bool.false_eq_true, decide_eq_true_eq] at hm
  all_goals
    subst hm
    cases x <;> first | rfl | cases hx

/-- The messages on which a waiting module starts. -/
def startsOn (cf : Conf) (m : Msg) : (x : PausableMod) → x.Loc → Bool
  | backlight, l => (Backlight.started cf m (Backlight.ok l)).all
  | gamma, _ => match m with
    | .daytimeUpd _ _ => true
    | _ => false
  | _, _ => match m with
    | .upowerUpd _ _ => true
    | _ => false

/-- What one message does to a module that runs. -/
theorem handle_of_running {fit : Fit} {rep : ModReplies} {m : Msg} {st : State} {cf : Conf}
    {x : PausableMod} {l : x.Loc} {h : Handled x.Loc} (hrun : x.Running l)
    (hh : x.handle fit rep m st cf l = some h) {r : ModPause} (hw : x.watches r = true) :
    (x.mask h.loc).has r = (if m.announces r then x.heard st cf r else (x.mask l).has r) ∧
      h.st.facts = st.facts ∧ x.Running h.loc := by
  have hr := watches_mem hw
  cases x with
  | backlight =>
    obtain rfl := Option.some.inj hh
    exact ⟨Backlight.handle_bit fit rep.bl m (c := ctx l st cf) hrun hr,
      Backlight.handle_facts fit rep.bl m (c := ctx l st cf) hrun,
      Backlight.handle_running fit rep.bl m (c := ctx l st cf) hrun⟩
  | screen =>
    obtain rfl := Option.some.inj hh
    obtain ⟨hbit, hstack⟩ := Screen.handle_bit rep.screen m (c := ctx l st cf) hrun hr
    exact ⟨hbit, Screen.handle_facts rep.screen m _, hstack⟩
  | keyboard =>
    obtain rfl := Option.some.inj hh
    have hr' : r = .display ∨ r = .suspend := by
      revert hw
      cases r <;> decide
    exact Keyboard.handle_bit fit rep.kbd m (c := ctx l st cf) hrun hr'
  | dimmer =>
    obtain ⟨c, hc, rfl⟩ := Option.map_eq_some_iff.mp hh
    have hr' : r = .suspend ∨ r = .inhibit := by
      revert hw
      cases r <;> decide
    obtain ⟨hbit, hst, hrun'⟩ := Idle.handle_bit dimmerConf rep.idle m (c := ctx l st cf) hrun hc hr'
    exact ⟨hbit, congrArg State.facts hst, hrun'⟩
  | dpms =>
    obtain ⟨c, hc, rfl⟩ := Option.map_eq_some_iff.mp hh
    have hr' : r = .suspend ∨ r = .inhibit := by
      revert hw
      cases r <;> decide
    obtain ⟨hbit, hst, hrun'⟩ := Idle.handle_bit dpmsConf rep.idle m (c := ctx l st cf) hrun hc hr'
    exact ⟨hbit, congrArg State.facts hst, hrun'⟩
  | gamma =>
    obtain ⟨c, hc, rfl⟩ := Option.map_eq_some_iff.mp hh
    have hr' : r = .suspend := by
      revert hw
      cases r <;> decide
    subst hr'
    obtain ⟨hbit, hst, hrun'⟩ := Gamma.handle_bit rep.gamma m (c := ctx l st cf) hrun hc
    exact ⟨hbit, congrArg State.facts hst, hrun'⟩

/-- What one message does to a module that waits: it ignores it, or starts with a clear mask. -/
theorem handle_of_waiting {fit : Fit} {rep : ModReplies} {m : Msg} {st : State} {cf : Conf}
    {x : PausableMod} {l : x.Loc} {h : Handled x.Loc} (hwait : x.Waiting l)
    (hh : x.handle fit rep m st cf l = some h) :
    h.st.facts = st.facts ∧ (x.Waiting h.loc ∨ x.startsOn cf m l = true ∧ x.Running h.loc ∧
      ∀ r ∈ factReasons, (x.mask h.loc).has r = false) := by
  cases x with
  | backlight =>
    obtain rfl := Option.some.inj hh
    exact Backlight.handle_waiting_bits fit rep.bl m (c := ctx l st cf) hwait.1 hwait.2
  | screen =>
    obtain rfl := Option.some.inj hh
    obtain ⟨hstack, hpaused, hreg⟩ := hwait
    have hfacts := Screen.handle_facts rep.screen m (ctx l st cf)
    refine ⟨hfacts, ?_⟩
    rcases Screen.handle_waiting rep.screen m (c := ctx l st cf) hstack hpaused with
      he | ⟨⟨old, new, rfl⟩, hrun, hbits⟩
    · left
      change Screen.stack (Screen.handle rep.screen m (ctx l st cf)).loc = _ ∧
        Screen.paused (Screen.handle rep.screen m (ctx l st cf)).loc = _ ∧
        Screen.registered (Screen.handle rep.screen m (ctx l st cf)).loc = _
      rw [he]
      exact ⟨hstack, hpaused, hreg⟩
    · exact .inr ⟨rfl, hrun, hbits⟩
  | keyboard =>
    obtain rfl := Option.some.inj hh
    obtain ⟨hfacts, he | ⟨⟨old, new, rfl⟩, hrun, hbits⟩⟩ :=
      Keyboard.handle_waiting_bits fit rep.kbd m (c := ctx l st cf) hwait.1 hwait.2
    · refine ⟨hfacts, .inl ?_⟩
      change Keyboard.stack (Keyboard.handle fit rep.kbd m (ctx l st cf)).loc = _ ∧
        Keyboard.paused (Keyboard.handle fit rep.kbd m (ctx l st cf)).loc = _
      rw [he]
      exact hwait
    · exact ⟨hfacts, .inr ⟨rfl, hrun, hbits⟩⟩
  | dimmer =>
    obtain ⟨c, hc, rfl⟩ := Option.map_eq_some_iff.mp hh
    rcases Idle.handle_waiting dimmerConf rep.idle m (c := ctx l st cf) hwait.1 hwait.2 hc with
      rfl | ⟨⟨old, new, rfl⟩, hst, hrun, hbits⟩
    · exact ⟨rfl, .inl hwait⟩
    · exact ⟨congrArg State.facts hst, .inr ⟨rfl, hrun, hbits⟩⟩
  | dpms =>
    obtain ⟨c, hc, rfl⟩ := Option.map_eq_some_iff.mp hh
    rcases Idle.handle_waiting dpmsConf rep.idle m (c := ctx l st cf) hwait.1 hwait.2 hc with
      rfl | ⟨⟨old, new, rfl⟩, hst, hrun, hbits⟩
    · exact ⟨rfl, .inl hwait⟩
    · exact ⟨congrArg State.facts hst, .inr ⟨rfl, hrun, hbits⟩⟩
  | gamma =>
    obtain ⟨c, hc, rfl⟩ := Option.map_eq_some_iff.mp hh
    rcases Gamma.handle_waiting rep.gamma m (c := ctx l st cf) hwait.1 hc with rfl | ⟨⟨old, new, rfl⟩, rfl⟩
    · exact ⟨rfl, .inl hwait⟩
    · refine ⟨rfl, .inr ⟨rfl, ?_, ?_⟩⟩
      · change [] = pausedStack GammaRecv.paused (Gamma.paused l)
        rw [hwait.2]
        rfl
      · intro r _
        change (Gamma.paused l).has r = false
        rw [hwait.2, PauseMask.has_unpaused]

theorem not_running_of_waiting {x : PausableMod} {l : x.Loc} (h : x.Waiting l) : ¬x.Running l := by
  have hstack : ∀ {ρ : Type} (w p : ρ) (m : PauseMask), m = .unpaused → [w] ≠ pausedStack p m := by
    rintro ρ w p m rfl he
    cases he
  intro hrun
  cases x with
  | backlight =>
    have hw : Backlight.isWaiting l = true := h.1.isWaiting
    have hnot : Backlight.isWaiting l = false := Backlight.Running.not_waiting hrun
    rw [hnot] at hw
    cases hw
  | screen =>
    have he : [ScreenRecv.waitingState] = [] := h.1.symm.trans hrun
    cases he
  | keyboard => exact hstack KbdRecv.waitingInit .paused _ h.2 (h.1.symm.trans hrun)
  | dimmer => exact hstack IdleRecv.waitingAcstate .paused _ h.2 (h.1.symm.trans hrun)
  | dpms => exact hstack IdleRecv.waitingAcstate .paused _ h.2 (h.1.symm.trans hrun)
  | gamma => exact hstack GammaRecv.waitingDaytime .paused _ h.2 (h.1.symm.trans hrun)

/-- A descriptor is registered only once the module runs. -/
theorem not_waiting_of_registered {x : PausableMod} {l : x.Loc} {fd : Fd}
    (h : x.registered l fd = true) : ¬x.Waiting l := by
  intro hw
  cases x with
  | backlight =>
    cases fd with
    | bl =>
      have hreg : Backlight.blRegistered l = true := h
      rw [hw.2] at hreg
      cases hreg
    | delayed =>
      have hreg : Backlight.delayedRegistered l = true := h
      rw [hw.1.delayed] at hreg
      cases hreg
    | _ => cases h
  | screen =>
    cases fd with
    | screen =>
      have hreg : Screen.registered l = true := h
      rw [hw.2.2] at hreg
      cases hreg
    | _ => cases h
  | _ => cases h

end PausableMod

namespace Modules
variable {x : PausableMod} {r : ModPause}

/-- A message that reaches the module that is not gone. -/
theorem mem_publish_box {ms : List Msg} {s : Modules} {m : Msg} (hg : s.gone x = false)
    (hm : m ∈ s.box x ∨ m ∈ ms ∧ x.receives m = true) : m ∈ (publish ms s).box x := by
  simp only [publish, hg, Bool.false_eq_true, if_false, List.mem_append, List.mem_filter]
  exact hm

/-- A change of the fact is still on its way to the module. -/
def Pending (x : PausableMod) (r : ModPause) (s : Modules) : Prop :=
  (∃ m ∈ s.box x, m.announces r = true) ∨ r = .suspend ∧ s.pm.delayed.isSome = true

/-- The module has not started, or knows the fact, or will hear of it. -/
def Aware (x : PausableMod) (r : ModPause) (s : Modules) : Prop :=
  s.gone x = true ∨ x.Waiting (s.loc x) ∨ (x.mask (s.loc x)).has r = s.st.fact r ∨ Pending x r s

structure FactInv (x : PausableMod) (r : ModPause) (s : Modules) : Prop where
  phase : ∀ y : PausableMod, y.Waiting (s.loc y) ∨ y.Running (s.loc y)
  delayed : ∀ m, s.pm.delayed = some m → m.announces .suspend = true
  aware : Aware x r s

/-- If the module starts at this step, each fact that holds is still to be announced to it;
and inhibitions count for it. -/
def Informed (x : PausableMod) (r : ModPause) (s : Modules) (e : ModulesEvent) : Prop :=
  x.Heeds s.cf r ∧ ∀ rep m box, e = .deliver x rep → s.box x = m :: box → x.Waiting (s.loc x) →
    x.startsOn s.cf (s.resolve m) (s.loc x) = true → s.st.fact r = true →
      (∃ m' ∈ box, m'.announces r = true) ∨ r = .suspend ∧ s.pm.delayed.isSome = true

theorem Pending.publish {s : Modules} (h : Pending x r s) (hg : s.gone x = false) (ms : List Msg) :
    Pending x r (publish ms s) := by
  rcases h with ⟨m, hm, ha⟩ | h
  · exact .inl ⟨m, mem_publish_box hg (.inl hm), ha⟩
  · exact .inr h

theorem Pending.of_box {s s' : Modules} (h : Pending x r s) (hbox : s'.box x = s.box x)
    (hpm : s'.pm = s.pm) : Pending x r s' := by
  unfold Pending
  rw [hbox, hpm]
  exact h

theorem Pending.of_published {s : Modules} (hw : x.watches r = true) (hg : s.gone x = false)
    {ms : List Msg} {m : Msg} (hm : m ∈ ms) (ha : m.announces r = true) :
    Pending x r (Modules.publish ms s) :=
  .inl ⟨m, mem_publish_box hg (.inr ⟨hm, PausableMod.receives_of_announces hw ha⟩), ha⟩

/-- A step that leaves the module and the fact alone. -/
theorem Aware.mono {s s' : Modules} (h : Aware x r s) (hgone : s'.gone x = s.gone x)
    (hloc : s'.loc x = s.loc x) (hfact : s'.st.fact r = s.st.fact r)
    (hpend : s.gone x = false → Pending x r s → Pending x r s') : Aware x r s' := by
  rcases h with h | h | h | h
  · exact .inl (hgone.trans h)
  · exact .inr (.inl (hloc ▸ h))
  · refine .inr (.inr (.inl ?_))
    rw [hloc, hfact]
    exact h
  · cases hg : s.gone x with
    | true => exact .inl (hgone.trans hg)
    | false => exact .inr (.inr (.inr (hpend hg h)))

theorem phase_onModule {s : Modules} {y : PausableMod} {h : Handled y.Loc}
    (hphase : ∀ y : PausableMod, y.Waiting (s.loc y) ∨ y.Running (s.loc y))
    (hy : y.Waiting h.loc ∨ y.Running h.loc) (z : PausableMod) :
    z.Waiting ((onModule y h s).loc z) ∨ z.Running ((onModule y h s).loc z) := by
  change z.Waiting (Function.update s.loc y h.loc z) ∨ z.Running (Function.update s.loc y h.loc z)
  by_cases hz : z = y
  · subst hz
    rw [Function.update_self]
    exact hy
  · rw [Function.update_of_ne hz]
    exact hphase z

/-- A step of another module. -/
theorem Aware.onModule_of_ne {s : Modules} {y : PausableMod} {h : Handled y.Loc} (ha : Aware x r s)
    (hne : x ≠ y) (hfacts : h.st.facts = s.st.facts) : Aware x r (onModule y h s) := by
  refine ha.mono ?_ ?_ ?_ ?_
  · rfl
  · exact Function.update_of_ne hne _ _
  · exact State.fact_congr hfacts r
  · intro hg hp
    exact Pending.publish (s := { s with loc := _, st := h.st, cf := h.cf }) hp hg h.out

/-- A step of the module itself that keeps its bit. -/
theorem Aware.onModule_self {s : Modules} {h : Handled x.Loc} (ha : Aware x r s)
    (hrun : x.Running (s.loc x)) (hfacts : h.st.facts = s.st.facts)
    (hbit : (x.mask h.loc).has r = (x.mask (s.loc x)).has r) : Aware x r (onModule x h s) := by
  rcases ha with hg | hw | hb | hp
  · exact .inl hg
  · exact absurd hrun (PausableMod.not_running_of_waiting hw)
  · refine .inr (.inr (.inl ?_))
    change (x.mask (Function.update s.loc x h.loc x)).has r = h.st.fact r
    rw [Function.update_self, hbit, hb, State.fact_congr hfacts r]
  · cases hg : s.gone x with
    | true => exact .inl hg
    | false =>
      exact .inr (.inr (.inr
        (Pending.publish (s := { s with loc := _, st := h.st, cf := h.cf }) hp hg h.out)))

/-! ### One kind of step at a time -/

theorem announces_resolve (s : Modules) (m : Msg) : (s.resolve m).announces r = m.announces r := by
  cases m <;> rfl

theorem FactInv.init {s : Modules} (h : Init s) : FactInv x r s where
  phase y := .inl (h.waiting y)
  delayed m hm := by
    rw [h.pm] at hm
    cases hm
  aware := .inr (.inl (h.waiting x))

/-- A message that announces nothing leaves the mailbox. -/
theorem Aware.pop {s : Modules} {m : Msg} {box : List Msg} (ha : Aware x r s)
    (hbox : s.box x = m :: box) (hm : m.announces r = false) (b : PausableMod → List Msg)
    (hb : b x = box) : Aware x r { s with box := b } := by
  refine ha.mono rfl rfl rfl ?_
  intro _ hp
  rcases hp with ⟨m', hm', ha'⟩ | hp
  · rw [hbox] at hm'
    rcases List.mem_cons.mp hm' with rfl | hm'
    · rw [hm] at ha'
      cases ha'
    · refine .inl ⟨m', ?_, ha'⟩
      change m' ∈ b x
      rw [hb]
      exact hm'
  · exact .inr hp

/-- A module that has just learnt the fact. -/
theorem Aware.learnt {s : Modules} {h : Handled x.Loc} (hbit : (x.mask h.loc).has r = h.st.fact r) :
    Aware x r (onModule x h s) := by
  refine .inr (.inr (.inl ?_))
  change (x.mask (Function.update s.loc x h.loc x)).has r = h.st.fact r
  rw [Function.update_self, hbit]

theorem Aware.waiting {s : Modules} {h : Handled x.Loc} (hw : x.Waiting h.loc) :
    Aware x r (onModule x h s) := by
  refine .inr (.inl ?_)
  change x.Waiting (Function.update s.loc x h.loc x)
  rw [Function.update_self]
  exact hw

/-- The next message of its own mailbox, to the module itself. -/
theorem Aware.deliver {fit : Fit} {s : Modules} {rep : ModReplies} {m : Msg} {box : List Msg}
    {h : Handled x.Loc} (hinv : FactInv x r s) (hw : x.watches r = true)
    (hc : Informed x r s (.deliver x rep)) (hbox : s.box x = m :: box)
    (hh : x.handle fit rep (s.resolve m) s.st s.cf (s.loc x) = some h) :
    Aware x r (onModule x h { s with box := Function.update s.box x box }) := by
  have hpop : Function.update s.box x box x = box := Function.update_self ..
  rcases hinv.phase x with hwait | hrun
  · obtain ⟨hfacts, hwait' | ⟨hstart, -, hbits⟩⟩ := PausableMod.handle_of_waiting hwait hh
    · exact Aware.waiting hwait'
    · -- it starts with a clear bit, which the fact agrees with or will be announced to
      have hbit := hbits r (PausableMod.watches_mem hw)
      cases hfact : s.st.fact r with
      | false =>
        apply Aware.learnt
        rw [hbit, State.fact_congr hfacts r, hfact]
      | true =>
        cases hg : s.gone x with
        | true => exact .inl hg
        | false =>
          have hp : Pending x r { s with box := Function.update s.box x box } := by
            rcases hc.2 rep m box rfl hbox hwait hstart hfact with ⟨m', hm', ha⟩ | hp
            · refine .inl ⟨m', ?_, ha⟩
              change m' ∈ Function.update s.box x box x
              rw [hpop]
              exact hm'
            · exact .inr hp
          exact .inr (.inr (.inr (Pending.publish
            (s := { s with box := _, loc := _, st := h.st, cf := h.cf }) hp hg h.out)))
  · obtain ⟨hbit, hfacts, -⟩ := PausableMod.handle_of_running hrun hh hw
    rw [announces_resolve] at hbit
    cases ha : m.announces r with
    | true =>
      apply Aware.learnt
      rw [hbit, ha, if_pos rfl, PausableMod.heard_eq_fact hc.1, State.fact_congr hfacts r]
    | false =>
      rw [ha, if_neg Bool.false_ne_true] at hbit
      exact (hinv.aware.pop hbox ha _ hpop).onModule_self hrun hfacts hbit

theorem handle_phase {fit : Fit} {s : Modules} {y : PausableMod} {rep : ModReplies} {m : Msg}
    {h : Handled y.Loc} (hy : y.Waiting (s.loc y) ∨ y.Running (s.loc y))
    (hh : y.handle fit rep m s.st s.cf (s.loc y) = some h) :
    (y.Waiting h.loc ∨ y.Running h.loc) ∧ h.st.facts = s.st.facts := by
  rcases hy with hwait | hrun
  · obtain ⟨hfacts, hwait' | ⟨-, hrun, -⟩⟩ := PausableMod.handle_of_waiting hwait hh
    · exact ⟨.inl hwait', hfacts⟩
    · exact ⟨.inr hrun, hfacts⟩
  · obtain ⟨-, hfacts, hrun'⟩ :=
      PausableMod.handle_of_running hrun hh (r := .suspend) (by cases y <;> rfl)
    exact ⟨.inr hrun', hfacts⟩

/-- A module takes the next message of its mailbox. -/
theorem FactInv.deliver {fit : Fit} {s s' : Modules} {y : PausableMod} {rep : ModReplies}
    (hinv : FactInv x r s) (hw : x.watches r = true) (hc : Informed x r s (.deliver y rep))
    (hn : next fit s (.deliver y rep) = some s') : FactInv x r s' := by
  simp only [next] at hn
  split at hn
  · cases hn
  rename_i m box hbox
  have hrest : ∀ (hne : x ≠ y) (b : List Msg), Function.update s.box y b x = s.box x :=
    fun hne b => Function.update_of_ne hne _ _
  split at hn
  · -- the module deregisters itself
    obtain rfl := Option.some.inj hn
    refine ⟨hinv.phase, hinv.delayed, ?_⟩
    by_cases hxy : x = y
    · subst hxy
      exact .inl (Function.update_self ..)
    · refine hinv.aware.mono ?_ rfl rfl fun _ hp => hp.of_box ?_ rfl
      · exact Function.update_of_ne hxy _ _
      · change Function.update (Function.update s.box y box) y [] x = s.box x
        rw [Function.update_of_ne hxy, hrest hxy]
  · rename_i h hh
    obtain rfl := Option.some.inj hn
    obtain ⟨hphase, hfacts⟩ := handle_phase (hinv.phase y) hh
    refine ⟨phase_onModule hinv.phase hphase, hinv.delayed, ?_⟩
    by_cases hxy : x = y
    · subst hxy
      exact Aware.deliver hinv hw hc hbox hh
    · have hkept : Aware x r { s with box := Function.update s.box y box } :=
        hinv.aware.mono rfl rfl rfl fun _ hp => hp.of_box (hrest hxy box) rfl
      exact hkept.onModule_of_ne hxy hfacts

/-- A step of a running module that keeps its bit and the facts. -/
theorem FactInv.onModule {s : Modules} {y : PausableMod} {h : Handled y.Loc} (hinv : FactInv x r s)
    (hrun : y.Running (s.loc y)) (hrun' : y.Running h.loc) (hfacts : h.st.facts = s.st.facts)
    (hbit : x = y → (y.mask h.loc).has r = (y.mask (s.loc y)).has r) :
    FactInv x r (Modules.onModule y h s) := by
  refine ⟨phase_onModule hinv.phase (.inr hrun'), hinv.delayed, ?_⟩
  by_cases hxy : x = y
  · subst hxy
    exact hinv.aware.onModule_self hrun hfacts (hbit rfl)
  · exact hinv.aware.onModule_of_ne hxy hfacts

/-- A descriptor is reported to a module. -/
theorem FactInv.timer {fit : Fit} {s s' : Modules} {y : PausableMod} {fd : Fd} {rep : ModReplies}
    (hinv : FactInv x r s) (hw : x.watches r = true)
    (hn : next fit s (.timer y fd rep) = some s') : FactInv x r s' := by
  simp only [next] at hn
  split_ifs at hn with hreg
  obtain ⟨h, hh, rfl⟩ := Option.map_eq_some_iff.mp hn
  have hreg' : y.registered (s.loc y) fd = true := (Bool.and_eq_true _ _ ▸ hreg).1
  have hrun : y.Running (s.loc y) :=
    (hinv.phase y).resolve_left (PausableMod.not_waiting_of_registered hreg')
  obtain ⟨-, hfacts, hrun'⟩ :=
    PausableMod.handle_of_running hrun hh (r := .suspend) (by cases y <;> rfl)
  apply hinv.onModule hrun hrun' hfacts
  rintro rfl
  exact (PausableMod.handle_of_running hrun hh hw).1

theorem not_waiting_running {s : Modules} (hinv : FactInv x r s) (hw : ¬s.blCtx.loc.isWaiting = true) :
    Backlight.Running (s.loc .backlight) := by
  rcases hinv.phase .backlight with hwait | hrun
  · exact absurd hwait.1.isWaiting hw
  · exact hrun

/-- A signal within a frame of BACKLIGHT that names none of the facts. -/
theorem FactInv.blSignal {s : Modules} {c : BlCtx} {R : List ModPause} (hinv : FactInv x r s)
    (hw : x.watches r = true) (hrun : Backlight.Running (s.loc .backlight))
    (hf : Backlight.Frame R (fun _ => True) s.blCtx c) (hR : ∀ q ∈ R, q ∉ factReasons)
    (hfacts : c.st.facts = s.st.facts) : FactInv x r (Modules.onModule .backlight c.handled s) := by
  have hrun₀ : PausableMod.Running .backlight (s.loc .backlight) := hrun
  have hrun₁ : PausableMod.Running .backlight c.loc := hf.running hrun
  have hbit : c.loc.paused.has r = s.blCtx.loc.paused.has r :=
    hf.has r fun hmem => hR r hmem (PausableMod.watches_mem hw)
  exact hinv.onModule hrun₀ hrun₁ hfacts fun _ => hbit

theorem FactInv.gammaSignal {s : Modules} {c : GammaCtx} (hinv : FactInv x r s)
    (hpaused : c.loc.paused = s.gammaCtx.loc.paused) (hstack : c.loc.stack = s.gammaCtx.loc.stack)
    (hfacts : c.st.facts = s.st.facts) : FactInv x r (Modules.onModule .gamma c.handled s) := by
  have hphase : ∀ {l : Gamma}, l.paused = Gamma.paused (s.loc .gamma) →
      l.stack = Gamma.stack (s.loc .gamma) →
        PausableMod.Waiting .gamma l ∨ PausableMod.Running .gamma l := by
    intro l hp hs
    rcases hinv.phase .gamma with ⟨hws, hwp⟩ | hrun
    · exact .inl ⟨hs.trans hws, hp.trans hwp⟩
    · refine .inr ?_
      change l.stack = pausedStack .paused l.paused
      rw [hs, hp]
      exact hrun
  refine ⟨phase_onModule hinv.phase (hphase hpaused hstack), hinv.delayed, ?_⟩
  by_cases hx : x = .gamma
  · subst hx
    rcases hinv.phase .gamma with hwait | hrun
    · have hwait' : PausableMod.Waiting .gamma c.loc :=
        ⟨hstack.trans hwait.1, hpaused.trans hwait.2⟩
      exact Aware.waiting hwait'
    · exact hinv.aware.onModule_self hrun hfacts (congrArg (PauseMask.has · r) hpaused)
  · exact hinv.aware.onModule_of_ne hx hfacts

theorem FactInv.signal {s s' : Modules} {e : ModSignal} (hinv : FactInv x r s)
    (hw : x.watches r = true) (hn : Modules.signal s e = some s') : FactInv x r s' := by
  cases e <;> simp only [Modules.signal] at hn
  case sensorChanged rep =>
    split_ifs at hn with hwait
    obtain rfl := Option.some.inj hn
    exact hinv.blSignal hw (not_waiting_running hinv hwait)
      (Backlight.frame_onSensorChange (List.mem_singleton_self _) (fun _ _ => trivial) rep _)
      (by decide) (Backlight.onSensorChange_facts rep _)
  case blChanged mon pct =>
    split_ifs at hn with hwait
    obtain rfl := Option.some.inj hn
    exact hinv.blSignal hw (not_waiting_running hinv hwait)
      (Backlight.frame_onBlChanged (R := []) (fun _ _ => trivial) mon pct _) (by decide)
      (Backlight.onBlChanged_facts mon pct _)
  case interfaceAdded mon =>
    split_ifs at hn with hwait
    obtain rfl := Option.some.inj hn
    exact hinv.blSignal hw (not_waiting_running hinv hwait)
      (Backlight.frame_onInterfaceAdded (R := []) (fun _ _ => trivial) (fun _ => trivial) mon _)
      (by decide) (congrArg State.facts (Backlight.scheduleSync_st _))
  case interfaceRemoved mon =>
    split_ifs at hn with hwait
    obtain ⟨c, hc, rfl⟩ := Option.map_eq_some_iff.mp hn
    exact hinv.blSignal hw (not_waiting_running hinv hwait)
      (Backlight.frame_onInterfaceRemoved (R := []) (fun _ _ => trivial) (fun _ => trivial) hc)
      (by decide) (congrArg State.facts (Backlight.onInterfaceRemoved_st hc))
  case toggleGamma rep =>
    split_ifs at hn
    obtain rfl := Option.some.inj hn
    have hs := Gamma.same_methodToggleGamma rep s.gammaCtx
    exact hinv.gammaSignal hs.paused hs.stack (congrArg State.facts hs.st)
  case tempChanged new =>
    obtain rfl := Option.some.inj hn
    exact hinv.gammaSignal rfl rfl rfl

/-- DISPLAY, INHIBIT, PM or the environment writes the state: the fact stays, or the change is
announced now or by the timer of PM. -/
theorem FactInv.announce {s t : Modules} {ms : List Msg} (hinv : FactInv x r s)
    (hw : x.watches r = true) (hloc : t.loc = s.loc) (hgone : t.gone = s.gone) (hbox : t.box = s.box)
    (hdelayed : ∀ m, t.pm.delayed = some m → m.announces .suspend = true)
    (hfact : t.st.fact r = s.st.fact r ∨ (∃ m ∈ ms, m.announces r = true) ∨
      r = .suspend ∧ t.pm.delayed.isSome = true)
    (hpend : s.pm.delayed.isSome = true → t.pm.delayed.isSome = true ∨
      ∃ m ∈ ms, m.announces .suspend = true) :
    FactInv x r (publish ms t) := by
  refine ⟨fun y => hloc ▸ hinv.phase y, hdelayed, ?_⟩
  cases hg : t.gone x with
  | true => exact .inl hg
  | false =>
    have hnew : (∃ m ∈ ms, m.announces r = true) → Aware x r (publish ms t) := by
      rintro ⟨m, hm, ha⟩
      exact .inr (.inr (.inr (.of_published hw hg hm ha)))
    rcases hfact with hfact | hms | hlate
    · refine hinv.aware.mono (congrFun hgone x) (congrFun hloc x) hfact ?_
      intro _ hp
      rcases hp with ⟨m, hm, ha⟩ | ⟨rfl, hd⟩
      · exact .inl ⟨m, mem_publish_box hg (.inl (hbox ▸ hm)), ha⟩
      · rcases hpend hd with hd | ⟨m, hm, ha⟩
        · exact .inr ⟨rfl, hd⟩
        · exact .of_published hw hg hm ha
    · exact hnew hms
    · exact .inr (.inr (.inr (.inr hlate)))

end Modules

theorem Display.onDisplayReq_cases (new : ℤ) (noBacklight : Bool) (c : DisplayCtx) :
    onDisplayReq new noBacklight c = c ∨
      (∃ d, (onDisplayReq new noBacklight c).st = { c.st with displayState := d }) ∧
        ∃ old new', .displayUpd old new' ∈ (onDisplayReq new noBacklight c).out := by
  have hchange : ∃ d, (change new noBacklight c).st = { c.st with displayState := d } := by
    have hleave : ∀ c : DisplayCtx, ∃ d, (leaveDimmed noBacklight c).st = { c.st with displayState := d } := by
      intro c
      unfold leaveDimmed
      dsimp only
      split_ifs
      · exact ⟨_, rfl⟩
      · exact ⟨_, rfl⟩
      · exact ⟨c.st.displayState, rfl⟩
    have hoff : ∃ d, (leaveOff noBacklight c).st = { c.st with displayState := d } := by
      unfold leaveOff
      dsimp only
      split_ifs
      · exact ⟨_, rfl⟩
      · exact ⟨_, rfl⟩
      · exact ⟨c.st.displayState, rfl⟩
    unfold change
    split_ifs
    · unfold onDimmed
      dsimp only
      split_ifs
      · exact ⟨_, rfl⟩
      · exact ⟨_, rfl⟩
    · unfold onOff
      dsimp only
      split_ifs
      · exact ⟨_, rfl⟩
      · exact ⟨_, rfl⟩
    · obtain ⟨d, hd⟩ := hleave (leaveOff noBacklight c)
      obtain ⟨d', hd'⟩ := hoff
      exact ⟨d, by rw [hd, hd']⟩
  unfold onDisplayReq
  by_cases hv : validateDisplay c.st new = true
  · rw [if_pos hv]
    exact .inr ⟨hchange, _, _, List.mem_append_right _ (List.mem_singleton_self _)⟩
  · rw [if_neg hv]
    exact .inl rfl

namespace Modules
variable {x : PausableMod} {r : ModPause}

theorem FactInv.displayReq {s : Modules} (hinv : FactInv x r s) (hw : x.watches r = true) (new : ℤ)
    (noBacklight : Bool) {c : DisplayCtx}
    (hc : c = Display.onDisplayReq new noBacklight (PausableMod.ctx s.display s.st s.cf)) :
    FactInv x r (publish c.out { s with display := c.loc, st := c.st }) := by
  refine hinv.announce hw rfl rfl rfl hinv.delayed ?_ .inl
  rcases Display.onDisplayReq_cases new noBacklight (PausableMod.ctx s.display s.st s.cf) with
    he | ⟨⟨d, hd⟩, old, new', hm⟩
  · left
    rw [hc, he]
  · rw [← hc] at hd hm
    by_cases hr : r = .display
    · subst hr
      exact .inr (.inl ⟨_, hm, rfl⟩)
    · left
      change c.st.fact r = s.st.fact r
      rw [hd]
      cases r with
      | display => exact absurd rfl hr
      | _ => rfl

theorem FactInv.inhibitReq {s : Modules} (hinv : FactInv x r s) (hw : x.watches r = true)
    (q : FlagReq) {c : InhibitCtx}
    (hc : c = Inhibit.next (PausableMod.ctx s.inhibitions s.st s.cf) q) :
    FactInv x r (publish c.out { s with inhibitions := c.loc, st := c.st }) := by
  refine hinv.announce hw rfl rfl rfl hinv.delayed ?_ .inl
  rw [Inhibit.next, Inhibit.onInhibitReq_eq] at hc
  by_cases hr : r = .inhibit
  · subst hr
    split_ifs at hc with hsame
    · left
      rw [hc]
      exact hsame
    · rw [hc]
      exact .inr (.inl ⟨_, List.mem_singleton_self _, rfl⟩)
  · left
    have hst : c.st = { s.st with inhibited := c.st.inhibited } := by
      rw [hc]
      split_ifs <;> rfl
    change c.st.fact r = s.st.fact r
    rw [hst]
    cases r with
    | inhibit => exact absurd rfl hr
    | _ => rfl

theorem FactInv.suspendReq {s : Modules} (hinv : FactInv x r s) (hw : x.watches r = true)
    (q : FlagReq) {c : PmCtx} (hc : c = Pm.next (PausableMod.ctx s.pm s.st s.cf) (.suspendReq q)) :
    FactInv x r (publish c.out { s with pm := c.loc, st := c.st }) := by
  rw [Pm.next, Pm.onSuspendReq_eq] at hc
  have hst : c.st = { s.st with suspended := c.st.suspended } := by
    rw [hc]
    split_ifs
    · rfl
    · rw [Pm.announce_st]
      rfl
  have hother : r ≠ .suspend → c.st.fact r = s.st.fact r := by
    intro hr
    rw [hst]
    cases r with
    | suspend => exact absurd rfl hr
    | _ => rfl
  unfold Pm.announce at hc
  split_ifs at hc with hsame hlate
  · -- nothing changes
    rw [hc]
    refine hinv.announce hw rfl rfl rfl hinv.delayed (.inl ?_) .inl
    by_cases hr : r = .suspend
    · subst hr
      exact hsame
    · rw [← hother hr, hc]
  · rw [hc]
    refine hinv.announce hw rfl rfl rfl ?_ ?_ fun _ => .inl rfl
    · rintro m ⟨rfl⟩
      rfl
    · by_cases hr : r = .suspend
      · exact .inr (.inr ⟨hr, rfl⟩)
      · left
        rw [← hother hr, hc]
  · rw [hc]
    refine hinv.announce hw rfl rfl rfl hinv.delayed ?_ .inl
    by_cases hr : r = .suspend
    · subst hr
      exact .inr (.inl ⟨_, List.mem_singleton_self _, rfl⟩)
    · left
      rw [← hother hr, hc]

theorem FactInv.delayedResume {s : Modules} (hinv : FactInv x r s) (hw : x.watches r = true)
    {c : PmCtx} (hc : c = Pm.next (PausableMod.ctx s.pm s.st s.cf) .delayedResume) :
    FactInv x r (publish c.out { s with pm := c.loc, st := c.st }) := by
  rw [Pm.next, Pm.onDelayedResume] at hc
  split at hc
  · rename_i msg hmsg
    have ha := hinv.delayed msg hmsg
    rw [hc]
    refine hinv.announce hw rfl rfl rfl ?_ (.inl ?_) fun _ => .inr ⟨msg, List.mem_singleton_self _, ha⟩
    · intro m hm
      cases hm
    · rfl
  · rw [hc]
    exact hinv.announce hw rfl rfl rfl hinv.delayed (.inl rfl) .inl

/-- Every step keeps the invariant, if the module does not start uninformed. -/
theorem FactInv.next {fit : Fit} {s s' : Modules} {e : ModulesEvent} (hinv : FactInv x r s)
    (hw : x.watches r = true) (hc : Informed x r s e) (hn : Modules.next fit s e = some s') :
    FactInv x r s' := by
  cases e with
  | deliver y rep => exact hinv.deliver hw hc hn
  | timer y fd rep => exact hinv.timer hw hn
  | signal e => exact hinv.signal hw hn
  | publish m =>
    obtain rfl := Option.some.inj hn
    exact hinv.announce hw rfl rfl rfl hinv.delayed (.inl rfl) .inl
  | world st =>
    obtain rfl := Option.some.inj hn
    exact ⟨hinv.phase, hinv.delayed, hinv.aware.mono rfl rfl (State.fact_congr rfl r) fun _ => id⟩
  | properties cf =>
    obtain rfl := Option.some.inj hn
    exact ⟨hinv.phase, hinv.delayed, hinv.aware.mono rfl rfl rfl fun _ => id⟩
  | displayReq new noBacklight =>
    obtain rfl := Option.some.inj hn
    exact hinv.displayReq hw new noBacklight rfl
  | inhibitReq q =>
    obtain rfl := Option.some.inj hn
    exact hinv.inhibitReq hw q rfl
  | suspendReq q =>
    obtain rfl := Option.some.inj hn
    exact hinv.suspendReq hw q rfl
  | delayedResume =>
    obtain rfl := Option.some.inj hn
    exact hinv.delayedResume hw rfl

/-- In every run in which the module does not start uninformed, its bit is right whenever
nothing is on its way to it. -/
theorem pause_bit_reflects_state (fit : Fit) (hw : x.watches r = true) {s : Modules}
    (hs : (modules fit).ReachableBy (Informed x r) s) (hgone : s.gone x = false)
    (hrun : x.Running (s.loc x)) (hbox : s.box x = []) (hdelayed : s.pm.delayed = none) :
    (x.mask (s.loc x)).has r = s.st.fact r := by
  have hinv : FactInv x r s :=
    hs.invariant (fun _ h0 => .init h0) fun _ _ _ hinv hc hn => hinv.next hw hc hn
  rcases hinv.aware with hg | hwait | hbit | ⟨m, hm, -⟩ | ⟨-, hd⟩
  · rw [hg] at hgone
    cases hgone
  · exact absurd hrun (PausableMod.not_running_of_waiting hwait)
  · exact hbit
  · rw [hbox] at hm
    cases hm
  · rw [hdelayed] at hd
    cases hd

theorem informed_of_other {s : Modules} {e : ModulesEvent} (hx : x.Heeds s.cf r)
    (he : ∀ rep, e ≠ .deliver x rep) : Informed x r s e :=
  ⟨hx, fun rep _ _ h => absurd h (he rep)⟩

/-- AC is known, and KEYBOARD is told. -/
def keyboardOnAc : List ModulesEvent :=
  [.world { initState .default with acState := some .onAc }, .publish (.upowerUpd none .onAc),
    .deliver .keyboard okReplies]

/-- KEYBOARD starts and the session is suspended: SUSPEND pauses KEYBOARD. -/
theorem pause_bit_reflects_suspend : ∃ s, (modules fun _ => (0, 0, 0)).run (start .default 6500)
      (keyboardOnAc ++ [.suspendReq ⟨true, false⟩, .deliver .keyboard okReplies]) = some s ∧
    (PausableMod.mask .keyboard (s.loc .keyboard)).has .suspend = s.st.fact .suspend := by
  have hheeds : ∀ cf : Conf, PausableMod.Heeds cf .suspend .keyboard := by
    intro cf h
    cases h
  have hrun : (modules fun _ => (0, 0, 0)).RunBy (Informed .keyboard .suspend) (start .default 6500)
      (keyboardOnAc ++ [.suspendReq ⟨true, false⟩, .deliver .keyboard okReplies]) := by
    refine ⟨informed_of_other (hheeds _) (fun _ h => by cases h), fun s₁ h₁ => ?_⟩
    obtain rfl := Option.some.inj h₁
    refine ⟨informed_of_other (hheeds _) (fun _ h => by cases h), fun s₂ h₂ => ?_⟩
    obtain rfl := Option.some.inj h₂
    -- not suspended when it starts
    refine ⟨⟨hheeds _, fun _ _ _ _ _ _ _ hfact => by cases hfact⟩, fun s₃ h₃ => ?_⟩
    obtain rfl := Option.some.inj h₃
    refine ⟨informed_of_other (hheeds _) (fun _ h => by cases h), fun s₄ h₄ => ?_⟩
    obtain rfl := Option.some.inj h₄
    refine ⟨⟨hheeds _, fun _ m _ _ hbox _ hstart _ => ?_⟩, fun _ _ => trivial⟩
    have hm : m = .suspendUpd false true := (List.cons.inj hbox).1.symm
    subst hm
    cases hstart
  refine ⟨_, rfl, pause_bit_reflects_state _ rfl (Machine.ReachableBy.of_run _
    (.init (init_start .default 6500)) hrun rfl) rfl ?_ rfl rfl⟩
  rfl

/-- The session is suspended while all modules wait; then AC is known, and five of them start. -/
def suspendedAtStart : List ModulesEvent :=
  let all : List PausableMod := [.backlight, .screen, .keyboard, .dimmer, .dpms, .gamma]
  [.suspendReq ⟨true, false⟩] ++ all.map (.deliver · okReplies) ++
    [.world { initState .default with acState := some .onAc }, .publish (.upowerUpd none .onAc)] ++
    (all.filter (· ≠ .gamma)).map (.deliver · okReplies)

/-- KEYBOARD does not hear of the suspend, and runs through it. -/
theorem pause_bit_stale : ¬ ∀ (fit : Fit) (x : PausableMod) (s : Modules),
    (modules fit).Reachable s → s.gone x = false → x.Running (s.loc x) → (∀ y, s.box y = []) →
      s.pm.delayed = none → (x.mask (s.loc x)).has .suspend = s.st.suspended := by
  intro h
  have hrun : ((modules fun _ => (0, 0, 0)).run (start .default 6500) suspendedAtStart).any
      (fun s => !s.gone .keyboard && Keyboard.stack (s.loc .keyboard) = [] &&
        (Keyboard.paused (s.loc .keyboard)).isUnpaused && s.pm.delayed.isNone && s.st.suspended &&
        (s.box .backlight).isEmpty && (s.box .screen).isEmpty && (s.box .keyboard).isEmpty &&
        (s.box .dimmer).isEmpty && (s.box .dpms).isEmpty && (s.box .gamma).isEmpty) = true := by
    decide +kernel
  obtain ⟨s, hs, hp⟩ := (Option.any_eq_true _ _).mp hrun
  simp only [Bool.and_eq_true, Bool.not_eq_true', decide_eq_true_eq, List.isEmpty_iff,
    Option.isNone_iff_eq_none] at hp
  obtain ⟨⟨⟨⟨⟨⟨⟨⟨⟨⟨hgone, hstack⟩, hu⟩, hdel⟩, hsusp⟩, h1⟩, h2⟩, h3⟩, h4⟩, h5⟩, h6⟩ := hp
  have hrunning : PausableMod.Running .keyboard (s.loc .keyboard) := by
    change Keyboard.stack (s.loc .keyboard) = _
    rw [hstack, pausedStack, hu]
    rfl
  have hbox : ∀ y, s.box y = [] := by
    intro y
    cases y
    exacts [h1, h2, h3, h4, h5, h6]
  have hbit := h _ .keyboard s (Machine.reachable_of_run (init_start .default 6500) hs) hgone
    hrunning hbox hdel
  have hclear : (Keyboard.paused (s.loc .keyboard)).has .suspend = false :=
    (PauseMask.isUnpaused_iff _).mp hu .suspend
  rw [hsusp] at hbit
  exact absurd (hclear.symm.trans hbit) Bool.false_ne_true

end Modules
end Clight
