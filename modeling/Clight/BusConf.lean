import Clight.BusRuns
import Clight.ConfRuns
import Mathlib

/-! How the whole program treats its configuration. Mailboxes, their order, and the modules that only
read it make no difference: every run of the program is one of `confRun`. -/
namespace Clight

theorem PausableMod.toBus_injective : Function.Injective PausableMod.toBus := by
  intro x y h
  cases x <;> cases y <;> first | rfl | cases h

namespace Program

/-- What `confRun` has of the program. -/
def conf (s : Program) : ConfRun where
  loc x := if s.running x.toBus then some (s.loc x) else none
  daytime := if s.running .daytime then some s.daytime.ctx.loc else none
  inhibit := s.running .inhibit
  st := s.st
  cf := s.cf

/-- The six modules that store requests are left alone, and nothing starts. -/
structure Frame (s t : Program) : Prop where
  loc : t.loc = s.loc
  running : ∀ x : PausableMod, t.running x.toBus = s.running x.toBus
  inhibit : t.running .inhibit = s.running .inhibit
  daytime : t.running .daytime = true → s.running .daytime = true

theorem Frame.of_eq {s t : Program} (hloc : t.loc = s.loc) (hrunning : t.running = s.running) :
    Frame s t where
  loc := hloc
  running _ := by rw [hrunning]
  inhibit := by rw [hrunning]
  daytime := by
    rw [hrunning]
    exact id

/-- Others of the modules stop. -/
theorem Frame.of_stop {s t : Program} {i : BusMod} (hloc : t.loc = s.loc)
    (hrunning : t.running = Function.update s.running i false) (hi : ∀ x : PausableMod, x.toBus ≠ i)
    (hinh : i ≠ .inhibit) : Frame s t where
  loc := hloc
  running x := by rw [hrunning, Function.update_of_ne (hi x)]
  inhibit := by rw [hrunning, Function.update_of_ne hinh.symm]
  daytime h := by
    rw [hrunning] at h
    by_cases hd : BusMod.daytime = i
    · subst hd
      rw [Function.update_self] at h
      cases h
    · rwa [Function.update_of_ne hd] at h

/-- The times of the events are as they were, or one was replaced by what a request asked for. -/
def DayCf (cf cf' : Conf) : Prop := cf' = cf ∨ ∃ e event, ∀ c : DaytimeCtx, c.cf = cf →
  (Daytime.onEventReq e event c).cf = cf'

end Program

theorem DaytimeModule.handle_cf (locationRunning : Bool) (m : DayBoxMsg) (s : DaytimeModule) :
    Program.DayCf s.ctx.cf (handle locationRunning m s).ctx.cf := by
  have hasked (e : DayEvent) (event : EventTime) (c : DaytimeCtx) (hc : c.cf = s.ctx.cf) :
      (Daytime.onEventReq e event c).cf = (Daytime.onEventReq e event s.ctx).cf := by
    unfold Daytime.onEventReq Daytime.resetDaytime
    split_ifs
    · dsimp only
      rw [hc]
    · exact hc
  have hevent (e : DayEvent) : Program.DayCf s.ctx.cf (onEventReq e s).ctx.cf := by
    unfold onEventReq
    split
    · exact .inl rfl
    · next event _ =>
      split_ifs
      · exact .inr ⟨e, event, hasked e event⟩
      · exact .inl rfl
  unfold handle
  split_ifs
  · exact .inl rfl
  · split
    · unfold receiveWaitingLoc
      split
      · split_ifs
        · exact .inl rfl
        · exact .inl rfl
      · split_ifs
        · exact .inl rfl
        · exact .inl rfl
      · exact .inl rfl
    · unfold receive
      split
      · exact .inl rfl
      · exact hevent _
      · exact .inl rfl

namespace Program
variable {fit : Fit} {f : Option Features} {s t : Program} {r : BusReplies}

/-- One of the six modules received, or the others may have changed the state and asked DAYTIME. -/
theorem receive_cases (fit : Fit) (distance : Loc → Loc → ℚ) (r : BusReplies) (i : BusMod) (m : BusMsg)
    (s : Program) :
    (∃ x m', i = x.toBus ∧ m = .shared m' ∧ s.receive fit distance r i m = s.onPausable fit r x m') ∨
      Frame s (s.receive fit distance r i m).1 ∧
        ((s.receive fit distance r i m).1.cf = s.cf ∨
          i = .daytime ∧ DayCf s.cf (s.receive fit distance r i m).1.cf) := by
  unfold receive
  split
  · exact .inl ⟨.backlight, _, rfl, rfl, rfl⟩
  · exact .inl ⟨.screen, _, rfl, rfl, rfl⟩
  · exact .inl ⟨.keyboard, _, rfl, rfl, rfl⟩
  · exact .inl ⟨.dimmer, _, rfl, rfl, rfl⟩
  · exact .inl ⟨.dpms, _, rfl, rfl, rfl⟩
  · exact .inl ⟨.gamma, _, rfl, rfl, rfl⟩
  all_goals right
  · unfold onDisplay
    split
    · exact ⟨.of_eq rfl rfl, .inl rfl⟩
    · exact ⟨.of_eq rfl rfl, .inl rfl⟩
  · exact ⟨.of_eq rfl rfl, .inl rfl⟩
  · unfold onPm onPmLock
    split
    all_goals exact ⟨.of_eq rfl rfl, .inl rfl⟩
  · unfold onUpower
    dsimp only
    split_ifs
    · exact ⟨.of_stop (i := .upower) rfl rfl (fun x => by cases x <;> decide) (by decide), .inl rfl⟩
    · exact ⟨.of_eq rfl rfl, .inl rfl⟩
  · refine ⟨.of_eq rfl rfl, .inr ⟨rfl, ?_⟩⟩
    exact DaytimeModule.handle_cf (s.running .location) (.eventReqStatic .sunrise) _
  · refine ⟨.of_eq rfl rfl, .inr ⟨rfl, ?_⟩⟩
    exact DaytimeModule.handle_cf (s.running .location) (.eventReqStatic .sunset) _
  · cases m.toDaytime with
    | none => exact ⟨.of_eq rfl rfl, .inl rfl⟩
    | some dm =>
      have hcf := DaytimeModule.handle_cf (s.running .location) dm s.dayModule
      change Frame s (onDaytime dm s).1 ∧
        ((onDaytime dm s).1.cf = s.cf ∨ _ ∧ DayCf s.cf (onDaytime dm s).1.cf)
      unfold onDaytime
      dsimp only
      split_ifs
      · exact ⟨.of_stop (i := .daytime) rfl rfl (fun x => by cases x <;> decide) (by decide),
          .inr ⟨rfl, hcf⟩⟩
      · exact ⟨.of_eq rfl rfl, .inr ⟨rfl, hcf⟩⟩
  · cases m.toLocation with
    | none => exact ⟨.of_eq rfl rfl, .inl rfl⟩
    | some lm => exact ⟨.of_eq rfl rfl, .inl rfl⟩
  · cases m.toWizard with
    | none => exact ⟨.of_eq rfl rfl, .inl rfl⟩
    | some wm => exact ⟨.of_eq rfl rfl, .inl rfl⟩
  · unfold onInterface
    split
    · split_ifs
      · exact ⟨.of_eq rfl rfl, .inl rfl⟩
      · exact ⟨.of_eq rfl rfl, .inl rfl⟩
    · exact ⟨.of_eq rfl rfl, .inl rfl⟩
  · exact ⟨.of_eq rfl rfl, .inl rfl⟩

/-! ### Step by step -/

/-- `confRun` tells the same of the modules that store requests, of the state and of the configuration. -/
structure Seen (s : Program) (c : ConfRun) : Prop where
  loc : c.loc = s.conf.loc
  daytime : s.running .daytime = true → c.daytime.isSome = true
  inhibit : c.inhibit = s.running .inhibit
  st : c.st = s.st
  cf : c.cf = s.cf

theorem seen_conf (s : Program) : Seen s s.conf where
  loc := rfl
  daytime h := by
    unfold conf
    dsimp only
    rw [if_pos h]
    rfl
  inhibit := rfl
  st := rfl
  cf := rfl

theorem validated_running (r : BusReplies) (m : Msg) (s : Program) :
    (s.validated r m).running = s.running := by
  unfold validated
  split
  · split_ifs <;> rfl
  · split_ifs <;> rfl
  · rfl

namespace Seen
open ConfRun (Kept)
variable {c : ConfRun}

theorem frame_loc (h : Seen s c) (hf : Frame s t) : c.loc = t.conf.loc := by
  rw [h.loc]
  unfold conf
  dsimp only
  funext x
  rw [hf.running x, hf.loc]

theorem kept_others {c : ConfRun} (hk : Kept f c) (st : State) : Kept f { c with st := st } where
  checked := hk.checked
  loc := hk.loc
  inhibit := hk.inhibit

theorem others (h : Seen s c) (hk : Kept f c) (hf : Frame s t) (hcf : t.cf = s.cf) :
    ∃ fs c', (confRun fit f).run c fs = some c' ∧ Seen t c' ∧ Kept f c' :=
  ⟨[.others t.st], { c with st := t.st }, rfl,
    { loc := h.frame_loc hf
      daytime := fun hd => h.daytime (hf.daytime hd)
      inhibit := h.inhibit.trans hf.inhibit.symm
      st := rfl
      cf := h.cf.trans hcf.symm }, kept_others hk t.st⟩

/-- DAYTIME is asked, and other modules write the state. -/
theorem eventReq (h : Seen s c) (hk : Kept f c) (hf : Frame s t) (hrunning : s.running .daytime = true)
    (hday : DayCf s.cf t.cf) : ∃ fs c', (confRun fit f).run c fs = some c' ∧ Seen t c' ∧ Kept f c' := by
  rcases hday with hcf | ⟨e, event, hcf⟩
  · exact h.others hk hf hcf
  · obtain ⟨d, hd⟩ := Option.isSome_iff_exists.mp (h.daytime hrunning)
    have hnext : ConfRun.next fit c (.eventReq e event) =
        some (ConfRun.onDaytime (Daytime.onEventReq e event) d c) := by
      unfold ConfRun.next
      dsimp only
      rw [hd]
      rfl
    refine ⟨[.eventReq e event, .others t.st],
      { ConfRun.onDaytime (Daytime.onEventReq e event) d c with st := t.st }, ?_, ?_,
      kept_others (hk.eventReq e event d) t.st⟩
    · exact Option.bind_eq_some_iff.mpr ⟨_, hnext, rfl⟩
    · exact
        { loc := h.frame_loc hf
          daytime := fun _ => rfl
          inhibit := h.inhibit.trans hf.inhibit.symm
          st := rfl
          cf := hcf _ h.cf }

theorem exports (h : Seen s c) {w : DirectWrite} (hw : s.conf.exports w = true) : c.exports w = true := by
  have hday (hd : s.conf.daytime.isSome = true) : c.daytime.isSome = true := by
    apply h.daytime
    by_contra hstopped
    rw [show s.conf.daytime = none from if_neg hstopped] at hd
    cases hd
  unfold ConfRun.exports at hw ⊢
  rw [h.loc, h.inhibit, h.cf]
  obtain ⟨hwizard, hw⟩ := Bool.and_eq_true_iff.mp hw
  apply Bool.and_eq_true_iff.mpr
  refine ⟨hwizard, ?_⟩
  cases w <;> first
    | exact hw
    | exact hday hw

/-- A property is set. -/
theorem write (h : Seen s c) (hk : Kept f c) (hf : Frame s t) {w : DirectWrite}
    (hw : s.conf.exports w = true) (hrange : w.InRange)
    (hcf : t.cf = w.store s.cf) : ∃ fs c', (confRun fit f).run c fs = some c' ∧ Seen t c' ∧ Kept f c' := by
  have honly : (ConfRun.onWrite w c).loc = c.loc ∧ (ConfRun.onWrite w c).inhibit = c.inhibit ∧
      (ConfRun.onWrite w c).cf = w.store c.cf ∧
      (c.daytime.isSome = true → (ConfRun.onWrite w c).daytime.isSome = true) := by
    unfold ConfRun.onWrite
    dsimp only
    split
    · cases c.daytime with
      | none => exact ⟨rfl, rfl, rfl, nofun⟩
      | some d => exact ⟨rfl, rfl, rfl, fun _ => rfl⟩
    · exact ⟨rfl, rfl, rfl, id⟩
  obtain ⟨hloc, hinh, hstore, hday⟩ := honly
  have hnext : ConfRun.next fit c (.write w) = some (ConfRun.onWrite w c) := if_pos (h.exports hw)
  refine ⟨[.write w, .others t.st], { ConfRun.onWrite w c with st := t.st }, ?_, ?_,
    kept_others (hk.write (h.exports hw) hrange) t.st⟩
  · exact Option.bind_eq_some_iff.mpr ⟨_, hnext, rfl⟩
  · exact
      { loc := hloc.trans (h.frame_loc hf)
        daytime := fun hd => hday (h.daytime (hf.daytime hd))
        inhibit := (hinh.trans h.inhibit).trans hf.inhibit.symm
        st := rfl
        cf := by rw [hcf, ← h.cf]; exact hstore }

/-- One of the six modules deregisters itself. -/
theorem stop (h : Seen s c) (x : PausableMod) (ms : List BusMsg) :
    Seen (s.stop x.toBus ms).1 { c with loc := Function.update c.loc x none } where
  loc := by
    funext y
    change Function.update c.loc x none y =
      if Function.update s.running x.toBus false y.toBus then some (s.loc y) else none
    rw [h.loc]
    by_cases hy : y = x
    · subst hy
      rw [Function.update_self, Function.update_self]
      rfl
    · rw [Function.update_of_ne hy, Function.update_of_ne (PausableMod.toBus_injective.ne hy)]
      rfl
  daytime hd := by
    have hne : BusMod.daytime ≠ x.toBus := by cases x <;> decide
    change Function.update s.running x.toBus false .daytime = true at hd
    rw [Function.update_of_ne hne] at hd
    exact h.daytime hd
  inhibit := by
    have hne : BusMod.inhibit ≠ x.toBus := by cases x <;> decide
    change c.inhibit = Function.update s.running x.toBus false .inhibit
    rw [Function.update_of_ne hne]
    exact h.inhibit
  st := h.st
  cf := h.cf

/-- What a receiver leaves behind. -/
theorem set (h : Seen s c) {x : PausableMod} (hrunning : s.running x.toBus = true)
    (hsame : t.running = s.running) (hnew : Handled x.Loc) :
    Seen { t with loc := Function.update s.loc x hnew.loc, st := hnew.st, cf := hnew.cf }
      (ConfRun.set hnew c) where
  loc := by
    funext y
    change Function.update c.loc x (some hnew.loc) y =
      if t.running y.toBus then some (Function.update s.loc x hnew.loc y) else none
    rw [h.loc, hsame]
    by_cases hy : y = x
    · subst hy
      rw [Function.update_self, Function.update_self]
      exact (if_pos hrunning).symm
    · rw [Function.update_of_ne hy, Function.update_of_ne hy]
      rfl
  daytime hd := by
    change t.running .daytime = true at hd
    rw [hsame] at hd
    exact h.daytime hd
  inhibit := by
    change c.inhibit = t.running .inhibit
    rw [hsame]
    exact h.inhibit
  st := rfl
  cf := rfl

theorem onPausable (h : Seen s c) (hk : Kept f c) {x : PausableMod} {m : Msg}
    (hrunning : s.running x.toBus = true)
    (hcare : x.listens (s.loc x) = true → orderly s.st s.cf (s.resolve m) = true)
    (hcal : s.cf.wizard = true → ∀ new, m ≠ .noAutocalibReq new) :
    ∃ fs c', (confRun fit f).run c fs = some c' ∧ Seen (s.onPausable fit r x m).1 c' ∧ Kept f c' := by
  have hloc : c.loc x = some (s.loc x) := by
    rw [h.loc]
    exact if_pos hrunning
  have hresolve (new : Bool) (hm : s.resolve m = .noAutocalibReq new) : s.cf.wizard = false := by
    by_contra hwizard
    have hno := hcal (Bool.eq_true_of_not_eq_false hwizard) new
    unfold resolve at hm
    split at hm
    · cases hm
    · cases hm
    · exact hno hm
  have hasked : (c.cf.wizard && s.resolve m ∈ [.noAutocalibReq true, .noAutocalibReq false]) = false := by
    rw [h.cf]
    cases hwizard : s.cf.wizard with
    | false => rfl
    | true =>
      have hno (new : Bool) : s.resolve m ≠ .noAutocalibReq new := fun hm =>
        absurd (hwizard.symm.trans (hresolve new hm)) (by decide)
      simp [hno]
  have hnext : ConfRun.next fit c (.receive r.mod x (s.resolve m)) =
      some ((x.handle fit r.mod (s.resolve m) s.st s.cf (s.loc x)).elim
        { c with loc := Function.update c.loc x none } fun h => ConfRun.set h c) := by
    unfold ConfRun.next
    dsimp only
    rw [hloc, Option.bind_some, hasked, h.st, h.cf]
    rfl
  have hcareful : ConfRun.Careful c (.receive r.mod x (s.resolve m)) := by
    unfold ConfRun.Careful
    dsimp only
    rw [hloc, h.st, h.cf, Option.any_some]
    cases hlistens : x.listens (s.loc x) with
    | false => rfl
    | true => exact hcare hlistens
  refine ⟨[.receive r.mod x (s.resolve m)], _, Option.bind_eq_some_iff.mpr ⟨_, hnext, rfl⟩, ?_,
    hk.next hcareful hnext⟩
  unfold Program.onPausable
  split
  · next hnone =>
    rw [hnone]
    exact h.stop x []
  · next hnew hsome =>
    rw [hsome]
    exact h.set hrunning (validated_running r m s) hnew

end Seen

end Program

/-! ### Runs -/

/-- What comes from outside sets properties to values in range, or writes neither the six modules that
store requests nor the configuration. Those who listen get orderly requests, and nobody asks for
NoAutoCalib in wizard mode, where it is no property. -/
def Tame (b : Boxes Program BusMod BusMsg) : NetworkEvent Program BusMod BusMsg BusReplies → Prop
  | .write s => Program.Frame b.state s ∧ (s.cf = b.state.cf ∨
      ∃ w, b.state.conf.exports w = true ∧ w.InRange ∧ s.cf = w.store b.state.cf)
  | .deliver i _ => ∀ x m, i = PausableMod.toBus x → .shared m ∈ b.box i →
      (x.listens (b.state.loc x) = true → orderly b.state.st b.state.cf (b.state.resolve m) = true) ∧
        (b.state.cf.wizard = true → ∀ new, m ≠ .noAutocalibReq new)
  | .publish _ | .tell _ _ => True

/-- The machine of the configuration follows, and modules that stopped have no mail. -/
structure Follows (f : Option Features) (b : Boxes Program BusMod BusMsg) (c : ConfRun) : Prop where
  seen : Program.Seen b.state c
  kept : ConfRun.Kept f c
  stopped : ∀ i, b.state.running i = false → b.box i = []

namespace Follows
variable {fit : Fit} {distance : Loc → Loc → ℚ} {f : Option Features} {b b' : Boxes Program BusMod BusMsg}
  {c : ConfRun} {e : NetworkEvent Program BusMod BusMsg BusReplies}

theorem published (ms : List BusMsg) (h : Program.Seen b.state c) (hk : ConfRun.Kept f c) :
    Follows f ((busNetwork fit distance).publish ms b) c where
  seen := h
  kept := hk
  stopped i hi := if_neg (by rw [show (busNetwork fit distance).running b.state i = false from hi]; decide)

theorem deliver (h : Follows f b c) {i : BusMod} {r : BusReplies} {m : BusMsg} {box : List BusMsg}
    (hbox : b.box i = m :: box) (htame : Tame b (.deliver i r)) :
    ∃ fs c', (confRun fit f).run c fs = some c' ∧
      Follows f ((busNetwork fit distance).received r i m box b) c' := by
  have hrunning : b.state.running i = true := by
    by_contra hstopped
    rw [h.stopped i (Bool.eq_false_of_not_eq_true hstopped)] at hbox
    cases hbox
  have hreceived : ∃ fs c', (confRun fit f).run c fs = some c' ∧
      Program.Seen (b.state.receive fit distance r i m).1 c' ∧ ConfRun.Kept f c' := by
    rcases Program.receive_cases fit distance r i m b.state with
      ⟨x, m', rfl, rfl, heq⟩ | ⟨hframe, hcf | ⟨rfl, hday⟩⟩
    · obtain ⟨hcare, hcal⟩ := htame x m' rfl (by rw [hbox]; exact List.mem_cons_self)
      rw [heq]
      exact h.seen.onPausable h.kept hrunning hcare hcal
    · exact h.seen.others h.kept hframe hcf
    · exact h.seen.eventReq h.kept hframe hrunning hday
  obtain ⟨fs, c', hrun, hseen, hk⟩ := hreceived
  exact ⟨fs, c', hrun, published (b := { state := _, box := Function.update b.box i box }) _ hseen hk⟩

theorem step (h : Follows f b c) (htame : Tame b e) (hn : (busMachine fit distance).next b e = some b') :
    ∃ fs c', (confRun fit f).run c fs = some c' ∧ Follows f b' c' := by
  cases e with
  | deliver i r =>
    simp only [busMachine, Network.machine, Network.next] at hn
    cases hbox : b.box i with
    | nil =>
      rw [hbox] at hn
      cases hn
    | cons m box =>
      rw [hbox] at hn
      obtain rfl := Option.some.inj hn
      exact h.deliver hbox htame
  | publish m =>
    obtain rfl := Option.some.inj hn
    exact ⟨[], c, rfl, published [m] h.seen h.kept⟩
  | tell i m =>
    simp only [busMachine, Network.machine, Network.next] at hn
    split_ifs at hn with hrunning
    obtain rfl := Option.some.inj hn
    refine ⟨[], c, rfl, h.seen, h.kept, fun j hj => ?_⟩
    have hne : j ≠ i := by
      rintro rfl
      exact absurd (hrunning.symm.trans hj) (by decide)
    change Function.update b.box i _ j = []
    rw [Function.update_of_ne hne]
    exact h.stopped j hj
  | write s =>
    obtain rfl := Option.some.inj hn
    have hwritten : ∃ fs c', (confRun fit f).run c fs = some c' ∧ Program.Seen s c' ∧ ConfRun.Kept f c' := by
      obtain ⟨hframe, hcf | ⟨w, hw, hrange, hcf⟩⟩ := htame
      · exact h.seen.others h.kept hframe hcf
      · exact h.seen.write h.kept hframe hw hrange hcf
    obtain ⟨fs, c', hrun, hseen, hk⟩ := hwritten
    exact ⟨fs, c', hrun, published (b := { b with state := s }) [] hseen hk⟩

end Follows

/-- With all modules and their mailboxes, the configuration is still that of `confRun`, where check_conf
would reset nothing. -/
theorem bus_refines_confRun {fit : Fit} {distance : Loc → Loc → ℚ} {f : Option Features}
    {b b' : Boxes Program BusMod BusMsg} {es : List (NetworkEvent Program BusMod BusMsg BusReplies)}
    (hinit : (busMachine fit distance).init b) (hk : ConfRun.Kept f b.state.conf)
    (htame : (busMachine fit distance).RunBy Tame b es)
    (hrun : (busMachine fit distance).run b es = some b') :
    checkConf f b'.state.cf = b'.state.cf ∧ ∃ fs c, (confRun fit f).run b.state.conf fs = some c ∧
      c.loc = b'.state.conf.loc ∧ c.st = b'.state.st ∧ c.cf = b'.state.cf := by
  have hstart : Follows f b b.state.conf := ⟨b.state.seen_conf, hk, fun i _ => hinit.2 i⟩
  obtain ⟨fs, c, hc, h⟩ := Machine.simulates (confRun fit f)
    (fun _ _ _ _ hf ht hn => Follows.step hf ht hn) hstart htame hrun
  refine ⟨?_, fs, c, hc, h.seen.loc, h.seen.st, h.seen.cf⟩
  rw [← h.seen.cf]
  exact h.kept.checked

/-- SCREEN is started on AC, and asked for another contribution. -/
def startAndContribute : List (NetworkEvent Program BusMod BusMsg BusReplies) :=
  [.write { idleBus.state with st := { idleBus.state.st with acState := some .onAc } },
    .publish (.shared (.upowerUpd none .onAc)), .deliver .screen noReplies,
    .publish (.shared (.contribReq (1/2))), .deliver .screen noReplies]

/-- SCREEN's mailbox holds one message, which is in order. -/
theorem tame_screen {b : Boxes Program BusMod BusMsg} {m : Msg} (hbox : b.box .screen = [.shared m])
    (horder : orderly b.state.st b.state.cf (b.state.resolve m) = true)
    (hwizard : b.state.cf.wizard = false) : Tame b (.deliver .screen noReplies) := by
  intro x m' _ hm
  rw [hbox] at hm
  obtain rfl := BusMsg.shared.inj (List.mem_singleton.mp hm)
  exact ⟨fun _ => horder, fun h => absurd (hwizard.symm.trans h) (by decide)⟩

theorem tame_startAndContribute :
    (busMachine (fun _ => (0, 0, 0)) fun _ _ => 0).RunBy Tame idleBus startAndContribute := by
  refine ⟨⟨.of_eq rfl rfl, .inl rfl⟩, fun b₁ h₁ => ⟨trivial, fun b₂ h₂ => ?_⟩⟩
  obtain rfl := Option.some.inj h₁
  obtain rfl := Option.some.inj h₂
  refine ⟨tame_screen rfl rfl rfl, fun b₃ h₃ => ⟨trivial, fun b₄ h₄ => ?_⟩⟩
  obtain rfl := Option.some.inj h₃
  obtain rfl := Option.some.inj h₄
  exact ⟨tame_screen rfl rfl rfl, fun _ _ => trivial⟩

/-- The contribution is stored, by a run of `confRun` too. -/
theorem bus_refines_confRun_contrib : ∃ b', (busMachine (fun _ => (0, 0, 0)) fun _ _ => 0).run idleBus
      startAndContribute = some b' ∧ b'.state.cf.screen.contrib = 1/2 ∧
    checkConf none b'.state.cf = b'.state.cf ∧ ∃ fs c,
      (confRun (fun _ => (0, 0, 0)) none).run idleBus.state.conf fs = some c ∧ c.cf.screen.contrib = 1/2 := by
  have hkept : ConfRun.Kept none idleBus.state.conf :=
    { checked := default_checked.checkConf_eq rfl rfl
      loc := fun x _ => by cases x <;> rfl
      inhibit := fun _ => rfl }
  have hinit : (busMachine (fun _ => (0, 0, 0)) fun _ _ => 0).init idleBus :=
    ⟨⟨_, _, _, _, rfl⟩, fun _ => rfl⟩
  have hstored : ((busMachine (fun _ => (0, 0, 0)) fun _ _ => 0).run idleBus startAndContribute).any
      (fun b => b.state.cf.screen.contrib = 1/2) = true := by decide +kernel
  obtain ⟨b', hrun, hcontrib⟩ := (Option.any_eq_true _ _).mp hstored
  obtain ⟨hchecked, fs, c, hfs, -, -, hcf⟩ :=
    bus_refines_confRun hinit hkept tame_startAndContribute hrun
  refine ⟨b', hrun, of_decide_eq_true hcontrib, hchecked, fs, c, hfs, ?_⟩
  rw [hcf]
  exact of_decide_eq_true hcontrib

end Clight
