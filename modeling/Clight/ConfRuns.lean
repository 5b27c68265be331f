import Clight.ConfStores
import Clight.Daytime
import Clight.GammaRuns
import Clight.Modules

/-! The configuration over whole runs: whatever clients write on the bus, and whatever requests
the modules receive. -/
namespace Clight

/-! ### DAYTIME -/

/-- validate_evt. A name that does not fit in the event is never accepted. -/
def validateEvt (event : EventTime) : Bool := event.1 = [] || (strptimeR event.1).isSome

namespace Daytime

/-- reset_daytime, which has the events of today computed again. -/
def resetDaytime (c : DaytimeCtx) : DaytimeCtx :=
  { c with
    loc := { c.loc with dayFd := c.loc.dayFd.map fun _ => setTimeout 0 1 }
    st := { c.st with dayEvents := Function.update c.st.dayEvents .sunset 0 } }

/-- SUNRISE_REQ and SUNSET_REQ. -/
def onEventReq (e : DayEvent) (event : EventTime) (c : DaytimeCtx) : DaytimeCtx :=
  if validateEvt event then
    resetDaytime { c with cf := { c.cf with day := { c.cf.day with
      dayEvents := Function.update c.cf.day.dayEvents e event } } }
  else c

end Daytime

/-! ### The machine -/

namespace PausableMod

/-- evaluate. -/
def enabled (cf : Conf) : PausableMod → Bool
  | backlight => !cf.bl.disabled
  | screen => !cf.screen.disabled
  | keyboard => !cf.kbd.disabled
  | dimmer => !cf.dim.disabled
  | dpms => !cf.dpms.disabled
  | gamma => !cf.gamma.disabled

/-- The module stores what it is asked for: DIMMER and DPMS once started, GAMMA while it runs. -/
def listens : (x : PausableMod) → x.Loc → Bool
  | backlight, _ | screen, _ | keyboard, _ => true
  | dimmer, l | dpms, l => (Idle.stack l).head? ≠ some .waitingAcstate
  | gamma, l => Gamma.stack l = []

end PausableMod

structure ConfRun where
  /-- A module that is disabled, or that has deregistered itself, is `none`. -/
  loc : (x : PausableMod) → Option x.Loc
  daytime : Option Daytime
  /-- INHIBIT runs. -/
  inhibit : Bool
  st : State
  cf : Conf

/-- `write` is a property that ends in the configuration without a request, `receive` any message,
by then the static message of a request may hold what another write put there, `eventReq` a
SUNRISE_REQ or SUNSET_REQ, and `others` what other modules write in the state. -/
inductive ConfRunEvent
  | write (w : DirectWrite)
  | receive (r : ModReplies) (x : PausableMod) (m : Msg)
  | eventReq (e : DayEvent) (event : EventTime)
  | others (st : State)

namespace ConfRun

/-- The properties of a module exist while it runs; there are none in wizard mode. -/
def exports (s : ConfRun) (w : DirectWrite) : Bool :=
  !s.cf.wizard && match w with
    | .blInhibitOnLidClosed _ | .blCaptureOnLidOpened _ | .blNoSmooth _ | .blTransStep _
    | .blTransDuration _ | .blTransFixed _ | .blShutterThreshold _ | .blRestoreOnExit _
    | .sensDevice _ | .sensSettings _ | .sensCaptures _ _ => (s.loc .backlight).isSome
    | .dimNoSmooth _ _ | .dimDimmedPct _ | .dimTransStep _ _ | .dimTransDuration _ _
    | .dimTransFixed _ _ => (s.loc .dimmer).isSome
    | .gammaNoSmooth _ | .gammaTransStep _ | .gammaTransDuration _ | .gammaLongTransition _
    | .gammaRestoreOnExit _ => (s.loc .gamma).isSome
    | .inhDocked _ | .inhPm _ | .inhBl _ => s.inhibit
    | .dayLocation _ | .dayEventDuration _ | .dayOffset _ _ => s.daytime.isSome
    | .verbose _ | .resumeDelay _ => true

def onDaytime (f : DaytimeCtx → DaytimeCtx) (d : Daytime) (s : ConfRun) : ConfRun :=
  let c := f { loc := d, st := s.st, cf := s.cf, out := [], calls := [] }
  { s with daytime := some c.loc, st := c.st, cf := c.cf }

/-- The setter of the offsets resets DAYTIME too; the LOCATION_REQ that the one of Location
publishes is not for a module that writes the configuration. -/
def onWrite (w : DirectWrite) (s : ConfRun) : ConfRun :=
  let s := { s with cf := w.store s.cf }
  match w with
  | .dayOffset _ _ => s.daytime.elim s fun d => onDaytime Daytime.resetDaytime d s
  | _ => s

def set {x : PausableMod} (h : Handled x.Loc) (s : ConfRun) : ConfRun :=
  { s with loc := Function.update s.loc x (some h.loc), st := h.st, cf := h.cf }

def next (fit : Fit) (s : ConfRun) : ConfRunEvent → Option ConfRun
  | .write w => if s.exports w then some (onWrite w s) else none
  | .receive r x m => (s.loc x).bind fun l =>
    -- only the setter of NoAutoCalib asks for it, and it does not exist in wizard mode
    if s.cf.wizard && m ∈ [.noAutocalibReq true, .noAutocalibReq false] then none
    else some ((x.handle fit r m s.st s.cf l).elim
      { s with loc := Function.update s.loc x none } fun h => set h s)
  | .eventReq e event => s.daytime.map fun d => onDaytime (Daytime.onEventReq e event) d s
  | .others st => some { s with st := st }

/-- The modules that are enabled may run. -/
structure Init (f : Option Features) (s : ConfRun) : Prop where
  checked : checkConf f s.cf = s.cf
  st : s.st = initState s.cf
  loc : ∀ x l, s.loc x = some l → x.enabled s.cf = true ∧ x.Waiting l
  inhibit : s.inhibit = true → s.cf.inh.disabled = false
  daytime : s.daytime.isSome = true → s.cf.wizard = false

end ConfRun

/-- Clight as far as its configuration goes, over the regression of libgsl and the features of
Clightd. -/
def confRun (fit : Fit) (f : Option Features) : Machine ConfRun ConfRunEvent where
  init := ConfRun.Init f
  next := ConfRun.next fit

/-! ### Requests -/

/-- A timeout of DIMMER stays below the one of DPMS, and the other way round, unless that one is
what check_conf would put; ambient gamma needs BACKLIGHT. -/
def orderly (st : State) (cf : Conf) : Msg → Bool
  | .dimmerToReq up => cf.dpms.disabled ||
    (AcState.ofInt? (validateTimeout st up).1.state).all fun ac =>
      up.new < cf.dpms.timeout ac || cf.dpms.timeout ac = dpmsDefault ac
  | .dpmsToReq up => cf.dim.disabled ||
    (AcState.ofInt? (validateTimeout st up).1.state).all fun ac =>
      cf.dim.timeout ac < up.new || up.new = dpmsDefault ac
  | .ambGammaReq new => !new || !cf.bl.disabled
  | _ => true

namespace Stored
variable {st : State} {cf cf' : Conf} {m : Msg}

theorem sameFlags (h : Stored st cf m cf')
    (hwizard : ∀ new, m = .noAutocalibReq new → cf.wizard = false) : SameFlags cf cf' := by
  cases h
  case noAutoCalib new hm =>
    have hno := hwizard new hm
    exact ⟨rfl, fun hw => absurd hw (by rw [hno]; decide), rfl, rfl, rfl, rfl, rfl, rfl, rfl⟩
  all_goals exact ⟨rfl, fun _ => rfl, rfl, rfl, rfl, rfl, rfl, rfl, rfl⟩

/-- What an orderly request stores keeps a checked configuration checked. -/
theorem checked (h : Stored st cf m cf') (hcf : Checked cf) (hm : orderly st cf m = true) :
    Checked cf' := by
  have hbl := fun hd => (checkBlConf_eq_iff cf.bl).mp (hcf.bl hd)
  have hsens := fun hd => ((checkSens_eq_iff cf.sens).mp (hcf.sens hd)).1
  have hgamma := fun hd => (checkGammaConf_eq_iff cf.bl cf.gamma).mp (hcf.gamma hd)
  have hdim := fun hd => ((checkDimConf_eq_iff cf.bl cf.dim).mp (hcf.dim hd)).1
  have hdpms := fun hd => (checkDpmsConf_eq_iff cf.dim cf.dpms).mp (hcf.dpms hd)
  have hscreen := fun hd => ((checkScreenConf_eq_iff cf.bl cf.screen).mp (hcf.screen hd)).1
  have hkbd : cf.kbd.disabled = false → ∀ ac, (cf.kbd.curve ac).InRange := by
    intro hd
    have hcurve := congrArg KbdConf.curve (hcf.kbd hd)
    exact (checkCurvePoints_eq_iff kbdDefaultCurve_length kbdDefaultCurve_mem _).mp hcurve
  have hcurve : ∀ {curve : AcState → Curve} (ac : AcState) {c : Curve}, c.InRange →
      (∀ ac, (curve ac).InRange) → ∀ ac', (Function.update curve ac c ac').InRange := by
    intro curve ac c hc hall ac'
    by_cases hac : ac' = ac
    · rw [hac, Function.update_self]
      exact hc
    · rw [Function.update_of_ne hac]
      exact hall ac'
  cases h
  case nothing => exact hcf
  case blTimeout t => exact hcf.withBl rfl hbl
  case noAutoCalib new hnew => exact hcf.withBl rfl hbl
  case blCurve ac c hc =>
    exact hcf.withSens (fun hd => ⟨(hsens hd).1, hcurve ac hc (hsens hd).2⟩) rfl
  case scrTimeout t => exact hcf.withScreen rfl hscreen
  case contrib new hnew => exact hcf.withScreen rfl fun _ => hnew
  case kbdTimeout t => exact hcf.withKbd hkbd
  case kbdCurve ac c hc => exact hcf.withKbd fun hd => hcurve ac hc (hkbd hd)
  case temp t ht => exact hcf.withGamma fun hd => ⟨⟨ht (hgamma hd).1.1, (hgamma hd).1.2⟩, (hgamma hd).2⟩
  case ambientGamma new hnew =>
    subst hnew
    refine hcf.withGamma fun hd => ⟨(hgamma hd).1, fun hoff => ?_⟩
    have hor := Bool.or_eq_true_iff.mp hm
    rw [hoff] at hor
    exact (Bool.not_eq_true' new).mp (hor.resolve_right (by decide))
  case dimTimeout up ac hup hac =>
    subst hup
    refine hcf.withDim rfl hdim fun hon hdimOn ac' => ?_
    dsimp only
    by_cases heq : ac' = ac
    · unfold orderly at hm
      dsimp only at hm
      rw [hac, hon] at hm
      rw [heq, Function.update_self]
      simpa using hm
    · rw [Function.update_of_ne heq]
      exact hdpms hon hdimOn ac'
  case dpmsTimeout up ac hup hac =>
    subst hup
    refine hcf.withDpms rfl fun hon hdimOn ac' => ?_
    dsimp only
    by_cases heq : ac' = ac
    · unfold orderly at hm
      dsimp only at hm
      rw [hac, hdimOn] at hm
      rw [heq, Function.update_self]
      simpa using hm
    · rw [Function.update_of_ne heq]
      exact hdpms hon hdimOn ac'

end Stored

/-- Whatever module receives the message, it stores what was asked of it, if it listens. -/
theorem PausableMod.handle_stored {fit : Fit} {r : ModReplies} {m : Msg} {st : State} {cf : Conf}
    {x : PausableMod} {l : x.Loc} {h : Handled x.Loc} (hh : x.handle fit r m st cf l = some h) :
    h.cf = cf ∨ x.listens l = true ∧ Stored st cf m h.cf := by
  have hgamma : ∀ {t : DayState → ℤ} {c' : GammaCtx} {g : Gamma},
      Gamma.handle r.gamma m (ctx g st cf) = some c' →
      c'.cf = { cf with gamma := { cf.gamma with temp := t } } →
      (∀ d, 1000 ≤ cf.gamma.temp d ∧ cf.gamma.temp d ≤ 10000) →
        ∀ d, 1000 ≤ t d ∧ t d ≤ 10000 := by
    intro t c' g hc hcf hold d
    have hlimits := Gamma.handle_inLimits (c := ctx g st cf) hold hc d
    rw [hcf] at hlimits
    exact hlimits
  cases x with
  | backlight =>
    obtain rfl := Option.some.inj hh
    exact .inr ⟨rfl, Backlight.stored_handle fit r.bl m (ctx l st cf)⟩
  | screen =>
    obtain rfl := Option.some.inj hh
    exact .inr ⟨rfl, Screen.stored_handle r.screen m (ctx l st cf)⟩
  | keyboard =>
    obtain rfl := Option.some.inj hh
    exact .inr ⟨rfl, Keyboard.stored_handle fit r.kbd m (ctx l st cf)⟩
  | dimmer =>
    obtain ⟨c', hc, rfl⟩ := Option.map_eq_some_iff.mp hh
    refine (Idle.handle_cf dimmerConf hc).imp id ?_
    rintro ⟨hstarted, up, ac, hreq, hac, hcf⟩
    refine ⟨decide_eq_true hstarted, ?_⟩
    have hm : m = .dimmerToReq up := by
      cases m
      case dimmerToReq up' => exact congrArg Msg.dimmerToReq (Option.some.inj hreq)
      all_goals cases hreq
    change Stored st cf m c'.cf
    rw [hcf]
    exact .dimTimeout up ac hm hac
  | dpms =>
    obtain ⟨c', hc, rfl⟩ := Option.map_eq_some_iff.mp hh
    refine (Idle.handle_cf dpmsConf hc).imp id ?_
    rintro ⟨hstarted, up, ac, hreq, hac, hcf⟩
    refine ⟨decide_eq_true hstarted, ?_⟩
    have hm : m = .dpmsToReq up := by
      cases m
      case dpmsToReq up' => exact congrArg Msg.dpmsToReq (Option.some.inj hreq)
      all_goals cases hreq
    change Stored st cf m c'.cf
    rw [hcf]
    exact .dpmsTimeout up ac hm hac
  | gamma =>
    obtain ⟨c', hc, rfl⟩ := Option.map_eq_some_iff.mp hh
    refine (Gamma.handle_cf hc).imp id ?_
    rintro ⟨hrunning, hstore⟩
    refine ⟨decide_eq_true hrunning, ?_⟩
    change Stored st cf m c'.cf
    rcases hstore with ⟨t, hcf⟩ | ⟨new, hm, hcf⟩
    · rw [hcf]
      exact .temp t (hgamma hc hcf)
    · rw [hcf]
      exact .ambientGamma new hm

namespace ConfRun
variable {fit : Fit} {f : Option Features} {s t : ConfRun} {e : ConfRunEvent}

/-- Each value written straight into the configuration is in its range, and each request that is
stored is orderly. -/
def Careful (s : ConfRun) : ConfRunEvent → Prop
  | .write w => w.InRange
  | .receive _ x m => (!(s.loc x).any x.listens || orderly s.st s.cf m) = true
  | .eventReq _ _ | .others _ => True

/-- check_conf would reset nothing, and what runs is enabled. -/
structure Kept (f : Option Features) (s : ConfRun) : Prop where
  checked : checkConf f s.cf = s.cf
  loc : ∀ x, (s.loc x).isSome = true → x.enabled s.cf = true
  inhibit : s.inhibit = true → s.cf.inh.disabled = false

theorem Kept.toChecked (h : Kept f s) : Checked s.cf := ((checkConf_eq_iff f s.cf).mp h.checked).2

theorem Kept.init (h : Init f s) : Kept f s where
  checked := h.checked
  loc x hx := by
    obtain ⟨l, hl⟩ := Option.isSome_iff_exists.mp hx
    exact (h.loc x l hl).1
  inhibit := h.inhibit

theorem Kept.inUse (h : Kept f s) {w : DirectWrite} (hw : s.exports w = true) : w.InUse s.cf := by
  have hmod : ∀ x, (s.loc x).isSome = true → x.enabled s.cf = true := h.loc
  unfold exports at hw
  have hsome := (Bool.and_eq_true_iff.mp hw).2
  cases w <;> first
    | exact trivial
    | exact h.inhibit hsome
    | exact (Bool.not_eq_true' _).mp (hmod .backlight hsome)
    | exact (Bool.not_eq_true' _).mp (hmod .dimmer hsome)
    | exact (Bool.not_eq_true' _).mp (hmod .gamma hsome)

/-- The modules that run after a step ran before it, and no step enables or disables any. -/
theorem Kept.step (h : Kept f s) (hflags : SameFlags s.cf t.cf) (hchecked : Checked t.cf)
    (hloc : ∀ x, (t.loc x).isSome = true → (s.loc x).isSome = true) (hrun : t.inhibit = s.inhibit) :
    Kept f t where
  checked := by
    have hbase := ((checkConf_eq_iff f s.cf).mp h.checked).1
    exact (checkConf_eq_iff f t.cf).mpr ⟨checkBase_eq_of_sameFlags hflags hbase, hchecked⟩
  loc x hx := by
    have hold := h.loc x (hloc x hx)
    cases x
    case backlight => exact (congrArg not hflags.bl).trans hold
    case screen => exact (congrArg not hflags.screen).trans hold
    case keyboard => exact (congrArg not hflags.kbd).trans hold
    case dimmer => exact (congrArg not hflags.dim).trans hold
    case dpms => exact (congrArg not hflags.dpms).trans hold
    case gamma => exact (congrArg not hflags.gamma).trans hold
  inhibit hi := hflags.inh.trans (h.inhibit (hrun.symm.trans hi))

theorem Kept.write (h : Kept f s) {w : DirectWrite} (hexp : s.exports w = true) (hw : w.InRange) :
    Kept f (onWrite w s) := by
  have honly : (onWrite w s).cf = w.store s.cf ∧ (onWrite w s).loc = s.loc ∧
      (onWrite w s).inhibit = s.inhibit := by
    unfold onWrite
    dsimp only
    split
    · cases s.daytime with
      | none => exact ⟨rfl, rfl, rfl⟩
      | some d => exact ⟨rfl, rfl, rfl⟩
    · exact ⟨rfl, rfl, rfl⟩
  obtain ⟨hcf, hloc, hinh⟩ := honly
  refine h.step ?_ ?_ (fun x => by rw [hloc]; exact id) hinh
  · rw [hcf]
    exact w.store_sameFlags
  · rw [hcf]
    exact (w.store_checked_iff h.toChecked (h.inUse hexp)).mpr hw

theorem Kept.receive (h : Kept f s) {r : ModReplies} {x : PausableMod} {m : Msg} {l : x.Loc}
    (hl : s.loc x = some l) (hcal : ∀ new, m = .noAutocalibReq new → s.cf.wizard = false)
    (hcare : x.listens l = true → orderly s.st s.cf m = true) :
    Kept f ((x.handle fit r m s.st s.cf l).elim
      { s with loc := Function.update s.loc x none } fun h => set h s) := by
  have hupdate : ∀ (o : Option x.Loc) (y : PausableMod),
      (Function.update s.loc x o y).isSome = true → (s.loc y).isSome = true := by
    intro o y hy
    by_cases hxy : y = x
    · subst hxy
      rw [hl]
      rfl
    · rw [Function.update_of_ne hxy] at hy
      exact hy
  have hsame : SameFlags s.cf s.cf := ⟨rfl, fun _ => rfl, rfl, rfl, rfl, rfl, rfl, rfl, rfl⟩
  cases hh : x.handle fit r m s.st s.cf l with
  | none => exact h.step hsame h.toChecked (hupdate none) rfl
  | some hnew =>
    rcases PausableMod.handle_stored hh with hcf | ⟨hlistens, hstored⟩
    · refine h.step (t := set hnew s) ?_ ?_ (hupdate _) rfl
      · change SameFlags s.cf hnew.cf
        rw [hcf]
        exact hsame
      · change Checked hnew.cf
        rw [hcf]
        exact h.toChecked
    · exact h.step (t := set hnew s) (hstored.sameFlags hcal)
        (hstored.checked h.toChecked (hcare hlistens)) (hupdate _) rfl

theorem Kept.eventReq (h : Kept f s) (e : DayEvent) (event : EventTime) (d : Daytime) :
    Kept f (onDaytime (Daytime.onEventReq e event) d s) := by
  have hday := (checkDaytimeConf_eq_iff s.cf.day).mp h.toChecked.day
  have hcases : (onDaytime (Daytime.onEventReq e event) d s).cf = s.cf ∨ validateEvt event = true ∧
      (onDaytime (Daytime.onEventReq e event) d s).cf = { s.cf with day := { s.cf.day with
        dayEvents := Function.update s.cf.day.dayEvents e event } } := by
    unfold onDaytime Daytime.onEventReq
    dsimp only
    split_ifs with hvalid
    · exact .inr ⟨hvalid, rfl⟩
    · exact .inl rfl
  rcases hcases with hcf | ⟨hvalid, hcf⟩
  · refine h.step ?_ ?_ (fun x => id) rfl
    · rw [hcf]
      exact ⟨rfl, fun _ => rfl, rfl, rfl, rfl, rfl, rfl, rfl, rfl⟩
    · rw [hcf]
      exact h.toChecked
  · refine h.step ?_ ?_ (fun x => id) rfl
    · rw [hcf]
      exact ⟨rfl, fun _ => rfl, rfl, rfl, rfl, rfl, rfl, rfl, rfl⟩
    · rw [hcf]
      refine h.toChecked.withDay ⟨hday.1, hday.2.1, fun e' => ?_⟩
      dsimp only
      by_cases he : e' = e
      · rw [he, Function.update_self]
        have hvalid' := Bool.or_eq_true_iff.mp hvalid
        exact hvalid'.imp_left of_decide_eq_true
      · rw [Function.update_of_ne he]
        exact hday.2.2 e'

theorem Kept.next (h : Kept f s) (hcare : Careful s e) (hn : next fit s e = some t) : Kept f t := by
  cases e with
  | write w =>
    dsimp only [ConfRun.next] at hn
    split_ifs at hn with hexp
    obtain rfl := Option.some.inj hn
    exact h.write hexp hcare
  | receive r x m =>
    dsimp only [ConfRun.next] at hn
    obtain ⟨l, hl, hn⟩ := Option.bind_eq_some_iff.mp hn
    split_ifs at hn with hwizard
    obtain rfl := Option.some.inj hn
    refine h.receive hl ?_ ?_
    · rintro new rfl
      cases hw : s.cf.wizard with
      | false => rfl
      | true => cases new <;> exact absurd (by rw [hw]; decide) hwizard
    · intro hlistens
      unfold Careful at hcare
      dsimp only at hcare
      rw [hl] at hcare
      rcases Bool.or_eq_true_iff.mp hcare with hnot | horder
      · exact absurd hlistens (by simpa using hnot)
      · exact horder
  | eventReq e event =>
    obtain ⟨d, -, rfl⟩ := Option.map_eq_some_iff.mp hn
    exact h.eventReq e event d
  | others st =>
    obtain rfl := Option.some.inj hn
    exact ⟨h.checked, h.loc, h.inhibit⟩

/-- As long as what is written is in range and what is asked for is orderly, check_conf would reset
nothing. -/
theorem checkConf_eq_of_reachable
    (hs : (confRun fit f).ReachableBy Careful s) : checkConf f s.cf = s.cf := by
  have hkept : Kept f s :=
    hs.invariant (fun s h0 => .init h0) fun s e t hi hcare hn => hi.next hcare hn
  exact hkept.checked

instance : (w : DirectWrite) → Decidable w.InRange
  | .blTransStep _ | .dimTransStep _ _ | .blShutterThreshold _ | .sensCaptures _ _
  | .dimDimmedPct _ | .resumeDelay _ => instDecidableAnd
  | .blTransDuration _ | .dimTransDuration _ _ | .gammaTransStep _ | .gammaTransDuration _
  | .dayEventDuration _ => Int.decLt _ _
  | .dayLocation new => inferInstanceAs (Decidable ((|new.lat| ≤ 90 ∨ new.lat = latUndefined) ∧
      (|new.lon| ≤ 180 ∨ new.lon = lonUndefined)))
  | .blInhibitOnLidClosed _ | .blCaptureOnLidOpened _ | .blNoSmooth _ | .blTransFixed _
  | .blRestoreOnExit _ | .sensDevice _ | .sensSettings _ | .dayOffset _ _ | .dimNoSmooth _ _
  | .dimTransFixed _ _ | .gammaNoSmooth _ | .gammaLongTransition _ | .gammaRestoreOnExit _
  | .inhDocked _ | .inhPm _ | .inhBl _ | .verbose _ => isTrue trivial

instance (s : ConfRun) : (e : ConfRunEvent) → Decidable (Careful s e)
  | .write w => inferInstanceAs (Decidable w.InRange)
  | .receive _ _ _ => instDecidableEqBool _ _
  | .eventReq _ _ | .others _ => isTrue trivial

/-- All modules are enabled, and wait. -/
def startAll : ConfRun where
  loc x := some (Modules.initLoc 6500 x)
  daytime := some ⟨none, ⟨-1, 0, -1, 0, 0⟩⟩
  inhibit := true
  st := initState .default
  cf := .default

theorem startAll_init : Init none startAll where
  checked := default_checked.checkConf_eq rfl rfl
  st := rfl
  loc x l hl := by
    obtain rfl := Option.some.inj hl
    refine ⟨?_, (Modules.init_start .default 6500).waiting x⟩
    cases x <;> rfl
  inhibit _ := rfl
  daytime _ := rfl

def noFit : Fit := fun _ => (0, 0, 0)

/-- A user shortens the events and raises the threshold, then has the screen dimmed later on AC. -/
def someWrites : List ConfRunEvent :=
  [.write (.dayEventDuration 600), .write (.blShutterThreshold (1/10)),
    .others { initState .default with acState := some .onAc },
    .receive Modules.okReplies .dimmer (.upowerUpd none .onAc),
    .receive Modules.okReplies .dimmer (.dimmerToReq { new := 60, state := 0, daytime := 0 })]

theorem checkConf_eq_of_reachable_written : ∃ s, (confRun noFit none).run startAll someWrites = some s ∧
    s.cf.day.eventDuration = 600 ∧ s.cf.dim.timeout .onAc = 60 ∧ checkConf none s.cf = s.cf := by
  have hrun : ((confRun noFit none).run startAll someWrites).any
      (fun s => s.cf.day.eventDuration = 600 && s.cf.dim.timeout .onAc = 60) = true := by
    decide +kernel
  obtain ⟨s, hs, hp⟩ := (Option.any_eq_true _ _).mp hrun
  simp only [Bool.and_eq_true, decide_eq_true_eq] at hp
  have hcare : (confRun noFit none).RunBy Careful startAll someWrites := by decide +kernel
  exact ⟨s, hs, hp.1, hp.2,
    checkConf_eq_of_reachable (Machine.ReachableBy.of_run _ (.init startAll_init) hcare hs)⟩

/-- EventDuration is written straight into the configuration, 0 too. -/
theorem checkConf_eq_of_reachable_fails : ¬ ∀ (fit : Fit) (f : Option Features) (s : ConfRun),
    (confRun fit f).Reachable s → checkConf f s.cf = s.cf := by
  intro h
  have hrun : ((confRun noFit none).run startAll [.write (.dayEventDuration 0)]).any
      (fun s => s.cf.day.eventDuration = 0) = true := by decide +kernel
  obtain ⟨s, hs, hp⟩ := (Option.any_eq_true _ _).mp hrun
  have hfixed := h noFit none s (Machine.reachable_of_run startAll_init hs)
  have hchecked := ((checkConf_eq_iff none s.cf).mp hfixed).2
  have hpos := ((checkDaytimeConf_eq_iff s.cf.day).mp hchecked.day).1
  rw [of_decide_eq_true hp] at hpos
  exact absurd hpos (by decide)

end ConfRun

end Clight
