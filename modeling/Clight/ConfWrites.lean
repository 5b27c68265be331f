import Clight.ConfRuns
import Clight.Settings
import Clight.WriteLog

/-! What each D-Bus write and each request stores: the settings that it names, and no others. -/
namespace Clight

/-- A setting with what is written to it. -/
abbrev Put := Sigma ConfSetting.Val

/-- Between the configurations lie these writes, with the newest first. -/
abbrev Puts (ps : List Put) (cf cf' : Conf) : Prop := WriteLog.Written ConfSetting.get ps cf cf'

namespace DirectWrite

/-- The settings behind a property; Location has two. -/
def puts : DirectWrite → List Put
  | blInhibitOnLidClosed new => [⟨.pauseOnLidClosed, new⟩]
  | blCaptureOnLidOpened new => [⟨.captureOnLidOpened, new⟩]
  | blNoSmooth new => [⟨.blNoSmooth, new⟩]
  | blTransStep new => [⟨.blTransStep, new⟩]
  | blTransDuration new => [⟨.blTransTimeout, new⟩]
  | blTransFixed new => [⟨.blTransFixed, new⟩]
  | blShutterThreshold new => [⟨.shutterThreshold, new⟩]
  | blRestoreOnExit new => [⟨.blRestore, new⟩]
  | sensDevice new => [⟨.devName, some new⟩]
  | sensSettings new => [⟨.devOpts, some new⟩]
  | sensCaptures ac new => [⟨.numCaptures ac, new⟩]
  | dayLocation new => [⟨.latitude, new.lat⟩, ⟨.longitude, new.lon⟩]
  | dayEventDuration new => [⟨.eventDuration, new⟩]
  | dayOffset e new => [⟨.offset e, new⟩]
  | dimNoSmooth t new => [⟨.dimNoSmooth t, new⟩]
  | dimDimmedPct new => [⟨.dimmedPct, new⟩]
  | dimTransStep t new => [⟨.dimTransStep t, new⟩]
  | dimTransDuration t new => [⟨.dimTransTimeout t, new⟩]
  | dimTransFixed t new => [⟨.dimTransFixed t, new⟩]
  | gammaNoSmooth new => [⟨.gammaNoSmooth, new⟩]
  | gammaTransStep new => [⟨.gammaTransStep, new⟩]
  | gammaTransDuration new => [⟨.gammaTransTimeout, new⟩]
  | gammaLongTransition new => [⟨.longTransition, new⟩]
  | gammaRestoreOnExit new => [⟨.gammaRestore, new⟩]
  | inhDocked new => [⟨.inhibitDocked, new⟩]
  | inhPm new => [⟨.inhibitPm, new⟩]
  | inhBl new => [⟨.inhibitBl, new⟩]
  | verbose new => [⟨.verbose, new⟩]
  | resumeDelay new => [⟨.resumedelay, new⟩]

end DirectWrite

variable {α β : Type} [DecidableEq α] {g : α → β} {a a' : α} {v : β}

/-- An entry of a table is a setting of its own. -/
theorem update_frame (f : α → ConfSetting) (h : f a' ≠ f a) : Function.update g a v a' = g a' :=
  Function.update_of_ne (fun he => h (congrArg f he)) _ _

/-- A table of the configuration, whose entries are settings: `p` is what a setting shows of an
entry. -/
structure IsTable {ι β : Type} (f : ι → ConfSetting) (p : (i : ι) → β → (f i).Val)
    (table : Conf → ι → β) (write : (ι → β) → Conf → Conf) : Prop where
  get_table : ∀ cf i, ConfSetting.get cf (f i) = p i (table cf i)
  get_write : ∀ t cf i, ConfSetting.get (write t cf) (f i) = p i (t i)
  frame : ∀ t cf k, (∀ i, k ≠ f i) → ConfSetting.get (write t cf) k = ConfSetting.get cf k

/-- Writing an entry stores that setting, and no other. -/
theorem IsTable.puts {ι β : Type} [DecidableEq ι] {f : ι → ConfSetting} {p : (i : ι) → β → (f i).Val}
    {table : Conf → ι → β} {write : (ι → β) → Conf → Conf} (h : IsTable f p table write) (cf : Conf)
    (i : ι) (v : β) : Puts [⟨f i, p i v⟩] cf (write (Function.update (table cf) i v) cf) := by
  refine .cell ?_ ?_
  · rw [h.get_write, Function.update_self]
  · intro k hk
    by_cases hentry : ∃ i', k = f i'
    · obtain ⟨i', rfl⟩ := hentry
      rw [h.get_write, h.get_table, update_frame f hk]
    · exact h.frame _ cf k (not_exists.mp hentry)

theorem isTable_numCaptures : IsTable .numCaptures (fun _ n => n) (fun cf => cf.sens.numCaptures)
    fun t cf => { cf with sens := { cf.sens with numCaptures := t } } where
  get_table _ _ := rfl
  get_write _ _ _ := rfl
  frame _ _ k hk := by cases k <;> first | rfl | exact absurd rfl (hk _)

theorem isTable_offset : IsTable .offset (fun _ os => os) (fun cf => cf.day.eventsOs)
    fun t cf => { cf with day := { cf.day with eventsOs := t } } where
  get_table _ _ := rfl
  get_write _ _ _ := rfl
  frame _ _ k hk := by cases k <;> first | rfl | exact absurd rfl (hk _)

/-- What a setting shows of the smooth parameters of dimming, if it is not the one written: those of
the other end stay, and of this end the other fields. -/
theorem withSmooth_frame (f : DimTrans → ConfSetting) (p : BlSmooth → β) {k : ConfSetting}
    {dim : DimmerConf} {t t' : DimTrans} {smooth : BlSmooth}
    (hsame : f t ≠ k → p smooth = p (dim.smooth t)) (hne : f t' ≠ k) :
    p ((dim.withSmooth t smooth).smooth t') = p (dim.smooth t') := by
  unfold DimmerConf.withSmooth
  dsimp only
  by_cases ht : t' = t
  · subst ht
    rw [Function.update_self]
    exact hsame hne
  · rw [Function.update_of_ne ht]

/-- The smooth parameters of one end of dimming change in the field of the setting `k`. -/
theorem puts_withSmooth {cf : Conf} {t : DimTrans} {smooth : BlSmooth} {k : ConfSetting} {v : k.Val}
    (hk : ConfSetting.get { cf with dim := cf.dim.withSmooth t smooth } k = v)
    (hnoSmooth : .dimNoSmooth t ≠ k → smooth.noSmooth = (cf.dim.smooth t).noSmooth)
    (hstep : .dimTransStep t ≠ k → smooth.transStep = (cf.dim.smooth t).transStep)
    (htimeout : .dimTransTimeout t ≠ k → smooth.transTimeout = (cf.dim.smooth t).transTimeout)
    (hfixed : .dimTransFixed t ≠ k → smooth.transFixed = (cf.dim.smooth t).transFixed) :
    Puts [⟨k, v⟩] cf { cf with dim := cf.dim.withSmooth t smooth } := by
  refine .cell hk ?_
  intro k' hk'
  cases k'
  case dimNoSmooth t' => exact withSmooth_frame .dimNoSmooth BlSmooth.noSmooth hnoSmooth hk'
  case dimTransStep t' => exact withSmooth_frame .dimTransStep BlSmooth.transStep hstep hk'
  case dimTransTimeout t' => exact withSmooth_frame .dimTransTimeout BlSmooth.transTimeout htimeout hk'
  case dimTransFixed t' => exact withSmooth_frame .dimTransFixed BlSmooth.transFixed hfixed hk'
  all_goals rfl

theorem withSmooth_self (dim : DimmerConf) (t : DimTrans) (smooth : BlSmooth) :
    (dim.withSmooth t smooth).smooth t = smooth :=
  Function.update_self ..

theorem DirectWrite.puts_store (w : DirectWrite) (cf : Conf) : Puts w.puts cf (w.store cf) := by
  cases w
  case dayLocation new =>
    intro k
    cases k <;> rfl
  case sensCaptures ac new => exact isTable_numCaptures.puts cf ac new
  case dayOffset e new => exact isTable_offset.puts cf e new
  case dimNoSmooth t new =>
    exact puts_withSmooth (congrArg BlSmooth.noSmooth (withSmooth_self ..)) (fun h => absurd rfl h)
      (fun _ => rfl) (fun _ => rfl) (fun _ => rfl)
  case dimTransStep t new =>
    exact puts_withSmooth (congrArg BlSmooth.transStep (withSmooth_self ..)) (fun _ => rfl)
      (fun h => absurd rfl h) (fun _ => rfl) (fun _ => rfl)
  case dimTransDuration t new =>
    exact puts_withSmooth (congrArg BlSmooth.transTimeout (withSmooth_self ..)) (fun _ => rfl)
      (fun _ => rfl) (fun h => absurd rfl h) (fun _ => rfl)
  case dimTransFixed t new =>
    exact puts_withSmooth (congrArg BlSmooth.transFixed (withSmooth_self ..)) (fun _ => rfl)
      (fun _ => rfl) (fun _ => rfl) (fun h => absurd rfl h)
  all_goals
    refine .cell (by rfl) ?_
    intro k hk
    cases k <;> first
      | rfl
      | exact absurd rfl hk

/-! ### What a request asks for -/

/-- The cell of a table with one timeout for each AC state. -/
def timeoutPuts (put : AcState → ℤ → Put) (st : State) (up : TimeoutUpd) : List Put :=
  ((AcState.ofInt? (validateTimeout st up).1.state).map fun ac => put ac up.new).toList

/-- The points of a curve, if they pass validate_curve. -/
def curvePuts (put : AcState → List ℚ → Put) (st : State) (up : CurveUpd) : List Put :=
  let v := validateCurve st up
  match v.2, AcState.ofInt? v.1.state, v.1.regressionPoints with
  | true, some ac, some pts => [put ac pts]
  | _, _, _ => []

namespace Backlight

def timeoutPuts (st : State) (up : TimeoutUpd) : List Put :=
  let v := (validateTimeout st up).1
  match AcState.ofInt? v.state, BlTime.ofInt? v.daytime with
  | some ac, some t => [⟨.blTimeout ac t, v.new⟩]
  | _, _ => []

def puts (st : State) (cf : Conf) : Msg → List Put
  | .blToReq up => timeoutPuts st up
  | .curveReq up => curvePuts (fun ac pts => ⟨.sensPoints ac, pts⟩) st up
  | .noAutocalibReq new => if validateAutocalib cf new then [⟨.noAutoCalib, new⟩] else []
  | _ => []

end Backlight

namespace Screen

def puts (st : State) (cf : Conf) : Msg → List Put
  | .scrToReq up => timeoutPuts (fun ac new => ⟨.screenTimeout ac, new⟩) st up
  | .contribReq new => if validateContrib cf new then [⟨.contrib, new⟩] else []
  | _ => []

end Screen

namespace Keyboard

/-- A paused KEYBOARD does not listen to timeouts. -/
def puts (l : Keyboard) (st : State) : Msg → List Put
  | .kbdToReq up => if l.stack = [] then timeoutPuts (fun ac new => ⟨.kbdTimeout ac, new⟩) st up else []
  | .kbdCurveReq up => curvePuts (fun ac pts => ⟨.kbdPoints ac, pts⟩) st up
  | _ => []

end Keyboard

namespace Idle

def puts (k : IdleConf) (put : AcState → ℤ → Put) (st : State) (m : Msg) : List Put :=
  match k.toReq m with
  | some up => timeoutPuts put st up
  | none => []

end Idle

namespace Gamma

/-- A TEMP_REQ of DAYTIME stores nothing. -/
def puts (r : GammaReplies) (st : State) (cf : Conf) : Msg → List Put
  | .tempReq sender up =>
    let v := validateTemp cf st r.junk up
    if v.2 && sender ≠ .daytime then
      ((DayState.ofInt? v.1.daytime).map fun d => (⟨.temp d, v.1.new⟩ : Put)).toList
    else []
  | .ambGammaReq new => if validateAmbgamma cf new then [⟨.ambientGamma, new⟩] else []
  | _ => []

end Gamma

/-- The settings that a module stores when it receives a message; before it has started it stores
none, and a paused GAMMA neither. -/
def PausableMod.puts (r : ModReplies) (m : Msg) (st : State) (cf : Conf) : (x : PausableMod) → x.Loc → List Put
  | backlight, l => if Backlight.isWaiting l then [] else Backlight.puts st cf m
  | screen, l => if (Screen.stack l).head? = some .waitingState then [] else Screen.puts st cf m
  | keyboard, l => if (Keyboard.stack l).head? = some .waitingInit then [] else Keyboard.puts l st m
  | dimmer, l => if (Idle.stack l).head? = some .waitingAcstate then [] else
    Idle.puts dimmerConf (fun ac new => ⟨.dimTimeout ac, new⟩) st m
  | dpms, l => if (Idle.stack l).head? = some .waitingAcstate then [] else
    Idle.puts dpmsConf (fun ac new => ⟨.dpmsTimeout ac, new⟩) st m
  | gamma, l => if Gamma.stack l = [] then Gamma.puts r.gamma st cf m else []

end Clight
