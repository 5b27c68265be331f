import Clight.CheckConf
import Clight.Settings

/-! init_opts (opts.c): the defaults, the configuration files of the system and of the user, the
command line, the file that it names, and the check at the end. -/
universe u
namespace Clight

inductive ConfigFile | oldGlobal | global | userLocal
  deriving DecidableEq

/-- The options in the table of parse_cmd; `frames` has the number that atoi reads. -/
inductive CmdOption
  | frames (n : ℤ)
  | device (s : String)
  | noBacklightSmooth
  | noGammaSmooth
  | noDimmerSmooth (t : DimTrans)
  | temp (d : DayState) (t : ℤ)
  | lat (q : ℚ)
  | lon (q : ℚ)
  | event (e : DayEvent) (s : String)
  | noGamma
  | noDimmer
  | noDpms
  | noBacklight
  | noScreen
  | noKbd
  | dimmerPct (q : ℚ)
  | verbose
  | noAutoCalib
  | shutterThres (q : ℚ)
  | version
  | confFile (s : String)
  | gammaLongTransition
  | ambientGamma
  | wizard
  | help
  deriving DecidableEq

/-- PATH_MAX. -/
def confFileMax : ℕ := 4096

namespace CmdOption

/-- What popt, or the switch of parse_cmd, writes into the configuration. -/
def apply : CmdOption → Conf → Conf
  | frames n, cf => { cf with sens := { cf.sens with numCaptures := fun _ => n } }
  | device s, cf => { cf with sens := { cf.sens with devName := some s } }
  | noBacklightSmooth, cf =>
    { cf with bl := { cf.bl with smooth := { cf.bl.smooth with noSmooth := true } } }
  | noGammaSmooth, cf => { cf with gamma := { cf.gamma with noSmooth := true } }
  | noDimmerSmooth t, cf => { cf with dim := { cf.dim with
      smooth := Function.update cf.dim.smooth t { cf.dim.smooth t with noSmooth := true } } }
  | temp d t, cf => { cf with gamma := { cf.gamma with temp := Function.update cf.gamma.temp d t } }
  | lat q, cf => { cf with day := { cf.day with loc := { cf.day.loc with lat := q } } }
  | lon q, cf => { cf with day := { cf.day with loc := { cf.day.loc with lon := q } } }
  | event e s, cf => { cf with day := { cf.day with
      dayEvents := Function.update cf.day.dayEvents e (EventTime.ofString s) } }
  | noGamma, cf => { cf with gamma := { cf.gamma with disabled := true } }
  | noDimmer, cf => { cf with dim := { cf.dim with disabled := true } }
  | noDpms, cf => { cf with dpms := { cf.dpms with disabled := true } }
  | noBacklight, cf => { cf with bl := { cf.bl with disabled := true } }
  | noScreen, cf => { cf with screen := { cf.screen with disabled := true } }
  | noKbd, cf => { cf with kbd := { cf.kbd with disabled := true } }
  | dimmerPct q, cf => { cf with dim := { cf.dim with dimmedPct := q } }
  | verbose, cf => { cf with verbose := true }
  | noAutoCalib, cf => { cf with bl := { cf.bl with noAutoCalib := true } }
  | shutterThres q, cf => { cf with bl := { cf.bl with shutterThreshold := q } }
  | gammaLongTransition, cf => { cf with gamma := { cf.gamma with longTransition := true } }
  | ambientGamma, cf => { cf with gamma := { cf.gamma with ambientGamma := true } }
  | wizard, cf => { cf with wizard := true }
  | version, cf | confFile _, cf | help, cf => cf

/-- Clight prints something and exits. -/
def exits : CmdOption → Bool
  | version | help => true
  | _ => false

/-- strncpy into conf_file, which parse_cmd is given empty. -/
def namesFile : CmdOption → Option String
  | confFile s => some (String.ofList (s.toList.take confFileMax))
  | _ => none

/-- What an option says of a setting. -/
def sets : CmdOption → (k : ConfSetting) → Option k.Val
  | frames n, .numCaptures _ => some n
  | device s, .devName => some (some s)
  | noBacklightSmooth, .blNoSmooth => some true
  | noGammaSmooth, .gammaNoSmooth => some true
  | noDimmerSmooth t, .dimNoSmooth t' => if t' = t then some true else none
  | temp d t, .temp d' => if d' = d then some t else none
  | lat q, .latitude => some q
  | lon q, .longitude => some q
  | event e s, .event e' => if e' = e then some (EventTime.ofString s) else none
  | noGamma, .gammaDisabled => some true
  | noDimmer, .dimDisabled => some true
  | noDpms, .dpmsDisabled => some true
  | noBacklight, .blDisabled => some true
  | noScreen, .screenDisabled => some true
  | noKbd, .kbdDisabled => some true
  | dimmerPct q, .dimmedPct => some q
  | verbose, .verbose => some true
  | noAutoCalib, .noAutoCalib => some true
  | shutterThres q, .shutterThreshold => some q
  | gammaLongTransition, .longTransition => some true
  | ambientGamma, .ambientGamma => some true
  | wizard, .wizard => some true
  | _, _ => none

theorem update_eq_getD {α β : Type} [DecidableEq α] (f : α → β) (a a' : α) (v : β) :
    Function.update f a v a' = (if a' = a then some v else none).getD (f a') := by
  by_cases h : a' = a
  · rw [if_pos h, h, Function.update_self]
    rfl
  · rw [if_neg h, Function.update_of_ne h]
    rfl

/-- The dimmer keeps everything of its transitions but the flag. -/
theorem update_noSmooth {β : Type} (field : BlSmooth → β)
    (hfield : ∀ s : BlSmooth, field { s with noSmooth := true } = field s) (smooth : DimTrans → BlSmooth)
    (t t' : DimTrans) :
    field (Function.update smooth t { smooth t with noSmooth := true } t') = field (smooth t') := by
  by_cases h : t' = t
  · rw [h, Function.update_self, hfield]
  · rw [Function.update_of_ne h]

/-- An option changes the setting that it is about. -/
theorem get_apply (o : CmdOption) (cf : Conf) (k : ConfSetting) :
    k.get (o.apply cf) = (o.sets k).getD (k.get cf) := by
  cases o
  case noDimmerSmooth t =>
    cases k
    case dimNoSmooth t' =>
      have hflag := update_eq_getD (fun t => (cf.dim.smooth t).noSmooth) t t' true
      refine Eq.trans ?_ hflag
      change (Function.update cf.dim.smooth t { cf.dim.smooth t with noSmooth := true } t').noSmooth = _
      by_cases h : t' = t
      · rw [h, Function.update_self, Function.update_self]
      · rw [Function.update_of_ne h, Function.update_of_ne h]
    case dimTransStep t' => exact update_noSmooth BlSmooth.transStep (fun _ => rfl) cf.dim.smooth t t'
    case dimTransTimeout t' => exact update_noSmooth BlSmooth.transTimeout (fun _ => rfl) cf.dim.smooth t t'
    case dimTransFixed t' => exact update_noSmooth BlSmooth.transFixed (fun _ => rfl) cf.dim.smooth t t'
    all_goals rfl
  case temp d t =>
    cases k
    case temp d' => exact update_eq_getD cf.gamma.temp d d' t
    all_goals rfl
  case event e s =>
    cases k
    case event e' => exact update_eq_getD cf.day.dayEvents e e' (EventTime.ofString s)
    all_goals rfl
  all_goals cases k <;> rfl

end CmdOption

/-! ### init_opts -/

variable {S : Type u} (L : Libconfig S)

/-- read_config: a file that is missing, or that libconfig cannot parse, is `none`. -/
def readFile (file : Option S) (cf : Conf) : Conf := file.elim cf fun root => readConfig L root cf

/-- parse_cmd; an argument that popt cannot parse is `none`. The result has the configuration and
conf_file, or is `none` if Clight exits. -/
def parseCmd : List (Option CmdOption) → Conf × String → Option (Conf × String)
  | [], r => some r
  | none :: _, _ => none
  | some o :: args, (cf, confFile) =>
    if o.exits then none else parseCmd args (o.apply cf, o.namesFile.getD confFile)

/-- init_opts: `file` is what the three configuration files hold, `custom` what any other file does, and
`f` what Clightd answers. -/
def initOpts (f : Option Features) (file : ConfigFile → Option S) (custom : String → Option S)
    (args : List (Option CmdOption)) : Option Conf :=
  let cf := readFile L (file .oldGlobal) Conf.default
  let cf := readFile L (file .global) cf
  let cf := readFile L (file .userLocal) cf
  (parseCmd args (cf, "")).map fun (cf, confFile) =>
    checkConf f (if confFile = "" then cf else readFile L (custom confFile) cf)

/-! ### Its layers -/

inductive ConfLayer (S : Type u)
  | file (root : Option S)
  | option (o : CmdOption)

def confLayers : Layers Conf (ConfLayer S) ConfSetting ConfSetting.Val where
  get cf k := k.get cf
  apply
    | .file root => readFile L root
    | .option o => o.apply
  sets
    | .file root, k => root.bind (k.inFile L ·)
    | .option o, k => o.sets k
  get_apply l cf k := by
    cases l with
    | file root =>
      cases root with
      | none => rfl
      | some root => exact get_readConfig L root cf k
    | option o => exact o.get_apply cf k

/-- The file that the last --conf-file names. -/
def namedFile (os : List CmdOption) : String := ((os.filterMap CmdOption.namesFile).getLast?).getD ""

def customLayer (custom : String → Option S) (os : List CmdOption) : List (ConfLayer S) :=
  if namedFile os = "" then [] else [.file (custom (namedFile os))]

/-- The layers of the configuration, in the order in which they are read. -/
def layersOf (file : ConfigFile → Option S) (custom : String → Option S) (os : List CmdOption) :
    List (ConfLayer S) :=
  [.file (file .oldGlobal), .file (file .global), .file (file .userLocal)] ++
    (os.map .option ++ customLayer custom os)

variable {L}

theorem parseCmd_eq (os : List CmdOption) (hos : ∀ o ∈ os, o.exits = false) (cf : Conf) (confFile : String) :
    parseCmd (os.map some) (cf, confFile) = some ((confLayers L).applyAll (os.map .option) cf,
      ((os.filterMap CmdOption.namesFile).getLast?).getD confFile) := by
  induction os generalizing cf confFile with
  | nil => rfl
  | cons o os ih =>
    have hrest : ∀ o' ∈ os, o'.exits = false := fun o' h => hos o' (List.mem_cons_of_mem _ h)
    have ho : o.exits = false := hos o (List.mem_cons_self ..)
    rw [List.map_cons, parseCmd, ho, if_neg Bool.false_ne_true, ih hrest]
    have hname : ((List.filterMap CmdOption.namesFile (o :: os)).getLast?).getD confFile =
        ((os.filterMap CmdOption.namesFile).getLast?).getD (o.namesFile.getD confFile) := by
      cases hn : o.namesFile with
      | none => rw [List.filterMap_cons_none hn, Option.getD_none]
      | some s =>
        rw [List.filterMap_cons_some hn, List.getLast?_cons, Option.getD_some, Option.getD_some]
    rw [hname]
    rfl

/-- parse_cmd returns if popt understands every argument and none of them makes Clight exit. -/
theorem parseCmd_isSome {args : List (Option CmdOption)} {r r' : Conf × String}
    (h : parseCmd args r = some r') : ∃ os : List CmdOption, args = os.map some ∧ ∀ o ∈ os, o.exits = false := by
  induction args generalizing r with
  | nil => exact ⟨[], rfl, by simp⟩
  | cons arg args ih =>
    cases arg with
    | none => cases h
    | some o =>
      rw [parseCmd] at h
      split_ifs at h with ho
      obtain ⟨os, rfl, hos⟩ := ih h
      refine ⟨o :: os, rfl, ?_⟩
      intro o' ho'
      rcases List.mem_cons.mp ho' with rfl | ho'
      · exact Bool.eq_false_iff.mpr ho
      · exact hos o' ho'

/-- init_opts puts its layers over the defaults, and checks what comes out. -/
theorem initOpts_eq (f : Option Features) (file : ConfigFile → Option S) (custom : String → Option S)
    {os : List CmdOption} (hos : ∀ o ∈ os, o.exits = false) :
    initOpts L f file custom (os.map some) =
      some (checkConf f ((confLayers L).applyAll (layersOf file custom os) Conf.default)) := by
  unfold initOpts
  dsimp only
  rw [parseCmd_eq os hos, Option.map_some]
  unfold layersOf customLayer
  rw [Layers.applyAll_append, Layers.applyAll_append]
  change some (checkConf f (if namedFile os = "" then _ else _)) = _
  split_ifs
  · rfl
  · rfl

/-- Clight starts exactly if its arguments can be parsed and none of them asks for the version or for
help. It then runs with the check of a configuration in which each setting has the value that the
last layer gives it: the file of --conf-file, then the options from the last to the first, the file of
the user and those of the system; and the default if none does. -/
theorem init_opts_precedence (f : Option Features) (file : ConfigFile → Option S)
    (custom : String → Option S) (args : List (Option CmdOption)) (cf : Conf) :
    initOpts L f file custom args = some cf ↔
      ∃ os : List CmdOption, args = os.map some ∧ (∀ o ∈ os, o.exits = false) ∧
        ∃ cf₀, cf = checkConf f cf₀ ∧ cf₀ = (confLayers L).applyAll (layersOf file custom os) Conf.default ∧
          ∀ k : ConfSetting, k.get cf₀ =
            ((confLayers L).setBy (layersOf file custom os) k).getD (k.get Conf.default) := by
  constructor
  · intro h
    obtain ⟨r, hr, -⟩ := Option.map_eq_some_iff.mp h
    obtain ⟨os, rfl, hos⟩ := parseCmd_isSome hr
    rw [initOpts_eq f file custom hos] at h
    refine ⟨os, rfl, hos, _, (Option.some.inj h).symm, rfl, ?_⟩
    intro k
    exact Layers.get_applyAll (Y := confLayers L) _ Conf.default k
  · rintro ⟨os, rfl, hos, cf₀, rfl, rfl, -⟩
    exact initOpts_eq f file custom hos

end Clight
