import Mathlib.Data.Rat.Defs
import Mathlib.Data.List.AList

/-! The data of commons.h and public.h: enumerations, the global configuration
and the global state. Doubles are rationals, ints are integers, and a field that
starts at -1 (undefined) is an option. -/
namespace Clight

inductive AcState | onAc | onBattery
  deriving DecidableEq, Repr

inductive DayState | day | night
  deriving DecidableEq, Repr

inductive DayEvent | sunrise | sunset
  deriving DecidableEq, Repr

inductive LidState | opened | closed | docked
  deriving DecidableEq, Repr

inductive DimTrans | enter | exit
  deriving DecidableEq, Repr

/-- Columns of the backlight timeouts: the two daytimes and IN_EVENT, whose
index is SIZE_STATES. -/
inductive BlTime | day | night | inEvent
  deriving DecidableEq, Repr

def DayState.toBlTime : DayState → BlTime
  | .day => .day
  | .night => .night

/-- C's `!state.day_time`. -/
def DayState.other : DayState → DayState
  | .day => .night
  | .night => .day

abbrev MonId := String

def maxSizePoints : ℕ := 50
def defSizePoints : ℕ := 11

structure Loc where
  lat : ℚ
  lon : ℚ
  deriving DecidableEq

def latUndefined : ℚ := 91
def lonUndefined : ℚ := 181

/-- A curve of 1 to MAX_SIZE_POINTS points with the parameters of its last fit. -/
structure Curve where
  points : List ℚ
  fitParameters : ℚ × ℚ × ℚ
  nonempty : 0 < points.length
  bounded : points.length ≤ maxSizePoints

/-- A user-set event time: at most the 9 bytes that fit in a `char[10]`. -/
abbrev EventTime := {s : List Char // s.length ≤ 9}

structure BlSmooth where
  noSmooth : Bool
  transStep : ℚ
  transTimeout : ℤ
  transFixed : ℤ

structure SensorConf where
  numCaptures : AcState → ℤ
  devName : Option String
  devOpts : Option String
  defaultCurve : AcState → Curve
  specificCurves : AList fun _ : MonId => AcState → Curve

structure BlConf where
  disabled : Bool
  timeout : AcState → BlTime → ℤ
  smooth : BlSmooth
  noAutoCalib : Bool
  shutterThreshold : ℚ
  pauseOnLidClosed : Bool
  captureOnLidOpened : Bool
  restore : Bool
  syncMonitorsDelay : ℤ

structure KbdConf where
  disabled : Bool
  timeout : AcState → ℤ
  curve : AcState → Curve

structure GammaConf where
  disabled : Bool
  temp : DayState → ℤ
  noSmooth : Bool
  transStep : ℤ
  transTimeout : ℤ
  longTransition : Bool
  ambientGamma : Bool
  restore : Bool

structure DaytimeConf where
  dayEvents : DayEvent → EventTime
  eventDuration : ℤ
  loc : Loc
  eventsOs : DayEvent → ℤ

structure DimmerConf where
  disabled : Bool
  dimmedPct : ℚ
  timeout : AcState → ℤ
  smooth : DimTrans → BlSmooth

structure DpmsConf where
  disabled : Bool
  timeout : AcState → ℤ

structure ScreenConf where
  disabled : Bool
  contrib : ℚ
  timeout : AcState → ℤ

structure InhConf where
  disabled : Bool
  inhibitDocked : Bool
  inhibitPm : Bool
  inhibitBl : Bool

structure Conf where
  bl : BlConf
  sens : SensorConf
  kbd : KbdConf
  gamma : GammaConf
  day : DaytimeConf
  dim : DimmerConf
  dpms : DpmsConf
  screen : ScreenConf
  inh : InhConf
  verbose : Bool
  wizard : Bool
  resumedelay : ℤ

/-- Bits of the display state: DISPLAY_DIMMED and DISPLAY_OFF. -/
abbrev DisplayState := BitVec 2

def displayOn : DisplayState := 0#2
def displayDimmed : DisplayState := 1#2
def displayOff : DisplayState := 2#2

structure State where
  screenBr : ℚ
  inEvent : Bool
  inhibited : Bool
  sensAvail : Option Bool
  suspended : Bool
  dayTime : Option DayState
  acState : Option AcState
  lidState : Option LidState
  displayState : DisplayState
  nextEvent : Option DayEvent
  eventTimeRange : ℤ
  currentTemp : ℤ
  dayEvents : DayEvent → ℤ
  currentLoc : Loc
  currentBlPct : ℚ
  currentKbdPct : ℚ
  ambientBr : ℚ

/-- `if (state.lid_state)`: closed, docked, and also the undefined -1. -/
def State.lidShut (st : State) : Bool := st.lidState ≠ some .opened

/-- `if (state.sens_avail)`: the undefined -1 counts as available. -/
def State.sensOk (st : State) : Bool := st.sensAvail ≠ some false

def State.displayBusy (st : State) : Bool := st.displayState ≠ displayOn

/-- Reads a table indexed by AC state. The index -1 of a state that is not known
yet lies outside of the table; receivers wait for UPOWER_UPD before they read it. -/
def atAc (t : AcState → ℤ) : Option AcState → ℤ
  | some ac => t ac
  | none => 0

/-- Reads the backlight timeouts, with the same convention for both indices. -/
def BlConf.timeoutAt (cf : BlConf) (ac : Option AcState) (t : Option BlTime) : ℤ :=
  match t with
  | some t => atAc (cf.timeout · t) ac
  | none => 0

/-- State set up by main.c before any module runs. -/
def initState (cf : Conf) : State where
  screenBr := 0
  inEvent := false
  inhibited := false
  sensAvail := none
  suspended := false
  dayTime := none
  acState := none
  lidState := none
  displayState := displayOn
  nextEvent := none
  eventTimeRange := 0
  currentTemp := 0
  dayEvents := fun _ => 0
  currentLoc := cf.day.loc
  currentBlPct := 0
  currentKbdPct := 0
  ambientBr := 0

end Clight
