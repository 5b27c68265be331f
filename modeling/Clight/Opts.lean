import Clight.State
import Mathlib.Algebra.Order.Field.Rat

/-! opts.c: the configuration that Clight starts from before any file is read. -/
namespace Clight

def blDefaultCurve : AcState → List ℚ
  | .onAc => [0, 15/100, 29/100, 45/100, 61/100, 74/100, 81/100, 88/100, 93/100, 97/100, 1]
  | .onBattery => [0, 15/100, 23/100, 36/100, 52/100, 59/100, 65/100, 71/100, 75/100, 78/100, 80/100]

def kbdDefaultCurve : AcState → List ℚ
  | .onAc => [1, 97/100, 93/100, 88/100, 81/100, 74/100, 61/100, 45/100, 29/100, 15/100, 0]
  | .onBattery => [80/100, 78/100, 75/100, 71/100, 65/100, 59/100, 52/100, 36/100, 23/100, 15/100, 0]

theorem blDefaultCurve_length (ac : AcState) : (blDefaultCurve ac).length = defSizePoints := by
  cases ac <;> rfl

theorem kbdDefaultCurve_length (ac : AcState) : (kbdDefaultCurve ac).length = defSizePoints := by
  cases ac <;> rfl

/-- A curve with a table of DEF_SIZE_POINTS points, not fitted yet. -/
def defaultCurve (table : AcState → List ℚ) (h : ∀ ac, (table ac).length = defSizePoints)
    (ac : AcState) : Curve where
  points := table ac
  fitParameters := (0, 0, 0)
  nonempty := by rw [h ac]; decide
  bounded := by rw [h ac]; decide

/-- init_opts up to the reading of configuration files: what no init function
writes is zero. -/
def Conf.default : Conf where
  bl := {
    disabled := false
    timeout := fun ac t => match ac, t with
      | .onAc, .day => 10 * 60
      | .onAc, .night => 45 * 60
      | .onAc, .inEvent => 5 * 60
      | .onBattery, .day => 2 * (10 * 60)
      | .onBattery, .night => 2 * (45 * 60)
      | .onBattery, .inEvent => 2 * (5 * 60)
    smooth := { noSmooth := false, transStep := 5/100, transTimeout := 30, transFixed := 0 }
    noAutoCalib := false
    shutterThreshold := 0
    pauseOnLidClosed := false
    captureOnLidOpened := false
    restore := false
    syncMonitorsDelay := 0 }
  sens := {
    numCaptures := fun _ => 5
    devName := none
    devOpts := none
    defaultCurve := Clight.defaultCurve blDefaultCurve blDefaultCurve_length
    specificCurves := ∅ }
  kbd := {
    disabled := false
    timeout := fun ac => match ac with
      | .onAc => 15
      | .onBattery => 5
    curve := Clight.defaultCurve kbdDefaultCurve kbdDefaultCurve_length }
  gamma := {
    disabled := false
    temp := fun d => match d with
      | .day => 6500
      | .night => 4000
    noSmooth := false
    transStep := 50
    transTimeout := 300
    longTransition := false
    ambientGamma := false
    restore := false }
  day := {
    dayEvents := fun _ => ⟨[], by decide⟩
    eventDuration := 30 * 60
    loc := { lat := latUndefined, lon := lonUndefined }
    eventsOs := fun _ => 0 }
  dim := {
    disabled := false
    dimmedPct := 2/10
    timeout := fun ac => match ac with
      | .onAc => 45
      | .onBattery => 20
    smooth := fun _ => { noSmooth := false, transStep := 5/100, transTimeout := 30, transFixed := 0 } }
  dpms := {
    disabled := false
    timeout := fun ac => match ac with
      | .onAc => 900
      | .onBattery => 300 }
  screen := {
    disabled := false
    contrib := 2/10
    -- disabled on battery
    timeout := fun ac => match ac with
      | .onAc => 5
      | .onBattery => -1 }
  inh := { disabled := false, inhibitDocked := false, inhibitPm := false, inhibitBl := false }
  verbose := false
  wizard := false
  resumedelay := 0

end Clight
