import Clight.State
import Mathlib.Algebra.Order.Field.Rat
import Mathlib.Tactic.Ring

/-! my_math.c: evaluation of a fitted curve, clamped between its end points. -/
namespace Clight

/-- The regression of libgsl: the parameters of the best fit of a list of points. -/
abbrev Fit := List ℚ → ℚ × ℚ × ℚ

def clamp (value max min : ℚ) : ℚ :=
  if max < value then max else if value < min then min else value

namespace Curve

def first (c : Curve) : ℚ := c.points.head (List.ne_nil_of_length_pos c.nonempty)
def last (c : Curve) : ℚ := c.points.getLast (List.ne_nil_of_length_pos c.nonempty)

/-- The larger and the smaller of the two end points: curves may go down. -/
def top (c : Curve) : ℚ := if c.first < c.last then c.last else c.first
def bottom (c : Curve) : ℚ := if c.first < c.last then c.first else c.last

def polynomialfit (fit : Fit) (c : Curve) : Curve := { c with fitParameters := fit c.points }

/-- A curve through other points, fitted again. No other number of points passes
validate_curve. -/
def refit (fit : Fit) (pts : List ℚ) (c : Curve) : Curve :=
  if h : 0 < pts.length ∧ pts.length ≤ maxSizePoints then
    polynomialfit fit ⟨pts, c.fitParameters, h.1, h.2⟩
  else c

end Curve

def getValueFromCurve (perc : ℚ) (c : Curve) : ℚ :=
  let realPerc := perc * ((c.points.length : ℚ) - 1)
  let b := c.fitParameters.1 + c.fitParameters.2.1 * realPerc + c.fitParameters.2.2 * realPerc ^ 2
  clamp b c.top c.bottom

end Clight
