import Mathlib.Algebra.Order.Ring.Rat
import Mathlib.Tactic.NormNum

/-! Doubles as they come over the bus, NaN included, with the comparisons of C. -/
namespace Clight

/-- A double: `inf true` is the infinity below every number. -/
inductive Double
  | num (q : ℚ)
  | inf (neg : Bool)
  | nan
  deriving DecidableEq

/-- The check of a point: it is neither below 0 nor above 1. -/
def pointOk {α : Type} [Zero α] [One α] [LT α] [DecidableLT α] (p : α) : Bool := !(p < 0 || 1 < p)

theorem pointOk_iff {q : ℚ} : pointOk q = true ↔ 0 ≤ q ∧ q ≤ 1 := by
  unfold pointOk
  rw [Bool.not_eq_true', Bool.or_eq_false_iff, decide_eq_false_iff_not, decide_eq_false_iff_not,
    not_lt, not_lt]

namespace Double

/-- Every comparison with NaN is false. -/
def lt : Double → Double → Bool
  | num p, num q => p < q
  | num _, inf neg => !neg
  | inf neg, num _ => neg
  | inf neg, inf neg' => neg && !neg'
  | nan, _ | _, nan => false

instance : LT Double := ⟨fun x y => lt x y = true⟩
instance : DecidableLT Double := fun x y => inferInstanceAs (Decidable (lt x y = true))
instance : Zero Double := ⟨num 0⟩
instance : One Double := ⟨num 1⟩

/-- A number of the same side of the check. -/
def stand : Double → ℚ
  | num q => q
  | inf neg => if neg then -1 else 2
  | nan => 0

def isNaN : Double → Bool
  | nan => true
  | _ => false

theorem num_lt {p q : ℚ} : num p < num q ↔ p < q := decide_eq_true_iff

@[simp] theorem pointOk_num (q : ℚ) : pointOk (num q) = pointOk q := by
  have hlow : num q < 0 ↔ q < 0 := num_lt
  have hhigh : 1 < num q ↔ 1 < q := num_lt
  unfold pointOk
  rw [decide_eq_decide.mpr hlow, decide_eq_decide.mpr hhigh]

@[simp] theorem pointOk_nan : pointOk nan = true := rfl
@[simp] theorem pointOk_inf (neg : Bool) : pointOk (inf neg) = false := by cases neg <;> rfl

theorem pointOk_stand (x : Double) : pointOk x.stand = pointOk x := by
  cases x with
  | num q => exact (pointOk_num q).symm
  | inf neg => cases neg <;> decide
  | nan => decide

/-- The double is a number between 0 and 1. -/
def Fraction (x : Double) : Prop := ∃ q, x = num q ∧ 0 ≤ q ∧ q ≤ 1

/-- What passes the check is a fraction, or NaN. -/
theorem fraction_iff {x : Double} : x.Fraction ↔ pointOk x = true ∧ x.isNaN = false := by
  cases x with
  | num q =>
    rw [pointOk_num, pointOk_iff]
    constructor
    · rintro ⟨q', hq, hin⟩
      obtain rfl := Double.num.inj hq
      exact ⟨hin, rfl⟩
    · exact fun h => ⟨q, rfl, h.1⟩
  | inf neg => exact iff_of_false (fun ⟨q, hq, _⟩ => by cases hq) (by simp)
  | nan => exact iff_of_false (fun ⟨q, hq, _⟩ => by cases hq) (by simp [isNaN])

instance (x : Double) : Decidable x.Fraction := decidable_of_iff _ fraction_iff.symm

end Double

end Clight
