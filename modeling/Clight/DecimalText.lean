import Mathlib.Algebra.Order.Round
import Mathlib.Data.Rat.Floor
import Mathlib.Tactic.FieldSimp
import Mathlib.Tactic.Linarith
import Mathlib.Tactic.Positivity

/-! Decimal text in the C locale: how printf writes a number with a fixed count of decimals, how
scanf reads one, and what is left of a number that takes that way. -/
namespace DecimalText

/-- To the nearest integer, and to an even one from the middle of two. -/
def roundEven (q : ℚ) : ℤ :=
  let f := ⌊q⌋
  if q - f < 1 / 2 then f
  else if 1 / 2 < q - f then f + 1
  else if f % 2 = 0 then f
  else f + 1

/-- The digits of `n`, with zeros in front up to `k` of them. -/
def padded (k n : ℕ) : List Char :=
  List.replicate (k - (Nat.toDigits 10 n).length) '0' ++ Nat.toDigits 10 n

/-- The absolute value in units of the last of `k` decimals. -/
def units (k : ℕ) (x : ℚ) : ℕ := (roundEven (|x| * 10 ^ k)).toNat

/-- printf's `%f` with `k` decimals. -/
def print (k : ℕ) (x : ℚ) : List Char :=
  (if x < 0 then ['-'] else []) ++
    (Nat.toDigits 10 (units k x / 10 ^ k) ++ '.' :: padded k (units k x % 10 ^ k))

/-- The number that is printed. -/
def rounded (k : ℕ) (x : ℚ) : ℚ := if x < 0 then -(units k x / 10 ^ k) else units k x / 10 ^ k

def isSpace (c : Char) : Bool := [' ', '\t', '\n', '\x0b', '\x0c', '\r'].contains c

def sign : List Char → ℚ × List Char
  | '-' :: cs => (-1, cs)
  | '+' :: cs => (1, cs)
  | cs => (1, cs)

def digits (cs : List Char) : List Char × List Char :=
  (cs.takeWhile Char.isDigit, cs.dropWhile Char.isDigit)

def fraction : List Char → List Char × List Char
  | '.' :: cs => digits cs
  | cs => ([], cs)

/-- Digits with or without a point, but not a point alone. -/
def mantissa (cs : List Char) : Option (ℚ × List Char) :=
  let int := digits cs
  let frac := fraction int.2
  if int.1 ++ frac.1 = [] then none
  else some (Nat.ofDigitChars 10 (int.1 ++ frac.1) 0 / 10 ^ frac.1.length, frac.2)

def isExp (c : Char) : Bool := c = 'e' || c = 'E'

/-- An exponent, once begun, has digits. -/
def exponent : List Char → Option (ℤ × List Char)
  | [] => some (0, [])
  | c :: cs =>
    if isExp c then
      let s := sign cs
      let ds := digits s.2
      if ds.1 = [] then none
      else some ((if s.1 < 0 then -(Nat.ofDigitChars 10 ds.1 0 : ℤ) else Nat.ofDigitChars 10 ds.1 0), ds.2)
    else some (0, c :: cs)

/-- scanf's `%lf`, for decimal numbers: the number and what is left of the text. -/
def scan (cs : List Char) : Option (ℚ × List Char) :=
  let s := sign (cs.dropWhile isSpace)
  (mantissa s.2).bind fun m => (exponent m.2).map fun e => (s.1 * m.1 * 10 ^ e.1, e.2)

/-! ### Rounding -/

theorem roundEven_near (q : ℚ) : |roundEven q - q| ≤ 1 / 2 := by
  have hlo := Int.floor_le q
  have hhi := Int.lt_floor_add_one q
  unfold roundEven
  dsimp only
  rw [abs_le]
  split_ifs with hlow hhigh
  · constructor <;> linarith
  · push_cast
    constructor <;> linarith
  · constructor <;> linarith
  · push_cast
    constructor <;> linarith

theorem roundEven_natCast (n : ℕ) : roundEven n = n := by
  have hfloor : ⌊(n : ℚ)⌋ = n := Int.floor_natCast n
  unfold roundEven
  rw [hfloor, if_pos]
  push_cast
  linarith

theorem roundEven_nonneg {q : ℚ} (hq : 0 ≤ q) : 0 ≤ roundEven q := by
  have hfloor : 0 ≤ ⌊q⌋ := Int.floor_nonneg.mpr hq
  unfold roundEven
  dsimp only
  split_ifs <;> omega

variable {k : ℕ} {x : ℚ}

theorem units_near (k : ℕ) (x : ℚ) : |(units k x : ℚ) - |x| * 10 ^ k| ≤ 1 / 2 := by
  have hnonneg : 0 ≤ roundEven (|x| * 10 ^ k) := roundEven_nonneg (by positivity)
  have hint : (units k x : ℤ) = roundEven (|x| * 10 ^ k) := Int.toNat_of_nonneg hnonneg
  have hcast : (units k x : ℚ) = roundEven (|x| * 10 ^ k) := by
    rw [← hint, Int.cast_natCast]
  rw [hcast]
  exact roundEven_near _

/-- The error is half a unit of the last decimal. -/
theorem rounded_near (k : ℕ) (x : ℚ) : |rounded k x - x| ≤ 1 / 2 / 10 ^ k := by
  have hpow : (0 : ℚ) < 10 ^ k := by positivity
  have hunits := abs_le.mp (units_near k x)
  have hscaled : |(rounded k x - x) * 10 ^ k| ≤ 1 / 2 := by
    unfold rounded
    rw [abs_le]
    by_cases hx : x < 0
    · rw [abs_of_neg hx] at hunits
      rw [if_pos hx, sub_mul, neg_mul, div_mul_cancel₀ _ hpow.ne']
      constructor <;> linarith
    · rw [abs_of_nonneg (not_lt.mp hx)] at hunits
      rw [if_neg hx, sub_mul, div_mul_cancel₀ _ hpow.ne']
      constructor <;> linarith
  rw [abs_mul, abs_of_pos hpow] at hscaled
  exact (le_div_iff₀ hpow).mpr hscaled

theorem abs_rounded (k : ℕ) (x : ℚ) : |rounded k x| = units k x / 10 ^ k := by
  have hnonneg : (0 : ℚ) ≤ units k x / 10 ^ k := by positivity
  unfold rounded
  split_ifs
  · rw [abs_neg, abs_of_nonneg hnonneg]
  · exact abs_of_nonneg hnonneg

theorem units_rounded (k : ℕ) (x : ℚ) : units k (rounded k x) = units k x := by
  have hpow : (10 : ℚ) ^ k ≠ 0 := by positivity
  have hscaled : |rounded k x| * 10 ^ k = units k x := by
    rw [abs_rounded, div_mul_cancel₀ _ hpow]
  have hround : units k (rounded k x) = (roundEven (units k x)).toNat := by
    rw [← hscaled]
    rfl
  rw [hround, roundEven_natCast, Int.toNat_natCast]

/-- Printed again, a rounded number stays as it is. -/
theorem rounded_rounded (k : ℕ) (x : ℚ) : rounded k (rounded k x) = rounded k x := by
  have hunits := units_rounded k x
  have hnonneg : (0 : ℚ) ≤ units k x / 10 ^ k := by positivity
  by_cases hx : x < 0
  · have hr : rounded k x = -(units k x / 10 ^ k) := if_pos hx
    by_cases hneg : rounded k x < 0
    · rw [hr] at hneg hunits ⊢
      unfold rounded
      rw [if_pos hneg, hunits]
    · -- it was rounded to zero
      have hzero : rounded k x = 0 := by linarith
      have hunits0 : units k 0 = 0 := by
        unfold units
        rw [abs_zero, zero_mul]
        exact congrArg Int.toNat (roundEven_natCast 0)
      rw [hzero]
      unfold rounded
      rw [if_neg (lt_irrefl 0), hunits0, Nat.cast_zero, zero_div]
  · have hr : rounded k x = units k x / 10 ^ k := if_neg hx
    rw [hr] at hunits ⊢
    unfold rounded
    rw [if_neg (not_lt.mpr hnonneg), hunits]

/-! ### What was printed is read -/

theorem isDigit_padded {k n : ℕ} : ∀ c ∈ padded k n, c.isDigit = true := by
  intro c hc
  rcases List.mem_append.mp hc with hzero | hdigit
  · rw [List.eq_of_mem_replicate hzero]
    rfl
  · exact Nat.isDigit_of_mem_toDigits (by decide) (by decide) hdigit

theorem length_padded {n : ℕ} (hk : 0 < k) (hn : n < 10 ^ k) : (padded k n).length = k := by
  have hle : (Nat.toDigits 10 n).length ≤ k := (Nat.length_toDigits_le_iff (by decide) hk).mpr hn
  unfold padded
  rw [List.length_append, List.length_replicate]
  omega

theorem ofDigitChars_padded (k n : ℕ) : Nat.ofDigitChars 10 (padded k n) 0 = n := by
  unfold padded
  rw [Nat.ofDigitChars_append, Nat.ofDigitChars_replicate_zero, mul_zero,
    Nat.ofDigitChars_toDigits (by decide) (by decide)]

/-- Digits are read up to the first other character. -/
theorem digits_append {ds : List Char} (hds : ∀ c ∈ ds, c.isDigit = true) {c : Char}
    (hc : c.isDigit = false) (rest : List Char) : digits (ds ++ c :: rest) = (ds, c :: rest) := by
  have hnot : ¬c.isDigit = true := by
    rw [hc]
    exact Bool.false_ne_true
  unfold digits
  rw [List.takeWhile_append_of_pos hds, List.dropWhile_append_of_pos hds,
    List.takeWhile_cons_of_neg hnot, List.dropWhile_cons_of_neg hnot, List.append_nil]

theorem mantissa_print {n : ℕ} (hk : 0 < k) {c : Char} (hc : c.isDigit = false) (rest : List Char) :
    mantissa (Nat.toDigits 10 (n / 10 ^ k) ++ '.' :: (padded k (n % 10 ^ k) ++ c :: rest)) =
      some ((n : ℚ) / 10 ^ k, c :: rest) := by
  have hpow : 0 < 10 ^ k := by positivity
  have hlow : n % 10 ^ k < 10 ^ k := Nat.mod_lt _ hpow
  have hdigits : ∀ c ∈ Nat.toDigits 10 (n / 10 ^ k), c.isDigit = true := fun _ =>
    Nat.isDigit_of_mem_toDigits (by decide) (by decide)
  have hint := digits_append hdigits (c := '.') rfl (padded k (n % 10 ^ k) ++ c :: rest)
  have hfrac : fraction ('.' :: (padded k (n % 10 ^ k) ++ c :: rest)) =
      (padded k (n % 10 ^ k), c :: rest) := digits_append isDigit_padded hc rest
  have hvalue : Nat.ofDigitChars 10 (Nat.toDigits 10 (n / 10 ^ k) ++ padded k (n % 10 ^ k)) 0 = n := by
    rw [Nat.ofDigitChars_append, Nat.ofDigitChars_eq_ofDigitChars_zero, ofDigitChars_padded,
      length_padded hk hlow, Nat.ofDigitChars_toDigits (by decide) (by decide)]
    exact Nat.div_add_mod n (10 ^ k)
  have hsome : Nat.toDigits 10 (n / 10 ^ k) ++ padded k (n % 10 ^ k) ≠ [] := by
    intro hnil
    exact Nat.toDigits_ne_nil (List.append_eq_nil_iff.mp hnil).1
  unfold mantissa
  dsimp only
  rw [hint, hfrac, if_neg hsome, hvalue, length_padded hk hlow]

theorem exponent_none {c : Char} (hc : isExp c = false) (rest : List Char) :
    exponent (c :: rest) = some (0, c :: rest) := by
  unfold exponent
  dsimp only
  rw [hc]
  rfl

/-- A digit is neither a space nor a sign. -/
theorem sign_digit {c : Char} (hc : c.isDigit = true) (cs : List Char) :
    sign ((c :: cs).dropWhile isSpace) = (1, c :: cs) := by
  have hspace : ¬isSpace c = true := by
    intro hs
    unfold isSpace at hs
    simp only [List.contains_cons, List.contains_nil, Bool.or_eq_true, beq_iff_eq] at hs
    rcases hs with rfl | rfl | rfl | rfl | rfl | rfl | hf
    all_goals first | exact absurd hc (by decide) | cases hf
  rw [List.dropWhile_cons_of_neg hspace]
  unfold sign
  split
  · rename_i hcons
    obtain ⟨rfl, -⟩ := List.cons.inj hcons
    exact absurd hc (by decide)
  · rename_i hcons
    obtain ⟨rfl, -⟩ := List.cons.inj hcons
    exact absurd hc (by decide)
  · rfl

/-- What scanf reads of a number that printf wrote is the rounded number. -/
theorem scan_print (hk : 0 < k) (x : ℚ) {c : Char} (hdigit : c.isDigit = false) (hexp : isExp c = false)
    (rest : List Char) : scan (print k x ++ c :: rest) = some (rounded k x, c :: rest) := by
  have hmantissa := mantissa_print (n := units k x) hk hdigit rest
  have hexponent := exponent_none hexp rest
  have hbody : Nat.toDigits 10 (units k x / 10 ^ k) ++ '.' :: padded k (units k x % 10 ^ k) ++ c :: rest =
      Nat.toDigits 10 (units k x / 10 ^ k) ++ '.' :: (padded k (units k x % 10 ^ k) ++ c :: rest) := by
    rw [List.append_assoc, List.cons_append]
  unfold scan print rounded
  by_cases hx : x < 0
  · have hsign (cs : List Char) : sign (('-' :: cs).dropWhile isSpace) = (-1, cs) := rfl
    rw [if_pos hx, if_pos hx, List.append_assoc, hbody, List.singleton_append]
    dsimp only
    rw [hsign, hmantissa, Option.bind_some, hexponent, Option.map_some, zpow_zero, mul_one, neg_one_mul]
  · rw [if_neg hx, if_neg hx, List.nil_append, hbody]
    obtain ⟨d, ds, hds⟩ := List.exists_cons_of_ne_nil (Nat.toDigits_ne_nil (n := units k x / 10 ^ k) (b := 10))
    have hd : d.isDigit = true := by
      apply Nat.isDigit_of_mem_toDigits (b := 10) (n := units k x / 10 ^ k) (by decide) (by decide)
      rw [hds]
      exact List.mem_cons_self
    rw [hds, List.cons_append] at hmantissa ⊢
    dsimp only
    rw [sign_digit hd, hmantissa, Option.bind_some, hexponent, Option.map_some, zpow_zero, mul_one, one_mul]

end DecimalText
