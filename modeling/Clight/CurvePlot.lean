import Clight.CurveRange

/-! The plot of a fitted curve (my_math.c): a square of characters, one column for each point. -/
namespace Clight

/-- round of C: halves are rounded away from zero. -/
def roundRat (q : ℚ) : ℤ := if 0 ≤ q then ⌊q + 1/2⌋ else ⌈q - 1/2⌉

/-- A grid of `n` lines of `n` characters. -/
structure Grid (n : ℕ) where
  rows : List (List Char)
  height : rows.length = n
  width : ∀ row ∈ rows, row.length = n

namespace Grid
variable {n : ℕ}

def InRange (n : ℕ) (cell : ℤ × ℤ) : Prop :=
  (0 ≤ cell.1 ∧ cell.1 ≤ n - 1) ∧ (0 ≤ cell.2 ∧ cell.2 ≤ n - 1)

instance (n : ℕ) (cell : ℤ × ℤ) : Decidable (InRange n cell) :=
  inferInstanceAs (Decidable ((0 ≤ cell.1 ∧ cell.1 ≤ n - 1) ∧ (0 ≤ cell.2 ∧ cell.2 ≤ n - 1)))

/-- A character of init_grid: the axes, and blanks elsewhere. -/
def initChar (n y x : ℕ) : Char :=
  if y = n - 1 then if x = 0 then '+' else '-' else if x = 0 then '|' else ' '

def initGrid (n : ℕ) : Grid n where
  rows := (List.range n).map fun y => (List.range n).map fun x => initChar n y x
  height := by simp
  width := by
    intro row hrow
    obtain ⟨y, -, rfl⟩ := List.mem_map.mp hrow
    simp

/-- A write of a cell; `none` outside of the grid. -/
def setCell (ch : Char) (g : Grid n) (cell : ℤ × ℤ) : Option (Grid n) :=
  if InRange n cell then
    some
      { rows := g.rows.modify cell.1.toNat fun row => row.set cell.2.toNat ch
        height := (List.length_modify _ _ _).trans g.height
        width := by
          intro row hrow
          obtain ⟨i, hi, hget⟩ := List.getElem_of_mem hrow
          rw [List.getElem_modify] at hget
          have hold : i < g.rows.length := by simpa using hi
          have hwidth := g.width _ (List.getElem_mem hold)
          split_ifs at hget
          · rw [← hget, List.length_set, hwidth]
          · rw [← hget, hwidth] }
  else none

/-- Writes within the grid all succeed. -/
theorem foldlM_setCell (ch : Char) {cells : List (ℤ × ℤ)} (hcells : ∀ cell ∈ cells, InRange n cell)
    (g : Grid n) : (cells.foldlM (setCell ch) g).isSome = true := by
  induction cells generalizing g with
  | nil => rfl
  | cons cell cells ih =>
    have hset : setCell ch g cell = some _ := if_pos (hcells cell List.mem_cons_self)
    rw [List.foldlM_cons, hset]
    exact ih (fun cell' h => hcells cell' (List.mem_cons_of_mem _ h)) _

end Grid

namespace Curve

/-- The cell that plot_poly_curve writes in column `i`. -/
def plotCell (c : Curve) (i : ℕ) : ℤ × ℤ :=
  let maxY : ℤ := c.points.length - 1
  let val := getValueFromCurve ((i : ℚ) / ((c.points.length : ℚ) - 1)) c
  (maxY - roundRat (val * ((c.points.length : ℚ) - 1)), i)

/-- The cells that plot_poly_curve writes, from left to right. With a single point 0 / 0 is not a
number, and has no line. -/
def plotCells (c : Curve) : Option (List (ℤ × ℤ)) :=
  if c.points.length = 1 then none else some ((List.range c.points.length).map c.plotCell)

/-- The grid that is shown; `none` if a write is outside of it. -/
def plotPolyCurve (c : Curve) : Option (Grid c.points.length) :=
  c.plotCells.bind fun cells => cells.foldlM (Grid.setCell '*') (Grid.initGrid c.points.length)

end Curve

theorem roundRat_mem {q : ℚ} {n : ℤ} (hq : 0 ≤ q) (hn : q ≤ n) : 0 ≤ roundRat q ∧ roundRat q ≤ n := by
  have hfloor : roundRat q = ⌊q + 1/2⌋ := if_pos hq
  rw [hfloor]
  constructor
  · apply Int.floor_nonneg.mpr
    linarith
  · have hlt : ⌊q + 1/2⌋ < n + 1 := by
      apply Int.floor_lt.mpr
      push_cast
      linarith
    omega

namespace Curve
variable {c : Curve}

/-- A fraction of the height is a line of the grid. -/
theorem plotCell_inRange (hfirst : c.first ∈ Set.Icc (0 : ℚ) 1) (hlast : c.last ∈ Set.Icc (0 : ℚ) 1) {i : ℕ}
    (hi : i < c.points.length) : Grid.InRange c.points.length (c.plotCell i) := by
  have hval : getValueFromCurve ((i : ℚ) / ((c.points.length : ℚ) - 1)) c ∈ Set.Icc (0 : ℚ) 1 :=
    mem_of_ends hfirst hlast (getValueFromCurve_mem _ c)
  have hmax : (0 : ℚ) ≤ (c.points.length : ℚ) - 1 := by
    have hone : (1 : ℚ) ≤ c.points.length := by exact_mod_cast c.nonempty
    linarith
  have hheight : getValueFromCurve ((i : ℚ) / ((c.points.length : ℚ) - 1)) c *
      ((c.points.length : ℚ) - 1) ≤ (((c.points.length : ℤ) - 1 : ℤ) : ℚ) := by
    calc getValueFromCurve ((i : ℚ) / ((c.points.length : ℚ) - 1)) c * ((c.points.length : ℚ) - 1)
        ≤ 1 * ((c.points.length : ℚ) - 1) := mul_le_mul_of_nonneg_right hval.2 hmax
      _ = (((c.points.length : ℤ) - 1 : ℤ) : ℚ) := by
        push_cast
        ring
  have hround := roundRat_mem (mul_nonneg hval.1 hmax) hheight
  -- the line is counted from the top
  unfold plotCell
  dsimp only
  refine ⟨⟨?_, ?_⟩, ?_, ?_⟩
  · dsimp only
    omega
  · dsimp only
    omega
  · exact Int.natCast_nonneg i
  · dsimp only
    omega

/-- Every cell of the plot is on the grid, whatever the fit, and the plot is shown. -/
theorem plotPolyCurve_inRange (hsize : 2 ≤ c.points.length) (hfirst : c.first ∈ Set.Icc (0 : ℚ) 1)
    (hlast : c.last ∈ Set.Icc (0 : ℚ) 1) :
    ∃ cells, c.plotCells = some cells ∧ (∀ cell ∈ cells, Grid.InRange c.points.length cell) ∧
      c.plotPolyCurve.isSome = true := by
  have hplot : c.plotCells = some ((List.range c.points.length).map c.plotCell) :=
    if_neg (show c.points.length ≠ 1 by omega)
  have hcells : ∀ cell ∈ (List.range c.points.length).map c.plotCell,
      Grid.InRange c.points.length cell := by
    intro cell hcell
    obtain ⟨i, hi, rfl⟩ := List.mem_map.mp hcell
    exact plotCell_inRange hfirst hlast (List.mem_range.mp hi)
  refine ⟨_, hplot, hcells, ?_⟩
  unfold plotPolyCurve
  rw [hplot]
  exact Grid.foldlM_setCell '*' hcells _

/-- A curve that goes up, with a fit that does not. -/
def steep : Curve where
  points := [0, 5, 1]
  fitParameters := (7, -30, 2)
  nonempty := by decide
  bounded := by decide

theorem plotPolyCurve_steep : ∃ cells, steep.plotCells = some cells ∧
    (∀ cell ∈ cells, Grid.InRange 3 cell) ∧ steep.plotPolyCurve.isSome = true := by
  have hfirst : steep.first ∈ Set.Icc (0 : ℚ) 1 := ⟨le_rfl, zero_le_one⟩
  have hlast : steep.last ∈ Set.Icc (0 : ℚ) 1 := ⟨zero_le_one, le_rfl⟩
  exact plotPolyCurve_inRange (by decide) hfirst hlast

end Curve
end Clight
