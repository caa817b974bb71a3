import Mathlib

set_option autoImplicit false

namespace Jts.Shared.RaisedCosine

-- The proof that a numeral carries has a name, so that a definition reads the same wherever it is compiled.
local instance two : Nat.AtLeastTwo 2 := ⟨le_rfl⟩

noncomputable def windowGain (pos n : ℕ) : ℝ := 1 / 2 * (1 - Real.cos (Real.pi * pos / n))

-- Half of the angle of the window at a position.
noncomputable def halfAngle (pos n : ℕ) : ℝ := Real.pi * pos / n / 2

variable {n : ℕ}

theorem windowGain_eq_sin (pos n : ℕ) : windowGain pos n = Real.sin (halfAngle pos n) ^ 2 := by
  have double := Real.cos_sq_add_sin_sq (halfAngle pos n)
  rw [windowGain, show Real.pi * pos / n = 2 * halfAngle pos n by rw [halfAngle]; ring, Real.cos_two_mul]
  linarith

theorem halfAngle_add (first second n : ℕ) : halfAngle (first + second) n = halfAngle first n + halfAngle second n := by
  simp only [halfAngle, Nat.cast_add]
  ring

theorem halfAngle_nonneg (pos n : ℕ) : 0 ≤ halfAngle pos n := by
  rw [halfAngle]
  positivity

theorem halfAngle_le (positive : 0 < n) {pos : ℕ} (within : pos ≤ n) : halfAngle pos n ≤ Real.pi / 2 := by
  have size : (0 : ℝ) < n := by exact_mod_cast positive
  have part : (pos : ℝ) / n ≤ 1 := (div_le_one size).mpr (by exact_mod_cast within)
  rw [halfAngle, mul_div_assoc]
  have := mul_le_mul_of_nonneg_left part Real.pi_pos.le
  linarith

@[simp] theorem windowGain_zero (n : ℕ) : windowGain 0 n = 0 := by simp [windowGain]

theorem windowGain_full (positive : 0 < n) : windowGain n n = 1 := by
  have size : (n : ℝ) ≠ 0 := by exact_mod_cast positive.ne'
  rw [windowGain, mul_div_assoc, div_self size, mul_one, Real.cos_pi]
  norm_num

theorem windowGain_nonneg (pos n : ℕ) : 0 ≤ windowGain pos n := by
  rw [windowGain_eq_sin]
  positivity

theorem windowGain_le_one (pos n : ℕ) : windowGain pos n ≤ 1 := by
  rw [windowGain_eq_sin]
  exact Real.sin_sq_le_one _

/-- Two gains sum to no more than the gain at the sum of their positions. -/
theorem windowGain_add (positive : 0 < n) {first second : ℕ} (within : first + second ≤ n) :
    windowGain first n + windowGain second n ≤ windowGain (first + second) n := by
  have total := halfAngle_le positive within
  rw [halfAngle_add] at total
  have left := halfAngle_nonneg first n
  have right := halfAngle_nonneg second n
  rw [windowGain_eq_sin, windowGain_eq_sin, windowGain_eq_sin, halfAngle_add]
  generalize halfAngle first n = a at *
  generalize halfAngle second n = b at *
  have half := Real.pi_pos
  have sins : 0 ≤ Real.sin a * Real.sin b :=
    mul_nonneg (Real.sin_nonneg_of_nonneg_of_le_pi left (by linarith)) (Real.sin_nonneg_of_nonneg_of_le_pi right (by linarith))
  have cosine : 0 ≤ Real.cos (a + b) := Real.cos_nonneg_of_neg_pi_div_two_le_of_le (by linarith) total
  have gap : Real.sin (a + b) ^ 2 - (Real.sin a ^ 2 + Real.sin b ^ 2) = 2 * (Real.sin a * Real.sin b) * Real.cos (a + b) := by
    have one := Real.sin_sq_add_cos_sq a
    have other := Real.sin_sq_add_cos_sq b
    rw [Real.sin_add, Real.cos_add]
    linear_combination Real.sin b ^ 2 * one + Real.sin a ^ 2 * other
  have := mul_nonneg sins cosine
  linarith

-- The gains of any number of windows, by induction over the set of them.
theorem sum_windowGain_le {ι : Type} [DecidableEq ι] (positive : 0 < n) (lanes : Finset ι) (pos : ι → ℕ)
    (within : ∑ lane ∈ lanes, pos lane ≤ n) :
    ∑ lane ∈ lanes, windowGain (pos lane) n ≤ windowGain (∑ lane ∈ lanes, pos lane) n := by
  induction lanes using Finset.induction_on with
  | empty => simp
  | insert lane lanes fresh ih =>
    rw [Finset.sum_insert fresh] at within ⊢
    rw [Finset.sum_insert fresh]
    have others := ih (by omega)
    have together := windowGain_add positive within
    linarith

theorem sum_windowGain_le_one {ι : Type} [DecidableEq ι] (positive : 0 < n) (lanes : Finset ι) (pos : ι → ℕ)
    (within : ∑ lane ∈ lanes, pos lane ≤ n) : ∑ lane ∈ lanes, windowGain (pos lane) n ≤ 1 :=
  (sum_windowGain_le positive lanes pos within).trans (windowGain_le_one _ n)

end Jts.Shared.RaisedCosine
