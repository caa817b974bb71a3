import Jts.Shared.Rounding

set_option autoImplicit false

namespace Jts.Shared.Floating

open Rounding (roundHalfEven roundHalfEven_le le_roundHalfEven roundHalfEven_mono roundHalfEven_neg roundHalfEven_intCast)

/-- Binary numbers of a few digits, and the exponent of the smallest step between two of them. -/
structure Format where
  digits : ℕ
  lowest : ℤ
  positive : 0 < digits

def binary64 : Format := ⟨53, -1074, by decide⟩

namespace Format

variable (format : Format)

-- Of the last digit that a number of this size has.
def exponent (value : ℚ) : ℤ := max (Int.log 2 |value| + 1 - format.digits) format.lowest

def step (value : ℚ) : ℚ := 2 ^ format.exponent value

/-- The number of the format that is nearest to a value, the exponents without a bound above. -/
def nearest (value : ℚ) : ℚ := roundHalfEven (value / format.step value) * format.step value

/-- The last digit that a number near some value has does not cut this one off. -/
def OnGrid (value point : ℚ) : Prop := ∃ count : ℤ, point = count * format.step value

variable {format}

theorem step_pos (value : ℚ) : 0 < format.step value := zpow_pos (by norm_num) _

theorem onGrid_zero (value : ℚ) : format.OnGrid value 0 := ⟨0, by simp⟩

theorem OnGrid.neg {value point : ℚ} (on : format.OnGrid value point) : format.OnGrid value (-point) := by
  obtain ⟨count, rfl⟩ := on
  exact ⟨-count, by push_cast; ring⟩

theorem zpow_split {low high : ℤ} (le : low ≤ high) : (2 : ℚ) ^ high = ((2 ^ (high - low).toNat : ℤ) : ℚ) * 2 ^ low := by
  have apart : ((high - low).toNat : ℤ) = high - low := Int.toNat_of_nonneg (by omega)
  push_cast
  rw [← zpow_natCast, ← zpow_add₀ (by norm_num), apart, sub_add_cancel]

theorem OnGrid.finer {value other point : ℚ} (on : format.OnGrid value point) (fine : format.exponent other ≤ format.exponent value) :
    format.OnGrid other point := by
  obtain ⟨count, rfl⟩ := on
  refine ⟨count * 2 ^ (format.exponent value - format.exponent other).toNat, ?_⟩
  rw [step, zpow_split fine, step]
  push_cast
  ring

theorem onGrid_pow {value : ℚ} {power : ℤ} (fine : format.exponent value ≤ power) : format.OnGrid value (2 ^ power) :=
  ⟨_, zpow_split fine⟩

theorem nearest_onGrid (value : ℚ) : format.OnGrid value (format.nearest value) := ⟨_, rfl⟩

theorem nearest_le {value point : ℚ} (on : format.OnGrid value point) (high : value ≤ point) : format.nearest value ≤ point := by
  obtain ⟨count, rfl⟩ := on
  have scaled : value / format.step value ≤ count := (div_le_iff₀ (step_pos value)).mpr high
  exact mul_le_mul_of_nonneg_right (by exact_mod_cast roundHalfEven_le scaled) (step_pos value).le

theorem le_nearest {value point : ℚ} (on : format.OnGrid value point) (low : point ≤ value) : point ≤ format.nearest value := by
  obtain ⟨count, rfl⟩ := on
  have scaled : (count : ℚ) ≤ value / format.step value := (le_div_iff₀ (step_pos value)).mpr low
  exact mul_le_mul_of_nonneg_right (by exact_mod_cast le_roundHalfEven scaled) (step_pos value).le

theorem nearest_of_onGrid {value : ℚ} (on : format.OnGrid value value) : format.nearest value = value :=
  le_antisymm (nearest_le on le_rfl) (le_nearest on le_rfl)

@[simp] theorem nearest_zero : format.nearest 0 = 0 := nearest_of_onGrid (onGrid_zero 0)

theorem exponent_neg (value : ℚ) : format.exponent (-value) = format.exponent value := by rw [exponent, exponent, abs_neg]

@[simp] theorem nearest_neg (value : ℚ) : format.nearest (-value) = -format.nearest value := by
  rw [nearest, nearest, step, step, exponent_neg, neg_div, roundHalfEven_neg]
  push_cast
  ring

theorem nearest_nonneg {value : ℚ} (nonneg : 0 ≤ value) : 0 ≤ format.nearest value := le_nearest (onGrid_zero value) nonneg

theorem nearest_nonpos {value : ℚ} (nonpos : value ≤ 0) : format.nearest value ≤ 0 := nearest_le (onGrid_zero value) nonpos

section Exponents

theorem log_lt_exponent (value : ℚ) : Int.log 2 |value| < format.exponent value + format.digits := by
  have := le_max_left (Int.log 2 |value| + 1 - format.digits) format.lowest
  rw [← exponent] at this
  omega

theorem exponent_mono {low high : ℚ} (positive : 0 < |low|) (le : |low| ≤ |high|) : format.exponent low ≤ format.exponent high := by
  have logs : Int.log 2 |low| ≤ Int.log 2 |high| := Int.log_mono_right positive le
  exact max_le_max (by omega) le_rfl

-- Between two values of which the larger one has the coarser steps there is a power of two.
theorem exists_between {low high : ℚ} (positive : 0 < low) (le : low ≤ high) (coarser : format.exponent low < format.exponent high) :
    ∃ point, low ≤ point ∧ point ≤ high ∧ format.OnGrid low point ∧ format.OnGrid high point := by
  have above : 0 < high := positive.trans_le le
  have digits : (0 : ℤ) < format.digits := by exact_mod_cast format.positive
  have least : format.lowest ≤ format.exponent low := le_max_right _ _
  have exact : format.exponent high = Int.log 2 high + 1 - format.digits := by
    refine (max_choice _ _).elim (fun eq => eq.trans (by rw [abs_of_pos above])) fun lowest => ?_
    exact absurd lowest (least.trans_lt coarser).ne'
  have logs : Int.log 2 low < Int.log 2 high := by
    by_contra same
    have size := @log_lt_exponent format low
    rw [abs_of_pos positive] at size
    omega
  refine ⟨2 ^ Int.log 2 high, ?_, Int.zpow_log_le_self (by decide) above, onGrid_pow (by omega), onGrid_pow (by omega)⟩
  have below : low < 2 ^ (Int.log 2 low + 1) := Int.lt_zpow_succ_log_self (by decide) low
  exact below.le.trans (zpow_le_zpow_right₀ (by norm_num) (by omega))

end Exponents

theorem nearest_mono_of_pos {low high : ℚ} (positive : 0 < low) (le : low ≤ high) : format.nearest low ≤ format.nearest high := by
  have finer : format.exponent low ≤ format.exponent high :=
    exponent_mono (abs_pos.mpr positive.ne') (by rwa [abs_of_pos positive, abs_of_pos (positive.trans_le le)])
  rcases finer.lt_or_eq with coarser | same
  · obtain ⟨point, above, below, onLow, onHigh⟩ := exists_between positive le coarser
    exact (nearest_le onLow above).trans (le_nearest onHigh below)
  · have steps : format.step low = format.step high := congrArg (2 ^ ·) same
    rw [nearest, nearest, steps]
    have scaled : low / format.step high ≤ high / format.step high := div_le_div_of_nonneg_right le (step_pos high).le
    exact mul_le_mul_of_nonneg_right (by exact_mod_cast roundHalfEven_mono scaled) (step_pos high).le

theorem nearest_mono {low high : ℚ} (le : low ≤ high) : format.nearest low ≤ format.nearest high := by
  rcases lt_or_ge 0 low with positive | nonpos
  · exact nearest_mono_of_pos positive le
  rcases lt_or_ge high 0 with negative | nonneg
  · have mirrored := @nearest_mono_of_pos format (-high) (-low) (by linarith) (by linarith)
    rw [nearest_neg, nearest_neg] at mirrored
    linarith
  · exact (nearest_nonpos nonpos).trans (nearest_nonneg nonneg)

theorem abs_nearest (value : ℚ) : |format.nearest value| = format.nearest |value| := by
  rcases le_total 0 value with nonneg | nonpos
  · rw [abs_of_nonneg nonneg, abs_of_nonneg (nearest_nonneg nonneg)]
  · rw [abs_of_nonpos nonpos, abs_of_nonpos (nearest_nonpos nonpos), nearest_neg]

/-- What is rounded is a number of the format. It may have got one digit more, but the last of it is zero then. -/
theorem nearest_nearest (value : ℚ) : format.nearest (format.nearest value) = format.nearest value := by
  have digits : (0 : ℤ) < format.digits := by exact_mod_cast format.positive
  have least : format.lowest ≤ format.exponent value := le_max_right _ _
  set carry : ℤ := format.exponent value + format.digits with carried
  have small : |value| ≤ 2 ^ carry := by
    have below : |value| < 2 ^ (Int.log 2 |value| + 1) := Int.lt_zpow_succ_log_self (by decide) _
    have high := @log_lt_exponent format value
    exact below.le.trans (zpow_le_zpow_right₀ (by norm_num) (by omega))
  have most : |format.nearest value| ≤ 2 ^ carry := by
    rw [abs_nearest]
    refine nearest_le ?_ small
    have same : format.exponent |value| = format.exponent value := by rw [exponent, exponent, abs_abs]
    exact onGrid_pow (by omega)
  apply nearest_of_onGrid
  rcases most.lt_or_eq with less | eq
  · by_cases zero : format.nearest value = 0
    · rw [zero]
      exact onGrid_zero 0
    have log : Int.log 2 |format.nearest value| < carry := (Int.lt_zpow_iff_log_lt (by decide) (abs_pos.mpr zero)).mp (by exact_mod_cast less)
    exact (nearest_onGrid value).finer (max_le (by omega) least)
  · have log : Int.log 2 |format.nearest value| = carry := by
      rw [eq]
      exact_mod_cast Int.log_zpow (R := ℚ) (b := 2) (by decide) carry
    have on : format.OnGrid (format.nearest value) (2 ^ carry) := by
      refine onGrid_pow ?_
      rw [exponent, log]
      exact max_le (by omega) (by omega)
    rcases abs_choice (format.nearest value) with nonneg | negative
    · rwa [← eq, nonneg] at on
    · rw [← eq, negative] at on
      simpa using on.neg

end Format

end Jts.Shared.Floating
