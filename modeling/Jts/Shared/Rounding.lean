import Mathlib

set_option autoImplicit false

namespace Jts.Shared.Rounding

variable {K : Type*} [Field K] [LinearOrder K] [IsStrictOrderedRing K] [FloorRing K]

-- The proof that a numeral carries has a name, so that a definition reads the same wherever it is compiled.
local instance two : Nat.AtLeastTwo 2 := ⟨le_rfl⟩

local instance ten : Nat.AtLeastTwo 10 := ⟨by decide⟩

/-- The nearest integer; of two that are as near, the even one. -/
def roundHalfEven (value : K) : ℤ :=
  let floor := ⌊value⌋
  if 2 * (value - floor) < 1 then floor
  else if 1 < 2 * (value - floor) then floor + 1
  else if Even floor then floor else floor + 1

-- `round(value, places)`
def roundTo (places : ℕ) (value : K) : K := roundHalfEven (value * 10 ^ places) / 10 ^ places

omit [IsStrictOrderedRing K] in
theorem roundHalfEven_eq_floor_or (value : K) : roundHalfEven value = ⌊value⌋ ∨ roundHalfEven value = ⌊value⌋ + 1 := by
  unfold roundHalfEven
  dsimp only
  by_cases below : 2 * (value - ⌊value⌋) < 1
  · exact .inl (if_pos below)
  rw [if_neg below]
  by_cases above : 1 < 2 * (value - ⌊value⌋)
  · exact .inr (if_pos above)
  rw [if_neg above]
  by_cases even : Even ⌊value⌋
  · exact .inl (if_pos even)
  · exact .inr (if_neg even)

theorem roundHalfEven_near (value : K) : 2 * |value - roundHalfEven value| ≤ 1 := by
  have low : (⌊value⌋ : K) ≤ value := Int.floor_le value
  have high : value < ⌊value⌋ + 1 := Int.lt_floor_add_one value
  have down (at_most : 2 * (value - ⌊value⌋) ≤ 1) : 2 * |value - (⌊value⌋ : ℤ)| ≤ 1 := by
    rwa [abs_of_nonneg (sub_nonneg.mpr low)]
  have up (at_least : 1 ≤ 2 * (value - ⌊value⌋)) : 2 * |value - ((⌊value⌋ + 1 : ℤ) : K)| ≤ 1 := by
    push_cast
    rw [abs_of_neg (by linarith)]
    linarith
  unfold roundHalfEven
  dsimp only
  by_cases below : 2 * (value - ⌊value⌋) < 1
  · rw [if_pos below]
    exact down below.le
  rw [if_neg below]
  by_cases above : 1 < 2 * (value - ⌊value⌋)
  · rw [if_pos above]
    exact up above.le
  rw [if_neg above]
  by_cases even : Even ⌊value⌋
  · rw [if_pos even]
    exact down (not_lt.mp above)
  · rw [if_neg even]
    exact up (not_lt.mp below)

theorem roundHalfEven_eq {value : K} {number : ℤ} (near : 2 * |value - number| < 1) : roundHalfEven value = number := by
  have rounded := roundHalfEven_near value
  have apart : |((roundHalfEven value - number : ℤ) : K)| < 1 := by
    have triangle : |(roundHalfEven value : K) - number| ≤ |value - roundHalfEven value| + |value - number| := by
      rw [abs_sub_comm value (roundHalfEven value)]
      exact abs_sub_le _ _ _
    push_cast
    linarith
  rw [← Int.cast_abs] at apart
  have none : |roundHalfEven value - number| < 1 := by exact_mod_cast apart
  exact sub_eq_zero.mp (Int.abs_lt_one_iff.mp none)

@[simp] theorem roundHalfEven_intCast (number : ℤ) : roundHalfEven (number : K) = number := by
  apply roundHalfEven_eq
  simp

theorem le_roundHalfEven {value : K} {number : ℤ} (low : (number : K) ≤ value) : number ≤ roundHalfEven value := by
  by_contra below
  have far : (roundHalfEven value : K) + 1 ≤ number := by exact_mod_cast Int.add_one_le_of_lt (not_le.mp below)
  have near := roundHalfEven_near value
  rw [abs_of_nonneg (by linarith)] at near
  linarith

theorem roundHalfEven_le {value : K} {number : ℤ} (high : value ≤ number) : roundHalfEven value ≤ number := by
  by_contra above
  have far : (number : K) + 1 ≤ roundHalfEven value := by exact_mod_cast Int.add_one_le_of_lt (not_le.mp above)
  have near := roundHalfEven_near value
  rw [abs_of_nonpos (by linarith)] at near
  linarith

/-- A value is rounded to at most a number exactly where it is nearer to that than to the next one, a tie going to the even one. -/
theorem roundHalfEven_le_iff {value : K} {number : ℤ} :
    roundHalfEven value ≤ number ↔ 2 * value < 2 * number + 1 ∨ 2 * value = 2 * number + 1 ∧ Even number := by
  have near := roundHalfEven_near value
  obtain ⟨low, high⟩ := abs_le.mp (show |value - roundHalfEven value| ≤ 1 / 2 by linarith)
  rcases lt_trichotomy (2 * value) (2 * number + 1) with below | tie | above
  · refine iff_of_true ?_ (.inl below)
    by_contra past
    have far : (number : K) + 1 ≤ roundHalfEven value := by exact_mod_cast Int.add_one_le_of_lt (not_le.mp past)
    linarith
  · have floor : ⌊value⌋ = number := Int.floor_eq_iff.mpr ⟨by linarith, by linarith⟩
    have half : 2 * (value - number) = 1 := by linarith
    have rounded : roundHalfEven value = if Even number then number else number + 1 := by
      unfold roundHalfEven
      simp [floor, half]
    rw [rounded]
    by_cases even : Even number
    · rw [if_pos even]
      exact iff_of_true le_rfl (.inr ⟨tie, even⟩)
    · rw [if_neg even]
      refine iff_of_false (by omega) ?_
      rintro (less | ⟨-, other⟩)
      · exact absurd less (by rw [tie]; exact lt_irrefl _)
      · exact even other
  · refine iff_of_false (fun most => ?_) ?_
    · have bound : (roundHalfEven value : K) ≤ number := by exact_mod_cast most
      linarith
    · rintro (less | ⟨same, -⟩)
      · exact absurd less (not_lt.mpr above.le)
      · exact absurd same above.ne'

theorem roundHalfEven_mono {low high : K} (le : low ≤ high) : roundHalfEven low ≤ roundHalfEven high := by
  rcases roundHalfEven_le_iff.mp (le_refl (roundHalfEven high)) with below | ⟨tie, even⟩
  · exact roundHalfEven_le_iff.mpr (.inl (by linarith))
  · rcases le.lt_or_eq with less | rfl
    · exact roundHalfEven_le_iff.mpr (.inl (by linarith))
    · exact le_rfl

theorem roundHalfEven_neg (value : K) : roundHalfEven (-value) = -roundHalfEven value := by
  have most := roundHalfEven_le_iff.mp (le_refl (roundHalfEven value))
  have least := mt roundHalfEven_le_iff.mpr (not_le.mpr (sub_one_lt (roundHalfEven value)))
  have parity : Even (roundHalfEven value - 1) ↔ ¬ Even (roundHalfEven value) := by simp [parity_simps]
  push_cast [parity] at least
  rw [not_or, not_lt, not_and_not_right] at least
  refine le_antisymm (roundHalfEven_le_iff.mpr ?_) (Int.sub_one_lt_iff.mp (not_le.mp fun low => ?_))
  · push_cast
    rcases least.1.lt_or_eq with less | same
    · exact .inl (by linarith)
    · exact .inr ⟨by linarith, (least.2 same.symm).neg⟩
  · rcases roundHalfEven_le_iff.mp low with below | ⟨tie, even⟩
    · push_cast at below
      rcases most with high | ⟨same, -⟩ <;> linarith
    · push_cast at tie
      rcases most with high | ⟨-, other⟩
      · linarith
      · exact absurd even (by simp [other])

theorem le_roundTo {places : ℕ} {value : K} {number : ℤ} (low : (number : K) ≤ value) : (number : K) ≤ roundTo places value := by
  have scaled : ((number * 10 ^ places : ℤ) : K) ≤ value * 10 ^ places := by
    push_cast
    gcongr
  have rounded : ((number * 10 ^ places : ℤ) : K) ≤ roundHalfEven (value * 10 ^ places) := by
    exact_mod_cast le_roundHalfEven scaled
  rw [roundTo, le_div_iff₀ (by positivity)]
  simpa using rounded

theorem roundTo_le {places : ℕ} {value : K} {number : ℤ} (high : value ≤ number) : roundTo places value ≤ (number : K) := by
  have scaled : value * 10 ^ places ≤ ((number * 10 ^ places : ℤ) : K) := by
    push_cast
    gcongr
  have rounded : (roundHalfEven (value * 10 ^ places) : K) ≤ ((number * 10 ^ places : ℤ) : K) := by
    exact_mod_cast roundHalfEven_le scaled
  rw [roundTo, div_le_iff₀ (by positivity)]
  simpa using rounded

end Jts.Shared.Rounding
