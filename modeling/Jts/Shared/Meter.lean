import Mathlib.Analysis.SpecialFunctions.Log.Base
import Mathlib.Analysis.SpecialFunctions.Pow.Real
import Mathlib.Analysis.SpecialFunctions.Trigonometric.Basic
import Mathlib.Analysis.Real.Sqrt

set_option autoImplicit false

namespace Jts.Shared

/-- What a level meter computes its readings with. -/
structure Meter (K : Type) [Field K] [LinearOrder K] where
  log10 : K → K
  sqrt : K → K
  pow : K → K → K
  -- The cosine of a fraction of a half turn.
  cosPi : K → K
  log10_mono : ∀ {a b : K}, 0 < a → a ≤ b → log10 a ≤ log10 b
  log10_floor : log10 (1 / 10 ^ 12) = -12
  log10_fine : log10 (1 / 10 ^ 5) = -5
  sqrt_square : ∀ {a : K}, 0 ≤ a → sqrt (a * a) = a
  sqrt_le : ∀ {a b : K}, 0 ≤ b → a ≤ b * b → sqrt a ≤ b
  pow_pos : ∀ exponent : K, 0 < pow 10 exponent
  cosPi_le : ∀ fraction : K, cosPi fraction ≤ 1

namespace Meter

variable {K : Type} [Field K] [LinearOrder K] (meter : Meter K)

def dbfsFloor : K := 1 / 10 ^ 12

def dbfs (amplitude : K) : K := 20 * meter.log10 (max amplitude dbfsFloor)

def amplitude (gainDb : K) : K := meter.pow 10 (gainDb / 20)

def peak (samples : List K) : K := samples.foldr (fun sample highest => max |sample| highest) 0

def rms (samples : List K) : K :=
  if samples = [] then 0
  else meter.sqrt ((samples.map fun sample => sample * sample).sum / samples.length)

section Readings

theorem le_peak {samples : List K} {sample : K} (among : sample ∈ samples) : |sample| ≤ peak samples := by
  induction samples with
  | nil => nomatch among
  | cons head samples ih =>
    rcases List.mem_cons.mp among with rfl | among
    · exact le_max_left _ _
    · exact (ih among).trans (le_max_right _ _)

theorem peak_le {samples : List K} {bound : K} (nonneg : 0 ≤ bound) (within : ∀ sample ∈ samples, |sample| ≤ bound) :
    peak samples ≤ bound := by
  induction samples with
  | nil => exact nonneg
  | cons head samples ih =>
    exact max_le (within head List.mem_cons_self) (ih fun sample among => within sample (List.mem_cons_of_mem _ among))

variable [IsStrictOrderedRing K]

theorem exists_eq_peak {samples : List K} (some : samples ≠ []) : ∃ sample ∈ samples, peak samples = |sample| := by
  induction samples with
  | nil => exact absurd rfl some
  | cons head samples ih =>
    by_cases more : samples = []
    · exact ⟨head, List.mem_cons_self, by rw [more, peak, List.foldr_cons, List.foldr_nil, max_eq_left (abs_nonneg head)]⟩
    · obtain ⟨sample, among, eq⟩ := ih more
      obtain highest | highest := max_choice |head| (peak samples)
      · exact ⟨head, List.mem_cons_self, highest⟩
      · exact ⟨sample, List.mem_cons_of_mem _ among, highest.trans eq⟩

theorem dbfsFloor_pos : (0 : K) < dbfsFloor := by
  rw [dbfsFloor]
  positivity

theorem dbfs_mono {quieter louder : K} (le : quieter ≤ louder) :
    meter.dbfs quieter ≤ meter.dbfs louder := by
  have logs := meter.log10_mono (lt_max_of_lt_right (dbfsFloor_pos (K := K))) (max_le_max_right dbfsFloor le)
  exact mul_le_mul_of_nonneg_left logs (by norm_num)

theorem dbfs_silence : meter.dbfs 0 = -240 := by
  rw [dbfs, max_eq_right dbfsFloor_pos.le, dbfsFloor, meter.log10_floor]
  norm_num

theorem dbfs_fine : meter.dbfs (1 / 10 ^ 5) = -100 := by
  have above : (dbfsFloor : K) ≤ 1 / 10 ^ 5 := by
    rw [dbfsFloor]
    norm_num
  rw [dbfs, max_eq_left above, meter.log10_fine]
  norm_num

theorem rms_le {samples : List K} {bound : K} (nonneg : 0 ≤ bound)
    (within : ∀ sample ∈ samples, |sample| ≤ bound) : meter.rms samples ≤ bound := by
  rw [rms]
  split
  next => exact nonneg
  next some =>
    apply meter.sqrt_le nonneg
    have count : (0 : K) < samples.length := by exact_mod_cast List.length_pos_of_ne_nil some
    rw [div_le_iff₀ count]
    have squares : ∀ square ∈ samples.map (fun sample => sample * sample), square ≤ bound * bound := by
      intro square squared
      obtain ⟨sample, among, rfl⟩ := List.mem_map.mp squared
      rw [← abs_mul_abs_self sample]
      exact mul_self_le_mul_self (abs_nonneg sample) (within sample among)
    calc (samples.map fun sample => sample * sample).sum
        ≤ (samples.map fun sample => sample * sample).length • (bound * bound) := List.sum_le_card_nsmul _ _ squares
      _ = bound * bound * samples.length := by rw [List.length_map, nsmul_eq_mul, mul_comm]

-- A steady level is its own RMS.
theorem rms_steady {samples : List K} {level : K} (some : samples ≠ [])
    (steady : ∀ sample ∈ samples, |sample| = level) : meter.rms samples = level := by
  obtain ⟨first, among⟩ := List.exists_mem_of_ne_nil samples some
  have nonneg : 0 ≤ level := steady first among ▸ abs_nonneg first
  have squares : (samples.map fun sample => sample * sample) = samples.map fun _ => level * level :=
    List.map_congr_left fun sample among => by rw [← abs_mul_abs_self sample, steady sample among]
  have count : (samples.length : K) ≠ 0 := by
    exact_mod_cast (List.length_pos_of_ne_nil some).ne'
  rw [rms, if_neg some, squares, List.map_const', List.sum_replicate, nsmul_eq_mul, mul_div_cancel_left₀ _ count,
    meter.sqrt_square nonneg]

end Readings

theorem logb_tenth_pow (n : ℕ) : Real.logb 10 (1 / 10 ^ n) = -n := by
  rw [one_div, Real.logb_inv, Real.logb_pow, Real.logb_self_eq_one (by norm_num), mul_one]

/-- The meter of the real functions. -/
noncomputable def real : Meter ℝ where
  log10 := Real.logb 10
  sqrt := Real.sqrt
  pow := fun base exponent => base ^ exponent
  cosPi := fun fraction => Real.cos (Real.pi * fraction)
  log10_mono := fun positive le => Real.logb_le_logb_of_le (by norm_num) positive le
  log10_floor := by exact_mod_cast logb_tenth_pow 12
  log10_fine := by exact_mod_cast logb_tenth_pow 5
  sqrt_square := fun nonneg => Real.sqrt_mul_self nonneg
  sqrt_le := fun nonneg le => Real.sqrt_le_iff.mpr ⟨nonneg, by rwa [sq]⟩
  pow_pos := fun exponent => Real.rpow_pos_of_pos (by norm_num) exponent
  cosPi_le := fun fraction => Real.cos_le_one _

end Meter

end Jts.Shared
