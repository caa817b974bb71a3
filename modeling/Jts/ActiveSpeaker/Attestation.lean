import Mathlib
import Jts.ActiveSpeaker.SummedSoundness

set_option autoImplicit false

namespace Jts.ActiveSpeaker

open Shared Excitation

section Doors

variable {K : Type} [Field K] [LinearOrder K] [IsStrictOrderedRing K] (meter : Meter K) (profile : SafetyProfile K)
  (physical : List PhysicalTarget) (graph : TuningGraph K) (roleTargets : List (String × Fingerprint)) (sessionVolumeDb : K)
  (program : ExcitationProgram K)

/-- What either door admits can be trusted, just when the schedule leaves nothing that the door does not look at: a channel
without a stimulus at the one door, a gate that the peaks of its channel reach beyond at the other. -/
theorem doors_sound :
    ((∀ wav, DriverAdmits meter profile roleTargets sessionVolumeDb program wav →
        Sound meter program wav (driverReaches profile roleTargets program) sessionVolumeDb) ↔
      ((∃ wav, DriverAdmits meter profile roleTargets sessionVolumeDb program wav) →
        ∀ channel < program.channels, Carries program channel)) ∧
    ((∀ wav, SummedAdmits meter profile physical graph roleTargets sessionVolumeDb program wav →
        Sound meter program wav (summedReaches profile physical graph program roleTargets) sessionVolumeDb) ↔
      ((∃ wav, SummedAdmits meter profile physical graph roleTargets sessionVolumeDb program wav) →
        PeaksWithinGates meter profile physical graph roleTargets sessionVolumeDb program)) :=
  ⟨driver_door, summed_door⟩

end Doors

section Stepped

def exactRoot (n : ℕ) : Option ℕ := (List.range (n + 1)).find? fun root => root * root = n

theorem exactRoot_square {n root : ℕ} (found : exactRoot n = some root) : root * root = n := by
  have square := List.find?_some found
  exact of_decide_eq_true square

theorem exactRoot_eq_some {n root : ℕ} : exactRoot n = some root ↔ root * root = n := by
  refine ⟨exactRoot_square, fun square => ?_⟩
  cases found : exactRoot n with
  | none =>
    have missed := List.find?_eq_none.mp found root (List.mem_range.mpr (by nlinarith))
    exact absurd (decide_eq_true square) missed
  | some other => rw [Nat.mul_self_inj.mp ((exactRoot_square found).trans square.symm)]

def exactSqrt (a : ℚ) : ℚ :=
  match exactRoot a.num.toNat, exactRoot a.den with
  | some num, some den => num / den
  | _, _ => 0

theorem exactSqrt_square {a : ℚ} (nonneg : 0 ≤ a) : exactSqrt (a * a) = a := by
  have num : exactRoot (a * a).num.toNat = some a.num.toNat := by
    rw [exactRoot_eq_some, Rat.mul_self_num]
    have := Rat.num_nonneg.mpr nonneg
    zify
    rw [Int.toNat_of_nonneg this, Int.toNat_of_nonneg (mul_nonneg this this)]
  have den : exactRoot (a * a).den = some a.den := by
    rw [exactRoot_eq_some, Rat.mul_self_den]
  rw [exactSqrt, num, den]
  have whole : ((a.num.toNat : ℕ) : ℚ) = a.num := by
    exact_mod_cast Int.toNat_of_nonneg (Rat.num_nonneg.mpr nonneg)
  dsimp only
  rw [whole, Rat.num_div_den]

theorem exactSqrt_le {a b : ℚ} (nonneg : 0 ≤ b) (le : a ≤ b * b) : exactSqrt a ≤ b := by
  unfold exactSqrt
  split
  next num den root_num root_den =>
    rw [exactRoot_eq_some] at root_num root_den
    by_cases positive : 0 ≤ a
    · have square : (num / den : ℚ) * (num / den) = a := by
        rw [div_mul_div_comm, ← Nat.cast_mul, ← Nat.cast_mul, root_num, root_den]
        have whole : ((a.num.toNat : ℕ) : ℚ) = a.num := by
          exact_mod_cast Int.toNat_of_nonneg (Rat.num_nonneg.mpr positive)
        rw [whole, Rat.num_div_den]
      exact (mul_self_le_mul_self_iff (by positivity) nonneg).mpr (square.trans_le le)
    · have zero : a.num.toNat = 0 := Int.toNat_of_nonpos (Rat.num_neg.mpr (not_le.mp positive)).le
      rw [zero, mul_self_eq_zero] at root_num
      rw [root_num, Nat.cast_zero, zero_div]
      exact nonneg
  next => exact nonneg

def steppedLog10 (a : ℚ) : ℚ := if 1 ≤ a then 0 else if 1 / 10 ^ 5 ≤ a then -5 else -12

theorem steppedLog10_mono {a b : ℚ} (_ : 0 < a) (le : a ≤ b) : steppedLog10 a ≤ steppedLog10 b := by
  unfold steppedLog10
  split_ifs <;> linarith

theorem steppedLog10_floor : steppedLog10 (1 / 10 ^ 12) = -12 := by norm_num [steppedLog10]

theorem steppedLog10_fine : steppedLog10 (1 / 10 ^ 5) = -5 := by norm_num [steppedLog10]

def steppedPow (base exponent : ℚ) : ℚ := if base = 4 ∧ exponent = 1 / 2 then 2 else 1

theorem steppedPow_pos (exponent : ℚ) : 0 < steppedPow 10 exponent := by
  unfold steppedPow
  split_ifs <;> norm_num

/-- A meter that reads exactly what is at full scale or silent. -/
def stepped : Meter ℚ where
  log10 := steppedLog10
  sqrt := exactSqrt
  pow := steppedPow
  cosPi := fun _ => 0
  log10_mono := steppedLog10_mono
  log10_floor := steppedLog10_floor
  log10_fine := steppedLog10_fine
  sqrt_square := exactSqrt_square
  sqrt_le := exactSqrt_le
  pow_pos := steppedPow_pos
  cosPi_le := fun _ => zero_le_one

def fullScale (frames channels : ℕ) : Wav where
  rate := 48000
  frames := frames
  channels := channels
  int16 := true
  sample := fun _ _ => 32767

def fullScaleProfile : SafetyProfile ℚ where
  measurementInputsReady := true
  resolveDriverExcitationCeilings := fun _ => .ok (⟨20, 20000, by norm_num, by norm_num⟩, 0)
  effectiveSweepDurationLimitS := fun _ => .ok 10
  requiredProtectionFilters := fun _ => some []

def wooferOutput : PhysicalTarget where
  targetId := "main_woofer"
  role := "woofer"
  outputVariant := none
  outputIndex := 0
  fingerprint := 0

def openGraph : TuningGraph ℚ where
  approved := fun _ => true
  split := []
  outputTerminallyMuted := fun _ _ => false
  protectionRequirementPresent := fun _ _ _ => true
  bassOutputChannels := []
  bassBoostDb := 0
  reserves := le_rfl

-- One pilot on the first of two channels.
def wooferCheck (channels : ℕ) (wide : 0 < channels) : ExcitationProgram ℚ where
  stimulusId := "woofer-check"
  phase := .check
  sampleRateHz := 48000
  channels := channels
  segments := [{
    segmentId := "pilot_woofer"
    kind := .pilot
    role := some "woofer"
    channel := some 0
    nSamples := 2
    f1Hz := some 100
    f2Hz := some 400
    gainDb := 0
    effectivePeakDbfs := 0
    some := by decide
    startSample := 0
    banded := fun _ => ⟨rfl, rfl⟩
    routed := fun _ => rfl
    gateWithin := by decide
    gateOpens := by decide
    fadesFit := by decide }]
  totalSamples := 2
  rated := by decide
  wide := wide
  scheduled := by decide
  channelled := by simpa using wide
  contained := by decide

-- The second half of the sweep is gated away.
def halfVerify : ExcitationProgram ℚ where
  stimulusId := "half-verify"
  phase := .verify
  sampleRateHz := 48000
  channels := 1
  segments := [{
    segmentId := "sweep_verify"
    kind := .summedSweep
    role := none
    channel := some 0
    nSamples := 2
    f1Hz := some 100
    f2Hz := some 400
    gainDb := 0
    effectivePeakDbfs := 0
    some := by decide
    startSample := 0
    gateEndSample := some 1
    banded := fun _ => ⟨rfl, rfl⟩
    routed := fun _ => rfl
    gateWithin := by decide
    gateOpens := by decide
    fadesFit := by decide }]
  totalSamples := 2
  rated := by decide
  wide := by decide
  scheduled := by decide
  channelled := by simp
  contained := by decide

theorem exists_allowed {K : Type} {outcome : Except String (ProgramAdmission K)}
    (passed : outcome.toOption.any (·.allowed) = true) : ∃ admission, outcome = .ok admission ∧ admission.allowed = true := by
  cases outcome with
  | error message => nomatch passed
  | ok admission => exact ⟨admission, rfl, passed⟩

theorem mono_check_sound :
    Sound stepped (wooferCheck 1 (by decide)) (fullScale 2 1)
      (driverReaches fullScaleProfile [("woofer", 0)] (wooferCheck 1 (by decide))) 0 := by
  have trust := doors_sound stepped fullScaleProfile [wooferOutput] openGraph [("woofer", 0)] 0 (wooferCheck 1 (by decide))
  refine trust.1.mpr (fun _ => ?_) (fullScale 2 1) (exists_allowed (by decide +kernel))
  unfold Carries
  decide

theorem doors_unsound :
    (DriverAdmits stepped fullScaleProfile [("woofer", 0)] 0 (wooferCheck 2 (by decide)) (fullScale 2 2) ∧
      ¬Sound stepped (wooferCheck 2 (by decide)) (fullScale 2 2)
        (driverReaches fullScaleProfile [("woofer", 0)] (wooferCheck 2 (by decide))) 0) ∧
    (SummedAdmits stepped fullScaleProfile [wooferOutput] openGraph [("woofer", 0)] 0 halfVerify (fullScale 2 1) ∧
      ¬Sound stepped halfVerify (fullScale 2 1)
        (summedReaches fullScaleProfile [wooferOutput] openGraph halfVerify [("woofer", 0)]) 0) := by
  refine ⟨⟨exists_allowed (by decide +kernel), fun sound => ?_⟩, exists_allowed (by decide +kernel), fun sound => ?_⟩
  · have idle : ¬Carries (wooferCheck 2 (by decide)) 1 := by
      unfold Carries
      decide
    have silent := sound.silent 1 (by decide) idle 0 (by decide)
    revert silent
    decide +kernel
  · have applied := sound.gated _ List.mem_cons_self rfl 0 rfl
    revert applied
    decide +kernel

end Stepped

end Jts.ActiveSpeaker
