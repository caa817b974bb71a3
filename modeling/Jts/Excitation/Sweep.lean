import Mathlib
import Jts.Shared.Rounding

set_option autoImplicit false

namespace Jts.Excitation

open Shared.Rounding

attribute [local instance] two

/-- What deconvolution needs of a sweep. -/
structure SweepMeta (K : Type*) where
  f1 : K
  f2 : K
  l : K
  durationS : K
  nSamples : ℤ
  sampleRate : ℕ
  amplitudeDbfs : K

/-- Where a composer raises. -/
inductive ComposeError
  | amplitudePositive
  | startNotPositive
  | bandNotAscending
  | aboveNyquist
  | tooShort
  | limitNotPositive
  | doesNotClose
  | unfinished
  | emptySegment
  | durationNotPositive
  | bandsDisjoint
  | rolesEmpty
  | channelsRepeat
  | rolesRepeat
  | tooManyRoles
  | gainMissing
  | repeatCount
  | channelsNarrow
  | tailNegative
  | pilotRoleUnknown
  | measurementBandMissing
  | measurementBandInvalid
  | crossoverInvalid
  | sweepBandInvalid
  | sweepBandCollapsed
  | limitsWithoutRoles
  | limitsIncomplete
  | durationUncloseable
  | noSegments
  | channelOutOfRange
  | overruns
  | notStimulus
  | reconstruction
deriving DecidableEq, Repr

variable {K : Type*} [Field K] [LinearOrder K] [IsStrictOrderedRing K] [FloorRing K] (log : K → K)

def automaticMeasurementStimulusPeakDbfs : K := -12

def synchronizedSweepMetadata (f1 f2 durationApproxS : K) (sampleRate : ℕ) (amplitudeDbfs : K) : Except ComposeError (SweepMeta K) :=
  if 0 < amplitudeDbfs then .error .amplitudePositive
  else if f1 ≤ 0 then .error .startNotPositive
  else if f2 ≤ f1 then .error .bandNotAscending
  else if sampleRate / 2 ≤ f2 then .error .aboveNyquist
  else
    -- The cycles at the lower edge are made a whole number.
    let lInitial := durationApproxS / log (f2 / f1)
    let nCyclesAtF1 := roundHalfEven (lInitial * f1)
    if nCyclesAtF1 < 1 then .error .tooShort
    else
      let l := nCyclesAtF1 / f1
      let durationS := l * log (f2 / f1)
      .ok { f1 := f1
            f2 := f2
            l := l
            durationS := durationS
            nSamples := roundHalfEven (durationS * sampleRate)
            sampleRate := sampleRate
            amplitudeDbfs := amplitudeDbfs }

-- The loop of `phase_closing_duration_s`, as long as its fuel lasts.
def stepDown (f1 f2 atOrBelowS : K) (sampleRate : ℕ) : ℕ → SweepMeta K → Except ComposeError K
  | 0, _ => .error .unfinished
  | fuel + 1, sweep =>
      if sweep.durationS ≤ atOrBelowS then .ok sweep.durationS
      else
        let nCycles := roundHalfEven (sweep.l * f1)
        if nCycles ≤ 1 then .error .doesNotClose
        else do
          let next ← synchronizedSweepMetadata log f1 f2 (sweep.durationS * (nCycles - 1) / nCycles) sampleRate
            automaticMeasurementStimulusPeakDbfs
          stepDown f1 f2 atOrBelowS sampleRate fuel next

def phaseClosingDurationS (fuel : ℕ) (f1 f2 atOrBelowS : K) (sampleRate : ℕ) : Except ComposeError K :=
  if atOrBelowS ≤ 0 then .error .limitNotPositive
  else do
    let sweep ← synchronizedSweepMetadata log f1 f2 atOrBelowS sampleRate automaticMeasurementStimulusPeakDbfs
    stepDown log f1 f2 atOrBelowS sampleRate fuel sweep

section band

/-- How long one cycle at the lower edge makes a sweep. -/
def cycleS (f1 f2 : K) : K := log (f2 / f1) / f1

/-- A sweep of some whole number of cycles. -/
def wholeCycles (f1 f2 : K) (sampleRate : ℕ) (amplitudeDbfs : K) (cycles : ℤ) : SweepMeta K where
  f1 := f1
  f2 := f2
  l := cycles / f1
  durationS := cycles * cycleS log f1 f2
  nSamples := roundHalfEven (cycles * (cycleS log f1 f2 * sampleRate))
  sampleRate := sampleRate
  amplitudeDbfs := amplitudeDbfs

/-- A band and a level that a sweep can have. -/
structure Sweepable (f1 f2 : K) (sampleRate : ℕ) (amplitudeDbfs : K) : Prop where
  quiet : amplitudeDbfs ≤ 0
  positive : 0 < f1
  ascending : f1 < f2
  below : f2 < sampleRate / 2

variable {log} {f1 f2 amplitudeDbfs : K} {sampleRate : ℕ}

omit [FloorRing K] in
theorem one_lt_ratio (able : Sweepable f1 f2 sampleRate amplitudeDbfs) : 1 < f2 / f1 :=
  (one_lt_div able.positive).mpr able.ascending

omit [FloorRing K] in
theorem cycleS_pos (rises : ∀ ratio : K, 1 < ratio → 0 < log ratio) (able : Sweepable f1 f2 sampleRate amplitudeDbfs) :
    0 < cycleS log f1 f2 := div_pos (rises _ (one_lt_ratio able)) able.positive

omit [IsStrictOrderedRing K] in
theorem synchronizedSweepMetadata_eq (able : Sweepable f1 f2 sampleRate amplitudeDbfs) (durationApproxS : K) :
    synchronizedSweepMetadata log f1 f2 durationApproxS sampleRate amplitudeDbfs =
      if roundHalfEven (durationApproxS / cycleS log f1 f2) < 1 then .error .tooShort
      else .ok (wholeCycles log f1 f2 sampleRate amplitudeDbfs (roundHalfEven (durationApproxS / cycleS log f1 f2))) := by
  have cycles : durationApproxS / log (f2 / f1) * f1 = durationApproxS / cycleS log f1 f2 := by
    rw [cycleS, div_div_eq_mul_div, div_mul_eq_mul_div]
  have duration (cycles : ℤ) : (cycles : K) / f1 * log (f2 / f1) = cycles * cycleS log f1 f2 := by
    rw [cycleS]
    ring
  unfold synchronizedSweepMetadata wholeCycles
  rw [if_neg (not_lt.mpr able.quiet), if_neg (not_le.mpr able.positive), if_neg (not_le.mpr able.ascending),
    if_neg (not_le.mpr able.below)]
  dsimp only
  rw [cycles, duration, mul_assoc]

omit [IsStrictOrderedRing K] in
theorem sweepable_of_ok {durationApproxS : K} {sweep : SweepMeta K}
    (made : synchronizedSweepMetadata log f1 f2 durationApproxS sampleRate amplitudeDbfs = .ok sweep) :
    Sweepable f1 f2 sampleRate amplitudeDbfs := by
  unfold synchronizedSweepMetadata at made
  by_cases loud : 0 < amplitudeDbfs
  · rw [if_pos loud] at made
    cases made
  by_cases start : f1 ≤ 0
  · rw [if_neg loud, if_pos start] at made
    cases made
  by_cases band : f2 ≤ f1
  · rw [if_neg loud, if_neg start, if_pos band] at made
    cases made
  by_cases nyquist : (sampleRate : K) / 2 ≤ f2
  · rw [if_neg loud, if_neg start, if_neg band, if_pos nyquist] at made
    cases made
  exact ⟨not_lt.mp loud, not_le.mp start, not_le.mp band, not_le.mp nyquist⟩

omit [IsStrictOrderedRing K] in
/-- A sweep that is made has whole cycles, as near to its request as can be. -/
theorem wholeCycles_of_ok {durationApproxS : K} {sweep : SweepMeta K}
    (made : synchronizedSweepMetadata log f1 f2 durationApproxS sampleRate amplitudeDbfs = .ok sweep) :
    1 ≤ roundHalfEven (durationApproxS / cycleS log f1 f2) ∧
      sweep = wholeCycles log f1 f2 sampleRate amplitudeDbfs (roundHalfEven (durationApproxS / cycleS log f1 f2)) := by
  rw [synchronizedSweepMetadata_eq (sweepable_of_ok made)] at made
  by_cases short : roundHalfEven (durationApproxS / cycleS log f1 f2) < 1
  · rw [if_pos short] at made
    cases made
  · rw [if_neg short] at made
    exact ⟨not_lt.mp short, (Except.ok.inj made).symm⟩

-- A request of whole cycles is met.
theorem synchronizedSweepMetadata_cycles (rises : ∀ ratio : K, 1 < ratio → 0 < log ratio)
    (able : Sweepable f1 f2 sampleRate amplitudeDbfs) {cycles : ℤ} (some : 1 ≤ cycles) :
    synchronizedSweepMetadata log f1 f2 (cycles * cycleS log f1 f2) sampleRate amplitudeDbfs =
      .ok (wholeCycles log f1 f2 sampleRate amplitudeDbfs cycles) := by
  rw [synchronizedSweepMetadata_eq able, mul_div_cancel_right₀ _ (cycleS_pos rises able).ne', roundHalfEven_intCast,
    if_neg (not_lt.mpr some)]

end band

section samples

-- A step of more than one sample cannot be lost to the rounding, and one of at most a sample cannot move the count.
theorem roundHalfEven_again {step : K} (positive : 0 < step) (cycles : ℤ) :
    roundHalfEven (roundHalfEven (roundHalfEven (cycles * step) / step) * step) = roundHalfEven (cycles * step) := by
  have first := roundHalfEven_near (cycles * step)
  by_cases wide : 1 < step
  · have back : roundHalfEven ((roundHalfEven (cycles * step) : K) / step) = cycles := by
      apply roundHalfEven_eq
      have same : (roundHalfEven (cycles * step) : K) / step - cycles = -((cycles * step - roundHalfEven (cycles * step)) / step) := by
        field_simp
        ring
      rw [same, abs_neg, abs_div, abs_of_pos positive, ← mul_div_assoc, div_lt_one positive]
      exact first.trans_lt wide
    rw [back]
  have narrow := not_lt.mp wide
  by_cases one : step = 1
  · subst one
    simp
  · have second := roundHalfEven_near ((roundHalfEven (cycles * step) : K) / step)
    have less : step < 1 := lt_of_le_of_ne narrow one
    apply roundHalfEven_eq
    have same : (roundHalfEven ((roundHalfEven (cycles * step) : K) / step) : K) * step - roundHalfEven (cycles * step) =
        -(((roundHalfEven (cycles * step) : K) / step - roundHalfEven ((roundHalfEven (cycles * step) : K) / step)) * step) := by
      field_simp
      ring
    rw [same, abs_neg, abs_mul, abs_of_pos positive, ← mul_assoc]
    calc 2 * |(roundHalfEven (cycles * step) : K) / step - roundHalfEven ((roundHalfEven (cycles * step) : K) / step)| * step
        ≤ 1 * step := mul_le_mul_of_nonneg_right second positive.le
      _ < 1 := by rwa [one_mul]

theorem one_le_roundHalfEven_again {step : K} (positive : 0 < step) {cycles : ℤ} (some : 0 < roundHalfEven (cycles * step)) :
    1 ≤ roundHalfEven ((roundHalfEven (cycles * step) : K) / step) := by
  by_contra none
  have low : (roundHalfEven ((roundHalfEven (cycles * step) : K) / step) : K) ≤ 0 := by
    exact_mod_cast Int.lt_add_one_iff.mp (not_le.mp none)
  have least : roundHalfEven ((roundHalfEven ((roundHalfEven (cycles * step) : K) / step) : K) * step) ≤ 0 := by
    apply roundHalfEven_le
    simpa using mul_nonpos_of_nonpos_of_nonneg low positive.le
  rw [roundHalfEven_again positive] at least
  exact absurd least (not_le.mpr some)

variable {log} {f1 f2 amplitudeDbfs : K} {sampleRate : ℕ}

/-- A sweep derived again from its sample count has that sample count. -/
theorem synchronizedSweepMetadata_again (rises : ∀ ratio : K, 1 < ratio → 0 < log ratio)
    (able : Sweepable f1 f2 sampleRate amplitudeDbfs) (rated : 0 < sampleRate) {cycles : ℤ}
    (some : 0 < (wholeCycles log f1 f2 sampleRate amplitudeDbfs cycles).nSamples) :
    ∃ sweep : SweepMeta K, synchronizedSweepMetadata log f1 f2
        ((wholeCycles log f1 f2 sampleRate amplitudeDbfs cycles).nSamples / sampleRate) sampleRate amplitudeDbfs = .ok sweep ∧
      sweep.nSamples = (wholeCycles log f1 f2 sampleRate amplitudeDbfs cycles).nSamples := by
  have step : 0 < cycleS log f1 f2 * sampleRate := mul_pos (cycleS_pos rises able) (by exact_mod_cast rated)
  have enough := one_le_roundHalfEven_again step some
  rw [synchronizedSweepMetadata_eq able, div_div, mul_comm (sampleRate : K)]
  refine ⟨_, if_neg (not_lt.mpr enough), roundHalfEven_again step cycles⟩

end samples

section closing

variable {log} {f1 f2 atOrBelowS : K} {sampleRate : ℕ}

omit [IsStrictOrderedRing K] in
theorem stepDown_fits (fuel : ℕ) {sweep : SweepMeta K} (fits : sweep.durationS ≤ atOrBelowS) :
    stepDown log f1 f2 atOrBelowS sampleRate (fuel + 1) sweep = .ok sweep.durationS := by
  rw [stepDown, if_pos fits]

-- A step takes one cycle off.
theorem stepDown_longer (rises : ∀ ratio : K, 1 < ratio → 0 < log ratio)
    (able : Sweepable f1 f2 sampleRate (automaticMeasurementStimulusPeakDbfs : K)) (fuel : ℕ) {cycles : ℤ}
    (long : ¬ cycles * cycleS log f1 f2 ≤ atOrBelowS) (many : 1 < cycles) :
    stepDown log f1 f2 atOrBelowS sampleRate (fuel + 1) (wholeCycles log f1 f2 sampleRate automaticMeasurementStimulusPeakDbfs cycles) =
      stepDown log f1 f2 atOrBelowS sampleRate fuel
        (wholeCycles log f1 f2 sampleRate automaticMeasurementStimulusPeakDbfs (cycles - 1)) := by
  have counted : roundHalfEven ((cycles : K) / f1 * f1) = cycles := by
    rw [div_mul_cancel₀ _ able.positive.ne', roundHalfEven_intCast]
  have less : (cycles : K) * cycleS log f1 f2 * (cycles - 1) / cycles = ((cycles - 1 : ℤ) : K) * cycleS log f1 f2 := by
    have some : (cycles : K) ≠ 0 := by exact_mod_cast (show cycles ≠ 0 by omega)
    push_cast
    field_simp
  rw [stepDown, if_neg (show ¬ (wholeCycles log f1 f2 sampleRate automaticMeasurementStimulusPeakDbfs cycles).durationS ≤ atOrBelowS from long)]
  dsimp only [wholeCycles]
  rw [counted, if_neg (not_le.mpr many), less,
    synchronizedSweepMetadata_cycles rises able (show 1 ≤ cycles - 1 by omega)]
  rfl

theorem stepDown_single (able : Sweepable f1 f2 sampleRate (automaticMeasurementStimulusPeakDbfs : K)) (fuel : ℕ)
    (long : ¬ cycleS log f1 f2 ≤ atOrBelowS) :
    stepDown log f1 f2 atOrBelowS sampleRate (fuel + 1) (wholeCycles log f1 f2 sampleRate automaticMeasurementStimulusPeakDbfs 1) =
      .error .doesNotClose := by
  have counted : roundHalfEven (((1 : ℤ) : K) / f1 * f1) = 1 := by
    rw [div_mul_cancel₀ _ able.positive.ne', roundHalfEven_intCast]
  rw [stepDown, if_neg (by simpa [wholeCycles] using long)]
  dsimp only [wholeCycles]
  rw [counted]
  rfl

/-- Two rounds are enough: the loop ends with the longest whole-cycle duration that is not above the limit, where there is one. -/
theorem phaseClosingDurationS_eq (rises : ∀ ratio : K, 1 < ratio → 0 < log ratio)
    (able : Sweepable f1 f2 sampleRate (automaticMeasurementStimulusPeakDbfs : K)) (limit : 0 < atOrBelowS) (fuel : ℕ) :
    (cycleS log f1 f2 ≤ atOrBelowS →
      phaseClosingDurationS log (fuel + 2) f1 f2 atOrBelowS sampleRate = .ok (⌊atOrBelowS / cycleS log f1 f2⌋ * cycleS log f1 f2)) ∧
      (atOrBelowS < cycleS log f1 f2 →
        phaseClosingDurationS log (fuel + 2) f1 f2 atOrBelowS sampleRate = .error .tooShort ∨
          phaseClosingDurationS log (fuel + 2) f1 f2 atOrBelowS sampleRate = .error .doesNotClose) := by
  have step := cycleS_pos rises able
  have floor_le : (⌊atOrBelowS / cycleS log f1 f2⌋ : K) * cycleS log f1 f2 ≤ atOrBelowS := (le_div_iff₀ step).mp (Int.floor_le _)
  have lt_floor : atOrBelowS < ((⌊atOrBelowS / cycleS log f1 f2⌋ + 1 : ℤ) : K) * cycleS log f1 f2 := by
    push_cast
    exact (div_lt_iff₀ step).mp (Int.lt_floor_add_one _)
  have started : phaseClosingDurationS log (fuel + 2) f1 f2 atOrBelowS sampleRate =
      if roundHalfEven (atOrBelowS / cycleS log f1 f2) < 1 then .error .tooShort
      else stepDown log f1 f2 atOrBelowS sampleRate (fuel + 2)
        (wholeCycles log f1 f2 sampleRate automaticMeasurementStimulusPeakDbfs (roundHalfEven (atOrBelowS / cycleS log f1 f2))) := by
    rw [phaseClosingDurationS, if_neg (not_le.mpr limit), synchronizedSweepMetadata_eq able]
    by_cases short : roundHalfEven (atOrBelowS / cycleS log f1 f2) < 1
    · rw [if_pos short, if_pos short]
      rfl
    · rw [if_neg short, if_neg short]
      rfl
  rw [started]
  constructor
  · intro fits
    have one : 1 ≤ ⌊atOrBelowS / cycleS log f1 f2⌋ := Int.le_floor.mpr (by simpa using (one_le_div step).mpr fits)
    obtain eq | eq := roundHalfEven_eq_floor_or (atOrBelowS / cycleS log f1 f2)
    · rw [eq, if_neg (not_lt.mpr one)]
      exact stepDown_fits _ floor_le
    · rw [eq, if_neg (by omega), stepDown_longer rises able _ (not_le.mpr lt_floor) (by omega), add_sub_cancel_right]
      exact stepDown_fits _ floor_le
  · intro long
    have none : ⌊atOrBelowS / cycleS log f1 f2⌋ = 0 := by
      rw [Int.floor_eq_zero_iff]
      exact ⟨(div_pos limit step).le, (div_lt_one step).mpr long⟩
    obtain eq | eq := roundHalfEven_eq_floor_or (atOrBelowS / cycleS log f1 f2)
    · exact .inl (by rw [eq, none]; rfl)
    · rw [eq, none, zero_add, if_neg (by omega)]
      exact .inr (stepDown_single able _ (not_le.mpr long))

end closing

end Jts.Excitation
