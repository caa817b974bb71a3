import Mathlib
import Jts.Excitation.Limits

set_option autoImplicit false

namespace Jts.Excitation

open Shared.Outcome

variable {K : Type} [Field K] [LinearOrder K] [IsStrictOrderedRing K] [FloorRing K]

/-- What is composed, by any of the composers. -/
inductive Composition (K : Type) [Zero K] [LE K] [LT K]
  | check (args : CheckArgs K) (courtesyPrelude : Bool)
  | measure (args : MeasureArgs K) (gains : MeasureGains K) (repeatCount : ℕ) (courtesyPrelude : Bool)
  | verify (args : VerifyArgs K) (courtesyPrelude : Bool)
  | levelProbe (rb : RoleBand K) (gainsDb : List K) (sweepBandHz : K × K) (gapS downstreamGainDb : K) (channels : ℕ)
  | summedLevelProbe (gainsDb : List K) (sweepBandHz : K × K) (gapS downstreamGainDb : K)

def Composition.build (log : K → K) : Composition K → Except ComposeError (Schedule K)
  | .check args courtesyPrelude => buildCheckProgram log args courtesyPrelude
  | .measure args gains repeatCount courtesyPrelude => buildMeasureProgram log args gains repeatCount courtesyPrelude
  | .verify args courtesyPrelude => buildVerifyProgram log args courtesyPrelude
  | .levelProbe rb gainsDb sweepBandHz gapS downstreamGainDb channels =>
      buildLevelProbeProgram log rb gainsDb sweepBandHz gapS downstreamGainDb channels
  | .summedLevelProbe gainsDb sweepBandHz gapS downstreamGainDb => buildSummedLevelProbeProgram log gainsDb sweepBandHz gapS downstreamGainDb

/-- The sweeps that have limits are within them, as their lengths in samples are compared. -/
def Composition.Fits (composition : Composition K) (schedule : Schedule K) : Prop :=
  match composition with
  | .measure args _ _ _ => MeasureFits args schedule
  | .verify args _ => VerifyFits args schedule
  | .check _ _ | .levelProbe _ _ _ _ _ _ | .summedLevelProbe _ _ _ _ => True

/-- The cycles that the limits leave room for end within them at the sample rate too. -/
def Composition.EndsWithin (log : K → K) : Composition K → Prop
  | .measure args _ _ _ => MeasureEndsWithin log args
  | .verify args _ => VerifyEndsWithin log args
  | .check _ _ | .levelProbe _ _ _ _ _ _ | .summedLevelProbe _ _ _ _ => True

variable {log : K → K} {composition : Composition K} {schedule : Schedule K}

theorem build_renderable (rises : ∀ ratio : K, 1 < ratio → 0 < log ratio) (built : composition.build log = .ok schedule) :
    Renderable log schedule := by
  cases composition with
  | check args courtesyPrelude =>
      obtain ⟨plan, planned, composed⟩ := bind_eq_ok.mp built
      exact compose_renderable rises (checkPlan_announceable planned).composed composed
  | measure args gains repeatCount courtesyPrelude =>
      obtain ⟨plan, planned, composed⟩ := bind_eq_ok.mp built
      exact compose_renderable rises (measurePlan_announceable planned).composed composed
  | verify args courtesyPrelude => exact buildVerifyProgram_renderable rises built
  | levelProbe rb gainsDb sweepBandHz gapS downstreamGainDb channels =>
      obtain ⟨⟨f1Hz, f2Hz⟩, -, made⟩ := bind_eq_ok.mp built
      exact levelProbe_renderable rises rfl made
  | summedLevelProbe gainsDb sweepBandHz gapS downstreamGainDb => exact levelProbe_renderable rises rfl built

theorem fits_iff (rises : ∀ ratio : K, 1 < ratio → 0 < log ratio) (built : composition.build log = .ok schedule) :
    composition.Fits schedule ↔ composition.EndsWithin log := by
  cases composition with
  | measure args gains repeatCount courtesyPrelude => exact measure_fits_iff rises built
  | verify args courtesyPrelude => exact verify_fits_iff rises built
  | check args courtesyPrelude => exact Iff.rfl
  | levelProbe rb gainsDb sweepBandHz gapS downstreamGainDb channels => exact Iff.rfl
  | summedLevelProbe gainsDb sweepBandHz gapS downstreamGainDb => exact Iff.rfl

/-- The whole numbers of cycles that a limit leaves room for. -/
def wholeDurations (log : K → K) (f1Hz f2Hz limitS : K) : Set K :=
  {durationS | durationS ≤ limitS ∧ ∃ cycles : ℤ, 1 ≤ cycles ∧ durationS = cycles * cycleS log f1Hz f2Hz}

-- Any more rounds than two give the same.
theorem phaseClosingDurationS_greatest (rises : ∀ ratio : K, 1 < ratio → 0 < log ratio) {f1Hz f2Hz limitS : K} {sampleRate : ℕ}
    (able : Sweepable f1Hz f2Hz sampleRate (automaticMeasurementStimulusPeakDbfs : K)) (limit : 0 < limitS) (fuel : ℕ) :
    (∃ durationS, phaseClosingDurationS log (fuel + 2) f1Hz f2Hz limitS sampleRate = .ok durationS ∧
        IsGreatest (wholeDurations log f1Hz f2Hz limitS) durationS) ∨
      wholeDurations log f1Hz f2Hz limitS = ∅ ∧
        (phaseClosingDurationS log (fuel + 2) f1Hz f2Hz limitS sampleRate = .error .tooShort ∨
          phaseClosingDurationS log (fuel + 2) f1Hz f2Hz limitS sampleRate = .error .doesNotClose) := by
  have step := cycleS_pos rises able
  obtain ⟨fits, short⟩ := phaseClosingDurationS_eq rises able limit fuel
  rcases le_or_gt (cycleS log f1Hz f2Hz) limitS with one | none
  · refine .inl ⟨_, fits one, ⟨(le_div_iff₀ step).mp (Int.floor_le _), _, ?_, rfl⟩, ?_⟩
    · exact Int.le_floor.mpr (by simpa using (one_le_div step).mpr one)
    · rintro durationS ⟨within, cycles, -, rfl⟩
      have most : cycles ≤ ⌊limitS / cycleS log f1Hz f2Hz⌋ := Int.le_floor.mpr ((le_div_iff₀ step).mpr within)
      gcongr
  · refine .inr ⟨Set.eq_empty_iff_forall_notMem.mpr ?_, short none⟩
    rintro durationS ⟨within, cycles, some, rfl⟩
    have least : (1 : K) ≤ cycles := by exact_mod_cast some
    have longer : 1 * cycleS log f1Hz f2Hz ≤ cycles * cycleS log f1Hz f2Hz := by gcongr
    rw [one_mul] at longer
    exact absurd (longer.trans within) (not_le.mpr none)

/-- What is composed can be rendered, its sweeps close on the most cycles that fit, and it is within the limits that it was fitted to exactly
where the cycles that fit end so at the sample rate. -/
theorem composed_lawful (rises : ∀ ratio : K, 1 < ratio → 0 < log ratio) :
    (∀ (composition : Composition K) (schedule : Schedule K), composition.build log = .ok schedule →
      (∀ segment ∈ schedule.segments, segment.endSample ≤ schedule.totalSamples) ∧
      schedule.segments.Pairwise Clear ∧
      (∀ segment ∈ schedule.segments, segment.kind.isStimulus = true →
        ∃ sweep, segmentSweepMeta log segment = .ok sweep ∧ sweep.nSamples = segment.nSamples) ∧
      (∃ written, renderProgramPcm log schedule = .ok written) ∧
      (composition.Fits schedule ↔ composition.EndsWithin log)) ∧
    ∀ (f1Hz f2Hz limitS : K) (sampleRate fuel : ℕ), Sweepable f1Hz f2Hz sampleRate (automaticMeasurementStimulusPeakDbfs : K) → 0 < limitS →
      (∃ durationS, phaseClosingDurationS log (fuel + 2) f1Hz f2Hz limitS sampleRate = .ok durationS ∧
          IsGreatest (wholeDurations log f1Hz f2Hz limitS) durationS) ∨
        wholeDurations log f1Hz f2Hz limitS = ∅ ∧
          (phaseClosingDurationS log (fuel + 2) f1Hz f2Hz limitS sampleRate = .error .tooShort ∨
            phaseClosingDurationS log (fuel + 2) f1Hz f2Hz limitS sampleRate = .error .doesNotClose) := by
  constructor
  · intro composition schedule built
    have able := build_renderable rises built
    refine ⟨able.bounded, able.clear, fun segment mem stimulus => ?_, ⟨_, renderProgramPcm_ok able⟩, fits_iff rises built⟩
    obtain ⟨sweep, derived⟩ := able.derived mem stimulus
    obtain ⟨_, _, -, -, -, same⟩ := segmentSweepMeta_eq_ok derived
    exact ⟨sweep, derived, same⟩
  · intro f1Hz f2Hz limitS sampleRate fuel able limit
    exact phaseClosingDurationS_greatest rises able limit fuel

section woofer

-- The logarithm of the ratio that the woofer's band has, to sixteen digits; elsewhere it rises too.
def wooferLog (ratio : ℚ) : ℚ := if ratio = 80 / 3 then 32834143460057716 / 10 ^ 16 else ratio - 1

theorem wooferLog_rises (ratio : ℚ) (more : 1 < ratio) : 0 < wooferLog ratio := by
  unfold wooferLog
  split
  · norm_num
  · linarith

def wooferArgs (limitS : ℚ) : MeasureArgs ℚ where
  rolesBands := [⟨"woofer", 0, ⟨40, 4000, by norm_num, by norm_num⟩, by decide⟩]
  sweepDurations := []
  sweepDurationLimitsS := [("woofer", limitS)]
  guardS := 2
  tailS := 1 / 2
  irTailS := 1 / 2
  leadingPilotRole := none
  pilotDurationS := 4 / 5
  pilotGapS := 1 / 2
  sweepBandHz := (measureSweepFLoHz, measureSweepFHiHz)
  gapS := some 1
  channels := none

/-- A woofer's MEASURE program under a limit. -/
def wooferProgram (limitS : ℚ) : Composition ℚ := .measure (wooferArgs limitS) ⟨[("woofer", -12)], none, 0⟩ 2 false

theorem wooferProgram_ends_iff (limitS : ℚ) : (wooferProgram limitS).EndsWithin wooferLog ↔ EndsWithin wooferLog 150 4000 4 limitS := by
  have band (rb : RoleBand ℚ) (mem : rb ∈ (wooferArgs limitS).rolesBands) : measureBand (wooferArgs limitS) rb = .ok (150, 4000) := by
    rw [List.mem_singleton.mp mem]
    change measureBand (wooferArgs 0) _ = _
    decide +kernel
  constructor
  · intro ends
    exact ends _ List.mem_cons_self 150 4000 limitS (band _ List.mem_cons_self) rfl
  · intro ends driven mem f1Hz f2Hz limit banded limited
    obtain rfl := List.mem_singleton.mp mem
    obtain ⟨rfl, rfl⟩ := Prod.mk.inj (Except.ok.inj ((band _ List.mem_cons_self).symm.trans banded))
    obtain rfl := Option.some.inj limited
    exact ends

theorem exists_of_isSome {result : Except ComposeError (Schedule ℚ)} (made : result.toOption.isSome = true) :
    ∃ schedule, result = .ok schedule := by
  cases result with
  | ok schedule => exact ⟨schedule, rfl⟩
  | error error => cases made

/-- The composer's sweep of 4.00577 s fits a limit of four seconds once a cycle is taken off. -/
theorem wooferProgram_fits : ∃ schedule, (wooferProgram 4).build wooferLog = .ok schedule ∧ (wooferProgram 4).Fits schedule := by
  obtain ⟨schedule, built⟩ := exists_of_isSome (show ((wooferProgram 4).build wooferLog).toOption.isSome = true by decide +kernel)
  have ends : EndsWithin wooferLog 150 4000 4 4 := by
    unfold EndsWithin
    decide +kernel
  obtain ⟨-, -, -, -, fits⟩ := (composed_lawful wooferLog_rises).1 (wooferProgram 4) schedule built
  exact ⟨schedule, built, fits.mpr ((wooferProgram_ends_iff 4).mpr ends)⟩

/-- It does not fit one of 4.00577 s: that is more than it takes, and less than its samples take. -/
theorem wooferProgram_overruns :
    ∃ schedule, (wooferProgram (400577 / 100000)).build wooferLog = .ok schedule ∧ ¬ (wooferProgram (400577 / 100000)).Fits schedule := by
  obtain ⟨schedule, built⟩ :=
    exists_of_isSome (show ((wooferProgram (400577 / 100000)).build wooferLog).toOption.isSome = true by decide +kernel)
  have ends : ¬ EndsWithin wooferLog 150 4000 4 (400577 / 100000) := by
    unfold EndsWithin
    decide +kernel
  exact ⟨schedule, built, fun fits => ends ((wooferProgram_ends_iff _).mp ((fits_iff wooferLog_rises built).mp fits))⟩

end woofer

end Jts.Excitation
