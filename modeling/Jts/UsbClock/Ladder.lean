import Jts.Shared.Smoothing
import Mathlib.Algebra.Order.Round
import Mathlib.Data.Rat.Floor
import Mathlib.Data.Sign.Basic

set_option autoImplicit false

namespace Jts.UsbClock

open Jts.Shared.Smoothing

def pitchNeutral : ℤ := 1000000

def maxBiasPpm : ℚ := 1000

def writeEpsilonPpm : ℚ := 10

def writeMinIntervalMs : ℕ := 1000

def tickIntervalMs : ℕ := 1000

def l1WarnPpm : ℚ := 2500

def l1ReleasePpm : ℚ := 2000

def l1SustainTicks : ℕ := 30

def l2SustainTicks : ℕ := 10

def l2SlopeFloorPpm : ℚ := 100

def correctionIntegralGain : ℚ := 1 / 20

def correctionProbeStepSecs : ℕ := 15

def correctionProbeFlipDeadbandPpm : ℚ := 150

def nominalRateHz : ℚ := 48000

def probeBaselineSecs : ℕ := 4

def probeSettleSecs : ℕ := 2

def maxProbeAttempts : ℕ := 2

def probeRetrySettleSecs : ℕ := 10

def probeFillSettleTimeoutSecs : ℕ := 120

def fillReadyDeltaFrames : ℚ := 8

def f64Epsilon : ℚ := 1 / 2 ^ 52

inductive Ladder
  | disabled
  | probing
  | l0Locked
  | l1Warn
  | l2Fallback
  deriving DecidableEq, Repr

inductive FallbackReason
  | none
  | probeNoncompliant
  | lostAuthority
  | actuatorUnavailable
  deriving DecidableEq, Repr

/-- Evidence about the host, which stays latched; an outage of the actuator does not. -/
def FallbackReason.isHostEvidence : FallbackReason → Bool
  | .probeNoncompliant | .lostAuthority => true
  | .none | .actuatorUnavailable => false

structure ControlStatus where
  captureGeneration : ℕ
  controlGeneration : Option ℕ
  refreshes : ℕ
  openFailures : ℕ
  writeFailures : ℕ
  readbackCtlValue : Option ℤ

namespace ControlStatus

def ready (status : ControlStatus) : Bool :=
  status.captureGeneration != 0 && status.controlGeneration == some status.captureGeneration

def unavailable : ControlStatus where
  captureGeneration := 0
  controlGeneration := none
  refreshes := 0
  openFailures := 0
  writeFailures := 0
  readbackCtlValue := none

end ControlStatus

inductive ProbePhase
  | awaitLock
  | baseline
  | step
  | retryWait
  deriving DecidableEq, Repr

inductive ProbeResult
  | none
  | pass
  | fail
  | aborted
  deriving DecidableEq, Repr

inductive ProbeAttemptResult
  | none
  | pass
  | retryableFail
  | fail
  | aborted
  deriving DecidableEq, Repr

/-- The probe step is in the range that the fan-in's configuration admits. -/
structure HostClockConfig where
  enabled : Bool
  probePpm : ℕ
  inRange : 200 ≤ probePpm ∧ probePpm ≤ 800

/-- A reading that is not finite is `none`. -/
structure Obs where
  playing : Bool
  hostConnected : Bool
  preempted : Bool
  steady : Bool
  fillFrames : Option ℚ
  captureFrames : ℕ
  playbackFrames : ℕ
  correctionPpm : Option ℚ

def Obs.session (obs : Obs) : Bool := obs.hostConnected && obs.playing && !obs.preempted

inductive Action
  | writePitch (ppm : ℚ) (reset : Bool)
  deriving DecidableEq

structure SlopeEstimator where
  alpha : ℚ
  lastDivergence : Option ℤ
  slopePpm : ℚ
  haveSlope : Bool
  fillMean : ℚ
  fillVar : ℚ
  haveFill : Bool
  lastFillRaw : Option ℚ
  fillDeltaFrames : ℚ
  correctionMean : ℚ
  haveCorrection : Bool

namespace SlopeEstimator

def new (alpha : ℚ) : SlopeEstimator where
  alpha := alpha
  lastDivergence := none
  slopePpm := 0
  haveSlope := false
  fillMean := 0
  fillVar := 0
  haveFill := false
  lastFillRaw := none
  fillDeltaFrames := 0
  correctionMean := 0
  haveCorrection := false

variable (slope : SlopeEstimator)

def updateSlope (divergence : ℤ) (framesPerTick : ℚ) : SlopeEstimator :=
  match slope.lastDivergence with
  | none => { slope with lastDivergence := some divergence }
  | some prev =>
    let instPpm := if 0 < framesPerTick then (divergence - prev : ℤ) / framesPerTick * 1000000 else 0
    if slope.haveSlope then
      { slope with
        lastDivergence := some divergence
        slopePpm := smooth slope.alpha slope.slopePpm instPpm }
    else { slope with lastDivergence := some divergence, slopePpm := instPpm, haveSlope := true }

def updateFill (fillFrames : Option ℚ) : SlopeEstimator :=
  match fillFrames with
  | none => slope
  | some fill =>
    let d := fill - slope.fillMean
    let smoothed :=
      if slope.haveFill then
        { slope with
          fillMean := smooth slope.alpha slope.fillMean fill
          fillVar := (1 - slope.alpha) * (slope.fillVar + slope.alpha * d * d) }
      else { slope with fillMean := fill, fillVar := 0, haveFill := true }
    { smoothed with
      fillDeltaFrames := match slope.lastFillRaw with
        | some prev => fill - prev
        | none => slope.fillDeltaFrames
      lastFillRaw := some fill }

def updateCorrection (correctionPpm : Option ℚ) : SlopeEstimator :=
  match correctionPpm with
  | none => slope
  | some sample =>
    if slope.haveCorrection then { slope with correctionMean := smooth slope.alpha slope.correctionMean sample }
    else { slope with correctionMean := sample, haveCorrection := true }

def update (divergence : ℤ) (fillFrames correctionPpm : Option ℚ) (framesPerTick : ℚ) : SlopeEstimator :=
  ((slope.updateSlope divergence framesPerTick).updateFill fillFrames).updateCorrection correctionPpm

def correctionMeanPpm : ℚ := if slope.haveCorrection then slope.correctionMean else 0

def hold : SlopeEstimator := { slope with lastDivergence := none, lastFillRaw := none }

def rearm : SlopeEstimator := new slope.alpha

end SlopeEstimator

structure HostClock where
  cfg : HostClockConfig
  slope : SlopeEstimator
  feedForwardPpm : ℚ
  correctionTrimPpm : ℚ
  commandedPpm : ℚ
  lastWrittenPpm : ℚ
  lastWriteMs : Option ℕ
  saturated : Bool
  ladder : Ladder
  probePhase : ProbePhase
  probeStartedMs : ℕ
  lockSinceMs : Option ℕ
  fillReadySinceMs : Option ℕ
  probeBaselineObsPpm : ℚ
  probeStepObsPpm : ℚ
  probeStepPpm : ℚ
  probeResult : ProbeResult
  responseRatio : Option ℚ
  probeAttempt : ℕ
  lastAttemptResult : ProbeAttemptResult
  lastAttemptRatio : Option ℚ
  probeRetries : ℕ
  l1HighTicks : ℕ
  l2EvidenceTicks : ℕ
  holdTicks : ℕ
  lastCorrectionPpm : ℚ
  sessionActive : Bool
  lastTickMs : Option ℕ
  controlStatus : ControlStatus
  activeCaptureGeneration : Option ℕ
  fallbackReason : FallbackReason
  demotions : ℕ
  transitions : ℕ
  lastTransitionReason : String
  startupNeutralized : Bool

def clampBias (ppm : ℚ) : ℚ := max (-maxBiasPpm) (min ppm maxBiasPpm)

-- Ties go away from zero.
def roundPpm (ppm : ℚ) : ℤ := if ppm < 0 then -round (-ppm) else round ppm

def ppmToCtlValue (ppm : ℚ) : ℤ := max 750000 (min (pitchNeutral + roundPpm ppm) 1005000)

namespace HostClock

def new (cfg : HostClockConfig) : HostClock where
  cfg := cfg
  slope := .new (3 / 10)
  feedForwardPpm := 0
  correctionTrimPpm := 0
  commandedPpm := 0
  lastWrittenPpm := 0
  lastWriteMs := none
  saturated := false
  ladder := .disabled
  probePhase := .awaitLock
  probeStartedMs := 0
  lockSinceMs := none
  fillReadySinceMs := none
  probeBaselineObsPpm := 0
  probeStepObsPpm := 0
  probeStepPpm := 0
  probeResult := .none
  responseRatio := none
  probeAttempt := 1
  lastAttemptResult := .none
  lastAttemptRatio := none
  probeRetries := 0
  l1HighTicks := 0
  l2EvidenceTicks := 0
  holdTicks := 0
  lastCorrectionPpm := 0
  sessionActive := false
  lastTickMs := none
  controlStatus := .unavailable
  activeCaptureGeneration := none
  fallbackReason := .none
  demotions := 0
  transitions := 0
  lastTransitionReason := "startup"
  startupNeutralized := false

variable (hc : HostClock)

-- A write that is not forced waits until the command has moved far enough and long enough after the last one.
def command (demandPpm : ℚ) (reset : Bool) : HostClock × List Action :=
  let clamped := clampBias demandPpm
  let nowMs := hc.lastTickMs.getD 0
  let commanded := { hc with saturated := maxBiasPpm ≤ |clamped|, commandedPpm := clamped }
  if !reset && (decide (|clamped - hc.lastWrittenPpm| < writeEpsilonPpm) ||
      hc.lastWriteMs.any fun last => nowMs - last < writeMinIntervalMs) then
    (commanded, [])
  else
    ({ commanded with lastWrittenPpm := clamped, lastWriteMs := some nowMs }, [.writePitch clamped reset])

def transitionTo (target : Ladder) (reason : String) : HostClock :=
  if hc.ladder = target then { hc with lastTransitionReason := reason }
  else { hc with ladder := target, lastTransitionReason := reason, transitions := hc.transitions + 1 }

def resetProbeBudget : HostClock :=
  { hc with
    probeAttempt := 1
    lastAttemptResult := .none
    lastAttemptRatio := none
    probeResult := .none
    responseRatio := none
    fallbackReason := .none }

def resetProbeMeasurement : HostClock × List Action :=
  { hc with
    probePhase := .awaitLock
    lockSinceMs := none
    fillReadySinceMs := none
    probeBaselineObsPpm := 0
    probeStepObsPpm := 0
    probeStepPpm := 0
    slope := hc.slope.rearm
    feedForwardPpm := 0
    correctionTrimPpm := 0 }.command 0 true

def beginProbe (nowMs : ℕ) (reason : String) : HostClock × List Action :=
  { hc.transitionTo .probing reason with
    fallbackReason := .none
    probeResult := .none
    responseRatio := none
    probeStartedMs := nowMs }.resetProbeMeasurement

def enterActuatorFallback (transitionReason : String) : HostClock × List Action :=
  if hc.ladder = .l2Fallback ∧ hc.fallbackReason = .actuatorUnavailable then (hc, [])
  else
    let aborted :=
      if hc.ladder = .probing ∧ (hc.probePhase = .baseline ∨ hc.probePhase = .step) then
        { hc with lastAttemptResult := .aborted, lastAttemptRatio := none }
      else hc
    { aborted with
      fallbackReason := .actuatorUnavailable
      probeResult := .none
      responseRatio := none
      feedForwardPpm := 0
      correctionTrimPpm := 0
      l1HighTicks := 0
      l2EvidenceTicks := 0
      slope := hc.slope.rearm }.transitionTo .l2Fallback transitionReason |>.command 0 true

def setControlStatus (status : ControlStatus) : HostClock := { hc with controlStatus := status }

def invalidateControl (status : ControlStatus) : HostClock :=
  let noted := hc.setControlStatus status
  if hc.sessionActive && !hc.fallbackReason.isHostEvidence then (noted.enterActuatorFallback "pitch_write_failed").1
  else noted

def startupNeutralize : HostClock × Option Action :=
  if hc.startupNeutralized then (hc, none)
  else ({ hc with startupNeutralized := true, commandedPpm := 0 }, some (.writePitch 0 true))

def neutralizeForExit (reason : String) : HostClock × Action :=
  ({ hc.transitionTo .disabled reason with
      fallbackReason := .none
      commandedPpm := 0
      feedForwardPpm := 0
      correctionTrimPpm := 0 }, .writePitch 0 true)

def probeObservablePpm : ℚ := hc.slope.correctionMeanPpm

def settleRegimeOk (obs : Obs) : Bool := obs.playing

def fillReady : Bool := |hc.slope.fillDeltaFrames| ≤ fillReadyDeltaFrames

def chooseProbeStepPpm : ℚ :=
  if correctionProbeFlipDeadbandPpm < hc.probeBaselineObsPpm then -hc.cfg.probePpm else hc.cfg.probePpm

def restartProbeWait : HostClock × List Action := hc.resetProbeMeasurement

def probeRatio : ℚ :=
  if f64Epsilon < |hc.probeStepPpm| then (hc.probeStepObsPpm - hc.probeBaselineObsPpm) / hc.probeStepPpm else 0

def finishProbe : HostClock × List Action :=
  let ratio := hc.probeRatio
  if 1 / 2 ≤ ratio then
    let passed :=
      { hc with
        lastAttemptRatio := some ratio
        lastAttemptResult := .pass
        probeResult := .pass
        responseRatio := some ratio
        fallbackReason := .none
        feedForwardPpm := clampBias (-hc.probeBaselineObsPpm)
        correctionTrimPpm := 0 }.transitionTo .l0Locked "probe_pass"
    passed.command passed.feedForwardPpm true
  else if hc.probeAttempt < maxProbeAttempts then
    { hc with
      lastAttemptRatio := some ratio
      lastAttemptResult := .retryableFail
      probeAttempt := hc.probeAttempt + 1
      probeRetries := hc.probeRetries + 1
      probePhase := .retryWait
      probeStartedMs := hc.lastTickMs.getD 0
      lockSinceMs := none
      fillReadySinceMs := none
      slope := hc.slope.rearm
      feedForwardPpm := 0
      correctionTrimPpm := 0 }.command 0 true
  else
    { hc with
      lastAttemptRatio := some ratio
      lastAttemptResult := .fail
      probeResult := .fail
      responseRatio := some ratio
      fallbackReason := .probeNoncompliant
      demotions := hc.demotions + 1 }.transitionTo .l2Fallback "probe_fail" |>.command 0 true

def tickAwaitLock (obs : Obs) (nowMs : ℕ) : HostClock :=
  if settleRegimeOk obs then
    let since := hc.lockSinceMs.getD nowMs
    let fillReadySince := if hc.fillReady then some (hc.fillReadySinceMs.getD nowMs) else none
    let fillReadyForMs := fillReadySince.elim 0 (nowMs - ·)
    let settled : Bool := probeSettleSecs * 1000 ≤ fillReadyForMs ||
      probeFillSettleTimeoutSecs * 1000 ≤ nowMs - hc.probeStartedMs
    let waited := { hc with lockSinceMs := some since, fillReadySinceMs := fillReadySince }
    if probeSettleSecs * 1000 ≤ nowMs - since ∧ settled then
      { waited with probePhase := .baseline, probeStartedMs := nowMs, slope := hc.slope.rearm }
    else waited
  else { hc with lockSinceMs := none, fillReadySinceMs := none }

def beginStep : HostClock :=
  let measured := { hc with probeBaselineObsPpm := hc.probeObservablePpm }
  { measured with probeStepPpm := measured.chooseProbeStepPpm, probePhase := .step }

def readStep : HostClock := { hc with probeStepObsPpm := hc.probeObservablePpm }

def tickProbe (obs : Obs) (nowMs : ℕ) : HostClock × List Action :=
  if !obs.playing ∧ (hc.probePhase = .baseline ∨ hc.probePhase = .step) then hc.restartProbeWait
  else
    let elapsedMs := nowMs - hc.probeStartedMs
    match hc.probePhase with
    | .retryWait => if probeRetrySettleSecs * 1000 ≤ elapsedMs then hc.restartProbeWait else (hc, [])
    | .awaitLock => (hc.tickAwaitLock obs nowMs, [])
    | .baseline =>
      if probeBaselineSecs * 1000 ≤ elapsedMs then hc.beginStep.command hc.beginStep.probeStepPpm true else (hc, [])
    | .step =>
      if (probeBaselineSecs + correctionProbeStepSecs) * 1000 ≤ elapsedMs then hc.readStep.finishProbe else (hc, [])

/-- The trim after one locked tick, and whether the anti-windup held it. -/
def trimmed : ℚ × Bool :=
  let err := hc.slope.correctionMeanPpm
  let step := -correctionIntegralGain * err
  let candidate := hc.correctionTrimPpm + step
  let totalRaw := hc.feedForwardPpm + candidate
  let railedFurther : Bool := decide (maxBiasPpm < |totalRaw|) && decide ((hc.cfg.probePpm : ℚ) / 2 ≤ |err|) &&
    decide (SignType.sign totalRaw = SignType.sign step)
  (if railedFurther then hc.correctionTrimPpm else candidate, railedFurther)

def demote : HostClock × List Action :=
  let demoted :=
    { hc with
      l2EvidenceTicks := 0
      demotions := hc.demotions + 1
      fallbackReason := .lostAuthority }.transitionTo .l2Fallback "saturated_slope"
  { demoted with feedForwardPpm := 0, correctionTrimPpm := 0 }.command 0 true

-- The warn surface only: commanding goes on, clamped.
def rateDemand (raw : ℚ) : HostClock :=
  let highTicks :=
    if l1WarnPpm < |raw| then hc.l1HighTicks + 1 else if |raw| < l1ReleasePpm then 0 else hc.l1HighTicks
  let rated := { hc with l1HighTicks := highTicks }
  if hc.ladder = .l0Locked ∧ l1SustainTicks ≤ highTicks then rated.transitionTo .l1Warn "raw_demand_high"
  else if hc.ladder = .l1Warn ∧ highTicks = 0 then rated.transitionTo .l0Locked "raw_demand_normal"
  else rated

/-- Ticks in a row at the actuator's limit, by either presentation, with the observable still the wrong way. -/
def l2Evidence (raw : ℚ) (integratorFrozen : Bool) : ℕ :=
  let saturated := decide (maxBiasPpm ≤ |raw|) || integratorFrozen
  let observable := hc.probeObservablePpm
  let l2SlopeThreshold := max ((hc.cfg.probePpm : ℚ) / 2) l2SlopeFloorPpm
  let uncorrected := decide (raw < 0 ∧ l2SlopeThreshold < observable) || decide (0 < raw ∧ observable < -l2SlopeThreshold)
  if saturated && uncorrected then hc.l2EvidenceTicks + 1 else 0

def tickLocked (obs : Obs) : HostClock × List Action :=
  if !obs.steady then ({ hc with l1HighTicks := 0, l2EvidenceTicks := 0 }, [])
  else
    let trim := hc.trimmed
    let raw := hc.feedForwardPpm + trim.1
    let evidence := hc.l2Evidence raw trim.2
    let steered := { hc with correctionTrimPpm := trim.1, l2EvidenceTicks := evidence }
    if l2SustainTicks ≤ evidence then steered.demote else (steered.rateDemand raw).command raw false

-- A probe that never left its wait had nothing to abort.
def abortProbe : HostClock :=
  if hc.ladder = .probing then
    match hc.probePhase with
    | .awaitLock => hc
    | .baseline | .step =>
      { hc with
        probeResult := .aborted
        responseRatio := none
        lastAttemptResult := .aborted
        lastAttemptRatio := none }
    | .retryWait => { hc with probeResult := .aborted, responseRatio := none }
  else hc

def endSession (reason : String) : HostClock × List Action :=
  let rearmed :=
    { hc.abortProbe with
      feedForwardPpm := 0
      correctionTrimPpm := 0
      l1HighTicks := 0
      l2EvidenceTicks := 0
      probeAttempt := 1
      fallbackReason := .none
      activeCaptureGeneration := none }.transitionTo .probing reason
  { rearmed with
    probePhase := .awaitLock
    lockSinceMs := none
    fillReadySinceMs := none
    slope := rearmed.slope.rearm }.command 0 true

/-- What every enabled tick does before it decides anything. -/
def measure (obs : Obs) (framesPerTick : ℚ) : HostClock :=
  let slope :=
    if obs.steady then
      hc.slope.update ((obs.captureFrames : ℤ) - obs.playbackFrames) obs.fillFrames obs.correctionPpm framesPerTick
    else hc.slope.hold
  { hc with
    slope := slope
    holdTicks := if obs.steady then 0 else if obs.session then hc.holdTicks + 1 else 0
    lastCorrectionPpm := slope.correctionMeanPpm }

def framesPerTick (nowMs : ℕ) : ℚ :=
  let dtMs := hc.lastTickMs.elim tickIntervalMs fun prev => max (nowMs - prev) 1
  nominalRateHz * dtMs / 1000

-- The session is on and stays on, in the capture generation it was on in.
def tickSession (obs : Obs) (nowMs : ℕ) (control : ControlStatus) : HostClock × List Action :=
  if !control.ready then
    if hc.fallbackReason.isHostEvidence then (hc, []) else hc.enterActuatorFallback "actuator_unavailable"
  else if hc.ladder = .l2Fallback ∧ hc.fallbackReason = .actuatorUnavailable then
    hc.beginProbe nowMs "actuator_recovered"
  else
    match hc.ladder with
    | .probing => hc.tickProbe obs nowMs
    | .l0Locked | .l1Warn => hc.tickLocked obs
    | .disabled | .l2Fallback => (hc, [])

-- The budget is fresh in a new session and in a new capture generation.
def freshEvidence (control : ControlStatus) : HostClock :=
  { hc with sessionActive := true, activeCaptureGeneration := some control.captureGeneration }.resetProbeBudget

def startEvidence (nowMs : ℕ) (control : ControlStatus) (probing falling : String) : HostClock × List Action :=
  if control.ready then (hc.freshEvidence control).beginProbe nowMs probing
  else (hc.freshEvidence control).enterActuatorFallback falling

-- A session goes on in the tick that starts it.
def startSession (obs : Obs) (nowMs : ℕ) (control : ControlStatus) : HostClock × List Action :=
  let started := hc.startEvidence nowMs control "session_start" "session_start_unavailable"
  let stepped := started.1.tickSession obs nowMs control
  (stepped.1, started.2 ++ stepped.2)

def sessionEndReason (obs : Obs) : String :=
  if obs.preempted then "preempted" else if !obs.hostConnected then "host_disconnected" else "stream_stop"

def tickWithControl (obs : Obs) (nowMs : ℕ) (control : ControlStatus) : HostClock × List Action :=
  let ticked := { hc with controlStatus := control, lastTickMs := some nowMs }
  if !hc.cfg.enabled then (ticked, [])
  else
    let measured := ticked.measure obs (hc.framesPerTick nowMs)
    if obs.session && !hc.sessionActive then
      measured.startSession obs nowMs control
    else if !obs.session && hc.sessionActive then
      { measured with sessionActive := false }.endSession (sessionEndReason obs)
    else if !hc.sessionActive then (measured, [])
    else if hc.activeCaptureGeneration ≠ some control.captureGeneration then
      measured.startEvidence nowMs control "capture_generation_changed" "capture_generation_unbound"
    else measured.tickSession obs nowMs control

end HostClock

end Jts.UsbClock
