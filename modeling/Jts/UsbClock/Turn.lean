import Jts.UsbClock.Ladder

set_option autoImplicit false

namespace Jts.UsbClock

open Jts.Shared.Smoothing

/-- What of the ladder decides whether the host is slaved, and what the verdict of its probe is read from. -/
structure Standing where
  cfg : HostClockConfig
  ladder : Ladder
  phase : ProbePhase
  active : Bool
  generation : Option ℕ
  reason : FallbackReason
  attempt : ℕ
  started : ℕ
  baseline : ℚ
  step : ℚ
  alpha : ℚ
  mean : Option ℚ

def neutral : List Action := [.writePitch 0 true]

namespace Standing

variable (standing : Standing)

def hears (obs : Obs) : Option ℚ :=
  if obs.steady then
    match obs.correctionPpm with
    | none => standing.mean
    | some sample => some (standing.mean.elim sample fun mean => smooth standing.alpha mean sample)
  else standing.mean

def heard (obs : Obs) : Standing := { standing with mean := standing.hears obs }

def ratio : ℚ :=
  if f64Epsilon < |standing.step| then (standing.mean.getD 0 - standing.baseline) / standing.step else 0

def stepped (probePpm : ℚ) : Standing :=
  let baseline := standing.mean.getD 0
  { standing with
    phase := .step
    baseline := baseline
    step := if correctionProbeFlipDeadbandPpm < baseline then -probePpm else probePpm }

def awaiting : Standing := { standing with phase := .awaitLock, baseline := 0, step := 0, mean := none }

/-- The verdict of a probe attempt that a tick completes: its step phase ends in trust, in the wait before the second
attempt, or in the fallback on host evidence. -/
def verdict (after : Standing) : Option ProbeAttemptResult :=
  if standing.ladder = .probing ∧ standing.phase = .step then
    if after.ladder = .l0Locked then some .pass
    else if after.ladder = .probing ∧ after.phase = .retryWait then some .retryableFail
    else if after.ladder = .l2Fallback ∧ after.reason = .probeNoncompliant then some .fail
    else none
  else none

theorem verdict_measuring {after : Standing} (probing : after.ladder = .probing) (phase : after.phase ≠ .retryWait) : standing.verdict after = none := by
  simp [verdict, probing, phase]

theorem verdict_before {after : Standing} (phase : standing.phase ≠ .step) : standing.verdict after = none := by
  simp [verdict, phase]

-- The session that is on, on the capture that is open.
def bound (control : ControlStatus) : Prop :=
  standing.active = true ∧ standing.generation = some control.captureGeneration

def rebound (control : ControlStatus) : Standing :=
  if standing.active = true ∧ standing.generation = some control.captureGeneration then standing
  else { standing with active := true, generation := some control.captureGeneration, reason := .none, attempt := 1 }

theorem rebound_alpha (control : ControlStatus) : (standing.rebound control).alpha = standing.alpha := by
  rw [rebound]
  split <;> rfl

theorem rebound_cfg (control : ControlStatus) : (standing.rebound control).cfg = standing.cfg := by
  rw [rebound]
  split <;> rfl

end Standing

/-- The turns that one tick of an enabled ladder may take, in the words of its probe. -/
inductive Turn (probePpm : ℚ) (now : ℕ) (obs : Obs) (control : ControlStatus) (before : Standing) :
    Standing → List Action → Prop
  | idles (quiet : obs.session = false) (off : before.active = false) :
      Turn probePpm now obs control before (before.heard obs) []
  | ends (quiet : obs.session = false) (on : before.active = true) :
      Turn probePpm now obs control before
        { before with
          ladder := .probing
          phase := .awaitLock
          active := false
          generation := none
          reason := .none
          attempt := 1
          mean := none } neutral
  | begins (session : obs.session = true) (ready : control.ready = true)
      (recovers : before.bound control → before.ladder = .l2Fallback ∧ before.reason = .actuatorUnavailable) :
      Turn probePpm now obs control before
        { (before.rebound control).awaiting with ladder := .probing, reason := .none, started := now } neutral
  | loses (session : obs.session = true) (unready : control.ready = false) (actions : List Action)
      (parks : actions = neutral ∨ actions = [])
      (unlatched : before.bound control → before.reason.isHostEvidence = false) (mean : Option ℚ)
      (keeps : mean = none ∨ mean = before.hears obs) :
      Turn probePpm now obs control before
        { before.rebound control with ladder := .l2Fallback, reason := .actuatorUnavailable, mean := mean } actions
  | deafens (session : obs.session = true) (bound : before.bound control) (unready : control.ready = false)
      (latched : before.reason.isHostEvidence = true) :
      Turn probePpm now obs control before (before.heard obs) []
  | holds (session : obs.session = true) (bound : before.bound control) (ready : control.ready = true)
      (parked : before.ladder = .disabled ∨ before.ladder = .l2Fallback ∧ before.reason ≠ .actuatorUnavailable) :
      Turn probePpm now obs control before (before.heard obs) []
  | waits (session : obs.session = true) (bound : before.bound control) (ready : control.ready = true)
      (probing : before.ladder = .probing) (phase : before.phase = .awaitLock ∨ before.phase = .retryWait) :
      Turn probePpm now obs control before (before.heard obs) []
  | opens (session : obs.session = true) (bound : before.bound control) (ready : control.ready = true)
      (probing : before.ladder = .probing) (phase : before.phase = .awaitLock) :
      Turn probePpm now obs control before { before with phase := .baseline, started := now, mean := none } []
  | samples (session : obs.session = true) (bound : before.bound control) (ready : control.ready = true)
      (probing : before.ladder = .probing)
      (phase : before.phase = .baseline ∧ now - before.started < 4000 ∨ before.phase = .step ∧ now - before.started < 19000) :
      Turn probePpm now obs control before (before.heard obs) []
  | steps (session : obs.session = true) (bound : before.bound control) (ready : control.ready = true)
      (probing : before.ladder = .probing) (phase : before.phase = .baseline) (elapsed : 4000 ≤ now - before.started) :
      Turn probePpm now obs control before ((before.heard obs).stepped probePpm)
        [.writePitch (clampBias ((before.heard obs).stepped probePpm).step) true]
  | passes (session : obs.session = true) (bound : before.bound control) (ready : control.ready = true)
      (probing : before.ladder = .probing) (phase : before.phase = .step) (elapsed : 19000 ≤ now - before.started)
      (moved : 1 / 2 ≤ (before.heard obs).ratio) (ppm : ℚ) :
      Turn probePpm now obs control before
        { before.heard obs with ladder := .l0Locked, reason := .none } [.writePitch (clampBias ppm) true]
  | retries (session : obs.session = true) (bound : before.bound control) (ready : control.ready = true)
      (probing : before.ladder = .probing) (phase : before.phase = .step) (elapsed : 19000 ≤ now - before.started)
      (still : (before.heard obs).ratio < 1 / 2) (left : before.attempt < maxProbeAttempts) :
      Turn probePpm now obs control before
        { before with phase := .retryWait, attempt := before.attempt + 1, started := now, mean := none } neutral
  | fails (session : obs.session = true) (bound : before.bound control) (ready : control.ready = true)
      (probing : before.ladder = .probing) (phase : before.phase = .step) (elapsed : 19000 ≤ now - before.started)
      (still : (before.heard obs).ratio < 1 / 2) (spent : maxProbeAttempts ≤ before.attempt) :
      Turn probePpm now obs control before
        { before.heard obs with ladder := .l2Fallback, reason := .probeNoncompliant } neutral
  | restarts (session : obs.session = true) (bound : before.bound control) (ready : control.ready = true)
      (probing : before.ladder = .probing) (phase : before.phase = .retryWait) :
      Turn probePpm now obs control before before.awaiting neutral
  | demotes (session : obs.session = true) (bound : before.bound control) (ready : control.ready = true)
      (trusted : before.ladder = .l0Locked ∨ before.ladder = .l1Warn) :
      Turn probePpm now obs control before
        { before.heard obs with ladder := .l2Fallback, reason := .lostAuthority } neutral
  | steers (session : obs.session = true) (bound : before.bound control) (ready : control.ready = true)
      (trusted : before.ladder = .l0Locked ∨ before.ladder = .l1Warn) (ladder : Ladder)
      (remains : ladder = .l0Locked ∨ ladder = .l1Warn) (actions : List Action)
      (clamped : ∀ action ∈ actions, ∃ ppm reset, action = .writePitch (clampBias ppm) reset) :
      Turn probePpm now obs control before { before.heard obs with ladder := ladder } actions

namespace SlopeEstimator

variable (slope : SlopeEstimator)

def heard : Option ℚ := if slope.haveCorrection then some slope.correctionMean else none

@[simp] theorem rearm_heard : slope.rearm.heard = none := rfl

@[simp] theorem hold_heard : slope.hold.heard = slope.heard := rfl

theorem correctionMeanPpm_eq : slope.correctionMeanPpm = slope.heard.getD 0 := by
  simp only [correctionMeanPpm, heard]
  split <;> rfl

-- The correction is heard apart from the counters and the fill.
theorem updateSlope_hearing (divergence : ℤ) (framesPerTick : ℚ) :
    (slope.updateSlope divergence framesPerTick).alpha = slope.alpha ∧
      (slope.updateSlope divergence framesPerTick).heard = slope.heard := by
  cases last : slope.lastDivergence with
  | none => simp [updateSlope, heard, last]
  | some prev => by_cases had : slope.haveSlope <;> simp [updateSlope, heard, last, had]

theorem updateFill_hearing (fillFrames : Option ℚ) :
    (slope.updateFill fillFrames).alpha = slope.alpha ∧ (slope.updateFill fillFrames).heard = slope.heard := by
  cases fillFrames with
  | none => exact ⟨rfl, rfl⟩
  | some fill => by_cases had : slope.haveFill <;> simp [updateFill, heard, had]

theorem updateCorrection_hearing (correctionPpm : Option ℚ) :
    (slope.updateCorrection correctionPpm).alpha = slope.alpha ∧
      (slope.updateCorrection correctionPpm).heard =
        match correctionPpm with
        | none => slope.heard
        | some sample => some (slope.heard.elim sample fun mean => smooth slope.alpha mean sample) := by
  cases correctionPpm with
  | none => exact ⟨rfl, rfl⟩
  | some sample => by_cases had : slope.haveCorrection <;> simp [updateCorrection, heard, had]

theorem update_hearing (divergence : ℤ) (fillFrames correctionPpm : Option ℚ) (framesPerTick : ℚ) :
    (slope.update divergence fillFrames correctionPpm framesPerTick).alpha = slope.alpha ∧
      (slope.update divergence fillFrames correctionPpm framesPerTick).heard =
        match correctionPpm with
        | none => slope.heard
        | some sample => some (slope.heard.elim sample fun mean => smooth slope.alpha mean sample) := by
  have counters := slope.updateSlope_hearing divergence framesPerTick
  have fill := (slope.updateSlope divergence framesPerTick).updateFill_hearing fillFrames
  have correction := ((slope.updateSlope divergence framesPerTick).updateFill fillFrames).updateCorrection_hearing correctionPpm
  rw [fill.1, fill.2, counters.1, counters.2] at correction
  exact correction

end SlopeEstimator

theorem Obs.playing_of_session (obs : Obs) (session : obs.session = true) : obs.playing = true := by
  simp only [Obs.session, Bool.and_eq_true] at session
  exact session.1.2

@[simp] theorem clampBias_zero : clampBias 0 = 0 := by decide +kernel

theorem clampBias_of_le {ppm : ℚ} (within : |ppm| ≤ maxBiasPpm) : clampBias ppm = ppm := by
  obtain ⟨low, high⟩ := abs_le.mp within
  rw [clampBias, min_eq_left high, max_eq_right low]

theorem abs_clampBias (ppm : ℚ) : |clampBias ppm| ≤ maxBiasPpm := by
  have positive : (0 : ℚ) ≤ maxBiasPpm := by norm_num [maxBiasPpm]
  exact abs_le.mpr ⟨le_max_left _ _, max_le (by linarith) (min_le_right _ _)⟩

namespace HostClock

variable (hc : HostClock)

def standing : Standing where
  cfg := hc.cfg
  ladder := hc.ladder
  phase := hc.probePhase
  active := hc.sessionActive
  generation := hc.activeCaptureGeneration
  reason := hc.fallbackReason
  attempt := hc.probeAttempt
  started := hc.probeStartedMs
  baseline := hc.probeBaselineObsPpm
  step := hc.probeStepPpm
  alpha := hc.slope.alpha
  mean := hc.slope.heard

@[simp] theorem command_standing (demandPpm : ℚ) (reset : Bool) : (hc.command demandPpm reset).1.standing = hc.standing := by
  simp only [command]
  split <;> rfl

@[simp] theorem command_forced (demandPpm : ℚ) :
    (hc.command demandPpm true).2 = [.writePitch (clampBias demandPpm) true] := rfl

theorem command_clamped (demandPpm : ℚ) (reset : Bool) :
    ∀ action ∈ (hc.command demandPpm reset).2, ∃ ppm reset, action = .writePitch (clampBias ppm) reset := by
  simp only [command]
  split
  · nofun
  · intro action among
    exact ⟨demandPpm, reset, List.mem_singleton.mp among⟩

@[simp] theorem transitionTo_standing (target : Ladder) (reason : String) :
    (hc.transitionTo target reason).standing = { hc.standing with ladder := target } := by
  simp only [transitionTo]
  split
  next same => subst same; rfl
  next => rfl

@[simp] theorem measure_standing (obs : Obs) (framesPerTick : ℚ) :
    (hc.measure obs framesPerTick).standing = hc.standing.heard obs := by
  have hearing := hc.slope.update_hearing ((obs.captureFrames : ℤ) - obs.playbackFrames) obs.fillFrames obs.correctionPpm
    framesPerTick
  simp only [measure, standing, Standing.heard, Standing.hears]
  cases steady : obs.steady with
  | false => rfl
  | true => simp only [if_true, hearing.1, hearing.2]

@[simp] theorem resetProbeMeasurement_standing : hc.resetProbeMeasurement.1.standing = hc.standing.awaiting := by
  rw [resetProbeMeasurement, command_standing]
  rfl

@[simp] theorem resetProbeMeasurement_forced : hc.resetProbeMeasurement.2 = neutral := by
  rw [resetProbeMeasurement, command_forced, clampBias_zero]
  rfl

theorem transitionTo_feedForwardPpm (target : Ladder) (reason : String) :
    (hc.transitionTo target reason).feedForwardPpm = hc.feedForwardPpm := by
  simp only [transitionTo]
  split <;> rfl

theorem beginProbe_standing (nowMs : ℕ) (reason : String) :
    (hc.beginProbe nowMs reason).1.standing =
      { hc.standing.awaiting with ladder := .probing, reason := .none, started := nowMs } := by
  rw [beginProbe, resetProbeMeasurement_standing]
  exact congrArg (fun begun : Standing => { begun.awaiting with reason := .none, started := nowMs })
    (hc.transitionTo_standing .probing reason)

@[simp] theorem beginProbe_forced (nowMs : ℕ) (reason : String) : (hc.beginProbe nowMs reason).2 = neutral := by
  rw [beginProbe, resetProbeMeasurement_forced]

theorem enterActuatorFallback_standing (reason : String) :
    ∃ mean, (mean = none ∨ mean = hc.standing.mean) ∧ (hc.enterActuatorFallback reason).1.standing =
      { hc.standing with ladder := .l2Fallback, reason := .actuatorUnavailable, mean := mean } := by
  simp only [enterActuatorFallback]
  split
  next already =>
    refine ⟨hc.standing.mean, .inr rfl, ?_⟩
    rw [← already.1, ← already.2]
    rfl
  next =>
    refine ⟨none, .inl rfl, ?_⟩
    rw [command_standing, transitionTo_standing]
    split <;> rfl

theorem enterActuatorFallback_parks (reason : String) :
    (hc.enterActuatorFallback reason).2 = neutral ∨ (hc.enterActuatorFallback reason).2 = [] := by
  simp only [enterActuatorFallback]
  split
  next => exact .inr rfl
  next => exact .inl (by rw [command_forced, clampBias_zero]; rfl)

theorem tickAwaitLock_standing (obs : Obs) (nowMs : ℕ) :
    (hc.tickAwaitLock obs nowMs).standing = hc.standing ∨
      (hc.tickAwaitLock obs nowMs).standing = { hc.standing with phase := .baseline, started := nowMs, mean := none } := by
  rw [tickAwaitLock]
  by_cases playing : settleRegimeOk obs
  · rw [if_pos playing]
    dsimp only
    generalize hc.lockSinceMs.getD nowMs = since
    generalize (if hc.fillReady then some (hc.fillReadySinceMs.getD nowMs) else none) = fillReadySince
    by_cases settled : probeSettleSecs * 1000 ≤ nowMs - since ∧
        (decide (probeSettleSecs * 1000 ≤ fillReadySince.elim 0 (nowMs - ·)) ||
          decide (probeFillSettleTimeoutSecs * 1000 ≤ nowMs - hc.probeStartedMs)) = true
    · rw [if_pos settled]
      exact .inr rfl
    · rw [if_neg settled]
      exact .inl rfl
  · rw [if_neg playing]
    exact .inl rfl

theorem startEvidence_standing (nowMs : ℕ) (control : ControlStatus) (probing falling : String) (ready : control.ready = true) :
    (hc.startEvidence nowMs control probing falling).1.standing =
      { hc.standing with
        ladder := .probing
        phase := .awaitLock
        active := true
        generation := some control.captureGeneration
        reason := .none
        attempt := 1
        started := nowMs
        baseline := 0
        step := 0
        mean := none } := by
  rw [startEvidence, if_pos ready, beginProbe_standing]
  rfl

theorem startEvidence_forced (nowMs : ℕ) (control : ControlStatus) (probing falling : String) (ready : control.ready = true) :
    (hc.startEvidence nowMs control probing falling).2 = neutral := by
  rw [startEvidence, if_pos ready, beginProbe_forced]

theorem startEvidence_unready (nowMs : ℕ) (control : ControlStatus) (probing falling : String) (unready : control.ready = false) :
    ∃ mean, (mean = none ∨ mean = hc.standing.mean) ∧ (hc.startEvidence nowMs control probing falling).1.standing =
      { hc.standing with
        ladder := .l2Fallback
        active := true
        generation := some control.captureGeneration
        reason := .actuatorUnavailable
        attempt := 1
        mean := mean } := by
  rw [startEvidence, if_neg (by simp [unready])]
  exact (hc.freshEvidence control).enterActuatorFallback_standing falling

/-- The tick that starts a session starts its wait for the lock too, and ends no wait. -/
theorem startSession_eq {obs : Obs} (playing : obs.playing = true) (nowMs : ℕ) (control : ControlStatus) :
    (hc.startSession obs nowMs control).1.standing =
        (hc.startEvidence nowMs control "session_start" "session_start_unavailable").1.standing ∧
      (hc.startSession obs nowMs control).2 = (hc.startEvidence nowMs control "session_start" "session_start_unavailable").2 := by
  rw [startSession]
  dsimp only
  cases ready : control.ready with
  | true =>
    have standing := hc.startEvidence_standing nowMs control "session_start" "session_start_unavailable" ready
    have unlocked : (hc.startEvidence nowMs control "session_start" "session_start_unavailable").1.lockSinceMs = none := by
      rw [startEvidence, if_pos ready]
      rfl
    generalize hc.startEvidence nowMs control "session_start" "session_start_unavailable" = started at standing unlocked ⊢
    have probing : started.1.ladder = .probing := congrArg Standing.ladder standing
    have phase : started.1.probePhase = .awaitLock := congrArg Standing.phase standing
    have ticked : started.1.tickSession obs nowMs control = (started.1.tickAwaitLock obs nowMs, []) := by
      rw [tickSession, if_neg (by simp [ready]), if_neg (by simp [probing]), probing]
      dsimp only
      rw [tickProbe, if_neg (by simp [playing]), phase]
    have waits : (started.1.tickAwaitLock obs nowMs).standing = started.1.standing := by
      rw [tickAwaitLock, if_pos (show settleRegimeOk obs = true from playing), unlocked]
      dsimp only
      rw [if_neg fun settled => absurd settled.1 (by rw [Option.getD_none, Nat.sub_self]; decide)]
      rfl
    rw [ticked]
    exact ⟨waits, List.append_nil _⟩
  | false =>
    obtain ⟨mean, -, standing⟩ := hc.startEvidence_unready nowMs control "session_start" "session_start_unavailable" ready
    generalize hc.startEvidence nowMs control "session_start" "session_start_unavailable" = started at standing ⊢
    have fallen : started.1.ladder = .l2Fallback := congrArg Standing.ladder standing
    have reason : started.1.fallbackReason = .actuatorUnavailable := congrArg Standing.reason standing
    have parked : started.1.tickSession obs nowMs control = (started.1, []) := by
      rw [tickSession, if_pos (by simp [ready]), if_neg (by simp [reason, FallbackReason.isHostEvidence]), enterActuatorFallback,
        if_pos ⟨fallen, reason⟩]
    rw [parked]
    exact ⟨rfl, List.append_nil _⟩

theorem abortProbe_standing : hc.abortProbe.standing = hc.standing := by
  simp only [abortProbe]
  split
  · split <;> rfl
  · rfl

theorem endSession_standing (reason : String) :
    (hc.endSession reason).1.standing =
      { hc.standing with
        ladder := .probing
        phase := .awaitLock
        generation := none
        reason := .none
        attempt := 1
        mean := none } := by
  have same := hc.abortProbe_standing
  simp only [endSession, command_standing]
  generalize hc.abortProbe = aborted at same ⊢
  rw [← same]
  exact congrArg (fun rearmed : Standing => { rearmed with phase := .awaitLock, mean := none })
    (transitionTo_standing
      { aborted with
        feedForwardPpm := 0
        correctionTrimPpm := 0
        l1HighTicks := 0
        l2EvidenceTicks := 0
        probeAttempt := 1
        fallbackReason := .none
        activeCaptureGeneration := none } .probing reason)

theorem startEvidence_parks (nowMs : ℕ) (control : ControlStatus) (probing falling : String) (unready : control.ready = false) :
    (hc.startEvidence nowMs control probing falling).2 = neutral ∨ (hc.startEvidence nowMs control probing falling).2 = [] := by
  rw [startEvidence, if_neg (by simp [unready])]
  exact (hc.freshEvidence control).enterActuatorFallback_parks falling

theorem endSession_forced (reason : String) : (hc.endSession reason).2 = neutral := by
  rw [endSession, command_forced, clampBias_zero]
  rfl

theorem finishProbe_passes (moved : 1 / 2 ≤ hc.probeRatio) :
    hc.finishProbe.1.standing = { hc.standing with ladder := .l0Locked, reason := .none } ∧
      hc.finishProbe.2 = [.writePitch (clampBias (clampBias (-hc.probeBaselineObsPpm))) true] := by
  rw [finishProbe, if_pos moved]
  dsimp only
  rw [command_standing, transitionTo_standing, command_forced, transitionTo_feedForwardPpm]
  exact ⟨rfl, rfl⟩

theorem finishProbe_retries (still : ¬1 / 2 ≤ hc.probeRatio) (left : hc.probeAttempt < maxProbeAttempts) :
    hc.finishProbe.1.standing =
        { hc.standing with
          phase := .retryWait
          attempt := hc.probeAttempt + 1
          started := hc.lastTickMs.getD 0
          mean := none } ∧
      hc.finishProbe.2 = neutral := by
  rw [finishProbe, if_neg still, if_pos left, command_standing, command_forced, clampBias_zero]
  exact ⟨rfl, rfl⟩

theorem finishProbe_fails (still : ¬1 / 2 ≤ hc.probeRatio) (spent : ¬hc.probeAttempt < maxProbeAttempts) :
    hc.finishProbe.1.standing = { hc.standing with ladder := .l2Fallback, reason := .probeNoncompliant } ∧
      hc.finishProbe.2 = neutral := by
  rw [finishProbe, if_neg still, if_neg spent, command_standing, transitionTo_standing, command_forced, clampBias_zero]
  exact ⟨rfl, rfl⟩

theorem beginStep_standing : hc.beginStep.standing = hc.standing.stepped hc.cfg.probePpm := by
  simp only [beginStep, chooseProbeStepPpm, probeObservablePpm, hc.slope.correctionMeanPpm_eq]
  rfl

theorem demote_standing :
    hc.demote.1.standing = { hc.standing with ladder := .l2Fallback, reason := .lostAuthority } ∧ hc.demote.2 = neutral := by
  simp only [demote, command_standing, command_forced, clampBias_zero]
  exact ⟨congrArg (fun demoted : Standing => demoted)
    (transitionTo_standing { hc with
      l2EvidenceTicks := 0
      demotions := hc.demotions + 1
      fallbackReason := .lostAuthority } .l2Fallback "saturated_slope"), rfl⟩

theorem rateDemand_standing (raw : ℚ) (trusted : hc.ladder = .l0Locked ∨ hc.ladder = .l1Warn) :
    ∃ ladder, (ladder = .l0Locked ∨ ladder = .l1Warn) ∧
      (hc.rateDemand raw).standing = { hc.standing with ladder := ladder } := by
  rw [rateDemand]
  dsimp only
  generalize (if l1WarnPpm < |raw| then hc.l1HighTicks + 1 else if |raw| < l1ReleasePpm then 0 else hc.l1HighTicks) = highTicks
  split
  · exact ⟨.l1Warn, .inr rfl, transitionTo_standing _ _ _⟩
  · split
    · exact ⟨.l0Locked, .inl rfl, transitionTo_standing _ _ _⟩
    · exact ⟨hc.ladder, trusted, rfl⟩

section Ticking

variable {hc} {before : Standing} {obs : Obs} {control : ControlStatus} {now : ℕ}

theorem finishProbe_turn (shown : hc.standing = before.heard obs) (ticked : hc.lastTickMs = some now)
    (session : obs.session = true) (bound : before.bound control) (ready : control.ready = true)
    (probing : before.ladder = .probing) (phase : before.phase = .step) (elapsed : 19000 ≤ now - before.started) :
    Turn hc.cfg.probePpm now obs control before hc.readStep.finishProbe.1.standing hc.readStep.finishProbe.2 := by
  have same : hc.readStep.standing = before.heard obs := shown
  have ratio : hc.readStep.probeRatio = (before.heard obs).ratio := by
    rw [← shown]
    simp only [readStep, probeRatio, Standing.ratio, probeObservablePpm, hc.slope.correctionMeanPpm_eq]
    rfl
  have attempt : hc.readStep.probeAttempt = before.attempt := congrArg Standing.attempt shown
  by_cases moved : 1 / 2 ≤ hc.readStep.probeRatio
  · obtain ⟨after, written⟩ := hc.readStep.finishProbe_passes moved
    rw [after, written, same]
    exact .passes session bound ready probing phase elapsed (ratio ▸ moved) _
  have still : (before.heard obs).ratio < 1 / 2 := ratio ▸ lt_of_not_ge moved
  by_cases left : hc.readStep.probeAttempt < maxProbeAttempts
  · obtain ⟨after, written⟩ := hc.readStep.finishProbe_retries moved left
    rw [after, written, same, attempt, show hc.readStep.lastTickMs.getD 0 = now by simp [readStep, ticked]]
    exact .retries session bound ready probing phase elapsed still (attempt ▸ left)
  · obtain ⟨after, written⟩ := hc.readStep.finishProbe_fails moved left
    rw [after, written, same]
    exact .fails session bound ready probing phase elapsed still (attempt ▸ Nat.le_of_not_lt left)

theorem tickProbe_turn (shown : hc.standing = before.heard obs) (ticked : hc.lastTickMs = some now)
    (session : obs.session = true) (bound : before.bound control) (ready : control.ready = true)
    (probing : before.ladder = .probing) :
    Turn hc.cfg.probePpm now obs control before (hc.tickProbe obs now).1.standing (hc.tickProbe obs now).2 := by
  have playing := obs.playing_of_session session
  have phased : hc.probePhase = before.phase := congrArg Standing.phase shown
  have started : hc.probeStartedMs = before.started := congrArg Standing.started shown
  rw [tickProbe, if_neg (by simp [playing])]
  dsimp only
  rw [phased, started]
  cases phase : before.phase with
  | awaitLock =>
    dsimp only
    rcases hc.tickAwaitLock_standing obs now with waits | opens
    · rw [waits, shown]
      exact .waits session bound ready probing (.inl phase)
    · rw [opens, shown]
      exact .opens session bound ready probing phase
  | baseline =>
    dsimp only
    split
    next elapsed =>
      have stepped := hc.beginStep_standing
      rw [command_standing, command_forced, show hc.beginStep.probeStepPpm = hc.beginStep.standing.step from rfl, stepped, shown]
      exact .steps session bound ready probing phase elapsed
    next early =>
      rw [shown]
      exact .samples session bound ready probing (.inl ⟨phase, by simpa [probeBaselineSecs] using early⟩)
  | step =>
    dsimp only
    split
    next elapsed => exact finishProbe_turn shown ticked session bound ready probing phase elapsed
    next early =>
      rw [shown]
      exact .samples session bound ready probing
        (.inr ⟨phase, by simpa [probeBaselineSecs, correctionProbeStepSecs] using early⟩)
  | retryWait =>
    dsimp only
    split
    next =>
      rw [restartProbeWait, resetProbeMeasurement_standing, resetProbeMeasurement_forced, shown]
      exact .restarts session bound ready probing phase
    next =>
      rw [shown]
      exact .waits session bound ready probing (.inr phase)

theorem tickLocked_turn (shown : hc.standing = before.heard obs) (session : obs.session = true) (bound : before.bound control)
    (ready : control.ready = true) (trusted : before.ladder = .l0Locked ∨ before.ladder = .l1Warn) (probePpm : ℚ) :
    Turn probePpm now obs control before (hc.tickLocked obs).1.standing (hc.tickLocked obs).2 := by
  have keeps : before.heard obs = { before.heard obs with ladder := before.ladder } := rfl
  rw [tickLocked]
  dsimp only
  generalize hc.trimmed = trim
  split
  · rw [show ({ hc with l1HighTicks := 0, l2EvidenceTicks := 0 } : HostClock).standing = before.heard obs from shown, keeps]
    exact .steers session bound ready trusted _ trusted [] nofun
  have same : ({ hc with
      correctionTrimPpm := trim.1
      l2EvidenceTicks := hc.l2Evidence (hc.feedForwardPpm + trim.1) trim.2 } : HostClock).standing = before.heard obs := shown
  generalize ({ hc with
    correctionTrimPpm := trim.1
    l2EvidenceTicks := hc.l2Evidence (hc.feedForwardPpm + trim.1) trim.2 } : HostClock) = steered at same ⊢
  have ladder : steered.ladder = before.ladder := congrArg Standing.ladder same
  split
  · rw [steered.demote_standing.1, steered.demote_standing.2, same]
    exact .demotes session bound ready trusted
  · obtain ⟨rated, remains, after⟩ := steered.rateDemand_standing (hc.feedForwardPpm + trim.1) (ladder ▸ trusted)
    rw [command_standing, after, same]
    exact .steers session bound ready trusted rated remains _ (command_clamped _ _ _)

theorem tickSession_turn (shown : hc.standing = before.heard obs) (ticked : hc.lastTickMs = some now)
    (session : obs.session = true) (bound : before.bound control) :
    Turn hc.cfg.probePpm now obs control before (hc.tickSession obs now control).1.standing
      (hc.tickSession obs now control).2 := by
  have ladder : hc.ladder = before.ladder := congrArg Standing.ladder shown
  have reason : hc.fallbackReason = before.reason := congrArg Standing.reason shown
  have rebound : before.rebound control = before := if_pos bound
  rw [tickSession]
  split
  next unready =>
    have unready : control.ready = false := by simpa using unready
    split
    next latched =>
      rw [shown]
      exact .deafens session bound unready (reason ▸ latched)
    next unlatched =>
      obtain ⟨mean, keeps, after⟩ := hc.enterActuatorFallback_standing "actuator_unavailable"
      have turn := @Turn.loses hc.cfg.probePpm now _ _ _ session unready
        (hc.enterActuatorFallback "actuator_unavailable").2 (hc.enterActuatorFallback_parks _) (fun _ => by simpa [reason] using unlatched) mean
        (by rwa [shown] at keeps)
      rw [after, shown]
      rwa [rebound] at turn
  next readied =>
    have ready : control.ready = true := by simpa using readied
    split
    next outage =>
      have turn := @Turn.begins hc.cfg.probePpm now _ _ _ session ready
        fun _ => ⟨ladder ▸ outage.1, reason ▸ outage.2⟩
      rw [beginProbe_standing, beginProbe_forced, shown]
      rwa [rebound] at turn
    next settled =>
      rw [ladder, reason] at settled
      split
      next probing => exact tickProbe_turn shown ticked session bound ready (ladder ▸ probing)
      next trusted => exact tickLocked_turn shown session bound ready (.inl (ladder ▸ trusted)) _
      next trusted => exact tickLocked_turn shown session bound ready (.inr (ladder ▸ trusted)) _
      next off =>
        rw [shown]
        exact .holds session bound ready (.inl (ladder ▸ off))
      next fallen =>
        rw [shown]
        exact .holds session bound ready (.inr ⟨ladder ▸ fallen, fun outage => settled ⟨ladder ▸ fallen, outage⟩⟩)

theorem tickWithControl_turn (hc : HostClock) (obs : Obs) (now : ℕ) (control : ControlStatus) (enabled : hc.cfg.enabled = true) :
    Turn hc.cfg.probePpm now obs control hc.standing (hc.tickWithControl obs now control).1.standing
      (hc.tickWithControl obs now control).2 := by
  rw [tickWithControl, if_neg (by simp [enabled])]
  dsimp only
  have shown := measure_standing { hc with controlStatus := control, lastTickMs := some now } obs (hc.framesPerTick now)
  rw [show ({ hc with controlStatus := control, lastTickMs := some now } : HostClock).standing = hc.standing from rfl] at shown
  have ticked : ({ hc with controlStatus := control, lastTickMs := some now }.measure obs (hc.framesPerTick now)).lastTickMs = some now := rfl
  have configured : ({ hc with controlStatus := control, lastTickMs := some now }.measure obs (hc.framesPerTick now)).cfg = hc.cfg := rfl
  generalize { hc with controlStatus := control, lastTickMs := some now }.measure obs (hc.framesPerTick now) = measured
    at shown ticked configured ⊢
  rw [← configured]
  have unbound (other : hc.sessionActive = false ∨ hc.activeCaptureGeneration ≠ some control.captureGeneration) :
      ¬hc.standing.bound control := fun bound => by
    rcases other with off | other
    · exact Bool.false_ne_true (off.symm.trans bound.1)
    · exact other bound.2
  have starts (probing falling : String) (session : obs.session = true) (fresh : ¬hc.standing.bound control) :
      Turn measured.cfg.probePpm now obs control hc.standing (measured.startEvidence now control probing falling).1.standing
        (measured.startEvidence now control probing falling).2 := by
    have rebound : hc.standing.rebound control = _ := if_neg fresh
    cases ready : control.ready with
    | true =>
      have turn := @Turn.begins measured.cfg.probePpm now _ _ _ session ready fun bound => absurd bound fresh
      rw [measured.startEvidence_standing now control probing falling ready,
        measured.startEvidence_forced now control probing falling ready, shown]
      rwa [rebound] at turn
    | false =>
      obtain ⟨mean, keeps, after⟩ := measured.startEvidence_unready now control probing falling ready
      have turn := @Turn.loses measured.cfg.probePpm now _ _ _ session ready
        (measured.startEvidence now control probing falling).2
        (measured.startEvidence_parks now control probing falling ready) (fun bound => absurd bound fresh) mean (by rwa [shown] at keeps)
      rw [after, shown]
      rwa [rebound] at turn
  split
  next fresh =>
    obtain ⟨session, off⟩ : obs.session = true ∧ hc.sessionActive = false := by simpa using fresh
    obtain ⟨standing, actions⟩ := measured.startSession_eq (obs.playing_of_session session) now control
    rw [standing, actions]
    exact starts _ _ session (unbound (.inl off))
  next =>
    split
    next ended =>
      obtain ⟨quiet, on⟩ : obs.session = false ∧ hc.sessionActive = true := by simpa using ended
      have ended := endSession_standing { measured with sessionActive := false } (sessionEndReason obs)
      rw [show ({ measured with sessionActive := false } : HostClock).standing = { measured.standing with active := false } from rfl,
        shown] at ended
      rw [endSession_forced, ended]
      exact .ends quiet on
    next =>
      split
      next off =>
        have off : hc.sessionActive = false := by simpa using off
        have quiet : obs.session = false := by simp_all
        rw [shown]
        exact .idles quiet off
      next on =>
        have on : hc.sessionActive = true := by simpa using on
        have session : obs.session = true := by simp_all
        split
        next other => exact starts _ _ session (unbound (.inr other))
        next same => exact tickSession_turn shown ticked session ⟨on, not_not.mp same⟩

theorem tickWithControl_cfg (hc : HostClock) (obs : Obs) (now : ℕ) (control : ControlStatus) :
    (hc.tickWithControl obs now control).1.cfg = hc.cfg := by
  have kept {probePpm : ℚ} {before after : Standing} {actions : List Action}
      (turn : Turn probePpm now obs control before after actions) : after.cfg = before.cfg := by
    cases turn <;> first | rfl | (simp only [Standing.rebound, Standing.awaiting]; split <;> rfl)
  cases enabled : hc.cfg.enabled with
  | true => exact kept (tickWithControl_turn hc obs now control enabled)
  | false =>
    rw [tickWithControl, if_pos (by simp [enabled])]

theorem tickWithControl_disabled (hc : HostClock) (obs : Obs) (now : ℕ) (control : ControlStatus) (disabled : hc.cfg.enabled = false) :
    (hc.tickWithControl obs now control).1.standing = hc.standing ∧ (hc.tickWithControl obs now control).2 = [] := by
  rw [tickWithControl, if_pos (by simp [disabled])]
  exact ⟨rfl, rfl⟩

end Ticking

end HostClock

end Jts.UsbClock
