import Jts.Fanin.AudioRing
import Mathlib.Data.Sign.Basic

set_option autoImplicit false

namespace Jts.Fanin

/-- The clock-tracking loop behind a rate: what it takes an error to, and the ratio it answers with. -/
structure Dll (State : Type) where
  fresh : State
  reset : State → State
  update : State → ℚ → State × ℚ

def floatEpsilon : ℚ := 1 / 2 ^ 52

structure RateController (State : Type) where
  dll : State
  maxAdjustPpm : ℕ
  antiWindupThresholdFrames : ℚ
  ratioPpm : ℚ
  clampCount : ℕ
  antiWindupCount : ℕ

namespace RateController

variable {State : Type} (dll : Dll State) (controller : RateController State)

def new (maxAdjustPpm periodFrames : ℕ) : RateController State where
  dll := dll.fresh
  maxAdjustPpm := maxAdjustPpm
  antiWindupThresholdFrames := max ((max periodFrames 1 : ℕ) / 2) 1
  ratioPpm := 0
  clampCount := 0
  antiWindupCount := 0

def reset : RateController State := { controller with dll := dll.reset controller.dll, ratioPpm := 0 }

def isWoundAgainstError (rawPpm errorFrames : ℚ) : Bool :=
  0 < controller.maxAdjustPpm && (controller.maxAdjustPpm : ℚ) < |rawPpm| &&
    controller.antiWindupThresholdFrames ≤ |errorFrames| && SignType.sign rawPpm ≠ SignType.sign errorFrames

-- One update of the loop, its ratio as the ppm that it is off unity.
def loop (state : State) (errorFrames : ℚ) : State × ℚ :=
  let (next, ratio) := dll.update state (-errorFrames)
  (next, (ratio - 1) * 1000000)

def clamped (rawPpm : ℚ) : ℚ := max (-controller.maxAdjustPpm) (min rawPpm controller.maxAdjustPpm)

def settle (next : State) (rawPpm : ℚ) : RateController State × ℚ :=
  let clampedPpm := controller.clamped rawPpm
  ({ controller with
      dll := next
      clampCount := if floatEpsilon < |rawPpm - clampedPpm| then controller.clampCount + 1 else controller.clampCount
      ratioPpm := clampedPpm }, 1 + clampedPpm / 1000000)

def nextRatio (errorFrames : ℚ) : RateController State × ℚ :=
  let (first, rawPpm) := loop dll controller.dll errorFrames
  if controller.isWoundAgainstError rawPpm errorFrames then
    -- The loop is hidden behind the clamp and still pushes away from the target.
    let (again, rawPpm) := loop dll (dll.reset first) errorFrames
    { controller with antiWindupCount := controller.antiWindupCount + 1 }.settle again rawPpm
  else controller.settle first rawPpm

end RateController

inductive RenderPlan
  | silence
  | emit (ratio : ℚ)

/-- What one period put out: its frames, how many of them are audio, and where the kernel stood for each frame it read. -/
structure Rendered where
  frames : List (List ℤ)
  active : ℕ
  cursors : List ℚ

structure LaneResampler (State : Type) where
  channels : ℕ
  periodFrames : ℕ
  ring : AudioRing
  sincTable : SincTable
  controller : RateController State
  reopenCheckpoint : Option (RateController State × CushionDecay)
  reopening : Bool
  targetFillFrames : ℕ
  warmupCushionFrames : ℕ
  maxAdjustPpm : ℕ
  nextInputFrame : ℚ
  locked : Bool
  acquisitionGracePeriods : ℕ
  startupRampFramesRemaining : ℕ
  shutdownRampFramesRemaining : ℕ
  lastFrame : List ℤ
  realPeriodsSinceLock : ℕ
  inputFrames : ℕ
  outputFrames : ℕ
  silenceFrames : ℕ
  overrunFrames : ℕ
  lockCount : ℕ
  unlockCount : ℕ
  fillFrames : ℕ
  decay : CushionDecay
  heldTargetFrames : ℕ

namespace LaneResampler

variable {State : Type}

def new (dll : Dll State) (sincTable : SincTable) (channels periodFrames sampleRate targetFillFrames warmupCushionFrames maxAdjustPpm
    ringFrames : ℕ) (decayParams : DecayParams) : Except String (LaneResampler State) :=
  if channels = 0 then .error "lane resampler channels must be > 0"
  else if periodFrames = 0 then .error "lane resampler period_frames must be > 0"
  else
    let radius := radiusFrames
    let minRing := targetFillFrames + warmupCushionFrames + periodFrames + radius + 1
    if ringFrames < minRing then
      .error (s!"lane resampler ring_frames={ringFrames} too small; need >= {minRing} (target_fill={targetFillFrames} " ++
        s!"+ warmup_cushion={warmupCushionFrames} + period={periodFrames} + radius={radius} + 1)")
    else
      match AudioRing.new ringFrames channels with
      | .error error => .error s!"lane resampler ring: {error.text}"
      | .ok ring =>
        let ceiling := targetFillFrames + warmupCushionFrames
        .ok
          { channels := channels
            periodFrames := periodFrames
            ring := ring
            sincTable := sincTable
            controller := .new dll maxAdjustPpm periodFrames
            reopenCheckpoint := none
            reopening := false
            targetFillFrames := targetFillFrames
            warmupCushionFrames := warmupCushionFrames
            maxAdjustPpm := maxAdjustPpm
            nextInputFrame := 0
            locked := false
            acquisitionGracePeriods := max (sampleRate / max periodFrames 1) 1
            startupRampFramesRemaining := 0
            shutdownRampFramesRemaining := 0
            lastFrame := List.replicate channels 0
            realPeriodsSinceLock := 0
            inputFrames := 0
            outputFrames := 0
            silenceFrames := 0
            overrunFrames := 0
            lockCount := 0
            unlockCount := 0
            fillFrames := 0
            decay := decayParams.build ceiling periodFrames sampleRate maxAdjustPpm
            heldTargetFrames := ceiling }

variable (dll : Dll State) (lane : LaneResampler State)

def pushInput (samples : List ℤ) : LaneResampler State :=
  let frames := samples.length / lane.channels
  if frames = 0 then lane
  else
    let (ring, dropped) := lane.ring.pushInterleaved (samples.take (frames * lane.channels))
    { lane with
      ring := ring
      inputFrames := lane.inputFrames + frames
      overrunFrames := lane.overrunFrames + dropped }

section Ramps

def frameRampGain : ℚ :=
  if 0 < lane.startupRampFramesRemaining then
    ((lane.periodFrames - lane.startupRampFramesRemaining + 1 : ℕ) : ℚ) / lane.periodFrames
  else 1

def shutdownGain (frame : ℕ) : ℚ := 1 - ((frame + 1 : ℕ) : ℚ) / lane.periodFrames

def advanceCursor (ratio : ℚ) : LaneResampler State :=
  { lane with
    nextInputFrame := lane.nextInputFrame + ratio
    startupRampFramesRemaining := lane.startupRampFramesRemaining - 1 }

def armShutdownRamp : LaneResampler State :=
  if lane.lastFrame.any (· ≠ 0) then { lane with shutdownRampFramesRemaining := lane.periodFrames } else lane

def finishShutdownTail : LaneResampler State :=
  { lane with shutdownRampFramesRemaining := 0, lastFrame := List.replicate lane.channels 0 }

end Ramps

section Depths

def minimumSafeFill : ℕ := minimumSafeFillFrames lane.periodFrames (lane.maxAdjustPpm + bufferAdjustPpm)

def holdFillFrames : ℕ := lane.heldTargetFrames

def startupPrefillFrames : ℕ := lane.holdFillFrames + radiusFrames + 1

-- What the kernel's left taps may still read, and one frame more.
def keepFrom : ℤ := ⌊lane.nextInputFrame⌋ - radiusFrames - 1

end Depths

section Locking

def publishFill (frames : ℕ) : LaneResampler State := { lane with fillFrames := frames }

def publishDecayGauges : LaneResampler State := { lane with heldTargetFrames := lane.decay.heldFrames }

def snapDecayBack (reason : DecayFrozenReason) : LaneResampler State :=
  { lane with decay := lane.decay.snapBack reason }.publishDecayGauges

def tryLock : LaneResampler State :=
  if lane.ring.fillFrames < lane.startupPrefillFrames then lane
  else
    let seated := { lane with nextInputFrame := (lane.ring.writeFrame - lane.holdFillFrames : ℕ) }
    { seated with
      ring := seated.ring.dropBefore seated.keepFrom
      locked := true
      startupRampFramesRemaining := lane.periodFrames
      shutdownRampFramesRemaining := 0
      lastFrame := List.replicate lane.channels 0
      realPeriodsSinceLock := 0
      controller := if lane.reopening then lane.controller else lane.controller.reset dll
      reopening := false
      reopenCheckpoint := none
      lockCount := lane.lockCount + 1 }

def acquisitionUnderfill : Bool := lane.realPeriodsSinceLock < lane.acquisitionGracePeriods

-- The lane without its lock, its clock state saved for a reopen.
def halted : LaneResampler State :=
  { lane with
    reopenCheckpoint := some (lane.controller, lane.decay)
    locked := false
    unlockCount := lane.unlockCount + 1
    ring := if lane.acquisitionUnderfill then lane.ring else lane.ring.clear
    controller := lane.controller.reset dll
    nextInputFrame := 0
    startupRampFramesRemaining := 0 }

def unlockForUnderfill : LaneResampler State :=
  let unlocked := { (lane.halted dll).armShutdownRamp with realPeriodsSinceLock := 0 }.snapDecayBack .unlocked
  unlocked.publishFill (if lane.acquisitionUnderfill then unlocked.ring.fillFrames else 0)

-- The lane that starts to wait for input again.
def emptied : LaneResampler State :=
  { lane with ring := lane.ring.clear, nextInputFrame := 0, locked := false, startupRampFramesRemaining := 0 }

def discardInput : LaneResampler State :=
  { lane.emptied.armShutdownRamp with realPeriodsSinceLock := 0 }.publishFill 0

def reset : LaneResampler State :=
  ({ lane with reopenCheckpoint := none, reopening := false, controller := lane.controller.reset dll }.snapDecayBack
    .unlocked).discardInput

-- The clock state from before the underfill is taken back.
def restored : LaneResampler State :=
  match lane.reopenCheckpoint with
  | some (controller, decay) => { lane with controller := controller, decay := decay, reopenCheckpoint := none }
  | none => lane

def reopen : LaneResampler State :=
  let restored := lane.restored
  ({ restored with reopening := true, decay := restored.decay.holdForReopen }.discardInput).publishDecayGauges

end Locking

section Rendering

-- The ring dropped frames that the cursor had not reached.
def caughtUp : LaneResampler State :=
  if lane.nextInputFrame < lane.ring.readFrame then { lane with nextInputFrame := lane.ring.readFrame } else lane

def cursorFill : ℚ := lane.ring.writeFrame - lane.nextInputFrame

def acquire : LaneResampler State :=
  if lane.locked then lane else (lane.publishFill lane.ring.fillFrames).tryLock dll

def steerRatio : LaneResampler State × ℚ :=
  let (controller, ratio) := lane.controller.nextRatio dll (lane.cursorFill - lane.decay.held)
  ({ lane with controller := controller }, ratio + lane.decay.motionPpm / 1000000)

/-- The plan of a locked lane whose cursor is in the ring. -/
def planLocked : LaneResampler State × RenderPlan :=
  let published := lane.publishFill ⌊max lane.cursorFill 0⌋₊
  if published.cursorFill < published.minimumSafeFill then (published.unlockForUnderfill dll, .silence)
  else
    let (steered, ratio) := published.steerRatio dll
    let requiredEnd := steered.nextInputFrame + ratio * steered.periodFrames
    if (steered.ring.writeFrame : ℚ) < requiredEnd + radiusFrames then (steered.unlockForUnderfill dll, .silence)
    else (steered, .emit ratio)

def planPeriod : LaneResampler State × RenderPlan :=
  let acquired := lane.acquire dll
  if acquired.locked then acquired.caughtUp.planLocked dll else (acquired, .silence)

def emitSample (channel : ℕ) : ℤ :=
  let sample := clampI32 (lane.sincTable.interpolate lane.ring lane.nextInputFrame channel)
  if lane.frameRampGain < 1 then clampI32 (sample * lane.frameRampGain) else sample

def emitFrame : List ℤ := (List.range lane.channels).map lane.emitSample

-- The frames of a period, with where the kernel stood for each.
def emitFrames (ratio : ℚ) : ℕ → LaneResampler State → LaneResampler State × List (List ℤ × ℚ)
  | 0, lane => (lane, [])
  | count + 1, lane =>
    let (last, later) := emitFrames ratio count (lane.advanceCursor ratio)
    (last, (lane.emitFrame, lane.nextInputFrame) :: later)

def rememberLastFrame (frames : List (List ℤ)) : LaneResampler State :=
  { lane with lastFrame := frames.getLastD lane.lastFrame }

def finishPeriod : LaneResampler State :=
  { lane with
    ring := lane.ring.dropBefore lane.keepFrom
    outputFrames := lane.outputFrames + lane.periodFrames
    realPeriodsSinceLock := lane.realPeriodsSinceLock + 1 }

def truncated (value : ℚ) : ℤ := if 0 ≤ value then ⌊value⌋ else ⌈value⌉

def renderSilence : LaneResampler State × Rendered :=
  if 0 < lane.shutdownRampFramesRemaining then
    let tail := (List.range lane.periodFrames).map fun frame =>
      (List.range lane.channels).map fun channel => truncated (lane.lastFrame.getD channel 0 * lane.shutdownGain frame)
    ({ lane.finishShutdownTail with outputFrames := lane.outputFrames + lane.periodFrames },
      { frames := tail, active := lane.periodFrames, cursors := [] })
  else
    ({ lane with silenceFrames := lane.silenceFrames + lane.periodFrames },
      { frames := List.replicate lane.periodFrames (List.replicate lane.channels 0), active := 0, cursors := [] })

def renderPeriod : LaneResampler State × Rendered :=
  match lane.planPeriod dll with
  | (planned, .silence) => planned.renderSilence
  | (planned, .emit ratio) =>
    let (last, emitted) := emitFrames ratio planned.periodFrames planned
    let frames := emitted.map Prod.fst
    ((last.rememberLastFrame frames).finishPeriod,
      { frames := frames, active := planned.periodFrames, cursors := emitted.map Prod.snd })

end Rendering

section Target

def outputPublished (frames : ℕ) : LaneResampler State :=
  if frames < lane.periodFrames then
    let lost := lane.reset dll
    { lost with decay := lost.decay.outputLost }.publishDecayGauges
  else lane

def latencyContext (connection : ℕ) (failed : Bool) : LaneResampler State :=
  let told := { lane with decay := lane.decay.context connection failed lane.locked }
  if lane.decay.invalidates connection failed then
    let forgot := { told with reopenCheckpoint := none }
    (if forgot.reopening then forgot.reset dll else forgot).publishDecayGauges
  else
    { told with
      reopenCheckpoint := told.reopenCheckpoint.map fun (checkpoint : RateController State × CushionDecay) =>
        (checkpoint.1, checkpoint.2.context connection failed false) }.publishDecayGauges

def bufferLow : Bool :=
  (lane.fillFrames : ℚ) < max (lane.decay.held - lane.periodFrames) ((lane.decay.learnedFloor : ℚ) - cushionDecayFloorMarginFrames)

def tickDecay (dllL0Locked : Bool) : LaneResampler State :=
  if lane.reopening then lane
  else
    { lane with
      decay := lane.decay.tick
        { locked := lane.locked, dllL0Locked := dllL0Locked, bufferLow := lane.bufferLow } }.publishDecayGauges

end Target

inductive Call
  | pushInput (samples : List ℤ)
  | renderPeriod
  | reset
  | reopen
  | outputPublished (frames : ℕ)
  | latencyContext (connection : ℕ) (failed : Bool)
  | tickDecay (dllL0Locked : Bool)

def call (lane : LaneResampler State) : Call → LaneResampler State
  | .pushInput samples => lane.pushInput samples
  | .renderPeriod => (lane.renderPeriod dll).1
  | .reset => lane.reset dll
  | .reopen => lane.reopen
  | .outputPublished frames => lane.outputPublished dll frames
  | .latencyContext connection failed => lane.latencyContext dll connection failed
  | .tickDecay dllL0Locked => lane.tickDecay dllL0Locked

def Call.isRender : Call → Bool
  | .renderPeriod => true
  | _ => false

def after (lane : LaneResampler State) (calls : List Call) : LaneResampler State := calls.foldl (call dll) lane

end LaneResampler

end Jts.Fanin
