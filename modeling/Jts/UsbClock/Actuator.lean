import Jts.UsbClock.Turn

set_option autoImplicit false

namespace Jts.UsbClock

def controlReopenIntervalMs : ℕ := 1000

/-- A control that `open_ctl` gave, with the value that the last successful write through it left. -/
structure PitchCtl where
  lastWritten : Option ℤ

/-- How the control answers a write, and what reading it back gives if the write went well. -/
structure WriteAnswer where
  ok : Bool
  readback : Option ℤ

structure PitchWrite where
  value : ℤ
  ok : Bool

/-- The actuator, with the writes that it has issued, the last one first. -/
structure HostClockActuator where
  ctl : Option PitchCtl
  lastRefreshAttemptMs : Option ℕ
  observedCaptureGeneration : Option ℕ
  controlGeneration : Option ℕ
  refreshes : ℕ
  openFailures : ℕ
  writeFailures : ℕ
  readbackCtlValue : Option ℤ
  writes : List PitchWrite

-- How the environment answers one refresh of the control.
structure RefreshAnswers where
  stale : WriteAnswer
  opens : Bool
  neutral : WriteAnswer

namespace HostClockActuator

def new : HostClockActuator where
  ctl := none
  lastRefreshAttemptMs := none
  observedCaptureGeneration := none
  controlGeneration := none
  refreshes := 0
  openFailures := 0
  writeFailures := 0
  readbackCtlValue := none
  writes := []

variable (actuator : HostClockActuator)

def status (captureGeneration : ℕ) : ControlStatus where
  captureGeneration := captureGeneration
  controlGeneration := actuator.controlGeneration
  refreshes := actuator.refreshes
  openFailures := actuator.openFailures
  writeFailures := actuator.writeFailures
  readbackCtlValue := actuator.readbackCtlValue

def invalidate (nowMs : ℕ) : HostClockActuator :=
  { actuator with ctl := none, controlGeneration := none, readbackCtlValue := none, lastRefreshAttemptMs := some nowMs }

def writeCurrent (value : ℤ) (answer : WriteAnswer) : HostClockActuator × Bool :=
  match actuator.ctl with
  | none => (actuator, false)
  | some _ =>
    let issued := { actuator with writes := { value := value, ok := answer.ok } :: actuator.writes }
    if answer.ok then
      ({ issued with ctl := some { lastWritten := some value }, readbackCtlValue := answer.readback }, true)
    else (issued, false)

-- A stale control is neutralized as well as may be, and dropped whatever the write gives.
def dropStale (answer : WriteAnswer) : HostClockActuator :=
  match actuator.ctl with
  | none => actuator
  | some _ =>
    let wrote := actuator.writeCurrent (ppmToCtlValue 0) answer
    { wrote.1 with
      ctl := none
      controlGeneration := none
      readbackCtlValue := none
      writeFailures := if wrote.2 then wrote.1.writeFailures else wrote.1.writeFailures + 1 }

def openNeutral (captureGeneration nowMs : ℕ) (answers : RefreshAnswers) : HostClockActuator × Bool :=
  if answers.opens then
    let wrote := { actuator with ctl := some { lastWritten := none } }.writeCurrent (ppmToCtlValue 0) answers.neutral
    if wrote.2 then
      ({ wrote.1 with controlGeneration := some captureGeneration, refreshes := wrote.1.refreshes + 1 }, true)
    else ({ wrote.1 with writeFailures := wrote.1.writeFailures + 1 }.invalidate nowMs, false)
  else ({ actuator with openFailures := actuator.openFailures + 1 }, false)

def observe (captureGeneration : ℕ) : HostClockActuator :=
  if actuator.observedCaptureGeneration ≠ some captureGeneration then
    { actuator with observedCaptureGeneration := some captureGeneration, lastRefreshAttemptMs := none }
  else actuator

def replace (captureGeneration nowMs : ℕ) (answers : RefreshAnswers) : HostClockActuator × Bool :=
  let parted := actuator.dropStale answers.stale
  if parted.lastRefreshAttemptMs.any fun last => nowMs - last < controlReopenIntervalMs then (parted, false)
  else { parted with lastRefreshAttemptMs := some nowMs }.openNeutral captureGeneration nowMs answers

def retire (nowMs : ℕ) (answer : WriteAnswer) : HostClockActuator :=
  let dropped :=
    if actuator.ctl.isSome then (actuator.writeCurrent (ppmToCtlValue 0) answer).1.invalidate nowMs else actuator
  { dropped with observedCaptureGeneration := some 0 }

def ensureReady (captureGeneration nowMs : ℕ) (answers : RefreshAnswers) : HostClockActuator × Bool :=
  if captureGeneration = 0 then (actuator.retire nowMs answers.stale, false)
  else
    let seen := actuator.observe captureGeneration
    if seen.controlGeneration = some captureGeneration ∧ seen.ctl.isSome then (seen, true)
    else seen.replace captureGeneration nowMs answers

def apply (action : Action) (nowMs : ℕ) (answer : WriteAnswer) : HostClockActuator × Bool :=
  match action with
  | .writePitch ppm _ =>
    if actuator.ctl.isNone then (actuator, false)
    else
      let wrote := actuator.writeCurrent (ppmToCtlValue ppm) answer
      if wrote.2 then (wrote.1, true)
      else ({ wrote.1 with writeFailures := wrote.1.writeFailures + 1 }.invalidate nowMs, false)

end HostClockActuator

/-- The thread of the fan-in host clock, with the signals it publishes. -/
structure HostClockThread where
  hc : HostClock
  actuator : HostClockActuator
  lastConnection : ℕ
  ladderL0 : Bool
  timingFailed : Bool
  connectionEpoch : ℕ

-- What the thread finds before its loop.
structure Startup where
  captureGeneration : ℕ
  readyMs : ℕ
  applyMs : ℕ
  refresh : RefreshAnswers
  applied : WriteAnswer

structure Reconnect where
  epoch : ℕ
  obs : Obs
  captureGeneration : ℕ
  tickMs : ℕ
  applyMs : ℕ
  applied : Action → WriteAnswer

structure Second where
  obs : Obs
  captureGeneration : ℕ
  tickMs : ℕ
  refresh : RefreshAnswers
  applied : Action → WriteAnswer

-- The two blocks of the loop; a pass runs either of them, both in this order, or none.
inductive Block
  | reconnect (found : Reconnect)
  | second (found : Second)

structure Shutdown where
  captureGeneration : ℕ
  applyMs : ℕ
  applied : WriteAnswer

namespace HostClockThread

def start (cfg : HostClockConfig) (found : Startup) : HostClockThread :=
  let ready := (HostClockActuator.new.ensureReady found.captureGeneration found.readyMs found.refresh).1
  let neutralized := (HostClock.new cfg).startupNeutralize
  let actuator := match neutralized.2 with
    | some action =>
      if (ready.status found.captureGeneration).ready then (ready.apply action found.applyMs found.applied).1 else ready
    | none => ready
  { hc := match neutralized.2 with
      | some _ => neutralized.1.setControlStatus (actuator.status found.captureGeneration)
      | none => neutralized.1
    actuator := actuator
    lastConnection := 0
    ladderL0 := false
    timingFailed := false
    connectionEpoch := 0 }

variable (thread : HostClockThread)

def onReconnect (found : Reconnect) : HostClockThread :=
  if found.epoch = thread.lastConnection then thread
  else
    let stopped := { found.obs with playing := false, steady := false }
    let ticked := thread.hc.tickWithControl stopped found.tickMs (thread.actuator.status found.captureGeneration)
    { thread with
      hc := ticked.1
      actuator := ticked.2.foldl (fun actuator action => (actuator.apply action found.applyMs (found.applied action)).1) thread.actuator
      ladderL0 := false
      connectionEpoch := found.epoch
      lastConnection := found.epoch }

def refreshed (found : Second) : HostClockActuator :=
  (thread.actuator.ensureReady found.captureGeneration found.tickMs found.refresh).1

def ladderTick (found : Second) : HostClock × List Action :=
  thread.hc.tickWithControl found.obs found.tickMs ((thread.refreshed found).status found.captureGeneration)

-- The actions of a tick that finds the control unready are dropped; the flag tells a write that failed.
def written (found : Second) : HostClockActuator × Bool :=
  (thread.ladderTick found).2.foldl (fun state action =>
    if ((thread.refreshed found).status found.captureGeneration).ready then
      let applied := state.1.apply action found.tickMs (found.applied action)
      (applied.1, state.2 || !applied.2)
    else state) (thread.refreshed found, false)

def onSecond (found : Second) : HostClockThread :=
  let postWriteStatus := (thread.written found).1.status found.captureGeneration
  let hc :=
    if (thread.written found).2 then (thread.ladderTick found).1.invalidateControl postWriteStatus
    else (thread.ladderTick found).1.setControlStatus postWriteStatus
  { thread with
    hc := hc
    actuator := (thread.written found).1
    ladderL0 := hc.ladder = .l0Locked
    timingFailed := !(hc.ladder = .l0Locked || hc.ladder = .probing) }

def step : Block → HostClockThread
  | .reconnect found => thread.onReconnect found
  | .second found => thread.onSecond found

def exit (found : Shutdown) : HostClockThread :=
  let neutralized := thread.hc.neutralizeForExit "shutdown"
  let actuator := (thread.actuator.apply neutralized.2 found.applyMs found.applied).1
  { thread with
    hc := neutralized.1.setControlStatus (actuator.status found.captureGeneration)
    actuator := actuator
    ladderL0 := false
    timingFailed := true
    connectionEpoch := 0 }

def run (cfg : HostClockConfig) (found : Startup) (blocks : List Block) : HostClockThread := blocks.foldl step (start cfg found)

end HostClockThread

end Jts.UsbClock
