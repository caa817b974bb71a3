import Jts.Shared.Coroutine
import Jts.Voice.OutputGate

set_option autoImplicit false

namespace Jts.Voice

open Shared (Coroutine)
open Shared.Coroutine (ask modify wait)

/-- A crash backstop, as the task that is created for its generation. -/
inductive BackstopPhase
  | absent
  | created
  | running (task : ℕ)
  | done
deriving DecidableEq

inductive HoldVerb
  | refused
  | opening
  | renewal
  | resume
deriving DecidableEq

inductive Outcome
  | busy
  | ok (drained : Option Bool)
  | raised
deriving DecidableEq

/-- The end of a transition, and what it left. -/
structure Ended where
  verb : HoldVerb
  outcome : Outcome
  admissionPaused : Bool
  measurementActive : Bool
  active : Option OutputEpisode
deriving DecidableEq

structure Expiry where
  generation : ℕ
  leaseGeneration : ℕ
deriving DecidableEq

/-- The hold and the gate. The last three fields only record how transitions have ended, which backstops have cleared the
window, and whether admission has stayed closed since an opening was told that output had drained. -/
structure Hold where
  gate : OutputGate
  measurementActive : Bool
  sessionActive : Bool
  transitionLock : Option ℕ
  safetyTask : Option ℕ
  leaseGeneration : ℕ
  phase : ℕ → BackstopPhase
  cancelled : ℕ → Bool
  ended : List Ended
  expiries : List Expiry
  silent : Bool

namespace Hold

def new : Hold where
  gate := .new
  measurementActive := false
  sessionActive := false
  transitionLock := none
  safetyTask := none
  leaseGeneration := 0
  phase := fun _ => .absent
  cancelled := fun _ => false
  ended := []
  expiries := []
  silent := false

variable (hold : Hold)

def lock (me : ℕ) : Hold := { hold with transitionLock := some me }

def unlock : Hold := { hold with transitionLock := none }

def setPhase (generation : ℕ) (phase : BackstopPhase) : Hold :=
  { hold with phase := Function.update hold.phase generation phase }

def cancel (generation : ℕ) : Hold := { hold with cancelled := Function.update hold.cancelled generation true }

def vacate (generation : ℕ) : Hold :=
  if hold.safetyTask = some generation then { hold with safetyTask := none } else hold

/-- Admission closes and the event is set without an await between them. -/
def close : Hold := { hold with gate := hold.gate.pauseAdmission.1, measurementActive := true }

/-- Admission reopens and the event is cleared without an await between them. -/
def reopen : Hold := { hold with gate := hold.gate.resumeAdmission.1, measurementActive := false, silent := false }

def armSafetyLocked : Hold :=
  { hold with
    leaseGeneration := hold.leaseGeneration + 1
    phase := Function.update hold.phase (hold.leaseGeneration + 1) .created
    safetyTask := some (hold.leaseGeneration + 1) }

/-- A new generation and an empty slot make the old task stale at once. -/
def invalidate : Hold := { hold with leaseGeneration := hold.leaseGeneration + 1, safetyTask := none }

def expire (generation : ℕ) : Hold := { hold with expiries := ⟨generation, hold.leaseGeneration⟩ :: hold.expiries }

def finish (verb : HoldVerb) (outcome : Outcome) : Hold :=
  { hold with
    transitionLock := none
    ended := ⟨verb, outcome, hold.gate.admissionPaused, hold.measurementActive, hold.gate.active⟩ :: hold.ended
    silent := hold.silent || decide (verb = .opening ∧ outcome = .ok (some true)) }

end Hold

inductive PauseStep
  | admission
  -- The callbacks between the event and the backstop.
  | local
  | volumeGuard
  | ttsConnection
  | contentMeter
deriving DecidableEq

inductive Point
  | transitionLock (backstop : Option ℕ)
  | sleep (generation : ℕ)
  | join (generation : ℕ)
  | step (step : PauseStep)
  | drain
  -- A restore runs as a task of its own, which begins in a later turn.
  | restoring
deriving DecidableEq

/-- What an await may end with. One that is deferred is done, and the caller was cancelled meanwhile and puts it off. -/
inductive Answer
  | done
  | deferred
  | timedOut
  | raised
deriving DecidableEq

abbrev Task := Coroutine Point Answer Hold

def getHold : Task Hold := Coroutine.get

def change (effect : Hold → Hold) : Task Unit := modify effect

def acquire (me : ℕ) (backstop : Option ℕ) : Task Bool := do
  let hold ← getHold
  if hold.transitionLock.isNone then
    change (·.lock me)
    return true
  else
    let answer ← ask (.transitionLock backstop)
    if answer = .done then
      change (·.lock me)
      return true
    else return false

inductive Joined
  | joined (deferred : Bool)
  | timedOut
deriving DecidableEq

/-- No backstop joins itself: it takes the slot over without a cancel. -/
def cancelSafetyLocked (previous : Option ℕ) : Task Joined :=
  match previous with
  | none => return .joined false
  | some generation => do
      change (·.cancel generation)
      let hold ← getHold
      if hold.phase generation = .done then
        change (·.vacate generation)
        return .joined false
      else
        let answer ← ask (.join generation)
        if answer = .done ∨ answer = .deferred then
          change (·.vacate generation)
          return .joined (decide (answer = .deferred))
        else return .timedOut

/-- A step that finds the shared deadline passed is not begun. -/
def awaitPauseStep (fails : List PauseStep) (step : PauseStep) : Task Bool :=
  if step ∈ fails then return false
  else do
    let answer ← ask (.step step)
    return decide (answer = .done)

/-- Whether the restore raises. A rollback clears the volume guard first and resumes the meter as far as it was paused. -/
def restoreState (rollback resumeMeter : Bool) : Task Bool := do
  change Hold.reopen
  if rollback then
    wait (.step .volumeGuard)
    Coroutine.when resumeMeter (wait (.step .contentMeter))
    return false
  else
    let meter ← ask (.step .contentMeter)
    if meter = .raised then return true
    else
      let volume ← ask (.step .volumeGuard)
      return decide (volume = .raised)

def restoreOwned (rollback resumeMeter : Bool) : Task Bool := do
  let begun ← ask .restoring
  let raised ← restoreState rollback resumeMeter
  return raised || decide (begun = .deferred)

def rollbackOpenLocked (resumeMeter : Bool) : Task Unit := do
  let hold ← getHold
  change Hold.invalidate
  let _ ← cancelSafetyLocked hold.safetyTask
  let _ ← restoreOwned true resumeMeter
  return ()

inductive Setup
  | failed (meterPaused : Bool)
  | drained (drained : Bool)
deriving DecidableEq

def drainInflight : Task Setup := do
  let hold ← getHold
  if hold.gate.active.isNone then return .drained true
  else
    let answer ← ask .drain
    if answer = .done then return .drained true
    else if answer = .timedOut then return .drained false
    else return .failed true

/-- The awaited part of an opening. -/
def setUp (fails : List PauseStep) : Task Setup := do
  let volume ← awaitPauseStep fails .volumeGuard
  if volume then
    let connection ← awaitPauseStep fails .ttsConnection
    if connection then
      let meter ← awaitPauseStep fails .contentMeter
      if meter then drainInflight else return .failed false
    else return .failed false
  else return .failed false

def finish (verb : HoldVerb) (outcome : Outcome) : Task Unit := change (·.finish verb outcome)

/-- Completion, not a list of exceptions, owns the rollback. -/
def conclude : Setup → Task Unit
  | .drained drained => finish .opening (.ok (some drained))
  | .failed meterPaused => do
      rollbackOpenLocked meterPaused
      finish .opening .raised

def opening (fails : List PauseStep) : Task Unit := do
  let hold ← getHold
  let orphan ← cancelSafetyLocked hold.safetyTask
  if orphan ≠ .joined false ∨ .admission ∈ fails then finish .opening .raised
  else
    change Hold.close
    if .local ∈ fails then conclude (.failed false)
    else
      change Hold.armSafetyLocked
      let setup ← setUp fails
      conclude setup

def renewal (fails : List PauseStep) : Task Unit := do
  let hold ← getHold
  change Hold.armSafetyLocked
  let joined ← cancelSafetyLocked hold.safetyTask
  if joined ≠ .joined false then finish .renewal .raised
  else
    let volume ← awaitPauseStep fails .volumeGuard
    if volume then
      let meter ← awaitPauseStep fails .contentMeter
      -- A renewal answers for the drain of its opening.
      if meter then finish .renewal (.ok (some true)) else finish .renewal .raised
    else finish .renewal .raised

def pauseDetailed (me : ℕ) (fails : List PauseStep) : Task Unit := do
  let acquired ← acquire me none
  if acquired then
    let hold ← getHold
    if hold.sessionActive then finish .refused .busy
    else if hold.measurementActive then renewal fails
    else opening fails
  else return ()

def resume (me : ℕ) : Task Unit := do
  let acquired ← acquire me none
  if acquired then
    let hold ← getHold
    change Hold.invalidate
    let joined ← cancelSafetyLocked hold.safetyTask
    let failed ← restoreOwned false true
    finish .resume (if failed ∨ joined = .joined true then .raised else .ok none)
  else return ()

def autoClear (me generation : ℕ) : Task Unit := do
  let hold ← getHold
  if hold.phase generation = .created then
    change (·.setPhase generation (.running me))
    let slept ← ask (.sleep generation)
    if slept = .done then
      let acquired ← acquire me (some generation)
      if acquired then
        let hold ← getHold
        if generation = hold.leaseGeneration ∧ hold.safetyTask = some generation ∧ hold.measurementActive then
          change (·.expire generation)
          let _ ← restoreState false true
          change fun hold => ((hold.vacate generation).setPhase generation .done).unlock
        else change fun hold => (hold.setPhase generation .done).unlock
      else change (·.setPhase generation .done)
    else change (·.setPhase generation .done)
  else return ()

inductive Program
  | pause (fails : List PauseStep)
  | resume
  -- The event loop takes up the task that was created for the generation.
  | autoClear (generation : ℕ)
deriving DecidableEq

def perform (me : ℕ) : Program → Task Unit
  | .pause fails => pauseDetailed me fails
  | .resume => resume me
  | .autoClear generation => autoClear me generation

inductive Event
  | gate (call : GateCall)
  | session (active : Bool)
deriving DecidableEq

def Event.apply (hold : Hold) : Event → Hold
  | .gate call => { hold with gate := hold.gate.call call }
  | .session active => { hold with sessionActive := active }

/-- When an await may end so. A backstop is cancelled by the transitions alone, every other caller at any await. -/
def ready : Point → Answer → Hold → Bool
  | .transitionLock none, .done, hold => hold.transitionLock.isNone
  | .transitionLock none, .raised, _ => true
  | .transitionLock none, _, _ => false
  | .transitionLock (some generation), .done, hold => hold.transitionLock.isNone && !hold.cancelled generation
  | .transitionLock (some generation), .raised, hold => hold.cancelled generation
  | .transitionLock (some _), _, _ => false
  | .sleep generation, .done, hold => !hold.cancelled generation
  | .sleep generation, .raised, hold => hold.cancelled generation
  | .sleep _, _, _ => false
  | .join generation, .done, hold => decide (hold.phase generation = .done)
  | .join generation, .deferred, hold => decide (hold.phase generation = .done)
  | .join _, .raised, _ => false
  | .join _, .timedOut, _ => true
  | .drain, .done, hold => hold.gate.active.isNone
  | .drain, .deferred, _ => false
  | .drain, _, _ => true
  | .restoring, .done, _ => true
  | .restoring, .deferred, _ => true
  | .restoring, _, _ => false
  | .step _, _, _ => true

def setting : Shared.Pool.Setting Program Point Answer Hold Event where
  program program me := perform me program
  ready _ := ready
  outside event hold := event.apply hold

end Jts.Voice
