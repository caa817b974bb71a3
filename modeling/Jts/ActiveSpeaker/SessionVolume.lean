import Jts.ActiveSpeaker.Commission
import Jts.Shared.Coroutine

set_option autoImplicit false

namespace Jts.ActiveSpeaker.SessionVolume

open Shared (Coroutine)
open Shared.Coroutine (ask modify)

-- Seconds of the wall clock.
abbrev Seconds := ℚ

def defaultWallClockCeilingS : Seconds := 1800

def maxWallClockCeilingS : Seconds := 3600

def readbackToleranceDb : Level := 1 / 20

inductive Status
  | active
  | unresolved
deriving DecidableEq

structure State where
  status : Status
  reason : Option String
  openedAt : Seconds
  wallClockCeilingS : Seconds
  measurementVolumeDb : Option Level
  originalMainVolumeDb : Option Level
deriving DecidableEq

def finiteNonpositive (value : Option Level) : Option Level := value.filter (· ≤ 0)

def malformed (reason : String) : State where
  status := .unresolved
  reason := some reason
  openedAt := 0
  wallClockCeilingS := defaultWallClockCeilingS
  measurementVolumeDb := none
  originalMainVolumeDb := none

/-- What the state file holds. -/
inductive File
  | missing
  | unreadable
  | malformed
  | resolved
  | state (state : State)
deriving DecidableEq

def loadState : File → Option State
  | .missing | .resolved => none
  | .unreadable => some (malformed "session_volume_state_unreadable")
  | .malformed => some (malformed "session_volume_state_malformed")
  | .state state => some { state with
      wallClockCeilingS := if state.wallClockCeilingS ≤ 0 then defaultWallClockCeilingS else state.wallClockCeilingS
      measurementVolumeDb := finiteNonpositive state.measurementVolumeDb
      originalMainVolumeDb := finiteNonpositive state.originalMainVolumeDb }

inductive RestoreOutcome
  | landed
  | deferred
  | failed
deriving DecidableEq

/-- What a session was answered for the household level, and whether a measurement level was in force then. -/
structure Reading where
  householdDb : Option Level
  inForce : Bool
deriving DecidableEq

inductive Trace
  | landed (target : Level)
  | cleared
deriving DecidableEq

/-- The plan and its file. The last five fields only record what the fader has been asked for and has answered. -/
structure Plan where
  file : File
  emergency : Level
  ceiling : Seconds
  now : Seconds
  lock : Option ℕ
  state : Option State
  opened : Bool
  -- The fader may stand at a measurement level of this plan.
  raised : Bool
  confirmed : Option Level
  establishing : List ℕ
  readings : List Reading
  trace : List Trace

namespace Plan

variable (plan : Plan)

/-- A new process takes the plan up from its file. A level that was being established may have arrived. -/
def hydrate : Plan :=
  { plan with
    lock := none
    state := loadState plan.file
    opened := false
    raised := plan.raised || !plan.establishing.isEmpty
    establishing := [] }

def Initial : Prop :=
  plan.lock = none ∧ plan.state = loadState plan.file ∧ plan.opened = false ∧
    (plan.raised = true → (loadState plan.file).isSome) ∧ plan.establishing = [] ∧ plan.readings = [] ∧ plan.trace = []

def measurementVolumeDb : Option Level := plan.state.bind State.measurementVolumeDb

def setWallClockCeilingS (ceiling : Seconds) : Plan :=
  if ceiling ≤ 0 then plan else { plan with ceiling := min ceiling maxWallClockCeilingS }

def staleActive (now : Option Seconds) : Bool :=
  match plan.state with
  | none => false
  | some state => decide (state.status = .active) && decide (state.wallClockCeilingS < now.getD plan.now - state.openedAt)

def assertReady (now : Option Seconds) : Except String Unit :=
  match plan.state with
  | none => .error "no measurement volume is open; open the session volume plan first"
  | some state =>
      if state.status ≠ .active then
        .error "the measurement volume is not confirmed safe; restore it or apply emergency attenuation before playing a program"
      else if !plan.opened then
        .error "a measurement volume is durably active but was not opened in this process (crash/restart); recover it and open a fresh session first"
      else if plan.staleActive now then
        .error "the measurement volume session has exceeded its wall-clock ceiling; drain it before playing a program"
      else .ok ()

def ownedVolumeDbNow : Option Level :=
  match plan.assertReady none with
  | .error _ => none
  | .ok () => plan.measurementVolumeDb

/-- A write to the file lands or leaves it as it was. -/
def persist (file : File) (lands : Bool) : Plan := if lands then { plan with file := file } else plan

def markUnresolved (reason : String) (lands : Bool) : Plan :=
  let state := { plan.state.getD (malformed reason) with status := .unresolved, reason := some reason }
  { plan with state := some state }.persist (.state state) lands

def clearResolved (lands : Bool) : Plan :=
  { plan with state := none, opened := false, trace := .cleared :: plan.trace }.persist .resolved lands

end Plan

inductive Point
  | readHouseholdLevelDb
  | establishMeasurementLevelDb (level : Level)
  | restoreHouseholdLevelDb (target : Level)
  | getMainVolumeDb
  | lock
deriving DecidableEq

/-- What an await may be answered; each uses what it asks for. It tells how the fader stands when it is given. An await raises
what its caller does not catch, a cancellation too. -/
structure Answer where
  raises : Bool
  level : Option Level
  confirmed : Bool
  outcome : RestoreOutcome
  -- Whether the file is written by what follows the await.
  persists : Bool

abbrev Task := Coroutine Point Answer Plan

def getPlan : Task Plan := Coroutine.act id .done

def change (effect : Plan → Plan) : Task Unit := modify effect

section Lock

variable (me : ℕ)

/-- The restore lock, taken at once where it is free. Only the wait may raise. -/
def acquire : Task Bool := do
  let plan ← getPlan
  if plan.lock.isNone then
    change fun plan => { plan with lock := some me }
    return true
  else
    let answer ← ask .lock
    if answer.raises then return false
    else
      change fun plan => { plan with lock := some me }
      return true

def release : Task Unit := change fun plan => { plan with lock := none }

end Lock

inductive DrainResult
  | exactRestored
  | emergencyAttenuated
  | alreadyResolved
  | deferred
  | failed
  | raised
deriving DecidableEq

inductive Recovery
  | exact
  | emergency
deriving DecidableEq

def Recovery.result : Recovery → DrainResult
  | .exact => .exactRestored
  | .emergency => .emergencyAttenuated

def State.candidates (state : State) (emergency : Level) : List (Recovery × Level) :=
  (state.originalMainVolumeDb.map fun original => (Recovery.exact, original)).toList ++ [(.emergency, emergency)]

def Plan.landed (target : Level) (plan : Plan) : Plan :=
  { plan with raised := false, confirmed := some target, trace := .landed target :: plan.trace }

/-- The rungs, down to one that lands or is deferred. -/
def walk (persists : Bool) : List (Recovery × Level) → Task DrainResult
  | [] => do
      change fun plan => plan.markUnresolved "session_volume_restore_unconfirmed" persists
      return .failed
  | (recovery, target) :: rest => do
      let answer ← ask (.restoreHouseholdLevelDb target)
      if answer.raises then return .raised
      else
        match answer.outcome with
        | .deferred => return .deferred
        | .failed => walk answer.persists rest
        | .landed =>
            change (Plan.landed target)
            change fun plan => plan.clearResolved answer.persists
            return recovery.result

/-- The drain, under the lock. -/
def resolveIntent : Task DrainResult := do
  let plan ← getPlan
  match plan.state with
  | none => return .alreadyResolved
  | some state => walk true (state.candidates plan.emergency)

def drainRestore (me : ℕ) : Task DrainResult := do
  let acquired ← acquire me
  if acquired then
    let ended ← resolveIntent
    release
    return ended
  else return .raised

inductive OpenResult
  | refused
  | opened
  | emergencyAttenuated
  | failed
  | raised
deriving DecidableEq

/-- The intent of a session, from what was read of the household level. -/
def Plan.intent (plan : Plan) (volume : Level) (observed : Option Level) : State where
  status := .active
  reason := none
  openedAt := plan.now
  wallClockCeilingS := plan.ceiling
  measurementVolumeDb := some volume
  originalMainVolumeDb := finiteNonpositive observed

def Plan.heard (observed : Option Level) (plan : Plan) : Plan := { plan with readings := ⟨observed, plan.raised⟩ :: plan.readings }

def Plan.recordIntent (me : ℕ) (volume : Level) (observed : Option Level) (plan : Plan) : Plan :=
  { plan with
    file := .state (plan.intent volume observed)
    state := some (plan.intent volume observed)
    raised := true
    establishing := me :: plan.establishing }

/-- The fader may have been moved until the answer is there. -/
def Plan.established (me : ℕ) (plan : Plan) : Plan :=
  { plan with raised := true, establishing := plan.establishing.erase me }

/-- The part of an open that follows its first write. -/
def establish (me : ℕ) (volume : Level) : Task OpenResult := do
  let answer ← ask (.establishMeasurementLevelDb volume)
  change (Plan.established me)
  if answer.raises then return .raised
  else if answer.confirmed then
    change fun plan => { plan with opened := true, confirmed := some volume }
    return .opened
  else
    let drained ← drainRestore me
    return if drained = .raised then .raised else if drained = .emergencyAttenuated then .emergencyAttenuated else .failed

def openSession (me : ℕ) (measurementVolumeDb : Level) : Task OpenResult := do
  let plan ← getPlan
  match finiteNonpositive (some measurementVolumeDb) with
  | none => return .refused
  | some volume =>
      if plan.state.isSome then return .refused
      else
        let answer ← ask .readHouseholdLevelDb
        if answer.raises || !answer.persists then return .raised
        else
          change (Plan.heard answer.level)
          change (Plan.recordIntent me volume answer.level)
          establish me volume

def close (me : ℕ) : Task DrainResult := drainRestore me

def abandon (me : ℕ) : Task DrainResult := drainRestore me

def enforceCeiling (me : ℕ) (now : Option Seconds) : Task (Option DrainResult) := do
  let plan ← getPlan
  if plan.staleActive now then
    let drained ← drainRestore me
    return some drained
  else return none

def recoverUnresolved (me : ℕ) : Task DrainResult := drainRestore me

def faderMatches (observed : Option Level) (expected : Level) : Bool :=
  match observed with
  | none => false
  | some level => decide (|level - expected| ≤ readbackToleranceDb)

inductive HoldResult
  | notOwned
  | held (level : Option Level)
  | drift (observed : Option Level)
  | raised
deriving DecidableEq

/-- A fader that is not read at the level is read once more. -/
def holdFaderAt (expected : Level) : Task HoldResult := do
  let first ← ask .getMainVolumeDb
  if first.raises then return .raised
  else if faderMatches first.level expected then
    change fun plan => { plan with confirmed := some expected }
    return .held first.level
  else
    let proven ← ask .getMainVolumeDb
    if proven.raises then return .raised
    else if faderMatches proven.level expected then
      change fun plan => { plan with confirmed := some expected }
      return .held proven.level
    else return .drift proven.level

def proveOwnedVolume : Task HoldResult := do
  let plan ← getPlan
  match plan.ownedVolumeDbNow with
  | none => return .notOwned
  | some volume => holdFaderAt volume

def holdMeasurementVolume (me : ℕ) : Task HoldResult := do
  let acquired ← acquire me
  if acquired then
    let ended ← proveOwnedVolume
    release
    return ended
  else return .raised

inductive Verb
  | openSession (measurementVolumeDb : Level)
  | close
  | abandon
  | enforceCeiling (now : Option Seconds)
  | recoverUnresolved
  | holdMeasurementVolume

def discard {α : Type} (task : Task α) : Task Unit := do
  let _ ← task
  return ()

def perform (me : ℕ) : Verb → Task Unit
  | .openSession volume => discard (openSession me volume)
  | .close => discard (close me)
  | .abandon => discard (abandon me)
  | .enforceCeiling now => discard (enforceCeiling me now)
  | .recoverUnresolved => discard (recoverUnresolved me)
  | .holdMeasurementVolume => discard (holdMeasurementVolume me)

/-- The clock goes on, or the ceiling of the next session is armed. -/
inductive Event
  | clock (seconds : Seconds)
  | ceiling (seconds : Seconds)

def Event.apply (plan : Plan) : Event → Plan
  | .clock seconds => { plan with now := seconds }
  | .ceiling seconds => plan.setWallClockCeilingS seconds

def ready : Point → Answer → Plan → Bool
  | .lock, answer, plan => answer.raises || plan.lock.isNone
  | _, _, _ => true

def setting : Shared.Pool.Setting Verb Point Answer Plan Event where
  program verb me := perform me verb
  ready _ := ready
  outside event plan := event.apply plan

end Jts.ActiveSpeaker.SessionVolume
