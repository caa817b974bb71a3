import Jts.ActiveSpeaker.Ramp
import Jts.Shared.Coroutine

set_option autoImplicit false

namespace Jts.ActiveSpeaker.Retry

open Shared (Coroutine)
open Shared.Coroutine (ask modify)

/-- What the tasks share: the running graph, the records, the staged anchor and the writer's lock. The other fields only
record what the one audible step and the verdicts have come to. -/
structure Bench where
  graph : Graph
  state : CommissionState
  ramp : RampState
  safe : SafeSession
  anchorExists : Bool
  anchorValid : Bool
  writer : Option ℕ
  step : Option ℕ
  replaced : Option PendingStep
  stepped : Bool
  ended : Bool
  -- The running graph is the one that the step loaded.
  loud : Bool
  -- A verdict on the step before it was accepted.
  decided : Bool
  recorded : List Role

def Bench.Initial (bench : Bench) : Prop :=
  bench.writer = none ∧ bench.step = none ∧ bench.replaced = none ∧ bench.stepped = false ∧ bench.ended = false ∧
    bench.loud = false ∧ bench.decided = false ∧ bench.recorded = bench.ramp.confirmedRoles

/-- What a task goes to CamillaDSP for. A verdict is recorded after its re-mute, from what it read before. -/
inductive Job
  | load
  | remute
  | verdict (read : RampState) (pending : PendingStep) (outcome : Outcome) (status : AckStatus)
deriving DecidableEq

inductive Point
  | read
  | path
  | admission (job : Job)
  | load (job : Job) (candidate : Graph)
  | confirm
  | tone
deriving DecidableEq

/-- What an await may be answered; each uses what it asks for. -/
structure Answer where
  ok : Bool
  reply : Reply
  live : Option LiveEvidence

abbrev Task := Coroutine Point Answer Bench

def getBench : Task Bench := Coroutine.act id .done

def change (effect : Bench → Bench) : Task Unit := modify effect

def Bench.sent (candidate : Graph) (reply : Reply) (bench : Bench) : Bench :=
  if reply = .refused then bench else { bench with graph := candidate, loud := candidate.isSome }

def Bench.record (status : LoadStatus) (target : Option LoadTarget) (bench : Bench) : Bench :=
  { bench with state := ⟨status, target⟩ }

section Apply

variable (me : ℕ) (job : Job)

/-- Only a commissioning load has a prior graph: the anchor. -/
def rollBack (commissioning : Bool) : Task ApplyEnd :=
  if commissioning then do
    let back ← ask (.load job none)
    change (Bench.sent none back.reply)
    return .failed
  else return .failed

def transaction (candidate : Graph) (valid : Bench → Bool) (commissioning : Bool) : Task ApplyEnd := do
  let bench ← getBench
  if valid bench then
    let loaded ← ask (.load job candidate)
    change (Bench.sent candidate loaded.reply)
    if loaded.reply = .done then
      if commissioning then
        let seen ← ask .confirm
        if seen.ok then return .success else rollBack job commissioning
      else return .success
    else rollBack job commissioning
  else return .failed

def applyDspConfig (candidate : Graph) (valid : Bench → Bool) (commissioning : Bool) : Task ApplyEnd := do
  let admitted ← ask (.admission job)
  if admitted.ok then
    change fun bench => { bench with writer := some me }
    let ended ← transaction job candidate valid commissioning
    change fun bench => { bench with writer := none }
    return ended
  else return .notAdmitted

def rollbackDriverCommissioningConfig : Task Unit := do
  let bench ← getBench
  if bench.anchorExists then
    let ended ← applyDspConfig me job none Bench.anchorValid false
    change (Bench.record (if ended = .success then .rolledBack else .rollbackFailed) bench.state.target)
  else change (Bench.record .rollbackFailed bench.state.target)

end Apply

/-- An audible step, with what the checks that it does not wait for will say. -/
structure StepCall where
  group : String
  role : Role
  roleOrderConfirmedRoles : List Role
  active : String
  prepares : Bool
  outputIndex : Option Nat
  present : List Role
  ready : Bool
  loadAllowed : Bool
  anchorPersisted : Bool
  preparesUnderLock : Bool
  validates : Bool
  playsTone : Bool
  playbackId : Nat

def StepCall.target (call : StepCall) : PlaybackTarget := ⟨call.group, call.role, call.outputIndex⟩

def loadDriverCommissioningConfig (me : ℕ) (call : StepCall) (target : LoadTarget) : Task Bool := do
  let path ← ask .path
  let bench ← getBench
  if !path.ok then
    change (Bench.record .failed none)
    return false
  else if !call.loadAllowed || !target.known call.active || !bench.anchorExists || !call.anchorPersisted then
    change (Bench.record .blocked (some target))
    return false
  else
    let ended ← applyDspConfig me .load (some (target.unmuted call.active))
      (fun _ => call.preparesUnderLock && call.validates) true
    match ended with
    | .success =>
        change (Bench.record .loaded (some target))
        return true
    | .failed =>
        change (Bench.record .failed (some target))
        return false
    | .notAdmitted | .cancelled => return false

/-- The checks before the readback: the pending step that is replaced, and the level that is heard now. -/
def opening (bench : Bench) (call : StepCall) : Option (Option PendingStep × Level) :=
  if bench.state.status ≠ .loaded then none
  else
    match bench.state.target with
    | none => none
    | some loaded =>
        if loaded.group ≠ call.group ∨ loaded.role ≠ call.role then none
        else
          match replacedPending bench.ramp call.group call.role true with
          | .error () => none
          | .ok replaced =>
              let current := loaded.audibleGainDb
              if commissionRampMaxLevelDbfs - epsilon ≤ current ∧ nextRampGainDb current ≤ current + epsilon then none
              else if !call.prepares || !loaded.known call.active then none
              else some (replaced, current)

def StepCall.gate (call : StepCall) (opened : Bench) (replaced : Option PendingStep) (current : Level) (live : LiveEvidence) : Gate where
  currentGainDb := current
  nextGainDb := nextRampGainDb current
  role := call.role
  present := call.present
  confirmed := effectiveConfirmedRoles opened.ramp call.group call.roleOrderConfirmedRoles
  priorStepCleared := replaced.isSome || floorAudioConfirmedForTarget opened.safe.load call.target ||
    floorAudioRetryAllowedForTarget opened.safe.load call.target
  live := live

def finish : Task Unit := change fun bench => { bench with ended := true }

/-- The new pending step, with the roles that were read at the start. -/
def recordStep (call : StepCall) (roles : List Role) (level : Level) : Task Unit :=
  change fun bench => { bench with
    safe := recordSafePlaybackResult bench.safe call.target level call.playbackId
    ramp := { group := call.group, confirmedRoles := roles, pending := some ⟨call.role, level, call.playbackId⟩ }
    stepped := true
    ended := true }

/-- From the load on. -/
def raiseDriver (me : ℕ) (call : StepCall) (replaced : Option PendingStep) (roles : List Role) (level : Level) : Task Unit := do
  let loaded ← loadDriverCommissioningConfig me call ⟨call.group, call.role, level⟩
  let bench ← getBench
  if !loaded then finish
  else if superseded replaced bench.ramp call.target then
    rollbackDriverCommissioningConfig me .remute
    finish
  else if call.playsTone then
    let tone ← ask .tone
    if tone.ok then recordStep call roles level
    else
      rollbackDriverCommissioningConfig me .remute
      finish
  else recordStep call roles level

/-- One audible step, which may replace a pending one. -/
def rampAudibleStep (me : ℕ) (call : StepCall) : Task Unit := do
  let opened ← getBench
  match opening opened call with
  | none => change fun bench => { bench with step := some me, ended := true }
  | some (replaced, current) =>
      change fun bench => { bench with step := some me, replaced := replaced }
      let read ← ask .read
      match read.live with
      | none => finish
      | some live =>
          let bench ← getBench
          if !(call.gate opened replaced current live).passed then finish
          else do
            change fun bench => { bench with safe := ensureSafeSessionArmed bench.safe call.ready }
            if (ensureSafeSessionArmed bench.safe call.ready).load.status ≠ .armed || superseded replaced bench.ramp call.target then
              finish
            else
              raiseDriver me call replaced (effectiveConfirmedRoles opened.ramp call.group []) (nextRampGainDb current)

def AckStatus.accepted (status : AckStatus) : Bool := status ∈ [AckStatus.confirmed, .aborted, .expired]

def Bench.acknowledged (read : RampState) (pending : PendingStep) (outcome : Outcome) (verdict : Verdict) (early : Bool)
    (bench : Bench) : Bench :=
  { bench with
    ramp := { read with confirmedRoles := verdict.confirmedRoles, pending := verdict.pending }
    decided := bench.decided || early && AckStatus.accepted verdict.status
    recorded :=
      if verdict.status = .confirmed then bench.recorded.insert pending.role
      else if outcome = .heardWrongDriver then bench.recorded.filter (· ≠ pending.role)
      else bench.recorded }

/-- The operator's verdict on the pending step. -/
def recordRampOperatorAck (me : ℕ) (outcome : Outcome) (loader : Bool) : Task Unit := do
  let read ← getBench
  match read.ramp.pending with
  | none => return ()
  | some pending =>
      match ackSafe read.safe outcome pending.playbackId with
      | none => return ()
      | some (stored, seen) =>
          let verdict := ackVerdict read.ramp.confirmedRoles pending seen outcome
          change fun bench => { bench with safe := stored }
          Coroutine.when (loader && verdict.remutes)
            (rollbackDriverCommissioningConfig me (.verdict read.ramp pending outcome verdict.status))
          change (Bench.acknowledged read.ramp pending outcome verdict (!read.stepped))

inductive Verb
  | step (call : StepCall)
  | ack (outcome : Outcome) (loader : Bool)

/-- A run has one audible step, and any number of verdicts. -/
def Verb.task (me : ℕ) : Verb → Task Unit
  | .step call => do
      let bench ← getBench
      Coroutine.when bench.step.isNone (rampAudibleStep me call)
  | .ack outcome loader => recordRampOperatorAck me outcome loader

def ready : Point → Answer → Bench → Bool
  | .admission _, answer, bench => !answer.ok || bench.writer.isNone
  | _, _, _ => true

/-- The tone's lease runs out. -/
inductive Event
  | lapse

def setting : Shared.Pool.Setting Verb Point Answer Bench Event where
  program verb me := verb.task me
  ready _ := ready
  outside _ bench := { bench with safe := { bench.safe with lapsed := true } }

end Jts.ActiveSpeaker.Retry
