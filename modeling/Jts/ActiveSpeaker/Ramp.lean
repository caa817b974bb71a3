import Jts.ActiveSpeaker.SafePlayback
import Jts.Shared.Transition

set_option autoImplicit false

namespace Jts.ActiveSpeaker

def nextRampGainDb (currentGainDb : Level) : Level :=
  if currentGainDb < minTestLevelDbfs then minTestLevelDbfs
  else min (currentGainDb + audibleRampStepDb) commissionRampMaxLevelDbfs

structure PendingStep where
  role : Role
  gainDb : Level
  playbackId : Nat
deriving DecidableEq

-- A blank group is the one that no step has named yet.
structure RampState where
  group : String
  confirmedRoles : List Role
  pending : Option PendingStep
deriving DecidableEq

def RampState.base : RampState where
  group := ""
  confirmedRoles := []
  pending := none

def sameGroup (rampGroup group : String) : Bool := rampGroup == "" || group == "" || rampGroup == group

/-- The remembered roles, of the same group only, and the caller's. -/
def effectiveConfirmedRoles (ramp : RampState) (group : String) (confirmedRoles : List Role) : List Role :=
  (if sameGroup ramp.group group then ramp.confirmedRoles else []) ∪ confirmedRoles

def clearPendingRampStep (ramp : RampState) : RampState :=
  { ramp with confirmedRoles := effectiveConfirmedRoles ramp ramp.group [], pending := none }

def rampRoleOrder : List Role := [.woofer, .mid, .tweeter]

def predecessors (role : Role) (present : List Role) : List Role :=
  if role ∈ rampRoleOrder then (rampRoleOrder.takeWhile (· ≠ role)).filter (· ∈ present) else []

/-- What the running graph, read back, shows of its own protections. -/
structure LiveEvidence where
  maskAndHighpass : Bool
  volumeCeiling : Bool
  driverLimiter : Bool
deriving DecidableEq

structure Gate where
  currentGainDb : Level
  nextGainDb : Level
  role : Role
  present : List Role
  confirmed : List Role
  priorStepCleared : Bool
  live : LiveEvidence
deriving DecidableEq

def Gate.atSilentFloor (gate : Gate) : Bool := gate.currentGainDb < minTestLevelDbfs

def Gate.gainWithinEnvelope (gate : Gate) : Bool :=
  minTestLevelDbfs - epsilon ≤ gate.nextGainDb && gate.nextGainDb ≤ commissionRampMaxLevelDbfs + epsilon

def Gate.gainStepBounded (gate : Gate) : Bool :=
  if gate.atSilentFloor then |gate.nextGainDb - minTestLevelDbfs| ≤ epsilon
  else gate.nextGainDb - gate.currentGainDb ≤ audibleRampStepDb + epsilon

def Gate.roleOrderWooferFirst (gate : Gate) : Bool :=
  (predecessors gate.role gate.present).all (· ∈ gate.confirmed)

def Gate.priorStepAcknowledged (gate : Gate) : Bool := gate.atSilentFloor || gate.priorStepCleared

def Gate.passed (gate : Gate) : Bool :=
  gate.gainWithinEnvelope && gate.gainStepBounded && gate.live.maskAndHighpass && gate.live.volumeCeiling &&
    gate.live.driverLimiter && gate.roleOrderWooferFirst && gate.priorStepAcknowledged

/-- The three persisted states. The last two fields only record: the drivers that an operator confirmed, and those that
one confirmed or judged silent since a driver was last armed or made louder. -/
structure Commissioning where
  commission : Commission
  ramp : RampState
  safe : SafeSession
  confirmed : List Driver
  handled : List Driver
deriving DecidableEq

/-- Arm one driver at the silent floor. -/
def armDriver (speaker : Commissioning) (group : String) (role : Role) (outside : LoadOutside) : Commissioning × Ended :=
  let (commission, ended) := loadDriverCommissioningConfig speaker.commission ⟨group, role, startupMuteGainDb⟩ true outside
  ({ speaker with commission := commission, handled := if ended = .returned then [] else speaker.handled }, ended)

inductive Tone
  | notAsked
  | confirmable
  | failed
  | cancelled
deriving DecidableEq

/-- What an audible step meets. -/
structure StepOutside where
  prepares : Bool
  outputIndex : Option Nat
  present : List Role
  live : LiveEvidence
  ready : Bool
  load : LoadOutside
  tone : Tone
  lapses : Bool
  playbackId : Nat
  rollback : RollbackOutside
deriving DecidableEq

def ensureSafeSessionArmed (safe : SafeSession) (ready : Bool) : SafeSession :=
  if safe.load.status = .armed then safe else armSafePlaybackSession ready

def pendingStepStillCurrent (replaced : PendingStep) (ramp : RampState) (group : String) (role : Role) : Bool :=
  match ramp.pending with
  | none => false
  | some pending => pending.role == role && ramp.group == group && pending.playbackId == replaced.playbackId

inductive StepStatus
  | commissionNotLoaded
  | commissionTargetMismatch
  | stepAwaitingAck
  | atLimit
  | prepareFailed
  | gateBlocked
  | safeSessionArmFailed
  | loadFailed
  | staleRetry
  | toneFailed
  | stepped
  | raised
  | cancelled
deriving DecidableEq

def Commissioning.rolledBack (speaker : Commissioning) (outside : RollbackOutside) : Commissioning × Ended :=
  let (commission, ended) := rollbackDriverCommissioningConfig speaker.commission outside
  ({ speaker with commission := commission }, ended)

def Commissioning.remuted (speaker : Commissioning) (outside : RollbackOutside) (status : StepStatus) :
    Commissioning × StepStatus :=
  let (remuted, ended) := speaker.rolledBack outside
  (remuted, if ended = .cancelled then .cancelled else status)

/-- The driver is loaded at the next level: the tone, and what the step leaves for the operator. -/
def emitTone (speaker : Commissioning) (target : PlaybackTarget) (level : Level) (outside : StepOutside) :
    Commissioning × StepStatus :=
  match outside.tone with
  | .cancelled => (speaker, .cancelled)
  | .failed => speaker.remuted outside.rollback .toneFailed
  | .notAsked | .confirmable =>
      let safe := if outside.lapses then { speaker.safe with lapsed := true } else speaker.safe
      ({ speaker with
          safe := recordSafePlaybackResult safe target level outside.playbackId
          ramp := {
            group := target.group
            confirmedRoles := effectiveConfirmedRoles speaker.ramp target.group []
            pending := some ⟨target.role, level, outside.playbackId⟩ } }, .stepped)

def superseded (replaced : Option PendingStep) (ramp : RampState) (target : PlaybackTarget) : Bool :=
  replaced.any (!pendingStepStillCurrent · ramp target.group target.role)

def afterLoad (loaded : Commissioning) (replaced : Option PendingStep) (target : PlaybackTarget) (level : Level)
    (outside : StepOutside) : Ended → Commissioning × StepStatus
  | .cancelled => (loaded, .cancelled)
  | .raised => (loaded, .raised)
  | .returned =>
      if loaded.commission.state.status ≠ .loaded then (loaded, .loadFailed)
      else if superseded replaced loaded.ramp target then loaded.remuted outside.rollback .staleRetry
      else emitTone loaded target level outside

/-- The guarded load, and what follows it. -/
def loadStep (speaker : Commissioning) (replaced : Option PendingStep) (target : PlaybackTarget) (level : Level)
    (outside : StepOutside) : Commissioning × StepStatus :=
  if superseded replaced speaker.ramp target then (speaker, .staleRetry)
  else
    let (commission, ended) :=
      loadDriverCommissioningConfig speaker.commission ⟨target.group, target.role, level⟩ false outside.load
    -- A verdict stands behind one raise.
    let handled := if ended = .returned then [] else speaker.handled
    afterLoad { speaker with commission := commission, handled := handled } replaced target level outside ended

/-- An automatic retry replaces a pending step of the same driver. Any other step waits for the operator. -/
def replacedPending (ramp : RampState) (group : String) (role : Role) (autoRetryPending : Bool) :
    Except Unit (Option PendingStep) :=
  match ramp.pending with
  | none => .ok none
  | some pending =>
      if autoRetryPending && pending.role == role && ramp.group == group then .ok (some pending) else .error ()

def priorStepCleared (speaker : Commissioning) (replaced : Option PendingStep) (target : PlaybackTarget) : Bool :=
  replaced.isSome || floorAudioConfirmedForTarget speaker.safe.load target ||
    floorAudioRetryAllowedForTarget speaker.safe.load target

def stepGate (speaker : Commissioning) (replaced : Option PendingStep) (target : PlaybackTarget) (currentGainDb : Level)
    (roleOrderConfirmedRoles : List Role) (outside : StepOutside) : Gate where
  currentGainDb
  nextGainDb := nextRampGainDb currentGainDb
  role := target.role
  present := outside.present
  confirmed := effectiveConfirmedRoles speaker.ramp target.group roleOrderConfirmedRoles
  priorStepCleared := priorStepCleared speaker replaced target
  live := outside.live

/-- Every check before the load: the session then armed, the pending step that is replaced, and the next level. -/
def stepChecks (speaker : Commissioning) (group : String) (role : Role) (autoRetryPending : Bool)
    (roleOrderConfirmedRoles : List Role) (outside : StepOutside) :
    Except (Commissioning × StepStatus) (Commissioning × Option PendingStep × Level) :=
  if speaker.commission.state.status ≠ .loaded then .error (speaker, .commissionNotLoaded)
  else
    match speaker.commission.state.target with
    | none => .error (speaker, .commissionTargetMismatch)
    | some loaded =>
        if loaded.group ≠ group ∨ loaded.role ≠ role then .error (speaker, .commissionTargetMismatch)
        else
          match replacedPending speaker.ramp group role autoRetryPending with
          | .error () => .error (speaker, .stepAwaitingAck)
          | .ok replaced =>
              let current := loaded.audibleGainDb
              let next := nextRampGainDb current
              let gate := stepGate speaker replaced ⟨group, role, outside.outputIndex⟩ current roleOrderConfirmedRoles outside
              let armed := { speaker with safe := ensureSafeSessionArmed speaker.safe outside.ready }
              if commissionRampMaxLevelDbfs - epsilon ≤ current ∧ next ≤ current + epsilon then .error (speaker, .atLimit)
              else if !outside.prepares || !loaded.known outside.load.active then .error (speaker, .prepareFailed)
              else if !gate.passed then .error (speaker, .gateBlocked)
              else if armed.safe.load.status ≠ .armed then .error (armed, .safeSessionArmFailed)
              else .ok (armed, replaced, next)

/-- What a step has seen when it goes on to the load. -/
structure StepPasses (speaker armed : Commissioning) (group : String) (role : Role) (autoRetryPending : Bool)
    (roles : List Role) (outside : StepOutside) (replaced : Option PendingStep) (current next : Level) : Prop where
  loaded : speaker.commission.state = ⟨.loaded, some ⟨group, role, current⟩⟩
  replaces : replacedPending speaker.ramp group role autoRetryPending = .ok replaced
  next_eq : next = nextRampGainDb current
  climbs : ¬(commissionRampMaxLevelDbfs - epsilon ≤ current ∧ nextRampGainDb current ≤ current + epsilon)
  active : group = "" ∨ group = outside.load.active
  gate : (stepGate speaker replaced ⟨group, role, outside.outputIndex⟩ current roles outside).passed = true
  armed_eq : armed = { speaker with safe := ensureSafeSessionArmed speaker.safe outside.ready }
  session : armed.safe.load.status = .armed

/-- A step that fails a check has at most armed the session. -/
theorem stepChecks_error {speaker : Commissioning} {group : String} {role : Role} {autoRetryPending : Bool}
    {roles : List Role} {outside : StepOutside} {refused : Commissioning × StepStatus}
    (fails : stepChecks speaker group role autoRetryPending roles outside = .error refused) :
    refused.1 = speaker ∨ refused.1 = { speaker with safe := ensureSafeSessionArmed speaker.safe outside.ready } := by
  unfold stepChecks at fails
  split at fails
  · cases fails
    exact .inl rfl
  split at fails
  · cases fails
    exact .inl rfl
  split at fails
  · cases fails
    exact .inl rfl
  split at fails
  · cases fails
    exact .inl rfl
  simp only at fails
  split at fails
  · cases fails
    exact .inl rfl
  split at fails
  · cases fails
    exact .inl rfl
  split at fails
  · cases fails
    exact .inl rfl
  split at fails
  · cases fails
    exact .inr rfl
  · cases fails

theorem stepChecks_ok {speaker armed : Commissioning} {group : String} {role : Role} {autoRetryPending : Bool}
    {roles : List Role} {outside : StepOutside} {replaced : Option PendingStep} {next : Level}
    (passes : stepChecks speaker group role autoRetryPending roles outside = .ok (armed, replaced, next)) :
    ∃ current, StepPasses speaker armed group role autoRetryPending roles outside replaced current next := by
  unfold stepChecks at passes
  split at passes
  · cases passes
  rename_i loaded
  split at passes
  · cases passes
  rename_i target told
  split at passes
  · cases passes
  rename_i same
  split at passes
  · cases passes
  rename_i taken replaces
  simp only at passes
  split at passes
  · cases passes
  rename_i climbs
  split at passes
  · cases passes
  rename_i known
  split at passes
  · cases passes
  rename_i gate
  split at passes
  · cases passes
  rename_i session
  cases passes
  obtain ⟨rfl, rfl⟩ : target.group = group ∧ target.role = role := by simpa [not_or] using same
  refine ⟨target.audibleGainDb, ?_, replaces, rfl, climbs, ?_, by simpa using gate, rfl, by simpa using session⟩
  · rw [not_not] at loaded
    rw [← loaded, ← told]
  · simp only [LoadTarget.known] at known
    grind

/-- One bounded, gated audible step. -/
def rampAudibleStep (speaker : Commissioning) (group : String) (role : Role) (autoRetryPending : Bool)
    (roleOrderConfirmedRoles : List Role) (outside : StepOutside) : Commissioning × StepStatus :=
  match stepChecks speaker group role autoRetryPending roleOrderConfirmedRoles outside with
  | .error refused => refused
  | .ok (armed, replaced, next) => loadStep armed replaced ⟨group, role, outside.outputIndex⟩ next outside

inductive AckStatus
  | noPendingStep
  | confirmed
  | expired
  | rejected
  | aborted
  | retry
deriving DecidableEq

structure Verdict where
  status : AckStatus
  pending : Option PendingStep
  confirmedRoles : List Role
  remutes : Bool
deriving DecidableEq

/-- The session after a refusal is one that a new play has to reopen. -/
def ackReopenRequired (safe : SafeSession) : Bool :=
  safe.status ∈ [SafeStatus.expired, .idle, .stopped] ||
    safe.issues.any (· ∈ [SafeIssue.safeSessionNotArmed, .floorPlaybackMissing, .floorConfirmationNotPending])

def ackVerdict (confirmedRoles : List Role) (pending : PendingStep) (safe : SafeSession) : Outcome → Verdict
  | .heardCorrectDriver =>
      if safe.issues = [] ∧ safe.quietStart.status = .floorConfirmed then
        ⟨.confirmed, none, confirmedRoles.insert pending.role, true⟩
      else if ackReopenRequired safe then ⟨.expired, none, confirmedRoles, true⟩
      else ⟨.rejected, some pending, confirmedRoles, false⟩
  | .tooLoud => ⟨.aborted, none, confirmedRoles, true⟩
  | .heardWrongDriver => ⟨.aborted, none, confirmedRoles.filter (· ≠ pending.role), true⟩
  | .silent => ⟨.retry, none, confirmedRoles, false⟩
  | .unsupported => ⟨.rejected, some pending, confirmedRoles, false⟩

/-- The session as the verdict leaves it, and as it is then seen. An outcome that the tri-state does not know raises. -/
def ackSafe (safe : SafeSession) (outcome : Outcome) (playbackId : Nat) : Option (SafeSession × SafeSession) :=
  if safe.load.quietStart.status = .floorPendingOperator then
    if outcome = .unsupported then none
    else
      let recorded := recordFloorAudioOperatorResult safe outcome playbackId
      some (recorded, recorded)
  else some (safe, safe.load)

def Commissioning.acknowledged (speaker : Commissioning) (pending : PendingStep) (verdict : Verdict) : Commissioning :=
  let driver : Driver := ⟨speaker.ramp.group, pending.role⟩
  { speaker with
    ramp := { speaker.ramp with confirmedRoles := verdict.confirmedRoles, pending := verdict.pending }
    confirmed := if verdict.status = .confirmed then driver :: speaker.confirmed else speaker.confirmed
    handled := if verdict.status ∈ [AckStatus.confirmed, .retry] then driver :: speaker.handled else speaker.handled }

/-- The verdict is recorded, after the re-mute that it asks for. Without a loader there is none. -/
def settle (told : Commissioning) (pending : PendingStep) (verdict : Verdict) (loader : Option RollbackOutside) :
    Commissioning × Ended :=
  match loader with
  | none => (told.acknowledged pending verdict, .returned)
  | some outside =>
      if !verdict.remutes then (told.acknowledged pending verdict, .returned)
      else
        let (remuted, ended) := told.rolledBack outside
        if ended = .cancelled then (remuted, .cancelled) else (remuted.acknowledged pending verdict, .returned)

/-- The operator's verdict on the pending step. -/
def recordRampOperatorAck (speaker : Commissioning) (outcome : Outcome) (loader : Option RollbackOutside) :
    Commissioning × Ended :=
  match speaker.ramp.pending with
  | none => (speaker, .returned)
  | some pending =>
      match ackSafe speaker.safe outcome pending.playbackId with
      | none => (speaker, .raised)
      | some (stored, seen) =>
          settle { speaker with safe := stored } pending (ackVerdict speaker.ramp.confirmedRoles pending seen outcome) loader

/-- The operator's hard stop. -/
def abortRamp (speaker : Commissioning) (outside : RollbackOutside) : Commissioning × Ended :=
  let (remuted, ended) := speaker.rolledBack outside
  if ended = .cancelled then (remuted, .cancelled)
  else ({ remuted with ramp := .base, safe := stopSafePlaybackSession remuted.safe.load }, .returned)

inductive RemuteStatus
  | alreadyRemuted
  | remuted
  | remuteFailed
  | cancelled
deriving DecidableEq

def remuteSteppedDriver (speaker : Commissioning) (outside : RollbackOutside) : Commissioning × RemuteStatus :=
  if speaker.commission.state.status ≠ .loaded then (speaker, .alreadyRemuted)
  else
    let (remuted, ended) := abortRamp speaker outside
    (remuted, if ended = .cancelled then .cancelled
      else if remuted.commission.state.status = .rolledBack then .remuted else .remuteFailed)

/-- The operator's rollback. Only a proven one clears the pending step. -/
def commissionRollback (speaker : Commissioning) (outside : RollbackOutside) : Commissioning × Ended :=
  let (remuted, ended) := speaker.rolledBack outside
  if ended = .cancelled then (remuted, .cancelled)
  else
    ({ remuted with
        ramp := if remuted.commission.state.status = .rolledBack then clearPendingRampStep remuted.ramp else remuted.ramp
        safe := stopSafePlaybackSession remuted.safe.load }, .returned)

inductive Call
  | arm (group : String) (role : Role) (outside : LoadOutside)
  | step (group : String) (role : Role) (autoRetryPending : Bool) (roleOrderConfirmedRoles : List Role)
      (outside : StepOutside)
  | ack (outcome : Outcome) (loader : Option RollbackOutside)
  | abort (outside : RollbackOutside)
  | remute (outside : RollbackOutside)
  | rollback (outside : RollbackOutside)
  | expire
deriving DecidableEq

/-- One call after the other. A session expires between two of them, or within a step. -/
def act (speaker : Commissioning) : Call → Commissioning
  | .arm group role outside => (armDriver speaker group role outside).1
  | .step group role autoRetryPending roles outside => (rampAudibleStep speaker group role autoRetryPending roles outside).1
  | .ack outcome loader => (recordRampOperatorAck speaker outcome loader).1
  | .abort outside => (abortRamp speaker outside).1
  | .remute outside => (remuteSteppedDriver speaker outside).1
  | .rollback outside => (commissionRollback speaker outside).1
  | .expire => { speaker with safe := { speaker.safe with lapsed := true } }

def Commissioning.initial : Commissioning where
  commission := { running := ⟨none, []⟩, state := ⟨.notLoaded, none⟩, anchorLoads := 0 }
  ramp := .base
  safe := .base
  confirmed := []
  handled := []

abbrev commissioning : Shared.Transition.System Commissioning Call :=
  Shared.Transition.ofAct (fun speaker => speaker = .initial) act

end Jts.ActiveSpeaker
