import Jts.ActiveSpeaker.Commission

set_option autoImplicit false

namespace Jts.ActiveSpeaker

/-- The identity that the quiet-start gate compares. -/
structure PlaybackTarget where
  group : String
  role : Role
  outputIndex : Option Nat
deriving DecidableEq

inductive Outcome
  | heardCorrectDriver
  | heardWrongDriver
  | tooLoud
  | silent
  | unsupported
deriving DecidableEq

inductive FloorStatus
  | floorRequired
  | floorPendingOperator
  | floorConfirmed
deriving DecidableEq

structure OperatorResult where
  outcome : Outcome
  target : Option PlaybackTarget
deriving DecidableEq

structure QuietStart where
  status : FloorStatus
  currentTarget : Option PlaybackTarget
  pendingPlaybackId : Option Nat
  lastOperatorResult : Option OperatorResult
deriving DecidableEq

def QuietStart.base : QuietStart where
  status := .floorRequired
  currentTarget := none
  pendingPlaybackId := none
  lastOperatorResult := none

inductive SafeStatus
  | idle
  | armed
  | blocked
  | expired
  | stopped
deriving DecidableEq

inductive SafeIssue
  | environmentNotReady
  | safeSessionNotArmed
  | floorPlaybackMissing
  | playbackIdMismatch
  | floorPlaybackTargetMissing
  | floorConfirmationNotPending
deriving DecidableEq

/-- The persisted session. Its lease lapses while nobody writes. -/
structure SafeSession where
  status : SafeStatus
  session : Bool
  lapsed : Bool
  quietStart : QuietStart
  issues : List SafeIssue
deriving DecidableEq

def SafeSession.base : SafeSession where
  status := .idle
  session := false
  lapsed := false
  quietStart := .base
  issues := []

-- Expiry is derived by the reader.
def SafeSession.load (safe : SafeSession) : SafeSession :=
  if safe.status = .armed ∧ safe.lapsed then { safe with status := .expired, quietStart := .base } else safe

def armSafePlaybackSession (ready : Bool) : SafeSession :=
  if ready then { SafeSession.base with status := .armed, session := true }
  else { SafeSession.base with status := .blocked, issues := [.environmentNotReady] }

def stopSafePlaybackSession (safe : SafeSession) : SafeSession :=
  { SafeSession.base with status := if safe.session then .stopped else .idle, session := safe.session }

def floorAudioConfirmedForTarget (safe : SafeSession) (target : PlaybackTarget) : Bool :=
  safe.status == .armed && safe.quietStart.status == .floorConfirmed && safe.quietStart.currentTarget == some target

def QuietStart.retryAllowed (quiet : QuietStart) (target : PlaybackTarget) : Bool :=
  match quiet.lastOperatorResult with
  | none => false
  | some result => result.outcome == .silent && quiet.currentTarget == some target && result.target == some target

def floorAudioRetryAllowedForTarget (safe : SafeSession) (target : PlaybackTarget) : Bool :=
  safe.status == .armed && safe.quietStart.retryAllowed target

def levelAtFloor (level : Level) : Bool := level ≤ minTestLevelDbfs + epsilon

def QuietStart.pending (quiet : QuietStart) (playbackId : Nat) : QuietStart :=
  { quiet with status := .floorPendingOperator, pendingPlaybackId := some playbackId, lastOperatorResult := none }

def QuietStart.retarget (quiet : QuietStart) (target : PlaybackTarget) : QuietStart :=
  if quiet.currentTarget = some target then quiet else { QuietStart.base with currentTarget := some target }

/-- The quiet start after a tone that was completed and heard. -/
def quietStartAfterResult (prior : QuietStart) (target : PlaybackTarget) (level : Level) (playbackId : Nat) : QuietStart :=
  let quiet := prior.retarget target
  if quiet.status = .floorPendingOperator then quiet.pending playbackId
  else if levelAtFloor level then quiet.pending playbackId
  else if quiet.retryAllowed target then quiet.pending playbackId
  else if quiet.status = .floorConfirmed then quiet
  else { quiet with status := .floorRequired }

def recordSafePlaybackResult (safe : SafeSession) (target : PlaybackTarget) (level : Level) (playbackId : Nat) :
    SafeSession :=
  let prior := safe.load
  { prior with quietStart := quietStartAfterResult prior.quietStart target level playbackId }

def operatorIssues (safe : SafeSession) (playbackId : Nat) : List SafeIssue :=
  let quiet := safe.quietStart
  (if safe.status ≠ .armed then [.safeSessionNotArmed] else []) ++
    (if quiet.pendingPlaybackId = none then [.floorPlaybackMissing] else []) ++
    (if quiet.pendingPlaybackId ≠ some playbackId then [.playbackIdMismatch] else []) ++
    (if quiet.currentTarget = none then [.floorPlaybackTargetMissing] else []) ++
    (if quiet.status ≠ .floorPendingOperator then [.floorConfirmationNotPending] else [])

/-- The operator's verdict. A rejected one is remembered all the same. -/
def recordFloorAudioOperatorResult (safe : SafeSession) (outcome : Outcome) (playbackId : Nat) : SafeSession :=
  let prior := safe.load
  let issues := operatorIssues prior playbackId
  let quiet := { prior.quietStart with lastOperatorResult := some ⟨outcome, prior.quietStart.currentTarget⟩ }
  if issues ≠ [] then { prior with quietStart := quiet, issues := issues }
  else
    let status := if outcome = .heardCorrectDriver then FloorStatus.floorConfirmed else .floorRequired
    { prior with quietStart := { quiet with status := status, pendingPlaybackId := none }, issues := [] }

end Jts.ActiveSpeaker
