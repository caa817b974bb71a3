import Jts.Peering.Rank

set_option autoImplicit false

namespace Jts.Peering

open Shared.PythonJson.PyFloat (Double)
open Shared.Floating (binary64)

inductive PeerState
  | idle
  | candidate
  | winner
  | active
  | suppressed
deriving DecidableEq

inductive TimerId
  | arbWindow
  | heartSend
  | heartTimeout
deriving DecidableEq

-- Seconds, of which sums and differences are rounded.
abbrev Time := ℚ

def Time.plus (now seconds : Time) : Time := binary64.nearest (now + seconds)

def Time.since (now earlier : Time) : Time := binary64.nearest (now - earlier)

-- What the caller of the machine is to do.
inductive Action
  | broadcastWake (epoch : String) (report : WakeReport)
  | broadcastClaim (epoch : String)
  | broadcastHeartbeat (epoch : String)
  | broadcastEnd (epoch reason : String)
  | startSession (epoch : String)
  | standDown
  | scheduleTimer (timer : TimerId) (atMonotonic : Time)
  | cancelTimer (timer : TimerId)
deriving DecidableEq

inductive Event
  -- The last is the identifier that is made for the epoch.
  | localWake (score : Double) (snrDb rmsDbfs : Option Double) (canServe : Bool) (now : Time) (fresh : String)
  | peerWake (epoch : String) (report : WakeReport) (now : Time)
  | peerClaim (epoch peerId : String) (now : Time)
  | peerHeartbeat (epoch peerId : String) (now : Time)
  | peerEnd (epoch peerId reason : String) (now : Time)
  | timerFired (timer : TimerId) (now : Time)
  | voiceSessionStarted (epoch : String) (now : Time)
  | voiceSessionEnded (epoch reason : String) (now : Time)
deriving DecidableEq

structure StateMachineParams where
  peerId : String
  primary : Bool
  arbWindowSec : Time
  breakThreshold : Double
  heartbeatIntervalSec : Time
  heartbeatTimeoutSec : Time
deriving DecidableEq

/-- An arbitration, with one report a peer. -/
structure Epoch where
  epoch : String
  reports : List WakeReport
deriving DecidableEq

/-- The epoch outlives a state that has no use for it. -/
structure PeeringStateMachine where
  state : PeerState
  epoch : Option Epoch
  foreignEpoch : Option String
  foreignPeer : Option String
  foreignLastHeartbeat : Time
deriving DecidableEq

def PeeringStateMachine.start : PeeringStateMachine := ⟨.idle, none, none, none, 0⟩

section Reports

def knows (reports : List WakeReport) (peerId : String) : Bool := reports.any (·.peerId = peerId)

/-- The report of a peer takes the place of its last one. -/
def setReport (reports : List WakeReport) (report : WakeReport) : List WakeReport :=
  if knows reports report.peerId then reports.map fun other => if other.peerId = report.peerId then report else other
  else reports ++ [report]

def setDefault (reports : List WakeReport) (report : WakeReport) : List WakeReport :=
  if knows reports report.peerId then reports else reports ++ [report]

end Reports

namespace PeeringStateMachine

variable (params : StateMachineParams) (machine : PeeringStateMachine)

-- The epoch that is arbitrated or held, by its name.
def holds (epoch : String) : Bool := machine.epoch.any (·.epoch = epoch)

def currentEpoch : Option String :=
  match machine.epoch with
  | some epoch => some epoch.epoch
  | none => machine.foreignEpoch

def resetEpoch : PeeringStateMachine := { machine with epoch := none }

def clearForeignSession : PeeringStateMachine :=
  { machine with foreignEpoch := none, foreignPeer := none, foreignLastHeartbeat := 0 }

def suppress (epoch peerId : String) (now : Time) : PeeringStateMachine × List Action :=
  ({ machine with state := .suppressed, foreignEpoch := some epoch, foreignPeer := some peerId, foreignLastHeartbeat := now },
    [.scheduleTimer .heartTimeout (now.plus params.heartbeatTimeoutSec)])

def beginCandidate (score : Double) (snrDb rmsDbfs : Option Double) (canServe : Bool) (now : Time) (fresh : String) :
    PeeringStateMachine × List Action :=
  let own : WakeReport := ⟨params.peerId, .clamp score, snrDb, rmsDbfs, params.primary, canServe⟩
  ({ machine with state := .candidate, epoch := some ⟨fresh, [own]⟩ },
    [.broadcastWake fresh own, .scheduleTimer .arbWindow (now.plus params.arbWindowSec)])

def onLocalWake (score : Double) (snrDb rmsDbfs : Option Double) (canServe : Bool) (now : Time) (fresh : String) :
    PeeringStateMachine × List Action :=
  match machine.state with
  | .suppressed =>
      if score.val.lt params.breakThreshold.val then (machine, [.standDown])
      else beginCandidate params machine.clearForeignSession score snrDb rmsDbfs canServe now fresh
  | .idle => beginCandidate params machine score snrDb rmsDbfs canServe now fresh
  | .candidate | .winner | .active => (machine, [.standDown])

/-- A report for the epoch that is arbitrated, or for a smaller one that takes its place. -/
def Epoch.hear (epoch : Epoch) (heard : String) (report : WakeReport) : Epoch :=
  if heard = epoch.epoch then { epoch with reports := setReport epoch.reports report }
  else if heard < epoch.epoch then ⟨heard, epoch.reports.foldl setDefault [report]⟩
  else epoch

def onPeerWake (epoch : String) (report : WakeReport) (now : Time) : PeeringStateMachine × List Action :=
  match machine.state, machine.epoch with
  | .idle, _ =>
      ({ machine with state := .candidate, epoch := some ⟨epoch, [report]⟩ },
        [.scheduleTimer .arbWindow (now.plus params.arbWindowSec)])
  | .candidate, some held => ({ machine with epoch := some (Epoch.hear held epoch report) }, [])
  | _, _ => (machine, [])

def onPeerClaim (epoch peerId : String) (now : Time) : PeeringStateMachine × List Action :=
  if peerId = params.peerId then (machine, [])
  else
    match machine.state with
    | .active => (machine, [])
    | .winner =>
        if machine.holds epoch then
          let (suppressed, actions) := suppress params machine.resetEpoch epoch peerId now
          (suppressed, .standDown :: .cancelTimer .heartSend :: actions)
        else suppress params machine epoch peerId now
    | .candidate =>
        if machine.holds epoch then
          let (suppressed, actions) := suppress params machine.resetEpoch epoch peerId now
          (suppressed, .standDown :: .cancelTimer .arbWindow :: actions)
        else (machine, [])
    | .idle | .suppressed => suppress params machine epoch peerId now

def onPeerHeartbeat (epoch peerId : String) (now : Time) : PeeringStateMachine × List Action :=
  if machine.state = .suppressed ∧ machine.foreignEpoch = some epoch ∧ machine.foreignPeer = some peerId then
    ({ machine with foreignLastHeartbeat := now }, [.scheduleTimer .heartTimeout (now.plus params.heartbeatTimeoutSec)])
  else (machine, [])

def onPeerEnd (epoch : String) : PeeringStateMachine × List Action :=
  if machine.state = .suppressed ∧ machine.foreignEpoch = some epoch then
    ({ machine.clearForeignSession with state := .idle }, [.cancelTimer .heartTimeout])
  else (machine, [])

def closeArbitration (now : Time) : PeeringStateMachine × List Action :=
  match machine.state, machine.epoch with
  | .candidate, some held =>
      if held.reports = [] then ({ machine.resetEpoch with state := .idle }, [])
      else
        match rank held.reports with
        -- The ranking raises out of the timer, before anything is done.
        | .error _ => (machine, [])
        | .ok winner =>
            if winner = params.peerId then
              ({ machine with state := .winner }, [.broadcastClaim held.epoch, .startSession held.epoch])
            else
              let (suppressed, actions) := suppress params machine.resetEpoch held.epoch winner now
              (suppressed, .standDown :: actions)
  | _, _ => (machine, [])

def sendHeartbeatAndReschedule (now : Time) : PeeringStateMachine × List Action :=
  match machine.state, machine.epoch with
  | .active, some held =>
      (machine, [.broadcastHeartbeat held.epoch, .scheduleTimer .heartSend (now.plus params.heartbeatIntervalSec)])
  | _, _ => (machine, [])

def onHeartbeatTimeout (now : Time) : PeeringStateMachine × List Action :=
  if machine.state = .suppressed ∧ params.heartbeatTimeoutSec ≤ now.since machine.foreignLastHeartbeat then
    ({ machine.clearForeignSession with state := .idle }, [])
  else (machine, [])

def onTimer (timer : TimerId) (now : Time) : PeeringStateMachine × List Action :=
  match timer with
  | .arbWindow => closeArbitration params machine now
  | .heartSend => sendHeartbeatAndReschedule params machine now
  | .heartTimeout => onHeartbeatTimeout params machine now

def onVoiceStarted (epoch : String) (now : Time) : PeeringStateMachine × List Action :=
  if machine.state = .winner ∧ machine.holds epoch then
    sendHeartbeatAndReschedule params { machine with state := .active } now
  else (machine, [])

def onVoiceEnded (epoch reason : String) : PeeringStateMachine × List Action :=
  if machine.state = .active ∧ machine.holds epoch then
    ({ machine.resetEpoch with state := .idle }, [.broadcastEnd epoch reason, .cancelTimer .heartSend])
  else (machine, [])

def handle : Event → PeeringStateMachine × List Action
  | .localWake score snrDb rmsDbfs canServe now fresh => onLocalWake params machine score snrDb rmsDbfs canServe now fresh
  | .peerWake epoch report now => onPeerWake params machine epoch report now
  | .peerClaim epoch peerId now => onPeerClaim params machine epoch peerId now
  | .peerHeartbeat epoch peerId now => onPeerHeartbeat params machine epoch peerId now
  | .peerEnd epoch _ _ _ => onPeerEnd machine epoch
  | .timerFired timer now => onTimer params machine timer now
  | .voiceSessionStarted epoch now => onVoiceStarted params machine epoch now
  | .voiceSessionEnded epoch reason _ => onVoiceEnded machine epoch reason

end PeeringStateMachine

end Jts.Peering
