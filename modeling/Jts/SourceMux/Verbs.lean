import Jts.SourceMux.State

set_option autoImplicit false

namespace Jts.SourceMux

open Shared (Coroutine)
open Shared.Coroutine (ask wait when modify)

abbrev Task := Coroutine Point Answer World

def getMux : Task Mux := Coroutine.act id fun world => .done world.mux

def change (effect : Mux → Mux) : Task Unit := modify fun world => { world with mux := effect world.mux }

def log (event : Event) : Task Unit := modify fun world => { world with history := event :: world.history }

section Rules

open Shared.Coroutine (Agreement Safe)

variable {agreed : Agreement Point Answer World} {task : ℕ} {β : Type} {post : β → World → World → Prop} {start world : World}

theorem getMuxThen {next : Mux → Task β} (here : Safe agreed task (next world.mux) post start world) :
    Safe agreed task (getMux >>= next) post start world := here

theorem changeThen {effect : Mux → Mux} {next : Unit → Task β}
    (here : Safe agreed task (next ()) post start { world with mux := effect world.mux }) :
    Safe agreed task (change effect >>= next) post start world := here

theorem logThen {event : Event} {next : Unit → Task β}
    (here : Safe agreed task (next ()) post start { world with history := event :: world.history }) :
    Safe agreed task (log event >>= next) post start world := here

end Rules

variable (me : ℕ)

section Locks

/-- A free lock is taken without an await. -/
def acquireTransition (holder : Holder) : Task Unit := do
  let mux ← getMux
  when mux.transitionLock.isSome (wait (.transitionLock holder))
  change fun mux => { mux with transitionLock := some me }

def releaseTransition : Task Unit := change fun mux => { mux with transitionLock := none }

def acquireObservation : Task Unit := do
  let mux ← getMux
  when mux.observationLock.isSome (wait .observationLock)
  change fun mux => { mux with observationLock := some me }

def releaseObservation : Task Unit := change fun mux => { mux with observationLock := none }

end Locks

section Fanin

/-- What a command does to the mute of the USB lane. -/
def Command.land : Command → Mux → Mux
  | .mute label muted, mux => if label = usbsinkFaninLabel then { mux with usbLaneMuted := muted } else mux
  | _, mux => mux

/-- A command may not go out, not be carried out, or be carried out and its answer lost. -/
def faninCommand (command : Command) (reason : Reason) : Task Bool := do
  let connected ← ask (.connect command reason)
  if connected.ok then
    let mux ← getMux
    log (.sent command reason mux.now)
    let carried ← ask (.landing command reason)
    when carried.ok (change command.land)
    let answer ← ask (.answer command reason)
    let ok := carried.ok && answer.ok
    when (!ok) (log (.commandFailed me))
    return ok
  else
    log (.commandFailed me)
    return false

def faninSelectLabel (label : String) (reason : Reason) : Task Bool := do
  change fun mux => { mux with faninNoneAsserted := false }
  faninCommand me (.select label) reason

def faninSelect (source : Source) (reason : Reason) : Task Bool := faninSelectLabel me (sourceToFaninLabel source) reason

def faninNone (reason : Reason) : Task Bool := do
  let ok ← faninCommand me .none reason
  when ok (change fun mux => { mux with faninNoneAsserted := true })
  return ok

def faninLaneMute (label : String) (muted : Bool) (reason : Reason) : Task Bool := faninCommand me (.mute label muted) reason

def faninNoneBestEffort (reason : Reason) : Task Unit := do
  let _ ← faninNone me reason

end Fanin

section Usbsink

def usbsinkSetPreempt (silenced : Bool) (reason : Reason) : Task Unit := do
  let mux ← getMux
  when (mux.usbsinkPreempted != silenced) do
    let ok ← faninLaneMute me usbsinkFaninLabel silenced reason
    when ok (change fun mux => { mux with usbsinkPreempted := silenced })

def reassertUsbsinkPreemptMute : Task Unit := do
  let mux ← getMux
  when mux.usbsinkPreempted do
    let _ ← faninLaneMute me usbsinkFaninLabel true .preemptReassert

def pauseSource (source : Source) (reason : Reason) : Task Unit :=
  match source with
  | .usbsink => usbsinkSetPreempt me true reason
  | .airplay => pure ()
  | source => wait (.pause source)

def pauseOthers (current : Playing) (target : Source) : List Source → Task Unit
  | [] => pure ()
  | source :: sources => do
      when (source ≠ target && source ≠ .airplay && current source) (pauseSource me source .preemptedByWinner)
      pauseOthers current target sources

end Usbsink

section Observation

def observeSources (byTick : Bool) : Task (Playing × List Source) := do
  acquireObservation me
  let probed ← ask (.probe byTick)
  let mux ← getMux
  let seen := mux.recordSourceObservation probed.playing
  change fun _ => seen.1
  releaseObservation
  return (probed.playing, seen.2)

end Observation

section Handoff

def Mux.commitAutoWinner (source : Source) (mux : Mux) : Mux := { mux with winner := some source, pendingAutoTarget := none }

def Mux.commitManualSelection (source : Source) (mux : Mux) : Mux :=
  { mux.commitAutoWinner source with manualSource := some source }

def Mux.commitAutoSelection (source : Source) (mux : Mux) : Mux := { mux.commitAutoWinner source with manualSource := none }

/-- The lane and its owner move as one. -/
def moveGate (source : Source) (reason : Reason) (commitSelection : Mux → Mux) : Task Bool := do
  let selected ← faninSelect me source reason
  if selected then
    wait (.finalize source reason)
    change commitSelection
    return true
  else
    wait .abort
    return false

/-- A handoff, and whether it selected the source; none where an error gets out. -/
def transitionToSource (previous : Option Source) (source : Source) (reason : Reason) (commitSelection : Mux → Mux) :
    Task (Option Bool) := do
  let handoff ← ask (.prepare previous source)
  if handoff.raises then
    return none
  else
    let selected ← if handoff.ok then moveGate me source reason commitSelection else pure false
    wait .publish
    return some selected

def releaseAirplay (target : Source) : Task Unit := when (target ≠ .airplay) (wait .airplaySession)

end Handoff

section TestGate

def restoreNormalFaninGate (reason : Reason) : Task Bool := do
  let mux ← getMux
  match mux.manualSource, mux.winner with
  | some source, _ => faninSelect me source reason
  | none, some winner => if mux.playing winner then faninSelect me winner reason else faninNone me reason
  | none, none => faninNone me reason

def rollBackTestSelect : Task Unit := do
  let restored ← restoreNormalFaninGate me .testSelectRollback
  when restored (change fun mux => { mux with testFanin := none })

/-- The claim comes before the command, which may land although its answer is lost. -/
def claimTestFanin (label owner : String) (alreadyOwned : Bool) : Task Unit := do
  let mux ← getMux
  let expiresAt := mux.now + faninTestLeaseSec
  change fun mux => { mux with testFanin := some ⟨label, owner, expiresAt⟩ }
  let ok ← faninSelectLabel me label .testSelect
  if ok then
    log (.testSelected owner expiresAt)
  else
    when (!alreadyOwned) (rollBackTestSelect me)

def Mux.ownedBy (mux : Mux) (owner : String) : Bool := mux.testFanin.any (·.owner = owner)

def selectTestFaninLabel (label owner : String) : Task Unit :=
  when (label ∈ faninTestLabels && owner ≠ "") do
    acquireTransition me .testSelect
    let mux ← getMux
    when (mux.testFanin.isNone || mux.ownedBy owner) (claimTestFanin me label owner (mux.ownedBy owner))
    releaseTransition

def restoreTestFanin (requested : Option String) : Task Unit := do
  let before ← getMux
  let restored ← restoreNormalFaninGate me (.testRelease requested)
  if restored then
    change fun mux => { mux with testFanin := none }
  else
    let after ← getMux
    log (.releaseFailed before.testFanin after.testFanin)

/-- A release that its owner asks for, or that an expired lease does. -/
def releaseTestFaninLabel (owner : String) (requested : Option String) : Task Unit :=
  when (owner ≠ "") do
    acquireTransition me (.testRelease requested)
    let mux ← getMux
    when (mux.testFanin.isNone || mux.ownedBy owner) (restoreTestFanin me requested)
    releaseTransition

def requestTestRelease (owner : String) : Task Unit := do
  log (.releaseRequested owner)
  releaseTestFaninLabel me owner (some owner)

def reassertTestFaninLabel : Task Unit := do
  acquireTransition me .reassertTest
  let mux ← getMux
  match mux.testFanin with
  | none => releaseTransition
  | some gate =>
      let _ ← faninSelectLabel me gate.label .testTick
      releaseTransition

end TestGate

section Tick

def reassertManualSource : Task Unit := do
  acquireTransition me .reassertManual
  let mux ← getMux
  match mux.manualSource with
  | none => releaseTransition
  | some source =>
      let _ ← faninSelect me source .manualTick
      usbsinkSetPreempt me false .manualMode
      change (Mux.commitAutoWinner source)
      releaseTransition

def reassertAutoWinner (current : Playing) : Task Unit := do
  acquireTransition me .reassertAuto
  let mux ← getMux
  match mux.manualSource, mux.winner.filter current with
  | none, some winner =>
      let _ ← faninSelect me winner .autoTick
      releaseTransition
  | _, _ => releaseTransition

/-- The target of a tick and why; the state drops a pending target that is out of date. -/
def Mux.decide (current : Playing) (newlyStarted : List Source) (mux : Mux) : Mux × Option Source × Reason :=
  let dropped := { mux with pendingAutoTarget := none }
  let retry := mux.pendingAutoTarget.any fun pending => current pending && mux.winner ≠ some pending
  match newlyStarted.getLast? with
  | some source => (dropped, some source, .autoNewSource)
  | none =>
      if retry then (mux, mux.pendingAutoTarget, .autoRetry)
      else
        match mux.winner with
        | some winner => (dropped, if current winner then none else mux.pickWinner current, .autoWinnerStopped)
        | none => (dropped, mux.pickWinner current, .autoStartupActive)

def failedHandoff (target : Source) (reason : Reason) : Task Unit := do
  change fun mux => { mux with pendingAutoTarget := some target }
  let mux ← getMux
  when mux.winner.isNone (faninNoneBestEffort me reason)

def moveToTarget (target : Source) (reason : Reason) : Task Bool := do
  when (target = .usbsink) (usbsinkSetPreempt me false .newTransition)
  let mux ← getMux
  let selected ← transitionToSource me mux.winner target reason (Mux.commitAutoWinner target)
  match selected with
  | some true =>
      releaseAirplay target
      return true
  | some false =>
      log (.handoffFailed me)
      failedHandoff me target .handoffPrepareFailed
      return false
  | none =>
      log (.handoffFailed me)
      return false

/-- The handoff of a tick, and whether the tick goes on: not where a manual selection has come first, or it failed. -/
def tickHandoff (target : Source) (reason : Reason) : Task Bool := do
  acquireTransition me .tickHandoff
  let mux ← getMux
  if mux.manualSource.isSome then
    releaseTransition
    return false
  else
    let moved ← moveToTarget me target reason
    releaseTransition
    return moved

def releasePreemptIfAlone (current : Playing) (reason : Reason) : Task Unit := do
  let mux ← getMux
  when (mux.usbsinkPreempted && !othersPlaying current) (usbsinkSetPreempt me false reason)

def tickTail (current : Playing) : Task Unit := do
  releasePreemptIfAlone me current .allOthersIdle
  reassertUsbsinkPreemptMute me

def afterHandoff (current : Playing) (target : Source) : Task Unit := do
  pauseOthers me current target musicSources
  tickTail me current

def idleTick : Task Unit := do
  change fun mux => { mux with winner := none, pendingAutoTarget := none }
  let mux ← getMux
  when (!mux.faninNoneAsserted) (faninNoneBestEffort me .autoIdle)

def steadyTick (current : Playing) : Task Unit := do
  let mux ← getMux
  if mux.winner.any current then reassertAutoWinner me current else idleTick me

def autoTick (current : Playing) (newlyStarted : List Source) : Task Unit := do
  let mux ← getMux
  let decided := mux.decide current newlyStarted
  change fun _ => decided.1
  match decided.2.1 with
  | none =>
      steadyTick me current
      tickTail me current
  | some target =>
      if mux.winner = some target then
        tickTail me current
      else
        let moved ← tickHandoff me target decided.2.2
        when moved (afterHandoff me current target)

def expireLease : Task Unit := do
  let mux ← getMux
  match mux.testFanin with
  | none => pure ()
  | some gate => when (gate.expiresAt ≤ mux.now) (releaseTestFaninLabel me gate.owner none)

def reconcile (current : Playing) (newlyStarted : List Source) : Task Unit := do
  let mux ← getMux
  if mux.testFanin.isSome then reassertTestFaninLabel me
  else if mux.manualSource.isSome then reassertManualSource me
  else autoTick me current newlyStarted

def tick : Task Unit := do
  wait .turn
  change fun mux => { mux with ticking := some me }
  let observed ← observeSources me true
  expireLease me
  reconcile me observed.1 observed.2
  let mux ← getMux
  log (.tickEnded me mux)
  change fun mux => { mux with ticking := none }

end Tick

section Control

def manualHandoff (source : Source) : Task Bool := do
  change fun mux => { mux with pendingAutoTarget := none }
  let mux ← getMux
  let selected ← transitionToSource me (mux.winner <|> mux.manualSource) source .manual (Mux.commitManualSelection source)
  match selected with
  | some true =>
      usbsinkSetPreempt me false .manualSelect
      return true
  | some false =>
      let mux ← getMux
      when mux.winner.isNone (faninNoneBestEffort me .manualHandoffFailed)
      return true
  | none => return false

def selectSource (source : Source) : Task Unit := do
  acquireTransition me .select
  let mux ← getMux
  if mux.testFanin.isSome then
    releaseTransition
  else
    let answered ← manualHandoff me source
    releaseTransition
    when answered do
      let _ ← observeSources me false

def returnToAuto (target : Source) : Task Bool := do
  let mux ← getMux
  let selected ← transitionToSource me (mux.winner <|> mux.manualSource) target .autoSelect (Mux.commitAutoSelection target)
  match selected with
  | some true =>
      when (target = .usbsink) (usbsinkSetPreempt me false .autoSelect)
      releaseAirplay target
      return true
  | some false =>
      failedHandoff me target .autoSelectHandoffFailed
      return false
  | none => return false

def returnToIdle : Task Bool := do
  change fun mux => { mux with winner := none, manualSource := none, pendingAutoTarget := none }
  faninNone me .autoSelect

def autoHandoff (current : Playing) (target : Option Source) : Task Unit := do
  acquireTransition me .auto
  let mux ← getMux
  if mux.testFanin.isSome then
    releaseTransition
  else
    let moved ← match target with
      | some target => returnToAuto me target
      | none => returnToIdle me
    releaseTransition
    when moved do
      target.forM fun target => pauseOthers me current target musicSources
      releasePreemptIfAlone me current .manualAutoOthersIdle

def autoSelect : Task Unit := do
  let mux ← getMux
  when mux.testFanin.isNone do
    let observed ← observeSources me false
    let mux ← getMux
    autoHandoff me observed.1 (mux.pickWinner observed.1)

def preempt : Task Unit := do
  acquireTransition me .preempt
  wait .airplaySession
  releaseTransition

end Control

inductive Verb
  | tick
  | select (source : Source)
  | auto
  | preempt
  | testSelect (label owner : String)
  | testRelease (owner : String)
deriving DecidableEq

def task : Verb → ℕ → Task Unit
  | .tick, me => tick me
  | .select source, me => selectSource me source
  | .auto, me => autoSelect me
  | .preempt, me => preempt me
  | .testSelect label owner, me => selectTestFaninLabel me label owner
  | .testRelease owner, me => requestTestRelease me owner

inductive Outside
  | pass (seconds : ℕ)
  | faninRestarts
deriving DecidableEq

-- Fan-in comes up with no lane muted.
def Outside.happens : Outside → World → World
  | .pass seconds, world => { world with mux := { world.mux with now := world.mux.now + seconds } }
  | .faninRestarts, world => { world with mux := { world.mux with usbLaneMuted := false } }

def ready (_task : ℕ) (point : Point) (_answer : Answer) (world : World) : Bool :=
  match point with
  | .turn => world.mux.ticking.isNone
  | .transitionLock _ => world.mux.transitionLock.isNone
  | .observationLock => world.mux.observationLock.isNone
  | _ => true

def setting : Shared.Pool.Setting Verb Point Answer World Outside := ⟨task, ready, Outside.happens⟩

def Starts (world : World) : Prop := ∃ manual now, world = ⟨Mux.initial manual now, []⟩

end Jts.SourceMux
