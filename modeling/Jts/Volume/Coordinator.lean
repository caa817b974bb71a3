import Jts.Shared.Transition
import Jts.Volume.Handoff

set_option autoImplicit false

namespace Jts.Volume

open Shared.Operation (Op Ends ask read change run)
open Shared.Transition (System ofFn)

variable (floor : Floor)

def clampPercent (percent : Int) : Nat := (max 0 (min 100 percent)).toNat

def dispatch (level : Nat) : VolumeOp Unit := do
  let source := (← read).winner
  if volumeMode source = .push then
    let _ ← pushOrGuard floor source level
  else
    let _ ← setCamilla floor level

/-- The tail of the verbs: final mute first when the intent mutes, then the carrier of the active source. -/
def publishThenDispatch (level : Nat) (restoreLevel : Option Nat) : VolumeOp Unit := do
  if restoreLevel.isSome || mainMuteForLevel level then
    let _ ← writeMainMute true
  dispatch floor level

def Speaker.unmuted (speaker : Speaker) (level : Nat) : Speaker :=
  { speaker with listeningLevel := level, preMuteLevel := none, muteToken := none }

-- A measurement that holds the fader refuses a level, not a mute.
def setListeningLevel (percent : Int) (measuring : Bool) : VolumeOp Unit := do
  if measuring then
    return
  let target := clampPercent percent
  change fun speaker => speaker.unmuted target
  publishThenDispatch floor target none

def adjustListeningLevel (delta : Int) (measuring : Bool) : VolumeOp Unit := do
  if measuring then
    return
  let target := clampPercent ((← read).listeningLevel + delta)
  change fun speaker => speaker.unmuted target
  publishThenDispatch floor target none

def Speaker.muted (speaker : Speaker) : Speaker :=
  if speaker.preMuteLevel.isNone ∧ 0 < speaker.listeningLevel then
    { speaker with
      preMuteLevel := some speaker.listeningLevel
      muteToken := some speaker.tokensGiven
      tokensGiven := speaker.tokensGiven + 1 }
  else speaker

def mute : VolumeOp Unit := do
  change Speaker.muted
  let saved := (← read).preMuteLevel.getD 0
  publishThenDispatch floor 0 (some saved)

def unmute (fallbackLevel : Int) (measuring : Bool) : VolumeOp Unit := do
  if measuring then
    return
  let target := match (← read).preMuteLevel with
    | some level => clampPercent level
    | none => clampPercent fallbackLevel
  change fun speaker => speaker.unmuted target
  publishThenDispatch floor target none

def converged (expectedDb : Db) (expectedMute : Bool) (current : Option (Db × Bool)) : Bool :=
  match current with
  | none => false
  | some (db, mute) => |expectedDb - db| ≤ reconcileDriftDb && mute == expectedMute

def syncObservedCarrier (source : Source) (level : Nat) : VolumeOp Unit := do
  if volumeMode source = .camillaMaster then
    let current ← readVolumeAndMute
    if !converged (percentToDb floor level) (mainMuteForLevel level) current then
      let _ ← setCamilla floor level
  else
    let _ ← confirmPushModeCarrierWithMutation floor source level true

-- An observation that is taken in vouches for a push-mode source.
def Speaker.vouched (speaker : Speaker) (source : Source) : Speaker :=
  { speaker with doubtful := fun other => if other = source then false else speaker.doubtful other }

def Speaker.confirmedToken (speaker : Speaker) (source : Source) (token : Option Nat) : Speaker :=
  { speaker with
    confirmedPushMuteTokens := fun other => if other = source then token else speaker.confirmedPushMuteTokens other }

/-- A reading of the active source, past the gates that decline it outright: the zero of a latched mute confirms it, and
nothing else passes a latch that is not confirmed or an echo window. The windows are clocks of the outside. -/
def takeObservation (speaker : Speaker) (source : Source) (level : Nat) (ownEcho recentWrite : Bool) : VolumeOp Bool := do
  let latched := speaker.preMuteLevel.isSome && volumeMode source == .push
  if latched && level == 0 then
    change fun speaker => (speaker.confirmedToken source speaker.muteToken).vouched source
    let _ ← confirmPushModeCarrierWithMutation floor source 0 true
    return true
  else if latched && speaker.confirmedPushMuteTokens source != speaker.muteToken then
    return false
  else if ownEcho || recentWrite then
    return false
  else if level == speaker.listeningLevel && speaker.preMuteLevel.isNone then
    change fun speaker => speaker.vouched source
    syncObservedCarrier floor source level
    return true
  else
    change fun speaker => ((speaker.unmuted level).confirmedToken source none).vouched source
    syncObservedCarrier floor source level
    return true

def observeSourceVolume (source : Source) (level : Nat) (initial ownEcho recentWrite measuring : Bool) :
    VolumeOp Bool := do
  let speaker ← read
  if speaker.winner ≠ source then
    return false
  else if 0 < level && measuring then
    return false
  else if initial && speaker.preMuteLevel.isSome && volumeMode source == .camillaMaster then
    return false
  else if speaker.preMuteLevel.isNone then
    change fun speaker => speaker.confirmedToken source none
    takeObservation floor speaker source level ownEcho recentWrite
  else
    takeObservation floor speaker source level ownEcho recentWrite

def regressAfterSec : Int := 1800

def regressPercent (percent : Nat) (ageSec : Int) : Nat :=
  if ageSec < regressAfterSec then percent
  else if percent < 20 then 20
  else if 70 < percent then 70
  else percent

/-- The level of a boot. A measurement that may hold the fader defers the write. -/
def initialise (ageSec : Int) (held : Bool) : VolumeOp Unit := do
  let speaker ← read
  let target := regressPercent speaker.listeningLevel ageSec
  if held then
    if volumeMode speaker.winner = .camillaMaster then
      saveNow (percentToDb floor target)
  else if volumeMode speaker.winner = .camillaMaster then
    let _ ← setCamilla floor target
  else
    -- No guard here: the dispatch below guards when its push fails.
    let _ ← setCamillaDb floor (canonicalTargetDb floor target .push none)
    dispatch floor target
  change fun speaker => speaker.unmuted target

-- Fan-in's answer to SELECT. Without a reply the mux takes the lane for unmoved.
def selectLane (handoff : SourceHandoff) : VolumeOp Unit := do
  let reply ← await
  change fun speaker => { speaker with
    exposed := if reply = .refused then speaker.exposed else some handoff.currentSource
    handoff := some { prepared := handoff, phase := if reply = .done then .selected else .unselected } }

def Speaker.settled (speaker : Speaker) (winner : Source) : Speaker := { speaker with winner := winner, handoff := none }

/-- What happens next at the speaker. The mux prepares, selects, and finalizes or aborts under one volume lease; the
others wait for it. It also drops to idle and selects its winner's lane again. -/
inductive Action
  | setListeningLevel (percent : Int) (measuring : Bool)
  | adjustListeningLevel (delta : Int) (measuring : Bool)
  | mute
  | unmute (fallbackLevel : Int) (measuring : Bool)
  | observe (source : Source) (level : Nat) (initial ownEcho recentWrite measuring : Bool)
  | transition (prevSource currentSource : Source) (voiceSession muxDelivered : Bool)
  | initialise (ageSec : Int) (held : Bool)
  | prepare (target : Source)
  | select
  | finalize
  | abort
  | idle
  | reassert
deriving DecidableEq

def Action.perform : Action → VolumeOp Unit
  | .setListeningLevel percent measuring => Volume.setListeningLevel floor percent measuring
  | .adjustListeningLevel delta measuring => Volume.adjustListeningLevel floor delta measuring
  | .mute => Volume.mute floor
  | .unmute fallbackLevel measuring => Volume.unmute floor fallbackLevel measuring
  | .observe source level initial ownEcho recentWrite measuring => do
      let _ ← observeSourceVolume floor source level initial ownEcho recentWrite measuring
  | .transition prevSource currentSource voiceSession muxDelivered =>
      applyTransition floor prevSource currentSource voiceSession muxDelivered
  | .initialise ageSec held => Volume.initialise floor ageSec held
  | .prepare target => do
      let handoff ← prepareSourceHandoff floor (← read).winner target
      if handoff.ok then
        change fun speaker => { speaker with handoff := some { prepared := handoff, phase := .prepared } }
  | .select => do
      match (← read).handoff with
      | some handoff => selectLane handoff.prepared
      | none => return
  | .finalize => do
      match (← read).handoff with
      | some handoff =>
          let _ ← finalizeSourceHandoff floor handoff.prepared
          change fun speaker => speaker.settled handoff.prepared.currentSource
      | none => return
  | .abort => do
      match (← read).handoff with
      | some handoff =>
          let _ ← abortSourceHandoff floor handoff.prepared
          change fun speaker => speaker.settled speaker.winner
      | none => return
  | .idle => do
      let reply ← await
      change fun speaker => { speaker with
        winner := .idle
        exposed := if reply = .refused then speaker.exposed else none }
  | .reassert => do
      let reply ← await
      change fun speaker => { speaker with
        exposed := if reply = .refused ∨ speaker.winner = .idle then speaker.exposed else some speaker.winner }

def Action.enabled (action : Action) (speaker : Speaker) : Bool :=
  match action with
  | .select => speaker.handoff.map Handoff.phase == some .prepared
  | .finalize => speaker.handoff.map Handoff.phase == some .selected
  | .abort => speaker.handoff.map Handoff.phase == some .unselected
  | _ => speaker.handoff.isNone

/-- An action and what the outside answers to it. -/
structure Move where
  action : Action
  answers : List Reply
deriving DecidableEq

def step (speaker : Speaker) (move : Move) : Option Speaker :=
  if move.action.enabled speaker then some (run (move.action.perform floor) speaker (move.answers.map .plain)) else none

/-- Before the first operation no push has failed, and fan-in exposes no push-mode lane but the winner's. -/
structure Speaker.Fresh (speaker : Speaker) : Prop where
  free : speaker.handoff = none
  proven : ∀ source, speaker.doubtful source = false
  lane : volumeMode speaker.winner = .push → speaker.exposed = none ∨ speaker.exposed = some speaker.winner
  still : speaker.raised = false

def speakerSystem : System Speaker Move := ofFn Speaker.Fresh (step floor)

end Jts.Volume
