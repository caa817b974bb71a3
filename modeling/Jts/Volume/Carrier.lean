import Jts.Shared.Operation
import Jts.Volume.Curve

set_option autoImplicit false

namespace Jts.Volume

open Shared.Operation (Op Ends ask read change)

/-- How a call to the outside goes: it takes effect and says so, it takes effect and the reply is lost, or nothing
happens. -/
inductive Reply
  | done
  | lost
  | refused
deriving DecidableEq

/-- The level and the mute latch that another process leaves in the record. -/
structure Edit where
  listeningLevel : Nat
  preMuteLevel : Option Nat
deriving DecidableEq

/-- An await: how the call goes, and an edit of the record that lands meanwhile. -/
structure Answer where
  reply : Reply
  edit : Option Edit
deriving DecidableEq

def Answer.plain (reply : Reply) : Answer where
  reply := reply
  edit := none

instance : Inhabited Answer := ⟨.plain .refused⟩

inductive HandoffResult
  | ok
  | degradedSafe
  | noop
  | failed
deriving DecidableEq

structure SourceHandoff where
  prevSource : Source
  currentSource : Source
  level : Nat
  pushOk : Option Bool
  result : HandoffResult
deriving DecidableEq

def SourceHandoff.ok (handoff : SourceHandoff) : Bool := handoff.result != .failed

-- Where the mux stands in a handoff whose preparation it took: before SELECT, or after one that went well or did not.
inductive Phase
  | prepared
  | selected
  | unselected
deriving DecidableEq

structure Handoff where
  prepared : SourceHandoff
  phase : Phase
deriving DecidableEq

/-- A push that went well: the level that it gave, and the one that was effective as it was made. -/
structure Push where
  level : Nat
  effective : Nat
deriving DecidableEq

/-- The speaker between two awaits: the persisted record, Camilla, the lane that fan-in exposes, the mux's winner and the
handoff that holds the volume lease. The last fields only record what happened: the sources whose last push failed and
that no push or observation has vouched for since, the last push to each that went well, whether the last write failed and left the gain above what it
declared, whether a write raised it above the level while such a source was exposed, and how many levels were written. -/
structure Speaker where
  listeningLevel : Nat
  preMuteLevel : Option Nat
  muteToken : Option Nat
  tokensGiven : Nat
  confirmedPushMuteTokens : Source → Option Nat
  mainVolumeDb : Db
  gain : Db
  mainMute : Bool
  winner : Source
  exposed : Option Source
  handoff : Option Handoff
  doubtful : Source → Bool
  pushed : Source → Option Push
  unlowered : Bool
  raised : Bool
  written : Nat

def Speaker.effectivePercent (speaker : Speaker) : Nat :=
  if speaker.preMuteLevel.isSome then 0 else speaker.listeningLevel

def Speaker.exposesDoubtful (speaker : Speaker) : Bool :=
  match speaker.exposed with
  | none => false
  | some source => volumeMode source == .push && speaker.doubtful source

abbrev VolumeOp := Op Speaker Answer

def Speaker.edited (speaker : Speaker) : Option Edit → Speaker
  | none => speaker
  | some edit => { speaker with listeningLevel := edit.listeningLevel, preMuteLevel := edit.preMuteLevel }

def await : VolumeOp Reply := do
  let answer ← ask
  change fun speaker => speaker.edited answer.edit
  return answer.reply

/-- `get_volume_and_mute` and `get_volume_db`, which may find Camilla unavailable. -/
def readVolumeAndMute : VolumeOp (Option (Db × Bool)) := do
  let reply ← await
  let speaker ← read
  return if reply = .done then some (speaker.gain, speaker.mainMute) else none

def writeMainMute (muted : Bool) : VolumeOp Bool := do
  let reply ← await
  if reply ≠ .refused then
    change fun speaker => { speaker with mainMute := muted }
  return reply = .done

def faderMatches (observed : Option Db) (expected : Db) : Bool :=
  match observed with
  | none => false
  | some observed => |observed - expected| ≤ readbackToleranceDb

variable (floor : Floor)

def Speaker.landed (speaker : Speaker) (db : Db) : Speaker :=
  { speaker with
    gain := min db volumeCeilingDb
    raised := speaker.raised ||
      (speaker.exposesDoubtful && decide (percentToDb floor speaker.effectivePercent < min db volumeCeilingDb)) }

def setVolumeDb (db : Db) : VolumeOp Bool := do
  let reply ← await
  if reply ≠ .refused then
    change fun speaker => speaker.landed floor db
  return reply = .done

def Speaker.declared (speaker : Speaker) (db : Db) (confirmed : Bool) : Speaker :=
  { speaker with unlowered := !confirmed && decide (db + readbackToleranceDb < speaker.gain) }

/-- The fader is read first and written only when it is off the level; a write counts when a fresh reading agrees. No
claim outranks the household's. -/
def declareHouseholdLevelDb (db : Db) : VolumeOp Bool := do
  let before ← readVolumeAndMute
  if faderMatches (before.map Prod.fst) db then
    change fun speaker => speaker.declared db true
    return true
  let applied ← setVolumeDb floor db
  if applied then
    let observed ← readVolumeAndMute
    let confirmed := faderMatches (observed.map Prod.fst) db
    change fun speaker => speaker.declared db confirmed
    return confirmed
  else
    change fun speaker => speaker.declared db false
    return false

def writeDbWithMute (db : Db) : VolumeOp Bool := do
  change fun speaker => { speaker with written := speaker.written + 1 }
  if mainMuteForDb floor db then
    let muteOk ← writeMainMute true
    let _ ← declareHouseholdLevelDb floor db
    return muteOk
  else
    let volumeOk ← declareHouseholdLevelDb floor db
    if volumeOk then writeMainMute false else return false

-- The stored dB is kept unrounded: only `guard_in_effect` reads it.
def saveNow (db : Db) : VolumeOp Unit := change fun speaker => { speaker with mainVolumeDb := db }

def setCamillaDb (db : Db) : VolumeOp Bool := do
  let ok ← writeDbWithMute floor db
  if ok then saveNow db
  return ok

def setCamilla (level : Nat) : VolumeOp Bool := do
  let ok ← writeDbWithMute floor (percentToDb floor level)
  saveNow (percentToDb floor level)
  return ok

-- The source's own slider, as far as the push is known to have moved it.
def pushSource (source : Source) (level : Nat) : VolumeOp Bool := do
  if volumeMode source = .camillaMaster then
    return false
  let effective := (← read).effectivePercent
  let reply ← await
  change fun speaker => { speaker with
    doubtful := fun other => if other = source then reply ≠ .done else speaker.doubtful other
    pushed := fun other => if other = source ∧ reply = .done then some ⟨level, effective⟩ else speaker.pushed other }
  return reply = .done

end Jts.Volume
