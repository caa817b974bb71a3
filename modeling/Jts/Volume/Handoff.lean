import Jts.Volume.Carrier

set_option autoImplicit false

namespace Jts.Volume

open Shared.Operation (Op Ends ask read change)

variable (floor : Floor)

def effectiveLevel : VolumeOp Nat := do
  return (← read).effectivePercent

def guardCamillaAfterPushFailure (level : Nat) : VolumeOp Bool := setCamillaDb floor (percentToDb floor level)

def clearConfirmedPushGuard (source : Source) : VolumeOp Bool := do
  if volumeMode source ≠ .push then
    return false
  let previousDb := (← read).mainVolumeDb
  let current ← readVolumeAndMute
  let volumeGuardActive := guardInEffect (some previousDb) || guardInEffect (current.map Prod.fst)
  let muteGuardActive := current.map Prod.snd = some true
  if !volumeGuardActive && !muteGuardActive then
    return false
  setCamillaDb floor 0

/-- Whether the carrier is consistent, and whether a write made it so. -/
def confirmPushModeCarrierWithMutation (source : Source) (level : Nat) (includeLiveGuard : Bool) :
    VolumeOp (Bool × Bool) := do
  if volumeMode source ≠ .push then
    return (false, false)
  if mainMuteForLevel level then
    let ok ← setCamillaDb floor (percentToDb floor 0)
    return (ok, ok)
  let current ← readVolumeAndMute
  let previousDb := (← read).mainVolumeDb
  let needsClear := current.map Prod.snd = some true || (includeLiveGuard && guardInEffect (current.map Prod.fst)) ||
    guardInEffect (some previousDb)
  if !needsClear then
    return (true, false)
  let cleared ← clearConfirmedPushGuard floor source
  return (cleared, cleared)

def confirmPushModeCarrier (source : Source) (level : Nat) : VolumeOp Bool := do
  let (ok, _) ← confirmPushModeCarrierWithMutation floor source level false
  return ok

def pushOrGuard (source : Source) (level : Nat) : VolumeOp (Option Bool) := do
  if ← pushSource source level then
    return some (← confirmPushModeCarrier floor source level)
  else
    let _ ← guardCamillaAfterPushFailure floor level
    return none

-- The level is read again after each wait for Camilla's ramp, three lowerings at most.
def settleHandoffGuard : Nat → Db → VolumeOp (Nat × Bool)
  | 0, guardDb => do
      let _ ← await
      let latestLevel ← effectiveLevel
      return (latestLevel, guardDb - reconcileDriftDb ≤ percentToDb floor latestLevel)
  | adjustments + 1, guardDb => do
      let _ ← await
      let latestLevel ← effectiveLevel
      let latestGuardDb := percentToDb floor latestLevel
      if guardDb - reconcileDriftDb ≤ latestGuardDb then
        return (latestLevel, true)
      if ← setCamillaDb floor latestGuardDb then settleHandoffGuard adjustments latestGuardDb
      else return (latestLevel, false)

-- An unread fader needs the guard; so does one above the dead band, or a mute flag that drifted.
def needsGuard (level : Nat) (guardDb : Db) (before : Option (Db × Bool)) : Bool :=
  match before with
  | none => true
  | some (db, mute) => decide (guardDb + reconcileDriftDb < db) || mute != mainMuteForLevel level

-- A guarded handoff: the guard, then the wait for it.
def guardHandoff (handoff : SourceHandoff) (guardDb : Db) (settledResult : HandoffResult) : VolumeOp SourceHandoff := do
  if ← setCamillaDb floor guardDb then
    let (level, ok) ← settleHandoffGuard floor 3 guardDb
    return { handoff with level := level, result := if ok then settledResult else .failed }
  else return { handoff with result := .failed }

def prepareMaster (handoff : SourceHandoff) (before : Option (Db × Bool)) : VolumeOp SourceHandoff := do
  let guardDb := percentToDb floor handoff.level
  if needsGuard handoff.level guardDb before then guardHandoff floor handoff guardDb .ok
  else
    let latestLevel ← effectiveLevel
    let latestGuardDb := percentToDb floor latestLevel
    if latestGuardDb < guardDb - reconcileDriftDb then
      guardHandoff floor { handoff with level := latestLevel } latestGuardDb .ok
    else return handoff

-- A level that moved under the push is pushed once more. The result is the level that was pushed last.
def pushLatest (source : Source) (level : Nat) : VolumeOp (Nat × Bool) := do
  if ← pushSource source level then
    let latestLevel ← effectiveLevel
    if latestLevel = level then return (level, true)
    else return (latestLevel, ← pushSource source latestLevel)
  else return (level, false)

def preparePush (handoff : SourceHandoff) : VolumeOp SourceHandoff := do
  let (level, pushOk) ← pushLatest handoff.currentSource handoff.level
  let handoff := { handoff with level := level, pushOk := some pushOk }
  if pushOk then return handoff else guardHandoff floor handoff (percentToDb floor level) .degradedSafe

def prepareSourceHandoff (prevSource currentSource : Source) : VolumeOp SourceHandoff := do
  let level ← effectiveLevel
  let before ← readVolumeAndMute
  let handoff : SourceHandoff := { prevSource, currentSource, level, pushOk := none, result := .ok }
  if prevSource = currentSource then return { handoff with result := .noop }
  else if volumeMode currentSource = .camillaMaster then prepareMaster floor handoff before
  else preparePush floor handoff

def finalizeSourceHandoff (handoff : SourceHandoff) : VolumeOp Bool := do
  if !handoff.ok then
    return false
  if volumeMode handoff.currentSource = .push then
    if handoff.pushOk = some true then
      let _ ← await
      let latestLevel ← effectiveLevel
      if latestLevel ≠ handoff.level then
        if latestLevel < handoff.level then
          if !(← setCamillaDb floor (percentToDb floor latestLevel)) then
            return false
        if !(← pushSource handoff.currentSource latestLevel) then
          return ← setCamillaDb floor (percentToDb floor latestLevel)
        let _ ← await
      confirmPushModeCarrier floor handoff.currentSource latestLevel
    else return true
  else
    setCamilla floor (← effectiveLevel)

def abortSourceHandoff (handoff : SourceHandoff) : VolumeOp Bool := do
  if !handoff.ok then
    return true
  let level ← effectiveLevel
  if volumeMode handoff.prevSource = .push then confirmPushModeCarrier floor handoff.prevSource level
  else setCamilla floor level

/-- The observer's source change. A voice session defers it, a source that is no longer the active one drops it, and a
handoff of the mux that already carried the level is left alone. -/
def applyTransition (prevSource currentSource : Source) (voiceSession muxDelivered : Bool) : VolumeOp Unit := do
  if voiceSession || prevSource = currentSource then
    return
  let speaker ← read
  if speaker.winner ≠ currentSource || muxDelivered then
    return
  let level ← effectiveLevel
  if volumeMode currentSource = .push then
    let _ ← pushOrGuard floor currentSource level
  else if volumeMode prevSource = .push then
    let _ ← setCamilla floor level

end Jts.Volume
