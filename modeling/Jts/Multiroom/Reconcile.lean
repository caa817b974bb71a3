import Jts.Multiroom.Box

set_option autoImplicit false

namespace Jts.Multiroom

open Shared.Operation

section Configs

variable (now : Point → Answer)

def currentPath (point : Point) : Pass (Option Path) := do
  let known ← succeeds now point
  let box ← Attempt.read
  return if known then some box.camilla else none

def Box.request (box : Box) (path : Path) : Box :=
  { box with loads := ⟨path, box.graphs path, box.crossoverEnabled, box.crossoverActive, box.proof⟩ :: box.loads }

-- A load whose reply is lost has been done all the same.
def setConfigFilePath (point : Point) (path : Path) : Pass Bool := do
  Attempt.change (·.request path)
  let answer ← ask now point
  if answer = .no then return false
  else
    Attempt.change fun box => { box with camilla := path }
    return answer = .yes

/-- An apply, with what it asks of CamillaDSP: the load, and, where that is not confirmed, the load of the prior config. -/
def applyDspConfig (site : Site) (candidate : Path) : Pass Unit := do
  let prior ← currentPath now (.apply site .snapshot)
  demand now (.apply site .ready)
  let loaded ← setConfigFilePath now (.apply site .load) candidate
  let active ← onlyWhen loaded (currentPath now (.apply site .confirm)) none
  if loaded && (active.isNone || active = some candidate) then return ()
  else
    match prior with
    | none => throw .raised
    | some path =>
        let _ ← setConfigFilePath now (.apply site .undo) path
        throw .raised

def readStash (site : Site) (arm : Arm) : Pass (Option Path) := do
  let readable ← succeeds now (.stashRead site)
  let box ← Attempt.read
  return if readable then box.stash arm else none

def writeStash (site : Site) (arm : Arm) (path : Path) : Pass Unit := do
  demand now (.stashWrite site)
  Attempt.change fun box => { box with stash := fun other => if other = arm then some path else box.stash other }

def clearStash (site : Site) (arm : Arm) : Pass Unit := do
  demand now (.stashClear site)
  Attempt.change fun box => { box with stash := fun other => if other = arm then none else box.stash other }

/-- The live proof of a config that has been loaded. One that fails rolls back, another error does not. -/
def proveLive (site : Site) (current : Option Path) (own : Path) : Pass Unit := do
  let answer ← ask now (.liveProof site)
  if answer = .yes then return ()
  else
    match current with
    | some path =>
        if answer = .no && path ≠ own then applyDspConfig now (.rollback site) path
        throw .raised
    | none => throw .raised

/-- The swap of camilla#1 to a config of its endpoint, which stashes the one before it. -/
def applyEndpoint (site : Site) (own : Path) (arm : Arm) : Pass Unit := do
  demand now (.writerLock site)
  let current ← currentPath now (.current site)
  applyDspConfig now site own
  proveLive now site current own
  match current with
  | some path => if path ≠ own then writeStash now site arm path
  | none => return ()

def applyPrebuiltFollowerConfig : Pass Unit := applyEndpoint now .follower .follower .follower

def applyActiveLeaderBake : Pass Unit := applyEndpoint now .bake .leaderBake .leaderBake

/-- The first of the configs that is on the disk and can be proven again. -/
def firstProvable (site : Site) (own : Path) : List Path → Pass (Option Path)
  | [] => return none
  | path :: paths => do
    let there ← onlyWhen (path ≠ own) (succeeds now (.there path)) false
    let provable ← onlyWhen there (succeeds now (.provable site path)) false
    if provable then return some path
    else firstProvable site own paths

def restoreActiveCamillaSolo (site : Site) (own : Path) (arm : Arm) : Pass Unit := do
  demand now (.writerLock site)
  let current ← currentPath now (.current site)
  let stash ← readStash now site arm
  if stash.isNone && current ≠ some own then return ()
  else if !(← succeeds now (.topology site)) then return ()
  else
    match ← firstProvable now site own (stash.toList ++ [.durableBaseline]) with
    | none => clearStash now site arm
    | some candidate => do
        applyDspConfig now site candidate
        proveLive now site current candidate
        clearStash now site arm

def restoreActiveFollowerSolo : Pass Unit := restoreActiveCamillaSolo now .restore .follower .follower

def restoreActiveLeaderSolo (site : Site) : Pass Unit := restoreActiveCamillaSolo now site .leaderBake .leaderBake

def Box.emit (box : Box) (path : Path) (graph : Graph) : Box :=
  { box with graphs := fun other => if other = path then some graph else box.graphs other }

def Box.isPipeConfig (box : Box) (path : Path) : Bool := (box.graphs path).any Graph.writesPipe

inductive RestoreAction
  | none
  | stash
  | reEmit
deriving DecidableEq, Repr

def restoreAction (stashed stashUsable bondedActive : Bool) : RestoreAction :=
  if !stashed && !bondedActive then .none
  else if stashed && stashUsable then .stash
  else .reEmit

def restoreSoloConfig : Pass Unit := do
  let stash ← readStash now .restore .leader
  let current ← currentPath now (.current .restore)
  let box ← Attempt.read
  let there ← stash.elim (return false) fun path => succeeds now (.there path)
  let usable := there && stash.any fun path => !box.isPipeConfig path
  match restoreAction stash.isSome usable (current = some .bonded), stash with
  | .none, _ => return ()
  | .stash, some path =>
      applyDspConfig now .restore path
      clearStash now .restore .leader
  | _, _ =>
      Attempt.change (·.emit .soloRestore .solo)
      applyDspConfig now .restore .soloRestore
      clearStash now .restore .leader

/-- The carrier refuses to make a pipe of a graph that protects its drivers. -/
def applyBondedLeaderConfig : Pass Unit := do
  let current ← currentPath now (.current .bonded)
  let box ← Attempt.read
  if (current.bind box.graphs).any Graph.playsActiveContent then throw .raised
  else
    Attempt.change (·.emit .bonded .pipe)
    applyDspConfig now .bonded .bonded
    let after ← Attempt.read
    match current with
    | some path => if path ≠ .bonded && !after.isPipeConfig path then writeStash now .bonded .leader path
    | none => return ()

end Configs

/-- A decision on the way through the gates, with the reason for which it was refused and the exit code so far. -/
structure Gate where
  role : RoleDecision
  reason : String
  rc : ℕ

section Reconcile

variable (now : Point → Answer) (refusal : String)

def refusePeriod (role : RoleDecision) : Gate :=
  if role.active && role.lane.reason = laneRefusedPeriod then ⟨role.withFallback, laneRefusedPeriod, 1⟩ else ⟨role, "", 0⟩

def provision (gate : Gate) : Pass Gate := do
  if gate.role.active then
    if ← succeeds now .provision then return gate
    else return { gate with rc := 1 }
  else return gate

def Box.precheck (box : Box) (role : RoleDecision) : Box :=
  if role.activeSpeakerLeader then box.emit .leaderBake .programBake else box.emit .follower .driverDomain

def precheck (gate : Gate) : Pass Gate := do
  if gate.role.activeEndpoint then
    if ← succeeds now .precheck then
      Attempt.change (·.precheck gate.role)
      return gate
    else return ⟨gate.role.withFallback, refusal, 1⟩
  else return gate

def gateBond (role : RoleDecision) : Pass Gate := do
  let gate ← provision now (refusePeriod role)
  precheck now refusal gate

def RoleDecision.landsSoloActive (role : RoleDecision) : Bool := role.boxIsActive && !role.activeLeader && !role.activeFollower

/-- Whether camilla#2 had the DAC before this pass. Where that is in doubt the pass ends, with the reason. -/
def proveOwnership (role : RoleDecision) : Pass (Except String Bool) := do
  if role.landsSoloActive then
    let enabled ← probe now .crossoverIsEnabled (·.crossoverEnabled)
    let active ← probe now .crossoverIsActive (·.crossoverActive)
    match enabled, active with
    | some false, some false =>
        Attempt.change (·.prove fun proof => { proof with crossoverOff := true })
        return .ok false
    | some _, some _ =>
        if ← disableCrossoverUnit now .gateDisable then
          let after ← probe now .crossoverIsActiveAfter (·.crossoverActive)
          if after = some false then return .ok true
          else return .error "crossover_inactive_state_unproven"
        else return .error "crossover_teardown_failed"
    | _, _ => return .error "crossover_ownership_state_unknown"
  else return .ok false

def restoreSolo (role : RoleDecision) (owned : Bool) : Pass Bool :=
  if role.activeLeader || role.activeFollower then return true
  else if role.boxIsActive && owned then attempted (restoreActiveLeaderSolo now .restore)
  else if role.boxIsActive then attempted (restoreActiveFollowerSolo now)
  else attempted (restoreSoloConfig now)

/-- How the bond of a leader came out. -/
structure Bonded where
  ok : Bool
  armBlocked : Bool
  reason : String

/-- Whether the bake counts as done, and whether nothing has failed. An error that is raised after the bake leaves it counted. -/
structure Baked where
  counts : Bool
  clean : Bool

def bakeSeedReconcile : Pass Baked := do
  if ← attempted (applyActiveLeaderBake now) then
    Attempt.change (·.prove Proof.bake)
    if ← succeeds now .seed then
      Attempt.change (·.prove Proof.seed)
      let answer ← ask now .hardware
      let restarts ← succeeds now .hardwareRestarts
      onlyWhen restarts (Attempt.change (·.refresh .outputd)) ()
      if answer = .yes then
        Attempt.change (·.prove Proof.reconcileHardware)
        return ⟨true, true⟩
      else return ⟨answer = .unknown, false⟩
    else return ⟨true, false⟩
  else return ⟨false, false⟩

def armWhenReleased (role : RoleDecision) : Pass Bonded := do
  let armed ← probe now .crossoverArmed (·.crossoverActive)
  if armed = some true then return ⟨true, false, ""⟩
  else
    let lock ← ask now .lock
    if lock = .yes then
      Attempt.change (·.prove Proof.freeLock)
      return ⟨← armCrossoverUnit now, false, ""⟩
    else
      let reason := if lock = .no then "active_content_pcm_busy" else "active_content_pcm_unverified"
      let _ ← attempted (restoreActiveLeaderSolo now .busyRestore)
      let _ ← writeFollowerStatus now .armBlocked false false reason role.requestedCfg role.localSourcesAllowed
      return ⟨false, true, reason⟩

def bondActiveLeader (role : RoleDecision) : Pass Bonded := do
  let wired ← probe now .snapserverIsActive fun box => box.running .snapserver
  if wired = some true then
    if !(← disableCrossoverUnit now .disableBeforeBake) then return ⟨false, false, ""⟩
    else if !(← succeeds now .camillaActive) then return ⟨false, false, ""⟩
    else
      let baked ← bakeSeedReconcile now
      if baked.counts then
        let bonded ← armWhenReleased now role
        return { bonded with ok := bonded.ok && baked.clean }
      else return ⟨false, false, ""⟩
  else
    let _ ← disableCrossoverUnit now .disableUnwired
    return ⟨false, false, ""⟩

def bondLeader (role : RoleDecision) : Pass Bonded := do
  if role.passiveLeader then return ⟨← attempted (applyBondedLeaderConfig now), false, ""⟩
  else if role.activeSpeakerLeader then bondActiveLeader now role
  else return ⟨true, false, ""⟩

/-- What the grant of the sources waits for. -/
structure Landing where
  wrote : Bool
  envOk : Bool
  soloRestoreOk : Bool
  outputdRestartOk : Bool
  voiceOk : Bool
  voiceRefreshOk : Bool
  airplayOk : Bool
  airplayRefreshOk : Bool
  applyRc : ℕ

def Landing.landed (landing : Landing) : Bool :=
  landing.wrote && landing.envOk && landing.soloRestoreOk && landing.outputdRestartOk && landing.voiceOk && landing.voiceRefreshOk &&
    landing.airplayOk && landing.airplayRefreshOk && landing.applyRc = 0

-- Everything of it but the args file flips the exit code.
def Landing.rc (landing : Landing) : ℕ :=
  if landing.envOk && landing.soloRestoreOk && landing.outputdRestartOk && landing.voiceOk && landing.voiceRefreshOk &&
    landing.airplayOk && landing.airplayRefreshOk then landing.applyRc else 1

def land (role : RoleDecision) (owned : Bool) : Pass (Landing × Bool) := do
  let wrote ← writeArgsFile now (assembleArgs role.cfg role.activeEndpoint)
  let outputd ← writeDerivedEnv now .outputd
    (outputdGroupingEnv role.cfg role.activeEndpoint role.flatOutputAllowed role.outputdPeriodFrames)
  let soloRestoreOk ← restoreSolo now role owned
  let outputdRestartOk ← onlyWhen (outputd.changed && outputd.ok && !role.activeSpeakerLeader) (restartUnit now .outputd) true
  let voice ← writeDerivedEnv now .voice (voiceGroupingEnv role.cfg role.activeEndpoint role.flatOutputAllowed)
  let voiceRefreshOk ← onlyWhen (voice.changed && voice.ok) (restartUnit now .voice) true
  let airplay ← writeDerivedEnv now .airplay (airplayGroupingEnv role.cfg)
  let unitsChanged ← planChangesUnits now role.plan
  let applyRc ← applyPlan now role.plan
  let airplayRefreshOk ← onlyWhen (airplay.changed && airplay.ok && !role.cfg.localSourcesParked) (restartUnit now .shairport) true
  let landing : Landing := {
    wrote := wrote
    envOk := outputd.ok
    soloRestoreOk := soloRestoreOk
    outputdRestartOk := outputdRestartOk
    voiceOk := voice.ok
    voiceRefreshOk := voiceRefreshOk
    airplayOk := airplay.ok
    airplayRefreshOk := airplayRefreshOk
    applyRc := applyRc }
  return (landing, unitsChanged)

-- The source owner parks shairport, or runs it as the household wants.
def Box.converge (box : Box) (cfg : GroupingConfig) (wanted : Bool) : Box :=
  let runs := wanted && (effectiveLocalSourcesParkReason cfg box.status (some box.boot)).isNone
  if runs = box.shairportActive then box else { box.refresh .shairport with shairportActive := runs }

def startSources (cfg : GroupingConfig) : Pass Bool := do
  if ← succeeds now .sourceStart then
    let wanted ← succeeds now .shairportWanted
    Attempt.change (·.converge cfg wanted)
    return true
  else return false

def convergeSourcesAfterRole (cfg : GroupingConfig) (groupingActive unitsChanged : Bool) : Pass Bool := do
  if !groupingActive && !unitsChanged then return true
  else
    let busy ← ask now .sourceBusy
    let drained ← onlyWhen (busy ≠ .no) (succeeds now .sourceDrain) true
    if drained then startSources now cfg
    else return false

def grantSources (request : Request) (role : RoleDecision) (landing : Landing) (reason : String) (rc : ℕ) : Pass ℕ := do
  if role.refusedFollowerFallback || role.transitioningFromParkedRole then
    if landing.landed && (role.refusedFollowerFallback || rc = 0) then
      if ← writeFollowerStatus now .grant false (role.transitioningFromParkedRole && role.activeSpeakerLeader)
          (if role.refusedFollowerFallback then reason else "") request.cfg true then return rc
      else return 1
    else return rc
  else return rc

def Box.land (box : Box) : Box := { box with landed := true }

/-- The numbered steps of a pass, past its gates. -/
def transition (request : Request) (gate : Gate) (owned : Bool) : Pass ℕ := do
  let role := gate.role
  let landed ← land now role owned
  Attempt.change Box.land
  let bonded ← bondLeader now role
  let pinned ← onlyWhen (role.activeLeader && !bonded.armBlocked) (succeeds now .streamBinding) true
  let followed ← onlyWhen role.activeFollower (attempted (applyPrebuiltFollowerConfig now)) true
  let rc := if bonded.ok && pinned && followed then max gate.rc landed.1.rc else 1
  let granted ← grantSources now request role landed.1 (if bonded.armBlocked then bonded.reason else gate.reason) rc
  if ← convergeSourcesAfterRole now request.cfg role.active landed.2 then return granted
  else return 1

def preserveRuntime (request : Request) (role : RoleDecision) : Pass ℕ := do
  let _ ← writeFollowerStatus now .topologyUnknown false false "active_speaker_topology_unknown" request.cfg role.localSourcesAllowed
  let outputd ← writeDerivedEnv now .outputd (outputdGroupingEnv role.cfg false false none)
  let _ ← onlyWhen (outputd.changed && outputd.ok) (restartUnit now .outputd) true
  let voice ← writeDerivedEnv now .voice (voiceGroupingEnv role.cfg false false)
  let _ ← onlyWhen (voice.changed && voice.ok) (restartUnit now .voice) true
  return 1

def publishRole (request : Request) (gate : Gate) : Pass Bool :=
  let reason := if gate.role.transitioningFromParkedRole && gate.reason = "" then "role_transition_in_progress" else gate.reason
  writeFollowerStatus now .role gate.role.activeFollower gate.role.activeSpeakerLeader reason request.cfg gate.role.localSourcesAllowed

def Box.begin (box : Box) : Box := { box with proof := .unproved, landed := false }

/-- One pass of the reconciler, with its exit code. -/
def main (request : Request) : Pass ℕ := do
  Attempt.change Box.begin
  let readable ← succeeds now .statusRead
  let box ← Attempt.read
  let prior := if readable then box.status else none
  let role := decideRole request (prior.map (·.localSourcesAllowed))
  if request.activeBoxState.isNone then preserveRuntime now request role
  else
    let gate ← gateBond now refusal role
    match ← proveOwnership now gate.role with
    | .error reason =>
        let _ ← writeFollowerStatus now .restoreBlocked false false reason request.cfg gate.role.localSourcesAllowed
        return 1
    | .ok owned =>
        if ← publishRole now request gate then transition now request gate owned
        else return 1

end Reconcile

end Jts.Multiroom
