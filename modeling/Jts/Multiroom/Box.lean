import Jts.Multiroom.Role
import Jts.Shared.Operation

set_option autoImplicit false

namespace Jts.Multiroom

open Shared.Operation

/-- A config that CamillaDSP may be asked to load. -/
inductive Path
  | leaderBake
  | follower
  | bonded
  | soloRestore
  | durableBaseline
  | other (name : String)
deriving DecidableEq, Repr

/-- What a config makes of its box. -/
inductive Graph
  | solo
  | soloActive
  | pipe
  | programBake
  | driverDomain
deriving DecidableEq, Repr

namespace Graph

-- The pipe of a passive leader and the bake of an active one both write the FIFO of snapserver.
def writesPipe : Graph → Bool
  | pipe | programBake => true
  | _ => false

def playsActiveContent : Graph → Bool
  | soloActive | driverDomain => true
  | _ => false

end Graph

/-- An arm, each with the stash of the config that its own took the place of. -/
inductive Arm
  | leader
  | leaderBake
  | follower
deriving DecidableEq, Repr

inductive Derived
  | outputd
  | voice
  | airplay
deriving DecidableEq, Repr

/-- Who reads a derived file, and reads it only as it starts. -/
inductive Consumer
  | outputd
  | voice
  | shairport
  | snap (unit : SnapUnit)
deriving DecidableEq, Repr

def Derived.consumer : Derived → Consumer
  | outputd => .outputd
  | voice => .voice
  | airplay => .shairport

structure Status where
  activeFollower : Bool
  activeLeader : Bool
  blockedReason : String
  bootId : Option ℕ
  requested : GroupingConfig
  localSourcesAllowed : Bool
deriving DecidableEq

/-- Why the role that has landed parks the sources of a box, if it does. A follower is let play only by a decision of the same boot. -/
def effectiveLocalSourcesParkReason (cfg : GroupingConfig) (status : Option Status) (boot : Option ℕ) : Option String :=
  match cfg.localSourcesParkReason, status with
  | none, none => none
  | none, some status =>
      if status.localSourcesAllowed then none
      else if status.requested = cfg && status.blockedReason ≠ "" then some status.blockedReason
      else some "role_transition_in_progress"
  | some reason, none => some reason
  | some reason, some status =>
      if status.requested = cfg && status.bootId.isSome && status.bootId = boot && status.localSourcesAllowed then none else some reason

/-- What a pass has shown so far, in the order in which an arming wants it. -/
structure Proof where
  crossoverOff : Bool
  baked : Bool
  seeded : Bool
  reconciledHardware : Bool
  lockFree : Bool
deriving DecidableEq, Repr

namespace Proof

def unproved : Proof := ⟨false, false, false, false, false⟩

-- A step sets aside what was shown after it.
def bake (proof : Proof) : Proof := ⟨proof.crossoverOff, true, false, false, false⟩

def seed (proof : Proof) : Proof := ⟨proof.crossoverOff, proof.baked, true, false, false⟩

def reconcileHardware (proof : Proof) : Proof := ⟨proof.crossoverOff, proof.baked, proof.seeded, true, false⟩

def freeLock (proof : Proof) : Proof := { proof with lockFree := true }

def Arms (proof : Proof) : Prop :=
  proof.baked = true ∧ proof.seeded = true ∧ proof.reconciledHardware = true ∧ proof.lockFree = true

end Proof

/-- A request to CamillaDSP to load a config, with what was so at that moment. -/
structure Load where
  path : Path
  graph : Option Graph
  crossoverEnabled : Bool
  crossoverActive : Bool
  proof : Proof
deriving DecidableEq, Repr

def Consumer.all : List Consumer := [.outputd, .voice, .shairport, .snap .snapserver, .snap .snapclient]

/-- A status as it was published: over which one, whether its pass had landed, and whether a consumer lagged behind its values. -/
structure Publishing where
  status : Status
  before : Option Status
  landed : Bool
  lagging : Bool

/-- A box between two steps of the reconciler: what is on its disk, what runs, and what has been asked of it. -/
structure Box where
  boot : ℕ
  status : Option Status
  args : Option Env
  files : Derived → Option String
  stash : Arm → Option Path
  graphs : Path → Option Graph
  camilla : Path
  crossoverEnabled : Bool
  crossoverActive : Bool
  running : SnapUnit → Bool
  shairportActive : Bool
  -- Who runs on values that have changed since it started.
  behind : Consumer → Bool
  proof : Proof
  -- The pass has written its files and moved its units.
  landed : Bool
  loads : List Load
  armings : List Proof
  published : List Publishing

/-- Where a pass applies a config, and where it rolls back to another. -/
inductive Site
  | restore
  | bonded
  | bake
  | busyRestore
  | follower
  | rollback (site : Site)
deriving DecidableEq, Repr

inductive Call
  | snapshot
  | ready
  | load
  | confirm
  | undo
deriving DecidableEq, Repr

inductive Publication
  | topologyUnknown
  | restoreBlocked
  | role
  | armBlocked
  | grant
deriving DecidableEq, Repr

/-- Every call of a pass to the outside. -/
inductive Point
  | statusRead
  | bootId (publication : Publication)
  | statusWrite (publication : Publication)
  | provision
  | precheck
  | crossoverIsEnabled
  | crossoverIsActive
  | gateDisable
  | crossoverIsActiveAfter
  | argsWrite
  | derivedRead (file : Derived)
  | derivedWrite (file : Derived)
  | writerLock (site : Site)
  | current (site : Site)
  | stashRead (site : Site)
  | topology (site : Site)
  | provable (site : Site) (path : Path)
  | there (path : Path)
  | apply (site : Site) (call : Call)
  | liveProof (site : Site)
  | stashWrite (site : Site)
  | stashClear (site : Site)
  | restart (consumer : Consumer)
  | planProbe (unit : SnapUnit)
  | planVerb (unit : SnapUnit)
  | snapserverIsActive
  | disableUnwired
  | disableBeforeBake
  | camillaActive
  | seed
  | hardware
  | hardwareRestarts
  | crossoverArmed
  | lock
  | arm
  | streamBinding
  | sourceBusy
  | sourceDrain
  | sourceStart
  | shairportWanted
  -- What a command that failed has left all the same.
  | leftEnabled (command : Point)
  | leftActive (command : Point)
deriving DecidableEq

inductive Answer
  | yes
  | no
  | unknown
  | crash
deriving DecidableEq, Repr

inductive Failure
  | raised
  | crashed
deriving DecidableEq, Repr

abbrev Pass := Attempt Box Unit Failure

section Calls

variable (now : Point → Answer)

def ask (point : Point) : Pass Answer :=
  match now point with
  | .crash => throw .crashed
  | answer => return answer

def succeeds (point : Point) : Pass Bool := do
  let answer ← ask now point
  return answer = .yes

-- The truth, unless it cannot be had.
def probe (point : Point) (truth : Box → Bool) : Pass (Option Bool) := do
  let answer ← ask now point
  let box ← Attempt.read
  return if answer = .unknown then none else some (truth box)

def demand (point : Point) : Pass Unit := do
  if ← succeeds now point then return ()
  else throw .raised

def onlyWhen {α : Type} (needed : Bool) (pass : Pass α) (otherwise : α) : Pass α := if needed then pass else return otherwise

/-- Whether the body ran to its end. An error of it is logged, and the pass goes on. -/
def attempted (body : Pass Unit) : Pass Bool :=
  ExceptT.mk do
    match ← body.run with
    | .ok _ => return .ok true
    | .error .raised => return .ok false
    | .error .crashed => return .error .crashed

def Box.lagging (box : Box) : Bool := Consumer.all.any box.behind

def Box.publish (box : Box) (status : Status) : Box :=
  { box with status := some status, published := ⟨status, box.status, box.landed, box.lagging⟩ :: box.published }

def writeFollowerStatus (publication : Publication) (activeFollower activeLeader : Bool) (blockedReason : String)
    (requestedCfg : GroupingConfig) (localSourcesAllowed : Bool) : Pass Bool := do
  let known ← succeeds now (.bootId publication)
  let box ← Attempt.read
  let grantFresh := !localSourcesAllowed || known
  if ← succeeds now (.statusWrite publication) then
    Attempt.change (·.publish {
      activeFollower := activeFollower
      activeLeader := activeLeader
      blockedReason := blockedReason
      bootId := if known then some box.boot else none
      requested := requestedCfg
      localSourcesAllowed := localSourcesAllowed && grantFresh })
    return grantFresh
  else return false

def body (env : Env) : String := String.join (env.map fun entry => entry.1 ++ "=" ++ entry.2 ++ "\n")

def Box.outdate (box : Box) (consumer : Consumer) : Box :=
  { box with behind := fun other => if other = consumer then true else box.behind other }

def Box.refresh (box : Box) (consumer : Consumer) : Box :=
  { box with behind := fun other => if other = consumer then false else box.behind other }

def Box.runs (box : Box) : Consumer → Bool
  | .shairport => box.shairportActive
  | .snap unit => box.running unit
  | .outputd | .voice => true

def Box.derive (box : Box) (file : Derived) (text : String) : Box :=
  let written := { box with files := fun other => if other = file then some text else box.files other }
  if box.files file = some text || !box.runs file.consumer then written else written.outdate file.consumer

/-- Whether a derived file had to change, and whether it holds its text now. -/
structure Written where
  changed : Bool
  ok : Bool

def writeDerivedEnv (file : Derived) (env : Env) : Pass Written := do
  let readable ← succeeds now (.derivedRead file)
  let box ← Attempt.read
  let old := if readable then box.files file else none
  if old = some (body env) || (old.isNone && body env = "") then return ⟨false, true⟩
  else if ← succeeds now (.derivedWrite file) then
    Attempt.change (·.derive file (body env))
    return ⟨true, true⟩
  else return ⟨true, false⟩

def SnapUnit.key : SnapUnit → String
  | .snapserver => "JASPER_SNAPSERVER_ARGS"
  | .snapclient => "JASPER_SNAPCLIENT_ARGS"

def Box.rearg (box : Box) (args : Env) (unit : SnapUnit) : Box :=
  if (box.args.getD []).lookup unit.key = args.lookup unit.key || !box.running unit then box else box.outdate (.snap unit)

def writeArgsFile (args : Env) : Pass Bool := do
  if ← succeeds now .argsWrite then
    Attempt.change fun box => { (box.rearg args .snapserver).rearg args .snapclient with args := some args }
    return true
  else return false

def restartUnit (consumer : Consumer) : Pass Bool := do
  if ← succeeds now (.restart consumer) then
    Attempt.change (·.refresh consumer)
    return true
  else return false

def UnitIntent.wants (intent : UnitIntent) : Bool := intent.desired = .start

-- A start of a unit that runs already changes nothing.
def Box.manage (box : Box) (intent : UnitIntent) : Box :=
  if box.running intent.unit = intent.wants then box
  else
    let settled := box.refresh (.snap intent.unit)
    { settled with running := fun other => if other = intent.unit then intent.wants else box.running other }

def planChangesUnits : List UnitIntent → Pass Bool
  | [] => return false
  | intent :: intents => do
    let state ← probe now (.planProbe intent.unit) fun box => box.running intent.unit
    if state = some intent.wants then planChangesUnits intents
    else return true

/-- The exit code of the unit plan. A unit that is absent is passed over. -/
def applyPlan : List UnitIntent → Pass ℕ
  | [] => return 0
  | intent :: intents => do
    let answer ← ask now (.planVerb intent.unit)
    onlyWhen (answer = .yes) (Attempt.change (·.manage intent)) ()
    let rest ← applyPlan intents
    return if answer = .no then 1 else rest

def Box.turnOff (box : Box) : Box :=
  { box with crossoverEnabled := false, crossoverActive := false, proof := { box.proof with crossoverOff := true } }

def disableCrossoverUnit (command : Point) : Pass Bool := do
  if ← succeeds now command then
    Attempt.change Box.turnOff
    return true
  else
    let enabled ← succeeds now (.leftEnabled command)
    let active ← succeeds now (.leftActive command)
    Attempt.change fun box =>
      { box with crossoverEnabled := box.crossoverEnabled && enabled, crossoverActive := box.crossoverActive && active }
    return false

def Box.prove (box : Box) (step : Proof → Proof) : Box := { box with proof := step box.proof }

def Box.beginArming (box : Box) : Box :=
  { box with armings := box.proof :: box.armings, proof := { box.proof with crossoverOff := false } }

def armCrossoverUnit : Pass Bool := do
  Attempt.change Box.beginArming
  if ← succeeds now .arm then
    Attempt.change fun box => { box with crossoverEnabled := true, crossoverActive := true }
    return true
  else
    let enabled ← succeeds now (.leftEnabled .arm)
    let active ← succeeds now (.leftActive .arm)
    Attempt.change fun box =>
      { box with crossoverEnabled := box.crossoverEnabled || enabled, crossoverActive := box.crossoverActive || active }
    return false

end Calls

end Jts.Multiroom
