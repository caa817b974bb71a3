import Jts.ActiveSpeaker.ProgramAdmission
import Jts.Shared.Extremum

set_option autoImplicit false

namespace Jts.ActiveSpeaker

open Shared Excitation

/-- A physical driver output, as the topology names it. -/
structure PhysicalTarget where
  targetId : String
  role : String
  outputVariant : Option String
  outputIndex : ℕ
  fingerprint : Fingerprint

structure SplitSource (K : Type) where
  channel : ℕ
  gain : K
  inverted : Bool
  mute : Bool

-- One mapping of a split mixer of the graph.
structure SplitEntry (K : Type) where
  dest : ℕ
  mute : Bool
  sources : Option (List (SplitSource K))

/-- A tuning graph, with what the proof of it and the reading of it answer. -/
structure TuningGraph (K : Type) [Field K] [LinearOrder K] where
  approved : List String → Bool
  split : List (SplitEntry K)
  outputTerminallyMuted : ℕ → String → Bool
  protectionRequirementPresent : ℕ → List ℕ → ProtectionRequirement K → Bool
  bassOutputChannels : List ℕ
  -- The reserve of the bass extension, zero without one.
  bassBoostDb : K
  reserves : 0 ≤ bassBoostDb

-- The bass boost plays in full at every volume.
def TuningGraph.boostDb {K : Type} [Field K] [LinearOrder K] (graph : TuningGraph K) (outputIndex : ℕ) : K :=
  if outputIndex ∈ graph.bassOutputChannels then graph.bassBoostDb else 0

/-- How the summed door ends before its facts are taken. -/
inductive Stop
  | raised (message : String)
  | refused (reason : ProgramAdmissionRefusal) (mutedOutput : Option (String × ℕ))

def measurementTargetId (role outputVariant : String) : String :=
  if outputVariant = "primary" then role else role ++ ":" ++ outputVariant

def terminalMuteNames (outputIndex : ℕ) : List String :=
  ["as_out" ++ toString outputIndex ++ "_rear_pending_mute", "as_out" ++ toString outputIndex ++ "_commission_mute"]

section SummedDoor

variable {K : Type} [Field K] [LinearOrder K] (meter : Meter K) (profile : SafetyProfile K) (physical : List PhysicalTarget)
  (graph : TuningGraph K) (roleTargets : List (String × Fingerprint)) (sessionVolumeDb : K) (program : ExcitationProgram K)
  (wav : Wav)

def physicalTarget (fingerprint : Fingerprint) : Option PhysicalTarget := physical.find? (·.fingerprint = fingerprint)

def terminallyMuted (outputIndex : ℕ) : Bool :=
  (terminalMuteNames outputIndex).any (graph.outputTerminallyMuted outputIndex)

def summedTakeParks (outputIndex : ℕ) : Bool :=
  match graph.split.filter (·.dest = outputIndex) with
  | [entry] => !entry.mute && entry.sources.getD [] matches [] && terminallyMuted graph outputIndex
  | _ => false

def summedSchedule : Except Stop Unit :=
  if program.isBranchProgram then .ok ()
  else if program.phase ≠ .verify ∨ program.channels ≠ 1 ∨ program.stimulusSegments = [] ∨
      program.stimulusSegments.any (fun segment => segment.channel ≠ some 0 ||
        (segment.kind ≠ .pilot && segment.kind ≠ .summedSweep) || (segment.role.isSome && segment.role ≠ some "summed")) then
    .error (.raised "summed admission requires a mono VERIFY program")
  else .ok ()

-- The map of roles covers each physical target, under the identity that its role and variant give.
def summedTargets : Except Stop Unit :=
  let admitted := (roleTargets.filterMap fun (targetId, fingerprint) =>
    (physicalTarget physical fingerprint).map fun target => (target.targetId, targetId)).reverse
  if roleTargets = [] ∨ physical.any (fun target =>
      admitted.lookup target.targetId ≠ some (measurementTargetId target.role (target.outputVariant.getD "primary"))) then
    .error (.refused .targetNotMapped none)
  else .ok ()

-- The input channel that a branch is played on; a branch that the take does not name is parked.
def branchChannel (targetId : String) : Option ℕ :=
  if program.isBranchProgram then
    ((program.stimulusSegments.filter (·.role = some targetId)).getLast?).bind (·.channel)
  else none

def branchEntry (targetId : String) (fingerprint : Fingerprint) : Except Stop Unit :=
  match physicalTarget physical fingerprint with
  | none => .error (.raised "KeyError")
  | some target =>
    match graph.split.filter (·.dest = target.outputIndex) with
    | [entry] =>
      if entry.mute then .error (.refused .graphNotProven none)
      else
        match branchChannel program targetId, entry.sources.getD [] with
        | none, [] => .ok ()
        | some channel, [source] =>
          if source.channel ≠ channel ∨ source.gain ≠ 0 ∨ source.inverted ∨ source.mute then
            .error (.refused .graphNotProven none)
          else .ok ()
        | _, _ => .error (.refused .graphNotProven none)
    | _ => .error (.refused .graphNotProven none)

def branchEntries : List (String × Fingerprint) → Except Stop Unit
  | [] => .ok ()
  | (targetId, fingerprint) :: rest => do
    branchEntry physical graph program targetId fingerprint
    branchEntries rest

def branchRouting : Except Stop Unit :=
  if program.isBranchProgram then
    let played := roleTargets.filterMap fun (targetId, _) => branchChannel program targetId
    if 0 ∈ played ∧ 1 ∈ played ∧ ∀ channel ∈ played, channel = 0 ∨ channel = 1 then
      branchEntries physical graph program roleTargets
    else .error (.refused .targetNotMapped none)
  else .ok ()

def summedSegment (targetId : String) (band : FrequencyBand K) (cap duration boostDb : K)
    (requirements : List (ProtectionRequirement K)) (segment : GatedSegment K) : Except Stop (SegmentAdmission K) :=
  match segmentEmittedBandHz meter segment with
  | .error message => .error (.raised message)
  | .ok (low, high) =>
    let lowOk : Bool := minDriverTestFrequencyHz ≤ low && (band.lowerHz ≤ low ||
      requirements.any fun requirement => requirement.kind = "highpass" && band.lowerHz ≤ requirement.cutoffHz)
    let peak := segment.gainDb + sessionVolumeDb + boostDb
    let length : K := segment.nSamples / program.sampleRateHz
    let rows : List (LimitRow K) :=
      [{ code := "active_excitation_request_outside_band", requested := [low, high], limit := [band.lowerHz, band.upperHz],
         passed := lowOk },
       { code := "active_excitation_request_outside_level", requested := [peak], limit := [cap], passed := peak ≤ cap },
       { code := "active_excitation_request_outside_duration", requested := [length], limit := [duration],
         passed := length ≤ duration }]
    let failed := rows.filter (!·.passed)
    .ok {
      segmentId := segment.segmentId
      role := targetId
      channel := segment.channel.getD 0
      band := (low, high)
      effectivePeakDbfs := peak
      executionAllowed := failed = []
      refusals := if failed = [] then [] else ProgramAdmissionRefusal.segmentOutsideLimits.value :: failed.map (·.code)
      refusalDetail := failed }

def summedSegments (targetId : String) (band : FrequencyBand K) (cap duration boostDb : K)
    (requirements : List (ProtectionRequirement K)) : List (GatedSegment K) → Except Stop (List (SegmentAdmission K))
  | [] => .ok []
  | segment :: segments => do
    let first ← summedSegment meter sessionVolumeDb program targetId band cap duration boostDb requirements segment
    let rest ← summedSegments targetId band cap duration boostDb requirements segments
    return first :: rest

-- Nothing of the take reaches the output.
def parked (targetId : String) (outputIndex : ℕ) : Bool :=
  if program.isBranchProgram then branchChannel program targetId = none else summedTakeParks graph outputIndex

/-- One target of the take: the cap that its inputs are held to, and its segments; nothing for a target that is parked. -/
def summedTarget (targetId : String) (fingerprint : Fingerprint) : Except Stop (Option (K × List (SegmentAdmission K))) :=
  match physicalTarget physical fingerprint with
  | none => if program.isBranchProgram && (branchChannel program targetId).isNone then .ok none else .error (.raised "KeyError")
  | some target =>
    if parked graph program targetId target.outputIndex then .ok none
    else
      match profile.resolveDriverExcitationCeilings fingerprint, profile.effectiveSweepDurationLimitS fingerprint with
      | .ok (band, cap), .ok duration =>
        if terminallyMuted graph target.outputIndex then
          .error (.refused .graphNotProven (some (targetId, target.outputIndex)))
        else
          let boostDb := graph.boostDb target.outputIndex
          match profile.requiredProtectionFilters fingerprint with
          | none => .error (.raised "KeyError")
          | some requirements =>
            let sameRoleOutputs := (physical.filter (·.role = target.role)).map (·.outputIndex)
            if requirements.all (graph.protectionRequirementPresent target.outputIndex sameRoleOutputs) then do
              let reached := program.stimulusSegments.filter fun segment =>
                !program.isBranchProgram || segment.channel = branchChannel program targetId
              let segments ← summedSegments meter sessionVolumeDb program targetId band cap duration boostDb requirements reached
              return some (cap - boostDb, segments)
            else .error (.refused .graphNotProven none)
      | .error reason, _ | _, .error reason => .error (.refused (mapSafetyPlanError reason) none)

def summedTakes : List (String × Fingerprint) → Except Stop (List (K × List (SegmentAdmission K)))
  | [] => .ok []
  | (targetId, fingerprint) :: rest => do
    let first ← summedTarget meter profile physical graph sessionVolumeDb program targetId fingerprint
    let others ← summedTakes rest
    return first.toList ++ others

def smallestCap : List K → Except Stop K
  | [] => .error (.raised "min() iterable argument is empty")
  | cap :: caps => .ok (caps.foldl min cap)

-- What the door checks before the samples are read.
def summedGraph : Except Stop Unit := do
  summedSchedule program
  if 0 < sessionVolumeDb then throw (.raised "summed admission requires a non-positive finite volume")
  if !profile.measurementInputsReady then throw (.refused .measurementInputsInvalid none)
  summedTargets physical roleTargets
  let excited := (roleTargets.map Prod.fst).filter fun targetId => (branchChannel program targetId).isSome
  if !graph.approved excited then throw (.refused .graphNotProven none)

-- What it checks of the graph and the schedule afterwards: each target with its cap, and the smallest of the caps.
def summedRequests : Except Stop (List (SegmentAdmission K) × K) := do
  branchRouting physical graph roleTargets program
  let takes ← summedTakes meter profile physical graph sessionVolumeDb program roleTargets
  let cap ← smallestCap (takes.map Prod.fst)
  return (takes.flatMap Prod.snd, cap)

def summedFacts (cap : K) : List (ChannelFacts K × List ProgramAdmissionRefusal) :=
  (List.range program.channels).map fun channel => channelFacts meter program wav channel "summed" cap sessionVolumeDb

def summedAdmission : Except Stop (ProgramAdmission K) := do
  summedGraph profile physical graph roleTargets sessionVolumeDb program
  match readProgramPcm program wav with
  | none => throw (.refused .renderShapeMismatch none)
  | some pcm =>
    let (segments, cap) ← summedRequests meter profile physical graph roleTargets sessionVolumeDb program
    let facts := summedFacts meter sessionVolumeDb program pcm cap
    return {
      stimulusId := program.stimulusId
      phase := program.phase
      sessionVolumeDb := sessionVolumeDb
      segments := segments
      channels := facts.map Prod.fst
      refusals := firstSeen ((segments.filter (!·.executionAllowed)).map (fun _ => .segmentOutsideLimits) ++ facts.flatMap Prod.snd)
      mutedOutput := none }

def readmitSummedProgramFromWav : Except String (ProgramAdmission K) :=
  match summedAdmission meter profile physical graph roleTargets sessionVolumeDb program wav with
  | .ok admission => .ok admission
  | .error (.refused reason mutedOutput) => .ok (refusedProgram program sessionVolumeDb reason mutedOutput)
  | .error (.raised message) => .error message

end SummedDoor

end Jts.ActiveSpeaker
