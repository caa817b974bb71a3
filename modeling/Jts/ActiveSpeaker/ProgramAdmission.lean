import Mathlib
import Jts.Excitation.Gated
import Jts.Shared.Outcome

set_option autoImplicit false

namespace Jts.ActiveSpeaker

open Shared Excitation

attribute [local instance] Rounding.two Rounding.ten

local instance twenty : Nat.AtLeastTwo 20 := ⟨by decide⟩

section Constants

variable {K : Type} [Field K]

def outOfSegmentRmsFloorDbfs : K := -60

def channelPeakToleranceDb : K := 1 / 2

def capToleranceDb : K := 1 / 10 ^ 9

def minDriverTestFrequencyHz : K := 20

end Constants

def activeDriverMaxRepeatCount : ℕ := 3

inductive ProgramAdmissionRefusal
  | measurementInputsInvalid
  | targetNotMapped
  | channelRoleInconsistent
  | segmentOutsideLimits
  | channelPeakOverCap
  | outOfSegmentEnergy
  | manifestPeakMismatch
  | renderShapeMismatch
  | gateNotApplied
  | graphNotProven
deriving DecidableEq, Repr

def ProgramAdmissionRefusal.value : ProgramAdmissionRefusal → String
  | measurementInputsInvalid => "program_measurement_inputs_invalid"
  | targetNotMapped => "program_target_not_mapped"
  | channelRoleInconsistent => "program_channel_role_inconsistent"
  | segmentOutsideLimits => "program_segment_outside_limits"
  | channelPeakOverCap => "program_channel_peak_over_cap"
  | outOfSegmentEnergy => "program_out_of_segment_energy"
  | manifestPeakMismatch => "program_manifest_peak_mismatch"
  | renderShapeMismatch => "program_render_shape_mismatch"
  | gateNotApplied => "program_gate_not_applied"
  | graphNotProven => "program_graph_not_proven"

/-- A WAV file as it is read: its rate, its shape, whether its samples are int16, and the samples. -/
structure Wav where
  rate : ℕ
  frames : ℕ
  channels : ℕ
  int16 : Bool
  sample : ℕ → ℕ → Int16

/-- The digest of a physical target. -/
abbrev Fingerprint := BitVec 256

-- What one limit asked for, what it allows, and whether the request passed.
structure LimitRow (K : Type) where
  code : String
  requested : List K
  limit : List K
  passed : Bool

structure SegmentAdmission (K : Type) where
  segmentId : String
  role : String
  channel : ℕ
  band : K × K
  effectivePeakDbfs : K
  executionAllowed : Bool
  refusals : List String
  refusalDetail : List (LimitRow K)

structure ChannelFacts (K : Type) where
  channel : ℕ
  role : String
  capDbfs : K
  sessionVolumeDb : K
  declaredPeakDbfs : K
  truePeakDbfs : K
  effectiveTruePeakDbfs : K
  outOfSegmentRmsDbfs : K
  peakWithinCap : Bool
  quietOutOfSegment : Bool
  peakMatchesManifest : Bool

structure ProgramAdmission (K : Type) where
  stimulusId : String
  phase : Phase
  sessionVolumeDb : K
  segments : List (SegmentAdmission K)
  channels : List (ChannelFacts K)
  refusals : List ProgramAdmissionRefusal
  mutedOutput : Option (String × ℕ)

def ProgramAdmission.allowed {K : Type} (admission : ProgramAdmission K) : Bool := admission.refusals = []

-- The refusals without repeats, the first of each kept.
def firstSeen {α : Type} [DecidableEq α] : List α → List α
  | [] => []
  | reason :: reasons => reason :: (firstSeen reasons).filter (· ≠ reason)

/-- How the safety plan refuses, as `_map_safety_plan_error` tells the messages apart. -/
inductive ExcitationSafetyPlanError
  | targetNotCurrent
  | measurementInputsInvalid
  | other

structure ProtectionRequirement (K : Type) where
  kind : String
  cutoffHz : K

/-- What the safety profile answers for a target on the proven high-pass path. -/
structure SafetyProfile (K : Type) [Zero K] [LE K] [LT K] where
  measurementInputsReady : Bool
  resolveDriverExcitationCeilings : Fingerprint → Except ExcitationSafetyPlanError (FrequencyBand K × K)
  effectiveSweepDurationLimitS : Fingerprint → Except ExcitationSafetyPlanError K
  requiredProtectionFilters : Fingerprint → Option (List (ProtectionRequirement K))

structure DriverSweepGeneratorPlan (K : Type) where
  f1Hz : K
  f2Hz : K
  amplitude : K
  durationS : K
  repeatCount : ℕ
  commissioningGainDb : K
  mainVolumeDb : K

section Pcm

variable {K : Type} [Field K] [LinearOrder K] (meter : Meter K) (program : ExcitationProgram K) (wav : Wav)

def pcmLevel (sample : Int16) : K := sample.toInt / 32767

namespace Wav

def level (frame channel : ℕ) : K := pcmLevel (wav.sample frame channel)

def column (channel : ℕ) : List K := (List.range wav.frames).map fun frame => wav.level frame channel

end Wav

-- `none` for a file of another rate, shape or format than the program's.
def readProgramPcm : Option Wav :=
  if wav.rate ≠ program.sampleRateHz ∨ wav.frames ≠ program.totalSamples ∨ wav.channels ≠ program.channels ∨ wav.int16 = false then none
  else some wav

def channelRoles : List (GatedSegment K) → List (ℕ × String) → Except String (Option (List (ℕ × String)))
  | [], roles => .ok (some roles)
  | segment :: segments, roles =>
    match segment.channel, segment.role with
    | some channel, some role =>
      match roles.lookup channel with
      | none => channelRoles segments (roles ++ [(channel, role)])
      | some existing => if existing = role then channelRoles segments roles else .ok none
    | _, _ => .error "AssertionError"

def gateLeakRatioCeiling (segment : GatedSegment K) : K :=
  if segment.gateFadeSamples = 0 then 1 / 2 ^ 31
  else 1 / 2 * (1 - meter.cosPi (1 / segment.gateFadeSamples))

/-- The samples of a segment before and after the open window of its gate. -/
def outsideGate (segment : GatedSegment K) (channel : ℕ) : List K :=
  let window := (List.range' segment.startSample segment.nSamples).map fun frame => wav.level frame channel
  window.take segment.gateStartSample ++ window.drop segment.gateEnd

def gateLeaks (segment : GatedSegment K) : Bool :=
  match segment.isGated, segment.channel with
  | true, some channel =>
    let outside : List K := outsideGate wav segment channel
    0 < meter.amplitude segment.gainDb && segment.startSample + segment.nSamples ≤ wav.frames && outside ≠ [] &&
      meter.amplitude segment.gainDb * gateLeakRatioCeiling meter segment < meter.rms outside
  | _, _ => false

def gateLeakRefusals : List String :=
  (program.stimulusSegments.filter (gateLeaks meter wav)).map (·.segmentId)

-- The samples of a channel outside of everything that it is known to play.
def outOfSegment (channel : ℕ) : List K :=
  ((List.range wav.frames).filter fun frame => program.knownAudibleSegments.all fun segment =>
    !(segment.channel = some channel && segment.startSample ≤ frame && frame < segment.startSample + segment.nSamples)).map
    fun frame => wav.level frame channel

def channelDeclaredPeakDbfs (channel : ℕ) : K :=
  match (program.stimulusSegments.filter (·.channel = some channel)).map (·.gainDb) with
  | [] => meter.dbfs 0
  | gain :: gains => gains.foldl max gain

def channelFacts (channel : ℕ) (role : String) (capDbfs sessionVolumeDb : K) :
    ChannelFacts K × List ProgramAdmissionRefusal :=
  let truePeakDbfs := meter.dbfs (Meter.peak (wav.column channel))
  let effectiveTruePeakDbfs := truePeakDbfs + sessionVolumeDb
  let outOfSegmentRmsDbfs := meter.dbfs (meter.rms (outOfSegment program wav channel))
  let declaredPeakDbfs := channelDeclaredPeakDbfs meter program channel
  let facts : ChannelFacts K := {
    channel := channel
    role := role
    capDbfs := capDbfs
    sessionVolumeDb := sessionVolumeDb
    declaredPeakDbfs := declaredPeakDbfs
    truePeakDbfs := truePeakDbfs
    effectiveTruePeakDbfs := effectiveTruePeakDbfs
    outOfSegmentRmsDbfs := outOfSegmentRmsDbfs
    peakWithinCap := effectiveTruePeakDbfs ≤ capDbfs + capToleranceDb
    quietOutOfSegment := outOfSegmentRmsDbfs < outOfSegmentRmsFloorDbfs
    peakMatchesManifest := |truePeakDbfs - declaredPeakDbfs| ≤ channelPeakToleranceDb }
  (facts,
    (if facts.peakWithinCap then [] else [.channelPeakOverCap]) ++
    (if facts.quietOutOfSegment then [] else [.outOfSegmentEnergy]) ++
    (if facts.peakMatchesManifest then [] else [.manifestPeakMismatch]))

end Pcm

def mapSafetyPlanError : ExcitationSafetyPlanError → ProgramAdmissionRefusal
  | .targetNotCurrent => .targetNotMapped
  | .measurementInputsInvalid => .measurementInputsInvalid
  | .other => .segmentOutsideLimits

def refusedProgram {K : Type} (program : ExcitationProgram K) (sessionVolumeDb : K) (reason : ProgramAdmissionRefusal)
    (mutedOutput : Option (String × ℕ)) : ProgramAdmission K where
  stimulusId := program.stimulusId
  phase := program.phase
  sessionVolumeDb := sessionVolumeDb
  segments := []
  channels := []
  refusals := [reason]
  mutedOutput := mutedOutput

section DriverDoor

variable {K : Type} [Field K] [LinearOrder K] (meter : Meter K) (profile : SafetyProfile K)
  (roleTargets : List (String × Fingerprint)) (sessionVolumeDb : K) (program : ExcitationProgram K) (wav : Wav)

def requestedSegmentPlan (segment : GatedSegment K) : Except String (DriverSweepGeneratorPlan K) := do
  let emitted ← segmentEmittedBandHz meter segment
  let plan : DriverSweepGeneratorPlan K := {
    f1Hz := emitted.1
    f2Hz := emitted.2
    amplitude := meter.amplitude segment.gainDb
    durationS := segment.nSamples / programSampleRateHz
    repeatCount := 1
    commissioningGainDb := 0
    mainVolumeDb := sessionVolumeDb }
  if plan.f1Hz ≤ 0 ∨ plan.f2Hz ≤ plan.f1Hz then .error "sweep frequencies must increase"
  else if plan.amplitude ≤ 0 ∨ 1 < plan.amplitude then .error "amplitude must be in (0, 1]"
  else if plan.durationS ≤ 0 then .error "duration_s must be positive"
  else if 0 < plan.mainVolumeDb then .error "commissioning gain and main volume must be non-positive"
  else .ok plan

def DriverSweepGeneratorPlan.effectivePeakDbfs (plan : DriverSweepGeneratorPlan K) : K :=
  20 * meter.log10 plan.amplitude + plan.commissioningGainDb + plan.mainVolumeDb

def requestLimitRows (plan : DriverSweepGeneratorPlan K) (band : FrequencyBand K) (maximumPeak maximumDuration : K) :
    List (LimitRow K) :=
  [{ code := "active_excitation_request_outside_band", requested := [plan.f1Hz, plan.f2Hz], limit := [band.lowerHz, band.upperHz],
     passed := band.lowerHz ≤ plan.f1Hz ∧ plan.f2Hz ≤ band.upperHz },
   { code := "active_excitation_request_outside_level", requested := [plan.effectivePeakDbfs meter], limit := [maximumPeak],
     passed := plan.effectivePeakDbfs meter ≤ maximumPeak },
   { code := "active_excitation_request_outside_duration", requested := [plan.durationS], limit := [maximumDuration],
     passed := plan.durationS ≤ maximumDuration },
   { code := "active_excitation_request_outside_repeats", requested := [plan.repeatCount], limit := [activeDriverMaxRepeatCount],
     passed := plan.repeatCount ≤ activeDriverMaxRepeatCount }]

def prepareDriverExcitationPlan (plan : DriverSweepGeneratorPlan K) (target : Fingerprint) :
    Except ExcitationSafetyPlanError (List (LimitRow K)) :=
  if profile.measurementInputsReady then do
    let (band, maximumPeak) ← profile.resolveDriverExcitationCeilings target
    let maximumDuration ← profile.effectiveSweepDurationLimitS target
    return requestLimitRows meter plan band maximumPeak maximumDuration
  else .error .measurementInputsInvalid

-- A segment that is refused before its plan is prepared.
def refusedSegment (segment : GatedSegment K) (reason : ProgramAdmissionRefusal) :
    Except String (SegmentAdmission K × List ProgramAdmissionRefusal) := do
  let band ← segmentEmittedBandHz meter segment
  return ({
    segmentId := segment.segmentId
    role := segment.role.getD ""
    channel := segment.channel.getD 0
    band := band
    effectivePeakDbfs := segment.effectivePeakDbfs
    executionAllowed := false
    refusals := [reason.value]
    refusalDetail := [] }, [reason])

def admitSegment (segment : GatedSegment K) : Except String (SegmentAdmission K × List ProgramAdmissionRefusal) :=
  match roleTargets.lookup (segment.role.getD "") with
  | none => refusedSegment meter segment .targetNotMapped
  | some target => do
    let plan ← requestedSegmentPlan meter sessionVolumeDb segment
    match prepareDriverExcitationPlan meter profile plan target with
    | .error reason => refusedSegment meter segment (mapSafetyPlanError reason)
    | .ok rows =>
      let band ← segmentEmittedBandHz meter segment
      let failed := rows.filter (!·.passed)
      return ({
        segmentId := segment.segmentId
        role := segment.role.getD ""
        channel := segment.channel.getD 0
        band := band
        effectivePeakDbfs := plan.effectivePeakDbfs meter
        executionAllowed := failed = []
        refusals := failed.map (·.code)
        refusalDetail := failed }, if failed = [] then [] else [.segmentOutsideLimits])

def admitSegments : List (GatedSegment K) → Except String (List (SegmentAdmission K × List ProgramAdmissionRefusal))
  | [] => .ok []
  | segment :: segments => do
    let first ← admitSegment meter profile roleTargets sessionVolumeDb segment
    let rest ← admitSegments segments
    return first :: rest

def admitChannel (routed : ℕ × String) : List (ChannelFacts K) × List ProgramAdmissionRefusal :=
  match roleTargets.lookup routed.2 with
  | none => ([], [])
  | some target =>
    match profile.resolveDriverExcitationCeilings target with
    | .error reason => ([], [mapSafetyPlanError reason])
    | .ok (_, capDbfs) =>
      let facts := channelFacts meter program wav routed.1 routed.2 capDbfs sessionVolumeDb
      ([facts.1], facts.2)

def admitRender (roles : List (ℕ × String)) : List (ChannelFacts K) × List ProgramAdmissionRefusal :=
  if wav.channels ≠ program.channels then ([], [.renderShapeMismatch])
  else
    let channels := (roles.insertionSort fun first second => first.1 ≤ second.1).map
      (admitChannel meter profile roleTargets sessionVolumeDb program wav)
    (channels.flatMap Prod.fst,
      (if gateLeakRefusals meter program wav = [] then [] else [.gateNotApplied]) ++ channels.flatMap Prod.snd)

def evaluateProgram : Except String (ProgramAdmission K) := do
  let roles ← channelRoles program.stimulusSegments []
  let segments ← admitSegments meter profile roleTargets sessionVolumeDb program.stimulusSegments
  let rendered := admitRender meter profile roleTargets sessionVolumeDb program wav (roles.getD [])
  return {
    stimulusId := program.stimulusId
    phase := program.phase
    sessionVolumeDb := sessionVolumeDb
    segments := segments.map Prod.fst
    channels := rendered.1
    refusals := firstSeen ((if roles.isNone then [.channelRoleInconsistent] else []) ++ segments.flatMap Prod.snd ++ rendered.2)
    mutedOutput := none }

def readmitProgramFromWav : Except String (ProgramAdmission K) :=
  if program.phase = .verify then
    .error "driver admission requires CHECK/MEASURE; summed VERIFY requires readmit_summed_program_from_wav and a protected graph"
  else
    match readProgramPcm program wav with
    | none => .ok (refusedProgram program sessionVolumeDb .renderShapeMismatch none)
    | some pcm => evaluateProgram meter profile roleTargets sessionVolumeDb program pcm

end DriverDoor

end Jts.ActiveSpeaker
