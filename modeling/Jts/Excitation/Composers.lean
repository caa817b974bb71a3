import Mathlib
import Jts.Excitation.Program

set_option autoImplicit false

namespace Jts.Excitation

open Shared.Rounding

variable {K : Type} [Field K] [LinearOrder K] [IsStrictOrderedRing K] [FloorRing K] (log : K → K)

attribute [local instance] two ten

local instance thousand : Nat.AtLeastTwo 1000 := ⟨by decide⟩

section check

def measureSweepFLoHz : K := 150

def measureSweepFHiHz : K := 23000

structure CheckArgs (K : Type) [Zero K] [LE K] [LT K] where
  rolesBands : List (RoleBand K)
  ambientS : K
  pilotLevelsDb : K × K
  pilotDurationS : K
  pilotGapS : K
  basePeakDbfs : K
  downstreamGainDb : K
  roleBasePeakDbfs : List (String × K)

def checkPilots (args : CheckArgs K) (gapN : ℕ) (rb : RoleBand K) : Except ComposeError (List (Piece K)) := do
  let (f1Hz, f2Hz) ← intersectBand rb.band measureSweepFLoHz measureSweepFHiHz
  let roleBase := (args.roleBasePeakDbfs.lookup rb.role).getD args.basePeakDbfs
  let voice : Voice K := ⟨.pilot, rb.role, rb.channel, f1Hz, f2Hz⟩
  let lo ← stimulus log ("pilot_" ++ rb.role ++ "_lo") voice args.pilotDurationS (roleBase + args.pilotLevelsDb.1) args.downstreamGainDb
  let loGap ← silence ("gap_" ++ rb.role ++ "_lo") gapN
  let hi ← stimulus log ("pilot_" ++ rb.role ++ "_hi") voice args.pilotDurationS (roleBase + args.pilotLevelsDb.2) args.downstreamGainDb
  let hiGap ← silence ("gap_" ++ rb.role ++ "_hi") gapN
  return [lo, loGap, hi, hiGap]

-- The ambient window is silent, so it may stand in front of the beeps.
def checkPlan (args : CheckArgs K) : Except ComposeError (Plan K) := do
  let roles ← validateRoles args.rolesBands
  let ambient ← silence ambientSegmentId (← secondsToSamples args.ambientS)
  let gapN ← secondsToSamples args.pilotGapS
  let pilots ← roles.mapM (checkPilots log args gapN)
  return ⟨.check, programWidth roles, [ambient], pilots.flatten, args.downstreamGainDb⟩

def buildCheckProgram (args : CheckArgs K) (courtesyPrelude : Bool) : Except ComposeError (Schedule K) := do
  (← checkPlan log args).compose courtesyPrelude

end check

section measure

def defaultWooferSweepS : K := 4

def defaultTweeterSweepS : K := 3

def mesmMaxHarmonicOrder : K := 3

def mesmGapFloorS : K := 1

def mesmGapSamples (preceding : SweepMeta K) (irTailS : K) : Except ComposeError ℕ :=
  if irTailS < 0 then .error .tailNegative
  else
    let preRingS := preceding.l * log mesmMaxHarmonicOrder
    secondsToSamples (max mesmGapFloorS (irTailS + preRingS))

/-- What a MEASURE program is asked for, its levels, repeats and prelude apart. -/
structure MeasureArgs (K : Type) [Zero K] [LE K] [LT K] where
  rolesBands : List (RoleBand K)
  sweepDurations : List (String × K)
  sweepDurationLimitsS : List (String × K)
  guardS : K
  tailS : K
  irTailS : K
  leadingPilotRole : Option String
  pilotDurationS : K
  pilotGapS : K
  sweepBandHz : K × K
  gapS : Option K
  channels : Option ℕ

/-- The levels of a MEASURE program; without a pair of them it has no pilots. -/
structure MeasureGains (K : Type) where
  gainPlan : List (String × K)
  leadingPilotGainsDb : Option (K × K)
  downstreamGainDb : K

-- The loop ends in its second round.
def phaseClosingRounds : ℕ := 2

def measureBand (args : MeasureArgs K) (rb : RoleBand K) : Except ComposeError (K × K) := do
  let (f1, f2) ← intersectBand rb.band args.sweepBandHz.1 args.sweepBandHz.2
  if f2 < (programSampleRateHz : K) / 2 then return (f1, f2) else .error .aboveNyquist

/-- A sweep at its nominal duration, or fitted to a limit that it overruns, and the duration it is composed at from then on. -/
def fittedMeta (f1 f2 nominalS gainDb : K) (limit : Option K) : Except ComposeError (SweepMeta K × K) := do
  let sweep ← sweepMeta log f1 f2 nominalS gainDb
  match limit with
  | none => return (sweep, nominalS)
  | some limit =>
      if sweep.durationS ≤ limit then return (sweep, nominalS)
      else
        match phaseClosingDurationS log phaseClosingRounds f1 f2 limit programSampleRateHz with
        | .error _ => .error .doesNotClose
        | .ok fittedS =>
            let fitted ← sweepMeta log f1 f2 fittedS gainDb
            return (fitted, fitted.durationS)

/-- One driver of a MEASURE program: what its sweeps are, their duration and level, and the gap behind each. -/
structure Driver (K : Type) where
  voice : Voice K
  durationS : K
  gainDb : K
  gapN : ℕ

def driver (args : MeasureArgs K) (gains : MeasureGains K) (nominalS : K) (rb : RoleBand K) : Except ComposeError (Driver K) := do
  let gainDb ← (gains.gainPlan.lookup rb.role).elim (.error .gainMissing) .ok
  let (f1, f2) ← measureBand args rb
  let (sweep, durationS) ← fittedMeta log f1 f2 ((args.sweepDurations.lookup rb.role).getD nominalS) gainDb
    (args.sweepDurationLimitsS.lookup rb.role)
  let gapN ← args.gapS.elim (mesmGapSamples log sweep args.irTailS) secondsToSamples
  return ⟨⟨.sweep, rb.role, rb.channel, f1, f2⟩, durationS, gainDb, gapN⟩

def occurrenceSuffix (index : ℕ) : String :=
  if index = 0 then "" else if index = 1 then "_rep" else "_rep" ++ toString index

/-- The sweeps of one cycle; a gap follows the last one unless it is the last of all. -/
def measureCycle (woofer : Driver K) (tweeter : Option (Driver K)) (downstreamGainDb : K) (repeatCount cycle : ℕ) :
    Except ComposeError (List (Piece K)) := do
  let suffix := occurrenceSuffix cycle
  let sweepW ← stimulus log ("sweep_w" ++ suffix) woofer.voice woofer.durationS woofer.gainDb downstreamGainDb
  match tweeter with
  | none =>
      if cycle < repeatCount - 1 then
        let gapW ← silence ("gap_w_w" ++ suffix) woofer.gapN
        return [sweepW, gapW]
      else return [sweepW]
  | some tweeter =>
      let gapW ← silence ("gap_w_t" ++ suffix) woofer.gapN
      let sweepT ← stimulus log ("sweep_t" ++ suffix) tweeter.voice tweeter.durationS tweeter.gainDb downstreamGainDb
      if cycle < repeatCount - 1 then
        let gapT ← silence ("gap_t_w" ++ suffix) tweeter.gapN
        return [sweepW, gapW, sweepT, gapT]
      else return [sweepW, gapW, sweepT]

def pilotRole (args : MeasureArgs K) (roles : List (RoleBand K)) (woofer : RoleBand K) : Except ComposeError (RoleBand K) :=
  match args.leadingPilotRole with
  | none => .ok woofer
  | some role => (roles.find? fun rb => rb.role = role).elim (.error .pilotRoleUnknown) .ok

def measurePilots (args : MeasureArgs K) (gains : MeasureGains K) (roles : List (RoleBand K)) (woofer : RoleBand K) :
    Except ComposeError (Option (List (Piece K))) :=
  match gains.leadingPilotGainsDb with
  | none => .ok none
  | some gainsDb => do
      let rb ← pilotRole args roles woofer
      let (f1, f2) ← measureBand args rb
      let ambient ← pilotAmbientWindow
      let pair ← leadingPilotPair log rb.role ⟨.pilot, rb.role, rb.channel, f1, f2⟩ gainsDb args.pilotDurationS args.pilotGapS
        gains.downstreamGainDb
      return some (ambient :: pair)

def measureDrivers (roles : List (RoleBand K)) : Except ComposeError (RoleBand K × Option (RoleBand K)) :=
  match roles with
  | [woofer] => .ok (woofer, none)
  | [woofer, tweeter] => .ok (woofer, some tweeter)
  | _ => .error .tooManyRoles

def measureChannels (requested : Option ℕ) (width : ℕ) : Except ComposeError ℕ :=
  match requested with
  | none => .ok width
  | some channels => if channels < width then .error .channelsNarrow else .ok channels

def optionally {A B : Type} (f : A → Except ComposeError B) : Option A → Except ComposeError (Option B)
  | none => .ok none
  | some value => (f value).map some

-- With pilots the prelude stands in front of everything, else between the guard and the sweeps.
def leadPlan (phase : Phase) (channels : ℕ) (pilots : Option (List (Piece K))) (guard : Piece K) (body : List (Piece K))
    (downstreamGainDb : K) : Plan K :=
  match pilots with
  | none => ⟨phase, channels, [guard], body, downstreamGainDb⟩
  | some pilots => ⟨phase, channels, [], pilots ++ [guard] ++ body, downstreamGainDb⟩

def measurePlan (args : MeasureArgs K) (gains : MeasureGains K) (repeatCount : ℕ) : Except ComposeError (Plan K) := do
  let roles ← validateRoles args.rolesBands
  let (wooferBand, tweeterBand) ← measureDrivers roles
  if repeatCount = 0 then .error .repeatCount
  let channels ← measureChannels args.channels (programWidth roles)
  let woofer ← driver log args gains defaultWooferSweepS wooferBand
  let tweeter ← optionally (driver log args gains defaultTweeterSweepS) tweeterBand
  let pilots ← measurePilots log args gains roles wooferBand
  let guard ← silence "guard" (← secondsToSamples args.guardS)
  let cycles ← (List.range repeatCount).mapM (measureCycle log woofer tweeter gains.downstreamGainDb repeatCount)
  let tail ← silence "tail" (← secondsToSamples args.tailS)
  return leadPlan .measure channels pilots guard (cycles.flatten ++ [tail]) gains.downstreamGainDb

def buildMeasureProgram (args : MeasureArgs K) (gains : MeasureGains K) (repeatCount : ℕ) (courtesyPrelude : Bool) :
    Except ComposeError (Schedule K) := do
  (← measurePlan log args gains repeatCount).compose courtesyPrelude

end measure

section preGuard

def harmonicWindowGapFraction : K := 4 / 10

def preGuardSearchMarginS : K := 2 / 1000

def phantomWindowSafety : K := 9 / 10

def harmonicTimeAdvanceS (l order : K) : K := l * log order

def imageHalfWidthS (l order : K) : K := harmonicWindowGapFraction * l * log ((order + 1) / order)

def phantomWindowS (l order : K) : K × K :=
  let advance := l * log (order - 1 / 2)
  let clearance :=
    min (advance - harmonicTimeAdvanceS log l (order - 1) - imageHalfWidthS log l (order - 1))
      (harmonicTimeAdvanceS log l order - imageHalfWidthS log l order - advance)
  (advance, phantomWindowSafety * clearance)

-- The windows of the fundamental and of the two harmonics that are read, and the phantom windows below these.
def requiredPreGuardS (l : K) : K :=
  let edge := fun order => harmonicTimeAdvanceS log l order + imageHalfWidthS log l order
  let phantom := fun order => (phantomWindowS log l order).1 + (phantomWindowS log l order).2
  max (max (max (max (edge 1) (edge 2)) (edge 3)) (phantom 2)) (phantom 3) + preGuardSearchMarginS

end preGuard

section verify

def verifyFLoHz : K := 150

def verifyFHiHz : K := 20000

def verifyPilotFLoHz : K := 200

def verifyPilotFHiHz : K := 800

def verifyPilotFcClearanceRatio : K := 5 / 2

def baseStimulusPeakDbfs : K := automaticMeasurementStimulusPeakDbfs

def verifyPilotRole : String := "summed"

structure VerifyArgs (K : Type) [Zero K] [LE K] [LT K] where
  fcHz : Option K
  measurementBandHz : Option (K × K)
  sweepBandHz : Option (K × K)
  gainDb : K
  guardS : K
  sweepS : K
  tailS : K
  downstreamGainDb : K
  leadingPilotGainsDb : Option (K × K)
  pilotDurationS : K
  pilotGapS : K
  roles : List (RoleBand K)
  sweepDurationLimitsS : List (String × K)

/-- The lower edge of the sweep, and the band of the pilots. -/
def verifyEdges (args : VerifyArgs K) : Except ComposeError (K × K × K) :=
  match args.fcHz with
  | none =>
      match args.measurementBandHz with
      | none => .error .measurementBandMissing
      | some (lo, hi) =>
          if 0 < lo ∧ lo < hi then
            let pilotLo := max verifyPilotFLoHz lo
            let pilotHi := min verifyPilotFHiHz hi
            .ok (min verifyFLoHz lo, if pilotLo < pilotHi then (pilotLo, pilotHi) else (lo, hi))
          else .error .measurementBandInvalid
  | some fc =>
      if 0 < fc then
        let pilotHi := min verifyPilotFHiHz (fc / verifyPilotFcClearanceRatio)
        .ok (min verifyFLoHz (fc / 2), if verifyPilotFLoHz < pilotHi then (verifyPilotFLoHz, pilotHi) else (fc / 8, fc / 4))
      else .error .crossoverInvalid

def verifyBand (args : VerifyArgs K) (f1Hz : K) : Except ComposeError (K × K) :=
  match args.sweepBandHz with
  | some (lo, hi) =>
      if 0 < lo ∧ lo < hi ∧ hi < (programSampleRateHz : K) / 2 then .ok (lo, hi) else .error .sweepBandInvalid
  | none => if f1Hz < verifyFHiHz then .ok (f1Hz, verifyFHiHz) else .error .sweepBandCollapsed

-- The tightest limit of the roles, each of which has to have one.
def bindingLimit (roles : List (RoleBand K)) (limits : List (String × K)) : Except ComposeError K :=
  match roles.mapM fun rb => limits.lookup rb.role with
  | none => .error .limitsIncomplete
  | some [] => .error .limitsWithoutRoles
  | some (first :: rest) => .ok (rest.foldl min first)

def summedSweepDurationS (f1Hz f2Hz : K) (roles : List (RoleBand K)) (limits : List (String × K)) (nominalS : K) :
    Except ComposeError K :=
  if limits = [] then .ok nominalS
  else do
    let binding ← bindingLimit roles limits
    let realized ← sweepMeta log f1Hz f2Hz nominalS baseStimulusPeakDbfs
    if realized.durationS ≤ binding then return realized.durationS
    else
      match phaseClosingDurationS log phaseClosingRounds f1Hz f2Hz binding programSampleRateHz with
      | .error _ => .error .durationUncloseable
      | .ok fittedS => return fittedS

def verifyPilots (args : VerifyArgs K) : Except ComposeError (Option (List (Piece K))) :=
  match args.leadingPilotGainsDb with
  | none => .ok none
  | some gainsDb => do
      let (_, lo, hi) ← verifyEdges args
      let ambient ← pilotAmbientWindow
      let pair ← leadingPilotPair log verifyPilotRole ⟨.pilot, verifyPilotRole, 0, lo, hi⟩ gainsDb args.pilotDurationS args.pilotGapS
        args.downstreamGainDb
      return some (ambient :: pair)

def sweepVerifyId : String := "sweep_verify"

def verifySweep (args : VerifyArgs K) : Except ComposeError (Piece K) := do
  let (lowEdge, _) ← verifyEdges args
  let (f1Hz, f2Hz) ← verifyBand args lowEdge
  let sweepS ← summedSweepDurationS log f1Hz f2Hz args.roles args.sweepDurationLimitsS args.sweepS
  stimulus log sweepVerifyId ⟨.summedSweep, none, 0, f1Hz, f2Hz⟩ sweepS args.gainDb args.downstreamGainDb

/-- A stimulus segment's sweep, derived again from its sample count. -/
def segmentSweepMeta (segment : ProgramSegment K) : Except ComposeError (SweepMeta K) :=
  match segment.f1Hz, segment.f2Hz with
  | some f1, some f2 => do
      let sweep ← synchronizedSweepMetadata log f1 f2 (segment.nSamples / programSampleRateHz) programSampleRateHz segment.gainDb
      if sweep.nSamples = segment.nSamples then return sweep else .error .reconstruction
  | _, _ => .error .notStimulus

-- What is audible before a segment ends here; nothing does at zero.
def audibleEnd (segments : List (ProgramSegment K)) (segment : ProgramSegment K) : ℕ :=
  ((segments.filter fun other =>
    other.kind.isKnownAudible && other.segmentId ≠ segment.segmentId && other.endSample ≤ segment.startSample).map (·.endSample)).foldl max 0

def precedingSilenceS (segments : List (ProgramSegment K)) (segment : ProgramSegment K) : K :=
  ((segment.startSample : K) - audibleEnd segments segment) / programSampleRateHz

def lengthen (samples : ℕ) (segment : ProgramSegment K) : ProgramSegment K :=
  { segment with nSamples := segment.nSamples + samples, some := Nat.add_pos_left segment.some samples }

/-- The segment before the sweep gets some samples more, and what follows starts that much later. -/
def widenGap (samples : ℕ) (segments : List (ProgramSegment K)) : List (ProgramSegment K) :=
  let before := segments.takeWhile fun segment => segment.segmentId ≠ sweepVerifyId
  let rest := segments.dropWhile fun segment => segment.segmentId ≠ sweepVerifyId
  before.dropLast ++ (before.getLast?.map (lengthen samples)).toList ++ rest.map (.shift samples)

-- The quiet before a sweep of a chosen band is made as long as its harmonics need.
def widenForHarmonics (channels : ℕ) (schedule : Schedule K) : Except ComposeError (Schedule K) :=
  match schedule.segments.find? fun segment => segment.segmentId = sweepVerifyId with
  | none => .error .notStimulus
  | some sweep => do
      let derived ← segmentSweepMeta log sweep
      let requiredN := ⌈requiredPreGuardS log derived.l * programSampleRateHz⌉
      let quietN := roundHalfEven (precedingSilenceS schedule.segments sweep * programSampleRateHz : K)
      let extraN := (requiredN - quietN).toNat
      if extraN = 0 then return schedule
      else finalize .verify channels (widenGap extraN schedule.segments) (schedule.totalSamples + extraN)

def verifyPlan (args : VerifyArgs K) : Except ComposeError (Plan K) := do
  let sweep ← verifySweep log args
  let pilots ← verifyPilots log args
  let guard ← silence "guard" (← secondsToSamples args.guardS)
  let tail ← silence "tail" (← secondsToSamples args.tailS)
  return leadPlan .verify 1 pilots guard [sweep, tail] args.downstreamGainDb

def buildVerifyProgram (args : VerifyArgs K) (courtesyPrelude : Bool) : Except ComposeError (Schedule K) := do
  let schedule ← (← verifyPlan log args).compose courtesyPrelude
  if args.sweepBandHz.isNone then return schedule else widenForHarmonics log 1 schedule

end verify

section probe

def levelProbeSegmentStart : String := "level_probe_"

def levelProbeBurstS : K := 1 / 2

def levelProbeGrowthS : K := 1 / 8

-- Each burst is longer than the one before.
def probeBurst (voice : Voice K) (stepS : K) (gapN : ℕ) (downstreamGainDb : K) (index : ℕ) (gainDb : K) :
    Except ComposeError (List (Piece K)) := do
  let burst ← stimulus log (levelProbeSegmentStart ++ toString index) voice (levelProbeBurstS + index * stepS) gainDb downstreamGainDb
  let gap ← silence (levelProbeSegmentStart ++ "gap_" ++ toString index) gapN
  return [burst, gap]

def levelProbe (phase : Phase) (voice : Voice K) (gainsDb : List K) (gapS downstreamGainDb : K) (channels : ℕ) :
    Except ComposeError (Schedule K) := do
  let stepS := max (log (voice.f2Hz / voice.f1Hz) / voice.f1Hz) levelProbeGrowthS
  let gapN ← secondsToSamples gapS
  let ambient ← pilotAmbientWindow
  let bursts ← gainsDb.zipIdx.mapM fun (gainDb, index) => probeBurst log voice stepS gapN downstreamGainDb index gainDb
  finalize phase channels (place 0 (ambient :: bursts.flatten)) (span (ambient :: bursts.flatten))

def buildLevelProbeProgram (rb : RoleBand K) (gainsDb : List K) (sweepBandHz : K × K) (gapS downstreamGainDb : K) (channels : ℕ) :
    Except ComposeError (Schedule K) := do
  let (f1Hz, f2Hz) ← intersectBand rb.band sweepBandHz.1 sweepBandHz.2
  levelProbe log .measure ⟨.sweep, rb.role, rb.channel, f1Hz, f2Hz⟩ gainsDb gapS downstreamGainDb channels

def buildSummedLevelProbeProgram (gainsDb : List K) (sweepBandHz : K × K) (gapS downstreamGainDb : K) : Except ComposeError (Schedule K) :=
  levelProbe log .verify ⟨.summedSweep, none, 0, sweepBandHz.1, sweepBandHz.2⟩ gainsDb gapS downstreamGainDb 1

end probe

end Jts.Excitation
