import Jts.Excitation.Sweep

set_option autoImplicit false

namespace Jts.Excitation

open Shared.Rounding

def programSampleRateHz : ℕ := 48000

inductive Phase
  | check
  | measure
  | verify
deriving DecidableEq, Repr

inductive Kind
  | silence
  | pilot
  | sweep
  | summedSweep
  | courtesyTone
deriving DecidableEq, Repr

def Kind.isStimulus : Kind → Bool
  | .pilot | .sweep | .summedSweep => true
  | .silence | .courtesyTone => false

def Kind.isKnownAudible (kind : Kind) : Bool := kind.isStimulus || kind = .courtesyTone

structure FrequencyBand (K : Type) [Zero K] [LE K] [LT K] where
  lowerHz : K
  upperHz : K
  positive : 0 < lowerHz
  ordered : lowerHz ≤ upperHz

structure RoleBand (K : Type) [Zero K] [LE K] [LT K] where
  role : String
  channel : ℕ
  band : FrequencyBand K
  named : role ≠ ""

/-- A segment that is not placed yet. No composer gates one. -/
structure Piece (K : Type) where
  segmentId : String
  kind : Kind
  role : Option String
  channel : Option ℕ
  nSamples : ℕ
  f1Hz : Option K
  f2Hz : Option K
  gainDb : K
  effectivePeakDbfs : K
  some : 0 < nSamples
deriving DecidableEq

structure ProgramSegment (K : Type) extends Piece K where
  startSample : ℕ
deriving DecidableEq

def ProgramSegment.endSample {K : Type} (segment : ProgramSegment K) : ℕ := segment.startSample + segment.nSamples

def ProgramSegment.shift {K : Type} (samples : ℕ) (segment : ProgramSegment K) : ProgramSegment K :=
  { segment with startSample := segment.startSample + samples }

def ProgramSegment.unshift {K : Type} (samples : ℕ) (segment : ProgramSegment K) : ProgramSegment K :=
  { segment with startSample := segment.startSample - samples }

-- What is appended starts at the cursor, which is where the last segment ends.
def place {K : Type} : ℕ → List (Piece K) → List (ProgramSegment K)
  | _, [] => []
  | cursor, piece :: pieces => ⟨piece, cursor⟩ :: place (cursor + piece.nSamples) pieces

def span {K : Type} (pieces : List (Piece K)) : ℕ := (pieces.map (·.nSamples)).sum

/-- A program without its id. -/
structure Schedule (K : Type) where
  phase : Phase
  sampleRateHz : ℕ
  channels : ℕ
  segments : List (ProgramSegment K)
  totalSamples : ℕ
deriving DecidableEq

variable {K : Type} [Field K] [LinearOrder K] [IsStrictOrderedRing K] [FloorRing K] (log : K → K)

def finalize (phase : Phase) (channels : ℕ) (segments : List (ProgramSegment K)) (total : ℕ) : Except ComposeError (Schedule K) :=
  if segments = [] then .error .noSegments
  else if segments.any fun segment => segment.channel.any fun channel => channels ≤ channel then .error .channelOutOfRange
  else if segments.any fun segment => total < segment.endSample then .error .overruns
  else .ok ⟨phase, programSampleRateHz, channels, segments, total⟩

def secondsToSamples (seconds : K) : Except ComposeError ℕ :=
  if 0 < seconds then .ok (roundHalfEven (seconds * programSampleRateHz)).toNat else .error .durationNotPositive

def intersectBand (band : FrequencyBand K) (loHz hiHz : K) : Except ComposeError (K × K) :=
  let f1 := max band.lowerHz loHz
  let f2 := min band.upperHz hiHz
  if f1 < f2 then .ok (f1, f2) else .error .bandsDisjoint

def sweepMeta (f1Hz f2Hz durationS gainDb : K) : Except ComposeError (SweepMeta K) :=
  synchronizedSweepMetadata log f1Hz f2Hz durationS programSampleRateHz gainDb

def silencePeakDbfs : K := -120

def silence (segmentId : String) (nSamples : ℕ) : Except ComposeError (Piece K) :=
  if some : 0 < nSamples then
    .ok
      { segmentId := segmentId
        kind := .silence
        role := none
        channel := none
        nSamples := nSamples
        f1Hz := none
        f2Hz := none
        gainDb := 0
        effectivePeakDbfs := silencePeakDbfs
        some := some }
  else .error .emptySegment

/-- What a stimulus is, its length and its level apart. -/
structure Voice (K : Type) where
  kind : Kind
  role : Option String
  channel : ℕ
  f1Hz : K
  f2Hz : K

def stimulus (segmentId : String) (voice : Voice K) (durationS gainDb downstreamGainDb : K) : Except ComposeError (Piece K) := do
  let sweep ← sweepMeta log voice.f1Hz voice.f2Hz durationS gainDb
  if some : 0 < sweep.nSamples.toNat then
    return { segmentId := segmentId
             kind := voice.kind
             role := voice.role
             channel := voice.channel
             nSamples := sweep.nSamples.toNat
             f1Hz := sweep.f1
             f2Hz := sweep.f2
             gainDb := gainDb
             effectivePeakDbfs := gainDb + downstreamGainDb
             some := some }
  else .error .emptySegment

def ambientSegmentId : String := "ambient"

def pilotAmbientWindowS : K := 1

def pilotAmbientWindow : Except ComposeError (Piece K) := do silence ambientSegmentId (← secondsToSamples (pilotAmbientWindowS : K))

-- Two levels, each followed by a gap.
def leadingPilotPair (role : String) (voice : Voice K) (gainsDb : K × K) (pilotDurationS pilotGapS downstreamGainDb : K) :
    Except ComposeError (List (Piece K)) := do
  let gapN ← secondsToSamples pilotGapS
  let lo ← stimulus log ("pilot_" ++ role ++ "_lo") voice pilotDurationS gainsDb.1 downstreamGainDb
  let loGap ← silence ("pilot_gap_" ++ role ++ "_lo") gapN
  let hi ← stimulus log ("pilot_" ++ role ++ "_hi") voice pilotDurationS gainsDb.2 downstreamGainDb
  let hiGap ← silence ("pilot_gap_" ++ role ++ "_hi") gapN
  return [lo, loGap, hi, hiGap]

def validateRoles (rolesBands : List (RoleBand K)) : Except ComposeError (List (RoleBand K)) :=
  if rolesBands = [] then .error .rolesEmpty
  else if ¬ (rolesBands.map (·.channel)).Nodup then .error .channelsRepeat
  else if ¬ (rolesBands.map (·.role)).Nodup then .error .rolesRepeat
  else .ok rolesBands

def programWidth (roles : List (RoleBand K)) : ℕ := 1 + (roles.map (·.channel)).foldl max 0

section prelude

def courtesyToneMarginDb : K := 6

def courtesyToneGainDb (referenceGainDb : K) : K := min (min (referenceGainDb - courtesyToneMarginDb) referenceGainDb) 0

def courtesyToneBeepCount : ℕ := 3

def courtesyToneBeepHz : K := 1000

def courtesyToneBeepDurationS : ℚ := 12 / 100

def courtesyToneBeepGapS : ℚ := 12 / 100

def courtesyToneTrailingSilenceS : ℚ := 3

def courtesyGapSegmentId : String := "courtesy_gap"

def fixedSamples (seconds : ℚ) : ℕ := (roundHalfEven (seconds * programSampleRateHz)).toNat

def courtesyToneNSamples : ℕ :=
  courtesyToneBeepCount * fixedSamples courtesyToneBeepDurationS + (courtesyToneBeepCount - 1) * fixedSamples courtesyToneBeepGapS

def courtesyGapNSamples : ℕ := fixedSamples courtesyToneTrailingSilenceS

theorem courtesyToneNSamples_pos : 0 < courtesyToneNSamples := by decide +kernel

theorem courtesyGapNSamples_pos : 0 < courtesyGapNSamples := by decide +kernel

def channelGains (segments : List (ProgramSegment K)) (channel : ℕ) : List K :=
  (segments.filter fun segment => segment.kind.isStimulus && segment.channel = some channel).map (·.gainDb)

-- A channel that carries no stimulus gets no tone.
def courtesyTone (segments : List (ProgramSegment K)) (at_ : ℕ) (downstreamGainDb : K) (channel : ℕ) : Option (ProgramSegment K) :=
  match channelGains segments channel with
  | [] => none
  | first :: rest =>
      let gainDb := courtesyToneGainDb (rest.foldl max first)
      some
        { segmentId := "courtesy_tone_ch" ++ toString channel
          kind := .courtesyTone
          role := none
          channel := some channel
          startSample := at_
          nSamples := courtesyToneNSamples
          f1Hz := some courtesyToneBeepHz
          f2Hz := some courtesyToneBeepHz
          gainDb := gainDb
          effectivePeakDbfs := gainDb + downstreamGainDb
          some := courtesyToneNSamples_pos }

def courtesyGap (at_ : ℕ) : ProgramSegment K where
  segmentId := courtesyGapSegmentId
  kind := .silence
  role := none
  channel := none
  startSample := at_ + courtesyToneNSamples
  nSamples := courtesyGapNSamples
  f1Hz := none
  f2Hz := none
  gainDb := 0
  effectivePeakDbfs := silencePeakDbfs
  some := courtesyGapNSamples_pos

def preludeN : ℕ := courtesyToneNSamples + courtesyGapNSamples

def insertCourtesyPrelude (segments : List (ProgramSegment K)) (totalSamples atSample channels : ℕ) (downstreamGainDb : K) :
    List (ProgramSegment K) × ℕ :=
  let tones := (List.range channels).filterMap (courtesyTone segments atSample downstreamGainDb)
  let head := segments.filter fun segment => segment.startSample < atSample
  let tail := (segments.filter fun segment => atSample ≤ segment.startSample).map (.shift preludeN)
  (head ++ tones ++ [courtesyGap atSample] ++ tail, totalSamples + preludeN)

/-- What a composer lays out: the pieces before the prelude's place, and those after it. -/
structure Plan (K : Type) where
  phase : Phase
  channels : ℕ
  head : List (Piece K)
  body : List (Piece K)
  downstreamGainDb : K

def Plan.pieces {K : Type} (plan : Plan K) : List (Piece K) := plan.head ++ plan.body

def Plan.compose (plan : Plan K) (courtesyPrelude : Bool) : Except ComposeError (Schedule K) :=
  let segments := place 0 plan.pieces
  let total := span plan.pieces
  if courtesyPrelude then
    let (segments, total) := insertCourtesyPrelude segments total (span plan.head) plan.channels plan.downstreamGainDb
    finalize plan.phase plan.channels segments total
  else finalize plan.phase plan.channels segments total

end prelude

end Jts.Excitation
