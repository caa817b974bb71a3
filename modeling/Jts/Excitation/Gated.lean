import Jts.Excitation.Program
import Jts.Shared.Meter

set_option autoImplicit false

namespace Jts.Excitation

open Shared

/-- A placed segment with its gate, which silences a part of the sweep and leaves the rest sample for sample. -/
structure GatedSegment (K : Type) extends ProgramSegment K where
  gateStartSample : ℕ := 0
  gateEndSample : Option ℕ := none
  gateFadeSamples : ℕ := 0
  banded : kind.isStimulus = true → f1Hz.isSome = true ∧ f2Hz.isSome = true
  routed : kind.isStimulus = true → channel.isSome = true
  gateWithin : gateEndSample.getD nSamples ≤ nSamples
  gateOpens : gateStartSample < gateEndSample.getD nSamples
  fadesFit : 2 * gateFadeSamples ≤ gateEndSample.getD nSamples - gateStartSample

namespace GatedSegment

variable {K : Type} (segment : GatedSegment K)

def gateEnd : ℕ := segment.gateEndSample.getD segment.nSamples

def isGated : Bool := segment.gateStartSample ≠ 0 || segment.gateEndSample.isSome || segment.gateFadeSamples ≠ 0

-- A gate may also leave the whole segment open.
def closes : Bool := segment.gateStartSample ≠ 0 || segment.gateEnd ≠ segment.nSamples

variable {segment}

theorem isGated_of_closes (closes : segment.closes = true) : segment.isGated = true := by
  simp only [GatedSegment.closes, isGated, Bool.or_eq_true, decide_eq_true_eq] at closes ⊢
  obtain late | early := closes
  · exact .inl (.inl late)
  · refine .inl (.inr ?_)
    rw [← Option.ne_none_iff_isSome]
    intro ends
    exact early (by rw [gateEnd, ends, Option.getD_none])

end GatedSegment

/-- A schedule that the session plays as one stream. -/
structure ExcitationProgram (K : Type) where
  stimulusId : String
  phase : Phase
  sampleRateHz : ℕ
  channels : ℕ
  segments : List (GatedSegment K)
  totalSamples : ℕ
  rated : 0 < sampleRateHz
  wide : 0 < channels
  scheduled : segments ≠ []
  channelled : ∀ segment ∈ segments, ∀ channel ∈ segment.channel, channel < channels
  contained : ∀ segment ∈ segments, segment.endSample ≤ totalSamples

namespace ExcitationProgram

variable {K : Type} (program : ExcitationProgram K)

def stimulusSegments : List (GatedSegment K) := program.segments.filter (·.kind.isStimulus)

def knownAudibleSegments : List (GatedSegment K) := program.segments.filter (·.kind.isKnownAudible)

def isBranchProgram : Bool :=
  program.channels = 2 &&
    ["sweep_w", "sweep_t", "sweep_verify"].all fun name => program.segments.any fun segment => segment.segmentId = name

variable {program}

theorem channel_lt {segment : GatedSegment K} (stimulus : segment ∈ program.stimulusSegments) {channel : ℕ}
    (on : segment.channel = some channel) : channel < program.channels :=
  program.channelled segment (List.mem_filter.mp stimulus).1 channel on

theorem exists_channel {segment : GatedSegment K} (stimulus : segment ∈ program.stimulusSegments) :
    ∃ channel, segment.channel = some channel :=
  Option.isSome_iff_exists.mp (segment.routed (List.mem_filter.mp stimulus).2)

theorem endSample_le {segment : GatedSegment K} (stimulus : segment ∈ program.stimulusSegments) :
    segment.endSample ≤ program.totalSamples :=
  program.contained segment (List.mem_filter.mp stimulus).1

theorem stimulus_audible {segment : GatedSegment K} (stimulus : segment ∈ program.stimulusSegments) :
    segment ∈ program.knownAudibleSegments := by
  obtain ⟨among, stimulus⟩ := List.mem_filter.mp stimulus
  exact List.mem_filter.mpr ⟨among, by rw [Kind.isKnownAudible, stimulus, Bool.true_or]⟩

theorem totalSamples_pos : 0 < program.totalSamples := by
  obtain ⟨segment, among⟩ := List.exists_mem_of_ne_nil _ program.scheduled
  exact (Nat.add_pos_right _ segment.some).trans_le (program.contained segment among)

end ExcitationProgram

section Bands

variable {K : Type} [Field K] [LinearOrder K] (meter : Meter K)

def segmentSweepFrequencyAt (segment : GatedSegment K) (sample : ℕ) : Except String K :=
  match segment.f1Hz, segment.f2Hz with
  | some f1, some f2 =>
    if f1 = 0 then .error "float division by zero"
    else .ok (f1 * meter.pow (f2 / f1) (min (max (sample / segment.nSamples) 0) 1))
  | _, _ => .error "only a stimulus segment sweeps"

/-- The frequencies that a segment puts on its driver, both fades included. -/
def segmentEmittedBandHz (segment : GatedSegment K) : Except String (K × K) :=
  if segment.isGated then do
    let lower ← segmentSweepFrequencyAt meter segment segment.gateStartSample
    let upper ← segmentSweepFrequencyAt meter segment segment.gateEnd
    return (lower, upper)
  else
    match segment.f1Hz, segment.f2Hz with
    | some f1, some f2 => .ok (f1, f2)
    | _, _ => .error "AssertionError"

end Bands

end Jts.Excitation
