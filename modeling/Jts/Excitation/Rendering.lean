import Jts.Excitation.TakeIdentity

set_option autoImplicit false

namespace Jts.Excitation

open Shared.Outcome Shared.Rounding

variable {K : Type} [Field K] [LinearOrder K] [IsStrictOrderedRing K] [FloorRing K] (log : K → K)

section render

/-- Where rendering raises. -/
inductive RenderError
  | notStimulus
  | notCourtesyTone
  | noBand
  | noChannel
  | sweep (error : ComposeError)
  | reconstruction
  | toneLength
  | shape
deriving DecidableEq, Repr

/-- Samples that are written to one channel of the program. -/
structure Written where
  channel : ℕ
  startSample : ℕ
  nSamples : ℕ
deriving DecidableEq, Repr

-- How many samples a stimulus is that is regenerated.
def segmentStimulus (segment : ProgramSegment K) : Except RenderError ℕ :=
  if ¬ segment.kind.isStimulus then .error .notStimulus
  else
    match segment.f1Hz, segment.f2Hz with
    | some f1, some f2 =>
        match synchronizedSweepMetadata log f1 f2 (segment.nSamples / programSampleRateHz) programSampleRateHz segment.gainDb with
        | .error error => .error (.sweep error)
        | .ok sweep => if sweep.nSamples = segment.nSamples then .ok sweep.nSamples.toNat else .error .reconstruction
    | _, _ => .error .noBand

def courtesyToneStimulus (segment : ProgramSegment K) : Except RenderError ℕ :=
  if segment.kind ≠ .courtesyTone then .error .notCourtesyTone
  else if courtesyToneNSamples = segment.nSamples then .ok courtesyToneNSamples
  else .error .toneLength

-- The samples have to fill the slice that they are assigned to, of a channel that the program has.
def writeSegment (schedule : Schedule K) (segment : ProgramSegment K) (samples : ℕ) : Except RenderError Written :=
  match segment.channel with
  | none => .error .noChannel
  | some channel =>
      let slice := min segment.endSample schedule.totalSamples - min segment.startSample schedule.totalSamples
      if channel < schedule.channels ∧ (samples = slice ∨ samples = 1) then .ok ⟨channel, segment.startSample, slice⟩
      else .error .shape

def renderSegment (schedule : Schedule K) (segment : ProgramSegment K) : Except RenderError (Option Written) :=
  match segment.kind with
  | .courtesyTone => do return some (← writeSegment schedule segment (← courtesyToneStimulus segment))
  | .pilot | .sweep | .summedSweep => do return some (← writeSegment schedule segment (← segmentStimulus log segment))
  | .silence => return none

def renderProgramPcm (schedule : Schedule K) : Except RenderError (List Written) := do
  return (← schedule.segments.mapM (renderSegment log schedule)).reduceOption

end render

section laid

variable {log}

/-- Two segments of which one ends before the other starts, or that play on two channels. -/
def Clear {K : Type} (first second : ProgramSegment K) : Prop :=
  first.endSample ≤ second.startSample ∨ ∃ one other, first.channel = some one ∧ second.channel = some other ∧ one ≠ other

/-- What can be rendered of a segment, wherever it is. -/
def Piece.Playable (log : K → K) (piece : Piece K) : Prop :=
  piece.kind = .silence ∨
    (∃ channel : ℕ, piece.channel = Option.some channel) ∧
      (piece.kind = .courtesyTone ∧ piece.nSamples = courtesyToneNSamples ∨
        piece.kind.isStimulus = true ∧ ∃ sweep, segmentSweepMeta log ⟨piece, 0⟩ = .ok sweep)

/-- A schedule that can be rendered. -/
structure Renderable (log : K → K) (schedule : Schedule K) : Prop where
  bounded : ∀ segment ∈ schedule.segments, segment.endSample ≤ schedule.totalSamples
  narrow : ∀ segment ∈ schedule.segments, ∀ channel, segment.channel = some channel → channel < schedule.channels
  clear : schedule.segments.Pairwise Clear
  playable : ∀ segment ∈ schedule.segments, segment.Playable log

omit [IsStrictOrderedRing K] in
theorem segmentSweepMeta_eq_ok {segment : ProgramSegment K} {sweep : SweepMeta K} (derived : segmentSweepMeta log segment = .ok sweep) :
    ∃ f1 f2, segment.f1Hz = some f1 ∧ segment.f2Hz = some f2 ∧
      synchronizedSweepMetadata log f1 f2 (segment.nSamples / programSampleRateHz) programSampleRateHz segment.gainDb = .ok sweep ∧
      sweep.nSamples = segment.nSamples := by
  unfold segmentSweepMeta at derived
  cases lower : segment.f1Hz with
  | none =>
      rw [lower] at derived
      cases derived
  | some f1 =>
      cases upper : segment.f2Hz with
      | none =>
          rw [lower, upper] at derived
          cases derived
      | some f2 =>
          rw [lower, upper] at derived
          obtain ⟨swept, made, derived⟩ := bind_eq_ok.mp derived
          by_cases same : swept.nSamples = segment.nSamples
          · rw [if_pos same] at derived
            obtain rfl := Except.ok.inj derived
            exact ⟨f1, f2, rfl, rfl, made, same⟩
          · rw [if_neg same] at derived
            cases derived

omit [IsStrictOrderedRing K] in
theorem Renderable.derived {schedule : Schedule K} (able : Renderable log schedule) {segment : ProgramSegment K}
    (mem : segment ∈ schedule.segments) (stimulus : segment.kind.isStimulus = true) : ∃ sweep, segmentSweepMeta log segment = .ok sweep := by
  obtain silent | ⟨-, ⟨tone, -⟩ | ⟨-, derived⟩⟩ := able.playable segment mem
  · rw [silent] at stimulus
    cases stimulus
  · rw [tone] at stimulus
    cases stimulus
  · exact derived

omit [IsStrictOrderedRing K] in
theorem segmentStimulus_ok {segment : ProgramSegment K} (stimulus : segment.kind.isStimulus = true) {sweep : SweepMeta K}
    (derived : segmentSweepMeta log segment = .ok sweep) : segmentStimulus log segment = .ok segment.nSamples := by
  obtain ⟨f1, f2, lower, upper, made, same⟩ := segmentSweepMeta_eq_ok derived
  unfold segmentStimulus
  rw [if_neg (not_not.mpr stimulus), lower, upper]
  dsimp only
  rw [made]
  dsimp only
  rw [if_pos same, same, Int.toNat_natCast]

omit [IsStrictOrderedRing K] in
theorem writeSegment_ok {schedule : Schedule K} (able : Renderable log schedule) {segment : ProgramSegment K} (mem : segment ∈ schedule.segments)
    {channel : ℕ} (carried : segment.channel = some channel) :
    writeSegment schedule segment segment.nSamples = .ok ⟨channel, segment.startSample, segment.nSamples⟩ := by
  have ends := able.bounded segment mem
  have slice : min segment.endSample schedule.totalSamples - min segment.startSample schedule.totalSamples = segment.nSamples := by
    unfold ProgramSegment.endSample at *
    omega
  unfold writeSegment
  rw [carried]
  dsimp only
  rw [slice, if_pos ⟨able.narrow segment mem channel carried, .inl rfl⟩]

/-- What a segment that is heard is written to. -/
def ProgramSegment.written {K : Type} (segment : ProgramSegment K) : Option Written :=
  if segment.kind = .silence then none else segment.channel.map fun channel => ⟨channel, segment.startSample, segment.nSamples⟩

omit [IsStrictOrderedRing K] in
theorem renderSegment_ok {schedule : Schedule K} (able : Renderable log schedule) {segment : ProgramSegment K}
    (mem : segment ∈ schedule.segments) : renderSegment log schedule segment = .ok segment.written := by
  unfold renderSegment ProgramSegment.written
  obtain silent | ⟨⟨channel, carried⟩, ⟨tone, length⟩ | ⟨stimulus, sweep, derived⟩⟩ := able.playable segment mem
  · rw [silent]
    rfl
  · have regenerated : courtesyToneStimulus segment = .ok segment.nSamples := by
      unfold courtesyToneStimulus
      rw [if_neg (not_not.mpr tone), if_pos length.symm, length]
    rw [tone, regenerated, carried]
    change (writeSegment schedule segment segment.nSamples).map some = _
    rw [writeSegment_ok able mem carried]
    rfl
  · have written : (do return some (← writeSegment schedule segment (← segmentStimulus log segment))) =
        Except.ok (some ⟨channel, segment.startSample, segment.nSamples⟩) := by
      rw [segmentStimulus_ok stimulus derived]
      change (writeSegment schedule segment segment.nSamples).map some = _
      rw [writeSegment_ok able mem carried]
      rfl
    rw [carried]
    cases kind : segment.kind with
    | pilot => exact written
    | sweep => exact written
    | summedSweep => exact written
    | silence => rw [kind] at stimulus; cases stimulus
    | courtesyTone => rw [kind] at stimulus; cases stimulus

omit [IsStrictOrderedRing K] in
/-- Rendering raises nowhere: each segment that is heard is written whole. -/
theorem renderProgramPcm_ok {schedule : Schedule K} (able : Renderable log schedule) :
    renderProgramPcm log schedule = .ok (schedule.segments.filterMap (·.written)) := by
  have all : schedule.segments.mapM (renderSegment log schedule) = .ok (schedule.segments.map (·.written)) :=
    mapM_eq_ok.mpr (List.forall₂_map_right_iff.mpr (List.forall₂_same.mpr fun segment mem => renderSegment_ok able mem))
  unfold renderProgramPcm
  rw [all]
  change Except.ok _ = Except.ok _
  rw [List.reduceOption, List.filterMap_map]
  rfl

end laid

end Jts.Excitation
