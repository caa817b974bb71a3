import Jts.Excitation.Composers
import Jts.Excitation.Layout
import Jts.Shared.Extremum
import Mathlib.Data.List.DropRight

set_option autoImplicit false

namespace Jts.Excitation

open Shared.Extremum

section identity

variable {K : Type}

/-- A segment as its program's id has it: without its effective peak. -/
structure Canonical (K : Type) where
  segmentId : String
  kind : Kind
  role : Option String
  channel : Option ℕ
  startSample : ℕ
  nSamples : ℕ
  f1Hz : Option K
  f2Hz : Option K
  gainDb : K
deriving DecidableEq

/-- A segment without its levels. -/
structure Shape (K : Type) where
  segmentId : String
  kind : Kind
  role : Option String
  channel : Option ℕ
  startSample : ℕ
  nSamples : ℕ
  f1Hz : Option K
  f2Hz : Option K
deriving DecidableEq

def ProgramSegment.canonical (segment : ProgramSegment K) : Canonical K :=
  ⟨segment.segmentId, segment.kind, segment.role, segment.channel, segment.startSample, segment.nSamples, segment.f1Hz, segment.f2Hz,
    segment.gainDb⟩

def ProgramSegment.shape (segment : ProgramSegment K) : Shape K :=
  ⟨segment.segmentId, segment.kind, segment.role, segment.channel, segment.startSample, segment.nSamples, segment.f1Hz, segment.f2Hz⟩

/-- What a fingerprint is taken of. -/
inductive Payload (K : Type)
  | stimulus (phase : Phase) (sampleRateHz channels : ℕ) (segments : List (Canonical K)) (totalSamples : ℕ)
  | shape (phase : Phase) (sampleRateHz channels totalSamples : ℕ) (segments : List (Shape K))
deriving DecidableEq

def Schedule.stimulusPayload (schedule : Schedule K) : Payload K :=
  .stimulus schedule.phase schedule.sampleRateHz schedule.channels (schedule.segments.map (·.canonical)) schedule.totalSamples

def Schedule.shapePayload (schedule : Schedule K) : Payload K :=
  .shape schedule.phase schedule.sampleRateHz schedule.channels schedule.totalSamples (schedule.segments.map (·.shape))

/-- A program document: its schedule, and the id that it names. -/
structure Document (K Digest : Type) where
  stimulusId : Digest
  schedule : Schedule K

def document {Digest : Type} (fingerprint : Payload K → Digest) (schedule : Schedule K) : Document K Digest :=
  ⟨fingerprint schedule.stimulusPayload, schedule⟩

def isPrelude (segment : ProgramSegment K) : Bool := segment.kind = .courtesyTone || segment.segmentId = courtesyGapSegmentId

-- None is a document that has no prelude: it is left as it is.
def unannounced [DecidableEq K] (schedule : Schedule K) : Option (Schedule K) :=
  let prelude := schedule.segments.filter isPrelude
  match prelude with
  | [] => none
  | first :: rest =>
      let at_ := (rest.map (·.startSample)).foldl min first.startSample
      let length := (rest.map (·.endSample)).foldl max first.endSample - at_
      some
        { schedule with
          totalSamples := schedule.totalSamples - length
          segments := (schedule.segments.filter fun segment => segment ∉ prelude).map fun segment =>
            if at_ < segment.startSample then segment.unshift length else segment }

def takeStimulusId [DecidableEq K] {Digest : Type} (fingerprint : Payload K → Digest) (program : Document K Digest) : Digest :=
  match unannounced program.schedule with
  | none => program.stimulusId
  | some stimulus => fingerprint stimulus.stimulusPayload

def isNewline (char : Char) : Bool := char.toNat = 0x0A

-- The digits behind the last `_rep` of an id, none where the id does not end in one; a newline may follow.
def occurrenceDigits (segmentId : List Char) : Option (List Char) :=
  let text := if segmentId.getLast?.any isNewline then segmentId.dropLast else segmentId
  if "_rep".toList.isSuffixOf (text.rdropWhile Char.isDigit) then some (text.rtakeWhile Char.isDigit) else none

def digitsValue (digits : List Char) : ℕ := digits.foldl (fun value digit => 10 * value + (digit.toNat - 48)) 0

def occurrenceIndex (segmentId : String) : ℕ :=
  match occurrenceDigits segmentId.toList with
  | none => 0
  | some [] => 1
  | some digits => digitsValue digits

def isLater (segment : ProgramSegment K) : Bool := occurrenceIndex segment.segmentId ≠ 0

/-- A MEASURE schedule as it plays at one sweep per driver. -/
def oneCycle (stimulus : Schedule K) : Schedule K :=
  let kept := stimulus.segments.takeWhile fun segment => !isLater segment
  let last := (stimulus.segments.rdropWhile fun segment => !isLater segment).getLast?
  let after := stimulus.segments.rtakeWhile fun segment => !isLater segment
  -- A later segment that is the first of all would take the last one for the gap before it.
  match (kept.getLast?).or stimulus.segments.getLast?, last with
  | some first, some last =>
      if stimulus.phase ≠ .measure then stimulus
      else
        let length := last.endSample - first.startSample
        { stimulus with
          totalSamples := stimulus.totalSamples - length
          segments := (if kept = [] then stimulus.segments else kept).dropLast ++ after.map (.unshift length) }
  | _, _ => stimulus

def stimulusShapeId [DecidableEq K] {Digest : Type} (fingerprint : Payload K → Digest) (program : Document K Digest) : Digest :=
  fingerprint (oneCycle ((unannounced program.schedule).getD program.schedule)).shapePayload

end identity

section unannounced

variable {K : Type}

/-- No piece of a plan can be taken for the prelude. -/
def Plain (pieces : List (Piece K)) : Prop := ∀ piece ∈ pieces, piece.kind ≠ .courtesyTone ∧ piece.segmentId ≠ courtesyGapSegmentId

theorem Plain.append {first second : List (Piece K)} (one : Plain first) (other : Plain second) : Plain (first ++ second) := by
  intro piece mem
  obtain mem | mem := List.mem_append.mp mem
  · exact one piece mem
  · exact other piece mem

theorem Plain.singleton {piece : Piece K} (plain : piece.kind ≠ .courtesyTone ∧ piece.segmentId ≠ courtesyGapSegmentId) : Plain [piece] := by
  intro other mem
  rwa [List.mem_singleton.mp mem]

theorem Plain.not_isPrelude {cursor : ℕ} {pieces : List (Piece K)} (plain : Plain pieces) :
    ∀ segment ∈ place cursor pieces, isPrelude segment = false := by
  intro segment mem
  obtain ⟨kind, id⟩ := plain segment.toPiece (place_within mem).2.2
  simp [isPrelude, kind, id]

theorem filter_isPrelude {cursor : ℕ} {pieces : List (Piece K)} (plain : Plain pieces) : (place cursor pieces).filter isPrelude = [] := by
  rw [List.filter_eq_nil_iff]
  intro segment mem
  simp [plain.not_isPrelude segment mem]

variable [DecidableEq K]

theorem unannounced_plain {schedule : Schedule K} {pieces : List (Piece K)} (plain : Plain pieces)
    (laid : schedule.segments = place 0 pieces) : unannounced schedule = none := by
  rw [unannounced, laid, filter_isPrelude plain]

/-- A prelude at some place: tones that start there together, and a gap behind them. -/
structure Prelude (at_ length : ℕ) (tones : List (ProgramSegment K)) (gap : ProgramSegment K) : Prop where
  some : tones ≠ []
  tone : ∀ tone ∈ tones, tone.kind = .courtesyTone ∧ tone.startSample = at_ ∧ tone.nSamples = courtesyToneNSamples
  named : gap.segmentId = courtesyGapSegmentId
  follows : gap.startSample = at_ + courtesyToneNSamples
  ends : gap.endSample = at_ + length

/-- What the prelude announces is left where it was before the prelude went in. -/
theorem unannounced_prelude {schedule : Schedule K} {head body : List (Piece K)} {length : ℕ} {tones : List (ProgramSegment K)}
    {gap : ProgramSegment K} (plain : Plain (head ++ body)) (prelude : Prelude (span head) length tones gap)
    (laid : schedule.segments = place 0 head ++ tones ++ [gap] ++ place (span head + length) body) :
    unannounced schedule =
      some { schedule with totalSamples := schedule.totalSamples - length, segments := place 0 (head ++ body) } := by
  have plainHead : Plain head := fun piece mem => plain piece (List.mem_append_left _ mem)
  have plainBody : Plain body := fun piece mem => plain piece (List.mem_append_right _ mem)
  have marked : ∀ segment ∈ tones ++ [gap], isPrelude segment = true := by
    intro segment mem
    obtain mem | mem := List.mem_append.mp mem
    · simp [isPrelude, (prelude.tone segment mem).1]
    · simp [isPrelude, List.mem_singleton.mp mem, prelude.named]
  have filtered : schedule.segments.filter isPrelude = tones ++ [gap] := by
    rw [laid, List.append_assoc (place 0 head), List.filter_append, List.filter_append, filter_isPrelude plainHead,
      filter_isPrelude plainBody, List.filter_eq_self.mpr marked]
    simp
  obtain ⟨first, rest, rfl⟩ := List.exists_cons_of_ne_nil prelude.some
  obtain ⟨firstKind, firstStart, firstLength⟩ := prelude.tone first List.mem_cons_self
  have toneEnd : ∀ tone ∈ first :: rest, tone.endSample ≤ gap.endSample := by
    intro tone mem
    obtain ⟨-, start, samples⟩ := prelude.tone tone mem
    have later := start_lt_end gap
    rw [prelude.follows] at later
    rw [ProgramSegment.endSample, start, samples]
    exact later.le
  have starts : ((rest ++ [gap]).map (·.startSample)).foldl min first.startSample = span head := by
    refine foldl_min_eq firstStart.ge (fun start mem => ?_) (.inl firstStart)
    obtain ⟨segment, there, rfl⟩ := List.mem_map.mp mem
    obtain there | there := List.mem_append.mp there
    · exact (prelude.tone segment (List.mem_cons_of_mem _ there)).2.1.ge
    · rw [List.mem_singleton.mp there, prelude.follows]
      exact Nat.le_add_right _ _
  have ends : ((rest ++ [gap]).map (·.endSample)).foldl max first.endSample = span head + length := by
    rw [← prelude.ends]
    refine foldl_max_eq (toneEnd first List.mem_cons_self) (fun value mem => ?_) (.inr (List.mem_map_of_mem (by simp)))
    obtain ⟨segment, there, rfl⟩ := List.mem_map.mp mem
    obtain there | there := List.mem_append.mp there
    · exact toneEnd segment (List.mem_cons_of_mem _ there)
    · rw [List.mem_singleton.mp there]
  have unmarked {cursor : ℕ} {pieces : List (Piece K)} (plain : Plain pieces) :
      ∀ segment ∈ place cursor pieces, decide (segment ∉ first :: rest ++ [gap]) = true := by
    intro segment mem
    refine decide_eq_true fun there => ?_
    exact absurd (marked segment there) (by simp [plain.not_isPrelude segment mem])
  have left : (schedule.segments.filter fun segment => segment ∉ first :: rest ++ [gap]) =
      place 0 head ++ place (span head + length) body := by
    rw [laid, List.append_assoc (place 0 head), List.filter_append, List.filter_append, List.filter_eq_self.mpr (unmarked plainHead),
      List.filter_eq_self.mpr (unmarked plainBody), List.filter_eq_nil_iff.mpr, List.append_nil]
    intro segment mem out
    exact of_decide_eq_true out (by simpa using mem)
  have positive : 0 < length := by
    have later := start_lt_end gap
    rw [prelude.follows, prelude.ends] at later
    omega
  have moved : (place 0 head ++ place (span head + length) body).map (fun segment =>
      if span head < segment.startSample then segment.unshift length else segment) = place 0 (head ++ body) := by
    rw [List.map_append, place_append, Nat.zero_add]
    congr 1
    · refine (List.map_congr_left fun segment mem => if_neg ?_).trans (List.map_id _)
      have ends := (place_within mem).2.1
      rw [Nat.zero_add] at ends
      exact not_lt.mpr ((start_lt_end segment).trans_le ends).le
    · refine (List.map_congr_left fun segment mem => if_pos ?_).trans (place_unshift length (span head) body)
      exact (Nat.lt_add_of_pos_right positive).trans_le (place_within mem).1
  rw [unannounced, filtered]
  dsimp only [List.cons_append]
  rw [starts, ends, Nat.add_sub_cancel_left]
  rw [List.cons_append] at left
  rw [left, moved]

end unannounced

end Jts.Excitation
