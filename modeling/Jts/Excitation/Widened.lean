import Jts.Excitation.Announced

set_option autoImplicit false

namespace Jts.Excitation

open Shared.Outcome Shared.Extremum Shared.Rounding

section front

variable {K : Type}

def Piece.lengthen (samples : ℕ) (piece : Piece K) : Piece K :=
  { piece with nSamples := piece.nSamples + samples, some := Nat.add_pos_left piece.some samples }

@[simp] theorem Piece.lengthen_zero (piece : Piece K) : piece.lengthen 0 = piece := rfl

/-- A schedule with its summed sweep somewhere behind what is laid out early, and a piece right before it. -/
structure Fronted (segments : List (ProgramSegment K)) (early : List (ProgramSegment K)) (cursor : ℕ) (before : List (Piece K))
    (gap sweep : Piece K) (rest : List (Piece K)) : Prop where
  laid : segments = early ++ place cursor (before ++ gap :: sweep :: rest)
  named : sweep.segmentId = sweepVerifyId
  apartEarly : ∀ segment ∈ early, segment.segmentId ≠ sweepVerifyId
  apart : ∀ piece ∈ before ++ [gap], piece.segmentId ≠ sweepVerifyId

/-- Where the sweep starts. -/
def sweepStart (cursor : ℕ) (before : List (Piece K)) (gap : Piece K) : ℕ := cursor + span (before ++ [gap])

namespace Fronted

variable {segments early : List (ProgramSegment K)} {cursor : ℕ} {before : List (Piece K)} {gap sweep : Piece K} {rest : List (Piece K)}

theorem laid_split (fronted : Fronted segments early cursor before gap sweep rest) :
    segments = (early ++ place cursor (before ++ [gap])) ++ ⟨sweep, sweepStart cursor before gap⟩ ::
      place (sweepStart cursor before gap + sweep.nSamples) rest := by
  rw [fronted.laid, show before ++ gap :: sweep :: rest = (before ++ [gap]) ++ (sweep :: rest) by simp, place_append, ← List.append_assoc]
  rfl

theorem apart_split (fronted : Fronted segments early cursor before gap sweep rest) :
    ∀ segment ∈ early ++ place cursor (before ++ [gap]), segment.segmentId ≠ sweepVerifyId := by
  intro segment mem
  obtain mem | mem := List.mem_append.mp mem
  · exact fronted.apartEarly segment mem
  · exact fronted.apart segment.toPiece (place_within mem).2.2

theorem find?_sweep (fronted : Fronted segments early cursor before gap sweep rest) :
    (segments.find? fun segment => segment.segmentId = sweepVerifyId) = some ⟨sweep, sweepStart cursor before gap⟩ := by
  rw [fronted.laid_split, List.find?_append, List.find?_eq_none.mpr, Option.none_or, List.find?_cons_of_pos]
  · exact decide_eq_true fronted.named
  · intro segment mem
    simpa using fronted.apart_split segment mem

theorem widenGap_eq (fronted : Fronted segments early cursor before gap sweep rest) (samples : ℕ) :
    widenGap samples segments = early ++ place cursor (before ++ gap.lengthen samples :: sweep :: rest) := by
  have apart : ∀ segment ∈ early ++ place cursor (before ++ [gap]), decide (segment.segmentId ≠ sweepVerifyId) = true :=
    fun segment mem => decide_eq_true (fronted.apart_split segment mem)
  unfold widenGap
  rw [fronted.laid_split, List.takeWhile_append_of_pos apart, List.dropWhile_append_of_pos apart, List.takeWhile_cons_of_neg (by simp [fronted.named]),
    List.dropWhile_cons_of_neg (by simp [fronted.named]), List.append_nil]
  have moved : (⟨sweep, sweepStart cursor before gap⟩ :: place (sweepStart cursor before gap + sweep.nSamples) rest).map
      (ProgramSegment.shift samples) = place (sweepStart cursor before gap + samples) (sweep :: rest) :=
    place_shift samples (sweepStart cursor before gap) (sweep :: rest)
  have last : early ++ place cursor (before ++ [gap]) = (early ++ place cursor before) ++ [⟨gap, cursor + span before⟩] := by
    rw [place_append, ← List.append_assoc]
    rfl
  dsimp only
  rw [moved, last, List.dropLast_concat, List.getLast?_concat, place_append]
  simp [place, lengthen, Piece.lengthen, sweepStart, Nat.add_assoc]

/-- What is heard before the sweep ends at some sample, where nothing that is heard before it ends later. -/
theorem audibleEnd_eq (fronted : Fronted segments early cursor before gap sweep rest) {reach : ℕ}
    (low : ∀ segment ∈ early ++ place cursor (before ++ [gap]), segment.kind.isKnownAudible = true → segment.endSample ≤ reach)
    (met : reach = 0 ∨ ∃ segment ∈ early ++ place cursor (before ++ [gap]), segment.kind.isKnownAudible = true ∧ segment.endSample = reach)
    (past : reach ≤ sweepStart cursor before gap) :
    audibleEnd segments ⟨sweep, sweepStart cursor before gap⟩ = reach := by
  refine foldl_max_eq (Nat.zero_le _) (fun value mem => ?_) ?_
  · obtain ⟨segment, there, rfl⟩ := List.mem_map.mp mem
    obtain ⟨there, heard⟩ := List.mem_filter.mp there
    simp only [Bool.and_eq_true, decide_eq_true_eq] at heard
    obtain ⟨⟨heard, other⟩, ends⟩ := heard
    rw [fronted.laid_split] at there
    obtain there | there := List.mem_append.mp there
    · exact low segment there heard
    · obtain rfl | there := List.mem_cons.mp there
      · exact absurd rfl other
      · have later := (place_within there).1
        have some := start_lt_end segment
        change segment.endSample ≤ sweepStart cursor before gap at ends
        omega
  · obtain none | ⟨segment, there, heard, ends⟩ := met
    · exact .inl none.symm
    · refine .inr (List.mem_map.mpr ⟨segment, List.mem_filter.mpr ⟨?_, ?_⟩, ends⟩)
      · rw [fronted.laid_split]
        exact List.mem_append_left _ there
      · have other : segment.segmentId ≠ sweep.segmentId := by
          rw [fronted.named]
          exact fronted.apart_split segment there
        simp [heard, other, ends, past]

end Fronted

end front

variable {K : Type} [Field K] [LinearOrder K] [IsStrictOrderedRing K] [FloorRing K] (log : K → K)

/-- How long the quiet before a summed sweep has to be for its harmonics. -/
def requiredQuietN (sweep : Piece K) : Except ComposeError ℤ := do
  let derived ← segmentSweepMeta log ⟨sweep, 0⟩
  return ⌈requiredPreGuardS log derived.l * programSampleRateHz⌉

variable {log} {schedule widened : Schedule K} {early : List (ProgramSegment K)} {cursor : ℕ} {before : List (Piece K)}
  {gap sweep : Piece K} {rest : List (Piece K)}

/-- The piece before the sweep is made longer by what the quiet lacks. -/
theorem widenForHarmonics_eq_ok (fronted : Fronted schedule.segments early cursor before gap sweep rest) {quietN : ℕ}
    (quiet : audibleEnd schedule.segments ⟨sweep, sweepStart cursor before gap⟩ + quietN = sweepStart cursor before gap)
    (verify : schedule.phase = .verify) (rate : schedule.sampleRateHz = programSampleRateHz)
    (made : widenForHarmonics log schedule.channels schedule = .ok widened) :
    ∃ requiredN, requiredQuietN log sweep = .ok requiredN ∧
      widened =
        { schedule with
          segments := early ++ place cursor (before ++ gap.lengthen (requiredN - quietN).toNat :: sweep :: rest)
          totalSamples := schedule.totalSamples + (requiredN - quietN).toNat } := by
  unfold widenForHarmonics at made
  rw [fronted.find?_sweep] at made
  obtain ⟨derived, swept, made⟩ := bind_eq_ok.mp made
  have counted : roundHalfEven (precedingSilenceS schedule.segments ⟨sweep, sweepStart cursor before gap⟩ * programSampleRateHz : K) = quietN := by
    have some : (programSampleRateHz : K) ≠ 0 := by norm_num [programSampleRateHz]
    have span : ((sweepStart cursor before gap : K) - audibleEnd schedule.segments ⟨sweep, sweepStart cursor before gap⟩) = (quietN : ℤ) := by
      rw [sub_eq_iff_eq_add']
      exact_mod_cast quiet.symm
    rw [precedingSilenceS, div_mul_cancel₀ _ some, span, roundHalfEven_intCast]
  refine ⟨⌈requiredPreGuardS log derived.l * programSampleRateHz⌉, bind_eq_ok.mpr ⟨derived, swept, rfl⟩, ?_⟩
  dsimp only at made
  rw [counted, fronted.widenGap_eq] at made
  by_cases enough : (⌈requiredPreGuardS log derived.l * (programSampleRateHz : K)⌉ - quietN).toNat = 0
  · rw [if_pos enough] at made
    obtain rfl := Except.ok.inj made
    rw [enough, Piece.lengthen_zero, ← fronted.laid, Nat.add_zero]
  · rw [if_neg enough] at made
    rw [(finalize_eq_ok.mp made).1, verify, rate]

end Jts.Excitation
