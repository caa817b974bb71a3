import Jts.Excitation.Rendering

set_option autoImplicit false

namespace Jts.Excitation

open Shared.Outcome Shared.Rounding

variable {K : Type} [Field K] [LinearOrder K] [IsStrictOrderedRing K] [FloorRing K] {log : K → K}

section pieces

-- What a stimulus piece says is enough to derive its sweep again.
theorem Piece.Composed.playable (rises : ∀ ratio : K, 1 < ratio → 0 < log ratio) {piece : Piece K} (composed : piece.Composed log) :
    piece.Playable log := by
  cases composed with
  | silence made apart => exact .inl (silence_eq_ok made).2.1
  | @stimulus segmentId voice durationS gainDb downstreamGainDb piece made kind apart =>
      obtain ⟨sweep, swept, some, rfl⟩ := stimulus_eq_ok made
      refine .inr ⟨⟨voice.channel, rfl⟩, .inr ⟨kind, ?_⟩⟩
      obtain ⟨-, eq⟩ := wholeCycles_of_ok swept
      have whole : (sweep.nSamples.toNat : ℤ) = sweep.nSamples := Int.toNat_of_nonneg (by omega)
      have cast : ((sweep.nSamples.toNat : ℕ) : K) = sweep.nSamples := by
        exact_mod_cast congrArg (fun count : ℤ => (count : K)) whole
      have positive : 0 < sweep.nSamples := by omega
      have lower : sweep.f1 = voice.f1Hz := by rw [eq]; rfl
      have upper : sweep.f2 = voice.f2Hz := by rw [eq]; rfl
      rw [eq] at positive
      obtain ⟨again, derived, same⟩ := synchronizedSweepMetadata_again rises (sweepable_of_ok swept) (by decide) positive
      rw [← eq] at derived same
      refine ⟨again, bind_eq_ok.mpr ⟨again, ?_, if_pos (same.trans whole.symm)⟩⟩
      rw [lower, upper, cast]
      exact derived

omit [Field K] [LinearOrder K] [IsStrictOrderedRing K] [FloorRing K] in
theorem place_clear (cursor : ℕ) (pieces : List (Piece K)) : (place cursor pieces).Pairwise Clear := by
  induction pieces generalizing cursor with
  | nil => exact .nil
  | cons piece pieces ih =>
      refine .cons (fun segment mem => .inl ?_) (ih _)
      exact (place_within mem).1

omit [Field K] [LinearOrder K] [IsStrictOrderedRing K] [FloorRing K] in
theorem clear_append {first second : List (ProgramSegment K)} {at_ : ℕ} (one : first.Pairwise Clear) (other : second.Pairwise Clear)
    (ends : ∀ segment ∈ first, segment.endSample ≤ at_) (starts : ∀ segment ∈ second, at_ ≤ segment.startSample) :
    (first ++ second).Pairwise Clear :=
  List.pairwise_append.mpr ⟨one, other, fun segment mem next there => .inl ((ends segment mem).trans (starts next there))⟩

end pieces

section compose

variable {plan : Plan K} {schedule : Schedule K}

-- Tones are on one channel each.
omit [IsStrictOrderedRing K] [FloorRing K] in
theorem courtesyTones_clear (plan : Plan K) : (courtesyTones plan).Pairwise Clear := by
  unfold courtesyTones
  refine List.Pairwise.filterMap _ (fun one other apart tone made otherTone makes => ?_) List.nodup_range
  exact .inr ⟨one, other, (courtesyTone_eq made).2.1, (courtesyTone_eq makes).2.1, apart⟩

omit [IsStrictOrderedRing K] [FloorRing K] in
theorem courtesyTones_ends {tone : ProgramSegment K} (mem : tone ∈ courtesyTones plan) :
    tone.startSample = span plan.head ∧ tone.endSample = span plan.head + courtesyToneNSamples := by
  obtain ⟨-, -, start, samples⟩ := mem_courtesyTones mem
  exact ⟨start, by rw [ProgramSegment.endSample, start, samples]⟩

omit [IsStrictOrderedRing K] [FloorRing K] in
/-- Nothing overlaps around a prelude but its tones. -/
theorem announced_clear (plan : Plan K) :
    (place 0 plan.head ++ courtesyTones plan ++ [courtesyGap (span plan.head)] ++ place (span plan.head + preludeN) plan.body).Pairwise
      Clear := by
  have headEnds : ∀ segment ∈ place 0 plan.head, segment.endSample ≤ span plan.head := by
    intro segment mem
    have ends := (place_within mem).2.1
    rwa [Nat.zero_add] at ends
  have tones := clear_append (place_clear 0 plan.head) (courtesyTones_clear plan) headEnds fun tone mem => (courtesyTones_ends mem).1.ge
  have toneEnds : ∀ segment ∈ place 0 plan.head ++ courtesyTones plan, segment.endSample ≤ span plan.head + courtesyToneNSamples := by
    intro segment mem
    obtain mem | mem := List.mem_append.mp mem
    · exact (headEnds segment mem).trans (Nat.le_add_right _ _)
    · exact (courtesyTones_ends mem).2.le
  have gap := clear_append tones (List.pairwise_singleton Clear (courtesyGap (span plan.head))) toneEnds fun segment mem => by
    rw [List.mem_singleton.mp mem]
    rfl
  refine clear_append gap (place_clear _ _) (fun segment mem => ?_) fun segment mem => (place_within mem).1
  obtain mem | mem := List.mem_append.mp mem
  · exact (toneEnds segment mem).trans (by unfold preludeN; omega)
  · rw [List.mem_singleton.mp mem]
    exact (courtesyGap_end _).le

theorem compose_renderable (rises : ∀ ratio : K, 1 < ratio → 0 < log ratio) (composed : Composed log plan.pieces) {courtesyPrelude : Bool}
    (made : plan.compose courtesyPrelude = .ok schedule) : Renderable log schedule := by
  cases courtesyPrelude with
  | false =>
      obtain ⟨rfl, -, narrow, bounded⟩ := finalize_eq_ok.mp made
      refine ⟨bounded, narrow, place_clear _ _, fun segment mem => ?_⟩
      exact (composed segment.toPiece (place_within mem).2.2).playable rises
  | true =>
      rw [compose_true] at made
      obtain ⟨rfl, -, narrow, bounded⟩ := finalize_eq_ok.mp made
      refine ⟨bounded, narrow, ?_, fun segment mem => ?_⟩
      · exact announced_clear plan
      · simp only [List.mem_append, List.mem_singleton] at mem
        obtain ((mem | mem) | rfl) | mem := mem
        · exact (composed segment.toPiece (List.mem_append_left _ (place_within mem).2.2)).playable rises
        · obtain ⟨kind, ⟨channel, -, carried⟩, -, samples⟩ := mem_courtesyTones mem
          exact .inr ⟨⟨channel, carried⟩, .inl ⟨kind, samples⟩⟩
        · exact .inl rfl
        · exact (composed segment.toPiece (List.mem_append_right _ (place_within mem).2.2)).playable rises

end compose

section widened

variable {schedule widened : Schedule K} {early : List (ProgramSegment K)} {cursor : ℕ} {before rest : List (Piece K)} {gap sweep : Piece K}

omit [IsStrictOrderedRing K] in
/-- Widening leaves a schedule as it is, or makes the piece before the sweep longer. -/
theorem widenForHarmonics_cases {channels : ℕ} (fronted : Fronted schedule.segments early cursor before gap sweep rest)
    (made : widenForHarmonics log channels schedule = .ok widened) :
    widened = schedule ∨ ∃ samples, finalize .verify channels (early ++ place cursor (before ++ gap.lengthen samples :: sweep :: rest))
      (schedule.totalSamples + samples) = .ok widened := by
  unfold widenForHarmonics at made
  rw [fronted.find?_sweep] at made
  obtain ⟨derived, -, made⟩ := bind_eq_ok.mp made
  dsimp only at made
  rw [fronted.widenGap_eq] at made
  split at made
  · exact .inl (Except.ok.inj made).symm
  · exact .inr ⟨_, made⟩

omit [Field K] [LinearOrder K] [IsStrictOrderedRing K] [FloorRing K] in
-- What is placed with a longer gap was placed before, and no later.
theorem exists_unlengthened {samples : ℕ} {segment : ProgramSegment K}
    (mem : segment ∈ place cursor (before ++ gap.lengthen samples :: sweep :: rest)) :
    ∃ earlier ∈ place cursor (before ++ gap :: sweep :: rest), earlier.startSample ≤ segment.startSample ∧
      earlier.channel = segment.channel ∧ (segment.toPiece = earlier.toPiece ∨ segment.toPiece = gap.lengthen samples) := by
  rw [place_append] at mem ⊢
  obtain mem | mem := List.mem_append.mp mem
  · exact ⟨segment, List.mem_append_left _ mem, le_rfl, rfl, .inl rfl⟩
  · obtain rfl | mem := List.mem_cons.mp mem
    · exact ⟨⟨gap, cursor + span before⟩, by simp [place], le_rfl, rfl, .inr rfl⟩
    · have moved : cursor + span before + (gap.lengthen samples).nSamples = cursor + span before + gap.nSamples + samples := by
        simp [Piece.lengthen, Nat.add_assoc]
      rw [moved, ← place_shift] at mem
      obtain ⟨earlier, there, rfl⟩ := List.mem_map.mp mem
      exact ⟨earlier, List.mem_append_right _ (List.mem_cons_of_mem _ there), Nat.le_add_right _ _, rfl, .inl rfl⟩

omit [IsStrictOrderedRing K] in
theorem widened_renderable {channels : ℕ} (able : Renderable log schedule) (fronted : Fronted schedule.segments early cursor before gap sweep rest)
    (silent : gap.kind = .silence) (made : widenForHarmonics log channels schedule = .ok widened) : Renderable log widened := by
  obtain rfl | ⟨samples, finalized⟩ := widenForHarmonics_cases fronted made
  · exact able
  obtain ⟨rfl, -, narrow, bounded⟩ := finalize_eq_ok.mp finalized
  have clear := able.clear
  rw [fronted.laid] at clear
  obtain ⟨front, -, across⟩ := List.pairwise_append.mp clear
  refine ⟨bounded, narrow, List.pairwise_append.mpr ⟨front, place_clear _ _, fun first mem second there => ?_⟩, fun segment mem => ?_⟩
  · obtain ⟨earlier, was, start, channel, -⟩ := exists_unlengthened there
    obtain ends | ⟨one, other, carried, carriedToo, apart⟩ := across first mem earlier was
    · exact .inl (ends.trans start)
    · exact .inr ⟨one, other, carried, channel ▸ carriedToo, apart⟩
  · obtain mem | mem := List.mem_append.mp mem
    · exact able.playable segment (by rw [fronted.laid]; exact List.mem_append_left _ mem)
    · obtain ⟨earlier, was, -, -, same | longer⟩ := exists_unlengthened mem
      · rw [same]
        exact able.playable earlier (by rw [fronted.laid]; exact List.mem_append_right _ was)
      · rw [longer]
        exact .inl silent

variable {args : VerifyArgs K} {parts : VerifyParts K} {base : Schedule K}

omit [IsStrictOrderedRing K] in
/-- The summed sweep of a VERIFY program has silence right before it. -/
theorem exists_fronted (made : parts.Made log args) {courtesyPrelude : Bool}
    (composed : (leadPlan .verify 1 parts.pilots parts.guard [parts.sweep, parts.tail] args.downstreamGainDb).compose courtesyPrelude =
      .ok base) :
    ∃ early cursor before gap, Fronted base.segments early cursor before gap parts.sweep [parts.tail] ∧ gap.kind = .silence := by
  have guard := (silence_eq_ok made.guard).2.1
  obtain ⟨-, lead⟩ | ⟨early, last, gap, -, leading, lead⟩ := leadPlan_cases made
  · rw [lead] at composed
    cases courtesyPrelude with
    | false => exact ⟨_, _, _, _, fronted_unpiloted made composed, guard⟩
    | true => exact ⟨_, _, _, _, fronted_unpiloted_announced made composed, rfl⟩
  · rw [lead] at composed
    cases courtesyPrelude with
    | false => exact ⟨_, _, _, _, fronted_piloted made leading composed, guard⟩
    | true => exact ⟨_, _, _, _, fronted_piloted_announced made leading composed, guard⟩

theorem buildVerifyProgram_renderable (rises : ∀ ratio : K, 1 < ratio → 0 < log ratio) {courtesyPrelude : Bool}
    (built : buildVerifyProgram log args courtesyPrelude = .ok schedule) : Renderable log schedule := by
  obtain ⟨plan, base, planned, composed, same, widens⟩ := buildVerifyProgram_eq_ok built
  have able := compose_renderable rises (verifyPlan_announceable planned).composed composed
  by_cases band : args.sweepBandHz.isNone
  · rwa [same band]
  · obtain ⟨parts, made, rfl⟩ := verifyPlan_eq_ok planned
    obtain ⟨early, cursor, before, gap, fronted, silent⟩ := exists_fronted made composed
    exact widened_renderable able fronted silent (widens band)

end widened

section probe

omit [IsStrictOrderedRing K] in
theorem levelProbe_eq_ok {phase : Phase} {voice : Voice K} {gainsDb : List K} {gapS downstreamGainDb : K} {channels : ℕ} {schedule : Schedule K}
    (kind : voice.kind.isStimulus = true) (made : levelProbe log phase voice gainsDb gapS downstreamGainDb channels = .ok schedule) :
    ∃ pieces, Composed log pieces ∧ finalize phase channels (place 0 pieces) (span pieces) = .ok schedule := by
  obtain ⟨gapN, -, made⟩ := bind_eq_ok.mp made
  obtain ⟨ambient, ambient_made, made⟩ := bind_eq_ok.mp made
  obtain ⟨bursts, bursts_made, made⟩ := bind_eq_ok.mp made
  refine ⟨ambient :: bursts.flatten, fun piece mem => ?_, made⟩
  obtain rfl | mem := List.mem_cons.mp mem
  · exact pilotAmbientWindow_composed ambient_made
  · obtain ⟨pieces, there, mem⟩ := List.mem_flatten.mp mem
    obtain ⟨⟨gainDb, index⟩, -, made⟩ := exists_of_mem_mapM bursts_made there
    obtain ⟨burst, burst_made, made⟩ := bind_eq_ok.mp made
    obtain ⟨gap, gap_made, made⟩ := bind_eq_ok.mp made
    obtain rfl := Except.ok.inj made
    simp only [List.mem_cons, List.not_mem_nil, or_false] at mem
    obtain rfl | rfl := mem
    · exact .stimulus burst_made kind (by simp [Apart, levelProbeSegmentStart])
    · exact .silence gap_made (by simp [Apart, levelProbeSegmentStart])

theorem levelProbe_renderable (rises : ∀ ratio : K, 1 < ratio → 0 < log ratio) {phase : Phase} {voice : Voice K} {gainsDb : List K}
    {gapS downstreamGainDb : K} {channels : ℕ} {schedule : Schedule K} (kind : voice.kind.isStimulus = true)
    (made : levelProbe log phase voice gainsDb gapS downstreamGainDb channels = .ok schedule) : Renderable log schedule := by
  obtain ⟨pieces, composed, finalized⟩ := levelProbe_eq_ok kind made
  obtain ⟨rfl, -, narrow, bounded⟩ := finalize_eq_ok.mp finalized
  exact ⟨bounded, narrow, place_clear _ _, fun segment mem => (composed segment.toPiece (place_within mem).2.2).playable rises⟩

end probe

end Jts.Excitation
