import Jts.Excitation.Program
import Jts.Shared.Outcome

set_option autoImplicit false

namespace Jts.Excitation

section place

variable {K : Type}

@[simp] theorem span_nil : span ([] : List (Piece K)) = 0 := rfl

@[simp] theorem span_cons (piece : Piece K) (pieces : List (Piece K)) : span (piece :: pieces) = piece.nSamples + span pieces := by
  simp [span]

@[simp] theorem span_append (first second : List (Piece K)) : span (first ++ second) = span first + span second := by simp [span]

theorem place_append (cursor : ℕ) (first second : List (Piece K)) :
    place cursor (first ++ second) = place cursor first ++ place (cursor + span first) second := by
  induction first generalizing cursor with
  | nil => simp [place]
  | cons piece first ih => simp [place, ih, Nat.add_assoc]

theorem place_shift (samples cursor : ℕ) (pieces : List (Piece K)) :
    (place cursor pieces).map (.shift samples) = place (cursor + samples) pieces := by
  induction pieces generalizing cursor with
  | nil => rfl
  | cons piece pieces ih => simp [place, ih, ProgramSegment.shift, Nat.add_right_comm]

theorem place_unshift (samples cursor : ℕ) (pieces : List (Piece K)) :
    (place (cursor + samples) pieces).map (.unshift samples) = place cursor pieces := by
  rw [← place_shift, List.map_map]
  refine (List.map_congr_left fun segment _ => ?_).trans (List.map_id _)
  simp [ProgramSegment.shift, ProgramSegment.unshift]

theorem place_within {cursor : ℕ} {pieces : List (Piece K)} {segment : ProgramSegment K} (mem : segment ∈ place cursor pieces) :
    cursor ≤ segment.startSample ∧ segment.endSample ≤ cursor + span pieces ∧ segment.toPiece ∈ pieces := by
  induction pieces generalizing cursor with
  | nil => cases mem
  | cons piece pieces ih =>
      rw [place, List.mem_cons] at mem
      obtain rfl | mem := mem
      · exact ⟨le_refl _, by simp [ProgramSegment.endSample], List.mem_cons_self⟩
      · obtain ⟨low, high, there⟩ := ih mem
        refine ⟨(Nat.le_add_right _ _).trans low, ?_, List.mem_cons_of_mem _ there⟩
        simpa [Nat.add_assoc] using high

theorem start_lt_end (segment : ProgramSegment K) : segment.startSample < segment.endSample :=
  Nat.lt_add_of_pos_right segment.some

theorem place_ne_nil {pieces : List (Piece K)} (some : pieces ≠ []) (cursor : ℕ) : place cursor pieces ≠ [] := by
  obtain ⟨piece, rest, rfl⟩ := List.exists_cons_of_ne_nil some
  exact List.cons_ne_nil _ _

theorem exists_placed {cursor : ℕ} {pieces : List (Piece K)} {piece : Piece K} (mem : piece ∈ pieces) :
    ∃ segment ∈ place cursor pieces, segment.toPiece = piece := by
  induction pieces generalizing cursor with
  | nil => cases mem
  | cons first pieces ih =>
      obtain rfl | mem := List.mem_cons.mp mem
      · exact ⟨⟨piece, cursor⟩, List.mem_cons_self, rfl⟩
      · obtain ⟨segment, there, eq⟩ := ih mem
        exact ⟨segment, List.mem_cons_of_mem _ there, eq⟩

-- Where one list of pieces ends and the next one starts can be told from the starts.
theorem filter_before (head body : List (Piece K)) :
    (place 0 (head ++ body)).filter (fun segment => segment.startSample < span head) = place 0 head := by
  rw [place_append, List.filter_append, List.filter_eq_self.mpr, List.filter_eq_nil_iff.mpr, List.append_nil]
  · intro segment mem
    simpa using (place_within mem).1
  · intro segment mem
    have ends := (place_within mem).2.1
    rw [Nat.zero_add] at ends
    exact decide_eq_true ((start_lt_end segment).trans_le ends)

theorem filter_after (head body : List (Piece K)) :
    (place 0 (head ++ body)).filter (fun segment => span head ≤ segment.startSample) = place (span head) body := by
  rw [place_append, List.filter_append, List.filter_eq_nil_iff.mpr, List.filter_eq_self.mpr, List.nil_append, Nat.zero_add]
  · intro segment mem
    simpa using (place_within mem).1
  · intro segment mem
    have ends := (place_within mem).2.1
    rw [Nat.zero_add] at ends
    simpa using (start_lt_end segment).trans_le ends

theorem any_channel {segment : ProgramSegment K} {channels : ℕ} :
    (segment.channel.any fun channel => decide (channels ≤ channel)) = true ↔ ∃ channel, segment.channel = some channel ∧ channels ≤ channel := by
  cases segment.channel <;> simp

end place

variable {K : Type} [Field K] [LinearOrder K]

section prelude

def courtesyTones (plan : Plan K) : List (ProgramSegment K) :=
  (List.range plan.channels).filterMap (courtesyTone (place 0 plan.pieces) (span plan.head) plan.downstreamGainDb)

theorem insertCourtesyPrelude_eq (plan : Plan K) :
    insertCourtesyPrelude (place 0 plan.pieces) (span plan.pieces) (span plan.head) plan.channels plan.downstreamGainDb =
      (place 0 plan.head ++ courtesyTones plan ++ [courtesyGap (span plan.head)] ++ place (span plan.head + preludeN) plan.body,
        span plan.pieces + preludeN) := by
  rw [insertCourtesyPrelude, Plan.pieces, filter_before, filter_after, place_shift]
  rfl

theorem courtesyTone_eq {segments : List (ProgramSegment K)} {at_ channel : ℕ} {downstreamGainDb : K} {tone : ProgramSegment K}
    (made : courtesyTone segments at_ downstreamGainDb channel = some tone) :
    tone.kind = .courtesyTone ∧ tone.channel = some channel ∧ tone.startSample = at_ ∧ tone.nSamples = courtesyToneNSamples := by
  unfold courtesyTone at made
  split at made
  · cases made
  · obtain rfl := Option.some.inj made
    exact ⟨rfl, rfl, rfl, rfl⟩

theorem mem_courtesyTones {plan : Plan K} {tone : ProgramSegment K} (mem : tone ∈ courtesyTones plan) :
    tone.kind = .courtesyTone ∧ (∃ channel < plan.channels, tone.channel = some channel) ∧ tone.startSample = span plan.head ∧
      tone.nSamples = courtesyToneNSamples := by
  obtain ⟨channel, range, made⟩ := List.mem_filterMap.mp mem
  obtain ⟨kind, at_, start, length⟩ := courtesyTone_eq made
  exact ⟨kind, ⟨channel, List.mem_range.mp range, at_⟩, start, length⟩

theorem courtesyTones_ne_nil {plan : Plan K} {piece : Piece K} {channel : ℕ} (mem : piece ∈ plan.pieces) (stimulus : piece.kind.isStimulus = true)
    (carried : piece.channel = some channel) (narrow : channel < plan.channels) : courtesyTones plan ≠ [] := by
  obtain ⟨segment, there, eq⟩ := @exists_placed K 0 _ _ mem
  have gain : segment.gainDb ∈ channelGains (place 0 plan.pieces) channel := by
    refine List.mem_map.mpr ⟨segment, List.mem_filter.mpr ⟨there, ?_⟩, rfl⟩
    simp [eq, stimulus, carried]
  have made : (courtesyTone (place 0 plan.pieces) (span plan.head) plan.downstreamGainDb channel).isSome := by
    unfold courtesyTone
    split
    · rename_i none
      rw [none] at gain
      cases gain
    · rfl
  obtain ⟨tone, tone_eq⟩ := Option.isSome_iff_exists.mp made
  exact List.ne_nil_of_mem (List.mem_filterMap.mpr ⟨channel, List.mem_range.mpr narrow, tone_eq⟩)

omit [Field K] [LinearOrder K] in
theorem finalize_eq_ok {phase : Phase} {channels total : ℕ} {segments : List (ProgramSegment K)} {schedule : Schedule K} :
    finalize phase channels segments total = .ok schedule ↔
      schedule = ⟨phase, programSampleRateHz, channels, segments, total⟩ ∧ segments ≠ [] ∧
        (∀ segment ∈ segments, ∀ channel, segment.channel = some channel → channel < channels) ∧
        ∀ segment ∈ segments, segment.endSample ≤ total := by
  unfold finalize
  by_cases none : segments = []
  · simp [none]
  rw [if_neg none]
  by_cases wide : (segments.any fun segment => segment.channel.any fun channel => channels ≤ channel) = true
  · rw [if_pos wide]
    obtain ⟨segment, mem, any⟩ := List.any_eq_true.mp wide
    obtain ⟨channel, carried, out⟩ := any_channel.mp any
    refine iff_of_false nofun fun ⟨_, _, bounded, _⟩ => ?_
    exact absurd (bounded segment mem channel carried) (not_lt.mpr out)
  rw [if_neg wide]
  have bounded : ∀ segment ∈ segments, ∀ channel, segment.channel = some channel → channel < channels := by
    intro segment mem channel carried
    by_contra out
    exact wide (List.any_eq_true.mpr ⟨segment, mem, any_channel.mpr ⟨channel, carried, not_lt.mp out⟩⟩)
  by_cases long : (segments.any fun segment => total < segment.endSample) = true
  · rw [if_pos long]
    obtain ⟨segment, mem, past⟩ := List.any_eq_true.mp long
    refine iff_of_false nofun fun ⟨_, _, _, ends⟩ => ?_
    exact absurd (ends segment mem) (not_le.mpr (of_decide_eq_true past))
  · rw [if_neg long]
    have ends : ∀ segment ∈ segments, segment.endSample ≤ total := by
      intro segment mem
      by_contra past
      exact long (List.any_eq_true.mpr ⟨segment, mem, decide_eq_true (not_le.mp past)⟩)
    exact ⟨fun made => ⟨(Except.ok.inj made).symm, none, bounded, ends⟩, fun ⟨eq, _⟩ => by rw [eq]⟩

theorem compose_plain {plan : Plan K} {schedule : Schedule K} (made : plan.compose false = .ok schedule) :
    schedule = ⟨plan.phase, programSampleRateHz, plan.channels, place 0 plan.pieces, span plan.pieces⟩ :=
  (finalize_eq_ok.mp made).1

theorem compose_true (plan : Plan K) :
    plan.compose true =
      finalize plan.phase plan.channels
        (place 0 plan.head ++ courtesyTones plan ++ [courtesyGap (span plan.head)] ++ place (span plan.head + preludeN) plan.body)
        (span plan.pieces + preludeN) := by
  rw [Plan.compose, if_pos rfl, insertCourtesyPrelude_eq]

theorem compose_announced {plan : Plan K} {schedule : Schedule K} (made : plan.compose true = .ok schedule) :
    schedule =
      { phase := plan.phase
        sampleRateHz := programSampleRateHz
        channels := plan.channels
        segments :=
          place 0 plan.head ++ courtesyTones plan ++ [courtesyGap (span plan.head)] ++ place (span plan.head + preludeN) plan.body
        totalSamples := span plan.pieces + preludeN } := by
  rw [compose_true] at made
  exact (finalize_eq_ok.mp made).1

end prelude

end Jts.Excitation
