import Mathlib
import Jts.Tts.Training
import Jts.Shared.Transition

set_option autoImplicit false

namespace Jts.Tts.Fanin

open Jts.Tts Jts.Shared.Transition

namespace TtsMixer

-- Audio of the segment is queued, or more may still come.
def Held (mixer : TtsMixer) (segment : Nat) : Prop :=
  (∃ block ∈ mixer.queue, block.segmentSerial = segment) ∨
    mixer.activeSegmentKind.isSome = true ∧ mixer.activeSegmentSerial = segment

end TtsMixer

/-- The queue beside the ends that have been received: a block carries the mark only as the last one of a segment that
has ended, and the loop passes the segments in their order. -/
structure Marked (mixer : TtsMixer) : Prop where
  ordered : Ordered mixer
  later : ∀ segment, mixer.activeSegmentSerial < segment → .ended segment ∉ mixer.history
  opened : mixer.activeSegmentKind.isSome = true → .ended mixer.activeSegmentSerial ∉ mixer.history
  marked : ∀ block ∈ mixer.queue, block.completesAssistantReference = true → .ended block.segmentSerial ∈ mixer.history
  last : mixer.queue.Pairwise fun block next =>
    block.completesAssistantReference = true → block.segmentSerial < next.segmentSerial
  passed : ∀ segment stamp context, .mixed segment stamp context ∈ mixer.history →
    segment ≤ mixer.activeSegmentSerial ∧ ∀ block ∈ mixer.queue, segment ≤ block.segmentSerial
  uniform : ∀ block ∈ mixer.queue, ∀ other ∈ mixer.queue, block.segmentSerial = other.segmentSerial →
    block.assistantReferenceEligible = other.assistantReferenceEligible
  kinds : ∀ block ∈ mixer.queue, mixer.activeSegmentKind.isSome = true →
    block.segmentSerial = mixer.activeSegmentSerial →
      block.assistantReferenceEligible = (mixer.activeSegmentKind == some .assistant)
  kept : ∀ segment, mixer.Held segment → framesLost segment mixer.flushes = 0

namespace Marked

variable {mixer next : TtsMixer}

theorem start (maxPendingFrames : Nat) : Marked (.new maxPendingFrames) where
  ordered := .start maxPendingFrames
  later := by simp [TtsMixer.new]
  opened := by simp [TtsMixer.new]
  marked := by simp [TtsMixer.new]
  last := .nil
  passed := by simp [TtsMixer.new]
  uniform := by simp [TtsMixer.new]
  kinds := by simp [TtsMixer.new]
  kept := fun _ _ => rfl

-- Only the queue, the open segment and the ends and frames of the history are read.
theorem transfer (marked : Marked mixer) (ordered : Ordered next) (queue : next.queue = mixer.queue)
    (kind : next.activeSegmentKind = mixer.activeSegmentKind)
    (active : next.activeSegmentSerial = mixer.activeSegmentSerial) (flushes : next.flushes = mixer.flushes)
    (ended : ∀ segment, .ended segment ∈ next.history ↔ .ended segment ∈ mixer.history)
    (mixed : ∀ segment stamp context, .mixed segment stamp context ∈ next.history →
      .mixed segment stamp context ∈ mixer.history) : Marked next where
  ordered := ordered
  later := fun segment above => by
    rw [ended]
    exact marked.later segment (active ▸ above)
  opened := fun live => by
    rw [ended, active]
    exact marked.opened (kind ▸ live)
  marked := fun block among mark => (ended _).mpr (marked.marked block (queue ▸ among) mark)
  last := queue ▸ marked.last
  passed := fun segment stamp context among => by
    rw [active, queue]
    exact marked.passed segment stamp context (mixed _ _ _ among)
  uniform := queue ▸ marked.uniform
  kinds := by
    rw [queue, kind, active]
    exact marked.kinds
  kept := fun segment held => by
    rw [flushes]
    unfold TtsMixer.Held at held
    rw [queue, kind, active] at held
    exact marked.kept segment held

theorem beginSegmentGain (marked : Marked mixer) (kind : SegmentKind) (decision : AssistantGainDecision) :
    Marked (mixer.beginSegmentGain kind decision) where
  ordered := marked.ordered.beginSegmentGain kind decision
  later := fun segment above => marked.later segment (marked.ordered.fresh.trans above)
  opened := fun _ => marked.later _ marked.ordered.fresh
  marked := marked.marked
  last := marked.last
  passed := fun segment stamp context among => by
    obtain ⟨below, before⟩ := marked.passed segment stamp context among
    exact ⟨below.trans marked.ordered.fresh.le, before⟩
  uniform := marked.uniform
  kinds := fun block among _ same => by
    have bounded := marked.ordered.bounded block among
    have fresh := marked.ordered.fresh
    have own : block.segmentSerial = mixer.nextSegmentSerial := same
    omega
  kept := fun segment held => by
    rcases held with queued | ⟨_, same⟩
    · exact marked.kept segment (.inl queued)
    · have own : mixer.nextSegmentSerial = segment := same
      have none_ := marked.ordered.future segment (own ▸ marked.ordered.fresh)
      have counts := marked.ordered.counts segment
      change framesLost segment mixer.flushes = 0
      omega

theorem startSegment (marked : Marked mixer) (providerItemId : Option Token) (kind : SegmentKind)
    (decision : AssistantGainDecision) : Marked (mixer.startSegment providerItemId kind decision) := by
  have same : Marked { mixer with ledger := mixer.ledger.startSegment providerItemId kind } :=
    marked.transfer { marked.ordered with } rfl rfl rfl rfl (fun _ => Iff.rfl) fun _ _ _ => id
  exact same.beginSegmentGain kind decision

theorem openSegment (marked : Marked mixer) (decision : AssistantGainDecision) :
    Marked (mixer.openSegment decision) ∧ (mixer.openSegment decision).activeSegmentKind.isSome = true := by
  unfold TtsMixer.openSegment
  split_ifs with silent
  · exact ⟨marked.beginSegmentGain _ _, rfl⟩
  · refine ⟨marked, ?_⟩
    rw [← marked.ordered.opened]
    exact Option.isSome_iff_ne_none.mpr fun none_ => silent (by rw [none_]; rfl)

theorem enqueueAudio (marked : Marked mixer) (live : mixer.activeSegmentKind.isSome = true) (stamp : Nat)
    {chunk : Chunk} (some_ : chunk.samples ≠ []) : Marked (mixer.enqueueAudio stamp chunk) := by
  have ended (segment : Nat) : .ended segment ∈ (mixer.enqueueAudio stamp chunk).history →
      .ended segment ∈ mixer.history := by
    simp [TtsMixer.enqueueAudio, TtsMixer.pushBlock, TtsMixer.note]
  have mixed (segment stamp' : Nat) (context : Option VolumeContext) :
      .mixed segment stamp' context ∈ (mixer.enqueueAudio stamp chunk).history →
        .mixed segment stamp' context ∈ mixer.history := by
    simp [TtsMixer.enqueueAudio, TtsMixer.pushBlock, TtsMixer.note]
  have matches_ (block : QueuedAudioBlock) (among : block ∈ (mixer.enqueueAudio stamp chunk).queue)
      (own : block.segmentSerial = mixer.activeSegmentSerial) :
      block.assistantReferenceEligible = (mixer.activeSegmentKind == some .assistant) := by
    rcases List.mem_append.mp among with old | new
    · exact marked.kinds block old live own
    · rw [List.mem_singleton.mp new]
  refine {
    ordered := marked.ordered.enqueueAudio stamp some_
    later := fun segment above among => marked.later segment above (ended segment among)
    opened := fun _ among => marked.opened live (ended _ among)
    marked := fun block among mark => ?_
    last := ?_
    passed := fun segment stamp' context among => ?_
    uniform := fun block among other among' same => ?_
    kinds := fun block among _ own => matches_ block among own
    kept := fun segment held => ?_ }
  · rcases List.mem_append.mp among with old | new
    · exact .tail _ (marked.marked block old mark)
    · rw [List.mem_singleton.mp new] at mark
      cases mark
  · refine List.pairwise_append.mpr ⟨marked.last, List.pairwise_singleton _ _, fun block old other new mark => ?_⟩
    rw [List.mem_singleton.mp new]
    refine lt_of_le_of_ne (marked.ordered.bounded block old) fun same => marked.opened live ?_
    have ended := marked.marked block old mark
    rwa [same] at ended
  · obtain ⟨below, before⟩ := marked.passed segment stamp' context (mixed _ _ _ among)
    refine ⟨below, fun block here => ?_⟩
    rcases List.mem_append.mp here with old | new
    · exact before block old
    · rw [List.mem_singleton.mp new]
      exact below
  · by_cases own : block.segmentSerial = mixer.activeSegmentSerial
    · rw [matches_ block among own, matches_ other among' (same ▸ own)]
    · rcases List.mem_append.mp among with old | new
      · rcases List.mem_append.mp among' with old' | new'
        · exact marked.uniform block old other old' same
        · rw [List.mem_singleton.mp new'] at same
          exact absurd same own
      · rw [List.mem_singleton.mp new] at own
        exact absurd rfl own
  · apply marked.kept segment
    rcases held with ⟨block, among, own⟩ | ⟨_, same⟩
    · rcases List.mem_append.mp among with old | new
      · exact .inl ⟨block, old, own⟩
      · rw [List.mem_singleton.mp new] at own
        exact .inr ⟨live, own⟩
    · exact .inr ⟨live, same⟩

theorem mem_markCompletes {serial : Nat} {queue found : List QueuedAudioBlock}
    (search : TtsMixer.markCompletes serial queue = some found) {block : QueuedAudioBlock} (among : block ∈ found) :
    block ∈ queue ∨ block.segmentSerial = serial := by
  induction queue generalizing found with
  | nil => cases search
  | cons head rest ih =>
    simp only [TtsMixer.markCompletes] at search
    split at search
    next later laterFound =>
      cases search
      rcases List.mem_cons.mp among with rfl | inside
      · exact .inl (.head _)
      · exact (ih laterFound inside).imp_left (List.mem_cons_of_mem _)
    next =>
      split_ifs at search with own
      cases search
      rcases List.mem_cons.mp among with rfl | inside
      · exact .inr own
      · exact .inl (.tail _ inside)

theorem markCompletes_none {serial : Nat} {queue : List QueuedAudioBlock} :
    TtsMixer.markCompletes serial queue = none ↔ ∀ block ∈ queue, block.segmentSerial ≠ serial := by
  induction queue with
  | nil => simp [TtsMixer.markCompletes]
  | cons head rest ih =>
    simp only [TtsMixer.markCompletes, List.forall_mem_cons]
    split
    next found search =>
      have some_ : ¬ ∀ block ∈ rest, block.segmentSerial ≠ serial := by
        rw [← ih, search]
        simp
      simp [some_]
    next search =>
      simp only [ite_eq_right_iff, reduceCtorEq, imp_false]
      exact ⟨fun other => ⟨other, ih.mp search⟩, And.left⟩

-- The block that the search marks is the last one of its segment.
theorem pairwise_markCompletes {serial : Nat} {queue found : List QueuedAudioBlock}
    (search : TtsMixer.markCompletes serial queue = some found)
    (sorted : (queue.map (·.segmentSerial)).Pairwise (· ≤ ·))
    (last : queue.Pairwise fun block next =>
      block.completesAssistantReference = true → block.segmentSerial < next.segmentSerial) :
    found.Pairwise fun block next =>
      block.completesAssistantReference = true → block.segmentSerial < next.segmentSerial := by
  induction queue generalizing found with
  | nil => cases search
  | cons head rest ih =>
    simp only [TtsMixer.markCompletes] at search
    rw [List.map_cons, List.pairwise_cons] at sorted
    obtain ⟨front, back⟩ := List.pairwise_cons.mp last
    split at search
    next later laterFound =>
      cases search
      refine List.pairwise_cons.mpr ⟨fun next among mark => ?_, ih laterFound sorted.2 back⟩
      obtain ⟨old, here, same⟩ := mem_of_unmark (TtsMixer.markCompletes_unmark laterFound) among
      have serial : (TtsMixer.unmark old).segmentSerial = (TtsMixer.unmark next).segmentSerial := by rw [same]
      exact (front old here mark).trans_eq serial
    next none_ =>
      split_ifs at search with own
      cases search
      refine List.pairwise_cons.mpr ⟨fun next among _ => ?_, back⟩
      have other := markCompletes_none.mp none_ next among
      have order := sorted.1 _ (List.mem_map_of_mem among)
      exact lt_of_le_of_ne order fun same => other (same.symm.trans own)

/-- SEGMENT_END of an open segment marks its last block, if one is left. -/
theorem end_ (marked : Marked mixer) (ordered : Ordered next)
    (queue : next.queue = mixer.queue ∨
      TtsMixer.markCompletes mixer.activeSegmentSerial mixer.queue = some next.queue)
    (silent : next.activeSegmentKind = none) (active : next.activeSegmentSerial = mixer.activeSegmentSerial)
    (flushes : next.flushes = mixer.flushes)
    (ended : ∀ segment, .ended segment ∈ next.history ↔
      .ended segment ∈ mixer.history ∨ segment = mixer.activeSegmentSerial)
    (mixed : ∀ segment stamp context, .mixed segment stamp context ∈ next.history →
      .mixed segment stamp context ∈ mixer.history) : Marked next := by
  have same : next.queue.map TtsMixer.unmark = mixer.queue.map TtsMixer.unmark := by
    rcases queue with same | found
    · rw [same]
    · exact TtsMixer.markCompletes_unmark found
  have old (block : QueuedAudioBlock) (among : block ∈ next.queue) : ∃ old ∈ mixer.queue,
      old.segmentSerial = block.segmentSerial ∧ old.assistantReferenceEligible = block.assistantReferenceEligible := by
    obtain ⟨old, here, unmarked⟩ := mem_of_unmark same among
    have serial : (TtsMixer.unmark old).segmentSerial = (TtsMixer.unmark block).segmentSerial := by rw [unmarked]
    have eligible : (TtsMixer.unmark old).assistantReferenceEligible =
        (TtsMixer.unmark block).assistantReferenceEligible := by rw [unmarked]
    exact ⟨old, here, serial, eligible⟩
  refine {
    ordered := ordered
    later := fun segment above => ?_
    opened := fun live => ?_
    marked := fun block among mark => ?_
    last := ?_
    passed := fun segment stamp context among => ?_
    uniform := fun block among other among' same => ?_
    kinds := fun block among live => ?_
    kept := fun segment held => ?_ }
  · rw [ended]
    rintro (before | rfl)
    · exact marked.later segment (active ▸ above) before
    · exact absurd above (by rw [active]; exact Nat.lt_irrefl _)
  · rw [silent] at live
    cases live
  · rw [ended]
    rcases queue with same | found
    · exact .inl (marked.marked block (same ▸ among) mark)
    · rcases mem_markCompletes found among with old | own
      · exact .inl (marked.marked block old mark)
      · exact .inr own
  · rcases queue with same | found
    · exact same ▸ marked.last
    · exact pairwise_markCompletes found marked.ordered.sorted marked.last
  · obtain ⟨below, before⟩ := marked.passed segment stamp context (mixed _ _ _ among)
    refine ⟨active ▸ below, fun block here => ?_⟩
    obtain ⟨first, inside, serial, _⟩ := old block here
    exact serial ▸ before first inside
  · obtain ⟨first, inside, serial, eligible⟩ := old block among
    obtain ⟨second, inside', serial', eligible'⟩ := old other among'
    rw [← eligible, ← eligible']
    exact marked.uniform first inside second inside' (serial.trans (same.trans serial'.symm))
  · rw [silent] at live
    cases live
  · rw [flushes]
    apply marked.kept segment
    rcases held with ⟨block, among, own⟩ | ⟨live, _⟩
    · obtain ⟨first, inside, serial, _⟩ := old block among
      exact .inl ⟨first, inside, serial.trans own⟩
    · rw [silent] at live
      cases live

-- With nothing queued and nothing open, only the past is left.
theorem cleared (marked : Marked mixer) (ordered : Ordered next) (queue : next.queue = [])
    (silent : next.activeSegmentKind = none) (active : next.activeSegmentSerial = mixer.activeSegmentSerial)
    (ended : ∀ segment, .ended segment ∈ next.history ↔ .ended segment ∈ mixer.history)
    (mixed : ∀ segment stamp context, .mixed segment stamp context ∈ next.history →
      .mixed segment stamp context ∈ mixer.history) : Marked next where
  ordered := ordered
  later := fun segment above => by
    rw [ended]
    exact marked.later segment (active ▸ above)
  opened := by simp [silent]
  marked := by simp [queue]
  last := by
    rw [queue]
    exact .nil
  passed := fun segment stamp context among => by
    rw [active, queue]
    exact ⟨(marked.passed segment stamp context (mixed _ _ _ among)).1, by simp⟩
  uniform := by simp [queue]
  kinds := by simp [queue]
  kept := by simp [TtsMixer.Held, queue, silent]

/-- The loop mixes the front block, which is of the lowest segment left. -/
theorem mixed (marked : Marked mixer) (ordered : Ordered next) {front : QueuedAudioBlock} {rest : List QueuedAudioBlock}
    (nonempty : mixer.queue = front :: rest) (queue : next.queue = popped front rest)
    (kind : next.activeSegmentKind = mixer.activeSegmentKind)
    (active : next.activeSegmentSerial = mixer.activeSegmentSerial) (flushes : next.flushes = mixer.flushes)
    (ended : ∀ segment, .ended segment ∈ next.history ↔ .ended segment ∈ mixer.history)
    (mixed : ∀ segment stamp context, .mixed segment stamp context ∈ next.history →
      .mixed segment stamp context ∈ mixer.history ∨ segment = front.segmentSerial) : Marked next := by
  have whole : front.Whole := marked.ordered.whole front (by rw [nonempty]; exact .head _)
  have sorted := marked.ordered.sorted
  have last := marked.last
  rw [nonempty] at last
  rw [nonempty, List.map_cons, List.pairwise_cons] at sorted
  have old (block : QueuedAudioBlock) (among : block ∈ next.queue) : ∃ old ∈ mixer.queue,
      old.segmentSerial = block.segmentSerial ∧
        old.assistantReferenceEligible = block.assistantReferenceEligible ∧
        old.completesAssistantReference = block.completesAssistantReference := by
    rw [queue] at among
    rw [nonempty]
    rcases mem_popped whole among with inside | ⟨rfl, _⟩
    · exact ⟨block, .tail _ inside, rfl, rfl, rfl⟩
    · exact ⟨front, .head _, rfl, rfl, rfl⟩
  refine {
    ordered := ordered
    later := fun segment above => ?_
    opened := fun live => ?_
    marked := fun block among mark => ?_
    last := ?_
    passed := fun segment stamp context among => ?_
    uniform := fun block among other among' same => ?_
    kinds := fun block among live own => ?_
    kept := fun segment held => ?_ }
  · rw [ended]
    exact marked.later segment (active ▸ above)
  · rw [ended, active]
    exact marked.opened (kind ▸ live)
  · obtain ⟨first, inside, serial, _, mark'⟩ := old block among
    rw [ended, ← serial]
    exact marked.marked first inside (mark'.trans mark)
  · rw [queue]
    unfold popped
    split_ifs
    · exact (List.pairwise_cons.mp last).2
    · exact List.pairwise_cons.mpr (List.pairwise_cons.mp last)
  · rw [active]
    rcases mixed segment stamp context among with before | rfl
    · obtain ⟨below, front_⟩ := marked.passed segment stamp context before
      refine ⟨below, fun block here => ?_⟩
      obtain ⟨first, inside, serial, _⟩ := old block here
      exact serial ▸ front_ first inside
    · refine ⟨marked.ordered.bounded front (by rw [nonempty]; exact .head _), fun block here => ?_⟩
      rw [queue] at here
      rcases mem_popped whole here with inside | ⟨rfl, _⟩
      · exact sorted.1 _ (List.mem_map_of_mem inside)
      · exact Nat.le_refl _
  · obtain ⟨first, inside, serial, eligible, _⟩ := old block among
    obtain ⟨second, inside', serial', eligible', _⟩ := old other among'
    rw [← eligible, ← eligible']
    exact marked.uniform first inside second inside' (serial.trans (same.trans serial'.symm))
  · obtain ⟨first, inside, serial, eligible, _⟩ := old block among
    rw [kind] at live ⊢
    rw [← eligible]
    exact marked.kinds first inside live (serial.trans (own.trans active))
  · rw [flushes]
    apply marked.kept segment
    rcases held with ⟨block, among, own⟩ | ⟨live, own⟩
    · obtain ⟨first, inside, serial, _⟩ := old block among
      exact .inl ⟨first, inside, serial.trans own⟩
    · exact .inr ⟨kind ▸ live, active ▸ own⟩

end Marked

-- Audio of the assistant segment is queued, or more may still come.
def TtsMixer.Assistant (mixer : TtsMixer) (segment : Nat) : Prop :=
  (∃ block ∈ mixer.queue, block.segmentSerial = segment ∧ block.assistantReferenceEligible = true) ∨
    mixer.activeSegmentKind = some .assistant ∧ mixer.activeSegmentSerial = segment

/-- What a held playback says about its segment. -/
structure Clean (mixer : TtsMixer) (segment : Nat) : Prop where
  context : mixer.loudness.currentVolumeContext.isSome = true
  unspoiled : ¬ Spoiled segment mixer.history
  incomplete : .completed segment ∉ mixer.history
  kept : framesLost segment mixer.flushes = 0
  eligible : ∀ block ∈ mixer.queue, block.segmentSerial = segment → block.assistantReferenceEligible = true
  assistant : mixer.activeSegmentKind.isSome = true → mixer.activeSegmentSerial = segment →
    mixer.activeSegmentKind = some .assistant

/-- The training facts against the history: a spoiled segment that may still train is disqualified, and a held playback
is of a clean one. -/
structure Trained (mixer : TtsMixer) : Prop where
  marked : Marked mixer
  sound : Sound mixer.history
  done : ∀ segment, .completed segment ∈ mixer.history →
    .ended segment ∈ mixer.history ∧ ∀ block ∈ mixer.queue, block.segmentSerial ≠ segment
  noted : mixer.loudness.currentVolumeContext.isSome = true → ∀ segment, mixer.Assistant segment →
    Spoiled segment mixer.history → mixer.assistantReferenceDisqualifiedSerial = some segment
  playback : ∀ playback, mixer.assistantSegmentPlayback = some playback → Clean mixer playback.segmentSerial

namespace Trained

variable {mixer : TtsMixer}

theorem start (maxPendingFrames : Nat) : Trained (.new maxPendingFrames) where
  marked := .start maxPendingFrames
  sound := trivial
  done := by simp [TtsMixer.new]
  noted := by simp [TtsMixer.new]
  playback := by simp [TtsMixer.new]

theorem note (trained : Trained mixer) {event : TtsEvent} (quiet : event.quiet = true) (frameless : Frameless event) :
    Trained (mixer.note event) := by
  have all : ∀ other ∈ [event], other.quiet = true := fun other among => List.mem_singleton.mp among ▸ quiet
  have spoiled (segment : Nat) : Spoiled segment (mixer.note event).history ↔ Spoiled segment mixer.history :=
    spoiled_quiet all
  exact {
    marked := trained.marked.transfer (trained.marked.ordered.event frameless) rfl rfl rfl rfl
      (fun _ => mem_quiet all rfl) fun _ _ _ => (mem_quiet all rfl).mp
    sound := (sound_quiet all).mpr trained.sound
    done := fun segment among => by
      obtain ⟨ended, gone⟩ := trained.done segment ((mem_quiet all rfl).mp among)
      exact ⟨.tail _ ended, gone⟩
    noted := fun some_ segment assistant bad => trained.noted some_ segment assistant ((spoiled segment).mp bad)
    playback := fun playback held =>
      { trained.playback playback held with
        unspoiled := fun bad => (trained.playback playback held).unspoiled ((spoiled _).mp bad)
        incomplete := fun among => (trained.playback playback held).incomplete ((mem_quiet all rfl).mp among) } }

/-- The first context must not find frames of an assistant segment already mixed. -/
theorem applyVolumeContext (trained : Trained mixer) (context : VolumeContext)
    (inTime : (mixer.loudness.updateVolumeContext context).2 = true → mixer.loudness.currentVolumeContext = none →
      ∀ segment, mixer.Assistant segment → framesMixed segment mixer.history = 0) :
    Trained (mixer.applyVolumeContext context) := by
  unfold TtsMixer.applyVolumeContext
  split
  next loudness updated =>
    have held : loudness.currentVolumeContext.isSome = true := by
      unfold AssistantLoudness.updateVolumeContext at updated
      split_ifs at updated
      · cases updated
        rfl
      · simp at updated
    rw [updated] at inTime
    have same : Trained { mixer with loudness := loudness } := {
      marked := trained.marked.transfer { trained.marked.ordered with } rfl rfl rfl rfl (fun _ => Iff.rfl) fun _ _ _ => id
      sound := trained.sound
      done := trained.done
      noted := fun _ segment assistant bad => by
        cases before : mixer.loudness.currentVolumeContext with
        | none => exact absurd bad (not_spoiled_of_framesMixed (inTime rfl before segment assistant))
        | some current => exact trained.noted (by rw [before]; rfl) segment assistant bad
      playback := fun playback kept => { trained.playback playback kept with context := held } }
    exact same.note rfl fun _ _ => ⟨rfl, rfl⟩
  next => exact trained

theorem beginSegmentGain (trained : Trained mixer) (kind : SegmentKind) (decision : AssistantGainDecision) :
    Trained (mixer.beginSegmentGain kind decision) where
  marked := trained.marked.beginSegmentGain kind decision
  sound := trained.sound
  done := trained.done
  noted := fun some_ segment assistant bad => by
    rcases assistant with queued | ⟨_, own⟩
    · exact trained.noted some_ segment (.inl queued) bad
    · obtain ⟨stamp, context, among, _⟩ := bad
      have below := (trained.marked.passed segment stamp context among).1
      have fresh := trained.marked.ordered.fresh
      have new : mixer.nextSegmentSerial = segment := own
      omega
  playback := fun _ held => by cases held

theorem startSegment (trained : Trained mixer) (providerItemId : Option Token) (kind : SegmentKind)
    (decision : AssistantGainDecision) : Trained (mixer.startSegment providerItemId kind decision) := by
  have same : Trained { mixer with ledger := mixer.ledger.startSegment providerItemId kind } :=
    { trained with
      marked := trained.marked.transfer { trained.marked.ordered with } rfl rfl rfl rfl (fun _ => Iff.rfl) fun _ _ _ => id
      playback := fun playback held => { trained.playback playback held with } }
  exact same.beginSegmentGain kind decision

theorem openSegment (trained : Trained mixer) (decision : AssistantGainDecision) :
    Trained (mixer.openSegment decision) := by
  unfold TtsMixer.openSegment
  split_ifs
  · exact trained.beginSegmentGain _ _
  · exact trained

theorem enqueueAudio (trained : Trained mixer) (live : mixer.activeSegmentKind.isSome = true) (stamp : Nat)
    {chunk : Chunk} (some_ : chunk.samples ≠ []) : Trained (mixer.enqueueAudio stamp chunk) := by
  have spoiled (segment : Nat) (bad : Spoiled segment (mixer.enqueueAudio stamp chunk).history) :
      Spoiled segment mixer.history := by
    rcases spoiled_cons.mp bad with ⟨_, _, same, _⟩ | old
    · cases same
    · exact old
  have completed (segment : Nat) : .completed segment ∈ (mixer.enqueueAudio stamp chunk).history →
      .completed segment ∈ mixer.history := by
    simp [TtsMixer.enqueueAudio, TtsMixer.pushBlock, TtsMixer.note]
  refine {
    marked := trained.marked.enqueueAudio live stamp some_
    sound := ⟨trained.marked.opened live, trained.sound⟩
    done := fun segment among => ?_
    noted := fun held segment assistant bad => ?_
    playback := fun playback held => ?_ }
  · obtain ⟨ended, gone⟩ := trained.done segment (completed segment among)
    refine ⟨.tail _ ended, fun block here => ?_⟩
    rcases List.mem_append.mp here with old | new
    · exact gone block old
    · rw [List.mem_singleton.mp new]
      rintro rfl
      exact trained.marked.opened live ended
  · apply trained.noted held segment ?_ (spoiled segment bad)
    rcases assistant with ⟨block, among, own, eligible⟩ | opened
    · rcases List.mem_append.mp among with old | new
      · exact .inl ⟨block, old, own, eligible⟩
      · rw [List.mem_singleton.mp new] at own eligible
        exact .inr ⟨beq_iff_eq.mp eligible, own⟩
    · exact .inr opened
  · have clean := trained.playback playback held
    exact {
      context := clean.context
      unspoiled := fun bad => clean.unspoiled (spoiled _ bad)
      incomplete := fun among => clean.incomplete (completed _ among)
      kept := clean.kept
      eligible := fun block among own => by
        rcases List.mem_append.mp among with old | new
        · exact clean.eligible block old own
        · rw [List.mem_singleton.mp new] at own ⊢
          exact beq_iff_eq.mpr (clean.assistant live own)
      assistant := clean.assistant }

/-- A segment may be forgotten as soon as it cannot train any more. -/
theorem requalify (trained : Trained mixer) (serial : Nat)
    (over_ : mixer.assistantReferenceDisqualifiedSerial = some serial → ¬ mixer.Assistant serial) :
    Trained (mixer.requalify serial) := by
  unfold TtsMixer.requalify
  split_ifs with disqualified
  · exact { trained with
      marked := trained.marked.transfer { trained.marked.ordered with } rfl rfl rfl rfl (fun _ => Iff.rfl) fun _ _ _ => id
      noted := fun held segment assistant bad => by
        have same := trained.noted held segment assistant bad
        rw [disqualified] at same
        cases same
        exact absurd assistant (over_ disqualified)
      playback := fun playback held => { trained.playback playback held with } }
  · exact trained

theorem complete (trained : Trained mixer) {segment : Nat} (justified : Justified segment mixer.history)
    (gone : ∀ block ∈ mixer.queue, block.segmentSerial ≠ segment) (free : mixer.assistantSegmentPlayback = none) :
    Trained (mixer.note (.completed segment)) where
  marked := trained.marked.transfer (trained.marked.ordered.event fun _ _ => ⟨rfl, rfl⟩) rfl rfl rfl rfl
    (by simp [TtsMixer.note]) (by simp [TtsMixer.note])
  sound := ⟨justified, trained.sound⟩
  done := fun other among => by
    rcases List.mem_cons.mp among with same | old
    · cases same
      exact ⟨.tail _ justified.ended, gone⟩
    · obtain ⟨ended, left⟩ := trained.done other old
      exact ⟨.tail _ ended, left⟩
  noted := fun held other assistant bad => by
    apply trained.noted held other assistant
    rcases spoiled_cons.mp bad with ⟨_, _, same, _⟩ | old
    · cases same
    · exact old
  playback := fun playback held => by
    have none_ : mixer.assistantSegmentPlayback = some playback := held
    rw [free] at none_
    cases none_

-- What makes a completion right: the segment is clean, has ended and has nothing left in the queue.
theorem justified (trained : Trained mixer) {segment : Nat} (unspoiled : ¬ Spoiled segment mixer.history)
    (incomplete : .completed segment ∉ mixer.history) (kept : framesLost segment mixer.flushes = 0)
    (ended : .ended segment ∈ mixer.history) (gone : ∀ block ∈ mixer.queue, block.segmentSerial ≠ segment) :
    Justified segment mixer.history where
  ended := ended
  once := incomplete
  drained := by
    have counts := trained.marked.ordered.counts segment
    have left := framesLeft_eq_zero gone
    omega
  clean := unspoiled

-- SEGMENT_END marks a block, or it takes the playback of a segment that has drained.
theorem settleEnd_cases (mixer : TtsMixer) :
    (∃ queue, (queue = mixer.queue ∨ TtsMixer.markCompletes mixer.activeSegmentSerial mixer.queue = some queue) ∧
      mixer.settleEnd = ({ mixer with queue := queue }, none)) ∨
    (∀ block ∈ mixer.queue, block.segmentSerial ≠ mixer.activeSegmentSerial) ∧
      mixer.settleEnd = ({ mixer with assistantSegmentPlayback := none },
        mixer.assistantSegmentPlayback.filter (·.segmentSerial = mixer.activeSegmentSerial)) := by
  unfold TtsMixer.settleEnd
  split_ifs
  · cases search : TtsMixer.markCompletes mixer.activeSegmentSerial mixer.queue with
    | some marked => exact .inl ⟨marked, .inr rfl, rfl⟩
    | none => exact .inr ⟨Marked.markCompletes_none.mp search, rfl⟩
  · exact .inl ⟨mixer.queue, .inl rfl, rfl⟩

/-- SEGMENT_END before its completion, if there is one. -/
theorem ended (trained : Trained mixer) {queue : List QueuedAudioBlock}
    {playback : Option AssistantSegmentPlayback}
    (search : queue = mixer.queue ∨ TtsMixer.markCompletes mixer.activeSegmentSerial mixer.queue = some queue)
    (held : playback = mixer.assistantSegmentPlayback ∨ playback = none) :
    Trained ({ mixer with queue := queue, assistantSegmentPlayback := playback }.note
      (.ended mixer.activeSegmentSerial)).closeSegment := by
  have same : queue.map TtsMixer.unmark = mixer.queue.map TtsMixer.unmark := by
    rcases search with same | found
    · rw [same]
    · exact TtsMixer.markCompletes_unmark found
  have old (block : QueuedAudioBlock) (among : block ∈ queue) : ∃ old ∈ mixer.queue,
      old.segmentSerial = block.segmentSerial ∧ old.assistantReferenceEligible = block.assistantReferenceEligible := by
    obtain ⟨old, here, unmarked⟩ := mem_of_unmark same among
    have serial : (TtsMixer.unmark old).segmentSerial = (TtsMixer.unmark block).segmentSerial := by rw [unmarked]
    have eligible : (TtsMixer.unmark old).assistantReferenceEligible =
        (TtsMixer.unmark block).assistantReferenceEligible := by rw [unmarked]
    exact ⟨old, here, serial, eligible⟩
  have ordered : Ordered ({ mixer with queue := queue, assistantSegmentPlayback := playback }.note
      (.ended mixer.activeSegmentSerial)).closeSegment :=
    trained.marked.ordered.closed queue [.ended mixer.activeSegmentSerial] playback _ same (by simp [TtsEvent.closes])
  have spoiled (segment : Nat) (bad : Spoiled segment (.ended mixer.activeSegmentSerial :: mixer.history)) :
      Spoiled segment mixer.history := by
    rcases spoiled_cons.mp bad with ⟨_, _, same, _⟩ | old
    · cases same
    · exact old
  refine {
    marked := trained.marked.end_ ordered search rfl rfl rfl ?_ ?_
    sound := trained.sound
    done := fun segment among => ?_
    noted := fun some_ segment assistant bad => ?_
    playback := fun kept here => ?_ }
  · simp [TtsMixer.closeSegment, TtsMixer.note, or_comm]
  · simp [TtsMixer.closeSegment, TtsMixer.note]
  · obtain ⟨before, gone⟩ := trained.done segment (by simpa [TtsMixer.closeSegment, TtsMixer.note] using among)
    refine ⟨.tail _ before, fun block inside => ?_⟩
    obtain ⟨first, here, serial, _⟩ := old block inside
    exact serial ▸ gone first here
  · apply trained.noted some_ segment ?_ (spoiled segment bad)
    rcases assistant with ⟨block, inside, own, eligible⟩ | ⟨opened, _⟩
    · obtain ⟨first, here, serial, same⟩ := old block inside
      exact .inl ⟨first, here, serial.trans own, same.trans eligible⟩
    · cases opened
  · have before : mixer.assistantSegmentPlayback = some kept := by
      rcases held with same | none_
      · exact same ▸ here
      · rw [none_] at here
        cases here
    have clean := trained.playback kept before
    exact {
      context := clean.context
      unspoiled := fun bad => clean.unspoiled (spoiled _ bad)
      incomplete := fun among => clean.incomplete (by simpa [TtsMixer.closeSegment, TtsMixer.note] using among)
      kept := clean.kept
      eligible := fun block inside own => by
        obtain ⟨first, here, serial, same⟩ := old block inside
        exact same.symm.trans (clean.eligible first here (serial.trans own))
      assistant := fun live => by cases live }

/-- A SEGMENT_END may not requalify a segment that has audio left in the queue. -/
theorem endSegment (trained : Trained mixer)
    (over_ : mixer.assistantReferenceDisqualifiedSerial = some mixer.activeSegmentSerial →
      ∀ block ∈ mixer.queue, block.segmentSerial ≠ mixer.activeSegmentSerial) : Trained mixer.endSegment := by
  have gone {next : TtsMixer} (queue : next.queue.map TtsMixer.unmark = mixer.queue.map TtsMixer.unmark)
      (silent : next.activeSegmentKind = none)
      (same : next.assistantReferenceDisqualifiedSerial = mixer.assistantReferenceDisqualifiedSerial)
      (disqualified : next.assistantReferenceDisqualifiedSerial = some mixer.activeSegmentSerial) :
      ¬ next.Assistant mixer.activeSegmentSerial := by
    rintro (⟨block, among, own, _⟩ | ⟨opened, _⟩)
    · obtain ⟨old, here, unmarked⟩ := mem_of_unmark queue among
      have serial : (TtsMixer.unmark old).segmentSerial = (TtsMixer.unmark block).segmentSerial := by rw [unmarked]
      exact over_ (same ▸ disqualified) old here (serial.trans own)
    · rw [silent] at opened
      cases opened
  unfold TtsMixer.endSegment
  cases kind : mixer.activeSegmentKind with
  | none =>
    have idle : mixer.settleEnd = (mixer, none) := by simp [TtsMixer.settleEnd, kind]
    have closed : Trained mixer.closeSegment := { trained with
      marked := trained.marked.transfer (trained.marked.ordered.closed mixer.queue [] _ _ rfl (by simp)) rfl kind.symm
        rfl rfl (fun _ => Iff.rfl) fun _ _ _ => id
      noted := fun some_ segment assistant bad => by
        apply trained.noted some_ segment (assistant.imp_right fun opened => ?_) bad
        cases opened.1
      playback := fun playback held => { trained.playback playback held with assistant := fun live => by cases live } }
    rw [idle]
    exact closed.requalify _ (gone rfl rfl rfl)
  | some kind' =>
    simp only [Option.isSome_some, if_true]
    rcases settleEnd_cases mixer with ⟨queue, search, settled⟩ | ⟨left, settled⟩
    · have same : queue.map TtsMixer.unmark = mixer.queue.map TtsMixer.unmark := by
        rcases search with same | found
        · rw [same]
        · exact TtsMixer.markCompletes_unmark found
      rw [settled]
      exact (trained.ended search (.inl rfl)).requalify _ (gone same rfl rfl)
    · have ended := trained.ended (.inl rfl) (.inr rfl)
      rw [settled]
      split
      next playback held =>
        obtain ⟨before, own⟩ := Option.filter_eq_some_iff.mp held
        have serial : playback.segmentSerial = mixer.activeSegmentSerial := by simpa using own
        have clean := trained.playback playback before
        rw [serial] at clean
        have unspoiled (bad : Spoiled mixer.activeSegmentSerial (.ended mixer.activeSegmentSerial :: mixer.history)) :
            False := by
          rcases spoiled_cons.mp bad with ⟨_, _, same, _⟩ | old
          · cases same
          · exact clean.unspoiled old
        have incomplete : .completed mixer.activeSegmentSerial ∉ .ended mixer.activeSegmentSerial :: mixer.history := by
          simpa using clean.incomplete
        have justified := ended.justified unspoiled incomplete clean.kept (.head _) left
        rw [TtsMixer.completeAssistantReference, serial]
        exact (ended.complete justified left rfl).requalify _ (gone rfl rfl rfl)
      next => exact ended.requalify _ (gone rfl rfl rfl)

/-- With nothing queued and nothing open no segment can train any more. -/
theorem cleared (trained : Trained mixer) {next : TtsMixer} {events : List TtsEvent} (ordered : Ordered next)
    (queue : next.queue = []) (silent : next.activeSegmentKind = none)
    (active : next.activeSegmentSerial = mixer.activeSegmentSerial) (free : next.assistantSegmentPlayback = none)
    (history : next.history = events ++ mixer.history) (quiet : ∀ event ∈ events, event.quiet = true) :
    Trained next where
  marked := by
    refine trained.marked.cleared ordered queue silent active (fun segment => ?_) fun segment stamp context => ?_
    · rw [history]
      exact mem_quiet quiet rfl
    · rw [history]
      exact (mem_quiet quiet rfl).mp
  sound := by
    rw [history]
    exact (sound_quiet quiet).mpr trained.sound
  done := fun segment among => by
    rw [history] at among ⊢
    exact ⟨(mem_quiet quiet rfl).mpr (trained.done segment ((mem_quiet quiet rfl).mp among)).1, by simp [queue]⟩
  noted := by simp [TtsMixer.Assistant, queue, silent]
  playback := by simp [free]

/-- The training facts after a frame of the front block, by its kind and the context that it was mixed under. -/
theorem observeFrame_cases (mixer : TtsMixer) (front : QueuedAudioBlock) :
    (front.assistantReferenceEligible = false ∧ mixer.observeFrame front = mixer) ∨
    (front.assistantReferenceEligible = true ∧ mixer.observeFrame front =
      { mixer with
        assistantReferenceDisqualifiedSerial := some front.segmentSerial
        assistantSegmentPlayback := mixer.assistantSegmentPlayback.filter (·.segmentSerial ≠ front.segmentSerial) }) ∨
    (front.assistantReferenceEligible = true ∧ mixer.loudness.currentVolumeContext.any (·.muted) = false ∧
      ∃ playback, mixer.observeFrame front = { mixer with assistantSegmentPlayback := playback } ∧
        ∀ held, playback = some held →
          (∃ old, mixer.assistantSegmentPlayback = some old ∧ held.segmentSerial = old.segmentSerial) ∨
          held.segmentSerial = front.segmentSerial ∧ mixer.loudness.currentVolumeContext.isSome = true ∧
            mixer.assistantReferenceDisqualifiedSerial ≠ some front.segmentSerial) := by
  cases eligible : front.assistantReferenceEligible with
  | false =>
    left
    simp [TtsMixer.observeFrame, eligible]
  | true =>
    right
    cases muted : mixer.loudness.currentVolumeContext.any (·.muted) with
    | true =>
      left
      simp [TtsMixer.observeFrame, eligible, muted]
    | false =>
      right
      refine ⟨rfl, rfl, ?_⟩
      simp only [TtsMixer.observeFrame, eligible, muted, Bool.and_false, Bool.false_eq_true, if_false, if_true]
      split
      next decision context starts some_ =>
        refine ⟨_, rfl, fun held same => .inr ?_⟩
        cases same
        refine ⟨rfl, by rw [some_]; rfl, ?_⟩
        by_contra disqualified
        simp [disqualified] at starts
      next context playback some_ old _ =>
        split_ifs
        · refine ⟨_, rfl, fun held same => .inl ⟨playback, old, ?_⟩⟩
          cases same
          rfl
        · exact ⟨_, rfl, fun held same => .inl ⟨held, same, rfl⟩⟩
      next => exact ⟨_, rfl, fun held same => .inl ⟨held, same, rfl⟩⟩

-- The frame is popped before its training facts are noted; the two do not touch each other.
theorem mixFrame_observed {front : QueuedAudioBlock} {rest : List QueuedAudioBlock}
    (nonempty : mixer.queue = front :: rest) :
    ∃ core : TtsMixer, core = { mixer with
        queue := popped front rest
        pendingSamples := mixer.pendingSamples - channels
        history := .mixed front.segmentSerial front.stamp mixer.loudness.currentVolumeContext :: mixer.history } ∧
      (mixer.mixFrame = core.observeFrame front ∨
        front.completesAssistantReference = true ∧ popped front rest = rest ∧
          mixer.mixFrame = (core.observeFrame front).finishMarked front.segmentSerial) := by
  refine ⟨_, rfl, ?_⟩
  have shorter (queue : List QueuedAudioBlock) : { (mixer.popFrame front rest).observeFrame front with queue := queue } =
      { mixer.popFrame front rest with queue := queue }.observeFrame front := by
    simp only [TtsMixer.observeFrame]
    split_ifs
    · rfl
    · split
      · rfl
      · split_ifs <;> rfl
      · rfl
    · split
      · rfl
      · split_ifs <;> rfl
      · rfl
    · rfl
  unfold TtsMixer.mixFrame
  rw [nonempty]
  simp only [popped]
  split_ifs with finished marked
  · exact .inr ⟨marked, rfl, by rw [shorter]; rfl⟩
  · exact .inl (by rw [shorter]; rfl)
  · exact .inl rfl

/-- A frame of the front block leaves its segment spoiled or noted: what it is mixed under decides. -/
theorem observeFrame (trained : Trained mixer) {front : QueuedAudioBlock} {rest : List QueuedAudioBlock}
    (nonempty : mixer.queue = front :: rest) {core : TtsMixer} (eq : core = { mixer with
        queue := popped front rest
        pendingSamples := mixer.pendingSamples - channels
        history := .mixed front.segmentSerial front.stamp mixer.loudness.currentVolumeContext :: mixer.history })
    (ordered : Ordered core) : Trained (core.observeFrame front) := by
  have here : front ∈ mixer.queue := by rw [nonempty]; exact .head _
  have whole := trained.marked.ordered.whole front here
  have marked : Marked core := by
    subst eq
    refine trained.marked.mixed ordered nonempty rfl rfl rfl rfl (by simp) fun segment stamp context among => ?_
    rcases List.mem_cons.mp among with same | old
    · cases same
      exact .inr rfl
    · exact .inl old
  have noted (playback : Option AssistantSegmentPlayback) (disqualified : Option Nat) :
      Marked { core with
        assistantSegmentPlayback := playback
        assistantReferenceDisqualifiedSerial := disqualified } :=
    marked.transfer { ordered with } rfl rfl rfl rfl (fun _ => Iff.rfl) fun _ _ _ => id
  have sound : Sound core.history := by rw [eq]; exact trained.sound
  have inside (block : QueuedAudioBlock) (among : block ∈ core.queue) : ∃ old ∈ mixer.queue,
      old.segmentSerial = block.segmentSerial ∧ old.assistantReferenceEligible = block.assistantReferenceEligible := by
    rw [eq] at among
    rcases mem_popped whole among with old | ⟨rfl, _⟩
    · exact ⟨block, by rw [nonempty]; exact .tail _ old, rfl, rfl⟩
    · exact ⟨front, here, rfl, rfl⟩
  have done (segment : Nat) (among : .completed segment ∈ core.history) :
      .ended segment ∈ core.history ∧ ∀ block ∈ core.queue, block.segmentSerial ≠ segment := by
    have history : core.history = .mixed front.segmentSerial front.stamp mixer.loudness.currentVolumeContext ::
        mixer.history := by rw [eq]
    rw [history] at among ⊢
    obtain ⟨ended, gone⟩ := trained.done segment (by simpa using among)
    refine ⟨.tail _ ended, fun block left => ?_⟩
    obtain ⟨old, among', serial, _⟩ := inside block left
    exact serial ▸ gone old among'
  have assistant (segment : Nat) (live : core.Assistant segment) : mixer.Assistant segment := by
    rcases live with ⟨block, among, own, eligible⟩ | opened
    · obtain ⟨old, among', serial, same⟩ := inside block among
      exact .inl ⟨old, among', serial.trans own, same.trans eligible⟩
    · rw [eq] at opened
      exact .inr opened
  -- Past the front segment nothing has been mixed yet.
  have beyond (segment : Nat) (live : core.Assistant segment) (bad : Spoiled segment mixer.history) :
      segment = front.segmentSerial := by
    obtain ⟨stamp, context, among, _⟩ := bad
    obtain ⟨_, before⟩ := trained.marked.passed segment stamp context among
    refine Nat.le_antisymm (before front here) ?_
    have sorted := trained.marked.ordered.sorted
    rw [nonempty, List.map_cons, List.pairwise_cons] at sorted
    rcases assistant segment live with ⟨block, among', own, _⟩ | ⟨_, own⟩
    · rw [nonempty] at among'
      rcases List.mem_cons.mp among' with rfl | later
      · exact own.le
      · exact own ▸ sorted.1 _ (List.mem_map_of_mem later)
    · exact own ▸ trained.marked.ordered.bounded front here
  have spoiled (segment : Nat) (bad : Spoiled segment core.history) :
      segment = front.segmentSerial ∧ mixer.loudness.currentVolumeContext.all (·.muted) = true ∨
        Spoiled segment mixer.history := by
    rw [eq] at bad
    rcases spoiled_cons.mp bad with ⟨_, _, same, muted⟩ | old
    · cases same
      exact .inl ⟨rfl, muted⟩
    · exact .inr old
  have clean {segment : Nat} (before : Clean mixer segment)
      (apart : segment = front.segmentSerial → mixer.loudness.currentVolumeContext.all (·.muted) = false) :
      Clean core segment := by
    have history : core.history = .mixed front.segmentSerial front.stamp mixer.loudness.currentVolumeContext ::
        mixer.history := by rw [eq]
    exact {
      context := by rw [eq]; exact before.context
      unspoiled := fun bad => by
        rcases spoiled segment bad with ⟨own, muted⟩ | old
        · rw [apart own] at muted
          cases muted
        · exact before.unspoiled old
      incomplete := by
        rw [history]
        simpa using before.incomplete
      kept := by rw [eq]; exact before.kept
      eligible := fun block among own => by
        obtain ⟨old, among', serial, same⟩ := inside block among
        exact same.symm.trans (before.eligible old among' (serial.trans own))
      assistant := by rw [eq]; exact before.assistant }
  have held : core.assistantSegmentPlayback = mixer.assistantSegmentPlayback := by rw [eq]
  have context : core.loudness = mixer.loudness := by rw [eq]
  have disqualified : core.assistantReferenceDisqualifiedSerial = mixer.assistantReferenceDisqualifiedSerial := by rw [eq]
  rcases observeFrame_cases core front with ⟨other, same⟩ | ⟨eligible, same⟩ | ⟨eligible, unmuted, playback, same, from_⟩
  · have never (live : core.Assistant front.segmentSerial) : False := by
      rcases assistant _ live with ⟨block, among, own, eligible⟩ | ⟨kind, own⟩
      · rw [← trained.marked.uniform front here block among own.symm, other] at eligible
        cases eligible
      · have matches_ := trained.marked.kinds front here (by rw [kind]; rfl) own.symm
        rw [other, kind] at matches_
        cases matches_
    rw [same]
    exact {
      marked := marked
      sound := sound
      done := done
      noted := fun some_ segment live bad => by
        rw [disqualified]
        rcases spoiled segment bad with ⟨own, _⟩ | old
        · exact absurd (own ▸ live) never
        · exact trained.noted (context ▸ some_) segment (assistant segment live) old
      playback := fun playback some_ => by
        have before := trained.playback playback (held ▸ some_)
        refine clean before fun own => ?_
        have eligible := before.eligible front here own.symm
        rw [other] at eligible
        cases eligible }
  · rw [same]
    exact {
      marked := noted _ _
      sound := sound
      done := done
      noted := fun _ segment live bad => by
        rcases spoiled segment bad with ⟨own, _⟩ | old
        · rw [own]
        · rw [beyond segment live old]
      playback := fun playback some_ => by
        obtain ⟨before, apart⟩ := Option.filter_eq_some_iff.mp some_
        have kept := clean (trained.playback playback (held ▸ before)) fun own => absurd own (by simpa using apart)
        exact { kept with } }
  · rw [context] at unmuted
    rw [same]
    have audible (some_ : mixer.loudness.currentVolumeContext.isSome = true) :
        mixer.loudness.currentVolumeContext.all (·.muted) = false := by
      cases current : mixer.loudness.currentVolumeContext with
      | none =>
        rw [current] at some_
        cases some_
      | some current' =>
        rw [current] at unmuted
        simpa using unmuted
    exact {
      marked := noted _ _
      sound := sound
      done := done
      noted := fun some_ segment live bad => by
        have before : mixer.loudness.currentVolumeContext.isSome = true := context ▸ some_
        rcases spoiled segment bad with ⟨_, muted⟩ | old
        · rw [audible before] at muted
          cases muted
        · exact disqualified.trans (trained.noted before segment (assistant segment live) old)
      playback := fun playback' some_ => by
        rcases from_ playback' some_ with ⟨old, before, same⟩ | ⟨own, some_', free⟩
        · have kept := trained.playback old (held ▸ before)
          rw [same]
          exact { clean kept fun _ => audible kept.context with }
        · rw [context] at some_'
          rw [disqualified] at free
          rw [own]
          have fresh : Clean mixer front.segmentSerial := {
            context := some_'
            unspoiled := fun bad => free (trained.noted some_' _ (.inl ⟨front, here, rfl, eligible⟩) bad)
            incomplete := fun among => (trained.done _ among).2 front here rfl
            kept := trained.marked.kept _ (.inl ⟨front, here, rfl⟩)
            eligible := fun block among own => (trained.marked.uniform block among front here own).trans eligible
            assistant := fun live own => by
              have matches_ := trained.marked.kinds front here live own.symm
              rw [eligible] at matches_
              exact beq_iff_eq.mp matches_.symm }
          exact { clean fresh fun _ => audible some_' with } }

theorem finishMarked (trained : Trained mixer) {segment : Nat} (ended : .ended segment ∈ mixer.history)
    (gone : ∀ block ∈ mixer.queue, block.segmentSerial ≠ segment) : Trained (mixer.finishMarked segment) := by
  have over_ {next : TtsMixer} (queue : next.queue = mixer.queue)
      (kind : next.activeSegmentKind = mixer.activeSegmentKind)
      (active : next.activeSegmentSerial = mixer.activeSegmentSerial) : ¬ next.Assistant segment := by
    rintro (⟨block, among, own, _⟩ | ⟨opened, own⟩)
    · exact gone block (queue ▸ among) own
    · rw [kind] at opened
      rw [active] at own
      exact trained.marked.opened (by rw [opened]; rfl) (own ▸ ended)
  unfold TtsMixer.finishMarked
  split
  next playback held =>
    split_ifs with own
    · have clean := trained.playback playback held
      rw [own] at clean
      have free : Trained { mixer with assistantSegmentPlayback := none } := { trained with
        marked := trained.marked.transfer { trained.marked.ordered with } rfl rfl rfl rfl (fun _ => Iff.rfl)
          fun _ _ _ => id
        playback := fun _ none_ => by cases none_ }
      have justified := trained.justified clean.unspoiled clean.incomplete clean.kept ended gone
      rw [TtsMixer.completeAssistantReference, own]
      exact (free.complete justified gone rfl).requalify _ fun _ => over_ rfl rfl rfl
    · exact trained.requalify _ fun _ => over_ rfl rfl rfl
  next => exact trained.requalify _ fun _ => over_ rfl rfl rfl

theorem mixFrame (trained : Trained mixer) : Trained mixer.mixFrame := by
  cases nonempty : mixer.queue with
  | nil =>
    have idle : mixer.mixFrame = mixer := by
      unfold TtsMixer.mixFrame
      rw [nonempty]
    rw [idle]
    exact trained
  | cons front rest =>
    have here : front ∈ mixer.queue := by rw [nonempty]; exact .head _
    obtain ⟨core, eq, mixed⟩ := mixFrame_observed nonempty
    have ordered : Ordered core := by
      subst eq
      exact trained.marked.ordered.popFrame nonempty
    have observed := trained.observeFrame nonempty eq ordered
    rcases mixed with same | ⟨marked, finished, same⟩
    · rw [same]
      exact observed
    · rw [same]
      obtain ⟨playback, disqualified, changes⟩ := TtsMixer.observeFrame_changes core front
      apply observed.finishMarked
      · rw [changes, eq]
        exact .tail _ (trained.marked.marked front here marked)
      · rw [changes, eq]
        intro block among own
        have last := trained.marked.last
        rw [nonempty, List.pairwise_cons] at last
        rw [finished] at among
        exact absurd own (last.1 block among marked).ne'

theorem mixFrames (frames : Nat) (trained : Trained mixer) : Trained (TtsMixer.mixFrames frames mixer) := by
  induction frames generalizing mixer with
  | zero => exact trained
  | succ frames ih => exact ih trained.mixFrame

theorem flushCommand (trained : Trained mixer) : Trained mixer.flushCommand :=
  @cleared mixer trained mixer.flushCommand [] trained.marked.ordered.flushCommand rfl rfl rfl rfl rfl (by simp)

theorem drainFlushes (trained : Trained mixer) (epochs : List Nat) : Trained (mixer.drainFlushes epochs) := by
  have ordered := trained.marked.ordered.drainFlushes epochs
  unfold TtsMixer.drainFlushes at ordered ⊢
  split_ifs with none_
  · exact trained
  · rw [if_neg none_] at ordered
    refine trained.cleared ordered rfl rfl rfl rfl rfl fun event among => ?_
    obtain ⟨epoch, _, rfl⟩ := List.mem_map.mp among
    rfl

end Trained

namespace TtsMixer

-- The segments that may still train.
def assistantSegments (mixer : TtsMixer) : List Nat :=
  (mixer.queue.filter (·.assistantReferenceEligible)).map (·.segmentSerial) ++
    if mixer.activeSegmentKind = some .assistant then [mixer.activeSegmentSerial] else []

/-- No SEGMENT_END finds the disqualified segment still queued, and the first volume context finds no frame of a
segment that may still train already mixed. -/
def TrainsCleanly (mixer : TtsMixer) : TtsAction → Prop
  | .command queued _ =>
    (queued.command = .segmentEnd → queued.epoch = mixer.activeEpoch →
      mixer.assistantReferenceDisqualifiedSerial = some mixer.activeSegmentSerial →
        ∀ block ∈ mixer.queue, block.segmentSerial ≠ mixer.activeSegmentSerial) ∧
    (∀ context ∈ queued.command.offered, (queued.command.isRestore = true ∨ queued.epoch = mixer.activeEpoch) →
      (mixer.loudness.updateVolumeContext context).2 = true → mixer.loudness.currentVolumeContext = none →
        ∀ segment ∈ mixer.assistantSegments, framesMixed segment mixer.history = 0)
  | _ => True

instance (mixer : TtsMixer) : ∀ action, Decidable (mixer.TrainsCleanly action)
  | .command _ _ => inferInstanceAs (Decidable (_ ∧ _))
  | .flushes _ => .isTrue trivial
  | .period _ => .isTrue trivial

end TtsMixer

namespace Trained

variable {mixer : TtsMixer}

theorem mem_assistantSegments {segment : Nat} (assistant : mixer.Assistant segment) :
    segment ∈ mixer.assistantSegments := by
  unfold TtsMixer.assistantSegments
  rcases assistant with ⟨block, among, rfl, eligible⟩ | ⟨kind, rfl⟩
  · exact List.mem_append_left _ (List.mem_map_of_mem (List.mem_filter.mpr ⟨among, eligible⟩))
  · rw [if_pos kind]
    exact List.mem_append_right _ (List.mem_singleton_self _)

theorem takeCommand (trained : Trained mixer) (queued : QueuedTtsCommand) (decision : AssistantGainDecision)
    (meets : mixer.TrainsCleanly (.command queued decision)) : Trained (mixer.takeCommand queued decision) := by
  rcases mixer.takeCommand_cases queued decision with same | ⟨_, _, dropped⟩ | ⟨context, offered, gated, accepted⟩ |
    ⟨providerItemId, kind, started⟩ | ⟨chunk, _, some_, audio⟩ | ⟨command, epoch, ended⟩ | flushed
  · rw [same]
    exact trained
  · rw [dropped]
    exact trained.note rfl fun _ _ => ⟨rfl, rfl⟩
  · rw [accepted]
    refine trained.applyVolumeContext context fun updated first segment assistant => ?_
    exact meets.2 context offered gated updated first segment (mem_assistantSegments assistant)
  · rw [started]
    exact trained.startSegment providerItemId kind decision
  · rw [audio]
    exact (trained.openSegment decision).enqueueAudio (trained.marked.openSegment decision).2 queued.epoch some_
  · rw [ended]
    exact trained.endSegment (meets.1 command epoch)
  · rw [flushed]
    exact trained.flushCommand

theorem act (trained : Trained mixer) (action : TtsAction) (meets : mixer.TrainsCleanly action) :
    Trained (mixer.act action) := by
  cases action with
  | flushes epochs => exact trained.drainFlushes epochs
  | command queued decision => exact trained.takeCommand queued decision meets
  | period frames =>
    have mixed := trained.mixFrames frames
    exact { mixed with
      marked := mixed.marked.transfer { mixed.marked.ordered with } rfl rfl rfl rfl (fun _ => Iff.rfl) fun _ _ _ => id
      playback := fun playback held => { mixed.playback playback held with } }

end Trained

/-- In a run that trains cleanly every completion comes once, after the end of its segment and its last frame, and no
frame of the segment was mixed muted or without a volume context. -/
theorem assistant_reference_trains_once {maxPendingFrames : Nat} {mixer : TtsMixer}
    (reached : Reachable ((ofAct (· = .new maxPendingFrames) TtsMixer.act).restrict TtsMixer.TrainsCleanly) mixer)
    {segment : Nat} {later past : List TtsEvent} (completed : mixer.history = later ++ .completed segment :: past) :
    Justified segment past ∧ .completed segment ∉ later ∧ ∀ frames stamp, .queued segment frames stamp ∉ later := by
  have trained : Trained mixer := by
    clear completed
    induction reached with
    | initial start =>
      rw [show _ = TtsMixer.new maxPendingFrames from start]
      exact .start maxPendingFrames
    | step _ move ih =>
      rw [move.2]
      exact ih.act _ move.1
  have sound := trained.sound
  rw [completed] at sound
  exact sound.completed_once

-- A volume context of so much stamp.
def contextOf (stamp : Nat) (muted : Bool) : TtsAction :=
  .command ⟨0, .volumeContext ⟨⟨0⟩, ⟨0⟩, ⟨0⟩, muted, stamp⟩⟩ ⟨⟨0⟩⟩

def assistantStart : TtsAction := .command ⟨0, .segmentStart .assistant none none⟩ ⟨⟨0⟩⟩

def spokenMuted : List TtsAction := [contextOf 1 true, assistantStart,
  .command ⟨0, .audioWide (.silent 2)⟩ ⟨⟨0⟩⟩, .period 1, .command ⟨0, .segmentEnd⟩ ⟨⟨0⟩⟩]

def spokenAloud : List TtsAction := [contextOf 1 false, assistantStart,
  .command ⟨0, .audioWide (.silent 1)⟩ ⟨⟨0⟩⟩, .command ⟨0, .segmentEnd⟩ ⟨⟨0⟩⟩, .period 1]

theorem assistant_reference_trains_once_aloud :
    Justified 1 (spokenAloud.foldl TtsMixer.act (.new 4)).history.tail :=
  (@assistant_reference_trains_once 4 (spokenAloud.foldl TtsMixer.act (.new 4))
    (reachable_restrict_foldl rfl (by decide +kernel)) 1 [] _ (by decide +kernel)).1

/-- The end of the segment forgets that it was muted, while its last frame is still queued. -/
theorem segment_end_requalifies_a_muted_segment :
    ∃ mixer past, Reachable (ofAct (· = .new 4) TtsMixer.act) mixer ∧
      mixer.history = .completed 1 :: past ∧ Spoiled 1 past := by
  refine ⟨(spokenMuted ++ [contextOf 2 false, .period 1]).foldl TtsMixer.act (.new 4), _, reachable_foldl (by rfl) _,
    rfl, 0, some ⟨⟨0⟩, ⟨0⟩, ⟨0⟩, true, 1⟩, ?_, rfl⟩
  decide +kernel

end Jts.Tts.Fanin
