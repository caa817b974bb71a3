import Mathlib
import Jts.Tts.Mixer

set_option autoImplicit false

namespace Jts.Tts

theorem framesQueued_closing {events : List TtsEvent} (segment : Nat) (history : List TtsEvent)
    (closing : ∀ event ∈ events, event.closes = true) :
    framesQueued segment (events ++ history) = framesQueued segment history := by
  induction events with
  | nil => rfl
  | cons event rest ih =>
    have tail := ih fun other among => closing other (.tail _ among)
    have head := closing event (.head _)
    cases event <;> first | exact tail | cases head

theorem framesMixed_closing {events : List TtsEvent} (segment : Nat) (history : List TtsEvent)
    (closing : ∀ event ∈ events, event.closes = true) :
    framesMixed segment (events ++ history) = framesMixed segment history := by
  induction events with
  | nil => rfl
  | cons event rest ih =>
    have tail := ih fun other among => closing other (.tail _ among)
    have head := closing event (.head _)
    cases event <;> first | exact tail | cases head

theorem frames_flushed (segment : Nat) (epochs : List Nat) (history : List TtsEvent) :
    framesQueued segment (epochs.map .flushed ++ history) = framesQueued segment history ∧
      framesMixed segment (epochs.map .flushed ++ history) = framesMixed segment history := by
  induction epochs with
  | nil => exact ⟨rfl, rfl⟩
  | cons epoch rest ih => exact ih

theorem not_mixed_of_framesMixed {segment : Nat} {history : List TtsEvent} (zero : framesMixed segment history = 0)
    (stamp : Nat) (context : Option VolumeContext) : .mixed segment stamp context ∉ history := by
  induction history with
  | nil => exact List.not_mem_nil
  | cons event past ih =>
    intro among
    cases event with
    | mixed owner stamp' context' =>
      simp only [framesMixed, Nat.add_eq_zero_iff, ite_eq_right_iff, one_ne_zero, imp_false] at zero
      rcases List.mem_cons.mp among with same | among
      · cases same
        exact zero.1 rfl
      · exact ih zero.2 among
    | _ =>
      rcases List.mem_cons.mp among with same | among
      · cases same
      · exact ih zero among

namespace Fanin

/-- A queued block holds whole frames, and at least one of them is left. -/
structure QueuedAudioBlock.Whole (block : QueuedAudioBlock) : Prop where
  samples : block.samples.length % channels = 0
  cursor : block.cursor % channels = 0
  unread : block.cursor < block.samples.length

def QueuedAudioBlock.left (block : QueuedAudioBlock) : Nat := (block.samples.length - block.cursor) / channels

-- The queued frames of the segments that are asked for.
def framesWhere (asked : Nat → Bool) : List QueuedAudioBlock → Nat
  | [] => 0
  | block :: rest => (if asked block.segmentSerial then block.left else 0) + framesWhere asked rest

def framesLeft (serial : Nat) (queue : List QueuedAudioBlock) : Nat := framesWhere (· == serial) queue

def framesBelow (limit : Nat) (queue : List QueuedAudioBlock) : Nat := framesWhere (· < limit) queue

def framesTotal (queue : List QueuedAudioBlock) : Nat := framesWhere (fun _ => true) queue

-- The frames of one segment that flushes have dropped.
def framesLost (serial : Nat) (flushes : List FlushRecord) : Nat :=
  (flushes.map fun flush => framesLeft serial flush.dropped).sum

-- What a round of the frame loop leaves of the queue.
def popped (front : QueuedAudioBlock) (rest : List QueuedAudioBlock) : List QueuedAudioBlock :=
  if front.samples.length ≤ front.cursor + channels then rest
  else { front with cursor := front.cursor + channels } :: rest

open TtsMixer (unmark map_of_unmark)

section Queue

variable {front : QueuedAudioBlock} {queue rest : List QueuedAudioBlock}

theorem left_pos (whole : front.Whole) : 0 < front.left := by
  have samples := whole.samples
  have cursor := whole.cursor
  have unread := whole.unread
  simp only [QueuedAudioBlock.left, channels] at *
  omega

theorem framesWhere_congr {asked other : Nat → Bool}
    (same : ∀ block ∈ queue, asked block.segmentSerial = other block.segmentSerial) :
    framesWhere asked queue = framesWhere other queue := by
  induction queue with
  | nil => rfl
  | cons block rest ih =>
    have tail := ih fun later among => same later (.tail _ among)
    rw [framesWhere, framesWhere, same block (.head _), tail]

theorem framesWhere_pos {asked : Nat → Bool} {block : QueuedAudioBlock} (among : block ∈ queue) (whole : block.Whole)
    (here : asked block.segmentSerial = true) : 0 < framesWhere asked queue := by
  have positive := left_pos whole
  induction queue with
  | nil => cases among
  | cons head rest ih =>
    rw [framesWhere]
    rcases List.mem_cons.mp among with rfl | later
    · rw [if_pos here]
      omega
    · have tail := ih later
      omega

theorem framesWhere_none (queue : List QueuedAudioBlock) : framesWhere (fun _ => false) queue = 0 := by
  induction queue with
  | nil => rfl
  | cons block rest ih =>
    rw [framesWhere, ih]
    rfl

theorem framesWhere_append (asked : Nat → Bool) (queue later : List QueuedAudioBlock) :
    framesWhere asked (queue ++ later) = framesWhere asked queue + framesWhere asked later := by
  induction queue with
  | nil => exact (Nat.zero_add _).symm
  | cons block rest ih => rw [List.cons_append, framesWhere, ih, framesWhere, Nat.add_assoc]

theorem framesBelow_succ (serial : Nat) (queue : List QueuedAudioBlock) :
    framesBelow (serial + 1) queue = framesBelow serial queue + framesLeft serial queue := by
  induction queue with
  | nil => rfl
  | cons block rest ih =>
    simp only [framesBelow, framesLeft] at ih
    simp only [framesBelow, framesLeft, framesWhere, ih, decide_eq_true_eq, beq_iff_eq]
    split_ifs <;> omega

theorem framesBelow_all {limit : Nat} (all : ∀ block ∈ queue, block.segmentSerial < limit) :
    framesBelow limit queue = framesTotal queue :=
  framesWhere_congr fun block among => decide_eq_true (all block among)

theorem framesLeft_eq_zero {serial : Nat} (none_ : ∀ block ∈ queue, block.segmentSerial ≠ serial) :
    framesLeft serial queue = 0 :=
  (framesWhere_congr fun block among => beq_false_of_ne (none_ block among)).trans (framesWhere_none queue)

theorem framesBelow_eq_zero {limit : Nat} (none_ : ∀ block ∈ queue, limit ≤ block.segmentSerial) :
    framesBelow limit queue = 0 :=
  (framesWhere_congr fun block among => decide_eq_false (Nat.not_lt.mpr (none_ block among))).trans
    (framesWhere_none queue)

-- A round of the loop takes one frame of the front segment.
theorem framesWhere_popped (whole : front.Whole) (asked : Nat → Bool) (rest : List QueuedAudioBlock) :
    framesWhere asked (front :: rest) =
      framesWhere asked (popped front rest) + if asked front.segmentSerial then 1 else 0 := by
  have samples := whole.samples
  have cursor := whole.cursor
  have unread := whole.unread
  unfold popped
  split_ifs with done here here
  · have one : front.left = 1 := by
      simp only [QueuedAudioBlock.left, channels] at *
      omega
    rw [framesWhere, if_pos here, one, Nat.add_comm]
  · rw [framesWhere, if_neg here, Nat.add_comm]
  · have less : front.left = ({ front with cursor := front.cursor + channels } : QueuedAudioBlock).left + 1 := by
      simp only [QueuedAudioBlock.left, channels] at *
      omega
    rw [framesWhere, framesWhere, if_pos here, if_pos here, less]
    omega
  · rw [framesWhere, framesWhere, if_neg here, if_neg here, Nat.add_zero]

theorem mem_popped {block : QueuedAudioBlock} (whole : front.Whole) (among : block ∈ popped front rest) :
    block ∈ rest ∨ (block = { front with cursor := front.cursor + channels } ∧ block.Whole) := by
  have samples := whole.samples
  have cursor := whole.cursor
  unfold popped at among
  split_ifs at among with done
  · exact .inl among
  · rcases List.mem_cons.mp among with rfl | among
    · refine .inr ⟨rfl, ⟨samples, ?_, Nat.not_le.mp done⟩⟩
      simp only [channels] at *
      omega
    · exact .inl among

theorem serials_popped : ((popped front rest).map (·.segmentSerial)).Sublist
    ((front :: rest).map (·.segmentSerial)) := by
  unfold popped
  split_ifs
  · exact List.sublist_cons_self _ _
  · exact List.Sublist.refl _

theorem framesWhere_of_unmark {marked : List QueuedAudioBlock} (same : marked.map unmark = queue.map unmark)
    (asked : Nat → Bool) : framesWhere asked marked = framesWhere asked queue := by
  have factor : ∀ blocks, framesWhere asked blocks =
      (blocks.map fun block => if asked block.segmentSerial then block.left else 0).sum := by
    intro blocks
    induction blocks with
    | nil => rfl
    | cons block rest ih => rw [framesWhere, ih, List.map_cons, List.sum_cons]
  rw [factor, factor, map_of_unmark _ same fun _ => rfl]

theorem mem_of_unmark {marked : List QueuedAudioBlock} (same : marked.map unmark = queue.map unmark)
    {block : QueuedAudioBlock} (among : block ∈ marked) : ∃ old ∈ queue, unmark old = unmark block := by
  have image : unmark block ∈ queue.map unmark := same ▸ List.mem_map_of_mem among
  exact List.mem_map.mp image

end Queue

/-- The queue as the commands have filled it and the periods have emptied it: whole blocks in the order of their
segments, and every frame accounted for. -/
structure Ordered (mixer : TtsMixer) : Prop where
  whole : ∀ block ∈ mixer.queue, block.Whole
  sorted : (mixer.queue.map (·.segmentSerial)).Pairwise (· ≤ ·)
  bounded : ∀ block ∈ mixer.queue, block.segmentSerial ≤ mixer.activeSegmentSerial
  fresh : mixer.activeSegmentSerial < mixer.nextSegmentSerial
  opened : mixer.activeSegmentGainDb.isSome = mixer.activeSegmentKind.isSome
  pending : mixer.pendingSamples = framesTotal mixer.queue * channels
  counts : ∀ serial, framesQueued serial mixer.history =
    framesMixed serial mixer.history + framesLeft serial mixer.queue + framesLost serial mixer.flushes
  future : ∀ serial, mixer.activeSegmentSerial < serial → framesQueued serial mixer.history = 0

-- The event is of no frame.
def Frameless (event : TtsEvent) : Prop := ∀ serial past,
  framesQueued serial (event :: past) = framesQueued serial past ∧
    framesMixed serial (event :: past) = framesMixed serial past

namespace Ordered

variable {mixer : TtsMixer}

theorem start (maxPendingFrames : Nat) : Ordered (.new maxPendingFrames) where
  whole := by simp [TtsMixer.new]
  sorted := by simp [TtsMixer.new]
  bounded := by simp [TtsMixer.new]
  fresh := by simp [TtsMixer.new]
  opened := rfl
  pending := rfl
  counts := fun _ => rfl
  future := fun _ _ => rfl

theorem event (ordered : Ordered mixer) {event : TtsEvent} (frameless : Frameless event) :
    Ordered (mixer.note event) :=
  { ordered with
    counts := fun serial => by
      obtain ⟨queued, mixed⟩ := frameless serial mixer.history
      simp only [TtsMixer.note, queued, mixed]
      exact ordered.counts serial
    future := fun serial later => ((frameless serial mixer.history).1).trans (ordered.future serial later) }

theorem applyVolumeContext (ordered : Ordered mixer) (context : VolumeContext) :
    Ordered (mixer.applyVolumeContext context) := by
  unfold TtsMixer.applyVolumeContext
  split
  next loudness _ =>
    have same : Ordered { mixer with loudness := loudness } := { ordered with }
    exact same.event fun _ _ => ⟨rfl, rfl⟩
  next => exact ordered

theorem beginSegmentGain (ordered : Ordered mixer) (kind : SegmentKind) (decision : AssistantGainDecision) :
    Ordered (mixer.beginSegmentGain kind decision) where
  whole := ordered.whole
  sorted := ordered.sorted
  bounded := fun block among => (ordered.bounded block among).trans ordered.fresh.le
  fresh := Nat.lt_succ_self _
  opened := rfl
  pending := ordered.pending
  counts := ordered.counts
  future := fun serial later => ordered.future serial (ordered.fresh.trans later)

theorem startSegment (ordered : Ordered mixer) (providerItemId : Option Token) (kind : SegmentKind)
    (decision : AssistantGainDecision) : Ordered (mixer.startSegment providerItemId kind decision) := by
  have same : Ordered { mixer with ledger := mixer.ledger.startSegment providerItemId kind } := { ordered with }
  exact same.beginSegmentGain kind decision

theorem openSegment (ordered : Ordered mixer) (decision : AssistantGainDecision) :
    Ordered (mixer.openSegment decision) := by
  unfold TtsMixer.openSegment
  split_ifs
  · exact ordered.beginSegmentGain _ _
  · exact ordered

theorem enqueueAudio (ordered : Ordered mixer) (stamp : Nat) {chunk : Chunk} (some_ : chunk.samples ≠ []) :
    Ordered (mixer.enqueueAudio stamp chunk) := by
  have positive := List.length_pos_of_ne_nil some_
  have even := chunk.whole
  have frames (block : QueuedAudioBlock) (samples : block.samples = chunk.samples) (cursor : block.cursor = 0) :
      block.left = chunk.samples.length / channels := by
    simp [QueuedAudioBlock.left, samples, cursor]
  refine {
    whole := fun block among => ?_
    sorted := ?_
    bounded := fun block among => ?_
    fresh := ordered.fresh
    opened := ordered.opened
    pending := ?_
    counts := fun serial => ?_
    future := fun serial later => ?_ }
  · rcases List.mem_append.mp among with old | new
    · exact ordered.whole block old
    · rw [List.mem_singleton.mp new]
      exact ⟨even, rfl, positive⟩
  · simp only [TtsMixer.enqueueAudio, TtsMixer.pushBlock, TtsMixer.note, List.map_append]
    refine List.pairwise_append.mpr ⟨ordered.sorted, List.pairwise_singleton _ _, fun serial old other new => ?_⟩
    obtain ⟨block, among, rfl⟩ := List.mem_map.mp old
    rw [List.mem_singleton.mp new]
    exact ordered.bounded block among
  · rcases List.mem_append.mp among with old | new
    · exact ordered.bounded block old
    · rw [List.mem_singleton.mp new]
      exact Nat.le_refl _
  · simp only [TtsMixer.enqueueAudio, TtsMixer.pushBlock, TtsMixer.note, framesTotal, framesWhere_append]
    have before := ordered.pending
    simp only [framesTotal] at before
    simp only [framesWhere, if_true, QueuedAudioBlock.left, Nat.sub_zero, channels] at before even ⊢
    omega
  · have before := ordered.counts serial
    simp only [TtsMixer.enqueueAudio, TtsMixer.pushBlock, TtsMixer.note, framesLeft, framesWhere_append, framesQueued,
      framesMixed] at before ⊢
    simp only [framesWhere, QueuedAudioBlock.left, Nat.sub_zero, beq_iff_eq] at before ⊢
    split_ifs <;> omega
  · have own : mixer.activeSegmentSerial ≠ serial := Nat.ne_of_lt later
    simp only [TtsMixer.enqueueAudio, TtsMixer.pushBlock, TtsMixer.note, framesQueued, if_neg own, Nat.zero_add]
    exact ordered.future serial later

-- A mark changes nothing that is counted.
theorem closed (ordered : Ordered mixer) (queue : List QueuedAudioBlock) (events : List TtsEvent)
    (playback : Option AssistantSegmentPlayback) (disqualified : Option Nat)
    (same : queue.map TtsMixer.unmark = mixer.queue.map TtsMixer.unmark)
    (closing : ∀ event ∈ events, event.closes = true) :
    Ordered { mixer.closeSegment with
      queue := queue
      assistantSegmentPlayback := playback
      assistantReferenceDisqualifiedSerial := disqualified
      history := events ++ mixer.history } := by
  have serials : queue.map (·.segmentSerial) = mixer.queue.map (·.segmentSerial) :=
    TtsMixer.map_of_unmark _ same fun _ => rfl
  refine {
    whole := fun block among => ?_
    sorted := ?_
    bounded := fun block among => ?_
    fresh := ordered.fresh
    opened := rfl
    pending := ?_
    counts := fun serial => ?_
    future := fun serial later => ?_ }
  · obtain ⟨old, here, eq⟩ := mem_of_unmark same among
    have whole := ordered.whole old here
    simp only [TtsMixer.unmark, QueuedAudioBlock.mk.injEq] at eq
    exact ⟨eq.1 ▸ whole.samples, eq.2.1 ▸ whole.cursor, eq.1 ▸ eq.2.1 ▸ whole.unread⟩
  · rw [serials]
    exact ordered.sorted
  · obtain ⟨old, here, eq⟩ := mem_of_unmark same among
    simp only [TtsMixer.unmark, QueuedAudioBlock.mk.injEq] at eq
    exact eq.2.2.2.1 ▸ ordered.bounded old here
  · have total : framesTotal queue = framesTotal mixer.queue := framesWhere_of_unmark same _
    rw [total]
    exact ordered.pending
  · have left : framesLeft serial queue = framesLeft serial mixer.queue := framesWhere_of_unmark same _
    simp only [framesQueued_closing serial mixer.history closing, framesMixed_closing serial mixer.history closing, left]
    exact ordered.counts serial
  · exact (framesQueued_closing serial mixer.history closing).trans (ordered.future serial later)

theorem endSegment (ordered : Ordered mixer) : Ordered mixer.endSegment := by
  obtain ⟨queue, playback, disqualified, events, ended, same, closing⟩ := TtsMixer.endSegment_changes mixer
  rw [ended]
  exact ordered.closed queue events playback disqualified same closing

-- A flush moves what is left of every segment to the frames lost.
theorem lost (ordered : Ordered mixer) (serial : Nat) :
    framesQueued serial mixer.history = framesMixed serial mixer.history + framesLeft serial [] +
      framesLost serial (mixer.flushRecord :: mixer.flushes) := by
  have before := ordered.counts serial
  have empty : framesLeft serial [] = 0 := rfl
  simp only [framesLost, List.map_cons, List.sum_cons, TtsMixer.flushRecord] at before ⊢
  omega

theorem flushCommand (ordered : Ordered mixer) : Ordered mixer.flushCommand where
  whole := by simp [TtsMixer.flushCommand, TtsMixer.clearQueue]
  sorted := .nil
  bounded := by simp [TtsMixer.flushCommand, TtsMixer.clearQueue]
  fresh := ordered.fresh
  opened := rfl
  pending := rfl
  counts := fun serial => ordered.lost serial
  future := ordered.future

theorem drainFlushes (ordered : Ordered mixer) (epochs : List Nat) : Ordered (mixer.drainFlushes epochs) := by
  unfold TtsMixer.drainFlushes
  split_ifs
  · exact ordered
  · have frameless := fun serial => frames_flushed serial epochs.reverse mixer.history
    exact {
      whole := by simp [TtsMixer.clearQueue]
      sorted := .nil
      bounded := by simp [TtsMixer.clearQueue]
      fresh := ordered.fresh
      opened := rfl
      pending := rfl
      counts := fun serial => by
        rw [(frameless serial).1, (frameless serial).2]
        exact ordered.lost serial
      future := fun serial later => (frameless serial).1.trans (ordered.future serial later) }

theorem takeCommand (ordered : Ordered mixer) (queued : QueuedTtsCommand) (decision : AssistantGainDecision) :
    Ordered (mixer.takeCommand queued decision) := by
  rcases mixer.takeCommand_cases queued decision with same | ⟨_, _, dropped⟩ | ⟨context, _, _, accepted⟩ |
    ⟨providerItemId, kind, started⟩ | ⟨chunk, _, some_, audio⟩ | ⟨_, _, ended⟩ | flushed
  · rw [same]
    exact ordered
  · rw [dropped]
    exact ordered.event fun _ _ => ⟨rfl, rfl⟩
  · rw [accepted]
    exact ordered.applyVolumeContext context
  · rw [started]
    exact ordered.startSegment providerItemId kind decision
  · rw [audio]
    exact (ordered.openSegment decision).enqueueAudio queued.epoch some_
  · rw [ended]
    exact ordered.endSegment
  · rw [flushed]
    exact ordered.flushCommand

-- The front segment gives up one frame.
theorem popFrame (ordered : Ordered mixer) {front : QueuedAudioBlock} {rest : List QueuedAudioBlock}
    (nonempty : mixer.queue = front :: rest) :
    Ordered { mixer with
      queue := popped front rest
      pendingSamples := mixer.pendingSamples - channels
      history := .mixed front.segmentSerial front.stamp mixer.loudness.currentVolumeContext :: mixer.history } := by
  have whole : front.Whole := ordered.whole front (by rw [nonempty]; exact .head _)
  have sorted := ordered.sorted
  have pending := ordered.pending
  rw [nonempty] at sorted pending
  refine {
    whole := fun block here => ?_
    sorted := sorted.sublist serials_popped
    bounded := fun block here => ?_
    fresh := ordered.fresh
    opened := ordered.opened
    pending := ?_
    counts := fun serial => ?_
    future := ordered.future }
  · rcases mem_popped whole here with old | ⟨_, new⟩
    · exact ordered.whole block (by rw [nonempty]; exact .tail _ old)
    · exact new
  · rcases mem_popped whole here with old | ⟨rfl, _⟩
    · exact ordered.bounded block (by rw [nonempty]; exact .tail _ old)
    · exact ordered.bounded front (by rw [nonempty]; exact .head _)
  · have one := framesWhere_popped whole (fun _ => true) rest
    simp only [if_true] at one
    simp only [framesTotal, channels] at pending ⊢
    omega
  · have before := ordered.counts serial
    have one := framesWhere_popped whole (· == serial) rest
    rw [nonempty] at before
    simp only [framesQueued, framesMixed]
    simp only [framesLeft, beq_iff_eq] at before one ⊢
    omega

theorem mixFrame (ordered : Ordered mixer) : Ordered mixer.mixFrame := by
  rcases mixer.mixFrame_cases with ⟨_, idle⟩ | ⟨front, rest, playback, disqualified, nonempty, events, among, mixed⟩
  · rw [idle]
    exact ordered
  have closing : ∀ event ∈ events, event.closes = true := by
    rcases List.mem_pair.mp among with rfl | rfl
    · simp
    · simp [TtsEvent.closes]
  have popped := ordered.popFrame nonempty
  rw [mixed]
  exact { popped with
    counts := fun serial => by
      simp only [framesQueued_closing serial _ closing, framesMixed_closing serial _ closing]
      exact popped.counts serial
    future := fun serial later => (framesQueued_closing serial _ closing).trans (popped.future serial later) }

theorem mixFrames (frames : Nat) (ordered : Ordered mixer) : Ordered (TtsMixer.mixFrames frames mixer) := by
  induction frames generalizing mixer with
  | zero => exact ordered
  | succ frames ih => exact ih ordered.mixFrame

theorem act (ordered : Ordered mixer) (action : TtsAction) : Ordered (mixer.act action) := by
  cases action with
  | flushes epochs => exact ordered.drainFlushes epochs
  | command queued decision => exact ordered.takeCommand queued decision
  | period frames => exact { ordered.mixFrames frames with }

end Ordered

end Fanin

end Jts.Tts
