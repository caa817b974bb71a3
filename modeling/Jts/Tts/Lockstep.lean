import Mathlib
import Jts.Tts.MixerQueue
import Jts.Shared.Transition

set_option autoImplicit false

namespace Jts.Tts.Fanin

open Jts.Tts Jts.Shared.Transition

theorem modifyBack_concat (change : Segment → Segment) (rest : List Segment) (back : Segment) :
    modifyBack change (rest ++ [back]) = rest ++ [change back] := by
  induction rest with
  | nil => rfl
  | cons front rest ih =>
    cases rest with
    | nil => rfl
    | cons next rest =>
      rw [List.cons_append] at ih ⊢
      rw [List.cons_append, modifyBack, ih]
      · rfl
      · exact List.cons_ne_nil _ _

theorem mem_modifyBack {change : Segment → Segment} {segments : List Segment} {segment : Segment}
    (among : segment ∈ modifyBack change segments) : segment ∈ segments ∨ ∃ old ∈ segments, segment = change old := by
  rcases List.eq_nil_or_concat' segments with rfl | ⟨rest, back, rfl⟩
  · cases among
  · rw [modifyBack_concat] at among
    rcases List.mem_append.mp among with old | new
    · exact .inl (List.mem_append_left _ old)
    · exact .inr ⟨back, by simp, List.mem_singleton.mp new⟩

theorem ids_modifyBack {change : Segment → Segment} (segments : List Segment)
    (same : ∀ segment, (change segment).localSegmentId = segment.localSegmentId) :
    (modifyBack change segments).map (·.localSegmentId) = segments.map (·.localSegmentId) := by
  rcases List.eq_nil_or_concat' segments with rfl | ⟨rest, back, rfl⟩
  · rfl
  · rw [modifyBack_concat, List.map_append, List.map_append, List.map_singleton, List.map_singleton, same]

/-- A segment of the ledger against the queue, when so many frames have been played. -/
structure Placed (mixer : TtsMixer) (played : Nat) (segment : Segment) : Prop where
  before : framesBelow segment.localSegmentId mixer.queue = segment.queueStart - played
  through : framesBelow (segment.localSegmentId + 1) mixer.queue =
    segment.queueStart + segment.queuedFrames - played
  within : segment.queueStart + segment.queuedFrames ≤ mixer.ledger.queuedTotal
  queued : segment.queuedFrames = framesQueued segment.localSegmentId mixer.history
  kept : framesLost segment.localSegmentId mixer.flushes = 0

/-- The ledger and the queue in lockstep, when so many frames have been played. -/
structure Lockstep (mixer : TtsMixer) (played : Nat) : Prop where
  ordered : Ordered mixer
  ids : mixer.ledger.nextId = mixer.nextSegmentSerial
  next : mixer.nextSegmentSerial = mixer.activeSegmentSerial + 1
  total : mixer.ledger.queuedTotal = played + framesTotal mixer.queue
  placed : ∀ segment ∈ mixer.ledger.segments, Placed mixer played segment
  current : mixer.activeSegmentKind.isSome = true → ∃ rest segment, mixer.ledger.segments = rest ++ [segment] ∧
    segment.ended = false ∧ segment.localSegmentId = mixer.activeSegmentSerial ∧
      segment.queueStart + segment.queuedFrames = mixer.ledger.queuedTotal
  closed : mixer.activeSegmentKind.isSome = false → mixer.ledger.openSegment = none
  retained : ∃ first ≤ mixer.ledger.nextId,
    mixer.ledger.segments.map (·.localSegmentId) = List.range' first (mixer.ledger.nextId - first) ∧
      ∀ block ∈ mixer.queue, first ≤ block.segmentSerial ∨ block.segmentSerial + maxSegments < mixer.ledger.nextId
  few : mixer.ledger.segments.length ≤ maxSegments

namespace Lockstep

variable {mixer : TtsMixer} {played : Nat}

theorem start (maxPendingFrames : Nat) : Lockstep (.new maxPendingFrames) 0 where
  ordered := .start maxPendingFrames
  ids := rfl
  next := rfl
  total := rfl
  placed := by simp [TtsMixer.new, PlayoutLedger.new]
  current := by simp [TtsMixer.new]
  closed := fun _ => rfl
  retained := ⟨1, Nat.le_refl _, rfl, by simp [TtsMixer.new]⟩
  few := Nat.zero_le _

/-- The played count of the ledger is the number of frames that the loop has mixed. -/
theorem played_eq (lockstep : Lockstep mixer played) {segment : Segment}
    (among : segment ∈ mixer.ledger.segments) :
    segment.played played = framesMixed segment.localSegmentId mixer.history ∧
      segment.queuedFrames - segment.played played = framesLeft segment.localSegmentId mixer.queue := by
  have placed := lockstep.placed segment among
  have before := placed.before
  have through := placed.through
  have queued := placed.queued
  have kept := placed.kept
  have counts := lockstep.ordered.counts segment.localSegmentId
  rw [framesBelow_succ] at through
  simp only [Segment.played]
  omega

-- Nothing but the queue, the ledger, the counters and the counts of the history is read.
theorem event (lockstep : Lockstep mixer played) {event : TtsEvent} (frameless : Frameless event) :
    Lockstep (mixer.note event) played :=
  { lockstep with
    ordered := lockstep.ordered.event frameless
    placed := fun segment among =>
      { lockstep.placed segment among with
        queued := (lockstep.placed segment among).queued.trans (frameless _ _).1.symm } }

theorem applyVolumeContext (lockstep : Lockstep mixer played) (context : VolumeContext) :
    Lockstep (mixer.applyVolumeContext context) played := by
  unfold TtsMixer.applyVolumeContext
  split
  next loudness _ =>
    have same : Lockstep { mixer with loudness := loudness } played := { lockstep with
      ordered := { lockstep.ordered with }
      placed := fun segment among => { lockstep.placed segment among with } }
    exact same.event fun _ _ => ⟨rfl, rfl⟩
  next => exact lockstep

theorem placed_end (placed : ∀ segment ∈ mixer.ledger.segments, Placed mixer played segment) (segment : Segment)
    (among : segment ∈ mixer.ledger.endOpenSegment.segments) : Placed mixer played segment := by
  rcases mem_modifyBack among with old | ⟨old, here, rfl⟩
  · exact placed segment old
  · exact { placed old here with }

theorem segments_startSegment (ledger : PlayoutLedger) (providerItemId : Option Token) (kind : SegmentKind) :
    (ledger.startSegment providerItemId kind).segments =
      (ledger.endOpenSegment.segments ++ [ledger.opened providerItemId kind]).drop
        ((ledger.endOpenSegment.segments ++ [ledger.opened providerItemId kind]).length - maxSegments) := by
  simp only [PlayoutLedger.startSegment, PlayoutLedger.enforceCap]
  rfl

theorem nextId_startSegment (ledger : PlayoutLedger) (providerItemId : Option Token) (kind : SegmentKind) :
    (ledger.startSegment providerItemId kind).nextId = ledger.nextId + 1 := by
  simp only [PlayoutLedger.startSegment, PlayoutLedger.enforceCap, PlayoutLedger.endOpenSegment]

theorem ids_endOpenSegment (ledger : PlayoutLedger) :
    ledger.endOpenSegment.segments.map (·.localSegmentId) = ledger.segments.map (·.localSegmentId) :=
  @ids_modifyBack (fun segment => { segment with ended := true }) ledger.segments fun _ => rfl

theorem startSegment (lockstep : Lockstep mixer played) (providerItemId : Option Token) (kind : SegmentKind)
    (decision : AssistantGainDecision) : Lockstep (mixer.startSegment providerItemId kind decision) played := by
  have ids := lockstep.ids
  have next := lockstep.next
  have later : mixer.activeSegmentSerial < mixer.ledger.nextId := by omega
  have all (limit : Nat) (above : mixer.activeSegmentSerial < limit) :
      framesBelow limit mixer.queue = mixer.ledger.queuedTotal - played := by
    rw [framesBelow_all fun block among => (lockstep.ordered.bounded block among).trans_lt above, lockstep.total]
    omega
  have fresh : framesQueued mixer.ledger.nextId mixer.history = 0 := lockstep.ordered.future _ later
  have counts := lockstep.ordered.counts mixer.ledger.nextId
  have segments : (mixer.startSegment providerItemId kind decision).ledger.segments = _ :=
    segments_startSegment mixer.ledger providerItemId kind
  generalize grown : mixer.ledger.endOpenSegment.segments ++ [mixer.ledger.opened providerItemId kind] = kept at segments
  have length : kept.length = mixer.ledger.endOpenSegment.segments.length + 1 := by simp [← grown]
  have capped : kept.length - maxSegments ≤ mixer.ledger.endOpenSegment.segments.length := by
    rw [length, maxSegments]
    omega
  refine {
    ordered := lockstep.ordered.startSegment providerItemId kind decision
    ids := congrArg (· + 1) ids
    next := rfl
    total := lockstep.total
    placed := fun segment among => ?_
    current := fun _ => ⟨mixer.ledger.endOpenSegment.segments.drop (kept.length - maxSegments),
      mixer.ledger.opened providerItemId kind, ?_, rfl, ?_, ?_⟩
    closed := fun none_ => by cases none_
    retained := ?_
    few := ?_ }
  · rw [segments] at among
    have here := List.mem_of_mem_drop among
    rw [← grown] at here
    rcases List.mem_append.mp here with old | new
    · exact { placed_end lockstep.placed segment old with }
    · rw [List.mem_singleton.mp new]
      exact {
        before := all _ later
        through := all _ (later.trans (Nat.lt_succ_self _))
        within := Nat.le_refl _
        queued := fresh.symm
        kept := by
          change framesLost mixer.ledger.nextId mixer.flushes = 0
          omega }
  · rw [segments, ← grown]
    exact List.drop_append_of_le_length (grown ▸ capped)
  · exact ids
  · rfl
  · obtain ⟨first, below, run, held⟩ := lockstep.retained
    have size : mixer.ledger.endOpenSegment.segments.length = mixer.ledger.nextId - first := by
      have names := congrArg List.length ((ids_endOpenSegment mixer.ledger).trans run)
      rwa [List.length_map, List.length_range'] at names
    have names : kept.map (·.localSegmentId) = List.range' first (mixer.ledger.nextId + 1 - first) := by
      have closedNames : mixer.ledger.endOpenSegment.segments.map (·.localSegmentId) =
          List.range' first (mixer.ledger.nextId - first) := (ids_endOpenSegment mixer.ledger).trans run
      have last : mixer.ledger.nextId + 1 - first = mixer.ledger.nextId - first + 1 := by omega
      have end_ : first + 1 * (mixer.ledger.nextId - first) = mixer.ledger.nextId := by omega
      rw [← grown, List.map_append, closedNames, last, List.range'_concat, end_]
      rfl
    have advanced : (mixer.startSegment providerItemId kind decision).ledger.nextId = mixer.ledger.nextId + 1 :=
      nextId_startSegment mixer.ledger providerItemId kind
    rw [advanced, segments, List.map_drop, names, List.drop_range']
    refine ⟨first + (kept.length - maxSegments), ?_, ?_, fun block among => ?_⟩
    · omega
    · rw [Nat.mul_one, Nat.sub_sub]
    · rcases held block among with inside | outside
      · omega
      · omega
  · rw [segments, List.length_drop]
    omega

theorem noteQueued_opened {ledger : PlayoutLedger} {frames : Nat} {rest : List Segment} {segment : Segment}
    (some_ : frames ≠ 0) (segments : ledger.segments = rest ++ [segment]) (live : segment.ended = false) :
    ledger.noteQueued frames = { ledger with
      segments := rest ++ [{ segment with queuedFrames := segment.queuedFrames + frames }]
      queuedTotal := ledger.queuedTotal + frames } := by
  have opened : ledger.openSegment = some segment := by
    simp [PlayoutLedger.openSegment, segments, live]
  simp only [PlayoutLedger.noteQueued, if_neg some_, opened, Option.isNone_some, Bool.false_eq_true, if_false, segments,
    modifyBack_concat]

/-- Frames that arrive outside a segment first open one, as a segment start does. -/
theorem noteQueued_closed {ledger : PlayoutLedger} {frames : Nat} (some_ : frames ≠ 0)
    (closed : ledger.openSegment = none) :
    ledger.noteQueued frames = (ledger.startSegment none .assistant).noteQueued frames := by
  have last : (ledger.startSegment none .assistant).segments.getLast? = some (ledger.opened none .assistant) := by
    rw [segments_startSegment, List.drop_append_of_le_length (by simp [maxSegments]), List.getLast?_append]
    rfl
  have opened : (ledger.startSegment none .assistant).openSegment.isNone = false := by
    simp [PlayoutLedger.openSegment, last, PlayoutLedger.opened]
  simp only [PlayoutLedger.noteQueued, if_neg some_, closed, opened, Option.isNone_none, if_true, Bool.false_eq_true,
    if_false]

/-- Audio outside a segment opens one of its own, just as a segment start without a name does. -/
theorem enqueueAudio_closed {mixer : TtsMixer} {chunk : Chunk} (frames : chunk.samples.length / channels ≠ 0)
    (silent : mixer.activeSegmentGainDb.isSome = false) (closed : mixer.ledger.openSegment = none) (stamp : Nat)
    (decision : AssistantGainDecision) :
    (mixer.openSegment decision).enqueueAudio stamp chunk =
      (mixer.startSegment none .assistant decision).enqueueAudio stamp chunk := by
  have none_ : mixer.activeSegmentGainDb.isNone = true := by simpa using silent
  have ledger := noteQueued_closed frames closed
  simp only [TtsMixer.openSegment, none_, if_true, TtsMixer.enqueueAudio, TtsMixer.pushBlock, TtsMixer.beginSegmentGain,
    TtsMixer.startSegment, ledger]

theorem ids_below (lockstep : Lockstep mixer played) {rest : List Segment} {segment : Segment}
    (segments : mixer.ledger.segments = rest ++ [segment]) {old : Segment} (among : old ∈ rest) :
    old.localSegmentId < segment.localSegmentId := by
  obtain ⟨first, _, run, _⟩ := lockstep.retained
  have sorted : (mixer.ledger.segments.map (·.localSegmentId)).Pairwise (· < ·) := by
    rw [run]
    exact List.pairwise_lt_range'
  rw [segments, List.map_append] at sorted
  exact (List.pairwise_append.mp sorted).2.2 _ (List.mem_map_of_mem among) _ (by simp)

theorem playedTotal_noteQueued (ledger : PlayoutLedger) (frames : Nat) :
    (ledger.noteQueued frames).playedTotal = ledger.playedTotal := by
  simp only [PlayoutLedger.noteQueued]
  split_ifs <;> rfl

theorem playedTotal_enqueueAudio (mixer : TtsMixer) (stamp : Nat) (chunk : Chunk) :
    (mixer.enqueueAudio stamp chunk).ledger.playedTotal = mixer.ledger.playedTotal :=
  playedTotal_noteQueued mixer.ledger (chunk.samples.length / channels)

theorem enqueueAudio (lockstep : Lockstep mixer played) (stamp : Nat) {chunk : Chunk} (some_ : chunk.samples ≠ [])
    (live : mixer.activeSegmentKind.isSome = true) : Lockstep (mixer.enqueueAudio stamp chunk) played := by
  obtain ⟨rest, segment, segments, unended, own, edge⟩ := lockstep.current live
  have below := fun old among => @ids_below mixer played lockstep rest segment segments old among
  have whole := chunk.whole
  have positive := List.length_pos_of_ne_nil some_
  have frames : chunk.samples.length / channels ≠ 0 := by
    simp only [channels] at whole ⊢
    omega
  have ledger : (mixer.enqueueAudio stamp chunk).ledger = { mixer.ledger with
      segments := rest ++ [{ segment with queuedFrames := segment.queuedFrames + chunk.samples.length / channels }]
      queuedTotal := mixer.ledger.queuedTotal + chunk.samples.length / channels } :=
    noteQueued_opened frames segments unended
  have queue (asked : Nat → Bool) : framesWhere asked (mixer.enqueueAudio stamp chunk).queue =
      framesWhere asked mixer.queue + if asked mixer.activeSegmentSerial then chunk.samples.length / channels else 0 := by
    simp only [TtsMixer.enqueueAudio, TtsMixer.pushBlock, TtsMixer.note, framesWhere_append]
    simp only [framesWhere, QueuedAudioBlock.left, Nat.sub_zero, Nat.add_zero]
  have queued (serial : Nat) : framesQueued serial (mixer.enqueueAudio stamp chunk).history =
      (if mixer.activeSegmentSerial = serial then chunk.samples.length / channels else 0) +
        framesQueued serial mixer.history := rfl
  have total := lockstep.total
  generalize chunk.samples.length / channels = size at ledger queue queued frames
  refine {
    ordered := lockstep.ordered.enqueueAudio stamp some_
    ids := ?_
    next := lockstep.next
    total := ?_
    placed := fun later among => ?_
    current := fun _ => ?_
    closed := fun dead => ?_
    retained := ?_
    few := ?_ }
  · rw [ledger]
    exact lockstep.ids
  · simp only [framesTotal] at total ⊢
    simp only [ledger, queue, if_true, total]
    omega
  · rw [ledger] at among
    rcases List.mem_append.mp among with old | new
    · have earlier := below later old
      have placed := lockstep.placed later (by rw [segments]; exact List.mem_append_left _ old)
      have before := placed.before
      have through := placed.through
      have within := placed.within
      simp only [framesBelow] at before through
      exact {
        before := by
          simp only [framesBelow, queue, decide_eq_true_eq, before]
          split_ifs <;> omega
        through := by
          simp only [framesBelow, queue, decide_eq_true_eq, through]
          split_ifs <;> omega
        within := by
          rw [ledger]
          exact within.trans (Nat.le_add_right _ _)
        queued := by
          rw [queued, placed.queued, if_neg (by omega), Nat.zero_add]
        kept := placed.kept }
    · have placed := lockstep.placed segment (by simp [segments])
      have before := placed.before
      have through := placed.through
      simp only [framesBelow] at before through
      rw [List.mem_singleton.mp new]
      exact {
        before := by
          simp only [framesBelow, queue, decide_eq_true_eq, before]
          split_ifs <;> omega
        through := by
          simp only [framesBelow, queue, decide_eq_true_eq, through]
          split_ifs <;> omega
        within := by
          simp only [ledger]
          omega
        queued := by
          simp only [queued, placed.queued, own, if_true]
          omega
        kept := placed.kept }
  · refine ⟨rest, { segment with queuedFrames := segment.queuedFrames + size }, ?_, unended, own, ?_⟩
    · rw [ledger]
    · simp only [ledger]
      omega
  · have same : (mixer.enqueueAudio stamp chunk).activeSegmentKind = mixer.activeSegmentKind := rfl
    rw [same, live] at dead
    cases dead
  · obtain ⟨first, early, run, held⟩ := lockstep.retained
    rw [segments] at run
    rw [ledger]
    refine ⟨first, early, ?_, fun block among => ?_⟩
    · rw [← run, List.map_append, List.map_append]
      rfl
    · rcases List.mem_append.mp among with old | new
      · exact held block old
      · left
        have last : segment.localSegmentId ∈ List.range' first (mixer.ledger.nextId - first) := by simp [← run]
        have owner : block.segmentSerial = segment.localSegmentId := by
          rw [List.mem_singleton.mp new, own]
        rw [owner]
        exact (List.mem_range'_1.mp last).1
  · have few := lockstep.few
    rw [segments, List.length_append] at few
    rw [ledger]
    simpa using few

theorem openSegment_endOpenSegment (ledger : PlayoutLedger) : ledger.endOpenSegment.openSegment = none := by
  unfold PlayoutLedger.openSegment PlayoutLedger.endOpenSegment
  rcases List.eq_nil_or_concat' ledger.segments with empty | ⟨rest, back, segments⟩
  · rw [empty]
    rfl
  · rw [segments, modifyBack_concat, List.getLast?_concat]
    rfl

theorem endSegment (lockstep : Lockstep mixer played) : Lockstep mixer.endSegment played := by
  have ordered := lockstep.ordered.endSegment
  obtain ⟨queue, playback, disqualified, events, ended, same, closing⟩ := TtsMixer.endSegment_changes mixer
  have frames (asked : Nat → Bool) : framesWhere asked queue = framesWhere asked mixer.queue :=
    framesWhere_of_unmark same asked
  have queued (serial : Nat) := framesQueued_closing serial mixer.history closing
  rw [ended] at ordered ⊢
  refine {
    ordered := ordered
    ids := lockstep.ids
    next := lockstep.next
    total := lockstep.total.trans (congrArg (played + ·) (frames _).symm)
    placed := fun segment among => ?_
    current := fun live => by cases live
    closed := fun _ => openSegment_endOpenSegment mixer.ledger
    retained := ?_
    few := ?_ }
  · have placed := placed_end lockstep.placed segment among
    exact {
      before := (frames _).trans placed.before
      through := (frames _).trans placed.through
      within := placed.within
      queued := placed.queued.trans (queued _).symm
      kept := placed.kept }
  · obtain ⟨first, early, run, held⟩ := lockstep.retained
    refine ⟨first, early, (ids_endOpenSegment mixer.ledger).trans run, fun block among => ?_⟩
    obtain ⟨old, here, unmarked⟩ := mem_of_unmark same among
    have serial : (TtsMixer.unmark old).segmentSerial = (TtsMixer.unmark block).segmentSerial := by rw [unmarked]
    exact serial ▸ held old here
  · have same : mixer.ledger.endOpenSegment.segments.length = mixer.ledger.segments.length := by
      simpa using congrArg List.length (ids_endOpenSegment mixer.ledger)
    exact same.trans_le lockstep.few

-- Queue and ledger start over together.
theorem cleared (lockstep : Lockstep mixer played) {cleared : TtsMixer} (ordered : Ordered cleared)
    (queue : cleared.queue = []) (silent : cleared.activeSegmentKind = none)
    (ledger : cleared.ledger = mixer.ledger.flush.1) (active : cleared.activeSegmentSerial = mixer.activeSegmentSerial)
    (next : cleared.nextSegmentSerial = mixer.nextSegmentSerial) : Lockstep cleared 0 where
  ordered := ordered
  ids := by
    rw [ledger, next]
    exact lockstep.ids
  next := by
    rw [next, active]
    exact lockstep.next
  total := by
    rw [ledger, queue]
    rfl
  placed := by simp [ledger, PlayoutLedger.flush]
  current := by simp [silent]
  closed := fun _ => by
    rw [ledger]
    rfl
  retained := ⟨cleared.ledger.nextId, Nat.le_refl _, by simp [ledger, PlayoutLedger.flush], by simp [queue]⟩
  few := by
    rw [ledger]
    exact Nat.zero_le _

theorem mixFrame (lockstep : Lockstep mixer played) (busy : mixer.queue ≠ []) :
    Lockstep mixer.mixFrame (played + 1) := by
  have ordered := lockstep.ordered.mixFrame
  rcases mixer.mixFrame_cases with ⟨idle, _⟩ | ⟨front, rest, playback, disqualified, nonempty, events, among, mixed⟩
  · exact absurd idle busy
  have closing : ∀ event ∈ events, event.closes = true := by
    rcases List.mem_pair.mp among with rfl | rfl
    · simp
    · simp [TtsEvent.closes]
  have whole : front.Whole := lockstep.ordered.whole front (by rw [nonempty]; exact .head _)
  have sorted := lockstep.ordered.sorted
  have total := lockstep.total
  rw [nonempty, List.map_cons, List.pairwise_cons] at sorted
  rw [nonempty] at total
  -- Below a limit past the front segment nothing is queued, as the queue is sorted.
  have below (limit frames : Nat) (count : framesBelow limit mixer.queue = frames - played) :
      framesBelow limit (popped front rest) = frames - (played + 1) := by
    have one := framesWhere_popped whole (· < limit) rest
    rw [nonempty] at count
    simp only [framesBelow, decide_eq_true_eq] at count one ⊢
    by_cases inside : front.segmentSerial < limit
    · rw [if_pos inside] at one
      omega
    · have none_ : framesBelow limit (front :: rest) = 0 := by
        refine framesBelow_eq_zero fun block here => ?_
        rcases List.mem_cons.mp here with rfl | later
        · exact Nat.not_lt.mp inside
        · exact (Nat.not_lt.mp inside).trans (sorted.1 _ (List.mem_map_of_mem later))
      simp only [framesBelow] at none_
      rw [if_neg inside] at one
      omega
  rw [mixed] at ordered ⊢
  refine {
    ordered := ordered
    ids := lockstep.ids
    next := lockstep.next
    total := ?_
    placed := fun segment here => ?_
    current := lockstep.current
    closed := lockstep.closed
    retained := ?_
    few := lockstep.few }
  · have one := framesWhere_popped whole (fun _ => true) rest
    change mixer.ledger.queuedTotal = played + 1 + framesTotal (popped front rest)
    simp only [framesTotal, if_true] at one total ⊢
    omega
  · have placed := lockstep.placed segment here
    have queued := framesQueued_closing segment.localSegmentId
      (.mixed front.segmentSerial front.stamp mixer.loudness.currentVolumeContext :: mixer.history) closing
    exact {
      before := below _ _ placed.before
      through := below _ _ placed.through
      within := placed.within
      queued := placed.queued.trans queued.symm
      kept := placed.kept }
  · obtain ⟨first, early, run, held⟩ := lockstep.retained
    refine ⟨first, early, run, fun block here => ?_⟩
    rcases mem_popped whole here with old | ⟨rfl, _⟩
    · exact held block (by rw [nonempty]; exact .tail _ old)
    · exact held front (by rw [nonempty]; exact .head _)

/-- The loop plays as many frames as the queue gets shorter by, and leaves the ledger to the end of the period. -/
theorem mixFrames (frames : Nat) (lockstep : Lockstep mixer played) :
    ∃ popped, Lockstep (TtsMixer.mixFrames frames mixer) (played + popped) ∧
      (TtsMixer.mixFrames frames mixer).ledger = mixer.ledger := by
  induction frames generalizing mixer played with
  | zero => exact ⟨0, lockstep, rfl⟩
  | succ frames ih =>
    by_cases busy : mixer.queue = []
    · have idle : mixer.mixFrame = mixer := by
        unfold TtsMixer.mixFrame
        rw [busy]
      rw [TtsMixer.mixFrames, idle]
      exact ih lockstep
    · obtain ⟨popped, after, ledger⟩ := ih (lockstep.mixFrame busy)
      have untouched : mixer.mixFrame.ledger = mixer.ledger := by
        rcases mixer.mixFrame_cases with ⟨_, idle⟩ | ⟨_, _, _, _, _, _, _, mixed⟩
        · rw [idle]
        · rw [mixed]
      refine ⟨1 + popped, ?_, ledger.trans untouched⟩
      rw [← Nat.add_assoc]
      exact after

theorem openSegment_dropWhile (done : Segment → Bool) (segments : List Segment) :
    (segments.dropWhile done).getLast? = none ∨ (segments.dropWhile done).getLast? = segments.getLast? := by
  rcases List.eq_nil_or_concat' (segments.dropWhile done) with empty | ⟨rest, back, kept⟩
  · left
    rw [empty]
    rfl
  · right
    have whole := List.takeWhile_append_dropWhile (p := done) (l := segments)
    rw [kept] at whole ⊢
    rw [← whole, ← List.append_assoc, List.getLast?_concat, List.getLast?_concat]

/-- Pruning drops segments that have ended and have nothing left in the queue. -/
theorem pruneTerminal (lockstep : Lockstep mixer played) (ledger : mixer.ledger.playedTotal = played) :
    Lockstep { mixer with ledger := mixer.ledger.pruneTerminal } played := by
  generalize done : (fun segment : Segment => segment.ended && segment.fullyPlayed mixer.ledger.playedTotal) = over_
  have segments : mixer.ledger.pruneTerminal.segments = mixer.ledger.segments.dropWhile over_ := by
    rw [← done]
    rfl
  have whole := List.takeWhile_append_dropWhile (p := over_) (l := mixer.ledger.segments)
  refine {
    ordered := { lockstep.ordered with }
    ids := lockstep.ids
    next := lockstep.next
    total := lockstep.total
    placed := fun segment among => ?_
    current := fun live => ?_
    closed := fun silent => ?_
    retained := ?_
    few := ?_ }
  · have old : segment ∈ mixer.ledger.segments := (List.dropWhile_sublist over_).mem (segments ▸ among)
    exact { lockstep.placed segment old with }
  · obtain ⟨rest, segment, last, unended, own, edge⟩ := lockstep.current live
    have kept : over_ segment = false := by simp [← done, unended]
    refine ⟨rest.dropWhile over_, segment, ?_, unended, own, edge⟩
    rw [segments, last, List.dropWhile_append]
    split_ifs with empty
    · rw [List.isEmpty_iff.mp empty, List.dropWhile_cons_of_neg (by simp [kept])]
      rfl
    · rfl
  · have closed := lockstep.closed silent
    have same := openSegment_dropWhile over_ mixer.ledger.segments
    rw [← segments] at same
    rcases same with none_ | same
    · unfold PlayoutLedger.openSegment
      rw [none_]
    · unfold PlayoutLedger.openSegment at closed ⊢
      rw [same]
      exact closed
  · obtain ⟨first, early, run, held⟩ := lockstep.retained
    rw [← whole, List.map_append] at run
    have size := congrArg List.length run
    simp only [List.length_append, List.length_map, List.length_range'] at size
    generalize dropped : mixer.ledger.segments.takeWhile over_ = past at run size
    have split : List.range' first (mixer.ledger.nextId - first) = List.range' first past.length ++
        List.range' (first + past.length) (mixer.ledger.nextId - (first + past.length)) := by
      rw [List.range'_append_1]
      congr 1
      omega
    rw [split] at run
    have halves := List.append_inj run (by simp)
    refine ⟨first + past.length, ?_, ?_, fun block among => ?_⟩
    · change first + past.length ≤ mixer.ledger.nextId
      omega
    · rw [segments]
      exact halves.2
    · rcases held block among with inside | outside
      · left
        by_contra below
        have listed : block.segmentSerial ∈ past.map (·.localSegmentId) := by
          rw [halves.1, List.mem_range'_1]
          omega
        obtain ⟨segment, here, own⟩ := List.mem_map.mp listed
        rw [← dropped] at here
        have finished := List.mem_takeWhile_imp here
        have placed := lockstep.placed segment ((List.takeWhile_sublist over_).mem here)
        rw [← done] at finished
        simp only [Segment.fullyPlayed, ledger, Bool.and_eq_true, decide_eq_true_eq] at finished
        have none_ : framesBelow (segment.localSegmentId + 1) mixer.queue = 0 := by
          rw [placed.through]
          omega
        have some_ : 0 < framesWhere (· < segment.localSegmentId + 1) mixer.queue :=
          framesWhere_pos among (lockstep.ordered.whole block among) (by simp [own])
        simp only [framesBelow] at none_
        omega
      · exact .inr outside
  · rw [segments]
    exact (List.dropWhile_sublist over_).length_le.trans lockstep.few

theorem mixPeriod (lockstep : Lockstep mixer mixer.ledger.playedTotal) (frames : Nat) :
    Lockstep (mixer.mixPeriod frames) (mixer.mixPeriod frames).ledger.playedTotal := by
  obtain ⟨popped, after, ledger⟩ := lockstep.mixFrames frames
  generalize mixed : TtsMixer.mixFrames frames mixer = last at after ledger
  have before := lockstep.total
  have now := after.total
  have pending := lockstep.ordered.pending
  have left := after.ordered.pending
  rw [ledger] at now
  have count : (mixer.pendingSamples - last.pendingSamples) / channels = popped := by
    rw [pending, left, ← Nat.sub_mul, Nat.mul_div_cancel _ (by decide)]
    omega
  have period : mixer.mixPeriod frames = { last with ledger := last.ledger.advancePlayed popped } := by
    simp only [TtsMixer.mixPeriod, mixed, count]
  rw [period]
  unfold PlayoutLedger.advancePlayed
  split_ifs with idle
  · subst idle
    rw [Nat.add_zero, ← ledger] at after
    exact after
  · have reached : min (last.ledger.playedTotal + popped) last.ledger.queuedTotal =
        mixer.ledger.playedTotal + popped := by
      rw [ledger, Nat.min_eq_left]
      omega
    rw [reached]
    have advanced : Lockstep { last with ledger := { last.ledger with
        playedTotal := mixer.ledger.playedTotal + popped } } (mixer.ledger.playedTotal + popped) :=
      { after with
        ordered := { after.ordered with }
        placed := fun segment among => { after.placed segment among with } }
    exact advanced.pruneTerminal rfl

theorem takeCommand (lockstep : Lockstep mixer mixer.ledger.playedTotal) (queued : QueuedTtsCommand)
    (decision : AssistantGainDecision) :
    Lockstep (mixer.takeCommand queued decision) (mixer.takeCommand queued decision).ledger.playedTotal := by
  rcases mixer.takeCommand_cases queued decision with same | ⟨_, _, dropped⟩ | ⟨context, _, _, accepted⟩ |
    ⟨providerItemId, kind, started⟩ | ⟨chunk, _, some_, audio⟩ | ⟨_, _, ended⟩ | flushed
  · rw [same]
    exact lockstep
  · rw [dropped]
    exact lockstep.event fun _ _ => ⟨rfl, rfl⟩
  · rw [accepted]
    have ledger : (mixer.applyVolumeContext context).ledger = mixer.ledger := by
      unfold TtsMixer.applyVolumeContext
      split <;> rfl
    rw [ledger]
    exact lockstep.applyVolumeContext context
  · rw [started]
    exact lockstep.startSegment providerItemId kind decision
  · rw [audio]
    cases live : mixer.activeSegmentKind.isSome with
    | true =>
      have gain : mixer.activeSegmentGainDb.isNone = false := by
        have some_ := lockstep.ordered.opened
        rw [live] at some_
        simpa using some_
      have opened : mixer.openSegment decision = mixer := by
        simp only [TtsMixer.openSegment, gain, Bool.false_eq_true, if_false]
      rw [opened, playedTotal_enqueueAudio]
      exact lockstep.enqueueAudio queued.epoch some_ live
    | false =>
      have silent : mixer.activeSegmentGainDb.isSome = false := lockstep.ordered.opened.trans live
      have positive := List.length_pos_of_ne_nil some_
      have whole := chunk.whole
      have frames : chunk.samples.length / channels ≠ 0 := by
        simp only [channels] at whole ⊢
        omega
      rw [enqueueAudio_closed frames silent (lockstep.closed live), playedTotal_enqueueAudio]
      exact (lockstep.startSegment none .assistant decision).enqueueAudio queued.epoch some_ rfl
  · rw [ended]
    obtain ⟨queue, playback, disqualified, events, same, _⟩ := TtsMixer.endSegment_changes mixer
    have played : mixer.endSegment.ledger.playedTotal = mixer.ledger.playedTotal := by
      rw [same]
      rfl
    rw [played]
    exact lockstep.endSegment
  · rw [flushed]
    exact lockstep.cleared lockstep.ordered.flushCommand rfl rfl rfl rfl rfl

theorem drainFlushes (lockstep : Lockstep mixer mixer.ledger.playedTotal) (epochs : List Nat) :
    Lockstep (mixer.drainFlushes epochs) (mixer.drainFlushes epochs).ledger.playedTotal := by
  have ordered := lockstep.ordered.drainFlushes epochs
  unfold TtsMixer.drainFlushes at ordered ⊢
  split_ifs with none_
  · exact lockstep
  · rw [if_neg none_] at ordered
    exact lockstep.cleared ordered rfl rfl rfl rfl rfl

theorem act (lockstep : Lockstep mixer mixer.ledger.playedTotal) (action : TtsAction) :
    Lockstep (mixer.act action) (mixer.act action).ledger.playedTotal := by
  cases action with
  | flushes epochs => exact lockstep.drainFlushes epochs
  | command queued decision => exact lockstep.takeCommand queued decision
  | period frames => exact lockstep.mixPeriod frames

end Lockstep

theorem lockstep_of_reachable {maxPendingFrames : Nat} {mixer : TtsMixer}
    (reached : Reachable (ofAct (· = .new maxPendingFrames) TtsMixer.act) mixer) :
    Lockstep mixer mixer.ledger.playedTotal := by
  induction reached with
  | initial start =>
    subst start
    exact .start maxPendingFrames
  | step _ move ih =>
    rw [move]
    exact ih.act _

theorem framesWhere_or {asked other : Nat → Bool} (apart : ∀ serial, asked serial = true → other serial = false)
    (queue : List QueuedAudioBlock) :
    framesWhere asked queue + framesWhere other queue = framesWhere (fun serial => asked serial || other serial) queue := by
  induction queue with
  | nil => rfl
  | cons block rest ih =>
    have apart := apart block.segmentSerial
    cases one : asked block.segmentSerial <;> cases two : other block.segmentSerial <;>
      simp_all [framesWhere] <;> omega

-- One count for each name adds up to one count over the names.
theorem sum_framesLeft {serials : List Nat} (distinct : serials.Nodup) (queue : List QueuedAudioBlock) :
    (serials.map fun serial => framesLeft serial queue).sum = framesWhere (fun serial => serial ∈ serials) queue := by
  induction serials with
  | nil => simp [framesWhere_none]
  | cons serial rest ih =>
    have split := @framesWhere_or (fun other => other == serial) (fun other => other ∈ rest) (by
        intro other same
        rw [beq_iff_eq.mp same]
        simpa using (List.nodup_cons.mp distinct).1) queue
    rw [List.map_cons, List.sum_cons, ih (List.nodup_cons.mp distinct).2, framesLeft, split]
    refine framesWhere_congr fun block _ => ?_
    rw [Bool.eq_iff_iff]
    simp

namespace Lockstep

variable {mixer : TtsMixer}

/-- What a flush reports for each segment that the ledger still has: the frames that were mixed, and those that the
queue loses. -/
theorem flushRecord_event (lockstep : Lockstep mixer mixer.ledger.playedTotal) {event : PlayoutEvent}
    (among : event ∈ mixer.flushRecord.events) :
    event.playedFrames = framesMixed event.localSegmentId mixer.history ∧
      event.flushedFrames = framesLeft event.localSegmentId mixer.queue := by
  obtain ⟨segment, here, rfl⟩ := List.mem_map.mp among
  exact lockstep.played_eq here

theorem flushRecord_depth (lockstep : Lockstep mixer mixer.ledger.playedTotal) :
    mixer.flushRecord.depth = framesTotal mixer.queue := by
  have pending := lockstep.ordered.pending
  simp only [TtsMixer.flushRecord, TtsMixer.pendingFrames, pending]
  exact Nat.mul_div_cancel _ (by decide)

theorem flushRecord_ids (mixer : TtsMixer) :
    mixer.flushRecord.events.map (·.localSegmentId) = mixer.ledger.segments.map (·.localSegmentId) := by
  simp only [TtsMixer.flushRecord, PlayoutLedger.flush, List.map_map]
  rfl

theorem flushRecord_sum (lockstep : Lockstep mixer mixer.ledger.playedTotal) :
    (mixer.flushRecord.events.map (·.flushedFrames)).sum =
      framesWhere (fun serial => serial ∈ mixer.flushRecord.events.map (·.localSegmentId)) mixer.queue := by
  obtain ⟨first, _, run, _⟩ := lockstep.retained
  have distinct : (mixer.flushRecord.events.map (·.localSegmentId)).Nodup := by
    rw [flushRecord_ids, run]
    exact List.nodup_range'
  rw [← sum_framesLeft distinct, List.map_map]
  apply congrArg
  exact List.map_congr_left fun event among => (lockstep.flushRecord_event among).2

theorem flushRecord_missing (lockstep : Lockstep mixer mixer.ledger.playedTotal) {block : QueuedAudioBlock}
    (among : block ∈ mixer.queue) :
    block.segmentSerial ∉ mixer.flushRecord.events.map (·.localSegmentId) ↔
      block.segmentSerial + maxSegments < mixer.nextSegmentSerial := by
  obtain ⟨first, early, run, held⟩ := lockstep.retained
  have bounded := lockstep.ordered.bounded block among
  have next := lockstep.next
  have ids := lockstep.ids
  have size := congrArg List.length run
  have few := lockstep.few
  rw [List.length_map, List.length_range'] at size
  rw [flushRecord_ids, run, List.mem_range'_1]
  rcases held block among with inside | outside
  · omega
  · omega

end Lockstep

/-- Ledger and queue agree in every run. Only a segment that the ledger has dropped, with a whole ledger of newer ones
behind it, is missing from the events of a flush. -/
theorem ledger_agrees_with_queue {maxPendingFrames : Nat} {mixer : TtsMixer}
    (reached : Reachable (ofAct (· = .new maxPendingFrames) TtsMixer.act) mixer) :
    mixer.ledger.queuedTotal - mixer.ledger.playedTotal = framesTotal mixer.queue ∧
    (∀ segment ∈ mixer.ledger.segments,
      segment.played mixer.ledger.playedTotal = framesMixed segment.localSegmentId mixer.history) ∧
    (∀ event ∈ mixer.flushRecord.events,
      event.playedFrames = framesMixed event.localSegmentId mixer.history ∧
        event.flushedFrames = framesLeft event.localSegmentId mixer.queue) ∧
    mixer.flushRecord.depth = framesTotal mixer.queue ∧
    (mixer.flushRecord.events.map (·.flushedFrames)).sum +
      framesWhere (fun serial => serial ∉ mixer.flushRecord.events.map (·.localSegmentId)) mixer.queue =
        mixer.flushRecord.depth ∧
    (∀ block ∈ mixer.queue, block.segmentSerial ∉ mixer.flushRecord.events.map (·.localSegmentId) ↔
      block.segmentSerial + maxSegments < mixer.nextSegmentSerial) ∧
    ((mixer.flushRecord.events.map (·.flushedFrames)).sum = mixer.flushRecord.depth ↔
      ∀ block ∈ mixer.queue, mixer.nextSegmentSerial ≤ block.segmentSerial + maxSegments) := by
  have lockstep := lockstep_of_reachable reached
  have depth := lockstep.flushRecord_depth
  have sum := lockstep.flushRecord_sum
  have whole : (mixer.flushRecord.events.map (·.flushedFrames)).sum +
      framesWhere (fun serial => serial ∉ mixer.flushRecord.events.map (·.localSegmentId)) mixer.queue =
        mixer.flushRecord.depth := by
    rw [sum, depth, framesWhere_or (by simp)]
    refine framesWhere_congr fun block _ => ?_
    rw [decide_not, Bool.or_not_self]
  refine ⟨?_, fun segment among => (lockstep.played_eq among).1, fun event => lockstep.flushRecord_event, depth, whole,
    fun block => lockstep.flushRecord_missing, fun exact_ block among => ?_, fun recent => ?_⟩
  · have total := lockstep.total
    omega
  · -- A frame that is queued for a segment without an event is missing from the sum.
    by_contra old
    have missing := (lockstep.flushRecord_missing among).mpr (not_le.mp old)
    have lost : 0 < framesWhere (fun serial => serial ∉ mixer.flushRecord.events.map (·.localSegmentId)) mixer.queue :=
      framesWhere_pos among (lockstep.ordered.whole block among) (decide_eq_true missing)
    omega
  · rw [sum, depth]
    refine framesWhere_congr fun block among => decide_eq_true ?_
    by_contra missing
    have old := (lockstep.flushRecord_missing among).mp missing
    have new := recent block among
    omega

def halfMixed : TtsMixer :=
  [.command ⟨0, .segmentStart .assistant none none⟩ ⟨⟨0⟩⟩, .command ⟨0, .audioWide ⟨[0, 0, 0, 0], rfl⟩⟩ ⟨⟨0⟩⟩,
    .period 1].foldl TtsMixer.act (.new 4)

theorem ledger_agrees_with_queue_half_mixed : halfMixed.flushRecord.depth = 1 ∧
    (halfMixed.flushRecord.events.map (·.flushedFrames)).sum = halfMixed.flushRecord.depth :=
  ⟨by decide, (@ledger_agrees_with_queue 4 halfMixed (reachable_foldl (by rfl) _)).2.2.2.2.2.2.mpr
    (by decide)⟩

-- A segment of one frame, then as many further segments as asked, all of them empty.
def crowded : Nat → TtsMixer
  | 0 => ((TtsMixer.new 2).takeCommand ⟨0, .segmentStart .assistant none none⟩ ⟨⟨0⟩⟩).takeCommand
      ⟨0, .audioWide ⟨[0, 0], rfl⟩⟩ ⟨⟨0⟩⟩
  | starts + 1 => (crowded starts).takeCommand ⟨0, .segmentStart .assistant none none⟩ ⟨⟨0⟩⟩

theorem crowded_reachable (starts : Nat) : Reachable (ofAct (· = .new 2) TtsMixer.act) (crowded starts) := by
  induction starts with
  | zero =>
    have opened : Reachable (ofAct (· = .new 2) TtsMixer.act) ((TtsMixer.new 2).act
        (.command ⟨0, .segmentStart .assistant none none⟩ ⟨⟨0⟩⟩)) := .step (.initial rfl) rfl
    have move : (ofAct (· = .new 2) TtsMixer.act).Step _ (.command ⟨0, .audioWide ⟨[0, 0], rfl⟩⟩ ⟨⟨0⟩⟩) (crowded 0) := rfl
    exact .step opened move
  | succ starts ih =>
    have move : (ofAct (· = .new 2) TtsMixer.act).Step (crowded starts)
        (.command ⟨0, .segmentStart .assistant none none⟩ ⟨⟨0⟩⟩) (crowded (starts + 1)) := rfl
    exact .step ih move

theorem crowded_serials (starts : Nat) :
    (crowded starts).activeEpoch = 0 ∧ (crowded starts).nextSegmentSerial = starts + 2 ∧
      (crowded starts).pendingSamples = 2 ∧ (crowded starts).queue.map (·.segmentSerial) = [1] := by
  induction starts with
  | zero => decide
  | succ starts ih =>
    obtain ⟨epoch, next, pending, queue⟩ := ih
    have opened : crowded (starts + 1) = (crowded starts).startSegment none .assistant ⟨⟨0⟩⟩ := by
      simp [crowded, TtsMixer.takeCommand, epoch]
    rw [opened]
    exact ⟨epoch, congrArg (· + 1) next, pending, queue⟩

theorem crowded_events {starts : Nat} (many : maxSegments < starts + 1) :
    1 ∉ (crowded (starts + 1)).flushRecord.events.map (·.localSegmentId) := by
  have lockstep := lockstep_of_reachable (crowded_reachable (starts + 1))
  have next := (crowded_serials (starts + 1)).2.1
  obtain ⟨first, early, run, _⟩ := lockstep.retained
  have ids := lockstep.ids
  have few : (crowded (starts + 1)).ledger.segments.length ≤ maxSegments := by
    have opened : crowded (starts + 1) = (crowded starts).startSegment none .assistant ⟨⟨0⟩⟩ := by
      simp [crowded, TtsMixer.takeCommand, (crowded_serials starts).1]
    have segments := Lockstep.segments_startSegment (crowded starts).ledger none .assistant
    rw [opened]
    change ((crowded starts).ledger.startSegment none .assistant).segments.length ≤ maxSegments
    rw [segments, List.length_drop]
    omega
  have length := congrArg List.length run
  rw [List.length_map, List.length_range'] at length
  rw [Lockstep.flushRecord_ids, run, List.mem_range'_1]
  omega

theorem flush_loses_a_crowded_out_segment :
    ∃ mixer, Reachable (ofAct (· = .new 2) TtsMixer.act) mixer ∧
      (mixer.flushRecord.events.map (·.flushedFrames)).sum = 0 ∧ mixer.flushRecord.depth = 1 := by
  obtain ⟨starts, many⟩ : ∃ starts, maxSegments < starts + 1 := ⟨maxSegments, Nat.lt_succ_self _⟩
  have reached := crowded_reachable (starts + 1)
  obtain ⟨_, _, pending, queue⟩ := crowded_serials (starts + 1)
  refine ⟨crowded (starts + 1), reached, ?_, ?_⟩
  · rw [(lockstep_of_reachable reached).flushRecord_sum]
    refine (framesWhere_congr fun block among => decide_eq_false ?_).trans (framesWhere_none _)
    have serial : block.segmentSerial = 1 := by
      have listed := List.mem_map_of_mem (f := (·.segmentSerial)) among
      rw [queue] at listed
      exact List.mem_singleton.mp listed
    rw [serial]
    exact crowded_events many
  · simp only [TtsMixer.flushRecord, TtsMixer.pendingFrames, pending]
    rfl

end Jts.Tts.Fanin
