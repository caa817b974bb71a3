import Mathlib
import Jts.Tts.Drain

set_option autoImplicit false

namespace Jts.Tts.Outputd

open Jts.Tts Jts.Shared.Transition

-- What the source looks up, with the ledger at that moment: it panics where the id is not there.
def TtsBridge.lookups (bridge : TtsBridge) (queued : QueuedTtsCommand) (decision : AssistantGainDecision) :
    List (PlayoutLedger × SegmentId) :=
  if queued.epoch ≠ bridge.activeEpoch ∧ queued.command.isRestore = false then []
  else match queued.command with
  | .segmentStart _ _ _ => bridge.openSegment.toList.map fun id => (bridge.core.ledger, id)
  | .segmentEnd => bridge.openSegment.toList.map fun id => (bridge.core.ledger, id)
  | .audioWide chunk =>
    if bridge.maxPendingFrames < bridge.core.pendingAssistantFrames + chunk.samples.length / channels then []
    else
      let opened := bridge.openForAudio decision
      opened.openSegment.toList.map fun id => (opened.core.ledger, id)
  | _ => []

-- The writes of the period that waits for its commit.
def OutputLoop.waiting (loop : OutputLoop) : List SegmentWrite := (loop.prepared.map (·.writes)).getD []

def OutputLoop.lookups (loop : OutputLoop) : LoopAction → List (PlayoutLedger × SegmentId)
  | .flush _ => []
  | .command queued decision => loop.bridge.lookups queued decision
  | .prepare => []
  | .commit _ => loop.waiting.map fun write => (loop.ledger, write.id)

def PlayoutSegment.undrained (segment : PlayoutSegment) : Bool :=
  segment.estimatedDrainedFrames < segment.queuedFrames && segment.status != .flushed

/-- The retained segments that are neither open nor have audio left keep to the limit. -/
def OutputLoop.Bounded (loop : OutputLoop) : Prop :=
  loop.ledger.segments.length ≤ defaultTerminalSegmentRetention +
    loop.ledger.segments.countP fun segment =>
      loop.bridge.openSegment == some segment.localSegmentId || segment.undrained

/-- No segment ends before a frame of it was queued, and a flush between a preparation and its commit leaves the segments
of the prepared writes among the newest that are retained. -/
def Fed (loop : OutputLoop) : LoopAction → Prop
  | .flush _ => ∀ write ∈ loop.waiting,
      loop.ledger.segments.countP (fun segment => decide (write.id ≤ segment.localSegmentId)) ≤
        defaultTerminalSegmentRetention
  | .command queued _ => loop.bridge.closes queued = true → ∀ id ∈ loop.bridge.openSegment,
      ∀ segment ∈ loop.ledger.segments, segment.localSegmentId = id → 0 < segment.queuedFrames
  | .prepare => True
  | .commit _ => True

instance (loop : OutputLoop) (action : LoopAction) : Decidable (Fed loop action) := by
  cases action <;> unfold Fed <;> infer_instance

-- The frames of a segment that the queue still holds.
def pending (id : SegmentId) (entries : List AssistantSegment) : Nat :=
  (entries.map fun entry => if entry.id = id then entry.pendingFrames else 0).sum

def due (id : SegmentId) (writes : List SegmentWrite) : Nat :=
  (writes.map fun write => if write.id = id then write.frames else 0).sum

structure AssistantSegment.Whole (entry : AssistantSegment) : Prop where
  samples : entry.samples.length % channels = 0
  cursor : entry.cursorSamples % channels = 0
  unread : entry.cursorSamples < entry.samples.length

theorem AssistantSegment.Whole.unfinished {entry : AssistantSegment} (whole : entry.Whole) :
    entry.finished = false := by
  have unread := whole.unread
  simp only [AssistantSegment.finished, decide_eq_false_iff_not]
  omega

theorem pending_pos {entries : List AssistantSegment} {entry : AssistantSegment} (among : entry ∈ entries)
    (whole : entry.Whole) : 0 < pending entry.id entries := by
  have own : 0 < entry.pendingFrames := by
    obtain ⟨samples, cursor, unread⟩ := whole
    simp only [AssistantSegment.pendingFrames, channels] at *
    omega
  have part : entry.pendingFrames ∈ entries.map fun other => if other.id = entry.id then other.pendingFrames else 0 :=
    List.mem_map.mpr ⟨entry, among, if_pos rfl⟩
  exact Nat.lt_of_lt_of_le own (List.le_sum_of_mem part)

namespace PeriodRead

variable {context : Option VolumeContext}

/-- A frame that goes out moves from the queue to the writes. -/
theorem readFrame_pending (id : SegmentId) {read : PeriodRead} (whole : ∀ entry ∈ read.segments, entry.Whole) :
    (read.readFrame context).wrote id + pending id (read.readFrame context).segments =
        read.wrote id + pending id read.segments ∧
      ∀ entry ∈ (read.readFrame context).segments, entry.Whole := by
  have wrote := read.wrote_readFrame id context
  cases queue : read.segments with
  | nil =>
    rcases readFrame_cases context read with ⟨_, segments, _, history⟩ | ⟨front, rest, left, _⟩
    · rw [history] at wrote
      rw [segments]
      exact ⟨by omega, fun entry among => by cases among⟩
    · rw [queue] at left
      cases left
  | cons head tail =>
    have first : head.Whole := whole head (queue ▸ .head _)
    have left : read.segments.dropWhile (·.finished) = head :: tail := by
      rw [queue, List.dropWhile_cons_of_neg]
      simp [first.unfinished]
    have others : ∀ entry ∈ tail, entry.Whole := fun entry among => whole entry (queue ▸ .tail _ among)
    have moved : (head.render context).id = head.id ∧ (head.render context).samples = head.samples ∧
        (head.render context).cursorSamples = head.cursorSamples + channels := by
      unfold AssistantSegment.render
      split_ifs <;> exact ⟨rfl, rfl, rfl⟩
    obtain ⟨samples, cursor, unread⟩ := first
    have whole_ : head.samples.length = head.cursorSamples + channels * head.pendingFrames := by
      simp only [AssistantSegment.pendingFrames, channels] at *
      omega
    rcases readFrame_cases context read with ⟨none_, _⟩ | ⟨front, rest, same, history, done | more⟩
    · rw [left] at none_
      cases none_
    · obtain ⟨rfl, rfl⟩ := List.cons.inj (left.symm.trans same)
      obtain ⟨finished, segments, _⟩ := done
      have last : head.pendingFrames = 1 := by
        simp only [AssistantSegment.finished, moved, decide_eq_true_eq, channels] at finished whole_ samples cursor
        omega
      rw [history] at wrote
      rw [segments]
      refine ⟨?_, others⟩
      simp only [framesMixed] at wrote
      simp only [pending, List.map_cons, List.sum_cons, last]
      split_ifs at wrote ⊢ <;> omega
    · obtain ⟨rfl, rfl⟩ := List.cons.inj (left.symm.trans same)
      obtain ⟨unfinished, segments, _⟩ := more
      have fewer : head.pendingFrames = (head.render context).pendingFrames + 1 := by
        simp only [AssistantSegment.finished, moved, decide_eq_false_iff_not, channels] at unfinished whole_
        simp only [AssistantSegment.pendingFrames, moved, channels] at *
        omega
      rw [history] at wrote
      rw [segments]
      constructor
      · simp only [framesMixed] at wrote
        simp only [pending, List.map_cons, List.sum_cons, moved.1, fewer]
        split_ifs at wrote ⊢ <;> omega
      · intro entry among
        rcases List.mem_cons.mp among with rfl | later
        · refine ⟨moved.2.1 ▸ samples, ?_, ?_⟩
          · rw [moved.2.2]
            simp only [channels] at cursor ⊢
            omega
          · simpa [AssistantSegment.finished] using unfinished
        · exact others entry later

theorem readFrames_pending (id : SegmentId) (frames : Nat) {read : PeriodRead}
    (whole : ∀ entry ∈ read.segments, entry.Whole) :
    (readFrames context frames read).wrote id + pending id (readFrames context frames read).segments =
        read.wrote id + pending id read.segments ∧
      ∀ entry ∈ (readFrames context frames read).segments, entry.Whole := by
  induction frames generalizing read with
  | zero => exact ⟨congrArg (· + pending id read.segments) (wrote_endWrite id read), whole⟩
  | succ frames ih =>
    obtain ⟨first, kept⟩ := readFrame_pending id whole
    obtain ⟨later, last⟩ := ih kept
    exact ⟨later.trans first, last⟩

theorem countWrite_ids (read : PeriodRead) (id : SegmentId) :
    ∀ write ∈ (read.countWrite id).writes ++ (read.countWrite id).currentWrite.toList, write.id = id ∨
      ∃ old ∈ read.writes ++ read.currentWrite.toList, old.id = write.id := by
  unfold countWrite
  split
  next current held =>
    split_ifs with same <;> intro write among
    · rcases List.mem_append.mp among with before | now
      · exact .inr ⟨write, List.mem_append_left _ before, rfl⟩
      · exact .inl (by rw [List.mem_singleton.mp now]; exact same)
    · rcases List.mem_append.mp among with before | now
      · exact .inr ⟨write, before, rfl⟩
      · exact .inl (by rw [List.mem_singleton.mp now])
  next none_ =>
    intro write among
    rcases List.mem_append.mp among with before | now
    · exact .inr ⟨write, List.mem_append_left _ before, rfl⟩
    · exact .inl (by rw [List.mem_singleton.mp now])

theorem readFrame_writes (read : PeriodRead) :
    ∀ write ∈ (read.readFrame context).writes ++ (read.readFrame context).currentWrite.toList,
      (∃ entry ∈ read.segments, entry.id = write.id) ∨
        ∃ old ∈ read.writes ++ read.currentWrite.toList, old.id = write.id := by
  have skipped : ∀ write ∈ read.skipFinished.writes ++ read.skipFinished.currentWrite.toList,
      write ∈ read.writes ++ read.currentWrite.toList := fun write among => by
    simp only [skipFinished] at among
    split_ifs at among
    · exact among
    · simpa [endWrite] using among
  have counted (segments : List AssistantSegment) (drained : List DrainedPlayback) (history : List TtsEvent)
      (id : SegmentId) : ∀ write ∈ (({ read.skipFinished with
          segments := segments, drained := drained, history := history } : PeriodRead).countWrite id).writes ++
        (({ read.skipFinished with
          segments := segments, drained := drained, history := history } : PeriodRead).countWrite id).currentWrite.toList,
      write.id = id ∨ ∃ old ∈ read.writes ++ read.currentWrite.toList, old.id = write.id := fun write among => by
    rcases countWrite_ids _ id write among with own | ⟨old, before, same⟩
    · exact .inl own
    · exact .inr ⟨old, skipped old before, same⟩
  intro write among
  cases left : read.segments.dropWhile (·.finished) with
  | nil =>
    simp only [readFrame, skipFinished_segments, left] at among
    exact .inr ⟨write, skipped write (by simpa [endWrite] using among), rfl⟩
  | cons front rest =>
    have first : front ∈ read.segments.dropWhile (·.finished) := left ▸ .head _
    have held : front ∈ read.segments := (List.dropWhile_suffix _).mem first
    have own : write.id = front.id ∨ ∃ old ∈ read.writes ++ read.currentWrite.toList, old.id = write.id := by
      simp only [readFrame, skipFinished_segments, left, finalizeFrontCompletion] at among
      split_ifs at among <;> exact counted _ _ _ _ write among
    exact own.imp_left fun same => ⟨front, held, same.symm⟩

theorem readFrames_writes (frames : Nat) (read : PeriodRead) :
    ∀ write ∈ (readFrames context frames read).writes, (∃ entry ∈ read.segments, entry.id = write.id) ∨
      ∃ old ∈ read.writes ++ read.currentWrite.toList, old.id = write.id := by
  induction frames generalizing read with
  | zero => exact fun write among => .inr ⟨write, among, rfl⟩
  | succ frames ih =>
    intro write among
    rcases ih (read.readFrame context) write among with ⟨entry, held, own⟩ | ⟨old, before, same⟩
    · obtain ⟨first, kept, named⟩ := read.readFrame_ids entry held
      exact .inl ⟨first, kept, named.trans own⟩
    · rcases read.readFrame_writes old before with ⟨entry, held, own⟩ | ⟨first, kept, named⟩
      · exact .inl ⟨entry, held, own.trans same⟩
      · exact .inr ⟨first, kept, named.trans same⟩

end PeriodRead

/-- A segment of the ledger with so many of its frames still to be written. -/
structure Tallied (openId : Option SegmentId) (left : Nat) (segment : PlayoutSegment) : Prop where
  unended : segment.ended = false → openId = some segment.localSegmentId
  drained : segment.status = .drained → segment.ended = true ∧ segment.queuedFrames ≤ segment.estimatedDrainedFrames
  flushed : segment.status = .flushed → segment.ended = true
  fed : segment.ended = true → segment.status ≠ .flushed → 0 < segment.queuedFrames
  bounded : segment.estimatedDrainedFrames ≤ segment.writtenFrames
  account : segment.status ≠ .flushed → segment.writtenFrames + left = segment.queuedFrames

namespace Tallied

variable {openId : Option SegmentId} {left : Nat} {segment : PlayoutSegment}

theorem live (tallied : Tallied openId left segment) (unended : segment.ended = false) :
    segment.isTerminal = false := by
  by_contra terminal
  simp only [PlayoutSegment.isTerminal, Bool.not_eq_false, Bool.or_eq_true, beq_iff_eq] at terminal
  rcases terminal with drained | flushed
  · rw [(tallied.drained drained).1] at unended
    cases unended
  · rw [tallied.flushed flushed] at unended
    cases unended

-- What is still to be written has not drained.
theorem ahead (tallied : Tallied openId left segment) (more : 0 < left) (unflushed : segment.status ≠ .flushed) :
    segment.isTerminal = false := by
  by_contra terminal
  simp only [PlayoutSegment.isTerminal, Bool.not_eq_false, Bool.or_eq_true, beq_iff_eq] at terminal
  rcases terminal with drained | flushed
  · have through := (tallied.drained drained).2
    have bounded := tallied.bounded
    have account := tallied.account unflushed
    omega
  · exact unflushed flushed

theorem wrote {frames : Nat} {old new : PlayoutSegment} (tallied : Tallied openId (frames + left) old)
    (wrote : Wrote frames old new) : Tallied openId left new where
  unended := fun unended => by
    rw [wrote.id]
    exact tallied.unended (wrote.ended ▸ unended)
  drained := fun drained => by
    rw [wrote.ended, wrote.queued, wrote.estimated]
    exact tallied.drained (wrote.drained drained)
  flushed := fun flushed => by
    rw [wrote.ended]
    exact tallied.flushed (wrote.flushed.mp flushed)
  fed := fun ended unflushed => by
    rw [wrote.queued]
    exact tallied.fed (wrote.ended ▸ ended) fun flushed => unflushed (wrote.flushed.mpr flushed)
  bounded := by
    rw [wrote.estimated, wrote.written]
    exact Nat.le_add_right_of_le tallied.bounded
  account := fun unflushed => by
    have before := tallied.account fun flushed => unflushed (wrote.flushed.mpr flushed)
    rw [wrote.written, wrote.queued]
    omega

theorem maybeMarkDrained (tallied : Tallied openId left segment) : Tallied openId left segment.maybeMarkDrained := by
  unfold PlayoutSegment.maybeMarkDrained
  split_ifs with done
  · exact { tallied with
      drained := fun _ => ⟨done.1, done.2.2.1⟩
      flushed := fun flushed => by cases flushed
      fed := fun _ _ => done.2.1
      account := fun _ => tallied.account done.2.2.2 }
  · exact tallied

theorem markDrainedThrough (tallied : Tallied openId left segment) (outputFrame : Nat) :
    Tallied openId left (segment.markDrainedThrough outputFrame) := by
  unfold PlayoutSegment.markDrainedThrough
  split
  · exact tallied
  · exact tallied
  next start _ _ =>
    have grown : Tallied openId left { segment with
        estimatedDrainedFrames :=
          max segment.estimatedDrainedFrames (min (outputFrame - start) segment.writtenFrames) } :=
      { tallied with
        drained := fun drained => by
          obtain ⟨ended, through⟩ := tallied.drained drained
          exact ⟨ended, through.trans (Nat.le_max_left _ _)⟩
        bounded := Nat.max_le.mpr ⟨tallied.bounded, Nat.min_le_right _ _⟩ }
    exact grown.maybeMarkDrained

/-- A segment that has audio ends in a state that drains. -/
theorem finish (tallied : Tallied openId left segment) (audio : 0 < segment.queuedFrames) :
    Tallied none left segment.finish := by
  unfold PlayoutSegment.finish
  split_ifs with flushed
  · exact { tallied with unended := fun unended => by rw [tallied.flushed flushed] at unended; cases unended }
  · have ended : Tallied none left { segment with ended := true } := { tallied with
      unended := fun unended => by cases unended
      drained := fun drained => ⟨rfl, (tallied.drained drained).2⟩
      flushed := fun _ => rfl
      fed := fun _ _ => audio }
    exact ended.maybeMarkDrained

theorem queueFrames (tallied : Tallied openId left segment) (unended : segment.ended = false) (frames : Nat) :
    Tallied openId (left + frames) (segment.queueFrames frames) :=
  { tallied with
    drained := fun drained => by rw [(tallied.drained drained).1] at unended; cases unended
    fed := fun (ended : segment.ended = true) => by rw [unended] at ended; cases ended
    account := fun unflushed => by
      have before := tallied.account unflushed
      simp only [PlayoutSegment.queueFrames]
      omega }

theorem flushOpen (tallied : Tallied openId left segment) {less : Nat} (le : less ≤ left) :
    Tallied none less segment.flushOpen ∧ segment.flushOpen.isTerminal = true := by
  unfold PlayoutSegment.flushOpen
  split_ifs with terminal
  · refine ⟨{ tallied with
      unended := fun unended => by rw [tallied.live unended] at terminal; cases terminal
      account := fun unflushed => ?_ }, terminal⟩
    simp only [PlayoutSegment.isTerminal, Bool.or_eq_true, beq_iff_eq, unflushed, or_false] at terminal
    have through := (tallied.drained terminal).2
    have bounded := tallied.bounded
    have account := tallied.account unflushed
    omega
  · exact ⟨{ tallied with
      unended := fun unended => by cases unended
      drained := fun drained => by cases drained
      flushed := fun _ => rfl
      fed := fun _ unflushed => absurd rfl unflushed
      account := fun unflushed => absurd rfl unflushed }, rfl⟩

/-- The commit drains what it can: an ended segment that stays has audio left. -/
theorem settled (tallied : Tallied openId left segment) {outputFrame : Nat}
    (unstarted : segment.outputStartFrame = none → segment.writtenFrames = 0) (ended : segment.ended = true)
    (live : (segment.markDrainedThrough outputFrame).isTerminal = false) :
    (segment.markDrainedThrough outputFrame).undrained = true := by
  have fed := tallied.fed ended
  have bounded := tallied.bounded
  revert live
  unfold PlayoutSegment.markDrainedThrough
  split
  next flushed =>
    intro live
    simp [PlayoutSegment.isTerminal, flushed] at live
  next start unflushed =>
    intro _
    have unwritten := unstarted start
    have audio := fed unflushed
    simp only [PlayoutSegment.undrained, Bool.and_eq_true, decide_eq_true_eq, bne_iff_ne]
    exact ⟨by omega, unflushed⟩
  next start _ unflushed =>
    have audio := fed unflushed
    unfold PlayoutSegment.maybeMarkDrained
    split_ifs with done
    · intro live
      cases live
    · intro _
      simp only [PlayoutSegment.undrained, Bool.and_eq_true, decide_eq_true_eq, bne_iff_ne]
      exact ⟨Nat.not_le.mp fun through => done ⟨ended, audio, through, unflushed⟩, unflushed⟩

end Tallied

/-- The ledger against the queue and the writes that wait for their commit. -/
structure Retains (bridge : TtsBridge) (writes : List SegmentWrite) : Prop where
  named : Named bridge
  openSegment : ∀ id, bridge.openSegment = some id →
    ∃ segment ∈ bridge.core.ledger.segments, segment.localSegmentId = id ∧ segment.ended = false
  segments : ∀ segment ∈ bridge.core.ledger.segments, Tallied bridge.openSegment
    (due segment.localSegmentId writes + pending segment.localSegmentId bridge.core.assistant) segment
  assistant : ∀ entry ∈ bridge.core.assistant, entry.Whole ∧
    ∃ segment ∈ bridge.core.ledger.segments, segment.localSegmentId = entry.id ∧ segment.status ≠ .flushed
  writes : ∀ write ∈ writes, ∃ segment ∈ bridge.core.ledger.segments, segment.localSegmentId = write.id

theorem pending_absent {id : SegmentId} {entries : List AssistantSegment} (absent : ∀ entry ∈ entries, entry.id ≠ id) :
    pending id entries = 0 :=
  List.sum_eq_zero fun frames among => by
    obtain ⟨entry, held, rfl⟩ := List.mem_map.mp among
    exact if_neg (absent entry held)

theorem due_absent {id : SegmentId} {writes : List SegmentWrite} (absent : ∀ write ∈ writes, write.id ≠ id) :
    due id writes = 0 :=
  List.sum_eq_zero fun frames among => by
    obtain ⟨write, held, rfl⟩ := List.mem_map.mp among
    exact if_neg (absent write held)

theorem finish_unflushed {segment : PlayoutSegment} (flushed : segment.finish.status = .flushed) :
    segment.status = .flushed := by
  unfold PlayoutSegment.finish at flushed
  split_ifs at flushed with before
  · exact before
  · exact (relabelled_maybeMarkDrained { segment with ended := true }).flushed.mp flushed

theorem kept_modify (ledger : PlayoutLedger) (id : SegmentId) {change : PlayoutSegment → PlayoutSegment}
    (same : ∀ segment, (change segment).localSegmentId = segment.localSegmentId)
    (unflushed : ∀ segment, (change segment).status = .flushed → segment.status = .flushed) :
    ∀ segment ∈ ledger.segments, ∃ after ∈ (ledger.modify id change).segments,
      after.localSegmentId = segment.localSegmentId ∧ (after.status = .flushed → segment.status = .flushed) := by
  intro segment among
  refine ⟨_, List.mem_map_of_mem among, ?_⟩
  split_ifs
  · exact ⟨same segment, unflushed segment⟩
  · exact ⟨rfl, fun flushed => flushed⟩

theorem countP_dropTerminal (toDrop : Nat) (segments : List PlayoutSegment) :
    (dropTerminal toDrop segments).countP (·.isTerminal) = segments.countP (·.isTerminal) - toDrop := by
  fun_induction dropTerminal toDrop segments with
  | case1 => exact (Nat.zero_sub _).symm
  | case2 => rfl
  | case3 toDrop segment rest terminal ih =>
    rw [ih, List.countP_cons_of_pos terminal, Nat.add_sub_add_right]
  | case4 toDrop segment rest live ih =>
    rw [List.countP_cons_of_neg live, List.countP_cons_of_neg live, ih]

theorem countP_prune (ledger : PlayoutLedger) (retainTerminal : Nat) :
    (ledger.pruneTerminalSegments retainTerminal).segments.countP (·.isTerminal) ≤ retainTerminal := by
  rw [PlayoutLedger.pruneTerminalSegments, countP_dropTerminal]
  omega

theorem dropTerminal_all {toDrop : Nat} {segments : List PlayoutSegment}
    (terminal : ∀ segment ∈ segments, segment.isTerminal = true) :
    dropTerminal toDrop segments = segments.drop toDrop := by
  fun_induction dropTerminal toDrop segments with
  | case1 => rw [List.drop_nil]
  | case2 => rfl
  | case3 toDrop segment rest _ ih => exact ih fun later among => terminal later (.tail _ among)
  | case4 toDrop segment rest live ih => exact absurd (terminal segment (.head _)) live

/-- In a rising list what has few after it is among the last. -/
theorem mem_drop_of_countP {segments : List PlayoutSegment} (rising : (segments.map (·.localSegmentId)).Pairwise (· < ·))
    {retain : Nat} {segment : PlayoutSegment} (among : segment ∈ segments)
    (few : segments.countP (fun other => decide (segment.localSegmentId ≤ other.localSegmentId)) ≤ retain) :
    segment ∈ segments.drop (segments.length - retain) := by
  have parts := List.take_append_drop (segments.length - retain) segments
  rcases List.mem_append.mp (parts ▸ among) with early | late
  · rw [← parts, List.map_append, List.pairwise_append] at rising
    have later : (segments.drop (segments.length - retain)).countP
        (fun other => decide (segment.localSegmentId ≤ other.localSegmentId)) =
          (segments.drop (segments.length - retain)).length := List.countP_eq_length.mpr fun other after =>
      decide_eq_true (Nat.le_of_lt (rising.2.2 _ (List.mem_map_of_mem early) _ (List.mem_map_of_mem after)))
    have itself : 0 < (segments.take (segments.length - retain)).countP
        (fun other => decide (segment.localSegmentId ≤ other.localSegmentId)) :=
      List.countP_pos_iff.mpr ⟨segment, early, decide_eq_true (Nat.le_refl _)⟩
    rw [← parts, List.countP_append, later, List.length_drop] at few
    have taken : 0 < (segments.take (segments.length - retain)).length := List.length_pos_of_mem early
    rw [List.length_take] at taken
    omega
  · exact late

theorem bounded_of_settled {loop : OutputLoop}
    (terminal : loop.ledger.segments.countP (·.isTerminal) ≤ defaultTerminalSegmentRetention)
    (others : ∀ segment ∈ loop.ledger.segments, segment.isTerminal = false →
      (loop.bridge.openSegment == some segment.localSegmentId || segment.undrained) = true) : loop.Bounded := by
  have parts := @List.length_eq_countP_add_countP _ (·.isTerminal) loop.ledger.segments
  have rest := List.countP_mono_left fun segment among (live : decide (¬ segment.isTerminal = true) = true) =>
    others segment among (by simpa using live)
  simp only [OutputLoop.Bounded]
  omega

namespace Retains

variable {bridge : TtsBridge} {writes : List SegmentWrite}

theorem quiet {after : TtsBridge} (retains : Retains bridge writes) (quiet : Quiet bridge after) :
    Retains after writes where
  named := (Receives.quiet quiet).named retains.named
  openSegment := by
    rw [quiet.openSegment, quiet.ledger]
    exact retains.openSegment
  segments := by
    rw [quiet.openSegment, quiet.ledger, quiet.assistant]
    exact retains.segments
  assistant := by
    rw [quiet.ledger, quiet.assistant]
    exact retains.assistant
  writes := by
    rw [quiet.ledger]
    exact retains.writes

theorem closeOpenSegment (retains : Retains bridge writes)
    (fed : ∀ id ∈ bridge.openSegment, ∀ segment ∈ bridge.core.ledger.segments, segment.localSegmentId = id →
      0 < segment.queuedFrames) :
    Retains bridge.closeOpenSegment writes ∧ bridge.closeOpenSegment.openSegment = none := by
  have receives : Receives bridge bridge.closeOpenSegment := .closeOpenSegment
  have named := receives.named retains.named
  revert named
  unfold TtsBridge.closeOpenSegment
  cases opened : bridge.openSegment with
  | none => exact fun _ => ⟨retains, opened⟩
  | some id =>
    obtain ⟨waits, events, changes, _⟩ := bridge.core.endAssistantSegment_changes id
    simp only [changes]
    have kept := kept_modify bridge.core.ledger id (fun segment => (unheard_finish segment).name)
      fun segment => finish_unflushed
    refine fun named => ⟨?_, trivial⟩
    exact {
      named := named
      openSegment := fun other open_ => by cases open_
      segments := fun segment among => by
        obtain ⟨old, before, rfl⟩ := List.mem_map.mp among
        have tallied := retains.segments old before
        split_ifs with own
        · rw [(unheard_finish old).name]
          exact tallied.finish (fed id opened old before own)
        · exact { tallied with
            unended := fun unended => absurd (Option.some.inj (opened.symm.trans (tallied.unended unended))).symm own }
      assistant := fun entry among => by
        obtain ⟨whole, segment, held, own, unflushed⟩ := retains.assistant entry among
        obtain ⟨after, now, same, flushed⟩ := kept segment held
        exact ⟨whole, after, now, same.trans own, fun flush => unflushed (flushed flush)⟩
      writes := fun write among => by
        obtain ⟨segment, held, own⟩ := retains.writes write among
        obtain ⟨after, now, same, _⟩ := kept segment held
        exact ⟨after, now, same.trans own⟩ }

theorem startSegment (retains : Retains bridge writes) (closed : bridge.openSegment = none) (item : Option Token)
    (kind : SegmentKind) (decision : AssistantGainDecision) :
    Retains (bridge.startSegment item kind decision) writes := by
  have held : ∀ segment ∈ bridge.core.ledger.segments,
      segment ∈ (bridge.startSegment item kind decision).core.ledger.segments := fun segment among =>
    List.mem_append_left _ among
  exact {
    named := (Receives.startSegment item kind decision).named retains.named
    openSegment := fun id open_ => by
      refine ⟨_, List.mem_append_right _ (.head _), ?_, rfl⟩
      exact Option.some.inj open_
    segments := fun segment among => by
      rcases List.mem_append.mp among with old | fresh
      · have tallied := retains.segments segment old
        exact { tallied with unended := fun unended => by cases closed.symm.trans (tallied.unended unended) }
      · obtain rfl := List.mem_singleton.mp fresh
        have unwritten : due bridge.core.ledger.nextId writes = 0 := due_absent fun write among own => by
          obtain ⟨segment, before, named⟩ := retains.writes write among
          exact Nat.ne_of_lt (retains.named.ordered.below segment before) (named.trans own)
        have unqueued : pending bridge.core.ledger.nextId bridge.core.assistant = 0 :=
          pending_absent fun entry among => Nat.ne_of_lt (retains.named.assistant entry among)
        exact {
          unended := fun _ => rfl
          drained := fun drained => by cases drained
          flushed := fun flushed => by cases flushed
          fed := fun ended => by cases ended
          bounded := Nat.le_refl _
          account := fun _ => by
            change 0 + (due bridge.core.ledger.nextId writes + pending bridge.core.ledger.nextId bridge.core.assistant) = 0
            omega }
    assistant := fun entry among => by
      obtain ⟨whole, segment, before, own, unflushed⟩ := retains.assistant entry among
      exact ⟨whole, segment, held segment before, own, unflushed⟩
    writes := fun write among => by
      obtain ⟨segment, before, own⟩ := retains.writes write among
      exact ⟨segment, held segment before, own⟩ }

theorem openForAudio (retains : Retains bridge writes) (decision : AssistantGainDecision) :
    Retains (bridge.openForAudio decision) writes := by
  unfold TtsBridge.openForAudio
  split_ifs with closed
  · exact retains.startSegment (Option.isNone_iff_eq_none.mp closed) _ _ _
  · exact retains

theorem appendOpen (retains : Retains bridge writes) (stamp : Nat) (chunk : Chunk) :
    Retains (bridge.appendOpen stamp chunk) writes := by
  have receives : Receives bridge (bridge.appendOpen stamp chunk) := .appendOpen stamp chunk
  have named := receives.named retains.named
  revert named
  unfold TtsBridge.appendOpen
  cases opened : bridge.openSegment with
  | none => exact fun _ => retains
  | some id =>
    have same : ({ bridge with openSegment := some id } : TtsBridge) = bridge := by rw [← opened]
    simp only [OutputCore.appendAssistantAudioWithSegmentGain]
    split
    · exact fun _ => same ▸ retains
    next listed found =>
      split_ifs with some_
      · exact fun _ => same ▸ retains
      · have kept := @kept_modify bridge.core.ledger id (·.queueFrames (chunk.samples.length / channels))
          (fun _ => rfl) fun _ flushed => flushed
        obtain ⟨current, there, name, unended⟩ := retains.openSegment id opened
        have frames (other : SegmentId) (entry : AssistantSegment) : pending other (bridge.core.assistant ++ [entry]) =
            pending other bridge.core.assistant + if entry.id = other then entry.pendingFrames else 0 := by
          simp [pending]
        refine fun named => {
          named := named
          openSegment := fun other open_ => ?_
          segments := fun segment among => ?_
          assistant := fun entry among => ?_
          writes := fun write among => ?_ }
        · refine ⟨_, List.mem_map_of_mem there, ?_⟩
          rw [if_pos name]
          exact ⟨name.trans (Option.some.inj open_), unended⟩
        · obtain ⟨old, before, rfl⟩ := List.mem_map.mp among
          have tallied := retains.segments old before
          change Tallied (some id) (_ + pending _ (bridge.core.assistant ++ [_])) _
          rw [frames, ← Nat.add_assoc]
          split_ifs with own added added
          · have same : old = current := retains.named.ordered.unique before there (own.trans name.symm)
            rw [opened] at tallied
            exact tallied.queueFrames (same ▸ unended) _
          · exact absurd own.symm added
          · exact absurd added.symm own
          · rw [opened] at tallied
            exact tallied
        · rcases List.mem_append.mp among with held | fresh
          · obtain ⟨whole, segment, before, own, unflushed⟩ := retains.assistant entry held
            obtain ⟨after, now, same, flushed⟩ := kept segment before
            exact ⟨whole, after, now, same.trans own, fun flush => unflushed (flushed flush)⟩
          · obtain rfl := List.mem_singleton.mp fresh
            refine ⟨⟨chunk.whole, rfl, List.length_pos_iff.mpr some_⟩, ?_⟩
            obtain ⟨after, now, same, flushed⟩ := kept current there
            refine ⟨after, now, same.trans name, fun flush => ?_⟩
            rw [(retains.segments current there).flushed (flushed flush)] at unended
            cases unended
        · obtain ⟨segment, held, own⟩ := retains.writes write among
          obtain ⟨after, now, same, _⟩ := kept segment held
          exact ⟨after, now, same.trans own⟩

theorem takeCommand (retains : Retains bridge writes) (queued : QueuedTtsCommand) (decision : AssistantGainDecision)
    (fed : bridge.closes queued = true → ∀ id ∈ bridge.openSegment, ∀ segment ∈ bridge.core.ledger.segments,
      segment.localSegmentId = id → 0 < segment.queuedFrames) : Retains (bridge.takeCommand queued decision) writes := by
  rcases bridge.takeCommand_cases queued decision with
    quiet | ⟨closes, closed | ⟨item, kind, started⟩⟩ | ⟨chunk, appended⟩
  · exact retains.quiet quiet
  · exact closed ▸ (retains.closeOpenSegment (fed closes)).1
  · obtain ⟨kept, closed⟩ := retains.closeOpenSegment (fed closes)
    exact started ▸ kept.startSegment closed item kind decision
  · exact appended ▸ (retains.openForAudio decision).appendOpen queued.epoch chunk

theorem drainFlush (retains : Retains bridge writes) (epoch : Nat)
    (newest : ∀ write ∈ writes, bridge.core.ledger.segments.countP
      (fun segment => decide (write.id ≤ segment.localSegmentId)) ≤ defaultTerminalSegmentRetention) :
    Retains (bridge.drainFlush epoch) writes ∧
      ∀ segment ∈ (bridge.drainFlush epoch).core.ledger.segments, segment.isTerminal = true := by
  have terminal : ∀ segment ∈ bridge.core.ledger.segments.map (·.flushOpen), segment.isTerminal = true :=
    fun segment among => by
      obtain ⟨old, before, rfl⟩ := List.mem_map.mp among
      exact ((retains.segments old before).flushOpen (Nat.le_refl _)).2
  have dropped : (bridge.drainFlush epoch).core.ledger.segments =
      (bridge.core.ledger.segments.map (·.flushOpen)).drop
        ((bridge.core.ledger.segments.map (·.flushOpen)).length - defaultTerminalSegmentRetention) := by
    change dropTerminal ((bridge.core.ledger.segments.map (·.flushOpen)).countP (·.isTerminal) -
      defaultTerminalSegmentRetention) (bridge.core.ledger.segments.map (·.flushOpen)) = _
    rw [dropTerminal_all terminal, List.countP_eq_length.mpr terminal]
  have kept : ∀ segment ∈ (bridge.drainFlush epoch).core.ledger.segments,
      segment ∈ bridge.core.ledger.segments.map (·.flushOpen) := fun segment among => by
    rw [dropped] at among
    exact List.mem_of_mem_drop among
  refine ⟨?_, fun segment among => terminal segment (kept segment among)⟩
  exact {
    named := (Receives.drainFlush epoch).named retains.named
    openSegment := fun id open_ => by cases open_
    segments := fun segment among => by
      obtain ⟨old, before, rfl⟩ := List.mem_map.mp (kept segment among)
      rw [(unheard_flushOpen old).name]
      exact ((retains.segments old before).flushOpen (Nat.le_add_right _ _)).1
    assistant := fun entry among => by cases among
    writes := fun write among => by
      obtain ⟨segment, held, own⟩ := retains.writes write among
      have rising := (retains.named.ordered.map fun segment => (unheard_flushOpen segment).name).rising
      have few := newest write among
      rw [← own, ← (unheard_flushOpen segment).name] at few
      refine ⟨segment.flushOpen, dropped ▸ mem_drop_of_countP rising (List.mem_map_of_mem held) ?_,
        (unheard_flushOpen segment).name.trans own⟩
      rw [List.countP_map]
      simpa [Function.comp_def, (unheard_flushOpen _).name] using few }

theorem prepare {loop : OutputLoop} (retains : Retains loop.bridge []) :
    Retains loop.prepare.bridge loop.prepare.waiting := by
  obtain ⟨waits, events, changes, _⟩ := OutputCore.processDrainedPlaybacks_changes
    { loop.bridge.core with
      assistant := loop.bridge.core.prepareRead.segments
      history := loop.bridge.core.prepareRead.history }
    loop.bridge.core.prepareRead.drained
  have core : loop.bridge.core.preparePeriod.1 = _ := changes
  have whole : ∀ entry ∈ loop.bridge.core.held.segments, entry.Whole := fun entry among =>
    (retains.assistant entry among).1
  have moved (id : SegmentId) : due id loop.prepare.waiting + pending id loop.bridge.core.prepareRead.segments =
      pending id loop.bridge.core.assistant ∧ ∀ entry ∈ loop.bridge.core.prepareRead.segments, entry.Whole := by
    have frames := @PeriodRead.readFrames_pending loop.bridge.core.loudness.currentVolumeContext id
      loop.bridge.core.periodFrames _ whole
    have ended := @PeriodRead.readFrames_currentWrite loop.bridge.core.loudness.currentVolumeContext
      loop.bridge.core.periodFrames loop.bridge.core.held
    rw [PeriodRead.wrote, ended, Option.toList_none, List.append_nil] at frames
    refine ⟨frames.1.trans ?_, frames.2⟩
    simp [PeriodRead.wrote, OutputCore.held]
  have entries : ∀ entry ∈ loop.bridge.core.prepareRead.segments, ∃ segment ∈ loop.ledger.segments,
      segment.localSegmentId = entry.id ∧ segment.status ≠ .flushed := fun entry among => by
    obtain ⟨old, before, own⟩ := PeriodRead.readFrames_ids _ _ entry among
    exact own ▸ (retains.assistant old before).2
  simp only [OutputLoop.prepare, core]
  exact {
    named := ⟨retains.named.ordered, retains.named.openSegment, fun entry among => by
      obtain ⟨segment, held, own, _⟩ := entries entry among
      exact own ▸ retains.named.ordered.below segment held⟩
    openSegment := retains.openSegment
    segments := fun segment among => by
      have tallied := retains.segments segment among
      rw [show due segment.localSegmentId [] = 0 from rfl, Nat.zero_add] at tallied
      exact (moved segment.localSegmentId).1.symm ▸ tallied
    assistant := fun entry among => ⟨(moved entry.id).2 entry among, entries entry among⟩
    writes := fun write among => by
      rcases PeriodRead.readFrames_writes _ _ write among with ⟨entry, held, own⟩ | ⟨old, before, _⟩
      · obtain ⟨segment, there, named, _⟩ := (retains.assistant entry held).2
        exact ⟨segment, there, named.trans own⟩
      · cases before }

theorem commit {loop : OutputLoop} {period : PreparedPeriod} (retains : Retains loop.bridge period.writes)
    (dacDelayFrames : Nat) (truthful : Truthful (loop.commit period dacDelayFrames)) :
    Retains (loop.commit period dacDelayFrames).bridge [] ∧ (loop.commit period dacDelayFrames).Bounded := by
  obtain ⟨nextId, change, written, wrote⟩ :=
    markWrites_map period.writes loop.ledger loop.bridge.core.framesWritten
  let through := loop.bridge.core.framesWritten + loop.bridge.core.periodFrames - dacDelayFrames
  let drained := (loop.ledger.segments.map change).map (·.markDrainedThrough through)
  have tallied : ∀ old ∈ loop.ledger.segments, Tallied loop.bridge.openSegment
      (pending old.localSegmentId loop.bridge.core.assistant) (change old) := fun old before =>
    (retains.segments old before).wrote (wrote old)
  have same (old : PlayoutSegment) : Relabelled (change old) ((change old).markDrainedThrough through) :=
    relabelled_markDrainedThrough _ _
  have final : (loop.commit period dacDelayFrames).ledger.segments =
      dropTerminal (drained.countP (·.isTerminal) - defaultTerminalSegmentRetention) drained := by
    have marked : (OutputCore.markWrites loop.ledger period.writes loop.bridge.core.framesWritten).segments.map
        (·.markDrainedThrough through) = drained := congrArg (List.map (·.markDrainedThrough through)) written
    change dropTerminal (((OutputCore.markWrites loop.ledger period.writes
      loop.bridge.core.framesWritten).segments.map (·.markDrainedThrough through)).countP (·.isTerminal) -
        defaultTerminalSegmentRetention) ((OutputCore.markWrites loop.ledger period.writes
      loop.bridge.core.framesWritten).segments.map (·.markDrainedThrough through)) = _
    rw [marked]
  have kept : ∀ segment ∈ (loop.commit period dacDelayFrames).ledger.segments, ∃ old ∈ loop.ledger.segments,
      segment = (change old).markDrainedThrough through := fun segment among => by
    rw [final] at among
    obtain ⟨marked, held, rfl⟩ := List.mem_map.mp ((dropTerminal_sublist _ _).mem among)
    obtain ⟨old, before, rfl⟩ := List.mem_map.mp held
    exact ⟨old, before, rfl⟩
  have stays : ∀ old ∈ loop.ledger.segments, ((change old).markDrainedThrough through).isTerminal = false →
      (change old).markDrainedThrough through ∈ (loop.commit period dacDelayFrames).ledger.segments :=
    fun old before live => by
      rw [final]
      exact mem_dropTerminal (List.mem_map_of_mem (List.mem_map_of_mem before)) live
  constructor
  · exact {
      named := truthful.named
      openSegment := fun id open_ => by
        obtain ⟨old, before, own, unended⟩ := retains.openSegment id open_
        have ended : ((change old).markDrainedThrough through).ended = false :=
          (same old).ended.trans ((wrote old).ended.trans unended)
        exact ⟨_, stays old before (((tallied old before).markDrainedThrough through).live ended),
          (same old).id.trans ((wrote old).id.trans own), ended⟩
      segments := fun segment among => by
        obtain ⟨old, before, rfl⟩ := kept segment among
        rw [(same old).id, (wrote old).id]
        exact (Nat.zero_add _).symm ▸ (tallied old before).markDrainedThrough through
      assistant := fun entry among => by
        obtain ⟨whole, old, before, own, unflushed⟩ := retains.assistant entry among
        have live : ((change old).markDrainedThrough through).status ≠ .flushed := fun flushed =>
          unflushed ((wrote old).flushed.mp ((same old).flushed.mp flushed))
        have more : 0 < pending old.localSegmentId loop.bridge.core.assistant := own ▸ pending_pos among whole
        exact ⟨whole, _, stays old before (((tallied old before).markDrainedThrough through).ahead more live),
          (same old).id.trans ((wrote old).id.trans own), live⟩
      writes := fun write among => by cases among }
  · have terminal : (loop.commit period dacDelayFrames).ledger.segments.countP (·.isTerminal) ≤
        defaultTerminalSegmentRetention := by
      rw [final, countP_dropTerminal]
      omega
    have others : ∀ segment ∈ (loop.commit period dacDelayFrames).ledger.segments, segment.isTerminal = false →
        ((loop.commit period dacDelayFrames).bridge.openSegment == some segment.localSegmentId || segment.undrained) =
          true := fun segment among live => by
      obtain ⟨old, before, rfl⟩ := kept segment among
      cases ended : (change old).ended with
      | false =>
        have open_ := ((tallied old before).markDrainedThrough through).unended ((same old).ended.trans ended)
        exact Bool.or_eq_true_iff.mpr (.inl (beq_iff_eq.mpr open_))
      | true =>
        refine Bool.or_eq_true_iff.mpr (.inr ((tallied old before).settled (fun unstarted => ?_) ended live))
        have unmoved : (change old).markDrainedThrough through = change old := by
          unfold PlayoutSegment.markDrainedThrough
          split
          · rfl
          · rfl
          next start started _ =>
            rw [unstarted] at started
            cases started
        rw [unmoved] at among
        have onTape := (truthful.heard _ among).onTape
        rw [onTape.written, List.count_eq_zero]
        exact List.idxOf?_eq_none_iff.mp (onTape.start.symm.trans unstarted)
    exact bounded_of_settled terminal others

end Retains

def LoopAction.prunes : LoopAction → Bool
  | .flush _ => true
  | .commit _ => true
  | _ => false

theorem found_of_mem {ledger : PlayoutLedger} {id : SegmentId}
    (held : ∃ segment ∈ ledger.segments, segment.localSegmentId = id) : (ledger.find id).isSome = true := by
  obtain ⟨segment, among, own⟩ := held
  exact List.find?_isSome.mpr ⟨segment, among, decide_eq_true own⟩

theorem lookups_found {loop : OutputLoop} (retains : Retains loop.bridge loop.waiting) (action : LoopAction) :
    ∀ lookup ∈ loop.lookups action, (lookup.1.find lookup.2).isSome = true := by
  have opened {bridge : TtsBridge} {writes : List SegmentWrite} (retains : Retains bridge writes) :
      ∀ lookup ∈ bridge.openSegment.toList.map fun id => (bridge.core.ledger, id),
        (lookup.1.find lookup.2).isSome = true := fun lookup among => by
    obtain ⟨id, open_, rfl⟩ := List.mem_map.mp among
    obtain ⟨segment, held, own, _⟩ := retains.openSegment id (Option.mem_toList.mp open_)
    exact found_of_mem ⟨segment, held, own⟩
  intro lookup among
  cases action with
  | flush => cases among
  | command queued decision =>
    simp only [OutputLoop.lookups, TtsBridge.lookups] at among
    split_ifs at among
    · cases among
    · split at among
      · exact opened retains lookup among
      · exact opened retains lookup among
      · split_ifs at among
        · cases among
        · exact opened (retains.openForAudio decision) lookup among
      · cases among
  | prepare => cases among
  | commit =>
    obtain ⟨write, held, rfl⟩ := List.mem_map.mp among
    exact found_of_mem (retains.writes write held)

theorem retains_step {loop next : OutputLoop} {action : LoopAction} (truthful : Truthful loop)
    (retains : Retains loop.bridge loop.waiting) (fed : Fed loop action) (move : loop.step action = some next) :
    Retains next.bridge next.waiting ∧ (action.prunes = true → next.Bounded) := by
  have later := truthful.step move
  cases action with
  | flush epoch =>
    obtain rfl := Option.some.inj move
    obtain ⟨kept, terminal⟩ := retains.drainFlush epoch fed
    refine ⟨kept, fun _ => bounded_of_settled ?_ fun segment among live => ?_⟩
    · exact countP_prune loop.bridge.core.ledger.flushOpenSegments _
    · rw [terminal segment among] at live
      cases live
  | command queued decision =>
    obtain rfl := Option.some.inj move
    exact ⟨retains.takeCommand queued decision fed, fun prunes => by cases prunes⟩
  | prepare =>
    obtain ⟨idle, prepared⟩ := Option.ite_none_left_eq_some.mp move
    obtain rfl := Option.some.inj prepared
    have empty : loop.waiting = [] := by
      simp only [OutputLoop.waiting, Option.not_isSome_iff_eq_none.mp idle]
      rfl
    exact ⟨Retains.prepare (empty ▸ retains), fun prunes => by cases prunes⟩
  | commit dacDelayFrames =>
    obtain ⟨period, waiting, rfl⟩ := Option.map_eq_some_iff.mp move
    have writes : loop.waiting = period.writes := by
      simp only [OutputLoop.waiting, waiting]
      rfl
    obtain ⟨kept, bounded⟩ := Retains.commit (writes ▸ retains) dacDelayFrames later
    exact ⟨kept, fun _ => bounded⟩

theorem retains_start {loop : OutputLoop} (starts : loop.Starts) : Retains loop.bridge loop.waiting := by
  obtain ⟨periodFrames, maxPendingFrames, rfl⟩ := starts
  exact {
    named := (Truthful.start ⟨periodFrames, maxPendingFrames, rfl⟩).named
    openSegment := fun id open_ => by cases open_
    segments := fun segment among => by cases among
    assistant := fun entry among => by cases among
    writes := fun write among => by cases among }

/-- In every run whose steps are fed, the ledger holds what is looked up in it, and what it retains after a commit or a
flush keeps to the limit. -/
theorem ledger_holds_and_stays_bounded {loop next : OutputLoop} {action : LoopAction}
    (reached : Reachable (OutputLoop.system.restrict Fed) loop) (fed : Fed loop action)
    (move : loop.step action = some next) :
    (∀ lookup ∈ loop.lookups action, (lookup.1.find lookup.2).isSome = true) ∧
      (action.prunes = true → next.Bounded) := by
  have kept : Truthful loop ∧ Retains loop.bridge loop.waiting := by
    refine @Reachable.invariant _ _ _ (fun loop => Truthful loop ∧ Retains loop.bridge loop.waiting) ?_ ?_ _ reached
    · exact fun first starts => ⟨.start starts, retains_start starts⟩
    · rintro before action after ⟨truthful, retains⟩ ⟨fed, move⟩
      exact ⟨truthful.step move, (retains_step truthful retains fed move).1⟩
  exact ⟨lookups_found kept.2 action, (retains_step kept.1 kept.2 fed move).2⟩

instance (loop : OutputLoop) : Decidable loop.Bounded := inferInstanceAs (Decidable (_ ≤ _))

section Runs

/-- A flush comes between a preparation and its commit, and the commit still finds the segment. -/
theorem ledger_holds_across_a_flush :
    ∃ loop next : OutputLoop, loop.step (.commit 0) = some next ∧ (loop.ledger.find 1).isSome = true ∧ next.Bounded := by
  obtain ⟨loop, reached, seen⟩ := @restricted_observed _ _ OutputLoop.Starts OutputLoop.step Fed _ (.new 2 4)
    [told (.segmentStart .assistant none none), told (.audioWide ⟨[0, 0], rfl⟩), .prepare, .flush 1] _
    (fun loop => (loop.prepared.isSome, loop.waiting)) (true, [⟨1, 1⟩]) ⟨2, 4, rfl⟩ (by decide)
  obtain ⟨prepared, waiting⟩ := Prod.mk.inj seen
  obtain ⟨period, ready⟩ := Option.isSome_iff_exists.mp prepared
  have move : loop.step (.commit 0) = some (loop.commit period 0) := by rw [OutputLoop.step, ready, Option.map_some]
  have fed : Fed loop (.commit 0) := trivial
  have holds := ledger_holds_and_stays_bounded reached fed move
  refine ⟨loop, _, move, holds.1 (loop.ledger, 1) ?_, holds.2 rfl⟩
  simp [OutputLoop.lookups, waiting]

def unfed (count : Nat) : List LoopAction := List.replicate count (told (.segmentStart .assistant none none))

/-- Segments that end before any audio stay for good, and a flush before the commit of a period takes the segment of its
write out of the ledger. -/
theorem ledger_leaks_and_loses_a_segment :
    (∃ loop next : OutputLoop, Reachable OutputLoop.system loop ∧ loop.step (.commit 0) = some next ∧ ¬ next.Bounded) ∧
    ∃ loop, Reachable OutputLoop.system loop ∧ ∃ lookup ∈ loop.lookups (.commit 0),
      (lookup.1.find lookup.2).isSome = false := by
  constructor
  · obtain ⟨loop, reached, seen⟩ := @reachable_observed _ _ OutputLoop.Starts OutputLoop.step (.new 2 4)
      (unfed 130 ++ [.prepare]) _ (fun loop => (loop.step (.commit 0)).map fun next : OutputLoop => decide next.Bounded)
      (some false) ⟨2, 4, rfl⟩ (by decide +kernel)
    obtain ⟨next, move, unbounded⟩ := Option.map_eq_some_iff.mp seen
    exact ⟨loop, next, reached, move, of_decide_eq_false unbounded⟩
  · obtain ⟨loop, reached, seen⟩ := @reachable_observed _ _ OutputLoop.Starts OutputLoop.step (.new 2 4)
      ([told (.audioWide ⟨[0, 0], rfl⟩), .prepare] ++ unfed 128 ++ [.flush 1]) _
      (fun loop => (loop.lookups (.commit 0)).map fun lookup => (lookup.1.find lookup.2).isSome)
      [false] ⟨2, 4, rfl⟩ (by decide +kernel)
    obtain ⟨lookup, only, missing⟩ := List.map_eq_singleton_iff.mp seen
    exact ⟨loop, reached, lookup, only ▸ .head _, missing⟩

end Runs

end Jts.Tts.Outputd
