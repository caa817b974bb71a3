import Mathlib
import Jts.Tts.Bridge
import Jts.Tts.Training
import Jts.Shared.Transition

set_option autoImplicit false

namespace Jts.Tts.Outputd

open Jts.Tts Jts.Shared.Transition

-- The frames of a segment that the period has handed to the output so far.
def PeriodRead.wrote (id : SegmentId) (read : PeriodRead) : Nat :=
  ((read.writes ++ read.currentWrite.toList).map fun write => if write.id = id then write.frames else 0).sum

namespace PeriodRead

variable (id : SegmentId) (read : PeriodRead)

theorem wrote_endWrite : read.endWrite.wrote id = read.wrote id := by
  simp [wrote, endWrite]

theorem wrote_skipFinished : read.skipFinished.wrote id = read.wrote id := by
  simp only [skipFinished]
  split_ifs
  · rfl
  · exact wrote_endWrite id read

theorem wrote_countWrite (owner : SegmentId) :
    (read.countWrite owner).wrote id = read.wrote id + if owner = id then 1 else 0 := by
  unfold countWrite
  split
  next write current =>
    split_ifs with same own own
    · simp [wrote, current, same, own, Nat.add_assoc]
    · simp [wrote, current, same, own]
    · simp [wrote, endWrite, current, own, Nat.add_assoc]
    · simp [wrote, endWrite, current, own]
  next current =>
    split_ifs with own
    · simp [wrote, current, own]
    · simp [wrote, current, own]

/-- A round of the loop hands over a frame of the segment that it has mixed. -/
theorem wrote_readFrame (context : Option VolumeContext) :
    (read.readFrame context).wrote id + framesMixed id read.history =
      read.wrote id + framesMixed id (read.readFrame context).history := by
  simp only [readFrame]
  split
  · rw [wrote_endWrite, wrote_skipFinished, endWrite_history, skipFinished_history]
  next front rest _ =>
    have kept (segments : List AssistantSegment) (history : List TtsEvent) :
        ({ read.skipFinished with history := history, segments := segments } : PeriodRead).wrote id = read.wrote id :=
      wrote_skipFinished id read
    split_ifs
    · rw [wrote_countWrite, countWrite_history, finalizeFrontCompletion_history]
      have finalized (before : PeriodRead) (segment : AssistantSegment) :
          (before.finalizeFrontCompletion segment).wrote id = before.wrote id := by
        unfold finalizeFrontCompletion
        split_ifs <;> rfl
      rw [finalized, kept]
      simp only [framesMixed, skipFinished_history]
      omega
    · rw [wrote_countWrite, countWrite_history, kept]
      simp only [framesMixed, skipFinished_history]
      omega

end PeriodRead

/-- The segment of the ledger against the history. A flush ends what the daemon was not told the end of. -/
structure Accounted (history : List TtsEvent) (segment : PlayoutSegment) : Prop where
  estimated : segment.estimatedDrainedFrames ≤ segment.writtenFrames
  written : segment.writtenFrames ≤ framesMixed segment.localSegmentId history
  queued : segment.queuedFrames = framesQueued segment.localSegmentId history
  ended : segment.status ≠ .flushed → (segment.ended = true ↔ .ended segment.localSegmentId ∈ history)
  drained : segment.status = .drained → segment.ended = true ∧ segment.queuedFrames ≤ segment.estimatedDrainedFrames
  flushed : segment.status = .flushed → segment.ended = true

/-- The ledger against the history and the segment that the bridge holds open. -/
structure Books (openId : Option SegmentId) (ledger : PlayoutLedger) (history : List TtsEvent) : Prop where
  distinct : (ledger.segments.map (·.localSegmentId)).Nodup
  below : ∀ segment ∈ ledger.segments, segment.localSegmentId < ledger.nextId
  accounted : ∀ segment ∈ ledger.segments, Accounted history segment
  unended : ∀ segment ∈ ledger.segments, segment.ended = false → openId = some segment.localSegmentId
  opened : ∀ id, openId = some id → ∃ segment ∈ ledger.segments, segment.localSegmentId = id ∧ segment.ended = false
  future : ∀ id, ledger.nextId ≤ id →
    framesQueued id history = 0 ∧ framesMixed id history = 0 ∧ .ended id ∉ history

/-- A queue entry that may train, as the only one of its segment. -/
structure Sole (ledger : PlayoutLedger) (history : List TtsEvent) (entry : AssistantSegment) : Prop where
  queued : framesQueued entry.id history * channels = entry.samples.length
  mixed : framesMixed entry.id history * channels = entry.cursorSamples
  unread : entry.cursorSamples < entry.samples.length
  clean : entry.disqualified = false → ¬ Spoiled entry.id history
  incomplete : .completed entry.id ∉ history
  live : ∃ segment ∈ ledger.segments, segment.localSegmentId = entry.id ∧ segment.status ≠ .flushed

/-- A segment whose entry has drained. -/
structure Finished (history : List TtsEvent) (id : SegmentId) (playback : Option SegmentPlayback) : Prop where
  some_ : 0 < framesQueued id history
  drained : framesQueued id history = framesMixed id history
  clean : playback.isSome = true → ¬ Spoiled id history
  incomplete : .completed id ∉ history

/-- A period in the making: the ledger and the pending ends as the commands left them, the queue as it is read. -/
structure Reading (openId : Option SegmentId) (ledger : PlayoutLedger)
    (pending : List (SegmentId × Option SegmentPlayback)) (read : PeriodRead) : Prop where
  books : Books openId ledger read.history
  sound : Sound read.history
  wrote : ∀ segment ∈ ledger.segments, segment.writtenFrames + read.wrote segment.localSegmentId ≤
    framesMixed segment.localSegmentId read.history
  sole : ∀ entry ∈ read.segments, entry.referenceEligible = true → Sole ledger read.history entry
  kinds : ∀ entry ∈ read.segments, ∀ segment ∈ ledger.segments, segment.localSegmentId = entry.id →
    entry.referenceEligible = decide (segment.kind = .assistant)
  bounded : ∀ entry ∈ read.segments, entry.id < ledger.nextId
  alone : read.segments.Pairwise fun entry later =>
    entry.referenceEligible = true ∨ later.referenceEligible = true → entry.id ≠ later.id
  fed : ∀ entry ∈ read.segments, 0 < framesQueued entry.id read.history
  fresh : ∀ id, framesQueued id read.history = 0 → framesMixed id read.history = 0
  few : pending.length ≤ 1
  waiting : ∀ held ∈ pending, openId = some held.1 ∧ Finished read.history held.1 held.2 ∧
    ∀ entry ∈ read.segments, entry.id ≠ held.1
  drained : ∀ done ∈ read.drained, Finished read.history done.id done.playback ∧
    (∃ segment ∈ ledger.segments, segment.localSegmentId = done.id ∧ segment.status ≠ .flushed) ∧
    (∀ entry ∈ read.segments, entry.id ≠ done.id) ∧ ∀ held ∈ pending, held.1 ≠ done.id
  apart : (read.drained.map (·.id)).Nodup
  waits : ∀ held ∈ pending, ∀ segment ∈ ledger.segments, segment.localSegmentId = held.1 → segment.kind = .assistant
  reports : ∀ done ∈ read.drained, ∀ segment ∈ ledger.segments, segment.localSegmentId = done.id →
    segment.kind = .assistant

namespace PlayoutLedger

variable {ledger : PlayoutLedger}

theorem find_of_mem (distinct : (ledger.segments.map (·.localSegmentId)).Nodup) {segment : PlayoutSegment}
    (among : segment ∈ ledger.segments) : ledger.find segment.localSegmentId = some segment := by
  unfold find
  generalize ledger.segments = segments at distinct among
  induction segments with
  | nil => cases among
  | cons head rest ih =>
    rw [List.map_cons, List.nodup_cons] at distinct
    rcases List.mem_cons.mp among with rfl | later
    · simp
    · have other : head.localSegmentId ≠ segment.localSegmentId :=
        fun same => distinct.1 (same ▸ List.mem_map_of_mem later)
      rw [List.find?_cons_of_neg (by simpa using other)]
      exact ih distinct.2 later

theorem mem_of_find {id : SegmentId} {segment : PlayoutSegment} (found : ledger.find id = some segment) :
    segment ∈ ledger.segments ∧ segment.localSegmentId = id :=
  ⟨List.mem_of_find?_eq_some found, by simpa using List.find?_some found⟩

end PlayoutLedger

section Mixed

variable {history : List TtsEvent} {front : SegmentId} {stamp : Nat} {context : Option VolumeContext}

theorem spoiled_mixed {id : SegmentId} (bad : Spoiled id (.mixed front stamp context :: history)) :
    front = id ∧ isMuted context = true ∨ Spoiled id history := by
  rcases spoiled_cons.mp bad with ⟨_, _, same, muted⟩ | old
  · cases same
    exact .inl ⟨rfl, muted⟩
  · exact .inr old

theorem Books.mixed {openId : Option SegmentId} {ledger : PlayoutLedger} (books : Books openId ledger history)
    (early : front < ledger.nextId) : Books openId ledger (.mixed front stamp context :: history) :=
  { books with
    accounted := fun segment among =>
      { books.accounted segment among with
        written := (books.accounted segment among).written.trans (Nat.le_add_left _ _)
        ended := fun live => by simpa using (books.accounted segment among).ended live }
    future := fun id later => by
      obtain ⟨queued, mixed, ended⟩ := books.future id later
      have other : front ≠ id := Nat.ne_of_lt (early.trans_le later)
      exact ⟨queued, by simp [framesMixed, other, mixed], by simpa using ended⟩ }

theorem Sole.past {ledger : PlayoutLedger} {entry : AssistantSegment} (sole : Sole ledger history entry)
    (other : front ≠ entry.id) : Sole ledger (.mixed front stamp context :: history) entry :=
  { sole with
    mixed := by
      simp only [framesMixed, if_neg other, Nat.zero_add]
      exact sole.mixed
    clean := fun qualified bad => by
      rcases spoiled_mixed bad with ⟨own, _⟩ | old
      · exact other own
      · exact sole.clean qualified old
    incomplete := by simpa using sole.incomplete }

theorem Finished.mixed {id : SegmentId} {playback : Option SegmentPlayback} (finished : Finished history id playback)
    (other : front ≠ id) : Finished (.mixed front stamp context :: history) id playback where
  some_ := finished.some_
  drained := by
    simp only [framesQueued, framesMixed, if_neg other, Nat.zero_add]
    exact finished.drained
  clean := fun trains bad => by
    rcases spoiled_mixed bad with ⟨own, _⟩ | old
    · exact other own
    · exact finished.clean trains old
  incomplete := by simpa using finished.incomplete

/-- The entry that gives the frame: it is disqualified as soon as the frame goes out muted. -/
theorem Sole.rendered {ledger : PlayoutLedger} {entry : AssistantSegment} (sole : Sole ledger history entry)
    (eligible : entry.referenceEligible = true) (left : (entry.render context).finished = false) :
    Sole ledger (.mixed entry.id stamp context :: history) (entry.render context) := by
  have render : entry.render context = { entry with
      cursorSamples := entry.cursorSamples + channels
      disqualified := entry.disqualified || isMuted context
      lastContext := context } := by simp [AssistantSegment.render, eligible]
  have mixed := sole.mixed
  rw [render] at left ⊢
  exact { sole with
    mixed := by
      simp only [framesMixed, if_true]
      rw [Nat.add_mul, mixed, Nat.one_mul, Nat.add_comm]
    unread := by simpa [AssistantSegment.finished] using left
    clean := fun qualified bad => by
      rw [Bool.or_eq_false_iff] at qualified
      rcases spoiled_mixed bad with ⟨_, muted⟩ | old
      · rw [qualified.2] at muted
        cases muted
      · exact sole.clean qualified.1 old
    incomplete := by simpa using sole.incomplete }

theorem Sole.finished {ledger : PlayoutLedger} {entry : AssistantSegment} (sole : Sole ledger history entry)
    (eligible : entry.referenceEligible = true) (done : (entry.render context).finished = true) :
    Finished (.mixed entry.id stamp context :: history) entry.id (entry.render context).playback := by
  have render : entry.render context = { entry with
      cursorSamples := entry.cursorSamples + channels
      disqualified := entry.disqualified || isMuted context
      lastContext := context } := by simp [AssistantSegment.render, eligible]
  have queued := sole.queued
  have mixed := sole.mixed
  have unread := sole.unread
  have end_ : entry.samples.length ≤ entry.cursorSamples + channels := by
    rw [render] at done
    simpa [AssistantSegment.finished] using done
  refine {
    some_ := ?_
    drained := ?_
    clean := fun trains bad => ?_
    incomplete := by simpa using sole.incomplete }
  · simp only [framesQueued, channels] at queued mixed ⊢
    omega
  · simp only [framesQueued, framesMixed, if_true, channels] at queued mixed end_ ⊢
    omega
  · have qualified : (entry.disqualified || isMuted context) = false := by
      rw [render] at trains
      unfold AssistantSegment.playback at trains
      split at trains
      · assumption
      · cases trains
    rw [Bool.or_eq_false_iff] at qualified
    rcases spoiled_mixed bad with ⟨_, muted⟩ | old
    · rw [qualified.2] at muted
      cases muted
    · exact sole.clean qualified.1 old

end Mixed

section Complete

variable {openId : Option SegmentId} {ledger : PlayoutLedger}

-- A completion is no frame, and no end.
theorem Books.complete {history : List TtsEvent} (books : Books openId ledger history) (id : SegmentId) :
    Books openId ledger (.completed id :: history) :=
  { books with
    accounted := fun segment among =>
      { books.accounted segment among with
        ended := fun live => by simpa using (books.accounted segment among).ended live }
    future := fun other later => by
      obtain ⟨queued, mixed, ended⟩ := books.future other later
      exact ⟨queued, mixed, by simpa using ended⟩ }

theorem spoiled_completed {history : List TtsEvent} {id other : SegmentId}
    (bad : Spoiled other (.completed id :: history)) : Spoiled other history := by
  rcases spoiled_cons.mp bad with ⟨_, _, same, _⟩ | old
  · cases same
  · exact old

theorem Finished.complete {history : List TtsEvent} {id other : SegmentId} {playback : Option SegmentPlayback}
    (finished : Finished history other playback) (apart : id ≠ other) :
    Finished (.completed id :: history) other playback where
  some_ := finished.some_
  drained := finished.drained
  clean := fun trains bad => finished.clean trains (spoiled_completed bad)
  incomplete := by simpa [apart.symm] using finished.incomplete

theorem Sole.complete {history : List TtsEvent} {id : SegmentId} {entry : AssistantSegment}
    (sole : Sole ledger history entry) (apart : entry.id ≠ id) : Sole ledger (.completed id :: history) entry :=
  { sole with
    clean := fun qualified bad => sole.clean qualified (spoiled_completed bad)
    incomplete := by simpa [apart] using sole.incomplete }

end Complete

namespace Reading

variable {openId : Option SegmentId} {ledger : PlayoutLedger} {pending : List (SegmentId × Option SegmentPlayback)}
  {read : PeriodRead}

/-- One round of the loop: at most the front entry changes, and at most its segment finishes. -/
theorem readFrame (reading : Reading openId ledger pending read) (context : Option VolumeContext) :
    Reading openId ledger pending (read.readFrame context) := by
  have wrote (segment : PlayoutSegment) (among : segment ∈ ledger.segments) :
      segment.writtenFrames + (read.readFrame context).wrote segment.localSegmentId ≤
        framesMixed segment.localSegmentId (read.readFrame context).history := by
    have before := reading.wrote segment among
    have round := read.wrote_readFrame segment.localSegmentId context
    omega
  have inside {entry : AssistantSegment} (left : entry ∈ read.segments.dropWhile (·.finished)) : entry ∈ read.segments :=
    (List.dropWhile_sublist _).mem left
  rcases read.readFrame_cases context with ⟨_, segments, drained, history⟩ | ⟨front, rest, after, history, moved⟩
  · exact {
      books := history ▸ reading.books
      sound := history ▸ reading.sound
      wrote := wrote
      sole := by simp [segments]
      kinds := by simp [segments]
      bounded := by simp [segments]
      alone := by simp [segments]
      fed := by simp [segments]
      fresh := history ▸ reading.fresh
      few := reading.few
      waiting := fun held among => by
        obtain ⟨own, finished, _⟩ := reading.waiting held among
        exact ⟨own, history ▸ finished, by simp [segments]⟩
      drained := fun done among => by
        obtain ⟨finished, live, _, apart⟩ := reading.drained done (drained ▸ among)
        exact ⟨history ▸ finished, live, by simp [segments], apart⟩
      apart := drained ▸ reading.apart
      waits := reading.waits
      reports := drained ▸ reading.reports }
  · have here : front ∈ read.segments := inside (by rw [after]; exact .head _)
    have tail {entry : AssistantSegment} (later : entry ∈ rest) : entry ∈ read.segments :=
      inside (by rw [after]; exact .tail _ later)
    have alone := reading.alone.sublist (List.dropWhile_sublist (·.finished))
    rw [after, List.pairwise_cons] at alone
    have books : Books openId ledger (read.readFrame context).history := by
      rw [history]
      exact reading.books.mixed (reading.bounded front here)
    have sound : Sound (read.readFrame context).history := by
      rw [history]
      exact reading.sound
    have rendered : (front.render context).id = front.id ∧
        (front.render context).referenceEligible = front.referenceEligible := by
      simp only [AssistantSegment.render]
      split_ifs with eligible
      · exact ⟨rfl, rfl⟩
      · exact ⟨rfl, rfl⟩
    have fed (entry : AssistantSegment) (among : entry ∈ read.segments) :
        0 < framesQueued entry.id (read.readFrame context).history := by
      rw [history]
      exact reading.fed entry among
    have fresh (id : SegmentId) (none_ : framesQueued id (read.readFrame context).history = 0) :
        framesMixed id (read.readFrame context).history = 0 := by
      have some_ := reading.fed front here
      rw [history] at none_ ⊢
      have other : front.id ≠ id := fun same => by
        rw [same] at some_
        exact absurd none_ some_.ne'
      simp only [framesMixed, if_neg other, Nat.zero_add]
      exact reading.fresh id none_
    have soleRest (entry : AssistantSegment) (later : entry ∈ rest) (eligible : entry.referenceEligible = true) :
        Sole ledger (read.readFrame context).history entry := by
      rw [history]
      exact (reading.sole entry (tail later) eligible).past (alone.1 entry later (.inr eligible))
    have waiting (held : SegmentId × Option SegmentPlayback) (among : held ∈ pending) :
        openId = some held.1 ∧ Finished (read.readFrame context).history held.1 held.2 := by
      obtain ⟨own, finished, gone⟩ := reading.waiting held among
      rw [history]
      exact ⟨own, finished.mixed (gone front here)⟩
    have drained (done : DrainedPlayback) (among : done ∈ read.drained) :
        Finished (read.readFrame context).history done.id done.playback := by
      obtain ⟨finished, _, gone, _⟩ := reading.drained done among
      rw [history]
      exact finished.mixed (gone front here)
    rcases moved with ⟨finished, segments, report⟩ | ⟨left, segments, report⟩
    · have reported (done : DrainedPlayback) (among : done ∈ (front.render context).completion) :
          front.referenceEligible = true ∧ done = ⟨front.id, (front.render context).playback⟩ := by
        unfold AssistantSegment.completion at among
        split_ifs at among with eligible
        · rw [rendered.2] at eligible
          rw [rendered.1] at among
          exact ⟨eligible, List.mem_singleton.mp among⟩
        · cases among
      exact {
        books := books
        sound := sound
        wrote := wrote
        sole := fun entry among => soleRest entry (segments ▸ among)
        kinds := fun entry among => reading.kinds entry (tail (segments ▸ among))
        bounded := fun entry among => reading.bounded entry (tail (segments ▸ among))
        alone := segments ▸ alone.2
        fed := fun entry among => fed entry (tail (segments ▸ among))
        fresh := fresh
        few := reading.few
        waiting := fun held among => by
          obtain ⟨own, done⟩ := waiting held among
          exact ⟨own, done, fun entry here => (reading.waiting held among).2.2 entry (tail (segments ▸ here))⟩
        drained := fun done among => by
          rw [report] at among
          rcases List.mem_append.mp among with old | new
          · obtain ⟨_, live, gone, apart⟩ := reading.drained done old
            exact ⟨drained done old, live, fun entry here => gone entry (tail (segments ▸ here)), apart⟩
          · obtain ⟨eligible, rfl⟩ := reported done new
            have sole := reading.sole front here eligible
            refine ⟨?_, sole.live, fun entry left => ?_, fun held among => ?_⟩
            · rw [history]
              exact sole.finished eligible finished
            · exact (alone.1 entry (segments ▸ left) (.inl eligible)).symm
            · exact ((reading.waiting held among).2.2 front here).symm
        apart := by
          rw [report, List.map_append]
          refine List.nodup_append.mpr ⟨reading.apart, ?_, fun id old id' new meet => ?_⟩
          · unfold AssistantSegment.completion
            split_ifs <;> simp
          · obtain ⟨done, among, rfl⟩ := List.mem_map.mp new
            obtain ⟨_, rfl⟩ := reported done among
            obtain ⟨other, before, rfl⟩ := List.mem_map.mp old
            exact (reading.drained other before).2.2.1 front here meet.symm
        waits := reading.waits
        reports := fun done among segment listed own => by
          rw [report] at among
          rcases List.mem_append.mp among with old | new
          · exact reading.reports done old segment listed own
          · obtain ⟨eligible, rfl⟩ := reported done new
            have kind := reading.kinds front here segment listed own
            rw [eligible] at kind
            exact of_decide_eq_true kind.symm }
    · have member (entry : AssistantSegment) (among : entry ∈ (read.readFrame context).segments) :
          entry = front.render context ∨ entry ∈ rest := List.mem_cons.mp (segments ▸ among)
      exact {
        books := books
        sound := sound
        wrote := wrote
        sole := fun entry among eligible => by
          rcases member entry among with rfl | later
          · have own : front.referenceEligible = true := rendered.2 ▸ eligible
            rw [history]
            exact (reading.sole front here own).rendered own left
          · exact soleRest entry later eligible
        kinds := fun entry among => by
          rcases member entry among with rfl | later
          · rw [rendered.1, rendered.2]
            exact reading.kinds front here
          · exact reading.kinds entry (tail later)
        bounded := fun entry among => by
          rcases member entry among with rfl | later
          · rw [rendered.1]
            exact reading.bounded front here
          · exact reading.bounded entry (tail later)
        alone := by
          rw [segments, List.pairwise_cons, rendered.1, rendered.2]
          exact alone
        fed := fun entry among => by
          rcases member entry among with rfl | later
          · rw [rendered.1]
            exact fed front here
          · exact fed entry (tail later)
        fresh := fresh
        few := reading.few
        waiting := fun held among => by
          obtain ⟨own, done⟩ := waiting held among
          refine ⟨own, done, fun entry inside_ => ?_⟩
          rcases member entry inside_ with rfl | later
          · rw [rendered.1]
            exact (reading.waiting held among).2.2 front here
          · exact (reading.waiting held among).2.2 entry (tail later)
        drained := fun done among => by
          rw [report] at among
          obtain ⟨_, live, gone, apart⟩ := reading.drained done among
          refine ⟨drained done among, live, fun entry inside_ => ?_, apart⟩
          rcases member entry inside_ with rfl | later
          · rw [rendered.1]
            exact gone front here
          · exact gone entry (tail later)
        apart := report ▸ reading.apart
        waits := reading.waits
        reports := report ▸ reading.reports }

theorem readFrames (reading : Reading openId ledger pending read) (context : Option VolumeContext) (frames : Nat) :
    Reading openId ledger pending (read.readFrames context frames) := by
  induction frames generalizing read with
  | zero =>
    exact { reading with
      wrote := fun segment among => by
        rw [PeriodRead.readFrames, PeriodRead.wrote_endWrite]
        exact reading.wrote segment among }
  | succ frames ih => exact ih (reading.readFrame context)

/-- The first report is taken: its segment completes, or it waits for its end. -/
theorem processDrainedPlayback {core : OutputCore} {current : Option SegmentWrite} {writes : List SegmentWrite}
    {done : DrainedPlayback} {later : List DrainedPlayback}
    (reading : Reading openId core.ledger core.drainedPendingEnd
      ⟨core.assistant, current, writes, done :: later, core.history⟩) :
    Reading openId (core.processDrainedPlayback done).ledger (core.processDrainedPlayback done).drainedPendingEnd
      ⟨(core.processDrainedPlayback done).assistant, current, writes, later,
        (core.processDrainedPlayback done).history⟩ := by
  obtain ⟨finished, ⟨segment, listed, own, live⟩, gone, free⟩ := reading.drained done (.head _)
  have apart := reading.apart
  rw [List.map_cons, List.nodup_cons] at apart
  have other (next : DrainedPlayback) (among : next ∈ later) : done.id ≠ next.id :=
    fun same => apart.1 (same ▸ List.mem_map_of_mem among)
  have accounted := reading.books.accounted segment listed
  have isEnded : core.ledger.isEnded done.id = segment.ended := by
    rw [PlayoutLedger.isEnded, ← own, PlayoutLedger.find_of_mem reading.books.distinct listed]
    rfl
  unfold OutputCore.processDrainedPlayback
  split_ifs with ended
  · rw [isEnded] at ended
    have told : .ended done.id ∈ core.history := own ▸ (accounted.ended live).mp ended
    cases playback : done.playback with
    | none =>
      exact { reading with
        drained := fun next among => reading.drained next (.tail _ among)
        apart := apart.2
        reports := fun next among => reading.reports next (.tail _ among) }
    | some trained =>
      have justified : Justified done.id core.history := {
        ended := told
        once := finished.incomplete
        drained := finished.drained
        clean := finished.clean (by rw [playback]; rfl) }
      exact {
        books := reading.books.complete done.id
        sound := ⟨justified, reading.sound⟩
        wrote := reading.wrote
        sole := fun entry among eligible => (reading.sole entry among eligible).complete (gone entry among)
        kinds := reading.kinds
        bounded := reading.bounded
        alone := reading.alone
        fed := reading.fed
        fresh := reading.fresh
        few := reading.few
        waiting := fun held among => by
          obtain ⟨open_, rest, away⟩ := reading.waiting held among
          exact ⟨open_, rest.complete (free held among).symm, away⟩
        drained := fun next among => by
          obtain ⟨rest, kept, away, unmet⟩ := reading.drained next (.tail _ among)
          exact ⟨rest.complete (other next among), kept, away, unmet⟩
        apart := apart.2
        waits := reading.waits
        reports := fun next among => reading.reports next (.tail _ among) }
  · have unended : segment.ended = false := by
      rw [isEnded] at ended
      exact Bool.eq_false_iff.mpr ended
    have open_ : openId = some done.id := own ▸ reading.books.unended segment listed unended
    -- An entry that already waits is of the open segment too, which has drained once only.
    have none_ : core.drainedPendingEnd = [] := by
      cases pending : core.drainedPendingEnd with
      | nil => rfl
      | cons held rest =>
        have among : held ∈ core.drainedPendingEnd := by rw [pending]; exact .head _
        have same := (reading.waiting held among).1
        rw [open_] at same
        exact absurd (Option.some.inj same).symm (free held among)
    exact {
      books := reading.books
      sound := reading.sound
      wrote := reading.wrote
      sole := reading.sole
      kinds := reading.kinds
      bounded := reading.bounded
      alone := reading.alone
      fed := reading.fed
      fresh := reading.fresh
      few := by simp [none_]
      waiting := fun held among => by
        rw [none_, List.nil_append] at among
        rw [List.mem_singleton.mp among]
        exact ⟨open_, finished, gone⟩
      drained := fun next among => by
        obtain ⟨rest, kept, away, _⟩ := reading.drained next (.tail _ among)
        refine ⟨rest, kept, away, fun held here => ?_⟩
        rw [none_, List.nil_append] at here
        rw [List.mem_singleton.mp here]
        exact other next among
      apart := apart.2
      waits := fun held among => by
        rw [none_, List.nil_append] at among
        rw [List.mem_singleton.mp among]
        exact reading.reports done (.head _)
      reports := fun next among => reading.reports next (.tail _ among) }

theorem processDrainedPlaybacks {core : OutputCore} {current : Option SegmentWrite} {writes : List SegmentWrite}
    {drained : List DrainedPlayback}
    (reading : Reading openId core.ledger core.drainedPendingEnd
      ⟨core.assistant, current, writes, drained, core.history⟩) :
    Reading openId (core.processDrainedPlaybacks drained).ledger
      (core.processDrainedPlaybacks drained).drainedPendingEnd
      ⟨(core.processDrainedPlaybacks drained).assistant, current, writes, [],
        (core.processDrainedPlaybacks drained).history⟩ := by
  induction drained generalizing core with
  | nil => exact reading
  | cons done later ih => exact ih reading.processDrainedPlayback

end Reading

/-- A segment of the ledger before and after a change that leaves its name, its frames and its end alone. -/
structure Relabelled (old new : PlayoutSegment) : Prop where
  id : new.localSegmentId = old.localSegmentId
  kind : new.kind = old.kind
  queued : new.queuedFrames = old.queuedFrames
  ended : new.ended = old.ended
  flushed : new.status = .flushed ↔ old.status = .flushed

-- So many frames of the segment have been written to the output.
structure Wrote (frames : Nat) (old new : PlayoutSegment) : Prop extends Relabelled old new where
  estimated : new.estimatedDrainedFrames = old.estimatedDrainedFrames
  written : new.writtenFrames = old.writtenFrames + frames
  drained : new.status = .drained → old.status = .drained

theorem wrote_markWrittenFramesAt (frames outputStartFrame : Nat) (segment : PlayoutSegment) :
    Wrote frames segment (segment.markWrittenFramesAt frames outputStartFrame) := by
  unfold PlayoutSegment.markWrittenFramesAt
  split_ifs with none_ queued
  · subst none_
    exact ⟨⟨rfl, rfl, rfl, rfl, Iff.rfl⟩, rfl, rfl, id⟩
  · exact ⟨⟨rfl, rfl, rfl, rfl, by simp [queued]⟩, rfl, rfl, by simp⟩
  · exact ⟨⟨rfl, rfl, rfl, rfl, Iff.rfl⟩, rfl, rfl, id⟩

theorem markWrites_map (writes : List SegmentWrite) (ledger : PlayoutLedger) (cursor : Nat) :
    (OutputCore.markWrites ledger writes cursor).nextId = ledger.nextId ∧
      ∃ change : PlayoutSegment → PlayoutSegment,
        (OutputCore.markWrites ledger writes cursor).segments = ledger.segments.map change ∧
          ∀ segment, Wrote (writes.map fun write => if write.id = segment.localSegmentId then write.frames else 0).sum
            segment (change segment) := by
  induction writes generalizing ledger cursor with
  | nil =>
    exact ⟨rfl, id, by simp [OutputCore.markWrites], fun segment => ⟨⟨rfl, rfl, rfl, rfl, Iff.rfl⟩, rfl, rfl, id⟩⟩
  | cons write rest ih =>
    obtain ⟨next, change, segments, wrote⟩ := ih (ledger.modify write.id (·.markWrittenFramesAt write.frames cursor))
      (cursor + write.frames)
    refine ⟨next, fun segment => change (if segment.localSegmentId = write.id then
      segment.markWrittenFramesAt write.frames cursor else segment), ?_, fun segment => ?_⟩
    · rw [OutputCore.markWrites, segments, PlayoutLedger.modify, List.map_map]
      rfl
    · rw [List.map_cons, List.sum_cons]
      simp only
      by_cases own : segment.localSegmentId = write.id
      · have first := wrote_markWrittenFramesAt write.frames cursor segment
        have second := wrote (segment.markWrittenFramesAt write.frames cursor)
        rw [first.id] at second
        rw [if_pos own, if_pos own.symm]
        exact {
          id := second.id.trans first.id
          kind := second.kind.trans first.kind
          queued := second.queued.trans first.queued
          ended := second.ended.trans first.ended
          flushed := second.flushed.trans first.flushed
          estimated := second.estimated.trans first.estimated
          written := by rw [second.written, first.written, Nat.add_assoc]
          drained := fun drained => first.drained (second.drained drained) }
      · rw [if_neg own, if_neg fun same => own same.symm, Nat.zero_add]
        exact wrote segment

theorem Accounted.wrote {history : List TtsEvent} {frames : Nat} {old new : PlayoutSegment}
    (accounted : Accounted history old) (wrote : Wrote frames old new)
    (mixed : old.writtenFrames + frames ≤ framesMixed old.localSegmentId history) : Accounted history new where
  estimated := by
    rw [wrote.estimated, wrote.written]
    exact accounted.estimated.trans (Nat.le_add_right _ _)
  written := by
    rw [wrote.written, wrote.id]
    exact mixed
  queued := by
    rw [wrote.queued, wrote.id]
    exact accounted.queued
  ended := fun live => by
    rw [wrote.ended, wrote.id]
    exact accounted.ended fun flushed => live (wrote.flushed.mpr flushed)
  drained := fun drained => by
    rw [wrote.ended, wrote.queued, wrote.estimated]
    exact accounted.drained (wrote.drained drained)
  flushed := fun flushed => by
    rw [wrote.ended]
    exact accounted.flushed (wrote.flushed.mp flushed)

theorem Accounted.maybeMarkDrained {history : List TtsEvent} {segment : PlayoutSegment}
    (accounted : Accounted history segment) : Accounted history segment.maybeMarkDrained := by
  unfold PlayoutSegment.maybeMarkDrained
  split_ifs with done
  · exact { accounted with
      ended := fun _ => accounted.ended done.2.2.2
      drained := fun _ => ⟨done.1, done.2.2.1⟩
      flushed := fun flushed => by cases flushed }
  · exact accounted

theorem relabelled_maybeMarkDrained (segment : PlayoutSegment) : Relabelled segment segment.maybeMarkDrained := by
  unfold PlayoutSegment.maybeMarkDrained
  split_ifs with done
  · exact ⟨rfl, rfl, rfl, rfl, by simp [done.2.2.2]⟩
  · exact ⟨rfl, rfl, rfl, rfl, Iff.rfl⟩

/-- The DAC reports how far it has come, which is never past what has been written. -/
theorem markDrainedThrough_accounted {history : List TtsEvent} {segment : PlayoutSegment}
    (accounted : Accounted history segment) (outputFrame : Nat) :
    Relabelled segment (segment.markDrainedThrough outputFrame) ∧
      Accounted history (segment.markDrainedThrough outputFrame) := by
  unfold PlayoutSegment.markDrainedThrough
  split
  · exact ⟨⟨rfl, rfl, rfl, rfl, Iff.rfl⟩, accounted⟩
  · exact ⟨⟨rfl, rfl, rfl, rfl, Iff.rfl⟩, accounted⟩
  next start _ _ =>
    have grown : Accounted history { segment with
        estimatedDrainedFrames :=
          max segment.estimatedDrainedFrames (min (outputFrame - start) segment.writtenFrames) } :=
      { accounted with
        estimated := Nat.max_le.mpr ⟨accounted.estimated, Nat.min_le_right _ _⟩
        drained := fun drained => by
          obtain ⟨ended, through⟩ := accounted.drained drained
          exact ⟨ended, through.trans (Nat.le_max_left _ _)⟩ }
    have same := relabelled_maybeMarkDrained { segment with
        estimatedDrainedFrames :=
          max segment.estimatedDrainedFrames (min (outputFrame - start) segment.writtenFrames) }
    exact ⟨⟨same.id, same.kind, same.queued, same.ended, same.flushed⟩, grown.maybeMarkDrained⟩

theorem Accounted.flushOpen {history : List TtsEvent} {segment : PlayoutSegment} (accounted : Accounted history segment) :
    Accounted history segment.flushOpen ∧ segment.flushOpen.ended = true ∧
      segment.flushOpen.localSegmentId = segment.localSegmentId := by
  unfold PlayoutSegment.flushOpen
  split_ifs with terminal
  · refine ⟨accounted, ?_, rfl⟩
    simp only [PlayoutSegment.isTerminal, Bool.or_eq_true, beq_iff_eq] at terminal
    rcases terminal with drained | flushed
    · exact (accounted.drained drained).1
    · exact accounted.flushed flushed
  · exact ⟨{ accounted with
      ended := fun live => absurd rfl live
      drained := fun drained => by cases drained
      flushed := fun _ => rfl }, rfl, rfl⟩

theorem dropTerminal_sublist (toDrop : Nat) (segments : List PlayoutSegment) :
    (dropTerminal toDrop segments).Sublist segments := by
  fun_induction dropTerminal toDrop segments with
  | case1 => exact List.Sublist.refl _
  | case2 => exact List.Sublist.refl _
  | case3 toDrop segment rest terminal ih => exact ih.trans (List.sublist_cons_self _ _)
  | case4 toDrop segment rest terminal ih => exact ih.cons_cons segment

-- What is not terminal stays in the ledger.
theorem mem_dropTerminal {toDrop : Nat} {segments : List PlayoutSegment} {segment : PlayoutSegment}
    (among : segment ∈ segments) (live : segment.isTerminal = false) : segment ∈ dropTerminal toDrop segments := by
  fun_induction dropTerminal toDrop segments with
  | case1 => exact among
  | case2 => exact among
  | case3 toDrop head rest terminal ih =>
    rcases List.mem_cons.mp among with rfl | later
    · rw [live] at terminal
      cases terminal
    · exact ih later
  | case4 toDrop head rest terminal ih =>
    rcases List.mem_cons.mp among with rfl | later
    · exact .head _
    · exact .tail _ (ih later)

section Ledger

variable {openId : Option SegmentId} {ledger next : PlayoutLedger} {history : List TtsEvent}
  {change : PlayoutSegment → PlayoutSegment}

theorem Books.relabel (books : Books openId ledger history) (same : next.nextId = ledger.nextId)
    (segments : next.segments = ledger.segments.map change)
    (changes : ∀ segment ∈ ledger.segments, Relabelled segment (change segment) ∧ Accounted history (change segment)) :
    Books openId next history where
  distinct := by
    have ids : (ledger.segments.map change).map (·.localSegmentId) = ledger.segments.map (·.localSegmentId) := by
      rw [List.map_map]
      exact List.map_congr_left fun segment among => (changes segment among).1.id
    rw [segments, ids]
    exact books.distinct
  below := fun segment among => by
    rw [segments] at among
    obtain ⟨old, before, rfl⟩ := List.mem_map.mp among
    rw [(changes old before).1.id, same]
    exact books.below old before
  accounted := fun segment among => by
    rw [segments] at among
    obtain ⟨old, before, rfl⟩ := List.mem_map.mp among
    exact (changes old before).2
  unended := fun segment among unended => by
    rw [segments] at among
    obtain ⟨old, before, rfl⟩ := List.mem_map.mp among
    rw [(changes old before).1.id]
    rw [(changes old before).1.ended] at unended
    exact books.unended old before unended
  opened := fun id open_ => by
    obtain ⟨old, before, own, unended⟩ := books.opened id open_
    refine ⟨change old, segments ▸ List.mem_map_of_mem before, ?_, ?_⟩
    · exact (changes old before).1.id.trans own
    · exact (changes old before).1.ended.trans unended
  future := fun id later => books.future id (same ▸ later)

theorem Sole.relabel {entry : AssistantSegment} (sole : Sole ledger history entry)
    (segments : next.segments = ledger.segments.map change)
    (changes : ∀ segment ∈ ledger.segments, Relabelled segment (change segment)) : Sole next history entry :=
  { sole with
    live := by
      obtain ⟨old, before, own, live⟩ := sole.live
      refine ⟨change old, segments ▸ List.mem_map_of_mem before, (changes old before).id.trans own, fun flushed => ?_⟩
      exact live ((changes old before).flushed.mp flushed) }

theorem Accounted.live {segment : PlayoutSegment} (accounted : Accounted history segment)
    (unended : segment.ended = false) : segment.isTerminal = false := by
  by_contra terminal
  simp only [PlayoutSegment.isTerminal, Bool.not_eq_false, Bool.or_eq_true, beq_iff_eq] at terminal
  rcases terminal with drained | flushed
  · rw [(accounted.drained drained).1] at unended
    cases unended
  · rw [accounted.flushed flushed] at unended
    cases unended

theorem Books.prune (books : Books openId ledger history) (retainTerminal : Nat) :
    Books openId (ledger.pruneTerminalSegments retainTerminal) history where
  distinct := books.distinct.sublist ((dropTerminal_sublist _ _).map _)
  below := fun segment among => books.below segment ((dropTerminal_sublist _ _).mem among)
  accounted := fun segment among => books.accounted segment ((dropTerminal_sublist _ _).mem among)
  unended := fun segment among => books.unended segment ((dropTerminal_sublist _ _).mem among)
  opened := fun id open_ => by
    obtain ⟨segment, among, own, unended⟩ := books.opened id open_
    exact ⟨segment, mem_dropTerminal among ((books.accounted segment among).live unended), own, unended⟩
  future := books.future

/-- The segment of an entry with frames left has not drained, so pruning does not reach it. -/
theorem Sole.prune {entry : AssistantSegment} (sole : Sole ledger history entry) (books : Books openId ledger history)
    (retainTerminal : Nat) : Sole (ledger.pruneTerminalSegments retainTerminal) history entry :=
  { sole with
    live := by
      obtain ⟨segment, among, own, live⟩ := sole.live
      have accounted := books.accounted segment among
      refine ⟨segment, mem_dropTerminal among ?_, own, live⟩
      by_contra terminal
      simp only [PlayoutSegment.isTerminal, Bool.not_eq_false, Bool.or_eq_true, beq_iff_eq] at terminal
      rcases terminal with drained | flushed
      · have through := (accounted.drained drained).2
        have estimated := accounted.estimated
        have written := accounted.written
        have queued := accounted.queued
        have all := sole.queued
        have mixed := sole.mixed
        have unread := sole.unread
        rw [own] at written queued
        simp only [channels] at all mixed
        omega
      · exact live flushed }

end Ledger

-- Between two periods nothing is half read.
def OutputCore.held (core : OutputCore) : PeriodRead := ⟨core.assistant, none, [], [], core.history⟩

/-- The training facts of the core against its history, for the segment that the bridge holds open. -/
abbrev Trains (openId : Option SegmentId) (core : OutputCore) : Prop :=
  Reading openId core.ledger core.drainedPendingEnd core.held

namespace Trains

variable {openId : Option SegmentId} {core : OutputCore}

theorem start (periodFrames : Nat) : Trains none (.new periodFrames) where
  books := {
    distinct := .nil
    below := by simp [OutputCore.new, PlayoutLedger.new]
    accounted := by simp [OutputCore.new, PlayoutLedger.new]
    unended := by simp [OutputCore.new, PlayoutLedger.new]
    opened := by simp
    future := fun _ _ => ⟨rfl, rfl, List.not_mem_nil⟩ }
  sound := trivial
  wrote := by simp [OutputCore.new, PlayoutLedger.new]
  sole := by simp [OutputCore.new, OutputCore.held]
  kinds := by simp [OutputCore.new, OutputCore.held]
  bounded := by simp [OutputCore.new, OutputCore.held]
  alone := .nil
  fed := by simp [OutputCore.new, OutputCore.held]
  fresh := fun _ _ => rfl
  few := Nat.zero_le _
  waiting := by simp [OutputCore.new]
  drained := by simp [OutputCore.held]
  apart := .nil
  waits := by simp [OutputCore.new]
  reports := by simp [OutputCore.held]

theorem commitPreparedPeriod {writes : List SegmentWrite}
    (reading : Reading openId core.ledger core.drainedPendingEnd ⟨core.assistant, none, writes, [], core.history⟩)
    (dacDelayFrames : Nat) : Trains openId (core.commitPreparedPeriod writes dacDelayFrames) := by
  obtain ⟨next, change, segments, wrote⟩ := markWrites_map writes core.ledger core.framesWritten
  have written (segment : PlayoutSegment) (among : segment ∈ core.ledger.segments) :
      Accounted core.history (change segment) := by
    have mixed := reading.wrote segment among
    simp only [PeriodRead.wrote, Option.toList_none, List.append_nil] at mixed
    exact (reading.books.accounted segment among).wrote (wrote segment) mixed
  have marked : Books openId (OutputCore.markWrites core.ledger writes core.framesWritten) core.history :=
    reading.books.relabel next segments fun segment among => ⟨(wrote segment).toRelabelled, written segment among⟩
  generalize through : core.framesWritten + core.periodFrames - dacDelayFrames = outputFrame
  generalize markedLedger : OutputCore.markWrites core.ledger writes core.framesWritten = ledger at *
  have drained := fun segment among =>
    markDrainedThrough_accounted (marked.accounted segment among) outputFrame
  have books : Books openId (ledger.markDrainedThrough outputFrame) core.history := marked.relabel rfl rfl drained
  have sole (entry : AssistantSegment) (among : entry ∈ core.assistant) (eligible : entry.referenceEligible = true) :
      Sole (ledger.markDrainedThrough outputFrame) core.history entry :=
    ((reading.sole entry among eligible).relabel segments fun segment _ => (wrote segment).toRelabelled).relabel rfl
      fun segment among => (drained segment among).1
  have origin (segment : PlayoutSegment)
      (listed : segment ∈ ((ledger.markDrainedThrough outputFrame).pruneTerminalSegments
        defaultTerminalSegmentRetention).segments) :
      ∃ first ∈ core.ledger.segments, segment.localSegmentId = first.localSegmentId ∧ segment.kind = first.kind := by
    obtain ⟨second, before, rfl⟩ := List.mem_map.mp ((dropTerminal_sublist _ _).mem listed)
    have drained := (drained second before).1
    rw [segments] at before
    obtain ⟨first, earlier, rfl⟩ := List.mem_map.mp before
    exact ⟨first, earlier, drained.id.trans (wrote first).id, drained.kind.trans (wrote first).kind⟩
  have committed : core.commitPreparedPeriod writes dacDelayFrames = { core with
      ledger := (ledger.markDrainedThrough outputFrame).pruneTerminalSegments defaultTerminalSegmentRetention
      framesWritten := core.framesWritten + core.periodFrames } := by
    simp only [OutputCore.commitPreparedPeriod, through, markedLedger]
  rw [committed]
  exact {
    books := books.prune _
    sound := reading.sound
    wrote := fun segment among => ((books.prune _).accounted segment among).written
    sole := fun entry among eligible => (sole entry among eligible).prune books _
    kinds := fun entry among segment listed own => by
      obtain ⟨first, earlier, id, kind⟩ := origin segment listed
      rw [kind]
      exact reading.kinds entry among first earlier (id.symm.trans own)
    bounded := fun entry among => by
      have early := reading.bounded entry among
      change entry.id < ledger.nextId
      rw [next]
      exact early
    alone := reading.alone
    fed := reading.fed
    fresh := reading.fresh
    few := reading.few
    waiting := reading.waiting
    drained := by simp [OutputCore.held]
    apart := .nil
    waits := fun held among segment listed own => by
      obtain ⟨first, earlier, id, kind⟩ := origin segment listed
      rw [kind]
      exact reading.waits held among first earlier (id.symm.trans own)
    reports := by simp [OutputCore.held] }

theorem step (trains : Trains openId core) (dacDelayFrames : Nat) : Trains openId (core.step dacDelayFrames) := by
  have read := trains.readFrames core.loudness.currentVolumeContext core.periodFrames
  have ended (context : Option VolumeContext) (frames : Nat) (before : PeriodRead) :
      (before.readFrames context frames).currentWrite = none := by
    induction frames generalizing before with
    | zero => rfl
    | succ frames ih => exact ih _
  have none_ := ended core.loudness.currentVolumeContext core.periodFrames core.held
  change Reading openId core.ledger core.drainedPendingEnd core.prepareRead at read
  change core.prepareRead.currentWrite = none at none_
  have prepared : Reading openId core.ledger core.drainedPendingEnd
      ⟨core.prepareRead.segments, none, core.prepareRead.writes, core.prepareRead.drained, core.prepareRead.history⟩ := by
    rw [← none_]
    exact read
  have processed := @Reading.processDrainedPlaybacks openId
    { core with assistant := core.prepareRead.segments, history := core.prepareRead.history } none
    core.prepareRead.writes core.prepareRead.drained prepared
  exact commitPreparedPeriod processed dacDelayFrames

theorem quiet (trains : Trains openId core) {next : OutputCore} (events : List TtsEvent)
    (quiet : ∀ event ∈ events, event.quiet = true) (ledger : next.ledger = core.ledger)
    (assistant : next.assistant = core.assistant) (pending : next.drainedPendingEnd = core.drainedPendingEnd)
    (history : next.history = events ++ core.history) : Trains openId next := by
  have spoiled (id : SegmentId) : Spoiled id next.history ↔ Spoiled id core.history := by
    rw [history]
    exact spoiled_quiet quiet
  have counts (id : SegmentId) : framesQueued id next.history = framesQueued id core.history ∧
      framesMixed id next.history = framesMixed id core.history := by
    rw [history]
    exact frames_quiet quiet id
  have loud {event : TtsEvent} (loud : event.quiet = false) : event ∈ next.history ↔ event ∈ core.history := by
    rw [history]
    exact mem_quiet quiet loud
  have finished {id : SegmentId} {playback : Option SegmentPlayback} (before : Finished core.history id playback) :
      Finished next.history id playback := {
    some_ := (counts id).1.symm ▸ before.some_
    drained := by
      rw [(counts id).1, (counts id).2]
      exact before.drained
    clean := fun trained bad => before.clean trained ((spoiled id).mp bad)
    incomplete := fun among => before.incomplete ((loud rfl).mp among) }
  unfold Trains OutputCore.held
  rw [ledger, assistant, pending]
  exact {
    books := { trains.books with
      accounted := fun segment among =>
        { trains.books.accounted segment among with
          written := by
            rw [(counts _).2]
            exact (trains.books.accounted segment among).written
          queued := by
            rw [(counts _).1]
            exact (trains.books.accounted segment among).queued
          ended := fun live => ((trains.books.accounted segment among).ended live).trans (loud rfl).symm }
      future := fun id later => by
        obtain ⟨queued, mixed, ended⟩ := trains.books.future id later
        exact ⟨(counts id).1.trans queued, (counts id).2.trans mixed, fun among => ended ((loud rfl).mp among)⟩ }
    sound := by
      change Sound next.history
      rw [history]
      exact (sound_quiet quiet).mpr trains.sound
    wrote := fun segment among => by
      rw [(counts _).2]
      exact trains.wrote segment among
    sole := fun entry among eligible => by
      have before := trains.sole entry among eligible
      exact { before with
        queued := by
          rw [(counts _).1]
          exact before.queued
        mixed := by
          rw [(counts _).2]
          exact before.mixed
        clean := fun qualified bad => before.clean qualified ((spoiled _).mp bad)
        incomplete := fun among => before.incomplete ((loud rfl).mp among) }
    kinds := trains.kinds
    bounded := trains.bounded
    alone := trains.alone
    fed := fun entry among => by
      rw [(counts _).1]
      exact trains.fed entry among
    fresh := fun id none_ => by
      rw [(counts _).1] at none_
      rw [(counts _).2]
      exact trains.fresh id none_
    few := trains.few
    waiting := fun held among => by
      obtain ⟨own, before, gone⟩ := trains.waiting held among
      exact ⟨own, finished before, gone⟩
    drained := by simp
    apart := .nil
    waits := trains.waits
    reports := by simp }

theorem updateVolumeContext (trains : Trains openId core) (context : VolumeContext) :
    Trains openId (core.updateVolumeContext context).1 := by
  unfold OutputCore.updateVolumeContext
  split
  · exact trains.quiet [.accepted context] (by simp [TtsEvent.quiet]) rfl rfl rfl rfl
  · exact trains

theorem clearVolumeContext (trains : Trains openId core) : Trains openId core.clearVolumeContext :=
  trains.quiet [] (by simp) rfl rfl rfl rfl

/-- A flush leaves nothing in the queue, nothing open and nothing waiting. -/
theorem flushAssistant (trains : Trains openId core) : Trains none core.flushAssistant := by
  have flushed := fun segment among => (trains.books.accounted segment among).flushOpen
  have ids : (core.ledger.flushOpenSegments.segments.map (·.localSegmentId)) =
      core.ledger.segments.map (·.localSegmentId) := by
    simp only [PlayoutLedger.flushOpenSegments, List.map_map]
    exact List.map_congr_left fun segment among => (flushed segment among).2.2
  have books : Books none core.ledger.flushOpenSegments core.history := {
    distinct := ids ▸ trains.books.distinct
    below := fun segment among => by
      obtain ⟨old, before, rfl⟩ := List.mem_map.mp among
      rw [(flushed old before).2.2]
      exact trains.books.below old before
    accounted := fun segment among => by
      obtain ⟨old, before, rfl⟩ := List.mem_map.mp among
      exact (flushed old before).1
    unended := fun segment among unended => by
      obtain ⟨old, before, rfl⟩ := List.mem_map.mp among
      rw [(flushed old before).2.1] at unended
      cases unended
    opened := by simp
    future := trains.books.future }
  exact {
    books := books.prune _
    sound := trains.sound
    wrote := fun segment among => ((books.prune _).accounted segment among).written
    sole := by simp [OutputCore.held, OutputCore.flushAssistant]
    kinds := by simp [OutputCore.held, OutputCore.flushAssistant]
    bounded := by simp [OutputCore.held, OutputCore.flushAssistant]
    alone := .nil
    fed := by simp [OutputCore.held, OutputCore.flushAssistant]
    fresh := trains.fresh
    few := Nat.zero_le _
    waiting := by simp [OutputCore.flushAssistant]
    drained := by simp [OutputCore.held]
    apart := .nil
    waits := by simp [OutputCore.flushAssistant]
    reports := by simp [OutputCore.held] }

theorem startSegment (trains : Trains none core) (providerItemId : Option Token) (kind : SegmentKind)
    (decision : AssistantGainDecision) :
    Trains (some (core.startAssistantSegmentWithProfile providerItemId kind decision).2)
      (core.startAssistantSegmentWithProfile providerItemId kind decision).1 := by
  have books := trains.books
  obtain ⟨queued, mixed, unended⟩ := books.future core.ledger.nextId (Nat.le_refl _)
  have added {Reads : PlayoutSegment → Prop} (old : ∀ segment ∈ core.ledger.segments, Reads segment)
      (new : Reads ⟨core.ledger.nextId, providerItemId, kind, 0, 0, 0, 0, none, 0, false, .queued⟩) :
      ∀ segment ∈ (core.startAssistantSegmentWithProfile providerItemId kind decision).1.ledger.segments,
        Reads segment := by
    intro segment among
    rcases List.mem_append.mp among with before | here
    · exact old segment before
    · rw [List.mem_singleton.mp here]
      exact new
  have listed : core.ledger.segments ⊆
      (core.startAssistantSegmentWithProfile providerItemId kind decision).1.ledger.segments :=
    List.subset_append_left _ _
  exact {
    books := {
      distinct := by
        simp only [OutputCore.startAssistantSegmentWithProfile, PlayoutLedger.startSegment, List.map_append]
        refine List.nodup_append.mpr ⟨books.distinct, by simp, fun id old id' new same => ?_⟩
        obtain ⟨segment, among, rfl⟩ := List.mem_map.mp old
        have below := books.below segment among
        rw [List.map_singleton] at new
        rw [same, List.mem_singleton.mp new] at below
        exact Nat.lt_irrefl _ below
      below := added (fun segment among => (books.below segment among).trans (Nat.lt_succ_self _)) (Nat.lt_succ_self _)
      accounted := added books.accounted {
        estimated := Nat.le_refl _
        written := Nat.zero_le _
        queued := queued.symm
        ended := fun _ => ⟨fun told => (by cases told), fun among => absurd among unended⟩
        drained := fun drained => by cases drained
        flushed := fun flushed => by cases flushed }
      unended := added (fun segment among unended => by cases books.unended segment among unended) fun _ => rfl
      opened := fun id same => by
        refine ⟨_, List.mem_append_right _ (List.mem_singleton_self _), Option.some.inj same, rfl⟩
      future := fun id later => books.future id (Nat.le_of_succ_le later) }
    sound := trains.sound
    wrote := added trains.wrote (Nat.zero_le _)
    sole := fun entry among eligible => by
      have before := trains.sole entry among eligible
      obtain ⟨segment, here, own, live⟩ := before.live
      exact { before with live := ⟨segment, listed here, own, live⟩ }
    kinds := fun entry among => added (trains.kinds entry among) fun own => by
      have early := trains.bounded entry among
      rw [← own] at early
      exact absurd early (Nat.lt_irrefl _)
    bounded := fun entry among => (trains.bounded entry among).trans (Nat.lt_succ_self _)
    alone := trains.alone
    fed := trains.fed
    fresh := trains.fresh
    few := trains.few
    waiting := fun held among => by cases (trains.waiting held among).1
    drained := by simp [OutputCore.held]
    apart := .nil
    waits := fun held among => by cases (trains.waiting held among).1
    reports := by simp [OutputCore.held] }

/-- Audio joins the open segment. The only entry that may train is the first one. -/
theorem appendAudio {id : SegmentId} (trains : Trains (some id) core) (chunk : Chunk) (stamp : Nat)
    (first : ∀ segment, core.ledger.find id = some segment → chunk.samples ≠ [] → segment.kind = .assistant →
      segment.queuedFrames = 0) :
    Trains (some id) (core.appendAssistantAudioWithSegmentGain id chunk stamp) := by
  unfold OutputCore.appendAssistantAudioWithSegmentGain
  split
  next => exact trains
  next segment found =>
    split_ifs with empty
    · exact trains
    · obtain ⟨listed, own⟩ := PlayoutLedger.mem_of_find found
      obtain ⟨opened, listed', own', unended⟩ := trains.books.opened id rfl
      have found' := PlayoutLedger.find_of_mem trains.books.distinct listed'
      rw [own', found] at found'
      cases found'
      have accounted := trains.books.accounted segment listed
      have live : segment.status ≠ .flushed := fun flushed => by
        rw [accounted.flushed flushed] at unended
        cases unended
      have untold : .ended id ∉ core.history := fun told => by
        rw [(accounted.ended live).mpr (own ▸ told)] at unended
        cases unended
      have early : id < core.ledger.nextId := own ▸ trains.books.below segment listed
      have positive := List.length_pos_of_ne_nil empty
      have whole := chunk.whole
      generalize size : chunk.samples.length / channels = frames
      have samples : frames * channels = chunk.samples.length := by
        simp only [channels] at size whole ⊢
        omega
      have some_ : 0 < frames := by
        simp only [channels] at samples
        omega
      generalize decided : (core.activeAssistantDecision.filter (·.1 = id)).map (·.2) = decision
      have spoiled {other : SegmentId} (bad : Spoiled other (.queued id frames stamp :: core.history)) :
          Spoiled other core.history := by
        rcases spoiled_cons.mp bad with ⟨_, _, same, _⟩ | old
        · cases same
        · exact old
      have queued (other : SegmentId) : framesQueued other (.queued id frames stamp :: core.history) =
          (if id = other then frames else 0) + framesQueued other core.history := rfl
      -- What is queued of the segment already may not train, so its own entries do not matter.
      have apart (entry : AssistantSegment) (among : entry ∈ core.assistant)
          (trainable : entry.referenceEligible = true ∨ segment.kind = .assistant) : entry.id ≠ id := by
        intro same
        have kind := trains.kinds entry among segment listed (own.trans same.symm)
        have eligible : entry.referenceEligible = true := by
          rcases trainable with eligible | assistant
          · exact eligible
          · rw [kind, assistant]
            rfl
        have sole := trains.sole entry among eligible
        have none_ := first segment found empty (by simpa [eligible] using kind.symm)
        have queued := sole.queued
        have unread := sole.unread
        rw [accounted.queued, own, ← same] at none_
        change framesQueued entry.id core.history = 0 at none_
        change framesQueued entry.id core.history * channels = entry.samples.length at queued
        rw [none_] at queued
        omega
      have pending : core.drainedPendingEnd = [] := by
        refine List.eq_nil_iff_forall_not_mem.mpr fun held among => ?_
        obtain ⟨same, finished, _⟩ := trains.waiting held among
        have assistant := trains.waits held among segment listed (own.trans (Option.some.inj same))
        have none_ := first segment found empty assistant
        have some_ := finished.some_
        rw [accounted.queued, own, Option.some.inj same] at none_
        change 0 < framesQueued held.1 core.history at some_
        change framesQueued held.1 core.history = 0 at none_
        omega
      generalize grow : (fun other : PlayoutSegment => { other with
        queuedFrames := other.queuedFrames + if id = other.localSegmentId then frames else 0 }) = change
      have grown (other : PlayoutSegment) : change other = { other with
          queuedFrames := other.queuedFrames + if id = other.localSegmentId then frames else 0 } := by rw [← grow]
      have segments : (core.ledger.modify id (·.queueFrames frames)).segments = core.ledger.segments.map change := by
        refine List.map_congr_left fun other _ => ?_
        rw [grown]
        by_cases same : other.localSegmentId = id
        · rw [if_pos same, if_pos same.symm]
          rfl
        · rw [if_neg same, if_neg fun back => same back.symm]
          rfl
      have from_ {Reads : PlayoutSegment → Prop} (old : ∀ other ∈ core.ledger.segments, Reads (change other)) :
          ∀ other ∈ (core.ledger.modify id (·.queueFrames frames)).segments, Reads other := by
        intro other among
        rw [segments] at among
        obtain ⟨before, here, rfl⟩ := List.mem_map.mp among
        exact old before here
      have books : Books (some id) (core.ledger.modify id (·.queueFrames frames))
          (.queued id frames stamp :: core.history) := {
        distinct := by
          have ids : (core.ledger.segments.map change).map (·.localSegmentId) =
              core.ledger.segments.map (·.localSegmentId) := by
            rw [List.map_map]
            refine List.map_congr_left fun other _ => ?_
            rw [Function.comp_apply, grown]
          rw [segments, ids]
          exact trains.books.distinct
        below := from_ fun other here => by
          rw [grown]
          exact trains.books.below other here
        accounted := from_ fun other here => by
          have before := trains.books.accounted other here
          rw [grown]
          exact {
            estimated := before.estimated
            written := before.written
            queued := by
              rw [queued, Nat.add_comm]
              exact congrArg (_ + ·) before.queued
            ended := fun live => (before.ended live).trans (by simp [OutputCore.held])
            drained := fun drained => by
              obtain ⟨ended, through⟩ := before.drained drained
              have other_ : id ≠ other.localSegmentId := fun same => by
                have open_ := (before.ended (by rw [drained]; simp)).mp ended
                exact untold (same ▸ open_)
              exact ⟨ended, by simpa [other_] using through⟩
            flushed := before.flushed }
        unended := from_ fun other here unended => by
          rw [grown] at unended ⊢
          exact trains.books.unended other here unended
        opened := fun other same => by
          obtain ⟨old, here, name, unended⟩ := trains.books.opened other same
          refine ⟨change old, segments ▸ List.mem_map_of_mem here, ?_, ?_⟩
          · rw [grown]
            exact name
          · rw [grown]
            exact unended
        future := fun other later => by
          obtain ⟨none_, mixed, ended⟩ := trains.books.future other later
          have away : id ≠ other := Nat.ne_of_lt (early.trans_le later)
          refine ⟨?_, mixed, fun among => ended ?_⟩
          · rw [queued, if_neg away]
            exact (Nat.zero_add _).trans none_
          · simpa [OutputCore.held] using among }
      have added {Reads : AssistantSegment → Prop} (old : ∀ entry ∈ core.assistant, Reads entry)
          (new : Reads ⟨id, chunk.samples, 0, decision, segment.kind = .assistant, none, false, stamp⟩) :
          ∀ entry ∈ core.assistant ++ [⟨id, chunk.samples, 0, decision, segment.kind = .assistant, none, false, stamp⟩],
            Reads entry := by
        intro entry among
        rcases List.mem_append.mp among with before | here
        · exact old entry before
        · rw [List.mem_singleton.mp here]
          exact new
      have lively : ∃ other ∈ (core.ledger.modify id (·.queueFrames frames)).segments,
          other.localSegmentId = id ∧ other.status ≠ .flushed := by
        refine ⟨change segment, segments ▸ List.mem_map_of_mem listed, ?_, ?_⟩
        · rw [grown]
          exact own
        · rw [grown]
          exact live
      exact {
        books := books
        sound := ⟨untold, trains.sound⟩
        wrote := fun other among => (books.accounted other among).written
        sole := added
          (fun entry among eligible => by
            have before := trains.sole entry among eligible
            have away := apart entry among (.inl eligible)
            exact {
              queued := by
                change framesQueued entry.id (.queued id frames stamp :: core.history) * channels = _
                rw [queued, if_neg away.symm, Nat.zero_add]
                exact before.queued
              mixed := before.mixed
              unread := before.unread
              clean := fun qualified bad => before.clean qualified (spoiled bad)
              incomplete := by simpa [OutputCore.note, OutputCore.held] using before.incomplete
              live := by
                obtain ⟨old, here, name, alive⟩ := before.live
                refine ⟨change old, segments ▸ List.mem_map_of_mem here, ?_, ?_⟩
                · rw [grown]
                  exact name
                · rw [grown]
                  exact alive })
          fun eligible => by
            have assistant : segment.kind = .assistant := by simpa using eligible
            have none_ := first segment found empty assistant
            rw [accounted.queued, own] at none_
            change framesQueued id core.history = 0 at none_
            have mixed : framesMixed id core.history = 0 := trains.fresh id none_
            exact {
              queued := by
                change framesQueued id (.queued id frames stamp :: core.history) * channels = _
                rw [queued, if_pos rfl, none_, Nat.add_zero, samples]
              mixed := by
                change framesMixed id core.history * channels = 0
                rw [mixed, Nat.zero_mul]
              unread := positive
              clean := fun _ bad => not_spoiled_of_framesMixed mixed (spoiled bad)
              incomplete := fun among => untold (trains.sound.ended_of_completed (by
                simpa [OutputCore.note, OutputCore.held] using among))
              live := lively }
        kinds := added
          (fun entry among => from_ fun other here same => by
            rw [grown] at same ⊢
            exact trains.kinds entry among other here same)
          (from_ fun other here same => by
            rw [grown] at same ⊢
            have twin := PlayoutLedger.find_of_mem trains.books.distinct here
            have name : other.localSegmentId = id := same
            rw [name, found] at twin
            cases twin
            rfl)
        bounded := added trains.bounded early
        alone := by
          refine List.pairwise_append.mpr ⟨trains.alone, List.pairwise_singleton _ _, fun entry old other new free => ?_⟩
          rw [List.mem_singleton.mp new] at free ⊢
          exact apart entry old (free.imp_right of_decide_eq_true)
        fed := added
          (fun entry among => by
            have some_ := trains.fed entry among
            change 0 < framesQueued entry.id (.queued id frames stamp :: core.history)
            rw [queued]
            exact some_.trans_le (Nat.le_add_left _ _))
          (by
            change 0 < framesQueued id (.queued id frames stamp :: core.history)
            rw [queued, if_pos rfl]
            omega)
        fresh := fun other none_ => by
          change framesQueued other (.queued id frames stamp :: core.history) = 0 at none_
          rw [queued] at none_
          exact trains.fresh other (Nat.eq_zero_of_add_eq_zero_left none_)
        few := trains.few
        waiting := fun held among => by
          have some_ : held ∈ core.drainedPendingEnd := among
          rw [pending] at some_
          cases some_
        drained := by simp [OutputCore.held]
        apart := .nil
        waits := fun held among => by
          have some_ : held ∈ core.drainedPendingEnd := among
          rw [pending] at some_
          cases some_
        reports := by simp [OutputCore.held] }

theorem relabelled_finish {segment : PlayoutSegment} : segment.finish.localSegmentId = segment.localSegmentId ∧
    segment.finish.kind = segment.kind ∧ segment.finish.queuedFrames = segment.queuedFrames ∧
      (segment.finish.status = .flushed ↔ segment.status = .flushed) := by
  unfold PlayoutSegment.finish
  split_ifs
  · exact ⟨rfl, rfl, rfl, Iff.rfl⟩
  · have same := relabelled_maybeMarkDrained { segment with ended := true }
    exact ⟨same.id, same.kind, same.queued, same.flushed⟩

-- The one entry that can wait is of the open segment.
theorem takePending_cases {id : SegmentId} (trains : Trains (some id) core) :
    core.drainedPendingEnd = [] ∧ OutputCore.takePending id core.drainedPendingEnd = none ∨
      ∃ playback, core.drainedPendingEnd = [(id, playback)] ∧
        OutputCore.takePending id core.drainedPendingEnd = some (playback, []) := by
  have few := trains.few
  cases pending : core.drainedPendingEnd with
  | nil => exact .inl ⟨rfl, rfl⟩
  | cons held rest =>
    rw [pending] at few
    have none_ : rest = [] := List.length_eq_zero_iff.mp (Nat.le_zero.mp (Nat.le_of_succ_le_succ few))
    obtain ⟨own, _⟩ := trains.waiting held (by rw [pending]; exact .head _)
    subst none_
    right
    refine ⟨held.2, ?_, ?_⟩
    · rw [Option.some.inj own]
    · rw [OutputCore.takePending, if_pos (Option.some.inj own).symm]

/-- The end of the open segment: an entry that waits completes, and none waits any more. -/
theorem endAssistantSegment {id : SegmentId} (trains : Trains (some id) core) :
    Trains none (core.endAssistantSegment id) := by
  have relabelled := @relabelled_finish
  obtain ⟨openSegment, openListed, openOwn, _⟩ := trains.books.opened id rfl
  have early : id < core.ledger.nextId := openOwn ▸ trains.books.below openSegment openListed
  generalize finish : (fun segment : PlayoutSegment => if segment.localSegmentId = id then segment.finish else segment) =
    change
  have changed (segment : PlayoutSegment) : (change segment).localSegmentId = segment.localSegmentId ∧
      (change segment).kind = segment.kind ∧ ((change segment).status = .flushed ↔ segment.status = .flushed) := by
    rw [← finish]
    simp only
    split_ifs
    · exact ⟨relabelled.1, relabelled.2.1, relabelled.2.2.2⟩
    · exact ⟨rfl, rfl, Iff.rfl⟩
  have segments : (core.ledger.modify id (·.finish)).segments = core.ledger.segments.map change := by rw [← finish]; rfl
  have from_ {Reads : PlayoutSegment → Prop} (old : ∀ segment ∈ core.ledger.segments, Reads (change segment)) :
      ∀ segment ∈ (core.ledger.modify id (·.finish)).segments, Reads segment := by
    intro segment among
    rw [segments] at among
    obtain ⟨before, here, rfl⟩ := List.mem_map.mp among
    exact old before here
  have accounted (segment : PlayoutSegment) (among : segment ∈ core.ledger.segments) :
      Accounted (.ended id :: core.history) (change segment) ∧ (change segment).ended = true := by
    have before := trains.books.accounted segment among
    rw [← finish]
    simp only
    split_ifs with own
    · unfold PlayoutSegment.finish
      split_ifs with flushed
      · exact ⟨{ before with
          ended := fun live => absurd flushed live }, before.flushed flushed⟩
      · have ended : Accounted (.ended id :: core.history) { segment with ended := true } := { before with
          ended := fun _ => by simp [own]
          drained := fun drained => ⟨rfl, (before.drained drained).2⟩
          flushed := fun _ => rfl }
        exact ⟨ended.maybeMarkDrained, (relabelled_maybeMarkDrained { segment with ended := true }).ended⟩
    · have ended : segment.ended = true := by
        by_contra unended
        have open_ := trains.books.unended segment among (Bool.eq_false_iff.mpr unended)
        exact own (Option.some.inj open_).symm
      exact ⟨{ before with
        ended := fun live => (before.ended live).trans (by simp [own, OutputCore.held]) }, ended⟩
  have books : Books none (core.ledger.modify id (·.finish)) (.ended id :: core.history) := {
    distinct := by
      have ids : (core.ledger.segments.map change).map (·.localSegmentId) =
          core.ledger.segments.map (·.localSegmentId) := by
        rw [List.map_map]
        exact List.map_congr_left fun segment _ => (changed segment).1
      rw [segments, ids]
      exact trains.books.distinct
    below := from_ fun segment among => by
      rw [(changed segment).1]
      exact trains.books.below segment among
    accounted := from_ fun segment among => (accounted segment among).1
    unended := from_ fun segment among unended => by
      rw [(accounted segment among).2] at unended
      cases unended
    opened := by simp
    future := fun other later => by
      obtain ⟨queued, mixed, untold⟩ := trains.books.future other later
      have away : other ≠ id := (Nat.ne_of_lt (early.trans_le later)).symm
      refine ⟨queued, mixed, fun among => untold ?_⟩
      simpa [away, OutputCore.held] using among }
  have spoiled {other : SegmentId} (bad : Spoiled other (.ended id :: core.history)) : Spoiled other core.history := by
    rcases spoiled_cons.mp bad with ⟨_, _, same, _⟩ | old
    · cases same
    · exact old
  have ended : Trains none { { core with ledger := core.ledger.modify id (·.finish) }.note (.ended id) with
      drainedPendingEnd := [] } := {
    books := books
    sound := trains.sound
    wrote := fun segment among => (books.accounted segment among).written
    sole := fun entry among eligible => by
      have before := trains.sole entry among eligible
      exact { before with
        clean := fun qualified bad => before.clean qualified (spoiled bad)
        incomplete := by simpa [OutputCore.note, OutputCore.held] using before.incomplete
        live := by
          obtain ⟨old, here, name, alive⟩ := before.live
          refine ⟨change old, segments ▸ List.mem_map_of_mem here, (changed old).1.trans name, fun flushed => ?_⟩
          exact alive ((changed old).2.2.mp flushed) }
    kinds := fun entry among => from_ fun segment here same => by
      rw [(changed segment).2.1]
      exact trains.kinds entry among segment here ((changed segment).1.symm.trans same)
    bounded := trains.bounded
    alone := trains.alone
    fed := trains.fed
    fresh := trains.fresh
    few := Nat.zero_le _
    waiting := by simp
    drained := by simp [OutputCore.held]
    apart := .nil
    waits := by simp
    reports := by simp [OutputCore.held] }
  rcases trains.takePending_cases with ⟨none_, search⟩ | ⟨playback, one, search⟩
  · have same : core.endAssistantSegment id = { { core with ledger := core.ledger.modify id (·.finish) }.note
        (.ended id) with drainedPendingEnd := [] } := by
      simp only [OutputCore.endAssistantSegment, OutputCore.note, search]
      rw [none_]
    rw [same]
    exact ended
  · have same : core.endAssistantSegment id = ({ { core with ledger := core.ledger.modify id (·.finish) }.note
        (.ended id) with drainedPendingEnd := [] } : OutputCore).completeAssistantReference id playback := by
      simp only [OutputCore.endAssistantSegment, OutputCore.note, search]
    obtain ⟨_, finished, gone⟩ := trains.waiting (id, playback) (by rw [one]; exact .head _)
    rw [same]
    cases playback with
    | none => exact ended
    | some trained =>
      have justified : Justified id (.ended id :: core.history) := {
        ended := .head _
        once := by simpa [OutputCore.held] using finished.incomplete
        drained := finished.drained
        clean := fun bad => finished.clean rfl (spoiled bad) }
      exact {
        books := ended.books.complete id
        sound := ⟨justified, ended.sound⟩
        wrote := ended.wrote
        sole := fun entry among eligible => (ended.sole entry among eligible).complete (gone entry among)
        kinds := ended.kinds
        bounded := ended.bounded
        alone := ended.alone
        fed := ended.fed
        fresh := ended.fresh
        few := ended.few
        waiting := by simp [OutputCore.completeAssistantReference, OutputCore.note]
        drained := by simp [OutputCore.held]
        apart := .nil
        waits := by simp [OutputCore.completeAssistantReference, OutputCore.note]
        reports := by simp [OutputCore.held] }

end Trains

namespace TtsBridge

/-- No accepted audio chunk finds the open assistant segment with frames already. -/
def OneChunk (bridge : TtsBridge) : TtsAction → Prop
  | .command ⟨epoch, .audioWide chunk⟩ _ => epoch = bridge.activeEpoch → chunk.samples ≠ [] →
      bridge.core.pendingAssistantFrames + chunk.samples.length / channels ≤ bridge.maxPendingFrames →
        ∀ id ∈ bridge.openSegment, ∀ segment ∈ bridge.core.ledger.find id, segment.kind = .assistant →
          segment.queuedFrames = 0
  | _ => True

instance (bridge : TtsBridge) (action : TtsAction) : Decidable (bridge.OneChunk action) := by
  unfold OneChunk
  split <;> infer_instance

variable {bridge : TtsBridge}

theorem trains_closeOpenSegment (trains : Trains bridge.openSegment bridge.core) :
    Trains none bridge.closeOpenSegment.core ∧ bridge.closeOpenSegment.openSegment = none := by
  unfold closeOpenSegment
  split
  next closed =>
    rw [closed] at trains
    exact ⟨trains, closed⟩
  next id opened =>
    rw [opened] at trains
    exact ⟨trains.endAssistantSegment, rfl⟩

theorem trains_startSegment (trains : Trains none bridge.core) (providerItemId : Option Token) (kind : SegmentKind)
    (decision : AssistantGainDecision) :
    Trains (bridge.startSegment providerItemId kind decision).openSegment
      (bridge.startSegment providerItemId kind decision).core :=
  trains.startSegment providerItemId kind decision

theorem trains_acceptAudio (trains : Trains bridge.openSegment bridge.core) (stamp : Nat) (chunk : Chunk)
    (decision : AssistantGainDecision)
    (first : bridge.core.pendingAssistantFrames + chunk.samples.length / channels ≤ bridge.maxPendingFrames →
      chunk.samples ≠ [] → ∀ id ∈ bridge.openSegment, ∀ segment ∈ bridge.core.ledger.find id,
        segment.kind = .assistant → segment.queuedFrames = 0) :
    Trains (bridge.acceptAudio stamp chunk decision).openSegment (bridge.acceptAudio stamp chunk decision).core := by
  unfold acceptAudio openForAudio
  split_ifs with full silent
  · exact trains
  · have closed : bridge.openSegment = none := Option.isNone_iff_eq_none.mp silent
    rw [closed] at trains
    have started := trains_startSegment trains none .assistant decision
    -- The segment has been opened for this chunk, so nothing is queued for it yet.
    refine started.appendAudio chunk stamp fun segment found _ _ => ?_
    obtain ⟨listed, own⟩ := PlayoutLedger.mem_of_find found
    have accounted := started.books.accounted segment listed
    rw [accounted.queued, own]
    exact (trains.books.future _ (Nat.le_refl _)).1
  · unfold appendOpen
    split
    next => exact trains
    next id opened =>
      rw [opened] at trains ⊢
      exact trains.appendAudio chunk stamp fun segment found some_ assistant =>
        first (Nat.not_lt.mp full) some_ id opened segment found assistant

theorem trains_takeCommand (trains : Trains bridge.openSegment bridge.core) (queued : QueuedTtsCommand)
    (decision : AssistantGainDecision) (meets : bridge.OneChunk (.command queued decision)) :
    Trains (bridge.takeCommand queued decision).openSegment (bridge.takeCommand queued decision).core := by
  obtain ⟨epoch, command⟩ := queued
  unfold takeCommand
  split_ifs with stale
  · exact trains.quiet [.discarded ⟨epoch, command⟩] (by simp [TtsEvent.quiet]) rfl rfl rfl rfl
  · have gated (held : command.isRestore = false) : epoch = bridge.activeEpoch := by
      by_contra other
      exact stale ⟨other, held⟩
    cases command with
    | prepareAssistant provider model voice envelope offered =>
      simp only [prepareContext]
      split
      · exact trains.clearVolumeContext
      next context =>
        have updated := trains.updateVolumeContext context
        split
        next core accepted =>
          rw [accepted] at updated
          exact updated
        next core refused =>
          rw [refused] at updated
          exact updated.clearVolumeContext
    | volumeContext context => exact trains.updateVolumeContext context
    | segmentStart kind providerItemId profile =>
      exact trains_startSegment (trains_closeOpenSegment trains).1 providerItemId kind decision
    | audioWide chunk =>
      exact trains_acceptAudio trains epoch chunk decision fun budget some_ => meets (gated rfl) some_ budget
    | segmentEnd =>
      obtain ⟨ended, closed⟩ := trains_closeOpenSegment trains
      rw [← closed] at ended
      exact ended
    | _ => exact trains

theorem trains_act (trains : Trains bridge.openSegment bridge.core) (action : TtsAction)
    (meets : bridge.OneChunk action) : Trains (bridge.act action).openSegment (bridge.act action).core := by
  cases action with
  | flushes epochs =>
    clear meets
    unfold act
    induction epochs generalizing bridge with
    | nil => exact trains
    | cons epoch rest ih =>
      have flushed : Trains none (bridge.core.flushAssistant.note (.flushed epoch)) :=
        trains.flushAssistant.quiet [.flushed epoch] (by simp [TtsEvent.quiet]) rfl rfl rfl rfl
      exact ih flushed
  | command queued decision => exact trains_takeCommand trains queued decision meets
  | period dacDelayFrames => exact trains.step dacDelayFrames

end TtsBridge

/-- With one chunk a segment every completion comes once, after the end of its segment and its last frame, and of a
segment that was never muted; and no entry waits for a segment that has ended. -/
theorem one_chunk_segments_train_once {periodFrames maxPendingFrames : Nat} {bridge : TtsBridge}
    (reached : Reachable ((ofAct (· = .new periodFrames maxPendingFrames) TtsBridge.act).restrict TtsBridge.OneChunk)
      bridge) :
    (∀ segment later past, bridge.core.history = later ++ .completed segment :: past →
      Justified segment past ∧ .completed segment ∉ later ∧ ∀ frames stamp, .queued segment frames stamp ∉ later) ∧
    ∀ segment, .ended segment ∈ bridge.core.history → ∀ held ∈ bridge.core.drainedPendingEnd, held.1 ≠ segment := by
  have trains : Trains bridge.openSegment bridge.core := by
    induction reached with
    | initial start =>
      rw [show _ = TtsBridge.new periodFrames maxPendingFrames from start]
      exact .start periodFrames
    | step _ move ih =>
      rw [move.2]
      exact TtsBridge.trains_act ih _ move.1
  refine ⟨fun segment later past completed => ?_, fun segment ended held among same => ?_⟩
  · have sound : Sound bridge.core.history := trains.sound
    rw [completed] at sound
    exact sound.completed_once
  · obtain ⟨opened, _⟩ := trains.waiting held among
    obtain ⟨listed, here, own, unended⟩ := trains.books.opened held.1 opened
    have accounted := trains.books.accounted listed here
    have live : listed.status ≠ .flushed := fun flushed => by
      rw [accounted.flushed flushed] at unended
      cases unended
    rw [(accounted.ended live).mpr (by rw [own, same]; exact ended)] at unended
    cases unended

def spoken (command : TtsCommand) : TtsAction := .command ⟨0, command⟩ ⟨⟨0⟩⟩

def spokenOnce : List TtsAction :=
  [spoken (.volumeContext ⟨⟨0⟩, ⟨0⟩, ⟨0⟩, false, 1⟩), spoken (.segmentStart .assistant none none),
    spoken (.audioWide (.silent 1)), .period 0, spoken .segmentEnd]

theorem one_chunk_segments_train_once_spoken :
    Justified 1 (spokenOnce.foldl TtsBridge.act (.new 1 4)).core.history.tail :=
  ((@one_chunk_segments_train_once 1 4 (spokenOnce.foldl TtsBridge.act (.new 1 4))
    (reachable_restrict_foldl rfl (by decide +kernel))).1 1 [] _ (by decide +kernel)).1

def spokenInChunks : List TtsAction :=
  [spoken (.volumeContext ⟨⟨0⟩, ⟨0⟩, ⟨0⟩, false, 1⟩), spoken (.segmentStart .assistant none none),
    spoken (.audioWide (.silent 1)), spoken (.audioWide (.silent 1)), spoken .segmentEnd, .period 0, .period 0]

/-- Two chunks of one segment train twice, the first time before the second chunk has gone out. -/
theorem chunks_of_a_segment_train_apart :
    ∃ bridge first, Reachable (ofAct (· = .new 1 4) TtsBridge.act) bridge ∧
      bridge.core.history = .completed 1 :: .mixed 1 0 (some ⟨⟨0⟩, ⟨0⟩, ⟨0⟩, false, 1⟩) :: .completed 1 :: first ∧
        framesMixed 1 first < framesQueued 1 first := by
  refine ⟨spokenInChunks.foldl TtsBridge.act (.new 1 4), _, reachable_foldl (by rfl) _, rfl, ?_⟩
  decide +kernel

end Jts.Tts.Outputd
