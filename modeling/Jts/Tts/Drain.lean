import Mathlib
import Jts.Tts.OutputLoop

set_option autoImplicit false

namespace Jts.Tts.Outputd

open Jts.Tts Jts.Shared.Tape Jts.Shared.Transition

/-- The ids of the ledger rise, as they are handed out. -/
structure Ordered (ledger : PlayoutLedger) : Prop where
  rising : (ledger.segments.map (·.localSegmentId)).Pairwise (· < ·)
  below : ∀ segment ∈ ledger.segments, segment.localSegmentId < ledger.nextId

/-- The segment before and after a change that is none of the output's business. -/
structure Unheard (before after : PlayoutSegment) : Prop where
  name : after.localSegmentId = before.localSegmentId
  written : after.writtenFrames = before.writtenFrames
  estimated : after.estimatedDrainedFrames = before.estimatedDrainedFrames
  start : after.outputStartFrame = before.outputStartFrame
  flushed : before.status = .flushed → after.status = .flushed

structure Silent (segment : PlayoutSegment) : Prop where
  written : segment.writtenFrames = 0
  estimated : segment.estimatedDrainedFrames = 0
  start : segment.outputStartFrame = none

/-- The ledger before and after what the bridge does to it between two commits. -/
structure Between (before after : PlayoutLedger) : Prop where
  nextId : before.nextId ≤ after.nextId
  ordered : Ordered before → Ordered after
  segments : ∀ segment ∈ after.segments, (∃ old ∈ before.segments, Unheard old segment) ∨
    (before.nextId ≤ segment.localSegmentId ∧ Silent segment)

theorem Unheard.refl (segment : PlayoutSegment) : Unheard segment segment := ⟨rfl, rfl, rfl, rfl, id⟩

theorem Unheard.trans {first middle last : PlayoutSegment} (left : Unheard first middle)
    (right : Unheard middle last) : Unheard first last where
  name := right.name.trans left.name
  written := right.written.trans left.written
  estimated := right.estimated.trans left.estimated
  start := right.start.trans left.start
  flushed := fun flushed => right.flushed (left.flushed flushed)

theorem Silent.unheard {before after : PlayoutSegment} (silent : Silent before) (same : Unheard before after) :
    Silent after where
  written := same.written.trans silent.written
  estimated := same.estimated.trans silent.estimated
  start := same.start.trans silent.start

theorem unheard_maybeMarkDrained (segment : PlayoutSegment) : Unheard segment segment.maybeMarkDrained := by
  unfold PlayoutSegment.maybeMarkDrained
  split_ifs with done
  · exact ⟨rfl, rfl, rfl, rfl, fun flushed => absurd flushed done.2.2.2⟩
  · exact .refl segment

theorem unheard_finish (segment : PlayoutSegment) : Unheard segment segment.finish := by
  unfold PlayoutSegment.finish
  split_ifs
  · exact .refl segment
  · have ended : Unheard segment { segment with ended := true } := ⟨rfl, rfl, rfl, rfl, id⟩
    exact ended.trans (unheard_maybeMarkDrained _)

theorem unheard_flushOpen (segment : PlayoutSegment) : Unheard segment segment.flushOpen := by
  unfold PlayoutSegment.flushOpen
  split_ifs
  · exact .refl segment
  · exact ⟨rfl, rfl, rfl, rfl, fun _ => rfl⟩

namespace Ordered

variable {ledger : PlayoutLedger}

theorem map (ordered : Ordered ledger) {change : PlayoutSegment → PlayoutSegment}
    (same : ∀ segment, (change segment).localSegmentId = segment.localSegmentId) :
    Ordered { ledger with segments := ledger.segments.map change } where
  rising := by
    have ids : (ledger.segments.map change).map (·.localSegmentId) = ledger.segments.map (·.localSegmentId) := by
      rw [List.map_map]
      exact List.map_congr_left fun segment _ => same segment
    rw [ids]
    exact ordered.rising
  below := fun segment among => by
    obtain ⟨old, before, rfl⟩ := List.mem_map.mp among
    rw [same old]
    exact ordered.below old before

theorem prune (ordered : Ordered ledger) (retainTerminal : Nat) :
    Ordered (ledger.pruneTerminalSegments retainTerminal) where
  rising := ordered.rising.sublist ((dropTerminal_sublist _ _).map _)
  below := fun segment among => ordered.below segment ((dropTerminal_sublist _ _).mem among)

theorem startSegment (ordered : Ordered ledger) (item : Option Token) (kind : SegmentKind) :
    Ordered (ledger.startSegment item kind).1 where
  rising := by
    simp only [PlayoutLedger.startSegment, List.map_append, List.map_cons, List.map_nil, List.pairwise_append]
    refine ⟨ordered.rising, List.pairwise_singleton _ _, fun id among last fresh => ?_⟩
    obtain ⟨segment, held, rfl⟩ := List.mem_map.mp among
    rw [List.mem_singleton.mp fresh]
    exact ordered.below segment held
  below := fun segment among => by
    simp only [PlayoutLedger.startSegment, List.mem_append, List.mem_singleton] at among ⊢
    rcases among with held | rfl
    · exact Nat.lt_succ_of_lt (ordered.below segment held)
    · exact Nat.lt_succ_self _

-- An id names one segment.
theorem unique (ordered : Ordered ledger) {left right : PlayoutSegment} (first : left ∈ ledger.segments)
    (second : right ∈ ledger.segments) (same : left.localSegmentId = right.localSegmentId) : left = right :=
  List.inj_on_of_nodup_map (ordered.rising.imp Nat.ne_of_lt) first second same

end Ordered

namespace Between

theorem refl (ledger : PlayoutLedger) : Between ledger ledger where
  nextId := Nat.le_refl _
  ordered := id
  segments := fun segment among => .inl ⟨segment, among, .refl segment⟩

theorem trans {first middle last : PlayoutLedger} (left : Between first middle) (right : Between middle last) :
    Between first last where
  nextId := left.nextId.trans right.nextId
  ordered := fun ordered => right.ordered (left.ordered ordered)
  segments := fun segment among => by
    rcases right.segments segment among with ⟨between, held, later⟩ | ⟨fresh, silent⟩
    · rcases left.segments between held with ⟨old, before, earlier⟩ | ⟨fresh, silent⟩
      · exact .inl ⟨old, before, earlier.trans later⟩
      · exact .inr ⟨later.name ▸ fresh, silent.unheard later⟩
    · exact .inr ⟨left.nextId.trans fresh, silent⟩

theorem map (ledger : PlayoutLedger) {change : PlayoutSegment → PlayoutSegment}
    (same : ∀ segment, Unheard segment (change segment)) :
    Between ledger { ledger with segments := ledger.segments.map change } where
  nextId := Nat.le_refl _
  ordered := fun ordered => ordered.map fun segment => (same segment).name
  segments := fun segment among => by
    obtain ⟨old, before, rfl⟩ := List.mem_map.mp among
    exact .inl ⟨old, before, same old⟩

theorem modify (ledger : PlayoutLedger) (id : SegmentId) {change : PlayoutSegment → PlayoutSegment}
    (same : ∀ segment, Unheard segment (change segment)) : Between ledger (ledger.modify id change) :=
  map ledger fun segment => by
    split_ifs
    · exact same segment
    · exact .refl segment

theorem prune (ledger : PlayoutLedger) (retainTerminal : Nat) :
    Between ledger (ledger.pruneTerminalSegments retainTerminal) where
  nextId := Nat.le_refl _
  ordered := fun ordered => ordered.prune retainTerminal
  segments := fun segment among => .inl ⟨segment, (dropTerminal_sublist _ _).mem among, .refl segment⟩

theorem startSegment (ledger : PlayoutLedger) (item : Option Token) (kind : SegmentKind) :
    Between ledger (ledger.startSegment item kind).1 where
  nextId := Nat.le_succ _
  ordered := fun ordered => ordered.startSegment item kind
  segments := fun segment among => by
    simp only [PlayoutLedger.startSegment, List.mem_append, List.mem_singleton] at among
    rcases among with held | rfl
    · exact .inl ⟨segment, held, .refl segment⟩
    · exact .inr ⟨Nat.le_refl _, rfl, rfl, rfl⟩

end Between

/-- The ids that the bridge and its queue hold are ids of the ledger's. -/
structure Named (bridge : TtsBridge) : Prop where
  ordered : Ordered bridge.core.ledger
  openSegment : ∀ id, bridge.openSegment = some id → id < bridge.core.ledger.nextId
  assistant : ∀ entry ∈ bridge.core.assistant, entry.id < bridge.core.ledger.nextId

/-- The bridge before and after a command or a flush: nothing goes out. -/
structure Receives (before after : TtsBridge) : Prop where
  ledger : Between before.core.ledger after.core.ledger
  framesWritten : after.core.framesWritten = before.core.framesWritten
  periodFrames : after.core.periodFrames = before.core.periodFrames
  named : Named before → Named after

namespace Receives

variable {bridge : TtsBridge}

theorem trans {first middle last : TtsBridge} (left : Receives first middle) (right : Receives middle last) :
    Receives first last where
  ledger := left.ledger.trans right.ledger
  framesWritten := right.framesWritten.trans left.framesWritten
  periodFrames := right.periodFrames.trans left.periodFrames
  named := fun named => right.named (left.named named)

theorem quiet {after : TtsBridge} (quiet : Quiet bridge after) : Receives bridge after where
  ledger := quiet.ledger ▸ .refl _
  framesWritten := quiet.framesWritten
  periodFrames := quiet.periodFrames
  named := fun named => {
    ordered := quiet.ledger ▸ named.ordered
    openSegment := by
      rw [quiet.openSegment, quiet.ledger]
      exact named.openSegment
    assistant := by
      rw [quiet.assistant, quiet.ledger]
      exact named.assistant }

theorem drainFlush (epoch : Nat) : Receives bridge (bridge.drainFlush epoch) where
  ledger := (Between.map _ unheard_flushOpen).trans (.prune _ _)
  framesWritten := rfl
  periodFrames := rfl
  named := fun named => {
    ordered := (named.ordered.map fun segment => (unheard_flushOpen segment).name).prune _
    openSegment := fun id open_ => by cases open_
    assistant := fun entry among => by cases among }

theorem closeOpenSegment : Receives bridge bridge.closeOpenSegment := by
  unfold TtsBridge.closeOpenSegment
  cases bridge.openSegment with
  | none =>
    exact .quiet ⟨rfl, rfl, rfl, rfl, rfl⟩
  | some id =>
    obtain ⟨pending, events, changes, _⟩ := bridge.core.endAssistantSegment_changes id
    have ledger : Between bridge.core.ledger (bridge.core.ledger.modify id (·.finish)) := .modify _ _ unheard_finish
    simp only [changes]
    exact {
      ledger := ledger
      framesWritten := rfl
      periodFrames := rfl
      named := fun named => {
        ordered := ledger.ordered named.ordered
        openSegment := fun id open_ => by cases open_
        assistant := named.assistant } }

theorem startSegment (item : Option Token) (kind : SegmentKind) (decision : AssistantGainDecision) :
    Receives bridge (bridge.startSegment item kind decision) where
  ledger := .startSegment _ _ _
  framesWritten := rfl
  periodFrames := rfl
  named := fun named => {
    ordered := named.ordered.startSegment item kind
    openSegment := fun id open_ => by
      simp only [TtsBridge.startSegment, OutputCore.startAssistantSegmentWithProfile, PlayoutLedger.startSegment,
        Option.some.injEq] at open_ ⊢
      exact open_ ▸ Nat.lt_succ_self _
    assistant := fun entry among => Nat.lt_succ_of_lt (named.assistant entry among) }

theorem openForAudio (decision : AssistantGainDecision) : Receives bridge (bridge.openForAudio decision) := by
  unfold TtsBridge.openForAudio
  split_ifs
  · exact .startSegment _ _ _
  · exact .quiet ⟨rfl, rfl, rfl, rfl, rfl⟩

theorem appendOpen (stamp : Nat) (chunk : Chunk) : Receives bridge (bridge.appendOpen stamp chunk) := by
  unfold TtsBridge.appendOpen
  cases opened : bridge.openSegment with
  | none => exact .quiet ⟨rfl, rfl, rfl, rfl, rfl⟩
  | some id =>
    simp only [OutputCore.appendAssistantAudioWithSegmentGain]
    split
    · exact .quiet ⟨opened.symm, rfl, rfl, rfl, rfl⟩
    next segment found =>
      split_ifs
      · exact .quiet ⟨opened.symm, rfl, rfl, rfl, rfl⟩
      · have ledger : Between bridge.core.ledger
            (bridge.core.ledger.modify id (·.queueFrames (chunk.samples.length / channels))) :=
          .modify _ _ fun segment => ⟨rfl, rfl, rfl, rfl, fun flushed => flushed⟩
        exact {
          ledger := ledger
          framesWritten := rfl
          periodFrames := rfl
          named := fun named => {
            ordered := ledger.ordered named.ordered
            openSegment := fun other same => named.openSegment other (opened.trans same)
            assistant := fun entry among => by
              rcases List.mem_append.mp among with held | added
              · exact named.assistant entry held
              · rw [List.mem_singleton.mp added]
                exact named.openSegment id opened } }

theorem takeCommand (queued : QueuedTtsCommand) (decision : AssistantGainDecision) :
    Receives bridge (bridge.takeCommand queued decision) := by
  rcases bridge.takeCommand_cases queued decision with quiet | ⟨_, closed | ⟨item, kind, started⟩⟩ | ⟨chunk, appended⟩
  · exact .quiet quiet
  · exact closed ▸ .closeOpenSegment
  · exact started ▸ Receives.closeOpenSegment.trans (.startSegment item kind decision)
  · exact appended ▸ (Receives.openForAudio decision).trans (.appendOpen queued.epoch chunk)

end Receives

section Output

variable {tape : List (Option SegmentId)}

structure OnTape (tape : List (Option SegmentId)) (segment : PlayoutSegment) : Prop where
  written : segment.writtenFrames = tape.count (some segment.localSegmentId)
  start : segment.outputStartFrame = tape.idxOf? (some segment.localSegmentId)

theorem OnTape.markWrittenFramesAt {segment : PlayoutSegment} (onTape : OnTape tape segment) (write : SegmentWrite) :
    OnTape (tape ++ List.replicate write.frames (some write.id))
      (if segment.localSegmentId = write.id then segment.markWrittenFramesAt write.frames tape.length else segment) := by
  split_ifs with own
  · have further : (write.frames = 0 ∧ segment.markWrittenFramesAt write.frames tape.length = segment) ∨
        ∃ more, write.frames = more + 1 := by
      cases frames : write.frames with
      | zero => exact .inl ⟨rfl, rfl⟩
      | succ more => exact .inr ⟨more, rfl⟩
    rcases further with ⟨none_, same⟩ | ⟨more, frames⟩
    · rw [same, none_, List.replicate_zero, List.append_nil]
      exact onTape
    · simp only [PlayoutSegment.markWrittenFramesAt, frames, Nat.add_eq_zero_iff, one_ne_zero, and_false, if_false]
      constructor
      · simp [onTape.written, own]
      · simp only [onTape.start, own]
        rw [idxOf?_append, List.replicate_succ, List.idxOf?_cons]
        cases tape.idxOf? (some write.id) <;> simp
  · have apart : some segment.localSegmentId ∉ List.replicate write.frames (some write.id) := fun among =>
      own (Option.some.inj (List.eq_of_mem_replicate among))
    constructor
    · rw [List.count_append, List.count_eq_zero.mpr apart, onTape.written, Nat.add_zero]
    · rw [idxOf?_append, List.idxOf?_eq_none_iff.mpr apart, onTape.start, Option.map_none, Option.or_none]

theorem OnTape.idle {segment : PlayoutSegment} (onTape : OnTape tape segment) (idle : Nat) :
    OnTape (tape ++ List.replicate idle none) segment where
  written := by simp [onTape.written, List.count_replicate]
  start := by
    have absent : some segment.localSegmentId ∉ List.replicate idle none := by simp [List.mem_replicate]
    rw [idxOf?_append, List.idxOf?_eq_none_iff.mpr absent, onTape.start, Option.map_none, Option.or_none]

theorem onTape_markWrites (writes : List SegmentWrite) {ledger : PlayoutLedger}
    (onTape : ∀ segment ∈ ledger.segments, OnTape tape segment) :
    ∀ segment ∈ (OutputCore.markWrites ledger writes tape.length).segments,
      OnTape (tape ++ (writes.flatMap fun write => List.replicate write.frames write.id).map some) segment := by
  induction writes generalizing tape ledger with
  | nil => simpa [OutputCore.markWrites] using onTape
  | cons write rest ih =>
    have marked : ∀ segment ∈ (ledger.modify write.id (·.markWrittenFramesAt write.frames tape.length)).segments,
        OnTape (tape ++ List.replicate write.frames (some write.id)) segment := fun segment among => by
      obtain ⟨old, before, rfl⟩ := List.mem_map.mp among
      exact (onTape old before).markWrittenFramesAt write
    have later := ih marked
    rw [List.length_append, List.length_replicate] at later
    simpa [OutputCore.markWrites, List.append_assoc] using later

/-- The segment as the output knows it. The estimate is exact as long as no commit straddles a gap of the segment. -/
structure Heard (tape : List (Option SegmentId)) (cuts : List Cut) (segment : PlayoutSegment) : Prop where
  onTape : OnTape tape segment
  bounded : segment.estimatedDrainedFrames ≤ segment.writtenFrames
  exact_ : segment.status ≠ .flushed → (∀ cut ∈ cuts, ¬ Straddles tape (some segment.localSegmentId) cut) →
    segment.estimatedDrainedFrames = heard tape (some segment.localSegmentId) (reach cuts)

variable {cuts : List Cut}

theorem Heard.unheard {before after : PlayoutSegment} (heard_ : Heard tape cuts before)
    (same : Unheard before after) : Heard tape cuts after where
  onTape := {
    written := by rw [same.written, same.name, heard_.onTape.written]
    start := by rw [same.start, same.name, heard_.onTape.start] }
  bounded := by
    rw [same.estimated, same.written]
    exact heard_.bounded
  exact_ := fun live clear => by
    rw [same.name] at clear ⊢
    rw [same.estimated]
    exact heard_.exact_ (fun flushed => live (same.flushed flushed)) clear

theorem Heard.silent {segment : PlayoutSegment} (silent : Silent segment)
    (absent : some segment.localSegmentId ∉ tape) : Heard tape cuts segment where
  onTape := {
    written := by rw [silent.written, List.count_eq_zero.mpr absent]
    start := by rw [silent.start, List.idxOf?_eq_none_iff.mpr absent] }
  bounded := by rw [silent.estimated, silent.written]
  exact_ := fun _ _ => by
    have none_ : heard tape (some segment.localSegmentId) (reach cuts) ≤ tape.count (some segment.localSegmentId) :=
      heard_le_count _ _ _
    rw [List.count_eq_zero.mpr absent] at none_
    rw [silent.estimated]
    omega

/-- The commit that ends the tape takes the estimate along. -/
theorem Heard.markDrainedThrough {segment : PlayoutSegment} (onTape : OnTape tape segment)
    (bounded : segment.estimatedDrainedFrames ≤ segment.writtenFrames)
    (exact_ : segment.status ≠ .flushed → (∀ cut ∈ cuts, ¬ Straddles tape (some segment.localSegmentId) cut) →
      segment.estimatedDrainedFrames = heard tape (some segment.localSegmentId) (reach cuts)) {cut : Cut}
    (all : cut.accepted = tape.length) : Heard tape (cut :: cuts) (segment.markDrainedThrough cut.through) := by
  unfold PlayoutSegment.markDrainedThrough
  split
  next flushed =>
    exact ⟨onTape, bounded, fun live => absurd flushed live⟩
  next unstarted live =>
    refine ⟨onTape, bounded, fun live clear => ?_⟩
    have absent : some segment.localSegmentId ∉ tape :=
      List.idxOf?_eq_none_iff.mp (onTape.start.symm.trans unstarted)
    have none_ : tape.count (some segment.localSegmentId) = 0 := List.count_eq_zero.mpr absent
    have nothing := heard_le_count tape (some segment.localSegmentId) (reach (cut :: cuts))
    have written := onTape.written
    omega
  next start started live =>
    have first : tape.idxOf? (some segment.localSegmentId) = some start := onTape.start.symm.trans started
    have grown : Heard tape (cut :: cuts) { segment with
        estimatedDrainedFrames :=
          max segment.estimatedDrainedFrames (min (cut.through - start) segment.writtenFrames) } := {
      onTape := ⟨onTape.written, onTape.start⟩
      bounded := Nat.max_le.mpr ⟨bounded, Nat.min_le_right _ _⟩
      exact_ := fun live clear => by
        have before := exact_ live fun earlier among => clear earlier (.tail _ among)
        have now := min_eq_heard first all (clear cut (.head _))
        simp only [onTape.written, now, before]
        rw [← heard_max, Nat.max_comm]
        rfl }
    exact grown.unheard (unheard_maybeMarkDrained _)

end Output

-- The estimate of a segment never goes back, and a flushed one is left as it stood.
structure Follows (before after : PlayoutSegment) : Prop where
  name : after.localSegmentId = before.localSegmentId
  grows : before.estimatedDrainedFrames ≤ after.estimatedDrainedFrames
  frozen : before.status = .flushed → after.estimatedDrainedFrames = before.estimatedDrainedFrames

theorem Unheard.follows {before after : PlayoutSegment} (same : Unheard before after) : Follows before after :=
  ⟨same.name, Nat.le_of_eq same.estimated.symm, fun _ => same.estimated⟩

theorem relabelled_markDrainedThrough (segment : PlayoutSegment) (outputFrame : Nat) :
    Relabelled segment (segment.markDrainedThrough outputFrame) := by
  unfold PlayoutSegment.markDrainedThrough
  split
  · exact ⟨rfl, rfl, rfl, rfl, Iff.rfl⟩
  · exact ⟨rfl, rfl, rfl, rfl, Iff.rfl⟩
  next start _ _ =>
    have same := relabelled_maybeMarkDrained { segment with
      estimatedDrainedFrames :=
        max segment.estimatedDrainedFrames (min (outputFrame - start) segment.writtenFrames) }
    exact ⟨same.id, same.kind, same.queued, same.ended, same.flushed⟩

theorem follows_markDrainedThrough (segment : PlayoutSegment) (outputFrame : Nat) :
    Follows segment (segment.markDrainedThrough outputFrame) := by
  unfold PlayoutSegment.markDrainedThrough
  split
  · exact (Unheard.refl segment).follows
  · exact (Unheard.refl segment).follows
  next start _ live =>
    have same := (unheard_maybeMarkDrained { segment with
      estimatedDrainedFrames :=
        max segment.estimatedDrainedFrames (min (outputFrame - start) segment.writtenFrames) }).follows
    exact ⟨same.name, (Nat.le_max_left _ _).trans same.grows, fun flushed => absurd flushed live⟩

/-- A period that waits for its commit. -/
structure Played (core : OutputCore) (period : PreparedPeriod) : Prop where
  length : period.rendered.length = core.periodFrames
  told : ∃ idle, period.rendered =
    (period.writes.flatMap fun write => List.replicate write.frames write.id).map some ++ List.replicate idle none
  names : ∀ id, some id ∈ period.rendered → id < core.ledger.nextId

structure Truthful (loop : OutputLoop) : Prop where
  named : Named loop.bridge
  length : loop.tape.length = loop.bridge.core.framesWritten
  names : ∀ id, some id ∈ loop.tape → id < loop.ledger.nextId
  prepared : ∀ period, loop.prepared = some period → Played loop.bridge.core period
  cuts : ∀ cut ∈ loop.cuts, cut.accepted ≤ loop.tape.length ∧ cut.through ≤ loop.tape.length
  heard : ∀ segment ∈ loop.ledger.segments, Heard loop.tape loop.cuts segment

namespace PeriodRead

variable {context : Option VolumeContext}

theorem readFrame_ids (read : PeriodRead) :
    ∀ entry ∈ (read.readFrame context).segments, ∃ old ∈ read.segments, old.id = entry.id := by
  intro entry among
  have kept : ∀ old ∈ read.segments.dropWhile (·.finished), old ∈ read.segments := fun old left =>
    (List.dropWhile_suffix _).mem left
  rcases readFrame_cases context read with ⟨_, none_, _⟩ | ⟨front, rest, left, _, ⟨_, segments, _⟩ | ⟨_, segments, _⟩⟩
  · rw [none_] at among
    cases among
  · rw [segments] at among
    exact ⟨entry, kept entry (left ▸ .tail _ among), rfl⟩
  · rw [segments] at among
    rcases List.mem_cons.mp among with rfl | later
    · refine ⟨front, kept front (left ▸ .head _), ?_⟩
      unfold AssistantSegment.render
      split_ifs <;> rfl
    · exact ⟨entry, kept entry (left ▸ .tail _ later), rfl⟩

theorem readFrames_ids (frames : Nat) (read : PeriodRead) :
    ∀ entry ∈ (readFrames context frames read).segments, ∃ old ∈ read.segments, old.id = entry.id := by
  induction frames generalizing read with
  | zero => exact fun entry among => ⟨entry, among, rfl⟩
  | succ frames ih =>
    intro entry among
    obtain ⟨middle, held, later⟩ := ih (read.readFrame context) entry among
    obtain ⟨old, before, earlier⟩ := read.readFrame_ids middle held
    exact ⟨old, before, earlier.trans later⟩

theorem soundings_ids (frames : Nat) (read : PeriodRead) {id : SegmentId}
    (among : some id ∈ soundings context frames read) : ∃ entry ∈ read.segments, entry.id = id := by
  induction frames generalizing read with
  | zero => cases among
  | succ frames ih =>
    rcases List.mem_cons.mp among with here | later
    · obtain ⟨front, head, own⟩ := Option.map_eq_some_iff.mp here.symm
      exact ⟨front, (List.dropWhile_suffix _).mem (List.mem_of_mem_head? head), own⟩
    · obtain ⟨middle, held, own⟩ := ih (read.readFrame context) later
      obtain ⟨old, before, same⟩ := read.readFrame_ids middle held
      exact ⟨old, before, same.trans own⟩

end PeriodRead

namespace Truthful

variable {loop : OutputLoop}

theorem start {loop : OutputLoop} (starts : loop.Starts) : Truthful loop := by
  obtain ⟨periodFrames, maxPendingFrames, rfl⟩ := starts
  exact {
    named := {
      ordered := ⟨List.Pairwise.nil, fun segment among => by cases among⟩
      openSegment := fun id open_ => by cases open_
      assistant := fun entry among => by cases among }
    length := rfl
    names := fun id among => by cases among
    prepared := fun period waiting => by cases waiting
    cuts := fun cut among => by cases among
    heard := fun segment among => by cases among }

theorem receives (truthful : Truthful loop) {bridge : TtsBridge} (receives : Receives loop.bridge bridge) :
    Truthful { loop with bridge := bridge } where
  named := receives.named truthful.named
  length := truthful.length.trans receives.framesWritten.symm
  names := fun id among => Nat.lt_of_lt_of_le (truthful.names id among) receives.ledger.nextId
  prepared := fun period waiting =>
    have played := truthful.prepared period waiting
    { length := played.length.trans receives.periodFrames.symm
      told := played.told
      names := fun id among => Nat.lt_of_lt_of_le (played.names id among) receives.ledger.nextId }
  cuts := truthful.cuts
  heard := fun segment among => by
    rcases receives.ledger.segments segment among with ⟨old, before, same⟩ | ⟨fresh, silent⟩
    · exact (truthful.heard old before).unheard same
    · refine .silent silent fun played => ?_
      exact Nat.lt_irrefl _ (Nat.lt_of_lt_of_le (truthful.names _ played) fresh)

theorem prepare (truthful : Truthful loop) : Truthful loop.prepare := by
  obtain ⟨pending, events, changes, _⟩ := OutputCore.processDrainedPlaybacks_changes
    { loop.bridge.core with
      assistant := loop.bridge.core.prepareRead.segments
      history := loop.bridge.core.prepareRead.history }
    loop.bridge.core.prepareRead.drained
  have core : loop.bridge.core.preparePeriod.1 = _ := changes
  simp only [OutputLoop.prepare, core]
  have entries : ∀ entry ∈ loop.bridge.core.prepareRead.segments, entry.id < loop.ledger.nextId := fun entry among => by
    obtain ⟨old, before, own⟩ := PeriodRead.readFrames_ids _ _ entry among
    exact own ▸ truthful.named.assistant old before
  exact {
    named := ⟨truthful.named.ordered, truthful.named.openSegment, entries⟩
    length := truthful.length
    names := truthful.names
    prepared := fun period waiting => by
      obtain rfl := Option.some.inj waiting
      exact {
        length := loop.bridge.core.rendered_eq.1
        told := loop.bridge.core.rendered_eq.2
        names := fun id among => by
          obtain ⟨entry, held, own⟩ := PeriodRead.soundings_ids _ _ among
          exact own ▸ truthful.named.assistant entry held }
    cuts := truthful.cuts
    heard := truthful.heard }

theorem commit (truthful : Truthful loop) {period : PreparedPeriod} (waiting : loop.prepared = some period)
    (dacDelayFrames : Nat) : Truthful (loop.commit period dacDelayFrames) := by
  have played := truthful.prepared period waiting
  obtain ⟨nextId, change, written, wrote⟩ := markWrites_map period.writes loop.ledger loop.bridge.core.framesWritten
  have ordered : Ordered (OutputCore.markWrites loop.ledger period.writes loop.bridge.core.framesWritten) := by
    have mapped := truthful.named.ordered.map fun segment => (wrote segment).id
    exact ⟨written ▸ mapped.rising, by rw [written, nextId]; exact mapped.below⟩
  have drained : Ordered ((OutputCore.markWrites loop.ledger period.writes
      loop.bridge.core.framesWritten).markDrainedThrough
        (loop.bridge.core.framesWritten + loop.bridge.core.periodFrames - dacDelayFrames)) :=
    ordered.map fun segment => (follows_markDrainedThrough segment _).name
  obtain ⟨idle, told⟩ := played.told
  have length : (loop.tape ++ period.rendered).length =
      loop.bridge.core.framesWritten + loop.bridge.core.periodFrames := by
    rw [List.length_append, truthful.length, played.length]
  have onTape : ∀ segment ∈ (OutputCore.markWrites loop.ledger period.writes loop.bridge.core.framesWritten).segments,
      OnTape (loop.tape ++ period.rendered) segment := fun segment among => by
    rw [← truthful.length] at among
    rw [told, ← List.append_assoc]
    exact (onTape_markWrites period.writes (fun old before => (truthful.heard old before).onTape) segment among).idle idle
  exact {
    named := ⟨drained.prune _, nextId ▸ truthful.named.openSegment, nextId ▸ truthful.named.assistant⟩
    length := length
    names := fun id among => by
      have named : id < loop.ledger.nextId := by
        rcases List.mem_append.mp among with before | now
        · exact truthful.names id before
        · exact played.names id now
      exact Nat.lt_of_lt_of_eq named nextId.symm
    prepared := fun period waiting => by cases waiting
    cuts := fun cut among => by
      rcases List.mem_cons.mp among with rfl | before
      · exact ⟨Nat.le_of_eq length.symm, length ▸ Nat.sub_le _ _⟩
      · obtain ⟨accepted, through⟩ := truthful.cuts cut before
        simp only [OutputLoop.commit, List.length_append]
        exact ⟨Nat.le_add_right_of_le accepted, Nat.le_add_right_of_le through⟩
    heard := fun segment among => by
      obtain ⟨marked, held, rfl⟩ := List.mem_map.mp ((dropTerminal_sublist _ _).mem among)
      have played := onTape marked held
      obtain ⟨old, before, rfl⟩ := List.mem_map.mp (written ▸ held)
      have heard_ := truthful.heard old before
      refine .markDrainedThrough played ?_ (fun live clear => ?_) length.symm
      · rw [(wrote old).estimated, (wrote old).written]
        exact Nat.le_add_right_of_le heard_.bounded
      · rw [(wrote old).id] at clear ⊢
        rw [(wrote old).estimated, heard_append (reach_le fun cut among => (truthful.cuts cut among).2)]
        refine heard_.exact_ (fun flushed => live ((wrote old).flushed.mpr flushed)) fun cut among straddles => ?_
        exact clear cut among ((straddles_append (truthful.cuts cut among).1 _ _).mpr straddles) }

theorem step (truthful : Truthful loop) {action : LoopAction} {next : OutputLoop}
    (move : loop.step action = some next) : Truthful next := by
  cases action with
  | flush epoch =>
    obtain rfl := Option.some.inj move
    exact truthful.receives (.drainFlush epoch)
  | command queued decision =>
    obtain rfl := Option.some.inj move
    exact truthful.receives (.takeCommand queued decision)
  | prepare =>
    obtain ⟨_, prepared⟩ := Option.ite_none_left_eq_some.mp move
    obtain rfl := Option.some.inj prepared
    exact truthful.prepare
  | commit dacDelayFrames =>
    obtain ⟨period, waiting, rfl⟩ := Option.map_eq_some_iff.mp move
    exact truthful.commit waiting dacDelayFrames

end Truthful

theorem follows_step {loop next : OutputLoop} {action : LoopAction} (move : loop.step action = some next) :
    ∀ after ∈ next.ledger.segments, (∃ before ∈ loop.ledger.segments, Follows before after) ∨
      loop.ledger.nextId ≤ after.localSegmentId := by
  have received {bridge : TtsBridge} (receives : Receives loop.bridge bridge) :
      ∀ after ∈ bridge.core.ledger.segments, (∃ before ∈ loop.ledger.segments, Follows before after) ∨
        loop.ledger.nextId ≤ after.localSegmentId := fun after among => by
    rcases receives.ledger.segments after among with ⟨before, held, same⟩ | ⟨fresh, _⟩
    · exact .inl ⟨before, held, same.follows⟩
    · exact .inr fresh
  cases action with
  | flush epoch =>
    obtain rfl := Option.some.inj move
    exact received (.drainFlush epoch)
  | command queued decision =>
    obtain rfl := Option.some.inj move
    exact received (.takeCommand queued decision)
  | prepare =>
    obtain ⟨_, prepared⟩ := Option.ite_none_left_eq_some.mp move
    obtain rfl := Option.some.inj prepared
    obtain ⟨pending, events, changes, _⟩ := OutputCore.processDrainedPlaybacks_changes
      { loop.bridge.core with
        assistant := loop.bridge.core.prepareRead.segments
        history := loop.bridge.core.prepareRead.history }
      loop.bridge.core.prepareRead.drained
    have core : loop.bridge.core.preparePeriod.1 = _ := changes
    simp only [OutputLoop.prepare, OutputLoop.ledger, core]
    exact fun after among => .inl ⟨after, among, (Unheard.refl after).follows⟩
  | commit dacDelayFrames =>
    obtain ⟨period, waiting, rfl⟩ := Option.map_eq_some_iff.mp move
    obtain ⟨nextId, change, written, wrote⟩ :=
      markWrites_map period.writes loop.ledger loop.bridge.core.framesWritten
    intro after among
    obtain ⟨marked, held, rfl⟩ := List.mem_map.mp ((dropTerminal_sublist _ _).mem among)
    obtain ⟨before, old, rfl⟩ := List.mem_map.mp (written ▸ held)
    have later := follows_markDrainedThrough (change before)
      (loop.bridge.core.framesWritten + loop.bridge.core.periodFrames - dacDelayFrames)
    have earlier := wrote before
    exact .inl ⟨before, old, later.name.trans earlier.id, earlier.estimated ▸ later.grows, fun flushed =>
      (later.frozen (earlier.flushed.mpr flushed)).trans earlier.estimated⟩

/-- What the ledger estimates of a segment, in every state of every run: frames of the segment that have gone out, never
fewer than before, none more after a flush, and until then exactly those below the furthest point that the DAC has
reached, as long as no commit found that point behind a gap in the segment. -/
theorem drain_estimate_is_truthful {loop : OutputLoop} (reached : Reachable OutputLoop.system loop) :
    (∀ segment ∈ loop.ledger.segments,
      segment.writtenFrames = loop.tape.count (some segment.localSegmentId) ∧
      segment.estimatedDrainedFrames ≤ segment.writtenFrames ∧
      (segment.status ≠ .flushed → (∀ cut ∈ loop.cuts, ¬ Straddles loop.tape (some segment.localSegmentId) cut) →
        segment.estimatedDrainedFrames = heard loop.tape (some segment.localSegmentId) (reach loop.cuts))) ∧
    ∀ action next, loop.step action = some next → ∀ before ∈ loop.ledger.segments, ∀ after ∈ next.ledger.segments,
      after.localSegmentId = before.localSegmentId →
        before.estimatedDrainedFrames ≤ after.estimatedDrainedFrames ∧
        (before.status = .flushed → after.estimatedDrainedFrames = before.estimatedDrainedFrames) := by
  have truthful : Truthful loop := reached.invariant (fun _ => Truthful.start) fun _ _ _ before move => before.step move
  constructor
  · intro segment among
    have heard_ := truthful.heard segment among
    exact ⟨heard_.onTape.written, heard_.bounded, heard_.exact_⟩
  · intro action next move before among after later same
    rcases follows_step move after later with ⟨old, held, follows⟩ | fresh
    · have named : old = before := truthful.named.ordered.unique held among (follows.name.symm.trans same)
      exact named ▸ ⟨follows.grows, follows.frozen⟩
    · exact absurd (same ▸ fresh) (Nat.not_le.mpr (truthful.named.ordered.below before among))
section Runs

def told (command : TtsCommand) : LoopAction := .command ⟨0, command⟩ ⟨⟨0⟩⟩

def starved : List LoopAction :=
  [told (.segmentStart .assistant none none), told (.audioWide (.silent 1)), .prepare, .commit 0,
    told (.audioWide (.silent 1)), .prepare, .commit 0]

/-- A frame, a starved place and a frame again, without a delay. -/
theorem starved_segment_is_counted :
    ∃ loop, Reachable OutputLoop.system loop ∧ loop.tape = [some 1, none, some 1, none] ∧
      ∃ segment ∈ loop.ledger.segments, segment.estimatedDrainedFrames = heard loop.tape (some 1) 4 := by
  obtain ⟨loop, reached, seen⟩ := @reachable_observed _ _ OutputLoop.Starts OutputLoop.step (.new 2 4) starved _
    (fun loop => (loop.tape, loop.cuts, loop.ledger.segments.map fun segment => (segment.localSegmentId, segment.status)))
    ([some 1, none, some 1, none], [⟨4, 4⟩, ⟨2, 2⟩], [(1, .playing)]) ⟨2, 4, rfl⟩ (by decide)
  simp only [Prod.mk.injEq] at seen
  obtain ⟨tape, cuts, segments⟩ := seen
  obtain ⟨segment, only, same⟩ := List.map_eq_singleton_iff.mp segments
  have held : segment ∈ loop.ledger.segments := only ▸ .head _
  simp only [Prod.mk.injEq] at same
  refine ⟨loop, reached, tape, segment, held, ?_⟩
  have counted := ((drain_estimate_is_truthful reached).1 segment held).2.2 (by simp [same.2]) (by
    rintro cut among ⟨_, _, last, _, _, ahead, taken, _⟩
    simp only [cuts, List.mem_cons, List.not_mem_nil, or_false] at among
    rcases among with rfl | rfl <;> exact absurd taken (Nat.not_lt.mpr ahead))
  rw [counted, same.1, cuts]
  rfl

/-- A flush freezes the estimate while a frame is still on its way through the DAC. -/
theorem flushed_estimate_stays_behind :
    ∃ loop, Reachable OutputLoop.system loop ∧ ∃ segment ∈ loop.ledger.segments,
      segment.estimatedDrainedFrames ≠ heard loop.tape (some segment.localSegmentId) (reach loop.cuts) := by
  obtain ⟨loop, reached, seen⟩ := @reachable_observed _ _ OutputLoop.Starts OutputLoop.step (.new 2 4)
    [told (.segmentStart .assistant none none), told (.audioWide ⟨[0, 0, 0, 0], rfl⟩), .prepare, .commit 1, .flush 1,
      .prepare, .commit 0] _
    (fun loop => loop.ledger.segments.map fun segment =>
      (segment.estimatedDrainedFrames, heard loop.tape (some segment.localSegmentId) (reach loop.cuts)))
    [(1, 2)] ⟨2, 4, rfl⟩ (by decide)
  obtain ⟨segment, only, same⟩ := List.map_eq_singleton_iff.mp seen
  obtain ⟨estimated, sounded⟩ := Prod.mk.inj same
  refine ⟨loop, reached, segment, only ▸ .head _, ?_⟩
  rw [estimated, sounded]
  decide

end Runs

end Jts.Tts.Outputd
