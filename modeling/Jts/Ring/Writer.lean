import Jts.Ring.Memory

set_option autoImplicit false

namespace Jts.Ring

open Jts.Shared.Word

def maxFullWaitTicks : Nat := 32
def stuckReaderGraceNs : UInt64 := 1000000000

inductive PublishOutcome
  | published
  | droppedNoReader
  | droppedStuck
  | droppedStuckDemoted
  deriving DecidableEq, Repr

structure WriterMetrics where
  publishedSlots : UInt64 := 0
  dropNoReader : UInt64 := 0
  stuckReaderDrops : UInt64 := 0
  fullWaits : UInt64 := 0
  occupancy : UInt64 := 0
  nSlots : UInt32 := 0
  slotFrames : UInt32 := 0
  deriving DecidableEq, Repr

structure RingWriter where
  geometry : Geometry
  writeSeq : UInt64
  lastReadSeq : UInt64
  lastReadSeqAdvanceNs : UInt64
  metrics : WriterMetrics
  deriving DecidableEq, Repr

def attachWriter (header : Header) (pid nowNs : UInt64) : Header :=
  ((header.storeWriterEpoch (header.writerEpoch + 1)).storeWriterPid pid).storeWriterHeartbeatNs nowNs

-- A drop or a close takes back the published pid only where it still is the closer's own.
def dropWriter (header : Header) (pid : UInt64) : Header :=
  if header.writerPid = pid then header.storeWriterPid 0 else header

-- The clock is read once for the stamp and once for the seeded stall clock.
def createOrAttachWriter (g : Geometry) (header : Header) (pid : UInt64) (clock : Nat → UInt64) :
    RingWriter × Header :=
  ({ geometry := g, writeSeq := header.writeSeq, lastReadSeq := header.readSeq,
     lastReadSeqAdvanceNs := clock 1, metrics := { nSlots := g.nSlots, slotFrames := g.periodFrames } },
    attachWriter header pid (clock 0))

namespace RingWriter

def noteReaderProgress (writer : RingWriter) (observedReadSeq nowNs : UInt64) : RingWriter :=
  if writer.lastReadSeq < observedReadSeq then
    { writer with lastReadSeq := observedReadSeq, lastReadSeqAdvanceNs := nowNs }
  else writer

def accountDrop (writer : RingWriter) (advanced : UInt64) : RingWriter :=
  if writer.lastReadSeq < advanced then { writer with lastReadSeq := advanced } else writer

def freeRunDropOldest (writer : RingWriter) (header : Header) (r : UInt64) : RingWriter × Header :=
  (writer.accountDrop (r + 1), header.storeReadSeq (r + 1))

def countFullWait (writer : RingWriter) : RingWriter :=
  { writer with metrics.fullWaits := saturatingAdd writer.metrics.fullWaits 1 }

def countStuckDrop (writer : RingWriter) : RingWriter :=
  { writer with metrics.stuckReaderDrops := saturatingAdd writer.metrics.stuckReaderDrops 1 }

def isStuck (writer : RingWriter) (nowNs : UInt64) : Bool :=
  stuckReaderGraceNs < saturatingSub nowNs writer.lastReadSeqAdvanceNs

end RingWriter

-- One pass over a possibly full ring: it finds or makes room, or the caller has to wait.
inductive SpacePass (Writer : Type)
  | room (writer : Writer) (header : Header) (droppedOldest demoted : Bool)
  | full (writer : Writer)

def RingWriter.spacePass (writer : RingWriter) (header : Header) (nowCheck : UInt64) (waited : Nat) :
    SpacePass RingWriter :=
  let r := header.readSeq
  let noted := writer.noteReaderProgress r nowCheck
  let dropped := noted.freeRunDropOldest header r
  if noted.writeSeq - r < noted.geometry.nSlots.toUInt64 then .room noted header false false
  else if !readerIsLive header nowCheck then .room dropped.1 dropped.2 true false
  else if noted.isStuck nowCheck then .room dropped.1 dropped.2 true true
  else .full (if waited = 0 then noted.countFullWait else noted)

inductive SpaceResult (Writer : Type)
  | room (writer : Writer) (header : Header) (droppedOldest demoted : Bool)
  | gaveUp (writer : Writer) (header : Header)

-- left counts the naps that remain. A pass reads the clock once to check and once for the heartbeat it refreshes.
def awaitSpace {Writer : Type} (spacePass : Writer → Header → UInt64 → Nat → SpacePass Writer)
    (clock : Nat → UInt64) (writer : Writer) (header : Header) : Nat → SpaceResult Writer
  | 0 =>
    match spacePass writer header (clock (2 * maxFullWaitTicks + 1)) maxFullWaitTicks with
    | .room writer header droppedOldest demoted => .room writer header droppedOldest demoted
    | .full writer => .gaveUp writer header
  | left + 1 =>
    let waited := maxFullWaitTicks - (left + 1)
    match spacePass writer header (clock (2 * waited + 1)) waited with
    | .room writer header droppedOldest demoted => .room writer header droppedOldest demoted
    | .full writer =>
      awaitSpace spacePass clock writer (header.storeWriterHeartbeatNs (clock (2 * waited + 2))) left

variable {bytes : Nat}

def RingWriter.countPublish (writer : RingWriter) (droppedOldest demoted : Bool) : RingWriter × PublishOutcome :=
  if demoted then (writer.countStuckDrop, .droppedStuckDemoted)
  else if droppedOldest then
    ({ writer with metrics.dropNoReader := saturatingAdd writer.metrics.dropNoReader 1 }, .droppedNoReader)
  else ({ writer with metrics.publishedSlots := saturatingAdd writer.metrics.publishedSlots 1 }, .published)

-- The copy into slot write_seq % n_slots, then the Release store that publishes it.
def publishSlot (g : Geometry) (memory : Memory bytes) (header : Header) (writeSeq : UInt64)
    (payload : Payload bytes) : Memory bytes :=
  let written := writeSlotBytes g { memory with header := header } writeSeq payload
  { written with header := written.header.storeWriteSeq (writeSeq + 1) }

def RingWriter.finishPublish (memory : Memory bytes) (payload : Payload bytes) :
    SpaceResult RingWriter → RingWriter × Memory bytes × PublishOutcome
  | .gaveUp writer header =>
    let dropped := writer.countStuckDrop
    ({ dropped with metrics.occupancy := writer.writeSeq - header.readSeq }, { memory with header := header },
      .droppedStuck)
  | .room writer header droppedOldest demoted =>
    let next := writer.writeSeq + 1
    let advanced := { writer with writeSeq := next, metrics.occupancy := next - header.readSeq }
    let counted := advanced.countPublish droppedOldest demoted
    (counted.1, publishSlot writer.geometry memory header writer.writeSeq payload, counted.2)

def publishBytes (writer : RingWriter) (memory : Memory bytes) (clock : Nat → UInt64) (payload : Payload bytes) :
    RingWriter × Memory bytes × PublishOutcome :=
  RingWriter.finishPublish memory payload
    (awaitSpace RingWriter.spacePass clock writer (memory.header.storeWriterHeartbeatNs (clock 0)) maxFullWaitTicks)

inductive JtsRingPublishResult
  | ok
  | dropped
  deriving DecidableEq, Repr

structure JtsRingWriter where
  geometry : Geometry
  writeSeq : UInt64
  publishedSlots : UInt64
  dropNoReader : UInt64
  fullWaits : UInt64
  deriving DecidableEq, Repr

-- The stamping half of jts_ring_writer_open; the guards in front of it refuse before any store.
def jtsRingWriterAttach (g : Geometry) (header : Header) (pid nowNs : UInt64) : JtsRingWriter × Header :=
  ({ geometry := g, writeSeq := header.writeSeq, publishedSlots := 0, dropNoReader := 0, fullWaits := 0 },
    attachWriter header pid nowNs)

namespace JtsRingWriter

-- The C writer has no stall clock: a live reader is waited for, however long it stands still.
def spacePass (writer : JtsRingWriter) (header : Header) (nowNs : UInt64) (waited : Nat) :
    SpacePass JtsRingWriter :=
  let rseq := header.readSeq
  if writer.writeSeq - rseq < writer.geometry.nSlots.toUInt64 then .room writer header false false
  else if !readerIsLive header nowNs then
    .room { writer with dropNoReader := writer.dropNoReader + 1 } (header.storeReadSeq (rseq + 1)) true false
  else .full (if waited = 0 then { writer with fullWaits := writer.fullWaits + 1 } else writer)

end JtsRingWriter

def JtsRingWriter.finishPublish (memory : Memory bytes) (payload : Payload bytes) :
    SpaceResult JtsRingWriter → JtsRingWriter × Memory bytes × JtsRingPublishResult
  | .gaveUp writer header =>
    ({ writer with dropNoReader := writer.dropNoReader + 1 }, { memory with header := header }, .dropped)
  | .room writer header droppedOldest _ =>
    let next := writer.writeSeq + 1
    let published := publishSlot writer.geometry memory header writer.writeSeq payload
    if droppedOldest then ({ writer with writeSeq := next }, published, .dropped)
    else ({ writer with writeSeq := next, publishedSlots := writer.publishedSlots + 1 }, published, .ok)

def jtsRingWriterPublish (writer : JtsRingWriter) (memory : Memory bytes) (clock : Nat → UInt64)
    (payload : Payload bytes) : JtsRingWriter × Memory bytes × JtsRingPublishResult :=
  JtsRingWriter.finishPublish memory payload
    (awaitSpace JtsRingWriter.spacePass clock writer (memory.header.storeWriterHeartbeatNs (clock 0))
      maxFullWaitTicks)

-- What one publish does to the mapping, on either side: the wait moves nothing but the heartbeat.
inductive PublishBranch
  | gaveUp
  | space
  | dropOldest
  deriving DecidableEq, Repr

def PublishBranch.apply (branch : PublishBranch) (g : Geometry) (heartbeatNs writeSeq : UInt64)
    (payload : Payload bytes) (memory : Memory bytes) : Memory bytes :=
  let header := memory.header.storeWriterHeartbeatNs heartbeatNs
  match branch with
  | .gaveUp => { memory with header := header }
  | .space => publishSlot g memory header writeSeq payload
  | .dropOldest => publishSlot g memory (header.storeReadSeq (header.readSeq + 1)) writeSeq payload

def PublishBranch.nextSeq (branch : PublishBranch) (writeSeq : UInt64) : UInt64 :=
  match branch with
  | .gaveUp => writeSeq
  | .space | .dropOldest => writeSeq + 1

section Sound

variable {Writer : Type} (view : Writer → Geometry × UInt64)

def HasSpace (at_ : Geometry × UInt64) (header : Header) : Prop :=
  at_.2 - header.readSeq < at_.1.nSlots.toUInt64

def SpacePass.Sound (writer : Writer) (header : Header) : SpacePass Writer → Prop
  | .room next after droppedOldest _ =>
    view next = view writer ∧ (droppedOldest = false ↔ HasSpace (view writer) header) ∧
      after = if droppedOldest then header.storeReadSeq (header.readSeq + 1) else header
  | .full next => view next = view writer ∧ ¬HasSpace (view writer) header

def SpaceResult.Sound (writer : Writer) (header : Header) : SpaceResult Writer → Prop
  | .room next after droppedOldest _ =>
    view next = view writer ∧ (droppedOldest = false ↔ HasSpace (view writer) header) ∧
      ∃ heartbeatNs, after =
        if droppedOldest then
          (header.storeWriterHeartbeatNs heartbeatNs).storeReadSeq (header.readSeq + 1)
        else header.storeWriterHeartbeatNs heartbeatNs
  | .gaveUp next after =>
    view next = view writer ∧ ¬HasSpace (view writer) header ∧
      ∃ heartbeatNs, after = header.storeWriterHeartbeatNs heartbeatNs

theorem SpacePass.Sound.result {writer : Writer} {header : Header} {pass : SpacePass Writer}
    (sound : pass.Sound view writer header) :
    (match pass with
      | .room next after droppedOldest demoted => SpaceResult.room next after droppedOldest demoted
      | .full next => .gaveUp next header).Sound view writer header := by
  cases pass with
  | room next after droppedOldest demoted => exact ⟨sound.1, sound.2.1, header.writerHeartbeatNs, sound.2.2⟩
  | full next => exact ⟨sound.1, sound.2, header.writerHeartbeatNs, rfl⟩

-- A nap hands on a writer and a header that differ in no sequence number, so a later verdict is also one on the start.
theorem SpaceResult.Sound.afterNap {writer next : Writer} {header : Header} {nowNs : UInt64}
    {result : SpaceResult Writer} (same : view next = view writer)
    (sound : result.Sound view next (header.storeWriterHeartbeatNs nowNs)) :
    result.Sound view writer header := by
  cases result with
  | room last after droppedOldest demoted =>
    obtain ⟨lastSame, taken, heartbeatNs, shape⟩ := sound
    rw [same] at lastSame taken
    exact ⟨lastSame, taken, heartbeatNs, shape⟩
  | gaveUp last after =>
    obtain ⟨lastSame, taken, heartbeatNs, shape⟩ := sound
    rw [same] at lastSame taken
    exact ⟨lastSame, taken, heartbeatNs, shape⟩

theorem awaitSpace_sound {spacePass : Writer → Header → UInt64 → Nat → SpacePass Writer}
    (sound : ∀ writer header nowNs waited, (spacePass writer header nowNs waited).Sound view writer header)
    (clock : Nat → UInt64) (writer : Writer) (header : Header) (left : Nat) :
    (awaitSpace spacePass clock writer header left).Sound view writer header := by
  induction left generalizing writer header with
  | zero =>
    exact (sound writer header (clock (2 * maxFullWaitTicks + 1)) maxFullWaitTicks).result
  | succ left ih =>
    let waited := maxFullWaitTicks - (left + 1)
    have pass := sound writer header (clock (2 * waited + 1)) waited
    change SpaceResult.Sound view writer header
      (match spacePass writer header (clock (2 * waited + 1)) waited with
        | .room next after droppedOldest demoted => .room next after droppedOldest demoted
        | .full next =>
          awaitSpace spacePass clock next (header.storeWriterHeartbeatNs (clock (2 * waited + 2))) left)
    cases shown : spacePass writer header (clock (2 * waited + 1)) waited with
    | room next after droppedOldest demoted =>
      rw [shown] at pass
      exact pass.result
    | full next =>
      rw [shown] at pass
      exact (ih next (header.storeWriterHeartbeatNs (clock (2 * waited + 2)))).afterNap view pass.1

theorem awaitSpace_of_room {spacePass : Writer → Header → UInt64 → Nat → SpacePass Writer} {clock : Nat → UInt64}
    {writer next : Writer} {header after : Header} {droppedOldest demoted : Bool}
    (room : spacePass writer header (clock 1) 0 = .room next after droppedOldest demoted) :
    awaitSpace spacePass clock writer header maxFullWaitTicks = .room next after droppedOldest demoted := by
  simp [maxFullWaitTicks, awaitSpace, room]

end Sound

def RingWriter.view (writer : RingWriter) : Geometry × UInt64 := (writer.geometry, writer.writeSeq)

def JtsRingWriter.view (writer : JtsRingWriter) : Geometry × UInt64 := (writer.geometry, writer.writeSeq)

@[simp] theorem RingWriter.noteReaderProgress_view (writer : RingWriter) (observed nowNs : UInt64) :
    (writer.noteReaderProgress observed nowNs).view = writer.view := by
  unfold noteReaderProgress
  split_ifs <;> rfl

@[simp] theorem RingWriter.freeRunDropOldest_view (writer : RingWriter) (header : Header) (r : UInt64) :
    (writer.freeRunDropOldest header r).1.view = writer.view := by
  simp only [freeRunDropOldest, accountDrop]
  split_ifs <;> rfl

@[simp] theorem RingWriter.countPublish_view (writer : RingWriter) (droppedOldest demoted : Bool) :
    (writer.countPublish droppedOldest demoted).1.view = writer.view := by
  cases droppedOldest <;> cases demoted <;> rfl

theorem RingWriter.spacePass_sound (writer : RingWriter) (header : Header) (nowNs : UInt64) (waited : Nat) :
    (writer.spacePass header nowNs waited).Sound RingWriter.view writer header := by
  have noted := writer.noteReaderProgress_view header.readSeq nowNs
  have seq : (writer.noteReaderProgress header.readSeq nowNs).writeSeq = writer.writeSeq := congrArg Prod.snd noted
  have geometry : (writer.noteReaderProgress header.readSeq nowNs).geometry = writer.geometry :=
    congrArg Prod.fst noted
  have dropped := ((writer.noteReaderProgress header.readSeq nowNs).freeRunDropOldest_view header
    header.readSeq).trans noted
  simp only [spacePass, seq, geometry]
  split_ifs with room live stuck first
  next => exact ⟨noted, by simpa [HasSpace, view] using room, rfl⟩
  next => exact ⟨dropped, by simpa [HasSpace, view] using room, rfl⟩
  next => exact ⟨dropped, by simpa [HasSpace, view] using room, rfl⟩
  next => exact ⟨noted, room⟩
  next => exact ⟨noted, room⟩

theorem JtsRingWriter.spacePass_sound (writer : JtsRingWriter) (header : Header) (nowNs : UInt64) (waited : Nat) :
    (writer.spacePass header nowNs waited).Sound JtsRingWriter.view writer header := by
  simp only [spacePass]
  split_ifs with room live first
  next => exact ⟨rfl, by simpa [HasSpace, view] using room, rfl⟩
  next => exact ⟨rfl, by simpa [HasSpace, view] using room, rfl⟩
  next => exact ⟨rfl, room⟩
  next => exact ⟨rfl, room⟩

-- One publish of either side is one of the three branches, and the occupancy it finds picks the space branch.
structure PublishEffect (g : Geometry) (payload : Payload bytes) (writeSeq : UInt64) (before after : Memory bytes)
    (branch : PublishBranch) : Prop where
  taken : branch = .space ↔ writeSeq - before.header.readSeq < g.nSlots.toUInt64
  memory : ∃ heartbeatNs, after = branch.apply g heartbeatNs writeSeq payload before

def publishBranch (droppedOldest : Bool) : PublishBranch := if droppedOldest then .dropOldest else .space

theorem publishBranch_effect {g : Geometry} {payload : Payload bytes} {writeSeq heartbeatNs : UInt64}
    {memory : Memory bytes} {droppedOldest : Bool}
    (taken : droppedOldest = false ↔ writeSeq - memory.header.readSeq < g.nSlots.toUInt64) :
    PublishEffect g payload writeSeq memory
      (publishSlot g memory
        (if droppedOldest then
          (memory.header.storeWriterHeartbeatNs heartbeatNs).storeReadSeq (memory.header.readSeq + 1)
        else memory.header.storeWriterHeartbeatNs heartbeatNs) writeSeq payload)
      (publishBranch droppedOldest) := by
  cases droppedOldest with
  | false => exact ⟨iff_of_true rfl (taken.mp rfl), heartbeatNs, rfl⟩
  | true => exact ⟨iff_of_false (by simp [publishBranch]) (by simpa using taken), heartbeatNs, rfl⟩

theorem publishBytes_effect (writer : RingWriter) (memory : Memory bytes) (clock : Nat → UInt64)
    (payload : Payload bytes) :
    ∃ branch, PublishEffect writer.geometry payload writer.writeSeq memory
        (publishBytes writer memory clock payload).2.1 branch ∧
      (publishBytes writer memory clock payload).1.view = (writer.geometry, branch.nextSeq writer.writeSeq) := by
  have sound := awaitSpace_sound RingWriter.view RingWriter.spacePass_sound clock writer
    (memory.header.storeWriterHeartbeatNs (clock 0)) maxFullWaitTicks
  unfold publishBytes
  cases shown : awaitSpace RingWriter.spacePass clock writer (memory.header.storeWriterHeartbeatNs (clock 0))
      maxFullWaitTicks with
  | gaveUp next after =>
    rw [shown] at sound
    obtain ⟨same, taken, heartbeatNs, rfl⟩ := sound
    exact ⟨.gaveUp, ⟨iff_of_false (by simp) taken, heartbeatNs, rfl⟩, same⟩
  | room next after droppedOldest demoted =>
    rw [shown] at sound
    obtain ⟨same, taken, heartbeatNs, rfl⟩ := sound
    have seq : next.writeSeq = writer.writeSeq := congrArg Prod.snd same
    have geometry : next.geometry = writer.geometry := congrArg Prod.fst same
    refine ⟨publishBranch droppedOldest, ?_, ?_⟩
    next =>
      simp only [RingWriter.finishPublish, seq, geometry]
      exact publishBranch_effect taken
    next =>
      simp only [RingWriter.finishPublish, RingWriter.countPublish_view]
      simp only [RingWriter.view, seq, geometry]
      cases droppedOldest <;> rfl

theorem jtsRingWriterPublish_effect (writer : JtsRingWriter) (memory : Memory bytes) (clock : Nat → UInt64)
    (payload : Payload bytes) :
    ∃ branch, PublishEffect writer.geometry payload writer.writeSeq memory
        (jtsRingWriterPublish writer memory clock payload).2.1 branch ∧
      (jtsRingWriterPublish writer memory clock payload).1.view =
        (writer.geometry, branch.nextSeq writer.writeSeq) := by
  have sound := awaitSpace_sound JtsRingWriter.view JtsRingWriter.spacePass_sound clock writer
    (memory.header.storeWriterHeartbeatNs (clock 0)) maxFullWaitTicks
  unfold jtsRingWriterPublish
  cases shown : awaitSpace JtsRingWriter.spacePass clock writer (memory.header.storeWriterHeartbeatNs (clock 0))
      maxFullWaitTicks with
  | gaveUp next after =>
    rw [shown] at sound
    obtain ⟨same, taken, heartbeatNs, rfl⟩ := sound
    exact ⟨.gaveUp, ⟨iff_of_false (by simp) taken, heartbeatNs, rfl⟩, same⟩
  | room next after droppedOldest demoted =>
    rw [shown] at sound
    obtain ⟨same, taken, heartbeatNs, rfl⟩ := sound
    have seq : next.writeSeq = writer.writeSeq := congrArg Prod.snd same
    have geometry : next.geometry = writer.geometry := congrArg Prod.fst same
    refine ⟨publishBranch droppedOldest, ?_, ?_⟩
    next =>
      simp only [JtsRingWriter.finishPublish, seq, geometry]
      cases droppedOldest <;> exact publishBranch_effect taken
    next =>
      rw [← seq, ← geometry]
      cases droppedOldest <;> rfl

-- A C publish writes its slot, or gives up on a full ring that a live reader holds.
theorem jtsRingWriterPublish_taken (writer : JtsRingWriter) (memory : Memory bytes) (clock : Nat → UInt64)
    (payload : Payload bytes) :
    ((jtsRingWriterPublish writer memory clock payload).1.writeSeq = writer.writeSeq + 1 ∧
        (jtsRingWriterPublish writer memory clock payload).2.1.header.writeSeq = writer.writeSeq + 1 ∧
        (jtsRingWriterPublish writer memory clock payload).2.1.slots (writer.geometry.slotIndex writer.writeSeq) =
          payload) ∨
      ((jtsRingWriterPublish writer memory clock payload).1.writeSeq = writer.writeSeq ∧
        (jtsRingWriterPublish writer memory clock payload).2.1.header.writeSeq = memory.header.writeSeq ∧
        (jtsRingWriterPublish writer memory clock payload).2.1.slots = memory.slots ∧
        ¬writer.writeSeq - memory.header.readSeq < writer.geometry.nSlots.toUInt64 ∧
        readerIsLive memory.header (clock 1) = true) := by
  obtain ⟨branch, effect, view⟩ := jtsRingWriterPublish_effect writer memory clock payload
  have seq := congrArg Prod.snd view
  obtain ⟨heartbeatNs, after⟩ := effect.memory
  cases branch with
  | space =>
    left
    rw [after]
    exact ⟨seq, rfl, Function.update_self _ _ _⟩
  | dropOldest =>
    left
    rw [after]
    exact ⟨seq, rfl, Function.update_self _ _ _⟩
  | gaveUp =>
    right
    have full : ¬writer.writeSeq - memory.header.readSeq < writer.geometry.nSlots.toUInt64 :=
      fun space => by simpa using effect.taken.mpr space
    refine ⟨seq, by rw [after]; rfl, by rw [after]; rfl, full, ?_⟩
    by_contra dead
    -- A reader that is dead at the first look makes room at once.
    have room : JtsRingWriter.spacePass writer (memory.header.storeWriterHeartbeatNs (clock 0)) (clock 1) 0 =
        .room { writer with dropNoReader := writer.dropNoReader + 1 }
          ((memory.header.storeWriterHeartbeatNs (clock 0)).storeReadSeq (memory.header.readSeq + 1)) true false := by
      rw [JtsRingWriter.spacePass]
      have stale : readerIsLive (memory.header.storeWriterHeartbeatNs (clock 0)) (clock 1) = false :=
        Bool.eq_false_iff.mpr dead
      simp only [Header.storeWriterHeartbeatNs_readSeq, if_neg full, stale, Bool.not_false, if_true]
    have published : (jtsRingWriterPublish writer memory clock payload).1.writeSeq = writer.writeSeq + 1 := by
      rw [jtsRingWriterPublish, awaitSpace_of_room room]
      rfl
    exact succ_ne writer.writeSeq (published.symm.trans seq)

end Jts.Ring
