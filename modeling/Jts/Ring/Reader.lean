import Jts.Ring.Memory

set_option autoImplicit false

namespace Jts.Ring

open Jts.Shared.Word

variable {bytes : Nat}

inductive SlotRead
  | filled
  | empty
  deriving DecidableEq, Repr

structure RingMetrics where
  attached : Bool := false
  occupancy : UInt64 := 0
  framesReadSlots : UInt64 := 0
  framesRead : UInt64 := 0
  startupEmptyReads : UInt64 := 0
  emptyReads : UInt64 := 0
  epochResets : UInt64 := 0
  readerResyncs : UInt64 := 0
  writerPid : UInt64 := 0
  writerHeartbeatAgeMs : UInt64 := 0
  writerAlive : Bool := false
  nSlots : UInt32 := 0
  slotFrames : UInt32 := 0
  deriving DecidableEq, Repr

structure RingReader where
  geometry : Geometry
  readSeq : UInt64
  lastEpoch : UInt64
  sawFilled : Bool
  metrics : RingMetrics
  deriving DecidableEq, Repr

def attachReader (header : Header) (pid nowNs : UInt64) : Header :=
  ((header.storeReadSeq header.writeSeq).storeReaderPid pid).storeReaderHeartbeatNs nowNs

def dropReader (header : Header) (pid : UInt64) : Header :=
  if header.readerPid = pid then header.storeReaderPid 0 else header

-- none is the EBUSY refusal, which comes before any store.
def fromMapping (g : Geometry) (header : Header) (pid : UInt64) (clock : Nat → UInt64) :
    Option (RingReader × Header) :=
  if foreignReaderIsLive header pid (clock 0) then none
  else some
    ({ geometry := g, readSeq := header.writeSeq, lastEpoch := header.writerEpoch, sawFilled := false,
       metrics := { attached := true, nSlots := g.nSlots, slotFrames := g.periodFrames } },
      attachReader header pid (clock 1))

namespace RingReader

def refreshWriterLiveness (reader : RingReader) (pid heartbeatNs nowNs : UInt64) : RingReader :=
  if heartbeatNs = 0 then
    { reader with
      metrics.writerPid := pid, metrics.writerHeartbeatAgeMs := 0 - 1, metrics.writerAlive := false }
  else
    let ageNs := saturatingSub nowNs heartbeatNs
    { reader with
      metrics.writerPid := pid, metrics.writerHeartbeatAgeMs := ageNs / 1000000,
      metrics.writerAlive := pid ≠ 0 && ageNs < writerLivenessTimeoutNs }

def observeEpoch (reader : RingReader) (epoch : UInt64) : RingReader :=
  if epoch ≠ reader.lastEpoch then
    { reader with lastEpoch := epoch, metrics.epochResets := saturatingAdd reader.metrics.epochResets 1 }
  else reader

def countResync (reader : RingReader) (writeSeq : UInt64) : RingReader :=
  { reader with readSeq := writeSeq, metrics.readerResyncs := saturatingAdd reader.metrics.readerResyncs 1 }

def resync (reader : RingReader) (header : Header) : RingReader × Header :=
  if reader.geometry.nSlots.toUInt64 < header.writeSeq - reader.readSeq then
    (reader.countResync header.writeSeq, header.storeReadSeq header.writeSeq)
  else (reader, header)

def countEmpty (reader : RingReader) : RingReader :=
  if reader.sawFilled then
    { reader with metrics.emptyReads := saturatingAdd reader.metrics.emptyReads 1, metrics.occupancy := 0 }
  else
    { reader with
      metrics.startupEmptyReads := saturatingAdd reader.metrics.startupEmptyReads 1, metrics.occupancy := 0 }

def countFilled (reader : RingReader) (next writeSeq : UInt64) : RingReader :=
  { reader with
    readSeq := next, sawFilled := true
    metrics.framesReadSlots := saturatingAdd reader.metrics.framesReadSlots 1
    metrics.framesRead := saturatingAdd reader.metrics.framesRead reader.geometry.periodFrames.toUInt64
    metrics.occupancy := writeSeq - next }

-- From the Acquire load of write_seq on: resync, then Empty or one slot.
def takeSlot (reader : RingReader) (memory : Memory bytes) :
    RingReader × Memory bytes × SlotRead × Payload bytes :=
  let synced := reader.resync memory.header
  let reader := synced.1
  let header := synced.2
  let r := reader.readSeq
  if header.writeSeq = r then
    (reader.countEmpty, { memory with header := header }, .empty, Payload.zero bytes)
  else
    (reader.countFilled (r + 1) header.writeSeq, { memory with header := header.storeReadSeq (r + 1) }, .filled,
      memory.slots (reader.geometry.slotIndex r))

end RingReader

def tryConsumeSlotBytes (reader : RingReader) (memory : Memory bytes) (nowNs : UInt64) :
    RingReader × Memory bytes × SlotRead × Payload bytes :=
  let header := memory.header.storeReaderHeartbeatNs nowNs
  let refreshed := reader.refreshWriterLiveness header.writerPid header.writerHeartbeatNs nowNs
  (refreshed.observeEpoch header.writerEpoch).takeSlot { memory with header := header }

structure JtsRingReader where
  geometry : Geometry
  readSeq : UInt64
  lastEpoch : UInt64
  sawFilled : Bool
  framesReadSlots : UInt64
  emptyReads : UInt64
  startupEmptyReads : UInt64
  readerResyncs : UInt64
  attachResyncs : UInt64
  epochResets : UInt64
  occupancy : UInt64
  deriving DecidableEq, Repr

-- jts_ring_reader_open once the mapping is there; none is its -EBUSY.
def jtsRingReaderAttach (g : Geometry) (header : Header) (pid : UInt64) (clock : Nat → UInt64) :
    Option (JtsRingReader × Header) :=
  if foreignReaderIsLive header pid (clock 0) then none
  else some
    ({ geometry := g, readSeq := header.writeSeq, lastEpoch := header.writerEpoch, sawFilled := false
       framesReadSlots := 0, emptyReads := 0, startupEmptyReads := 0, readerResyncs := 0
       attachResyncs := if 0 < header.writeSeq then 1 else 0, epochResets := 0, occupancy := 0 },
      attachReader header pid (clock 1))

def JtsRingReader.countResync (reader : JtsRingReader) (writeSeq : UInt64) : JtsRingReader :=
  { reader with readSeq := writeSeq, readerResyncs := reader.readerResyncs + 1 }

def jtsRingReaderResyncIfOverrun (reader : JtsRingReader) (header : Header) : JtsRingReader × Header × Bool :=
  if reader.geometry.nSlots.toUInt64 < header.writeSeq - reader.readSeq then
    (reader.countResync header.writeSeq, header.storeReadSeq header.writeSeq, true)
  else (reader, header, false)

namespace JtsRingReader

def observeEpoch (reader : JtsRingReader) (epoch : UInt64) : JtsRingReader :=
  if epoch ≠ reader.lastEpoch then { reader with lastEpoch := epoch, epochResets := reader.epochResets + 1 }
  else reader

def countEmpty (reader : JtsRingReader) : JtsRingReader :=
  if reader.sawFilled then { reader with emptyReads := reader.emptyReads + 1, occupancy := 0 }
  else { reader with startupEmptyReads := reader.startupEmptyReads + 1, occupancy := 0 }

def countFilled (reader : JtsRingReader) (next writeSeq : UInt64) : JtsRingReader :=
  { reader with
    readSeq := next, sawFilled := true, framesReadSlots := reader.framesReadSlots + 1
    occupancy := writeSeq - next }

def takeSlot (reader : JtsRingReader) (memory : Memory bytes) :
    JtsRingReader × Memory bytes × SlotRead × Payload bytes :=
  let synced := jtsRingReaderResyncIfOverrun reader memory.header
  let reader := synced.1
  let header := synced.2.1
  let rr := reader.readSeq
  if header.writeSeq = rr then
    (reader.countEmpty, { memory with header := header }, .empty, Payload.zero bytes)
  else
    (reader.countFilled (rr + 1) header.writeSeq, { memory with header := header.storeReadSeq (rr + 1) }, .filled,
      memory.slots (reader.geometry.slotIndex rr))

end JtsRingReader

def jtsRingReaderConsume (reader : JtsRingReader) (memory : Memory bytes) (nowNs : UInt64) :
    JtsRingReader × Memory bytes × SlotRead × Payload bytes :=
  let header := memory.header.storeReaderHeartbeatNs nowNs
  (reader.observeEpoch header.writerEpoch).takeSlot { memory with header := header }

def RingReader.view (reader : RingReader) : Geometry × UInt64 := (reader.geometry, reader.readSeq)

def JtsRingReader.view (reader : JtsRingReader) : Geometry × UInt64 := (reader.geometry, reader.readSeq)

-- What one consume of either side does, told by the distance it finds between the two sequences.
inductive ConsumeEffect (g : Geometry) (readSeq nowNs : UInt64) (before after : Memory bytes) :
    UInt64 → SlotRead → Payload bytes → Prop
  | resynced (behind : g.nSlots.toUInt64 < before.header.writeSeq - readSeq)
      (memory : after = { before with
        header := (before.header.storeReaderHeartbeatNs nowNs).storeReadSeq before.header.writeSeq }) :
      ConsumeEffect g readSeq nowNs before after before.header.writeSeq .empty (Payload.zero bytes)
  | empty (caughtUp : before.header.writeSeq = readSeq)
      (memory : after = { before with header := before.header.storeReaderHeartbeatNs nowNs }) :
      ConsumeEffect g readSeq nowNs before after readSeq .empty (Payload.zero bytes)
  | filled (within : ¬g.nSlots.toUInt64 < before.header.writeSeq - readSeq)
      (ahead : before.header.writeSeq ≠ readSeq)
      (memory : after = { before with
        header := (before.header.storeReaderHeartbeatNs nowNs).storeReadSeq (readSeq + 1) }) :
      ConsumeEffect g readSeq nowNs before after (readSeq + 1) .filled (before.slots (g.slotIndex readSeq))

theorem RingReader.refreshWriterLiveness_view (reader : RingReader) (pid heartbeatNs nowNs : UInt64) :
    (reader.refreshWriterLiveness pid heartbeatNs nowNs).view = reader.view := by
  simp only [refreshWriterLiveness]
  split_ifs <;> rfl

theorem RingReader.observeEpoch_view (reader : RingReader) (epoch : UInt64) :
    (reader.observeEpoch epoch).view = reader.view := by
  unfold observeEpoch
  split_ifs <;> rfl

theorem RingReader.countEmpty_view (reader : RingReader) : reader.countEmpty.view = reader.view := by
  unfold countEmpty
  split_ifs <;> rfl

theorem JtsRingReader.observeEpoch_view (reader : JtsRingReader) (epoch : UInt64) :
    (reader.observeEpoch epoch).view = reader.view := by
  unfold observeEpoch
  split_ifs <;> rfl

theorem JtsRingReader.countEmpty_view (reader : JtsRingReader) : reader.countEmpty.view = reader.view := by
  unfold countEmpty
  split_ifs <;> rfl

theorem RingReader.takeSlot_effect (reader : RingReader) (memory : Memory bytes) (nowNs : UInt64) :
    ∃ nextSeq, (reader.takeSlot { memory with header := memory.header.storeReaderHeartbeatNs nowNs }).1.view =
        (reader.geometry, nextSeq) ∧
      ConsumeEffect reader.geometry reader.readSeq nowNs memory
        (reader.takeSlot { memory with header := memory.header.storeReaderHeartbeatNs nowNs }).2.1 nextSeq
        (reader.takeSlot { memory with header := memory.header.storeReaderHeartbeatNs nowNs }).2.2.1
        (reader.takeSlot { memory with header := memory.header.storeReaderHeartbeatNs nowNs }).2.2.2 := by
  by_cases behind : reader.geometry.nSlots.toUInt64 < memory.header.writeSeq - reader.readSeq
  next =>
    have synced : (reader.countResync memory.header.writeSeq).readSeq = memory.header.writeSeq := rfl
    simp only [takeSlot, resync, Header.storeReaderHeartbeatNs_writeSeq, behind, if_true,
      Header.storeReadSeq_writeSeq, synced, countEmpty_view]
    exact ⟨memory.header.writeSeq, rfl, .resynced behind rfl⟩
  by_cases caughtUp : memory.header.writeSeq = reader.readSeq
  next =>
    simp only [takeSlot, resync, Header.storeReaderHeartbeatNs_writeSeq, behind, if_false]
    simp only [if_pos caughtUp, countEmpty_view]
    exact ⟨reader.readSeq, rfl, .empty caughtUp rfl⟩
  next =>
    simp only [takeSlot, resync, Header.storeReaderHeartbeatNs_writeSeq, behind, if_false]
    simp only [if_neg caughtUp]
    exact ⟨reader.readSeq + 1, rfl, .filled behind caughtUp rfl⟩

theorem JtsRingReader.takeSlot_effect (reader : JtsRingReader) (memory : Memory bytes) (nowNs : UInt64) :
    ∃ nextSeq, (reader.takeSlot { memory with header := memory.header.storeReaderHeartbeatNs nowNs }).1.view =
        (reader.geometry, nextSeq) ∧
      ConsumeEffect reader.geometry reader.readSeq nowNs memory
        (reader.takeSlot { memory with header := memory.header.storeReaderHeartbeatNs nowNs }).2.1 nextSeq
        (reader.takeSlot { memory with header := memory.header.storeReaderHeartbeatNs nowNs }).2.2.1
        (reader.takeSlot { memory with header := memory.header.storeReaderHeartbeatNs nowNs }).2.2.2 := by
  by_cases behind : reader.geometry.nSlots.toUInt64 < memory.header.writeSeq - reader.readSeq
  next =>
    have synced : (reader.countResync memory.header.writeSeq).readSeq = memory.header.writeSeq := rfl
    simp only [takeSlot, jtsRingReaderResyncIfOverrun, Header.storeReaderHeartbeatNs_writeSeq, behind, if_true,
      Header.storeReadSeq_writeSeq, synced, countEmpty_view]
    exact ⟨memory.header.writeSeq, rfl, .resynced behind rfl⟩
  by_cases caughtUp : memory.header.writeSeq = reader.readSeq
  next =>
    simp only [takeSlot, jtsRingReaderResyncIfOverrun, Header.storeReaderHeartbeatNs_writeSeq, behind, if_false]
    simp only [if_pos caughtUp, countEmpty_view]
    exact ⟨reader.readSeq, rfl, .empty caughtUp rfl⟩
  next =>
    simp only [takeSlot, jtsRingReaderResyncIfOverrun, Header.storeReaderHeartbeatNs_writeSeq, behind, if_false]
    simp only [if_neg caughtUp]
    exact ⟨reader.readSeq + 1, rfl, .filled behind caughtUp rfl⟩

theorem tryConsumeSlotBytes_effect (reader : RingReader) (memory : Memory bytes) (nowNs : UInt64) :
    ∃ nextSeq, (tryConsumeSlotBytes reader memory nowNs).1.view = (reader.geometry, nextSeq) ∧
      ConsumeEffect reader.geometry reader.readSeq nowNs memory (tryConsumeSlotBytes reader memory nowNs).2.1
        nextSeq (tryConsumeSlotBytes reader memory nowNs).2.2.1
        (tryConsumeSlotBytes reader memory nowNs).2.2.2 := by
  let header := memory.header.storeReaderHeartbeatNs nowNs
  let refreshed := reader.refreshWriterLiveness header.writerPid header.writerHeartbeatNs nowNs
  let observed := refreshed.observeEpoch header.writerEpoch
  have same : observed.view = reader.view :=
    (refreshed.observeEpoch_view header.writerEpoch).trans (reader.refreshWriterLiveness_view _ _ nowNs)
  have effect := observed.takeSlot_effect memory nowNs
  have geometry : observed.geometry = reader.geometry := congrArg Prod.fst same
  have seq : observed.readSeq = reader.readSeq := congrArg Prod.snd same
  rw [geometry, seq] at effect
  exact effect

theorem jtsRingReaderConsume_effect (reader : JtsRingReader) (memory : Memory bytes) (nowNs : UInt64) :
    ∃ nextSeq, (jtsRingReaderConsume reader memory nowNs).1.view = (reader.geometry, nextSeq) ∧
      ConsumeEffect reader.geometry reader.readSeq nowNs memory (jtsRingReaderConsume reader memory nowNs).2.1
        nextSeq (jtsRingReaderConsume reader memory nowNs).2.2.1
        (jtsRingReaderConsume reader memory nowNs).2.2.2 := by
  let header := memory.header.storeReaderHeartbeatNs nowNs
  let observed := reader.observeEpoch header.writerEpoch
  have same : observed.view = reader.view := reader.observeEpoch_view header.writerEpoch
  have effect := observed.takeSlot_effect memory nowNs
  have geometry : observed.geometry = reader.geometry := congrArg Prod.fst same
  have seq : observed.readSeq = reader.readSeq := congrArg Prod.snd same
  rw [geometry, seq] at effect
  exact effect

end Jts.Ring
