import Jts.Ring.Writer
import Jts.Ring.Reader

set_option autoImplicit false

namespace Jts.Ring

variable {bytes : Nat}

inductive Language
  | rust
  | c
  deriving DecidableEq, Repr

inductive WriterHandle
  | rust (writer : RingWriter)
  | c (writer : JtsRingWriter)

inductive ReaderHandle
  | rust (reader : RingReader)
  | c (reader : JtsRingReader)

namespace WriterHandle

def view : WriterHandle → Geometry × UInt64
  | .rust writer => writer.view
  | .c writer => writer.view

def attach (g : Geometry) (header : Header) (pid : UInt64) (clock : Nat → UInt64) :
    Language → WriterHandle × Header
  | .rust => (.rust (createOrAttachWriter g header pid clock).1, (createOrAttachWriter g header pid clock).2)
  | .c => (.c (jtsRingWriterAttach g header pid (clock 0)).1, (jtsRingWriterAttach g header pid (clock 0)).2)

def publish (memory : Memory bytes) (clock : Nat → UInt64) (payload : Payload bytes) :
    WriterHandle → WriterHandle × Memory bytes
  | .rust writer =>
    (.rust (publishBytes writer memory clock payload).1, (publishBytes writer memory clock payload).2.1)
  | .c writer =>
    (.c (jtsRingWriterPublish writer memory clock payload).1, (jtsRingWriterPublish writer memory clock payload).2.1)

def noteReaderProgress (observedReadSeq nowNs : UInt64) : WriterHandle → WriterHandle
  | .rust writer => .rust (writer.noteReaderProgress observedReadSeq nowNs)
  | .c writer => .c writer

def isStuck (nowNs : UInt64) : WriterHandle → Bool
  | .rust writer => writer.isStuck nowNs
  | .c _ => false

def countFullWait : WriterHandle → WriterHandle
  | .rust writer => .rust writer.countFullWait
  | .c writer => .c { writer with fullWaits := writer.fullWaits + 1 }

def accountDrop (advanced : UInt64) : WriterHandle → WriterHandle
  | .rust writer => .rust (writer.accountDrop advanced)
  | .c writer => .c { writer with dropNoReader := writer.dropNoReader + 1 }

def giveUp (readSeq : UInt64) : WriterHandle → WriterHandle
  | .rust writer =>
    .rust { writer.countStuckDrop with metrics.occupancy := writer.writeSeq - readSeq }
  | .c writer => .c { writer with dropNoReader := writer.dropNoReader + 1 }

def advance : WriterHandle → WriterHandle
  | .rust writer => .rust { writer with writeSeq := writer.writeSeq + 1 }
  | .c writer => .c { writer with writeSeq := writer.writeSeq + 1 }

-- The Rust publish reads read_seq once more for its occupancy gauge; the C publish keeps no gauge.
def finish (readSeqAfter : UInt64) (droppedOldest demoted : Bool) : WriterHandle → WriterHandle
  | .rust writer =>
    .rust ({ writer with metrics.occupancy := writer.writeSeq - readSeqAfter }.countPublish droppedOldest demoted).1
  | .c writer => if droppedOldest then .c writer else .c { writer with publishedSlots := writer.publishedSlots + 1 }

end WriterHandle

namespace ReaderHandle

def view : ReaderHandle → Geometry × UInt64
  | .rust reader => reader.view
  | .c reader => reader.view

def attach (g : Geometry) (header : Header) (pid : UInt64) (clock : Nat → UInt64) :
    Language → Option (ReaderHandle × Header)
  | .rust => (fromMapping g header pid clock).map fun attached => (.rust attached.1, attached.2)
  | .c => (jtsRingReaderAttach g header pid clock).map fun attached => (.c attached.1, attached.2)

def consume (memory : Memory bytes) (nowNs : UInt64) :
    ReaderHandle → ReaderHandle × Memory bytes × SlotRead × Payload bytes
  | .rust reader =>
    (.rust (tryConsumeSlotBytes reader memory nowNs).1, (tryConsumeSlotBytes reader memory nowNs).2)
  | .c reader =>
    (.c (jtsRingReaderConsume reader memory nowNs).1, (jtsRingReaderConsume reader memory nowNs).2)

-- The handle as its attach fills it in: the sequence first, the epoch when it is loaded.
def begin (g : Geometry) (writeSeq : UInt64) : Language → ReaderHandle
  | .rust =>
    .rust
      { geometry := g, readSeq := writeSeq, lastEpoch := 0, sawFilled := false,
        metrics := { attached := true, nSlots := g.nSlots, slotFrames := g.periodFrames } }
  | .c =>
    .c
      { geometry := g, readSeq := writeSeq, lastEpoch := 0, sawFilled := false
        framesReadSlots := 0, emptyReads := 0, startupEmptyReads := 0, readerResyncs := 0
        attachResyncs := if 0 < writeSeq then 1 else 0, epochResets := 0, occupancy := 0 }

def snapshotEpoch (epoch : UInt64) : ReaderHandle → ReaderHandle
  | .rust reader => .rust { reader with lastEpoch := epoch }
  | .c reader => .c { reader with lastEpoch := epoch }

def refreshWriterLiveness (pid heartbeatNs nowNs : UInt64) : ReaderHandle → ReaderHandle
  | .rust reader => .rust (reader.refreshWriterLiveness pid heartbeatNs nowNs)
  | .c reader => .c reader

def observeEpoch (epoch : UInt64) : ReaderHandle → ReaderHandle
  | .rust reader => .rust (reader.observeEpoch epoch)
  | .c reader => .c (reader.observeEpoch epoch)

def countResync (writeSeq : UInt64) : ReaderHandle → ReaderHandle
  | .rust reader => .rust (reader.countResync writeSeq)
  | .c reader => .c (reader.countResync writeSeq)

def countEmpty : ReaderHandle → ReaderHandle
  | .rust reader => .rust reader.countEmpty
  | .c reader => .c reader.countEmpty

def countFilled (next writeSeq : UInt64) : ReaderHandle → ReaderHandle
  | .rust reader => .rust (reader.countFilled next writeSeq)
  | .c reader => .c (reader.countFilled next writeSeq)

end ReaderHandle

theorem WriterHandle.attach_view (g : Geometry) (header : Header) (pid : UInt64) (clock : Nat → UInt64)
    (language : Language) : (attach g header pid clock language).1.view = (g, header.writeSeq) := by
  cases language <;> rfl

theorem WriterHandle.attach_header (g : Geometry) (header : Header) (pid : UInt64) (clock : Nat → UInt64)
    (language : Language) : (attach g header pid clock language).2 = attachWriter header pid (clock 0) := by
  cases language <;> rfl

theorem WriterHandle.publish_effect (writer : WriterHandle) (memory : Memory bytes) (clock : Nat → UInt64)
    (payload : Payload bytes) :
    ∃ branch, PublishEffect writer.view.1 payload writer.view.2 memory (writer.publish memory clock payload).2
        branch ∧
      (writer.publish memory clock payload).1.view = (writer.view.1, branch.nextSeq writer.view.2) := by
  cases writer with
  | rust writer => exact publishBytes_effect writer memory clock payload
  | c writer => exact jtsRingWriterPublish_effect writer memory clock payload

theorem ReaderHandle.attach_spec {g : Geometry} {header after : Header} {pid : UInt64} {clock : Nat → UInt64}
    {language : Language} {handle : ReaderHandle}
    (admitted : attach g header pid clock language = some (handle, after)) :
    handle.view = (g, header.writeSeq) ∧ after = attachReader header pid (clock 1) := by
  cases language with
  | rust =>
    by_cases busy : foreignReaderIsLive header pid (clock 0) = true
    next => simp [attach, fromMapping, busy] at admitted
    next =>
      simp [attach, fromMapping, busy] at admitted
      obtain ⟨rfl, rfl⟩ := admitted
      exact ⟨rfl, rfl⟩
  | c =>
    by_cases busy : foreignReaderIsLive header pid (clock 0) = true
    next => simp [attach, jtsRingReaderAttach, busy] at admitted
    next =>
      simp [attach, jtsRingReaderAttach, busy] at admitted
      obtain ⟨rfl, rfl⟩ := admitted
      exact ⟨rfl, rfl⟩

theorem ReaderHandle.consume_effect (handle : ReaderHandle) (memory : Memory bytes) (nowNs : UInt64) :
    ∃ nextSeq, (handle.consume memory nowNs).1.view = (handle.view.1, nextSeq) ∧
      ConsumeEffect handle.view.1 handle.view.2 nowNs memory (handle.consume memory nowNs).2.1 nextSeq
        (handle.consume memory nowNs).2.2.1 (handle.consume memory nowNs).2.2.2 := by
  cases handle with
  | rust reader => exact tryConsumeSlotBytes_effect reader memory nowNs
  | c reader => exact jtsRingReaderConsume_effect reader memory nowNs

namespace WriterHandle

@[simp] theorem noteReaderProgress_view (writer : WriterHandle) (observed nowNs : UInt64) :
    (writer.noteReaderProgress observed nowNs).view = writer.view := by
  cases writer with
  | rust writer => exact writer.noteReaderProgress_view observed nowNs
  | c writer => rfl

@[simp] theorem countFullWait_view (writer : WriterHandle) : writer.countFullWait.view = writer.view := by
  cases writer <;> rfl

@[simp] theorem accountDrop_view (writer : WriterHandle) (advanced : UInt64) :
    (writer.accountDrop advanced).view = writer.view := by
  cases writer with
  | rust writer =>
    simp only [accountDrop, RingWriter.accountDrop]
    split_ifs <;> rfl
  | c writer => rfl

@[simp] theorem giveUp_view (writer : WriterHandle) (readSeq : UInt64) :
    (writer.giveUp readSeq).view = writer.view := by
  cases writer <;> rfl

@[simp] theorem advance_view (writer : WriterHandle) : writer.advance.view = (writer.view.1, writer.view.2 + 1) := by
  cases writer <;> rfl

@[simp] theorem finish_view (writer : WriterHandle) (readSeqAfter : UInt64) (droppedOldest demoted : Bool) :
    (writer.finish readSeqAfter droppedOldest demoted).view = writer.view := by
  cases writer <;> cases droppedOldest <;> cases demoted <;> rfl

end WriterHandle

namespace ReaderHandle

@[simp] theorem begin_view (g : Geometry) (writeSeq : UInt64) (language : Language) :
    (begin g writeSeq language).view = (g, writeSeq) := by
  cases language <;> rfl

@[simp] theorem snapshotEpoch_view (reader : ReaderHandle) (epoch : UInt64) :
    (reader.snapshotEpoch epoch).view = reader.view := by
  cases reader <;> rfl

@[simp] theorem refreshWriterLiveness_view (reader : ReaderHandle) (pid heartbeatNs nowNs : UInt64) :
    (reader.refreshWriterLiveness pid heartbeatNs nowNs).view = reader.view := by
  cases reader with
  | rust reader => exact reader.refreshWriterLiveness_view pid heartbeatNs nowNs
  | c reader => rfl

@[simp] theorem observeEpoch_view (reader : ReaderHandle) (epoch : UInt64) :
    (reader.observeEpoch epoch).view = reader.view := by
  cases reader with
  | rust reader => exact reader.observeEpoch_view epoch
  | c reader => exact reader.observeEpoch_view epoch

@[simp] theorem countResync_view (reader : ReaderHandle) (writeSeq : UInt64) :
    (reader.countResync writeSeq).view = (reader.view.1, writeSeq) := by
  cases reader <;> rfl

@[simp] theorem countEmpty_view (reader : ReaderHandle) : reader.countEmpty.view = reader.view := by
  cases reader with
  | rust reader => exact reader.countEmpty_view
  | c reader => exact reader.countEmpty_view

@[simp] theorem countFilled_view (reader : ReaderHandle) (next writeSeq : UInt64) :
    (reader.countFilled next writeSeq).view = (reader.view.1, next) := by
  cases reader <;> rfl

end ReaderHandle

end Jts.Ring
