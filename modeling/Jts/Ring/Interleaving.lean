import Jts.Ring.Handle
import Jts.Shared.Transition
import Mathlib.Data.Finset.Card
import Mathlib.Data.Fintype.Basic

set_option autoImplicit false

namespace Jts.Ring.Interleaving

open Jts.Shared.Transition

variable {bytes : Nat}

-- The program counter names the next shared access. payload is the caller's slot, waited the naps taken so far.
inductive WriterPc (bytes : Nat)
  | idle
  | stamp (payload : Payload bytes)
  | loadReadSeq (payload : Payload bytes) (waited : Nat)
  | loadReaderPid (payload : Payload bytes) (waited : Nat) (readSeq nowCheck : UInt64)
  | loadReaderHeartbeat (payload : Payload bytes) (waited : Nat) (readSeq nowCheck : UInt64)
  | dropOldest (payload : Payload bytes) (readSeq : UInt64) (demoted : Bool)
  | refreshHeartbeat (payload : Payload bytes) (waited : Nat)
  | copy (payload : Payload bytes) (copied : Finset (Fin bytes)) (droppedOldest demoted : Bool)
  | storeWriteSeq (payload : Payload bytes) (droppedOldest demoted : Bool)
  | reloadReadSeq (droppedOldest demoted : Bool)

-- published is history: every payload whose write_seq store has happened, in that order.
structure Writer (bytes : Nat) where
  handle : WriterHandle
  pc : WriterPc bytes
  published : List (Payload bytes)

inductive ReaderPc (bytes : Nat)
  | detached
  | attachLoadPid (nowNs : UInt64)
  | attachLoadHeartbeat (nowNs : UInt64)
  | attachLoadWriteSeq
  | attachLoadEpoch
  | attachStoreReadSeq
  | attachStorePid
  | attachStoreHeartbeat
  | idle
  | stamp
  | loadWriterPid (nowNs : UInt64)
  | loadWriterHeartbeat (nowNs pid : UInt64)
  | loadEpoch
  | loadWriteSeq
  | storeResync (writeSeq : UInt64)
  | reloadWriteSeq
  | copy (writeSeq : UInt64) (copied : Finset (Fin bytes))
  | storeReadSeq (writeSeq : UInt64)

inductive HeaderField
  | readSeq
  | readerPid
  | readerHeartbeatNs
  deriving DecidableEq, Repr

/-- A store of value into one of the reader's header fields. -/
def HeaderField.put (field : HeaderField) (value : UInt64) (header : Header) : Header :=
  match field with
  | .readSeq => header.storeReadSeq value
  | .readerPid => header.storeReaderPid value
  | .readerHeartbeatNs => header.storeReaderHeartbeatNs value

-- The last three fields are history: the header stores of the running (or last) consume, the sequence the
-- attach loaded, and every Filled return with the header read_seq it came under.
structure Reader (bytes : Nat) where
  handle : ReaderHandle
  pc : ReaderPc bytes
  out : Payload bytes
  result : Option SlotRead
  stores : List HeaderField
  attachedAt : UInt64
  delivered : List (UInt64 × Payload bytes)

structure Config where
  geometry : Geometry
  readerLanguage : Language
  readerPid : UInt64

namespace Writer

-- The verdict on a full ring with the reader's liveness known: drop the oldest slot, demote, give up or nap.
def onFull (writer : Writer bytes) (payload : Payload bytes) (waited : Nat) (readSeq nowCheck : UInt64)
    (live : Bool) : Writer bytes :=
  if !live then { writer with pc := .dropOldest payload readSeq false }
  else if writer.handle.isStuck nowCheck then { writer with pc := .dropOldest payload readSeq true }
  else
    let counted := if waited = 0 then writer.handle.countFullWait else writer.handle
    if maxFullWaitTicks < waited + 1 then { writer with handle := counted.giveUp readSeq, pc := .idle }
    else { writer with handle := counted, pc := .refreshHeartbeat payload (waited + 1) }

-- The C writer samples the clock for its liveness test, the Rust writer goes on with the sample of its pass.
def livenessClock (writer : Writer bytes) (nowCheck nowNs : UInt64) : UInt64 :=
  match writer.handle with
  | .rust _ => nowCheck
  | .c _ => nowNs

def step (memory : Memory bytes) (writer : Writer bytes) (nowNs : UInt64) : Memory bytes × Writer bytes :=
  match writer.pc with
  | .idle => (memory, writer)
  | .stamp payload =>
    ({ memory with header := memory.header.storeWriterHeartbeatNs nowNs },
      { writer with pc := .loadReadSeq payload 0 })
  | .loadReadSeq payload waited =>
    let readSeq := memory.header.readSeq
    let noted := writer.handle.noteReaderProgress readSeq nowNs
    if noted.view.2 - readSeq < noted.view.1.nSlots.toUInt64 then
      (memory, { writer with handle := noted, pc := .copy payload ∅ false false })
    else (memory, { writer with handle := noted, pc := .loadReaderPid payload waited readSeq nowNs })
  | .loadReaderPid payload waited readSeq nowCheck =>
    let now := writer.livenessClock nowCheck nowNs
    if memory.header.readerPid = 0 then (memory, writer.onFull payload waited readSeq now false)
    else (memory, { writer with pc := .loadReaderHeartbeat payload waited readSeq now })
  | .loadReaderHeartbeat payload waited readSeq nowCheck =>
    (memory,
      writer.onFull payload waited readSeq nowCheck (stampIsLive 1 memory.header.readerHeartbeatNs nowCheck))
  | .dropOldest payload readSeq demoted =>
    ({ memory with header := memory.header.storeReadSeq (readSeq + 1) },
      { writer with handle := writer.handle.accountDrop (readSeq + 1), pc := .copy payload ∅ true demoted })
  | .refreshHeartbeat payload waited =>
    ({ memory with header := memory.header.storeWriterHeartbeatNs nowNs },
      { writer with pc := .loadReadSeq payload waited })
  | .copy payload copied droppedOldest demoted =>
    if copied = Finset.univ then (memory, { writer with pc := .storeWriteSeq payload droppedOldest demoted })
    else (memory, writer)
  | .storeWriteSeq payload droppedOldest demoted =>
    ({ memory with header := memory.header.storeWriteSeq (writer.handle.view.2 + 1) },
      { handle := writer.handle.advance, pc := .reloadReadSeq droppedOldest demoted
        published := writer.published ++ [payload] })
  | .reloadReadSeq droppedOldest demoted =>
    (memory, { writer with handle := writer.handle.finish memory.header.readSeq droppedOldest demoted, pc := .idle })

-- One byte of the memcpy into slot write_seq % n_slots; memcpy promises no order, so any byte may be next.
def copyByte (memory : Memory bytes) (writer : Writer bytes) (byte : Fin bytes) :
    Option (Memory bytes × Writer bytes) :=
  match writer.pc with
  | .copy payload copied droppedOldest demoted =>
    let slot := writer.handle.view.1.slotIndex writer.handle.view.2
    some
      ({ memory with
         slots := Function.update memory.slots slot (Function.update (memory.slots slot) byte (payload byte)) },
        { writer with pc := .copy payload (insert byte copied) droppedOldest demoted })
  | _ => none

end Writer

namespace Reader

def store (reader : Reader bytes) (field : HeaderField) : Reader bytes :=
  { reader with stores := reader.stores ++ [field] }

-- Empty or one slot, once the distance to the loaded write_seq is in range.
def onLoaded (reader : Reader bytes) (writeSeq : UInt64) : Reader bytes :=
  if writeSeq = reader.handle.view.2 then
    { reader with
      handle := reader.handle.countEmpty, pc := .idle, out := Payload.zero bytes, result := some .empty }
  else { reader with pc := .copy writeSeq ∅ }

def step (config : Config) (memory : Memory bytes) (reader : Reader bytes) (nowNs : UInt64) :
    Memory bytes × Reader bytes :=
  match reader.pc with
  | .detached | .idle => (memory, reader)
  | .attachLoadPid now =>
    let pid := memory.header.readerPid
    if pid = 0 ∨ pid = config.readerPid then (memory, { reader with pc := .attachLoadWriteSeq })
    else (memory, { reader with pc := .attachLoadHeartbeat now })
  | .attachLoadHeartbeat now =>
    -- EBUSY: the mapping is dropped before any store.
    if stampIsLive 1 memory.header.readerHeartbeatNs now then (memory, { reader with pc := .detached })
    else (memory, { reader with pc := .attachLoadWriteSeq })
  | .attachLoadWriteSeq =>
    let writeSeq := memory.header.writeSeq
    (memory,
      { reader with
        handle := .begin config.geometry writeSeq config.readerLanguage, attachedAt := writeSeq
        pc := match config.readerLanguage with
          | .rust => .attachLoadEpoch
          | .c => .attachStoreReadSeq })
  | .attachLoadEpoch =>
    (memory,
      { reader with
        handle := reader.handle.snapshotEpoch memory.header.writerEpoch
        pc := match config.readerLanguage with
          | .rust => .attachStoreReadSeq
          | .c => .attachStorePid })
  | .attachStoreReadSeq =>
    ({ memory with header := memory.header.storeReadSeq reader.handle.view.2 },
      { reader with
        pc := match config.readerLanguage with
          | .rust => .attachStorePid
          | .c => .attachLoadEpoch })
  | .attachStorePid =>
    ({ memory with header := memory.header.storeReaderPid config.readerPid },
      { reader with pc := .attachStoreHeartbeat })
  | .attachStoreHeartbeat =>
    ({ memory with header := memory.header.storeReaderHeartbeatNs nowNs }, { reader with pc := .idle })
  | .stamp =>
    ({ memory with header := memory.header.storeReaderHeartbeatNs nowNs },
      { reader.store .readerHeartbeatNs with
        pc := match config.readerLanguage with
          | .rust => .loadWriterPid nowNs
          | .c => .loadEpoch })
  | .loadWriterPid now => (memory, { reader with pc := .loadWriterHeartbeat now memory.header.writerPid })
  | .loadWriterHeartbeat now pid =>
    (memory,
      { reader with
        handle := reader.handle.refreshWriterLiveness pid memory.header.writerHeartbeatNs now, pc := .loadEpoch })
  | .loadEpoch =>
    (memory, { reader with handle := reader.handle.observeEpoch memory.header.writerEpoch, pc := .loadWriteSeq })
  | .loadWriteSeq =>
    let writeSeq := memory.header.writeSeq
    if reader.handle.view.1.nSlots.toUInt64 < writeSeq - reader.handle.view.2 then
      (memory, { reader with pc := .storeResync writeSeq })
    else
      match config.readerLanguage with
      | .rust => (memory, reader.onLoaded writeSeq)
      | .c => (memory, { reader with pc := .reloadWriteSeq })
  | .storeResync writeSeq =>
    let synced := { reader.store .readSeq with handle := reader.handle.countResync writeSeq }
    ({ memory with header := memory.header.storeReadSeq writeSeq },
      match config.readerLanguage with
      | .rust => synced.onLoaded writeSeq
      | .c => { synced with pc := .reloadWriteSeq })
  | .reloadWriteSeq => (memory, reader.onLoaded memory.header.writeSeq)
  | .copy writeSeq copied =>
    if copied = Finset.univ then (memory, { reader with pc := .storeReadSeq writeSeq }) else (memory, reader)
  | .storeReadSeq writeSeq =>
    let next := reader.handle.view.2 + 1
    ({ memory with header := memory.header.storeReadSeq next },
      { reader.store .readSeq with
        handle := reader.handle.countFilled next writeSeq, pc := .idle, result := some .filled
        delivered := reader.delivered ++ [(memory.header.readSeq, reader.out)] })

def copyByte (memory : Memory bytes) (reader : Reader bytes) (byte : Fin bytes) : Option (Reader bytes) :=
  match reader.pc with
  | .copy writeSeq copied =>
    let slot := reader.handle.view.1.slotIndex reader.handle.view.2
    some
      { reader with
        out := Function.update reader.out byte (memory.slots slot byte), pc := .copy writeSeq (insert byte copied) }
  | _ => none

-- Inside one consume, from its heartbeat store to its return.
def consuming (reader : Reader bytes) : Bool :=
  match reader.pc with
  | .detached | .attachLoadPid _ | .attachLoadHeartbeat _ | .attachLoadWriteSeq | .attachLoadEpoch
  | .attachStoreReadSeq | .attachStorePid | .attachStoreHeartbeat | .idle => false
  | _ => true

-- From the load of write_seq on, the attach has a sequence of its own.
def claimed (reader : Reader bytes) : Bool :=
  match reader.pc with
  | .detached | .attachLoadPid _ | .attachLoadHeartbeat _ | .attachLoadWriteSeq => false
  | _ => true

end Reader

-- borrowed records a writer store into read_seq made after the reader's attach had loaded its sequence:
-- the dead-reader and the stuck-reader branch are the only ones that make it.
structure State (bytes : Nat) where
  memory : Memory bytes
  writer : Writer bytes
  reader : Reader bytes
  borrowed : Bool

inductive Action (bytes : Nat)
  | publish (payload : Payload bytes)
  | writer (nowNs : UInt64)
  | writerCopy (byte : Fin bytes)
  | attach (nowNs : UInt64)
  | consume (out : Payload bytes)
  | reader (nowNs : UInt64)
  | readerCopy (byte : Fin bytes)

def borrows (state : State bytes) : Bool :=
  match state.writer.pc with
  | .dropOldest _ _ _ => state.reader.claimed
  | _ => false

def step (config : Config) (state : State bytes) : Action bytes → Option (State bytes)
  | .publish payload =>
    match state.writer.pc with
    | .idle => some { state with writer := { state.writer with pc := .stamp payload } }
    | _ => none
  | .writer nowNs =>
    let moved := state.writer.step state.memory nowNs
    some { state with memory := moved.1, writer := moved.2, borrowed := state.borrowed || borrows state }
  | .writerCopy byte =>
    (state.writer.copyByte state.memory byte).map fun moved =>
      { state with memory := moved.1, writer := moved.2 }
  | .attach nowNs =>
    match state.reader.pc with
    | .detached => some { state with reader := { state.reader with pc := .attachLoadPid nowNs } }
    | _ => none
  | .consume out =>
    match state.reader.pc with
    | .idle =>
      some { state with reader := { state.reader with pc := .stamp, out := out, result := none, stores := [] } }
    | _ => none
  | .reader nowNs =>
    let moved := state.reader.step config state.memory nowNs
    some { state with memory := moved.1, reader := moved.2 }
  | .readerCopy byte => (state.reader.copyByte state.memory byte).map fun moved => { state with reader := moved }

-- A writer attached to a file of this protocol, its sequence base, and no reader yet.
structure Initial (config : Config) (base : Nat) (state : State bytes) : Prop where
  seq : state.memory.header.writeSeq.toNat = base
  order : state.memory.header.readSeq.toNat ≤ base
  occupancy : base ≤ state.memory.header.readSeq.toNat + config.geometry.nSlots.toNat
  view : state.writer.handle.view = (config.geometry, state.memory.header.writeSeq)
  writerPc : state.writer.pc = .idle
  published : state.writer.published = []
  readerPc : state.reader.pc = .detached
  result : state.reader.result = none
  delivered : state.reader.delivered = []
  borrowed : state.borrowed = false

def system (config : Config) (base bytes : Nat) : System (State bytes) (Action bytes) :=
  ofFn (Initial config base) (step config)

end Jts.Ring.Interleaving
