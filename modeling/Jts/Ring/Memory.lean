import Jts.Ring.Layout
import Jts.Shared.Circular
import Mathlib.Tactic.Simps.Basic

set_option autoImplicit false

namespace Jts.Ring

open Jts.Shared.Word

def writerLivenessTimeoutNs : UInt64 := 2000000000

namespace Header

@[simps] def storeWriterEpoch (header : Header) (value : UInt64) : Header := { header with writerEpoch := value }

@[simps] def storeWriteSeq (header : Header) (value : UInt64) : Header := { header with writeSeq := value }

@[simps] def storeReadSeq (header : Header) (value : UInt64) : Header := { header with readSeq := value }

@[simps] def storeWriterPid (header : Header) (value : UInt64) : Header := { header with writerPid := value }

@[simps] def storeWriterHeartbeatNs (header : Header) (value : UInt64) : Header :=
  { header with writerHeartbeatNs := value }

@[simps] def storeReaderPid (header : Header) (value : UInt64) : Header := { header with readerPid := value }

@[simps] def storeReaderHeartbeatNs (header : Header) (value : UInt64) : Header :=
  { header with readerHeartbeatNs := value }

end Header

-- One slot is one complete payload: the entry points refuse any other length before they copy.
abbrev Payload (bytes : Nat) : Type := Fin bytes → UInt8

def Payload.zero (bytes : Nat) : Payload bytes := fun _ => 0

structure Memory (bytes : Nat) where
  header : Header
  slots : Nat → Payload bytes

def Geometry.slotIndex (g : Geometry) (seq : UInt64) : Nat := (seq % g.nSlots.toUInt64).toNat

theorem Geometry.slotIndex_eq (g : Geometry) (seq : UInt64) : g.slotIndex seq = seq.toNat % g.nSlots.toNat := by
  rw [Geometry.slotIndex, UInt64.toNat_mod, UInt32.toNat_toUInt64]

variable {bytes : Nat}

def writeSlotBytes (g : Geometry) (memory : Memory bytes) (writeSeq : UInt64) (payload : Payload bytes) :
    Memory bytes :=
  { memory with slots := Function.update memory.slots (g.slotIndex writeSeq) payload }

@[simp] theorem writeSlotBytes_header (g : Geometry) (memory : Memory bytes) (writeSeq : UInt64)
    (payload : Payload bytes) : (writeSlotBytes g memory writeSeq payload).header = memory.header := rfl

-- The one predicate behind every liveness test: a stamped pid and a heartbeat younger than the window.
def stampIsLive (pid heartbeatNs nowNs : UInt64) : Bool :=
  pid ≠ 0 && heartbeatNs ≠ 0 && saturatingSub nowNs heartbeatNs < writerLivenessTimeoutNs

def readerIsLive (header : Header) (nowNs : UInt64) : Bool :=
  stampIsLive header.readerPid header.readerHeartbeatNs nowNs

def writerIsLive (header : Header) (nowNs : UInt64) : Bool :=
  stampIsLive header.writerPid header.writerHeartbeatNs nowNs

-- A stamp under the asking process's own pid never blocks it.
def foreignReaderIsLive (header : Header) (ownPid nowNs : UInt64) : Bool :=
  header.readerPid ≠ ownPid && readerIsLive header nowNs

def foreignWriterIsLive (header : Header) (ownPid nowNs : UInt64) : Bool :=
  header.writerPid ≠ ownPid && writerIsLive header nowNs

end Jts.Ring
