import Jts.Ioplug.Capture
import Jts.Shared.Buffer
import Mathlib.Tactic.Ring

set_option autoImplicit false

namespace Jts.Ioplug

open Jts.Ring Jts.Shared.Word Jts.Shared.Transition Jts.Shared.Buffer

variable {bytes : Nat}

-- The plugin struct of an opened playback stream.
structure PlaybackPcm (bytes : Nat) where
  writer : JtsRingWriter
  stage : Payload bytes
  stageFrames : UInt64
  stageCapacityFrames : UInt64
  applFrames : UInt64

structure PlaybackTransfer where
  src : List UInt8
  size : UInt64
  consumed : UInt64
  deriving DecidableEq, Repr

-- A slot handed to jts_ring_writer_publish, and whether it went into the ring.
structure Handed (bytes : Nat) where
  slot : Payload bytes
  published : Bool

namespace PlaybackPcm

-- The first prepare, behind the attach of the writer; a later one clears the same counters.
def prepared (bytes : Nat) (g : Geometry) (writer : JtsRingWriter) : PlaybackPcm bytes where
  writer := writer
  stage := Payload.zero bytes
  stageFrames := 0
  stageCapacityFrames := g.periodFrames.toUInt64
  applFrames := 0

def stageBytes (pcm : PlaybackPcm bytes) (g : Geometry) : Nat := (pcm.stageFrames * frameBytes g).toNat

def take (pcm : PlaybackPcm bytes) (transfer : PlaybackTransfer) : UInt64 :=
  let room := pcm.stageCapacityFrames - pcm.stageFrames
  let left := transfer.size - transfer.consumed
  if left < room then left else room

-- The copy of one pass of the transfer loop.
def copyIn (pcm : PlaybackPcm bytes) (g : Geometry) (transfer : PlaybackTransfer) :
    PlaybackPcm bytes × PlaybackTransfer :=
  let take := pcm.take transfer
  let copied := (transfer.src.drop (transfer.consumed * frameBytes g).toNat).take (take * frameBytes g).toNat
  ({ pcm with
     stage := copyInto pcm.stage (pcm.stageBytes g) copied
     stageFrames := pcm.stageFrames + take },
    { transfer with consumed := transfer.consumed + take })

-- The zero-padding of a partial slot that a drain finds staged.
def pad (pcm : PlaybackPcm bytes) (g : Geometry) : PlaybackPcm bytes :=
  let padFrom := pcm.stageBytes g
  let total := (pcm.stageCapacityFrames * frameBytes g).toNat
  { pcm with stage := copyInto pcm.stage padFrom (List.replicate (total - padFrom) 0) }

end PlaybackPcm

inductive PlaybackCall
  | idle
  | transfer (transfer : PlaybackTransfer)
  deriving DecidableEq, Repr

-- handed and accepted are history: the slots given to the ring core, and what the application and the drains put in.
structure PlaybackState (bytes : Nat) where
  memory : Memory bytes
  pcm : PlaybackPcm bytes
  call : PlaybackCall
  handed : List (Handed bytes)
  accepted : List UInt8

inductive PlaybackAction (bytes : Nat)
  | ring (memory : Memory bytes)
  | transfer (size : UInt64) (src : List UInt8)
  | advance (clock : Nat → UInt64)
  | drain (clock : Nat → UInt64)

namespace PlaybackState

-- jts_ring_writer_publish of the stage, whatever comes of it.
def publishStage (state : PlaybackState bytes) (clock : Nat → UInt64) : PlaybackState bytes :=
  let result := jtsRingWriterPublish state.pcm.writer state.memory clock state.pcm.stage
  { state with
    memory := result.2.1
    pcm := { state.pcm with writer := result.1, stageFrames := 0 }
    handed := state.handed ++ [⟨state.pcm.stage, decide (result.1.writeSeq ≠ state.pcm.writer.writeSeq)⟩] }

-- One pass of the loop, or the end of it.
def transferPass (state : PlaybackState bytes) (g : Geometry) (transfer : PlaybackTransfer) (clock : Nat → UInt64) :
    PlaybackState bytes :=
  if transfer.consumed < transfer.size then
    let copied := state.pcm.copyIn g transfer
    let next := { state with pcm := copied.1, call := .transfer copied.2 }
    if copied.1.stageFrames = copied.1.stageCapacityFrames then next.publishStage clock else next
  else
    { state with
      pcm := { state.pcm with applFrames := state.pcm.applFrames + transfer.size }
      call := .idle, accepted := state.accepted ++ transfer.src }

-- What follows the publish only waits for the reader.
def drain (state : PlaybackState bytes) (g : Geometry) (clock : Nat → UInt64) : PlaybackState bytes :=
  if 0 < state.pcm.stageFrames then
    let padding := List.replicate ((state.pcm.stageCapacityFrames * frameBytes g).toNat - state.pcm.stageBytes g) 0
    { state with pcm := state.pcm.pad g, accepted := state.accepted ++ padding }.publishStage clock
  else state

-- Anything may happen to the mapping between two steps; the areas of a transfer are size frames of real memory.
def step (g : Geometry) (state : PlaybackState bytes) : PlaybackAction bytes → Option (PlaybackState bytes)
  | .ring memory => some { state with memory := memory }
  | .transfer size src =>
    if state.call = .idle ∧ src.length = size.toNat * (frameBytes g).toNat ∧ src.length < 2 ^ 64 then
      some { state with call := .transfer { src := src, size := size, consumed := 0 } }
    else none
  | .advance clock =>
    match state.call with
    | .idle => none
    | .transfer transfer => some (state.transferPass g transfer clock)
  | .drain clock => if state.call = .idle then some (state.drain g clock) else none

end PlaybackState

def PlaybackInitial (g : Geometry) (bytes : Nat) (state : PlaybackState bytes) : Prop :=
  state.pcm = PlaybackPcm.prepared bytes g state.pcm.writer ∧ state.call = .idle ∧ state.handed = [] ∧
    state.accepted = []

def playbackSystem (g : Geometry) (bytes : Nat) : System (PlaybackState bytes) (PlaybackAction bytes) :=
  ofFn (PlaybackInitial g bytes) (PlaybackState.step g)

section Frames

variable {g : Geometry}

theorem toNat_frameBytes (accepted : g.Accepted) :
    (frameBytes g).toNat = (jtsRingBytesPerSample g.sampleFormat).toNat * g.channels.toNat := by
  have width := Geometry.jtsRingBytesPerSample_le g.sampleFormat
  have product := Nat.mul_le_mul width accepted.channelsUpper
  rw [frameBytes, UInt64.toNat_mul, UInt32.toNat_toUInt64, Nat.mod_eq_of_lt (by omega)]

theorem slotBytes_frames (accepted : g.Accepted) :
    (jtsRingSlotBytes g).toNat = g.periodFrames.toNat * (frameBytes g).toNat := by
  rw [Geometry.toNat_jtsRingSlotBytes accepted.channelsUpper, toNat_frameBytes accepted]
  ring

theorem slotFrames_lt (accepted : g.Accepted) : g.periodFrames.toNat * (frameBytes g).toNat ≤ 65536 := by
  rw [← slotBytes_frames accepted, Geometry.toNat_jtsRingSlotBytes accepted.channelsUpper]
  exact accepted.slotCap

-- Frames of one slot, counted in bytes, are far from the wrap.
theorem toNat_stagedBytes (accepted : g.Accepted) {frames : UInt64} (within : frames.toNat ≤ g.periodFrames.toNat) :
    (frames * frameBytes g).toNat = frames.toNat * (frameBytes g).toNat := by
  have product := Nat.mul_le_mul_right (frameBytes g).toNat within
  have slot := slotFrames_lt accepted
  rw [UInt64.toNat_mul, Nat.mod_eq_of_lt (by omega)]

end Frames

namespace PlaybackPcm

variable {g : Geometry} {pcm : PlaybackPcm bytes}

theorem toNat_take {transfer : PlaybackTransfer} (capacity : pcm.stageCapacityFrames = g.periodFrames.toUInt64)
    (room : pcm.stageFrames.toNat ≤ g.periodFrames.toNat) (within : transfer.consumed.toNat ≤ transfer.size.toNat) :
    (pcm.take transfer).toNat =
      min (transfer.size.toNat - transfer.consumed.toNat) (g.periodFrames.toNat - pcm.stageFrames.toNat) := by
  have left := toNat_sub_of_le within
  have space : (pcm.stageCapacityFrames - pcm.stageFrames).toNat = g.periodFrames.toNat - pcm.stageFrames.toNat := by
    rw [capacity, toNat_sub_of_le (by rw [UInt32.toNat_toUInt64]; exact room), UInt32.toNat_toUInt64]
  simp only [take]
  split_ifs with last
  next =>
    rw [UInt64.lt_iff_toNat_lt, left, space] at last
    rw [left, Nat.min_eq_left last.le]
  next =>
    rw [UInt64.lt_iff_toNat_lt, left, space] at last
    rw [space, Nat.min_eq_right (Nat.not_lt.mp last)]

/-- What one pass of the transfer loop has done with the bytes. -/
structure Copied (g : Geometry) (pcm : PlaybackPcm bytes) (transfer : PlaybackTransfer) : Prop where
  staged : (pcm.copyIn g transfer).1.stageFrames.toNat = pcm.stageFrames.toNat + (pcm.take transfer).toNat
  consumed : (pcm.copyIn g transfer).2.consumed.toNat = transfer.consumed.toNat + (pcm.take transfer).toNat
  bytes : ∃ copied,
    held (pcm.copyIn g transfer).1.stage ((pcm.copyIn g transfer).1.stageFrames.toNat * (frameBytes g).toNat) =
        held pcm.stage (pcm.stageFrames.toNat * (frameBytes g).toNat) ++ copied ∧
      transfer.src.take ((pcm.copyIn g transfer).2.consumed.toNat * (frameBytes g).toNat) =
        transfer.src.take (transfer.consumed.toNat * (frameBytes g).toNat) ++ copied

theorem copyIn_copied (accepted : g.Accepted) (size : bytes = (jtsRingSlotBytes g).toNat)
    {transfer : PlaybackTransfer} (capacity : pcm.stageCapacityFrames = g.periodFrames.toUInt64)
    (room : pcm.stageFrames.toNat ≤ g.periodFrames.toNat) (within : transfer.consumed.toNat ≤ transfer.size.toNat)
    (whole : transfer.src.length = transfer.size.toNat * (frameBytes g).toNat) (real : transfer.src.length < 2 ^ 64) :
    Copied g pcm transfer := by
  have period := g.periodFrames.toNat_lt
  have top := transfer.size.toNat_lt
  have take := toNat_take capacity room within
  have staged : (pcm.stageFrames + pcm.take transfer).toNat = pcm.stageFrames.toNat + (pcm.take transfer).toNat :=
    toNat_add_of_lt (by omega)
  have consumed : (transfer.consumed + pcm.take transfer).toNat =
      transfer.consumed.toNat + (pcm.take transfer).toNat := toNat_add_of_lt (by omega)
  -- The three byte offsets of the memcpy, none of which wraps.
  have origin : pcm.stageBytes g = pcm.stageFrames.toNat * (frameBytes g).toNat := toNat_stagedBytes accepted room
  have length : (pcm.take transfer * frameBytes g).toNat = (pcm.take transfer).toNat * (frameBytes g).toNat :=
    toNat_stagedBytes accepted (by omega)
  have total : (transfer.consumed.toNat + (pcm.take transfer).toNat) * (frameBytes g).toNat ≤ transfer.src.length := by
    rw [whole]
    exact Nat.mul_le_mul_right _ (by omega)
  rw [Nat.add_mul] at total
  have offset : (transfer.consumed * frameBytes g).toNat = transfer.consumed.toNat * (frameBytes g).toNat := by
    rw [UInt64.toNat_mul, Nat.mod_eq_of_lt (by omega)]
  let copied := (transfer.src.drop (transfer.consumed.toNat * (frameBytes g).toNat)).take
    ((pcm.take transfer).toNat * (frameBytes g).toNat)
  have copiedLength : copied.length = (pcm.take transfer).toNat * (frameBytes g).toNat := by
    rw [List.length_take, List.length_drop]
    omega
  have fits : (pcm.stageFrames.toNat + (pcm.take transfer).toNat) * (frameBytes g).toNat ≤ bytes :=
    (Nat.mul_le_mul_right _ (by omega)).trans (size.trans (slotBytes_frames accepted)).ge
  rw [Nat.add_mul, ← copiedLength] at fits
  have appended := held_copyInto pcm.stage fits
  rw [copiedLength, ← Nat.add_mul] at appended
  refine { staged := staged, consumed := consumed, bytes := ⟨copied, ?_, ?_⟩ }
  next =>
    simp only [copyIn, origin, offset, length, staged]
    exact appended
  next =>
    simp only [copyIn, consumed]
    rw [Nat.add_mul, take_drop_next]

theorem pad_bytes (accepted : g.Accepted) (size : bytes = (jtsRingSlotBytes g).toNat)
    (capacity : pcm.stageCapacityFrames = g.periodFrames.toUInt64)
    (room : pcm.stageFrames.toNat ≤ g.periodFrames.toNat) :
    List.ofFn (pcm.pad g).stage = held pcm.stage (pcm.stageFrames.toNat * (frameBytes g).toNat) ++
      List.replicate ((pcm.stageCapacityFrames * frameBytes g).toNat - pcm.stageBytes g) 0 := by
  have origin : pcm.stageBytes g = pcm.stageFrames.toNat * (frameBytes g).toNat := toNat_stagedBytes accepted room
  have total : (pcm.stageCapacityFrames * frameBytes g).toNat = g.periodFrames.toNat * (frameBytes g).toNat := by
    rw [capacity, toNat_stagedBytes accepted (by rw [UInt32.toNat_toUInt64]), UInt32.toNat_toUInt64]
  have slot := size.trans (slotBytes_frames accepted)
  have less := Nat.mul_le_mul_right (frameBytes g).toNat room
  have length : (List.replicate (g.periodFrames.toNat * (frameBytes g).toNat -
      pcm.stageFrames.toNat * (frameBytes g).toNat) (0 : UInt8)).length =
      g.periodFrames.toNat * (frameBytes g).toNat - pcm.stageFrames.toNat * (frameBytes g).toNat :=
    List.length_replicate
  have fits : pcm.stageFrames.toNat * (frameBytes g).toNat + (List.replicate (g.periodFrames.toNat * (frameBytes g).toNat -
      pcm.stageFrames.toNat * (frameBytes g).toNat) (0 : UInt8)).length ≤ bytes := by omega
  have appended := held_copyInto pcm.stage fits
  rw [held_all _ (by omega)] at appended
  simp only [pad, origin, total]
  exact appended

end PlaybackPcm

def PlaybackCall.inFlight (g : Geometry) : PlaybackCall → List UInt8
  | .idle => []
  | .transfer request => request.src.take (request.consumed.toNat * (frameBytes g).toNat)

def slotsOf (handed : List (Handed bytes)) : List UInt8 := handed.flatMap fun entry => List.ofFn entry.slot

theorem slotsOf_append (handed : List (Handed bytes)) (entry : Handed bytes) :
    slotsOf (handed ++ [entry]) = slotsOf handed ++ List.ofFn entry.slot := by
  simp [slotsOf]

namespace PlaybackState

variable {g : Geometry} {state : PlaybackState bytes}

-- The bytes put in are the bytes handed on and the bytes held back.
structure Accounted (g : Geometry) (state : PlaybackState bytes) : Prop where
  capacity : state.pcm.stageCapacityFrames = g.periodFrames.toUInt64
  room : state.pcm.stageFrames.toNat < g.periodFrames.toNat
  bytes : slotsOf state.handed ++ held state.pcm.stage (state.pcm.stageFrames.toNat * (frameBytes g).toNat) =
    state.accepted ++ state.call.inFlight g
  transfer : ∀ transfer, state.call = .transfer transfer →
    transfer.src.length = transfer.size.toNat * (frameBytes g).toNat ∧ transfer.src.length < 2 ^ 64 ∧
      transfer.consumed.toNat ≤ transfer.size.toNat

theorem publishStage_accounted {clock : Nat → UInt64} (accepted : g.Accepted)
    (capacity : state.pcm.stageCapacityFrames = g.periodFrames.toUInt64)
    (full : slotsOf state.handed ++ List.ofFn state.pcm.stage = state.accepted ++ state.call.inFlight g)
    (transfer : ∀ transfer, state.call = .transfer transfer →
      transfer.src.length = transfer.size.toNat * (frameBytes g).toNat ∧ transfer.src.length < 2 ^ 64 ∧
        transfer.consumed.toNat ≤ transfer.size.toNat) : (state.publishStage clock).Accounted g where
  capacity := capacity
  room := accepted.period
  bytes := by
    simp only [publishStage, slotsOf_append, UInt64.toNat_zero, Nat.zero_mul, held_zero, List.append_nil]
    exact full
  transfer := transfer

theorem Accounted.transferPass (accepted : g.Accepted) (size : bytes = (jtsRingSlotBytes g).toNat)
    (accounted : state.Accounted g) {transfer : PlaybackTransfer} (call : state.call = .transfer transfer)
    (clock : Nat → UInt64) : (state.transferPass g transfer clock).Accounted g := by
  obtain ⟨whole, real, within⟩ := accounted.transfer transfer call
  have bytesBefore := accounted.bytes
  have copied := PlaybackPcm.copyIn_copied accepted size accounted.capacity accounted.room.le within whole real
  have take := PlaybackPcm.toNat_take accounted.capacity accounted.room.le within
  have room := accounted.room
  obtain ⟨chunk, staged, taken⟩ := copied.bytes
  rw [call, PlaybackCall.inFlight] at bytesBefore
  have bytesAfter : slotsOf state.handed ++ held (state.pcm.copyIn g transfer).1.stage
      ((state.pcm.copyIn g transfer).1.stageFrames.toNat * (frameBytes g).toNat) =
      state.accepted ++ (PlaybackCall.transfer (state.pcm.copyIn g transfer).2).inFlight g := by
    rw [PlaybackCall.inFlight, staged, ← List.append_assoc, bytesBefore, List.append_assoc, ← taken]
    rfl
  have inside : ∀ later, PlaybackCall.transfer (state.pcm.copyIn g transfer).2 = .transfer later →
      later.src.length = later.size.toNat * (frameBytes g).toNat ∧ later.src.length < 2 ^ 64 ∧
        later.consumed.toNat ≤ later.size.toNat := by
    intro later same
    rw [PlaybackCall.transfer.injEq] at same
    subst same
    exact ⟨whole, real, copied.consumed.trans_le (by show _ ≤ transfer.size.toNat; omega)⟩
  simp only [PlaybackState.transferPass]
  split_ifs with wants full
  next =>
    have slot := congrArg UInt64.toNat full
    have capacity : (state.pcm.copyIn g transfer).1.stageCapacityFrames.toNat = g.periodFrames.toNat :=
      (congrArg UInt64.toNat accounted.capacity).trans (UInt32.toNat_toUInt64 _)
    rw [slot, capacity, held_all _ (size.trans (slotBytes_frames accepted)).le] at bytesAfter
    exact publishStage_accounted accepted accounted.capacity bytesAfter inside
  next =>
    have capacity : (state.pcm.copyIn g transfer).1.stageCapacityFrames.toNat = g.periodFrames.toNat :=
      (congrArg UInt64.toNat accounted.capacity).trans (UInt32.toNat_toUInt64 _)
    have notFull : (state.pcm.copyIn g transfer).1.stageFrames.toNat ≠ g.periodFrames.toNat :=
      fun same => full (UInt64.toNat.inj (same.trans capacity.symm))
    have staged := copied.staged
    exact {
      capacity := accounted.capacity
      room := by dsimp only; omega
      bytes := bytesAfter
      transfer := inside }
  next =>
    rw [UInt64.lt_iff_toNat_lt] at wants
    have done : transfer.consumed.toNat = transfer.size.toNat := by omega
    exact {
      capacity := accounted.capacity
      room := accounted.room
      bytes := by
        rw [done, ← whole, List.take_length] at bytesBefore
        rw [PlaybackCall.inFlight, List.append_nil]
        exact bytesBefore
      transfer := fun later same => absurd same (by simp) }

theorem Accounted.drain (accepted : g.Accepted) (size : bytes = (jtsRingSlotBytes g).toNat)
    (accounted : state.Accounted g) (idle : state.call = .idle) (clock : Nat → UInt64) :
    (state.drain g clock).Accounted g := by
  simp only [PlaybackState.drain]
  split_ifs with partial_
  next =>
    have bytesBefore := accounted.bytes
    have padded := PlaybackPcm.pad_bytes accepted size accounted.capacity accounted.room.le
    rw [idle, PlaybackCall.inFlight, List.append_nil] at bytesBefore
    refine publishStage_accounted accepted accounted.capacity ?_ accounted.transfer
    simp only [idle, PlaybackCall.inFlight, List.append_nil]
    rw [padded, ← List.append_assoc, bytesBefore]
  next => exact accounted

/-- How one slot left the stage: into the ring, or dropped whole on a full ring whose reader is live. -/
def HandsOver (before after : PlaybackState bytes) (entry : Handed bytes) : Prop :=
  after.handed = before.handed ++ [entry] ∧
    if entry.published then
      after.memory.header.writeSeq = before.pcm.writer.writeSeq + 1 ∧
        after.memory.slots (before.pcm.writer.geometry.slotIndex before.pcm.writer.writeSeq) = entry.slot
    else
      after.memory.header.writeSeq = before.memory.header.writeSeq ∧ after.memory.slots = before.memory.slots ∧
        ¬before.pcm.writer.writeSeq - before.memory.header.readSeq < before.pcm.writer.geometry.nSlots.toUInt64 ∧
        ∃ nowNs, readerIsLive before.memory.header nowNs = true

theorem publishStage_handsOver (state : PlaybackState bytes) (clock : Nat → UInt64) :
    ∃ entry, entry.slot = state.pcm.stage ∧ state.HandsOver (state.publishStage clock) entry := by
  refine ⟨_, rfl, rfl, ?_⟩
  rcases jtsRingWriterPublish_taken state.pcm.writer state.memory clock state.pcm.stage with
    ⟨seq, header, slot⟩ | ⟨seq, header, slots, full, live⟩
  next =>
    have published : decide ((jtsRingWriterPublish state.pcm.writer state.memory clock state.pcm.stage).1.writeSeq ≠
        state.pcm.writer.writeSeq) = true := by
      rw [seq, decide_eq_true_eq]
      exact succ_ne _
    rw [if_pos published]
    exact ⟨header, slot⟩
  next =>
    have dropped : decide ((jtsRingWriterPublish state.pcm.writer state.memory clock state.pcm.stage).1.writeSeq ≠
        state.pcm.writer.writeSeq) = false := by
      rw [seq, decide_eq_false_iff_not]
      exact fun ne => ne rfl
    rw [if_neg (by rw [dropped]; exact Bool.false_ne_true)]
    exact ⟨header, slots, full, clock 1, live⟩

theorem step_handed {next : PlaybackState bytes} {action : PlaybackAction bytes}
    (move : state.step g action = some next) :
    next.handed = state.handed ∨ ∃ entry, state.HandsOver next entry := by
  cases action with
  | ring memory =>
    simp only [step, Option.some.injEq] at move
    exact .inl (move ▸ rfl)
  | transfer size src =>
    simp only [step, Option.ite_none_right_eq_some, Option.some.injEq] at move
    exact .inl (move.2 ▸ rfl)
  | advance clock =>
    cases call : state.call with
    | idle => simp [step, call] at move
    | transfer transfer =>
      simp only [step, call, Option.some.injEq, PlaybackState.transferPass] at move
      subst move
      split_ifs
      next =>
        let copied := state.pcm.copyIn g transfer
        obtain ⟨entry, -, over_⟩ :=
          publishStage_handsOver { state with pcm := copied.1, call := .transfer copied.2 } clock
        exact .inr ⟨entry, over_⟩
      next => exact .inl rfl
      next => exact .inl rfl
  | drain clock =>
    simp only [step, Option.ite_none_right_eq_some, Option.some.injEq, PlaybackState.drain] at move
    obtain ⟨-, rfl⟩ := move
    split_ifs
    next =>
      obtain ⟨entry, -, over_⟩ := publishStage_handsOver
        { state with
          pcm := state.pcm.pad g
          accepted := state.accepted ++
            List.replicate ((state.pcm.stageCapacityFrames * frameBytes g).toNat - state.pcm.stageBytes g) 0 } clock
      exact .inr ⟨entry, over_⟩
    next => exact .inl rfl

-- A drain hands over what is staged, once, with zeros up to a whole slot; with nothing staged it hands over nothing.
theorem Accounted.drain_once (accepted : g.Accepted) (size : bytes = (jtsRingSlotBytes g).toNat)
    (accounted : state.Accounted g) (clock : Nat → UInt64) :
    if state.pcm.stageFrames = 0 then state.drain g clock = state
    else (state.drain g clock).pcm.stageFrames = 0 ∧ ∃ entry zeros,
      (state.drain g clock).handed = state.handed ++ [entry] ∧
        List.ofFn entry.slot =
          held state.pcm.stage (state.pcm.stageFrames.toNat * (frameBytes g).toNat) ++ List.replicate zeros 0 := by
  have padded := PlaybackPcm.pad_bytes accepted size accounted.capacity accounted.room.le
  by_cases empty : state.pcm.stageFrames = 0
  next =>
    rw [if_pos empty, PlaybackState.drain, if_neg (by simp [empty])]
  next =>
    rw [if_neg empty, PlaybackState.drain, if_pos (UInt64.pos_iff_ne_zero.mpr empty)]
    exact ⟨rfl, _, _, rfl, padded⟩

theorem step_accounted (accepted : g.Accepted) (size : bytes = (jtsRingSlotBytes g).toNat)
    (accounted : state.Accounted g) {next : PlaybackState bytes} {action : PlaybackAction bytes}
    (move : state.step g action = some next) : next.Accounted g := by
  cases action with
  | ring memory =>
    simp only [step, Option.some.injEq] at move
    subst move
    exact { accounted with }
  | transfer frames src =>
    simp only [step, Option.ite_none_right_eq_some, Option.some.injEq] at move
    obtain ⟨⟨idle, whole, real⟩, rfl⟩ := move
    have bytesBefore := accounted.bytes
    rw [idle] at bytesBefore
    exact {
      capacity := accounted.capacity
      room := accounted.room
      bytes := by
        simpa only [PlaybackCall.inFlight, UInt64.toNat_zero, Nat.zero_mul, List.take_zero] using bytesBefore
      transfer := by
        intro transfer call
        rw [PlaybackCall.transfer.injEq] at call
        subst call
        exact ⟨whole, real, Nat.zero_le _⟩ }
  | advance clock =>
    cases call : state.call with
    | idle => simp [step, call] at move
    | transfer transfer =>
      simp only [step, call, Option.some.injEq] at move
      exact move ▸ accounted.transferPass accepted size call clock
  | drain clock =>
    simp only [step, Option.ite_none_right_eq_some, Option.some.injEq] at move
    obtain ⟨idle, rfl⟩ := move
    exact accounted.drain accepted size idle clock

end PlaybackState

theorem playback_accounted {g : Geometry} (accepted : g.Accepted) (size : bytes = (jtsRingSlotBytes g).toNat)
    {state : PlaybackState bytes} (reached : Reachable (playbackSystem g bytes) state) : state.Accounted g := by
  induction reached with
  | initial start =>
    obtain ⟨pcm, idle, handed, accepted_⟩ := start
    exact {
      capacity := by rw [pcm]; rfl
      room := by rw [pcm]; exact accepted.period
      bytes := by
        rw [pcm, handed, accepted_, idle]
        simp [slotsOf, PlaybackPcm.prepared, PlaybackCall.inFlight]
      transfer := fun transfer call => absurd (idle.symm.trans call) (by simp) }
  | step _ move ih => exact PlaybackState.step_accounted accepted size ih move

end Jts.Ioplug
