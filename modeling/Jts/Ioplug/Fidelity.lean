import Jts.Ioplug.Playback

set_option autoImplicit false

namespace Jts.Ioplug

open Jts.Ring Jts.Shared.Word Jts.Shared.Transition Jts.Shared.Buffer

variable {bytes : Nat}

-- What fills the destage buffer: one consumed slot, or one period of zeros.
inductive CaptureSource (bytes : Nat)
  | slot (readSeq : UInt64) (payload : Payload bytes)
  | silence

def CaptureSource.content : CaptureSource bytes → List UInt8
  | .slot _ payload => List.ofFn payload
  | .silence => List.replicate bytes 0

structure CaptureStream (bytes : Nat) where
  state : CaptureState bytes
  -- History: the fillings of the destage buffer, oldest first.
  supplied : List (CaptureSource bytes)

inductive CaptureStreamAction (bytes : Nat)
  | ring (memory : Memory bytes)
  | tick (pointer : Bool)
  | transfer (size : UInt64)
  | advance (nowNs : UInt64)

-- The filling that the next step of the call under way brings.
def CaptureState.supplies (state : CaptureState bytes) (g : Geometry) : List (CaptureSource bytes) :=
  match state.call with
  | .transfer transfer =>
    if transfer.delivered < transfer.size ∧ ¬0 < state.pcm.stageFrames ∧
        g.periodFrames.toUInt64 ≤ state.pcm.pendingSilenceFrames then [.silence]
    else []
  | .consume _ =>
    match state.pcm.reader with
    | none => []
    | some reader =>
      if state.memory.header.writeSeq = reader.readSeq then []
      else [.slot reader.readSeq (state.memory.slots (reader.geometry.slotIndex reader.readSeq))]
  | _ => []

namespace CaptureStream

-- Any ring, any transfer size: nothing here asks what ALSA has granted.
def step (g : Geometry) (stream : CaptureStream bytes) :
    CaptureStreamAction bytes → Option (CaptureStream bytes)
  | .ring memory => some { stream with state := { stream.state with memory := memory } }
  | .tick pointer =>
    if stream.state.call = .idle then some { stream with state := stream.state.tick pointer } else none
  | .transfer size =>
    if stream.state.call = .idle then
      some { stream with
        state := { stream.state with call := .transfer { size := size, delivered := 0, out := [] } } }
    else none
  | .advance nowNs =>
    (stream.state.advance g nowNs).map fun next =>
      { state := next, supplied := stream.supplied ++ stream.state.supplies g }

end CaptureStream

-- Right behind a prepare that has attached a reader.
structure CaptureStreamInitial (g : Geometry) (stream : CaptureStream bytes) : Prop where
  reader : ∃ reader, stream.state.pcm.reader = some reader
  capacity : stream.state.pcm.stageCapacityFrames = g.periodFrames.toUInt64
  reset : stream.state.pcm = stream.state.pcm.reset
  idle : stream.state.call = .idle
  returned : stream.state.returned = []
  supplied : stream.supplied = []

def captureStreamSystem (g : Geometry) (bytes : Nat) : System (CaptureStream bytes) (CaptureStreamAction bytes) :=
  ofFn (CaptureStreamInitial g) (CaptureStream.step g)

def CaptureCall.out : CaptureCall → List UInt8
  | .transfer request | .consume request => request.out
  | _ => []

def outOf (returned : List CaptureTransfer) : List UInt8 := returned.flatMap CaptureTransfer.out

def suppliedOf (supplied : List (CaptureSource bytes)) : List UInt8 := supplied.flatMap CaptureSource.content

theorem suppliedOf_append (supplied more : List (CaptureSource bytes)) :
    suppliedOf (supplied ++ more) = suppliedOf supplied ++ suppliedOf more := by
  simp [suppliedOf]

theorem outOf_append (returned : List CaptureTransfer) (transfer : CaptureTransfer) :
    outOf (returned ++ [transfer]) = outOf returned ++ transfer.out := by
  simp [outOf]

def CapturePcm.unreadStage (pcm : CapturePcm bytes) (g : Geometry) : List UInt8 :=
  unread pcm.stage ((g.periodFrames.toNat - pcm.stageFrames.toNat) * (frameBytes g).toNat)

-- What a copy out delivers is the head of what was unread.
theorem CapturePcm.copyOut_bytes {g : Geometry} (accepted : g.Accepted) {pcm : CapturePcm bytes}
    {transfer : CaptureTransfer} (capacity : pcm.stageCapacityFrames = g.periodFrames.toUInt64)
    (staged : pcm.stageFrames.toNat ≤ g.periodFrames.toNat)
    (within : transfer.delivered.toNat ≤ transfer.size.toNat) :
    ∃ copied, (pcm.copyOut g transfer).2.out = transfer.out ++ copied ∧
      copied ++ (pcm.copyOut g transfer).1.unreadStage g = pcm.unreadStage g := by
  obtain ⟨frames, -⟩ := pcm.copyOut_frames g within
  have left := toNat_sub_of_le within
  have origin : (pcm.stageCapacityFrames - pcm.stageFrames).toNat =
      g.periodFrames.toNat - pcm.stageFrames.toNat := by
    rw [capacity, toNat_sub_of_le (by rw [UInt32.toNat_toUInt64]; exact staged), UInt32.toNat_toUInt64]
  have offset : ((pcm.stageCapacityFrames - pcm.stageFrames) * frameBytes g).toNat =
      (g.periodFrames.toNat - pcm.stageFrames.toNat) * (frameBytes g).toNat := by
    rw [toNat_stagedBytes accepted (by omega), origin]
  refine ⟨_, rfl, ?_⟩
  rw [CapturePcm.unreadStage, CapturePcm.unreadStage, frames, offset]
  show List.take _ (unread pcm.stage _) ++ unread pcm.stage _ = _
  generalize shown : (if transfer.size - transfer.delivered < pcm.stageFrames then
    transfer.size - transfer.delivered else pcm.stageFrames) = take
  have takeFrames : take.toNat = min (transfer.size.toNat - transfer.delivered.toNat) pcm.stageFrames.toNat := by
    rw [← shown]
    split_ifs with last
    next =>
      rw [UInt64.lt_iff_toNat_lt, left] at last
      omega
    next =>
      rw [UInt64.lt_iff_toNat_lt, left] at last
      omega
  have further : g.periodFrames.toNat - (pcm.stageFrames.toNat -
      min (transfer.size.toNat - transfer.delivered.toNat) pcm.stageFrames.toNat) =
      (g.periodFrames.toNat - pcm.stageFrames.toNat) + take.toNat := by
    omega
  rw [toNat_stagedBytes accepted (by omega), further, Nat.add_mul]
  exact unread_take _ _ _

namespace CaptureState

-- The bytes supplied are the bytes returned, those on the way, and those not yet read.
structure Served (g : Geometry) (state : CaptureState bytes) (supplied : List UInt8) : Prop where
  opened : ∃ reader, state.pcm.reader = some reader
  capacity : state.pcm.stageCapacityFrames = g.periodFrames.toUInt64
  staged : state.pcm.stageFrames.toNat ≤ g.periodFrames.toNat
  within : state.call.delivered.toNat ≤ state.call.size.toNat
  consuming : ∀ transfer, state.call = .consume transfer → state.pcm.stageFrames = 0
  bytes : outOf state.returned ++ state.call.out ++ state.pcm.unreadStage g = supplied

variable {g : Geometry} {state : CaptureState bytes} {supplied : List UInt8}

theorem unreadStage_drained (accepted : g.Accepted) (size : bytes = (jtsRingSlotBytes g).toNat)
    {pcm : CapturePcm bytes} (drained : pcm.stageFrames.toNat = 0) : pcm.unreadStage g = [] := by
  rw [CapturePcm.unreadStage, drained, Nat.sub_zero]
  exact unread_all _ (size.trans (slotBytes_frames accepted)).le

theorem unreadStage_full {pcm : CapturePcm bytes} (capacity : pcm.stageCapacityFrames = g.periodFrames.toUInt64)
    (full : pcm.stageFrames = pcm.stageCapacityFrames) : pcm.unreadStage g = List.ofFn pcm.stage := by
  rw [CapturePcm.unreadStage, full, capacity, UInt32.toNat_toUInt64, Nat.sub_self, Nat.zero_mul, unread_zero]

-- A copy out moves the next frames of the stage behind what is on the way.
theorem Served.copyOut (accepted : g.Accepted) (served : state.Served g supplied) {transfer : CaptureTransfer}
    (call : state.call = .transfer transfer) : (state.copyOut g state.pcm transfer).Served g supplied := by
  have within := served.within
  have bytesBefore := served.bytes
  rw [call] at within bytesBefore
  obtain ⟨frames, delivered⟩ := CapturePcm.copyOut_frames g within
  obtain ⟨copied, out, rest⟩ := CapturePcm.copyOut_bytes accepted served.capacity served.staged within
  exact {
    opened := served.opened
    capacity := served.capacity
    staged := (frames.trans_le (Nat.sub_le _ _)).trans served.staged
    within := by
      have bound : transfer.delivered.toNat ≤ transfer.size.toNat := within
      show (state.pcm.copyOut g transfer).2.delivered.toNat ≤ transfer.size.toNat
      omega
    consuming := fun other same => absurd same (by simp [CaptureState.copyOut])
    bytes := by
      show outOf state.returned ++ (state.pcm.copyOut g transfer).2.out ++
        (state.pcm.copyOut g transfer).1.unreadStage g = supplied
      rw [out, List.append_assoc, List.append_assoc, rest, ← List.append_assoc]
      exact bytesBefore }

-- A filling is appended to what is supplied, and is unread as a whole.
theorem Served.fill (accepted : g.Accepted) (size : bytes = (jtsRingSlotBytes g).toNat)
    (served : state.Served g supplied) {transfer : CaptureTransfer}
    (call : state.call = .transfer transfer ∨ state.call = .consume transfer)
    (drained : state.pcm.stageFrames.toNat = 0) (pcm : CapturePcm bytes) (opened : ∃ reader, pcm.reader = some reader)
    (capacity : pcm.stageCapacityFrames = state.pcm.stageCapacityFrames)
    (full : pcm.stageFrames = pcm.stageCapacityFrames) (memory : Memory bytes) :
    { state with memory := memory, pcm := pcm, call := .transfer transfer }.Served g
      (supplied ++ List.ofFn pcm.stage) := by
  have filled : pcm.stageCapacityFrames = g.periodFrames.toUInt64 := capacity.trans served.capacity
  have bytesBefore := served.bytes
  rw [unreadStage_drained accepted size drained, List.append_nil] at bytesBefore
  have within := served.within
  exact {
    opened := opened
    capacity := filled
    staged := by
      dsimp only
      rw [full, filled, UInt32.toNat_toUInt64]
    within := by rcases call with call | call <;> rw [call] at within <;> exact within
    consuming := fun other same => absurd same (by simp)
    bytes := by
      rw [unreadStage_full filled full]
      rcases call with call | call <;> rw [call] at bytesBefore <;> exact congrArg (· ++ List.ofFn pcm.stage) bytesBefore }

theorem Served.finish (served : state.Served g supplied) {transfer : CaptureTransfer}
    (call : state.call = .transfer transfer ∨ state.call = .consume transfer) :
    (state.finish transfer).Served g supplied where
  opened := served.opened
  capacity := served.capacity
  staged := served.staged
  within := le_rfl
  consuming := fun other same => absurd same (by simp [CaptureState.finish])
  bytes := by
    have bytesBefore := served.bytes
    simp only [CaptureState.finish, CaptureCall.out, outOf_append, List.append_nil]
    rcases call with call | call <;> rw [call] at bytesBefore <;> exact bytesBefore

-- The steps that touch neither the destage buffer nor the bytes on the way.
theorem Served.relabel (served : state.Served g supplied) {next : CaptureState bytes}
    (opened : ∃ reader, next.pcm.reader = some reader) (stage : next.pcm.stage = state.pcm.stage)
    (frames : next.pcm.stageFrames = state.pcm.stageFrames)
    (capacity : next.pcm.stageCapacityFrames = state.pcm.stageCapacityFrames) (returned : next.returned = state.returned)
    (out : next.call.out = state.call.out) (within : next.call.delivered.toNat ≤ next.call.size.toNat)
    (consuming : ∀ transfer, next.call = .consume transfer → state.pcm.stageFrames = 0) : next.Served g supplied where
  opened := opened
  capacity := capacity.trans served.capacity
  staged := by
    rw [frames]
    exact served.staged
  within := within
  consuming := by
    rw [frames]
    exact consuming
  bytes := by
    rw [returned, out, CapturePcm.unreadStage, stage, frames]
    exact served.bytes

theorem Served.transferPass (accepted : g.Accepted) (size : bytes = (jtsRingSlotBytes g).toNat)
    (served : state.Served g supplied) {transfer : CaptureTransfer} (call : state.call = .transfer transfer)
    (nowNs : UInt64) {next : CaptureState bytes} (passed : state.transferPass g transfer nowNs = some next) :
    next.Served g (supplied ++ suppliedOf (state.supplies g)) := by
  have none_ : supplied ++ suppliedOf ([] : List (CaptureSource bytes)) = supplied := List.append_nil supplied
  unfold CaptureState.transferPass at passed
  simp only [CaptureState.supplies, call]
  split_ifs at passed with wants staged armed
  next =>
    rw [Option.some.injEq] at passed
    rw [if_neg (fun silent => silent.2.1 staged), none_, ← passed]
    exact served.copyOut accepted call
  next =>
    have drained : state.pcm.stageFrames.toNat = 0 := by
      rw [UInt64.lt_iff_toNat_lt, UInt64.toNat_zero] at staged
      omega
    have zeros : suppliedOf [(CaptureSource.silence : CaptureSource bytes)] = List.ofFn (Payload.zero bytes) := by
      rw [suppliedOf, List.flatMap_singleton, CaptureSource.content]
      exact (List.ofFn_const bytes 0).symm
    rw [Option.some.injEq] at passed
    rw [if_pos ⟨wants, staged, armed⟩, zeros, ← passed]
    have filled := served.fill accepted size (.inl call) drained (state.pcm.fabricate g) served.opened rfl rfl
      state.memory
    exact filled.copyOut accepted rfl
  next =>
    have drained : state.pcm.stageFrames = 0 := by
      rw [UInt64.lt_iff_toNat_lt, UInt64.toNat_zero] at staged
      exact UInt64.toNat.inj (by rw [UInt64.toNat_zero]; omega)
    have within := served.within
    rw [Option.map_eq_some_iff] at passed
    obtain ⟨reader, -, rfl⟩ := passed
    rw [if_neg (fun silent => armed silent.2.2), none_]
    rw [call] at within
    exact served.relabel ⟨_, rfl⟩ rfl rfl rfl rfl (by rw [call]; rfl) within (fun _ _ => drained)
  next =>
    rw [Option.some.injEq] at passed
    rw [if_neg (fun silent => wants silent.1), none_, ← passed]
    exact served.finish (.inl call)

theorem Served.endConsume (accepted : g.Accepted) (size : bytes = (jtsRingSlotBytes g).toNat)
    (served : state.Served g supplied) {transfer : CaptureTransfer} (call : state.call = .consume transfer)
    {reader : JtsRingReader} (opened : state.pcm.reader = some reader) :
    (state.endConsume g reader transfer).Served g (supplied ++ suppliedOf (state.supplies g)) := by
  have drained := congrArg UInt64.toNat (served.consuming transfer call)
  rw [UInt64.toNat_zero] at drained
  simp only [CaptureState.supplies, call, opened, CaptureState.endConsume]
  split_ifs with caughtUp
  next =>
    rw [suppliedOf, List.flatMap_nil, List.append_nil]
    -- The empty read clears the stage, of which nothing was unread.
    have cleared : { state with
        pcm := { state.pcm with reader := some reader.countEmpty, stage := Payload.zero bytes } }.Served g supplied := {
      opened := ⟨_, rfl⟩
      capacity := served.capacity
      staged := served.staged
      within := served.within
      consuming := served.consuming
      bytes := by
        have bytesBefore := served.bytes
        rw [unreadStage_drained accepted size drained] at bytesBefore
        have nothing : CapturePcm.unreadStage { state.pcm with
            reader := some reader.countEmpty, stage := Payload.zero bytes } g = [] :=
          unreadStage_drained accepted size drained
        rw [nothing]
        exact bytesBefore }
    exact cleared.finish (.inr call)
  next =>
    have content : suppliedOf [CaptureSource.slot reader.readSeq
        (state.memory.slots (reader.geometry.slotIndex reader.readSeq))] =
        List.ofFn (state.memory.slots (reader.geometry.slotIndex reader.readSeq)) := by
      rw [suppliedOf, List.flatMap_singleton, CaptureSource.content]
    rw [content]
    let filled := reader.countFilled (reader.readSeq + 1) state.memory.header.writeSeq
    let slot := state.memory.slots (reader.geometry.slotIndex reader.readSeq)
    have filled_ := served.fill accepted size (.inr call) drained
      ({ state.pcm with reader := some filled }.destaged slot) ⟨_, rfl⟩ rfl rfl
      { state.memory with header := state.memory.header.storeReadSeq (reader.readSeq + 1) }
    exact filled_.copyOut accepted rfl

theorem Served.advance (accepted : g.Accepted) (size : bytes = (jtsRingSlotBytes g).toNat)
    (served : state.Served g supplied) (nowNs : UInt64) {next : CaptureState bytes}
    (moved : state.advance g nowNs = some next) : next.Served g (supplied ++ suppliedOf (state.supplies g)) := by
  have none_ : supplied ++ suppliedOf ([] : List (CaptureSource bytes)) = supplied := List.append_nil supplied
  unfold CaptureState.advance at moved
  split at moved
  next => cases moved
  next call =>
    rw [Option.some.injEq] at moved
    subst moved
    rw [supplies, call, none_]
    exact served.relabel served.opened rfl rfl rfl rfl (by rw [call]; rfl) le_rfl (by simp)
  next call =>
    rw [Option.some.injEq] at moved
    subst moved
    rw [supplies, call, none_]
    exact served.relabel served.opened rfl rfl rfl rfl (by rw [call]; rfl) le_rfl (by simp)
  next pointer pid heartbeatNs checkedNs call =>
    rw [Option.some.injEq] at moved
    subst moved
    rw [supplies, call, none_]
    have kept : { state with
        pcm := state.pcm.armSilence g (stampIsLive pid heartbeatNs checkedNs)
          (state.pcm.occupancySlots state.memory.header) nowNs }.Served g supplied := by
      rcases state.pcm.armSilence_cases g (stampIsLive pid heartbeatNs checkedNs)
        (state.pcm.occupancySlots state.memory.header) nowNs with same | ⟨-, armed⟩
      next => rwa [same]
      next =>
        rw [armed]
        exact served.relabel served.opened rfl rfl rfl rfl rfl served.within served.consuming
    rw [afterTick]
    cases pointer with
    | false => exact kept.relabel kept.opened rfl rfl rfl rfl (by rw [call]; rfl) le_rfl (by simp)
    | true => exact kept.relabel kept.opened rfl rfl rfl rfl (by rw [call]; rfl) le_rfl (by simp)
  next call =>
    rw [Option.some.injEq] at moved
    subst moved
    rw [supplies, call, none_]
    exact served.relabel served.opened rfl rfl rfl rfl (by rw [call]; rfl) le_rfl (by simp)
  next transfer call => exact served.transferPass accepted size call nowNs moved
  next transfer call =>
    rw [Option.map_eq_some_iff] at moved
    obtain ⟨reader, opened, rfl⟩ := moved
    exact served.endConsume accepted size call opened

theorem Served.tick (served : state.Served g supplied) (idle : state.call = .idle) (pointer : Bool) :
    (state.tick pointer).Served g supplied := by
  obtain ⟨reader, opened⟩ := served.opened
  simp only [CaptureState.tick, opened]
  exact served.relabel ⟨_, rfl⟩ rfl rfl rfl rfl (by rw [idle]; rfl) le_rfl (by simp)

end CaptureState

theorem capture_stream_served {g : Geometry} (accepted : g.Accepted) (size : bytes = (jtsRingSlotBytes g).toNat)
    {stream : CaptureStream bytes} (reached : Reachable (captureStreamSystem g bytes) stream) :
    stream.state.Served g (suppliedOf stream.supplied) := by
  induction reached with
  | initial start =>
    have drained : ∀ pcm : CapturePcm bytes, pcm = pcm.reset → pcm.stageFrames = 0 :=
      fun pcm reset => by rw [reset]; rfl
    have empty := drained _ start.reset
    exact {
      opened := start.reader
      capacity := start.capacity
      staged := by rw [empty]; exact Nat.zero_le _
      within := by rw [start.idle]; exact le_rfl
      consuming := fun transfer call => absurd (start.idle.symm.trans call) (by simp)
      bytes := by
        rw [start.returned, start.idle, start.supplied,
          CaptureState.unreadStage_drained accepted size (congrArg UInt64.toNat empty)]
        rfl }
  | @step stream next action _ move ih =>
    change CaptureStream.step g stream action = some next at move
    cases action with
    | ring memory =>
      simp only [CaptureStream.step, Option.some.injEq] at move
      subst move
      exact ih.relabel ih.opened rfl rfl rfl rfl rfl ih.within ih.consuming
    | tick pointer =>
      simp only [CaptureStream.step, Option.ite_none_right_eq_some, Option.some.injEq] at move
      obtain ⟨idle, rfl⟩ := move
      exact ih.tick idle pointer
    | transfer frames =>
      simp only [CaptureStream.step, Option.ite_none_right_eq_some, Option.some.injEq] at move
      obtain ⟨idle, rfl⟩ := move
      exact ih.relabel ih.opened rfl rfl rfl rfl (by rw [idle]; rfl) (Nat.zero_le _) (by simp)
    | advance nowNs =>
      simp only [CaptureStream.step, Option.map_eq_some_iff] at move
      obtain ⟨after, moved, rfl⟩ := move
      rw [suppliedOf_append]
      exact ih.advance accepted size nowNs moved

-- A consumed slot leaves the ring by its own read_seq: the reader goes on to the next.
theorem consumed_slot_is_passed {g : Geometry} {state next : CaptureState bytes} {nowNs : UInt64}
    {readSeq : UInt64} {payload : Payload bytes} (moved : state.advance g nowNs = some next)
    (supplied : CaptureSource.slot readSeq payload ∈ state.supplies g) :
    (∃ reader, state.pcm.reader = some reader ∧ reader.readSeq = readSeq ∧ state.memory.header.writeSeq ≠ readSeq ∧
        payload = state.memory.slots (reader.geometry.slotIndex readSeq)) ∧
      ∃ reader, next.pcm.reader = some reader ∧ reader.readSeq = readSeq + 1 := by
  cases call : state.call with
  | consume transfer =>
    simp only [CaptureState.supplies, call] at supplied
    simp only [CaptureState.advance, call] at moved
    cases opened : state.pcm.reader with
    | none => simp [opened] at moved
    | some reader =>
      simp only [opened] at supplied
      split_ifs at supplied with caughtUp
      next => simp at supplied
      next =>
        rw [opened, Option.map_some, Option.some.injEq, CaptureState.endConsume, if_neg caughtUp] at moved
        simp only [List.mem_singleton, CaptureSource.slot.injEq] at supplied
        obtain ⟨rfl, rfl⟩ := supplied
        subst moved
        exact ⟨⟨reader, rfl, rfl, caughtUp, rfl⟩, ⟨_, rfl, rfl⟩⟩
  | transfer transfer =>
    simp only [CaptureState.supplies, call] at supplied
    split_ifs at supplied <;> simp at supplied
  | _ => simp [CaptureState.supplies, call] at supplied

theorem ioplug_carries_every_byte {g : Geometry} (valid : jtsRingGeometryValidate g = none) :
    (∀ state : PlaybackState (jtsRingSlotBytes g).toNat,
        Reachable (playbackSystem g (jtsRingSlotBytes g).toNat) state →
        slotsOf state.handed ++ held state.pcm.stage (state.pcm.stageFrames.toNat * (frameBytes g).toNat) =
            state.accepted ++ state.call.inFlight g ∧
          (∀ action next, state.step g action = some next →
            next.handed = state.handed ∨ ∃ entry, state.HandsOver next entry) ∧
          ∀ clock, if state.pcm.stageFrames = 0 then state.drain g clock = state
            else (state.drain g clock).pcm.stageFrames = 0 ∧ ∃ entry zeros,
              (state.drain g clock).handed = state.handed ++ [entry] ∧
                List.ofFn entry.slot =
                  held state.pcm.stage (state.pcm.stageFrames.toNat * (frameBytes g).toNat) ++
                    List.replicate zeros 0) ∧
      ∀ stream : CaptureStream (jtsRingSlotBytes g).toNat,
        Reachable (captureStreamSystem g (jtsRingSlotBytes g).toNat) stream →
        outOf stream.state.returned ++ stream.state.call.out ++ stream.state.pcm.unreadStage g =
            suppliedOf stream.supplied ∧
          ∀ nowNs next readSeq payload, stream.state.advance g nowNs = some next →
            CaptureSource.slot readSeq payload ∈ stream.state.supplies g →
            (∃ reader, stream.state.pcm.reader = some reader ∧ reader.readSeq = readSeq ∧
                stream.state.memory.header.writeSeq ≠ readSeq ∧
                payload = stream.state.memory.slots (reader.geometry.slotIndex readSeq)) ∧
              ∃ reader, next.pcm.reader = some reader ∧ reader.readSeq = readSeq + 1 := by
  have accepted := Geometry.jtsRingGeometryValidate_none.mp valid
  constructor
  next =>
    intro state reached
    have accounted := playback_accounted accepted rfl reached
    exact ⟨accounted.bytes, fun action next move => PlaybackState.step_handed move,
      fun clock => accounted.drain_once accepted rfl clock⟩
  next =>
    intro stream reached
    exact ⟨(capture_stream_served accepted rfl reached).bytes, fun nowNs next readSeq payload moved supplied =>
      consumed_slot_is_passed moved supplied⟩

-- Two slots of two frames, both published and unread, under a reader whose heartbeat is fresh.
def fullRing : Memory 8 where
  header := { Header.zero with writeSeq := 2, readSeq := 0, readerPid := 9, readerHeartbeatNs := 100 }
  slots := fun _ => Payload.zero 8

def attachedPlayback (memory : Memory 8) : PlaybackState 8 where
  memory := memory
  pcm := PlaybackPcm.prepared 8 twoFrameSlots.geometry (jtsRingWriterAttach twoFrameSlots.geometry memory.header 7 50).1
  call := .idle
  handed := []
  accepted := []

def threeFrames : List UInt8 := [1, 2, 3, 4, 5, 6, 7, 8, 9, 10, 11, 12]

-- Three frames and a drain: one slot of the frames, and one of the last frame and zeros.
theorem ioplug_carries_every_byte_of_three_frames :
    ∃ state : PlaybackState 8, (state.handed.map fun entry => (List.ofFn entry.slot, entry.published)) =
        [([1, 2, 3, 4, 5, 6, 7, 8], true), ([9, 10, 11, 12, 0, 0, 0, 0], true)] ∧
      slotsOf state.handed ++ held state.pcm.stage (state.pcm.stageFrames.toNat * 4) =
        state.accepted ++ state.call.inFlight twoFrameSlots.geometry := by
  let memory : Memory 8 := { header := .zero, slots := fun _ => Payload.zero 8 }
  let clock : Nat → UInt64 := fun _ => 60
  let actions : List (PlaybackAction 8) :=
    [.transfer 3 threeFrames, .advance clock, .advance clock, .advance clock, .drain clock]
  have start : PlaybackInitial twoFrameSlots.geometry 8 (attachedPlayback memory) := ⟨rfl, rfl, rfl, rfl⟩
  have runs : (execute (PlaybackState.step twoFrameSlots.geometry) (attachedPlayback memory) actions).isSome = true := by
    decide
  obtain ⟨state, ran⟩ := Option.isSome_iff_exists.mp runs
  have facts : ∀ state ∈ execute (PlaybackState.step twoFrameSlots.geometry) (attachedPlayback memory) actions,
      (state.handed.map fun entry => (List.ofFn entry.slot, entry.published)) =
        [([1, 2, 3, 4, 5, 6, 7, 8], true), ([9, 10, 11, 12, 0, 0, 0, 0], true)] := by
    decide
  have law := ioplug_carries_every_byte (show jtsRingGeometryValidate twoFrameSlots.geometry = none by decide)
  exact ⟨state, facts state ran, (law.1 state (reachable_of_execute start ran)).1⟩

-- A live reader that stands still: the slot is given up, and the written frames are nowhere.
theorem slot_given_up_on_a_full_ring :
    ∃ state : PlaybackState 8, Reachable (playbackSystem twoFrameSlots.geometry 8) state ∧ state.call = .idle ∧
      state.accepted = [1, 2, 3, 4, 5, 6, 7, 8] ∧
      slotsOf (state.handed.filter Handed.published) ++ held state.pcm.stage (state.pcm.stageFrames.toNat * 4) ≠
        state.accepted := by
  let clock : Nat → UInt64 := fun _ => 200
  let actions : List (PlaybackAction 8) := [.transfer 2 (threeFrames.take 8), .advance clock, .advance clock]
  have start : PlaybackInitial twoFrameSlots.geometry 8 (attachedPlayback fullRing) := ⟨rfl, rfl, rfl, rfl⟩
  have runs : (execute (PlaybackState.step twoFrameSlots.geometry) (attachedPlayback fullRing) actions).isSome = true := by
    decide
  obtain ⟨state, ran⟩ := Option.isSome_iff_exists.mp runs
  have facts : ∀ state ∈ execute (PlaybackState.step twoFrameSlots.geometry) (attachedPlayback fullRing) actions,
      state.call = .idle ∧ state.accepted = [1, 2, 3, 4, 5, 6, 7, 8] ∧
        slotsOf (state.handed.filter Handed.published) ++ held state.pcm.stage (state.pcm.stageFrames.toNat * 4) =
          [] := by
    decide
  obtain ⟨idle, accepted, lost⟩ := facts state ran
  refine ⟨state, reachable_of_execute start ran, idle, accepted, ?_⟩
  rw [lost, accepted]
  decide

end Jts.Ioplug
