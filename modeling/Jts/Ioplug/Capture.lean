import Jts.Ioplug.Pointer
import Jts.Ring.Reader
import Jts.Ring.Writer
import Jts.Shared.Transition

set_option autoImplicit false

namespace Jts.Ioplug

/-- The frames of a capture stream: three stores, two positions and the transfer under way. -/
structure Books where
  ringSlots : Nat
  destage : Nat
  silence : Nat
  appl : Nat
  reported : Nat
  size : Nat
  delivered : Nat

namespace Books

def readable (books : Books) (period : Nat) : Nat := books.ringSlots * period + books.destage + books.silence

-- What has been reported is in the stores or in the hands of the application.
structure Sound (nSlots period : Nat) (books : Books) : Prop where
  unlapped : books.ringSlots ≤ nSlots
  destage : books.destage ≤ period
  silence : books.silence = 0 ∨ books.silence = period
  covered : books.reported ≤ books.appl + books.delivered + books.readable period
  owed : books.appl + books.size ≤ books.reported
  within : books.delivered ≤ books.size

namespace Sound

variable {nSlots period : Nat} {books : Books}

theorem publish (sound : books.Sound nSlots period) (room : books.ringSlots < nSlots) :
    { books with ringSlots := books.ringSlots + 1 }.Sound nSlots period := by
  have covered := sound.covered
  have more := Nat.add_one_mul books.ringSlots period
  refine { sound with unlapped := room, covered := ?_ }
  simp only [readable] at covered ⊢
  omega

theorem arm (sound : books.Sound nSlots period) : { books with silence := period }.Sound nSlots period := by
  have covered := sound.covered
  have silence := sound.silence
  refine { sound with silence := .inr rfl, covered := ?_ }
  simp only [readable] at covered ⊢
  omega

theorem report (sound : books.Sound nSlots period) (idle : books.delivered = 0) {reported : Nat}
    (forward : books.reported ≤ reported) (shown : reported ≤ max books.reported (books.appl + books.readable period)) :
    { books with reported := reported }.Sound nSlots period := by
  have covered := sound.covered
  refine { sound with covered := ?_, owed := sound.owed.trans forward }
  simp only [readable] at covered shown ⊢
  omega

theorem grant (sound : books.Sound nSlots period) (idle : books.delivered = 0) {size : Nat}
    (available : size ≤ books.reported - books.appl) : { books with size := size }.Sound nSlots period := by
  have owed := sound.owed
  refine { sound with owed := ?_, within := ?_ } <;> dsimp only <;> omega

theorem fabricate (sound : books.Sound nSlots period) (drained : books.destage = 0) (armed : books.silence = period) :
    { books with destage := period, silence := 0 }.Sound nSlots period := by
  have covered := sound.covered
  refine { sound with destage := le_rfl, silence := .inl rfl, covered := ?_ }
  simp only [readable] at covered ⊢
  omega

theorem consume (sound : books.Sound nSlots period) (drained : books.destage = 0) {ringSlots : Nat}
    (filled : ringSlots + 1 = books.ringSlots) :
    { books with ringSlots := ringSlots, destage := period }.Sound nSlots period := by
  have covered := sound.covered
  have unlapped := sound.unlapped
  have fewer := Nat.add_one_mul ringSlots period
  simp only [readable, ← filled] at covered unlapped
  refine { sound with unlapped := by dsimp only; omega, destage := le_rfl, covered := ?_ }
  simp only [readable]
  omega

theorem copy (sound : books.Sound nSlots period) {take : Nat} (staged : take ≤ books.destage)
    (wanted : take ≤ books.size - books.delivered) :
    { books with destage := books.destage - take, delivered := books.delivered + take }.Sound nSlots period := by
  have covered := sound.covered
  have destage := sound.destage
  have within := sound.within
  refine { sound with destage := ?_, covered := ?_, within := ?_ }
  all_goals simp only [readable] at covered ⊢
  all_goals omega

theorem finish (sound : books.Sound nSlots period) (full : books.delivered = books.size) :
    { books with appl := books.appl + books.delivered, size := 0, delivered := 0 }.Sound nSlots period := by
  have covered := sound.covered
  have owed := sound.owed
  refine { sound with covered := ?_, owed := ?_, within := le_rfl }
  all_goals simp only [readable] at covered ⊢
  all_goals omega

/-- A transfer that still wants frames finds some in one of the three stores. -/
theorem deliverable (sound : books.Sound nSlots period) (wants : books.delivered < books.size) :
    0 < books.ringSlots ∨ 0 < books.destage ∨ books.silence = period := by
  have covered := sound.covered
  have owed := sound.owed
  have silence := sound.silence
  by_contra empty
  rw [not_or, not_or, Nat.not_lt, Nat.not_lt, Nat.le_zero, Nat.le_zero] at empty
  simp only [readable, empty.1, empty.2.1, Nat.zero_mul] at covered
  omega

end Sound

end Books

open Jts.Ring Jts.Shared.Word Jts.Shared.Position Jts.Shared.Transition

variable {bytes : Nat}

def jtsRingPeriodNs (periodFrames rate : UInt32) : UInt64 :=
  if rate = 0 then 0 else periodFrames.toUInt64 * 1000000000 / rate.toUInt64

def frameBytes (g : Geometry) : UInt64 := jtsRingBytesPerSample g.sampleFormat * g.channels.toUInt64

-- The plugin struct of a capture stream; no reader is a stream that is not opened.
structure CapturePcm (bytes : Nat) where
  reader : Option JtsRingReader
  stage : Payload bytes
  stageFrames : UInt64
  stageCapacityFrames : UInt64
  applFrames : UInt64
  pendingSilenceFrames : UInt64
  silencePeriods : UInt64
  transferStarvedNaps : UInt64
  lastSilenceNs : UInt64
  ptrState : PointerState

def CapturePcm.fresh (bytes : Nat) : CapturePcm bytes where
  reader := none
  stage := Payload.zero bytes
  stageFrames := 0
  stageCapacityFrames := 0
  applFrames := 0
  pendingSilenceFrames := 0
  silencePeriods := 0
  transferStarvedNaps := 0
  lastSilenceNs := 0
  ptrState := pointerStateReset

structure CaptureTransfer where
  size : UInt64
  delivered : UInt64
  out : List UInt8
  deriving DecidableEq, Repr

namespace CapturePcm

def reset (pcm : CapturePcm bytes) : CapturePcm bytes :=
  { pcm with
    stageFrames := 0, applFrames := 0, pendingSilenceFrames := 0, silencePeriods := 0
    transferStarvedNaps := 0, lastSilenceNs := 0, ptrState := pointerStateReset }

-- A refused open (EBUSY) leaves the stream as it was.
def prepare (pcm : CapturePcm bytes) (g : Geometry) (header : Header) (pid : UInt64) (clock : Nat → UInt64) :
    CapturePcm bytes × Header :=
  match pcm.reader with
  | some _ => (pcm.reset, header)
  | none =>
    match jtsRingReaderAttach g header pid clock with
    | none => (pcm, header)
    | some (reader, header) =>
      ({ pcm.reset with
         reader := some reader, stage := Payload.zero bytes, stageCapacityFrames := g.periodFrames.toUInt64 }, header)

def occupancySlots (pcm : CapturePcm bytes) (header : Header) : UInt64 :=
  match pcm.reader with
  | none => 0
  | some reader => header.writeSeq - reader.readSeq

-- The tail of capture_service_tick, from the load of the occupancy on.
def armSilence (pcm : CapturePcm bytes) (g : Geometry) (writerLive : Bool) (occupancy nowNs : UInt64) :
    CapturePcm bytes :=
  let realEmpty := captureOccupancyBounded occupancy g.nSlots = 0 ∧ pcm.stageFrames = 0
  if writerLive = false ∧ realEmpty ∧ pcm.pendingSilenceFrames < g.periodFrames.toUInt64 then
    if pcm.lastSilenceNs = 0 ∨ jtsRingPeriodNs g.periodFrames rateHz ≤ nowNs - pcm.lastSilenceNs then
      { pcm with pendingSilenceFrames := g.periodFrames.toUInt64, lastSilenceNs := nowNs }
    else pcm
  else pcm

def pointerInputs (pcm : CapturePcm bytes) (g : Geometry) (occupancy : UInt64) : CapturePointerInputs where
  applFrames := pcm.applFrames
  occupancySlots := occupancy
  destageFrames := pcm.stageFrames
  pendingSilenceFrames := pcm.pendingSilenceFrames
  periodFrames := g.periodFrames
  bufferSize := bufferSize g

def report (pcm : CapturePcm bytes) (g : Geometry) (occupancy : UInt64) : CapturePcm bytes × UInt64 :=
  let reported := capturePointerReport pcm.ptrState (pcm.pointerInputs g occupancy)
  ({ pcm with ptrState := reported.1 }, reported.2 % bufferSize g)

-- The armed period, served before anything in the ring.
def fabricate (pcm : CapturePcm bytes) (g : Geometry) : CapturePcm bytes :=
  { pcm with
    stage := Payload.zero bytes
    pendingSilenceFrames := pcm.pendingSilenceFrames - g.periodFrames.toUInt64
    stageFrames := pcm.stageCapacityFrames, silencePeriods := pcm.silencePeriods + 1 }

def destaged (pcm : CapturePcm bytes) (slot : Payload bytes) : CapturePcm bytes :=
  { pcm with stage := slot, stageFrames := pcm.stageCapacityFrames, lastSilenceNs := 0 }

-- The copy out of the destage buffer, from the first frame not yet read.
def copyOut (pcm : CapturePcm bytes) (g : Geometry) (transfer : CaptureTransfer) :
    CapturePcm bytes × CaptureTransfer :=
  let origin := pcm.stageCapacityFrames - pcm.stageFrames
  let left := transfer.size - transfer.delivered
  let take := if left < pcm.stageFrames then left else pcm.stageFrames
  let copied := ((List.ofFn pcm.stage).drop (origin * frameBytes g).toNat).take (take * frameBytes g).toNat
  ({ pcm with stageFrames := pcm.stageFrames - take },
    { transfer with delivered := transfer.delivered + take, out := transfer.out ++ copied })

def finish (pcm : CapturePcm bytes) (transfer : CaptureTransfer) : CapturePcm bytes :=
  { pcm with
    transferStarvedNaps :=
      if transfer.delivered = 0 ∧ 0 < transfer.size then pcm.transferStarvedNaps + 1 else pcm.transferStarvedNaps
    applFrames := pcm.applFrames + transfer.delivered }

end CapturePcm

-- Where the callback under way stands; each constructor waits for one load of the shared header.
inductive CaptureCall
  | idle
  | writerPid (pointer : Bool)
  | heartbeat (pointer : Bool) (pid : UInt64)
  | occupancy (pointer : Bool) (pid heartbeatNs nowNs : UInt64)
  | report
  | transfer (transfer : CaptureTransfer)
  | consume (transfer : CaptureTransfer)
  deriving DecidableEq, Repr

structure CaptureState (bytes : Nat) where
  memory : Memory bytes
  pcm : CapturePcm bytes
  call : CaptureCall
  -- The position that ALSA makes of the returned positions, and the transfers that have returned.
  hwPtr : Nat
  returned : List CaptureTransfer

structure CaptureConfig where
  geometry : Geometry
  pid : UInt64
  deriving DecidableEq, Repr

inductive CaptureAction (bytes : Nat)
  | publish (payload : Payload bytes)
  | stamp (pid heartbeatNs epoch : UInt64)
  | prepare (clock : Nat → UInt64)
  | tick (pointer : Bool)
  | transfer (size : UInt64)
  | advance (nowNs : UInt64)

-- ALSA sees each position modulo the buffer and takes the forward distance to it.
def mmapHwForward (hwPtr returned buffer : Nat) : Nat :=
  hwPtr + ((((returned % buffer : Nat) : Int) - ((hwPtr % buffer : Nat) : Int)) % buffer).toNat

namespace CaptureState

-- After the service tick: the pointer callback goes on to its report, poll_revents only reads.
def afterTick (state : CaptureState bytes) (pointer : Bool) : CaptureState bytes :=
  { state with call := if pointer then .report else .idle }

def finish (state : CaptureState bytes) (transfer : CaptureTransfer) : CaptureState bytes :=
  { state with
    pcm := state.pcm.finish transfer, call := .idle, returned := state.returned ++ [transfer] }

def copyOut (state : CaptureState bytes) (g : Geometry) (pcm : CapturePcm bytes) (transfer : CaptureTransfer) :
    CaptureState bytes :=
  { state with pcm := (pcm.copyOut g transfer).1, call := .transfer (pcm.copyOut g transfer).2 }

-- jts_ring_reader_consume up to its own load of write_seq.
def beginConsume (state : CaptureState bytes) (reader : JtsRingReader) (transfer : CaptureTransfer)
    (nowNs : UInt64) : CaptureState bytes :=
  let header := state.memory.header.storeReaderHeartbeatNs nowNs
  let synced := jtsRingReaderResyncIfOverrun (reader.observeEpoch header.writerEpoch) header
  { state with
    memory := { state.memory with header := synced.2.1 }
    pcm := { state.pcm with reader := some synced.1 }, call := .consume transfer }

-- And from it on: an empty ring ends the transfer short.
def endConsume (state : CaptureState bytes) (g : Geometry) (reader : JtsRingReader) (transfer : CaptureTransfer) :
    CaptureState bytes :=
  let header := state.memory.header
  let rr := reader.readSeq
  if header.writeSeq = rr then
    { state with
      pcm := { state.pcm with reader := some reader.countEmpty, stage := Payload.zero bytes } }.finish transfer
  else
    { state with memory := { state.memory with header := header.storeReadSeq (rr + 1) } }.copyOut g
      ({ state.pcm with reader := some (reader.countFilled (rr + 1) header.writeSeq) }.destaged
        (state.memory.slots (reader.geometry.slotIndex rr))) transfer

-- One pass of the transfer loop: its test, the refill, the copy.
def transferPass (state : CaptureState bytes) (g : Geometry) (transfer : CaptureTransfer) (nowNs : UInt64) :
    Option (CaptureState bytes) :=
  if transfer.delivered < transfer.size then
    if 0 < state.pcm.stageFrames then some (state.copyOut g state.pcm transfer)
    else if g.periodFrames.toUInt64 ≤ state.pcm.pendingSilenceFrames then
      some (state.copyOut g (state.pcm.fabricate g) transfer)
    else state.pcm.reader.map fun reader => state.beginConsume reader transfer nowNs
  else some (state.finish transfer)

def tick (state : CaptureState bytes) (pointer : Bool) : CaptureState bytes :=
  match state.pcm.reader with
  | none => state.afterTick pointer
  | some reader =>
    let synced := jtsRingReaderResyncIfOverrun reader state.memory.header
    { state with
      memory := { state.memory with header := synced.2.1 }
      pcm := { state.pcm with reader := some synced.1 }, call := .writerPid pointer }

def advance (state : CaptureState bytes) (g : Geometry) (nowNs : UInt64) : Option (CaptureState bytes) :=
  match state.call with
  | .idle => none
  | .writerPid pointer => some { state with call := .heartbeat pointer state.memory.header.writerPid }
  | .heartbeat pointer pid =>
    some { state with call := .occupancy pointer pid state.memory.header.writerHeartbeatNs nowNs }
  | .occupancy pointer pid heartbeatNs checkedNs =>
    some ({ state with
      pcm := state.pcm.armSilence g (stampIsLive pid heartbeatNs checkedNs)
        (state.pcm.occupancySlots state.memory.header) nowNs }.afterTick pointer)
  | .report =>
    let reported := state.pcm.report g (state.pcm.occupancySlots state.memory.header)
    some { state with
      pcm := reported.1, call := .idle
      hwPtr := mmapHwForward state.hwPtr reported.2.toNat (bufferSize g).toNat }
  | .transfer transfer => state.transferPass g transfer nowNs
  | .consume transfer => state.pcm.reader.map fun reader => state.endConsume g reader transfer

-- A publish never laps the reader, and ALSA grants a transfer what is left between its two positions; it clears
-- both before it calls prepare.
def step (config : CaptureConfig) (state : CaptureState bytes) : CaptureAction bytes → Option (CaptureState bytes)
  | .publish payload =>
    if state.pcm.reader = none ∨
        state.pcm.occupancySlots state.memory.header < config.geometry.nSlots.toUInt64 then
      some { state with
        memory :=
          { writeSlotBytes config.geometry state.memory state.memory.header.writeSeq payload with
            header := state.memory.header.storeWriteSeq (state.memory.header.writeSeq + 1) } }
    else none
  | .stamp pid heartbeatNs epoch =>
    some { state with
      memory := { state.memory with
        header := ((state.memory.header.storeWriterPid pid).storeWriterHeartbeatNs heartbeatNs).storeWriterEpoch
          epoch } }
  | .prepare clock =>
    if state.call = .idle then
      let prepared := state.pcm.prepare config.geometry state.memory.header config.pid clock
      some { state with memory := { state.memory with header := prepared.2 }, pcm := prepared.1, hwPtr := 0 }
    else none
  | .tick pointer => if state.call = .idle then some (state.tick pointer) else none
  | .transfer size =>
    if state.call = .idle ∧ size.toNat ≤ state.hwPtr - state.pcm.applFrames.toNat then
      some { state with call := .transfer { size := size, delivered := 0, out := [] } }
    else none
  | .advance nowNs => state.advance config.geometry nowNs

end CaptureState

def CaptureInitial (bytes : Nat) (state : CaptureState bytes) : Prop :=
  state.pcm = CapturePcm.fresh bytes ∧ state.call = .idle ∧ state.hwPtr = 0 ∧ state.returned = []

def captureSystem (config : CaptureConfig) (bytes : Nat) : System (CaptureState bytes) (CaptureAction bytes) :=
  ofFn (CaptureInitial bytes) (CaptureState.step config)

namespace CaptureCall

def size : CaptureCall → UInt64
  | .transfer request | .consume request => request.size
  | _ => 0

def delivered : CaptureCall → UInt64
  | .transfer request | .consume request => request.delivered
  | _ => 0

-- The points that only the callbacks of an opened stream come to.
def attached : CaptureCall → Bool
  | .writerPid _ | .heartbeat _ _ | .occupancy _ _ _ _ | .consume _ => true
  | _ => false

-- A bound on the passes that the transfer under way still takes.
def work : CaptureCall → Nat
  | .transfer request => 2 * (request.size.toNat - request.delivered.toNat) + 2
  | .consume request => 2 * (request.size.toNat - request.delivered.toNat) + 1
  | _ => 0

end CaptureCall

namespace CaptureState

def books (state : CaptureState bytes) : Books where
  ringSlots := (state.pcm.occupancySlots state.memory.header).toNat
  destage := state.pcm.stageFrames.toNat
  silence := state.pcm.pendingSilenceFrames.toNat
  appl := state.pcm.applFrames.toNat
  reported := state.pcm.ptrState.position
  size := state.call.size.toNat
  delivered := state.call.delivered.toNat

-- What a stream has before its first prepare.
structure Unopened (state : CaptureState bytes) : Prop where
  stage : state.pcm.stageFrames = 0
  silence : state.pcm.pendingSilenceFrames = 0
  reported : state.pcm.ptrState.position = 0
  call : state.call.attached = false

structure Opened (g : Geometry) (reader : JtsRingReader) (state : CaptureState bytes) : Prop where
  geometry : reader.geometry = g
  capacity : state.pcm.stageCapacityFrames = g.periodFrames.toUInt64
  consuming : ∀ transfer, state.call = .consume transfer →
    state.pcm.stageFrames = 0 ∧ state.pcm.pendingSilenceFrames = 0 ∧ transfer.delivered < transfer.size

structure Granted (g : Geometry) (state : CaptureState bytes) : Prop where
  books : state.books.Sound g.nSlots.toNat g.periodFrames.toNat
  unopened : state.pcm.reader = none → state.Unopened
  opened : ∀ reader, state.pcm.reader = some reader → state.Opened g reader
  hwPtr : state.hwPtr = state.pcm.ptrState.position
  naps : state.pcm.transferStarvedNaps = 0
  full : ∀ transfer ∈ state.returned, transfer.delivered = transfer.size

end CaptureState

theorem resync_within {reader : JtsRingReader} {header : Header}
    (within : (header.writeSeq - reader.readSeq).toNat ≤ reader.geometry.nSlots.toNat) :
    jtsRingReaderResyncIfOverrun reader header = (reader, header, false) := by
  apply if_neg
  rw [UInt64.lt_iff_toNat_lt, UInt32.toNat_toUInt64]
  omega

theorem jtsRingReaderAttach_some {g : Geometry} {header : Header} {pid : UInt64} {clock : Nat → UInt64}
    {attached : JtsRingReader × Header} (attach : jtsRingReaderAttach g header pid clock = some attached) :
    attached.1.geometry = g ∧ attached.1.readSeq = header.writeSeq ∧ attached.2.writeSeq = header.writeSeq := by
  rw [jtsRingReaderAttach] at attach
  split at attach
  next => simp at attach
  next =>
    rw [Option.some.injEq] at attach
    subst attach
    exact ⟨rfl, rfl, rfl⟩

theorem captureOccupancyBounded_le (occupancy : UInt64) (nSlots : UInt32) :
    (captureOccupancyBounded occupancy nSlots).toNat ≤ occupancy.toNat := by
  unfold captureOccupancyBounded
  split_ifs
  next => exact Nat.zero_le _
  next => exact le_rfl

theorem captureOccupancyBounded_within {occupancy : UInt64} {nSlots : UInt32}
    (within : occupancy.toNat ≤ nSlots.toNat) : captureOccupancyBounded occupancy nSlots = occupancy := by
  apply if_neg
  rw [UInt64.lt_iff_toNat_lt, UInt32.toNat_toUInt64]
  omega

theorem toNat_add_le (a b : UInt64) : (a + b).toNat ≤ a.toNat + b.toNat := by
  rw [UInt64.toNat_add]
  exact Nat.mod_le _ _

theorem toNat_mul_le (a b : UInt64) : (a * b).toNat ≤ a.toNat * b.toNat := by
  rw [UInt64.toNat_mul]
  exact Nat.mod_le _ _

-- Whatever wraps in the sum makes the honest position smaller.
theorem CapturePointerInputs.honest_le (input : CapturePointerInputs) :
    input.honest.toNat ≤ input.applFrames.toNat + (input.occupancySlots.toNat * input.periodFrames.toNat +
      input.destageFrames.toNat + input.pendingSilenceFrames.toNat) := by
  have occupancy : input.boundedOccupancy.toNat ≤ input.occupancySlots.toNat := captureOccupancyBounded_le _ _
  have product := (toNat_mul_le input.boundedOccupancy input.periodFrames.toUInt64).trans
    (Nat.mul_le_mul_right _ occupancy)
  rw [UInt32.toNat_toUInt64] at product
  have ring := toNat_add_le (input.boundedOccupancy * input.periodFrames.toUInt64) input.destageFrames
  have readable := toNat_add_le (input.boundedOccupancy * input.periodFrames.toUInt64 + input.destageFrames)
    input.pendingSilenceFrames
  have sum := toNat_add_le input.applFrames (input.boundedOccupancy * input.periodFrames.toUInt64 +
    input.destageFrames + input.pendingSilenceFrames)
  unfold honest
  omega

theorem mmapHwForward_eq {last next buffer maxAdvance : Nat} (small : maxAdvance < buffer)
    (advances : Advances maxAdvance last next) : mmapHwForward last (next % buffer) buffer = next := by
  rw [mmapHwForward, Nat.mod_mod, modular_step small advances]
  obtain ⟨forward, -⟩ := advances
  omega

namespace CapturePcm

theorem occupancySlots_some {pcm : CapturePcm bytes} {reader : JtsRingReader} (opened : pcm.reader = some reader)
    (header : Header) : pcm.occupancySlots header = header.writeSeq - reader.readSeq := by
  simp only [occupancySlots, opened]

theorem occupancySlots_none {pcm : CapturePcm bytes} (unopened : pcm.reader = none) (header : Header) :
    pcm.occupancySlots header = 0 := by
  simp only [occupancySlots, unopened]

theorem armSilence_cases (pcm : CapturePcm bytes) (g : Geometry) (writerLive : Bool) (occupancy nowNs : UInt64) :
    pcm.armSilence g writerLive occupancy nowNs = pcm ∨
      (writerLive = false ∧ captureOccupancyBounded occupancy g.nSlots = 0 ∧ pcm.stageFrames = 0) ∧
        pcm.armSilence g writerLive occupancy nowNs =
          { pcm with pendingSilenceFrames := g.periodFrames.toUInt64, lastSilenceNs := nowNs } := by
  simp only [armSilence]
  split_ifs with due clock
  next => exact .inr ⟨⟨due.1, due.2.1⟩, rfl⟩
  next => exact .inl rfl
  next => exact .inl rfl

theorem copyOut_frames {pcm : CapturePcm bytes} (g : Geometry) {transfer : CaptureTransfer}
    (within : transfer.delivered.toNat ≤ transfer.size.toNat) :
    let take := min (transfer.size.toNat - transfer.delivered.toNat) pcm.stageFrames.toNat
    (pcm.copyOut g transfer).1.stageFrames.toNat = pcm.stageFrames.toNat - take ∧
      (pcm.copyOut g transfer).2.delivered.toNat = transfer.delivered.toNat + take := by
  have left := toNat_sub_of_le within
  have top := transfer.size.toNat_lt
  simp only [copyOut]
  split_ifs with last
  next =>
    rw [UInt64.lt_iff_toNat_lt, left] at last
    rw [toNat_sub_of_le (by omega), toNat_add_of_lt (by omega), left]
    omega
  next =>
    rw [UInt64.lt_iff_toNat_lt, left] at last
    rw [toNat_sub_of_le le_rfl, toNat_add_of_lt (by omega)]
    omega

end CapturePcm

namespace CaptureState

variable {g : Geometry} {state : CaptureState bytes}

theorem Granted.unlapped (granted : state.Granted g) {reader : JtsRingReader}
    (opened : state.pcm.reader = some reader) :
    (state.memory.header.writeSeq - reader.readSeq).toNat ≤ reader.geometry.nSlots.toNat := by
  rw [(granted.opened reader opened).geometry, ← CapturePcm.occupancySlots_some opened]
  exact granted.books.unlapped

-- The steps that leave the frames alone: a stamp of the writer, the loads of a service tick.
theorem Granted.relabel (granted : state.Granted g) {memory : Memory bytes} {call : CaptureCall}
    (seq : memory.header.writeSeq = state.memory.header.writeSeq) (size : call.size = state.call.size)
    (delivered : call.delivered = state.call.delivered)
    (attached : state.pcm.reader = none → call.attached = false)
    (consuming : ∀ transfer, call = .consume transfer → state.call = .consume transfer) :
    { state with memory := memory, call := call }.Granted g where
  books := by
    have same : { state with memory := memory, call := call }.books = state.books := by
      simp only [CaptureState.books, CapturePcm.occupancySlots, seq, size, delivered]
    exact same ▸ granted.books
  unopened unopened := { granted.unopened unopened with call := attached unopened }
  opened reader opened :=
    { granted.opened reader opened with
      consuming := fun transfer call => (granted.opened reader opened).consuming transfer (consuming transfer call) }
  hwPtr := granted.hwPtr
  naps := granted.naps
  full := granted.full

theorem Granted.publish (granted : state.Granted g)
    (room : state.pcm.reader = none ∨ state.pcm.occupancySlots state.memory.header < g.nSlots.toUInt64)
    (slots : Nat → Payload bytes) :
    { state with
      memory :=
        { header := state.memory.header.storeWriteSeq (state.memory.header.writeSeq + 1), slots := slots } }.Granted
      g := by
  cases opened : state.pcm.reader with
  | none =>
    exact {
      granted with
      books := by
        have sound := granted.books
        simp only [CaptureState.books, CapturePcm.occupancySlots_none opened] at sound ⊢
        exact sound
      unopened := fun unopened => { granted.unopened unopened with }
      opened := fun reader attached => absurd (opened.symm.trans attached) (by simp) }
  | some reader =>
    have within : (state.memory.header.writeSeq - reader.readSeq).toNat < g.nSlots.toNat := by
      have fits := room.resolve_left (by simp [opened])
      rw [UInt64.lt_iff_toNat_lt, UInt32.toNat_toUInt64, CapturePcm.occupancySlots_some opened] at fits
      exact fits
    have top := g.nSlots.toNat_lt
    have published := granted.books.publish (by
      rw [CaptureState.books, CapturePcm.occupancySlots_some opened]
      exact within)
    have longer := toNat_succ_sub (w := state.memory.header.writeSeq) (r := reader.readSeq) (by omega)
    exact {
      granted with
      books := by
        simp only [CaptureState.books, CapturePcm.occupancySlots_some opened] at published ⊢
        rw [Header.storeWriteSeq_writeSeq, longer]
        exact published
      unopened := fun unopened => absurd (opened.symm.trans unopened) (by simp)
      opened := fun reader attached => { granted.opened reader attached with } }

-- A stream that prepare has just reset owes nothing.
theorem granted_of_reset {reader : JtsRingReader} (idle : state.call = .idle) (reset : state.pcm = state.pcm.reset)
    (opened : state.pcm.reader = some reader) (geometry : reader.geometry = g)
    (capacity : state.pcm.stageCapacityFrames = g.periodFrames.toUInt64)
    (within : (state.memory.header.writeSeq - reader.readSeq).toNat ≤ g.nSlots.toNat) (hwPtr : state.hwPtr = 0)
    (full : ∀ transfer ∈ state.returned, transfer.delivered = transfer.size) : state.Granted g := by
  have books : state.books = { state.books with
      destage := 0, silence := 0, appl := 0, reported := 0, size := 0, delivered := 0 } := by
    simp only [CaptureState.books, idle]
    rw [reset]
    rfl
  exact {
    books := by
      rw [books]
      exact {
        unlapped := by rw [CaptureState.books, CapturePcm.occupancySlots_some opened]; exact within
        destage := Nat.zero_le _
        silence := .inl rfl
        covered := Nat.zero_le _
        owed := le_rfl
        within := le_rfl }
    unopened := fun unopened => absurd (opened.symm.trans unopened) (by simp)
    opened := fun attached isReader => {
      geometry := by
        rw [opened, Option.some.injEq] at isReader
        exact isReader ▸ geometry
      capacity := capacity
      consuming := fun transfer call => absurd (idle.symm.trans call) (by simp) }
    hwPtr := by rw [hwPtr, reset]; rfl
    naps := by rw [reset]; rfl
    full := full }

theorem Granted.prepare (granted : state.Granted g) (idle : state.call = .idle) (pid : UInt64) (clock : Nat → UInt64) :
    { state with
      memory := { state.memory with header := (state.pcm.prepare g state.memory.header pid clock).2 }
      pcm := (state.pcm.prepare g state.memory.header pid clock).1, hwPtr := 0 }.Granted g := by
  cases opened : state.pcm.reader with
  | some reader =>
    have same : state.pcm.prepare g state.memory.header pid clock = (state.pcm.reset, state.memory.header) := by
      simp only [CapturePcm.prepare, opened]
    have within := granted.unlapped opened
    have before := granted.opened reader opened
    rw [before.geometry] at within
    rw [same]
    exact granted_of_reset idle rfl opened before.geometry before.capacity within rfl granted.full
  | none =>
    have fresh := granted.unopened opened
    cases attach : jtsRingReaderAttach g state.memory.header pid clock with
    | none =>
      have same : state.pcm.prepare g state.memory.header pid clock = (state.pcm, state.memory.header) := by
        simp only [CapturePcm.prepare, opened, attach]
      rw [same]
      exact {
        books := granted.books
        unopened := fun _ => { fresh with }
        opened := fun reader attached => absurd (opened.symm.trans attached) (by simp)
        hwPtr := fresh.reported.symm
        naps := granted.naps
        full := granted.full }
    | some attached =>
      obtain ⟨geometry, readSeq, writeSeq⟩ := jtsRingReaderAttach_some attach
      have same : state.pcm.prepare g state.memory.header pid clock =
          ({ state.pcm.reset with
             reader := some attached.1, stage := Payload.zero bytes, stageCapacityFrames := g.periodFrames.toUInt64 },
            attached.2) := by
        simp only [CapturePcm.prepare, opened, attach]
      have within : (attached.2.writeSeq - attached.1.readSeq).toNat ≤ g.nSlots.toNat := by
        rw [readSeq, writeSeq, UInt64.sub_self, UInt64.toNat_zero]
        exact Nat.zero_le _
      rw [same]
      exact granted_of_reset idle rfl rfl geometry rfl within rfl granted.full

theorem Granted.tick (granted : state.Granted g) (idle : state.call = .idle) (pointer : Bool) :
    (state.tick pointer).Granted g := by
  have size : ∀ call : CaptureCall, call.work = 0 → call.size = state.call.size := by
    intro call none_
    rw [idle]
    cases call <;> first | rfl | simp [CaptureCall.work] at none_
  have delivered : ∀ call : CaptureCall, call.work = 0 → call.delivered = state.call.delivered := by
    intro call none_
    rw [idle]
    cases call <;> first | rfl | simp [CaptureCall.work] at none_
  cases opened : state.pcm.reader with
  | none =>
    have ticked : state.tick pointer = state.afterTick pointer := by simp only [CaptureState.tick, opened]
    rw [ticked, afterTick]
    cases pointer with
    | false => exact granted.relabel rfl (size _ rfl) (delivered _ rfl) (fun _ => rfl) (by simp)
    | true => exact granted.relabel rfl (size _ rfl) (delivered _ rfl) (fun _ => rfl) (by simp)
  | some reader =>
    have ticked : state.tick pointer = { state with call := .writerPid pointer } := by
      simp only [CaptureState.tick, opened, resync_within (granted.unlapped opened)]
      rw [← opened]
    rw [ticked]
    exact granted.relabel rfl (size _ rfl) (delivered _ rfl) (by simp [opened]) (by simp)

theorem Granted.armSilence (granted : state.Granted g) {reader : JtsRingReader}
    (opened : state.pcm.reader = some reader) (consuming : ∀ transfer, state.call ≠ .consume transfer)
    (writerLive : Bool) (occupancy nowNs : UInt64) :
    { state with pcm := state.pcm.armSilence g writerLive occupancy nowNs }.Granted g := by
  rcases state.pcm.armSilence_cases g writerLive occupancy nowNs with same | ⟨-, armed⟩
  next => rwa [same]
  next =>
    rw [armed]
    exact {
      books := by
        have silence := granted.books.arm
        rw [← UInt32.toNat_toUInt64] at silence ⊢
        exact silence
      unopened := fun unopened => absurd (opened.symm.trans unopened) (by simp)
      opened := fun attached isReader =>
        { granted.opened attached isReader with
          consuming := fun transfer call => absurd call (consuming transfer) }
      hwPtr := granted.hwPtr
      naps := granted.naps
      full := granted.full }

theorem Granted.unopened_honest (granted : state.Granted g) (unopened : state.pcm.reader = none) :
    (state.pcm.pointerInputs g (state.pcm.occupancySlots state.memory.header)).honest.toNat = 0 := by
  have fresh := granted.unopened unopened
  have owed := granted.books.owed
  have honest := (state.pcm.pointerInputs g (state.pcm.occupancySlots state.memory.header)).honest_le
  simp only [CaptureState.books, fresh.reported] at owed
  rw [CapturePcm.occupancySlots_none unopened] at honest ⊢
  simp only [CapturePcm.pointerInputs, fresh.stage, fresh.silence, UInt64.toNat_zero, Nat.zero_mul] at honest ⊢
  omega

theorem Granted.report (accepted : g.Accepted) (granted : state.Granted g) (delivered : state.call.delivered = 0)
    (size : state.call.size = 0) :
    let reported := state.pcm.report g (state.pcm.occupancySlots state.memory.header)
    { state with
      pcm := reported.1, call := .idle
      hwPtr := mmapHwForward state.hwPtr reported.2.toNat (bufferSize g).toNat }.Granted g := by
  let input := state.pcm.pointerInputs g (state.pcm.occupancySlots state.memory.header)
  have buffer := toNat_bufferSize accepted
  have product := Nat.le_mul_of_pos_left g.periodFrames.toNat
    (show 0 < g.nSlots.toNat from Nat.lt_of_lt_of_le (by decide) accepted.slotsLower)
  have period := accepted.period
  have forward := capturePointerReport_forward (bufferSize g) g.periodFrames state.pcm.ptrState input ⟨rfl, rfl⟩
  have honest := input.honest_le
  have returned : (capturePointerReport state.pcm.ptrState input).2.toNat =
      (capturePointerReport state.pcm.ptrState input).1.position := rfl
  have sound := granted.books.report (by simp only [CaptureState.books, delivered]; rfl) forward.1
    (forward.2.2.trans (max_le_max le_rfl honest))
  intro reported
  exact {
    books := by
      simp only [CaptureState.books, size, delivered] at sound ⊢
      exact sound
    unopened := fun unopened => {
      stage := (granted.unopened unopened).stage
      silence := (granted.unopened unopened).silence
      reported := by
        have still := forward.2.2.trans_eq
          (congrArg₂ max (granted.unopened unopened).reported (granted.unopened_honest unopened))
        exact Nat.le_zero.mp still
      call := rfl }
    opened := fun reader opened =>
      { granted.opened reader opened with consuming := fun transfer call => absurd call (by simp) }
    hwPtr := by
      rw [granted.hwPtr]
      show mmapHwForward _ ((capturePointerReport state.pcm.ptrState input).2 % bufferSize g).toNat _ = _
      rw [UInt64.toNat_mod, returned]
      exact mmapHwForward_eq (by omega) ⟨forward.1, forward.2.1⟩
    naps := granted.naps
    full := granted.full }

theorem Granted.grant (granted : state.Granted g) (idle : state.call = .idle) {size : UInt64}
    (available : size.toNat ≤ state.hwPtr - state.pcm.applFrames.toNat) :
    { state with call := .transfer { size := size, delivered := 0, out := [] } }.Granted g := by
  rw [granted.hwPtr] at available
  have sound := granted.books.grant (by rw [CaptureState.books, idle]; rfl) available
  exact {
    books := by
      simp only [CaptureState.books, idle] at sound ⊢
      exact sound
    unopened := fun unopened => { granted.unopened unopened with call := rfl }
    opened := fun reader opened =>
      { granted.opened reader opened with consuming := fun transfer call => absurd call (by simp) }
    hwPtr := granted.hwPtr
    naps := granted.naps
    full := granted.full }

-- The copy moves frames from the destage buffer to the application.
theorem Granted.copyOut (granted : state.Granted g) {transfer : CaptureTransfer} (call : state.call = .transfer transfer)
    : (state.copyOut g state.pcm transfer).Granted g := by
  have within : transfer.delivered.toNat ≤ transfer.size.toNat := by
    have within := granted.books.within
    simpa only [CaptureState.books, call, CaptureCall.size, CaptureCall.delivered] using within
  obtain ⟨stage, delivered⟩ := state.pcm.copyOut_frames g within
  have sound := granted.books.copy
    (show min (transfer.size.toNat - transfer.delivered.toNat) state.pcm.stageFrames.toNat ≤ state.books.destage from
      min_le_right _ _)
    (by simp only [CaptureState.books, call]; exact min_le_left _ _)
  exact {
    books := by
      simp only [CaptureState.books, call, CaptureCall.size, CaptureCall.delivered, ← stage, ← delivered] at sound
      exact sound
    unopened := fun unopened => {
      stage := by
        have none_ := (granted.unopened unopened).stage
        rw [none_, UInt64.toNat_zero, Nat.zero_sub] at stage
        exact UInt64.toNat.inj stage
      silence := (granted.unopened unopened).silence
      reported := (granted.unopened unopened).reported
      call := rfl }
    opened := fun reader opened =>
      { granted.opened reader opened with consuming := fun other call => absurd call (by simp [CaptureState.copyOut]) }
    hwPtr := granted.hwPtr
    naps := granted.naps
    full := granted.full }

theorem Granted.finish (granted : state.Granted g) {transfer : CaptureTransfer} (call : state.call = .transfer transfer)
    (full : transfer.delivered = transfer.size) : (state.finish transfer).Granted g := by
  have sound := granted.books.finish (by simp only [CaptureState.books, call, CaptureCall.size, CaptureCall.delivered, full])
  have owed := granted.books.owed
  simp only [CaptureState.books, call, CaptureCall.size] at owed
  have top := state.pcm.ptrState.lastReported.toNat_lt
  have position : state.pcm.ptrState.position = state.pcm.ptrState.lastReported.toNat := rfl
  have appl : (state.pcm.applFrames + transfer.delivered).toNat =
      state.pcm.applFrames.toNat + transfer.delivered.toNat := toNat_add_of_lt (by rw [full]; omega)
  exact {
    books := by
      simp only [CaptureState.books, call, CaptureCall.delivered, ← appl] at sound
      exact sound
    unopened := fun unopened => { granted.unopened unopened with call := rfl }
    opened := fun reader opened =>
      { granted.opened reader opened with consuming := fun other call => absurd call (by simp [CaptureState.finish]) }
    hwPtr := granted.hwPtr
    naps := by
      have served : ¬(transfer.delivered = 0 ∧ 0 < transfer.size) := by
        rw [full]
        exact fun starved => absurd starved.2 (by simp [starved.1])
      simp only [CaptureState.finish, CapturePcm.finish, if_neg served]
      exact granted.naps
    full := by
      intro returned inside
      simp only [CaptureState.finish, List.mem_append, List.mem_singleton] at inside
      rcases inside with before | rfl
      next => exact granted.full returned before
      next => exact full }

-- An armed period is exactly one period, and only an opened stream has one.
theorem Granted.armed (accepted : g.Accepted) (granted : state.Granted g)
    (armed : g.periodFrames.toUInt64 ≤ state.pcm.pendingSilenceFrames) :
    state.pcm.pendingSilenceFrames.toNat = g.periodFrames.toNat ∧
      state.pcm.stageCapacityFrames.toNat = g.periodFrames.toNat ∧ ∃ reader, state.pcm.reader = some reader := by
  rw [UInt64.le_iff_toNat_le, UInt32.toNat_toUInt64] at armed
  have period := accepted.period
  have silence : state.pcm.pendingSilenceFrames.toNat = g.periodFrames.toNat := by
    rcases granted.books.silence with none_ | full
    next => exact absurd none_ (by simp only [CaptureState.books]; omega)
    next => exact full
  cases opened : state.pcm.reader with
  | none =>
    rw [(granted.unopened opened).silence, UInt64.toNat_zero] at silence
    omega
  | some reader =>
    have capacity := congrArg UInt64.toNat (granted.opened reader opened).capacity
    rw [UInt32.toNat_toUInt64] at capacity
    exact ⟨silence, capacity, reader, rfl⟩

theorem Granted.fabricate (accepted : g.Accepted) (granted : state.Granted g) {transfer : CaptureTransfer}
    (call : state.call = .transfer transfer) (drained : state.pcm.stageFrames.toNat = 0)
    (armed : g.periodFrames.toUInt64 ≤ state.pcm.pendingSilenceFrames) :
    { state with pcm := state.pcm.fabricate g }.Granted g := by
  obtain ⟨silence, capacity, reader, opened⟩ := granted.armed accepted armed
  have spent : (state.pcm.pendingSilenceFrames - g.periodFrames.toUInt64).toNat = 0 := by
    rw [toNat_sub_of_le (UInt64.le_iff_toNat_le.mp armed), UInt32.toNat_toUInt64, silence, Nat.sub_self]
  have sound := granted.books.fabricate drained silence
  exact {
    books := by
      simp only [CaptureState.books, CapturePcm.fabricate, capacity, spent] at sound ⊢
      exact sound
    unopened := fun unopened => absurd (opened.symm.trans unopened) (by simp)
    opened := fun attached isReader =>
      { granted.opened attached isReader with
        consuming := fun other consume => absurd (call.symm.trans consume) (by simp) }
    hwPtr := granted.hwPtr
    naps := granted.naps
    full := granted.full }

theorem Granted.beginConsume (granted : state.Granted g) {reader : JtsRingReader}
    (opened : state.pcm.reader = some reader) {transfer : CaptureTransfer} (call : state.call = .transfer transfer)
    (wants : transfer.delivered < transfer.size) (drained : state.pcm.stageFrames = 0)
    (unarmed : state.pcm.pendingSilenceFrames = 0) (nowNs : UInt64) :
    (state.beginConsume reader transfer nowNs).Granted g := by
  have same := reader.observeEpoch_view (state.memory.header.storeReaderHeartbeatNs nowNs).writerEpoch
  have geometry : (reader.observeEpoch state.memory.header.writerEpoch).geometry = reader.geometry :=
    congrArg Prod.fst same
  have seq : (reader.observeEpoch state.memory.header.writerEpoch).readSeq = reader.readSeq := congrArg Prod.snd same
  have within : ((state.memory.header.storeReaderHeartbeatNs nowNs).writeSeq -
      (reader.observeEpoch state.memory.header.writerEpoch).readSeq).toNat ≤
      (reader.observeEpoch state.memory.header.writerEpoch).geometry.nSlots.toNat := by
    rw [geometry, seq]
    exact granted.unlapped opened
  have begun : state.beginConsume reader transfer nowNs =
      { state with
        memory := { state.memory with header := state.memory.header.storeReaderHeartbeatNs nowNs }
        pcm := { state.pcm with reader := some (reader.observeEpoch state.memory.header.writerEpoch) }
        call := .consume transfer } := by
    simp only [CaptureState.beginConsume, Header.storeReaderHeartbeatNs_writerEpoch, resync_within within]
  rw [begun]
  exact {
    books := by
      have sound := granted.books
      simp only [CaptureState.books, CapturePcm.occupancySlots_some opened, call] at sound
      simp only [CaptureState.books, CapturePcm.occupancySlots, seq]
      exact sound
    unopened := fun unopened => absurd unopened (by simp)
    opened := fun attached isReader => {
      geometry := by
        simp only [Option.some.injEq] at isReader
        rw [← isReader, geometry]
        exact (granted.opened reader opened).geometry
      capacity := (granted.opened reader opened).capacity
      consuming := by
        intro other consume
        simp only [CaptureCall.consume.injEq] at consume
        exact ⟨drained, unarmed, consume ▸ wants⟩ }
    hwPtr := granted.hwPtr
    naps := granted.naps
    full := granted.full }

-- The second load of write_seq finds a slot: what the transfer still wants is nowhere else.
theorem Granted.ahead (granted : state.Granted g) {reader : JtsRingReader} (opened : state.pcm.reader = some reader)
    (accepted : g.Accepted) {transfer : CaptureTransfer} (call : state.call = .consume transfer) :
    state.memory.header.writeSeq ≠ reader.readSeq := by
  obtain ⟨drained, unarmed, wants⟩ := (granted.opened reader opened).consuming transfer call
  rw [UInt64.lt_iff_toNat_lt] at wants
  have period := accepted.period
  have found := granted.books.deliverable (by
    simpa only [CaptureState.books, call, CaptureCall.size, CaptureCall.delivered] using wants)
  simp only [CaptureState.books, drained, unarmed, UInt64.toNat_zero, CapturePcm.occupancySlots_some opened] at found
  intro caughtUp
  rw [caughtUp, UInt64.sub_self, UInt64.toNat_zero] at found
  omega

theorem Granted.consumed (granted : state.Granted g) {reader : JtsRingReader}
    (opened : state.pcm.reader = some reader) {transfer : CaptureTransfer} (call : state.call = .consume transfer)
    (ahead : state.memory.header.writeSeq ≠ reader.readSeq) (slot : Payload bytes) :
    { state with
      memory := { state.memory with header := state.memory.header.storeReadSeq (reader.readSeq + 1) }
      pcm := { state.pcm with
        reader := some (reader.countFilled (reader.readSeq + 1) state.memory.header.writeSeq) }.destaged slot
      call := .transfer transfer }.Granted g := by
  obtain ⟨drained, -, -⟩ := (granted.opened reader opened).consuming transfer call
  have capacity := congrArg UInt64.toNat (granted.opened reader opened).capacity
  rw [UInt32.toNat_toUInt64] at capacity
  have sound := granted.books.consume (show state.books.destage = 0 from congrArg UInt64.toNat drained)
    (by simp only [CaptureState.books, CapturePcm.occupancySlots_some opened]; exact toNat_sub_succ ahead)
  exact {
    books := by
      simp only [CaptureState.books, call] at sound
      simp only [CaptureState.books, CapturePcm.destaged, CapturePcm.occupancySlots, capacity]
      exact sound
    unopened := fun unopened => absurd unopened (by simp [CapturePcm.destaged])
    opened := fun attached isReader => {
      geometry := by
        simp only [CapturePcm.destaged, Option.some.injEq] at isReader
        rw [← isReader]
        exact (granted.opened reader opened).geometry
      capacity := (granted.opened reader opened).capacity
      consuming := fun other consume => absurd consume (by simp) }
    hwPtr := granted.hwPtr
    naps := granted.naps
    full := granted.full }

theorem Granted.transferPass (accepted : g.Accepted) (granted : state.Granted g) {transfer : CaptureTransfer}
    (call : state.call = .transfer transfer) (nowNs : UInt64) {next : CaptureState bytes}
    (passed : state.transferPass g transfer nowNs = some next) : next.Granted g := by
  unfold CaptureState.transferPass at passed
  split_ifs at passed with wants staged armed
  next =>
    rw [Option.some.injEq] at passed
    exact passed ▸ granted.copyOut call
  next =>
    have drained : state.pcm.stageFrames.toNat = 0 := by
      rw [UInt64.lt_iff_toNat_lt, UInt64.toNat_zero] at staged
      omega
    rw [Option.some.injEq] at passed
    exact passed ▸ (granted.fabricate accepted call drained armed).copyOut call
  next =>
    have drained : state.pcm.stageFrames = 0 := by
      rw [UInt64.lt_iff_toNat_lt, UInt64.toNat_zero] at staged
      exact UInt64.toNat.inj (by rw [UInt64.toNat_zero]; omega)
    have unarmed : state.pcm.pendingSilenceFrames = 0 := by
      rw [UInt64.le_iff_toNat_le, UInt32.toNat_toUInt64] at armed
      have silence := granted.books.silence
      simp only [CaptureState.books] at silence
      exact UInt64.toNat.inj (by rw [UInt64.toNat_zero]; omega)
    rw [Option.map_eq_some_iff] at passed
    obtain ⟨reader, opened, rfl⟩ := passed
    exact granted.beginConsume opened call wants drained unarmed nowNs
  next =>
    rw [UInt64.lt_iff_toNat_lt] at wants
    have within := granted.books.within
    simp only [CaptureState.books, call, CaptureCall.size, CaptureCall.delivered] at within
    rw [Option.some.injEq] at passed
    exact passed ▸ granted.finish call (UInt64.toNat.inj (by omega))

theorem Granted.endConsume (accepted : g.Accepted) (granted : state.Granted g) {transfer : CaptureTransfer}
    (call : state.call = .consume transfer) {reader : JtsRingReader} (opened : state.pcm.reader = some reader) :
    (state.endConsume g reader transfer).Granted g := by
  have ahead := granted.ahead opened accepted call
  simp only [CaptureState.endConsume, if_neg ahead]
  exact (granted.consumed opened call ahead _).copyOut rfl

theorem Granted.served (granted : state.Granted g) (attached : state.call.attached = true) :
    ∃ reader, state.pcm.reader = some reader := by
  cases opened : state.pcm.reader with
  | some reader => exact ⟨reader, rfl⟩
  | none => simp [(granted.unopened opened).call] at attached

theorem Granted.advance (accepted : g.Accepted) (granted : state.Granted g) (nowNs : UInt64)
    {next : CaptureState bytes} (moved : state.advance g nowNs = some next) : next.Granted g := by
  unfold CaptureState.advance at moved
  split at moved
  next => cases moved
  next pointer call =>
    obtain ⟨reader, opened⟩ := granted.served (by rw [call]; rfl)
    rw [Option.some.injEq] at moved
    subst moved
    exact granted.relabel rfl (by rw [call]; rfl) (by rw [call]; rfl) (by simp [opened]) (by simp)
  next pointer pid call =>
    obtain ⟨reader, opened⟩ := granted.served (by rw [call]; rfl)
    rw [Option.some.injEq] at moved
    subst moved
    exact granted.relabel rfl (by rw [call]; rfl) (by rw [call]; rfl) (by simp [opened]) (by simp)
  next pointer pid heartbeatNs checkedNs call =>
    obtain ⟨reader, opened⟩ := granted.served (by rw [call]; rfl)
    rw [Option.some.injEq] at moved
    subst moved
    have armed := granted.armSilence opened (by simp [call]) (stampIsLive pid heartbeatNs checkedNs)
      (state.pcm.occupancySlots state.memory.header) nowNs
    rw [afterTick]
    cases pointer with
    | false => exact armed.relabel rfl (by rw [call]; rfl) (by rw [call]; rfl) (fun _ => rfl) (by simp)
    | true => exact armed.relabel rfl (by rw [call]; rfl) (by rw [call]; rfl) (fun _ => rfl) (by simp)
  next call =>
    rw [Option.some.injEq] at moved
    subst moved
    exact granted.report accepted (by rw [call]; rfl) (by rw [call]; rfl)
  next transfer call => exact granted.transferPass accepted call nowNs moved
  next transfer call =>
    rw [Option.map_eq_some_iff] at moved
    obtain ⟨reader, opened, rfl⟩ := moved
    exact granted.endConsume accepted call opened

end CaptureState

variable {config : CaptureConfig}

theorem capture_step_granted (accepted : config.geometry.Accepted) {state next : CaptureState bytes}
    {action : CaptureAction bytes} (granted : state.Granted config.geometry)
    (move : state.step config action = some next) : next.Granted config.geometry := by
  cases action with
  | publish payload =>
    simp only [CaptureState.step, Option.ite_none_right_eq_some, Option.some.injEq] at move
    obtain ⟨room, rfl⟩ := move
    exact granted.publish room _
  | stamp pid heartbeatNs epoch =>
    simp only [CaptureState.step, Option.some.injEq] at move
    subst move
    exact granted.relabel rfl rfl rfl (fun unopened => (granted.unopened unopened).call) (fun _ call => call)
  | prepare clock =>
    simp only [CaptureState.step, Option.ite_none_right_eq_some, Option.some.injEq] at move
    obtain ⟨idle, rfl⟩ := move
    exact granted.prepare idle config.pid clock
  | tick pointer =>
    simp only [CaptureState.step, Option.ite_none_right_eq_some, Option.some.injEq] at move
    obtain ⟨idle, rfl⟩ := move
    exact granted.tick idle pointer
  | transfer size =>
    simp only [CaptureState.step, Option.ite_none_right_eq_some, Option.some.injEq] at move
    obtain ⟨⟨idle, available⟩, rfl⟩ := move
    exact granted.grant idle available
  | advance nowNs => exact granted.advance accepted nowNs move

theorem capture_initial_granted {state : CaptureState bytes} (initial : CaptureInitial bytes state) :
    state.Granted config.geometry := by
  obtain ⟨pcm, idle, hwPtr, returned⟩ := initial
  have unopened : state.pcm.reader = none := by rw [pcm]; rfl
  have nothing : state.books =
      { ringSlots := 0, destage := 0, silence := 0, appl := 0, reported := 0, size := 0, delivered := 0 } := by
    simp only [CaptureState.books, idle]
    rw [CapturePcm.occupancySlots_none unopened, pcm]
    rfl
  exact {
    books := by
      rw [nothing]
      exact {
        unlapped := Nat.zero_le _
        destage := Nat.zero_le _
        silence := .inl rfl
        covered := Nat.zero_le _
        owed := le_rfl
        within := le_rfl }
    unopened := fun _ => by
      constructor <;> first | rw [pcm]; rfl | rw [idle]; rfl
    opened := fun reader opened => absurd (unopened.symm.trans opened) (by simp)
    hwPtr := by rw [hwPtr, pcm]; rfl
    naps := by rw [pcm]; rfl
    full := by rw [returned]; simp }

theorem capture_granted (accepted : config.geometry.Accepted) {state : CaptureState bytes}
    (reached : Reachable (captureSystem config bytes) state) : state.Granted config.geometry := by
  induction reached with
  | initial start => exact capture_initial_granted start
  | step _ move ih => exact capture_step_granted accepted ih move

namespace CaptureState

variable {g : Geometry} {state : CaptureState bytes}

-- A pass that copies at least one frame is one pass less.
theorem copyOut_work (g : Geometry) (pcm : CapturePcm bytes) {transfer : CaptureTransfer}
    (wants : transfer.delivered.toNat < transfer.size.toNat) (staged : 0 < pcm.stageFrames.toNat) :
    0 < (CaptureCall.transfer (pcm.copyOut g transfer).2).work ∧
      (CaptureCall.transfer (pcm.copyOut g transfer).2).work ≤
        2 * (transfer.size.toNat - transfer.delivered.toNat) := by
  have copied := (pcm.copyOut_frames g wants.le).2
  have size : (pcm.copyOut g transfer).2.size = transfer.size := rfl
  simp only [CaptureCall.work, copied, size]
  omega

-- What one own step does for the transfer under way: it ends it, or leaves less to do.
def Progress (state next : CaptureState bytes) : Prop :=
  next.returned.length = state.returned.length + 1 ∨
    (next.returned = state.returned ∧ 0 < next.call.work ∧ next.call.work < state.call.work)

theorem Granted.transferPass_progress (accepted : g.Accepted) (granted : state.Granted g)
    {transfer : CaptureTransfer} (call : state.call = .transfer transfer) (nowNs : UInt64) :
    ∃ next, state.transferPass g transfer nowNs = some next ∧ state.Progress next := by
  have period := accepted.period
  have work : state.call.work = 2 * (transfer.size.toNat - transfer.delivered.toNat) + 2 := by rw [call]; rfl
  unfold CaptureState.transferPass
  split_ifs with wants staged armed
  next =>
    rw [UInt64.lt_iff_toNat_lt] at wants staged
    obtain ⟨more, less⟩ := copyOut_work g state.pcm wants staged
    exact ⟨_, rfl, .inr ⟨rfl, more, less.trans_lt (by omega)⟩⟩
  next =>
    rw [UInt64.lt_iff_toNat_lt] at wants
    obtain ⟨-, capacity, -⟩ := granted.armed accepted armed
    obtain ⟨more, less⟩ := copyOut_work g (state.pcm.fabricate g) wants (capacity.symm ▸ period)
    exact ⟨_, rfl, .inr ⟨rfl, more, less.trans_lt (by omega)⟩⟩
  next =>
    rw [UInt64.lt_iff_toNat_lt] at wants
    cases opened : state.pcm.reader with
    | some reader =>
      exact ⟨_, rfl, .inr ⟨rfl, Nat.succ_pos _, by rw [work]; exact Nat.lt_succ_self _⟩⟩
    | none =>
      have fresh := granted.unopened opened
      have owed := granted.books.owed
      simp only [CaptureState.books, fresh.reported, call, CaptureCall.size] at owed
      omega
  next => exact ⟨_, rfl, .inl (by simp [CaptureState.finish])⟩

theorem Granted.endConsume_progress (accepted : g.Accepted) (granted : state.Granted g) {transfer : CaptureTransfer}
    (call : state.call = .consume transfer) {reader : JtsRingReader} (opened : state.pcm.reader = some reader) :
    state.Progress (state.endConsume g reader transfer) := by
  have ahead := granted.ahead opened accepted call
  have wants := ((granted.opened reader opened).consuming transfer call).2.2
  have capacity := congrArg UInt64.toNat (granted.opened reader opened).capacity
  have period := accepted.period
  rw [UInt64.lt_iff_toNat_lt] at wants
  rw [UInt32.toNat_toUInt64] at capacity
  have work : state.call.work = 2 * (transfer.size.toNat - transfer.delivered.toNat) + 1 := by rw [call]; rfl
  simp only [CaptureState.endConsume, if_neg ahead]
  let filled := reader.countFilled (reader.readSeq + 1) state.memory.header.writeSeq
  let slot := state.memory.slots (reader.geometry.slotIndex reader.readSeq)
  obtain ⟨more, less⟩ := copyOut_work g ({ state.pcm with reader := some filled }.destaged slot) wants
    (show 0 < state.pcm.stageCapacityFrames.toNat by omega)
  exact .inr ⟨rfl, more, by rw [work]; exact Nat.lt_succ_of_le less⟩

theorem Granted.moves (accepted : g.Accepted) (granted : state.Granted g) (working : state.call ≠ .idle)
    (nowNs : UInt64) : ∃ next, state.advance g nowNs = some next ∧ (0 < state.call.work → state.Progress next) := by
  unfold CaptureState.advance
  split
  next idle => exact absurd idle working
  next call => exact ⟨_, rfl, by simp [call, CaptureCall.work]⟩
  next call => exact ⟨_, rfl, by simp [call, CaptureCall.work]⟩
  next call => exact ⟨_, rfl, by simp [call, CaptureCall.work]⟩
  next call => exact ⟨_, rfl, by simp [call, CaptureCall.work]⟩
  next transfer call =>
    obtain ⟨next, passed, progress⟩ := granted.transferPass_progress accepted call nowNs
    exact ⟨next, passed, fun _ => progress⟩
  next transfer call =>
    obtain ⟨reader, opened⟩ := granted.served (by rw [call]; rfl)
    rw [opened]
    exact ⟨_, rfl, fun _ => granted.endConsume_progress accepted call opened⟩

end CaptureState

def CaptureAction.isAdvance : CaptureAction bytes → Bool
  | .advance _ => true
  | _ => false

-- While a transfer is under way the other steps leave it as it is, or wait for it.
theorem capture_step_other {state next : CaptureState bytes} {action : CaptureAction bytes}
    (working : 0 < state.call.work) (other : action.isAdvance = false)
    (move : state.step config action = some next) : next.call = state.call ∧ next.returned = state.returned := by
  have busy : state.call ≠ .idle := fun idle => by simp [idle, CaptureCall.work] at working
  cases action with
  | publish payload =>
    simp only [CaptureState.step, Option.ite_none_right_eq_some, Option.some.injEq] at move
    obtain ⟨-, rfl⟩ := move
    exact ⟨rfl, rfl⟩
  | stamp pid heartbeatNs epoch =>
    simp only [CaptureState.step, Option.some.injEq] at move
    subst move
    exact ⟨rfl, rfl⟩
  | prepare clock => simp [CaptureState.step, busy] at move
  | tick pointer => simp [CaptureState.step, busy] at move
  | transfer size => simp [CaptureState.step, busy] at move
  | advance nowNs => cases other

theorem CaptureState.advance_returned {g : Geometry} {state next : CaptureState bytes} {nowNs : UInt64}
    (moved : state.advance g nowNs = some next) : state.returned.length ≤ next.returned.length := by
  have finished (state : CaptureState bytes) (transfer : CaptureTransfer) :
      state.returned.length ≤ (state.finish transfer).returned.length := by
    simp [CaptureState.finish]
  unfold CaptureState.advance at moved
  split at moved
  next => cases moved
  next => exact (Option.some.inj moved) ▸ le_rfl
  next => exact (Option.some.inj moved) ▸ le_rfl
  next => exact (Option.some.inj moved) ▸ le_rfl
  next => exact (Option.some.inj moved) ▸ le_rfl
  next transfer _ =>
    unfold CaptureState.transferPass at moved
    split_ifs at moved
    next => exact (Option.some.inj moved) ▸ le_rfl
    next => exact (Option.some.inj moved) ▸ le_rfl
    next =>
      obtain ⟨reader, -, rfl⟩ := Option.map_eq_some_iff.mp moved
      exact le_rfl
    next => exact (Option.some.inj moved) ▸ finished state transfer
  next transfer _ =>
    obtain ⟨reader, -, rfl⟩ := Option.map_eq_some_iff.mp moved
    simp only [CaptureState.endConsume]
    split_ifs
    next => exact finished _ transfer
    next => exact le_rfl

theorem capture_step_returned {state next : CaptureState bytes} {action : CaptureAction bytes}
    (move : state.step config action = some next) : state.returned.length ≤ next.returned.length := by
  cases action with
  | publish payload =>
    simp only [CaptureState.step, Option.ite_none_right_eq_some, Option.some.injEq] at move
    exact move.2 ▸ le_rfl
  | stamp pid heartbeatNs epoch =>
    simp only [CaptureState.step, Option.some.injEq] at move
    exact move ▸ le_rfl
  | prepare clock =>
    simp only [CaptureState.step, Option.ite_none_right_eq_some, Option.some.injEq] at move
    exact move.2 ▸ le_rfl
  | tick pointer =>
    simp only [CaptureState.step, Option.ite_none_right_eq_some, Option.some.injEq] at move
    rw [← move.2, CaptureState.tick]
    cases state.pcm.reader <;> exact le_rfl
  | transfer size =>
    simp only [CaptureState.step, Option.ite_none_right_eq_some, Option.some.injEq] at move
    exact move.2 ▸ le_rfl
  | advance nowNs => exact CaptureState.advance_returned move

theorem capture_run_returned {state last : CaptureState bytes} {actions : List (CaptureAction bytes)}
    (run : Run (captureSystem config bytes) state actions last) : state.returned.length ≤ last.returned.length := by
  induction run with
  | nil => exact le_rfl
  | cons head _ ih => exact (capture_step_returned head).trans ih

-- Induction on the run: each own step ends the transfer or leaves less work than steps.
theorem capture_transfer_returns (accepted : config.geometry.Accepted) {state last : CaptureState bytes}
    {actions : List (CaptureAction bytes)} (run : Run (captureSystem config bytes) state actions last)
    (granted : state.Granted config.geometry) (working : 0 < state.call.work)
    (enough : state.call.work ≤ actions.countP CaptureAction.isAdvance) :
    state.returned.length < last.returned.length := by
  induction run with
  | nil =>
    simp only [List.countP_nil] at enough
    omega
  | @cons first middle last action actions head tail ih =>
    have later := capture_step_granted accepted granted head
    cases advances : action.isAdvance with
    | false =>
      obtain ⟨call, returned⟩ := capture_step_other working advances head
      rw [List.countP_cons_of_neg (by simp [advances])] at enough
      rw [← returned]
      exact ih later (call ▸ working) (call ▸ enough)
    | true =>
      rw [List.countP_cons_of_pos advances] at enough
      cases action with
      | advance nowNs =>
        have busy : first.call ≠ .idle := fun idle => by simp [idle, CaptureCall.work] at working
        obtain ⟨next, moved, progress⟩ := granted.moves accepted busy nowNs
        obtain rfl : next = middle := Option.some.inj (moved.symm.trans head)
        have after := capture_run_returned tail
        rcases progress working with ended | ⟨returned, more, less⟩
        next => omega
        next =>
          rw [← returned]
          exact ih later more (by omega)
      | _ => cases advances

-- What the code calls an armed period: the test of the writer failed, and after it the stores were empty.
def CaptureState.ArmsSilence (state : CaptureState bytes) : Prop :=
  (∃ pointer pid heartbeatNs nowNs, state.call = .occupancy pointer pid heartbeatNs nowNs ∧
      stampIsLive pid heartbeatNs nowNs = false) ∧
    (∃ reader, state.pcm.reader = some reader ∧ state.memory.header.writeSeq = reader.readSeq) ∧
    state.pcm.stageFrames = 0

theorem CaptureState.Granted.advance_arms {g : Geometry} {state next : CaptureState bytes} {nowNs : UInt64}
    (granted : state.Granted g) (moved : state.advance g nowNs = some next) :
    next.pcm.pendingSilenceFrames.toNat ≤ state.pcm.pendingSilenceFrames.toNat ∨ state.ArmsSilence := by
  unfold CaptureState.advance at moved
  split at moved
  next => cases moved
  next => exact .inl ((Option.some.inj moved) ▸ le_rfl)
  next => exact .inl ((Option.some.inj moved) ▸ le_rfl)
  next pointer pid heartbeatNs checkedNs call =>
    rw [Option.some.injEq] at moved
    rcases state.pcm.armSilence_cases g (stampIsLive pid heartbeatNs checkedNs)
      (state.pcm.occupancySlots state.memory.header) nowNs with same | ⟨⟨dead, empty, drained⟩, -⟩
    next =>
      rw [same] at moved
      exact .inl (moved ▸ le_rfl)
    next =>
      obtain ⟨reader, opened⟩ := granted.served (by rw [call]; rfl)
      rw [captureOccupancyBounded_within granted.books.unlapped, CapturePcm.occupancySlots_some opened] at empty
      exact .inr ⟨⟨pointer, pid, heartbeatNs, checkedNs, call, dead⟩, ⟨reader, opened, eq_of_sub_zero empty⟩,
        drained⟩
  next => exact .inl ((Option.some.inj moved) ▸ le_rfl)
  next transfer _ =>
    left
    unfold CaptureState.transferPass at moved
    split_ifs at moved with _ _ armed
    next => exact (Option.some.inj moved) ▸ le_rfl
    next =>
      rw [← Option.some.inj moved]
      exact (toNat_sub_of_le (UInt64.le_iff_toNat_le.mp armed)).trans_le (Nat.sub_le _ _)
    next =>
      obtain ⟨reader, -, rfl⟩ := Option.map_eq_some_iff.mp moved
      exact le_rfl
    next => exact (Option.some.inj moved) ▸ le_rfl
  next transfer _ =>
    left
    obtain ⟨reader, -, rfl⟩ := Option.map_eq_some_iff.mp moved
    simp only [CaptureState.endConsume]
    split_ifs <;> exact le_rfl

theorem capture_step_arms {state next : CaptureState bytes} {action : CaptureAction bytes}
    (granted : state.Granted config.geometry) (move : state.step config action = some next) :
    next.pcm.pendingSilenceFrames.toNat ≤ state.pcm.pendingSilenceFrames.toNat ∨ state.ArmsSilence := by
  cases action with
  | publish payload =>
    simp only [CaptureState.step, Option.ite_none_right_eq_some, Option.some.injEq] at move
    exact .inl (move.2 ▸ le_rfl)
  | stamp pid heartbeatNs epoch =>
    simp only [CaptureState.step, Option.some.injEq] at move
    exact .inl (move ▸ le_rfl)
  | prepare clock =>
    simp only [CaptureState.step, Option.ite_none_right_eq_some, Option.some.injEq] at move
    obtain ⟨-, rfl⟩ := move
    left
    unfold CapturePcm.prepare
    repeat' split
    all_goals first | exact le_rfl | exact Nat.zero_le _
  | tick pointer =>
    simp only [CaptureState.step, Option.ite_none_right_eq_some, Option.some.injEq] at move
    rw [← move.2, CaptureState.tick]
    cases state.pcm.reader <;> exact .inl le_rfl
  | transfer size =>
    simp only [CaptureState.step, Option.ite_none_right_eq_some, Option.some.injEq] at move
    exact .inl (move.2 ▸ le_rfl)
  | advance nowNs => exact granted.advance_arms move

theorem granted_capture_frames_are_delivered (valid : jtsRingGeometryValidate config.geometry = none)
    {state : CaptureState bytes} (reached : Reachable (captureSystem config bytes) state) :
    (state.hwPtr = state.pcm.ptrState.lastReported.toNat ∧
        state.hwPtr ≤ state.pcm.applFrames.toNat + state.call.delivered.toNat +
          ((captureOccupancyBounded (state.pcm.occupancySlots state.memory.header) config.geometry.nSlots).toNat *
            config.geometry.periodFrames.toNat + state.pcm.stageFrames.toNat +
              state.pcm.pendingSilenceFrames.toNat)) ∧
      ((∀ transfer ∈ state.returned, transfer.delivered = transfer.size) ∧ state.pcm.transferStarvedNaps = 0 ∧
        (∀ nowNs, state.call ≠ .idle → ∃ next, state.step config (.advance nowNs) = some next) ∧
        ∀ actions last, Run (captureSystem config bytes) state actions last → 0 < state.call.work →
          state.call.work ≤ actions.countP CaptureAction.isAdvance →
          state.returned.length < last.returned.length) ∧
      (∀ action next, state.step config action = some next →
        state.pcm.pendingSilenceFrames < next.pcm.pendingSilenceFrames → state.ArmsSilence) ∧
      (state.pcm.pendingSilenceFrames = 0 ∨
        state.pcm.pendingSilenceFrames = config.geometry.periodFrames.toUInt64) := by
  have accepted := Geometry.jtsRingGeometryValidate_none.mp valid
  have granted := capture_granted accepted reached
  refine ⟨⟨granted.hwPtr, ?_⟩, ⟨granted.full, granted.naps, ?_, ?_⟩, ?_, ?_⟩
  next =>
    rw [captureOccupancyBounded_within granted.books.unlapped, granted.hwPtr]
    exact granted.books.covered
  next =>
    intro nowNs working
    obtain ⟨next, moved, -⟩ := granted.moves accepted working nowNs
    exact ⟨next, moved⟩
  next =>
    intro actions last run working enough
    exact capture_transfer_returns accepted run granted working enough
  next =>
    intro action next move armed
    rw [UInt64.lt_iff_toNat_lt] at armed
    exact (capture_step_arms granted move).resolve_left (Nat.not_le.mpr armed)
  next =>
    rcases granted.books.silence with none_ | full
    next => exact .inl (UInt64.toNat.inj none_)
    next => exact .inr (UInt64.toNat.inj (full.trans (UInt32.toNat_toUInt64 _).symm))

def twoFrameSlots : CaptureConfig where
  geometry := { rate := 48000, channels := 2, sampleFormat := 1, periodFrames := 2, nSlots := 2 }
  pid := 7

def neverPrepared : CaptureState 8 where
  memory := { header := .zero, slots := fun _ => Payload.zero 8 }
  pcm := CapturePcm.fresh 8
  call := .idle
  hwPtr := 0
  returned := []

-- One slot of a writer that then falls silent, read whole; the period armed after it, read frame by frame while
-- the writer comes back.
theorem granted_capture_frames_are_delivered_past_a_dead_writer :
    ∃ state : CaptureState 8,
      (state.returned.map fun transfer => transfer.delivered) = [2, 1, 1] ∧ state.hwPtr = 4 ∧
        state.pcm.silencePeriods = 1 ∧ state.pcm.transferStarvedNaps = 0 ∧
          ∀ transfer ∈ state.returned, transfer.delivered = transfer.size := by
  let payload : Payload 8 := fun _ => 1
  let naps (count : Nat) (nowNs : UInt64) : List (CaptureAction 8) := List.replicate count (.advance nowNs)
  let actions : List (CaptureAction 8) :=
    [[.prepare fun _ => 5, .stamp 9 100 1, .publish payload, .tick true], naps 4 200, [.transfer 2], naps 3 300, [.tick true],
      naps 4 5000000000, [.transfer 1, .advance 5000000000, .publish payload, .advance 5000000000, .transfer 1],
      naps 2 5000000000].flatten
  have start : CaptureInitial 8 neverPrepared := ⟨rfl, rfl, rfl, rfl⟩
  have runs : (execute (CaptureState.step twoFrameSlots) neverPrepared actions).isSome = true := by decide +kernel
  obtain ⟨state, ran⟩ := Option.isSome_iff_exists.mp runs
  have facts : ∀ state ∈ execute (CaptureState.step twoFrameSlots) neverPrepared actions,
      (state.returned.map fun transfer => transfer.delivered) = [2, 1, 1] ∧ state.hwPtr = 4 ∧
        state.pcm.silencePeriods = 1 := by
    decide +kernel
  obtain ⟨delivered, hwPtr, periods⟩ := facts state ran
  have law := granted_capture_frames_are_delivered (show jtsRingGeometryValidate twoFrameSlots.geometry = none by decide)
    (reachable_of_execute start ran)
  exact ⟨state, delivered, hwPtr, periods, law.2.1.2.1, law.2.1.1⟩

end Jts.Ioplug
