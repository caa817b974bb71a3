import Jts.Ring.Attach
import Jts.Ring.Interleaving

set_option autoImplicit false

namespace Jts.Ring.Interleaving

open Jts.Shared.Word Jts.Shared.Circular Jts.Shared.Transition

variable {bytes : Nat}

-- What the writer knows at each of its accesses. Before the reader's attach nobody else stores read_seq, so a
-- loaded full ring is still full when the oldest slot is dropped.
def WriterPcOk (g : Geometry) (memory : Memory bytes) (claimed : Bool) : WriterPc bytes → Prop
  | .loadReaderPid _ _ readSeq _ | .loadReaderHeartbeat _ _ readSeq _ | .dropOldest _ readSeq _ =>
    claimed = false → readSeq = memory.header.readSeq ∧
      memory.header.readSeq.toNat + g.nSlots.toNat ≤ memory.header.writeSeq.toNat
  | .copy payload copied _ _ =>
    memory.header.writeSeq.toNat < memory.header.readSeq.toNat + g.nSlots.toNat ∧
      ∀ byte ∈ copied, memory.slots (g.slotIndex memory.header.writeSeq) byte = payload byte
  | .storeWriteSeq payload _ _ =>
    memory.header.writeSeq.toNat < memory.header.readSeq.toNat + g.nSlots.toNat ∧
      memory.slots (g.slotIndex memory.header.writeSeq) = payload
  | .idle | .stamp _ | .loadReadSeq _ _ | .refreshHeartbeat _ _ | .reloadReadSeq _ _ => True

structure WriterOk (g : Geometry) (base : Nat) (memory : Memory bytes) (writer : Writer bytes) (claimed : Bool) :
    Prop where
  view : writer.handle.view = (g, memory.header.writeSeq)
  seq : memory.header.writeSeq.toNat = base + writer.published.length
  order : memory.header.readSeq.toNat ≤ memory.header.writeSeq.toNat
  occupancy : memory.header.writeSeq.toNat ≤ memory.header.readSeq.toNat + g.nSlots.toNat
  pc : WriterPcOk g memory claimed writer.pc

-- A store that moves neither sequence is invisible to the writer's facts.
theorem WriterOk.header {g : Geometry} {base : Nat} {memory : Memory bytes} {writer : Writer bytes}
    {claimed : Bool} (ok : WriterOk g base memory writer claimed) {header : Header}
    (writeSeq : header.writeSeq = memory.header.writeSeq) (readSeq : header.readSeq = memory.header.readSeq) :
    WriterOk g base { memory with header := header } writer claimed := by
  obtain ⟨view, seq, order, occupancy, pc⟩ := ok
  refine ⟨by simp [writeSeq, view], by simp [writeSeq, seq], by simpa [writeSeq, readSeq] using order,
    by simpa [writeSeq, readSeq] using occupancy, ?_⟩
  cases at_ : writer.pc <;> simp only [WriterPcOk, at_, writeSeq, readSeq] at pc ⊢ <;> exact pc

theorem WriterOk.heartbeat {g : Geometry} {base : Nat} {memory : Memory bytes} {writer : Writer bytes}
    {claimed : Bool} (ok : WriterOk g base memory writer claimed) (nowNs : UInt64) :
    WriterOk g base { memory with header := memory.header.storeWriterHeartbeatNs nowNs } writer claimed :=
  ok.header rfl rfl

theorem WriterOk.move {g : Geometry} {base : Nat} {memory : Memory bytes} {writer next : Writer bytes}
    {claimed : Bool} (ok : WriterOk g base memory writer claimed) (view : next.handle.view = writer.handle.view)
    (published : next.published = writer.published) (pc : WriterPcOk g memory claimed next.pc) :
    WriterOk g base memory next claimed :=
  ⟨view.trans ok.view, by rw [published]; exact ok.seq, ok.order, ok.occupancy, pc⟩

theorem onFull_ok {g : Geometry} {base : Nat} {memory : Memory bytes} {writer : Writer bytes} {claimed : Bool}
    (ok : WriterOk g base memory writer claimed) {readSeq : UInt64}
    (full : claimed = false → readSeq = memory.header.readSeq ∧
      memory.header.readSeq.toNat + g.nSlots.toNat ≤ memory.header.writeSeq.toNat)
    (payload : Payload bytes) (waited : Nat) (nowCheck : UInt64) (live : Bool) :
    WriterOk g base memory (writer.onFull payload waited readSeq nowCheck live) claimed := by
  unfold Writer.onFull
  dsimp only
  split_ifs
  all_goals
    first
    | exact ok.move rfl rfl full
    | exact ok.move (by simp) rfl trivial

theorem WriterOk.step {g : Geometry} (accepted : g.Accepted) {base : Nat} {memory : Memory bytes}
    {writer : Writer bytes} {claimed : Bool} (ok : WriterOk g base memory writer claimed) (nowNs : UInt64)
    (loan : ∀ payload readSeq demoted, writer.pc = .dropOldest payload readSeq demoted → claimed = false)
    (bound : base + (writer.step memory nowNs).2.published.length < 2 ^ 64) :
    WriterOk g base (writer.step memory nowNs).1 (writer.step memory nowNs).2 claimed := by
  have pcOk := ok.pc
  have seq : writer.handle.view.2 = memory.header.writeSeq := by rw [ok.view]
  have geometry : writer.handle.view.1 = g := by rw [ok.view]
  have nSlots : g.nSlots.toUInt64.toNat = g.nSlots.toNat := UInt32.toNat_toUInt64 g.nSlots
  cases at_ : writer.pc with
  | idle =>
    simp only [Writer.step, at_]
    exact ok
  | stamp payload =>
    simp only [Writer.step, at_]
    exact (ok.heartbeat nowNs).move rfl rfl trivial
  | loadReadSeq payload waited =>
    simp only [Writer.step, at_, WriterHandle.noteReaderProgress_view, seq, geometry]
    have distance := toNat_sub_of_le ok.order
    split_ifs with room
    next =>
      rw [UInt64.lt_iff_toNat_lt, distance, nSlots] at room
      exact ok.move (by simp) rfl ⟨by omega, by simp⟩
    next =>
      rw [UInt64.lt_iff_toNat_lt, distance, nSlots] at room
      have order := ok.order
      exact ok.move (by simp) rfl fun _ => ⟨rfl, by omega⟩
  | loadReaderPid payload waited readSeq nowCheck =>
    rw [at_] at pcOk
    simp only [Writer.step, at_]
    by_cases absent : memory.header.readerPid = 0
    next =>
      rw [if_pos absent]
      exact onFull_ok ok pcOk payload waited (writer.livenessClock nowCheck nowNs) false
    next =>
      rw [if_neg absent]
      exact ok.move rfl rfl pcOk
  | loadReaderHeartbeat payload waited readSeq nowCheck =>
    rw [at_] at pcOk
    simp only [Writer.step, at_]
    exact onFull_ok ok pcOk payload waited nowCheck _
  | dropOldest payload readSeq demoted =>
    rw [at_] at pcOk
    obtain ⟨rfl, full⟩ := pcOk (loan payload readSeq demoted at_)
    have slots := accepted.slotsLower
    have top := memory.header.writeSeq.toNat_lt
    have occupancy := ok.occupancy
    have next : (memory.header.readSeq + 1).toNat = memory.header.readSeq.toNat + 1 := toNat_succ (by omega)
    simp only [Writer.step, at_]
    refine ⟨by simpa using ok.view, ok.seq, ?_, ?_, ?_, by simp⟩
    all_goals simp only [Header.storeReadSeq_readSeq, Header.storeReadSeq_writeSeq, next]; omega
  | refreshHeartbeat payload waited =>
    simp only [Writer.step, at_]
    exact (ok.heartbeat nowNs).move rfl rfl trivial
  | copy payload copied droppedOldest demoted =>
    rw [at_] at pcOk
    simp only [Writer.step, at_]
    split_ifs with complete
    next =>
      subst complete
      exact ok.move rfl rfl ⟨pcOk.1, funext fun byte => pcOk.2 byte (Finset.mem_univ byte)⟩
    next => exact ok
  | storeWriteSeq payload droppedOldest demoted =>
    rw [at_] at pcOk
    simp only [Writer.step, at_, List.length_append, List.length_singleton] at bound
    simp only [Writer.step, at_, seq]
    have before := ok.seq
    have next : (memory.header.writeSeq + 1).toNat = memory.header.writeSeq.toNat + 1 := toNat_succ (by omega)
    have order := ok.order
    have space := pcOk.1
    refine ⟨by simp [ok.view], ?_, ?_, ?_, trivial⟩
    next => simp only [Header.storeWriteSeq_writeSeq, next, List.length_append, List.length_singleton]; omega
    next => simp only [Header.storeWriteSeq_writeSeq, Header.storeWriteSeq_readSeq, next]; omega
    next => simp only [Header.storeWriteSeq_writeSeq, Header.storeWriteSeq_readSeq, next]; omega
  | reloadReadSeq droppedOldest demoted =>
    simp only [Writer.step, at_]
    exact ok.move (by simp) rfl trivial

theorem WriterOk.copyByte {g : Geometry} {base : Nat} {memory after : Memory bytes} {writer next : Writer bytes}
    {claimed : Bool} (ok : WriterOk g base memory writer claimed) {byte : Fin bytes}
    (copied : writer.copyByte memory byte = some (after, next)) : WriterOk g base after next claimed := by
  have pcOk := ok.pc
  unfold Writer.copyByte at copied
  split at copied
  next payload done droppedOldest demoted at_ =>
    rw [at_] at pcOk
    simp only [Option.some.injEq, Prod.mk.injEq] at copied
    obtain ⟨rfl, rfl⟩ := copied
    refine ⟨ok.view, ok.seq, ok.order, ok.occupancy, pcOk.1, ?_⟩
    intro other inside
    simp only [ok.view, Function.update_self]
    by_cases same : other = byte
    next => simp [same]
    next =>
      rw [Function.update_of_ne same]
      exact pcOk.2 other ((Finset.mem_insert.mp inside).resolve_left same)
  next => simp at copied

-- The reader may have raised read_seq, never past write_seq; a loaded full ring is then no longer relied on.
theorem WriterOk.readerStore {g : Geometry} {base : Nat} {memory : Memory bytes} {writer : Writer bytes}
    (ok : WriterOk g base memory writer true) {readSeq : UInt64}
    (lower : memory.header.readSeq.toNat ≤ readSeq.toNat) (upper : readSeq.toNat ≤ memory.header.writeSeq.toNat) :
    WriterOk g base { memory with header := memory.header.storeReadSeq readSeq } writer true := by
  obtain ⟨view, seq, order, occupancy, pc⟩ := ok
  refine ⟨view, seq, upper, ?_, ?_⟩
  next => simp only [Header.storeReadSeq_writeSeq, Header.storeReadSeq_readSeq]; omega
  next =>
    cases at_ : writer.pc <;>
      simp only [WriterPcOk, at_, Header.storeReadSeq_writeSeq, Header.storeReadSeq_readSeq] at pc ⊢
    case copy => exact ⟨by omega, pc.2⟩
    case storeWriteSeq => exact ⟨by omega, pc.2⟩
    all_goals simp

theorem WriterOk.claim {g : Geometry} {base : Nat} {memory : Memory bytes} {writer : Writer bytes}
    (ok : WriterOk g base memory writer false) (claimed : Bool) : WriterOk g base memory writer claimed := by
  obtain ⟨view, seq, order, occupancy, pc⟩ := ok
  refine ⟨view, seq, order, occupancy, ?_⟩
  cases at_ : writer.pc <;> simp only [WriterPcOk, at_] at pc ⊢ <;> first | exact fun _ => pc trivial | exact pc

-- The log is indexed by sequence number; the file had reached base when the run began.
def log (base : Nat) (published : List (Payload bytes)) (seq : Nat) : Payload bytes :=
  published.getD (seq - base) (Payload.zero bytes)

-- The Rust attach snapshots the epoch before it stores read_seq, the C attach after it.
def Reader.synced (language : Language) (reader : Reader bytes) : Bool :=
  match reader.pc, language with
  | .attachStoreReadSeq, _ => false
  | .attachLoadEpoch, .rust => false
  | _, _ => true

def ReaderPcOk (readSeq writeSeq : Nat) (value : Payload bytes) (reader : Reader bytes) : Prop :=
  match reader.pc with
  | .attachLoadEpoch | .attachStoreReadSeq | .attachStorePid | .attachStoreHeartbeat => reader.result = none
  | .stamp => reader.stores = []
  | .loadWriterPid _ | .loadWriterHeartbeat _ _ | .loadEpoch | .loadWriteSeq | .reloadWriteSeq =>
    reader.stores = [.readerHeartbeatNs]
  | .copy _ copied =>
    reader.stores = [.readerHeartbeatNs] ∧ readSeq < writeSeq ∧ ∀ byte ∈ copied, reader.out byte = value byte
  | .storeReadSeq _ => readSeq < writeSeq ∧ reader.out = value
  | .storeResync _ => False
  | .idle =>
    (reader.result = some .filled → ∃ seq, reader.delivered.getLast? = some (seq, reader.out)) ∧
      (reader.result = some .empty → reader.out = Payload.zero bytes ∧ reader.stores = [.readerHeartbeatNs])
  | _ => True

-- The facts of an attached reader: its local sequence is a position in the log, everything from there to
-- write_seq still stands in the slots, and what it delivered is the log from its attach to that position.
structure ReaderOk (config : Config) (base : Nat) (memory : Memory bytes) (published : List (Payload bytes))
    (reader : Reader bytes) : Prop where
  geometry : reader.handle.view.1 = config.geometry
  lower : memory.header.readSeq.toNat ≤ reader.handle.view.2.toNat
  upper : reader.handle.view.2.toNat ≤ memory.header.writeSeq.toNat
  synced : reader.synced config.readerLanguage = true → memory.header.readSeq = reader.handle.view.2
  start : base ≤ reader.attachedAt.toNat
  position : reader.handle.view.2.toNat = reader.attachedAt.toNat + reader.delivered.length
  window : Window config.geometry.nSlots.toNat memory.slots (log base published) reader.handle.view.2.toNat
    memory.header.writeSeq.toNat
  seqs : reader.delivered.map (fun entry => entry.1.toNat) =
    List.range' reader.attachedAt.toNat reader.delivered.length
  payloads : reader.delivered.map Prod.snd =
    (published.drop (reader.attachedAt.toNat - base)).take reader.delivered.length
  pc : ReaderPcOk reader.handle.view.2.toNat memory.header.writeSeq.toNat
    (log base published reader.handle.view.2.toNat) reader

def unattachedOk (reader : Reader bytes) : Prop := reader.result = none ∧ reader.delivered = []

structure Invariant (config : Config) (base : Nat) (state : State bytes) : Prop where
  writer : WriterOk config.geometry base state.memory state.writer state.reader.claimed
  reader : state.reader.claimed = true → ReaderOk config base state.memory state.writer.published state.reader
  unattached : state.reader.claimed = false → unattachedOk state.reader

theorem log_of_grows {base seq : Nat} {published later : List (Payload bytes)} (grows : published <+: later)
    (below : seq < base + published.length) (above : base ≤ seq) : log base later seq = log base published seq := by
  obtain ⟨suffix, rfl⟩ := grows
  simp [log, List.getD_eq_getElem?_getD, List.getElem?_append_left (show seq - base < published.length by omega)]

-- Whatever the writer does between two reader steps keeps read_seq and the reader's part of the log.
theorem ReaderOk.afterWriter {config : Config} {base : Nat} {memory after : Memory bytes}
    {published later : List (Payload bytes)} {reader : Reader bytes}
    (ok : ReaderOk config base memory published reader)
    (seq : memory.header.writeSeq.toNat = base + published.length)
    (readSeq : after.header.readSeq = memory.header.readSeq)
    (writeSeq : memory.header.writeSeq.toNat ≤ after.header.writeSeq.toNat) (grows : published <+: later)
    (window : Window config.geometry.nSlots.toNat after.slots (log base later) reader.handle.view.2.toNat
      after.header.writeSeq.toNat) :
    ReaderOk config base after later reader := by
  have upper := ok.upper
  have position := ok.position
  have start := ok.start
  refine ⟨ok.geometry, by rw [readSeq]; exact ok.lower, by omega, fun synced => by rw [readSeq]; exact ok.synced synced,
    start, position, window, ok.seqs, ?_, ?_⟩
  next =>
    obtain ⟨suffix, rfl⟩ := grows
    rw [ok.payloads, List.drop_append_of_le_length (by omega), List.take_append_of_le_length]
    rw [List.length_drop]
    omega
  next =>
    have pc := ok.pc
    unfold ReaderPcOk at pc ⊢
    cases at_ : reader.pc <;> simp only [at_] at pc ⊢
    case copy =>
      rw [log_of_grows grows (by omega) (by omega)]
      exact ⟨pc.1, by omega, pc.2.2⟩
    case storeReadSeq =>
      rw [log_of_grows grows (by omega) (by omega)]
      exact ⟨by omega, pc.2⟩
    all_goals exact pc

@[simp] theorem onFull_published (writer : Writer bytes) (payload : Payload bytes) (waited : Nat)
    (readSeq nowCheck : UInt64) (live : Bool) :
    (writer.onFull payload waited readSeq nowCheck live).published = writer.published := by
  unfold Writer.onFull
  dsimp only
  split_ifs <;> rfl

-- Apart from dropping the oldest slot, an access of the writer either publishes or changes nothing a reader relies on.
theorem writerStep_cases (memory : Memory bytes) (writer : Writer bytes) (nowNs : UInt64)
    (loan : ∀ payload readSeq demoted, writer.pc ≠ .dropOldest payload readSeq demoted) :
    (writer.step memory nowNs).1.header.readSeq = memory.header.readSeq ∧
      (writer.step memory nowNs).1.slots = memory.slots ∧
      ((writer.step memory nowNs).1.header.writeSeq = memory.header.writeSeq ∧
          (writer.step memory nowNs).2.published = writer.published ∨
        ∃ payload droppedOldest demoted, writer.pc = .storeWriteSeq payload droppedOldest demoted ∧
          (writer.step memory nowNs).1.header.writeSeq = writer.handle.view.2 + 1 ∧
          (writer.step memory nowNs).2.published = writer.published ++ [payload]) := by
  cases at_ : writer.pc with
  | dropOldest payload readSeq demoted => exact absurd at_ (loan payload readSeq demoted)
  | storeWriteSeq payload droppedOldest demoted =>
    refine ⟨by simp [Writer.step, at_], by simp [Writer.step, at_], .inr ⟨payload, droppedOldest, demoted, rfl, ?_⟩⟩
    simp [Writer.step, at_]
  | loadReadSeq | loadReaderPid | copy =>
    simp only [Writer.step, at_]
    split_ifs <;> simp
  | idle | stamp | loadReaderHeartbeat | refreshHeartbeat | reloadReadSeq => simp [Writer.step, at_]

theorem ReaderOk.writerStep {config : Config} {base : Nat} {memory : Memory bytes} {writer : Writer bytes}
    {reader : Reader bytes} (ok : ReaderOk config base memory writer.published reader)
    (writerOk : WriterOk config.geometry base memory writer true) (nowNs : UInt64)
    (loan : ∀ payload readSeq demoted, writer.pc ≠ .dropOldest payload readSeq demoted)
    (bound : base + (writer.step memory nowNs).2.published.length < 2 ^ 64) :
    ReaderOk config base (writer.step memory nowNs).1 (writer.step memory nowNs).2.published reader := by
  have pcOk := writerOk.pc
  obtain ⟨readSeq, slots, moved⟩ := writerStep_cases memory writer nowNs loan
  rcases moved with ⟨writeSeq, published⟩ | ⟨payload, droppedOldest, demoted, at_, writeSeq, published⟩
  next =>
    refine ok.afterWriter writerOk.seq readSeq (by rw [writeSeq]) (by rw [published]) ?_
    rw [slots, writeSeq, published]
    exact ok.window
  next =>
    rw [at_] at pcOk
    rw [writerOk.view] at writeSeq
    rw [published, List.length_append, List.length_singleton] at bound
    have before := writerOk.seq
    have start := ok.start
    have position := ok.position
    have next : (memory.header.writeSeq + 1).toNat = memory.header.writeSeq.toNat + 1 := toNat_succ (by omega)
    have grows : writer.published <+: writer.published ++ [payload] := List.prefix_append _ _
    refine ok.afterWriter writerOk.seq readSeq (by rw [writeSeq, next]; omega) (by rw [published]; exact grows) ?_
    rw [slots, writeSeq, next, published]
    have kept := ok.window.log_congr fun s lower upper => log_of_grows grows (by omega) (by omega)
    refine kept.publish ?_
    rw [← Geometry.slotIndex_eq, pcOk.2]
    simp [log, List.getD_eq_getElem?_getD, before]

theorem ReaderOk.writerCopyByte {config : Config} {base : Nat} {memory after : Memory bytes}
    {writer next : Writer bytes} {reader : Reader bytes} {byte : Fin bytes}
    (ok : ReaderOk config base memory writer.published reader)
    (writerOk : WriterOk config.geometry base memory writer true)
    (copied : writer.copyByte memory byte = some (after, next)) :
    ReaderOk config base after next.published reader := by
  have pcOk := writerOk.pc
  unfold Writer.copyByte at copied
  split at copied
  next payload done droppedOldest demoted at_ =>
    rw [at_] at pcOk
    simp only [Option.some.injEq, Prod.mk.injEq] at copied
    obtain ⟨rfl, rfl⟩ := copied
    have lower := ok.lower
    refine ok.afterWriter writerOk.seq rfl le_rfl List.prefix_rfl ?_
    simp only [writerOk.view, Geometry.slotIndex_eq]
    exact ok.window.store (by have := pcOk.1; omega) _
  next => simp at copied

-- A reader access that stores neither sequence only has to account for its own next program counter.
theorem ReaderOk.move {config : Config} {base : Nat} {memory : Memory bytes} {published : List (Payload bytes)}
    {reader next : Reader bytes} (ok : ReaderOk config base memory published reader)
    (view : next.handle.view = reader.handle.view) (attachedAt : next.attachedAt = reader.attachedAt)
    (delivered : next.delivered = reader.delivered)
    (synced : next.synced config.readerLanguage = true → memory.header.readSeq = reader.handle.view.2)
    (pc : ReaderPcOk reader.handle.view.2.toNat memory.header.writeSeq.toNat
      (log base published reader.handle.view.2.toNat) next) :
    ReaderOk config base memory published next := by
  refine ⟨by rw [view]; exact ok.geometry, by rw [view]; exact ok.lower, by rw [view]; exact ok.upper,
    by rw [view]; exact synced, by rw [attachedAt]; exact ok.start, ?_, by rw [view]; exact ok.window, ?_, ?_,
    by rw [view]; exact pc⟩
  next => rw [view, attachedAt, delivered]; exact ok.position
  next => rw [attachedAt, delivered]; exact ok.seqs
  next => rw [attachedAt, delivered]; exact ok.payloads

theorem ReaderOk.header {config : Config} {base : Nat} {memory : Memory bytes} {published : List (Payload bytes)}
    {reader : Reader bytes} (ok : ReaderOk config base memory published reader) {header : Header}
    (writeSeq : header.writeSeq = memory.header.writeSeq) (readSeq : header.readSeq = memory.header.readSeq) :
    ReaderOk config base { memory with header := header } published reader := by
  obtain ⟨geometry, lower, upper, synced, start, position, window, seqs, payloads, pc⟩ := ok
  refine ⟨geometry, ?_, ?_, ?_, start, position, ?_, seqs, payloads, ?_⟩
  all_goals simp only [writeSeq, readSeq]; assumption

-- Storing its own local sequence is what brings read_seq level with it.
theorem ReaderOk.sync {config : Config} {base : Nat} {memory : Memory bytes} {published : List (Payload bytes)}
    {reader : Reader bytes} (ok : ReaderOk config base memory published reader) :
    ReaderOk config base { memory with header := memory.header.storeReadSeq reader.handle.view.2 } published reader :=
  { ok with lower := le_rfl, synced := fun _ => rfl }

theorem onLoaded_ok {config : Config} {base : Nat} {memory : Memory bytes} {published : List (Payload bytes)}
    {reader : Reader bytes} (ok : ReaderOk config base memory published reader)
    (synced : memory.header.readSeq = reader.handle.view.2) (stores : reader.stores = [.readerHeartbeatNs]) :
    ReaderOk config base memory published (reader.onLoaded memory.header.writeSeq) := by
  unfold Reader.onLoaded
  split_ifs with caughtUp
  next =>
    refine ok.move (by simp) rfl rfl (fun _ => synced) ?_
    exact ⟨by simp, fun _ => ⟨rfl, stores⟩⟩
  next =>
    have upper := ok.upper
    have distinct : memory.header.writeSeq.toNat ≠ reader.handle.view.2.toNat :=
      fun same => caughtUp (UInt64.toNat.inj same)
    exact ok.move rfl rfl rfl (fun _ => synced) ⟨stores, by omega, by simp⟩

theorem ReaderOk.deliver {config : Config} {base : Nat} {memory : Memory bytes} {published : List (Payload bytes)}
    {reader : Reader bytes} {writeSeq : UInt64} (ok : ReaderOk config base memory published reader)
    (seq : memory.header.writeSeq.toNat = base + published.length) (at_ : reader.pc = .storeReadSeq writeSeq) :
    ReaderOk config base { memory with header := memory.header.storeReadSeq (reader.handle.view.2 + 1) } published
      { reader.store .readSeq with
        handle := reader.handle.countFilled (reader.handle.view.2 + 1) writeSeq, pc := .idle, result := some .filled
        delivered := reader.delivered ++ [(memory.header.readSeq, reader.out)] } := by
  have pcOk : ReaderPcOk _ _ _ reader := ok.pc
  rw [ReaderPcOk, at_] at pcOk
  obtain ⟨below, out⟩ := pcOk
  have top := memory.header.writeSeq.toNat_lt
  have readSeq : memory.header.readSeq = reader.handle.view.2 := ok.synced (by simp [Reader.synced, at_])
  have next : (reader.handle.view.2 + 1).toNat = reader.handle.view.2.toNat + 1 := toNat_succ (by omega)
  have position := ok.position
  have start := ok.start
  refine ⟨by simpa using ok.geometry, by simp, ?_, by simp, start, ?_, ?_, ?_, ?_, ?_⟩
  next => simp only [ReaderHandle.countFilled_view, Header.storeReadSeq_writeSeq, next]; omega
  next =>
    simp only [Reader.store, ReaderHandle.countFilled_view, next, List.length_append, List.length_singleton]
    omega
  next =>
    simp only [ReaderHandle.countFilled_view, Header.storeReadSeq_writeSeq, next]
    exact ok.window.advance (by omega)
  next =>
    simp only [Reader.store, List.map_append, List.map_cons, List.map_nil, List.length_append,
      List.length_singleton, ok.seqs, readSeq, List.range'_1_concat]
    rw [← position]
  next =>
    have inside : reader.delivered.length < (published.drop (reader.attachedAt.toNat - base)).length := by
      rw [List.length_drop]
      omega
    have value : (published.drop (reader.attachedAt.toNat - base))[reader.delivered.length] = reader.out := by
      rw [out, log, List.getElem_drop, List.getD_eq_getElem?_getD,
        show reader.handle.view.2.toNat - base = reader.attachedAt.toNat - base + reader.delivered.length by omega,
        List.getElem?_eq_getElem (by rw [List.length_drop] at inside; omega)]
      rfl
    simp only [Reader.store, List.map_append, List.map_cons, List.map_nil, List.length_append,
      List.length_singleton, ok.payloads]
    rw [List.take_succ_eq_append_getElem inside, value]
  next => exact ⟨fun _ => ⟨memory.header.readSeq, by simp [Reader.store]⟩, by simp⟩

-- One access of an attached reader, program counter by program counter.
theorem ReaderOk.step {config : Config} {base : Nat} {memory : Memory bytes} {writer : Writer bytes}
    {reader : Reader bytes} (ok : ReaderOk config base memory writer.published reader)
    (writerOk : WriterOk config.geometry base memory writer true) (nowNs : UInt64)
    (claimed : reader.claimed = true) :
    ReaderOk config base (reader.step config memory nowNs).1 writer.published (reader.step config memory nowNs).2 ∧
      WriterOk config.geometry base (reader.step config memory nowNs).1 writer true := by
  have pcOk := ok.pc
  have synced := ok.synced
  unfold ReaderPcOk at pcOk
  unfold Reader.synced at synced
  cases at_ : reader.pc with
  | detached | attachLoadPid | attachLoadHeartbeat | attachLoadWriteSeq => simp [Reader.claimed, at_] at claimed
  | attachLoadEpoch =>
    simp only [at_] at pcOk synced
    simp only [Reader.step, at_]
    refine ⟨ok.move (by simp) rfl rfl ?_ ?_, writerOk⟩
    next =>
      cases language : config.readerLanguage with
      | rust => simp [Reader.synced]
      | c => exact fun _ => synced (by simp [language])
    next => cases config.readerLanguage <;> exact pcOk
  | attachStoreReadSeq =>
    simp only [at_] at pcOk
    simp only [Reader.step, at_]
    refine ⟨ok.sync.move rfl rfl rfl (fun _ => rfl) ?_, writerOk.readerStore ok.lower ok.upper⟩
    cases config.readerLanguage <;> exact pcOk
  | attachStorePid =>
    simp only [at_] at pcOk synced
    simp only [Reader.step, at_]
    have after : ReaderOk config base { memory with header := memory.header.storeReaderPid config.readerPid } writer.published
        reader := ok.header rfl rfl
    exact ⟨after.move rfl rfl rfl (fun _ => synced trivial) pcOk, writerOk.header rfl rfl⟩
  | attachStoreHeartbeat =>
    simp only [at_] at pcOk synced
    simp only [Reader.step, at_]
    have after : ReaderOk config base { memory with header := memory.header.storeReaderHeartbeatNs nowNs } writer.published
        reader := ok.header rfl rfl
    refine ⟨after.move rfl rfl rfl (fun _ => synced trivial) ?_, writerOk.header rfl rfl⟩
    exact ⟨by simp [pcOk], by simp [pcOk]⟩
  | idle =>
    simp only [Reader.step, at_]
    exact ⟨ok, writerOk⟩
  | stamp =>
    simp only [at_] at pcOk synced
    simp only [Reader.step, at_]
    have after : ReaderOk config base { memory with header := memory.header.storeReaderHeartbeatNs nowNs } writer.published
        reader := ok.header rfl rfl
    refine ⟨after.move rfl rfl rfl (fun _ => synced trivial) ?_, writerOk.header rfl rfl⟩
    cases config.readerLanguage <;> simp [ReaderPcOk, Reader.store, pcOk]
  | loadWriterPid now =>
    simp only [at_] at pcOk synced
    simp only [Reader.step, at_]
    exact ⟨ok.move rfl rfl rfl (fun _ => synced trivial) pcOk, writerOk⟩
  | loadWriterHeartbeat now pid =>
    simp only [at_] at pcOk synced
    simp only [Reader.step, at_]
    exact ⟨ok.move (by simp) rfl rfl (fun _ => synced trivial) pcOk, writerOk⟩
  | loadEpoch =>
    simp only [at_] at pcOk synced
    simp only [Reader.step, at_]
    exact ⟨ok.move (by simp) rfl rfl (fun _ => synced trivial) pcOk, writerOk⟩
  | loadWriteSeq =>
    simp only [at_] at pcOk synced
    have level : memory.header.readSeq = reader.handle.view.2 := synced trivial
    have distance := toNat_sub_of_le ok.upper
    have nSlots : config.geometry.nSlots.toUInt64.toNat = config.geometry.nSlots.toNat :=
      UInt32.toNat_toUInt64 config.geometry.nSlots
    have inRange : ¬ reader.handle.view.1.nSlots.toUInt64 < memory.header.writeSeq - reader.handle.view.2 := by
      have occupancy := writerOk.occupancy
      rw [ok.geometry, UInt64.lt_iff_toNat_lt, distance, nSlots, ← level]
      omega
    simp only [Reader.step, at_, if_neg inRange]
    cases config.readerLanguage with
    | rust => exact ⟨onLoaded_ok ok level pcOk, writerOk⟩
    | c => exact ⟨ok.move rfl rfl rfl (fun _ => level) pcOk, writerOk⟩
  | storeResync writeSeq =>
    simp only [at_] at pcOk
  | reloadWriteSeq =>
    simp only [at_] at pcOk synced
    simp only [Reader.step, at_]
    exact ⟨onLoaded_ok ok (synced trivial) pcOk, writerOk⟩
  | copy writeSeq copied =>
    simp only [at_] at pcOk synced
    simp only [Reader.step, at_]
    split_ifs with complete
    next =>
      subst complete
      obtain ⟨-, below, same⟩ := pcOk
      have whole : reader.out = log base writer.published reader.handle.view.2.toNat :=
        funext fun byte => same byte (Finset.mem_univ byte)
      exact ⟨ok.move rfl rfl rfl (fun _ => synced trivial) ⟨below, whole⟩, writerOk⟩
    next => exact ⟨ok, writerOk⟩
  | storeReadSeq writeSeq =>
    simp only [at_] at pcOk synced
    have level : memory.header.readSeq = reader.handle.view.2 := synced trivial
    have top := memory.header.writeSeq.toNat_lt
    have below := pcOk.1
    have next : (reader.handle.view.2 + 1).toNat = reader.handle.view.2.toNat + 1 := toNat_succ (by omega)
    have delivered := ok.deliver writerOk.seq at_
    simp only [Reader.step, at_]
    exact ⟨delivered, writerOk.readerStore (by rw [level, next]; omega) (by rw [next]; omega)⟩

theorem ReaderOk.copyByte {config : Config} {base : Nat} {memory : Memory bytes} {published : List (Payload bytes)}
    {reader next : Reader bytes} {byte : Fin bytes} (ok : ReaderOk config base memory published reader)
    (copied : reader.copyByte memory byte = some next) : ReaderOk config base memory published next := by
  have pcOk := ok.pc
  have synced := ok.synced
  unfold ReaderPcOk at pcOk
  unfold Reader.synced at synced
  unfold Reader.copyByte at copied
  split at copied
  next writeSeq done at_ =>
    simp only [at_] at pcOk synced
    obtain ⟨stores, below, same⟩ := pcOk
    simp only [Option.some.injEq] at copied
    subst copied
    refine ok.move rfl rfl rfl (fun _ => synced trivial) ⟨stores, below, ?_⟩
    have slot := ok.window reader.handle.view.2.toNat le_rfl below
    intro other inside
    simp only [ok.geometry, Geometry.slotIndex_eq, slot]
    by_cases here : other = byte
    next => simp [here]
    next =>
      rw [Function.update_of_ne here]
      exact same other ((Finset.mem_insert.mp inside).resolve_left here)
  next => simp at copied

theorem claimed_step {config : Config} {memory : Memory bytes} {reader : Reader bytes} (nowNs : UInt64)
    (claimed : reader.claimed = true) : (reader.step config memory nowNs).2.claimed = true := by
  have loaded (reader : Reader bytes) (writeSeq : UInt64) : (reader.onLoaded writeSeq).claimed = true := by
    unfold Reader.onLoaded
    split_ifs <;> rfl
  cases at_ : reader.pc with
  | detached | attachLoadPid | attachLoadHeartbeat | attachLoadWriteSeq => simp [Reader.claimed, at_] at claimed
  | idle => simpa only [Reader.step, at_] using claimed
  | copy writeSeq copied =>
    simp only [Reader.step, at_]
    split_ifs
    next => rfl
    next => exact claimed
  | loadWriteSeq =>
    simp only [Reader.step, at_]
    split_ifs
    next => rfl
    next => cases config.readerLanguage <;> first | exact loaded _ _ | rfl
  | storeResync writeSeq =>
    simp only [Reader.step, at_]
    cases config.readerLanguage <;> first | exact loaded _ _ | rfl
  | reloadWriteSeq =>
    simp only [Reader.step, at_]
    exact loaded _ _
  | _ =>
    simp only [Reader.step, at_]
    cases config.readerLanguage <;> rfl

-- Until its load of write_seq the attach stores nothing; that load is where the reader's part of the log begins.
theorem unclaimed_step {config : Config} {base : Nat} {memory : Memory bytes} {writer : Writer bytes}
    {reader : Reader bytes} (writerOk : WriterOk config.geometry base memory writer false)
    (unattached : unattachedOk reader) (nowNs : UInt64) (claimed : reader.claimed = false) :
    (reader.step config memory nowNs).1 = memory ∧
      ((reader.step config memory nowNs).2.claimed = false ∧ unattachedOk (reader.step config memory nowNs).2 ∨
        (reader.step config memory nowNs).2.claimed = true ∧
          ReaderOk config base memory writer.published (reader.step config memory nowNs).2) := by
  obtain ⟨result, delivered⟩ := unattached
  cases at_ : reader.pc with
  | detached =>
    simp only [Reader.step, at_]
    exact ⟨trivial, .inl ⟨claimed, result, delivered⟩⟩
  | attachLoadPid now =>
    simp only [Reader.step, at_]
    split_ifs
    all_goals exact ⟨rfl, .inl ⟨rfl, result, delivered⟩⟩
  | attachLoadHeartbeat now =>
    simp only [Reader.step, at_]
    split_ifs
    all_goals exact ⟨rfl, .inl ⟨rfl, result, delivered⟩⟩
  | attachLoadWriteSeq =>
    have seq := writerOk.seq
    simp only [Reader.step, at_]
    refine ⟨trivial, .inr ⟨by cases config.readerLanguage <;> rfl, ?_⟩⟩
    refine ⟨by simp, by simpa using writerOk.order, by simp, ?_, ?_, by simp [delivered], ?_, ?_, ?_, ?_⟩
    next => cases language : config.readerLanguage <;> simp [Reader.synced]
    next => simp only [seq]; omega
    next => simpa using Window.empty
    next => simp [delivered]
    next => simp [delivered]
    next => cases config.readerLanguage <;> exact result
  | _ => simp [Reader.claimed, at_] at claimed

@[simp] theorem onLoaded_stores (reader : Reader bytes) (writeSeq : UInt64) :
    (reader.onLoaded writeSeq).stores = reader.stores := by
  unfold Reader.onLoaded
  split_ifs <;> rfl

-- The history of stores is complete: an access of a consume changes the header only by the store it records.
theorem consume_access (config : Config) (memory : Memory bytes) (reader : Reader bytes) (nowNs : UInt64)
    (consuming : reader.consuming = true) :
    (reader.step config memory nowNs).1 = memory ∧ (reader.step config memory nowNs).2.stores = reader.stores ∨
      ∃ field value, (reader.step config memory nowNs).1 = { memory with header := field.put value memory.header } ∧
        (reader.step config memory nowNs).2.stores = reader.stores ++ [field] := by
  cases at_ : reader.pc with
  | detached | attachLoadPid | attachLoadHeartbeat | attachLoadWriteSeq | attachLoadEpoch | attachStoreReadSeq
    | attachStorePid | attachStoreHeartbeat | idle => simp [Reader.consuming, at_] at consuming
  | stamp =>
    simp only [Reader.step, at_]
    exact .inr ⟨.readerHeartbeatNs, nowNs, rfl, rfl⟩
  | storeResync writeSeq =>
    simp only [Reader.step, at_]
    refine .inr ⟨.readSeq, writeSeq, rfl, ?_⟩
    cases config.readerLanguage <;> simp [Reader.store]
  | storeReadSeq writeSeq =>
    simp only [Reader.step, at_]
    exact .inr ⟨.readSeq, _, rfl, rfl⟩
  | loadWriteSeq =>
    simp only [Reader.step, at_]
    split_ifs
    next => exact .inl ⟨rfl, rfl⟩
    next => cases config.readerLanguage <;> simp
  | copy =>
    simp only [Reader.step, at_]
    split_ifs <;> exact .inl ⟨rfl, rfl⟩
  | loadWriterPid | loadWriterHeartbeat | loadEpoch | reloadWriteSeq => simp [Reader.step, at_]

theorem initial_invariant {config : Config} {base : Nat} {state : State bytes} (start : Initial config base state) :
    Invariant config base state := by
  have unclaimed : state.reader.claimed = false := by simp [Reader.claimed, start.readerPc]
  refine ⟨⟨start.view, ?_, ?_, ?_, ?_⟩, ?_, fun _ => ⟨start.result, start.delivered⟩⟩
  next => simp [start.seq, start.published]
  next => rw [start.seq]; exact start.order
  next => rw [start.seq]; exact start.occupancy
  next => rw [start.writerPc]; trivial
  next => simp [unclaimed]

-- What the step lemma asks of the state after a step it also grants to the state before.
theorem step_monotone {config : Config} {state next : State bytes} {action : Action bytes}
    (move : step config state action = some next) :
    (next.borrowed = false → state.borrowed = false ∧ (borrows state = true → ∀ nowNs, action ≠ .writer nowNs)) ∧
      state.writer.published.length ≤ next.writer.published.length := by
  cases action with
  | writer nowNs =>
    simp only [step, Option.some.injEq] at move
    subst move
    refine ⟨by simp, ?_⟩
    dsimp only
    by_cases loan : ∃ payload readSeq demoted, state.writer.pc = .dropOldest payload readSeq demoted
    next =>
      obtain ⟨payload, readSeq, demoted, at_⟩ := loan
      simp [Writer.step, at_]
    next =>
      simp only [not_exists] at loan
      obtain ⟨-, -, ⟨-, published⟩ | ⟨payload, _, _, -, -, published⟩⟩ :=
        writerStep_cases state.memory state.writer nowNs loan
      all_goals simp [published]
  | writerCopy byte =>
    simp only [step, Writer.copyByte, Option.map_eq_some_iff] at move
    obtain ⟨moved, copied, rfl⟩ := move
    split at copied <;> simp only [Option.some.injEq, reduceCtorEq] at copied
    subst copied
    simp
  | publish | attach | consume =>
    simp only [step] at move
    split at move <;> simp only [Option.some.injEq, reduceCtorEq] at move
    subst move
    simp
  | reader =>
    simp only [step, Option.some.injEq] at move
    subst move
    simp
  | readerCopy byte =>
    simp only [step, Option.map_eq_some_iff] at move
    obtain ⟨moved, -, rfl⟩ := move
    simp

theorem step_invariant {config : Config} (accepted : config.geometry.Accepted) {base : Nat}
    {state next : State bytes} {action : Action bytes} (invariant : Invariant config base state)
    (move : step config state action = some next) (lent : next.borrowed = false)
    (bound : base + next.writer.published.length < 2 ^ 64) : Invariant config base next := by
  obtain ⟨writerOk, readerOk, unattached⟩ := invariant
  have unborrowed := ((step_monotone move).1 lent).2
  cases action with
  | publish payload =>
    simp only [step] at move
    split at move <;> simp only [Option.some.injEq, reduceCtorEq] at move
    subst move
    exact ⟨writerOk.move rfl rfl trivial, readerOk, unattached⟩
  | writer nowNs =>
    have kept : borrows state = false := by
      by_contra loan
      exact unborrowed (by simpa using loan) nowNs rfl
    simp only [step, Option.some.injEq] at move
    subst move
    have loan : ∀ payload readSeq demoted, state.writer.pc = .dropOldest payload readSeq demoted →
        state.reader.claimed = false := by
      intro payload readSeq demoted at_
      simpa [borrows, at_] using kept
    refine ⟨writerOk.step accepted nowNs loan bound, ?_, unattached⟩
    intro claimed
    dsimp only at claimed
    rw [claimed] at writerOk loan
    exact (readerOk claimed).writerStep writerOk nowNs
      (fun payload readSeq demoted at_ => absurd (loan payload readSeq demoted at_) (by simp)) bound
  | writerCopy byte =>
    simp only [step, Option.map_eq_some_iff] at move
    obtain ⟨moved, copied, rfl⟩ := move
    refine ⟨writerOk.copyByte copied, ?_, unattached⟩
    intro claimed
    dsimp only at claimed
    rw [claimed] at writerOk
    exact (readerOk claimed).writerCopyByte writerOk copied
  | attach nowNs =>
    simp only [step] at move
    split at move <;> simp only [Option.some.injEq, reduceCtorEq] at move
    next at_ =>
      subst move
      have unclaimed : state.reader.claimed = false := by simp [Reader.claimed, at_]
      rw [unclaimed] at writerOk
      exact ⟨writerOk, by simp [Reader.claimed], fun _ => unattached unclaimed⟩
  | consume out =>
    simp only [step] at move
    split at move <;> simp only [Option.some.injEq, reduceCtorEq] at move
    next at_ =>
      subst move
      have claimed : state.reader.claimed = true := by simp [Reader.claimed, at_]
      have ok := readerOk claimed
      have synced : state.memory.header.readSeq = state.reader.handle.view.2 := ok.synced (by simp [Reader.synced, at_])
      rw [claimed] at writerOk
      exact ⟨writerOk, fun _ => ok.move rfl rfl rfl (fun _ => synced) rfl, by simp [Reader.claimed]⟩
  | reader nowNs =>
    simp only [step, Option.some.injEq] at move
    subst move
    cases claimed : state.reader.claimed with
    | true =>
      rw [claimed] at writerOk
      have moved := (readerOk claimed).step writerOk nowNs claimed
      have still : (state.reader.step config state.memory nowNs).2.claimed = true := claimed_step nowNs claimed
      refine ⟨?_, fun _ => moved.1, ?_⟩
      next => dsimp only; rw [still]; exact moved.2
      next => dsimp only; rw [still]; simp
    | false =>
      rw [claimed] at writerOk
      obtain ⟨same, after⟩ := unclaimed_step writerOk (unattached claimed) nowNs claimed
      rw [same]
      rcases after with ⟨still, idle⟩ | ⟨now, attached⟩
      next => exact ⟨writerOk.claim _, by simp [still], fun _ => idle⟩
      next => exact ⟨writerOk.claim _, fun _ => attached, by simp [now]⟩
  | readerCopy byte =>
    simp only [step, Option.map_eq_some_iff] at move
    obtain ⟨moved, copied, rfl⟩ := move
    cases claimed : state.reader.claimed with
    | true =>
      have still : moved.claimed = true := by
        unfold Reader.copyByte at copied
        split at copied <;> simp only [Option.some.injEq, reduceCtorEq] at copied
        subst copied
        rfl
      rw [claimed] at writerOk
      refine ⟨?_, fun _ => (readerOk claimed).copyByte copied, ?_⟩
      next => dsimp only; rw [still]; exact writerOk
      next => dsimp only; rw [still]; simp
    | false =>
      unfold Reader.copyByte at copied
      split at copied <;> simp only [Option.some.injEq, reduceCtorEq] at copied
      next writeSeq done at_ => simp [Reader.claimed, at_] at claimed

theorem reachable_invariant {config : Config} (accepted : config.geometry.Accepted) {base : Nat}
    {state : State bytes} (reached : Reachable (system config base bytes) state) (lent : state.borrowed = false)
    (bound : base + state.writer.published.length < 2 ^ 64) : Invariant config base state := by
  induction reached with
  | initial start => exact initial_invariant start
  | step _ move ih =>
    have monotone := step_monotone move
    exact step_invariant accepted (ih (monotone.1 lent).1 (by have := monotone.2; omega)) move lent bound

-- The contract of the ring between one writer and one attached reader, read off a single state.
structure SpscContract (config : Config) (base : Nat) (state : State bytes) : Prop where
  order : state.memory.header.readSeq.toNat ≤ state.memory.header.writeSeq.toNat
  occupancy : state.memory.header.writeSeq.toNat ≤
    state.memory.header.readSeq.toNat + config.geometry.nSlots.toNat
  published : state.memory.header.writeSeq.toNat = base + state.writer.published.length
  seqs : state.reader.delivered.map (fun entry => entry.1.toNat) =
    List.range' state.reader.attachedAt.toNat state.reader.delivered.length
  payloads : state.reader.delivered.map Prod.snd =
    (state.writer.published.drop (state.reader.attachedAt.toNat - base)).take state.reader.delivered.length
  next : state.reader.pc = .idle →
    state.memory.header.readSeq.toNat = state.reader.attachedAt.toNat + state.reader.delivered.length
  filled : state.reader.pc = .idle → state.reader.result = some .filled →
    ∃ seq, state.reader.delivered.getLast? = some (seq, state.reader.out)
  empty : state.reader.pc = .idle → state.reader.result = some .empty →
    state.reader.out = Payload.zero bytes ∧ state.reader.stores = [.readerHeartbeatNs]
  recorded : ∀ nowNs, state.reader.consuming = true →
    (state.reader.step config state.memory nowNs).1 = state.memory ∧
        (state.reader.step config state.memory nowNs).2.stores = state.reader.stores ∨
      ∃ field value, (state.reader.step config state.memory nowNs).1 =
          { state.memory with header := field.put value state.memory.header } ∧
        (state.reader.step config state.memory nowNs).2.stores = state.reader.stores ++ [field]

theorem spsc_ring_is_fifo {config : Config} (valid : config.geometry.validateSelf = .ok ()) {base : Nat}
    {state : State bytes} (reached : Reachable (system config base bytes) state) (lent : state.borrowed = false)
    (bound : base + state.writer.published.length < 2 ^ 64) : SpscContract config base state := by
  have invariant := reachable_invariant (Geometry.validateSelf_ok.mp valid) reached lent bound
  obtain ⟨writerOk, readerOk, unattached⟩ := invariant
  have attached : state.reader.pc = .idle → ReaderOk config base state.memory state.writer.published state.reader :=
    fun at_ => readerOk (by simp [Reader.claimed, at_])
  have pcOk : state.reader.pc = .idle →
      (state.reader.result = some .filled → ∃ seq, state.reader.delivered.getLast? = some (seq, state.reader.out)) ∧
        (state.reader.result = some .empty →
          state.reader.out = Payload.zero bytes ∧ state.reader.stores = [.readerHeartbeatNs]) := by
    intro at_
    have pc := (attached at_).pc
    unfold ReaderPcOk at pc
    simpa only [at_] using pc
  refine ⟨writerOk.order, writerOk.occupancy, writerOk.seq, ?_, ?_, ?_, fun at_ => (pcOk at_).1,
    fun at_ => (pcOk at_).2, fun nowNs consuming => consume_access config state.memory state.reader nowNs consuming⟩
  next =>
    cases claimed : state.reader.claimed with
    | true => exact (readerOk claimed).seqs
    | false => simp [(unattached claimed).2]
  next =>
    cases claimed : state.reader.claimed with
    | true => exact (readerOk claimed).payloads
    | false => simp [(unattached claimed).2]
  next =>
    intro at_
    have level : state.memory.header.readSeq = state.reader.handle.view.2 :=
      (attached at_).synced (by simp [Reader.synced, at_])
    rw [level]
    exact (attached at_).position

-- Two channels of one frame make the smallest slot there is: four bytes.
def oneFrame : Geometry where
  rate := 48000
  channels := 2
  sampleFormat := 1
  periodFrames := 1
  nSlots := 2

def oneFrameReader : Config where
  geometry := oneFrame
  readerLanguage := .c
  readerPid := 7

-- A C writer that has just attached to an empty ring standing at the given sequence.
def opened (seq : UInt64) : State 4 where
  memory :=
    { header := { (initCreatedMapping oneFrame).2 with writeSeq := seq, readSeq := seq }
      slots := fun _ => Payload.zero 4 }
  writer :=
    { handle := .c (jtsRingWriterAttach oneFrame { (initCreatedMapping oneFrame).2 with writeSeq := seq } 1 0).1
      pc := .idle, published := [] }
  reader :=
    { handle := .begin oneFrame 0 .c, pc := .detached, out := Payload.zero 4, result := none, stores := []
      attachedAt := 0, delivered := [] }
  borrowed := false

theorem opened_initial (seq : UInt64) : Initial oneFrameReader seq.toNat (opened seq) :=
  ⟨rfl, le_rfl, Nat.le_add_right _ _, rfl, rfl, rfl, rfl, rfl, rfl, rfl⟩

def attachActions : List (Action 4) := .attach 1 :: List.replicate 6 (.reader 1)

def publishActions (payload : Payload 4) : List (Action 4) :=
  [.publish payload, .writer 2, .writer 2, .writerCopy 2, .writerCopy 0, .writerCopy 3, .writerCopy 1, .writer 2,
    .writer 2, .writer 2]

def consumeActions : List (Action 4) :=
  [.consume (Payload.zero 4), .reader 3, .reader 3, .reader 3, .reader 3, .readerCopy 1, .readerCopy 0, .readerCopy 3,
    .readerCopy 2, .reader 3, .reader 3]

def emptyActions : List (Action 4) :=
  [.consume (Payload.zero 4), .reader 3, .reader 3, .reader 3, .reader 3]

theorem spsc_ring_is_fifo_at_one_slot :
    ∃ state : State 4, SpscContract oneFrameReader 0 state ∧ state.reader.result = some .filled ∧
      state.reader.out = fun _ => 9 := by
  let actions := attachActions ++ publishActions (fun _ => 9) ++ consumeActions
  have runs : (execute (step oneFrameReader) (opened 0) actions).isSome = true := by decide
  obtain ⟨state, ran⟩ := Option.isSome_iff_exists.mp runs
  have facts : ∀ state ∈ execute (step oneFrameReader) (opened 0) actions, state.borrowed = false ∧
      state.writer.published.length = 1 ∧ state.reader.result = some .filled ∧ state.reader.out = fun _ => 9 := by
    decide
  obtain ⟨lent, length, result, out⟩ := facts state ran
  have reached := reachable_of_execute (opened_initial 0) ran
  exact ⟨state, spsc_ring_is_fifo (by decide) reached lent (by simp [length]), result, out⟩

-- An Empty consume stamps the reader's heartbeat, and the publish after sequence 2^64 - 1 restarts at zero.
theorem empty_consume_stamps_and_write_seq_wraps :
    (∃ idle finished : State 4, Reachable (system oneFrameReader 0 4) idle ∧
        execute (step oneFrameReader) idle emptyActions = some finished ∧ finished.reader.result = some .empty ∧
        finished.memory.header ≠ idle.memory.header) ∧
      ∃ state : State 4, Reachable (system oneFrameReader (2 ^ 64 - 1) 4) state ∧ state.borrowed = false ∧
        state.memory.header.writeSeq < state.memory.header.readSeq := by
  refine ⟨?_, ?_⟩
  next =>
    have attaches : (execute (step oneFrameReader) (opened 0) attachActions).isSome = true := by decide
    obtain ⟨idle, ran⟩ := Option.isSome_iff_exists.mp attaches
    have facts : ∀ idle ∈ execute (step oneFrameReader) (opened 0) attachActions,
        (execute (step oneFrameReader) idle emptyActions).isSome = true ∧
          ∀ finished ∈ execute (step oneFrameReader) idle emptyActions, finished.reader.result = some .empty ∧
            finished.memory.header ≠ idle.memory.header := by
      decide
    obtain ⟨consumes, empty⟩ := facts idle ran
    obtain ⟨finished, consumed⟩ := Option.isSome_iff_exists.mp consumes
    exact ⟨idle, finished, reachable_of_execute (opened_initial 0) ran, consumed, empty finished consumed⟩
  next =>
    have publishes : (execute (step oneFrameReader) (opened (0 - 1)) (publishActions fun _ => 9)).isSome = true := by
      decide
    obtain ⟨state, ran⟩ := Option.isSome_iff_exists.mp publishes
    have facts : ∀ state ∈ execute (step oneFrameReader) (opened (0 - 1)) (publishActions fun _ => 9),
        state.borrowed = false ∧ state.memory.header.writeSeq < state.memory.header.readSeq := by
      decide
    exact ⟨state, reachable_of_execute (opened_initial (0 - 1)) ran, facts state ran⟩

end Jts.Ring.Interleaving
