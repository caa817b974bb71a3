import Jts.Ring.Handle
import Jts.Ring.Attach
import Jts.Shared.Transition

set_option autoImplicit false

namespace Jts.Ring.Occupancy

open Jts.Shared.Word Jts.Shared.Circular Jts.Shared.Transition

variable {bytes : Nat}

-- One ring file and everybody who holds a mapping of it. published records every payload in sequence order.
structure World (bytes : Nat) where
  memory : Memory bytes
  writer : Option (UInt64 × WriterHandle)
  readers : Nat → Option (UInt64 × ReaderHandle)
  published : List (Payload bytes)

inductive Action (bytes : Nat)
  | writerAttach (language : Language) (pid : UInt64) (clock : Nat → UInt64)
  | publish (clock : Nat → UInt64) (payload : Payload bytes)
  | writerDrop
  | writerDies
  | readerAttach (reader : Nat) (language : Language) (pid : UInt64) (clock : Nat → UInt64)
  | consume (reader : Nat) (nowNs : UInt64)
  | readerDrop (reader : Nat)
  | readerDies (reader : Nat)

-- A publish appends to published when it moved the writer's sequence; the give-up wrote nothing.
def recordPublish (before after : WriterHandle) (payload : Payload bytes) (published : List (Payload bytes)) :
    List (Payload bytes) :=
  if after.view.2 = before.view.2 then published else published ++ [payload]

inductive Step (g : Geometry) : World bytes → Action bytes → World bytes → Prop
  | writerAttach (world : World bytes) (language : Language) (pid : UInt64) (clock : Nat → UInt64) :
      Step g world (.writerAttach language pid clock)
        { world with
          memory := { world.memory with
            header := (WriterHandle.attach g world.memory.header pid clock language).2 }
          writer := some (pid, (WriterHandle.attach g world.memory.header pid clock language).1) }
  | publish (world : World bytes) {pid : UInt64} {writer : WriterHandle} (clock : Nat → UInt64)
      (payload : Payload bytes) (attached : world.writer = some (pid, writer)) :
      Step g world (.publish clock payload)
        { world with
          memory := (writer.publish world.memory clock payload).2
          writer := some (pid, (writer.publish world.memory clock payload).1)
          published := recordPublish writer (writer.publish world.memory clock payload).1 payload world.published }
  | writerDrop (world : World bytes) {pid : UInt64} {writer : WriterHandle}
      (attached : world.writer = some (pid, writer)) :
      Step g world .writerDrop
        { world with
          memory := { world.memory with header := dropWriter world.memory.header pid }
          writer := none }
  | writerDies (world : World bytes) : Step g world .writerDies { world with writer := none }
  | readerAttach (world : World bytes) (reader : Nat) (language : Language) (pid : UInt64) (clock : Nat → UInt64)
      {handle : ReaderHandle} {header : Header}
      (admitted : ReaderHandle.attach g world.memory.header pid clock language = some (handle, header)) :
      Step g world (.readerAttach reader language pid clock)
        { world with
          memory := { world.memory with header := header }
          readers := Function.update world.readers reader (some (pid, handle)) }
  | consume (world : World bytes) {reader : Nat} {pid : UInt64} {handle : ReaderHandle} (nowNs : UInt64)
      (attached : world.readers reader = some (pid, handle)) :
      Step g world (.consume reader nowNs)
        { world with
          memory := (handle.consume world.memory nowNs).2.1
          readers := Function.update world.readers reader (some (pid, (handle.consume world.memory nowNs).1)) }
  | readerDrop (world : World bytes) {reader : Nat} {pid : UInt64} {handle : ReaderHandle}
      (attached : world.readers reader = some (pid, handle)) :
      Step g world (.readerDrop reader)
        { world with
          memory := { world.memory with header := dropReader world.memory.header pid }
          readers := Function.update world.readers reader none }
  | readerDies (world : World bytes) (reader : Nat) :
      Step g world (.readerDies reader) { world with readers := Function.update world.readers reader none }

-- The file its creator just published: every sequence number starts at zero, and nobody is attached yet.
def Fresh (g : Geometry) (world : World bytes) : Prop :=
  world.memory.header = (initCreatedMapping g).2 ∧ world.writer = none ∧
    (∀ reader, world.readers reader = none) ∧ world.published = []

def system (g : Geometry) (bytes : Nat) : System (World bytes) (Action bytes) where
  Initial := Fresh g
  Step := Step g

-- What holds in wrapping arithmetic, for as long as the file lives.
structure Counted (g : Geometry) (world : World bytes) : Prop where
  seq : world.memory.header.writeSeq.toNat = world.published.length % 2 ^ 64
  occupancy : (world.memory.header.writeSeq - world.memory.header.readSeq).toNat ≤ g.nSlots.toNat
  writer : ∀ pid writer, world.writer = some (pid, writer) → writer.view = (g, world.memory.header.writeSeq)
  readers : ∀ reader pid handle, world.readers reader = some (pid, handle) → handle.view.1 = g

-- What holds besides until the file-lifetime sequence wraps.
structure Ordered (g : Geometry) (world : World bytes) : Prop where
  order : world.memory.header.readSeq.toNat ≤ world.published.length
  readers : ∀ reader pid handle, world.readers reader = some (pid, handle) →
    handle.view.2.toNat ≤ world.published.length
  window : Window g.nSlots.toNat world.memory.slots (fun s => world.published.getD s (Payload.zero bytes))
    (world.published.length - g.nSlots.toNat) world.published.length

def Invariant (g : Geometry) (world : World bytes) : Prop :=
  Counted g world ∧ (world.published.length < 2 ^ 64 → Ordered g world)

theorem fresh_invariant {g : Geometry} {world : World bytes} (fresh : Fresh g world) : Invariant g world := by
  obtain ⟨header, writer, readers, published⟩ := fresh
  have zeroWrite : world.memory.header.writeSeq = 0 := by rw [header]; rfl
  have zeroRead : world.memory.header.readSeq = 0 := by rw [header]; rfl
  constructor
  next =>
    refine ⟨by simp [zeroWrite, published], by simp [zeroWrite, zeroRead], ?_, ?_⟩
    next => intro pid handle attached; simp [writer] at attached
    next => intro reader pid handle attached; simp [readers] at attached
  next =>
    intro bound
    refine ⟨by simp [zeroRead], ?_, ?_⟩
    next => intro reader pid handle attached; simp [readers] at attached
    next =>
      intro s lower upper
      simp [published] at upper

-- A step that moves neither sequence nor a slot only has to account for the handles.
theorem Invariant.relabel {g : Geometry} {world : World bytes} (invariant : Invariant g world) {header : Header}
    {writer : Option (UInt64 × WriterHandle)} {readers : Nat → Option (UInt64 × ReaderHandle)}
    (writeSeq : header.writeSeq = world.memory.header.writeSeq)
    (readSeq : header.readSeq = world.memory.header.readSeq)
    (writerView : ∀ pid handle, writer = some (pid, handle) → handle.view = (g, world.memory.header.writeSeq))
    (readerView : ∀ reader pid handle, readers reader = some (pid, handle) →
      world.readers reader = some (pid, handle)) :
    Invariant g { world with memory := { world.memory with header := header }, writer := writer, readers := readers } := by
  obtain ⟨counted, ordered⟩ := invariant
  constructor
  next =>
    refine ⟨by simp [writeSeq, counted.seq], by simpa [writeSeq, readSeq] using counted.occupancy, ?_, ?_⟩
    next =>
      intro pid handle attached
      simpa [writeSeq] using writerView pid handle attached
    next =>
      intro reader pid handle attached
      exact counted.readers reader pid handle (readerView reader pid handle attached)
  next =>
    intro bound
    have before := ordered bound
    refine ⟨by simpa [readSeq] using before.order, ?_, before.window⟩
    intro reader pid handle attached
    exact before.readers reader pid handle (readerView reader pid handle attached)

theorem toNat_nSlots (g : Geometry) : g.nSlots.toUInt64.toNat = g.nSlots.toNat := UInt32.toNat_toUInt64 g.nSlots

theorem seq_succ {w : UInt64} {count : Nat} (seq : w.toNat = count % 2 ^ 64) :
    (w + 1).toNat = (count + 1) % 2 ^ 64 := by
  rw [UInt64.toNat_add, seq]
  exact Nat.mod_add_mod count (2 ^ 64) 1

theorem seq_eq {w : UInt64} {count : Nat} (seq : w.toNat = count % 2 ^ 64) (bound : count < 2 ^ 64) :
    w.toNat = count := by
  rw [seq, Nat.mod_eq_of_lt bound]

-- The two branches that write the slot differ only in whether read_seq moves along with write_seq.
theorem Invariant.written {g : Geometry} {world : World bytes}
    (invariant : Invariant g world) {header : Header} {pid : UInt64} {handle : WriterHandle}
    (payload : Payload bytes) (writeSeq : header.writeSeq = world.memory.header.writeSeq + 1)
    (occupancy : (header.writeSeq - header.readSeq).toNat ≤ g.nSlots.toNat)
    (order : world.published.length + 1 < 2 ^ 64 → header.readSeq.toNat ≤ world.published.length + 1)
    (view : handle.view = (g, header.writeSeq)) :
    Invariant g
      { world with
        memory := { header := header, slots := (writeSlotBytes g world.memory world.memory.header.writeSeq payload).slots }
        writer := some (pid, handle)
        published := world.published ++ [payload] } := by
  obtain ⟨counted, ordered⟩ := invariant
  constructor
  next =>
    refine ⟨?_, occupancy, ?_, counted.readers⟩
    next =>
      simp only [List.length_append, List.length_singleton, writeSeq]
      exact seq_succ counted.seq
    next =>
      intro otherPid other attached
      simp only [Option.some.injEq, Prod.mk.injEq] at attached
      rw [← attached.2, view]
  next =>
    intro bound
    simp only [List.length_append, List.length_singleton] at bound
    have before := ordered (by omega)
    have index : g.slotIndex world.memory.header.writeSeq = world.published.length % g.nSlots.toNat := by
      rw [Geometry.slotIndex_eq, seq_eq counted.seq (by omega)]
    refine ⟨by simpa using order bound, ?_, ?_⟩
    next =>
      intro reader readerPid reading attached
      have local_ := before.readers reader readerPid reading attached
      simp only [List.length_append, List.length_singleton]
      omega
    next =>
      simp only [writeSlotBytes, index, List.length_append, List.length_singleton]
      exact before.window.append payload

theorem Invariant.publish {g : Geometry} (accepted : g.Accepted) {world : World bytes}
    (invariant : Invariant g world) {pid : UInt64} {writer : WriterHandle}
    (attached : world.writer = some (pid, writer)) (clock : Nat → UInt64) (payload : Payload bytes) :
    Invariant g
      { world with
        memory := (writer.publish world.memory clock payload).2
        writer := some (pid, (writer.publish world.memory clock payload).1)
        published := recordPublish writer (writer.publish world.memory clock payload).1 payload world.published } := by
  have view := invariant.1.writer pid writer attached
  obtain ⟨branch, effect, after⟩ := writer.publish_effect world.memory clock payload
  obtain ⟨heartbeatNs, memory⟩ := effect.memory
  have taken := effect.taken
  rw [view] at after taken memory
  have slots := accepted.slotsUpper
  have occupancy := invariant.1.occupancy
  rw [memory]
  cases branch with
  | gaveUp =>
    have published : recordPublish writer (writer.publish world.memory clock payload).1 payload world.published =
        world.published := by simp [recordPublish, after, view, PublishBranch.nextSeq]
    rw [published]
    exact invariant.relabel rfl rfl (by
      intro otherPid other same
      simp only [Option.some.injEq, Prod.mk.injEq] at same
      rw [← same.2, after]
      rfl) (fun _ _ _ reading => reading)
  | space =>
    have published : recordPublish writer (writer.publish world.memory clock payload).1 payload world.published =
        world.published ++ [payload] := by simp [recordPublish, after, view, PublishBranch.nextSeq]
    have room := UInt64.lt_iff_toNat_lt.mp (taken.mp rfl)
    rw [toNat_nSlots] at room
    rw [published]
    refine invariant.written payload rfl ?_ ?_ after
    next =>
      change (world.memory.header.writeSeq + 1 - world.memory.header.readSeq).toNat ≤ _
      rw [toNat_succ_sub (by omega)]
      exact room
    next =>
      intro bound
      have order := (invariant.2 (by omega)).order
      exact Nat.le_succ_of_le order
  | dropOldest =>
    have published : recordPublish writer (writer.publish world.memory clock payload).1 payload world.published =
        world.published ++ [payload] := by simp [recordPublish, after, view, PublishBranch.nextSeq]
    rw [published]
    refine invariant.written payload rfl ?_ ?_ after
    next =>
      change (world.memory.header.writeSeq + 1 - (world.memory.header.readSeq + 1)).toNat ≤ _
      rw [succ_sub_succ]
      exact occupancy
    next =>
      intro bound
      have order := (invariant.2 (by omega)).order
      change (world.memory.header.readSeq + 1).toNat ≤ _
      rw [toNat_succ (by omega)]
      omega

theorem update_some {Entry : Type} {entries : Nat → Option Entry} {changed at_ : Nat} {value : Option Entry}
    {found : Entry} (attached : Function.update entries changed value at_ = some found) :
    value = some found ∨ entries at_ = some found := by
  by_cases same : at_ = changed
  next => exact .inl (by simpa [same] using attached)
  next => exact .inr (by simpa [Function.update_of_ne same] using attached)

-- A reader's own stores move read_seq to a value its new local mirror keeps at or below write_seq.
theorem Invariant.reading {g : Geometry} {world : World bytes} (invariant : Invariant g world) {header : Header}
    {reader : Nat} {pid : UInt64} {handle : ReaderHandle}
    (writeSeq : header.writeSeq = world.memory.header.writeSeq)
    (occupancy : (header.writeSeq - header.readSeq).toNat ≤ g.nSlots.toNat) (geometry : handle.view.1 = g)
    (order : world.published.length < 2 ^ 64 → header.readSeq.toNat ≤ world.published.length ∧
      handle.view.2.toNat ≤ world.published.length) :
    Invariant g
      { world with
        memory := { world.memory with header := header }
        readers := Function.update world.readers reader (some (pid, handle)) } := by
  obtain ⟨counted, ordered⟩ := invariant
  constructor
  next =>
    refine ⟨by simp [writeSeq, counted.seq], occupancy, by simpa [writeSeq] using counted.writer, ?_⟩
    intro other otherPid reading attached
    rcases update_some attached with own | others
    next =>
      simp only [Option.some.injEq, Prod.mk.injEq] at own
      rw [← own.2, geometry]
    next => exact counted.readers other otherPid reading others
  next =>
    intro bound
    have before := ordered bound
    refine ⟨(order bound).1, ?_, before.window⟩
    intro other otherPid reading attached
    rcases update_some attached with own | others
    next =>
      simp only [Option.some.injEq, Prod.mk.injEq] at own
      rw [← own.2]
      exact (order bound).2
    next => exact before.readers other otherPid reading others

theorem Invariant.readerAttach {g : Geometry} {world : World bytes} (invariant : Invariant g world) {reader : Nat}
    {language : Language} {pid : UInt64} {clock : Nat → UInt64} {handle : ReaderHandle} {header : Header}
    (admitted : ReaderHandle.attach g world.memory.header pid clock language = some (handle, header)) :
    Invariant g
      { world with
        memory := { world.memory with header := header }
        readers := Function.update world.readers reader (some (pid, handle)) } := by
  obtain ⟨view, rfl⟩ := ReaderHandle.attach_spec admitted
  refine invariant.reading rfl ?_ (congrArg Prod.fst view) ?_
  next => simp [attachReader]
  next =>
    intro bound
    have tip := seq_eq invariant.1.seq bound
    rw [view]
    exact ⟨Nat.le_of_eq tip, Nat.le_of_eq tip⟩

theorem Invariant.consume {g : Geometry} {world : World bytes}
    (invariant : Invariant g world) {reader : Nat} {pid : UInt64} {handle : ReaderHandle}
    (attached : world.readers reader = some (pid, handle)) (nowNs : UInt64) :
    Invariant g
      { world with
        memory := (handle.consume world.memory nowNs).2.1
        readers := Function.update world.readers reader (some (pid, (handle.consume world.memory nowNs).1)) } := by
  have geometry := invariant.1.readers reader pid handle attached
  obtain ⟨nextSeq, view, effect⟩ := handle.consume_effect world.memory nowNs
  rw [geometry] at view effect
  have occupancy := invariant.1.occupancy
  generalize (handle.consume world.memory nowNs).2.2.1 = outcome at effect
  generalize (handle.consume world.memory nowNs).2.2.2 = out at effect
  cases effect with
  | resynced behind memory =>
    rw [memory]
    refine invariant.reading rfl (by simp) (congrArg Prod.fst view) ?_
    intro bound
    have tip := seq_eq invariant.1.seq bound
    rw [view]
    exact ⟨Nat.le_of_eq tip, Nat.le_of_eq tip⟩
  | empty caughtUp memory =>
    rw [memory]
    refine invariant.reading rfl occupancy (congrArg Prod.fst view) ?_
    intro bound
    rw [view]
    exact ⟨(invariant.2 bound).order, (invariant.2 bound).readers reader pid handle attached⟩
  | filled within ahead memory =>
    have reach : ¬g.nSlots.toUInt64.toNat < (world.memory.header.writeSeq - handle.view.2).toNat :=
      fun lt => within (UInt64.lt_iff_toNat_lt.mpr lt)
    rw [toNat_nSlots] at reach
    have shrunk := toNat_sub_succ ahead
    rw [memory]
    refine invariant.reading rfl ?_ (congrArg Prod.fst view) ?_
    next =>
      change (world.memory.header.writeSeq - (handle.view.2 + 1)).toNat ≤ _
      omega
    next =>
      intro bound
      have below := (invariant.2 bound).readers reader pid handle attached
      have tip := seq_eq invariant.1.seq bound
      have distinct : handle.view.2.toNat ≠ world.published.length := by
        intro same
        exact ahead (UInt64.toNat.inj (tip.trans same.symm))
      have next : (handle.view.2 + 1).toNat = handle.view.2.toNat + 1 := toNat_succ (by omega)
      rw [view]
      exact ⟨by change (handle.view.2 + 1).toNat ≤ _; omega, by change (handle.view.2 + 1).toNat ≤ _; omega⟩

theorem step_invariant {g : Geometry} (accepted : g.Accepted) {world next : World bytes} {action : Action bytes}
    (invariant : Invariant g world) (step : Step g world action next) : Invariant g next := by
  have noReader (gone : Nat) : ∀ reader pid handle,
      Function.update world.readers gone none reader = some (pid, handle) →
        world.readers reader = some (pid, handle) :=
    fun reader pid handle attached => (update_some attached).resolve_left (by simp)
  cases step with
  | writerAttach language pid clock =>
    rw [WriterHandle.attach_header]
    refine invariant.relabel rfl rfl ?_ (fun _ _ _ reading => reading)
    intro otherPid handle attached
    simp only [Option.some.injEq, Prod.mk.injEq] at attached
    rw [← attached.2, WriterHandle.attach_view]
  | publish clock payload attached => exact invariant.publish accepted attached clock payload
  | writerDrop attached =>
    refine invariant.relabel ?_ ?_ (by simp) (fun _ _ _ reading => reading)
    all_goals unfold dropWriter; split_ifs <;> rfl
  | writerDies => exact invariant.relabel rfl rfl (by simp) (fun _ _ _ reading => reading)
  | readerAttach reader language pid clock admitted => exact invariant.readerAttach admitted
  | consume nowNs attached => exact invariant.consume attached nowNs
  | readerDrop attached =>
    refine invariant.relabel ?_ ?_ invariant.1.writer (noReader _)
    all_goals unfold dropReader; split_ifs <;> rfl
  | readerDies reader => exact invariant.relabel rfl rfl invariant.1.writer (noReader reader)

theorem reachable_invariant {g : Geometry} (accepted : g.Accepted) {world : World bytes}
    (reached : Reachable (system g bytes) world) : Invariant g world :=
  reached.invariant (fun _ => fresh_invariant) (fun _ _ _ => step_invariant accepted)

theorem step_published {g : Geometry} {world next : World bytes} {action : Action bytes}
    (step : Step g world action next) : world.published <+: next.published := by
  cases step with
  | publish clock payload attached =>
    simp only [recordPublish]
    split_ifs
    next => exact List.prefix_rfl
    next => exact List.prefix_append _ _
  | _ => exact List.prefix_rfl

theorem run_published {g : Geometry} {world later : World bytes} {actions : List (Action bytes)}
    (run : Run (system g bytes) world actions later) : world.published <+: later.published :=
  run.relates (fun before after => before.published <+: after.published) (fun _ => True)
    (fun _ => List.prefix_rfl) (fun _ _ _ => List.IsPrefix.trans)
    (fun _ _ _ _ _ => trivial) (fun _ _ _ _ step => step_published step) trivial

theorem step_writeSeq {g : Geometry} (accepted : g.Accepted) {world next : World bytes} {action : Action bytes}
    (invariant : Invariant g world) (step : Step g world action next) :
    next.memory.header.writeSeq = world.memory.header.writeSeq ∨
      next.memory.header.writeSeq = world.memory.header.writeSeq + 1 := by
  have after := (step_invariant accepted invariant step).1.seq
  have before := invariant.1.seq
  cases step with
  | publish clock payload attached =>
    simp only [recordPublish] at after
    split_ifs at after
    next => exact .inl (UInt64.toNat.inj (after.trans before.symm))
    next =>
      simp only [List.length_append, List.length_singleton] at after
      exact .inr (UInt64.toNat.inj (after.trans (seq_succ before).symm))
  | _ => exact .inl (UInt64.toNat.inj (after.trans before.symm))

theorem Invariant.bounds {g : Geometry} {world : World bytes} (invariant : Invariant g world)
    (bound : world.published.length < 2 ^ 64) :
    world.memory.header.readSeq.toNat ≤ world.memory.header.writeSeq.toNat ∧
      world.memory.header.writeSeq.toNat ≤ world.memory.header.readSeq.toNat + g.nSlots.toNat := by
  have tip := seq_eq invariant.1.seq bound
  have order := (invariant.2 bound).order
  have occupancy := invariant.1.occupancy
  rw [toNat_sub_of_le (by omega)] at occupancy
  omega

theorem Invariant.behind {g : Geometry} {world : World bytes} (invariant : Invariant g world) {reader : Nat}
    {pid : UInt64} {handle : ReaderHandle} (attached : world.readers reader = some (pid, handle)) (nowNs : UInt64)
    (behind : g.nSlots.toUInt64 < world.memory.header.writeSeq - handle.view.2) :
    (handle.consume world.memory nowNs).1.view.2 = world.memory.header.writeSeq ∧
      (handle.consume world.memory nowNs).2.1.header =
        (world.memory.header.storeReaderHeartbeatNs nowNs).storeReadSeq world.memory.header.writeSeq ∧
      (handle.consume world.memory nowNs).2.2 = (.empty, Payload.zero bytes) := by
  have geometry := invariant.1.readers reader pid handle attached
  obtain ⟨nextSeq, view, effect⟩ := handle.consume_effect world.memory nowNs
  rw [geometry] at view effect
  rw [view, ← Prod.mk.eta (p := (handle.consume world.memory nowNs).2.2)]
  generalize (handle.consume world.memory nowNs).2.2.1 = outcome at effect ⊢
  generalize (handle.consume world.memory nowNs).2.2.2 = out at effect ⊢
  cases effect with
  | resynced _ memory => exact ⟨rfl, by rw [memory], rfl⟩
  | empty caughtUp memory =>
    rw [caughtUp, UInt64.lt_iff_toNat_lt] at behind
    simp at behind
  | filled within ahead memory => exact absurd behind within

theorem Invariant.filled {g : Geometry} {world : World bytes} (invariant : Invariant g world) {reader : Nat}
    {pid : UInt64} {handle : ReaderHandle} (attached : world.readers reader = some (pid, handle)) (nowNs : UInt64)
    (bound : world.published.length < 2 ^ 64)
    (filled : (handle.consume world.memory nowNs).2.2.1 = .filled) :
    world.published[handle.view.2.toNat]? = some (handle.consume world.memory nowNs).2.2.2 ∧
      world.published.length ≤ handle.view.2.toNat + g.nSlots.toNat := by
  have geometry := invariant.1.readers reader pid handle attached
  have below := (invariant.2 bound).readers reader pid handle attached
  have tip := seq_eq invariant.1.seq bound
  obtain ⟨nextSeq, view, effect⟩ := handle.consume_effect world.memory nowNs
  rw [geometry, filled] at effect
  generalize (handle.consume world.memory nowNs).2.2.2 = out at effect ⊢
  generalize (handle.consume world.memory nowNs).2.1 = after at effect
  cases effect with
  | filled within ahead memory =>
    have reach : ¬g.nSlots.toUInt64.toNat < (world.memory.header.writeSeq - handle.view.2).toNat :=
      fun lt => within (UInt64.lt_iff_toNat_lt.mpr lt)
    rw [toNat_nSlots, toNat_sub_of_le (by omega)] at reach
    have distinct : handle.view.2.toNat ≠ world.published.length := by
      intro same
      exact ahead (UInt64.toNat.inj (tip.trans same.symm))
    have inside : handle.view.2.toNat < world.published.length := by omega
    have slot := (invariant.2 bound).window handle.view.2.toNat (by omega) inside
    rw [Geometry.slotIndex_eq, slot]
    exact ⟨by simp [List.getD_eq_getElem?_getD, List.getElem?_eq_getElem inside], by omega⟩

theorem occupancy_stays_bounded {g : Geometry} (valid : g.validateSelf = .ok ()) {world : World bytes}
    (reached : Reachable (system g bytes) world) :
    (world.memory.header.writeSeq - world.memory.header.readSeq).toNat ≤ g.nSlots.toNat ∧
      (world.published.length < 2 ^ 64 →
        world.memory.header.readSeq.toNat ≤ world.memory.header.writeSeq.toNat ∧
          world.memory.header.writeSeq.toNat ≤ world.memory.header.readSeq.toNat + g.nSlots.toNat) ∧
      (∀ action next, Step g world action next →
        next.memory.header.writeSeq = world.memory.header.writeSeq ∨
          next.memory.header.writeSeq = world.memory.header.writeSeq + 1) ∧
      (∀ actions later, Run (system g bytes) world actions later → later.published.length < 2 ^ 64 →
        world.memory.header.writeSeq.toNat ≤ later.memory.header.writeSeq.toNat) ∧
      ∀ reader pid handle nowNs, world.readers reader = some (pid, handle) →
        (g.nSlots.toUInt64 < world.memory.header.writeSeq - handle.view.2 →
          (handle.consume world.memory nowNs).1.view.2 = world.memory.header.writeSeq ∧
            (handle.consume world.memory nowNs).2.1.header =
              (world.memory.header.storeReaderHeartbeatNs nowNs).storeReadSeq world.memory.header.writeSeq ∧
            (handle.consume world.memory nowNs).2.2 = (.empty, Payload.zero bytes)) ∧
        (world.published.length < 2 ^ 64 → (handle.consume world.memory nowNs).2.2.1 = .filled →
          world.published[handle.view.2.toNat]? = some (handle.consume world.memory nowNs).2.2.2 ∧
            world.published.length ≤ handle.view.2.toNat + g.nSlots.toNat) := by
  have accepted := Geometry.validateSelf_ok.mp valid
  have invariant := reachable_invariant accepted reached
  refine ⟨invariant.1.occupancy, invariant.bounds, fun _ _ => step_writeSeq accepted invariant, ?_, ?_⟩
  next =>
    intro actions later run bound
    have grown := (run_published run).length_le
    have end_ := (reachable_invariant accepted (run.reachable reached)).1.seq
    rw [seq_eq invariant.1.seq (by omega), seq_eq end_ bound]
    exact grown
  next =>
    intro reader pid handle nowNs attached
    exact ⟨invariant.behind attached nowNs, invariant.filled attached nowNs⟩

-- With no reader pid stamped the first pass already finds or makes room, so the publish always writes.
theorem readerless_publish (writer : JtsRingWriter) (memory : Memory bytes) (clock : Nat → UInt64)
    (payload : Payload bytes) (readerless : memory.header.readerPid = 0) :
    (jtsRingWriterPublish writer memory clock payload).1.writeSeq = writer.writeSeq + 1 ∧
      (jtsRingWriterPublish writer memory clock payload).2.1.header.readerPid = 0 := by
  have dead : readerIsLive (memory.header.storeWriterHeartbeatNs (clock 0)) (clock 1) = false := by
    simp [readerIsLive, stampIsLive, readerless]
  by_cases space : writer.writeSeq - memory.header.readSeq < writer.geometry.nSlots.toUInt64
  next =>
    have room : writer.spacePass (memory.header.storeWriterHeartbeatNs (clock 0)) (clock 1) 0 =
        .room writer (memory.header.storeWriterHeartbeatNs (clock 0)) false false := by
      simp [JtsRingWriter.spacePass, space]
    rw [jtsRingWriterPublish, awaitSpace_of_room room]
    exact ⟨rfl, readerless⟩
  next =>
    have room : writer.spacePass (memory.header.storeWriterHeartbeatNs (clock 0)) (clock 1) 0 =
        .room { writer with dropNoReader := writer.dropNoReader + 1 }
          ((memory.header.storeWriterHeartbeatNs (clock 0)).storeReadSeq (memory.header.readSeq + 1)) true false := by
      simp [JtsRingWriter.spacePass, space, dead]
    rw [jtsRingWriterPublish, awaitSpace_of_room room]
    exact ⟨rfl, readerless⟩

theorem readerless_records (writer : JtsRingWriter) (memory : Memory bytes) (clock : Nat → UInt64)
    (payload : Payload bytes) (published : List (Payload bytes)) (readerless : memory.header.readerPid = 0) :
    recordPublish (.c writer) ((WriterHandle.c writer).publish memory clock payload).1 payload published =
      published ++ [payload] := by
  have moved : ((WriterHandle.c writer).publish memory clock payload).1.view.2 = (WriterHandle.c writer).view.2 + 1 :=
    (readerless_publish writer memory clock payload readerless).1
  simp [recordPublish, moved]

-- A writer alone on a fresh file brings its sequence to any count.
theorem reach_count (g : Geometry) (count : Nat) :
    ∃ world : World bytes, Reachable (system g bytes) world ∧ world.published.length = count ∧
      world.memory.header.readerPid = 0 ∧ ∃ writer, world.writer = some (1, .c writer) := by
  induction count with
  | zero =>
    let fresh : World bytes :=
      { memory := { header := (initCreatedMapping g).2, slots := fun _ => Payload.zero bytes }
        writer := none, readers := fun _ => none, published := [] }
    have start : Reachable (system g bytes) fresh := .initial ⟨rfl, rfl, fun _ => rfl, rfl⟩
    exact ⟨_, start.step (Step.writerAttach fresh .c 1 (fun _ => 0)), rfl, rfl, _, rfl⟩
  | succ count ih =>
    obtain ⟨world, reached, length, readerless, writer, attached⟩ := ih
    have step : Step g world (.publish (fun _ => 0) (Payload.zero bytes)) _ :=
      .publish world (fun _ => 0) (Payload.zero bytes) attached
    have published := readerless_publish writer world.memory (fun _ => 0) (Payload.zero bytes) readerless
    refine ⟨_, reached.step step, ?_, published.2, _, rfl⟩
    simp [readerless_records writer world.memory _ _ _ readerless, length]

theorem occupancy_stays_bounded_at_three :
    ∃ world : World 512, Reachable (system protoGeometry 512) world ∧ world.published.length = 3 ∧
      (world.memory.header.writeSeq - world.memory.header.readSeq).toNat ≤ 2 := by
  obtain ⟨world, reached, length, _⟩ := reach_count protoGeometry 3
  exact ⟨world, reached, length, (occupancy_stays_bounded (by decide) reached).1⟩

-- The 2^64th publish over the life of one file takes write_seq back to zero.
theorem write_seq_wraps :
    ∃ world next : World 512, Reachable (system protoGeometry 512) world ∧
      Step protoGeometry world (.publish (fun _ => 0) (Payload.zero 512)) next ∧
      next.memory.header.writeSeq.toNat < world.memory.header.writeSeq.toNat := by
  obtain ⟨world, reached, length, readerless, writer, attached⟩ :=
    reach_count protoGeometry (2 ^ 64 - 1)
  have step : Step protoGeometry world (.publish (fun _ => 0) (Payload.zero 512)) _ :=
    .publish world (fun _ => 0) (Payload.zero 512) attached
  refine ⟨world, _, reached, step, ?_⟩
  have before := (reachable_invariant protoGeometry_accepted reached).1.seq
  have after := (reachable_invariant protoGeometry_accepted (reached.step step)).1.seq
  simp only [readerless_records writer world.memory _ _ _ readerless, List.length_append, length] at after
  rw [before, after, length]
  decide

end Jts.Ring.Occupancy
