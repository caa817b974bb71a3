import Jts.Ring.Handle
import Jts.Shared.Flock
import Jts.Shared.Transition

set_option autoImplicit false

namespace Jts.Ring.WriterLock

open Jts.Shared.Flock Jts.Shared.Transition

variable {bytes : Nat}

def openLockWaitTimeoutMs : UInt64 := 500

-- Where jts_ring_writer_open or jts_ring_writer_close stands: the next lock operation or header access.
inductive WriterPc
  | closed
  | mapped
  | tryLock (deadline : UInt64)
  | checkDeadline (deadline : UInt64)
  | sampleNow
  | guardPid (nowNs : UInt64)
  | guardHeartbeat (nowNs : UInt64)
  | refuse
  | loadWriteSeq
  | loadEpoch
  | storeEpoch (epoch : UInt64)
  | storePid
  | storeHeartbeat
  | opened
  | closeLoadPid
  | closeStorePid
  | closeUnlock
  deriving DecidableEq, Repr

inductive OpenOutcome
  | opened
  | busy
  deriving DecidableEq, Repr

-- lockFd is whether the handle holds the lock; stored is history, whether its open has stored into the header.
structure WriterProcess where
  pc : WriterPc
  lockFd : Bool
  writer : JtsRingWriter
  outcome : Option OpenOutcome
  stored : Bool

structure Config where
  geometry : Geometry
  writerPid : Nat → UInt64
  readerPid : Nat → UInt64

namespace WriterPc

-- From the lock acquisition to its release.
def guarded : WriterPc → Bool
  | .closed | .mapped | .tryLock _ | .checkDeadline _ => false
  | _ => true

-- Inside an open that has stored nothing yet.
def unstamped : WriterPc → Bool
  | .mapped | .tryLock _ | .checkDeadline _ | .sampleNow | .guardPid _ | .guardHeartbeat _ | .refuse | .loadWriteSeq
  | .loadEpoch | .storeEpoch _ => true
  | .closed | .storePid | .storeHeartbeat | .opened | .closeLoadPid | .closeStorePid | .closeUnlock => false

def opening : WriterPc → Bool
  | .storePid | .storeHeartbeat => true
  | pc => pc.unstamped

def closing : WriterPc → Bool
  | .closeLoadPid | .closeStorePid | .closeUnlock => true
  | _ => false

-- Between the return of a successful open and the return of its close.
def owner : WriterPc → Bool
  | .opened | .closeLoadPid | .closeStorePid | .closeUnlock => true
  | _ => false

end WriterPc

-- A failed flock is EWOULDBLOCK on a held lock or EINTR on any; both go round the loop until the deadline.
def WriterProcess.step (config : Config) (id : Nat) (header : Header) (holder : Option Nat)
    (process : WriterProcess) (nowNs : UInt64) (interrupted : Bool) : Header × Option Nat × WriterProcess :=
  match process.pc with
  | .closed | .opened => (header, holder, process)
  | .mapped =>
    (header, holder, { process with pc := .tryLock (nowNs + openLockWaitTimeoutMs * 1000000) })
  | .tryLock deadline =>
    if holder = none ∧ interrupted = false then (header, some id, { process with pc := .sampleNow, lockFd := true })
    else (header, holder, { process with pc := .checkDeadline deadline })
  | .checkDeadline deadline =>
    if deadline ≤ nowNs then (header, holder, { process with pc := .closed, outcome := some .busy })
    else (header, holder, { process with pc := .tryLock deadline })
  | .sampleNow => (header, holder, { process with pc := .guardPid nowNs })
  | .guardPid now =>
    if header.writerPid = 0 ∨ header.writerPid = config.writerPid id then
      (header, holder, { process with pc := .loadWriteSeq })
    else (header, holder, { process with pc := .guardHeartbeat now })
  | .guardHeartbeat now =>
    if stampIsLive 1 header.writerHeartbeatNs now then (header, holder, { process with pc := .refuse })
    else (header, holder, { process with pc := .loadWriteSeq })
  | .refuse =>
    (header, release holder id, { process with pc := .closed, lockFd := false, outcome := some .busy })
  | .loadWriteSeq =>
    (header, holder,
      { process with
        pc := .loadEpoch
        writer :=
          { geometry := config.geometry, writeSeq := header.writeSeq, publishedSlots := 0, dropNoReader := 0
            fullWaits := 0 } })
  | .loadEpoch => (header, holder, { process with pc := .storeEpoch header.writerEpoch })
  | .storeEpoch epoch =>
    (header.storeWriterEpoch (epoch + 1), holder, { process with pc := .storePid, stored := true })
  | .storePid =>
    (header.storeWriterPid (config.writerPid id), holder, { process with pc := .storeHeartbeat, stored := true })
  | .storeHeartbeat =>
    (header.storeWriterHeartbeatNs nowNs, holder,
      { process with pc := .opened, outcome := some .opened, stored := true })
  | .closeLoadPid =>
    if header.writerPid = config.writerPid id then (header, holder, { process with pc := .closeStorePid })
    else (header, holder, { process with pc := .closeUnlock })
  | .closeStorePid => (header.storeWriterPid 0, holder, { process with pc := .closeUnlock })
  | .closeUnlock => (header, release holder id, { process with pc := .closed, lockFd := false })

-- Handles are numbered; several of them may belong to one pid. unsupported is history: some lock attempt
-- returned -2 and its open went on without the lock.
structure State (bytes : Nat) where
  memory : Memory bytes
  holder : Option Nat
  writers : Nat → WriterProcess
  readers : Nat → Option ReaderHandle
  unsupported : Bool

-- A paused writer is one that takes no publish step; every step brings its own clock sample. The reader side
-- has no lock: its open, consume and close are whole operations.
inductive Action (bytes : Nat)
  | openWriter (id : Nat)
  | writer (id : Nat) (nowNs : UInt64) (interrupted : Bool)
  | lockUnsupported (id : Nat)
  | publish (id : Nat) (clock : Nat → UInt64) (payload : Payload bytes)
  | closeWriter (id : Nat)
  | killWriter (id : Nat)
  | openReader (id : Nat) (language : Language) (clock : Nat → UInt64)
  | consume (id : Nat) (nowNs : UInt64)
  | closeReader (id : Nat)
  | killReader (id : Nat)

def State.setWriter (state : State bytes) (id : Nat) (process : WriterProcess) : State bytes :=
  { state with writers := Function.update state.writers id process }

def step (config : Config) (state : State bytes) : Action bytes → Option (State bytes)
  | .openWriter id =>
    if (state.writers id).pc = .closed then
      some (state.setWriter id { state.writers id with pc := .mapped, outcome := none, stored := false })
    else none
  | .writer id nowNs interrupted =>
    let moved := (state.writers id).step config id state.memory.header state.holder nowNs interrupted
    some { state.setWriter id moved.2.2 with
      memory := { state.memory with header := moved.1 }, holder := moved.2.1 }
  | .lockUnsupported id =>
    match (state.writers id).pc with
    | .mapped | .tryLock _ =>
      some { state.setWriter id { state.writers id with pc := .sampleNow } with unsupported := true }
    | _ => none
  | .publish id clock payload =>
    if (state.writers id).pc = .opened then
      let moved := jtsRingWriterPublish (state.writers id).writer state.memory clock payload
      some { state.setWriter id { state.writers id with writer := moved.1 } with memory := moved.2.1 }
    else none
  | .closeWriter id =>
    if (state.writers id).pc = .opened then some (state.setWriter id { state.writers id with pc := .closeLoadPid })
    else none
  | .killWriter id =>
    -- The kernel closes the descriptors: the lock is released, the header stays as it was.
    some { state.setWriter id { state.writers id with pc := .closed, lockFd := false, outcome := none } with
      holder := release state.holder id }
  | .openReader id language clock =>
    if (state.readers id).isNone then
      match ReaderHandle.attach config.geometry state.memory.header (config.readerPid id) clock language with
      | some (handle, header) =>
        some { state with
          memory := { state.memory with header := header }
          readers := Function.update state.readers id (some handle) }
      | none => some state
    else none
  | .consume id nowNs =>
    (state.readers id).map fun handle =>
      { state with
        memory := (handle.consume state.memory nowNs).2.1
        readers := Function.update state.readers id (some (handle.consume state.memory nowNs).1) }
  | .closeReader id =>
    (state.readers id).map fun _ =>
      { state with
        memory := { state.memory with header := dropReader state.memory.header (config.readerPid id) }
        readers := Function.update state.readers id none }
  | .killReader id => some { state with readers := Function.update state.readers id none }

structure Initial (state : State bytes) : Prop where
  holder : state.holder = none
  writers : ∀ id, (state.writers id).pc = .closed ∧ (state.writers id).lockFd = false ∧
    (state.writers id).outcome = none
  readers : ∀ id, state.readers id = none
  supported : state.unsupported = false

def system (config : Config) (bytes : Nat) : System (State bytes) (Action bytes) :=
  ofFn Initial (step config)

def RefusalOk (process : WriterProcess) : Prop :=
  (process.pc.unstamped = true → process.stored = false) ∧
    (process.outcome = some .busy → process.pc = .closed ∧ process.stored = false)

def GuardOk (config : Config) (header : Header) (id : Nat) (process : WriterProcess) : Prop :=
  (process.pc.guarded = true → process.lockFd = true) ∧
    (process.pc = .closeStorePid → header.writerPid = config.writerPid id)

structure Invariant (config : Config) (state : State bytes) : Prop where
  owned : Owned WriterProcess.lockFd state.writers state.holder
  refusals : ∀ id, RefusalOk (state.writers id)
  guards : state.unsupported = false → ∀ id, GuardOk config state.memory.header id (state.writers id)

theorem RefusalOk.step {config : Config} {process : WriterProcess} (ok : RefusalOk process) (id : Nat)
    (header : Header) (holder : Option Nat) (nowNs : UInt64) (interrupted : Bool) :
    RefusalOk (process.step config id header holder nowNs interrupted).2.2 := by
  obtain ⟨unstamped, refused⟩ := ok
  cases at_ : process.pc with
  | closed | opened =>
    simp only [WriterProcess.step, at_]
    exact ⟨unstamped, refused⟩
  | checkDeadline | refuse =>
    have clean : process.stored = false := unstamped (by simp [at_, WriterPc.unstamped])
    simp only [WriterProcess.step, at_] at refused ⊢
    first
    | split_ifs <;> simp_all [RefusalOk, WriterPc.unstamped]
    | simp_all [RefusalOk, WriterPc.unstamped]
  | tryLock | guardPid | guardHeartbeat | closeLoadPid =>
    simp only [WriterProcess.step, at_] at refused ⊢
    split_ifs <;> simp_all [RefusalOk, WriterPc.unstamped]
  | _ => simp_all [WriterProcess.step, RefusalOk, WriterPc.unstamped]

theorem step_owned {config : Config} {writers : Nat → WriterProcess} {holder : Option Nat}
    (owned : Owned WriterProcess.lockFd writers holder) (id : Nat) (header : Header) (nowNs : UInt64)
    (interrupted : Bool) :
    Owned WriterProcess.lockFd
      (Function.update writers id ((writers id).step config id header holder nowNs interrupted).2.2)
      ((writers id).step config id header holder nowNs interrupted).2.1 := by
  cases at_ : (writers id).pc with
  | tryLock deadline =>
    simp only [WriterProcess.step, at_]
    split_ifs with free
    next =>
      obtain ⟨rfl, -⟩ := free
      exact owned.acquire rfl
    next => exact owned.keep rfl
  | refuse | closeUnlock =>
    simp only [WriterProcess.step, at_]
    exact owned.drop rfl
  | checkDeadline | guardPid | guardHeartbeat | closeLoadPid =>
    simp only [WriterProcess.step, at_]
    split_ifs <;> exact owned.keep rfl
  | _ =>
    simp only [WriterProcess.step, at_]
    exact owned.keep rfl

-- Only the pid stamp of an open and the pid clear of a close touch writer_pid.
theorem step_writerPid (config : Config) (id : Nat) (header : Header) (holder : Option Nat) (process : WriterProcess)
    (nowNs : UInt64) (interrupted : Bool) :
    (process.step config id header holder nowNs interrupted).1.writerPid = header.writerPid ∨
      process.pc = .storePid ∨ process.pc = .closeStorePid := by
  cases at_ : process.pc with
  | tryLock | checkDeadline | guardPid | guardHeartbeat | closeLoadPid =>
    simp only [WriterProcess.step, at_]
    split_ifs <;> exact .inl rfl
  | _ => simp [WriterProcess.step, at_]

theorem GuardOk.step {config : Config} {id : Nat} {header : Header} {process : WriterProcess}
    (ok : GuardOk config header id process) (holder : Option Nat) (nowNs : UInt64) (interrupted : Bool) :
    GuardOk config (process.step config id header holder nowNs interrupted).1 id
      (process.step config id header holder nowNs interrupted).2.2 := by
  obtain ⟨guarded, closing⟩ := ok
  cases at_ : process.pc with
  | tryLock | checkDeadline | guardPid | guardHeartbeat | closeLoadPid =>
    simp only [WriterProcess.step, at_]
    split_ifs <;> simp_all [GuardOk, WriterPc.guarded]
  | _ => simp_all [WriterProcess.step, GuardOk, WriterPc.guarded]

theorem GuardOk.header {config : Config} {id : Nat} {header after : Header} {process : WriterProcess}
    (ok : GuardOk config header id process) (same : after.writerPid = header.writerPid) :
    GuardOk config after id process :=
  ⟨ok.1, fun at_ => same.trans (ok.2 at_)⟩

theorem publish_writerPid (writer : JtsRingWriter) (memory : Memory bytes) (clock : Nat → UInt64)
    (payload : Payload bytes) :
    (jtsRingWriterPublish writer memory clock payload).2.1.header.writerPid = memory.header.writerPid := by
  obtain ⟨branch, effect, -⟩ := jtsRingWriterPublish_effect writer memory clock payload
  obtain ⟨heartbeatNs, after⟩ := effect.memory
  rw [after]
  cases branch <;> rfl

theorem consumeEffect_writerPid {g : Geometry} {readSeq nowNs nextSeq : UInt64} {before after : Memory bytes}
    {read : SlotRead} {out : Payload bytes} (effect : ConsumeEffect g readSeq nowNs before after nextSeq read out) :
    after.header.writerPid = before.header.writerPid := by
  cases effect with
  | resynced _ memory | empty _ memory | filled _ _ memory => rw [memory]; rfl

theorem consume_writerPid (handle : ReaderHandle) (memory : Memory bytes) (nowNs : UInt64) :
    (handle.consume memory nowNs).2.1.header.writerPid = memory.header.writerPid := by
  obtain ⟨nextSeq, -, effect⟩ := handle.consume_effect memory nowNs
  exact consumeEffect_writerPid effect

theorem dropReader_writerPid (header : Header) (pid : UInt64) :
    (dropReader header pid).writerPid = header.writerPid := by
  unfold dropReader
  split_ifs <;> rfl

theorem Invariant.setWriter {config : Config} {state : State bytes} (invariant : Invariant config state) {id : Nat}
    {process : WriterProcess} (lockFd : process.lockFd = (state.writers id).lockFd) (refusal : RefusalOk process)
    (guard : state.unsupported = false → GuardOk config state.memory.header id process) :
    Invariant config (state.setWriter id process) := by
  refine ⟨invariant.owned.keep lockFd, ?_, ?_⟩
  next =>
    intro other
    by_cases self : other = id
    next => simpa [State.setWriter, self] using refusal
    next => simpa [State.setWriter, self] using invariant.refusals other
  next =>
    intro supported other
    by_cases self : other = id
    next => simpa [State.setWriter, self] using guard supported
    next => simpa [State.setWriter, self] using invariant.guards supported other

theorem Invariant.memory {config : Config} {state : State bytes} (invariant : Invariant config state)
    {memory : Memory bytes} (same : memory.header.writerPid = state.memory.header.writerPid) :
    Invariant config { state with memory := memory } :=
  ⟨invariant.owned, invariant.refusals, fun supported id => (invariant.guards supported id).header same⟩

theorem Invariant.readers {config : Config} {state : State bytes} (invariant : Invariant config state)
    (readers : Nat → Option ReaderHandle) : Invariant config { state with readers := readers } :=
  ⟨invariant.owned, invariant.refusals, invariant.guards⟩

-- The one step in which two writers could meet: whoever touches writer_pid holds the lock alone.
theorem Invariant.writerStep {config : Config} {state : State bytes} (invariant : Invariant config state) (id : Nat)
    (nowNs : UInt64) (interrupted : Bool) {next : State bytes}
    (move : step config state (.writer id nowNs interrupted) = some next) : Invariant config next := by
  simp only [step, Option.some.injEq] at move
  subst move
  refine ⟨step_owned invariant.owned id state.memory.header nowNs interrupted, ?_, ?_⟩
  next =>
    intro other
    by_cases self : other = id
    next =>
      simpa [State.setWriter, self] using
        (invariant.refusals id).step id state.memory.header state.holder nowNs interrupted
    next => simpa [State.setWriter, self] using invariant.refusals other
  next =>
    intro supported other
    have guards := invariant.guards supported
    by_cases self : other = id
    next => simpa [State.setWriter, self] using (guards id).step state.holder nowNs interrupted
    next =>
      simp only [State.setWriter, Function.update_of_ne self]
      rcases step_writerPid config id state.memory.header state.holder (state.writers id) nowNs interrupted with
        same | stamping
      next => exact (guards other).header same
      next =>
        have held : (state.writers id).lockFd = true :=
          (guards id).1 (by rcases stamping with at_ | at_ <;> simp [at_, WriterPc.guarded])
        refine ⟨(guards other).1, fun at_ => ?_⟩
        have alsoHeld : (state.writers other).lockFd = true := (guards other).1 (by simp [at_, WriterPc.guarded])
        exact absurd (invariant.owned.unique alsoHeld held) self

theorem step_invariant {config : Config} {state next : State bytes} {action : Action bytes}
    (invariant : Invariant config state) (move : step config state action = some next) :
    Invariant config next := by
  cases action with
  | openWriter id =>
    simp only [step] at move
    split_ifs at move with closed
    obtain rfl := Option.some.inj move
    exact invariant.setWriter rfl ⟨by simp, by simp⟩ fun _ => ⟨by simp [WriterPc.guarded], by simp⟩
  | writer id nowNs interrupted => exact invariant.writerStep id nowNs interrupted move
  | lockUnsupported id =>
    have refusal := invariant.refusals id
    simp only [step] at move
    split at move <;> simp only [Option.some.injEq, reduceCtorEq] at move
    all_goals
      next at_ =>
        subst move
        refine ⟨invariant.owned.keep rfl, ?_, by simp⟩
        intro other
        by_cases self : other = id
        next => simp_all [State.setWriter, RefusalOk, WriterPc.unstamped]
        next => simpa [State.setWriter, self] using invariant.refusals other
  | publish id clock payload =>
    simp only [step] at move
    split_ifs at move with opened
    obtain rfl := Option.some.inj move
    have published := publish_writerPid (state.writers id).writer state.memory clock payload
    exact (invariant.memory published).setWriter rfl (invariant.refusals id)
      fun supported => (invariant.guards supported id).header published
  | closeWriter id =>
    have refusal := invariant.refusals id
    simp only [step] at move
    split_ifs at move with opened
    obtain rfl := Option.some.inj move
    refine invariant.setWriter rfl ⟨by simp [WriterPc.unstamped], ?_⟩ ?_
    next =>
      intro busy
      simpa [opened] using (refusal.2 busy).1
    next =>
      intro supported
      exact ⟨fun _ => (invariant.guards supported id).1 (by simp [opened, WriterPc.guarded]), by simp⟩
  | killWriter id =>
    simp only [step, Option.some.injEq] at move
    subst move
    refine ⟨invariant.owned.drop rfl, ?_, ?_⟩
    next =>
      intro other
      by_cases self : other = id
      next => simp [State.setWriter, self, RefusalOk, WriterPc.unstamped]
      next => simpa [State.setWriter, self] using invariant.refusals other
    next =>
      intro supported other
      by_cases self : other = id
      next => simp [State.setWriter, self, GuardOk, WriterPc.guarded]
      next => simpa [State.setWriter, self] using invariant.guards supported other
  | openReader id language clock =>
    simp only [step] at move
    split_ifs at move with free
    split at move
    next handle header admitted =>
      obtain rfl := Option.some.inj move
      have after := (ReaderHandle.attach_spec admitted).2
      exact (invariant.memory (by rw [after]; rfl)).readers _
    next =>
      obtain rfl := Option.some.inj move
      exact invariant
  | consume id nowNs =>
    simp only [step, Option.map_eq_some_iff] at move
    obtain ⟨handle, -, rfl⟩ := move
    exact (invariant.memory (consume_writerPid handle state.memory nowNs)).readers _
  | closeReader id =>
    simp only [step, Option.map_eq_some_iff] at move
    obtain ⟨handle, -, rfl⟩ := move
    exact (invariant.memory (dropReader_writerPid state.memory.header (config.readerPid id))).readers _
  | killReader id =>
    simp only [step, Option.some.injEq] at move
    subst move
    exact invariant.readers _

theorem initial_invariant {config : Config} {state : State bytes} (start : Initial state) :
    Invariant config state := by
  refine ⟨?_, ?_, ?_⟩
  next =>
    intro id
    simp [(start.writers id).2.1, start.holder]
  next =>
    intro id
    obtain ⟨closed, -, outcome⟩ := start.writers id
    simp [RefusalOk, closed, outcome, WriterPc.unstamped]
  next =>
    intro _ id
    simp [GuardOk, (start.writers id).1, WriterPc.guarded]

theorem reachable_invariant {config : Config} {state : State bytes}
    (reached : Reachable (system config bytes) state) : Invariant config state := by
  induction reached with
  | initial start => exact initial_invariant start
  | step _ move ih => exact step_invariant ih move

theorem opening_step (config : Config) (id : Nat) (header : Header) (holder : Option Nat) (process : WriterProcess)
    (nowNs : UInt64) (interrupted : Bool) (opening : process.pc.opening = true) :
    (process.step config id header holder nowNs interrupted).1 = header ∨
      (process.step config id header holder nowNs interrupted).2.2.stored = true := by
  cases at_ : process.pc with
  | closed | opened | closeLoadPid | closeStorePid | closeUnlock =>
    simp [at_, WriterPc.opening, WriterPc.unstamped] at opening
  | tryLock | checkDeadline | guardPid | guardHeartbeat =>
    simp only [WriterProcess.step, at_]
    split_ifs <;> exact .inl rfl
  | _ => simp [WriterProcess.step, at_]

theorem closing_step {config : Config} {id : Nat} {header : Header} {process : WriterProcess}
    (ok : GuardOk config header id process) (holder : Option Nat) (nowNs : UInt64) (interrupted : Bool)
    (closing : process.pc.closing = true) :
    (process.step config id header holder nowNs interrupted).1 = header ∨
      header.writerPid = config.writerPid id ∧
        (process.step config id header holder nowNs interrupted).1 = header.storeWriterPid 0 := by
  cases at_ : process.pc with
  | closeStorePid => exact .inr ⟨ok.2 at_, by simp [WriterProcess.step, at_]⟩
  | closeLoadPid =>
    simp only [WriterProcess.step, at_]
    split_ifs <;> exact .inl rfl
  | closeUnlock => exact .inl (by simp [WriterProcess.step, at_])
  | _ => simp [at_, WriterPc.closing] at closing

-- What the guards of the two ends promise, read off one state and the steps it allows.
structure SingleEnds (config : Config) (state : State bytes) : Prop where
  exclusive : ∀ a b, (state.writers a).pc.owner = true → (state.writers b).pc.owner = true → a = b
  refused : ∀ id, (state.writers id).outcome = some .busy →
    (state.writers id).pc = .closed ∧ (state.writers id).stored = false
  recorded : ∀ id nowNs interrupted next, step config state (.writer id nowNs interrupted) = some next →
    (state.writers id).pc.opening = true → next.memory = state.memory ∨ (next.writers id).stored = true
  refusedReader : ∀ id language clock next, step config state (.openReader id language clock) = some next →
    next.readers id = none → next = state
  closed : ∀ id nowNs interrupted next, step config state (.writer id nowNs interrupted) = some next →
    (state.writers id).pc.closing = true → next.memory = state.memory ∨
      state.memory.header.writerPid = config.writerPid id ∧
        next.memory = { state.memory with header := state.memory.header.storeWriterPid 0 }
  closedReader : ∀ id next, step config state (.closeReader id) = some next → next.memory = state.memory ∨
    state.memory.header.readerPid = config.readerPid id ∧
      next.memory = { state.memory with header := state.memory.header.storeReaderPid 0 }

def twoProcesses : Config where
  geometry := protoGeometry
  writerPid := fun id => id.toUInt64 + 1
  readerPid := fun _ => 9

def allClosed : State 512 where
  memory := { header := .zero, slots := fun _ => Payload.zero 512 }
  holder := none
  writers := fun _ =>
    { pc := .closed, lockFd := false, writer := (jtsRingWriterAttach protoGeometry .zero 0 0).1, outcome := none
      stored := false }
  readers := fun _ => none
  unsupported := false

end Jts.Ring.WriterLock
