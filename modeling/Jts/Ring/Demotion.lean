import Jts.Ring.Attach
import Jts.Ring.Handle
import Jts.Shared.Transition

set_option autoImplicit false

namespace Jts.Ring.Demotion

open Jts.Shared.Word Jts.Shared.Transition

variable {bytes : Nat}

-- Between two passes of a waiting publish the writer naps, and anything may happen.
inductive PublishPc (bytes : Nat)
  | idle
  | passing (payload : Payload bytes) (waited : Nat)

/-- A Rust writer and the reader of its ring under one clock. The last three fields are history: since when the ring has
held an unread slot without a reader advance, whether the reader has advanced since the writer's last look, and whether
the ring was empty at the writer's attach and no advance has been seen since. -/
structure Stage (bytes : Nat) where
  memory : Memory bytes
  now : UInt64
  writer : RingWriter
  pc : PublishPc bytes
  reader : Option ReaderHandle
  outcome : Option PublishOutcome
  heldSince : Option UInt64
  unseen : Bool
  untouched : Bool

inductive Action (bytes : Nat)
  | idleGap (nowNs : UInt64)
  | attachWriter (pid : UInt64)
  | publish (payload : Payload bytes)
  | pass
  | attachReader (language : Language) (pid : UInt64)
  | consume
  | dropReader (pid : UInt64)
  | readerDies

namespace Stage

variable (stage : Stage bytes)

def header : Header := stage.memory.header

-- What a reader's stores have made of the ring.
def readerMoved (memory : Memory bytes) (reader : Option ReaderHandle) : Stage bytes :=
  let advanced := memory.header.readSeq ≠ stage.header.readSeq
  { stage with
    memory := memory
    reader := reader
    heldSince :=
      if advanced then if memory.header.readSeq = memory.header.writeSeq then none else some stage.now
      else stage.heldSince
    unseen := stage.unseen || advanced }

def looked (writer : RingWriter) (memory : Memory bytes) : Stage bytes :=
  { stage with writer := writer, memory := memory, unseen := false, untouched := stage.untouched && !stage.unseen }

-- After a nap the heartbeat is refreshed before the next look.
def passHeader (waited : Nat) : Header :=
  if waited = 0 then stage.header else stage.header.storeWriterHeartbeatNs stage.now

def pass (payload : Payload bytes) (waited : Nat) : Stage bytes :=
  let header := stage.passHeader waited
  let memory := { stage.memory with header := header }
  match stage.writer.spacePass header stage.now waited with
  | .room writer after droppedOldest demoted =>
    let done := RingWriter.finishPublish memory payload (.room writer after droppedOldest demoted)
    { stage.looked done.1 done.2.1 with
      pc := .idle
      outcome := some done.2.2
      heldSince := some (stage.heldSince.getD stage.now) }
  | .full writer =>
    if maxFullWaitTicks < waited + 1 then
      let done := RingWriter.finishPublish memory payload (.gaveUp writer header)
      { stage.looked done.1 done.2.1 with pc := .idle, outcome := some done.2.2 }
    else { stage.looked writer memory with pc := .passing payload (waited + 1) }

def step (g : Geometry) : Action bytes → Option (Stage bytes)
  | .idleGap nowNs => if stage.now ≤ nowNs then some { stage with now := nowNs } else none
  | .attachWriter pid =>
    let attached := createOrAttachWriter g stage.header pid fun _ => stage.now
    some { stage with
      memory := { stage.memory with header := attached.2 }
      writer := attached.1
      pc := .idle
      outcome := none
      unseen := false
      untouched := stage.header.readSeq = stage.header.writeSeq }
  | .publish payload =>
    match stage.pc with
    | .idle =>
      some { stage with
        memory := { stage.memory with header := stage.header.storeWriterHeartbeatNs stage.now }
        pc := .passing payload 0
        outcome := none }
    | .passing _ _ => none
  | .pass =>
    match stage.pc with
    | .idle => none
    | .passing payload waited => some (stage.pass payload waited)
  | .attachReader language pid =>
    (ReaderHandle.attach g stage.header pid (fun _ => stage.now) language).map fun attached =>
      stage.readerMoved { stage.memory with header := attached.2 } (some attached.1)
  | .consume =>
    stage.reader.map fun reader =>
      let consumed := reader.consume stage.memory stage.now
      stage.readerMoved consumed.2.1 (some consumed.1)
  | .dropReader pid =>
    some { stage with memory := { stage.memory with header := dropReader stage.header pid }, reader := none }
  | .readerDies => some { stage with reader := none }

end Stage

-- The publish goes through its passes with nothing in between.
def Stage.passes : Nat → Stage bytes → Stage bytes
  | 0, stage => stage
  | looks + 1, stage =>
    match stage.pc with
    | .idle => stage
    | .passing payload waited => passes looks (stage.pass payload waited)

theorem Stage.passes_idle {stage : Stage bytes} (idle : stage.pc = .idle) (looks : Nat) : stage.passes looks = stage := by
  cases looks with
  | zero => rfl
  | succ looks => simp only [passes, idle]

/-- Left alone, the passes are the publish of the source. -/
theorem Stage.passes_publishBytes {stage : Stage bytes} {payload : Payload bytes} {waited left : Nat}
    (here : stage.pc = .passing payload waited) (naps : waited + left = maxFullWaitTicks) :
    ((stage.passes (left + 1)).writer, (stage.passes (left + 1)).memory, (stage.passes (left + 1)).outcome) =
      let done := RingWriter.finishPublish { stage.memory with header := stage.passHeader waited } payload
        (awaitSpace RingWriter.spacePass (fun _ => stage.now) stage.writer (stage.passHeader waited) left)
      (done.1, done.2.1, some done.2.2) := by
  induction left generalizing stage waited with
  | zero =>
    obtain rfl : waited = maxFullWaitTicks := naps
    simp only [passes, here, pass, awaitSpace]
    cases stage.writer.spacePass (stage.passHeader maxFullWaitTicks) stage.now maxFullWaitTicks with
    | room => rfl
    | full => rfl
  | succ left ih =>
    have index : maxFullWaitTicks - (left + 1) = waited := by omega
    rw [passes, here]
    simp only [awaitSpace, index]
    cases look : stage.writer.spacePass (stage.passHeader waited) stage.now waited with
    | room writer header droppedOldest demoted =>
      have ended : (stage.pass payload waited).pc = .idle := by simp only [pass, look]
      rw [passes_idle ended]
      simp only [pass, look]
      rfl
    | full writer =>
      have waits : ¬ maxFullWaitTicks < waited + 1 := by omega
      have next : stage.pass payload waited =
          { stage.looked writer { stage.memory with header := stage.passHeader waited } with
            pc := .passing payload (waited + 1) } := by
        simp only [pass, look, if_neg waits]
      rw [next]
      exact @ih _ (waited + 1) rfl (by omega)

/-- The writer has just attached to a ring file of this protocol, with whatever it holds. -/
structure Initial (g : Geometry) (stage : Stage bytes) : Prop where
  geometry : stage.writer.geometry = g
  writeSeq : stage.writer.writeSeq = stage.header.writeSeq
  readSeq : stage.writer.lastReadSeq = stage.header.readSeq
  stamp : stage.writer.lastReadSeqAdvanceNs = stage.now
  order : stage.header.readSeq.toNat ≤ stage.header.writeSeq.toNat
  occupancy : stage.header.writeSeq.toNat ≤ stage.header.readSeq.toNat + g.nSlots.toNat
  reader : stage.reader = none
  empty : stage.heldSince = none ↔ stage.header.readSeq = stage.header.writeSeq
  past : ∀ since, stage.heldSince = some since → since ≤ stage.now
  unseen : stage.unseen = false
  untouched : stage.untouched = decide (stage.header.readSeq = stage.header.writeSeq)
  pc : stage.pc = .idle

def system (g : Geometry) (bytes : Nat) : System (Stage bytes) (Action bytes) :=
  ofFn (Initial g) fun stage action => stage.step g action

-- The sequence numbers of the file have not run out.
def Unwrapped (stage : Stage bytes) (_ : Action bytes) : Prop := stage.header.writeSeq.toNat + 1 < 2 ^ 64

/-- The publish finds its ring full before a live reader, long after an attach to an empty ring from which nothing was read
since, but not so long after the first slot that was published there. -/
def Rushed (stage : Stage bytes) : Prop :=
  stage.untouched = true ∧ stage.unseen = false ∧
    stage.header.writeSeq.toNat = stage.header.readSeq.toNat + stage.writer.geometry.nSlots.toNat ∧
    readerIsLive stage.header stage.now = true ∧ stage.writer.isStuck stage.now = true ∧
    ∀ since, stage.heldSince = some since → stage.now.toNat ≤ since.toNat + stuckReaderGraceNs.toNat

structure Sound (g : Geometry) (stage : Stage bytes) : Prop where
  geometry : stage.writer.geometry = g
  writeSeq : stage.writer.writeSeq = stage.header.writeSeq
  order : stage.header.readSeq.toNat ≤ stage.header.writeSeq.toNat
  occupancy : stage.header.writeSeq.toNat ≤ stage.header.readSeq.toNat + g.nSlots.toNat
  reader : ∀ handle, stage.reader = some handle → handle.view.1 = g ∧
    handle.view.2.toNat ≤ stage.header.writeSeq.toNat ∧ (handle.view.2 = stage.header.readSeq ∨
      handle.view.2.toNat + g.nSlots.toNat < stage.header.writeSeq.toNat)
  seen : stage.writer.lastReadSeq.toNat ≤ stage.header.readSeq.toNat
  unseen : stage.unseen = true ↔ stage.writer.lastReadSeq.toNat < stage.header.readSeq.toNat
  empty : stage.heldSince = none ↔ stage.header.readSeq = stage.header.writeSeq
  past : ∀ since, stage.heldSince = some since → since ≤ stage.now
  timely : stage.unseen = false → stage.untouched = false →
    ∃ since, stage.heldSince = some since ∧ since ≤ stage.writer.lastReadSeqAdvanceNs

namespace Sound

variable {g : Geometry} {stage : Stage bytes}

theorem start (initial : Initial g stage) : Sound g stage where
  geometry := initial.geometry
  writeSeq := initial.writeSeq
  order := initial.order
  occupancy := initial.occupancy
  reader := fun handle attached => by rw [initial.reader] at attached; cases attached
  seen := by rw [initial.readSeq]
  unseen := by simp [initial.unseen, initial.readSeq]
  empty := initial.empty
  past := initial.past
  timely := fun _ touched => by
    rw [initial.untouched, decide_eq_false_iff_not, ← initial.empty] at touched
    obtain ⟨since, held⟩ := Option.ne_none_iff_exists'.mp touched
    exact ⟨since, held, initial.stamp ▸ initial.past since held⟩

theorem attachWriter (sound : Sound g stage) {pid : UInt64} {next : Stage bytes}
    (move : stage.step g (.attachWriter pid) = some next) : Sound g next := by
  obtain rfl := Option.some.inj move
  exact { sound with
    geometry := rfl
    writeSeq := rfl
    seen := Nat.le_refl _
    unseen := iff_of_false Bool.false_ne_true (Nat.lt_irrefl _)
    timely := fun _ touched => by
      rw [decide_eq_false_iff_not, ← sound.empty] at touched
      obtain ⟨since, held⟩ := Option.ne_none_iff_exists'.mp touched
      exact ⟨since, held, sound.past since held⟩ }

/-- A reader that stores what it may store. -/
theorem readerMoved (sound : Sound g stage) {memory : Memory bytes} {reader : ReaderHandle}
    (writeSeq : memory.header.writeSeq = stage.header.writeSeq)
    (forward : stage.header.readSeq.toNat ≤ memory.header.readSeq.toNat)
    (within : memory.header.readSeq.toNat ≤ stage.header.writeSeq.toNat) (geometry : reader.view.1 = g)
    (inStep : reader.view.2 = memory.header.readSeq) : Sound g (stage.readerMoved memory (some reader)) := by
  have advance : memory.header.readSeq ≠ stage.header.readSeq ↔
      stage.header.readSeq.toNat < memory.header.readSeq.toNat := by
    rw [ne_eq, ← UInt64.toNat_inj]
    omega
  have occupancy := sound.occupancy
  have seen := sound.seen
  exact {
    geometry := sound.geometry
    writeSeq := sound.writeSeq.trans writeSeq.symm
    order := by rw [Stage.header, Stage.readerMoved, writeSeq]; exact within
    occupancy := by
      change memory.header.writeSeq.toNat ≤ memory.header.readSeq.toNat + g.nSlots.toNat
      rw [writeSeq]
      omega
    reader := fun handle attached => by
      obtain rfl := Option.some.inj attached
      refine ⟨geometry, ?_, .inl inStep⟩
      change reader.view.2.toNat ≤ memory.header.writeSeq.toNat
      rw [inStep, writeSeq]
      exact within
    seen := by
      change stage.writer.lastReadSeq.toNat ≤ memory.header.readSeq.toNat
      omega
    unseen := by
      change (stage.unseen || decide (memory.header.readSeq ≠ stage.header.readSeq)) = true ↔
        stage.writer.lastReadSeq.toNat < memory.header.readSeq.toNat
      rw [Bool.or_eq_true, decide_eq_true_eq, sound.unseen, advance]
      omega
    empty := by
      change (if memory.header.readSeq ≠ stage.header.readSeq then
        if memory.header.readSeq = memory.header.writeSeq then none else some stage.now else stage.heldSince) = none ↔
          memory.header.readSeq = memory.header.writeSeq
      split_ifs with advanced caughtUp
      · simp [caughtUp]
      · simp [caughtUp]
      · rw [not_not.mp advanced, writeSeq]
        exact sound.empty
    past := fun since held => by
      change (if memory.header.readSeq ≠ stage.header.readSeq then
        if memory.header.readSeq = memory.header.writeSeq then none else some stage.now else stage.heldSince) =
          some since at held
      split_ifs at held
      · exact Option.some.inj held ▸ UInt64.le_refl _
      · exact sound.past since held
    timely := fun unseen touched => by
      change (stage.unseen || decide (memory.header.readSeq ≠ stage.header.readSeq)) = false at unseen
      rw [Bool.or_eq_false_iff, decide_eq_false_iff_not] at unseen
      change ∃ since, (if memory.header.readSeq ≠ stage.header.readSeq then
        if memory.header.readSeq = memory.header.writeSeq then none else some stage.now else stage.heldSince) =
          some since ∧ since ≤ stage.writer.lastReadSeqAdvanceNs
      rw [if_neg unseen.2]
      exact sound.timely unseen.1 touched }

theorem consume (sound : Sound g stage) {next : Stage bytes} (move : stage.step g .consume = some next) :
    Sound g next := by
  obtain ⟨reader, attached, rfl⟩ := Option.map_eq_some_iff.mp move
  obtain ⟨geometry, below, inStep⟩ := sound.reader reader attached
  obtain ⟨nextSeq, view, effect⟩ := reader.consume_effect stage.memory stage.now
  have order := sound.order
  have slots : g.nSlots.toUInt64.toNat = g.nSlots.toNat := UInt32.toNat_toUInt64 g.nSlots
  have distance : (stage.memory.header.writeSeq - reader.view.2).toNat =
      stage.memory.header.writeSeq.toNat - reader.view.2.toNat := toNat_sub_of_le below
  rw [geometry] at view effect
  generalize (reader.consume stage.memory stage.now).2.2.1 = outcome at effect
  generalize (reader.consume stage.memory stage.now).2.2.2 = out at effect
  have own : (reader.consume stage.memory stage.now).1.view.1 = g := congrArg Prod.fst view
  have mirror : (reader.consume stage.memory stage.now).1.view.2 = nextSeq := congrArg Prod.snd view
  cases effect with
  | resynced behind memory =>
    refine sound.readerMoved ?_ ?_ ?_ own (mirror.trans ?_) <;> rw [memory]
    · rfl
    · exact order
    · exact Nat.le_refl _
    · rfl
  | empty caughtUp memory =>
    refine sound.readerMoved ?_ ?_ ?_ own (mirror.trans ?_) <;> rw [memory]
    · rfl
    · exact Nat.le_refl _
    · exact order
    · rcases inStep with same | behind
      · exact same
      · rw [← caughtUp] at behind
        exact absurd behind (Nat.not_lt.mpr (Nat.le_add_right _ _))
  | filled near ahead memory =>
    have same : reader.view.2 = stage.header.readSeq := inStep.resolve_right fun behind => near (by
      rw [UInt64.lt_iff_toNat_lt, slots, distance]
      exact Nat.lt_sub_of_add_lt (Nat.add_comm _ _ ▸ behind))
    have apart : reader.view.2.toNat ≠ stage.header.writeSeq.toNat := fun equal =>
      ahead (UInt64.toNat.inj equal.symm)
    have bound := stage.header.writeSeq.toNat_lt
    have next : (reader.view.2 + 1).toNat = reader.view.2.toNat + 1 := toNat_succ (by omega)
    refine sound.readerMoved ?_ ?_ ?_ own (mirror.trans ?_) <;> rw [memory]
    · rfl
    · change stage.header.readSeq.toNat ≤ (reader.view.2 + 1).toNat
      rw [next, same]
      exact Nat.le_succ _
    · change (reader.view.2 + 1).toNat ≤ stage.header.writeSeq.toNat
      omega
    · rfl

theorem attachReader (sound : Sound g stage) {language : Language} {pid : UInt64} {next : Stage bytes}
    (move : stage.step g (.attachReader language pid) = some next) : Sound g next := by
  obtain ⟨⟨handle, header⟩, admitted, rfl⟩ := Option.map_eq_some_iff.mp move
  obtain ⟨view, rfl⟩ := ReaderHandle.attach_spec admitted
  exact sound.readerMoved rfl sound.order (Nat.le_refl _) (congrArg Prod.fst view) (congrArg Prod.snd view)

end Sound

/-- Everything that one look of the writer does: the stall clock starts anew where the reader has moved, a full ring loses
its oldest slot, and a slot is written unless the writer waits or gives up. -/
structure Look (stage next : Stage bytes) (dropped wrote : Bool) : Prop where
  geometry : next.writer.geometry = stage.writer.geometry
  writerSeq : next.writer.writeSeq = if wrote then stage.writer.writeSeq + 1 else stage.writer.writeSeq
  writeSeq : next.header.writeSeq = if wrote then stage.writer.writeSeq + 1 else stage.header.writeSeq
  readSeq : next.header.readSeq = if dropped then stage.header.readSeq + 1 else stage.header.readSeq
  lastReadSeq : next.writer.lastReadSeq = if dropped then stage.header.readSeq + 1 else stage.header.readSeq
  stamp : next.writer.lastReadSeqAdvanceNs =
    if stage.unseen then stage.now else stage.writer.lastReadSeqAdvanceNs
  heldSince : next.heldSince = if wrote then some (stage.heldSince.getD stage.now) else stage.heldSince
  space : dropped = false ∧ wrote = true ↔
    stage.header.writeSeq.toNat < stage.header.readSeq.toNat + stage.writer.geometry.nSlots.toNat
  kept : dropped = true → wrote = true
  demoted : next.outcome = some .droppedStuckDemoted ↔
    stage.header.writeSeq.toNat = stage.header.readSeq.toNat + stage.writer.geometry.nSlots.toNat ∧
      readerIsLive stage.header stage.now = true ∧ stage.writer.isStuck stage.now = true ∧ stage.unseen = false
  now : next.now = stage.now
  reader : next.reader = stage.reader
  unseen : next.unseen = false
  untouched : next.untouched = (stage.untouched && !stage.unseen)

namespace Sound

variable {g : Geometry} {stage : Stage bytes}

theorem noted (sound : Sound g stage) :
    (stage.writer.noteReaderProgress stage.header.readSeq stage.now).lastReadSeq = stage.header.readSeq ∧
      (stage.writer.noteReaderProgress stage.header.readSeq stage.now).lastReadSeqAdvanceNs =
        if stage.unseen then stage.now else stage.writer.lastReadSeqAdvanceNs := by
  have seen := sound.seen
  have unseen := sound.unseen
  unfold RingWriter.noteReaderProgress
  split_ifs with ahead moved moved
  · exact ⟨rfl, rfl⟩
  · exact absurd (unseen.mpr (UInt64.lt_iff_toNat_lt.mp ahead)) moved
  · exact absurd (UInt64.lt_iff_toNat_lt.mpr (unseen.mp moved)) ahead
  · rw [UInt64.lt_iff_toNat_lt] at ahead
    exact ⟨UInt64.toNat.inj (by omega), rfl⟩

theorem stuck_noted (sound : Sound g stage) :
    (stage.writer.noteReaderProgress stage.header.readSeq stage.now).isStuck stage.now = true ↔
      stage.writer.isStuck stage.now = true ∧ stage.unseen = false := by
  unfold RingWriter.isStuck
  rw [sound.noted.2]
  cases stage.unseen with
  | true => simp [saturatingSub, stuckReaderGraceNs]
  | false => simp

theorem pass (sound : Sound g stage) (unwrapped : stage.header.writeSeq.toNat + 1 < 2 ^ 64) (payload : Payload bytes)
    (waited : Nat) (fresh : stage.outcome = none) :
    ∃ dropped wrote, Look stage (stage.pass payload waited) dropped wrote := by
  obtain ⟨lastReadSeq, stamp⟩ := sound.noted
  have view := stage.writer.noteReaderProgress_view stage.header.readSeq stage.now
  have geometry : (stage.writer.noteReaderProgress stage.header.readSeq stage.now).geometry = stage.writer.geometry :=
    congrArg Prod.fst view
  have writeSeq : (stage.writer.noteReaderProgress stage.header.readSeq stage.now).writeSeq = stage.writer.writeSeq :=
    congrArg Prod.snd view
  have order := sound.order
  have occupancy := sound.occupancy
  have same : (stage.passHeader waited).readSeq = stage.header.readSeq ∧
      (stage.passHeader waited).writeSeq = stage.header.writeSeq ∧
      readerIsLive (stage.passHeader waited) stage.now = readerIsLive stage.header stage.now := by
    unfold Stage.passHeader
    split_ifs <;> exact ⟨rfl, rfl, rfl⟩
  have full : ¬ stage.writer.writeSeq - stage.header.readSeq < stage.writer.geometry.nSlots.toUInt64 ↔
      stage.header.writeSeq.toNat = stage.header.readSeq.toNat + stage.writer.geometry.nSlots.toNat := by
    rw [UInt64.lt_iff_toNat_lt, sound.writeSeq, toNat_sub_of_le order, UInt32.toNat_toUInt64, sound.geometry]
    omega
  have stuck := sound.stuck_noted
  by_cases room : stage.writer.writeSeq - stage.header.readSeq < stage.writer.geometry.nSlots.toUInt64
  · have look : stage.writer.spacePass (stage.passHeader waited) stage.now waited =
        .room (stage.writer.noteReaderProgress stage.header.readSeq stage.now) (stage.passHeader waited) false false := by
      simp only [RingWriter.spacePass, same.1, geometry, writeSeq, if_pos room]
    have spare : stage.header.writeSeq.toNat ≠
        stage.header.readSeq.toNat + stage.writer.geometry.nSlots.toNat := fun filled => full.mpr filled room
    refine ⟨false, true, ?_⟩
    simp only [Stage.pass, look]
    exact {
      geometry := geometry
      writerSeq := congrArg (· + 1) writeSeq
      writeSeq := congrArg (· + 1) writeSeq
      readSeq := same.1
      lastReadSeq := lastReadSeq
      stamp := stamp
      heldSince := rfl
      space := iff_of_true ⟨rfl, rfl⟩ (by rw [sound.geometry] at spare ⊢; omega)
      kept := fun _ => rfl
      demoted := iff_of_false (by simp [RingWriter.finishPublish, RingWriter.countPublish]) fun both => spare both.1
      now := rfl
      reader := rfl
      unseen := rfl
      untouched := rfl }
  have filled := full.mp room
  have crowded : ¬ stage.header.writeSeq.toNat < stage.header.readSeq.toNat + stage.writer.geometry.nSlots.toNat :=
    Nat.not_lt.mpr (Nat.le_of_eq filled.symm)
  have next : (stage.header.readSeq + 1).toNat = stage.header.readSeq.toNat + 1 := toNat_succ (by omega)
  have ahead : (stage.writer.noteReaderProgress stage.header.readSeq stage.now).lastReadSeq <
      stage.header.readSeq + 1 := by
    rw [lastReadSeq, UInt64.lt_iff_toNat_lt, next]
    exact Nat.lt_succ_self _
  have dropping (demoted : Bool) (look : stage.writer.spacePass (stage.passHeader waited) stage.now waited =
      .room { stage.writer.noteReaderProgress stage.header.readSeq stage.now with
          lastReadSeq := stage.header.readSeq + 1 }
        ((stage.passHeader waited).storeReadSeq (stage.header.readSeq + 1)) true demoted)
      (verdict : demoted = true ↔ readerIsLive stage.header stage.now = true ∧
        stage.writer.isStuck stage.now = true ∧ stage.unseen = false) :
      Look stage (stage.pass payload waited) true true := by
    have outcome : (stage.pass payload waited).outcome = some .droppedStuckDemoted ↔ demoted = true := by
      simp only [Stage.pass, look]
      cases demoted <;> simp [RingWriter.finishPublish, RingWriter.countPublish]
    have demoted_ := outcome.trans verdict
    simp only [Stage.pass, look] at demoted_ ⊢
    cases demoted
    all_goals exact {
      geometry := geometry
      writerSeq := congrArg (· + 1) writeSeq
      writeSeq := congrArg (· + 1) writeSeq
      readSeq := rfl
      lastReadSeq := rfl
      stamp := stamp
      heldSince := rfl
      space := iff_of_false (by simp) crowded
      kept := fun _ => rfl
      demoted := demoted_.trans (iff_and_self.mpr fun _ => filled)
      now := rfl
      reader := rfl
      unseen := rfl
      untouched := rfl }
  cases live : readerIsLive stage.header stage.now with
  | false =>
    refine ⟨true, true, dropping false ?_ (by simp [live])⟩
    simp only [RingWriter.spacePass, same.1, geometry, writeSeq, if_neg room, same.2.2, live, Bool.not_false, if_true,
      RingWriter.freeRunDropOldest, RingWriter.accountDrop, if_pos ahead]
  | true =>
  cases moving : (stage.writer.noteReaderProgress stage.header.readSeq stage.now).isStuck stage.now with
  | true =>
    refine ⟨true, true, dropping true ?_ (by simp [live, stuck.mp moving])⟩
    simp only [RingWriter.spacePass, same.1, geometry, writeSeq, if_neg room, same.2.2, live, moving, Bool.not_true,
      Bool.false_eq_true, if_false, if_true, RingWriter.freeRunDropOldest, RingWriter.accountDrop, if_pos ahead]
  | false =>
    have unstuck : ¬ (stage.header.writeSeq.toNat = stage.header.readSeq.toNat + stage.writer.geometry.nSlots.toNat ∧
        readerIsLive stage.header stage.now = true ∧ stage.writer.isStuck stage.now = true ∧ stage.unseen = false) :=
      fun stands => by rw [stuck.mpr stands.2.2] at moving; cases moving
    obtain ⟨counted, look, counted_⟩ : ∃ counted, stage.writer.spacePass (stage.passHeader waited) stage.now waited =
        .full counted ∧ counted.geometry = stage.writer.geometry ∧ counted.writeSeq = stage.writer.writeSeq ∧
          counted.lastReadSeq = stage.header.readSeq ∧ counted.lastReadSeqAdvanceNs =
            if stage.unseen then stage.now else stage.writer.lastReadSeqAdvanceNs := by
      simp only [RingWriter.spacePass, same.1, geometry, writeSeq, if_neg room, same.2.2, live, moving, Bool.not_true,
        Bool.false_eq_true, if_false]
      refine ⟨_, rfl, ?_⟩
      by_cases first : waited = 0
      · rw [if_pos first]
        exact ⟨geometry, writeSeq, lastReadSeq, stamp⟩
      · rw [if_neg first]
        exact ⟨geometry, writeSeq, lastReadSeq, stamp⟩
    refine ⟨false, false, ?_⟩
    simp only [Stage.pass, look]
    split_ifs
    all_goals exact {
      geometry := counted_.1
      writerSeq := counted_.2.1
      writeSeq := same.2.1
      readSeq := same.1
      lastReadSeq := counted_.2.2.1
      stamp := counted_.2.2.2
      heldSince := rfl
      space := iff_of_false (by simp) crowded
      kept := fun dropped => by cases dropped
      demoted := iff_of_false (by simp [RingWriter.finishPublish, Stage.looked, fresh]) unstuck
      now := rfl
      reader := rfl
      unseen := rfl
      untouched := rfl }

theorem look (sound : Sound g stage) (unwrapped : stage.header.writeSeq.toNat + 1 < 2 ^ 64) (slots : 2 ≤ g.nSlots.toNat)
    {next : Stage bytes} {dropped wrote : Bool} (look : Look stage next dropped wrote) : Sound g next := by
  have order := sound.order
  have occupancy := sound.occupancy
  have space := look.space
  have kept := look.kept
  rw [sound.geometry] at space
  have wraps : (stage.header.writeSeq + 1).toNat = stage.header.writeSeq.toNat + 1 := toNat_succ unwrapped
  have readWraps : (stage.header.readSeq + 1).toNat = stage.header.readSeq.toNat + 1 := toNat_succ (by omega)
  have writeSeq : next.header.writeSeq.toNat = stage.header.writeSeq.toNat + if wrote then 1 else 0 := by
    rw [look.writeSeq, sound.writeSeq]
    cases wrote
    · rfl
    · exact wraps
  have readSeq : next.header.readSeq.toNat = stage.header.readSeq.toNat + if dropped then 1 else 0 := by
    rw [look.readSeq]
    cases dropped
    · rfl
    · exact readWraps
  have empty : next.header.readSeq ≠ next.header.writeSeq := by
    rw [ne_eq, ← UInt64.toNat_inj]
    cases dropped <;> cases wrote <;> simp at space kept readSeq writeSeq <;> omega
  have held : ∃ since, next.heldSince = some since ∧ since ≤ stage.now ∧
      ∀ before, stage.heldSince = some before → since = before := by
    rw [look.heldSince]
    cases since : stage.heldSince with
    | none =>
      have caughtUp := sound.empty.mp since
      rw [← UInt64.toNat_inj] at caughtUp
      have written : wrote = true := by
        cases wrote
        · simp at space
          omega
        · rfl
      rw [if_pos written]
      exact ⟨stage.now, rfl, UInt64.le_refl _, fun before none_ => by cases none_⟩
    | some before =>
      refine ⟨before, ?_, sound.past before since, fun other same => Option.some.inj same⟩
      cases wrote <;> rfl
  obtain ⟨since, here, past, carried⟩ := held
  exact {
    geometry := look.geometry.trans sound.geometry
    writeSeq := by rw [look.writerSeq, look.writeSeq, sound.writeSeq]
    order := by
      cases dropped <;> cases wrote <;> simp at space kept readSeq writeSeq <;> omega
    occupancy := by
      cases dropped <;> cases wrote <;> simp at space kept readSeq writeSeq <;> omega
    reader := fun handle attached => by
      obtain ⟨geometry, below, inStep⟩ := sound.reader handle (look.reader ▸ attached)
      refine ⟨geometry, by omega, ?_⟩
      cases dropped with
      | false =>
        rw [look.readSeq, if_neg Bool.false_ne_true]
        exact inStep.imp_right fun behind => by omega
      | true =>
        have written : wrote = true := kept rfl
        subst written
        simp only [Bool.true_eq_false, false_and, false_iff, Nat.not_lt] at space
        simp only [if_true] at writeSeq
        rcases inStep with same | behind
        · exact .inr (by rw [same]; omega)
        · exact .inr (by omega)
    seen := by rw [look.lastReadSeq, look.readSeq]
    unseen := by
      rw [look.unseen, look.lastReadSeq, look.readSeq]
      exact iff_of_false Bool.false_ne_true (Nat.lt_irrefl _)
    empty := iff_of_false (by simp [here]) empty
    past := fun other same => by
      rw [here] at same
      rw [look.now, ← Option.some.inj same]
      exact past
    timely := fun _ touched => by
      refine ⟨since, here, ?_⟩
      rw [look.stamp]
      split_ifs with moved
      · exact past
      · rw [look.untouched] at touched
        obtain ⟨before, was, le⟩ := sound.timely (by simpa using moved) (by simpa [moved] using touched)
        exact carried before was ▸ le }

end Sound

theorem Sound.readerGone {g : Geometry} {stage : Stage bytes} (sound : Sound g stage) {memory : Memory bytes}
    (readSeq : memory.header.readSeq = stage.header.readSeq) (writeSeq : memory.header.writeSeq = stage.header.writeSeq) :
    Sound g { stage with memory := memory, reader := none } where
  geometry := sound.geometry
  writeSeq := sound.writeSeq.trans writeSeq.symm
  order := by
    change memory.header.readSeq.toNat ≤ memory.header.writeSeq.toNat
    rw [readSeq, writeSeq]
    exact sound.order
  occupancy := by
    change memory.header.writeSeq.toNat ≤ memory.header.readSeq.toNat + g.nSlots.toNat
    rw [readSeq, writeSeq]
    exact sound.occupancy
  reader := fun handle attached => by cases attached
  seen := readSeq ▸ sound.seen
  unseen := by
    change stage.unseen = true ↔ stage.writer.lastReadSeq.toNat < memory.header.readSeq.toNat
    rw [readSeq]
    exact sound.unseen
  empty := by
    change stage.heldSince = none ↔ memory.header.readSeq = memory.header.writeSeq
    rw [readSeq, writeSeq]
    exact sound.empty
  past := sound.past
  timely := sound.timely

/-- The publish that waits has not told an outcome yet. -/
def Pending (stage : Stage bytes) : Prop := ∀ payload waited, stage.pc = .passing payload waited → stage.outcome = none

theorem Initial.pending {g : Geometry} {stage : Stage bytes} (initial : Initial g stage) : Pending stage :=
  fun _ _ waits => by cases initial.pc.symm.trans waits

theorem pending_step {g : Geometry} {stage next : Stage bytes} {action : Action bytes} (pending : Pending stage)
    (move : stage.step g action = some next) : Pending next := by
  cases action with
  | idleGap nowNs =>
    obtain ⟨_, same⟩ := Option.ite_none_right_eq_some.mp move
    obtain rfl := Option.some.inj same
    exact pending
  | attachWriter pid =>
    obtain rfl := Option.some.inj move
    exact fun _ _ _ => rfl
  | publish payload =>
    simp only [Stage.step] at move
    split at move
    · obtain rfl := Option.some.inj move
      exact fun _ _ _ => rfl
    · cases move
  | pass =>
    simp only [Stage.step] at move
    split at move
    · cases move
    next payload waited here =>
      obtain rfl := Option.some.inj move
      have quiet := pending payload waited here
      simp only [Stage.pass]
      split
      · exact fun _ _ impossible => by cases impossible
      · split_ifs
        · exact fun _ _ impossible => by cases impossible
        · exact fun _ _ _ => quiet
  | attachReader language pid =>
    obtain ⟨_, _, rfl⟩ := Option.map_eq_some_iff.mp move
    exact pending
  | consume =>
    obtain ⟨_, _, rfl⟩ := Option.map_eq_some_iff.mp move
    exact pending
  | dropReader pid =>
    obtain rfl := Option.some.inj move
    exact pending
  | readerDies =>
    obtain rfl := Option.some.inj move
    exact pending

theorem pass_look {g : Geometry} {stage next : Stage bytes} (sound : Sound g stage) (pending : Pending stage)
    (unwrapped : stage.header.writeSeq.toNat + 1 < 2 ^ 64) (move : stage.step g .pass = some next) :
    ∃ dropped wrote, Look stage next dropped wrote := by
  simp only [Stage.step] at move
  split at move
  · cases move
  next payload waited here =>
    obtain rfl := Option.some.inj move
    exact sound.pass unwrapped payload waited (pending payload waited here)

theorem sound_step {g : Geometry} (slots : 2 ≤ g.nSlots.toNat) {stage next : Stage bytes} {action : Action bytes}
    (sound : Sound g stage) (pending : Pending stage) (unwrapped : Unwrapped stage action)
    (move : stage.step g action = some next) : Sound g next := by
  cases action with
  | idleGap nowNs =>
    obtain ⟨later, same⟩ := Option.ite_none_right_eq_some.mp move
    obtain rfl := Option.some.inj same
    exact { sound with past := fun since held => UInt64.le_trans (sound.past since held) later }
  | attachWriter pid => exact sound.attachWriter move
  | publish payload =>
    simp only [Stage.step] at move
    split at move
    · obtain rfl := Option.some.inj move
      exact { sound with }
    · cases move
  | pass =>
    obtain ⟨dropped, wrote, look⟩ := pass_look sound pending unwrapped move
    exact sound.look unwrapped slots look
  | attachReader language pid => exact sound.attachReader move
  | consume => exact sound.consume move
  | dropReader pid =>
    obtain rfl := Option.some.inj move
    refine sound.readerGone ?_ ?_
    · change (dropReader stage.header pid).readSeq = _
      unfold dropReader
      split_ifs <;> rfl
    · change (dropReader stage.header pid).writeSeq = _
      unfold dropReader
      split_ifs <;> rfl
  | readerDies =>
    obtain rfl := Option.some.inj move
    exact { sound with reader := fun handle attached => by cases attached }

/-- A look demotes the reader only when the ring has held an unread slot for longer than the grace without a reader advance,
but for the rushed one. The stall clock starts anew at a look exactly when the reader has advanced since the last one, never
for the writer's own drops, and such a look does not demote. -/
theorem demotion_spares_healthy_readers {g : Geometry} (valid : g.validateSelf = .ok ()) {stage next : Stage bytes}
    (reached : Reachable ((system g bytes).restrict Unwrapped) stage) (unwrapped : Unwrapped stage .pass)
    (move : stage.step g .pass = some next) :
    ((next.outcome = some .droppedStuckDemoted →
        ∃ since, stage.heldSince = some since ∧ since.toNat + stuckReaderGraceNs.toNat < stage.now.toNat) ↔
      ¬ Rushed stage) ∧
    (next.writer.lastReadSeqAdvanceNs ≠ stage.writer.lastReadSeqAdvanceNs → stage.unseen = true) ∧
    (stage.unseen = true → next.writer.lastReadSeqAdvanceNs = stage.now ∧
      next.outcome ≠ some .droppedStuckDemoted) := by
  have slots := (Geometry.validateSelf_ok.mp valid).slotsLower
  have kept : Sound g stage ∧ (∀ payload waited, stage.pc = .passing payload waited → stage.outcome = none) := by
    refine @Reachable.invariant _ _ _ (fun stage => Sound g stage ∧ Pending stage) ?_ ?_ _ reached
    · exact fun first initial => ⟨.start initial, initial.pending⟩
    · rintro before action after ⟨sound, pending⟩ ⟨unwrapped, move⟩
      exact ⟨sound_step slots sound pending unwrapped move, pending_step pending move⟩
  obtain ⟨sound, pending⟩ := kept
  obtain ⟨dropped, wrote, look⟩ := pass_look sound pending unwrapped move
  have demoted := look.demoted
  have stamp := look.stamp
  refine ⟨⟨fun fair rushed => ?_, fun calm demotes => ?_⟩, fun moved => ?_, fun unseen => ⟨?_, fun demotes => ?_⟩⟩
  · obtain ⟨_, seen, full, live, stuck, recent⟩ := rushed
    obtain ⟨since, held, long⟩ := fair (demoted.mpr ⟨full, live, stuck, seen⟩)
    exact Nat.not_lt.mpr (recent since held) long
  · obtain ⟨full, live, stuck, seen⟩ := demoted.mp demotes
    cases touched : stage.untouched with
    | true =>
      by_contra none_
      refine calm ⟨touched, seen, full, live, stuck, fun since held => ?_⟩
      exact Nat.not_lt.mp fun long => none_ ⟨since, held, long⟩
    | false =>
      obtain ⟨since, held, before⟩ := sound.timely seen touched
      have age := toNat_saturatingSub stage.now stage.writer.lastReadSeqAdvanceNs
      simp only [RingWriter.isStuck, decide_eq_true_eq] at stuck
      rw [UInt64.lt_iff_toNat_lt, age] at stuck
      rw [UInt64.le_iff_toNat_le] at before
      exact ⟨since, held, by omega⟩
  · by_contra seen
    exact moved (stamp.trans (if_neg seen))
  · exact stamp.trans (if_pos unseen)
  · exact absurd unseen (by rw [(demoted.mp demotes).2.2.2]; exact Bool.false_ne_true)

section Runs

def start : Stage 512 where
  memory := ⟨(createOrAttachWriter protoGeometry (initCreatedMapping protoGeometry).2 1 fun _ => 1).2, fun _ => Payload.zero 512⟩
  now := 1
  writer := (createOrAttachWriter protoGeometry (initCreatedMapping protoGeometry).2 1 fun _ => 1).1
  pc := .idle
  reader := none
  outcome := none
  heldSince := none
  unseen := false
  untouched := true

theorem start_initial : Initial protoGeometry start where
  geometry := rfl
  writeSeq := rfl
  readSeq := rfl
  stamp := rfl
  order := Nat.le_refl _
  occupancy := by decide
  reader := rfl
  empty := by decide
  past := fun since held => by cases held
  unseen := rfl
  untouched := by decide
  pc := rfl

instance (stage : Stage bytes) (action : Action bytes) : Decidable (Unwrapped stage action) :=
  inferInstanceAs (Decidable (_ < _))

def publishes (count : Nat) : List (Action 512) :=
  (List.replicate count [.publish (Payload.zero 512), .pass]).flatten

/-- A second of silence after the attach, and the burst that follows demotes a reader that has just polled. -/
theorem burst_after_idle_attach_demotes :
    ∃ stage next : Stage 512, Reachable (system protoGeometry 512) stage ∧ stage.step protoGeometry .pass = some next ∧
      next.outcome = some .droppedStuckDemoted ∧ stage.heldSince = some stage.now := by
  obtain ⟨stage, reached, seen⟩ := @reachable_observed _ _ (Initial protoGeometry)
    (fun stage action => stage.step protoGeometry action) start
    [[.attachReader .rust 7, .idleGap 2000000000, .consume], publishes 2, [.publish (Payload.zero 512)]].flatten _
    (fun stage => ((stage.step protoGeometry .pass).map (·.outcome), stage.heldSince, stage.now))
    (some (some .droppedStuckDemoted), some 2000000000, 2000000000) start_initial (by decide +kernel)
  simp only [Prod.mk.injEq, Option.map_eq_some_iff] at seen
  obtain ⟨⟨next, move, outcome⟩, held, now⟩ := seen
  exact ⟨stage, next, reached, move, outcome, held.trans (congrArg some now.symm)⟩

/-- A reader that leaves two slots unread for a second and a half is demoted by right. -/
theorem stuck_reader_is_demoted :
    ∃ stage next : Stage 512, stage.step protoGeometry .pass = some next ∧ next.outcome = some .droppedStuckDemoted ∧
      ∃ since, stage.heldSince = some since ∧ since.toNat + stuckReaderGraceNs.toNat < stage.now.toNat := by
  obtain ⟨stage, reached, seen⟩ := @restricted_observed _ _ (Initial protoGeometry)
    (fun stage action => stage.step protoGeometry action) Unwrapped _ start
    [[.attachReader .rust 7], publishes 2, [.idleGap 1500000000, .publish (Payload.zero 512)]].flatten _
    (fun stage => ((stage.step protoGeometry .pass).map (·.outcome), stage.heldSince, stage.now,
      decide (Unwrapped stage .pass)))
    (some (some .droppedStuckDemoted), some 1, 1500000000, true) start_initial (by decide +kernel)
  simp only [Prod.mk.injEq, Option.map_eq_some_iff, decide_eq_true_eq] at seen
  obtain ⟨⟨next, move, outcome⟩, held, now, unwrapped⟩ := seen
  refine ⟨stage, next, move, outcome, ?_⟩
  refine (demotion_spares_healthy_readers (by decide) reached unwrapped move).1.mpr (fun rushed => ?_) outcome
  have recent := rushed.2.2.2.2.2 1 held
  rw [now] at recent
  revert recent
  decide

end Runs

end Jts.Ring.Demotion
