import Jts.Ring.Attach
import Jts.Ring.Handle
import Jts.Shared.Flock
import Jts.Shared.Transition

set_option autoImplicit false

namespace Jts.Ring.OpenProtocol

open Jts.Shared.Flock Jts.Shared.Transition

def openMaxAttempts : Nat := 8

-- A file of fewer than headerBytes bytes is read as if it were continued with zeros.
structure Inode where
  size : UInt64
  header : Header
  deriving DecidableEq, Repr

-- try_attach_existing takes no second look: what would make the transaction wait or retry makes it give up.
inductive Mode
  | createOrAttach
  | tryAttach
  deriving DecidableEq, Repr

structure Config where
  expected : Geometry
  ownedPath : Bool
  language : Nat → Language

-- An inode handed out, with the number of external unlinks at the final check of the path.
abbrev Success : Type := Nat × Nat

inductive OpenerPc
  | idle
  | tryLock
  | attempt (attempt : Nat)
  | truncate (attempt inode : Nat)
  | mapCreated (attempt inode : Nat)
  | init (attempt inode stored : Nat)
  | createdCheck (attempt inode : Nat)
  | cleanupCheck (inode : Nat)
  | cleanupUnlink (inode : Nat)
  | openExisting (attempt : Nat)
  | fstatOpened (attempt inode : Nat)
  | waitSize (attempt inode : Nat)
  | mapExisting (attempt inode : Nat) (actual : UInt64)
  | waitMagic (attempt inode : Nat) (actual : UInt64)
  | validate (attempt inode : Nat) (actual : UInt64)
  | attachedCheck (attempt inode : Nat)
  | reclaimCheck (attempt inode : Nat)
  | reclaimUnlink (attempt inode : Nat)
  | unlock (result : Option Success)
  | returned (result : Success)
  | failed
  deriving DecidableEq, Repr

structure Opener where
  mode : Mode
  pc : OpenerPc

-- The lock is held from the flock that took it to the release in front of the return.
def OpenerPc.locked : OpenerPc → Bool
  | .idle | .tryLock | .returned _ | .failed => false
  | _ => true

-- The directory entry, the files behind it and behind every open descriptor, and two histories: how often
-- something outside the protocol unlinked the path, and every inode an open decided to return.
structure World where
  path : Option Nat
  inodes : Nat → Inode
  next : Nat
  unlinks : Nat
  successes : List Success

namespace World

def setInode (world : World) (inode : Nat) (value : Inode) : World :=
  { world with inodes := Function.update world.inodes inode value }

def create (world : World) : World :=
  { world with
    path := some world.next, next := world.next + 1
    inodes := Function.update world.inodes world.next { size := 0, header := .zero } }

def succeed (world : World) (inode : Nat) : World :=
  { world with successes := world.successes ++ [(inode, world.unlinks)] }

end World

-- The stores of init_created, the magic last; the C creator also clears the futex word.
def initStores (g : Geometry) (language : Language) : List (Header → Header) :=
  [fun header => { header with version := version }, fun header => { header with rate := g.rate },
    fun header => { header with channels := g.channels }, fun header => { header with sampleFormat := g.sampleFormat },
    fun header => { header with periodFrames := g.periodFrames }, fun header => { header with nSlots := g.nSlots },
    fun header => { header with pad := 0 }] ++
  match language with
  | .rust => [writeU32ReleaseMagic]
  | .c =>
    [fun header => { header with futexWord := 0 }, fun header => { header with magic := magic, version := version }]

-- none is the file_size error of the Rust creator; the C creator computes in size_t.
def createdSize (g : Geometry) : Language → Option UInt64
  | .rust => g.fileSize.toOption
  | .c => some (jtsRingFileSize g)

def headerValid (expected : Geometry) (actual : UInt64) (header : Header) : Language → Bool
  | .rust => decide (validateAttachedMap header actual expected = .ok ())
  | .c =>
    jtsRingFileSize header.geometry = actual ∧
      ¬(header.version ≠ version ∨ header.geometry.rate ≠ expected.rate ∨
        header.geometry.channels ≠ expected.channels ∨ header.geometry.sampleFormat ≠ expected.sampleFormat ∨
        header.geometry.periodFrames ≠ expected.periodFrames ∨ header.geometry.nSlots ≠ expected.nSlots)

namespace Opener

def retry (opener : Opener) (attempt : Nat) : Opener :=
  match opener.mode with
  | .createOrAttach => { opener with pc := .attempt (attempt + 1) }
  | .tryAttach => { opener with pc := .unlock none }

def torn (opener : Opener) (attempt inode : Nat) : Opener :=
  match opener.mode with
  | .createOrAttach => { opener with pc := .reclaimCheck attempt inode }
  | .tryAttach => { opener with pc := .unlock none }

-- The path's inode against the open descriptor's; ENOENT counts as another inode.
def finalCheck (opener : Opener) (world : World) (attempt inode : Nat) (fails : Bool) : World × Opener :=
  if fails then (world, { opener with pc := .unlock none })
  else if world.path = some inode then
    (world.succeed inode, { opener with pc := .unlock (some (inode, world.unlinks)) })
  else (world, opener.retry attempt)

-- fails: the system call fails with an errno the code does not retry on; expired: the bounded wait ran out.
def step (config : Config) (id : Nat) (world : World) (holder : Option Nat) (opener : Opener)
    (fails expired : Bool) : World × Option Nat × Opener :=
  match opener.pc with
  | .idle | .returned _ | .failed => (world, holder, opener)
  | .tryLock =>
    if fails || expired then (world, holder, { opener with pc := .failed })
    else if holder = none then
      (world, some id,
        { opener with
          pc := match opener.mode with
            | .createOrAttach => .attempt 0
            | .tryAttach => .openExisting 0 })
    else if opener.mode = .tryAttach then (world, holder, { opener with pc := .failed })
    else (world, holder, opener)
  | .attempt attempt =>
    if openMaxAttempts ≤ attempt then (world, holder, { opener with pc := .unlock none })
    else if fails then (world, holder, { opener with pc := .unlock none })
    else if world.path = none then
      (world.create, holder, { opener with pc := .truncate attempt world.next })
    else (world, holder, { opener with pc := .openExisting attempt })
  | .truncate attempt inode =>
    match createdSize config.expected (config.language id) with
    | none => (world, holder, { opener with pc := .cleanupCheck inode })
    | some size =>
      if fails then (world, holder, { opener with pc := .cleanupCheck inode })
      else
        (world.setInode inode { world.inodes inode with size := size }, holder,
          { opener with pc := .mapCreated attempt inode })
  | .mapCreated attempt inode =>
    if fails then (world, holder, { opener with pc := .cleanupCheck inode })
    else (world, holder, { opener with pc := .init attempt inode 0 })
  | .init attempt inode stored =>
    match (initStores config.expected (config.language id))[stored]? with
    | some store =>
      (world.setInode inode { world.inodes inode with header := store (world.inodes inode).header }, holder,
        { opener with pc := .init attempt inode (stored + 1) })
    | none => (world, holder, { opener with pc := .createdCheck attempt inode })
  | .createdCheck attempt inode | .attachedCheck attempt inode =>
    let checked := opener.finalCheck world attempt inode fails
    (checked.1, holder, checked.2)
  | .cleanupCheck inode =>
    if !fails && world.path = some inode then (world, holder, { opener with pc := .cleanupUnlink inode })
    else (world, holder, { opener with pc := .unlock none })
  | .cleanupUnlink _ =>
    if fails then (world, holder, { opener with pc := .unlock none })
    else ({ world with path := none }, holder, { opener with pc := .unlock none })
  | .openExisting attempt =>
    if fails then (world, holder, { opener with pc := .unlock none })
    else
      match world.path with
      | none => (world, holder, opener.retry attempt)
      | some inode => (world, holder, { opener with pc := .fstatOpened attempt inode })
  | .fstatOpened attempt inode =>
    if fails then (world, holder, { opener with pc := .unlock none })
    else (world, holder, { opener with pc := .waitSize attempt inode })
  | .waitSize attempt inode =>
    if fails then (world, holder, { opener with pc := .unlock none })
    else if headerBytes ≤ (world.inodes inode).size then
      (world, holder, { opener with pc := .mapExisting attempt inode (world.inodes inode).size })
    else if expired || opener.mode = .tryAttach then (world, holder, opener.torn attempt inode)
    else (world, holder, opener)
  | .mapExisting attempt inode actual =>
    if fails then (world, holder, { opener with pc := .unlock none })
    else (world, holder, { opener with pc := .waitMagic attempt inode actual })
  | .waitMagic attempt inode actual =>
    if (world.inodes inode).header.magic = magic then
      (world, holder, { opener with pc := .validate attempt inode actual })
    else if expired || opener.mode = .tryAttach then (world, holder, opener.torn attempt inode)
    else (world, holder, opener)
  | .validate attempt inode actual =>
    if headerValid config.expected actual (world.inodes inode).header (config.language id) then
      (world, holder, { opener with pc := .attachedCheck attempt inode })
    else (world, holder, { opener with pc := .unlock none })
  | .reclaimCheck attempt inode =>
    if !config.ownedPath || fails then (world, holder, { opener with pc := .unlock none })
    else if world.path = some inode then (world, holder, { opener with pc := .reclaimUnlink attempt inode })
    else (world, holder, opener.retry attempt)
  | .reclaimUnlink attempt _ =>
    if fails then (world, holder, { opener with pc := .unlock none })
    else ({ world with path := none }, holder, opener.retry attempt)
  | .unlock result =>
    (world, release holder id,
      { opener with
        pc := match result with
          | some success => .returned success
          | none => .failed })

end Opener

structure State where
  world : World
  holder : Option Nat
  openers : Nat → Opener

inductive Action
  | start (id : Nat) (mode : Mode)
  | opener (id : Nat) (fails expired : Bool)
  | crash (id : Nat)
  | traffic (id : Nat) (header : Header)
  | unlinkExternally

def State.setOpener (state : State) (id : Nat) (opener : Opener) : State :=
  { state with openers := Function.update state.openers id opener }

def step (config : Config) (state : State) : Action → Option State
  | .start id mode =>
    -- Both sides validate the expected geometry before they touch the file system.
    if (state.openers id).pc.locked = true ∨ (state.openers id).pc = .tryLock then none
    else if config.expected.validateSelf = .ok () then some (state.setOpener id { mode := mode, pc := .tryLock })
    else some (state.setOpener id { mode := mode, pc := .failed })
  | .opener id fails expired =>
    let moved := (state.openers id).step config id state.world state.holder fails expired
    some { world := moved.1, holder := moved.2.1, openers := Function.update state.openers id moved.2.2 }
  | .crash id =>
    some { state.setOpener id { state.openers id with pc := .idle } with holder := release state.holder id }
  | .traffic id header =>
    -- A mapping in use: its reader or writer stores into the sequence, epoch, pid and heartbeat fields only.
    match (state.openers id).pc with
    | .returned (inode, _) =>
      let old := (state.world.inodes inode).header
      if header.magic = old.magic ∧ header.version = old.version ∧ header.geometry = old.geometry then
        some { state with
          world := state.world.setInode inode { state.world.inodes inode with header := header } }
      else none
    | _ => none
  | .unlinkExternally =>
    some { state with world := { state.world with path := none, unlinks := state.world.unlinks + 1 } }

-- Whatever file the path names at first, and no opener on its way.
structure Initial (state : State) : Prop where
  below : ∀ inode, state.world.path = some inode → inode < state.world.next
  unlinks : state.world.unlinks = 0
  successes : state.world.successes = []
  holder : state.holder = none
  openers : ∀ id, (state.openers id).pc = .idle

def system (config : Config) : System State Action := ofFn Initial (step config)

end Jts.Ring.OpenProtocol
