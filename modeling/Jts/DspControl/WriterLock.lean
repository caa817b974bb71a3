import Jts.Shared.Flock
import Jts.Shared.Transition
import Mathlib.Algebra.Order.Ring.Rat

set_option autoImplicit false

namespace Jts.DspControl

open Jts.Shared.Transition Jts.Shared

abbrev Time := ℚ

-- The thread that tries for the flock.
inductive Worker
  | polling
  | won
  | failed
deriving DecidableEq

inductive Waiter
  | waiting
  | inside
  | left
deriving DecidableEq

/-- One acquire: its worker, the future that the loop keeps for the worker, and the exit stack that they share. -/
structure Entry (Task Path : Type) where
  task : Task
  path : Path
  dsp : Bool
  deadline : Time
  worker : Worker
  -- The loop has heard of the worker's end.
  settled : Bool
  waiter : Waiter
  -- The stack is to be closed once the loop hears of it.
  callback : Bool
  held : Bool
  releases : Nat

inductive Frame (Task Path : Type)
  -- An entry of the task that holds the lock already.
  | nested (path : Path)
  -- The ownership that was recorded before, for an entry that records its own.
  | admitted (entry : Nat) (path : Path) (token : Option (Option (Path × Task)))

/-- A task with its context variable, and what it is inside of. -/
structure TaskState (Task Path : Type) where
  ownership : Option (Path × Task)
  frames : List (Frame Task Path)
  waiting : Option Nat
  cancelled : Bool

structure Locks (Task Path : Type) where
  now : Time
  next : Nat
  entries : Nat → Option (Entry Task Path)
  tasks : Task → Option (TaskState Task Path)
  holder : Path → Option Nat

inductive Action (Task Path : Type)
  | tick (later : Time)
  | spawn (parent child : Task)
  | enter (task : Task) (path : Path) (dsp : Bool) (timeoutSec : Time)
  | win (entry : Nat)
  | fail (entry : Nat)
  | settle (entry : Nat)
  | callback (entry : Nat)
  | cancel (task : Task)
  | resume (task : Task)
  | exit (task : Task)

def Frame.path {Task Path : Type} : Frame Task Path → Path
  | .nested path | .admitted _ path _ => path

def Frame.entry {Task Path : Type} : Frame Task Path → Option Nat
  | .nested _ => none
  | .admitted entry _ _ => some entry

/-- The stack is closed. What it has is taken out of it, so that it is released once. -/
def Entry.closed {Task Path : Type} (entry : Entry Task Path) : Entry Task Path :=
  if entry.held then { entry with held := false, releases := entry.releases + 1 } else entry

namespace Locks

variable {Task Path : Type} [DecidableEq Task] [DecidableEq Path] (locks : Locks Task Path)

def setEntry (entry : Nat) (value : Entry Task Path) : Locks Task Path :=
  { locks with entries := Function.update locks.entries entry (some value) }

def setTask (task : Task) (value : TaskState Task Path) : Locks Task Path :=
  { locks with tasks := Function.update locks.tasks task (some value) }

/-- The exit stack is closed. The flock is released if it is there. -/
def close (id : Nat) (entry : Entry Task Path) : Locks Task Path :=
  { locks.setEntry id entry.closed with
    holder :=
      if entry.held then Function.update locks.holder entry.path (Flock.release (locks.holder entry.path) id) else locks.holder }

/-- The waiter goes. The stack is closed now or when the worker's end is heard of. -/
def leave (task : Task) (state : TaskState Task Path) (id : Nat) (entry : Entry Task Path) : Locks Task Path :=
  let gone := locks.setTask task { state with waiting := none, cancelled := false }
  if entry.settled then gone.close id { entry with waiter := .left }
  else gone.setEntry id { entry with waiter := .left, callback := true }

def enterSection (task : Task) (state : TaskState Task Path) (id : Nat) (entry : Entry Task Path) : Locks Task Path :=
  let inside := locks.setEntry id { entry with waiter := .inside }
  if entry.dsp then
    inside.setTask task
      ⟨some (entry.path, task), .admitted id entry.path (some state.ownership) :: state.frames, none, false⟩
  else inside.setTask task ⟨state.ownership, .admitted id entry.path none :: state.frames, none, false⟩

def resume (task : Task) (state : TaskState Task Path) (id : Nat) (entry : Entry Task Path) : Option (Locks Task Path) :=
  if state.cancelled then some (locks.leave task state id entry)
  else if entry.settled then
    if entry.worker = .won ∧ locks.now < entry.deadline then some (locks.enterSection task state id entry)
    else some (locks.leave task state id entry)
  else none

def exit (task : Task) (state : TaskState Task Path) : Option (Locks Task Path) :=
  match state.frames with
  | [] => none
  | .nested _ :: frames => some (locks.setTask task { state with frames := frames })
  | .admitted id _ token :: frames =>
      (locks.entries id).map fun entry =>
        (locks.setTask task { state with ownership := token.getD state.ownership, frames := frames }).close id
          { entry with waiter := .left }

def step : Action Task Path → Option (Locks Task Path)
  | .tick later => if locks.now ≤ later then some { locks with now := later } else none
  | .spawn parent child =>
      match locks.tasks parent, locks.tasks child with
      -- The child's context is a copy of the parent's.
      | some state, none => some (locks.setTask child ⟨state.ownership, [], none, false⟩)
      | _, _ => none
  | .enter task path dsp timeoutSec => (locks.tasks task).bind fun state =>
      if state.waiting.isSome then none
      else if dsp ∧ state.ownership = some (path, task) then
        some (locks.setTask task { state with frames := .nested path :: state.frames })
      else
        some { (locks.setTask task { state with waiting := some locks.next }).setEntry locks.next
            ⟨task, path, dsp, locks.now + timeoutSec, .polling, false, .waiting, false, false, 0⟩ with
          next := locks.next + 1 }
  | .win id => (locks.entries id).bind fun entry =>
      if entry.worker = .polling ∧ locks.holder entry.path = none then
        some { locks.setEntry id { entry with worker := .won, held := true } with
          holder := Function.update locks.holder entry.path (some id) }
      else none
  | .fail id => (locks.entries id).bind fun entry =>
      if entry.worker = .polling then some (locks.setEntry id { entry with worker := .failed }) else none
  | .settle id => (locks.entries id).bind fun entry =>
      if entry.worker = .polling ∨ entry.settled then none else some (locks.setEntry id { entry with settled := true })
  | .callback id => (locks.entries id).bind fun entry =>
      if entry.settled ∧ entry.callback then some (locks.close id { entry with callback := false }) else none
  | .cancel task => (locks.tasks task).bind fun state =>
      if state.waiting.isSome then some (locks.setTask task { state with cancelled := true }) else none
  | .resume task => (locks.tasks task).bind fun state => state.waiting.bind fun id => (locks.entries id).bind fun entry =>
      locks.resume task state id entry
  | .exit task => (locks.tasks task).bind fun state =>
      if state.waiting.isSome then none else locks.exit task state

/-- Tasks of any processes, none of which is inside. -/
def Initial : Prop :=
  (∀ id, locks.entries id = none) ∧ (∀ path, locks.holder path = none) ∧
    ∀ task state, locks.tasks task = some state → state = ⟨none, [], none, false⟩

def system : System (Locks Task Path) (Action Task Path) := ofFn Initial step

end Locks

namespace Entry

variable {Task Path : Type}

/-- What is so of an entry at every time. -/
structure Sound (entry : Entry Task Path) : Prop where
  settled : entry.settled = true → entry.worker ≠ .polling
  waiting : entry.waiter = .waiting → entry.callback = false ∧ entry.releases = 0 ∧ (entry.held = true ↔ entry.worker = .won)
  inside : entry.waiter = .inside →
    entry.settled = true ∧ entry.callback = false ∧ entry.releases = 0 ∧ entry.held = true ∧ entry.worker = .won
  left : entry.waiter = .left →
    if entry.callback then entry.releases = 0 ∧ (entry.held = true ↔ entry.worker = .won)
    else entry.settled = true ∧ entry.held = false ∧ entry.releases = if entry.worker = .won then 1 else 0

variable {entry : Entry Task Path}

theorem Sound.won (sound : entry.Sound) (polling : entry.worker = .polling) :
    ({ entry with worker := .won, held := true } : Entry Task Path).Sound := by
  obtain ⟨settled, waiting, inside, left⟩ := sound
  refine ⟨fun heard => absurd polling (settled heard), fun waits => ?_, fun is => ?_, fun gone => ?_⟩
  · simp [waiting waits]
  · exact absurd polling (settled (inside is).1)
  · have before := left gone
    cases callback : entry.callback with
    | true => simp_all
    | false => exact absurd polling (settled (by simp_all))

theorem Sound.failed (sound : entry.Sound) (polling : entry.worker = .polling) :
    ({ entry with worker := .failed } : Entry Task Path).Sound := by
  obtain ⟨settled, waiting, inside, left⟩ := sound
  refine ⟨fun _ => by simp, fun waits => ?_, fun is => ?_, fun gone => ?_⟩
  · have before := waiting waits
    simp_all
  · exact absurd polling (settled (inside is).1)
  · have before := left gone
    cases callback : entry.callback with
    | true => simp_all
    | false => exact absurd polling (settled (by simp_all))

theorem Sound.settle (sound : entry.Sound) (ended : entry.worker ≠ .polling) :
    ({ entry with settled := true } : Entry Task Path).Sound := by
  obtain ⟨settled, waiting, inside, left⟩ := sound
  refine ⟨fun _ => ended, waiting, fun is => ⟨rfl, (inside is).2⟩, fun gone => ?_⟩
  have before := left gone
  cases callback : entry.callback <;> simp_all

theorem Sound.unreleased (sound : entry.Sound) (due : entry.waiter = .left → entry.callback = true) :
    entry.releases = 0 ∧ (entry.held = true ↔ entry.worker = .won) := by
  cases waiter : entry.waiter with
  | waiting => exact (sound.waiting waiter).2
  | inside =>
    obtain ⟨-, -, unreleased, held, won⟩ := sound.inside waiter
    simp [unreleased, held, won]
  | left =>
    have before := sound.left waiter
    rw [if_pos (due waiter)] at before
    exact before

-- The loop has heard of the worker when the stack is closed, and no waiter comes back to it.
theorem Sound.close (sound : entry.Sound) (heard : entry.settled = true) (due : entry.waiter = .left → entry.callback = true) :
    ({ entry with waiter := .left, callback := false } : Entry Task Path).closed.Sound := by
  obtain ⟨unreleased, won⟩ := sound.unreleased due
  have ended := sound.settled heard
  unfold closed
  split <;> rename_i held
  · have worker := won.mp held
    refine ⟨fun _ => ended, fun waits => ?_, fun is => ?_, fun _ => ?_⟩
    · cases waits
    · cases is
    · simp [heard, unreleased, worker]
  · have worker : entry.worker ≠ .won := fun won' => held (won.mpr won')
    refine ⟨fun _ => ended, fun waits => ?_, fun is => ?_, fun _ => ?_⟩
    · cases waits
    · cases is
    · simp_all

theorem Sound.leave (sound : entry.Sound) (waiting : entry.waiter = .waiting) :
    ({ entry with waiter := .left, callback := true } : Entry Task Path).Sound := by
  obtain ⟨-, unreleased, won⟩ := sound.waiting waiting
  refine ⟨sound.settled, fun waits => ?_, fun is => ?_, fun _ => ⟨unreleased, won⟩⟩
  · cases waits
  · cases is

theorem Sound.enter (sound : entry.Sound) (waiting : entry.waiter = .waiting) (heard : entry.settled = true)
    (won : entry.worker = .won) : ({ entry with waiter := .inside } : Entry Task Path).Sound := by
  obtain ⟨callback, unreleased, held⟩ := sound.waiting waiting
  refine ⟨sound.settled, fun waits => ?_, fun _ => ⟨heard, callback, unreleased, held.mpr won, won⟩, fun left => ?_⟩
  · cases waits
  · cases left

end Entry

variable {Task Path : Type}

/-- The ownership that a task has recorded is its own only inside of a section for that path. -/
def Chain (alive : Task → Bool) (task : Task) : Option (Path × Task) → List (Frame Task Path) → Prop
  | ownership, [] => ∀ owner, ownership = some owner → owner.2 ≠ task ∧ alive owner.2 = true
  | ownership, .nested path :: frames => (∃ id token, .admitted id path token ∈ frames) ∧ Chain alive task ownership frames
  | ownership, .admitted _ path (some token) :: frames => ownership = some (path, task) ∧ Chain alive task token frames
  | ownership, .admitted _ _ none :: frames => Chain alive task ownership frames

theorem Chain.exists_admitted {alive : Task → Bool} {task : Task} {path : Path} {frames : List (Frame Task Path)}
    (chain : Chain alive task (some (path, task)) frames) : ∃ id token, .admitted id path token ∈ frames := by
  induction frames with
  | nil => exact absurd rfl (chain _ rfl).1
  | cons frame frames ih =>
    cases frame with
    | nested inner =>
      obtain ⟨id, token, mem⟩ := ih chain.2
      exact ⟨id, token, List.mem_cons_of_mem _ mem⟩
    | admitted id inner token =>
      cases token with
      | none =>
        obtain ⟨id, token, mem⟩ := ih chain
        exact ⟨id, token, List.mem_cons_of_mem _ mem⟩
      | some token =>
        obtain ⟨rfl, -⟩ := Prod.mk.inj (Option.some.inj chain.1)
        exact ⟨id, some token, List.mem_cons_self⟩

theorem Chain.alive {alive : Task → Bool} {task : Task} {ownership : Option (Path × Task)} {frames : List (Frame Task Path)}
    (chain : Chain alive task ownership frames) (self : alive task = true) (owner : Path × Task)
    (owned : ownership = some owner) : alive owner.2 = true := by
  induction frames generalizing ownership with
  | nil => exact (chain owner owned).2
  | cons frame frames ih =>
    cases frame with
    | nested => exact ih chain.2 owned
    | admitted id inner token =>
      cases token with
      | none => exact ih chain owned
      | some token =>
        rw [chain.1] at owned
        exact (Option.some.inj owned) ▸ self

theorem Chain.mono {alive later : Task → Bool} {task : Task} {ownership : Option (Path × Task)}
    {frames : List (Frame Task Path)} (chain : Chain alive task ownership frames)
    (lives : ∀ task, alive task = true → later task = true) : Chain later task ownership frames := by
  induction frames generalizing ownership with
  | nil => exact fun owner owned => ⟨(chain owner owned).1, lives _ (chain owner owned).2⟩
  | cons frame frames ih =>
    cases frame with
    | nested => exact ⟨chain.1, ih chain.2⟩
    | admitted id inner token =>
      cases token with
      | none => exact ih chain
      | some token => exact ⟨chain.1, ih chain.2⟩

/-- The entries that a task waits for or is inside of are its own. -/
structure TaskSound (entries : Nat → Option (Entry Task Path)) (alive : Task → Bool) (task : Task)
    (state : TaskState Task Path) : Prop where
  waiting : ∀ id, state.waiting = some id → ∃ entry, entries id = some entry ∧ entry.task = task ∧ entry.waiter = .waiting
  frames : ∀ id path token, .admitted id path token ∈ state.frames →
    ∃ entry, entries id = some entry ∧ entry.task = task ∧ entry.path = path ∧ entry.waiter = .inside
  distinct : (state.frames.filterMap Frame.entry).Nodup
  chain : Chain alive task state.ownership state.frames

theorem TaskSound.mono {entries later : Nat → Option (Entry Task Path)} {alive lives : Task → Bool} {task : Task}
    {state : TaskState Task Path} (sound : TaskSound entries alive task state)
    (same : ∀ id entry, entries id = some entry → entry.task = task → entry.waiter ≠ .left →
      ∃ next, later id = some next ∧ next.task = entry.task ∧ next.path = entry.path ∧ next.waiter = entry.waiter)
    (live : ∀ task, alive task = true → lives task = true) : TaskSound later lives task state := by
  refine ⟨fun id waits => ?_, fun id path token mem => ?_, sound.distinct, sound.chain.mono live⟩
  · obtain ⟨entry, is, own, waiting⟩ := sound.waiting id waits
    obtain ⟨next, there, task', -, waiter⟩ := same id entry is own (by simp [waiting])
    exact ⟨next, there, task'.trans own, waiter.trans waiting⟩
  · obtain ⟨entry, is, own, path', inside⟩ := sound.frames id path token mem
    obtain ⟨next, there, task', same', waiter⟩ := same id entry is own (by simp [inside])
    exact ⟨next, there, task'.trans own, same'.trans path', waiter.trans inside⟩

-- The flock of a path is held through the entry's descriptor.
def holds [DecidableEq Path] (path : Path) (entry : Option (Entry Task Path)) : Bool :=
  entry.any fun entry => entry.path = path && entry.held

namespace Locks

variable [DecidableEq Path]

structure Sound (locks : Locks Task Path) : Prop where
  flock : ∀ path, Flock.Owned (holds path) locks.entries (locks.holder path)
  entries : ∀ id entry, locks.entries id = some entry → entry.Sound ∧ id < locks.next
  tasks : ∀ task state, locks.tasks task = some state →
    TaskSound locks.entries (fun task => (locks.tasks task).isSome) task state

variable {locks : Locks Task Path} {id : Nat} {entry value : Entry Task Path}

theorem Sound.flock_set (sound : locks.Sound) (is : locks.entries id = some entry) (path : value.path = entry.path)
    (held : value.held = entry.held) (other : Path) :
    Flock.Owned (holds other) (Function.update locks.entries id (some value)) (locks.holder other) :=
  (sound.flock other).keep (by simp [holds, is, path, held])

theorem Sound.flock_win (sound : locks.Sound) (path : value.path = entry.path)
    (is : locks.entries id = some entry) (held : value.held = true) (free : locks.holder entry.path = none) (other : Path) :
    Flock.Owned (holds other) (Function.update locks.entries id (some value))
      (Function.update locks.holder entry.path (some id) other) := by
  by_cases same : other = entry.path
  · subst same
    rw [Function.update_self]
    have owned := sound.flock entry.path
    rw [free] at owned
    exact owned.acquire (by simp [holds, path, held])
  · rw [Function.update_of_ne same]
    exact (sound.flock other).keep (by simp [holds, is, path, Ne.symm same])

theorem Sound.flock_close (sound : locks.Sound) (path : value.path = entry.path) (held : value.held = entry.held)
    (is : locks.entries id = some entry) (other : Path) :
    Flock.Owned (holds other) (locks.close id value).entries ((locks.close id value).holder other) := by
  have closedPath : value.closed.path = entry.path := by
    unfold Entry.closed
    split <;> exact path
  have free : value.closed.held = false := by
    unfold Entry.closed
    split
    · rfl
    · simp_all
  unfold close
  by_cases same : other = entry.path
  · subst same
    cases there : value.held with
    | true =>
      simp only [if_true, path, Function.update_self]
      exact (sound.flock entry.path).drop (by simp [holds, free])
    | false =>
      refine (sound.flock entry.path).keep ?_
      simp [holds, is, closedPath, free, ← held, there]
  · have keeps : holds other (some value.closed) = holds other (locks.entries id) := by
      simp [holds, is, closedPath, free, Ne.symm same]
    split
    · simp only [path, Function.update_of_ne same]
      exact (sound.flock other).keep keeps
    · exact (sound.flock other).keep keeps

theorem Sound.entries_set (sound : locks.Sound) (is : locks.entries id = some entry) (valid : value.Sound) (other : Nat)
    (there : Entry Task Path) (at_ : Function.update locks.entries id (some value) other = some there) :
    there.Sound ∧ other < locks.next := by
  by_cases same : other = id
  · subst same
    rw [Function.update_self] at at_
    exact Option.some.inj at_ ▸ ⟨valid, (sound.entries other entry is).2⟩
  · rw [Function.update_of_ne same] at at_
    exact sound.entries other there at_

omit [DecidableEq Path] in
-- A change of an entry that its task does not see.
theorem tasks_set {entries : Nat → Option (Entry Task Path)} {task : Task} {state : TaskState Task Path} {alive : Task → Bool}
    (sound : TaskSound entries alive task state) (is : entries id = some entry)
    (same : entry.task = task → entry.waiter ≠ .left →
      value.task = entry.task ∧ value.path = entry.path ∧ value.waiter = entry.waiter) :
    TaskSound (Function.update entries id (some value)) alive task state := by
  refine sound.mono (fun other there at_ own stays => ?_) fun _ live => live
  by_cases self : other = id
  · subst self
    obtain rfl := Option.some.inj (is.symm.trans at_)
    exact ⟨value, Function.update_self _ _ _, same own stays⟩
  · exact ⟨there, (Function.update_of_ne self _ _).trans at_, rfl, rfl, rfl⟩

-- What the worker and the loop do to an entry.
theorem Sound.set (sound : locks.Sound) (is : locks.entries id = some entry) (valid : value.Sound) (task : value.task = entry.task)
    (path : value.path = entry.path) (waiter : value.waiter = entry.waiter) (held : value.held = entry.held) :
    (locks.setEntry id value).Sound :=
  ⟨sound.flock_set is path held, sound.entries_set is valid, fun other state there =>
    tasks_set (sound.tasks other state there) is fun _ _ => ⟨task, path, waiter⟩⟩

variable [DecidableEq Task]

omit [DecidableEq Path] in
theorem isSome_setTask {task : Task} {value : TaskState Task Path} {other : Task} (live : (locks.tasks other).isSome = true) :
    ((locks.setTask task value).tasks other).isSome = true := by
  by_cases same : other = task
  · simp [setTask, same]
  · simpa [setTask, Function.update_of_ne same] using live

-- One task changes, with at most one of its entries.
theorem Sound.change {task : Task} {state : TaskState Task Path} {next : Locks Task Path} (sound : locks.Sound)
    (is : locks.entries id = some entry) (own : entry.task = task) (valid : value.Sound) 
    (entries : next.entries = Function.update locks.entries id (some value))
    (tasks : next.tasks = Function.update locks.tasks task (some state)) (count : next.next = locks.next)
    (flock : ∀ path, Flock.Owned (holds path) next.entries (next.holder path))
    (mine : TaskSound next.entries (fun task => (next.tasks task).isSome) task state) : next.Sound := by
  refine ⟨flock, fun other there at_ => ?_, fun other there at_ => ?_⟩
  · rw [entries] at at_
    rw [count]
    exact sound.entries_set is valid other there at_
  · by_cases same : other = task
    · subst same
      rw [tasks, Function.update_self] at at_
      exact Option.some.inj at_ ▸ mine
    · rw [tasks, Function.update_of_ne same] at at_
      rw [entries]
      have before := sound.tasks other there at_
      have live : ∀ task, (locks.tasks task).isSome = true → (next.tasks task).isSome = true := by
        intro other live
        rw [tasks]
        exact isSome_setTask live
      refine tasks_set (before.mono (fun _ there at_ _ _ => ⟨there, at_, rfl, rfl, rfl⟩) live) is fun mine' _ => ?_
      exact absurd (mine'.symm.trans own) same

theorem Sound.changeTask {task : Task} {state : TaskState Task Path} (sound : locks.Sound)
    (mine : TaskSound locks.entries (fun task => (locks.tasks task).isSome) task state) : (locks.setTask task state).Sound := by
  have lives : ∀ other at_, TaskSound locks.entries (fun task => (locks.tasks task).isSome) other at_ →
      TaskSound locks.entries (fun other => ((locks.setTask task state).tasks other).isSome) other at_ :=
    fun _ _ valid => valid.mono (fun _ there is _ _ => ⟨there, is, rfl, rfl, rfl⟩) fun _ live => isSome_setTask live
  refine ⟨sound.flock, sound.entries, fun other state' is => ?_⟩
  by_cases same : other = task
  · subst same
    simp only [setTask, Function.update_self, Option.some.injEq] at is
    exact is ▸ lives other state mine
  · simp only [setTask, Function.update_of_ne same] at is
    exact lives other state' (sound.tasks other state' is)

omit [DecidableEq Path] [DecidableEq Task] in
theorem frames_set {task : Task} {state : TaskState Task Path} {alive : Task → Bool}
    (sound : TaskSound locks.entries alive task state) (outside : ∀ path token, .admitted id path token ∉ state.frames)
    {frame : Nat} {path : Path} {token : Option (Option (Path × Task))} (mem : .admitted frame path token ∈ state.frames) :
    ∃ entry, Function.update locks.entries id (some value) frame = some entry ∧ entry.task = task ∧ entry.path = path ∧
      entry.waiter = .inside := by
  obtain ⟨entry, is, rest⟩ := sound.frames frame path token mem
  have other : frame ≠ id := by
    rintro rfl
    exact outside path token mem
  exact ⟨entry, (Function.update_of_ne other _ _).trans is, rest⟩

omit [DecidableEq Path] [DecidableEq Task] in
-- A task that waits for an entry is not inside of it.
theorem not_inside {task : Task} {state : TaskState Task Path} {alive : Task → Bool}
    (sound : TaskSound locks.entries alive task state) (is : locks.entries id = some entry) (waiting : entry.waiter = .waiting)
    (path : Path) (token : Option (Option (Path × Task))) : .admitted id path token ∉ state.frames := by
  intro mem
  obtain ⟨other, there, -, -, inside⟩ := sound.frames id path token mem
  obtain rfl := Option.some.inj (is.symm.trans there)
  exact absurd (waiting.symm.trans inside) (by decide)

theorem leave_sound {task : Task} {state : TaskState Task Path} (sound : locks.Sound) (there : locks.tasks task = some state)
    (waits : state.waiting = some id) (is : locks.entries id = some entry) : (locks.leave task state id entry).Sound := by
  have mine := sound.tasks task state there
  obtain ⟨entry', is', own, waiting⟩ := mine.waiting id waits
  obtain rfl := Option.some.inj (is.symm.trans is')
  have valid := (sound.entries id entry is).1
  have free : entry.callback = false := (valid.waiting waiting).1
  have outside := not_inside mine is waiting
  have lives : ∀ other, (locks.tasks other).isSome = true →
      ((locks.setTask task { state with waiting := none, cancelled := false }).tasks other).isSome = true :=
    fun _ live => isSome_setTask live
  unfold leave
  split
  · rename_i heard
    have gone : ({ entry with waiter := .left } : Entry Task Path) = { entry with waiter := .left, callback := false } := by
      rw [← free]
    have closed := valid.close heard fun left => absurd (waiting.symm.trans left) (by decide)
    rw [← gone] at closed
    refine sound.change is own closed rfl rfl rfl (fun path => ?_) ⟨fun _ none_ => (nomatch none_), fun frame path token mem => ?_,
      mine.distinct, mine.chain.mono lives⟩
    · exact @Sound.flock_close _ _ _ locks id entry { entry with waiter := .left } sound rfl rfl is path
    · exact frames_set mine outside mem
  · refine sound.change is own (valid.leave waiting) rfl rfl rfl (fun path => ?_) ⟨fun _ none_ => (nomatch none_),
      fun frame path token mem => ?_, mine.distinct, mine.chain.mono lives⟩
    · exact @Sound.flock_set _ _ _ locks id entry { entry with waiter := .left, callback := true } sound is rfl rfl path
    · exact frames_set mine outside mem

theorem enterSection_sound {task : Task} {state : TaskState Task Path} (sound : locks.Sound)
    (there : locks.tasks task = some state) (waits : state.waiting = some id) (is : locks.entries id = some entry)
    (heard : entry.settled = true) (won : entry.worker = .won) : (locks.enterSection task state id entry).Sound := by
  have mine := sound.tasks task state there
  obtain ⟨entry', is', own, waiting⟩ := mine.waiting id waits
  obtain rfl := Option.some.inj (is.symm.trans is')
  have valid := ((sound.entries id entry is).1).enter waiting heard won
  have outside := not_inside mine is waiting
  have fresh : id ∉ state.frames.filterMap Frame.entry := by
    intro mem
    obtain ⟨frame, inside, same⟩ := List.mem_filterMap.mp mem
    cases frame with
    | nested => cases same
    | admitted frame path token => exact outside path token (Option.some.inj same ▸ inside)
  have frames : ∀ token, ∀ frame path token',
      .admitted frame path token' ∈ (.admitted id entry.path token :: state.frames : List (Frame Task Path)) →
        ∃ found, Function.update locks.entries id (some { entry with waiter := .inside }) frame = some found ∧
          found.task = task ∧ found.path = path ∧ found.waiter = .inside := by
    intro token frame path token' mem
    rcases List.mem_cons.mp mem with same | mem
    · cases same
      exact ⟨_, Function.update_self _ _ _, own, rfl, rfl⟩
    · exact frames_set mine outside mem
  have flock : ∀ path, Flock.Owned (holds path) (Function.update locks.entries id (some { entry with waiter := .inside }))
      (locks.holder path) := sound.flock_set is rfl rfl
  have lives : ∀ value other, (locks.tasks other).isSome = true → ((locks.setTask task value).tasks other).isSome = true :=
    fun _ _ live => isSome_setTask live
  unfold enterSection
  split
  · exact sound.change is own valid rfl rfl rfl flock
      ⟨fun _ none_ => (nomatch none_), frames _, List.nodup_cons.mpr ⟨fresh, mine.distinct⟩, rfl, mine.chain.mono (lives _)⟩
  · exact sound.change is own valid rfl rfl rfl flock
      ⟨fun _ none_ => (nomatch none_), frames _, List.nodup_cons.mpr ⟨fresh, mine.distinct⟩,
        show Chain _ _ _ _ from mine.chain.mono (lives _)⟩

theorem exit_sound {task : Task} {state : TaskState Task Path} {next : Locks Task Path} (sound : locks.Sound)
    (there : locks.tasks task = some state) (free : state.waiting = none) (move : locks.exit task state = some next) :
    next.Sound := by
  have mine := sound.tasks task state there
  unfold exit at move
  split at move
  · cases move
  · rename_i path frames shape
    obtain rfl := Option.some.inj move
    obtain ⟨waiting, frames', distinct, chain⟩ := mine
    rw [shape] at frames' distinct chain
    exact sound.changeTask ⟨waiting, fun _ _ _ mem => frames' _ _ _ (List.mem_cons_of_mem _ mem), distinct, chain.2⟩
  · rename_i frame path token frames shape
    obtain ⟨entry, is, rfl⟩ := Option.map_eq_some_iff.mp move
    obtain ⟨waiting, frames', distinct, chain⟩ := mine
    rw [shape] at frames' distinct chain
    obtain ⟨entry', is', own, rfl, inside⟩ := frames' frame path token List.mem_cons_self
    obtain rfl := Option.some.inj (is.symm.trans is')
    have valid := (sound.entries frame entry is).1
    have gone : ({ entry with waiter := .left } : Entry Task Path) = { entry with waiter := .left, callback := false } := by
      rw [← (valid.inside inside).2.1]
    have closed := valid.close (valid.inside inside).1 fun left => absurd (inside.symm.trans left) (by decide)
    rw [← gone] at closed
    have lives : ∀ value other, (locks.tasks other).isSome = true → ((locks.setTask task value).tasks other).isSome = true :=
      fun _ _ live => isSome_setTask live
    refine sound.change is own closed rfl rfl rfl (fun path => ?_)
      ⟨fun _ waits => (nomatch free.symm.trans waits), fun other path token mem => ?_, ?_, ?_⟩
    · exact @Sound.flock_close _ _ _ locks frame entry { entry with waiter := .left } sound rfl rfl is path
    · obtain ⟨found, at_, rest⟩ := frames' other path token (List.mem_cons_of_mem _ mem)
      have distinct' : other ≠ frame := by
        rintro rfl
        exact (List.nodup_cons.mp distinct).1 (List.mem_filterMap.mpr ⟨_, mem, rfl⟩)
      exact ⟨found, (Function.update_of_ne distinct' _ _).trans at_, rest⟩
    · exact (List.nodup_cons.mp distinct).2
    · cases token with
      | none => exact Chain.mono chain (lives _)
      | some token => exact Chain.mono chain.2 (lives _)

-- A new entry is none that a task has.
theorem enter_sound {task : Task} {state : TaskState Task Path} (sound : locks.Sound) (there : locks.tasks task = some state)
    (path : Path) (dsp : Bool) (deadline : Time) :
    Sound { (locks.setTask task { state with waiting := some locks.next }).setEntry locks.next
      ⟨task, path, dsp, deadline, .polling, false, .waiting, false, false, 0⟩ with next := locks.next + 1 } := by
  have mine := sound.tasks task state there
  have unused : locks.entries locks.next = none := by
    cases is : locks.entries locks.next with
    | none => rfl
    | some entry => exact absurd (sound.entries _ entry is).2 (lt_irrefl _)
  have later : ∀ value id entry, locks.entries id = some entry → Function.update locks.entries locks.next value id = some entry := by
    intro value id entry is
    have other : id ≠ locks.next := ((sound.entries id entry is).2).ne
    exact (Function.update_of_ne other _ _).trans is
  have lives : ∀ value other, (locks.tasks other).isSome = true → ((locks.setTask task value).tasks other).isSome = true :=
    fun _ _ live => isSome_setTask live
  let fresh : Entry Task Path := ⟨task, path, dsp, deadline, .polling, false, .waiting, false, false, 0⟩
  let waits : TaskState Task Path := { state with waiting := some locks.next }
  refine ⟨fun other => (sound.flock other).keep (by simp [holds, unused]), fun id entry is => ?_, fun other state' is => ?_⟩
  · by_cases same : id = locks.next
    · subst same
      simp only [setEntry, Function.update_self, Option.some.injEq] at is
      subst is
      exact ⟨⟨by simp, by simp, by simp, by simp⟩, Nat.lt_succ_self _⟩
    · simp only [setEntry, Function.update_of_ne same] at is
      obtain ⟨valid, old⟩ := sound.entries id entry is
      exact ⟨valid, Nat.lt_succ_of_lt old⟩
  · by_cases same : other = task
    · subst same
      simp only [setEntry, setTask, Function.update_self, Option.some.injEq] at is
      subst is
      have kept := mine.mono (fun id entry is _ _ => ⟨entry, later (some fresh) id entry is, rfl, rfl, rfl⟩) (lives waits)
      refine ⟨fun id waits => ?_, kept.frames, kept.distinct, kept.chain⟩
      cases waits
      exact ⟨_, Function.update_self _ _ _, rfl, rfl⟩
    · simp only [setEntry, setTask, Function.update_of_ne same] at is
      exact (sound.tasks other state' is).mono (fun id entry is _ _ => ⟨entry, later (some fresh) id entry is, rfl, rfl, rfl⟩)
        (lives waits)

omit [DecidableEq Task] in
theorem callback_sound (sound : locks.Sound) (is : locks.entries id = some entry) (heard : entry.settled = true)
    (due : entry.callback = true) : (locks.close id { entry with callback := false }).Sound := by
  have valid := (sound.entries id entry is).1
  have left : entry.waiter = .left := by
    cases waiter : entry.waiter with
    | waiting => exact absurd (due.symm.trans (valid.waiting waiter).1) (by decide)
    | inside => exact absurd (due.symm.trans (valid.inside waiter).2.1) (by decide)
    | left => rfl
  have gone : ({ entry with callback := false } : Entry Task Path) = { entry with waiter := .left, callback := false } := by
    rw [← left]
  have closed := valid.close heard fun _ => due
  rw [← gone] at closed
  refine ⟨fun path => ?_, sound.entries_set is closed, fun other state there => ?_⟩
  · exact @Sound.flock_close _ _ _ locks id entry { entry with callback := false } sound rfl rfl is path
  · exact tasks_set (sound.tasks other state there) is fun _ stays => absurd left stays

theorem step_sound {action : Action Task Path} {next : Locks Task Path} (sound : locks.Sound)
    (move : locks.step action = some next) : next.Sound := by
  cases action with
  | tick later =>
    obtain ⟨-, same⟩ := Option.ite_none_right_eq_some.mp move
    obtain rfl := Option.some.inj same
    exact ⟨sound.flock, sound.entries, sound.tasks⟩
  | spawn parent child =>
    simp only [step] at move
    split at move
    · rename_i state there fresh
      obtain rfl := Option.some.inj move
      have chain := (sound.tasks parent state there).chain
      refine sound.changeTask ⟨fun _ none_ => (nomatch none_), fun _ _ _ mem => (nomatch mem), List.nodup_nil, fun owner owned => ?_⟩
      have live := chain.alive (by simp [there]) owner owned
      refine ⟨?_, live⟩
      rintro rfl
      simp [fresh] at live
    · cases move
  | enter task path dsp timeoutSec =>
    obtain ⟨state, there, move⟩ := Option.bind_eq_some_iff.mp move
    split at move
    · cases move
    · split at move
      · rename_i own
        obtain rfl := Option.some.inj move
        have mine := sound.tasks task state there
        have chain := mine.chain
        rw [own.2] at chain
        refine sound.changeTask ⟨mine.waiting, fun id path' token mem => ?_, mine.distinct, ⟨?_, mine.chain⟩⟩
        · exact mine.frames id path' token ((List.mem_cons.mp mem).resolve_left (by simp))
        · exact chain.exists_admitted
      · obtain rfl := Option.some.inj move
        exact enter_sound sound there path dsp _
  | win id =>
    obtain ⟨entry, is, move⟩ := Option.bind_eq_some_iff.mp move
    obtain ⟨⟨polling, free⟩, same⟩ := Option.ite_none_right_eq_some.mp move
    obtain rfl := Option.some.inj same
    have valid := ((sound.entries id entry is).1).won polling
    exact ⟨sound.flock_win rfl is rfl free, sound.entries_set is valid, fun other state there =>
      tasks_set (sound.tasks other state there) is fun _ _ => ⟨rfl, rfl, rfl⟩⟩
  | fail id =>
    obtain ⟨entry, is, move⟩ := Option.bind_eq_some_iff.mp move
    obtain ⟨polling, same⟩ := Option.ite_none_right_eq_some.mp move
    obtain rfl := Option.some.inj same
    exact sound.set is (((sound.entries id entry is).1).failed polling) rfl rfl rfl rfl
  | settle id =>
    obtain ⟨entry, is, move⟩ := Option.bind_eq_some_iff.mp move
    obtain ⟨ended, same⟩ := Option.ite_none_left_eq_some.mp move
    obtain rfl := Option.some.inj same
    exact sound.set is (((sound.entries id entry is).1).settle fun polling => ended (.inl polling)) rfl rfl rfl rfl
  | callback id =>
    obtain ⟨entry, is, move⟩ := Option.bind_eq_some_iff.mp move
    obtain ⟨⟨heard, due⟩, same⟩ := Option.ite_none_right_eq_some.mp move
    obtain rfl := Option.some.inj same
    exact callback_sound sound is heard due
  | cancel task =>
    obtain ⟨state, there, move⟩ := Option.bind_eq_some_iff.mp move
    obtain ⟨-, same⟩ := Option.ite_none_right_eq_some.mp move
    obtain rfl := Option.some.inj same
    obtain ⟨waiting, frames, distinct, chain⟩ := sound.tasks task state there
    exact sound.changeTask ⟨waiting, frames, distinct, chain⟩
  | resume task =>
    obtain ⟨state, there, move⟩ := Option.bind_eq_some_iff.mp move
    obtain ⟨id, waits, move⟩ := Option.bind_eq_some_iff.mp move
    obtain ⟨entry, is, move⟩ := Option.bind_eq_some_iff.mp move
    unfold resume at move
    split at move
    · exact Option.some.inj move ▸ leave_sound sound there waits is
    · split at move
      · rename_i heard
        split at move
        · rename_i admitted
          exact Option.some.inj move ▸ enterSection_sound sound there waits is heard admitted.1
        · exact Option.some.inj move ▸ leave_sound sound there waits is
      · cases move
  | exit task =>
    obtain ⟨state, there, move⟩ := Option.bind_eq_some_iff.mp move
    split at move
    · cases move
    · rename_i free
      exact exit_sound sound there (by simpa using free) move

theorem sound_of_reachable (reached : Reachable (system : System (Locks Task Path) (Action Task Path)) locks) : locks.Sound := by
  refine @Reachable.invariant _ _ _ Sound ?_ ?_ _ reached
  · rintro first ⟨entries, holder, tasks⟩
    refine ⟨fun path id => ?_, fun id entry is => ?_, fun task state there => ?_⟩
    · simp [holds, entries, holder]
    · exact absurd ((entries id).symm.trans is) (by simp)
    · obtain rfl := tasks task state there
      exact ⟨fun _ none_ => (nomatch none_), fun _ _ _ mem => (nomatch mem), List.nodup_nil, fun _ owned => (nomatch owned)⟩
  · exact fun _ _ _ sound move => step_sound sound move

/-- The task is in the guarded section of the path. -/
def Inside (locks : Locks Task Path) (task : Task) (path : Path) : Prop :=
  ∃ state, locks.tasks task = some state ∧ ∃ frame ∈ state.frames, frame.path = path

omit [DecidableEq Path] [DecidableEq Task] in
theorem exists_admitted {alive : Task → Bool} {task : Task} {ownership : Option (Path × Task)} {frames : List (Frame Task Path)}
    (chain : Chain alive task ownership frames) {frame : Frame Task Path} (mem : frame ∈ frames) :
    ∃ id token, .admitted id frame.path token ∈ frames := by
  induction frames generalizing ownership with
  | nil => cases mem
  | cons head frames ih =>
    rcases List.mem_cons.mp mem with rfl | mem
    · cases frame with
      | nested path =>
        obtain ⟨id, token, mem⟩ := chain.1
        exact ⟨id, token, List.mem_cons_of_mem _ mem⟩
      | admitted id path token => exact ⟨id, token, List.mem_cons_self⟩
    · have rest : ∃ ownership, Chain alive task ownership frames := by
        cases head with
        | nested => exact ⟨_, chain.2⟩
        | admitted id path token =>
          cases token with
          | none => exact ⟨_, chain⟩
          | some token => exact ⟨_, chain.2⟩
      obtain ⟨before, chain⟩ := rest
      obtain ⟨id, token, mem⟩ := ih chain mem
      exact ⟨id, token, List.mem_cons_of_mem _ mem⟩

omit [DecidableEq Task] in
-- Whoever is inside holds the flock through an entry of its own.
theorem Sound.inside (sound : locks.Sound) {task : Task} {path : Path} (inside : locks.Inside task path) :
    ∃ id entry, locks.entries id = some entry ∧ entry.task = task ∧ entry.waiter = .inside ∧ locks.holder path = some id := by
  obtain ⟨state, there, frame, mem, rfl⟩ := inside
  have mine := sound.tasks task state there
  obtain ⟨id, token, mem⟩ := exists_admitted mine.chain mem
  obtain ⟨entry, is, own, path, inside⟩ := mine.frames id _ token mem
  have held := ((sound.entries id entry is).1.inside inside).2.2.2.1
  exact ⟨id, entry, is, own, inside, (sound.flock _ id).mp (by simp [holds, is, path, held])⟩

omit [DecidableEq Task] in
theorem Sound.exclusive (sound : locks.Sound) {one other : Task} {path : Path} (here : locks.Inside one path)
    (there : locks.Inside other path) : one = other := by
  obtain ⟨id, entry, is, rfl, -, holder⟩ := sound.inside here
  obtain ⟨id', entry', is', rfl, -, holder'⟩ := sound.inside there
  obtain rfl := Option.some.inj (holder.symm.trans holder')
  exact congrArg Entry.task (Option.some.inj (is.symm.trans is'))

omit [DecidableEq Task] in
theorem Sound.one_entry (sound : locks.Sound) {id id' : Nat} {entry entry' : Entry Task Path} (is : locks.entries id = some entry)
    (is' : locks.entries id' = some entry') (inside : entry.waiter = .inside) (inside' : entry'.waiter = .inside)
    (path : entry.path = entry'.path) : id = id' := by
  have held := ((sound.entries id entry is).1.inside inside).2.2.2.1
  have held' := ((sound.entries id' entry' is').1.inside inside').2.2.2.1
  have owned := sound.flock entry.path
  exact owned.unique (by simp [holds, is, held]) (by simp [holds, is', held', path])

omit [DecidableEq Path] [DecidableEq Task] in
theorem update_cases {other : Nat} {after : Entry Task Path} (is : locks.entries id = some entry)
    (there : Function.update locks.entries other (some value) id = some after) :
    after = entry ∨ id = other ∧ after = value := by
  by_cases same : id = other
  · subst same
    rw [Function.update_self] at there
    exact .inr ⟨rfl, (Option.some.inj there).symm⟩
  · rw [Function.update_of_ne same] at there
    exact .inl (Option.some.inj (there.symm.trans is))

omit [DecidableEq Path] [DecidableEq Task] in
theorem closed_waiter (entry : Entry Task Path) : entry.closed.waiter = entry.waiter := by
  unfold Entry.closed
  split <;> rfl

/-- A waiter is let in before its deadline, and not once it is cancelled. One that has left does not come back. -/
def Enters (locks : Locks Task Path) (id : Nat) (entry after : Entry Task Path) : Prop :=
  after.waiter = entry.waiter ∨ after.waiter = .left ∨
    entry.waiter = .waiting ∧ after.waiter = .inside ∧ locks.now < entry.deadline ∧
      ∃ state, locks.tasks entry.task = some state ∧ state.waiting = some id ∧ state.cancelled = false

omit [DecidableEq Path] [DecidableEq Task] in
theorem Enters.of_update {other : Nat} {before after : Entry Task Path} (is : locks.entries id = some entry)
    (changed : locks.entries other = some before) (there : Function.update locks.entries other (some value) id = some after)
    (enters : locks.Enters other before value) : locks.Enters id entry after := by
  rcases update_cases is there with rfl | ⟨rfl, rfl⟩
  · exact .inl rfl
  · obtain rfl := Option.some.inj (is.symm.trans changed)
    exact enters

theorem step_enters {action : Action Task Path} {next : Locks Task Path} (sound : locks.Sound)
    (move : locks.step action = some next) {after : Entry Task Path} (is : locks.entries id = some entry)
    (there : next.entries id = some after) : locks.Enters id entry after := by
  have same : next.entries = locks.entries → locks.Enters id entry after := fun entries =>
    .inl (congrArg Entry.waiter (Option.some.inj (there.symm.trans ((congrFun entries id).trans is))))
  cases action with
  | tick later =>
    obtain ⟨-, rest⟩ := Option.ite_none_right_eq_some.mp move
    exact same (Option.some.inj rest ▸ rfl)
  | spawn parent child =>
    simp only [step] at move
    split at move
    · exact same (Option.some.inj move ▸ rfl)
    · cases move
  | enter task path dsp timeoutSec =>
    obtain ⟨state, -, move⟩ := Option.bind_eq_some_iff.mp move
    split at move
    · cases move
    · split at move
      · exact same (Option.some.inj move ▸ rfl)
      · obtain rfl := Option.some.inj move
        rcases update_cases is there with rfl | ⟨rfl, -⟩
        · exact .inl rfl
        · exact absurd (sound.entries _ entry is).2 (lt_irrefl _)
  | win other =>
    obtain ⟨before, changed, move⟩ := Option.bind_eq_some_iff.mp move
    obtain ⟨-, rest⟩ := Option.ite_none_right_eq_some.mp move
    obtain rfl := Option.some.inj rest
    exact .of_update is changed there (.inl rfl)
  | fail other =>
    obtain ⟨before, changed, move⟩ := Option.bind_eq_some_iff.mp move
    obtain ⟨-, rest⟩ := Option.ite_none_right_eq_some.mp move
    obtain rfl := Option.some.inj rest
    exact .of_update is changed there (.inl rfl)
  | settle other =>
    obtain ⟨before, changed, move⟩ := Option.bind_eq_some_iff.mp move
    obtain ⟨-, rest⟩ := Option.ite_none_left_eq_some.mp move
    obtain rfl := Option.some.inj rest
    exact .of_update is changed there (.inl rfl)
  | callback other =>
    obtain ⟨before, changed, move⟩ := Option.bind_eq_some_iff.mp move
    obtain ⟨-, rest⟩ := Option.ite_none_right_eq_some.mp move
    obtain rfl := Option.some.inj rest
    exact .of_update is changed there (.inl (closed_waiter _))
  | cancel task =>
    obtain ⟨state, -, move⟩ := Option.bind_eq_some_iff.mp move
    obtain ⟨-, rest⟩ := Option.ite_none_right_eq_some.mp move
    exact same (Option.some.inj rest ▸ rfl)
  | resume task =>
    obtain ⟨state, alive, move⟩ := Option.bind_eq_some_iff.mp move
    obtain ⟨other, waits, move⟩ := Option.bind_eq_some_iff.mp move
    obtain ⟨before, changed, move⟩ := Option.bind_eq_some_iff.mp move
    have leaves : next = locks.leave task state other before → locks.Enters id entry after := by
      rintro rfl
      unfold leave at there
      split at there
      · exact .of_update is changed there (.inr (.inl (closed_waiter _)))
      · exact .of_update is changed there (.inr (.inl rfl))
    unfold resume at move
    split at move
    · exact leaves (Option.some.inj move).symm
    · rename_i wanted
      split at move
      · split at move
        · rename_i admitted
          obtain rfl := Option.some.inj move
          obtain ⟨before', changed', own, waiting⟩ := (sound.tasks task state alive).waiting other waits
          obtain rfl := Option.some.inj (changed.symm.trans changed')
          refine .of_update is changed (by unfold enterSection at there; split at there <;> exact there)
            (.inr (.inr ⟨waiting, rfl, admitted.2, state, own ▸ alive, waits, by simpa using wanted⟩))
        · exact leaves (Option.some.inj move).symm
      · cases move
  | exit task =>
    obtain ⟨state, -, move⟩ := Option.bind_eq_some_iff.mp move
    split at move
    · cases move
    · unfold exit at move
      split at move
      · cases move
      · exact same (Option.some.inj move ▸ rfl)
      · obtain ⟨before, changed, rfl⟩ := Option.map_eq_some_iff.mp move
        exact .of_update is changed there (.inr (.inl (closed_waiter _)))

omit [DecidableEq Task] in
theorem Sound.released (sound : locks.Sound) (is : locks.entries id = some entry) :
    entry.releases ≤ 1 ∧ (entry.worker ≠ .won → entry.releases = 0) ∧ 
      (entry.worker = .won → (locks.holder entry.path = some id ↔ entry.releases = 0)) := by
  have valid := (sound.entries id entry is).1
  have held : locks.holder entry.path = some id ↔ entry.held = true := by
    rw [← sound.flock entry.path id]
    simp [holds, is]
  rw [held]
  cases waiter : entry.waiter with
  | waiting => have := valid.waiting waiter; simp_all
  | inside => have := valid.inside waiter; simp_all
  | left =>
    have := valid.left waiter
    split at this
    · simp_all
    · split at this <;> simp_all

omit [DecidableEq Task] in
/-- Closing a stack that has the flock releases it. -/
theorem close_releases {value : Entry Task Path} (held : value.held = true) (unreleased : value.releases = 0) :
    ∃ after, (locks.close id value).entries id = some after ∧ after.releases = 1 ∧
      (locks.close id value).holder value.path ≠ some id := by
  refine ⟨value.closed, Function.update_self _ _ _, ?_, ?_⟩
  · simp [Entry.closed, held, unreleased]
  · simp only [close, held, if_true, Function.update_self, Flock.release]
    split
    · exact fun none_ => (nomatch none_)
    · assumption

theorem callback_releases (is : locks.entries id = some entry) (heard : entry.settled = true) (due : entry.callback = true)
    (held : entry.held = true) (unreleased : entry.releases = 0) :
    ∃ next after, locks.step (.callback id) = some next ∧ next.entries id = some after ∧ after.releases = 1 ∧
      next.holder entry.path ≠ some id := by
  have move : locks.step (.callback id) = some (locks.close id { entry with callback := false }) := by
    simp [step, is, heard, due]
  obtain ⟨after, released⟩ := @close_releases _ _ _ locks id { entry with callback := false } held unreleased
  exact ⟨_, after, move, released⟩

/-- A task that is not waiting gets out of its innermost section, and gives back the flock that it got in with. -/
theorem Sound.exit_releases (sound : locks.Sound) {task : Task} {state : TaskState Task Path} {path : Path}
    {token : Option (Option (Path × Task))} {frames : List (Frame Task Path)} (there : locks.tasks task = some state)
    (free : state.waiting = none) (inside : state.frames = .admitted id path token :: frames) :
    ∃ next after, locks.step (.exit task) = some next ∧ next.entries id = some after ∧ after.releases = 1 ∧
      next.holder path ≠ some id ∧ next.tasks task = some { state with ownership := token.getD state.ownership, frames := frames } := by
  obtain ⟨entry, is, -, rfl, waiter⟩ := (sound.tasks task state there).frames id path token (inside ▸ List.mem_cons_self)
  obtain ⟨-, -, unreleased, held, -⟩ := (sound.entries id entry is).1.inside waiter
  have move : locks.step (.exit task) = some
      ((locks.setTask task { state with ownership := token.getD state.ownership, frames := frames }).close id
        { entry with waiter := .left }) := by
    simp [step, there, free, Locks.exit, inside, is]
  obtain ⟨after, found, released, gone⟩ := @close_releases _ _ _
    (locks.setTask task { state with ownership := token.getD state.ownership, frames := frames }) id
    { entry with waiter := .left } held unreleased
  exact ⟨_, after, move, found, released, gone, Function.update_self _ _ _⟩

/-- The flock of a waiter that has left is released by what is left to the loop to do. -/
theorem Sound.loop_releases (sound : locks.Sound) (is : locks.entries id = some entry) (won : entry.worker = .won)
    (left : entry.waiter = .left) (unreleased : entry.releases = 0) :
    ∃ next after, execute step locks (if entry.settled then [.callback id] else [.settle id, .callback id]) = some next ∧
      next.entries id = some after ∧ after.releases = 1 ∧ next.holder entry.path ≠ some id := by
  have before := (sound.entries id entry is).1.left left
  have due : entry.callback = true := by
    cases callback : entry.callback <;> simp_all
  rw [if_pos due] at before
  have held := before.2.mpr won
  cases heard : entry.settled with
  | true =>
    obtain ⟨next, after, move, rest⟩ := callback_releases is heard due held unreleased
    exact ⟨next, after, by simp [execute, move], rest⟩
  | false =>
    have settle : locks.step (.settle id) = some (locks.setEntry id { entry with settled := true }) := by
      simp [step, is, won, heard]
    obtain ⟨next, after, move, rest⟩ := @callback_releases _ _ _ (locks.setEntry id { entry with settled := true }) id
      { entry with settled := true } _ (Function.update_self _ _ _) rfl due held unreleased
    exact ⟨next, after, by simp [execute, settle, move], rest⟩

end Locks

/-- One task at a time is in the section of a path, with one entry that is not nested. Nobody gets in too late. A flock that is
won is held until it is released, once: whoever gets out of a section releases it, and what is left to the loop releases the
flock of a waiter that has gone. -/
theorem writer_lock_excludes {Task Path : Type} [DecidableEq Task] [DecidableEq Path] {locks : Locks Task Path}
    (reached : Reachable (Locks.system : System (Locks Task Path) (Action Task Path)) locks) :
    (∀ one other path, locks.Inside one path → locks.Inside other path → one = other) ∧
    (∀ id id' entry entry', locks.entries id = some entry → locks.entries id' = some entry' → entry.waiter = .inside →
      entry'.waiter = .inside → entry.path = entry'.path → id = id') ∧
    (∀ action next id entry after, locks.step action = some next → locks.entries id = some entry →
      next.entries id = some after → locks.Enters id entry after) ∧
    (∀ task state id path token frames, locks.tasks task = some state → state.waiting = none →
      state.frames = .admitted id path token :: frames →
      ∃ next after, locks.step (.exit task) = some next ∧ next.entries id = some after ∧ after.releases = 1 ∧
        next.holder path ≠ some id ∧ next.tasks task = some { state with ownership := token.getD state.ownership, frames := frames }) ∧
    ∀ id entry, locks.entries id = some entry →
      entry.releases ≤ 1 ∧ (entry.worker ≠ .won → entry.releases = 0) ∧
      (entry.worker = .won → (locks.holder entry.path = some id ↔ entry.releases = 0)) ∧
      (entry.worker = .won → entry.waiter = .left → entry.releases = 0 →
        ∃ next after, execute Locks.step locks (if entry.settled then [.callback id] else [.settle id, .callback id]) = some next ∧
          next.entries id = some after ∧ after.releases = 1 ∧ next.holder entry.path ≠ some id) := by
  have sound := Locks.sound_of_reachable reached
  refine ⟨fun _ _ _ => sound.exclusive, fun _ _ _ _ is is' => sound.one_entry is is',
    fun _ _ _ _ _ move => Locks.step_enters sound move, fun _ _ _ _ _ _ => sound.exit_releases, fun id entry is => ?_⟩
  obtain ⟨once, never, holder⟩ := sound.released is
  exact ⟨once, never, holder, sound.loop_releases is⟩

-- Two tasks for one path.
def twoTasks : Locks Nat Nat := ⟨0, 0, fun _ => none, fun task => if task < 2 then some ⟨none, [], none, false⟩ else none, fun _ => none⟩

theorem initial_twoTasks : twoTasks.Initial := by
  refine ⟨fun _ => rfl, fun _ => rfl, fun task state there => ?_⟩
  exact (Option.some.inj (Option.ite_none_right_eq_some.mp there).2).symm

/-- The second waiter leaves while the first is inside, its worker wins afterwards, and the loop releases the flock. -/
theorem late_win_released :
    ∃ locks, Reachable (Locks.system : System (Locks Nat Nat) (Action Nat Nat)) locks ∧
      ((locks.entries 1).map fun entry => (entry.worker, entry.waiter, entry.releases)) = some (.won, .left, 0) ∧
      ∃ next after, execute Locks.step locks [.settle 1, .callback 1] = some next ∧ next.entries 1 = some after ∧
        after.releases = 1 ∧ next.holder 0 ≠ some 1 := by
  obtain ⟨locks, reached, shown⟩ := @reachable_observed _ _ Locks.Initial Locks.step twoTasks
    [.enter 0 0 true 5, .win 0, .settle 0, .resume 0, .enter 0 0 true 5, .enter 1 0 true 1, .tick 2, .cancel 1, .resume 1, .exit 0,
      .exit 0, .win 1] _
    (fun locks => (locks.entries 1).map fun entry => (entry.worker, entry.waiter, entry.releases, entry.settled, entry.path))
    (some (.won, .left, 0, false, 0)) initial_twoTasks (by decide +kernel)
  obtain ⟨entry, is, same⟩ := Option.map_eq_some_iff.mp shown
  simp only [Prod.mk.injEq] at same
  obtain ⟨won, left, unreleased, heard, path⟩ := same
  have released := ((writer_lock_excludes reached).2.2.2.2 1 entry is).2.2.2 won left unreleased
  rw [heard, path] at released
  exact ⟨locks, reached, by simp [is, won, left, unreleased], released⟩

end Jts.DspControl
