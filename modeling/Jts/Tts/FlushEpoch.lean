import Jts.Tts.VolumeOrder
import Jts.Shared.Extremum
import Mathlib.Logic.Function.Basic
import Mathlib.Order.Lattice
import Mathlib.Algebra.Order.Group.Nat

set_option autoImplicit false

namespace Jts.Tts

open Jts.Shared.Transition
open Jts.Shared.Extremum (le_foldl_max)

-- Both channels are bounded.
def commandQueueCapacity : Nat := 128

/-- A reader thread of one connection, between two of its accesses to what it shares. -/
inductive Client
  | idle
  | loaded (queued : QueuedTtsCommand)
  | bumped (epoch : Nat)
  | awaiting
deriving DecidableEq

-- Where the thread of the daemon is in its period; `taken` are the flush requests of this drain, oldest first.
inductive Phase
  | flushes (taken : List Nat)
  | commands
  | mixing
deriving DecidableEq

/-- What the two daemons do differently with what they take off the channels. -/
structure Daemon (Thread : Type) where
  takeFlush : Thread → Nat → Thread
  endFlushes : Thread → List Nat → Thread
  takeCommand : Thread → QueuedTtsCommand → AssistantGainDecision → Thread
  period : Thread → Nat → Thread
  activeEpoch : Thread → Nat
  history : Thread → List TtsEvent

-- fan-in folds the requests of one drain into its newest epoch and flushes once.
def fanin : Daemon Fanin.TtsMixer where
  takeFlush := fun mixer _ => mixer
  endFlushes := fun mixer taken => mixer.drainFlushes taken
  takeCommand := fun mixer queued decision => mixer.takeCommand queued decision
  period := fun mixer frames => mixer.mixPeriod frames
  activeEpoch := fun mixer => mixer.activeEpoch
  history := fun mixer => mixer.history

-- outputd flushes at every request.
def outputd : Daemon Outputd.TtsBridge where
  takeFlush := fun bridge epoch => bridge.drainFlush epoch
  endFlushes := fun bridge _ => bridge
  takeCommand := fun bridge queued decision => bridge.takeCommand queued decision
  period := fun bridge dacDelayFrames => bridge.step dacDelayFrames
  activeEpoch := fun bridge => bridge.activeEpoch
  history := fun bridge => bridge.core.history

structure Ipc (Thread : Type) where
  epoch : Nat
  clients : Nat → Client
  commands : List QueuedTtsCommand
  flushes : List Nat
  phase : Phase
  thread : Thread

inductive IpcAction
  | read (client : Nat) (command : TtsCommand)
  | enqueue (client : Nat)
  | bump (client : Nat)
  | send (client : Nat)
  | answered (client : Nat)
  | takeFlush
  | endFlushes
  | takeCommand (decision : AssistantGainDecision)
  | endCommands
  | period (size : Nat)

namespace Ipc

variable {Thread : Type}

def start (thread : Thread) : Ipc Thread where
  epoch := 0
  clients := fun _ => .idle
  commands := []
  flushes := []
  phase := .flushes []
  thread := thread

def set (state : Ipc Thread) (client : Nat) (now : Client) : Ipc Thread :=
  { state with clients := Function.update state.clients client now }

-- FLUSH_SYNC and CLOSE never become queued commands.
def read (state : Ipc Thread) (client : Nat) (command : TtsCommand) : Option (Ipc Thread) :=
  match state.clients client, command with
  | .idle, .flushSync => none
  | .idle, .close => none
  | .idle, command => some (state.set client (.loaded ⟨state.epoch, command⟩))
  | _, _ => none

-- Audio that finds the channel full is dropped; any other command waits for room.
def enqueue (state : Ipc Thread) (client : Nat) : Option (Ipc Thread) :=
  match state.clients client with
  | .loaded queued =>
    if state.commands.length < commandQueueCapacity then
      some { state.set client .idle with commands := state.commands ++ [queued] }
    else if queued.command.isAudio then some (state.set client .idle)
    else none
  | _ => none

def bump (state : Ipc Thread) (client : Nat) : Option (Ipc Thread) :=
  match state.clients client with
  | .idle => some { state.set client (.bumped (state.epoch + 1)) with epoch := state.epoch + 1 }
  | _ => none

def send (state : Ipc Thread) (client : Nat) : Option (Ipc Thread) :=
  match state.clients client with
  | .bumped epoch =>
    if state.flushes.length < commandQueueCapacity then
      some { state.set client .awaiting with flushes := state.flushes ++ [epoch] }
    else none
  | _ => none

-- The acknowledgement or its timeout.
def answered (state : Ipc Thread) (client : Nat) : Option (Ipc Thread) :=
  match state.clients client with
  | .awaiting => some (state.set client .idle)
  | _ => none

variable (daemon : Daemon Thread)

def takeFlush (state : Ipc Thread) : Option (Ipc Thread) :=
  match state.phase, state.flushes with
  | .flushes taken, epoch :: rest =>
    some { state with
      flushes := rest
      phase := .flushes (taken ++ [epoch])
      thread := daemon.takeFlush state.thread epoch }
  | _, _ => none

def endFlushes (state : Ipc Thread) : Option (Ipc Thread) :=
  match state.phase, state.flushes with
  | .flushes taken, [] => some { state with phase := .commands, thread := daemon.endFlushes state.thread taken }
  | _, _ => none

def takeCommand (state : Ipc Thread) (decision : AssistantGainDecision) : Option (Ipc Thread) :=
  match state.phase, state.commands with
  | .commands, queued :: rest =>
    some { state with commands := rest, thread := daemon.takeCommand state.thread queued decision }
  | _, _ => none

def endCommands (state : Ipc Thread) : Option (Ipc Thread) :=
  match state.phase, state.commands with
  | .commands, [] => some { state with phase := .mixing }
  | _, _ => none

def period (state : Ipc Thread) (size : Nat) : Option (Ipc Thread) :=
  match state.phase with
  | .mixing => some { state with phase := .flushes [], thread := daemon.period state.thread size }
  | _ => none

def step (state : Ipc Thread) : IpcAction → Option (Ipc Thread)
  | .read client command => state.read client command
  | .enqueue client => state.enqueue client
  | .bump client => state.bump client
  | .send client => state.send client
  | .answered client => state.answered client
  | .takeFlush => state.takeFlush daemon
  | .endFlushes => state.endFlushes daemon
  | .takeCommand decision => state.takeCommand daemon decision
  | .endCommands => state.endCommands
  | .period size => state.period daemon size

def system (thread : Thread) : System (Ipc Thread) IpcAction := ofFn (· = start thread) (step daemon)

end Ipc

-- Of two events, the newer is no audio of an epoch below that of the older flush.
def Fresh : TtsEvent → TtsEvent → Prop
  | .mixed _ stamp _, .flushed epoch => epoch ≤ stamp
  | _, _ => True

instance (newer older : TtsEvent) : Decidable (Fresh newer older) := by
  unfold Fresh
  split <;> infer_instance

def TtsEvent.neutral : TtsEvent → Bool
  | .mixed _ _ _ | .flushed _ => false
  | _ => true

theorem TtsEvent.neutral_of_closes {event : TtsEvent} (closes : event.closes = true) : event.neutral = true := by
  cases event <;> simp [TtsEvent.closes, TtsEvent.neutral] at closes ⊢

/-- What the gate keeps: the queue belongs to the active epoch, which no processed flush exceeds. -/
structure Gate (active : Nat) (stamps : List Nat) (history : List TtsEvent) : Prop where
  queue : ∀ stamp ∈ stamps, stamp = active
  flushed : ∀ epoch, .flushed epoch ∈ history → epoch ≤ active
  fresh : history.Pairwise Fresh

namespace Gate

variable {active : Nat} {stamps : List Nat} {history events : List TtsEvent}

theorem start : Gate 0 [] [] where
  queue := by simp
  flushed := by simp
  fresh := .nil

theorem shrink (gate : Gate active stamps history) {left : List Nat} (fewer : left ⊆ stamps) :
    Gate active left history :=
  { gate with queue := fun stamp among => gate.queue stamp (fewer among) }

theorem push (gate : Gate active stamps history) {stamp : Nat} (current : stamp = active) :
    Gate active (stamps ++ [stamp]) history where
  queue := by
    intro other among
    rcases List.mem_append.mp among with here | here
    · exact gate.queue other here
    · rw [List.mem_singleton.mp here, current]
  flushed := gate.flushed
  fresh := gate.fresh

theorem event (gate : Gate active stamps history) {event : TtsEvent} (neutral : event.neutral = true) :
    Gate active stamps (event :: history) where
  queue := gate.queue
  flushed := by
    intro epoch among
    rcases List.mem_cons.mp among with rfl | among
    · cases neutral
    · exact gate.flushed epoch among
  fresh := by
    apply List.Pairwise.cons _ gate.fresh
    intro older _
    cases event <;> trivial

theorem quiet (gate : Gate active stamps history) (neutral : ∀ event ∈ events, event.neutral = true) :
    Gate active stamps (events ++ history) := by
  induction events with
  | nil => exact gate
  | cons head rest ih =>
    apply Gate.event
    · exact ih fun event among => neutral event (.tail _ among)
    · exact neutral head (.head _)

theorem mix (gate : Gate active stamps history) {segment stamp : Nat} {context : Option VolumeContext}
    (queued : stamp ∈ stamps) : Gate active stamps (.mixed segment stamp context :: history) where
  queue := gate.queue
  flushed := by
    intro epoch among
    rcases List.mem_cons.mp among with other | among
    · cases other
    · exact gate.flushed epoch among
  fresh := by
    apply List.Pairwise.cons _ gate.fresh
    intro older among
    cases older with
    | flushed epoch => exact (gate.flushed epoch among).trans (gate.queue stamp queued).ge
    | _ => trivial

theorem flush (gate : Gate active stamps history) {now : Nat} {epochs : List Nat} (forward : active ≤ now)
    (below : ∀ epoch ∈ epochs, epoch ≤ now) : Gate now [] (epochs.map .flushed ++ history) where
  queue := by simp
  flushed := by
    intro epoch among
    rcases List.mem_append.mp among with here | here
    · obtain ⟨same, among, eq⟩ := List.mem_map.mp here
      cases eq
      exact below epoch among
    · exact (gate.flushed epoch here).trans forward
  fresh := by
    induction epochs with
    | nil => exact gate.fresh
    | cons epoch rest ih =>
      exact .cons (fun older _ => trivial) (ih fun other among => below other (.tail _ among))

end Gate

namespace Fanin.TtsMixer

variable {mixer : TtsMixer}

def Gated (mixer : TtsMixer) : Prop := Gate mixer.activeEpoch (mixer.queue.map (·.stamp)) mixer.history

theorem gated_drainFlushes (gated : mixer.Gated) (epochs : List Nat) : (mixer.drainFlushes epochs).Gated := by
  obtain ⟨forward, below⟩ := le_foldl_max epochs mixer.activeEpoch
  unfold drainFlushes
  split_ifs
  · exact gated
  · exact Gate.flush gated forward fun epoch among => below epoch (List.mem_reverse.mp among)

theorem gated_enqueueAudio (gated : mixer.Gated) (chunk : Chunk) : (mixer.enqueueAudio mixer.activeEpoch chunk).Gated := by
  have pushed : Gate mixer.activeEpoch (mixer.queue.map (·.stamp) ++ [mixer.activeEpoch]) mixer.history := gated.push rfl
  have stamps : (mixer.enqueueAudio mixer.activeEpoch chunk).queue.map (·.stamp) =
      mixer.queue.map (·.stamp) ++ [mixer.activeEpoch] := by
    simp [enqueueAudio, pushBlock, note]
  unfold Gated
  rw [stamps]
  exact pushed.event rfl

theorem gated_acceptAudio (gated : mixer.Gated) (chunk : Chunk) (decision : AssistantGainDecision) :
    (mixer.acceptAudio mixer.activeEpoch chunk decision).Gated := by
  unfold acceptAudio openSegment
  split_ifs
  · exact gated
  · exact gated
  · exact @gated_enqueueAudio (mixer.beginSegmentGain .assistant decision) gated chunk
  · exact gated_enqueueAudio gated chunk

theorem gated_applyVolumeContext (gated : mixer.Gated) (context : VolumeContext) :
    (mixer.applyVolumeContext context).Gated := by
  unfold applyVolumeContext
  split
  · exact Gate.event gated rfl
  · exact gated

theorem gated_endSegment (gated : mixer.Gated) : mixer.endSegment.Gated := by
  obtain ⟨queue, _, _, events, ended, same, closing⟩ := endSegment_changes mixer
  rw [ended]
  have marked : Gate mixer.activeEpoch (queue.map (·.stamp)) mixer.history := by
    rw [map_of_unmark _ same fun _ => rfl]
    exact gated
  exact marked.quiet fun event among => TtsEvent.neutral_of_closes (closing event among)

theorem gated_takeCommand (gated : mixer.Gated) (queued : QueuedTtsCommand) (decision : AssistantGainDecision) :
    (mixer.takeCommand queued decision).Gated := by
  obtain ⟨epoch, command⟩ := queued
  unfold takeCommand
  split_ifs with stale
  · exact Gate.event gated rfl
  · cases command with
    | audioWide chunk =>
      have current : epoch = mixer.activeEpoch := by
        by_contra other
        exact stale ⟨other, rfl⟩
      subst current
      exact gated_acceptAudio gated chunk decision
    | prepareAssistant provider model voice envelope offered =>
      cases offered with
      | none => exact gated
      | some context => exact gated_applyVolumeContext gated context
    | volumeContext context => exact gated_applyVolumeContext gated context
    | flushSync => exact Gate.shrink gated (List.nil_subset _)
    | segmentEnd => exact gated_endSegment gated
    | _ => exact gated

theorem gated_mixFrame (gated : mixer.Gated) : mixer.mixFrame.Gated := by
  rcases mixFrame_cases mixer with ⟨_, idle⟩ | ⟨front, rest, _, _, nonempty, events, among, mixed⟩
  · rw [idle]
    exact gated
  · have closing : ∀ event ∈ events, event.neutral = true := by
      intro event here
      simp only [List.mem_cons, List.not_mem_nil, or_false] at among
      rcases among with rfl | rfl
      · cases here
      · rw [List.mem_singleton.mp here]
        rfl
    have stamps : mixer.queue.map (·.stamp) = front.stamp :: rest.map (·.stamp) := by rw [nonempty, List.map_cons]
    have before : Gate mixer.activeEpoch (front.stamp :: rest.map (·.stamp)) mixer.history := stamps ▸ gated
    rw [mixed]
    apply ((before.mix (.head _)).quiet closing).shrink
    split_ifs
    · exact List.subset_cons_self _ _
    · exact List.Subset.refl _

theorem gated_mixFrames (frames : Nat) (gated : mixer.Gated) : (mixFrames frames mixer).Gated := by
  induction frames generalizing mixer with
  | zero => exact gated
  | succ frames ih => exact ih (gated_mixFrame gated)

end Fanin.TtsMixer

namespace Outputd

theorem render_stamp (segment : AssistantSegment) (context : Option VolumeContext) :
    (segment.render context).stamp = segment.stamp := by
  unfold AssistantSegment.render
  split_ifs <;> rfl

theorem gate_readFrames {active : Nat} {volume : Option VolumeContext} (frames : Nat) {read : PeriodRead}
    (gate : Gate active (read.segments.map (·.stamp)) read.history) :
    Gate active ((PeriodRead.readFrames volume frames read).segments.map (·.stamp))
      (PeriodRead.readFrames volume frames read).history := by
  induction frames generalizing read with
  | zero => exact gate
  | succ frames ih =>
    apply ih
    rcases PeriodRead.readFrame_cases volume read with ⟨_, segments, _, history⟩ | ⟨front, rest, left, history, ends⟩
    · rw [segments, history]
      exact gate.shrink (List.nil_subset _)
    · have among : (front :: rest).map (·.stamp) ⊆ read.segments.map (·.stamp) := by
        rw [← left]
        exact ((List.dropWhile_sublist _).map _).subset
      have mixed : Gate active (front.stamp :: rest.map (·.stamp)) (.mixed front.id front.stamp volume :: read.history) :=
        (gate.shrink among).mix (.head _)
      rw [history]
      rcases ends with ⟨_, segments, _⟩ | ⟨_, segments, _⟩
      · rw [segments]
        exact mixed.shrink (List.subset_cons_self _ _)
      · rw [segments, List.map_cons, render_stamp]
        exact mixed

namespace TtsBridge

variable {bridge : TtsBridge}

def Gated (bridge : TtsBridge) : Prop :=
  Gate bridge.activeEpoch (bridge.core.assistant.map (·.stamp)) bridge.core.history

theorem gated_drainFlush (gated : bridge.Gated) {epoch : Nat} (forward : bridge.activeEpoch ≤ epoch) :
    (bridge.drainFlush epoch).Gated :=
  Gate.flush gated forward fun _ among => (List.mem_singleton.mp among).le

theorem gated_step (gated : bridge.Gated) (dacDelayFrames : Nat) : (bridge.step dacDelayFrames).Gated := by
  obtain ⟨pending, events, processed, closing⟩ := OutputCore.processDrainedPlaybacks_changes
    { bridge.core with assistant := bridge.core.prepareRead.segments, history := bridge.core.prepareRead.history }
    bridge.core.prepareRead.drained
  have rendered : Gate bridge.activeEpoch (bridge.core.prepareRead.segments.map (·.stamp))
      bridge.core.prepareRead.history := gate_readFrames bridge.core.periodFrames gated
  simp only [Gated, step, OutputCore.step, OutputCore.preparePeriod, OutputCore.commitPreparedPeriod, processed]
  exact rendered.quiet fun event among => TtsEvent.neutral_of_closes (closing event among)

theorem gated_closeOpenSegment (gated : bridge.Gated) : bridge.closeOpenSegment.Gated := by
  unfold closeOpenSegment
  split
  · exact gated
  next id _ =>
    obtain ⟨_, events, ended, closing⟩ := bridge.core.endAssistantSegment_changes id
    simp only [Gated, ended]
    exact Gate.quiet gated fun event among => TtsEvent.neutral_of_closes (closing event among)

theorem gated_appendOpen (gated : bridge.Gated) (chunk : Chunk) : (bridge.appendOpen bridge.activeEpoch chunk).Gated := by
  unfold appendOpen
  split
  · exact gated
  · simp only [Gated, OutputCore.appendAssistantAudioWithSegmentGain]
    split
    · exact gated
    · split_ifs
      · exact gated
      · rw [OutputCore.note, List.map_append]
        exact (Gate.push gated rfl).event rfl

theorem gated_acceptAudio (gated : bridge.Gated) (chunk : Chunk) (decision : AssistantGainDecision) :
    (bridge.acceptAudio bridge.activeEpoch chunk decision).Gated := by
  unfold acceptAudio openForAudio
  split_ifs
  · exact gated
  · exact @gated_appendOpen (bridge.startSegment none .assistant decision) gated chunk
  · exact gated_appendOpen gated chunk

theorem gated_updateVolumeContext (gated : bridge.Gated) (context : VolumeContext) :
    Gate bridge.activeEpoch ((bridge.core.updateVolumeContext context).1.assistant.map (·.stamp))
      (bridge.core.updateVolumeContext context).1.history := by
  unfold OutputCore.updateVolumeContext
  split
  · exact Gate.event gated rfl
  · exact gated

theorem gated_prepareContext (gated : bridge.Gated) (offered : Option VolumeContext) :
    (bridge.prepareContext offered).Gated := by
  unfold prepareContext
  split
  · exact gated
  next context =>
    have updated := gated_updateVolumeContext gated context
    split
    next core taken =>
      rw [taken] at updated
      exact updated
    next core rejected =>
      rw [rejected] at updated
      exact updated

theorem gated_takeCommand (gated : bridge.Gated) (queued : QueuedTtsCommand) (decision : AssistantGainDecision) :
    (bridge.takeCommand queued decision).Gated := by
  obtain ⟨epoch, command⟩ := queued
  unfold takeCommand
  split_ifs with stale
  · exact Gate.event gated rfl
  · cases command with
    | audioWide chunk =>
      have current : epoch = bridge.activeEpoch := by
        by_contra other
        exact stale ⟨other, rfl⟩
      subst current
      exact gated_acceptAudio gated chunk decision
    | prepareAssistant provider model voice envelope offered => exact gated_prepareContext gated offered
    | volumeContext context => exact gated_updateVolumeContext gated context
    | segmentStart kind providerItemId profile => exact gated_closeOpenSegment gated
    | segmentEnd => exact gated_closeOpenSegment gated
    | _ => exact gated

end TtsBridge

end Outputd

namespace Ipc

variable {Thread : Type} {daemon : Daemon Thread}

/-- The next flush request on the channel is no older than the last one processed. -/
def FlushInOrder (daemon : Daemon Thread) (state : Ipc Thread) : IpcAction → Prop
  | .takeFlush => ∀ epoch ∈ state.flushes.head?, daemon.activeEpoch state.thread ≤ epoch
  | _ => True

/-- Everything that a step does to the thread of the daemon. -/
theorem step_thread {state next : Ipc Thread} {action : IpcAction} (move : state.step daemon action = some next) :
    next.thread = state.thread ∨
    (∃ epoch ∈ state.flushes.head?, action = .takeFlush ∧ next.thread = daemon.takeFlush state.thread epoch) ∨
    (∃ taken, state.phase = .flushes taken ∧ next.thread = daemon.endFlushes state.thread taken) ∨
    (∃ queued ∈ state.commands.head?, ∃ decision, action = .takeCommand decision ∧
      next.thread = daemon.takeCommand state.thread queued decision) ∨
    ∃ size, next.thread = daemon.period state.thread size := by
  cases action with
  | read client command =>
    simp only [step, read] at move
    split at move <;> cases move
    exact .inl rfl
  | enqueue client =>
    simp only [step, enqueue] at move
    split at move
    · split_ifs at move <;> cases move <;> exact .inl rfl
    · cases move
  | bump client =>
    simp only [step, bump] at move
    split at move <;> cases move
    exact .inl rfl
  | send client =>
    simp only [step, send] at move
    split at move
    · split_ifs at move
      cases move
      exact .inl rfl
    · cases move
  | answered client =>
    simp only [step, answered] at move
    split at move <;> cases move
    exact .inl rfl
  | takeFlush =>
    simp only [step, takeFlush] at move
    split at move
    next taken epoch rest phase flushes =>
      cases move
      exact .inr (.inl ⟨epoch, by rw [flushes]; rfl, rfl, rfl⟩)
    next => cases move
  | endFlushes =>
    simp only [step, endFlushes] at move
    split at move
    next taken phase _ =>
      cases move
      exact .inr (.inr (.inl ⟨taken, phase, rfl⟩))
    next => cases move
  | takeCommand decision =>
    simp only [step, takeCommand] at move
    split at move
    next queued rest _ commands =>
      cases move
      exact .inr (.inr (.inr (.inl ⟨queued, by rw [commands]; rfl, decision, rfl, rfl⟩)))
    next => cases move
  | endCommands =>
    simp only [step, endCommands] at move
    split at move <;> cases move
    exact .inl rfl
  | period size =>
    simp only [step, period] at move
    split at move <;> cases move
    exact .inr (.inr (.inr (.inr ⟨size, rfl⟩)))

end Ipc

theorem fanin_gated {maxPendingFrames : Nat} {state : Ipc Fanin.TtsMixer}
    (reached : Reachable (Ipc.system fanin (.new maxPendingFrames)) state) : state.thread.Gated := by
  induction reached with
  | initial start =>
    cases start
    exact Gate.start
  | step _ move gated =>
    rcases Ipc.step_thread move with same | ⟨_, _, _, thread⟩ | ⟨taken, _, thread⟩ | ⟨queued, _, decision, _, thread⟩ |
      ⟨frames, thread⟩
    · rw [same]
      exact gated
    · rw [thread]
      exact gated
    · rw [thread]
      exact Fanin.TtsMixer.gated_drainFlushes gated taken
    · rw [thread]
      exact Fanin.TtsMixer.gated_takeCommand gated queued decision
    · rw [thread]
      exact Fanin.TtsMixer.gated_mixFrames frames gated

theorem outputd_gated {periodFrames maxPendingFrames : Nat} {state : Ipc Outputd.TtsBridge}
    (reached : Reachable ((Ipc.system outputd (.new periodFrames maxPendingFrames)).restrict
      (Ipc.FlushInOrder outputd)) state) : state.thread.Gated := by
  induction reached with
  | initial start =>
    cases start
    exact Gate.start
  | step _ move gated =>
    obtain ⟨ordered, move⟩ := move
    rcases Ipc.step_thread move with same | ⟨epoch, first, rfl, thread⟩ | ⟨_, _, thread⟩ |
      ⟨queued, _, decision, _, thread⟩ | ⟨dacDelayFrames, thread⟩
    · rw [same]
      exact gated
    · rw [thread]
      exact Outputd.TtsBridge.gated_drainFlush gated (ordered epoch first)
    · rw [thread]
      exact gated
    · rw [thread]
      exact Outputd.TtsBridge.gated_takeCommand gated queued decision
    · rw [thread]
      exact Outputd.TtsBridge.gated_step gated dacDelayFrames

theorem flushed_audio_is_never_mixed (periodFrames maxPendingFrames : Nat) :
    (∀ state, Reachable (Ipc.system fanin (.new maxPendingFrames)) state → state.thread.history.Pairwise Fresh) ∧
    ∀ state,
      Reachable ((Ipc.system outputd (.new periodFrames maxPendingFrames)).restrict (Ipc.FlushInOrder outputd)) state →
        state.thread.core.history.Pairwise Fresh := by
  constructor
  · intro state reached
    exact (fanin_gated reached).fresh
  · intro state reached
    exact (outputd_gated reached).fresh

instance {Thread : Type} (daemon : Daemon Thread) (state : Ipc Thread) (action : IpcAction) :
    Decidable (Ipc.FlushInOrder daemon state action) := by
  unfold Ipc.FlushInOrder
  split <;> infer_instance

def oneFrame : TtsCommand := .audioWide ⟨[1, 1], rfl⟩

-- Two clients flush; a third stamps its frame behind the first of the two flushes.
def orderedFlushes : List IpcAction :=
  [.read 3 (.volumeContext (contextAt 1 false)), .enqueue 3, .bump 0, .send 0, .read 2 oneFrame, .enqueue 2,
    .takeFlush, .endFlushes, .takeCommand ⟨⟨0⟩⟩, .takeCommand ⟨⟨0⟩⟩, .endCommands, .period 1, .bump 1, .send 1,
    .takeFlush, .endFlushes]

def crossedFlushes : List IpcAction :=
  [.read 3 (.volumeContext (contextAt 1 false)), .enqueue 3, .bump 0, .read 2 oneFrame, .bump 1, .send 1, .takeFlush,
    .send 0, .takeFlush, .endFlushes, .enqueue 2, .takeCommand ⟨⟨0⟩⟩, .takeCommand ⟨⟨0⟩⟩, .endCommands, .period 0]

theorem flushed_audio_is_never_mixed_between_two_flushes :
    (∃ state, Reachable (Ipc.system fanin (.new 96000)) state ∧
      state.thread.history = [.flushed 2, .mixed 1 1 (some (contextAt 1 false)), .queued 1 1 1,
        .accepted (contextAt 1 false), .flushed 1] ∧ state.thread.history.Pairwise Fresh) ∧
    ∃ state, Reachable ((Ipc.system outputd (.new 1 96000)).restrict (Ipc.FlushInOrder outputd)) state ∧
      state.thread.core.history = [.flushed 2, .mixed 1 1 (some (contextAt 1 false)), .queued 1 1 1,
        .accepted (contextAt 1 false), .flushed 1] ∧ state.thread.core.history.Pairwise Fresh := by
  have law := flushed_audio_is_never_mixed 1 96000
  constructor
  · have ends : (execute (Ipc.step fanin) (Ipc.start (.new 96000)) orderedFlushes).isSome = true := by decide
    obtain ⟨state, ran⟩ := Option.isSome_iff_exists.mp ends
    have history : ∀ state ∈ execute (Ipc.step fanin) (Ipc.start (.new 96000)) orderedFlushes,
        state.thread.history = [.flushed 2, .mixed 1 1 (some (contextAt 1 false)), .queued 1 1 1,
          .accepted (contextAt 1 false), .flushed 1] := by decide
    have reached : Reachable (Ipc.system fanin (.new 96000)) state := reachable_of_execute (by rfl) ran
    exact ⟨state, reached, history state ran, law.1 _ reached⟩
  · have ends : (execute (guarded (Ipc.FlushInOrder outputd) (Ipc.step outputd)) (Ipc.start (.new 1 96000))
        orderedFlushes).isSome = true := by decide
    obtain ⟨state, ran⟩ := Option.isSome_iff_exists.mp ends
    have history : ∀ state ∈ execute (guarded (Ipc.FlushInOrder outputd) (Ipc.step outputd))
        (Ipc.start (.new 1 96000)) orderedFlushes,
        state.thread.core.history = [.flushed 2, .mixed 1 1 (some (contextAt 1 false)), .queued 1 1 1,
          .accepted (contextAt 1 false), .flushed 1] := by decide
    have reached : Reachable ((Ipc.system outputd (.new 1 96000)).restrict (Ipc.FlushInOrder outputd)) state :=
      restricted_of_execute (by rfl) ran
    exact ⟨state, reached, history state ran, law.2 _ reached⟩

-- The first of two bumps is sent last: outputd goes back to its epoch and mixes what the second flushed.
theorem crossed_flushes_let_flushed_audio_through :
    ∃ state, Reachable (Ipc.system outputd (.new 1 96000)) state ∧
      state.thread.core.history = [.mixed 1 1 (some (contextAt 1 false)), .queued 1 1 1,
        .accepted (contextAt 1 false), .flushed 1, .flushed 2] ∧ ¬state.thread.core.history.Pairwise Fresh := by
  have ends : (execute (Ipc.step outputd) (Ipc.start (.new 1 96000)) crossedFlushes).isSome = true := by decide
  obtain ⟨state, ran⟩ := Option.isSome_iff_exists.mp ends
  have history : ∀ state ∈ execute (Ipc.step outputd) (Ipc.start (.new 1 96000)) crossedFlushes,
      state.thread.core.history = [.mixed 1 1 (some (contextAt 1 false)), .queued 1 1 1,
        .accepted (contextAt 1 false), .flushed 1, .flushed 2] := by decide
  have stale : ∀ state ∈ execute (Ipc.step outputd) (Ipc.start (.new 1 96000)) crossedFlushes,
      ¬state.thread.core.history.Pairwise Fresh := by decide
  exact ⟨state, reachable_of_execute (by rfl) ran, history state ran, stale state ran⟩

end Jts.Tts
