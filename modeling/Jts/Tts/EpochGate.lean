import Jts.Tts.FlushEpoch

set_option autoImplicit false

namespace Jts.Tts

open Jts.Shared.Transition
open Jts.Shared.Extremum (foldl_max_among)

/-- The history grows, by nothing that discards a command. -/
def Keeps (before after : List TtsEvent) : Prop :=
  ∃ events, after = events ++ before ∧ ∀ queued, .discarded queued ∉ events

namespace Keeps

variable {before after last : List TtsEvent}

theorem refl (history : List TtsEvent) : Keeps history history := ⟨[], rfl, by simp⟩

theorem single {event : TtsEvent} (history : List TtsEvent) (other : ∀ queued, event ≠ .discarded queued) :
    Keeps history (event :: history) :=
  ⟨[event], rfl, fun queued among => other queued (List.mem_singleton.mp among).symm⟩

theorem closing {events : List TtsEvent} (history : List TtsEvent) (closing : ∀ event ∈ events, event.closes = true) :
    Keeps history (events ++ history) :=
  ⟨events, rfl, fun _ among => by cases closing _ among⟩

theorem trans (first : Keeps before after) (second : Keeps after last) : Keeps before last := by
  obtain ⟨events, rfl, none_⟩ := first
  obtain ⟨later, rfl, noneLater⟩ := second
  exact ⟨later ++ events, (List.append_assoc _ _ _).symm, fun queued among =>
    (List.mem_append.mp among).elim (noneLater queued) (none_ queued)⟩

theorem discarded (keeps : Keeps before after) {queued : QueuedTtsCommand} (among : .discarded queued ∈ after) :
    .discarded queued ∈ before := by
  obtain ⟨events, rfl, none_⟩ := keeps
  exact (List.mem_append.mp among).resolve_left (none_ queued)

end Keeps

/-- The command is stale for a thread at this epoch. -/
def Stale (active : Nat) (queued : QueuedTtsCommand) : Prop :=
  queued.epoch ≠ active ∧ queued.command.isRestore = false

namespace Fanin.TtsMixer

variable {mixer : TtsMixer}

theorem keeps_applyVolumeContext (context : VolumeContext) :
    (mixer.applyVolumeContext context).activeEpoch = mixer.activeEpoch ∧
      Keeps mixer.history (mixer.applyVolumeContext context).history := by
  unfold applyVolumeContext
  split
  · exact ⟨rfl, .single _ (by simp)⟩
  · exact ⟨rfl, .refl _⟩

theorem keeps_acceptAudio (stamp : Nat) (chunk : Chunk) (decision : AssistantGainDecision) :
    (mixer.acceptAudio stamp chunk decision).activeEpoch = mixer.activeEpoch ∧
      Keeps mixer.history (mixer.acceptAudio stamp chunk decision).history := by
  unfold acceptAudio openSegment
  split_ifs
  · exact ⟨rfl, .refl _⟩
  · exact ⟨rfl, .refl _⟩
  · exact ⟨rfl, .single _ (by simp)⟩
  · exact ⟨rfl, .single _ (by simp)⟩

theorem takeCommand_discards (queued : QueuedTtsCommand) (decision : AssistantGainDecision) :
    (mixer.takeCommand queued decision).activeEpoch = mixer.activeEpoch ∧
      ((Stale mixer.activeEpoch queued ∧ (mixer.takeCommand queued decision).history =
        .discarded queued :: mixer.history) ∨
      Keeps mixer.history (mixer.takeCommand queued decision).history) := by
  obtain ⟨epoch, command⟩ := queued
  unfold takeCommand
  split_ifs with stale
  · exact ⟨rfl, .inl ⟨stale, rfl⟩⟩
  · cases command with
    | audioWide chunk => exact (keeps_acceptAudio epoch chunk decision).imp_right .inr
    | prepareAssistant provider model voice envelope offered =>
      cases offered with
      | none => exact ⟨rfl, .inr (.refl _)⟩
      | some context => exact (keeps_applyVolumeContext context).imp_right .inr
    | volumeContext context => exact (keeps_applyVolumeContext context).imp_right .inr
    | segmentEnd =>
      obtain ⟨_, _, _, events, ended, _, closing⟩ := endSegment_changes mixer
      simp only [ended]
      exact ⟨rfl, .inr (.closing _ closing)⟩
    | _ => exact ⟨rfl, .inr (.refl _)⟩

theorem keeps_mixFrames (frames : Nat) : (mixFrames frames mixer).activeEpoch = mixer.activeEpoch ∧
    Keeps mixer.history (mixFrames frames mixer).history := by
  induction frames generalizing mixer with
  | zero => exact ⟨rfl, .refl _⟩
  | succ frames ih =>
    have one : mixer.mixFrame.activeEpoch = mixer.activeEpoch ∧ Keeps mixer.history mixer.mixFrame.history := by
      rcases mixFrame_cases mixer with ⟨_, idle⟩ | ⟨front, rest, _, _, _, events, among, mixed⟩
      · rw [idle]
        exact ⟨rfl, .refl _⟩
      · rw [mixed]
        have closing : ∀ event ∈ events, event.closes = true := by
          intro event here
          simp only [List.mem_cons, List.not_mem_nil, or_false] at among
          rcases among with rfl | rfl
          · cases here
          · rw [List.mem_singleton.mp here]
            rfl
        exact ⟨rfl, (Keeps.single _ (by simp)).trans (.closing _ closing)⟩
    exact ⟨ih.1.trans one.1, one.2.trans ih.2⟩

theorem keeps_drainFlushes (epochs : List Nat) : (mixer.drainFlushes epochs).activeEpoch =
    epochs.foldl max mixer.activeEpoch ∧ Keeps mixer.history (mixer.drainFlushes epochs).history := by
  unfold drainFlushes
  split_ifs with none_
  · rw [none_]
    exact ⟨rfl, .refl _⟩
  · exact ⟨rfl, _, rfl, by simp⟩

end Fanin.TtsMixer

namespace Outputd.TtsBridge

variable {bridge : TtsBridge}

theorem keeps_updateVolumeContext (core : OutputCore) (context : VolumeContext) :
    Keeps core.history (core.updateVolumeContext context).1.history := by
  unfold OutputCore.updateVolumeContext
  split
  · exact .single _ (by simp)
  · exact .refl _

theorem keeps_prepareContext (offered : Option VolumeContext) :
    (bridge.prepareContext offered).activeEpoch = bridge.activeEpoch ∧
      Keeps bridge.core.history (bridge.prepareContext offered).core.history := by
  unfold prepareContext
  split
  · exact ⟨rfl, .refl _⟩
  next context =>
    have updated := keeps_updateVolumeContext bridge.core context
    split
    next core taken =>
      rw [taken] at updated
      exact ⟨rfl, updated⟩
    next core rejected =>
      rw [rejected] at updated
      exact ⟨rfl, updated⟩

theorem keeps_closeOpenSegment : bridge.closeOpenSegment.activeEpoch = bridge.activeEpoch ∧
    Keeps bridge.core.history bridge.closeOpenSegment.core.history := by
  unfold closeOpenSegment
  split
  · exact ⟨rfl, .refl _⟩
  next id _ =>
    obtain ⟨_, events, ended, closing⟩ := bridge.core.endAssistantSegment_changes id
    simp only [ended]
    exact ⟨trivial, .closing _ closing⟩

theorem keeps_appendOpen (stamp : Nat) (chunk : Chunk) :
    (bridge.appendOpen stamp chunk).activeEpoch = bridge.activeEpoch ∧
      Keeps bridge.core.history (bridge.appendOpen stamp chunk).core.history := by
  unfold appendOpen
  split
  · exact ⟨rfl, .refl _⟩
  · simp only [OutputCore.appendAssistantAudioWithSegmentGain]
    split
    · exact ⟨trivial, .refl _⟩
    · split_ifs
      · exact ⟨trivial, .refl _⟩
      · exact ⟨trivial, .single _ (by simp)⟩

theorem keeps_acceptAudio (stamp : Nat) (chunk : Chunk) (decision : AssistantGainDecision) :
    (bridge.acceptAudio stamp chunk decision).activeEpoch = bridge.activeEpoch ∧
      Keeps bridge.core.history (bridge.acceptAudio stamp chunk decision).core.history := by
  unfold acceptAudio openForAudio
  split_ifs
  · exact ⟨rfl, .refl _⟩
  · exact @keeps_appendOpen (bridge.startSegment none .assistant decision) stamp chunk
  · exact keeps_appendOpen stamp chunk

theorem takeCommand_discards (queued : QueuedTtsCommand) (decision : AssistantGainDecision) :
    (bridge.takeCommand queued decision).activeEpoch = bridge.activeEpoch ∧
      ((Stale bridge.activeEpoch queued ∧ (bridge.takeCommand queued decision).core.history =
        .discarded queued :: bridge.core.history) ∨
      Keeps bridge.core.history (bridge.takeCommand queued decision).core.history) := by
  obtain ⟨epoch, command⟩ := queued
  unfold takeCommand
  split_ifs with stale
  · exact ⟨rfl, .inl ⟨stale, rfl⟩⟩
  · cases command with
    | audioWide chunk => exact (keeps_acceptAudio epoch chunk decision).imp_right .inr
    | prepareAssistant provider model voice envelope offered => exact (keeps_prepareContext offered).imp_right .inr
    | volumeContext context => exact ⟨rfl, .inr (keeps_updateVolumeContext bridge.core context)⟩
    | segmentStart kind providerItemId profile => exact keeps_closeOpenSegment.imp_right .inr
    | segmentEnd => exact keeps_closeOpenSegment.imp_right .inr
    | _ => exact ⟨rfl, .inr (.refl _)⟩

theorem keeps_readFrames (volume : Option VolumeContext) (frames : Nat) (read : PeriodRead) :
    Keeps read.history (PeriodRead.readFrames volume frames read).history := by
  induction frames generalizing read with
  | zero => exact .refl _
  | succ frames ih =>
    have one : Keeps read.history (read.readFrame volume).history := by
      rcases PeriodRead.readFrame_cases volume read with ⟨_, _, _, history⟩ | ⟨_, _, _, history, _⟩
      · rw [history]
        exact .refl _
      · rw [history]
        exact .single _ (by simp)
    exact one.trans (ih _)

theorem keeps_step (dacDelayFrames : Nat) : (bridge.step dacDelayFrames).activeEpoch = bridge.activeEpoch ∧
    Keeps bridge.core.history (bridge.step dacDelayFrames).core.history := by
  obtain ⟨pending, events, processed, closing⟩ := OutputCore.processDrainedPlaybacks_changes
    { bridge.core with assistant := bridge.core.prepareRead.segments, history := bridge.core.prepareRead.history }
    bridge.core.prepareRead.drained
  have rendered : Keeps bridge.core.history bridge.core.prepareRead.history := keeps_readFrames _ _ _
  simp only [step, OutputCore.step, OutputCore.preparePeriod, OutputCore.commitPreparedPeriod, processed]
  exact ⟨trivial, rendered.trans (.closing _ closing)⟩

end Outputd.TtsBridge

/-- What the gate of either daemon does to the active epoch and to the discarded commands. -/
structure Daemon.Lawful {Thread : Type} (daemon : Daemon Thread) : Prop where
  takeFlush : ∀ thread epoch,
    (daemon.activeEpoch (daemon.takeFlush thread epoch) = daemon.activeEpoch thread ∨
      daemon.activeEpoch (daemon.takeFlush thread epoch) = epoch) ∧
    Keeps (daemon.history thread) (daemon.history (daemon.takeFlush thread epoch))
  endFlushes : ∀ thread taken,
    (daemon.activeEpoch (daemon.endFlushes thread taken) = daemon.activeEpoch thread ∨
      daemon.activeEpoch (daemon.endFlushes thread taken) ∈ taken) ∧
    Keeps (daemon.history thread) (daemon.history (daemon.endFlushes thread taken))
  takeCommand : ∀ thread queued decision,
    daemon.activeEpoch (daemon.takeCommand thread queued decision) = daemon.activeEpoch thread ∧
    ((Stale (daemon.activeEpoch thread) queued ∧ daemon.history (daemon.takeCommand thread queued decision) =
      .discarded queued :: daemon.history thread) ∨
    Keeps (daemon.history thread) (daemon.history (daemon.takeCommand thread queued decision)))
  period : ∀ thread size, daemon.activeEpoch (daemon.period thread size) = daemon.activeEpoch thread ∧
    Keeps (daemon.history thread) (daemon.history (daemon.period thread size))

theorem fanin_lawful : fanin.Lawful where
  takeFlush := fun _ _ => ⟨.inl rfl, .refl _⟩
  endFlushes := by
    intro mixer taken
    obtain ⟨active, keeps⟩ := @Fanin.TtsMixer.keeps_drainFlushes mixer taken
    have newest := foldl_max_among taken mixer.activeEpoch
    rw [← active] at newest
    exact ⟨newest, keeps⟩
  takeCommand := fun _ queued decision => Fanin.TtsMixer.takeCommand_discards queued decision
  period := fun _ frames => Fanin.TtsMixer.keeps_mixFrames frames

theorem outputd_lawful : outputd.Lawful where
  takeFlush := fun _ _ => ⟨.inr rfl, .single _ (by simp)⟩
  endFlushes := fun _ _ => ⟨.inl rfl, .refl _⟩
  takeCommand := fun _ queued decision => Outputd.TtsBridge.takeCommand_discards queued decision
  period := fun bridge dacDelayFrames => @Outputd.TtsBridge.keeps_step bridge dacDelayFrames

def Client.Below (epoch : Nat) : Client → Prop
  | .loaded queued => queued.epoch ≤ epoch
  | .bumped own => own ≤ epoch
  | _ => True

theorem Client.Below.mono {client : Client} {epoch later : Nat} (below : client.Below epoch) (after : epoch ≤ later) :
    client.Below later := by
  cases client with
  | loaded queued => exact below.trans after
  | bumped own => exact below.trans after
  | _ => trivial

namespace Ipc

variable {Thread : Type} {daemon : Daemon Thread} {state next : Ipc Thread}

-- The epochs issued so far are 1, 2, .., up to the shared counter.
def Issued (state : Ipc Thread) (epoch : Nat) : Prop := 1 ≤ epoch ∧ epoch ≤ state.epoch

/-- Every epoch that is around has been issued. -/
structure Stamped (daemon : Daemon Thread) (state : Ipc Thread) : Prop where
  clients : ∀ client, (state.clients client).Below state.epoch
  commands : ∀ queued ∈ state.commands, queued.epoch ≤ state.epoch
  flushes : ∀ epoch ∈ state.flushes, epoch ≤ state.epoch
  taken : ∀ taken, state.phase = .flushes taken → ∀ epoch ∈ taken, epoch ≤ state.epoch
  active : daemon.activeEpoch state.thread ≤ state.epoch

theorem clients_set {client : Nat} {now : Client} (stamped : Stamped daemon state) (below : now.Below state.epoch)
    (other : Nat) : ((state.set client now).clients other).Below state.epoch := by
  by_cases same : other = client
  · subst same
    simp only [set, Function.update_self]
    exact below
  · simp only [set, Function.update_of_ne same]
    exact stamped.clients other

theorem Stamped.step (stamped : Stamped daemon state) (lawful : daemon.Lawful) {action : IpcAction}
    (move : state.step daemon action = some next) : Stamped daemon next := by
  cases action with
  | read client command =>
    simp only [Ipc.step, read] at move
    split at move <;> cases move
    exact { stamped with clients := clients_set stamped (Nat.le_refl _) }
  | enqueue client =>
    simp only [Ipc.step, enqueue] at move
    split at move
    next queued loaded =>
      have below : queued.epoch ≤ state.epoch := by
        have own := stamped.clients client
        rw [loaded] at own
        exact own
      split_ifs at move
      · cases move
        refine { stamped with clients := clients_set stamped trivial, commands := fun other among => ?_ }
        rcases List.mem_append.mp among with here | here
        · exact stamped.commands other here
        · rw [List.mem_singleton.mp here]
          exact below
      · cases move
        exact { stamped with clients := clients_set stamped trivial }
    next => cases move
  | bump client =>
    simp only [Ipc.step, bump] at move
    split at move <;> cases move
    have after := Nat.le_succ state.epoch
    refine {
      clients := fun other => ?_
      commands := fun queued among => (stamped.commands queued among).trans after
      flushes := fun epoch among => (stamped.flushes epoch among).trans after
      taken := fun taken phase epoch among => (stamped.taken taken phase epoch among).trans after
      active := stamped.active.trans after }
    by_cases same : other = client
    · subst same
      simp only [set, Function.update_self]
      exact Nat.le_refl _
    · simp only [set, Function.update_of_ne same]
      exact (stamped.clients other).mono after
  | send client =>
    simp only [Ipc.step, send] at move
    split at move
    next epoch bumped =>
      have below : epoch ≤ state.epoch := by
        have own := stamped.clients client
        rw [bumped] at own
        exact own
      split_ifs at move
      cases move
      refine { stamped with clients := clients_set stamped trivial, flushes := fun other among => ?_ }
      rcases List.mem_append.mp among with here | here
      · exact stamped.flushes other here
      · rw [List.mem_singleton.mp here]
        exact below
    next => cases move
  | answered client =>
    simp only [Ipc.step, answered] at move
    split at move <;> cases move
    exact { stamped with clients := clients_set stamped trivial }
  | takeFlush =>
    simp only [Ipc.step, takeFlush] at move
    split at move
    next taken epoch rest phase flushes =>
      cases move
      have here : epoch ≤ state.epoch := stamped.flushes epoch (by rw [flushes]; exact .head _)
      refine {
        clients := stamped.clients
        commands := stamped.commands
        flushes := fun other among => stamped.flushes other (by rw [flushes]; exact .tail _ among)
        taken := fun now same other among => ?_
        active := ?_ }
      · cases same
        rcases List.mem_append.mp among with old | new
        · exact stamped.taken taken phase other old
        · rw [List.mem_singleton.mp new]
          exact here
      · rcases (lawful.takeFlush state.thread epoch).1 with same | same
        · exact same.le.trans stamped.active
        · exact same.le.trans here
    next => cases move
  | endFlushes =>
    simp only [Ipc.step, endFlushes] at move
    split at move
    next taken phase flushes =>
      cases move
      refine { stamped with taken := fun _ other => (by cases other), active := ?_ }
      rcases (lawful.endFlushes state.thread taken).1 with same | among
      · exact same.le.trans stamped.active
      · exact stamped.taken taken phase _ among
    next => cases move
  | takeCommand decision =>
    simp only [Ipc.step, takeCommand] at move
    split at move
    next queued rest phase commands =>
      cases move
      exact { stamped with
        commands := fun other among => stamped.commands other (by rw [commands]; exact .tail _ among)
        active := (lawful.takeCommand state.thread queued decision).1.le.trans stamped.active }
    next => cases move
  | endCommands =>
    simp only [Ipc.step, endCommands] at move
    split at move <;> cases move
    exact { stamped with taken := fun _ other => (by cases other) }
  | period size =>
    simp only [Ipc.step, period] at move
    split at move <;> cases move
    refine { stamped with
      taken := fun taken same epoch among => ?_
      active := (lawful.period state.thread size).1.le.trans stamped.active }
    cases same
    cases among

theorem stamped_start {thread : Thread} (fresh : daemon.activeEpoch thread = 0) : Stamped daemon (start thread) where
  clients := fun _ => trivial
  commands := by simp [start]
  flushes := by simp [start]
  taken := by
    rintro _ ⟨rfl⟩ epoch among
    cases among
  active := fresh.le

theorem stamped_reachable {thread : Thread} (lawful : daemon.Lawful) (fresh : daemon.activeEpoch thread = 0)
    (reached : Reachable (system daemon thread) state) : Stamped daemon state := by
  induction reached with
  | initial start =>
    cases start
    exact stamped_start fresh
  | step _ move ih => exact ih.step lawful move

theorem epoch_mono {action : IpcAction} (move : state.step daemon action = some next) : state.epoch ≤ next.epoch := by
  cases action with
  | enqueue client =>
    simp only [step, enqueue] at move
    split at move
    · split_ifs at move <;> cases move <;> exact Nat.le_refl _
    · cases move
  | send client =>
    simp only [step, send] at move
    split at move
    · split_ifs at move
      cases move
      exact Nat.le_refl _
    · cases move
  | bump client =>
    simp only [step, bump] at move
    split at move <;> cases move
    exact Nat.le_succ _
  | _ =>
    simp only [step, read, answered, takeFlush, endFlushes, takeCommand, endCommands, period] at move
    split at move <;> cases move
    exact Nat.le_refl _

/-- The next gated command does not carry the newest epoch ahead of the flush that issued it. -/
def CommandInOrder (daemon : Daemon Thread) (state : Ipc Thread) : IpcAction → Prop
  | .takeCommand _ => ∀ queued ∈ state.commands.head?, queued.command.isRestore = false →
      queued.epoch = state.epoch → daemon.activeEpoch state.thread = state.epoch
  | _ => True

-- Whatever is discarded, a larger epoch had been issued.
theorem discarded_reachable {thread : Thread} (lawful : daemon.Lawful) (fresh : daemon.activeEpoch thread = 0)
    (blank : daemon.history thread = [])
    (reached : Reachable ((system daemon thread).restrict (CommandInOrder daemon)) state) (queued : QueuedTtsCommand)
    (among : .discarded queued ∈ daemon.history state.thread) : queued.epoch < state.epoch := by
  induction reached with
  | initial start =>
    cases start
    rw [Ipc.start, blank] at among
    cases among
  | @step state next action before move ih =>
    obtain ⟨ordered, move⟩ := move
    have stamped := stamped_reachable lawful fresh before.of_restrict
    have later := epoch_mono move
    rcases step_thread move with same | ⟨epoch, _, _, thread⟩ | ⟨taken, _, thread⟩ | ⟨taking, first, decision, rfl, thread⟩ |
      ⟨size, thread⟩
    · rw [same] at among
      exact (ih among).trans_le later
    · rw [thread] at among
      exact (ih ((lawful.takeFlush state.thread epoch).2.discarded among)).trans_le later
    · rw [thread] at among
      exact (ih ((lawful.endFlushes state.thread taken).2.discarded among)).trans_le later
    · rw [thread] at among
      rcases (lawful.takeCommand state.thread taking decision).2 with ⟨stale, history⟩ | keeps
      · rw [history] at among
        rcases List.mem_cons.mp among with same | among
        · cases same
          have below := stamped.commands queued (List.mem_of_mem_head? first)
          have newest := ordered queued first stale.2
          have other := stale.1
          omega
        · exact (ih among).trans_le later
      · exact (ih (keeps.discarded among)).trans_le later
    · rw [thread] at among
      exact (ih ((lawful.period state.thread size).2.discarded among)).trans_le later

/-- Every flush that has been issued has been processed. -/
def AllProcessed (daemon : Daemon Thread) (state : Ipc Thread) : Prop :=
  ∀ epoch, state.Issued epoch → .flushed epoch ∈ daemon.history state.thread

theorem active_of_allProcessed (stamped : Stamped daemon state) (processed : AllProcessed daemon state)
    (flushed : ∀ epoch, .flushed epoch ∈ daemon.history state.thread → epoch ≤ daemon.activeEpoch state.thread) :
    daemon.activeEpoch state.thread = state.epoch := by
  have below := stamped.active
  by_cases none_ : state.epoch = 0
  · omega
  · have newest := flushed state.epoch (processed state.epoch ⟨by omega, Nat.le_refl _⟩)
    omega

end Ipc

/-- The gate law of a daemon in a state: no discard without a newer flush, and the newest epoch once all is
processed. -/
structure GateLaw {Thread : Type} (daemon : Daemon Thread) (state : Ipc Thread) : Prop where
  discarded : ∀ queued, .discarded queued ∈ daemon.history state.thread →
    ∃ epoch, state.Issued epoch ∧ queued.epoch < epoch
  settled : Ipc.AllProcessed daemon state → daemon.activeEpoch state.thread = state.epoch
  accepted : Ipc.AllProcessed daemon state → ∀ queued : QueuedTtsCommand, queued.epoch = state.epoch →
    ¬Stale (daemon.activeEpoch state.thread) queued

theorem gateLaw_of {Thread : Type} {daemon : Daemon Thread} {state : Ipc Thread}
    (discarded : ∀ queued, .discarded queued ∈ daemon.history state.thread → queued.epoch < state.epoch)
    (settled : Ipc.AllProcessed daemon state → daemon.activeEpoch state.thread = state.epoch) :
    GateLaw daemon state where
  discarded := fun queued among => by
    have below := discarded queued among
    exact ⟨state.epoch, ⟨by omega, Nat.le_refl _⟩, below⟩
  settled := settled
  accepted := fun processed queued newest stale => stale.1 (newest.trans (settled processed).symm)

theorem post_flush_commands_pass_the_gate (periodFrames maxPendingFrames : Nat) :
    (∀ state, Reachable ((Ipc.system fanin (.new maxPendingFrames)).restrict (Ipc.CommandInOrder fanin)) state →
      GateLaw fanin state) ∧
    ∀ state,
      Reachable ((Ipc.system outputd (.new periodFrames maxPendingFrames)).restrict fun state action =>
        Ipc.FlushInOrder outputd state action ∧ Ipc.CommandInOrder outputd state action) state →
          GateLaw outputd state := by
  constructor
  · intro state reached
    have stamped := Ipc.stamped_reachable fanin_lawful rfl reached.of_restrict
    have gated := fanin_gated reached.of_restrict
    apply gateLaw_of
    · exact Ipc.discarded_reachable fanin_lawful rfl rfl reached
    · exact fun processed => Ipc.active_of_allProcessed stamped processed gated.flushed
  · intro state reached
    have stamped := Ipc.stamped_reachable outputd_lawful rfl reached.of_restrict
    have gated := outputd_gated (reached.weaken fun _ _ both => both.1)
    apply gateLaw_of
    · exact Ipc.discarded_reachable outputd_lawful rfl rfl (reached.weaken fun _ _ both => both.2)
    · exact fun processed => Ipc.active_of_allProcessed stamped processed gated.flushed

instance {Thread : Type} (daemon : Daemon Thread) (state : Ipc Thread) (action : IpcAction) :
    Decidable (Ipc.CommandInOrder daemon state action) := by
  unfold Ipc.CommandInOrder
  split <;> infer_instance

-- A frame stamped before a flush reaches the channel after it.
def lateFrame : List IpcAction :=
  [.read 2 oneFrame, .bump 0, .send 0, .takeFlush, .endFlushes, .enqueue 2, .takeCommand ⟨⟨0⟩⟩]

-- A segment opened behind a flush that has been issued and not yet sent.
def earlySegment : List IpcAction :=
  [.bump 0, .read 1 (.segmentStart .assistant none none), .enqueue 1, .endFlushes, .takeCommand ⟨⟨0⟩⟩]

theorem post_flush_commands_pass_the_gate_after_a_late_frame :
    (∃ state, Reachable ((Ipc.system fanin (.new 96000)).restrict (Ipc.CommandInOrder fanin)) state ∧
      state.thread.history = [.discarded ⟨0, oneFrame⟩, .flushed 1] ∧ GateLaw fanin state) ∧
    ∃ state, Reachable ((Ipc.system outputd (.new 1 96000)).restrict fun state action =>
        Ipc.FlushInOrder outputd state action ∧ Ipc.CommandInOrder outputd state action) state ∧
      state.thread.core.history = [.discarded ⟨0, oneFrame⟩, .flushed 1] ∧ GateLaw outputd state := by
  have law := post_flush_commands_pass_the_gate 1 96000
  constructor
  · have ends : (execute (guarded (Ipc.CommandInOrder fanin) (Ipc.step fanin)) (Ipc.start (.new 96000))
        lateFrame).isSome = true := by decide
    obtain ⟨state, ran⟩ := Option.isSome_iff_exists.mp ends
    have history : ∀ state ∈ execute (guarded (Ipc.CommandInOrder fanin) (Ipc.step fanin)) (Ipc.start (.new 96000))
        lateFrame, state.thread.history = [.discarded ⟨0, oneFrame⟩, .flushed 1] := by decide
    have reached : Reachable ((Ipc.system fanin (.new 96000)).restrict (Ipc.CommandInOrder fanin)) state :=
      restricted_of_execute (by rfl) ran
    exact ⟨state, reached, history state ran, law.1 _ reached⟩
  · have ends : (execute (guarded (fun state action => Ipc.FlushInOrder outputd state action ∧
        Ipc.CommandInOrder outputd state action) (Ipc.step outputd)) (Ipc.start (.new 1 96000)) lateFrame).isSome =
          true := by decide
    obtain ⟨state, ran⟩ := Option.isSome_iff_exists.mp ends
    have history : ∀ state ∈ execute (guarded (fun state action => Ipc.FlushInOrder outputd state action ∧
        Ipc.CommandInOrder outputd state action) (Ipc.step outputd)) (Ipc.start (.new 1 96000)) lateFrame,
        state.thread.core.history = [.discarded ⟨0, oneFrame⟩, .flushed 1] := by decide
    have reached : Reachable ((Ipc.system outputd (.new 1 96000)).restrict fun state action =>
        Ipc.FlushInOrder outputd state action ∧ Ipc.CommandInOrder outputd state action) state :=
      restricted_of_execute (by rfl) ran
    exact ⟨state, reached, history state ran, law.2 _ reached⟩

-- The segment carries the newest epoch; its flush is still with the client, and both gates throw the segment away.
theorem segment_behind_an_unsent_flush_is_discarded :
    (∃ state, Reachable (Ipc.system fanin (.new 96000)) state ∧
      .discarded ⟨1, .segmentStart .assistant none none⟩ ∈ state.thread.history ∧
        ¬∃ epoch, state.Issued epoch ∧ 1 < epoch) ∧
    ∃ state, Reachable (Ipc.system outputd (.new 1 96000)) state ∧
      .discarded ⟨1, .segmentStart .assistant none none⟩ ∈ state.thread.core.history ∧
        ¬∃ epoch, state.Issued epoch ∧ 1 < epoch := by
  constructor
  · have ends : (execute (Ipc.step fanin) (Ipc.start (.new 96000)) earlySegment).isSome = true := by decide
    obtain ⟨state, ran⟩ := Option.isSome_iff_exists.mp ends
    have facts : ∀ state ∈ execute (Ipc.step fanin) (Ipc.start (.new 96000)) earlySegment,
        .discarded ⟨1, .segmentStart .assistant none none⟩ ∈ state.thread.history ∧ state.epoch = 1 := by decide
    obtain ⟨discarded, newest⟩ := facts state ran
    refine ⟨state, reachable_of_execute (by rfl) ran, discarded, ?_⟩
    rintro ⟨epoch, issued, larger⟩
    have below := issued.2
    omega
  · have ends : (execute (Ipc.step outputd) (Ipc.start (.new 1 96000)) earlySegment).isSome = true := by decide
    obtain ⟨state, ran⟩ := Option.isSome_iff_exists.mp ends
    have facts : ∀ state ∈ execute (Ipc.step outputd) (Ipc.start (.new 1 96000)) earlySegment,
        .discarded ⟨1, .segmentStart .assistant none none⟩ ∈ state.thread.core.history ∧ state.epoch = 1 := by decide
    obtain ⟨discarded, newest⟩ := facts state ran
    refine ⟨state, reachable_of_execute (by rfl) ran, discarded, ?_⟩
    rintro ⟨epoch, issued, larger⟩
    have below := issued.2
    omega

end Jts.Tts
