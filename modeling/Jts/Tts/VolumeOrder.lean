import Jts.Tts.Bridge
import Jts.Shared.Transition

set_option autoImplicit false

namespace Jts.Tts

open Jts.Shared.Transition

theorem acceptedStamps_append (newer older : List TtsEvent) :
    acceptedStamps (newer ++ older) = acceptedStamps newer ++ acceptedStamps older :=
  List.filterMap_append

theorem acceptedStamps_closing {events : List TtsEvent} (closing : ∀ event ∈ events, event.closes = true) :
    acceptedStamps events = [] := by
  unfold acceptedStamps
  apply List.filterMap_eq_nil_iff.mpr
  intro event among
  have closes := closing event among
  cases event <;> simp [TtsEvent.closes] at closes ⊢

theorem acceptedStamps_flushed (epochs : List Nat) : acceptedStamps (epochs.map .flushed) = [] := by
  induction epochs with
  | nil => rfl
  | cons epoch rest ih => exact ih

/-- The held context is the newest of those that took effect. -/
structure HeldNewest (loudness : AssistantLoudness) (history : List TtsEvent) : Prop where
  ordered : (acceptedStamps history).Pairwise fun newer older => older ≤ newer
  newest : ∀ stamp ∈ acceptedStamps history,
    ∃ held, loudness.currentVolumeContext = some held ∧ stamp ≤ held.stampBootNs

variable {loudness : AssistantLoudness} {history events : List TtsEvent} {context : VolumeContext}

theorem heldNewest_start : HeldNewest ⟨none⟩ [] where
  ordered := .nil
  newest := by simp [acceptedStamps]

theorem HeldNewest.quiet (held : HeldNewest loudness history) (quiet : acceptedStamps events = []) :
    HeldNewest loudness (events ++ history) where
  ordered := by rw [acceptedStamps_append, quiet]; exact held.ordered
  newest := by rw [acceptedStamps_append, quiet]; exact held.newest

theorem HeldNewest.quietEvent {event : TtsEvent} (held : HeldNewest loudness history)
    (quiet : acceptedStamps [event] = []) : HeldNewest loudness (event :: history) :=
  held.quiet quiet

theorem updateVolumeContext_accepted {next : AssistantLoudness}
    (accepted : loudness.updateVolumeContext context = (next, true)) :
    next.currentVolumeContext = some context ∧
      ∀ held, loudness.currentVolumeContext = some held → held.stampBootNs ≤ context.stampBootNs := by
  unfold AssistantLoudness.updateVolumeContext at accepted
  split_ifs at accepted with usable
  · cases accepted
    simp only [Bool.and_eq_true] at usable
    refine ⟨rfl, fun held current => ?_⟩
    have newer := usable.2
    rw [current] at newer
    simpa using newer
  · cases accepted

theorem HeldNewest.accept {next : AssistantLoudness} (held : HeldNewest loudness history)
    (accepted : loudness.updateVolumeContext context = (next, true)) :
    HeldNewest next (.accepted context :: history) := by
  obtain ⟨now, guard⟩ := updateVolumeContext_accepted accepted
  have older : ∀ stamp ∈ acceptedStamps history, stamp ≤ context.stampBootNs := by
    intro stamp among
    obtain ⟨before, current, below⟩ := held.newest stamp among
    exact Nat.le_trans below (guard before current)
  have stamps : acceptedStamps (.accepted context :: history) = context.stampBootNs :: acceptedStamps history := rfl
  constructor
  · rw [stamps]
    exact .cons older held.ordered
  · rw [stamps]
    intro stamp among
    rcases List.mem_cons.mp among with same | among
    · exact ⟨context, now, Nat.le_of_eq same⟩
    · exact ⟨context, now, older stamp among⟩

namespace Fanin

def system (maxPendingFrames : Nat) : System TtsMixer TtsAction :=
  ofAct (· = .new maxPendingFrames) TtsMixer.act

namespace TtsMixer

variable {mixer : TtsMixer}

theorem heldNewest_applyVolumeContext (held : HeldNewest mixer.loudness mixer.history) (context : VolumeContext) :
    HeldNewest (mixer.applyVolumeContext context).loudness (mixer.applyVolumeContext context).history := by
  unfold applyVolumeContext
  split
  next next accepted => exact held.accept accepted
  next => exact held

theorem heldNewest_acceptAudio (held : HeldNewest mixer.loudness mixer.history) (stamp : Nat) (chunk : Chunk)
    (decision : AssistantGainDecision) :
    HeldNewest (mixer.acceptAudio stamp chunk decision).loudness (mixer.acceptAudio stamp chunk decision).history := by
  unfold acceptAudio openSegment
  split_ifs
  · exact held
  · exact held
  · exact held.quietEvent rfl
  · exact held.quietEvent rfl

theorem heldNewest_takeCommand (held : HeldNewest mixer.loudness mixer.history) (queued : QueuedTtsCommand)
    (decision : AssistantGainDecision) :
    HeldNewest (mixer.takeCommand queued decision).loudness (mixer.takeCommand queued decision).history := by
  unfold takeCommand
  split_ifs
  · exact held.quietEvent rfl
  · split
    next => exact held
    next => exact heldNewest_acceptAudio held _ _ _
    next => exact held
    next => exact held
    next => exact held
    next => exact heldNewest_applyVolumeContext held _
    next => exact held
    next => exact heldNewest_applyVolumeContext held _
    next => exact held
    next => exact held
    next => exact held
    next =>
      obtain ⟨_, _, _, events, ended, _, closing⟩ := endSegment_changes mixer
      rw [ended]
      exact held.quiet (acceptedStamps_closing closing)
    next => exact held

theorem heldNewest_mixFrames (frames : Nat) (held : HeldNewest mixer.loudness mixer.history) :
    HeldNewest (mixFrames frames mixer).loudness (mixFrames frames mixer).history := by
  induction frames generalizing mixer with
  | zero => exact held
  | succ frames ih =>
    apply ih
    rcases mixFrame_cases mixer with ⟨_, idle⟩ | ⟨front, rest, _, _, _, events, among, mixed⟩
    · rw [idle]
      exact held
    · rw [mixed]
      have closing : ∀ event ∈ events, event.closes = true := by
        intro event here
        simp only [List.mem_cons, List.not_mem_nil, or_false] at among
        rcases among with rfl | rfl
        · cases here
        · rw [List.mem_singleton.mp here]
          rfl
      exact (held.quietEvent rfl).quiet (acceptedStamps_closing closing)

theorem heldNewest_act (held : HeldNewest mixer.loudness mixer.history) (action : TtsAction) :
    HeldNewest (mixer.act action).loudness (mixer.act action).history := by
  cases action with
  | flushes epochs =>
    simp only [act, drainFlushes]
    split_ifs
    · exact held
    · exact held.quiet (acceptedStamps_flushed epochs.reverse)
  | command queued decision => exact heldNewest_takeCommand held queued decision
  | period frames => exact heldNewest_mixFrames frames held

end TtsMixer

theorem heldNewest_reachable {maxPendingFrames : Nat} {mixer : TtsMixer}
    (reached : Reachable (system maxPendingFrames) mixer) : HeldNewest mixer.loudness mixer.history := by
  induction reached with
  | initial start =>
    rw [start]
    exact heldNewest_start
  | step _ move ih =>
    rw [move]
    exact TtsMixer.heldNewest_act ih _

end Fanin

namespace Outputd

def system (periodFrames maxPendingFrames : Nat) : System TtsBridge TtsAction :=
  ofAct (· = .new periodFrames maxPendingFrames) TtsBridge.act

/-- No prepare that passes the gate takes a held context away: it brings one that the stamp guard accepts. -/
def KeepsContext (bridge : TtsBridge) : TtsAction → Prop
  | .command ⟨epoch, .prepareAssistant _ _ _ _ offered⟩ _ =>
    epoch = bridge.activeEpoch → ∀ held ∈ bridge.core.loudness.currentVolumeContext, ∃ context ∈ offered,
      context.canonicalDb.isFinite ∧ context.downstreamDb.isFinite ∧ context.ttsEnvelopeLufs.isFinite ∧
        held.stampBootNs ≤ context.stampBootNs
  | _ => True

instance (bridge : TtsBridge) (action : TtsAction) : Decidable (KeepsContext bridge action) := by
  unfold KeepsContext
  split <;> infer_instance

variable {core : OutputCore} {bridge : TtsBridge}

namespace PeriodRead

theorem acceptedStamps_readFrames (volume : Option VolumeContext) (frames : Nat) (read : PeriodRead) :
    acceptedStamps (readFrames volume frames read).history = acceptedStamps read.history := by
  induction frames generalizing read with
  | zero => rfl
  | succ frames ih =>
    rw [readFrames, ih]
    rcases readFrame_cases volume read with ⟨_, _, _, history⟩ | ⟨_, _, _, history, _⟩
    · rw [history]
    · rw [history]
      rfl

end PeriodRead

theorem heldNewest_updateVolumeContext (held : HeldNewest core.loudness core.history) (context : VolumeContext) :
    HeldNewest (core.updateVolumeContext context).1.loudness (core.updateVolumeContext context).1.history := by
  unfold OutputCore.updateVolumeContext
  split
  next next accepted => exact held.accept accepted
  next => exact held

theorem updateVolumeContext_snd (core : OutputCore) (context : VolumeContext) :
    (core.updateVolumeContext context).2 = (core.loudness.updateVolumeContext context).2 := by
  unfold OutputCore.updateVolumeContext
  split
  next accepted => rw [accepted]
  next rejected => rw [rejected]

theorem heldNewest_step (held : HeldNewest core.loudness core.history) (dacDelayFrames : Nat) :
    HeldNewest (core.step dacDelayFrames).loudness (core.step dacDelayFrames).history := by
  obtain ⟨pending, events, processed, closing⟩ := OutputCore.processDrainedPlaybacks_changes
    { core with assistant := core.prepareRead.segments, history := core.prepareRead.history } core.prepareRead.drained
  have rendered : HeldNewest core.loudness core.prepareRead.history := by
    have stamps := PeriodRead.acceptedStamps_readFrames core.loudness.currentVolumeContext core.periodFrames
      ⟨core.assistant, none, [], [], core.history⟩
    exact ⟨by rw [OutputCore.prepareRead, stamps]; exact held.ordered,
      by rw [OutputCore.prepareRead, stamps]; exact held.newest⟩
  simp only [OutputCore.step, OutputCore.preparePeriod, OutputCore.commitPreparedPeriod, processed]
  exact rendered.quiet (acceptedStamps_closing closing)

theorem heldNewest_closeOpenSegment (held : HeldNewest bridge.core.loudness bridge.core.history) :
    HeldNewest bridge.closeOpenSegment.core.loudness bridge.closeOpenSegment.core.history := by
  unfold TtsBridge.closeOpenSegment
  split
  · exact held
  next id _ =>
    obtain ⟨_, events, ended, closing⟩ := bridge.core.endAssistantSegment_changes id
    simp only [ended]
    exact held.quiet (acceptedStamps_closing closing)

theorem heldNewest_append (held : HeldNewest core.loudness core.history) (id : SegmentId) (chunk : Chunk)
    (stamp : Nat) : HeldNewest (core.appendAssistantAudioWithSegmentGain id chunk stamp).loudness
      (core.appendAssistantAudioWithSegmentGain id chunk stamp).history := by
  unfold OutputCore.appendAssistantAudioWithSegmentGain
  split
  · exact held
  · split_ifs
    · exact held
    · exact held.quietEvent rfl

theorem heldNewest_appendOpen (held : HeldNewest bridge.core.loudness bridge.core.history) (stamp : Nat)
    (chunk : Chunk) : HeldNewest (bridge.appendOpen stamp chunk).core.loudness
      (bridge.appendOpen stamp chunk).core.history := by
  unfold TtsBridge.appendOpen
  split
  · exact held
  · exact heldNewest_append held _ _ _

theorem heldNewest_acceptAudio (held : HeldNewest bridge.core.loudness bridge.core.history) (stamp : Nat)
    (chunk : Chunk) (decision : AssistantGainDecision) :
    HeldNewest (bridge.acceptAudio stamp chunk decision).core.loudness
      (bridge.acceptAudio stamp chunk decision).core.history := by
  have opened : HeldNewest (bridge.openForAudio decision).core.loudness (bridge.openForAudio decision).core.history := by
    unfold TtsBridge.openForAudio
    split_ifs
    · exact held
    · exact held
  unfold TtsBridge.acceptAudio
  split_ifs
  · exact held
  · exact heldNewest_appendOpen opened _ _

-- The context that a prepare brings is either accepted or, on an engine without one, of no effect.
theorem heldNewest_prepareContext (held : HeldNewest bridge.core.loudness bridge.core.history)
    (offered : Option VolumeContext)
    (keeps : ∀ current ∈ bridge.core.loudness.currentVolumeContext, ∃ context ∈ offered,
      context.canonicalDb.isFinite ∧ context.downstreamDb.isFinite ∧ context.ttsEnvelopeLufs.isFinite ∧
        current.stampBootNs ≤ context.stampBootNs) :
    HeldNewest (bridge.prepareContext offered).core.loudness (bridge.prepareContext offered).core.history := by
  have cleared (empty : bridge.core.loudness.currentVolumeContext = none) :
      HeldNewest bridge.core.loudness.clearVolumeContext bridge.core.history := by
    have none_ : bridge.core.loudness.clearVolumeContext = bridge.core.loudness := by
      rw [AssistantLoudness.clearVolumeContext, ← empty]
    rw [none_]
    exact held
  cases current : bridge.core.loudness.currentVolumeContext with
  | none =>
    unfold TtsBridge.prepareContext
    split
    · exact cleared current
    next context =>
      have updated := heldNewest_updateVolumeContext held context
      split
      next core accepted =>
        rw [accepted] at updated
        exact updated
      next core rejected =>
        unfold OutputCore.updateVolumeContext at rejected
        split at rejected <;> cases rejected
        exact cleared current
  | some before =>
    obtain ⟨context, rfl, canonical, downstream, envelope, newer⟩ := keeps before current
    have accepted : (bridge.core.updateVolumeContext context).2 = true := by
      simp [updateVolumeContext_snd, AssistantLoudness.updateVolumeContext, canonical, downstream, envelope, current,
        newer]
    have updated := heldNewest_updateVolumeContext held context
    simp only [TtsBridge.prepareContext]
    split
    next core taken =>
      rw [taken] at updated
      exact updated
    next core rejected =>
      rw [rejected] at accepted
      cases accepted

theorem heldNewest_takeCommand (held : HeldNewest bridge.core.loudness bridge.core.history) (queued : QueuedTtsCommand)
    (decision : AssistantGainDecision) (keeps : KeepsContext bridge (.command queued decision)) :
    HeldNewest (bridge.takeCommand queued decision).core.loudness
      (bridge.takeCommand queued decision).core.history := by
  obtain ⟨epoch, command⟩ := queued
  unfold TtsBridge.takeCommand
  split_ifs with stale
  · exact held.quietEvent rfl
  · cases command with
    | prepareAssistant provider model voice envelope offered =>
      have current : epoch = bridge.activeEpoch := by
        by_contra other
        exact stale ⟨other, rfl⟩
      exact heldNewest_prepareContext held offered (keeps current)
    | volumeContext context => exact heldNewest_updateVolumeContext held context
    | segmentStart kind providerItemId profile => exact heldNewest_closeOpenSegment held
    | audioWide chunk => exact heldNewest_acceptAudio held _ _ _
    | segmentEnd => exact heldNewest_closeOpenSegment held
    | _ => exact held

theorem heldNewest_act (held : HeldNewest bridge.core.loudness bridge.core.history) (action : TtsAction)
    (keeps : KeepsContext bridge action) :
    HeldNewest (bridge.act action).core.loudness (bridge.act action).core.history := by
  cases action with
  | flushes epochs =>
    clear keeps
    simp only [TtsBridge.act]
    induction epochs generalizing bridge with
    | nil => exact held
    | cons epoch rest ih => exact ih (held.quietEvent rfl)
  | command queued decision => exact heldNewest_takeCommand held queued decision keeps
  | period dacDelayFrames => exact heldNewest_step held dacDelayFrames

theorem heldNewest_reachable {periodFrames maxPendingFrames : Nat}
    (reached : Reachable ((system periodFrames maxPendingFrames).restrict KeepsContext) bridge) :
    HeldNewest bridge.core.loudness bridge.core.history := by
  induction reached with
  | initial start =>
    rw [start]
    exact heldNewest_start
  | step _ move ih =>
    rw [move.2]
    exact heldNewest_act ih _ move.1

end Outputd

theorem volume_context_never_goes_backwards (periodFrames maxPendingFrames : Nat) :
    (∀ mixer, Reachable (Fanin.system maxPendingFrames) mixer →
      (acceptedStamps mixer.history).Pairwise fun newer older => older ≤ newer) ∧
    ∀ bridge, Reachable ((Outputd.system periodFrames maxPendingFrames).restrict Outputd.KeepsContext) bridge →
      (acceptedStamps bridge.core.history).Pairwise fun newer older => older ≤ newer := by
  constructor
  · intro mixer reached
    exact (Fanin.heldNewest_reachable reached).ordered
  · intro bridge reached
    exact (Outputd.heldNewest_reachable reached).ordered

-- The context of a speaker at one volume, muted or not.
def contextAt (stampBootNs : Nat) (muted : Bool) : VolumeContext where
  canonicalDb := ⟨0⟩
  downstreamDb := ⟨0⟩
  ttsEnvelopeLufs := ⟨0⟩
  muted := muted
  stampBootNs := stampBootNs

def take (command : TtsCommand) : TtsAction := .command ⟨0, command⟩ ⟨⟨0⟩⟩

def delayedMute : List TtsAction :=
  [take (.volumeContext (contextAt 1 false)), take (.volumeContext (contextAt 3 true)),
    take (.prepareAssistant [] [] [] ⟨0⟩ (some (contextAt 4 true))), take (.volumeContext (contextAt 2 false))]

theorem volume_context_never_goes_backwards_past_a_delayed_one :
    (∃ mixer, Reachable (Fanin.system 96000) mixer ∧ acceptedStamps mixer.history = [4, 3, 1] ∧
      (acceptedStamps mixer.history).Pairwise fun newer older => older ≤ newer) ∧
    ∃ bridge, Reachable ((Outputd.system 128 96000).restrict Outputd.KeepsContext) bridge ∧
      acceptedStamps bridge.core.history = [4, 3, 1] ∧
        (acceptedStamps bridge.core.history).Pairwise fun newer older => older ≤ newer := by
  have law := volume_context_never_goes_backwards 128 96000
  constructor
  · have reached : Reachable (Fanin.system 96000) (delayedMute.foldl Fanin.TtsMixer.act (.new 96000)) :=
      reachable_foldl (by rfl) _
    exact ⟨_, reached, by decide, law.1 _ reached⟩
  · have reached : Reachable ((Outputd.system 128 96000).restrict Outputd.KeepsContext)
        (delayedMute.foldl Outputd.TtsBridge.act (.new 128 96000)) :=
      reachable_restrict_foldl rfl (by decide)
    exact ⟨_, reached, by decide, law.2 _ reached⟩

def contextLost : List TtsAction :=
  [take (.volumeContext (contextAt 2 true)), take (.prepareAssistant [] [] [] ⟨0⟩ none),
    take (.volumeContext (contextAt 1 false))]

-- A prepare without a context forgets the stamp of the mute, and the older unmuted context is accepted.
theorem stale_context_unmutes_after_a_bare_prepare :
    ∃ bridge, Reachable (Outputd.system 128 96000) bridge ∧
      bridge.core.loudness.currentVolumeContext = some (contextAt 1 false) ∧
      ¬(acceptedStamps bridge.core.history).Pairwise fun newer older => older ≤ newer := by
  have reached : Reachable (Outputd.system 128 96000) (contextLost.foldl Outputd.TtsBridge.act (.new 128 96000)) :=
    reachable_foldl (by rfl) _
  exact ⟨_, reached, by decide, by decide⟩

end Jts.Tts
