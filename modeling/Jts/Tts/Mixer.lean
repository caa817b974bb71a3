import Jts.Tts.Playout

set_option autoImplicit false

namespace Jts.Tts

/-- The part of the loudness engine that its callers branch on. -/
structure AssistantLoudness where
  currentVolumeContext : Option VolumeContext
deriving DecidableEq

namespace AssistantLoudness

def updateVolumeContext (loudness : AssistantLoudness) (context : VolumeContext) : AssistantLoudness × Bool :=
  if context.canonicalDb.isFinite && context.downstreamDb.isFinite && context.ttsEnvelopeLufs.isFinite &&
      loudness.currentVolumeContext.all (fun current => current.stampBootNs ≤ context.stampBootNs) then
    ({ loudness with currentVolumeContext := some context }, true)
  else (loudness, false)

def clearVolumeContext (loudness : AssistantLoudness) : AssistantLoudness :=
  { loudness with currentVolumeContext := none }

end AssistantLoudness

namespace Fanin

structure QueuedAudioBlock where
  samples : List Int32
  cursor : Nat
  decision : Option AssistantGainDecision
  segmentSerial : Nat
  assistantReferenceEligible : Bool
  completesAssistantReference : Bool
  -- The epoch of the command that carried the block, which the source forgets here.
  stamp : Nat
deriving DecidableEq

structure AssistantSegmentPlayback where
  segmentSerial : Nat
  decision : AssistantGainDecision
  context : VolumeContext
deriving DecidableEq

/-- One flush: the depth of the queue that it cleared, the blocks that it dropped and the events of the ledger. -/
structure FlushRecord where
  depth : Nat
  dropped : List QueuedAudioBlock
  events : List PlayoutEvent
deriving DecidableEq

structure TtsMixer where
  queue : List QueuedAudioBlock
  pendingSamples : Nat
  activeEpoch : Nat
  maxPendingFrames : Nat
  activeSegmentGainDb : Option F32
  activeSegmentKind : Option SegmentKind
  activeSegmentDecision : Option AssistantGainDecision
  activeSegmentSerial : Nat
  nextSegmentSerial : Nat
  assistantSegmentPlayback : Option AssistantSegmentPlayback
  assistantReferenceDisqualifiedSerial : Option Nat
  loudness : AssistantLoudness
  ledger : PlayoutLedger
  history : List TtsEvent
  flushes : List FlushRecord
deriving DecidableEq

def sampleRate : Nat := 48000

namespace TtsMixer

def new (maxPendingFrames : Nat) : TtsMixer where
  queue := []
  pendingSamples := 0
  activeEpoch := 0
  maxPendingFrames := maxPendingFrames
  activeSegmentGainDb := none
  activeSegmentKind := none
  activeSegmentDecision := none
  activeSegmentSerial := 0
  nextSegmentSerial := 1
  assistantSegmentPlayback := none
  assistantReferenceDisqualifiedSerial := none
  loudness := ⟨none⟩
  ledger := .new sampleRate
  history := []
  flushes := []

def note (mixer : TtsMixer) (event : TtsEvent) : TtsMixer := { mixer with history := event :: mixer.history }

def pendingFrames (mixer : TtsMixer) : Nat := mixer.pendingSamples / channels

def clearQueue (mixer : TtsMixer) : TtsMixer := { mixer with queue := [], pendingSamples := 0 }

def applyVolumeContext (mixer : TtsMixer) (context : VolumeContext) : TtsMixer :=
  match mixer.loudness.updateVolumeContext context with
  | (loudness, true) => { mixer with loudness := loudness }.note (.accepted context)
  | (_, false) => mixer

-- The decision is the answer of the loudness engine to the profile of the segment.
def beginSegmentGain (mixer : TtsMixer) (kind : SegmentKind) (decision : AssistantGainDecision) : TtsMixer :=
  { mixer with
    assistantSegmentPlayback := none
    activeSegmentGainDb := some decision.finalGainDb
    activeSegmentKind := some kind
    activeSegmentDecision := some decision
    activeSegmentSerial := mixer.nextSegmentSerial
    nextSegmentSerial := mixer.nextSegmentSerial + 1 }

def completeAssistantReference (mixer : TtsMixer) (playback : AssistantSegmentPlayback) : TtsMixer :=
  mixer.note (.completed playback.segmentSerial)

def pushBlock (mixer : TtsMixer) (samples : List Int32) (stamp : Nat) : TtsMixer :=
  { mixer with
    pendingSamples := mixer.pendingSamples + samples.length
    queue := mixer.queue ++ [{
      samples := samples
      cursor := 0
      decision := mixer.activeSegmentDecision
      segmentSerial := mixer.activeSegmentSerial
      assistantReferenceEligible := mixer.activeSegmentKind == some .assistant
      completesAssistantReference := false
      stamp := stamp }] }

-- Audio outside a segment opens one for itself.
def openSegment (mixer : TtsMixer) (decision : AssistantGainDecision) : TtsMixer :=
  if mixer.activeSegmentGainDb.isNone then mixer.beginSegmentGain .assistant decision else mixer

def enqueueAudio (mixer : TtsMixer) (stamp : Nat) (chunk : Chunk) : TtsMixer :=
  let frames := chunk.samples.length / channels
  let pushed := mixer.pushBlock chunk.samples stamp
  { pushed with ledger := pushed.ledger.noteQueued frames }.note (.queued pushed.activeSegmentSerial frames stamp)

def acceptAudio (mixer : TtsMixer) (stamp : Nat) (chunk : Chunk) (decision : AssistantGainDecision) : TtsMixer :=
  if chunk.samples = [] then mixer
  else if mixer.maxPendingFrames < mixer.pendingFrames + chunk.samples.length / channels then mixer
  else (mixer.openSegment decision).enqueueAudio stamp chunk

def flushRecord (mixer : TtsMixer) : FlushRecord := ⟨mixer.pendingFrames, mixer.queue, mixer.ledger.flush.2⟩

-- A FLUSH_SYNC never reaches the command channel; the source handles one all the same.
def flushCommand (mixer : TtsMixer) : TtsMixer :=
  { mixer.clearQueue with
    activeSegmentGainDb := none
    activeSegmentKind := none
    activeSegmentDecision := none
    assistantSegmentPlayback := none
    ledger := mixer.ledger.flush.1
    flushes := mixer.flushRecord :: mixer.flushes }

-- `iter_mut().rev().find(..)`: the newest block of the segment is marked.
def markCompletes (serial : Nat) : List QueuedAudioBlock → Option (List QueuedAudioBlock)
  | [] => none
  | block :: rest =>
    match markCompletes serial rest with
    | some marked => some (block :: marked)
    | none =>
      if block.segmentSerial = serial then some ({ block with completesAssistantReference := true } :: rest)
      else none

/-- The first half of SEGMENT_END: the mark on the last block, or the playback of a segment that has drained. -/
def settleEnd (mixer : TtsMixer) : TtsMixer × Option AssistantSegmentPlayback :=
  if mixer.activeSegmentKind = some .assistant then
    match markCompletes mixer.activeSegmentSerial mixer.queue with
    | some marked => ({ mixer with queue := marked }, none)
    | none =>
      ({ mixer with assistantSegmentPlayback := none },
        mixer.assistantSegmentPlayback.filter (·.segmentSerial = mixer.activeSegmentSerial))
  else (mixer, none)

def closeSegment (mixer : TtsMixer) : TtsMixer :=
  { mixer with
    activeSegmentGainDb := none
    activeSegmentKind := none
    activeSegmentDecision := none
    ledger := mixer.ledger.endSegment }

def requalify (mixer : TtsMixer) (serial : Nat) : TtsMixer :=
  if mixer.assistantReferenceDisqualifiedSerial = some serial then
    { mixer with assistantReferenceDisqualifiedSerial := none }
  else mixer

def endSegment (mixer : TtsMixer) : TtsMixer :=
  let settled := mixer.settleEnd
  let noted := if mixer.activeSegmentKind.isSome then settled.1.note (.ended mixer.activeSegmentSerial) else settled.1
  let closed := noted.closeSegment
  let completed := match settled.2 with
    | some playback => closed.completeAssistantReference playback
    | none => closed
  completed.requalify mixer.activeSegmentSerial

def startSegment (mixer : TtsMixer) (providerItemId : Option Token) (kind : SegmentKind)
    (decision : AssistantGainDecision) : TtsMixer :=
  { mixer with ledger := mixer.ledger.startSegment providerItemId kind }.beginSegmentGain kind decision

-- The decision is what the loudness engine answers if the command starts a segment.
def takeCommand (mixer : TtsMixer) (queued : QueuedTtsCommand) (decision : AssistantGainDecision) : TtsMixer :=
  if queued.epoch ≠ mixer.activeEpoch ∧ queued.command.isRestore = false then mixer.note (.discarded queued)
  else match queued.command with
  | .gainDb _ => mixer
  | .audioWide chunk => mixer.acceptAudio queued.epoch chunk decision
  | .flushSync => mixer.flushCommand
  -- The duck and the content meter touch nothing that is modelled here.
  | .programDuckOn => mixer
  | .programDuckOff => mixer
  | .prepareAssistant _ _ _ _ (some context) => mixer.applyVolumeContext context
  | .prepareAssistant _ _ _ _ none => mixer
  | .volumeContext context => mixer.applyVolumeContext context
  | .contentMeterPause => mixer
  | .contentMeterResume => mixer
  | .segmentStart kind providerItemId _ => mixer.startSegment providerItemId kind decision
  | .segmentEnd => mixer.endSegment
  | .close => mixer

-- `epochs` are those of the flush requests that one drain took off the channel, oldest first.
def drainFlushes (mixer : TtsMixer) (epochs : List Nat) : TtsMixer :=
  if epochs = [] then mixer
  else
    { mixer.clearQueue with
      activeEpoch := epochs.foldl max mixer.activeEpoch
      activeSegmentGainDb := none
      activeSegmentKind := none
      activeSegmentDecision := none
      assistantSegmentPlayback := none
      assistantReferenceDisqualifiedSerial := none
      ledger := mixer.ledger.flush.1
      flushes := mixer.flushRecord :: mixer.flushes
      history := epochs.reverse.map .flushed ++ mixer.history }

/-- The training facts that one mixed frame of the block leaves behind. -/
def observeFrame (mixer : TtsMixer) (front : QueuedAudioBlock) : TtsMixer :=
  let context := mixer.loudness.currentVolumeContext
  let serial := front.segmentSerial
  if front.assistantReferenceEligible && context.any (·.muted) then
    { mixer with
      assistantReferenceDisqualifiedSerial := some serial
      assistantSegmentPlayback := mixer.assistantSegmentPlayback.filter (·.segmentSerial ≠ serial) }
  else if front.assistantReferenceEligible then
    let starts := context.isSome && mixer.assistantReferenceDisqualifiedSerial ≠ some serial &&
      mixer.assistantSegmentPlayback.all (·.segmentSerial ≠ serial)
    match (if starts then front.decision else none), context, mixer.assistantSegmentPlayback with
    | some decision, some context, _ => { mixer with assistantSegmentPlayback := some ⟨serial, decision, context⟩ }
    | _, some context, some playback =>
      if playback.segmentSerial = serial then
        { mixer with assistantSegmentPlayback := some { playback with context := context } }
      else mixer
    | _, _, _ => mixer
  else mixer

/-- The end of a block that carries the mark: its segment completes, unless another playback is held. -/
def finishMarked (mixer : TtsMixer) (serial : Nat) : TtsMixer :=
  let completed := match mixer.assistantSegmentPlayback with
    | some playback =>
      if playback.segmentSerial = serial then
        { mixer with assistantSegmentPlayback := none }.completeAssistantReference playback
      else mixer
    | none => mixer
  completed.requalify serial

def popFrame (mixer : TtsMixer) (front : QueuedAudioBlock) (rest : List QueuedAudioBlock) : TtsMixer :=
  { mixer with
    queue := { front with cursor := front.cursor + channels } :: rest
    pendingSamples := mixer.pendingSamples - channels
    history := .mixed front.segmentSerial front.stamp mixer.loudness.currentVolumeContext :: mixer.history }

-- One round of the frame loop; nothing is left to mix once the queue is empty.
def mixFrame (mixer : TtsMixer) : TtsMixer :=
  match mixer.queue with
  | [] => mixer
  | front :: rest =>
    let observed := (mixer.popFrame front rest).observeFrame front
    if front.samples.length ≤ front.cursor + channels then
      let shorter := { observed with queue := rest }
      if front.completesAssistantReference then shorter.finishMarked front.segmentSerial else shorter
    else observed

def mixFrames : Nat → TtsMixer → TtsMixer
  | 0, mixer => mixer
  | frames + 1, mixer => mixFrames frames mixer.mixFrame

def mixPeriod (mixer : TtsMixer) (frames : Nat) : TtsMixer :=
  let mixed := mixFrames frames mixer
  let poppedSamples := mixer.pendingSamples - mixed.pendingSamples
  { mixed with ledger := mixed.ledger.advancePlayed (poppedSamples / channels) }

def act (mixer : TtsMixer) : TtsAction → TtsMixer
  | .flushes epochs => mixer.drainFlushes epochs
  | .command queued decision => mixer.takeCommand queued decision
  | .period frames => mixer.mixPeriod frames

-- A frame leaves its training facts behind and touches nothing else of the mixer.
theorem observeFrame_changes (mixer : TtsMixer) (front : QueuedAudioBlock) :
    ∃ playback disqualified, mixer.observeFrame front =
      { mixer with
        assistantSegmentPlayback := playback
        assistantReferenceDisqualifiedSerial := disqualified } := by
  simp only [observeFrame]
  split_ifs
  · exact ⟨_, _, rfl⟩
  · split
    · exact ⟨_, _, rfl⟩
    · split_ifs <;> exact ⟨_, _, rfl⟩
    · exact ⟨_, _, rfl⟩
  · split
    · exact ⟨_, _, rfl⟩
    · split_ifs <;> exact ⟨_, _, rfl⟩
    · exact ⟨_, _, rfl⟩
  · exact ⟨_, _, rfl⟩

theorem requalify_changes (mixer : TtsMixer) (serial : Nat) :
    ∃ disqualified, mixer.requalify serial = { mixer with assistantReferenceDisqualifiedSerial := disqualified } := by
  unfold requalify
  split_ifs <;> exact ⟨_, rfl⟩

theorem finishMarked_changes (mixer : TtsMixer) (serial : Nat) :
    ∃ playback disqualified, ∃ events ∈ [[], [TtsEvent.completed serial]], mixer.finishMarked serial =
      { mixer with
        assistantSegmentPlayback := playback
        assistantReferenceDisqualifiedSerial := disqualified
        history := events ++ mixer.history } := by
  unfold finishMarked
  split
  next playback held =>
    split_ifs with owner
    · subst owner
      obtain ⟨disqualified, eq⟩ := requalify_changes
        ({ mixer with assistantSegmentPlayback := none }.completeAssistantReference playback) playback.segmentSerial
      exact ⟨_, disqualified, [.completed playback.segmentSerial], by simp, by rw [eq]; rfl⟩
    · obtain ⟨disqualified, eq⟩ := requalify_changes mixer serial
      exact ⟨_, disqualified, [], by simp, by rw [eq]; rfl⟩
  next =>
    obtain ⟨disqualified, eq⟩ := requalify_changes mixer serial
    exact ⟨_, disqualified, [], by simp, by rw [eq]; rfl⟩

/-- The block apart from the mark of SEGMENT_END. -/
def unmark (block : QueuedAudioBlock) : QueuedAudioBlock := { block with completesAssistantReference := false }

theorem markCompletes_unmark {serial : Nat} {queue marked : List QueuedAudioBlock}
    (found : markCompletes serial queue = some marked) : marked.map unmark = queue.map unmark := by
  induction queue generalizing marked with
  | nil => cases found
  | cons block rest ih =>
    simp only [markCompletes] at found
    split at found
    next later laterFound =>
      cases found
      rw [List.map_cons, ih laterFound, List.map_cons]
    next =>
      split_ifs at found
      cases found
      rfl

-- Whatever reads a block past its mark reads the same queue.
theorem map_of_unmark {Reading : Type} {queue marked : List QueuedAudioBlock} (read : QueuedAudioBlock → Reading)
    (same : marked.map unmark = queue.map unmark) (blind : ∀ block, read (unmark block) = read block) :
    marked.map read = queue.map read := by
  have factor : ∀ blocks : List QueuedAudioBlock, blocks.map read = (blocks.map unmark).map read := by
    intro blocks
    rw [List.map_map]
    exact List.map_congr_left fun block _ => (blind block).symm
  rw [factor marked, same, ← factor queue]

theorem settleEnd_changes (mixer : TtsMixer) :
    ∃ queue playback, mixer.settleEnd.1 = { mixer with queue := queue, assistantSegmentPlayback := playback } ∧
      queue.map unmark = mixer.queue.map unmark := by
  unfold settleEnd
  split_ifs
  · split
    next marked found => exact ⟨marked, _, rfl, markCompletes_unmark found⟩
    next => exact ⟨_, none, rfl, rfl⟩
  · exact ⟨_, _, rfl, rfl⟩

theorem endSegment_changes (mixer : TtsMixer) :
    ∃ queue playback disqualified events, mixer.endSegment =
      { mixer.closeSegment with
        queue := queue
        assistantSegmentPlayback := playback
        assistantReferenceDisqualifiedSerial := disqualified
        history := events ++ mixer.history } ∧
      queue.map unmark = mixer.queue.map unmark ∧ ∀ event ∈ events, event.closes = true := by
  obtain ⟨queue, playback, settled, same⟩ := settleEnd_changes mixer
  simp only [endSegment, settled]
  split_ifs
  · split
    next held _ =>
      obtain ⟨disqualified, eq⟩ := requalify_changes (({ mixer with
        queue := queue, assistantSegmentPlayback := playback }.note
          (.ended mixer.activeSegmentSerial)).closeSegment.completeAssistantReference held) mixer.activeSegmentSerial
      exact ⟨queue, playback, disqualified, [.completed held.segmentSerial, .ended mixer.activeSegmentSerial],
        by rw [eq]; rfl, same, by simp [TtsEvent.closes]⟩
    next =>
      obtain ⟨disqualified, eq⟩ := requalify_changes ({ mixer with
        queue := queue, assistantSegmentPlayback := playback }.note
          (.ended mixer.activeSegmentSerial)).closeSegment mixer.activeSegmentSerial
      exact ⟨queue, playback, disqualified, [.ended mixer.activeSegmentSerial],
        by rw [eq]; rfl, same, by simp [TtsEvent.closes]⟩
  · split
    next held _ =>
      obtain ⟨disqualified, eq⟩ := requalify_changes ({ mixer with
        queue := queue, assistantSegmentPlayback := playback }.closeSegment.completeAssistantReference held)
        mixer.activeSegmentSerial
      exact ⟨queue, playback, disqualified, [.completed held.segmentSerial],
        by rw [eq]; rfl, same, by simp [TtsEvent.closes]⟩
    next =>
      obtain ⟨disqualified, eq⟩ := requalify_changes { mixer with
        queue := queue, assistantSegmentPlayback := playback }.closeSegment mixer.activeSegmentSerial
      exact ⟨queue, playback, disqualified, [], by rw [eq]; rfl, same, by simp⟩

/-- Everything that one command can do, with the gate and the guards that it has passed. -/
theorem takeCommand_cases (mixer : TtsMixer) (queued : QueuedTtsCommand) (decision : AssistantGainDecision) :
    mixer.takeCommand queued decision = mixer ∨
    (queued.epoch ≠ mixer.activeEpoch ∧ queued.command.isRestore = false ∧
      mixer.takeCommand queued decision = mixer.note (.discarded queued)) ∨
    (∃ context, queued.command.offered = some context ∧
      (queued.command.isRestore = true ∨ queued.epoch = mixer.activeEpoch) ∧
      mixer.takeCommand queued decision = mixer.applyVolumeContext context) ∨
    (∃ providerItemId kind, mixer.takeCommand queued decision = mixer.startSegment providerItemId kind decision) ∨
    (∃ chunk : Chunk, queued.epoch = mixer.activeEpoch ∧ chunk.samples ≠ [] ∧
      mixer.takeCommand queued decision = (mixer.openSegment decision).enqueueAudio queued.epoch chunk) ∨
    (queued.command = .segmentEnd ∧ queued.epoch = mixer.activeEpoch ∧
      mixer.takeCommand queued decision = mixer.endSegment) ∨
    mixer.takeCommand queued decision = mixer.flushCommand := by
  obtain ⟨epoch, command⟩ := queued
  unfold takeCommand
  split_ifs with stale
  · exact .inr (.inl ⟨stale.1, stale.2, rfl⟩)
  · have gated (held : command.isRestore = false) : epoch = mixer.activeEpoch := by
      by_contra other
      exact stale ⟨other, held⟩
    cases command with
    | audioWide chunk =>
      simp only [acceptAudio]
      split_ifs with empty over_
      · exact .inl rfl
      · exact .inl rfl
      · exact .inr (.inr (.inr (.inr (.inl ⟨chunk, gated rfl, empty, rfl⟩))))
    | prepareAssistant provider model voice envelope offered =>
      cases offered with
      | none => exact .inl rfl
      | some context => exact .inr (.inr (.inl ⟨context, rfl, .inr (gated rfl), rfl⟩))
    | volumeContext context => exact .inr (.inr (.inl ⟨context, rfl, .inl rfl, rfl⟩))
    | segmentStart kind providerItemId profile => exact .inr (.inr (.inr (.inl ⟨providerItemId, kind, rfl⟩)))
    | segmentEnd => exact .inr (.inr (.inr (.inr (.inr (.inl ⟨rfl, gated rfl, rfl⟩)))))
    | flushSync => exact .inr (.inr (.inr (.inr (.inr (.inr rfl)))))
    | _ => exact .inl rfl

/-- Everything that one round of the frame loop can do. -/
theorem mixFrame_cases (mixer : TtsMixer) :
    (mixer.queue = [] ∧ mixer.mixFrame = mixer) ∨
    ∃ front rest playback disqualified, mixer.queue = front :: rest ∧
      ∃ events ∈ [[], [TtsEvent.completed front.segmentSerial]], mixer.mixFrame =
        { mixer with
          queue := if front.samples.length ≤ front.cursor + channels then rest
            else { front with cursor := front.cursor + channels } :: rest
          pendingSamples := mixer.pendingSamples - channels
          assistantSegmentPlayback := playback
          assistantReferenceDisqualifiedSerial := disqualified
          history := events ++
            .mixed front.segmentSerial front.stamp mixer.loudness.currentVolumeContext :: mixer.history } := by
  unfold mixFrame
  split
  next empty => exact .inl ⟨empty, rfl⟩
  next front rest nonempty =>
    obtain ⟨playback, disqualified, observed⟩ := observeFrame_changes (mixer.popFrame front rest) front
    right
    rw [observed]
    split_ifs with finished marked
    · obtain ⟨playback', disqualified', events, among, eq⟩ := finishMarked_changes
        { mixer.popFrame front rest with
          assistantSegmentPlayback := playback
          assistantReferenceDisqualifiedSerial := disqualified
          queue := rest } front.segmentSerial
      exact ⟨front, rest, playback', disqualified', nonempty, events, among, by rw [eq, if_pos finished]; rfl⟩
    · exact ⟨front, rest, playback, disqualified, nonempty, [], by simp, by rw [if_pos finished]; rfl⟩
    · exact ⟨front, rest, playback, disqualified, nonempty, [], by simp, by rw [if_neg finished]; rfl⟩

end TtsMixer

end Fanin

end Jts.Tts
