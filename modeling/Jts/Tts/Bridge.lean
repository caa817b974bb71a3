import Mathlib
import Jts.Tts.Mixer

set_option autoImplicit false

namespace Jts.Tts.Outputd

open Jts.Tts

abbrev SegmentId := Nat

def defaultTerminalSegmentRetention : Nat := 128

inductive SegmentStatus
  | queued
  | playing
  | drained
  | flushed
deriving DecidableEq

-- The gain and the clock readings of the source are left out: nothing branches on them.
structure PlayoutSegment where
  localSegmentId : SegmentId
  providerItemId : Option Token
  kind : SegmentKind
  queuedFrames : Nat
  writtenFrames : Nat
  estimatedDrainedFrames : Nat
  flushedFrames : Nat
  outputStartFrame : Option Nat
  outputEndFrame : Nat
  ended : Bool
  status : SegmentStatus
deriving DecidableEq

namespace PlayoutSegment

def isTerminal (segment : PlayoutSegment) : Bool := segment.status == .drained || segment.status == .flushed

def maybeMarkDrained (segment : PlayoutSegment) : PlayoutSegment :=
  if segment.ended ∧ 0 < segment.queuedFrames ∧ segment.queuedFrames ≤ segment.estimatedDrainedFrames ∧
      segment.status ≠ .flushed then
    { segment with status := .drained }
  else segment

def queueFrames (frames : Nat) (segment : PlayoutSegment) : PlayoutSegment :=
  { segment with queuedFrames := segment.queuedFrames + frames }

def markWrittenFramesAt (frames outputStartFrame : Nat) (segment : PlayoutSegment) : PlayoutSegment :=
  if frames = 0 then segment
  else
    { segment with
      outputStartFrame := some (segment.outputStartFrame.getD outputStartFrame)
      outputEndFrame := max segment.outputEndFrame (outputStartFrame + frames)
      writtenFrames := segment.writtenFrames + frames
      status := if segment.status = .queued then .playing else segment.status }

def markDrainedThrough (outputFrame : Nat) (segment : PlayoutSegment) : PlayoutSegment :=
  match segment.status, segment.outputStartFrame with
  | .flushed, _ => segment
  | _, none => segment
  | _, some start =>
    maybeMarkDrained { segment with
      estimatedDrainedFrames :=
        max segment.estimatedDrainedFrames (min (outputFrame - start) segment.writtenFrames) }

def finish (segment : PlayoutSegment) : PlayoutSegment :=
  if segment.status = .flushed then segment else maybeMarkDrained { segment with ended := true }

def flushOpen (segment : PlayoutSegment) : PlayoutSegment :=
  if segment.isTerminal then segment
  else
    { segment with
      flushedFrames := segment.queuedFrames - segment.estimatedDrainedFrames
      status := .flushed
      ended := true }

end PlayoutSegment

structure PlayoutLedger where
  nextId : Nat
  segments : List PlayoutSegment
deriving DecidableEq

-- The oldest `toDrop` terminal segments go.
def dropTerminal : Nat → List PlayoutSegment → List PlayoutSegment
  | _, [] => []
  | 0, segments => segments
  | toDrop + 1, segment :: rest =>
    if segment.isTerminal then dropTerminal toDrop rest else segment :: dropTerminal (toDrop + 1) rest

namespace PlayoutLedger

def new : PlayoutLedger where
  nextId := 1
  segments := []

def startSegment (ledger : PlayoutLedger) (providerItemId : Option Token) (kind : SegmentKind) :
    PlayoutLedger × SegmentId :=
  ({ nextId := ledger.nextId + 1
     segments := ledger.segments ++ [{
      localSegmentId := ledger.nextId
      providerItemId := providerItemId
      kind := kind
      queuedFrames := 0
      writtenFrames := 0
      estimatedDrainedFrames := 0
      flushedFrames := 0
      outputStartFrame := none
      outputEndFrame := 0
      ended := false
      status := .queued }] }, ledger.nextId)

def find (ledger : PlayoutLedger) (id : SegmentId) : Option PlayoutSegment :=
  ledger.segments.find? (·.localSegmentId = id)

-- `segment_mut`: ids are unique, and the source panics on one that the ledger does not hold.
def modify (ledger : PlayoutLedger) (id : SegmentId) (change : PlayoutSegment → PlayoutSegment) : PlayoutLedger :=
  { ledger with
    segments := ledger.segments.map fun segment => if segment.localSegmentId = id then change segment else segment }

def isEnded (ledger : PlayoutLedger) (id : SegmentId) : Bool := (ledger.find id).any (·.ended)

def markDrainedThrough (ledger : PlayoutLedger) (outputFrame : Nat) : PlayoutLedger :=
  { ledger with segments := ledger.segments.map (·.markDrainedThrough outputFrame) }

def flushOpenSegments (ledger : PlayoutLedger) : PlayoutLedger :=
  { ledger with segments := ledger.segments.map (·.flushOpen) }

def pruneTerminalSegments (ledger : PlayoutLedger) (retainTerminal : Nat) : PlayoutLedger :=
  { ledger with
    segments := dropTerminal (ledger.segments.countP (·.isTerminal) - retainTerminal) ledger.segments }

end PlayoutLedger

structure SegmentPlayback where
  decision : AssistantGainDecision
  context : VolumeContext
deriving DecidableEq

structure DrainedPlayback where
  id : SegmentId
  playback : Option SegmentPlayback
deriving DecidableEq

structure AssistantSegment where
  id : SegmentId
  samples : List Int32
  cursorSamples : Nat
  decision : Option AssistantGainDecision
  referenceEligible : Bool
  lastContext : Option VolumeContext
  disqualified : Bool
  -- The epoch of the command that carried the samples, which the source forgets here.
  stamp : Nat
deriving DecidableEq

structure SegmentWrite where
  id : SegmentId
  frames : Nat
deriving DecidableEq

-- A context is missing until one is accepted, and then the lane is silent.
def isMuted (context : Option VolumeContext) : Bool := context.all (·.muted)

namespace AssistantSegment

def finished (segment : AssistantSegment) : Bool := segment.samples.length ≤ segment.cursorSamples

def pendingFrames (segment : AssistantSegment) : Nat := (segment.samples.length - segment.cursorSamples) / channels

/-- One frame of the segment goes out under the context of the period. -/
def render (segment : AssistantSegment) (context : Option VolumeContext) : AssistantSegment :=
  let moved := { segment with cursorSamples := segment.cursorSamples + channels }
  if segment.referenceEligible then
    { moved with
      disqualified := segment.disqualified || isMuted context
      lastContext := context }
  else moved

def playback (segment : AssistantSegment) : Option SegmentPlayback :=
  match segment.decision, segment.lastContext, segment.disqualified with
  | some decision, some context, false => some ⟨decision, context⟩
  | _, _, _ => none

-- What a finished segment reports: nothing, unless it may train the reference.
def completion (segment : AssistantSegment) : List DrainedPlayback :=
  if segment.referenceEligible then [⟨segment.id, segment.playback⟩] else []

end AssistantSegment

-- What `read_period_into` carries from frame to frame.
structure PeriodRead where
  segments : List AssistantSegment
  currentWrite : Option SegmentWrite
  writes : List SegmentWrite
  drained : List DrainedPlayback
  history : List TtsEvent
deriving DecidableEq

namespace PeriodRead

def endWrite (read : PeriodRead) : PeriodRead :=
  { read with writes := read.writes ++ read.currentWrite.toList, currentWrite := none }

def countWrite (read : PeriodRead) (id : SegmentId) : PeriodRead :=
  match read.currentWrite with
  | some write =>
    if write.id = id then { read with currentWrite := some { write with frames := write.frames + 1 } }
    else { read.endWrite with currentWrite := some ⟨id, 1⟩ }
  | none => { read with currentWrite := some ⟨id, 1⟩ }

def skipFinished (read : PeriodRead) : PeriodRead :=
  let rest := read.segments.dropWhile (·.finished)
  if rest.length = read.segments.length then read else { read.endWrite with segments := rest }

def finalizeFrontCompletion (read : PeriodRead) (front : AssistantSegment) : PeriodRead :=
  if front.referenceEligible then { read with drained := read.drained ++ [⟨front.id, front.playback⟩] } else read

def readFrame (context : Option VolumeContext) (before : PeriodRead) : PeriodRead :=
  let read := before.skipFinished
  match read.segments with
  | [] => read.endWrite
  | front :: rest =>
    let rendered := front.render context
    let noted := { read with history := .mixed front.id front.stamp context :: read.history }
    if rendered.finished then ({ noted with segments := rest }.finalizeFrontCompletion rendered).countWrite front.id
    else { noted with segments := rendered :: rest }.countWrite front.id

def readFrames (context : Option VolumeContext) : Nat → PeriodRead → PeriodRead
  | 0, read => read.endWrite
  | frames + 1, read => readFrames context frames (read.readFrame context)

@[simp]
theorem endWrite_segments (read : PeriodRead) : read.endWrite.segments = read.segments := rfl

@[simp]
theorem endWrite_drained (read : PeriodRead) : read.endWrite.drained = read.drained := rfl

@[simp]
theorem endWrite_history (read : PeriodRead) : read.endWrite.history = read.history := rfl

theorem countWrite_changes (read : PeriodRead) (id : SegmentId) :
    ∃ current writes, read.countWrite id = { read with currentWrite := current, writes := writes } := by
  unfold countWrite
  split
  · split_ifs <;> exact ⟨_, _, rfl⟩
  · exact ⟨_, _, rfl⟩

@[simp]
theorem countWrite_segments (read : PeriodRead) (id : SegmentId) : (read.countWrite id).segments = read.segments := by
  obtain ⟨_, _, eq⟩ := read.countWrite_changes id
  rw [eq]

@[simp]
theorem countWrite_drained (read : PeriodRead) (id : SegmentId) : (read.countWrite id).drained = read.drained := by
  obtain ⟨_, _, eq⟩ := read.countWrite_changes id
  rw [eq]

@[simp]
theorem countWrite_history (read : PeriodRead) (id : SegmentId) : (read.countWrite id).history = read.history := by
  obtain ⟨_, _, eq⟩ := read.countWrite_changes id
  rw [eq]

@[simp]
theorem skipFinished_segments (read : PeriodRead) :
    read.skipFinished.segments = read.segments.dropWhile (·.finished) := by
  simp only [skipFinished]
  split_ifs with none_
  · exact ((List.dropWhile_suffix _).eq_of_length none_).symm
  · rfl

@[simp]
theorem skipFinished_drained (read : PeriodRead) : read.skipFinished.drained = read.drained := by
  simp only [skipFinished]
  split_ifs <;> rfl

@[simp]
theorem skipFinished_history (read : PeriodRead) : read.skipFinished.history = read.history := by
  simp only [skipFinished]
  split_ifs <;> rfl

@[simp]
theorem finalizeFrontCompletion_segments (read : PeriodRead) (front : AssistantSegment) :
    (read.finalizeFrontCompletion front).segments = read.segments := by
  unfold finalizeFrontCompletion
  split_ifs <;> rfl

@[simp]
theorem finalizeFrontCompletion_history (read : PeriodRead) (front : AssistantSegment) :
    (read.finalizeFrontCompletion front).history = read.history := by
  unfold finalizeFrontCompletion
  split_ifs <;> rfl

@[simp]
theorem finalizeFrontCompletion_drained (read : PeriodRead) (front : AssistantSegment) :
    (read.finalizeFrontCompletion front).drained = read.drained ++ front.completion := by
  unfold finalizeFrontCompletion AssistantSegment.completion
  split_ifs <;> simp

/-- Everything that one round of the frame loop can do, but for the bookkeeping of the writes. -/
theorem readFrame_cases (context : Option VolumeContext) (read : PeriodRead) :
    (read.segments.dropWhile (·.finished) = [] ∧ (read.readFrame context).segments = [] ∧
      (read.readFrame context).drained = read.drained ∧ (read.readFrame context).history = read.history) ∨
    ∃ front rest, read.segments.dropWhile (·.finished) = front :: rest ∧
      (read.readFrame context).history = .mixed front.id front.stamp context :: read.history ∧
      (((front.render context).finished = true ∧ (read.readFrame context).segments = rest ∧
        (read.readFrame context).drained = read.drained ++ (front.render context).completion) ∨
      ((front.render context).finished = false ∧ (read.readFrame context).segments = front.render context :: rest ∧
        (read.readFrame context).drained = read.drained)) := by
  cases after : read.segments.dropWhile (·.finished) with
  | nil =>
    have idle : read.readFrame context = read.skipFinished.endWrite := by
      simp only [readFrame, (read.skipFinished_segments).trans after]
    exact .inl ⟨rfl, by simp [idle, after], by simp [idle], by simp [idle]⟩
  | cons front rest =>
    have nonempty : read.skipFinished.segments = front :: rest := (read.skipFinished_segments).trans after
    right
    refine ⟨front, rest, rfl, ?_, ?_⟩
    · simp only [readFrame, nonempty]
      split_ifs <;> simp
    · simp only [readFrame, nonempty]
      split_ifs with finished
      · exact .inl ⟨finished, by simp, by simp⟩
      · exact .inr ⟨Bool.eq_false_iff.mpr finished, by simp, by simp⟩

end PeriodRead

/-- `OutputCore` and the `TtsBridge` in front of it, as the audio loop of the daemon holds the two. -/
structure OutputCore where
  periodFrames : Nat
  assistant : List AssistantSegment
  ledger : PlayoutLedger
  loudness : AssistantLoudness
  activeAssistantDecision : Option (SegmentId × AssistantGainDecision)
  drainedPendingEnd : List (SegmentId × Option SegmentPlayback)
  framesWritten : Nat
  history : List TtsEvent
deriving DecidableEq

structure TtsBridge where
  openSegment : Option SegmentId
  activeEpoch : Nat
  maxPendingFrames : Nat
  core : OutputCore
deriving DecidableEq

namespace OutputCore

def new (periodFrames : Nat) : OutputCore where
  periodFrames := periodFrames
  assistant := []
  ledger := .new
  loudness := ⟨none⟩
  activeAssistantDecision := none
  drainedPendingEnd := []
  framesWritten := 0
  history := []

def note (core : OutputCore) (event : TtsEvent) : OutputCore := { core with history := event :: core.history }

def pendingAssistantFrames (core : OutputCore) : Nat := (core.assistant.map (·.pendingFrames)).sum

def startAssistantSegmentWithProfile (core : OutputCore) (providerItemId : Option Token) (kind : SegmentKind)
    (decision : AssistantGainDecision) : OutputCore × SegmentId :=
  let started := core.ledger.startSegment providerItemId kind
  ({ core with ledger := started.1, activeAssistantDecision := some (started.2, decision) }, started.2)

def appendAssistantAudioWithSegmentGain (core : OutputCore) (id : SegmentId) (chunk : Chunk) (stamp : Nat) :
    OutputCore :=
  match core.ledger.find id with
  | none => core
  | some segment =>
    if chunk.samples = [] then core
    else
      let decision := (core.activeAssistantDecision.filter (·.1 = id)).map (·.2)
      let frames := chunk.samples.length / channels
      let entry : AssistantSegment := {
        id := id
        samples := chunk.samples
        cursorSamples := 0
        decision := decision
        referenceEligible := segment.kind = .assistant
        lastContext := none
        disqualified := false
        stamp := stamp }
      { core with
        ledger := core.ledger.modify id (·.queueFrames frames)
        assistant := core.assistant ++ [entry] }.note (.queued id frames stamp)

def completeAssistantReference (core : OutputCore) (id : SegmentId) : Option SegmentPlayback → OutputCore
  | none => core
  | some _ => core.note (.completed id)

-- The first entry of the segment is taken out.
def takePending (id : SegmentId) : List (SegmentId × Option SegmentPlayback) →
    Option (Option SegmentPlayback × List (SegmentId × Option SegmentPlayback))
  | [] => none
  | entry :: rest =>
    if entry.1 = id then some (entry.2, rest)
    else (takePending id rest).map fun taken => (taken.1, entry :: taken.2)

def endAssistantSegment (core : OutputCore) (id : SegmentId) : OutputCore :=
  let ended : OutputCore := { core with ledger := core.ledger.modify id (·.finish) }.note (.ended id)
  match takePending id ended.drainedPendingEnd with
  | some (playback, rest) => { ended with drainedPendingEnd := rest }.completeAssistantReference id playback
  | none => ended

def processDrainedPlayback (core : OutputCore) (completion : DrainedPlayback) : OutputCore :=
  if core.ledger.isEnded completion.id then core.completeAssistantReference completion.id completion.playback
  else { core with drainedPendingEnd := core.drainedPendingEnd ++ [(completion.id, completion.playback)] }

def processDrainedPlaybacks (core : OutputCore) (drained : List DrainedPlayback) : OutputCore :=
  drained.foldl processDrainedPlayback core

theorem completeAssistantReference_changes (core : OutputCore) (id : SegmentId) (playback : Option SegmentPlayback) :
    core.completeAssistantReference id playback =
      { core with history := (if playback.isSome then [.completed id] else []) ++ core.history } := by
  cases playback <;> rfl

theorem endAssistantSegment_changes (core : OutputCore) (id : SegmentId) :
    ∃ pending events, core.endAssistantSegment id =
      { core with
        ledger := core.ledger.modify id (·.finish)
        drainedPendingEnd := pending
        history := events ++ core.history } ∧ ∀ event ∈ events, event.closes = true := by
  simp only [endAssistantSegment]
  split
  next playback rest _ =>
    rw [completeAssistantReference_changes]
    refine ⟨rest, (if playback.isSome then [.completed id] else []) ++ [.ended id], ?_, ?_⟩
    · rw [List.append_assoc]
      rfl
    · intro event among
      rcases List.mem_append.mp among with here | here
      · split_ifs at here
        · rw [List.mem_singleton.mp here]
          rfl
        · cases here
      · rw [List.mem_singleton.mp here]
        rfl
  next => exact ⟨core.drainedPendingEnd, [.ended id], rfl, by simp [TtsEvent.closes]⟩

theorem processDrainedPlaybacks_changes (core : OutputCore) (drained : List DrainedPlayback) :
    ∃ pending events, core.processDrainedPlaybacks drained =
      { core with drainedPendingEnd := pending, history := events ++ core.history } ∧
      ∀ event ∈ events, event.closes = true := by
  induction drained generalizing core with
  | nil => exact ⟨core.drainedPendingEnd, [], rfl, by simp⟩
  | cons completion rest ih =>
    obtain ⟨pending, events, eq, closing⟩ := ih (core.processDrainedPlayback completion)
    rw [processDrainedPlaybacks, List.foldl_cons]
    refine ⟨pending, events ++ if core.ledger.isEnded completion.id ∧ completion.playback.isSome then
      [.completed completion.id] else [], eq.trans ?_, ?_⟩
    · unfold processDrainedPlayback
      split_ifs with ended trains trains
      · rw [completeAssistantReference_changes, if_pos trains.2]
        simp
      · rw [completeAssistantReference_changes, if_neg fun some_ => trains ⟨ended, some_⟩]
        simp
      · exact absurd trains.1 ended
      · simp
    · intro event among
      rcases List.mem_append.mp among with here | here
      · exact closing event here
      · split_ifs at here
        · rw [List.mem_singleton.mp here]
          rfl
        · cases here

def markWrites (ledger : PlayoutLedger) : List SegmentWrite → Nat → PlayoutLedger
  | [], _ => ledger
  | write :: rest, cursor =>
    markWrites (ledger.modify write.id (·.markWrittenFramesAt write.frames cursor)) rest (cursor + write.frames)

def prepareRead (core : OutputCore) : PeriodRead :=
  PeriodRead.readFrames core.loudness.currentVolumeContext core.periodFrames
    ⟨core.assistant, none, [], [], core.history⟩

def preparePeriod (core : OutputCore) : OutputCore × List SegmentWrite :=
  let read := core.prepareRead
  ({ core with assistant := read.segments, history := read.history }.processDrainedPlaybacks read.drained,
    read.writes)

def commitPreparedPeriod (core : OutputCore) (writes : List SegmentWrite) (dacDelayFrames : Nat) : OutputCore :=
  let acceptedEndFrame := core.framesWritten + core.periodFrames
  let written := markWrites core.ledger writes core.framesWritten
  let drained := written.markDrainedThrough (acceptedEndFrame - dacDelayFrames)
  { core with
    ledger := drained.pruneTerminalSegments defaultTerminalSegmentRetention
    framesWritten := acceptedEndFrame }

-- The audio loop prepares and commits in strict alternation.
def step (core : OutputCore) (dacDelayFrames : Nat) : OutputCore :=
  let prepared := core.preparePeriod
  prepared.1.commitPreparedPeriod prepared.2 dacDelayFrames

def flushAssistant (core : OutputCore) : OutputCore :=
  { core with
    assistant := []
    activeAssistantDecision := none
    drainedPendingEnd := []
    ledger := core.ledger.flushOpenSegments.pruneTerminalSegments defaultTerminalSegmentRetention }

def updateVolumeContext (core : OutputCore) (context : VolumeContext) : OutputCore × Bool :=
  match core.loudness.updateVolumeContext context with
  | (loudness, true) => ({ core with loudness := loudness }.note (.accepted context), true)
  | (_, false) => (core, false)

def clearVolumeContext (core : OutputCore) : OutputCore := { core with loudness := core.loudness.clearVolumeContext }

end OutputCore

namespace TtsBridge

def new (periodFrames maxPendingFrames : Nat) : TtsBridge where
  openSegment := none
  activeEpoch := 0
  maxPendingFrames := maxPendingFrames
  core := .new periodFrames

def drainFlush (bridge : TtsBridge) (epoch : Nat) : TtsBridge :=
  { bridge with
    openSegment := none
    activeEpoch := epoch
    core := bridge.core.flushAssistant.note (.flushed epoch) }

def closeOpenSegment (bridge : TtsBridge) : TtsBridge :=
  match bridge.openSegment with
  | none => bridge
  | some id => { bridge with openSegment := none, core := bridge.core.endAssistantSegment id }

def startSegment (bridge : TtsBridge) (providerItemId : Option Token) (kind : SegmentKind)
    (decision : AssistantGainDecision) : TtsBridge :=
  let started := bridge.core.startAssistantSegmentWithProfile providerItemId kind decision
  { bridge with openSegment := some started.2, core := started.1 }

-- Audio outside a segment opens one for itself.
def openForAudio (bridge : TtsBridge) (decision : AssistantGainDecision) : TtsBridge :=
  if bridge.openSegment.isNone then bridge.startSegment none .assistant decision else bridge

def appendOpen (bridge : TtsBridge) (stamp : Nat) (chunk : Chunk) : TtsBridge :=
  match bridge.openSegment with
  | none => bridge
  | some id => { bridge with core := bridge.core.appendAssistantAudioWithSegmentGain id chunk stamp }

def acceptAudio (bridge : TtsBridge) (stamp : Nat) (chunk : Chunk) (decision : AssistantGainDecision) : TtsBridge :=
  if bridge.maxPendingFrames < bridge.core.pendingAssistantFrames + chunk.samples.length / channels then bridge
  else (bridge.openForAudio decision).appendOpen stamp chunk

-- Fail closed: a prepare without a usable context takes the held one away.
def prepareContext (bridge : TtsBridge) (volumeContext : Option VolumeContext) : TtsBridge :=
  match volumeContext with
  | none => { bridge with core := bridge.core.clearVolumeContext }
  | some context =>
    match bridge.core.updateVolumeContext context with
    | (core, true) => { bridge with core := core }
    | (core, false) => { bridge with core := core.clearVolumeContext }

-- The decision is what the loudness engine answers if the command starts a segment.
def takeCommand (bridge : TtsBridge) (queued : QueuedTtsCommand) (decision : AssistantGainDecision) : TtsBridge :=
  if queued.epoch ≠ bridge.activeEpoch ∧ queued.command.isRestore = false then
    { bridge with core := bridge.core.note (.discarded queued) }
  else match queued.command with
  | .gainDb _ => bridge
  | .prepareAssistant _ _ _ _ volumeContext => bridge.prepareContext volumeContext
  | .volumeContext context => { bridge with core := (bridge.core.updateVolumeContext context).1 }
  -- The duck and the content meter touch nothing that is modelled here.
  | .contentMeterPause => bridge
  | .contentMeterResume => bridge
  | .programDuckOn => bridge
  | .programDuckOff => bridge
  | .segmentStart kind providerItemId _ => bridge.closeOpenSegment.startSegment providerItemId kind decision
  | .audioWide chunk => bridge.acceptAudio queued.epoch chunk decision
  | .segmentEnd => bridge.closeOpenSegment
  | .flushSync => bridge
  | .close => bridge

def step (bridge : TtsBridge) (dacDelayFrames : Nat) : TtsBridge :=
  { bridge with core := bridge.core.step dacDelayFrames }

def act (bridge : TtsBridge) : TtsAction → TtsBridge
  | .flushes epochs => epochs.foldl drainFlush bridge
  | .command queued decision => bridge.takeCommand queued decision
  | .period dacDelayFrames => bridge.step dacDelayFrames

end TtsBridge

end Jts.Tts.Outputd
