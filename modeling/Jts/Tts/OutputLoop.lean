import Jts.Shared.Tape
import Jts.Tts.BridgeTraining

set_option autoImplicit false

namespace Jts.Tts.Outputd

open Jts.Tts Jts.Shared.Tape Jts.Shared.Transition

namespace PeriodRead

-- The segment that the next frame is taken from.
def sounding (read : PeriodRead) : Option SegmentId := (read.segments.dropWhile (·.finished)).head?.map (·.id)

def soundings (context : Option VolumeContext) : Nat → PeriodRead → List (Option SegmentId)
  | 0, _ => []
  | frames + 1, read => read.sounding :: soundings context frames (read.readFrame context)

-- The frames that the period has handed over so far, as its writes tell them.
def told (read : PeriodRead) : List SegmentId :=
  (read.writes ++ read.currentWrite.toList).flatMap fun write => List.replicate write.frames write.id

end PeriodRead

namespace PeriodRead

variable {context : Option VolumeContext}

theorem told_endWrite (read : PeriodRead) : read.endWrite.told = read.told := by
  simp [told, endWrite]

theorem told_skipFinished (read : PeriodRead) : read.skipFinished.told = read.told := by
  simp only [skipFinished]
  split_ifs
  · rfl
  · exact told_endWrite read

theorem told_countWrite (read : PeriodRead) (id : SegmentId) : (read.countWrite id).told = read.told ++ [id] := by
  unfold countWrite
  split
  next write current =>
    split_ifs with same
    · simp [told, current, same, List.replicate_succ']
    · simp [told, endWrite, current]
  next current => simp [told, current]

theorem told_readFrame (read : PeriodRead) : (read.readFrame context).told = read.told ++ read.sounding.toList := by
  cases after : read.segments.dropWhile (·.finished) with
  | nil => simp [readFrame, sounding, after, told_endWrite, told_skipFinished]
  | cons front rest =>
    have kept (segments : List AssistantSegment) (drained : List DrainedPlayback) (history : List TtsEvent) :
        ({ read.skipFinished with segments := segments, drained := drained, history := history } : PeriodRead).told =
          read.told := told_skipFinished read
    simp only [readFrame, skipFinished_segments, after, sounding, List.head?_cons, Option.map_some, Option.toList_some]
    split_ifs
    · rw [told_countWrite, finalizeFrontCompletion]
      split_ifs
      · rw [kept]
      · exact congrArg (· ++ [front.id]) (kept rest read.skipFinished.drained _)
    · rw [told_countWrite]
      exact congrArg (· ++ [front.id]) (kept _ read.skipFinished.drained _)

theorem soundings_length (frames : Nat) (read : PeriodRead) : (soundings context frames read).length = frames := by
  induction frames generalizing read with
  | zero => rfl
  | succ frames ih => rw [soundings, List.length_cons, ih]

theorem sounding_none {read : PeriodRead} (silent : read.sounding = none) :
    (read.readFrame context).sounding = none := by
  simp only [sounding, Option.map_eq_none_iff, List.head?_eq_none_iff] at silent
  simp [readFrame, silent, sounding]

/-- The writes tell the frames of the period in their order, and silence only follows the last of them. -/
theorem soundings_told (frames : Nat) (read : PeriodRead) :
    ∃ ids idle, soundings context frames read = ids.map some ++ List.replicate idle none ∧
      (readFrames context frames read).told = read.told ++ ids ∧ (read.sounding = none → ids = []) := by
  induction frames generalizing read with
  | zero => exact ⟨[], 0, rfl, by simp [readFrames, told_endWrite], fun _ => rfl⟩
  | succ frames ih =>
    obtain ⟨ids, idle, later, told_, silence⟩ := ih (read.readFrame context)
    rw [told_readFrame] at told_
    cases front : read.sounding with
    | none =>
      rw [front, silence (sounding_none front)] at told_
      refine ⟨[], idle + 1, ?_, by simpa [readFrames] using told_, fun _ => rfl⟩
      rw [soundings, front, later, silence (sounding_none front)]
      rfl
    | some id =>
      rw [front] at told_
      exact ⟨id :: ids, idle, by rw [soundings, front, later]; rfl, by simpa [readFrames] using told_, fun none_ => by cases none_⟩

theorem readFrames_currentWrite (frames : Nat) (read : PeriodRead) :
    (readFrames context frames read).currentWrite = none := by
  induction frames generalizing read with
  | zero => rfl
  | succ frames ih => exact ih _

end PeriodRead

structure PreparedPeriod where
  writes : List SegmentWrite
  rendered : List (Option SegmentId)
deriving DecidableEq

/-- The audio loop with a period that may lie between its preparation and its commit. What the DAC has accepted,
frame by frame, and what each commit said of the delay are recorded here and nowhere in the source. -/
structure OutputLoop where
  bridge : TtsBridge
  prepared : Option PreparedPeriod
  tape : List (Option SegmentId)
  cuts : List Cut
deriving DecidableEq

inductive LoopAction
  | flush (epoch : Nat)
  | command (queued : QueuedTtsCommand) (decision : AssistantGainDecision)
  | prepare
  | commit (dacDelayFrames : Nat)

def OutputCore.rendered (core : OutputCore) : List (Option SegmentId) :=
  PeriodRead.soundings core.loudness.currentVolumeContext core.periodFrames core.held

/-- What is rendered is what the writes of the prepared period say, and then silence. -/
theorem OutputCore.rendered_eq (core : OutputCore) :
    core.rendered.length = core.periodFrames ∧
      ∃ idle, core.rendered = (core.preparePeriod.2.flatMap fun write => List.replicate write.frames write.id).map some ++
        List.replicate idle none := by
  refine ⟨PeriodRead.soundings_length _ _, ?_⟩
  obtain ⟨ids, idle, sounds, told, _⟩ := @PeriodRead.soundings_told core.loudness.currentVolumeContext
    core.periodFrames core.held
  have ended := @PeriodRead.readFrames_currentWrite core.loudness.currentVolumeContext
    core.periodFrames core.held
  rw [PeriodRead.told, ended] at told
  have spread : ids = core.preparePeriod.2.flatMap fun write => List.replicate write.frames write.id := by
    simpa [PeriodRead.told, OutputCore.held, OutputCore.preparePeriod, OutputCore.prepareRead] using told.symm
  exact ⟨idle, spread ▸ sounds⟩

namespace OutputLoop

def new (periodFrames maxPendingFrames : Nat) : OutputLoop where
  bridge := .new periodFrames maxPendingFrames
  prepared := none
  tape := []
  cuts := []

def ledger (loop : OutputLoop) : PlayoutLedger := loop.bridge.core.ledger

def prepare (loop : OutputLoop) : OutputLoop :=
  let prepared := loop.bridge.core.preparePeriod
  { loop with
    bridge := { loop.bridge with core := prepared.1 }
    prepared := some ⟨prepared.2, loop.bridge.core.rendered⟩ }

def commit (loop : OutputLoop) (period : PreparedPeriod) (dacDelayFrames : Nat) : OutputLoop :=
  let core := loop.bridge.core.commitPreparedPeriod period.writes dacDelayFrames
  { bridge := { loop.bridge with core := core }
    prepared := none
    tape := loop.tape ++ period.rendered
    cuts := ⟨core.framesWritten, core.framesWritten - dacDelayFrames⟩ :: loop.cuts }

-- The source asserts that preparations and commits alternate.
def step (loop : OutputLoop) : LoopAction → Option OutputLoop
  | .flush epoch => some { loop with bridge := loop.bridge.drainFlush epoch }
  | .command queued decision => some { loop with bridge := loop.bridge.takeCommand queued decision }
  | .prepare => if loop.prepared.isSome then none else some loop.prepare
  | .commit dacDelayFrames => loop.prepared.map fun period => loop.commit period dacDelayFrames

def Starts (loop : OutputLoop) : Prop := ∃ periodFrames maxPendingFrames, loop = .new periodFrames maxPendingFrames

def system : System OutputLoop LoopAction := ofFn Starts step

/-- A period of the bridge is a preparation and a commit with nothing between them. -/
theorem period_of_steps {loop prepared next : OutputLoop} {dacDelayFrames : Nat}
    (first : loop.step .prepare = some prepared) (second : prepared.step (.commit dacDelayFrames) = some next) :
    next.bridge = loop.bridge.act (.period dacDelayFrames) := by
  simp only [step, Option.ite_none_left_eq_some, Option.some.injEq] at first
  obtain ⟨_, rfl⟩ := first
  simp only [step, prepare, Option.map_some, Option.some.injEq] at second
  subst second
  rfl

end OutputLoop

/-- A change of the bridge that leaves the ledger, the queue and the clock as they are. -/
structure Quiet (before after : TtsBridge) : Prop where
  openSegment : after.openSegment = before.openSegment
  ledger : after.core.ledger = before.core.ledger
  assistant : after.core.assistant = before.core.assistant
  framesWritten : after.core.framesWritten = before.core.framesWritten
  periodFrames : after.core.periodFrames = before.core.periodFrames

-- The bridge takes the command and ends the segment that is open.
def TtsBridge.closes (bridge : TtsBridge) (queued : QueuedTtsCommand) : Bool :=
  queued.epoch == bridge.activeEpoch && match queued.command with
    | .segmentStart _ _ _ => true
    | .segmentEnd => true
    | _ => false

namespace TtsBridge

theorem quiet_updateVolumeContext (bridge : TtsBridge) (context : VolumeContext) :
    Quiet bridge { bridge with core := (bridge.core.updateVolumeContext context).1 } := by
  unfold OutputCore.updateVolumeContext
  split <;> exact ⟨rfl, rfl, rfl, rfl, rfl⟩

theorem quiet_prepareContext (bridge : TtsBridge) (volumeContext : Option VolumeContext) :
    Quiet bridge (bridge.prepareContext volumeContext) := by
  cases volumeContext with
  | none => exact ⟨rfl, rfl, rfl, rfl, rfl⟩
  | some context =>
    have quiet := bridge.quiet_updateVolumeContext context
    simp only [prepareContext]
    split
    next core updated =>
      rw [updated] at quiet
      exact quiet
    next core updated =>
      rw [updated] at quiet
      exact ⟨quiet.openSegment, quiet.ledger, quiet.assistant, quiet.framesWritten, quiet.periodFrames⟩

/-- Everything that a command can do to the ledger. -/
theorem takeCommand_cases (bridge : TtsBridge) (queued : QueuedTtsCommand) (decision : AssistantGainDecision) :
    Quiet bridge (bridge.takeCommand queued decision) ∨
    (bridge.closes queued = true ∧ (bridge.takeCommand queued decision = bridge.closeOpenSegment ∨
      ∃ item kind, bridge.takeCommand queued decision = bridge.closeOpenSegment.startSegment item kind decision)) ∨
    ∃ chunk, bridge.takeCommand queued decision = (bridge.openForAudio decision).appendOpen queued.epoch chunk := by
  obtain ⟨epoch, command⟩ := queued
  unfold takeCommand
  split_ifs with stale
  · exact .inl ⟨rfl, rfl, rfl, rfl, rfl⟩
  cases command with
  | gainDb => exact .inl ⟨rfl, rfl, rfl, rfl, rfl⟩
  | prepareAssistant _ _ _ _ volumeContext => exact .inl (bridge.quiet_prepareContext volumeContext)
  | volumeContext context => exact .inl (bridge.quiet_updateVolumeContext context)
  | contentMeterPause => exact .inl ⟨rfl, rfl, rfl, rfl, rfl⟩
  | contentMeterResume => exact .inl ⟨rfl, rfl, rfl, rfl, rfl⟩
  | programDuckOn => exact .inl ⟨rfl, rfl, rfl, rfl, rfl⟩
  | programDuckOff => exact .inl ⟨rfl, rfl, rfl, rfl, rfl⟩
  | segmentStart kind item profile =>
    have current : epoch = bridge.activeEpoch := by simpa [TtsCommand.isRestore] using stale
    exact .inr (.inl ⟨by simp [closes, current], .inr ⟨item, kind, rfl⟩⟩)
  | audioWide chunk =>
    simp only [acceptAudio]
    split_ifs
    · exact .inl ⟨rfl, rfl, rfl, rfl, rfl⟩
    · exact .inr (.inr ⟨chunk, rfl⟩)
  | segmentEnd =>
    have current : epoch = bridge.activeEpoch := by simpa [TtsCommand.isRestore] using stale
    exact .inr (.inl ⟨by simp [closes, current], .inl rfl⟩)
  | flushSync => exact .inl ⟨rfl, rfl, rfl, rfl, rfl⟩
  | close => exact .inl ⟨rfl, rfl, rfl, rfl, rfl⟩

end TtsBridge

end Jts.Tts.Outputd
