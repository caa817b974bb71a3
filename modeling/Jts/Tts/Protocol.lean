import Mathlib.Data.List.Basic
import Mathlib.Tactic.Common

set_option autoImplicit false

namespace Jts.Tts

-- An `f32` is kept as its bits: no branch of the two daemons reads more than whether a level is finite.
structure F32 where
  bits : UInt32
deriving DecidableEq

def F32.isFinite (value : F32) : Bool := value.bits &&& 0x7f800000 != 0x7f800000

-- The ASCII text of a wire token.
abbrev Token := List UInt8

def channels : Nat := 2

inductive SegmentKind
  | assistant
  | cue
  | chirp
deriving DecidableEq

structure AssistantProfile where
  provider : Token
  model : Token
  voice : Token
  sourceLufs : Option F32
  sourcePeakDbfs : Option F32
  confidence : F32
deriving DecidableEq

structure VolumeContext where
  canonicalDb : F32
  downstreamDb : F32
  ttsEnvelopeLufs : F32
  muted : Bool
  stampBootNs : Nat
deriving DecidableEq

/-- The samples of one `AUDIO32` command. The decoder refuses a payload that is not whole stereo frames. -/
structure Chunk where
  samples : List Int32
  whole : samples.length % channels = 0
deriving DecidableEq

def Chunk.silent (frames : Nat) : Chunk := ⟨List.replicate (channels * frames) 0, by simp⟩

inductive TtsCommand
  | gainDb (gain : F32)
  | prepareAssistant (provider model voice : Token) (ttsEnvelopeLufs : F32) (volumeContext : Option VolumeContext)
  | volumeContext (context : VolumeContext)
  | contentMeterPause
  | contentMeterResume
  | programDuckOn
  | programDuckOff
  | segmentStart (kind : SegmentKind) (providerItemId : Option Token) (profile : Option AssistantProfile)
  | audioWide (chunk : Chunk)
  | segmentEnd
  | flushSync
  | close
deriving DecidableEq

def TtsCommand.isAudio : TtsCommand → Bool
  | .audioWide _ => true
  | _ => false

def TtsCommand.audioFrames : TtsCommand → Nat
  | .audioWide chunk => chunk.samples.length / channels
  | _ => 0

-- The commands that both daemons let through the epoch gate.
def TtsCommand.isRestore : TtsCommand → Bool
  | .programDuckOff | .contentMeterResume | .volumeContext _ => true
  | _ => false

def TtsCommand.offered : TtsCommand → Option VolumeContext
  | .prepareAssistant _ _ _ _ offered => offered
  | .volumeContext context => some context
  | _ => none

structure QueuedTtsCommand where
  epoch : Nat
  command : TtsCommand
deriving DecidableEq

structure QueuedFlush where
  epoch : Nat
deriving DecidableEq

-- The field of a gain decision that is kept outside the loudness arithmetic.
structure AssistantGainDecision where
  finalGainDb : F32
deriving DecidableEq

/-- What a daemon has done. A run keeps these newest first, beside the state of the source. -/
inductive TtsEvent
  | queued (segment frames stamp : Nat)
  | ended (segment : Nat)
  | mixed (segment stamp : Nat) (context : Option VolumeContext)
  | completed (segment : Nat)
  | flushed (epoch : Nat)
  | accepted (context : VolumeContext)
  | discarded (queued : QueuedTtsCommand)
deriving DecidableEq

def framesQueued (segment : Nat) : List TtsEvent → Nat
  | [] => 0
  | .queued owner frames _ :: past => (if owner = segment then frames else 0) + framesQueued segment past
  | _ :: past => framesQueued segment past

def framesMixed (segment : Nat) : List TtsEvent → Nat
  | [] => 0
  | .mixed owner _ _ :: past => (if owner = segment then 1 else 0) + framesMixed segment past
  | _ :: past => framesMixed segment past

def acceptedStamps (history : List TtsEvent) : List Nat :=
  history.filterMap fun event => match event with
    | .accepted context => some context.stampBootNs
    | _ => none

-- The events of a segment that closes.
def TtsEvent.closes : TtsEvent → Bool
  | .ended _ | .completed _ => true
  | _ => false

/-- What the thread of a daemon does next. The number of a period is that of its frames in fan-in, and the DAC
delay in outputd. -/
inductive TtsAction
  | flushes (epochs : List Nat)
  | command (queued : QueuedTtsCommand) (decision : AssistantGainDecision)
  | period (size : Nat)
deriving DecidableEq

end Jts.Tts
