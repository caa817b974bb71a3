import Jts.Shared.Decimal
import Jts.Shared.Line
import Jts.Tts.Protocol

set_option autoImplicit false

namespace Jts.Tts

open Shared.Line (ascii newline space joined)
open Shared.Decimal (write writeLast roundHalfEven)

-- A Python float, as its bits.
structure F64 where
  bits : UInt64
deriving DecidableEq

/-- What a format such as `.3f` prints: a rounded number and its sign, or one of the two words. -/
inductive Rounded
  | number (negative : Bool) (places scaled : Nat)
  | infinite (negative : Bool)
  | nan
deriving DecidableEq

def F64.negative (value : F64) : Bool := value.bits >>> 63 == 1

def F64.rounded (places : Nat) (value : F64) : Rounded :=
  let exponent := ((value.bits >>> 52) &&& 0x7ff).toNat
  let fraction := (value.bits &&& 0xfffffffffffff).toNat
  if exponent = 0x7ff then
    if fraction = 0 then .infinite value.negative else .nan
  else
    -- The unit of the last place of a subnormal is 2 ^ -1074.
    let units := if exponent = 0 then fraction else (2 ^ 52 + fraction) * 2 ^ (exponent - 1)
    .number value.negative places (roundHalfEven (units * 10 ^ places) (2 ^ 1074))

def signText (negative : Bool) : Token := if negative then ascii "-" else []

def Rounded.text : Rounded → Token
  | .number negative places scaled =>
      signText negative ++ write (scaled / 10 ^ places) ++ ascii "." ++ writeLast places scaled
  | .infinite negative => signText negative ++ ascii "inf"
  | .nan => ascii "nan"

/-- The `f32` nearest to a quotient, ties to the even mantissa; past the largest one it is infinite. -/
def F32.nearest (negative : Bool) (dividend divisor : Nat) : F32 :=
  let shift := (dividend * 2 ^ 149 / divisor).log2 - 23
  let mantissa := roundHalfEven (dividend * 2 ^ 149) (divisor * 2 ^ shift)
  let magnitude := min (shift * 2 ^ 23 + mantissa) 0x7f800000
  ⟨(magnitude + if negative then 2 ^ 31 else 0).toUInt32⟩

def F32.infinite (negative : Bool) : F32 := ⟨if negative then 0xff800000 else 0x7f800000⟩

def F32.nan (negative : Bool) : F32 := ⟨if negative then 0xffc00000 else 0x7fc00000⟩

/-- The `f32` that a printed level stands for. -/
def Rounded.toF32 : Rounded → F32
  | .number negative places scaled => .nearest negative scaled (10 ^ places)
  | .infinite negative => .infinite negative
  | .nan => .nan false

def intText (value : Int) : Token := signText (value < 0) ++ write value.natAbs

-- `str.isspace` on an ASCII character.
def isSpace (char : Char) : Bool :=
  (9 ≤ char.toNat && char.toNat ≤ 13) || (28 ≤ char.toNat && char.toNat ≤ 32)

def tokenOk (value : String) : Bool :=
  !value.toList.isEmpty && value.toList.all (·.toNat < 128) && !value.toList.any isSpace

/-- A string that passed `_token_ok`. -/
structure WireToken where
  value : String
  ok : tokenOk value = true
deriving DecidableEq

def WireToken.text (token : WireToken) : Token := ascii token.value

-- A missing or a rejected id goes out as a dash.
def providerToken : Option String → WireToken
  | none => ⟨"-", by decide⟩
  | some value => if ok : tokenOk value = true then ⟨value, ok⟩ else ⟨"-", by decide⟩

def SegmentKind.asStr : SegmentKind → String
  | .assistant => "assistant"
  | .cue => "cue"
  | .chirp => "chirp"

def segmentKind (kind : String) : SegmentKind :=
  if kind = "cue" then .cue else if kind = "chirp" then .chirp else .assistant

structure EffectiveVolumeContext where
  canonicalDb : F64
  downstreamDb : F64
  ttsEnvelopeLufs : F64
  muted : Bool
  stampBootNs : Int
deriving DecidableEq

/-- The profile of a voice, as the daemon's caller hands it over. -/
structure VoiceProfile where
  provider : String
  model : String
  voice : String
  sourceLufs : F64
  sourcePeakDbfs : F64
  confidence : F64
deriving DecidableEq

structure ProfileTokens where
  provider : WireToken
  model : WireToken
  voice : WireToken
  sourceLufs : Rounded
  sourcePeakDbfs : Rounded
  confidence : Rounded
deriving DecidableEq

def profileTokens : Option VoiceProfile → Option ProfileTokens
  | none => none
  | some profile =>
      if provider : tokenOk profile.provider = true then
        if model : tokenOk profile.model = true then
          if voice : tokenOk profile.voice = true then
            some {
              provider := ⟨profile.provider, provider⟩
              model := ⟨profile.model, model⟩
              voice := ⟨profile.voice, voice⟩
              sourceLufs := profile.sourceLufs.rounded 2
              sourcePeakDbfs := profile.sourcePeakDbfs.rounded 2
              confidence := profile.confidence.rounded 2 }
          else none
        else none
      else none

def ProfileTokens.texts (tokens : ProfileTokens) : List Token :=
  [tokens.provider.text, tokens.model.text, tokens.voice.text,
    tokens.sourceLufs.text, tokens.sourcePeakDbfs.text, tokens.confidence.text]

-- Two segments of a stream are the same one when their tokens are.
structure Segment where
  kind : SegmentKind
  providerItemId : WireToken
  profile : Option ProfileTokens
deriving DecidableEq

/-- What the client writes on the socket: a command line, or one with its payload. -/
inductive Sent
  | gain (db : F64)
  | programDuck (on : Bool)
  | prepareAssistant (provider model voice : WireToken) (ttsEnvelopeLufs : F64)
      (volumeContext : Option EffectiveVolumeContext)
  | volumeContext (context : EffectiveVolumeContext)
  | contentMeterPause
  | contentMeterResume
  | segmentStart (segment : Segment)
  | segmentEnd
  | audio (data : List UInt8)
  | flushSync
  | close
deriving DecidableEq

def encode (command : Token) : List UInt8 := command ++ [newline]

def ttsProgramDuck (on : Bool) : Token := if on then ascii "PROGRAM_DUCK_ON" else ascii "PROGRAM_DUCK_OFF"

def ttsGain (db : F64) : Token := ascii "GAIN " ++ (db.rounded 3).text

def ttsAudio (byteCount : Nat) : Token := ascii "AUDIO32" ++ space :: write byteCount

def ttsSegmentStart (kind : SegmentKind) (providerItemId : WireToken) (profileTokens : Option ProfileTokens) : Token :=
  joined ([ascii "SEGMENT_START", ascii kind.asStr, providerItemId.text] ++
    match profileTokens with
    | none => []
    | some tokens => tokens.texts)

def volumeContextTokens (context : EffectiveVolumeContext) : List Token :=
  [(context.canonicalDb.rounded 3).text, (context.downstreamDb.rounded 3).text, (context.ttsEnvelopeLufs.rounded 3).text,
    if context.muted then ascii "1" else ascii "0", intText context.stampBootNs]

def ttsVolumeContext (context : EffectiveVolumeContext) : Token :=
  ascii "VOLUME_CONTEXT " ++ joined (volumeContextTokens context)

def ttsPrepareAssistant (provider model voice : WireToken) (ttsEnvelopeLufs : F64)
    (volumeContext : Option EffectiveVolumeContext) : Token :=
  joined ([ascii "PREPARE_ASSISTANT", provider.text, model.text, voice.text, (ttsEnvelopeLufs.rounded 2).text] ++
    match volumeContext with
    | none => []
    | some context => volumeContextTokens context)

def Sent.line : Sent → Token
  | .gain db => ttsGain db
  | .programDuck on => ttsProgramDuck on
  | .prepareAssistant provider model voice ttsEnvelopeLufs context =>
      ttsPrepareAssistant provider model voice ttsEnvelopeLufs context
  | .volumeContext context => ttsVolumeContext context
  | .contentMeterPause => ascii "CONTENT_METER_PAUSE"
  | .contentMeterResume => ascii "CONTENT_METER_RESUME"
  | .segmentStart segment => ttsSegmentStart segment.kind segment.providerItemId segment.profile
  | .segmentEnd => ascii "SEGMENT_END"
  | .audio data => ttsAudio data.length
  | .flushSync => ascii "FLUSH_SYNC"
  | .close => ascii "CLOSE"

def Sent.payload : Sent → List UInt8
  | .audio data => data
  | _ => []

def Sent.bytes (sent : Sent) : List UInt8 := encode sent.line ++ sent.payload

def stream (sents : List Sent) : List UInt8 := sents.flatMap Sent.bytes

end Jts.Tts
