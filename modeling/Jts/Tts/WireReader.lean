import Jts.Tts.Wire

set_option autoImplicit false

namespace Jts.Tts

open Shared.Line
open Shared.Decimal (isDigit value)

def maxAudioBytes : Nat := 2 * 1024 * 1024

def maxCommandLineBytes : Nat := 8 * 1024

inductive ReadError
  | invalidUtf8
  | invalidData (message : String)
  | unknownCommand (line : Token)
  | unexpectedEof
deriving DecidableEq

def SegmentKind.fromProtocol (text : Token) : Option SegmentKind :=
  if text = ascii "assistant" then some .assistant
  else if text = ascii "cue" then some .cue
  else if text = ascii "chirp" then some .chirp
  else none

def withoutPlus : Token → Token
  | 43 :: digits => digits
  | text => text

def withoutSign : Token → Token
  | 45 :: digits => digits
  | text => withoutPlus text

-- `str::parse` of an unsigned word of 64 bits.
def parseUnsigned (text : Token) : Option Nat :=
  let digits := withoutPlus text
  if digits = [] ∨ !digits.all isDigit then none
  else if value digits < 2 ^ 64 then some (value digits) else none

-- The exponent of `str::parse::<f32>`, which stops growing well before it could overflow.
def parseScientific (text : Token) : Option Int :=
  let negative := text.head? = some 45
  let digits := withoutSign text
  if digits = [] ∨ !digits.all isDigit then none
  else
    let exponent : Nat := digits.foldl (fun read byte => if read < 0x10000 then 10 * read + (byte.toNat - 48) else read) 0
    some (if negative then -(exponent : Int) else exponent)

/-- The digits of a number and the power of ten that scales them. -/
def parseNumber (text : Token) : Option (Nat × Int) :=
  let whole := text.takeWhile isDigit
  let text := text.dropWhile isDigit
  let fraction := match text with
    | 46 :: text => text.takeWhile isDigit
    | _ => []
  let text := match text with
    | 46 :: text => text.dropWhile isDigit
    | _ => text
  if whole = [] ∧ fraction = [] then none
  else match text with
    | [] => some (value (whole ++ fraction), -(fraction.length : Int))
    | byte :: text =>
        if byte = 101 ∨ byte = 69 then
          (parseScientific text).map fun exponent => (value (whole ++ fraction), exponent - fraction.length)
        else none

def lowered (text : Token) : Token := text.map fun byte => if 65 ≤ byte ∧ byte ≤ 90 then byte + 32 else byte

def parseInfNan (text : Token) (negative : Bool) : Option F32 :=
  if lowered text = ascii "inf" ∨ lowered text = ascii "infinity" then some (.infinite negative)
  else if lowered text = ascii "nan" then some (.nan negative)
  else none

-- `str::parse::<f32>`.
def parseF32 (text : Token) : Option F32 :=
  let negative : Bool := text.head? = some 45
  match parseNumber (withoutSign text) with
  | some (digits, exponent) => some (.nearest negative (digits * 10 ^ exponent.toNat) (10 ^ (-exponent).toNat))
  | none => parseInfNan (withoutSign text) negative

def F32.negative (value : F32) : Bool := value.bits >>> 31 == 1

def F32.magnitude (value : F32) : UInt32 := value.bits &&& 0x7fffffff

-- The bounds are the bits of 120.0 and of 1.0.
def assistantProfileDbInRange (value : F32) : Bool :=
  value.isFinite && (value.magnitude == 0 || (value.negative && value.magnitude ≤ 0x42f00000))

def assistantProfileConfidenceInRange (value : F32) : Bool :=
  value.isFinite && (value.magnitude == 0 || (!value.negative && value.magnitude ≤ 0x3f800000))

def orError {α : Type} (message : String) : Option α → Except ReadError α
  | some value => .ok value
  | none => .error (.invalidData message)

def check (condition : Bool) (message : String) : Except ReadError Unit :=
  if condition then .ok () else .error (.invalidData message)

def asciiGraphic (byte : UInt8) : Bool := 33 ≤ byte && byte ≤ 126

def validateToken (text : Token) (field : String) : Except ReadError Unit :=
  check (!text.isEmpty && text.all asciiGraphic) ("invalid " ++ field)

def parseRequiredF32 (text : Token) (field : String) : Except ReadError F32 := do
  let parsed ← orError ("invalid " ++ field) (parseF32 text)
  check parsed.isFinite ("non-finite " ++ field)
  return parsed

def parseOptionalF32 (text : Token) (field : String) : Except ReadError (Option F32) :=
  if text = ascii "-" then .ok none else some <$> parseRequiredF32 text field

def parseOptionalProfileDb (text : Token) (field : String) : Except ReadError (Option F32) := do
  match ← parseOptionalF32 text field with
  | none => return none
  | some parsed =>
      check (assistantProfileDbInRange parsed) (field ++ " must be between -120 and 0")
      return some parsed

def parseProfileConfidence (text : Token) (field : String) : Except ReadError F32 := do
  let parsed ← parseRequiredF32 text field
  check (assistantProfileConfidenceInRange parsed) (field ++ " must be between 0 and 1")
  return parsed

def parseBoolToken (text : Token) (field : String) : Except ReadError Bool :=
  if text = ascii "0" then .ok false
  else if text = ascii "1" then .ok true
  else .error (.invalidData ("invalid " ++ field ++ "; expected 0 or 1"))

def parseVolumeContext (parts : List Token) (command : String) : Except ReadError VolumeContext := do
  let canonicalDb ← orError ("missing " ++ command ++ " canonical dB") parts[0]?
  let downstreamDb ← orError ("missing " ++ command ++ " downstream dB") parts[1]?
  let ttsEnvelopeLufs ← orError ("missing " ++ command ++ " context silence target") parts[2]?
  let muted ← orError ("missing " ++ command ++ " mute") parts[3]?
  let stampBootNs ← orError ("missing " ++ command ++ " context stamp") parts[4]?
  check parts[5]?.isNone (command ++ " volume context expects exactly five arguments")
  return {
    canonicalDb := ← parseRequiredF32 canonicalDb (command ++ " canonical dB")
    downstreamDb := ← parseRequiredF32 downstreamDb (command ++ " downstream dB")
    ttsEnvelopeLufs := ← parseRequiredF32 ttsEnvelopeLufs (command ++ " context silence target")
    muted := ← parseBoolToken muted (command ++ " mute")
    stampBootNs := ← orError ("invalid " ++ command ++ " context stamp") (parseUnsigned stampBootNs) }

def samplesOf : List UInt8 → List Int32
  | first :: second :: third :: fourth :: bytes =>
      (first.toUInt32 ||| second.toUInt32 <<< 8 ||| third.toUInt32 <<< 16 ||| fourth.toUInt32 <<< 24).toInt32 ::
        samplesOf bytes
  | _ => []

theorem length_samplesOf (bytes : List UInt8) : (samplesOf bytes).length = bytes.length / 4 := by
  fun_induction samplesOf bytes with
  | case1 first second third fourth bytes ih =>
      simp only [List.length_cons, ih]
      omega
  | case2 bytes short =>
      match bytes, short with
      | [], _ | [_], _ | [_, _], _ | [_, _, _], _ => simp
      | first :: second :: third :: fourth :: bytes, short => exact absurd rfl (short first second third fourth bytes)

/-- The chunk of a payload of whole stereo frames. -/
def chunkOf (bytes : List UInt8) (whole : bytes.length % (channels * 4) = 0) : Chunk where
  samples := samplesOf bytes
  whole := by
    rw [length_samplesOf]
    simp only [channels] at *
    omega

/-- The payload that follows a header, as its chunk, and what is left of the stream. -/
def readAudioPayload (rawLength : Token) (bytes : List UInt8) : Except ReadError (Chunk × List UInt8) :=
  match parseUnsigned rawLength with
  | none => .error (.invalidData "invalid AUDIO32 length")
  | some byteLength =>
      if maxAudioBytes < byteLength then .error (.invalidData "AUDIO32 byte length exceeds max chunk size")
      else if byteLength % 4 ≠ 0 then .error (.invalidData "AUDIO32 byte length must be a whole number of samples")
      else if whole : byteLength % (channels * 4) ≠ 0 then
        .error (.invalidData "AUDIO32 byte length must contain whole stereo frames")
      else if enough : byteLength ≤ bytes.length then
        .ok (chunkOf (bytes.take byteLength) (by simpa [Nat.min_eq_left enough] using whole), bytes.drop byteLength)
      else .error .unexpectedEof

def parseSegmentProfile (provider : Token) (parts : List Token) : Except ReadError AssistantProfile := do
  let model ← orError "missing SEGMENT_START model" parts[0]?
  let voice ← orError "missing SEGMENT_START voice" parts[1]?
  let sourceLufs ← orError "missing SEGMENT_START source_lufs" parts[2]?
  let sourcePeakDbfs ← orError "missing SEGMENT_START source_peak_dbfs" parts[3]?
  let confidence ← orError "missing SEGMENT_START confidence" parts[4]?
  check parts[5]?.isNone "SEGMENT_START has too many arguments"
  validateToken provider "SEGMENT_START provider"
  validateToken model "SEGMENT_START model"
  validateToken voice "SEGMENT_START voice"
  return {
    provider := provider
    model := model
    voice := voice
    sourceLufs := ← parseOptionalProfileDb sourceLufs "SEGMENT_START source_lufs"
    sourcePeakDbfs := ← parseOptionalProfileDb sourcePeakDbfs "SEGMENT_START source_peak_dbfs"
    confidence := ← parseProfileConfidence confidence "SEGMENT_START confidence" }

def parseProviderItemId (text : Token) : Except ReadError (Option Token) :=
  if text = ascii "-" then .ok none
  else do
    validateToken text "SEGMENT_START provider item id"
    return some text

def parseSegmentStart (parts : List Token) : Except ReadError TtsCommand := do
  let rawKind ← orError "missing SEGMENT_START kind" parts[0]?
  let rawProvider ← orError "missing SEGMENT_START provider item id" parts[1]?
  let kind ← orError "invalid SEGMENT_START kind" (SegmentKind.fromProtocol rawKind)
  let providerItemId ← parseProviderItemId rawProvider
  match parts.drop 2 with
  | [] => return .segmentStart kind providerItemId none
  | provider :: parts => return .segmentStart kind providerItemId (some (← parseSegmentProfile provider parts))

def parseOfferedContext (parts : List Token) : Except ReadError (Option VolumeContext) :=
  if parts = [] then .ok none else some <$> parseVolumeContext parts "PREPARE_ASSISTANT"

def parsePrepareAssistant (parts : List Token) : Except ReadError TtsCommand := do
  let provider ← orError "missing PREPARE_ASSISTANT provider" parts[0]?
  let model ← orError "missing PREPARE_ASSISTANT model" parts[1]?
  let voice ← orError "missing PREPARE_ASSISTANT voice" parts[2]?
  let ttsEnvelope ← orError "missing PREPARE_ASSISTANT silence target" parts[3]?
  let volumeContext ← parseOfferedContext (parts.drop 4)
  validateToken provider "PREPARE_ASSISTANT provider"
  validateToken model "PREPARE_ASSISTANT model"
  validateToken voice "PREPARE_ASSISTANT voice"
  let ttsEnvelopeLufs ← parseRequiredF32 ttsEnvelope "PREPARE_ASSISTANT silence target"
  return .prepareAssistant provider model voice ttsEnvelopeLufs volumeContext

def fixedCommand (line : Token) : Option TtsCommand :=
  if line = ascii "FLUSH_SYNC" then some .flushSync
  else if line = ascii "PROGRAM_DUCK_ON" then some .programDuckOn
  else if line = ascii "PROGRAM_DUCK_OFF" then some .programDuckOff
  else if line = ascii "SEGMENT_END" then some .segmentEnd
  else if line = ascii "CLOSE" then some .close
  else if line = ascii "CONTENT_METER_PAUSE" then some .contentMeterPause
  else if line = ascii "CONTENT_METER_RESUME" then some .contentMeterResume
  else none

/-- A trimmed line and the stream behind it. Only `AUDIO32` reads further. -/
def parseCommand (line : Token) (bytes : List UInt8) : Except ReadError (TtsCommand × List UInt8) := do
  if let some command := fixedCommand line then
    return (command, bytes)
  if let some rest := stripPrefix (ascii "GAIN ") line then
    let gain ← parseRequiredF32 rest "GAIN value"
    return (.gainDb gain, bytes)
  if let some rest := stripPrefix (ascii "VOLUME_CONTEXT ") line then
    let context ← parseVolumeContext (fields rest) "VOLUME_CONTEXT"
    return (.volumeContext context, bytes)
  if let some rest := stripPrefix (ascii "AUDIO32 ") line then
    let (chunk, bytes) ← readAudioPayload rest bytes
    return (.audioWide chunk, bytes)
  if let some rest := stripPrefix (ascii "SEGMENT_START ") line then
    let command ← parseSegmentStart (fields rest)
    return (command, bytes)
  if let some rest := stripPrefix (ascii "PREPARE_ASSISTANT ") line then
    let command ← parsePrepareAssistant (fields rest)
    return (command, bytes)
  .error (.unknownCommand line)

/-- The next command and the stream behind it, or nothing at the end of the stream. -/
def readCommand (bytes : List UInt8) : Except ReadError (Option (TtsCommand × List UInt8)) :=
  let line := readLine maxCommandLineBytes bytes
  if !utf8Valid line then .error .invalidUtf8
  else if line.length = 0 then .ok none
  else if maxCommandLineBytes < line.length then .error (.invalidData "TTS command line exceeds maximum length")
  else some <$> parseCommand (trimEnd line) (bytes.drop line.length)

theorem readAudioPayload_le {rawLength : Token} {bytes rest : List UInt8} {chunk : Chunk}
    (read : readAudioPayload rawLength bytes = .ok (chunk, rest)) : rest.length ≤ bytes.length := by
  unfold readAudioPayload at read
  split at read
  · cases read
  · split at read
    · cases read
    · split at read
      · cases read
      · split at read
        · cases read
        · split at read
          · cases read
            simp
          · cases read

theorem ok_of_bind {α β : Type} {result : Except ReadError α} {next : α → Except ReadError β} {value : β}
    (ok : result >>= next = .ok value) : ∃ first, result = .ok first ∧ next first = .ok value := by
  cases result with
  | error => cases ok
  | ok first => exact ⟨first, rfl, ok⟩

theorem parseCommand_le {line : Token} {bytes rest : List UInt8} {command : TtsCommand}
    (parsed : parseCommand line bytes = .ok (command, rest)) : rest.length ≤ bytes.length := by
  unfold parseCommand at parsed
  split at parsed
  · cases parsed
    exact Nat.le_refl _
  · split at parsed
    · obtain ⟨_, _, parsed⟩ := ok_of_bind parsed
      cases parsed
      exact Nat.le_refl _
    · split at parsed
      · obtain ⟨_, _, parsed⟩ := ok_of_bind parsed
        cases parsed
        exact Nat.le_refl _
      · split at parsed
        · obtain ⟨_, read, parsed⟩ := ok_of_bind parsed
          cases parsed
          exact readAudioPayload_le read
        · split at parsed
          · obtain ⟨_, _, parsed⟩ := ok_of_bind parsed
            cases parsed
            exact Nat.le_refl _
          · split at parsed
            · obtain ⟨_, _, parsed⟩ := ok_of_bind parsed
              cases parsed
              exact Nat.le_refl _
            · cases parsed

/-- Every command takes at least the first byte of its line. -/
theorem readCommand_lt {bytes rest : List UInt8} {command : TtsCommand}
    (read : readCommand bytes = .ok (some (command, rest))) : rest.length < bytes.length := by
  have below := (readLine_isPrefix maxCommandLineBytes bytes).length_le
  unfold readCommand at read
  dsimp only at read
  split at read
  · cases read
  · split at read
    · cases read
    · split at read
      · cases read
      · rename_i nonempty _
        cases parsed : parseCommand (trimEnd (readLine maxCommandLineBytes bytes))
            (bytes.drop (readLine maxCommandLineBytes bytes).length) with
        | error =>
            rw [parsed] at read
            cases read
        | ok next =>
            rw [parsed] at read
            cases read
            have left := parseCommand_le parsed
            rw [List.length_drop] at left
            omega

/-- Why the loop over a stream ended: it was at its end, or a command failed. -/
inductive Ended
  | endOfStream
  | failed (error : ReadError)
deriving DecidableEq

/-- What a client's stream is read as. -/
structure Reading where
  commands : List TtsCommand
  ended : Ended
deriving DecidableEq

/-- The commands of a stream, until its end or the first one that fails. -/
def readCommands (bytes : List UInt8) : Reading :=
  match read : readCommand bytes with
  | .error error => { commands := [], ended := .failed error }
  | .ok none => { commands := [], ended := .endOfStream }
  | .ok (some (command, rest)) =>
      have := readCommand_lt read
      let later := readCommands rest
      { commands := command :: later.commands, ended := later.ended }
termination_by bytes.length
end Jts.Tts
