import Jts.Tts.WireLevels

set_option autoImplicit false

namespace Jts.Tts

open Shared.Line
open Shared.Decimal (write)

-- What the reader's checks leave of each value the client can send: nothing when a check refuses it.
def Rounded.level (rounded : Rounded) : Option F32 :=
  if rounded.toF32.isFinite then some rounded.toF32 else none

def Rounded.profileDb (rounded : Rounded) : Option F32 :=
  if rounded.toF32.isFinite ∧ assistantProfileDbInRange rounded.toF32 then some rounded.toF32 else none

def Rounded.profileConfidence (rounded : Rounded) : Option F32 :=
  if rounded.toF32.isFinite ∧ assistantProfileConfidenceInRange rounded.toF32 then some rounded.toF32 else none

def WireToken.graphic (token : WireToken) : Option Token :=
  if token.text.all asciiGraphic then some token.text else none

def stampDecoded (stamp : Int) : Option Nat :=
  if 0 ≤ stamp ∧ stamp < 2 ^ 64 then some stamp.toNat else none

def EffectiveVolumeContext.decoded (context : EffectiveVolumeContext) : Option VolumeContext := do
  let canonicalDb ← (context.canonicalDb.rounded 3).level
  let downstreamDb ← (context.downstreamDb.rounded 3).level
  let ttsEnvelopeLufs ← (context.ttsEnvelopeLufs.rounded 3).level
  let stampBootNs ← stampDecoded context.stampBootNs
  return {
    canonicalDb := canonicalDb
    downstreamDb := downstreamDb
    ttsEnvelopeLufs := ttsEnvelopeLufs
    muted := context.muted
    stampBootNs := stampBootNs }

def ProfileTokens.decoded (tokens : ProfileTokens) : Option AssistantProfile := do
  let provider ← tokens.provider.graphic
  let model ← tokens.model.graphic
  let voice ← tokens.voice.graphic
  let sourceLufs ← tokens.sourceLufs.profileDb
  let sourcePeakDbfs ← tokens.sourcePeakDbfs.profileDb
  let confidence ← tokens.confidence.profileConfidence
  return {
    provider := provider
    model := model
    voice := voice
    sourceLufs := some sourceLufs
    sourcePeakDbfs := some sourcePeakDbfs
    confidence := confidence }

-- A dash stands for no id.
def WireToken.itemId (token : WireToken) : Option (Option Token) :=
  if token.text = ascii "-" then some none else some <$> token.graphic

def orNothing {α β : Type} (decode : α → Option β) : Option α → Option (Option β)
  | none => some none
  | some value => some <$> decode value

def Segment.decoded (segment : Segment) : Option TtsCommand := do
  let providerItemId ← segment.providerItemId.itemId
  let profile ← orNothing ProfileTokens.decoded segment.profile
  return .segmentStart segment.kind providerItemId profile

/-- The command that stands for what was sent, or nothing where a check on its fields refuses it. -/
def Sent.command : Sent → Option TtsCommand
  | .gain db => .gainDb <$> (db.rounded 3).level
  | .programDuck on => some (if on then .programDuckOn else .programDuckOff)
  | .prepareAssistant provider model voice ttsEnvelopeLufs context => do
      let context ← orNothing EffectiveVolumeContext.decoded context
      let provider ← provider.graphic
      let model ← model.graphic
      let voice ← voice.graphic
      let level ← (ttsEnvelopeLufs.rounded 2).level
      return .prepareAssistant provider model voice level context
  | .volumeContext context => .volumeContext <$> context.decoded
  | .contentMeterPause => some .contentMeterPause
  | .contentMeterResume => some .contentMeterResume
  | .segmentStart segment => segment.decoded
  | .segmentEnd => some .segmentEnd
  | .audio data =>
      if whole : data.length % (channels * 4) = 0 then
        if data.length ≤ maxAudioBytes then some (.audioWide (chunkOf data whole)) else none
      else none
  | .flushSync => some .flushSync
  | .close => some .close

/-- What the reader makes of a command that it receives whole. -/
def Sent.decoded (sent : Sent) : Option TtsCommand :=
  if maxCommandLineBytes < (encode sent.line).length then none else sent.command

/-- What a reader takes in, when all it says of a refusal is that there is one. -/
def taken {α : Type} (result : Except ReadError α) : Option α := result.toOption

@[simp] theorem taken_ok {α : Type} (value : α) : taken (.ok value) = some value := rfl

@[simp] theorem taken_error {α : Type} (error : ReadError) : taken (.error error : Except ReadError α) = none := rfl

@[simp] theorem taken_pure {α : Type} (value : α) : taken (pure value) = some value := rfl

@[simp] theorem taken_bind {α β : Type} (result : Except ReadError α) (next : α → Except ReadError β) :
    taken (result >>= next) = (taken result).bind fun value => taken (next value) := by
  cases result <;> rfl

@[simp] theorem taken_map {α β : Type} (change : α → β) (result : Except ReadError α) :
    taken (change <$> result) = (taken result).map change := by
  cases result <;> rfl

@[simp] theorem taken_orError {α : Type} (message : String) (value : Option α) : taken (orError message value) = value := by
  cases value <;> rfl

@[simp] theorem taken_check (condition : Bool) (message : String) :
    taken (check condition message) = if condition then some () else none := by
  cases condition <;> rfl

@[simp] theorem taken_ite {α : Type} (condition : Prop) [Decidable condition] (left right : Except ReadError α) :
    taken (if condition then left else right) = if condition then taken left else taken right := by
  split <;> rfl

-- A token is a plain field, and never the empty one.
theorem WireToken.text_ne_nil (token : WireToken) : token.text ≠ [] := by
  have ok := token.ok
  simp only [tokenOk, Bool.and_eq_true, Bool.not_eq_true', List.isEmpty_eq_false_iff] at ok
  simpa [WireToken.text, ascii] using ok.1.1

theorem WireToken.plain (token : WireToken) : Plain token.text := by
  have ok := token.ok
  simp only [tokenOk, Bool.and_eq_true, Bool.not_eq_true', List.all_eq_true, List.any_eq_false, decide_eq_true_eq] at ok
  intro byte mem
  obtain ⟨char, there, rfl⟩ := List.mem_map.mp mem
  have small := ok.1.2 char there
  have noSpace := ok.2 char there
  simp only [isSpace, Bool.or_eq_true, Bool.and_eq_true, decide_eq_true_eq] at noSpace
  have number : (char.toNat.toUInt8).toNat = char.toNat := by
    simp only [Nat.toUInt8, UInt8.toNat_ofNat']
    omega
  refine ⟨UInt8.lt_iff_toNat_lt.mpr (by simpa [number] using small), ?_, ?_, ?_⟩ <;>
    · intro eq
      have := congrArg UInt8.toNat eq
      rw [number] at this
      simp [space, newline] at this
      omega

@[simp] theorem taken_parseRequiredF32 (rounded : Rounded) (field : String) :
    taken (parseRequiredF32 rounded.text field) = rounded.level := by
  simp only [parseRequiredF32, parseF32_text, taken_bind, taken_orError, Option.bind_some, taken_check, taken_pure,
    Rounded.level]
  split <;> rfl

theorem Rounded.text_ne_dash (rounded : Rounded) : rounded.text ≠ ascii "-" := by
  have parsed := parseF32_text rounded
  intro eq
  rw [eq] at parsed
  revert parsed
  have refused : parseF32 (ascii "-") = none := by decide
  simp [refused]

@[simp] theorem taken_parseOptionalProfileDb (rounded : Rounded) (field : String) :
    taken (parseOptionalProfileDb rounded.text field) = rounded.profileDb.map some := by
  simp only [parseOptionalProfileDb, parseOptionalF32, if_neg rounded.text_ne_dash, taken_bind, taken_map,
    taken_parseRequiredF32, Rounded.level, Rounded.profileDb]
  by_cases finite : rounded.toF32.isFinite = true
  · by_cases range : assistantProfileDbInRange rounded.toF32 = true <;> simp [finite, range]
  · simp [finite]

@[simp] theorem taken_parseProfileConfidence (rounded : Rounded) (field : String) :
    taken (parseProfileConfidence rounded.text field) = rounded.profileConfidence := by
  simp only [parseProfileConfidence, taken_bind, taken_parseRequiredF32, Rounded.level, Rounded.profileConfidence]
  by_cases finite : rounded.toF32.isFinite = true
  · by_cases range : assistantProfileConfidenceInRange rounded.toF32 = true <;> simp [finite, range]
  · simp [finite]

@[simp] theorem taken_validateToken (token : WireToken) (field : String) :
    taken (validateToken token.text field) = token.graphic.map fun _ => () := by
  have some : token.text.isEmpty = false := by simpa using token.text_ne_nil
  simp only [validateToken, taken_check, some, WireToken.graphic, Bool.not_false, Bool.true_and]
  split <;> rfl

@[simp] theorem taken_parseBoolToken (muted : Bool) (field : String) :
    taken (parseBoolToken (if muted then ascii "1" else ascii "0") field) = some muted := by
  cases muted <;> rfl

@[simp] theorem parseUnsigned_intText (stamp : Int) : parseUnsigned (intText stamp) = stampDecoded stamp := by
  by_cases negative : stamp < 0
  · have minus : intText stamp = 45 :: write stamp.natAbs := by simp [intText, signText, negative, ascii]
    have refused : parseUnsigned (45 :: write stamp.natAbs) = none := by
      simp [parseUnsigned, withoutPlus, show Shared.Decimal.isDigit 45 = false by decide]
    rw [minus, refused, stampDecoded, if_neg (by omega)]
  · have digits : intText stamp = write stamp.natAbs := by simp [intText, signText, negative]
    rw [digits, parseUnsigned_write, stampDecoded, show stamp.natAbs = stamp.toNat by omega]
    by_cases small : stamp < 2 ^ 64
    · rw [if_pos (by omega), if_pos ⟨by omega, small⟩]
    · rw [if_neg (by omega), if_neg (by omega)]

@[simp] theorem taken_parseVolumeContext (context : EffectiveVolumeContext) (command : String) :
    taken (parseVolumeContext (volumeContextTokens context) command) = context.decoded := by
  simp [parseVolumeContext, volumeContextTokens, EffectiveVolumeContext.decoded, Option.map_eq_bind]

@[simp] theorem taken_parseOfferedContext (context : Option EffectiveVolumeContext) :
    taken (parseOfferedContext (match context with
      | none => []
      | some context => volumeContextTokens context)) = orNothing EffectiveVolumeContext.decoded context := by
  cases context with
  | none => rfl
  | some context =>
      have some : volumeContextTokens context ≠ [] := by simp [volumeContextTokens]
      simp [parseOfferedContext, some, orNothing]

theorem taken_parseSegmentProfile (tokens : ProfileTokens) :
    taken (parseSegmentProfile tokens.provider.text
      [tokens.model.text, tokens.voice.text, tokens.sourceLufs.text, tokens.sourcePeakDbfs.text,
        tokens.confidence.text]) = tokens.decoded := by
  simp only [parseSegmentProfile, taken_bind, taken_orError, List.getElem?_cons_zero, List.getElem?_cons_succ,
    List.getElem?_nil, Option.isNone_none, taken_check, if_true, Option.bind_some, taken_validateToken,
    taken_parseOptionalProfileDb, taken_parseProfileConfidence, taken_pure, ProfileTokens.decoded, Option.bind_eq_bind,
    WireToken.graphic]
  split <;> split <;> split <;> simp [Option.bind_map]

@[simp] theorem taken_parseProviderItemId (token : WireToken) : taken (parseProviderItemId token.text) = token.itemId := by
  simp only [parseProviderItemId, WireToken.itemId, taken_ite, taken_ok, taken_bind, taken_validateToken, taken_pure]
  split
  · rfl
  · simp only [WireToken.graphic]
    split <;> rfl

theorem fromProtocol_asStr (kind : SegmentKind) : SegmentKind.fromProtocol (ascii kind.asStr) = some kind := by
  cases kind <;> decide +kernel

theorem taken_parseSegmentStart (segment : Segment) :
    taken (parseSegmentStart ([ascii segment.kind.asStr, segment.providerItemId.text] ++
      match segment.profile with
      | none => []
      | some tokens => tokens.texts)) = segment.decoded := by
  obtain ⟨kind, providerItemId, profile⟩ := segment
  cases profile with
  | none => simp [parseSegmentStart, fromProtocol_asStr, Segment.decoded, orNothing, Option.map_eq_bind]
  | some tokens =>
      have profile := taken_parseSegmentProfile tokens
      simp [parseSegmentStart, fromProtocol_asStr, Segment.decoded, orNothing, ProfileTokens.texts, profile,
        Option.map_eq_bind, Option.bind_assoc]

theorem taken_parsePrepareAssistant (provider model voice : WireToken) (ttsEnvelopeLufs : F64)
    (context : Option EffectiveVolumeContext) :
    taken (parsePrepareAssistant ([provider.text, model.text, voice.text, (ttsEnvelopeLufs.rounded 2).text] ++
      match context with
      | none => []
      | some context => volumeContextTokens context)) =
      (do
        let context ← orNothing EffectiveVolumeContext.decoded context
        let provider ← provider.graphic
        let model ← model.graphic
        let voice ← voice.graphic
        let level ← (ttsEnvelopeLufs.rounded 2).level
        return .prepareAssistant provider model voice level context) := by
  have offered := taken_parseOfferedContext context
  simp only [parsePrepareAssistant, taken_bind, taken_orError, List.cons_append, List.nil_append,
    List.getElem?_cons_zero, List.getElem?_cons_succ, Option.bind_some, List.drop_succ_cons, List.drop_zero, offered,
    taken_validateToken, taken_parseRequiredF32, taken_pure, Option.bind_eq_bind, Option.pure_def, WireToken.graphic]
  congr 1
  funext decoded
  split <;> split <;> split <;> simp

theorem taken_readAudioPayload (data rest : List UInt8) :
    taken (readAudioPayload (write data.length) (data ++ rest)) =
      if whole : data.length % (channels * 4) = 0 then
        if data.length ≤ maxAudioBytes then some (chunkOf data whole, rest) else none
      else none := by
  rw [readAudioPayload, parseUnsigned_write]
  by_cases small : data.length ≤ maxAudioBytes
  · have word : data.length < 2 ^ 64 := by simp only [maxAudioBytes] at small; omega
    simp only [if_pos word, if_neg (Nat.not_lt.mpr small), small, if_true]
    by_cases whole : data.length % (channels * 4) = 0
    · have samples : data.length % 4 = 0 := by simp only [channels] at whole; omega
      simp [samples, whole]
    · simp only [whole, dite_false]
      split <;> rfl
  · have long : maxAudioBytes < data.length := by omega
    by_cases word : data.length < 2 ^ 64
    · simp only [if_pos word, if_pos long]
      simp [small]
    · simp only [if_neg word]
      simp [small]

-- The words of the commands without arguments.
def fixedWords : List Token :=
  [ascii "FLUSH_SYNC", ascii "PROGRAM_DUCK_ON", ascii "PROGRAM_DUCK_OFF", ascii "SEGMENT_END", ascii "CLOSE",
    ascii "CONTENT_METER_PAUSE", ascii "CONTENT_METER_RESUME"]

-- The verbs of the commands with arguments, in the order in which a line is tried against them.
def argumentVerbs : List Token :=
  [ascii "GAIN ", ascii "VOLUME_CONTEXT ", ascii "AUDIO32 ", ascii "SEGMENT_START ", ascii "PREPARE_ASSISTANT "]

theorem fixedCommand_of_notMem {token : Token} (other : token ∉ fixedWords) : fixedCommand token = none := by
  simp only [fixedWords, List.mem_cons, List.not_mem_nil, or_false, not_or] at other
  obtain ⟨flush, on, off, ended, close, pause, resume⟩ := other
  simp [fixedCommand, flush, on, off, ended, close, pause, resume]

theorem words_apart : ∀ verb ∈ argumentVerbs, ∀ word ∈ fixedWords, verb.isPrefixOf word = false := by
  decide +kernel

theorem fixedCommand_append {verb : Token} (takes : verb ∈ argumentVerbs) (args : Token) :
    fixedCommand (verb ++ args) = none :=
  fixedCommand_of_notMem fun mem =>
    Bool.false_ne_true ((words_apart verb takes _ mem).symm.trans
      (List.isPrefixOf_iff_prefix.mpr (List.prefix_append verb args)))

-- Neither word starts with the other.
def Apart (word verb : Token) : Prop := word.isPrefixOf verb = false ∧ verb.isPrefixOf word = false

instance (word verb : Token) : Decidable (Apart word verb) :=
  inferInstanceAs (Decidable (word.isPrefixOf verb = false ∧ verb.isPrefixOf word = false))

theorem verbs_apart : argumentVerbs.Pairwise Apart := by
  decide +kernel

-- Two words that differ before either ends stay apart whatever follows.
theorem stripPrefix_apart {word verb : Token} (apart : Apart word verb) (args : Token) :
    stripPrefix word (verb ++ args) = none := by
  rw [stripPrefix, if_neg]
  intro starts
  rw [List.isPrefixOf_iff_prefix] at starts
  rcases List.prefix_or_prefix_of_prefix starts (List.prefix_append verb args) with below | below
  · exact Bool.false_ne_true (apart.1.symm.trans (List.isPrefixOf_iff_prefix.mpr below))
  · exact Bool.false_ne_true (apart.2.symm.trans (List.isPrefixOf_iff_prefix.mpr below))

-- One rule for each verb with arguments: no other branch takes its line.
theorem parseCommand_gain (args : Token) (bytes : List UInt8) :
    parseCommand (ascii "GAIN " ++ args) bytes =
      (fun gain => (.gainDb gain, bytes)) <$> parseRequiredF32 args "GAIN value" := by
  have takes : ascii "GAIN " ∈ argumentVerbs := .head _
  rw [parseCommand, fixedCommand_append takes, stripPrefix_append]
  rfl

theorem parseCommand_volumeContext (args : Token) (bytes : List UInt8) :
    parseCommand (ascii "VOLUME_CONTEXT " ++ args) bytes =
      (fun context => (.volumeContext context, bytes)) <$> parseVolumeContext (fields args) "VOLUME_CONTEXT" := by
  have takes : ascii "VOLUME_CONTEXT " ∈ argumentVerbs := .tail _ (.head _)
  have gain := List.rel_of_pairwise_cons verbs_apart (.head _)
  rw [parseCommand, fixedCommand_append takes, stripPrefix_apart gain, stripPrefix_append]
  rfl

theorem parseCommand_audio (args : Token) (bytes : List UInt8) :
    parseCommand (ascii "AUDIO32 " ++ args) bytes =
      (fun read => (.audioWide read.1, read.2)) <$> readAudioPayload args bytes := by
  have takes : ascii "AUDIO32 " ∈ argumentVerbs := .tail _ (.tail _ (.head _))
  have gain := List.rel_of_pairwise_cons verbs_apart (.tail _ (.head _))
  have volumeContext := List.rel_of_pairwise_cons verbs_apart.of_cons (.head _)
  rw [parseCommand, fixedCommand_append takes, stripPrefix_apart gain, stripPrefix_apart volumeContext,
    stripPrefix_append]
  rfl

theorem parseCommand_segmentStart (args : Token) (bytes : List UInt8) :
    parseCommand (ascii "SEGMENT_START " ++ args) bytes =
      (fun command => (command, bytes)) <$> parseSegmentStart (fields args) := by
  have takes : ascii "SEGMENT_START " ∈ argumentVerbs := .tail _ (.tail _ (.tail _ (.head _)))
  have gain := List.rel_of_pairwise_cons verbs_apart (.tail _ (.tail _ (.head _)))
  have volumeContext := List.rel_of_pairwise_cons verbs_apart.of_cons (.tail _ (.head _))
  have audio := List.rel_of_pairwise_cons verbs_apart.of_cons.of_cons (.head _)
  rw [parseCommand, fixedCommand_append takes, stripPrefix_apart gain, stripPrefix_apart volumeContext,
    stripPrefix_apart audio, stripPrefix_append]
  rfl

theorem parseCommand_prepareAssistant (args : Token) (bytes : List UInt8) :
    parseCommand (ascii "PREPARE_ASSISTANT " ++ args) bytes =
      (fun command => (command, bytes)) <$> parsePrepareAssistant (fields args) := by
  have takes : ascii "PREPARE_ASSISTANT " ∈ argumentVerbs := .tail _ (.tail _ (.tail _ (.tail _ (.head _))))
  have gain := List.rel_of_pairwise_cons verbs_apart (.tail _ (.tail _ (.tail _ (.head _))))
  have volumeContext := List.rel_of_pairwise_cons verbs_apart.of_cons (.tail _ (.tail _ (.head _)))
  have audio := List.rel_of_pairwise_cons verbs_apart.of_cons.of_cons (.tail _ (.head _))
  have segmentStart := List.rel_of_pairwise_cons verbs_apart.of_cons.of_cons.of_cons (.head _)
  rw [parseCommand, fixedCommand_append takes, stripPrefix_apart gain, stripPrefix_apart volumeContext,
    stripPrefix_apart audio, stripPrefix_apart segmentStart, stripPrefix_append]
  rfl

/-- The verb of a command with arguments, its space included, and the arguments. -/
def Sent.parts : Sent → Option (Token × List Token)
  | .gain db => some (ascii "GAIN ", [(db.rounded 3).text])
  | .prepareAssistant provider model voice ttsEnvelopeLufs context =>
      some (ascii "PREPARE_ASSISTANT ", [provider.text, model.text, voice.text, (ttsEnvelopeLufs.rounded 2).text] ++
        match context with
        | none => []
        | some context => volumeContextTokens context)
  | .volumeContext context => some (ascii "VOLUME_CONTEXT ", volumeContextTokens context)
  | .segmentStart segment =>
      some (ascii "SEGMENT_START ", [ascii segment.kind.asStr, segment.providerItemId.text] ++
        match segment.profile with
        | none => []
        | some tokens => tokens.texts)
  | .audio data => some (ascii "AUDIO32 ", [write data.length])
  | _ => none

theorem Sent.args_ne_nil {sent : Sent} {verb : Token} {args : List Token} (parts : sent.parts = some (verb, args)) :
    args ≠ [] := by
  cases sent with
  | programDuck | contentMeterPause | contentMeterResume | segmentEnd | flushSync | close => cases parts
  | gain | audio | volumeContext | segmentStart | prepareAssistant =>
      cases parts
      simp [volumeContextTokens]

theorem Sent.line_eq {sent : Sent} {verb : Token} {args : List Token} (parts : sent.parts = some (verb, args)) :
    sent.line = verb ++ joined args := by
  cases sent with
  | programDuck | contentMeterPause | contentMeterResume | segmentEnd | flushSync | close => cases parts
  | gain db =>
      cases parts
      rw [joined_singleton]
      rfl
  | audio data =>
      cases parts
      have spaced : ascii "AUDIO32 " = ascii "AUDIO32" ++ [space] := by decide +kernel
      rw [joined_singleton, spaced, List.append_assoc]
      rfl
  | volumeContext context => cases parts; rfl
  | segmentStart segment =>
      have some := Sent.args_ne_nil parts
      cases parts
      have spaced : ascii "SEGMENT_START " = ascii "SEGMENT_START" ++ [space] := by decide +kernel
      rw [spaced, List.append_assoc]
      exact joined_cons some (ascii "SEGMENT_START")
  | prepareAssistant provider model voice ttsEnvelopeLufs context =>
      have some := Sent.args_ne_nil parts
      cases parts
      have spaced : ascii "PREPARE_ASSISTANT " = ascii "PREPARE_ASSISTANT" ++ [space] := by decide +kernel
      rw [spaced, List.append_assoc]
      exact joined_cons some (ascii "PREPARE_ASSISTANT")

theorem plain_volumeContextTokens (context : EffectiveVolumeContext) :
    ∀ token ∈ volumeContextTokens context, Plain token := by
  intro token mem
  simp only [volumeContextTokens, List.mem_cons, List.not_mem_nil, or_false] at mem
  rcases mem with rfl | rfl | rfl | rfl | rfl
  · exact Rounded.plain _
  · exact Rounded.plain _
  · exact Rounded.plain _
  · cases context.muted <;> decide +kernel
  · exact plain_intText _

theorem plain_texts (tokens : ProfileTokens) : ∀ token ∈ tokens.texts, Plain token := by
  intro token mem
  simp only [ProfileTokens.texts, List.mem_cons, List.not_mem_nil, or_false] at mem
  rcases mem with rfl | rfl | rfl | rfl | rfl | rfl
  · exact tokens.provider.plain
  · exact tokens.model.plain
  · exact tokens.voice.plain
  · exact Rounded.plain _
  · exact Rounded.plain _
  · exact Rounded.plain _

theorem plain_asStr (kind : SegmentKind) : Plain (ascii kind.asStr) := by
  cases kind <;> decide +kernel

theorem Sent.plain_args {sent : Sent} {verb : Token} {args : List Token} (parts : sent.parts = some (verb, args)) :
    ∀ arg ∈ args, Plain arg := by
  cases sent with
  | programDuck | contentMeterPause | contentMeterResume | segmentEnd | flushSync | close => cases parts
  | gain db =>
      cases parts
      simpa using Rounded.plain _
  | audio data =>
      cases parts
      simpa using plain_write _
  | volumeContext context => cases parts; exact plain_volumeContextTokens context
  | segmentStart segment =>
      cases parts
      intro arg mem
      simp only [List.cons_append, List.nil_append, List.mem_cons] at mem
      rcases mem with rfl | rfl | mem
      · exact plain_asStr _
      · exact segment.providerItemId.plain
      · cases profile : segment.profile with
        | none => simp [profile] at mem
        | some tokens =>
            rw [profile] at mem
            exact plain_texts tokens arg mem
  | prepareAssistant provider model voice ttsEnvelopeLufs context =>
      cases parts
      intro arg mem
      simp only [List.cons_append, List.nil_append, List.mem_cons] at mem
      rcases mem with rfl | rfl | rfl | rfl | mem
      · exact provider.plain
      · exact model.plain
      · exact voice.plain
      · exact Rounded.plain _
      · cases context with
        | none => simp at mem
        | some context => exact plain_volumeContextTokens context arg mem

end Jts.Tts
