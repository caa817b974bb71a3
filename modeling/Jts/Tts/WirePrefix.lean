import Jts.Tts.WireDecode

set_option autoImplicit false

namespace Jts.Tts

open Shared.Line
open Shared.Decimal (write)

theorem Sent.fields_args {sent : Sent} {verb : Token} {args : List Token} (parts : sent.parts = some (verb, args)) :
    fields (joined args) = args :=
  fields_joined (Sent.args_ne_nil parts) fun arg mem blank => (Sent.plain_args parts arg mem space blank).2.1 rfl

/-- A whole line and its payload are parsed to the command that was sent, and no further byte is touched. -/
theorem Sent.taken_parseCommand (sent : Sent) (rest : List UInt8) :
    taken (parseCommand sent.line (sent.payload ++ rest)) = sent.command.map fun command => (command, rest) := by
  cases sent with
  | programDuck on => cases on <;> rfl
  | contentMeterPause | contentMeterResume | segmentEnd | flushSync | close => rfl
  | gain db =>
      rw [Sent.line_eq rfl, parseCommand_gain, joined_singleton, taken_map, taken_parseRequiredF32]
      simp [Sent.payload, Sent.command, Function.comp_def]
  | audio data =>
      rw [Sent.line_eq rfl, parseCommand_audio, joined_singleton, taken_map, Sent.payload, taken_readAudioPayload,
        Sent.command]
      split
      · split <;> rfl
      · rfl
  | volumeContext context =>
      rw [Sent.line_eq rfl, parseCommand_volumeContext, taken_map,
        Sent.fields_args (show (Sent.volumeContext context).parts = some (_, _) from rfl), taken_parseVolumeContext]
      simp [Sent.payload, Sent.command, Function.comp_def]
  | segmentStart segment =>
      rw [Sent.line_eq rfl, parseCommand_segmentStart, taken_map,
        Sent.fields_args (show (Sent.segmentStart segment).parts = some (_, _) from rfl), taken_parseSegmentStart]
      rfl
  | prepareAssistant provider model voice ttsEnvelopeLufs context =>
      rw [Sent.line_eq rfl, parseCommand_prepareAssistant, taken_map,
        Sent.fields_args
          (show (Sent.prepareAssistant provider model voice ttsEnvelopeLufs context).parts = some (_, _) from rfl),
        taken_parsePrepareAssistant]
      rfl

/-- The text of a line: ASCII, and no byte that ends it. -/
def LineText (text : Token) : Prop := ∀ byte ∈ text, byte < 0x80 ∧ byte ≠ newline ∧ byte ≠ 13

instance (text : Token) : Decidable (LineText text) := List.decidableBAll _ text

theorem LineText.unbroken {text : Token} (line : LineText text) : Unbroken text :=
  ⟨fun mem => (line _ mem).2.1 rfl, fun mem => (line _ mem).2.2 rfl⟩

theorem LineText.take {text : Token} (line : LineText text) (length : Nat) : LineText (text.take length) :=
  fun byte mem => line byte (List.mem_of_mem_take mem)

theorem Sent.verb_mem {sent : Sent} {verb : Token} {args : List Token} (parts : sent.parts = some (verb, args)) :
    verb ∈ argumentVerbs := by
  cases sent with
  | programDuck | contentMeterPause | contentMeterResume | segmentEnd | flushSync | close => cases parts
  | gain | audio | volumeContext | segmentStart | prepareAssistant =>
      cases parts
      simp [argumentVerbs]

theorem Sent.line_mem {sent : Sent} (parts : sent.parts = none) : sent.line ∈ fixedWords := by
  cases sent with
  | gain | audio | volumeContext | segmentStart | prepareAssistant => cases parts
  | programDuck on => cases on <;> simp [fixedWords, Sent.line, ttsProgramDuck]
  | contentMeterPause | contentMeterResume | segmentEnd | flushSync | close => simp [fixedWords, Sent.line]

theorem Sent.lineText (sent : Sent) : LineText sent.line := by
  cases parts : sent.parts with
  | none =>
      have words : ∀ word ∈ fixedWords, LineText word := by decide +kernel
      exact words _ (Sent.line_mem parts)
  | some split =>
      obtain ⟨verb, args⟩ := split
      have verbs : ∀ verb ∈ argumentVerbs, LineText verb := by decide +kernel
      rw [Sent.line_eq parts]
      intro byte mem
      rcases List.mem_append.mp mem with mem | mem
      · exact verbs _ (Sent.verb_mem parts) byte mem
      · rcases mem_joined mem with rfl | ⟨arg, there, mem⟩
        · decide
        · have plain := Sent.plain_args parts arg there byte mem
          exact ⟨plain.1, plain.2.2⟩

theorem taken_readCommand_encode {text : Token} (line : LineText text) (rest : List UInt8) :
    taken (readCommand (encode text ++ rest)) =
      if maxCommandLineBytes < (encode text).length then none else (taken (parseCommand text rest)).map some := by
  have shape : encode text ++ rest = text ++ newline :: rest := by simp [encode]
  rw [shape]
  by_cases long : maxCommandLineBytes ≤ text.length
  · have length := length_readLine_long line.unbroken.1 long rest
    rw [if_pos (by simp only [encode, List.length_append, List.length_singleton]; omega), readCommand]
    simp only [taken_ite, taken_error, length, Nat.succ_ne_zero, if_false, Nat.lt_succ_self, if_true, ite_self]
  · have whole := readLine_append line.unbroken.1 (Nat.not_le.mp long) rest
    have valid : utf8Valid (text ++ [newline]) = true := by
      refine utf8Valid_of_ascii fun byte mem => ?_
      rcases List.mem_append.mp mem with mem | mem
      · exact (line byte mem).1
      · rw [List.mem_singleton.mp mem]
        decide
    have behind : (text ++ newline :: rest).drop (text ++ [newline]).length = rest := by
      rw [show text ++ newline :: rest = (text ++ [newline]) ++ rest by simp, List.drop_left]
    have bounded : ¬ maxCommandLineBytes < (text ++ [newline]).length := by
      simp only [List.length_append, List.length_singleton]
      omega
    have some : (text ++ [newline]).length ≠ 0 := by simp
    rw [readCommand, whole, trimEnd_newline line.unbroken, behind, encode, if_neg bounded]
    simp only [valid, Bool.not_true, Bool.false_eq_true, if_false, some, bounded, taken_map]

theorem taken_readCommand_unended {text : Token} (line : LineText text) (some : text ≠ []) :
    taken (readCommand text) =
      if maxCommandLineBytes < text.length then none else (taken (parseCommand text [])).map Option.some := by
  have start : readLine maxCommandLineBytes text = text.take (maxCommandLineBytes + 1) :=
    readLine_of_not_mem line.unbroken.1
  by_cases long : maxCommandLineBytes < text.length
  · have length : (text.take (maxCommandLineBytes + 1)).length = maxCommandLineBytes + 1 := by
      rw [List.length_take]
      omega
    rw [if_pos long, readCommand, start]
    simp only [taken_ite, taken_error, length, Nat.succ_ne_zero, if_false, Nat.lt_succ_self, if_true, ite_self]
  · have whole : text.take (maxCommandLineBytes + 1) = text := List.take_of_length_le (by omega)
    have valid : utf8Valid text = true := utf8Valid_of_ascii fun byte mem => (line byte mem).1
    have nonempty : text.length ≠ 0 := by simpa using some
    rw [readCommand, start, whole, trimEnd_eq_self line.unbroken, List.drop_length, if_neg long]
    simp only [valid, Bool.not_true, Bool.false_eq_true, if_false, nonempty, long, taken_map]

/-- A command that arrives whole is read as what was sent, or refused. -/
theorem Sent.taken_readCommand (sent : Sent) (rest : List UInt8) :
    taken (readCommand (sent.bytes ++ rest)) = sent.decoded.map fun command => some (command, rest) := by
  rw [Sent.bytes, List.append_assoc, taken_readCommand_encode sent.lineText, Sent.taken_parseCommand, Sent.decoded]
  split
  · rfl
  · simp [Function.comp_def]

theorem getLast?_of_next {parts : List Token} {index : Nat} {part : Token} (here : parts[index]? = some part)
    (last : parts[index + 1]? = none) : parts.length = index + 1 ∧ parts.getLast? = some part := by
  obtain ⟨inside, -⟩ := List.getElem?_eq_some_iff.mp here
  have outside := List.getElem?_eq_none_iff.mp last
  have length : parts.length = index + 1 := by omega
  exact ⟨length, by rw [List.getLast?_eq_getElem?, length]; exact here⟩

theorem taken_parseRequiredF32_empty (field : String) : taken (parseRequiredF32 [] field) = none := by
  have refused : parseF32 [] = none := by decide
  simp [parseRequiredF32, refused]

theorem taken_parseProfileConfidence_empty (field : String) : taken (parseProfileConfidence [] field) = none := by
  simp [parseProfileConfidence, taken_parseRequiredF32_empty]

theorem taken_parseProviderItemId_empty : taken (parseProviderItemId []) = none := by decide

-- A reader of fields takes lines of one or two lengths only, and no line whose last field is empty.
theorem parts_of_volumeContext {parts : List Token} {command : String} {context : VolumeContext}
    (parsed : taken (parseVolumeContext parts command) = some context) :
    parts.length = 5 ∧ parts.getLast? ≠ some [] := by
  simp only [parseVolumeContext, taken_bind, taken_orError, taken_check, Option.bind_eq_some_iff] at parsed
  obtain ⟨_, _, _, _, _, _, _, _, stamp, fifth, _, stop, _, _, _, _, _, _, _, _, _, read, _⟩ := parsed
  have stop : parts[5]? = none := by simpa using stop
  obtain ⟨length, last⟩ := getLast?_of_next fifth stop
  refine ⟨length, fun empty => ?_⟩
  obtain rfl : stamp = [] := Option.some.inj (last.symm.trans empty)
  cases read

theorem parts_of_segmentProfile {provider : Token} {parts : List Token} {profile : AssistantProfile}
    (parsed : taken (parseSegmentProfile provider parts) = some profile) :
    parts.length = 5 ∧ parts.getLast? ≠ some [] := by
  simp only [parseSegmentProfile, taken_bind, taken_orError, taken_check, Option.bind_eq_some_iff] at parsed
  obtain ⟨_, _, _, _, _, _, _, _, confidence, fifth, _, stop, _, _, _, _, _, _, _, _, _, _, _, read, _⟩ := parsed
  have stop : parts[5]? = none := by simpa using stop
  obtain ⟨length, last⟩ := getLast?_of_next fifth stop
  refine ⟨length, fun empty => ?_⟩
  obtain rfl : confidence = [] := Option.some.inj (last.symm.trans empty)
  rw [taken_parseProfileConfidence_empty] at read
  cases read

theorem parts_of_segmentStart {parts : List Token} {command : TtsCommand}
    (parsed : taken (parseSegmentStart parts) = some command) :
    (parts.length = 2 ∨ parts.length = 8) ∧ parts.getLast? ≠ some [] := by
  simp only [parseSegmentStart, taken_bind, taken_orError, Option.bind_eq_some_iff] at parsed
  obtain ⟨_, _, item, second, _, _, _, read, parsed⟩ := parsed
  split at parsed
  · rename_i rest
    have stop : parts[2]? = none := by
      rw [List.getElem?_eq_none_iff]
      exact List.drop_eq_nil_iff.mp rest
    obtain ⟨length, last⟩ := getLast?_of_next second stop
    refine ⟨.inl length, fun empty => ?_⟩
    obtain rfl : item = [] := Option.some.inj (last.symm.trans empty)
    rw [taken_parseProviderItemId_empty] at read
    cases read
  · rename_i provider more rest
    simp only [taken_bind, Option.bind_eq_some_iff] at parsed
    obtain ⟨profile, parsed, -⟩ := parsed
    obtain ⟨length, last⟩ := parts_of_segmentProfile parsed
    have whole : parts = parts.take 2 ++ provider :: more := by rw [← rest, List.take_append_drop]
    have inside : 2 ≤ parts.length := by
      by_contra short
      rw [List.drop_eq_nil_of_le (by omega)] at rest
      cases rest
    refine ⟨.inr ?_, ?_⟩
    · have total := congrArg List.length whole
      simp only [List.length_append, List.length_take, List.length_cons, length] at total
      omega
    · rw [whole, List.getLast?_append_of_ne_nil _ (List.cons_ne_nil _ _),
        List.getLast?_cons_of_ne_nil (List.ne_nil_of_length_pos (by omega))]
      exact last

theorem parts_of_prepareAssistant {parts : List Token} {command : TtsCommand}
    (parsed : taken (parsePrepareAssistant parts) = some command) :
    (parts.length = 4 ∨ parts.length = 9) ∧ parts.getLast? ≠ some [] := by
  simp only [parsePrepareAssistant, taken_bind, taken_orError, Option.bind_eq_some_iff] at parsed
  obtain ⟨_, _, _, _, _, _, envelope, fourth, _, offered, _, _, _, _, _, _, _, read, _⟩ := parsed
  have inside := (List.getElem?_eq_some_iff.mp fourth).1
  rw [parseOfferedContext, taken_ite] at offered
  split at offered
  · rename_i rest
    have stop : parts[4]? = none := List.getElem?_eq_none_iff.mpr (List.drop_eq_nil_iff.mp rest)
    obtain ⟨length, last⟩ := getLast?_of_next fourth stop
    refine ⟨.inl length, fun empty => ?_⟩
    obtain rfl : envelope = [] := Option.some.inj (last.symm.trans empty)
    rw [taken_parseRequiredF32_empty] at read
    cases read
  · simp only [taken_map, Option.map_eq_some_iff] at offered
    obtain ⟨context, parsed, -⟩ := offered
    obtain ⟨length, last⟩ := parts_of_volumeContext parsed
    rw [List.length_drop] at length
    refine ⟨.inr (by omega), ?_⟩
    rwa [List.getLast?_drop, if_neg (by omega)] at last

-- The numbers of fields that the reader takes after the verb. Every one but the last is ended by its space.
def Sent.fieldCounts : Sent → List Nat
  | .gain _ => [1]
  | .volumeContext _ => [5]
  | .segmentStart _ => [2, 8]
  | .prepareAssistant _ _ _ _ _ => [4, 9]
  | _ => []

/-- A cut in the arguments that leaves as many fields as the reader takes, and something of the last one. -/
def Sent.cutsField (sent : Sent) (cut : Nat) : Bool :=
  match sent.parts with
  | none => false
  | some (verb, args) =>
      let left := fields ((joined args).take (cut - verb.length))
      decide (verb.length < cut) && decide (cut < sent.line.length) &&
        sent.fieldCounts.contains left.length && left.getLast? != some []

theorem readAudioPayload_short {rawLength : Token} {bytes : List UInt8}
    (short : ∀ number, parseUnsigned rawLength = some number → bytes.length < number) :
    taken (readAudioPayload rawLength bytes) = none := by
  unfold readAudioPayload
  split
  · rfl
  · rename_i number read
    have short := short number read
    split
    · rfl
    · split
      · rfl
      · split
        · rfl
        · rw [dif_neg (by omega)]
          rfl

theorem parseCommand_audio_short {data bytes : List UInt8} (short : bytes.length < data.length) :
    taken (parseCommand (Sent.audio data).line bytes) = none := by
  rw [Sent.line_eq rfl, parseCommand_audio, taken_map, joined_singleton, readAudioPayload_short]
  · rfl
  · intro number read
    rw [parseUnsigned_write] at read
    split at read
    · cases read
      exact short
    · cases read

-- A length that is cut short still asks for bytes, and the stream has none.
theorem parseCommand_audio_cut {number length : Nat} (some : 0 < length) (short : length < (write number).length) :
    taken (parseCommand (ascii "AUDIO32 " ++ (write number).take length) []) = none := by
  rw [parseCommand_audio, taken_map, readAudioPayload_short]
  · rfl
  · intro read parsed
    have positive : number ≠ 0 := by
      rintro rfl
      simp [write] at short
      omega
    have digits : ∀ byte ∈ ((write number).take length).head?, Shared.Decimal.isDigit byte = true := fun byte mem =>
      Shared.Decimal.isDigit_of_mem_write (List.mem_of_mem_take (List.mem_of_mem_head? mem))
    rw [parseUnsigned, (unsigned_of_digits digits).1] at parsed
    have value := Shared.Decimal.value_take_write_pos positive some
    split at parsed
    · cases parsed
    · split at parsed
      · cases parsed
        exact value
      · cases parsed

/-- A line that is cut within its text is refused, unless the cut leaves the fields of a command. -/
theorem Sent.parseCommand_cut {sent : Sent} {cut : Nat} (some : 0 < cut) (inside : cut < sent.line.length)
    (outside : sent.cutsField cut = false) : taken (parseCommand (sent.line.take cut) []) = none := by
  cases parts : sent.parts with
  | none =>
      have words : ∀ word ∈ fixedWords, ∀ cut < word.length, 0 < cut → taken (parseCommand (word.take cut) []) = none := by
        decide +kernel
      exact words _ (Sent.line_mem parts) cut inside some
  | some split =>
      obtain ⟨verb, args⟩ := split
      rw [Sent.line_eq parts] at inside ⊢
      by_cases early : cut ≤ verb.length
      · have verbs : ∀ verb ∈ argumentVerbs, ∀ cut < verb.length + 1, 0 < cut →
            taken (parseCommand (verb.take cut) []) = none := by decide +kernel
        rw [List.take_append_of_le_length early]
        exact verbs _ (Sent.verb_mem parts) cut (Nat.lt_succ_of_le early) some
      · have late : verb.length < cut := Nat.not_le.mp early
        rw [List.take_append, List.take_of_length_le late.le]
        have fieldsLeft : ∀ length ∈ sent.fieldCounts,
            (fields ((joined args).take (cut - verb.length))).length = length →
            (fields ((joined args).take (cut - verb.length))).getLast? = Option.some [] := by
          intro length mem eq
          have within : cut < verb.length + (joined args).length := by rwa [List.length_append] at inside
          rw [Sent.cutsField, parts, Sent.line_eq parts] at outside
          simpa [late, within, eq, mem] using outside
        refine Option.eq_none_iff_forall_ne_some.mpr fun read parsed => ?_
        cases sent with
        | programDuck | contentMeterPause | contentMeterResume | segmentEnd | flushSync | close => cases parts
        | gain db =>
            cases parts
            have plain : space ∉ (joined [(db.rounded 3).text]).take (cut - (ascii "GAIN ").length) := fun mem =>
              (Rounded.plain _ space (joined_singleton (db.rounded 3).text ▸ List.mem_of_mem_take mem)).2.1 rfl
            have one : fields ((joined [(db.rounded 3).text]).take (cut - (ascii "GAIN ").length)) =
                [(joined [(db.rounded 3).text]).take (cut - (ascii "GAIN ").length)] :=
              List.splitOn_eq_singleton plain
            have empty := fieldsLeft 1 (by simp [Sent.fieldCounts]) (by rw [one]; rfl)
            rw [one, List.getLast?_singleton, Option.some.injEq] at empty
            rw [empty, parseCommand_gain, taken_map, taken_parseRequiredF32_empty] at parsed
            cases parsed
        | audio data =>
            cases parts
            rw [joined_singleton] at parsed inside
            rw [parseCommand_audio_cut (by omega) (by rw [List.length_append] at inside; omega)] at parsed
            cases parsed
        | volumeContext context =>
            cases parts
            rw [parseCommand_volumeContext, taken_map, Option.map_eq_some_iff] at parsed
            obtain ⟨_, parsed, -⟩ := parsed
            obtain ⟨length, last⟩ := parts_of_volumeContext parsed
            exact last (fieldsLeft 5 (by simp [Sent.fieldCounts]) length)
        | segmentStart segment =>
            cases parts
            rw [parseCommand_segmentStart, taken_map, Option.map_eq_some_iff] at parsed
            obtain ⟨_, parsed, -⟩ := parsed
            obtain ⟨length | length, last⟩ := parts_of_segmentStart parsed
            · exact last (fieldsLeft 2 (by simp [Sent.fieldCounts]) length)
            · exact last (fieldsLeft 8 (by simp [Sent.fieldCounts]) length)
        | prepareAssistant provider model voice ttsEnvelopeLufs context =>
            cases parts
            rw [parseCommand_prepareAssistant, taken_map, Option.map_eq_some_iff] at parsed
            obtain ⟨_, parsed, -⟩ := parsed
            obtain ⟨length | length, last⟩ := parts_of_prepareAssistant parsed
            · exact last (fieldsLeft 4 (by simp [Sent.fieldCounts]) length)
            · exact last (fieldsLeft 9 (by simp [Sent.fieldCounts]) length)

theorem Sent.line_ne_nil (sent : Sent) : sent.line ≠ [] := by
  cases parts : sent.parts with
  | none =>
      have words : ∀ word ∈ fixedWords, word ≠ [] := by decide
      exact words _ (Sent.line_mem parts)
  | some split =>
      obtain ⟨verb, args⟩ := split
      have verbs : ∀ verb ∈ argumentVerbs, verb ≠ [] := by decide
      rw [Sent.line_eq parts]
      exact List.append_ne_nil_of_left_ne_nil (verbs _ (Sent.verb_mem parts)) _

theorem Sent.eq_audio {sent : Sent} (some : sent.payload ≠ []) : sent = .audio sent.payload := by
  cases sent with
  | audio data => rfl
  | gain | programDuck | prepareAssistant | volumeContext | contentMeterPause | contentMeterResume | segmentStart
  | segmentEnd | flushSync | close => exact absurd rfl some

/-- A command that is cut short is refused, or was sent: its line is whole but for the line feed, or the cut is one of
those that leave the fields of a command. -/
theorem Sent.readCommand_cut {sent : Sent} {cut : Nat} (some : 0 < cut) (short : cut < sent.bytes.length)
    (outside : sent.cutsField cut = false) :
    taken (readCommand (sent.bytes.take cut)) = none ∨
      ∃ command, sent.command = Option.some command ∧
        taken (readCommand (sent.bytes.take cut)) = Option.some (Option.some (command, [])) := by
  have text := sent.lineText
  rcases Nat.lt_trichotomy cut sent.line.length with inside | whole | behind
  · have start : sent.bytes.take cut = sent.line.take cut := by
      rw [Sent.bytes, encode, List.append_assoc, List.take_append_of_le_length inside.le]
    have nonempty : sent.line.take cut ≠ [] := by
      rw [← List.length_pos_iff, List.length_take]
      omega
    left
    rw [start, taken_readCommand_unended (text.take cut) nonempty, Sent.parseCommand_cut some inside outside]
    simp
  · have start : sent.bytes.take cut = sent.line := by rw [Sent.bytes, encode, List.append_assoc, whole, List.take_left]
    rw [start, taken_readCommand_unended text sent.line_ne_nil]
    by_cases long : maxCommandLineBytes < sent.line.length
    · exact .inl (if_pos long)
    · rw [if_neg long]
      by_cases alone : sent.payload = []
      · have parsed := Sent.taken_parseCommand sent []
        rw [alone, List.append_nil] at parsed
        rw [parsed]
        cases sent.command with
        | none => exact .inl rfl
        | some command => exact .inr ⟨command, rfl, rfl⟩
      · have none : taken (parseCommand (Sent.audio sent.payload).line []) = none :=
          parseCommand_audio_short (List.length_pos_iff.mpr alone)
        rw [← Sent.eq_audio alone] at none
        rw [none]
        exact .inl rfl
  · have start : sent.bytes.take cut = encode sent.line ++ sent.payload.take (cut - (encode sent.line).length) := by
      rw [Sent.bytes, List.take_append, List.take_of_length_le]
      simp only [encode, List.length_append, List.length_singleton]
      omega
    have partial_ : (sent.payload.take (cut - (encode sent.line).length)).length < sent.payload.length := by
      simp only [Sent.bytes, List.length_append] at short
      rw [List.length_take]
      simp only [encode, List.length_append, List.length_singleton] at *
      omega
    have alone : sent.payload ≠ [] := List.ne_nil_of_length_pos (by omega)
    have none : taken (parseCommand (Sent.audio sent.payload).line
        (sent.payload.take (cut - (encode sent.line).length))) = none := parseCommand_audio_short partial_
    rw [← Sent.eq_audio alone] at none
    rw [start, taken_readCommand_encode text, none]
    simp

theorem ok_of_taken {α : Type} {result : Except ReadError α} {value : α} (eq : taken result = some value) :
    result = .ok value := by
  cases result with
  | error => cases eq
  | ok other => exact congrArg Except.ok (Option.some.inj eq)

theorem readCommands_nil : readCommands [] = { commands := [], ended := .endOfStream } := by
  have empty : readCommand [] = .ok none := ok_of_taken (by decide)
  unfold readCommands
  split <;> simp_all

theorem readCommands_refused (bytes : List UInt8) (refused : taken (readCommand bytes) = none) :
    (readCommands bytes).commands = [] ∧ (readCommands bytes).ended ≠ .endOfStream := by
  unfold readCommands
  split
  · exact ⟨rfl, by simp⟩
  · rename_i read
    rw [read] at refused
    cases refused
  · rename_i read
    rw [read] at refused
    cases refused

theorem readCommands_next {bytes rest : List UInt8} {command : TtsCommand}
    (next : taken (readCommand bytes) = some (some (command, rest))) :
    readCommands bytes = {
      commands := command :: (readCommands rest).commands
      ended := (readCommands rest).ended } := by
  have ok := ok_of_taken next
  conv_lhs => unfold readCommands
  split <;> simp_all

/-- The commands before the first one that the reader refuses. -/
def accepted (sents : List Sent) : List Sent := sents.takeWhile fun sent => sent.decoded.isSome

theorem Sent.command_of_decoded {sent : Sent} {command : TtsCommand} (decoded : sent.decoded = some command) :
    sent.command = some command := by
  rw [Sent.decoded] at decoded
  split at decoded
  · cases decoded
  · exact decoded

theorem stream_cons (sent : Sent) (later : List Sent) : stream (sent :: later) = sent.bytes ++ stream later := rfl

theorem stream_append (before after : List Sent) : stream (before ++ after) = stream before ++ stream after := by
  simp [stream]

theorem readCommands_sent {sent : Sent} {command : TtsCommand} (decoded : sent.decoded = some command)
    (rest : List UInt8) :
    readCommands (sent.bytes ++ rest) = {
      commands := command :: (readCommands rest).commands
      ended := (readCommands rest).ended } :=
  readCommands_next (by rw [Sent.taken_readCommand, decoded]; rfl)

/-- Commands that the reader takes are read in turn, and the reading goes on with what follows. -/
theorem readCommands_accepted {done : List Sent} (all : accepted done = done) (rest : List UInt8) :
    (readCommands (stream done ++ rest)).commands.map some =
        done.map Sent.command ++ (readCommands rest).commands.map some ∧
      (readCommands (stream done ++ rest)).ended = (readCommands rest).ended := by
  induction done with
  | nil => exact ⟨rfl, rfl⟩
  | cons sent done ih =>
      cases decoded : sent.decoded with
      | none => simp [accepted, decoded] at all
      | some command =>
          have later : accepted done = done := by simpa [accepted, decoded] using all
          rw [stream_cons, List.append_assoc, readCommands_sent decoded]
          simp only [List.map_cons, List.cons_append, Sent.command_of_decoded decoded]
          exact ⟨congrArg _ (ih later).1, (ih later).2⟩

theorem readCommands_stream (sents : List Sent) :
    (readCommands (stream sents)).commands.map some = (accepted sents).map Sent.command ∧
      ((readCommands (stream sents)).ended = .endOfStream ↔ accepted sents = sents) := by
  induction sents with
  | nil => simp [stream, accepted, readCommands_nil]
  | cons sent later ih =>
      cases decoded : sent.decoded with
      | none =>
          have stopped := readCommands_refused (sent.bytes ++ stream later)
            (by rw [Sent.taken_readCommand, decoded]; rfl)
          rw [stream_cons, stopped.1]
          simp [accepted, decoded, stopped.2]
      | some command =>
          rw [stream_cons, readCommands_sent decoded]
          simpa [accepted, decoded, Sent.command_of_decoded decoded] using ih

/-- The cut of a stream falls in the arguments of a command, and leaves as many fields as the reader takes. -/
def CutsField (sents : List Sent) (size : Nat) : Prop :=
  ∃ (before : List Sent) (sent : Sent) (after : List Sent) (cut : Nat),
    sents = before ++ sent :: after ∧ size = (stream before).length + cut ∧ sent.cutsField cut = true

theorem CutsField.cons {later : List Sent} {size : Nat} (cuts : CutsField later size) (sent : Sent) :
    CutsField (sent :: later) (sent.bytes.length + size) := by
  obtain ⟨before, next, after, cut, rfl, rfl, field⟩ := cuts
  refine ⟨sent :: before, next, after, cut, rfl, ?_, field⟩
  rw [stream_cons, List.length_append]
  omega

/-- Nothing that was not sent is read off a cut stream. The induction follows the commands up to the one that is cut. -/
theorem readCommands_cut (sents : List Sent) (size : Nat) (outside : ¬ CutsField sents size) :
    ∃ read, read <+: sents ∧
      (readCommands ((stream sents).take size)).commands.map some = read.map Sent.command := by
  induction sents generalizing size with
  | nil => exact ⟨[], List.prefix_rfl, by simp [stream, readCommands_nil]⟩
  | cons sent later ih =>
      by_cases whole : sent.bytes.length ≤ size
      · obtain ⟨left, rfl⟩ := Nat.exists_eq_add_of_le whole
        rw [stream_cons, List.take_append, List.take_of_length_le (by omega), Nat.add_sub_cancel_left]
        cases decoded : sent.decoded with
        | none =>
            have stopped := readCommands_refused (sent.bytes ++ (stream later).take left)
              (by rw [Sent.taken_readCommand, decoded]; rfl)
            exact ⟨[], List.nil_prefix, by rw [stopped.1]; rfl⟩
        | some command =>
            obtain ⟨read, start, eq⟩ := ih left fun cuts => outside (cuts.cons sent)
            refine ⟨sent :: read, List.cons_prefix_cons.mpr ⟨rfl, start⟩, ?_⟩
            rw [readCommands_sent decoded, List.map_cons, List.map_cons, eq, Sent.command_of_decoded decoded]
      · rw [stream_cons, List.take_append_of_le_length (by omega)]
        by_cases zero : size = 0
        · exact ⟨[], List.nil_prefix, by simp [zero, readCommands_nil]⟩
        · have field : sent.cutsField size = false := by
            rw [← Bool.not_eq_true]
            exact fun cuts => outside ⟨[], sent, later, size, rfl, by simp [stream], cuts⟩
          rcases Sent.readCommand_cut (Nat.pos_of_ne_zero zero) (Nat.not_le.mp whole) field with none | ⟨command, eq, next⟩
          · exact ⟨[], List.nil_prefix, by rw [(readCommands_refused _ none).1]; rfl⟩
          · refine ⟨[sent], ⟨later, rfl⟩, ?_⟩
            rw [readCommands_next next, readCommands_nil, List.map_singleton, List.map_singleton, eq]

/-- The loop reads every command that the reader accepts, up to the first it refuses. On a cut of the stream it reads
commands that were sent, unless the cut falls in the arguments of one; those before the cut are always read. -/
theorem assistant_stream_is_read_back (sents : List Sent) :
    ((readCommands (stream sents)).commands.map some = (accepted sents).map Sent.command ∧
        ((readCommands (stream sents)).ended = .endOfStream ↔ accepted sents = sents)) ∧
      (∀ size, ¬ CutsField sents size →
        ∃ read, read <+: sents ∧
          (readCommands ((stream sents).take size)).commands.map some = read.map Sent.command) ∧
      ∀ (done later : List Sent) (size : Nat), sents = done ++ later → accepted done = done →
        (stream done).length ≤ size →
          done.map Sent.command <+: (readCommands ((stream sents).take size)).commands.map some := by
  refine ⟨readCommands_stream sents, fun size outside => readCommands_cut sents size outside, ?_⟩
  rintro done later size rfl all behind
  rw [stream_append, List.take_append, List.take_of_length_le behind, (readCommands_accepted all _).1]
  exact List.prefix_append _ _

-- A duck and a level of -12 dB are read back, and the cut within the verb of the second yields no command of its own.
theorem assistant_stream_is_read_back_ducked :
    (readCommands (stream [.programDuck true, .gain ⟨0xc028000000000000⟩])).commands.map some =
        [some .programDuckOn, some (.gainDb ⟨0xc1400000⟩)] ∧
      (∃ read, read <+: [.programDuck true, .gain ⟨0xc028000000000000⟩] ∧
        (readCommands ((stream [.programDuck true, .gain ⟨0xc028000000000000⟩]).take 20)).commands.map some =
          read.map Sent.command) := by
  have back := assistant_stream_is_read_back [.programDuck true, .gain ⟨0xc028000000000000⟩]
  have all : (accepted [.programDuck true, .gain ⟨0xc028000000000000⟩]).map Sent.command =
      [some .programDuckOn, some (.gainDb ⟨0xc1400000⟩)] := by decide +kernel
  refine ⟨back.1.1.trans all, back.2.1 20 ?_⟩
  rintro ⟨before, sent, after, cut, eq, size, field⟩
  match before, eq with
  | [], eq =>
      cases eq
      cases field
  | [_], eq =>
      cases eq
      have start : (stream [.programDuck true]).length = 16 := by decide +kernel
      obtain rfl : cut = 4 := by omega
      revert field
      decide +kernel
  | _ :: _ :: _, eq => simp at eq

/-- The client sends a payload of half a frame, which the reader refuses; and a level of -12 dB that is cut in its number
is read as one of -1 dB. -/
theorem reader_refuses_half_a_frame_and_reads_half_a_number :
    ((readCommands (stream [.audio [0, 0, 0, 0]])).commands = [] ∧
        (readCommands (stream [.audio [0, 0, 0, 0]])).ended ≠ .endOfStream) ∧
      readCommands ((stream [.gain ⟨0xc028000000000000⟩]).take 7) =
        { commands := [.gainDb ⟨0xbf800000⟩], ended := .endOfStream } ∧
      Sent.command (.gain ⟨0xc028000000000000⟩) = some (.gainDb ⟨0xc1400000⟩) := by
  refine ⟨readCommands_refused _ (by decide +kernel), ?_, by decide +kernel⟩
  have next : taken (readCommand ((stream [.gain ⟨0xc028000000000000⟩]).take 7)) =
      some (some (.gainDb ⟨0xbf800000⟩, [])) := by decide +kernel
  rw [readCommands_next next, readCommands_nil]

end Jts.Tts
