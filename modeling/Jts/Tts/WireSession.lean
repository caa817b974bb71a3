import Jts.Tts.WirePrefix

set_option autoImplicit false

namespace Jts.Tts

/-- The segment that a client has open, and whether it has closed its socket. -/
structure TtsStream where
  activeSegment : Option Segment
  closed : Bool
deriving DecidableEq

def TtsStream.connected : TtsStream where
  activeSegment := none
  closed := false

inductive Call
  | setGainDb (db : F64)
  | programDuck (on : Bool)
  | prepareAssistant (provider model voice : String) (ttsEnvelopeLufs : F64)
      (volumeContext : Option EffectiveVolumeContext)
  | pauseContentMeter
  | resumeContentMeter
  | startSegment (kind : String) (providerItemId : Option String) (profile : Option VoiceProfile)
  | endSegment
  | write (data : List UInt8)
  | flushSync
  | close
deriving DecidableEq

-- A send that fails closes the stream, so it is a cut of what is sent here.
def TtsStream.perform (client : TtsStream) (call : Call) : TtsStream × List Sent :=
  if client.closed then (client, [])
  else match call with
    | .setGainDb db => (client, [.gain db])
    | .programDuck on => (client, [.programDuck on])
    | .prepareAssistant provider model voice ttsEnvelopeLufs context =>
        if providerOk : tokenOk provider = true then
          if modelOk : tokenOk model = true then
            if voiceOk : tokenOk voice = true then
              (client, [.prepareAssistant ⟨provider, providerOk⟩ ⟨model, modelOk⟩ ⟨voice, voiceOk⟩ ttsEnvelopeLufs context])
            else (client, [])
          else (client, [])
        else (client, [])
    | .pauseContentMeter => (client, [.contentMeterPause])
    | .resumeContentMeter => (client, [.contentMeterResume])
    | .startSegment kind providerItemId profile =>
        let segment : Segment := {
          kind := segmentKind kind
          providerItemId := providerToken providerItemId
          profile := profileTokens profile }
        if client.activeSegment = some segment then (client, [])
        else ({ client with activeSegment := some segment },
          (if client.activeSegment.isSome then [.segmentEnd] else []) ++ [.segmentStart segment])
    | .endSegment =>
        if client.activeSegment.isNone then (client, [])
        else ({ client with activeSegment := none }, [.segmentEnd])
    | .write data => (client, [.audio data])
    | .flushSync => ({ client with activeSegment := none }, [.flushSync])
    | .close => ({ activeSegment := none, closed := true },
        (if client.activeSegment.isSome then [.segmentEnd] else []) ++ [.close])

def TtsStream.session (client : TtsStream) : List Call → List Sent
  | [] => []
  | call :: calls => (client.perform call).2 ++ (client.perform call).1.session calls

theorem TtsStream.session_of_closed {client : TtsStream} (closed : client.closed = true) (calls : List Call) :
    client.session calls = [] := by
  induction calls with
  | nil => rfl
  | cons call calls ih => simp [TtsStream.session, TtsStream.perform, closed, ih]

-- `CLOSE` is sent last by the call that closes the stream, and by no other call.
theorem TtsStream.perform_cases (client : TtsStream) (call : Call) :
    Sent.close ∉ (client.perform call).2 ∨
      ((client.perform call).1.closed = true ∧
        ∃ before, (client.perform call).2 = before ++ [.close] ∧ Sent.close ∉ before) := by
  by_cases closed : client.closed = true
  · exact .inl (by simp [TtsStream.perform, closed])
  · cases call with
    | setGainDb | programDuck | pauseContentMeter | resumeContentMeter | write | flushSync =>
        exact .inl (by simp [TtsStream.perform, closed])
    | prepareAssistant =>
        left
        simp only [TtsStream.perform, if_neg closed]
        split
        · split
          · split <;> simp
          · simp
        · simp
    | startSegment =>
        left
        simp only [TtsStream.perform, if_neg closed]
        split
        · simp
        · split <;> simp
    | endSegment =>
        left
        simp only [TtsStream.perform, if_neg closed]
        split <;> simp
    | close =>
        right
        refine ⟨by simp [TtsStream.perform, closed], if client.activeSegment.isSome then [.segmentEnd] else [], ?_, ?_⟩
        · simp [TtsStream.perform, closed]
        · split <;> simp

/-- Whatever is called, a client sends nothing after `CLOSE`. -/
theorem TtsStream.close_is_last (client : TtsStream) (calls : List Call) :
    ∀ before after, client.session calls = before ++ .close :: after → after = [] := by
  induction calls generalizing client with
  | nil => simp [TtsStream.session]
  | cons call calls ih =>
      intro before after eq
      rw [TtsStream.session] at eq
      rcases client.perform_cases call with absent | ⟨closed, sent, last, absent⟩
      · rcases List.append_eq_append_iff.mp eq with ⟨more, rfl, left⟩ | ⟨more, left, right⟩
        · exact ih (client.perform call).1 more after left
        · cases more with
          | nil => exact ih (client.perform call).1 [] after right.symm
          | cons next more =>
              obtain ⟨rfl, -⟩ := List.cons.inj right
              exact absurd (by simp [left]) absent
      · rw [TtsStream.session_of_closed closed, List.append_nil, last] at eq
        rcases List.append_eq_append_iff.mp eq with ⟨more, rfl, left⟩ | ⟨more, rfl, right⟩
        · cases more with
          | nil => exact (List.cons.inj left).2.symm
          | cons next more => simp at left
        · cases more with
          | nil => exact (List.cons.inj right).2
          | cons next more =>
              obtain ⟨rfl, -⟩ := List.cons.inj right
              exact absurd (by simp) absent

/-- The commands of a client that the server carries out: the loop ends at `CLOSE` too. -/
def serveClient (bytes : List UInt8) : List TtsCommand :=
  match read : readCommand bytes with
  | .error _ => []
  | .ok none => []
  | .ok (some (command, rest)) =>
      if command = .close then []
      else
        have := readCommand_lt read
        command :: serveClient rest
termination_by bytes.length

theorem serveClient_eq (bytes : List UInt8) : serveClient bytes = (readCommands bytes).commands.takeWhile (· ≠ .close) := by
  induction length : bytes.length using Nat.strongRecOn generalizing bytes with
  | ind size ih =>
      unfold serveClient
      split
      · rename_i read
        rw [(readCommands_refused bytes (by rw [read]; rfl)).1]
        rfl
      · rename_i read
        have none : (readCommands bytes).commands = [] := by
          unfold readCommands
          split <;> simp_all
        rw [none]
        rfl
      · rename_i command rest read
        have shorter := readCommand_lt read
        rw [readCommands_next (by rw [read]; rfl)]
        by_cases closes : command = .close
        · simp [closes]
        · rw [if_neg closes, ih rest.length (length ▸ shorter) rest rfl]
          exact (List.takeWhile_cons_of_pos (by simpa using closes)).symm

-- Only `CLOSE` is read as one.
theorem Sent.close_of_command {sent : Sent} (command : sent.command = some .close) : sent = .close := by
  cases sent with
  | close => rfl
  | programDuck on => cases on <;> cases command
  | audio data =>
      simp only [Sent.command] at command
      repeat' split at command
      all_goals cases command
  | _ => simp [Sent.command, Segment.decoded, Option.bind_eq_some_iff] at command

/-- Of a list that `CLOSE` can only end, the commands before it are all the others. -/
theorem takeWhile_close {commands : List TtsCommand} {sents : List Sent} (same : commands.map some = sents.map Sent.command)
    (last : ∀ before after, sents = before ++ .close :: after → after = []) :
    (commands.takeWhile (· ≠ .close)).map some = (sents.filter (· ≠ .close)).map Sent.command := by
  induction sents generalizing commands with
  | nil =>
      obtain rfl : commands = [] := by simpa using same
      rfl
  | cons sent sents ih =>
      obtain ⟨command, commands, rfl⟩ := List.exists_cons_of_ne_nil (l := commands) (by rintro rfl; cases same)
      obtain ⟨first, rest⟩ := List.cons.inj same
      by_cases closes : sent = .close
      · subst closes
        obtain rfl : command = .close := Option.some.inj first
        obtain rfl := last [] sents rfl
        simp
      · have other : command ≠ .close := by
          rintro rfl
          exact closes (Sent.close_of_command first.symm)
        have later := ih rest fun before after eq => last (sent :: before) after (by rw [eq, List.cons_append])
        simpa [closes, other, first] using later

-- What has come before keeps `CLOSE` last.
theorem close_stays_last {read sents : List Sent} (start : read <+: sents)
    (last : ∀ before after, sents = before ++ .close :: after → after = []) (before after : List Sent)
    (eq : read = before ++ .close :: after) : after = [] := by
  obtain ⟨later, rfl⟩ := start
  exact (List.append_eq_nil_iff.mp (last before (after ++ later) (by rw [eq, List.append_assoc, List.cons_append]))).1

/-- Of what the calls of a client send, the server carries out all that the reader accepts, but for `CLOSE`; of a stream that is cut
outside of arguments it carries out a part that was sent. -/
theorem TtsStream.session_is_served (client : TtsStream) (calls : List Call) :
    (serveClient (stream (client.session calls))).map some =
        ((accepted (client.session calls)).filter (· ≠ .close)).map Sent.command ∧
      ∀ size, ¬ CutsField (client.session calls) size →
        ∃ read, read <+: client.session calls ∧
          (serveClient ((stream (client.session calls)).take size)).map some = (read.filter (· ≠ .close)).map Sent.command := by
  have last := client.close_is_last calls
  constructor
  · rw [serveClient_eq]
    exact takeWhile_close (readCommands_stream _).1 (close_stays_last (List.takeWhile_prefix _) last)
  · intro size outside
    obtain ⟨read, start, same⟩ := readCommands_cut _ size outside
    refine ⟨read, start, ?_⟩
    rw [serveClient_eq]
    exact takeWhile_close same (close_stays_last start last)

end Jts.Tts
