import Jts.DspControl.Apply
import Jts.Shared.Outcome

set_option autoImplicit false

namespace Jts.DspControl.Apply

open Shared.Outcome

theorem universalNewlines_eq_self : ∀ characters : List Char, universalNewlines characters = characters ↔ '\r' ∉ characters := by
  have length : ∀ characters, (universalNewlines characters).length ≤ characters.length := by
    intro characters
    induction characters using universalNewlines.induct with
    | case1 rest ih | case2 rest _ ih =>
        simp only [universalNewlines, List.length_cons]
        omega
    | case3 character rest crlf cr ih => simpa [universalNewlines] using ih
    | case4 => exact Nat.le_refl _
  intro characters
  induction characters using universalNewlines.induct with
  | case1 rest ih => simp [universalNewlines]
  | case2 rest crlf ih => simp [universalNewlines]
  | case3 character rest crlf cr ih =>
      have other : character ≠ '\r' := by
        rintro rfl
        exact cr rfl
      simp [universalNewlines, ih, Ne.symm other]
  | case4 => simp [universalNewlines]

def Phase.loadBegun (phase : Phase) : Bool := phase = .load || phase = .confirm || phase = .persist || phase = .done

def Result.rolledBack : Result → Bool
  | .loadFailed verdict | .confirmFailed verdict | .persistFailed verdict => verdict = some .rolledBack
  | _ => false

def DspApplyState.failedLater {Path : Type} (state : DspApplyState Path) : Bool :=
  state.loadError.isSome || state.confirmError.isSome || state.persistError.isSome

namespace Request

variable {Path File : Type} [DecidableEq File] (request : Request Path File)

/-- What an apply promises at its end. -/
structure Transaction (world : World Path File) (ending : Ending) : Prop where
  untouched : ending ≠ .returned → world.state.phase.loadBegun = false →
    world.loads = [] ∧
      (request.running = some (request.file world.state.candidateConfigPath) →
        world.files (request.file world.state.candidateConfigPath) = request.files (request.file world.state.candidateConfigPath))
  reloaded : ∀ prior, world.state.failedLater = true → world.state.priorConfigPath = some prior →
    ∃ candidate bytes, world.loads = [(world.state.candidateConfigPath, candidate), (prior, bytes)] ∧
      (request.file prior = request.file world.state.candidateConfigPath → bytes = request.files (request.file prior))
  honest : world.state.result.rolledBack = true → request.rollback = .returned true ∧ world.loads.length = 2
  success : ending = .returned ∨ world.state.result = .success →
    request.load = .returned true ∧
      (∀ answer ∈ request.confirm, ∃ active, answer = .returned active ∧
        ∀ path ∈ active, request.file path = request.file world.state.candidateConfigPath) ∧
      ∀ answer ∈ request.persist, answer = .returned ()
  surfaces : ending ≠ .returned → ending ≠ .cancelled →
    ending = .failed ∧ world.state.finished = true ∧ world.state.result ≠ .inProgress ∧ world.recorded.getLast? = some world.state

def metadata : Option (Metadata Path) :=
  match request.prepare with
  | some ⟨_, .returned metadata⟩ => some metadata
  | _ => none

def destination : Path := (request.metadata.bind Metadata.candidatePath).getD request.candidatePath

def target : File := request.file request.destination

def toldPrior : Option Path := request.priorConfigPath.or (request.metadata.bind Metadata.priorConfigPath)

def prior : Option Path :=
  match request.toldPrior, request.snapshot with
  | none, some (.returned current) => current
  | told, _ => told

def expected : Option String := (request.metadata.bind Metadata.expectedCandidateSha256).getD request.expectedCandidateSha256

/-- The files after the preparation, if nothing is put back. -/
def prepared : File → Option Content :=
  match request.prepare with
  | none => request.files
  | some prepare => prepare.effect request.files

-- The candidate is opened before the preparation, as its file may be the one that runs.
def opened : Bool :=
  request.prepare.isSome &&
    (request.priorConfigPath.isNone || request.sameConfigFile request.priorConfigPath (some request.candidatePath)) &&
    request.readable

def captured : Option (List Char) :=
  match request.opened, request.files (request.file request.candidatePath) with
  | true, some (.text characters) => some characters
  | _, _ => none

def keptText : Option (List Char) := if request.file request.candidatePath = request.target then request.captured else none

/-- The text that is written back to the target. -/
def writtenBack (restores : Bool) : Option (List Char) :=
  if restores ∧ request.restoreError = none then request.keptText else none

/-- The target has its bytes back: no line end is lost in them, or it never had others. -/
def GivenBack (restores : Bool) : Prop :=
  match request.writtenBack restores with
  | some characters => '\r' ∉ characters
  | none => request.prepared request.target = request.files request.target

inductive Stop
  | undecodable
  | prepareCancelled
  | prepareRaised
  | snapshotCancelled
  | validatorRaised
  | refused
  | loaded
deriving DecidableEq

def undecodable : Bool :=
  match request.opened, request.files (request.file request.candidatePath) with
  | true, some (.undecodable _) => true
  | _, _ => false

def proofFails : Bool :=
  match request.expected with
  | none => false
  | some expected =>
      (proofFailure (if request.provable then (request.prepared request.target).map request.sha256 else none) expected).isSome

def checked : Stop :=
  match request.validation with
  | .raised _ => .validatorRaised
  | .refused _ => .refused
  | .okToApply _ => if request.proofFails then .refused else .loaded

def snapshotted : Stop :=
  match request.toldPrior, request.snapshot with
  | none, some .cancelled => .snapshotCancelled
  | _, _ => request.checked

def stop : Stop :=
  if request.undecodable then .undecodable
  else
    match request.prepare.map Prepare.answer with
    | some .cancelled => .prepareCancelled
    | some (.raised _) => .prepareRaised
    | _ => request.snapshotted

def confirmed : Answer Unit :=
  match request.confirm with
  | none | some (.returned none) => .returned ()
  | some (.returned (some active)) => if request.file active = request.target then .returned () else .raised "another config is active"
  | some (.raised error) => .raised error
  | some .cancelled => .cancelled

def later : Answer Unit :=
  match request.load, request.confirmed with
  | .returned true, .returned () => request.persist.getD (.returned ())
  | .returned true, unconfirmed => unconfirmed
  | .returned false, _ => .raised "CamillaDSP rejected candidate config path"
  | .raised error, _ => .raised error
  | .cancelled, _ => .cancelled

/-- When all that the preparation did to the file that runs can be undone at the step where the apply stops. -/
def Undoable : Prop :=
  match request.stop with
  | .undecodable | .validatorRaised => False
  | .prepareCancelled => request.running = some request.target →
      request.GivenBack (request.sameConfigFile request.priorConfigPath (some request.destination))
  | .snapshotCancelled => request.running = some request.target → request.GivenBack false
  | .prepareRaised | .refused => request.running = some request.target → request.GivenBack true
  | .loaded => ∀ error, request.later = .raised error → request.sameConfigFile request.prior (some request.destination) = true →
      (request.keptText.isSome → request.restoreError = none) ∧ request.GivenBack true

/-- Nothing is loaded yet, and nothing is settled. -/
structure Untouched (world : World Path File) : Prop where
  loads : world.loads = []
  phase : world.state.phase.loadBegun = false
  clean : world.state.failedLater = false
  unsettled : world.state.result = .inProgress
  noRollback : world.state.rollbackAttempted = false

structure Captured (world : World Path File) : Prop extends Untouched world where
  files : world.files = request.files
  candidate : world.state.candidateConfigPath = request.candidatePath
  restore : world.candidateRestore = request.captured.map fun characters => (request.candidatePath, universalNewlines characters)
  prior : world.state.priorConfigPath = request.priorConfigPath
  expected : world.expectedCandidateSha256 = request.expectedCandidateSha256

structure Prepared (prior : Option Path) (world : World Path File) : Prop extends Untouched world where
  files : world.files = request.prepared
  candidate : world.state.candidateConfigPath = request.destination
  restore : world.candidateRestore = request.keptText.map fun characters => (request.candidatePath, universalNewlines characters)
  prior : world.state.priorConfigPath = prior
  expected : world.expectedCandidateSha256 = request.expected

/-- The end of an apply that loaded nothing. -/
structure Abandoned (restores : Bool) (world : World Path File) : Prop where
  loads : world.loads = []
  phase : world.state.phase.loadBegun = false
  clean : world.state.failedLater = false
  result : world.state.result.rolledBack = false ∧ world.state.result ≠ .success
  candidate : world.state.candidateConfigPath = request.destination
  bytes : world.files request.target =
    match request.writtenBack restores with
    | some characters => some (.text (universalNewlines characters))
    | none => request.prepared request.target

/-- An apply that stops so keeps its promise when it can be undone, and then only. -/
def Judged (out : World Path File × Ending) : Prop := Transaction request (request.finally_ out.1) out.2 ↔ request.Undoable

theorem captured_text {characters : List Char} (is : request.captured = some characters) :
    request.files (request.file request.candidatePath) = some (.text characters) := by
  unfold captured at is
  split at is
  · rename_i text
    exact text.trans (congrArg (fun kept => some (Content.text kept)) (Option.some.inj is))
  · cases is

theorem keptText_text {characters : List Char} (is : request.keptText = some characters) :
    request.file request.candidatePath = request.target ∧ request.files request.target = some (.text characters) := by
  obtain ⟨same, captured⟩ := Option.ite_none_right_eq_some.mp is
  exact ⟨same, same ▸ request.captured_text captured⟩

theorem givenBack_iff (restores : Bool) :
    (match request.writtenBack restores with
      | some characters => some (.text (universalNewlines characters))
      | none => request.prepared request.target) = request.files request.target ↔ request.GivenBack restores := by
  unfold GivenBack
  cases writes : request.writtenBack restores with
  | none => rfl
  | some characters =>
      obtain ⟨-, kept⟩ := Option.ite_none_right_eq_some.mp writes
      rw [(request.keptText_text kept).2]
      simpa using universalNewlines_eq_self characters

theorem abandoned_transaction {restores : Bool} {world : World Path File} {ending : Ending}
    (abandoned : request.Abandoned restores world) (unreturned : ending ≠ .returned)
    (surfaces : ending ≠ .cancelled →
      ending = .failed ∧ world.state.finished = true ∧ world.state.result ≠ .inProgress ∧ world.recorded.getLast? = some world.state) :
    Transaction request world ending ↔ (request.running = some request.target → request.GivenBack restores) := by
  have target : request.file world.state.candidateConfigPath = request.target := by
    rw [abandoned.candidate]
    rfl
  rw [← request.givenBack_iff, ← abandoned.bytes]
  constructor
  · intro transaction runs
    have back := (transaction.untouched unreturned abandoned.phase).2
    rw [target] at back
    exact back runs
  · intro back
    exact {
      untouched := fun _ _ => ⟨abandoned.loads, by rwa [target]⟩
      reloaded := fun _ failed => by simp [abandoned.clean] at failed
      honest := fun rolled => by simp [abandoned.result.1] at rolled
      success := fun success => (success.elim unreturned abandoned.result.2).elim
      surfaces := fun _ => surfaces }

theorem finally_settled {world : World Path File} (settled : world.state.result ≠ .inProgress) : request.finally_ world = world := by
  unfold finally_
  split
  · rfl
  · exact if_neg fun unsettled => settled unsettled.1

theorem Prepared.kept {request : Request Path File} {prior : Option Path} {world : World Path File} {saved : Path × List Char}
    (prepared : request.Prepared prior world) (saves : world.candidateRestore = some saved) :
    ∃ characters, request.keptText = some characters ∧ request.file saved.1 = request.target ∧ saved.2 = universalNewlines characters := by
  rw [prepared.restore] at saves
  obtain ⟨characters, kept, rfl⟩ := Option.map_eq_some_iff.mp saves
  exact ⟨characters, kept, (request.keptText_text kept).1, rfl⟩

theorem Prepared.unkept {request : Request Path File} {prior : Option Path} {world : World Path File}
    (prepared : request.Prepared prior world) (saves : world.candidateRestore = none) : request.keptText = none :=
  Option.map_eq_none_iff.mp (prepared.restore ▸ saves)

/-- A refusal before the load puts the file back and records why. -/
theorem refuse_judged (prior : Option Path) {world : World Path File} (prepared : request.Prepared prior world) {result : Result}
    (settled : result ≠ .inProgress) (known : result.rolledBack = false ∧ result ≠ .success) (undoable : request.Undoable ↔ (request.running = some request.target → request.GivenBack true)) :
    request.Judged ((world.abandonCandidate request).settle result, .failed) := by
  have abandoned : request.Abandoned true ((world.abandonCandidate request).settle result) := by
    cases saves : world.candidateRestore with
    | none =>
        simp only [World.abandonCandidate, saves]
        refine ⟨prepared.loads, prepared.phase, prepared.clean, known, prepared.candidate, ?_⟩
        simp [writtenBack, prepared.unkept saves, World.settle, World.update, World.record, prepared.files]
    | some saved =>
        obtain ⟨characters, kept, same, text⟩ := prepared.kept saves
        cases fails : request.restoreError with
        | none =>
            simp only [World.abandonCandidate, saves, World.restoreCandidateBytes, fails]
            refine ⟨prepared.loads, prepared.phase, prepared.clean, known, prepared.candidate, ?_⟩
            simp [writtenBack, kept, fails, World.settle, World.update, World.record, same, text]
        | some error =>
            simp only [World.abandonCandidate, saves, World.restoreCandidateBytes, fails]
            refine ⟨prepared.loads, prepared.phase, prepared.clean, known, prepared.candidate, ?_⟩
            simp [writtenBack, fails, World.settle, World.update, World.record, prepared.files]
  have last : request.finally_ ((world.abandonCandidate request).settle result) = (world.abandonCandidate request).settle result :=
    request.finally_settled settled
  rw [Judged, last, undoable]
  exact request.abandoned_transaction abandoned (by simp) fun _ => ⟨rfl, rfl, settled, by simp [World.settle, World.record]⟩

/-- A cancellation before the load puts the file back if the graph on it is known to run. -/
theorem cancel_judged (prior : Option Path) {world : World Path File} (prepared : request.Prepared prior world)
    (undoable : request.Undoable ↔ (request.running = some request.target →
      request.GivenBack (request.sameConfigFile prior (some request.destination)))) :
    request.Judged (world, .cancelled) := by
  have abandoned : request.Abandoned (request.sameConfigFile prior (some request.destination)) (request.finally_ world) := by
    have result : world.state.result.rolledBack = false ∧ world.state.result ≠ .success := by simp [prepared.unsettled, Result.rolledBack]
    have phase : world.state.phase ≠ .persist := by
      intro persists
      simpa [persists, Phase.loadBegun] using prepared.phase
    cases saves : world.candidateRestore with
    | none =>
        simp only [finally_, saves]
        refine ⟨prepared.loads, prepared.phase, prepared.clean, result, prepared.candidate, ?_⟩
        simp [writtenBack, prepared.unkept saves, prepared.files]
    | some saved =>
        obtain ⟨characters, kept, same, text⟩ := prepared.kept saves
        have opens : (world.state.result = .inProgress ∧ world.state.phase ≠ .persist ∧
            request.sameConfigFile world.state.priorConfigPath (some world.state.candidateConfigPath) = true) ↔
              request.sameConfigFile prior (some request.destination) = true := by
          simp [prepared.unsettled, phase, prepared.prior, prepared.candidate]
        simp only [finally_, saves, opens]
        cases runs : request.sameConfigFile prior (some request.destination) with
        | false =>
            rw [if_neg Bool.false_ne_true]
            refine ⟨prepared.loads, prepared.phase, prepared.clean, result, prepared.candidate, ?_⟩
            simp [writtenBack, prepared.files]
        | true =>
            rw [if_pos rfl]
            cases fails : request.restoreError with
            | none =>
                simp only [World.restoreCandidateBytes, fails]
                refine ⟨prepared.loads, prepared.phase, prepared.clean, result, prepared.candidate, ?_⟩
                simp [writtenBack, kept, fails, World.update, World.record, same, text]
            | some error =>
                simp only [World.restoreCandidateBytes, fails]
                refine ⟨prepared.loads, prepared.phase, prepared.clean, result, prepared.candidate, ?_⟩
                simp [writtenBack, fails, World.update, World.record, prepared.files]
  rw [Judged, undoable]
  exact request.abandoned_transaction abandoned (by simp) fun other => (other rfl).elim

theorem judged_raised {world : World Path File} (never : ¬ request.Undoable) : request.Judged (world, .raised) := by
  refine iff_of_false (fun transaction => ?_) never
  exact nomatch (transaction.surfaces (by simp) (by simp)).1

theorem readText_unreadable (content : Option Content) : readText false content = .osError := by
  rcases content with _ | _ | _ <;> rfl

theorem capture_judged : Meets (fun world => request.Captured world ∧ request.undecodable = false) request.Judged
    (request.capture request.begin) := by
  have start : Untouched request.begin := ⟨rfl, rfl, rfl, rfl, rfl⟩
  have opens : (request.prepare.isSome = true ∧ (request.priorConfigPath.isNone = true ∨
      request.sameConfigFile request.priorConfigPath (some request.candidatePath) = true)) ∧ request.readable = true ↔
        request.opened = true := by
    simp [opened]
  have closed (unread : request.opened = false) : request.captured = none ∧ request.undecodable = false := by
    simp [captured, undecodable, unread]
  unfold capture
  split
  · rename_i reads
    cases readable : request.readable with
    | false =>
        have unread := closed (Bool.eq_false_iff.mpr fun opened => by simpa [readable] using (opens.mpr opened).2)
        rw [readText_unreadable]
        exact ⟨⟨start, rfl, rfl, by simp [unread.1, begin], rfl, rfl⟩, unread.2⟩
    | true =>
        have opened := opens.mp ⟨reads, readable⟩
        cases content : request.files (request.file request.candidatePath) with
        | none =>
            simp only [begin, content, readText]
            exact ⟨⟨⟨rfl, rfl, rfl, rfl, rfl⟩, rfl, rfl, by simp [captured, content], rfl, rfl⟩, by simp [undecodable, content]⟩
        | some held =>
            cases held with
            | text characters =>
                simp only [begin, content, readText]
                exact ⟨⟨⟨rfl, rfl, rfl, rfl, rfl⟩, rfl, rfl, by simp [captured, opened, content], rfl, rfl⟩,
                  by simp [undecodable, opened, content]⟩
            | undecodable bytes =>
                simp only [begin, content, readText]
                exact request.judged_raised (by simp [Undoable, stop, undecodable, opened, content])
  · rename_i skipped
    have unread := closed (Bool.eq_false_iff.mpr fun opened => skipped (opens.mpr opened).1)
    exact ⟨⟨start, rfl, rfl, by simp [unread.1, begin], rfl, rfl⟩, unread.2⟩

theorem Captured.restores {request : Request Path File} {world : World Path File} (captured : request.Captured world)
    {metadata : Metadata Path} (given : request.destination = metadata.candidatePath.getD request.candidatePath) :
    (world.candidateRestore.filter fun saved => request.sameConfigFile (some saved.1)
        (some (metadata.candidatePath.getD world.state.candidateConfigPath))) =
      request.keptText.map fun characters => (request.candidatePath, universalNewlines characters) := by
  rw [captured.restore, captured.candidate, ← given, keptText]
  cases request.captured with
  | none => simp
  | some characters =>
      have target : request.file request.destination = request.target := rfl
      by_cases same : request.file request.candidatePath = request.target <;> simp [Option.filter, sameConfigFile, target, same]

/-- Where the preparation tells nothing, the candidate stays what it was. -/
theorem Captured.prepared {request : Request Path File} {world : World Path File} (captured : request.Captured world)
    (untold : request.metadata = none) : request.Prepared request.priorConfigPath { world with files := request.prepared } := by
  have same : request.destination = request.candidatePath := by simp [destination, untold]
  refine ⟨⟨captured.loads, captured.phase, captured.clean, captured.unsettled, captured.noRollback⟩, rfl, ?_, ?_, captured.prior, ?_⟩
  · rw [same]
    exact captured.candidate
  · have target : request.file request.candidatePath = request.target := by rw [target, same]
    simp [keptText, target, captured.restore]
  · rw [Request.expected, untold]
    exact captured.expected

theorem runPrepare_judged {world : World Path File} (captured : request.Captured world) (decodes : request.undecodable = false) :
    Meets (fun world => request.Prepared request.toldPrior world ∧ request.stop = request.snapshotted) request.Judged
      (request.runPrepare world) := by
  unfold runPrepare
  cases given : request.prepare with
  | none =>
      have untold : request.metadata = none := by simp [metadata, given]
      have prepared := captured.prepared untold
      have files : world = { world with files := request.prepared } := by
        rw [Request.prepared, given, ← captured.files]
      have told : request.toldPrior = request.priorConfigPath := by simp [toldPrior, untold]
      exact ⟨files ▸ told ▸ prepared, by simp [stop, decodes, given]⟩
  | some prepare =>
      obtain ⟨effect, answer⟩ := prepare
      have files : effect world.files = request.prepared := by
        rw [captured.files, Request.prepared, given]
      cases answer with
      | returned metadata =>
          have told : request.metadata = some metadata := by simp [Request.metadata, given]
          have destination : request.destination = metadata.candidatePath.getD request.candidatePath := by
            simp [Request.destination, told]
          refine ⟨⟨⟨captured.loads, rfl, captured.clean, captured.unsettled, captured.noRollback⟩, files, ?_,
            captured.restores destination, ?_, ?_⟩, by simp [stop, decodes, given]⟩
          · rw [destination, ← captured.candidate]
            rfl
          · simp [applyMetadata, World.update, World.record, captured.prior, toldPrior, told]
          · simp [applyMetadata, World.update, World.record, captured.expected, Request.expected, told]
      | cancelled =>
          have prepared := captured.prepared (by simp [Request.metadata, given])
          have undoable : request.stop = .prepareCancelled := by simp [stop, decodes, given]
          refine request.cancel_judged request.priorConfigPath ?_ (by rw [Undoable, undoable])
          exact { prepared with phase := rfl, files := files }
      | raised error =>
          have prepared := captured.prepared (by simp [Request.metadata, given])
          have undoable : request.stop = .prepareRaised := by simp [stop, decodes, given]
          refine request.refuse_judged request.priorConfigPath ?_ (by simp) (by simp [Result.rolledBack]) (by rw [Undoable, undoable])
          exact { prepared with phase := rfl, files := files }

theorem runSnapshot_judged {world : World Path File} (prepared : request.Prepared request.toldPrior world)
    (stops : request.stop = request.snapshotted) :
    Meets (fun world => request.Prepared request.prior world ∧ request.stop = request.checked) request.Judged
      (request.runSnapshot world) := by
  simp only [runSnapshot, World.update, prepared.prior]
  cases told : request.toldPrior with
  | some prior =>
      have known : request.prior = some prior := by simp [Request.prior, told]
      exact ⟨{ prepared with prior := known.symm }, by simp [stops, snapshotted, told]⟩
  | none =>
      cases asked : request.snapshot with
      | none =>
          have known : request.prior = none := by simp [Request.prior, told, asked]
          exact ⟨{ prepared with prior := known.symm }, by simp [stops, snapshotted, told, asked]⟩
      | some answer =>
          cases answer with
          | returned current =>
              have known : request.prior = current := by simp [Request.prior, told, asked]
              exact ⟨{ prepared with phase := rfl, prior := known.symm }, by simp [stops, snapshotted, told, asked]⟩
          | raised error =>
              have known : request.prior = none := by simp [Request.prior, told, asked]
              exact ⟨{ prepared with phase := rfl, prior := known.symm }, by simp [stops, snapshotted, told, asked]⟩
          | cancelled =>
              have undoable : request.stop = .snapshotCancelled := by simp [stops, snapshotted, told, asked]
              refine request.cancel_judged none ?_ (by rw [Undoable, undoable]; rfl)
              exact { prepared with phase := rfl, prior := rfl }

theorem runValidate_judged {world : World Path File} (prepared : request.Prepared request.prior world)
    (stops : request.stop = request.checked) :
    Meets (fun world => request.Prepared request.prior world ∧ request.stop = if request.proofFails then .refused else .loaded)
      request.Judged (request.runValidate world) := by
  unfold runValidate
  cases answer : request.validation with
  | okToApply status => exact ⟨{ prepared with phase := rfl }, by simp [stops, checked, answer]⟩
  | refused status =>
      have undoable : request.stop = .refused := by simp [stops, checked, answer]
      refine request.refuse_judged request.prior ?_ (by simp) (by simp [Result.rolledBack]) (by rw [Undoable, undoable])
      exact { prepared with phase := rfl }
  | raised error => exact request.judged_raised (by simp [Undoable, stops, checked, answer])

theorem proofFailure_refuses {actual : Option String} {expected : String} {result : Result}
    (fails : proofFailure actual expected = some result) : result ≠ .inProgress ∧ result.rolledBack = false ∧ result ≠ .success := by
  unfold proofFailure at fails
  split at fails
  · simp [← Option.some.inj fails, Result.rolledBack]
  · split at fails
    · simp [← Option.some.inj fails, Result.rolledBack]
    · split at fails
      · cases fails
      · simp [← Option.some.inj fails, Result.rolledBack]

theorem runProof_judged {world : World Path File} (prepared : request.Prepared request.prior world)
    (stops : request.stop = if request.proofFails then .refused else .loaded) :
    Meets (fun world => request.Prepared request.prior world ∧ request.stop = .loaded) request.Judged (request.runProof world) := by
  unfold runProof
  have actual : request.hash world world.state.candidateConfigPath =
      if request.provable then (request.prepared request.target).map request.sha256 else none := by
    rw [hash, prepared.files, prepared.candidate, target]
  cases wanted : world.expectedCandidateSha256 with
  | none =>
      have passes : request.proofFails = false := by simp [proofFails, ← prepared.expected, wanted]
      exact ⟨prepared, by simp [stops, passes]⟩
  | some expected =>
      have fails : request.proofFails = (proofFailure (request.hash world world.state.candidateConfigPath) expected).isSome := by
        simp only [proofFails, ← prepared.expected, wanted, actual]
      cases failure : proofFailure (request.hash world world.state.candidateConfigPath) expected with
      | none =>
          simp only [World.update, failure]
          exact ⟨{ prepared with phase := rfl }, by simp [stops, fails, failure]⟩
      | some result =>
          have undoable : request.stop = .refused := by simp [stops, fails, failure]
          have refuses := proofFailure_refuses failure
          simp only [World.update, failure]
          refine request.refuse_judged request.prior ?_ refuses.1 refuses.2 (by rw [Undoable, undoable])
          exact { prepared with phase := rfl }

/-- The candidate was given to the box, once, and nothing is settled. -/
structure Loading (world : World Path File) : Prop where
  loads : world.loads = [(request.destination, request.prepared request.target)]
  files : world.files = request.prepared
  candidate : world.state.candidateConfigPath = request.destination
  restore : world.candidateRestore = request.keptText.map fun characters => (request.candidatePath, universalNewlines characters)
  prior : world.state.priorConfigPath = request.prior
  phase : world.state.phase.loadBegun = true
  unsettled : world.state.result = .inProgress
  noRollback : world.state.rollbackAttempted = false

/-- Two worlds that tell an apply's promises after the load apart in nothing. -/
structure Alike (one other : World Path File) : Prop where
  loads : one.loads = other.loads
  candidate : one.state.candidateConfigPath = other.state.candidateConfigPath
  prior : one.state.priorConfigPath = other.state.priorConfigPath
  phase : one.state.phase = other.state.phase
  result : one.state.result = other.state.result
  failed : one.state.failedLater = other.state.failedLater

theorem finally_alike (world : World Path File) : Alike (request.finally_ world) world := by
  unfold finally_ World.restoreCandidateBytes
  split
  · exact ⟨rfl, rfl, rfl, rfl, rfl, rfl⟩
  · split
    · split <;> exact ⟨rfl, rfl, rfl, rfl, rfl, rfl⟩
    · exact ⟨rfl, rfl, rfl, rfl, rfl, rfl⟩

/-- A cancellation from the load on promises nothing of the prior graph. -/
theorem cancelLater_judged {world : World Path File} (loading : request.Loading world) (clean : world.state.failedLater = false)
    (undoable : request.Undoable) : request.Judged (world, .cancelled) := by
  have alike := request.finally_alike world
  refine iff_of_true ?_ undoable
  exact {
    untouched := fun _ early => by simp [alike.phase, loading.phase] at early
    reloaded := fun _ later => by simp [alike.failed, clean] at later
    honest := fun rolled => by simp [alike.result, loading.unsettled, Result.rolledBack] at rolled
    success := fun success => by simp [alike.result, loading.unsettled] at success
    surfaces := fun _ other => (other rfl).elim }

omit [DecidableEq File] in
theorem reload_transaction {world : World Path File} {ending : Ending} {prior : Path} {candidate bytes : Option Content}
    (loads : world.loads = [(request.destination, candidate), (prior, bytes)]) (known : world.state.priorConfigPath = some prior)
    (same : world.state.candidateConfigPath = request.destination) (phase : world.state.phase.loadBegun = true)
    (failed : world.state.failedLater = true) (success : ¬ (ending = .returned ∨ world.state.result = .success))
    (honest : world.state.result.rolledBack = true → request.rollback = .returned true)
    (surfaces : ending ≠ .cancelled →
      ending = .failed ∧ world.state.finished = true ∧ world.state.result ≠ .inProgress ∧ world.recorded.getLast? = some world.state) :
    Transaction request world ending ↔ (request.file prior = request.target → bytes = request.files (request.file prior)) := by
  constructor
  · intro transaction
    obtain ⟨candidate', bytes', loads', back⟩ := transaction.reloaded prior failed known
    rw [loads] at loads'
    rw [same] at back
    obtain ⟨-, rfl⟩ : candidate = candidate' ∧ bytes = bytes' := by simpa [same] using loads'
    exact back
  · intro back
    exact {
      untouched := fun _ early => by simp [phase] at early
      reloaded := fun prior' _ known' => by
        obtain rfl := Option.some.inj (known.symm.trans known')
        exact ⟨candidate, bytes, by rw [loads, same], by rwa [same]⟩
      honest := fun rolled => ⟨honest rolled, by simp [loads]⟩
      success := fun succeeds => (success succeeds).elim
      surfaces := fun _ => surfaces }

theorem interrupted_transaction {world : World Path File} {prior : Path} {candidate bytes : Option Content}
    (loads : world.loads = [(request.destination, candidate), (prior, bytes)]) (known : world.state.priorConfigPath = some prior)
    (same : world.state.candidateConfigPath = request.destination) (phase : world.state.phase.loadBegun = true)
    (failed : world.state.failedLater = true) (unsettled : world.state.result = .inProgress) :
    Transaction request (request.finally_ world) .cancelled ↔
      (request.file prior = request.target → bytes = request.files (request.file prior)) := by
  have alike := request.finally_alike world
  refine request.reload_transaction (alike.loads.trans loads) (alike.prior.trans known) (alike.candidate.trans same)
    (by rwa [alike.phase]) (alike.failed.trans failed) ?_ ?_ fun other => (other rfl).elim
  · simp [alike.result, unsettled]
  · simp [alike.result, unsettled, Result.rolledBack]

/-- What the handlers from the load on make of the verdict of the rollback. -/
structure LaterFailure (result : Option Verdict → Result) : Prop where
  rolledBack : ∀ verdict, (result verdict).rolledBack = true → verdict = some .rolledBack
  settled : ∀ verdict, result verdict ≠ .inProgress
  failure : ∀ verdict, result verdict ≠ .success

def afterRollback (result : Option Verdict → Result) (world : World Path File) : World Path File × Ending :=
  (world.settle (result (verdict world.state)), .failed)

theorem reload_judged {result : Option Verdict → Result} (later : LaterFailure result) {world : World Path File} {prior : Path}
    {candidate : Option Content} (loads : world.loads = [(request.destination, candidate)])
    (known : world.state.priorConfigPath = some prior) (same : world.state.candidateConfigPath = request.destination)
    (phase : world.state.phase.loadBegun = true) (failed : world.state.failedLater = true)
    (unsettled : world.state.result = .inProgress)
    (undoable : request.Undoable ↔ (request.file prior = request.target →
      world.files (request.file prior) = request.files (request.file prior))) :
    Meets (fun world => request.Judged (afterRollback result world)) request.Judged (request.rollbackPrior world) := by
  have loads' : world.loads ++ [(prior, world.files (request.file prior))] =
      [(request.destination, candidate), (prior, world.files (request.file prior))] := by rw [loads]; rfl
  simp only [rollbackPrior, World.update, known]
  cases answer : request.rollback with
  | cancelled =>
      refine (?_ : Transaction request (request.finally_ _) _ ↔ _).trans undoable.symm
      exact request.interrupted_transaction loads' rfl same phase failed unsettled
  | raised error =>
      refine (?_ : Transaction request _ _ ↔ _).trans undoable.symm
      rw [afterRollback, request.finally_settled (later.settled _)]
      refine request.reload_transaction loads' rfl same phase failed ?_ ?_ ?_
      · exact fun success => success.elim (by simp) (later.failure _)
      · exact fun rolled => nomatch later.rolledBack _ rolled
      · exact fun _ => ⟨rfl, rfl, later.settled _, by simp [World.settle, World.record]⟩
  | returned ok =>
      refine (?_ : Transaction request _ _ ↔ _).trans undoable.symm
      rw [afterRollback, request.finally_settled (later.settled _)]
      refine request.reload_transaction loads' rfl same phase failed ?_ ?_ ?_
      · exact fun success => success.elim (by simp) (later.failure _)
      · intro rolled
        have verdict := later.rolledBack _ rolled
        cases ok with
        | true => exact answer
        | false => exact nomatch verdict
      · exact fun _ => ⟨rfl, rfl, later.settled _, by simp [World.settle, World.record]⟩

/-- What an apply that fails from the load on needs for its promise. -/
theorem runRollback_judged {result : Option Verdict → Result} (later : LaterFailure result) {world : World Path File}
    (loading : request.Loading world) (failed : world.state.failedLater = true)
    (undoable : request.Undoable ↔ (request.sameConfigFile request.prior (some request.destination) = true →
      (request.keptText.isSome → request.restoreError = none) ∧ request.GivenBack true)) :
    Meets (fun world => request.Judged (afterRollback result world)) request.Judged (request.runRollback world) := by
  have judge {changed : World Path File} {prior : Path} (loads : changed.loads = world.loads) (state : changed.state = world.state)
      (known : request.prior = some prior) := @reload_judged _ _ _ request result later changed prior _ (loads.trans loading.loads)
        (by rw [state, loading.prior, known]) (by rw [state, loading.candidate]) (by rw [state, loading.phase]) (by rw [state, failed])
        (by rw [state, loading.unsettled])
  cases known : request.prior with
  | none =>
      have untold := loading.prior.trans known
      have skips : request.runRollback world = .ok world := by
        simp only [runRollback, untold, sameConfigFile, rollbackPrior]
        split <;> rfl
      have verdict : verdict world.state = none := by simp [verdict, loading.noRollback]
      rw [skips]
      refine iff_of_true ?_ (undoable.mpr fun same => by simp [known, sameConfigFile] at same)
      rw [afterRollback, request.finally_settled (later.settled _)]
      exact {
        untouched := fun _ early => by simp [World.settle, World.update, World.record, loading.phase] at early
        reloaded := fun prior _ told => nomatch (untold.symm.trans told)
        honest := fun rolled => nomatch verdict.symm.trans (later.rolledBack _ rolled)
        success := fun success => (success.elim (by simp) (later.failure _)).elim
        surfaces := fun _ _ => ⟨rfl, rfl, later.settled _, by simp [World.settle, World.record]⟩ }
  | some prior =>
      have runs : request.sameConfigFile (some prior) (some request.destination) = true ↔ request.file prior = request.target := by
        simp [sameConfigFile, target]
      rw [known, runs] at undoable
      cases saves : world.candidateRestore with
      | none =>
          have unkept : request.keptText = none := Option.map_eq_none_iff.mp (loading.restore ▸ saves)
          simp only [runRollback, saves]
          refine judge rfl rfl known (undoable.trans (forall_congr' fun same => ?_))
          simp [GivenBack, writtenBack, unkept, loading.files, same]
      | some saved =>
          obtain ⟨characters, kept, rfl⟩ := Option.map_eq_some_iff.mp (loading.restore ▸ saves)
          obtain ⟨here, text⟩ := request.keptText_text kept
          have there : request.sameConfigFile world.state.priorConfigPath (some request.candidatePath) = true ↔
              request.file prior = request.target := by simp [loading.prior, known, sameConfigFile, here]
          simp only [runRollback, saves, there]
          split
          · rename_i same
            cases fails : request.restoreError with
            | none =>
                simp only [World.restoreCandidateBytes, fails]
                refine judge rfl rfl known (undoable.trans (forall_congr' fun _ => ?_))
                simp [GivenBack, writtenBack, kept, fails, here, same, text, universalNewlines_eq_self]
            | some error =>
                refine iff_of_false (fun transaction => ?_) fun can => ?_
                · rw [afterRollback, request.finally_settled (later.settled _)] at transaction
                  obtain ⟨candidate, bytes, loads, -⟩ := transaction.reloaded prior failed (loading.prior.trans known)
                  have lengths := congrArg List.length (loading.loads.symm.trans loads)
                  simp at lengths
                · simpa [fails] using (undoable.mp can same).1 (by simp [kept])
          · rename_i other
            exact judge rfl rfl known (undoable.trans (forall_congr' fun same => (other same).elim))

theorem failLater_judged {result : Option Verdict → Result} (later : LaterFailure result) {world : World Path File}
    (loading : request.Loading world) (failed : world.state.failedLater = true) (stops : request.stop = .loaded) {error : String}
    (reason : request.later = .raised error) {goesOn : World Path File → Prop} :
    Meets goesOn request.Judged (request.failLater result world) := by
  refine (request.runRollback_judged later loading failed ?_).bind fun _ judged => judged
  simp [Undoable, stops, reason]

theorem loadFailed_later : LaterFailure .loadFailed := ⟨fun _ => of_decide_eq_true, nofun, nofun⟩

theorem confirmFailed_later : LaterFailure .confirmFailed := ⟨fun _ => of_decide_eq_true, nofun, nofun⟩

theorem persistFailed_later : LaterFailure .persistFailed := ⟨fun _ => of_decide_eq_true, nofun, nofun⟩

theorem undoable_unless_raised (stops : request.stop = .loaded) (unraised : ∀ error, request.later ≠ .raised error) :
    request.Undoable := by
  rw [Undoable, stops]
  exact fun error raised => (unraised error raised).elim

theorem runLoad_judged {world : World Path File} (prepared : request.Prepared request.prior world) (stops : request.stop = .loaded) :
    Meets (fun world => request.Loading world ∧ world.state.failedLater = false ∧ request.load = .returned true) request.Judged
      (request.runLoad world) := by
  have loads : world.loads ++ [(world.state.candidateConfigPath, world.files (request.file world.state.candidateConfigPath))] =
      [(request.destination, request.prepared request.target)] := by
    rw [prepared.loads, prepared.files, prepared.candidate]
    rfl
  have loading : request.Loading { (world.update fun state => { state with phase := .load }).record with
      loads := world.loads ++ [(world.state.candidateConfigPath, world.files (request.file world.state.candidateConfigPath))] } :=
    ⟨loads, prepared.files, prepared.candidate, prepared.restore, prepared.prior, rfl, prepared.unsettled, prepared.noRollback⟩
  unfold runLoad
  cases answer : request.load with
  | cancelled =>
      have unraised : ∀ error, request.later ≠ .raised error := by simp [later, answer]
      exact request.cancelLater_judged loading prepared.clean (request.undoable_unless_raised stops unraised)
  | raised error =>
      have reason : request.later = .raised error := by simp [later, answer]
      refine request.failLater_judged loadFailed_later ?_ rfl stops reason
      exact { loading with phase := rfl }
  | returned ok =>
      cases ok with
      | true => exact ⟨loading, prepared.clean, rfl⟩
      | false =>
          have reason : request.later = .raised "CamillaDSP rejected candidate config path" := by simp [later, answer]
          refine request.failLater_judged loadFailed_later ?_ rfl stops reason
          exact { loading with phase := rfl }

theorem runConfirm_judged {world : World Path File} (loading : request.Loading world) (clean : world.state.failedLater = false)
    (loads : request.load = .returned true) (stops : request.stop = .loaded) :
    Meets (fun world => request.Loading world ∧ world.state.failedLater = false ∧ request.confirmed = .returned ()) request.Judged
      (request.runConfirm world) := by
  have failed (state : DspApplyState Path) (error : String) (is : state.confirmError = some error) : state.failedLater = true := by
    simp [DspApplyState.failedLater, is]
  unfold runConfirm
  cases asked : request.confirm with
  | none => exact ⟨loading, clean, by simp [confirmed, asked]⟩
  | some answer =>
      cases answer with
      | cancelled =>
          have unraised : ∀ error, request.later ≠ .raised error := by simp [later, loads, confirmed, asked]
          refine request.cancelLater_judged ?_ clean (request.undoable_unless_raised stops unraised)
          exact { loading with phase := rfl }
      | raised error =>
          have reason : request.later = .raised error := by simp [later, loads, confirmed, asked]
          refine request.failLater_judged confirmFailed_later ?_ (failed _ error rfl) stops reason
          exact { loading with phase := rfl }
      | returned active =>
          cases active with
          | none =>
              refine ⟨?_, clean, by simp [confirmed, asked]⟩
              exact { loading with phase := rfl }
          | some active =>
              have active_iff : ((some active).isNone = true ∨
                  request.sameConfigFile (some active) (some world.state.candidateConfigPath) = true) ↔
                    request.file active = request.target := by
                simp [sameConfigFile, loading.candidate, target]
              simp only [World.update, active_iff]
              split
              · rename_i same
                refine ⟨?_, clean, by simp [confirmed, asked, same]⟩
                exact { loading with phase := rfl }
              · rename_i other
                have reason : request.later = .raised "another config is active" := by simp [later, loads, confirmed, asked, other]
                refine request.failLater_judged confirmFailed_later ?_ (failed _ _ rfl) stops reason
                exact { loading with phase := rfl }

theorem confirmed_answer (confirmed : request.confirmed = .returned ()) :
    ∀ answer ∈ request.confirm, ∃ active, answer = .returned active ∧ ∀ path ∈ active, request.file path = request.target := by
  intro answer asked
  rw [Request.confirmed, asked] at confirmed
  match answer with
  | .returned none => exact ⟨none, rfl, nofun⟩
  | .returned (some active) =>
      by_cases same : request.file active = request.target
      · exact ⟨some active, rfl, fun path is => Option.some.inj is ▸ same⟩
      · simp [same] at confirmed

theorem runPersist_judged {world : World Path File} (loading : request.Loading world) (clean : world.state.failedLater = false)
    (loads : request.load = .returned true) (confirmed : request.confirmed = .returned ()) (stops : request.stop = .loaded) :
    Meets (fun world => request.Judged (world, .returned)) request.Judged (request.runPersist world) := by
  have finish (persisted : ∀ answer ∈ request.persist, answer = .returned ()) :
      request.Judged (((world.update fun state => { state with phase := .persist }).update fun state =>
        { state with phase := .done, activeConfigPath := state.activeConfigPath.or (some state.candidateConfigPath) }).settle .success,
          .returned) := by
    have accepted : ∀ answer ∈ request.confirm, ∃ active, answer = .returned active ∧
        ∀ path ∈ active, request.file path = request.file world.state.candidateConfigPath := by
      rw [loading.candidate]
      exact request.confirmed_answer confirmed
    have unraised : ∀ error, request.later ≠ .raised error := by
      cases asked : request.persist with
      | none => simp [later, loads, confirmed, asked]
      | some answer => simp [later, loads, confirmed, asked, persisted answer asked]
    refine iff_of_true ?_ (request.undoable_unless_raised stops unraised)
    rw [request.finally_settled (by simp [World.settle, World.update, World.record])]
    exact {
      untouched := fun unreturned => (unreturned rfl).elim
      reloaded := fun _ failed => nomatch clean.symm.trans failed
      honest := fun rolled => nomatch rolled
      success := fun _ => ⟨loads, accepted, persisted⟩
      surfaces := fun unreturned => (unreturned rfl).elim }
  unfold runPersist
  cases asked : request.persist with
  | none => exact finish (by simp [asked])
  | some answer =>
      cases answer with
      | cancelled =>
          have unraised : ∀ error, request.later ≠ .raised error := by simp [later, loads, confirmed, asked]
          refine request.cancelLater_judged ?_ clean (request.undoable_unless_raised stops unraised)
          exact { loading with phase := rfl }
      | raised error =>
          have reason : request.later = .raised error := by simp [later, loads, confirmed, asked]
          refine request.failLater_judged persistFailed_later ?_ ?_ stops reason
          · exact { loading with phase := rfl }
          · simp [DspApplyState.failedLater, World.update]
      | returned => exact finish (by simp [asked])

theorem steps_judged : Meets (fun world => request.Judged (world, .returned)) request.Judged (request.steps request.begin) :=
  request.capture_judged.bind fun _ ⟨captured, decodes⟩ =>
    (request.runPrepare_judged captured decodes).bind fun _ ⟨prepared, stops⟩ =>
      (request.runSnapshot_judged prepared stops).bind fun _ ⟨prepared, stops⟩ =>
        (request.runValidate_judged prepared stops).bind fun _ ⟨prepared, stops⟩ =>
          (request.runProof_judged prepared stops).bind fun _ ⟨prepared, stops⟩ =>
            (request.runLoad_judged prepared stops).bind fun _ ⟨loading, clean, loads⟩ =>
              (request.runConfirm_judged loading clean loads stops).bind fun _ ⟨loading, clean, confirmed⟩ =>
                request.runPersist_judged loading clean loads confirmed stops

end Request

end Apply

open Apply

/-- An apply keeps its promise if and only if all that its preparation did to the running file can be undone where it stops. -/
theorem dsp_apply_is_transaction {Path File : Type} [DecidableEq File] (request : Request Path File) :
    request.Transaction request.applyDspConfig.1 request.applyDspConfig.2 ↔ request.Undoable := by
  have judged := request.steps_judged
  unfold Request.applyDspConfig
  cases run : request.steps request.begin with
  | ok world =>
      rw [run] at judged
      exact judged
  | error out =>
      rw [run] at judged
      exact judged

-- The candidate is the file that runs, and nobody has told its path. The preparation writes to it, and the snapshot is cancelled.
def cancelledSnapshot : Request Nat Nat where
  file := id
  files := fun _ => some (.text ['a'])
  running := some 0
  sha256 := fun _ => "digest"
  candidatePath := 0
  priorConfigPath := none
  expectedCandidateSha256 := none
  readable := true
  provable := true
  prepare := some ⟨fun _ _ => some (.text ['b']), .returned ⟨none, none, none⟩⟩
  getCurrentConfigPath := some (.cancelled, .returned none)
  validation := .okToApply "valid"
  load := .returned true
  persist := none
  rollback := .returned true
  restoreError := none

theorem cancelled_snapshot_keeps_the_candidate :
    cancelledSnapshot.applyDspConfig.2 = .cancelled ∧ cancelledSnapshot.applyDspConfig.1.loads = [] ∧
      cancelledSnapshot.applyDspConfig.1.files 0 = some (.text ['b']) ∧ cancelledSnapshot.files 0 = some (.text ['a']) ∧
      ¬ cancelledSnapshot.Transaction cancelledSnapshot.applyDspConfig.1 cancelledSnapshot.applyDspConfig.2 := by
  have kept : cancelledSnapshot.applyDspConfig.1.files 0 ≠ cancelledSnapshot.files 0 := by decide
  refine ⟨by decide, rfl, rfl, rfl, fun transaction => ?_⟩
  exact kept ((transaction.untouched (by decide) (by decide)).2 rfl)

end Jts.DspControl
