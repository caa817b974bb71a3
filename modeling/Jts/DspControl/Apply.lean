import Mathlib.Logic.Function.Basic
import Mathlib.Tactic.Common

set_option autoImplicit false

namespace Jts.DspControl.Apply

/-- How a call of the caller's ends. -/
inductive Answer (α : Type)
  | returned (value : α)
  | raised (error : String)
  | cancelled
deriving DecidableEq

/-- The bytes of a file, by the text that they decode to if they do. -/
inductive Content
  | text (characters : List Char)
  | undecodable (bytes : List UInt8)
deriving DecidableEq

/-- What a read of text makes of the line ends. -/
def universalNewlines : List Char → List Char
  | '\r' :: '\n' :: rest => '\n' :: universalNewlines rest
  | '\r' :: rest => '\n' :: universalNewlines rest
  | character :: rest => character :: universalNewlines rest
  | [] => []

inductive Phase
  | start
  | prepare
  | snapshot
  | validate
  | proof
  | load
  | confirm
  | persist
  | done
deriving DecidableEq

inductive Verdict
  | rolledBack
  | rollbackFailed
deriving DecidableEq

inductive Result
  | inProgress
  | prepareFailed
  | refused (status : String)
  | anchorMissing
  | candidateUnreadable
  | candidateChanged
  | loadFailed (verdict : Option Verdict)
  | confirmFailed (verdict : Option Verdict)
  | persistFailed (verdict : Option Verdict)
  | success
deriving DecidableEq

structure DspApplyState (Path : Type) where
  phase : Phase
  result : Result
  finished : Bool
  priorConfigPath : Option Path
  candidateConfigPath : Path
  activeConfigPath : Option Path
  configSha256 : Option String
  validator : Option String
  prepareError : Option String
  loadError : Option String
  persistError : Option String
  confirmError : Option String
  rollbackAttempted : Bool
  rollbackSucceeded : Option Bool
  rollbackError : Option String

inductive Validation
  | okToApply (status : String)
  | refused (status : String)
  | raised (error : String)
deriving DecidableEq

structure Metadata (Path : Type) where
  candidatePath : Option Path
  -- None is a key that is there with no value.
  expectedCandidateSha256 : Option (Option String)
  priorConfigPath : Option Path

/-- A preparation may change any files, also if it does not come to its end. -/
structure Prepare (Path File : Type) where
  effect : (File → Option Content) → File → Option Content
  answer : Answer (Metadata Path)

/-- One call, with what it meets. -/
structure Request (Path File : Type) where
  file : Path → File
  files : File → Option Content
  running : Option File
  sha256 : Content → String
  candidatePath : Path
  priorConfigPath : Option Path
  expectedCandidateSha256 : Option String
  -- Whether the candidate can be opened to keep its text, and to prove it.
  readable : Bool
  provable : Bool
  prepare : Option (Prepare Path File)
  -- What it answers to the snapshot, and what to the confirmation.
  getCurrentConfigPath : Option (Answer (Option Path) × Answer (Option Path))
  validation : Validation
  load : Answer Bool
  persist : Option (Answer Unit)
  rollback : Answer Bool
  restoreError : Option String

structure World (Path File : Type) where
  state : DspApplyState Path
  files : File → Option Content
  candidateRestore : Option (Path × List Char)
  expectedCandidateSha256 : Option String
  -- The loads that were asked for, with what the file held.
  loads : List (Path × Option Content)
  recorded : List (DspApplyState Path)

inductive Ending
  | returned
  | failed
  | raised
  | cancelled
deriving DecidableEq

inductive ReadText
  | text (characters : List Char)
  | osError
  | decodeError

def readText (readable : Bool) : Option Content → ReadText
  | some (.text characters) => if readable then .text (universalNewlines characters) else .osError
  | some (.undecodable _) => if readable then .decodeError else .osError
  | none => .osError

namespace Request

variable {Path File : Type} [DecidableEq File] (request : Request Path File)

def snapshot : Option (Answer (Option Path)) := request.getCurrentConfigPath.map Prod.fst

def confirm : Option (Answer (Option Path)) := request.getCurrentConfigPath.map Prod.snd

def sameConfigFile (left right : Option Path) : Bool :=
  match left, right with
  | some left, some right => request.file left = request.file right
  | _, _ => false

def hash (world : World Path File) (path : Path) : Option String :=
  if request.provable then (world.files (request.file path)).map request.sha256 else none

end Request

namespace World

variable {Path File : Type} [DecidableEq File] (request : Request Path File) (world : World Path File)

def update (change : DspApplyState Path → DspApplyState Path) : World Path File := { world with state := change world.state }

def record : World Path File := { world with recorded := world.recorded ++ [world.state] }

def restoreCandidateBytes (saved : Path × List Char) : World Path File :=
  match request.restoreError with
  | none => { world with files := Function.update world.files (request.file saved.1) (some (.text saved.2)) }
  | some _ => world

def settle (result : Result) : World Path File := (world.update fun state => { state with result := result, finished := true }).record

def abandonCandidate : World Path File :=
  match world.candidateRestore with
  | none => world
  | some saved =>
      (world.restoreCandidateBytes request saved).update fun state => { state with rollbackError := request.restoreError }

end World

/-- A step of the transaction goes on or ends it. -/
abbrev Step (Path File : Type) := World Path File → Except (World Path File × Ending) (World Path File)

namespace Request

variable {Path File : Type} [DecidableEq File] (request : Request Path File)

def begin : World Path File where
  state := ⟨.start, .inProgress, false, request.priorConfigPath, request.candidatePath, none, none, none, none, none, none, none,
    false, none, none⟩
  files := request.files
  candidateRestore := none
  expectedCandidateSha256 := request.expectedCandidateSha256
  loads := []
  recorded := []

def capture : Step Path File := fun world =>
  if request.prepare.isSome ∧
      (request.priorConfigPath.isNone ∨ request.sameConfigFile request.priorConfigPath (some request.candidatePath)) then
    match readText request.readable (world.files (request.file request.candidatePath)) with
    | .text characters => .ok { world with candidateRestore := some (request.candidatePath, characters) }
    | .osError => .ok world
    | .decodeError => .error (world, .raised)
  else .ok world

def applyMetadata (metadata : Metadata Path) (world : World Path File) : World Path File :=
  let candidate := metadata.candidatePath.getD world.state.candidateConfigPath
  { world with
    state := { world.state with
      candidateConfigPath := candidate
      priorConfigPath := world.state.priorConfigPath.or metadata.priorConfigPath }
    candidateRestore := world.candidateRestore.filter fun saved => request.sameConfigFile (some saved.1) (some candidate)
    expectedCandidateSha256 := metadata.expectedCandidateSha256.getD world.expectedCandidateSha256 }

def runPrepare : Step Path File := fun world =>
  match request.prepare with
  | none => .ok world
  | some prepare =>
      let world := (world.update fun state => { state with phase := .prepare }).record
      let world := { world with files := prepare.effect world.files }
      match prepare.answer with
      | .returned metadata => .ok (request.applyMetadata metadata world)
      | .cancelled => .error (world, .cancelled)
      | .raised error =>
          let world := world.update fun state => { state with prepareError := some error }
          .error ((world.abandonCandidate request).settle .prepareFailed, .failed)

def runSnapshot : Step Path File := fun world =>
  let world := world.update fun state => { state with configSha256 := request.hash world state.candidateConfigPath }
  match world.state.priorConfigPath, request.snapshot with
  | none, some answer =>
      let world := world.update fun state => { state with phase := .snapshot }
      match answer with
      | .returned current => .ok (world.update fun state => { state with priorConfigPath := current })
      | .raised _ => .ok world
      | .cancelled => .error (world, .cancelled)
  | _, _ => .ok world

def runValidate : Step Path File := fun world =>
  let world := world.update fun state => { state with phase := .validate }
  match request.validation with
  | .okToApply status => .ok (world.update fun state => { state with validator := some status })
  | .refused status =>
      let world := world.update fun state => { state with validator := some status }
      .error ((world.abandonCandidate request).settle (.refused status), .failed)
  | .raised _ => .error (world, .raised)

def proofFailure (actual : Option String) (expected : String) : Option Result :=
  if expected = "" then some .anchorMissing
  else
    match actual with
    | none => some .candidateUnreadable
    | some actual => if actual = expected then none else some .candidateChanged

def runProof : Step Path File := fun world =>
  match world.expectedCandidateSha256 with
  | none => .ok world
  | some expected =>
      let world := world.update fun state =>
        { state with phase := .proof, configSha256 := request.hash world state.candidateConfigPath }
      match proofFailure world.state.configSha256 expected with
      | none => .ok world
      | some result => .error ((world.abandonCandidate request).settle result, .failed)

/-- The prior graph is loaded again, from the bytes before the preparation when it is the candidate's own file. -/
def rollbackPrior : Step Path File := fun world =>
  match world.state.priorConfigPath with
  | none => .ok world
  | some prior =>
      let world := world.update fun state => { state with rollbackAttempted := true }
      let world := { world with loads := world.loads ++ [(prior, world.files (request.file prior))] }
      match request.rollback with
      | .returned ok => .ok (world.update fun state =>
          { state with
            rollbackSucceeded := some ok
            rollbackError := if ok then state.rollbackError else some "CamillaDSP rejected prior config path" })
      | .raised error => .ok (world.update fun state => { state with rollbackSucceeded := some false, rollbackError := some error })
      | .cancelled => .error (world, .cancelled)

def runRollback : Step Path File := fun world =>
  match world.candidateRestore with
  | some saved =>
      if request.sameConfigFile world.state.priorConfigPath (some saved.1) then
        match request.restoreError with
        | some error => .ok (world.update fun state =>
            { state with rollbackAttempted := true, rollbackSucceeded := some false, rollbackError := some error })
        | none => request.rollbackPrior (world.restoreCandidateBytes request saved)
      else request.rollbackPrior world
  | none => request.rollbackPrior world

def verdict (state : DspApplyState Path) : Option Verdict :=
  if state.rollbackAttempted then some (if state.rollbackSucceeded = some true then .rolledBack else .rollbackFailed) else none

/-- A failure from the load on. -/
def failLater (result : Option Verdict → Result) (world : World Path File) : Except (World Path File × Ending) (World Path File) := do
  let world ← request.runRollback world
  .error (world.settle (result (verdict world.state)), .failed)

def runLoad : Step Path File := fun world =>
  let world := (world.update fun state => { state with phase := .load }).record
  let candidate := world.state.candidateConfigPath
  let world := { world with loads := world.loads ++ [(candidate, world.files (request.file candidate))] }
  match request.load with
  | .returned true => .ok world
  | .returned false => request.failLater .loadFailed
      (world.update fun state => { state with loadError := some "CamillaDSP rejected candidate config path" })
  | .raised error => request.failLater .loadFailed (world.update fun state => { state with loadError := some error })
  | .cancelled => .error (world, .cancelled)

def runConfirm : Step Path File := fun world =>
  match request.confirm with
  | none => .ok world
  | some answer =>
      let world := world.update fun state => { state with phase := .confirm }
      match answer with
      | .returned active =>
          let world := world.update fun state => { state with activeConfigPath := active }
          if active.isNone ∨ request.sameConfigFile active (some world.state.candidateConfigPath) then .ok world
          else request.failLater .confirmFailed
            (world.update fun state => { state with confirmError := some "active config is another than expected" })
      | .raised error => request.failLater .confirmFailed (world.update fun state => { state with confirmError := some error })
      | .cancelled => .error (world, .cancelled)

def runPersist : Step Path File := fun world =>
  let world := world.update fun state => { state with phase := .persist }
  match request.persist with
  | none | some (.returned ()) => .ok ((world.update fun state =>
      { state with phase := .done, activeConfigPath := state.activeConfigPath.or (some state.candidateConfigPath) }).settle .success)
  | some (.raised error) => request.failLater .persistFailed (world.update fun state => { state with persistError := some error })
  | some .cancelled => .error (world, .cancelled)

def phasesAfterLoadBegins (phase : Phase) : Bool := phase = .load || phase = .confirm

/-- A transaction that has settled nothing puts the file back, unless the graph on it runs. -/
def finally_ (world : World Path File) : World Path File :=
  match world.candidateRestore with
  | none => world
  | some saved =>
      if world.state.result = .inProgress ∧ world.state.phase ≠ .persist ∧
          request.sameConfigFile world.state.priorConfigPath (some world.state.candidateConfigPath) then
        ((world.restoreCandidateBytes request saved).update fun state =>
          { state with
            rollbackError := request.restoreError
            rollbackAttempted := state.rollbackAttempted || phasesAfterLoadBegins state.phase
            rollbackSucceeded :=
              if phasesAfterLoadBegins state.phase ∧ request.restoreError.isSome then some false else state.rollbackSucceeded }).record
      else world

def steps : Step Path File := fun world => do
  let world ← request.capture world
  let world ← request.runPrepare world
  let world ← request.runSnapshot world
  let world ← request.runValidate world
  let world ← request.runProof world
  let world ← request.runLoad world
  let world ← request.runConfirm world
  request.runPersist world

/-- The call, after it was let into the writer's section. -/
def applyDspConfig : World Path File × Ending :=
  match request.steps request.begin with
  | .ok world => (request.finally_ world, .returned)
  | .error (world, ending) => (request.finally_ world, ending)

end Request

end Jts.DspControl.Apply
