import Jts.Shared.Operation
import Jts.Volume.Carrier

set_option autoImplicit false

namespace Jts.Volume.Duck

open Shared.Operation (Op Attempt Ends run afterwards)

def minMainVolumeDb : Db := -150

def graphSwapDuckDb : Db := 25

def coerceMainVolumeDb (db : Db) : Db := max minMainVolumeDb (min volumeCeilingDb db)

/-- Where a releasing duck lands the fader. -/
def duckReleaseTargetDb (referenceDb : Db) (currentDb : Option Db) (depthDb entryDb : Db) : Db :=
  match currentDb with
  | none => min referenceDb entryDb
  | some currentDb => min referenceDb (currentDb + |depthDb|)

/-- What the household writes while a call is away: its reference, the fader, the mute. -/
structure Household where
  reference : Option Db
  gain : Option Db
  mainMute : Option Bool
deriving DecidableEq

/-- A call to the outside: how it goes, whether the caller is cancelled at it, and what the household writes before it
takes effect and after. -/
structure Answer where
  reply : Reply
  -- A failure is of a class that the release of the duck does not name.
  unnamed : Bool
  cancelled : Bool
  earlier : Household
  later : Household
deriving DecidableEq

def Household.still : Household where
  reference := none
  gain := none
  mainMute := none

def Answer.plain (reply : Reply) : Answer where
  reply := reply
  unnamed := false
  cancelled := false
  earlier := .still
  later := .still

instance : Inhabited Answer := ⟨.plain .refused⟩

inductive DuckError
  | unavailable
  | cancelled
  -- A failure of the provider that no `except` of the release names.
  | unnamed
deriving DecidableEq

/-- A restore: what its provider and its reading said, what it gave to Camilla, and the fader as it left it. -/
structure Restore where
  reference : Option Db
  current : Option Db
  entry : Db
  written : Db
  landed : Bool
  fader : Db
deriving DecidableEq

/-- Camilla's fader and the household's reference. The last three fields only record: that the duck was written, that its
reply came, and the restores. -/
structure Fader where
  gain : Db
  mainMute : Bool
  reference : Db
  ducked : Bool
  confirmed : Bool
  restores : List Restore
deriving DecidableEq

def Fader.edited (fader : Fader) (household : Household) : Fader :=
  { fader with
    reference := household.reference.getD fader.reference
    gain := household.gain.getD fader.gain
    mainMute := household.mainMute.getD fader.mainMute }

/-- A call: its effect, if it has one, between the household's writes. What it leaves before the later ones is what a
reading says. -/
def remote (effect : Fader → Fader) : Op Fader Answer (Fader × Answer) := do
  let answer ← Shared.Operation.ask
  Shared.Operation.change fun fader => fader.edited answer.earlier
  if answer.reply ≠ .refused then
    Shared.Operation.change effect
  let left ← Shared.Operation.read
  Shared.Operation.change fun fader => fader.edited answer.later
  return (left, answer)

abbrev DuckOp := Attempt Fader Answer DuckError

/-- A call that raises: a cancellation first, then a reply that did not come. -/
def call (effect : Fader → Fader) : DuckOp Fader := do
  let (left, answer) ← ExceptT.lift (remote effect)
  if answer.cancelled then throw .cancelled
  else if answer.reply ≠ .done then throw .unavailable
  else return left

def getVolumeDb : DuckOp Db := do
  return (← call id).gain

def Fader.moved (db : Db) (fader : Fader) : Fader := { fader with gain := coerceMainVolumeDb db }

def setVolumeDb (db : Db) : DuckOp Unit := do
  let _ ← call (Fader.moved db)

def Fader.restored (restore : Restore) (fader : Fader) : Fader := { fader with restores := fader.restores ++ [restore] }

/-- Some processes register no provider, and one that is registered may fail. Its CamillaUnavailable, OSError, RuntimeError,
TimeoutError or ValueError leaves the entry snapshot to go by; what it raises else, it raises out of the release. -/
def askProvider (registered : Bool) : DuckOp (Option Db) := do
  if registered then
    let (asked, answer) ← ExceptT.lift (remote id)
    if answer.reply = .done then return some asked.reference
    else if answer.unnamed then throw .unnamed
    else return none
  else return none

/-- The release is shielded, so a cancellation of the bracket does not reach it; its calls to Camilla are best-effort, and
raise nothing. -/
def releaseGraphSwapDuck (registered : Bool) (beforeDb : Db) : DuckOp Unit := do
  let (seen, reading) ← ExceptT.lift (remote id)
  let currentDb := if reading.reply = .done then some seen.gain else none
  let reference ← askProvider registered
  let targetDb := duckReleaseTargetDb (reference.getD beforeDb) currentDb graphSwapDuckDb beforeDb
  let (left, write) ← ExceptT.lift (remote (Fader.moved targetDb))
  Shared.Operation.Attempt.change fun fader => fader.restored {
    reference, current := currentDb, entry := beforeDb, written := coerceMainVolumeDb targetDb
    landed := write.reply ≠ .refused, fader := left.gain }

/-- The bracket around a mutation, whose own outcome does not matter here. A fader that the duck would take to Camilla's
minimum is left alone. -/
def graphMutation (registered duck : Bool) : DuckOp Unit := do
  if !duck then
    let _ ← call id
    return
  let beforeDb ← getVolumeDb
  if beforeDb - graphSwapDuckDb ≤ minMainVolumeDb then
    let _ ← call id
    return
  Shared.Operation.Attempt.change fun fader => { fader with ducked := true }
  setVolumeDb (beforeDb - graphSwapDuckDb)
  Shared.Operation.Attempt.change fun fader => { fader with confirmed := true }
  afterwards (do let _ ← call id; let _ ← call id) (releaseGraphSwapDuck registered beforeDb)

/-- A failure of a provider is of a class that the release names. -/
def Named (registered : Bool) (answer : Answer) : Prop := registered = true → answer.unnamed = false

instance (registered : Bool) (answer : Answer) : Decidable (Named registered answer) := inferInstanceAs (Decidable (_ → _))

/-- Wherever the bracket is cancelled, and whatever the household writes, it ends as stated. -/
abbrev Always {Result : Type} (registered : Bool) (operation : Op Fader Answer Result) (fader : Fader) (post : Result → Fader → Prop) : Prop :=
  Ends (Named registered) operation fader post

/-- What a call does not touch. -/
structure Records (before after : Fader) : Prop where
  ducked : after.ducked = before.ducked
  confirmed : after.confirmed = before.confirmed
  restores : after.restores = before.restores

theorem Records.trans {first middle last : Fader} (before : Records first middle) (after : Records middle last) :
    Records first last :=
  ⟨after.1.trans before.1, after.2.trans before.2, after.3.trans before.3⟩

variable {registered : Bool}

theorem remote_ends {effect : Fader → Fader} (records : ∀ fader, Records fader (effect fader)) (fader : Fader) :
    Always registered (remote effect) fader fun reply after =>
      Records fader after ∧ (reply.2.reply ≠ .refused → ∃ met : Fader, reply.1 = effect met) ∧ Named registered reply.2 := by
  refine .bind (.ask (fun _ => rfl) fun answer named => .bind (.change ?_))
  dsimp only
  split
  · rename_i lands
    have records := records (fader.edited answer.earlier)
    exact .bind (.change (.bind (.read (.bind (.change (.pure ⟨⟨records.1, records.2, records.3⟩, fun _ => ⟨_, rfl⟩, named⟩))))))
  · rename_i refused
    exact .bind (.read (.bind (.change (.pure ⟨⟨rfl, rfl, rfl⟩, fun lands => absurd lands refused, named⟩))))

theorem call_ends {effect : Fader → Fader} (records : ∀ fader, Records fader (effect fader)) (fader : Fader) :
    Always registered (call effect).run fader fun _ after => Records fader after := by
  refine .lift ((remote_ends records fader).mono fun reply after here => ?_)
  dsimp only
  split
  · exact .raise here.1
  · split
    · exact .raise here.1
    · exact .give here.1

/-- No louder than a level, but for Camilla's minimum. -/
def Within (db bound : Db) : Prop := db ≤ max minMainVolumeDb bound

theorem coerce_within {db bound : Db} (le : db ≤ bound) : Within (coerceMainVolumeDb db) bound :=
  max_le_max (le_refl _) ((min_le_right _ _).trans le)

/-- Where a restore lands the fader. -/
structure Restore.Safe (restore : Restore) : Prop where
  reference : ∀ referenceDb, restore.reference = some referenceDb → Within restore.written referenceDb
  current : ∀ currentDb, restore.current = some currentDb → Within restore.written (currentDb + graphSwapDuckDb)
  entry : restore.current = none → Within restore.written restore.entry
  undone : restore.landed = true → restore.fader = restore.written

theorem duckReleaseTargetDb_le_reference (referenceDb : Db) (currentDb : Option Db) (depthDb entryDb : Db) :
    duckReleaseTargetDb referenceDb currentDb depthDb entryDb ≤ referenceDb := by
  cases currentDb <;> exact min_le_left _ _

theorem duckReleaseTargetDb_le_current (referenceDb currentDb entryDb : Db) :
    duckReleaseTargetDb referenceDb (some currentDb) graphSwapDuckDb entryDb ≤ currentDb + graphSwapDuckDb := by
  have depth : |graphSwapDuckDb| = graphSwapDuckDb := abs_of_nonneg (by norm_num [graphSwapDuckDb])
  simp only [duckReleaseTargetDb, depth]
  exact min_le_right _ _

theorem moved_records (db : Db) (fader : Fader) : Records fader (fader.moved db) := ⟨rfl, rfl, rfl⟩

theorem askProvider_ends (registered : Bool) (fader : Fader) :
    Always registered (askProvider registered).run fader fun result after =>
      Records fader after ∧ ∃ reference, result = .ok reference := by
  unfold askProvider
  split
  next there =>
    refine .lift ((remote_ends (fun fader => ⟨rfl, rfl, rfl⟩) fader).mono fun reply after here => ?_)
    obtain ⟨records, -, named⟩ := here
    dsimp only
    split
    · exact .give ⟨records, _, rfl⟩
    · rw [named there]
      exact .give ⟨records, _, rfl⟩
  next => exact .give ⟨⟨rfl, rfl, rfl⟩, _, rfl⟩

/-- The release writes once, where it may. -/
theorem releaseGraphSwapDuck_ends (registered : Bool) (beforeDb : Db) (fader : Fader) :
    Always registered (releaseGraphSwapDuck registered beforeDb).run fader fun result after =>
      result = .ok () ∧ after.ducked = fader.ducked ∧ after.confirmed = fader.confirmed ∧
        ∃ restore : Restore, after.restores = fader.restores ++ [restore] ∧ restore.Safe := by
  refine .lift ((remote_ends (fun fader => ⟨rfl, rfl, rfl⟩) fader).mono fun read _ seen => ?_)
  refine (askProvider_ends registered _).andThen (fun reference _ asked => ?_) fun _ _ asked => ?_
  swap
  · obtain ⟨-, _, none⟩ := asked
    cases none
  refine .lift ((remote_ends (moved_records _) _).mono fun write _ moved => .changes ?_)
  have records := (seen.1.trans asked.1).trans moved.1
  refine ⟨rfl, records.ducked, records.confirmed, _, congrArg (· ++ _) records.restores, ?_, ?_, ?_, ?_⟩
  · rintro referenceDb rfl
    exact coerce_within (duckReleaseTargetDb_le_reference referenceDb _ _ _)
  · intro currentDb current
    dsimp only at current ⊢
    rw [current]
    exact coerce_within (duckReleaseTargetDb_le_current _ currentDb _)
  · intro unread
    dsimp only at unread ⊢
    rw [unread]
    exact coerce_within (min_le_right _ _)
  · intro landed
    obtain ⟨met, left⟩ := moved.2.1 (by simpa using landed)
    dsimp only
    rw [left]
    rfl

/-- What the bracket leaves: a duck whose write was answered is undone by one restore. -/
structure Undone (fader : Fader) : Prop where
  answered : fader.confirmed = true → ∃ restore : Restore, fader.restores = [restore] ∧ restore.Safe
  silent : fader.confirmed = false → fader.restores = []

theorem Records.undone {before after : Fader} (records : Records before after) (fresh : before.confirmed = false)
    (unrestored : before.restores = []) : Undone after :=
  ⟨fun confirmed => by simp [records.confirmed, fresh] at confirmed, fun _ => records.restores.trans unrestored⟩

theorem getVolumeDb_ends (fader : Fader) : Always registered getVolumeDb.run fader fun _ after => Records fader after :=
  (call_ends (fun _ => ⟨rfl, rfl, rfl⟩) fader).andThen (fun _ _ records => .give records) (fun _ _ records => records)

theorem setVolumeDb_ends (db : Db) (fader : Fader) :
    Always registered (setVolumeDb db).run fader fun _ after => Records fader after :=
  (call_ends (moved_records db) fader).andThen (fun _ _ records => .give records) (fun _ _ records => records)

-- The wait for the ramp, and the mutation.
theorem swap_ends (fader : Fader) :
    Always registered (do let _ ← call id; let _ ← call id : DuckOp Unit).run fader fun _ after => Records fader after := by
  have still : ∀ fader : Fader, Records fader (id fader) := fun _ => ⟨rfl, rfl, rfl⟩
  refine (call_ends still fader).andThen (fun _ settled records => ?_) (fun _ _ records => records)
  exact (call_ends still settled).andThen (fun _ _ later => .give (records.trans later))
    (fun _ _ later => records.trans later)

theorem graphMutation_ends (registered duck : Bool) {fader : Fader} (fresh : fader.confirmed = false)
    (unrestored : fader.restores = []) :
    Always registered (graphMutation registered duck).run fader fun _ after => Undone after := by
  have still : ∀ fader : Fader, Records fader (id fader) := fun _ => ⟨rfl, rfl, rfl⟩
  unfold graphMutation
  split
  · exact (call_ends still fader).andThen (fun _ _ records => .give (records.undone fresh unrestored))
      (fun _ _ records => records.undone fresh unrestored)
  · refine (getVolumeDb_ends fader).andThen (fun beforeDb opened records => ?_)
      (fun _ _ records => records.undone fresh unrestored)
    split
    · exact (call_ends still opened).andThen
        (fun _ _ later => .give ((records.trans later).undone fresh unrestored))
        (fun _ _ later => (records.trans later).undone fresh unrestored)
    · have unconfirmed : opened.confirmed = false := records.confirmed.trans fresh
      have unrestored : opened.restores = [] := records.restores.trans unrestored
      refine .changeThen ((setVolumeDb_ends _ _).andThen (fun _ ducked written => ?_)
        (fun _ _ written => written.undone unconfirmed unrestored))
      refine .changeThen (.afterwards ((swap_ends _).mono fun _ swapped mutated => ?_))
      refine (releaseGraphSwapDuck_ends registered beforeDb swapped).mono fun result after released => ?_
      obtain ⟨returned, -, confirmed, restore, restores, safe⟩ := released
      have confirmed : after.confirmed = true := confirmed.trans mutated.confirmed
      have before : swapped.restores = [] := mutated.restores.trans (written.restores.trans unrestored)
      refine ⟨fun _ => ⟨fun _ => ⟨restore, by rw [restores, before, List.nil_append], safe⟩, fun silent => ?_⟩, fun error raised => ?_⟩
      · simp [confirmed] at silent
      · cases returned.symm.trans raised

def Fader.new (gain reference : Db) (mainMute : Bool) : Fader where
  gain := gain
  mainMute := mainMute
  reference := reference
  ducked := false
  confirmed := false
  restores := []

-- The provider cannot say, and its failure is one that the release names.
def failingProvider : List Answer :=
  [.plain .done, .plain .done, .plain .done, .plain .done, .plain .done, .plain .refused, .plain .done]

def loweredUnderDuck : Answer where
  reply := .done
  unnamed := false
  cancelled := false
  earlier := .still
  later := { Household.still with reference := some (-50), gain := some (-50) }

-- The fader is read, the duck lands, its ramp ends, the graph is swapped; then the fader cannot be read, and is written.
def unreadUnderDuck : List Answer :=
  [.plain .done, .plain .done, .plain .done, loweredUnderDuck, .plain .refused, .plain .done]

-- The provider reads a volume file that is not a JSON object, and its AttributeError leaves the release.
def brokenProvider : List Answer :=
  [.plain .done, .plain .done, .plain .done, .plain .done, .plain .done, { Answer.plain .refused with unnamed := true }]

end Jts.Volume.Duck
