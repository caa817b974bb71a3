import Jts.Shared.Transition
import Jts.Volume.Carrier
import Mathlib.Data.List.MinMax
import Mathlib.Data.Prod.Lex

set_option autoImplicit false

namespace Jts.Volume.Owner

open Shared.Operation (Attempt run undoing)
open Shared.Operation.Attempt (ask read change)
open Shared.Transition (System ofAct)

inductive ClaimKind
  | household
  | sessionMeasurement
  | commissioning
deriving DecidableEq

def levelRank : ClaimKind → Nat
  | .household => 0
  | .sessionMeasurement => 1
  | .commissioning => 2

structure ClaimHandle where
  kind : ClaimKind
  token : Nat
  levelDb : Db
deriving DecidableEq

inductive ClaimError
  | refused
  | conflict
  | escaped
deriving DecidableEq

/-- What comes of a call to a fader door, or of a wait for the lock: a value, a failure that is reported or that is one of
the fader's own errors, or a cancellation or another error. -/
inductive DoorAnswer
  | returns (reading : Option Db)
  | fails
  | escapes
deriving DecidableEq

instance : Inhabited DoorAnswer := ⟨.fails⟩

abbrev Ledger := List ClaimHandle

/-- The claims in the order of the dict. The last two fields only record: the levels given to the setter, and the ledgers
that a reader without the lock could see while a verb waited. -/
structure VolumeOwner where
  claims : Ledger
  tokens : Nat
  written : List Db
  seen : List Ledger
deriving DecidableEq

abbrev OwnerOp := Attempt VolumeOwner DoorAnswer ClaimError

def topLevelClaim (claims : Ledger) : Option ClaimHandle :=
  claims.argmax fun claim => toLex (levelRank claim.kind, claim.token)

def declaredLevelDb (claims : Ledger) : Option Db := (topLevelClaim claims).map ClaimHandle.levelDb

def get (claims : Ledger) (token : Nat) : Option ClaimHandle := claims.find? fun claim => claim.token == token

def holds (claims : Ledger) (handle : ClaimHandle) : Bool := get claims handle.token == some handle

def erase (claims : Ledger) (token : Nat) : Ledger := claims.filter fun claim => claim.token != token

-- A token is seated once at a time, so a new seat is the last one.
def VolumeOwner.seat (owner : VolumeOwner) (handle : ClaimHandle) : VolumeOwner :=
  { owner with claims := erase owner.claims handle.token ++ [handle] }

def VolumeOwner.unseat (owner : VolumeOwner) (token : Nat) : VolumeOwner :=
  { owner with claims := erase owner.claims token }

def door : OwnerOp DoorAnswer := do
  change fun owner => { owner with seen := owner.seen ++ [owner.claims] }
  let answer ← ask
  if answer = .escapes then throw .escaped
  return answer

def readFaderDb : OwnerOp (Option Db) := do
  match ← door with
  | .returns reading => return reading
  | _ => return none

def setFaderDb (db : Db) : OwnerOp Bool := do
  change fun owner => { owner with written := owner.written ++ [db] }
  match ← door with
  | .returns _ => return true
  | _ => return false

def setAndConfirmVolume (target : Db) : OwnerOp Bool := do
  if ← setFaderDb target then
    return faderMatches (← readFaderDb) target
  else return false

def settle (target : Db) : OwnerOp Bool := do
  if faderMatches (← readFaderDb) target then return true
  else setAndConfirmVolume target

def apply : OwnerOp Bool := do
  match declaredLevelDb (← read).claims with
  | none => return true
  | some target => settle target

def nextToken : OwnerOp Nat := do
  let owner ← read
  change fun owner => { owner with tokens := owner.tokens + 1 }
  return owner.tokens

def establish (handle : ClaimHandle) : OwnerOp Bool := do
  change fun owner => owner.seat handle
  if topLevelClaim (← read).claims ≠ some handle then return true
  else apply

-- The fader's own errors do not reach it: `settle` reports them.
def unwind (handle : ClaimHandle) : OwnerOp Unit := do
  change fun owner => owner.unseat handle.token
  let _ ← apply

def finite (level : Option Db) : OwnerOp Db :=
  match level with
  | none => throw .refused
  | some db => return db

-- A wait for the lock may be cancelled.
def holding : OwnerOp Unit := do
  let _ ← door

def acquireLevel (kind : ClaimKind) (levelDb : Option Db) : OwnerOp ClaimHandle := do
  if kind = .household then
    throw .refused
  let target ← finite levelDb
  holding
  if (← read).claims.any fun claim => claim.kind == kind then
    throw .conflict
  let handle : ClaimHandle := { kind, token := ← nextToken, levelDb := target }
  undoing (do if ← establish handle then return handle else throw .refused) (unwind handle)

def declareHouseholdLevelDb (levelDb : Option Db) : OwnerOp Bool := do
  let target ← finite levelDb
  holding
  change fun owner => { owner with claims := owner.claims.filter fun claim => claim.kind != .household }
  establish { kind := .household, token := ← nextToken, levelDb := target }

-- What a relevel that did not complete puts back.
def VolumeOwner.restore (owner : VolumeOwner) (moved handle : ClaimHandle) : VolumeOwner :=
  (owner.unseat moved.token).seat handle

def relevel (handle : ClaimHandle) (levelDb : Option Db) : OwnerOp ClaimHandle := do
  let target ← finite levelDb
  holding
  if !holds (← read).claims handle then
    throw .refused
  change fun owner => owner.unseat handle.token
  let moved : ClaimHandle := { kind := handle.kind, token := ← nextToken, levelDb := target }
  undoing (do if ← establish moved then return moved else throw .refused)
    (change fun owner => owner.restore moved handle)

def release (handle : ClaimHandle) : OwnerOp Unit := do
  holding
  if !holds (← read).claims handle then
    return
  change fun owner => owner.unseat handle.token
  match declaredLevelDb (← read).claims with
  | none => let _ ← readFaderDb
  | some reference => let _ ← settle reference

/-- The handle may be a copy of the one that the owner gave out. A copy passes for held, and never for the top claim. -/
def prove (handle : ClaimHandle) (original : Bool) : OwnerOp (Option Db) := do
  holding
  let observed ← readFaderDb
  let claims := (← read).claims
  if !holds claims handle then return none
  else if topLevelClaim claims ≠ some handle || !original then return none
  else if !faderMatches observed handle.levelDb then return none
  else return observed

inductive Verb
  | acquireLevel (kind : ClaimKind) (levelDb : Option Db)
  | declareHouseholdLevelDb (levelDb : Option Db)
  | relevel (handle : ClaimHandle) (levelDb : Option Db)
  | release (handle : ClaimHandle)
  | prove (handle : ClaimHandle) (original : Bool)
deriving DecidableEq

/-- A verb of some holder, and what the doors answer to it. The lock keeps the verbs apart. -/
structure Call where
  verb : Verb
  answers : List DoorAnswer
deriving DecidableEq

def act (owner : VolumeOwner) (call : Call) : VolumeOwner :=
  match call.verb with
  | .acquireLevel kind levelDb => run (Owner.acquireLevel kind levelDb).run owner call.answers
  | .declareHouseholdLevelDb levelDb => run (Owner.declareHouseholdLevelDb levelDb).run owner call.answers
  | .relevel handle levelDb => run (Owner.relevel handle levelDb).run owner call.answers
  | .release handle => run (Owner.release handle).run owner call.answers
  | .prove handle original => run (Owner.prove handle original).run owner call.answers

def VolumeOwner.new : VolumeOwner where
  claims := []
  tokens := 1
  written := []
  seen := []

def ownerSystem : System VolumeOwner Call := ofAct (· = .new) act

end Jts.Volume.Owner
