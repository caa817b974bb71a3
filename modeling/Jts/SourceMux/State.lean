import Jts.Shared.Coroutine
import Mathlib.Data.List.MinMax
import Mathlib.Data.Prod.Lex

set_option autoImplicit false

namespace Jts.SourceMux

-- The music sources; idle is none.
inductive Source
  | spotify
  | airplay
  | bluetooth
  | usbsink
deriving DecidableEq

def musicSources : List Source := [.spotify, .airplay, .bluetooth, .usbsink]

def sourceToFaninLabel : Source → String
  | .spotify => "spotify"
  | .airplay => "airplay"
  | .bluetooth => "bluealsa"
  | .usbsink => "usbsink"

def usbsinkFaninLabel : String := sourceToFaninLabel .usbsink

def faninTestLabels : List String := ["correction"]

def faninTestLeaseSec : ℕ := 60

abbrev Playing := Source → Bool

/-- The diagnostic lane that has the gate, who has it, and until when. -/
structure TestFanin where
  label : String
  owner : String
  expiresAt : ℕ
deriving DecidableEq

/-- What the mux keeps, the mute of the USB lane in fan-in, and a clock. A lock has the task that holds it. -/
structure Mux where
  playing : Playing
  startedSeq : Source → ℕ
  lastSeq : ℕ
  winner : Option Source
  manualSource : Option Source
  pendingAutoTarget : Option Source
  usbsinkPreempted : Bool
  testFanin : Option TestFanin
  faninNoneAsserted : Bool
  ticking : Option ℕ
  transitionLock : Option ℕ
  observationLock : Option ℕ
  usbLaneMuted : Bool
  now : ℕ

def Mux.initial (manual : Option Source) (now : ℕ) : Mux where
  playing _ := false
  startedSeq _ := 0
  lastSeq := 0
  winner := none
  manualSource := manual
  pendingAutoTarget := none
  usbsinkPreempted := false
  testFanin := none
  faninNoneAsserted := false
  ticking := none
  transitionLock := none
  observationLock := none
  usbLaneMuted := false
  now := now

def activeSources (current : Playing) : List Source := musicSources.filter current

def othersPlaying (current : Playing) : Bool := musicSources.any fun source => source ≠ .usbsink && current source

section Observation

def recordStart (current : Playing) (seen : Mux × List Source) (source : Source) : Mux × List Source :=
  if current source && !seen.1.playing source then
    ({ seen.1 with
        lastSeq := seen.1.lastSeq + 1
        startedSeq := Function.update seen.1.startedSeq source (seen.1.lastSeq + 1) }, seen.2 ++ [source])
  else seen

/-- The snapshot, and the sources that it shows to have started. -/
def Mux.recordSourceObservation (mux : Mux) (current : Playing) : Mux × List Source :=
  let seen := musicSources.foldl (recordStart current) (mux, [])
  ({ seen.1 with playing := current }, seen.2)

-- The registry order breaks a tie.
def Mux.pickKey (mux : Mux) (source : Source) : ℕ ×ₗ ℕ := toLex (mux.startedSeq source, musicSources.idxOf source)

def Mux.pickWinner (mux : Mux) (current : Playing) : Option Source := (activeSources current).argmax mux.pickKey

end Observation

/-- A command to fan-in. -/
inductive Command
  | select (label : String)
  | none
  | mute (label : String) (muted : Bool)
deriving DecidableEq

-- A music lane or nothing is let through.
def Command.routes : Command → Bool
  | .select label => label ∈ musicSources.map sourceToFaninLabel
  | .none => true
  | .mute _ _ => false

inductive Reason
  | autoNewSource
  | autoRetry
  | autoWinnerStopped
  | autoStartupActive
  | handoffPrepareFailed
  | autoIdle
  | manual
  | manualHandoffFailed
  | autoSelect
  | autoSelectHandoffFailed
  | testSelect
  | testSelectRollback
  -- The owner that asked for it; none where its lease expired.
  | testRelease (requested : Option String)
  | manualTick
  | autoTick
  | testTick
  | newTransition
  | allOthersIdle
  | manualSelect
  | manualAutoOthersIdle
  | manualMode
  | preemptedByWinner
  | preemptReassert
deriving DecidableEq

/-- What has happened, as the mux logs it; the latest is the first. -/
inductive Event
  | sent (command : Command) (reason : Reason) (now : ℕ)
  | testSelected (owner : String) (expiresAt : ℕ)
  | releaseRequested (owner : String)
  | releaseFailed (before after : Option TestFanin)
  | commandFailed (task : ℕ)
  | handoffFailed (task : ℕ)
  | tickEnded (task : ℕ) (mux : Mux)

structure World where
  mux : Mux
  history : List Event

-- What waits for the transition lock.
inductive Holder
  | tickHandoff
  | reassertManual
  | reassertAuto
  | reassertTest
  | select
  | auto
  | preempt
  | testSelect
  | testRelease (requested : Option String)
deriving DecidableEq

inductive Point
  -- The loop reconciles once at a time.
  | turn
  | probe (byTick : Bool)
  | observationLock
  | transitionLock (holder : Holder)
  | connect (command : Command) (reason : Reason)
  | landing (command : Command) (reason : Reason)
  | answer (command : Command) (reason : Reason)
  | prepare (previous : Option Source) (source : Source)
  | abort
  | finalize (source : Source) (reason : Reason)
  | publish
  | airplaySession
  | pause (source : Source)
deriving DecidableEq

/-- What an await may be answered; each uses what it asks for. -/
structure Answer where
  ok : Bool
  raises : Bool
  playing : Playing
deriving Inhabited

end Jts.SourceMux
