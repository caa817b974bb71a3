import Jts.Tts.Protocol

set_option autoImplicit false

namespace Jts.Tts.Fanin

open Jts.Tts

def maxSegments : Nat := 1024

structure PlayoutEvent where
  localSegmentId : Nat
  providerItemId : Option Token
  kind : SegmentKind
  queuedFrames : Nat
  playedFrames : Nat
  flushedFrames : Nat
  audioPlayedMs : Nat
deriving DecidableEq

structure Segment where
  localSegmentId : Nat
  providerItemId : Option Token
  kind : SegmentKind
  queueStart : Nat
  queuedFrames : Nat
  ended : Bool
deriving DecidableEq

def Segment.played (segment : Segment) (playedTotal : Nat) : Nat :=
  min (playedTotal - segment.queueStart) segment.queuedFrames

def Segment.fullyPlayed (segment : Segment) (playedTotal : Nat) : Bool :=
  segment.queueStart + segment.queuedFrames ≤ playedTotal

-- The counters of the source are u64 and saturate or wrap after 2^64 frames or segments.
structure PlayoutLedger where
  sampleRate : Nat
  nextId : Nat
  queuedTotal : Nat
  playedTotal : Nat
  segments : List Segment
deriving DecidableEq

def framesToMs (frames sampleRate : Nat) : Nat := frames * 1000 / sampleRate

def Segment.event (segment : Segment) (playedTotal sampleRate : Nat) : PlayoutEvent where
  localSegmentId := segment.localSegmentId
  providerItemId := segment.providerItemId
  kind := segment.kind
  queuedFrames := segment.queuedFrames
  playedFrames := segment.played playedTotal
  flushedFrames := segment.queuedFrames - segment.played playedTotal
  audioPlayedMs := framesToMs (segment.played playedTotal) sampleRate

-- `back_mut` of the source: the newest segment, at the end of the list.
def modifyBack (change : Segment → Segment) : List Segment → List Segment
  | [] => []
  | [back] => [change back]
  | front :: rest => front :: modifyBack change rest

namespace PlayoutLedger

def new (sampleRate : Nat) : PlayoutLedger where
  sampleRate := sampleRate
  nextId := 1
  queuedTotal := 0
  playedTotal := 0
  segments := []

def openSegment (ledger : PlayoutLedger) : Option Segment :=
  match ledger.segments.getLast? with
  | some segment => if segment.ended then none else some segment
  | none => none

def endOpenSegment (ledger : PlayoutLedger) : PlayoutLedger :=
  { ledger with segments := modifyBack (fun segment => { segment with ended := true }) ledger.segments }

def enforceCap (ledger : PlayoutLedger) : PlayoutLedger :=
  { ledger with segments := ledger.segments.drop (ledger.segments.length - maxSegments) }

def opened (ledger : PlayoutLedger) (providerItemId : Option Token) (kind : SegmentKind) : Segment where
  localSegmentId := ledger.nextId
  providerItemId := providerItemId
  kind := kind
  queueStart := ledger.queuedTotal
  queuedFrames := 0
  ended := false

def startSegment (ledger : PlayoutLedger) (providerItemId : Option Token) (kind : SegmentKind) : PlayoutLedger :=
  let closed := ledger.endOpenSegment
  enforceCap { closed with
    nextId := closed.nextId + 1
    segments := closed.segments ++ [closed.opened providerItemId kind] }

def noteQueued (ledger : PlayoutLedger) (frames : Nat) : PlayoutLedger :=
  if frames = 0 then ledger
  else
    let opened := if ledger.openSegment.isNone then ledger.startSegment none .assistant else ledger
    { opened with
      segments := modifyBack (fun segment => { segment with queuedFrames := segment.queuedFrames + frames })
        opened.segments
      queuedTotal := opened.queuedTotal + frames }

def endSegment (ledger : PlayoutLedger) : PlayoutLedger := ledger.endOpenSegment

def pruneTerminal (ledger : PlayoutLedger) : PlayoutLedger :=
  { ledger with segments := ledger.segments.dropWhile fun segment =>
      segment.ended && segment.fullyPlayed ledger.playedTotal }

def advancePlayed (ledger : PlayoutLedger) (frames : Nat) : PlayoutLedger :=
  if frames = 0 then ledger
  else pruneTerminal { ledger with playedTotal := min (ledger.playedTotal + frames) ledger.queuedTotal }

def flush (ledger : PlayoutLedger) : PlayoutLedger × List PlayoutEvent :=
  ({ ledger with segments := [], queuedTotal := 0, playedTotal := 0 },
    ledger.segments.map fun segment => segment.event ledger.playedTotal ledger.sampleRate)

end PlayoutLedger

end Jts.Tts.Fanin
