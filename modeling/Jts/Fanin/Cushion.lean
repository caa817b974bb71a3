import Mathlib.Algebra.Order.Floor.Ring
import Mathlib.Data.Rat.Floor
import Mathlib.Tactic.Linarith

set_option autoImplicit false

namespace Jts.Fanin

def bufferAdjustPpm : ℚ := 2000

def cushionDecayFloorMarginFrames : ℕ := 32

def radiusFrames : ℕ := 16

inductive DecayFrozenReason
  | unlocked
  | notL0
  | bufferLow
  | warmup
  | atFloor
  | backoff
  | reused
deriving DecidableEq, Repr

structure DecaySignals where
  locked : Bool
  dllL0Locked : Bool
  bufferLow : Bool

/-- The cushion of a lane: how deep it holds its buffer, and how shallow it has learned that it may. -/
structure CushionDecay where
  enabled : Bool
  ceiling : ℕ
  floor : ℕ
  learnedFloor : ℕ
  held : ℚ
  periodFrames : ℕ
  stabilityPeriods : ℕ
  pausePeriods : ℕ
  stablePeriods : ℕ
  settledPeriods : ℕ
  idlePeriods : ℕ
  motionPpm : ℚ
  refilling : Bool
  connection : ℕ
  failed : Bool
  lastGood : Option ℕ
  interruptedAt : Option ℕ
  reused : Bool
  resumes : ℕ
  backoffs : ℕ
  frozenReason : Option DecayFrozenReason
  ordered : floor ≤ learnedFloor ∧ learnedFloor ≤ ceiling
  lasts : 0 < periodFrames

structure DecayParams where
  enabled : Bool
  floorFrames : ℕ
  stabilityMs : ℕ

def minimumSafeFillFrames (periodFrames : ℕ) (maxAdjustPpm : ℚ) : ℕ :=
  ⌈(periodFrames : ℚ) * (1 + maxAdjustPpm / 1000000)⌉₊ + radiusFrames + 1

def DecayParams.build (params : DecayParams) (ceiling periodFrames sampleRate : ℕ) (maxAdjustPpm : ℚ) : CushionDecay :=
  let periods := fun ms => max (ms * max sampleRate 1 / (1000 * max periodFrames 1)) 1
  let minSafe := minimumSafeFillFrames periodFrames (maxAdjustPpm + bufferAdjustPpm) + cushionDecayFloorMarginFrames
  let floor := min (max params.floorFrames minSafe) ceiling
  { enabled := params.enabled
    ceiling := ceiling
    floor := floor
    learnedFloor := floor
    held := ceiling
    periodFrames := max periodFrames 1
    stabilityPeriods := periods params.stabilityMs
    pausePeriods := periods 250
    stablePeriods := 0
    settledPeriods := 0
    idlePeriods := 0
    motionPpm := 0
    refilling := false
    connection := 0
    failed := false
    lastGood := none
    interruptedAt := none
    reused := false
    resumes := 0
    backoffs := 0
    frozenReason := some .unlocked
    ordered := ⟨le_rfl, min_le_right _ _⟩
    lasts := lt_of_lt_of_le Nat.zero_lt_one (le_max_right _ _) }

namespace CushionDecay

variable (decay : CushionDecay)

def heldFrames : ℕ := ⌊decay.held + 1 / 2⌋₊

def invalidates (connection : ℕ) (failed : Bool) : Bool := connection ≠ decay.connection || failed && !decay.failed

def snapBack (reason : DecayFrozenReason) : CushionDecay :=
  if !decay.enabled then decay
  else
    let stopped := { decay with stablePeriods := 0, settledPeriods := 0, motionPpm := 0, frozenReason := some reason }
    if reason = .unlocked then
      -- The candidate is kept through repeated resets of an idle capture.
      let kept :=
        if decay.interruptedAt.isNone then
          { stopped with interruptedAt := some decay.heldFrames, reused := false, idlePeriods := 0 }
        else stopped
      { kept with held := decay.ceiling, refilling := false }
    else { stopped with refilling := decay.held < decay.ceiling, lastGood := none, reused := false }

def context (connection : ℕ) (failed locked : Bool) : CushionDecay :=
  let settled :=
    if decay.invalidates connection failed then
      let fresh := { decay with
        lastGood := none
        interruptedAt := none
        reused := false
        learnedFloor := decay.floor
        ordered := ⟨le_rfl, decay.ordered.1.trans decay.ordered.2⟩ }.snapBack .notL0
      if locked then fresh else { fresh with held := fresh.ceiling, refilling := false }
    else decay
  { settled with connection := connection, failed := failed }

def holdForReopen : CushionDecay := { decay with motionPpm := 0, frozenReason := some .unlocked }

def reuseLastGood : CushionDecay :=
  if decay.connection ≠ 0 ∧ decay.failed = false then
    match decay.lastGood with
    | some target => { decay with held := target, reused := true }
    | none => decay
  else decay

def outputLost : CushionDecay := { decay with interruptedAt := none }.reuseLastGood

-- The motion that the period used.
def integrated : ℚ := max decay.learnedFloor (min (decay.held - decay.motionPpm * decay.periodFrames / 1000000) decay.ceiling)

/-- A floor learned from a depth that failed. -/
def learn (failedTarget : ℕ) : CushionDecay :=
  { decay with
    learnedFloor := min (max (failedTarget + 2 * decay.periodFrames) decay.learnedFloor) decay.ceiling
    lastGood := none
    backoffs := decay.backoffs + 1
    ordered := ⟨le_min (le_max_of_le_right decay.ordered.1) (decay.ordered.1.trans decay.ordered.2), min_le_right _ _⟩ }

-- A lane that is locked again after an interruption.
def relocked : CushionDecay :=
  match decay.interruptedAt with
  | none => decay
  | some failedTarget =>
    let taken := { decay with interruptedAt := none }
    if decay.reused then { taken with resumes := decay.resumes + 1 }
    else if decay.idlePeriods < decay.pausePeriods ∧ failedTarget < decay.ceiling then taken.learn failedTarget
    else taken

def settle (signals : DecaySignals) : CushionDecay :=
  if decay.held = decay.learnedFloor ∧ decay.motionPpm = 0 ∧ signals.dllL0Locked = true then
    let settledPeriods := decay.settledPeriods + 1
    { decay with
      settledPeriods := settledPeriods
      lastGood := if decay.stabilityPeriods ≤ settledPeriods ∧ decay.connection ≠ 0 then some decay.heldFrames else decay.lastGood }
  else { decay with settledPeriods := 0 }

def descend (signals : DecaySignals) : CushionDecay :=
  let stable := { decay with stablePeriods := decay.stablePeriods + 1 }
  if stable.stablePeriods < decay.stabilityPeriods then { stable with motionPpm := 0, frozenReason := some .warmup }
  else if (decay.learnedFloor : ℚ) < decay.held then
    { stable with
      motionPpm := min bufferAdjustPpm ((decay.held - decay.learnedFloor) * 1000000 / decay.periodFrames)
      frozenReason := none }
  else
    { stable with
      motionPpm := 0
      frozenReason := some (if decay.reused = true ∧ signals.dllL0Locked = false then .reused
        else if decay.floor < decay.learnedFloor then .backoff else .atFloor) }

/-- The period's work of a locked lane that is not refilling its buffer. -/
def steer (signals : DecaySignals) : CushionDecay :=
  if decay.failed = true ∨ signals.dllL0Locked = false ∧ decay.connection = 0 then
    { decay with motionPpm := 0, stablePeriods := 0 }.snapBack .notL0
  else
    let settled := decay.settle signals
    if signals.bufferLow then { settled with motionPpm := 0, frozenReason := some .bufferLow }
    else settled.descend signals

def tickUnlocked : CushionDecay :=
  let idle := { decay with motionPpm := 0, idlePeriods := decay.idlePeriods + 1 }
  let waited := if decay.pausePeriods ≤ idle.idlePeriods then idle.reuseLastGood else idle
  { waited with frozenReason := some .unlocked }

def tickLocked (signals : DecaySignals) : CushionDecay :=
  let moved := { { decay with held := decay.integrated }.relocked with idlePeriods := 0 }
  if moved.refilling then
    if moved.held < moved.ceiling then
      { moved with motionPpm := -min bufferAdjustPpm ((moved.ceiling - moved.held) * 1000000 / moved.periodFrames) }
    else { moved with refilling := false }.steer signals
  else moved.steer signals

def tick (signals : DecaySignals) : CushionDecay :=
  if !decay.enabled then decay
  else if signals.locked then decay.tickLocked signals
  else decay.tickUnlocked

inductive Call
  | tick (signals : DecaySignals)
  | context (connection : ℕ) (failed locked : Bool)
  | snapBack (reason : DecayFrozenReason)
  | holdForReopen
  | outputLost

def call : Call → CushionDecay
  | .tick signals => decay.tick signals
  | .context connection failed locked => decay.context connection failed locked
  | .snapBack reason => decay.snapBack reason
  | .holdForReopen => decay.holdForReopen
  | .outputLost => decay.outputLost

end CushionDecay

end Jts.Fanin
