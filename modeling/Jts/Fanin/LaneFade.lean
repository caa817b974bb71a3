import Mathlib.Algebra.Field.Defs
import Mathlib.Data.Nat.Notation
import Mathlib.Tactic.Common

set_option autoImplicit false

namespace Jts.Fanin

def measurementLane : String := "correction"

def armSilenceMs : ℕ := 1500

def rampMs : ℕ := 10

structure Frame (K : Type) where
  left : K
  right : K

namespace Frame

variable {K : Type}

def isSilent [Zero K] [DecidableEq K] (frame : Frame K) : Bool := frame.left = 0 && frame.right = 0

-- The exact product. The source rounds it to a whole sample.
def scaled [Mul K] (frame : Frame K) (gain : K) : Frame K := ⟨frame.left * gain, frame.right * gain⟩

end Frame

/-- Where the wake window of a lane is in its life. -/
inductive RampState
  | idle
  | pending (onsetFrame : ℕ)
  | running (done : ℕ)
deriving DecidableEq

/-- The fades of a lane. The selection window stands at zero for a lane that is out of the sum, at its length for one that
is in. -/
structure LaneFade where
  armFrames : ℕ
  rampFrames : ℕ
  zeroFrames : ℕ
  state : RampState
  periodHadContent : Bool
  armedThisPeriod : Bool
  selectPos : ℕ
  enabled : Bool
  total : 0 < rampFrames
  placed : selectPos ≤ rampFrames

namespace LaneFade

def forLane (label : String) (sampleRate : ℕ) : LaneFade where
  armFrames := max sampleRate 1 * armSilenceMs / 1000
  rampFrames := max (max sampleRate 1 * rampMs / 1000) 1
  zeroFrames := max sampleRate 1 * armSilenceMs / 1000
  state := .idle
  periodHadContent := false
  armedThisPeriod := false
  selectPos := 0
  enabled := label ≠ measurementLane
  total := Nat.lt_of_lt_of_le Nat.zero_lt_one (Nat.le_max_right _ _)
  placed := Nat.zero_le _

variable (fade : LaneFade)

/-- A position moved toward fully in or fully out. -/
def advanced (pos frames : ℕ) (contributes : Bool) : ℕ :=
  if contributes then min (pos + frames) fade.rampFrames else pos - frames

section Samples

variable {K : Type} [Field K] [DecidableEq K]

/-- Tracks a captured period, before the selection; whether the wake window was armed on it. -/
def observe (period : List (Frame K)) (periodFrames : ℕ) : LaneFade × Bool :=
  if !fade.enabled then (fade, false)
  else
    match period.findIdx? fun frame => !frame.isSilent with
    | none =>
      let zeroFrames := fade.zeroFrames + periodFrames
      -- Silence that is long enough to arm again cancels an unfinished window.
      ({ fade with
          armedThisPeriod := false
          periodHadContent := false
          zeroFrames := zeroFrames
          state := if fade.armFrames ≤ zeroFrames then .idle else fade.state }, false)
    | some onset =>
      if fade.armFrames ≤ fade.zeroFrames ∧ fade.state = .idle then
        ({ fade with
            armedThisPeriod := true
            periodHadContent := true
            zeroFrames := 0
            state := .pending onset }, true)
      else ({ fade with armedThisPeriod := false, periodHadContent := true, zeroFrames := 0 }, false)

variable (window : ℕ → ℕ → K)

def shapeFrames (n : ℕ) : ℕ → List (Frame K) → List (Frame K) × RampState
  | pos, [] => ([], if pos < n then .running pos else .idle)
  | pos, frame :: frames =>
    if n ≤ pos then (frame :: frames, .idle)
    else
      let rest := shapeFrames n (pos + 1) frames
      (frame.scaled (window pos n) :: rest.1, rest.2)

def shape (period : List (Frame K)) (startFrame done : ℕ) : List (Frame K) × RampState :=
  let shaped := shapeFrames window fade.rampFrames done (period.drop startFrame)
  (period.take startFrame ++ shaped.1, shaped.2)

def applyWake (period : List (Frame K)) : List (Frame K) × LaneFade :=
  if !fade.periodHadContent then (period, fade)
  else
    match fade.state with
    | .idle => (period, fade)
    | .pending onset =>
      -- On a later period the onset belongs to a period that the sum never saw.
      let shaped := fade.shape window period (if fade.armedThisPeriod then onset else 0) 0
      (shaped.1, { fade with state := shaped.2 })
    | .running done =>
      let shaped := fade.shape window period 0 done
      (shaped.1, { fade with state := shaped.2 })

def selectFrames (contributes : Bool) : ℕ → List (Frame K) → List (Frame K)
  | _, [] => []
  | pos, frame :: frames =>
    if contributes && pos = fade.rampFrames then frame :: frames
    else
      let gain := if pos = 0 then 0 else window pos fade.rampFrames
      frame.scaled gain :: selectFrames contributes (fade.advanced pos 1 contributes) frames

theorem advanced_le {pos : ℕ} (placed : pos ≤ fade.rampFrames) (frames : ℕ) (contributes : Bool) :
    fade.advanced pos frames contributes ≤ fade.rampFrames := by
  rw [advanced]
  split
  · exact Nat.min_le_right _ _
  · exact Nat.le_trans (Nat.sub_le _ _) placed

-- The gains go by the sample, the window by the wall clock.
def applySelect (period : List (Frame K)) (periodFrames : ℕ) (contributes : Bool) : List (Frame K) × LaneFade :=
  if contributes && (fade.selectPos = fade.rampFrames || !fade.periodHadContent) then (period, fade)
  else
    (fade.selectFrames window contributes fade.selectPos period,
      { fade with
        selectPos := fade.advanced fade.selectPos periodFrames contributes
        placed := fade.advanced_le fade.placed _ _ })

/-- Shapes a period after the selection; whether the lane still reaches the sum. -/
def shapePeriod (period : List (Frame K)) (periodFrames : ℕ) (contributes : Bool) : Bool × List (Frame K) × LaneFade :=
  if !fade.enabled then (contributes, period, fade)
  else if !contributes && fade.selectPos = 0 then (false, period, fade)
  else
    let woken := fade.applyWake window period
    (true, woken.2.applySelect window woken.1 periodFrames contributes)

end Samples

end LaneFade

section Lanes

variable {K : Type} [Field K] [DecidableEq K] {ι : Type}

/-- What the lanes bring to one period of the sum, and which of them the selection lets in. -/
structure Round (ι K : Type) where
  periods : ι → List (Frame K)
  contributes : ι → Bool

variable (window : ℕ → ℕ → K) (periodFrames : ℕ)

-- Tracked, then shaped.
def mixLane (round : Round ι K) (lane : ι) (fade : LaneFade) : Bool × List (Frame K) × LaneFade :=
  (fade.observe (round.periods lane) periodFrames).1.shapePeriod window (round.periods lane) periodFrames (round.contributes lane)

def mixLanes (fades : ι → LaneFade) (round : Round ι K) : ι → LaneFade :=
  fun lane => (mixLane window periodFrames round lane (fades lane)).2.2

def silentFrame : Frame K := ⟨0, 0⟩

/-- What a lane adds to a frame of the sum: nothing past the frames that it delivered. -/
def added (fades : ι → LaneFade) (round : Round ι K) (lane : ι) (frame : ℕ) : Frame K :=
  let mixed := mixLane window periodFrames round lane (fades lane)
  if mixed.1 then mixed.2.1.getD frame silentFrame else silentFrame

/-- The gain of the selection on a frame that a lane delivers, in a period with content. -/
def selectionGain (fades : ι → LaneFade) (round : Round ι K) (lane : ι) (frame : ℕ) : K :=
  let observed := ((fades lane).observe (round.periods lane) periodFrames).1
  if observed.periodHadContent && frame < (round.periods lane).length then
    window (observed.advanced observed.selectPos frame (round.contributes lane)) observed.rampFrames
  else 0

end Lanes

end Jts.Fanin
