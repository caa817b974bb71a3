import Jts.Shared.PythonFloat
import Mathlib.Data.List.MinMax
import Mathlib.Data.String.Basic

set_option autoImplicit false

namespace Jts.Peering

open Shared.PythonJson
open Shared.PythonJson.PyFloat (Double)
open Shared.Floating (binary64)

def confidenceTieEps : ℚ := binary64.nearest (1 / 20)

def snrTieEpsDb : ℚ := 3

/-- A confidence. One out of range is brought into it. -/
abbrev Score := {score : ℚ // binary64.nearest score = score ∧ 0 ≤ score ∧ score ≤ 1}

namespace Score

theorem nearest_one : binary64.nearest 1 = 1 := by decide +kernel

def zero : Score := ⟨0, binary64.nearest_zero, le_rfl, zero_le_one⟩

def one : Score := ⟨1, nearest_one, zero_le_one, le_rfl⟩

theorem nearest_of_rounded {score : ℚ} (exact : (PyFloat.finite score).rounded = .finite score) : binary64.nearest score = score := by
  rw [PyFloat.rounded, PyFloat.ofRat] at exact
  split at exact
  · cases exact
  · exact PyFloat.finite.inj exact

theorem nearest_clamped {score : ℚ} (exact : binary64.nearest score = score) : binary64.nearest (max 0 (min 1 score)) = max 0 (min 1 score) := by
  rcases max_choice 0 (min 1 score) with eq | eq
  · rw [eq, binary64.nearest_zero]
  · rw [eq]
    rcases min_choice 1 score with eq | eq
    · rw [eq, nearest_one]
    · rw [eq, exact]

-- A nan is in the way of no comparison, so it is clamped to the top.
def clamp : Double → Score
  | ⟨.finite score, exact⟩ =>
      ⟨max 0 (min 1 score), nearest_clamped (nearest_of_rounded exact), le_max_left _ _, max_le zero_le_one (min_le_left _ _)⟩
  | ⟨.infinity true, _⟩ => zero
  | ⟨.infinity false, _⟩ | ⟨.nan, _⟩ => one

theorem rounded (score : Score) : (PyFloat.finite score.val).rounded = .finite score.val := by
  obtain ⟨score, exact, nonneg, small⟩ := score
  have below : |binary64.nearest score| < 2 ^ 1024 := by
    rw [exact, abs_of_nonneg nonneg]
    exact small.trans_lt (one_lt_pow₀ (by norm_num) (by norm_num))
  exact (PyFloat.ofRat_of_lt below).trans (congrArg PyFloat.finite exact)

def float (score : Score) : Double := ⟨.finite score.val, score.rounded⟩

end Score

/-- One peer's claim on a wake event. -/
structure WakeReport where
  peerId : String
  score : Score
  snrDb : Option Double
  rmsDbfs : Option Double
  primary : Bool
  canServe : Bool
deriving DecidableEq

def negInf : Double := ⟨.infinity true, rfl⟩

def WakeReport.confidence (report : WakeReport) : Double := report.score.float

def WakeReport.snrOrNegInf (report : WakeReport) : Double := report.snrDb.getD negInf

def WakeReport.rmsOrNegInf (report : WakeReport) : Double := report.rmsDbfs.getD negInf

section rank

def top (value : WakeReport → Double) (pool : List WakeReport) : Except PyError PyFloat := PyFloat.maxOf (pool.map fun report => (value report).val)

/-- The reports no further than some distance below the top. -/
def within (value : WakeReport → Double) (eps : ℚ) (pool : List WakeReport) : Except PyError (List WakeReport) := do
  let top ← top value pool
  return pool.filter fun report => (top.minus eps).le (value report).val

def highest (value : WakeReport → Double) (pool : List WakeReport) : Except PyError (List WakeReport) := do
  let top ← top value pool
  return pool.filter fun report => (value report).val.eq top

def servable (reports : List WakeReport) : List WakeReport :=
  if reports.any (·.canServe) then reports.filter (·.canServe) else reports

/-- A tier with a single survivor returns it; any other falls through to the next. -/
def tier (pool : List WakeReport) (next : List WakeReport → Except PyError String) : Except PyError String :=
  match pool with
  | [only] => .ok only.peerId
  | pool => next pool

/-- The single primary wins, and several leave the others out. -/
def preferPrimary (pool : List WakeReport) (next : List WakeReport → Except PyError String) : Except PyError String :=
  if pool.any (·.primary) then tier (pool.filter (·.primary)) next else next pool

def leastPeerId (pool : List WakeReport) : Except PyError String :=
  match pool.argmin (·.peerId) with
  | none => .error .value
  | some report => .ok report.peerId

-- The tiers of the signals, and the last one.
def rankSignals (pool : List WakeReport) : Except PyError String := do
  let pool ← within WakeReport.snrOrNegInf snrTieEpsDb pool
  tier pool fun pool => do
    let pool ← highest WakeReport.rmsOrNegInf pool
    tier pool leastPeerId

/-- The winner of an arbitration. -/
def rank (reports : List WakeReport) : Except PyError String :=
  if reports = [] then .error .value
  else do
    let pool ← within WakeReport.confidence confidenceTieEps (servable reports)
    tier pool fun pool => preferPrimary pool rankSignals

end rank

end Jts.Peering
