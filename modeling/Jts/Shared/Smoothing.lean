import Mathlib.Algebra.Order.Field.Basic
import Mathlib.Tactic.Ring

set_option autoImplicit false

namespace Jts.Shared.Smoothing

variable {K : Type} [Field K]

/-- One step of an exponentially weighted mean towards a sample. -/
def smooth (alpha mean sample : K) : K := mean + alpha * (sample - mean)

@[simp] theorem smooth_self (alpha sample : K) : smooth alpha sample sample = sample := by
  simp [smooth]

-- What is left of the distance to a sample that repeats.
theorem smooth_towards (alpha sample gap : K) (steps : ℕ) :
    smooth alpha (sample - (1 - alpha) ^ steps * gap) sample = sample - (1 - alpha) ^ (steps + 1) * gap := by
  rw [smooth, pow_succ]
  ring

end Jts.Shared.Smoothing
