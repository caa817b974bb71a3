import Mathlib.Logic.Function.Basic
import Mathlib.Tactic.Common

set_option autoImplicit false

namespace Jts.Shared.Flock

variable {Id Process : Type} [DecidableEq Id]

/-- The descriptor's owner is gone or has asked for it: the lock is free again if it was held through it. -/
def release (holder : Option Id) (id : Id) : Option Id := if holder = some id then none else holder

-- The kernel and the processes agree on who holds an exclusive lock.
def Owned (holds : Process → Bool) (processes : Id → Process) (holder : Option Id) : Prop :=
  ∀ id, holds (processes id) = true ↔ holder = some id

namespace Owned

variable {holds : Process → Bool} {processes : Id → Process} {holder : Option Id}

omit [DecidableEq Id] in
theorem unique (owned : Owned holds processes holder) {a b : Id} (left : holds (processes a) = true)
    (right : holds (processes b) = true) : a = b :=
  Option.some.inj (((owned a).mp left).symm.trans ((owned b).mp right))

theorem keep (owned : Owned holds processes holder) {id : Id} {next : Process}
    (same : holds next = holds (processes id)) : Owned holds (Function.update processes id next) holder := by
  intro other
  by_cases self : other = id
  next =>
    subst self
    rw [Function.update_self, same]
    exact owned other
  next =>
    rw [Function.update_of_ne self]
    exact owned other

theorem acquire (owned : Owned holds processes none) {id : Id} {next : Process} (held : holds next = true) :
    Owned holds (Function.update processes id next) (some id) := by
  intro other
  by_cases self : other = id
  next => simp [self, held]
  next =>
    rw [Function.update_of_ne self, owned other]
    simp [Ne.symm self]

theorem drop (owned : Owned holds processes holder) {id : Id} {next : Process} (freed : holds next = false) :
    Owned holds (Function.update processes id next) (release holder id) := by
  intro other
  unfold release
  by_cases self : other = id
  next =>
    subst self
    by_cases mine : holder = some other <;> simp [freed, mine]
  next =>
    rw [Function.update_of_ne self, owned other]
    by_cases mine : holder = some id
    next => simp [mine, Ne.symm self]
    next => simp [mine]

end Owned

end Jts.Shared.Flock
