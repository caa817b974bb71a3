import Mathlib.Logic.Function.Iterate
import Mathlib.Tactic.Common

set_option autoImplicit false

namespace Jts.Shared.Progress

variable {State : Type} {step : State → State} {Phase Goal : State → Prop} {state : State}

/-- A state from which finitely many steps lead to the goal. -/
def Reaches (step : State → State) (Goal : State → Prop) (state : State) : Prop :=
  ∃ count, Goal (step^[count] state)

theorem Reaches.now (goal : Goal state) : Reaches step Goal state := ⟨0, goal⟩

theorem Reaches.later (reaches : Reaches step Goal (step state)) : Reaches step Goal state := by
  obtain ⟨count, goal⟩ := reaches
  exact ⟨count + 1, goal⟩

theorem Reaches.trans (first : Reaches step Phase state) (second : ∀ state, Phase state → Reaches step Goal state) :
    Reaches step Goal state := by
  obtain ⟨count, phase⟩ := first
  obtain ⟨more, goal⟩ := second _ phase
  refine ⟨more + count, ?_⟩
  rwa [Function.iterate_add_apply]

variable (Phase) in
-- A phase that no run stays in for ever, since a measure falls at each of its steps.
theorem Reaches.of_falling (measure : State → ℕ)
    (falls : ∀ state, Phase state → Reaches step Goal state ∨ Phase (step state) ∧ measure (step state) < measure state)
    (phase : Phase state) : Reaches step Goal state := by
  induction size : measure state using Nat.strongRecOn generalizing state with
  | ind size ih =>
    rcases falls state phase with reaches | ⟨stays, less⟩
    · exact reaches
    · exact .later (ih _ (size ▸ less) stays rfl)

theorem Reaches.lasts (stays : ∀ state, Goal state → Goal (step state)) (reaches : Reaches step Goal state) :
    ∃ count, ∀ later, count ≤ later → Goal (step^[later] state) := by
  obtain ⟨count, goal⟩ := reaches
  refine ⟨count, fun later since => ?_⟩
  obtain ⟨more, rfl⟩ := Nat.exists_eq_add_of_le' since
  rw [Function.iterate_add_apply]
  exact Function.Iterate.rec Goal goal stays more

end Jts.Shared.Progress
