import Mathlib.Logic.Relation
import Mathlib.Tactic.Common

set_option autoImplicit false

namespace Jts.Shared.Transition

structure System (State Action : Type) where
  Initial : State → Prop
  Step : State → Action → State → Prop

variable {State Action : Type}

inductive Run (system : System State Action) : State → List Action → State → Prop
  | nil (state : State) : Run system state [] state
  | cons {first middle last : State} {action : Action} {actions : List Action}
      (head : system.Step first action middle) (tail : Run system middle actions last) :
      Run system first (action :: actions) last

inductive Reachable (system : System State Action) : State → Prop
  | initial {state : State} (start : system.Initial state) : Reachable system state
  | step {state next : State} {action : Action} (before : Reachable system state)
      (move : system.Step state action next) : Reachable system next

namespace Run

variable {system : System State Action}

theorem append {first middle last : State} {left right : List Action}
    (before : Run system first left middle) (after : Run system middle right last) :
    Run system first (left ++ right) last := by
  induction before with
  | nil => exact after
  | cons head _ ih => exact .cons head (ih after)

theorem single {first last : State} {action : Action} (move : system.Step first action last) :
    Run system first [action] last :=
  .cons move (.nil last)

theorem preserves {Invariant : State → Prop}
    (preserve : ∀ state action next, Invariant state → system.Step state action next → Invariant next)
    {first last : State} {actions : List Action} (run : Run system first actions last)
    (start : Invariant first) : Invariant last := by
  induction run with
  | nil => exact start
  | cons head _ ih => exact ih (preserve _ _ _ start head)

-- The preorder relates the two ends of a run as soon as it relates the two ends of every step.
theorem relates (Related : State → State → Prop) (Invariant : State → Prop)
    (refl : ∀ state, Related state state)
    (trans : ∀ first middle last, Related first middle → Related middle last → Related first last)
    (preserve : ∀ state action next, Invariant state → system.Step state action next → Invariant next)
    (relate : ∀ state action next, Invariant state → system.Step state action next → Related state next)
    {first last : State} {actions : List Action} (run : Run system first actions last)
    (start : Invariant first) : Related first last := by
  induction run with
  | nil state => exact refl state
  | cons head _ ih => exact trans _ _ _ (relate _ _ _ start head) (ih (preserve _ _ _ start head))

theorem reachable {first last : State} {actions : List Action} (run : Run system first actions last)
    (start : Reachable system first) : Reachable system last :=
  run.preserves (fun _ _ _ before move => .step before move) start

end Run

namespace Reachable

variable {system : System State Action}

theorem invariant {Invariant : State → Prop}
    (start : ∀ state, system.Initial state → Invariant state)
    (preserve : ∀ state action next, Invariant state → system.Step state action next → Invariant next)
    {state : State} (reached : Reachable system state) : Invariant state := by
  induction reached with
  | initial first => exact start _ first
  | step _ move ih => exact preserve _ _ _ ih move

end Reachable

/-- The runs of the system all of whose steps meet a condition. -/
def System.restrict (system : System State Action) (Meets : State → Action → Prop) : System State Action where
  Initial := system.Initial
  Step := fun state action next => Meets state action ∧ system.Step state action next

theorem Reachable.of_restrict {system : System State Action} {Meets : State → Action → Prop} {state : State}
    (reached : Reachable (system.restrict Meets) state) : Reachable system state := by
  induction reached with
  | initial start => exact .initial start
  | step _ move ih => exact .step ih move.2

-- A weaker condition leaves at least these runs.
theorem Reachable.weaken {system : System State Action} {Meets Weaker : State → Action → Prop}
    {state : State} (reached : Reachable (system.restrict Meets) state)
    (weaker : ∀ state action, Meets state action → Weaker state action) :
    Reachable (system.restrict Weaker) state := by
  induction reached with
  | initial start => exact .initial start
  | step _ move ih => exact .step ih ⟨weaker _ _ move.1, move.2⟩

-- A functional step that may refuse, as an executable reading of a transition system.
def ofFn (Initial : State → Prop) (step : State → Action → Option State) : System State Action where
  Initial := Initial
  Step := fun state action next => step state action = some next

def execute (step : State → Action → Option State) : State → List Action → Option State
  | state, [] => some state
  | state, action :: actions => (step state action).bind fun next => execute step next actions

theorem run_of_execute {Initial : State → Prop} {step : State → Action → Option State}
    {first last : State} {actions : List Action} (runs : execute step first actions = some last) :
    Run (ofFn Initial step) first actions last := by
  induction actions generalizing first with
  | nil =>
    simp only [execute, Option.some.injEq] at runs
    exact runs ▸ .nil first
  | cons action actions ih =>
    simp only [execute, Option.bind_eq_some_iff] at runs
    obtain ⟨middle, head, tail⟩ := runs
    exact .cons head (ih tail)

theorem reachable_of_execute {Initial : State → Prop} {step : State → Action → Option State} {first last : State}
    {actions : List Action} (start : Initial first) (runs : execute step first actions = some last) :
    Reachable (ofFn Initial step) last :=
  (run_of_execute runs).reachable (.initial start)

-- A run told by what it shows at its end.
theorem reachable_observed {Initial : State → Prop} {step : State → Action → Option State} {first : State}
    {actions : List Action} {Seen : Type} (observe : State → Seen) {seen : Seen} (start : Initial first)
    (runs : (execute step first actions).map observe = some seen) :
    ∃ last, Reachable (ofFn Initial step) last ∧ observe last = seen := by
  obtain ⟨last, runs, shown⟩ := Option.map_eq_some_iff.mp runs
  exact ⟨last, reachable_of_execute start runs, shown⟩

def guarded (Meets : State → Action → Prop) [∀ state action, Decidable (Meets state action)]
    (step : State → Action → Option State) (state : State) (action : Action) : Option State :=
  if Meets state action then step state action else none

theorem restricted_of_execute {Initial : State → Prop} {step : State → Action → Option State}
    {Meets : State → Action → Prop} [∀ state action, Decidable (Meets state action)] {first last : State}
    {actions : List Action} (start : Initial first) (runs : execute (guarded Meets step) first actions = some last) :
    Reachable ((ofFn Initial step).restrict Meets) last := by
  have reached : Reachable (ofFn Initial (guarded Meets step)) last := reachable_of_execute start runs
  clear runs
  induction reached with
  | initial start => exact .initial start
  | step _ move ih =>
    simp only [ofFn, guarded, Option.ite_none_right_eq_some] at move
    exact .step ih move

theorem restricted_observed {Initial : State → Prop} {step : State → Action → Option State}
    {Meets : State → Action → Prop} [∀ state action, Decidable (Meets state action)] {first : State} {actions : List Action}
    {Seen : Type} (observe : State → Seen) {seen : Seen} (start : Initial first)
    (runs : (execute (guarded Meets step) first actions).map observe = some seen) :
    ∃ last, Reachable ((ofFn Initial step).restrict Meets) last ∧ observe last = seen := by
  obtain ⟨last, runs, shown⟩ := Option.map_eq_some_iff.mp runs
  exact ⟨last, restricted_of_execute start runs, shown⟩

-- A step that always answers, one state a pair of state and action.
def ofAct (Initial : State → Prop) (act : State → Action → State) : System State Action where
  Initial := Initial
  Step := fun state action next => next = act state action

def Along (Meets : State → Action → Prop) (act : State → Action → State) : State → List Action → Prop
  | _, [] => True
  | state, action :: actions => Meets state action ∧ Along Meets act (act state action) actions

instance {Meets : State → Action → Prop} [∀ state action, Decidable (Meets state action)]
    {act : State → Action → State} : ∀ state actions, Decidable (Along Meets act state actions)
  | _, [] => .isTrue trivial
  | state, action :: actions =>
    have : Decidable (Along Meets act (act state action) actions) := instDecidableAlong _ actions
    inferInstanceAs (Decidable (_ ∧ _))

theorem Along.append {Meets : State → Action → Prop} {act : State → Action → State} {state : State} {before after : List Action}
    (along : Along Meets act state (before ++ after)) : Along Meets act (before.foldl act state) after := by
  induction before generalizing state with
  | nil => exact along
  | cons action before ih => exact ih along.2

theorem Along.concat {Meets : State → Action → Prop} {act : State → Action → State} {state : State} {before : List Action}
    {last : Action} (along : Along Meets act state before) (meets : Meets (before.foldl act state) last) :
    Along Meets act state (before ++ [last]) := by
  induction before generalizing state with
  | nil => exact ⟨meets, trivial⟩
  | cons action before ih => exact ⟨along.1, ih along.2 meets⟩

theorem Along.congr {Left Right : State → Action → Prop} {act : State → Action → State}
    (each : ∀ state action, Left state action ↔ Right state action) (state : State) (actions : List Action) :
    Along Left act state actions ↔ Along Right act state actions := by
  induction actions generalizing state with
  | nil => exact Iff.rfl
  | cons action actions ih => exact and_congr (each state action) (ih _)

theorem Along.of_forall {Meets : State → Action → Prop} {act : State → Action → State}
    (each : ∀ state action, Meets state action) (state : State) (actions : List Action) : Along Meets act state actions := by
  induction actions generalizing state with
  | nil => trivial
  | cons action actions ih => exact ⟨each state action, ih _⟩

theorem reachable_restrict_foldl {Initial : State → Prop} {act : State → Action → State}
    {Meets : State → Action → Prop} {first : State} {actions : List Action} (start : Initial first)
    (along : Along Meets act first actions) :
    Reachable ((ofAct Initial act).restrict Meets) (actions.foldl act first) := by
  have ahead : ∀ {state : State} {actions : List Action}, Reachable ((ofAct Initial act).restrict Meets) state →
      Along Meets act state actions → Reachable ((ofAct Initial act).restrict Meets) (actions.foldl act state) := by
    intro state actions
    induction actions generalizing state with
    | nil => exact fun reached _ => reached
    | cons action rest ih => exact fun reached along => ih (.step reached ⟨along.1, rfl⟩) along.2
  exact ahead (.initial start) along

theorem reachable_foldl {Initial : State → Prop} {act : State → Action → State} {first : State}
    (start : Initial first) (actions : List Action) : Reachable (ofAct Initial act) (actions.foldl act first) :=
  (reachable_restrict_foldl start (Along.of_forall (fun _ _ => trivial) first actions)).of_restrict

end Jts.Shared.Transition
