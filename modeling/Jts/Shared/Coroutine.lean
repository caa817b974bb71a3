import Jts.Shared.Transition
import Mathlib.Logic.Function.Basic

set_option autoImplicit false

namespace Jts.Shared

/-- A coroutine over a shared state: it runs in one piece up to its next await, and goes on with the answer it gets there. -/
inductive Coroutine (Point Answer State : Type) (α : Type)
  | done (value : α)
  | act (effect : State → State) (next : State → Coroutine Point Answer State α)
  | await (point : Point) (next : Answer → Coroutine Point Answer State α)

namespace Coroutine

variable {Point Answer State α β : Type}

def bind : Coroutine Point Answer State α → (α → Coroutine Point Answer State β) → Coroutine Point Answer State β
  | done value, next => next value
  | act effect rest, next => act effect fun state => (rest state).bind next
  | await point rest, next => await point fun answer => (rest answer).bind next

instance : Monad (Coroutine Point Answer State) where
  pure := done
  bind := bind

def get : Coroutine Point Answer State State := act id done

def modify (effect : State → State) : Coroutine Point Answer State Unit := act effect fun _ => done ()

def ask (point : Point) : Coroutine Point Answer State Answer := await point done

def wait (point : Point) : Coroutine Point Answer State Unit := await point fun _ => done ()

def when (condition : Bool) (program : Coroutine Point Answer State Unit) : Coroutine Point Answer State Unit :=
  if condition then program else done ()

/-- Up to the next await, or to the end. -/
def settle : Coroutine Point Answer State α → State → State × Coroutine Point Answer State α
  | act effect next, state => (next state).settle (effect state)
  | done value, state => (state, done value)
  | await point next, state => (state, await point next)

/-- What is agreed between the tasks that share a state: an invariant at every await, what each of them may change between
two awaits (no task: the outside), and when a task may go on with an answer. -/
structure Agreement (Point Answer State : Type) where
  invariant : State → Prop
  grants : Option ℕ → State → State → Prop
  resumes : ℕ → Point → Answer → State → Prop

variable (agreed : Agreement Point Answer State) (me : ℕ)

/-- Nothing that the others may do makes the assertion false. -/
def Stable (assertion : State → Prop) : Prop :=
  ∀ other before after, other ≠ some me → agreed.invariant before → agreed.invariant after →
    agreed.grants other before after → assertion before → assertion after

/-- The task may rest here: what it has changed since its last await is granted. -/
def Rests (start state : State) : Prop := agreed.grants (some me) start state ∧ agreed.invariant state

/-- The task keeps to the agreement from here on, and ends as stated. -/
def Safe : Coroutine Point Answer State α → (α → State → State → Prop) → State → State → Prop
  | done value, post, start, state => post value start state
  | act effect next, post, start, state => Safe (next state) post start (effect state)
  | await point next, post, start, state =>
      Rests agreed me start state ∧ ∃ assertion, Stable agreed me assertion ∧ assertion state ∧
        ∀ later answer, agreed.invariant later → assertion later → agreed.resumes me point answer later →
          Safe (next answer) post later later

variable {agreed : Agreement Point Answer State} {me : ℕ}

namespace Safe

variable {start state : State}

theorem mono {program : Coroutine Point Answer State α} {strong weak : α → State → State → Prop}
    (safe : Safe agreed me program strong start state)
    (weaker : ∀ value start state, strong value start state → weak value start state) :
    Safe agreed me program weak start state := by
  induction program generalizing start state with
  | done value => exact weaker value start state safe
  | act effect next ih => exact ih state safe
  | await point next ih =>
    obtain ⟨rests, assertion, stable, holds, onward⟩ := safe
    exact ⟨rests, assertion, stable, holds, fun later answer invariant still resumes =>
      ih answer (onward later answer invariant still resumes)⟩

theorem bind {program : Coroutine Point Answer State α} {next : α → Coroutine Point Answer State β}
    {post : β → State → State → Prop}
    (safe : Safe agreed me program (fun value => Safe agreed me (next value) post) start state) :
    Safe agreed me (program >>= next) post start state := by
  change Safe agreed me (program.bind next) post start state
  induction program generalizing start state with
  | done value => exact safe
  | act effect rest ih => exact ih state safe
  | await point rest ih =>
    obtain ⟨rests, assertion, stable, holds, onward⟩ := safe
    exact ⟨rests, assertion, stable, holds, fun later answer invariant still resumes =>
      ih answer (onward later answer invariant still resumes)⟩

theorem pure {value : α} {post : α → State → State → Prop} (here : post value start state) :
    Safe agreed me (Pure.pure value : Coroutine Point Answer State α) post start state := here

theorem when {condition : Bool} {program : Coroutine Point Answer State Unit} {post : Unit → State → State → Prop}
    (does : condition = true → Safe agreed me program post start state) (skips : condition = false → post () start state) :
    Safe agreed me (Coroutine.when condition program) post start state := by
  cases condition with
  | true => exact does rfl
  | false => exact skips rfl

/-- The rule of an await: what holds before it, and whatever the others do meanwhile, holds after it. -/
theorem ask {point : Point} {post : Answer → State → State → Prop} (rests : Rests agreed me start state)
    (assertion : State → Prop) (stable : Stable agreed me assertion) (holds : assertion state)
    (onward : ∀ later answer, agreed.invariant later → assertion later → agreed.resumes me point answer later →
      post answer later later) : Safe agreed me (Coroutine.ask point) post start state :=
  ⟨rests, assertion, stable, holds, onward⟩

theorem wait {point : Point} {post : Unit → State → State → Prop} (rests : Rests agreed me start state)
    (assertion : State → Prop) (stable : Stable agreed me assertion) (holds : assertion state)
    (onward : ∀ later answer, agreed.invariant later → assertion later → agreed.resumes me point answer later →
      post () later later) : Safe agreed me (Coroutine.wait point) post start state :=
  ⟨rests, assertion, stable, holds, onward⟩

end Safe

end Coroutine

open Coroutine

/-- Tasks that take turns on one state. -/
structure Pool (Point Answer State : Type) where
  shared : State
  tasks : ℕ → Option (Coroutine Point Answer State Unit)
  spawned : ℕ

namespace Pool

open Transition

inductive Action (Program Answer Event : Type)
  | spawn (program : Program)
  | resume (task : ℕ) (answer : Answer)
  | outside (event : Event)
deriving DecidableEq

variable {Program Point Answer State Event : Type}

/-- What the tasks run, when one of them can go on, and what else may happen. -/
structure Setting (Program Point Answer State Event : Type) where
  program : Program → ℕ → Coroutine Point Answer State Unit
  ready : ℕ → Point → Answer → State → Bool
  outside : Event → State → State

def rest (pool : Pool Point Answer State) (task : ℕ) (settled : State × Coroutine Point Answer State Unit) :
    Pool Point Answer State :=
  { pool with
    shared := settled.1
    tasks := Function.update pool.tasks task (match settled.2 with
      | .done _ => none
      | waiting => some waiting) }

def point (pool : Pool Point Answer State) (task : ℕ) : Option (Point × (Answer → Coroutine Point Answer State Unit)) :=
  match pool.tasks task with
  | some (.await point next) => some (point, next)
  | _ => none

def step (setting : Setting Program Point Answer State Event) (pool : Pool Point Answer State) :
    Action Program Answer Event → Option (Pool Point Answer State)
  | .spawn program =>
      some (rest { pool with spawned := pool.spawned + 1 } pool.spawned
        ((setting.program program pool.spawned).settle pool.shared))
  | .resume task answer =>
      match pool.point task with
      | none => none
      | some (point, next) =>
          if setting.ready task point answer pool.shared then some (pool.rest task ((next answer).settle pool.shared)) else none
  | .outside event => some { pool with shared := setting.outside event pool.shared }

def start (shared : State) : Pool Point Answer State := ⟨shared, fun _ => none, 0⟩

def system (setting : Setting Program Point Answer State Event) (Initial : State → Prop) :
    System (Pool Point Answer State) (Action Program Answer Event) :=
  ofFn (fun pool => ∃ shared, Initial shared ∧ pool = start shared) (step setting)

/-- The condition of a run whose awaits all end as stated. -/
def Meets (condition : ℕ → Point → Answer → State → Prop) (pool : Pool Point Answer State) :
    Action Program Answer Event → Prop
  | .resume task answer =>
      match pool.point task with
      | some (point, _) => condition task point answer pool.shared
      | none => True
  | _ => True

instance (condition : ℕ → Point → Answer → State → Prop) [∀ task point answer state, Decidable (condition task point answer state)]
    (pool : Pool Point Answer State) : (action : Action Program Answer Event) → Decidable (Meets condition pool action)
  | .resume task answer =>
      match same : pool.point task with
      | some (point, _) => decidable_of_iff (condition task point answer pool.shared) (by simp [Meets, same])
      | none => .isTrue (by simp [Meets, same])
  | .spawn _ => .isTrue trivial
  | .outside _ => .isTrue trivial

section Soundness

variable {agreed : Agreement Point Answer State}

def Waits (agreed : Agreement Point Answer State) (me : ℕ) (state : State) : Coroutine Point Answer State Unit → Prop
  | .await point next => ∃ assertion, Stable agreed me assertion ∧ assertion state ∧
      ∀ later answer, agreed.invariant later → assertion later → agreed.resumes me point answer later →
        Safe agreed me (next answer) (fun _ => Rests agreed me) later later
  | _ => True

theorem settle_safe {me : ℕ} {program : Coroutine Point Answer State Unit} {start state : State}
    (safe : Safe agreed me program (fun _ => Rests agreed me) start state) :
    Rests agreed me start (program.settle state).1 ∧ Waits agreed me (program.settle state).1 (program.settle state).2 := by
  induction program generalizing state with
  | done value => exact ⟨safe, trivial⟩
  | act effect next ih => exact ih state safe
  | await point next ih => exact safe

theorem Waits.kept {me : ℕ} {waiting : Coroutine Point Answer State Unit} {before after : State} {other : Option ℕ}
    (waits : Waits agreed me before waiting) (differs : other ≠ some me) (invariant : agreed.invariant before)
    (still : agreed.invariant after) (grants : agreed.grants other before after) : Waits agreed me after waiting := by
  cases waiting with
  | await point next =>
    obtain ⟨assertion, stable, holds, onward⟩ := waits
    exact ⟨assertion, stable, stable other before after differs invariant still grants holds, onward⟩
  | _ => trivial

/-- At every await the invariant holds, and every task goes on from what it relies on. -/
structure Sound (agreed : Agreement Point Answer State) (pool : Pool Point Answer State) : Prop where
  invariant : agreed.invariant pool.shared
  waits : ∀ task waiting, pool.tasks task = some waiting → Waits agreed task pool.shared waiting

theorem Sound.rest {pool : Pool Point Answer State} (sound : Sound agreed pool) {task : ℕ}
    {settled : State × Coroutine Point Answer State Unit} (rests : Rests agreed task pool.shared settled.1)
    (waits : Waits agreed task settled.1 settled.2) : Sound agreed (pool.rest task settled) := by
  refine ⟨rests.2, fun other waiting there => ?_⟩
  by_cases same : other = task
  · subst same
    obtain ⟨state, left⟩ := settled
    cases left with
    | done value => simp [Pool.rest] at there
    | act effect next =>
      obtain rfl : Coroutine.act effect next = waiting := by simpa [Pool.rest] using there
      exact waits
    | await point next =>
      obtain rfl : Coroutine.await point next = waiting := by simpa [Pool.rest] using there
      exact waits
  · simp only [Pool.rest, Function.update_of_ne same] at there
    exact (sound.waits other waiting there).kept (by simpa using Ne.symm same) sound.invariant rests.2 rests.1

variable {setting : Setting Program Point Answer State Event} {condition : ℕ → Point → Answer → State → Prop}

theorem Sound.step {pool next : Pool Point Answer State} {action : Action Program Answer Event} (sound : Sound agreed pool)
    (programs : ∀ program me state, agreed.invariant state →
      Safe agreed me (setting.program program me) (fun _ => Rests agreed me) state state)
    (outside : ∀ event state, agreed.invariant state →
      agreed.invariant (setting.outside event state) ∧ agreed.grants none state (setting.outside event state))
    (resumes : ∀ task point answer state, setting.ready task point answer state = true → condition task point answer state →
      agreed.resumes task point answer state)
    (meets : Meets condition pool action) (move : Pool.step setting pool action = some next) : Sound agreed next := by
  cases action with
  | spawn program =>
    obtain rfl := Option.some.inj move
    obtain ⟨rests, waits⟩ := settle_safe (programs program pool.spawned pool.shared sound.invariant)
    exact @Sound.rest _ _ _ _ { pool with spawned := pool.spawned + 1 } ⟨sound.invariant, sound.waits⟩ _ _ rests waits
  | resume task answer =>
    simp only [Pool.step] at move
    split at move
    · cases move
    · rename_i point onward there
      split at move
      · rename_i ready
        obtain rfl := Option.some.inj move
        have waiting : pool.tasks task = some (.await point onward) := by
          unfold Pool.point at there
          split at there
          · rename_i point' next' same
            obtain ⟨rfl, rfl⟩ := Prod.mk.inj (Option.some.inj there)
            exact same
          · cases there
        obtain ⟨assertion, -, holds, safe⟩ := sound.waits task _ waiting
        have resumed := resumes task point answer pool.shared ready (by simpa [Meets, there] using meets)
        obtain ⟨rests, waits⟩ := settle_safe (safe pool.shared answer sound.invariant holds resumed)
        exact sound.rest rests waits
      · cases move
  | outside event =>
    obtain rfl := Option.some.inj move
    obtain ⟨invariant, grants⟩ := outside event pool.shared sound.invariant
    exact ⟨invariant, fun task waiting there =>
      (sound.waits task waiting there).kept (by simp) sound.invariant invariant grants⟩

/-- Tasks that all keep to the agreement keep its invariant, in every order of their turns. -/
theorem invariant_of_reachable {Initial : State → Prop} (first : ∀ state, Initial state → agreed.invariant state)
    (programs : ∀ program me state, agreed.invariant state →
      Safe agreed me (setting.program program me) (fun _ => Rests agreed me) state state)
    (outside : ∀ event state, agreed.invariant state →
      agreed.invariant (setting.outside event state) ∧ agreed.grants none state (setting.outside event state))
    (resumes : ∀ task point answer state, setting.ready task point answer state = true → condition task point answer state →
      agreed.resumes task point answer state)
    {pool : Pool Point Answer State} (reached : Reachable ((system setting Initial).restrict (Meets condition)) pool) :
    agreed.invariant pool.shared := by
  have sound : Sound agreed pool := by
    refine reached.invariant ?_ ?_
    · rintro _ ⟨shared, initial, rfl⟩
      exact ⟨first shared initial, fun _ _ there => by cases there⟩
    · intro before action after sound move
      exact sound.step programs outside resumes move.1 move.2
  exact sound.invariant

/-- The same of every run, where the awaits may end in any way that the setting allows. -/
theorem invariant_of_every_run {Initial : State → Prop} (first : ∀ state, Initial state → agreed.invariant state)
    (programs : ∀ program me state, agreed.invariant state →
      Safe agreed me (setting.program program me) (fun _ => Rests agreed me) state state)
    (outside : ∀ event state, agreed.invariant state →
      agreed.invariant (setting.outside event state) ∧ agreed.grants none state (setting.outside event state))
    (resumes : ∀ task point answer state, setting.ready task point answer state = true →
      agreed.resumes task point answer state)
    {pool : Pool Point Answer State} (reached : Reachable (system setting Initial) pool) : agreed.invariant pool.shared := by
  have meets (pool : Pool Point Answer State) (action : Action Program Answer Event) :
      Meets (fun _ _ _ _ => True) pool action := by
    cases action with
    | resume task answer =>
      simp only [Meets]
      split <;> trivial
    | _ => trivial
  have free : Reachable ((system setting Initial).restrict (Meets fun _ _ _ _ => True)) pool := by
    induction reached with
    | initial start => exact .initial start
    | step _ move ih => exact .step ih ⟨meets _ _, move⟩
  exact invariant_of_reachable first programs outside (fun _ _ _ _ ready _ => resumes _ _ _ _ ready) free

section Crashes

variable {hydrate : State → State}

/-- The tasks may also all be lost, and what they shared is taken up again from what is left of it. -/
def crashStep (setting : Setting Program Point Answer State Event) (hydrate : State → State) (pool : Pool Point Answer State) :
    Option (Action Program Answer Event) → Option (Pool Point Answer State)
  | some action => step setting pool action
  | none => some ⟨hydrate pool.shared, fun _ => none, pool.spawned⟩

def crashing (setting : Setting Program Point Answer State Event) (hydrate : State → State) (Initial : State → Prop) :
    System (Pool Point Answer State) (Option (Action Program Answer Event)) :=
  ofFn (fun pool => ∃ shared, Initial shared ∧ pool = start shared) (crashStep setting hydrate)

def MeetsUnlessCrashed (condition : ℕ → Point → Answer → State → Prop) (pool : Pool Point Answer State) :
    Option (Action Program Answer Event) → Prop
  | some action => Meets condition pool action
  | none => True

instance [∀ task point answer state, Decidable (condition task point answer state)] (pool : Pool Point Answer State) :
    (action : Option (Action Program Answer Event)) → Decidable (MeetsUnlessCrashed condition pool action)
  | some action => inferInstanceAs (Decidable (Meets condition pool action))
  | none => .isTrue trivial

/-- A crash loses the tasks, so all that the invariant needs of it is that it survives in what is taken up again. -/
theorem invariant_of_crashing {Initial : State → Prop} (first : ∀ state, Initial state → agreed.invariant state)
    (programs : ∀ program me state, agreed.invariant state →
      Safe agreed me (setting.program program me) (fun _ => Rests agreed me) state state)
    (outside : ∀ event state, agreed.invariant state →
      agreed.invariant (setting.outside event state) ∧ agreed.grants none state (setting.outside event state))
    (resumes : ∀ task point answer state, setting.ready task point answer state = true → condition task point answer state →
      agreed.resumes task point answer state)
    (hydrates : ∀ state, agreed.invariant state → agreed.invariant (hydrate state)) {pool : Pool Point Answer State}
    (reached : Reachable ((crashing setting hydrate Initial).restrict (MeetsUnlessCrashed condition)) pool) :
    agreed.invariant pool.shared := by
  have sound : Sound agreed pool := by
    refine reached.invariant ?_ ?_
    · rintro _ ⟨shared, initial, rfl⟩
      exact ⟨first shared initial, fun _ _ there => by cases there⟩
    · intro before action after sound move
      cases action with
      | some action => exact sound.step programs outside resumes move.1 move.2
      | none =>
          obtain rfl := Option.some.inj move.2
          exact ⟨hydrates _ sound.invariant, fun _ _ there => by cases there⟩
  exact sound.invariant

end Crashes

end Soundness

end Pool

end Jts.Shared
