import Mathlib.Tactic.Common

set_option autoImplicit false

namespace Jts.Shared.Operation

/-- A state, and the answers that the outside will give. -/
structure World (State Answer : Type) where
  state : State
  answers : List Answer

abbrev Op (State Answer : Type) := StateM (World State Answer)

variable {State Answer α β : Type}

-- Past its last answer the outside gives the default one.
def ask [Inhabited Answer] : Op State Answer Answer := fun world =>
  match world.answers with
  | [] => (default, world)
  | answer :: answers => (answer, { world with answers := answers })

def read : Op State Answer State := fun world => (world.state, world)

def change (next : State → State) : Op State Answer Unit := fun world =>
  ((), { world with state := next world.state })

def run (operation : Op State Answer α) (state : State) (answers : List Answer) : State :=
  (operation ⟨state, answers⟩).2.state

/-- Whatever the outside answers, within what it may, the operation ends with a result and a state as stated. -/
def Ends (May : Answer → Prop) (operation : Op State Answer α) (state : State) (post : α → State → Prop) : Prop :=
  ∀ answers, (∀ answer ∈ answers, May answer) →
    post (operation ⟨state, answers⟩).1 (run operation state answers) ∧
      ∀ answer ∈ (operation ⟨state, answers⟩).2.answers, May answer

namespace Ends

variable {May : Answer → Prop}

theorem bind {first : Op State Answer α} {next : α → Op State Answer β} {state : State} {post : β → State → Prop}
    (ends : Ends May first state fun value middle => Ends May (next value) middle post) :
    Ends May (first >>= next) state post := by
  intro answers may
  obtain ⟨rest, left⟩ := ends answers may
  exact rest _ left

theorem pure {value : α} {state : State} {post : α → State → Prop} (here : post value state) :
    Ends May (Pure.pure value : Op State Answer α) state post :=
  fun _ may => ⟨here, may⟩

theorem read {state : State} {post : State → State → Prop} (here : post state state) :
    Ends May (Operation.read : Op State Answer State) state post :=
  fun _ may => ⟨here, may⟩

theorem change {next : State → State} {state : State} {post : Unit → State → Prop} (after : post () (next state)) :
    Ends May (Operation.change next : Op State Answer Unit) state post :=
  fun _ may => ⟨after, may⟩

theorem ask [Inhabited Answer] (silent : May default) {state : State} {post : Answer → State → Prop}
    (all : ∀ answer, May answer → post answer state) : Ends May (Operation.ask : Op State Answer Answer) state post := by
  intro answers may
  cases answers with
  | nil => exact ⟨all default silent, may⟩
  | cons answer answers =>
      exact ⟨all answer (may answer List.mem_cons_self), fun other mem => may other (List.mem_cons_of_mem _ mem)⟩

theorem mono {operation : Op State Answer α} {state : State} {strong weak : α → State → Prop}
    (ends : Ends May operation state strong) (weaker : ∀ value after, strong value after → weak value after) :
    Ends May operation state weak :=
  fun answers may => ⟨weaker _ _ (ends answers may).1, (ends answers may).2⟩

theorem of_run {operation : Op State Answer α} {state : State} {post : α → State → Prop}
    (ends : Ends May operation state post) {answers : List Answer} (may : ∀ answer ∈ answers, May answer) :
    post (operation ⟨state, answers⟩).1 (run operation state answers) :=
  (ends answers may).1

end Ends

section Attempts

variable {Error : Type}

/-- An operation that an error may leave at any call to the outside. -/
abbrev Attempt (State Answer Error : Type) := ExceptT Error (Op State Answer)

namespace Attempt

def read : Attempt State Answer Error State := ExceptT.lift Operation.read

def change (next : State → State) : Attempt State Answer Error Unit := ExceptT.lift (Operation.change next)

def ask [Inhabited Answer] : Attempt State Answer Error Answer := ExceptT.lift Operation.ask

end Attempt

/-- The body, and what undoes it when an error leaves it. An error of the undoing takes its place. -/
def undoing (body : Attempt State Answer Error α) (undo : Attempt State Answer Error Unit) :
    Attempt State Answer Error α :=
  ExceptT.mk do
    match ← body.run with
    | .ok value => return .ok value
    | .error error =>
        match ← undo.run with
        | .ok _ => return .error error
        | .error later => return .error later

/-- The body, and what is done after it however it ends. An error of the latter takes the place of its end. -/
def afterwards (body : Attempt State Answer Error α) (last : Attempt State Answer Error Unit) : Attempt State Answer Error α :=
  ExceptT.mk do
    let result ← body.run
    match ← last.run with
    | .ok _ => return result
    | .error later => return .error later

namespace Ends

variable {May : Answer → Prop} {state : State}

/-- What follows goes on from a value, and an error ends it. -/
theorem andThen {first : Attempt State Answer Error α} {next : α → Attempt State Answer Error β}
    {middle : Except Error α → State → Prop} {post : Except Error β → State → Prop}
    (ends : Ends May first.run state middle)
    (onward : ∀ value at_, middle (.ok value) at_ → Ends May (next value).run at_ post)
    (out : ∀ error at_, middle (.error error) at_ → post (.error error) at_) :
    Ends May (first >>= next).run state post := by
  refine @bind State Answer _ _ May first.run (ExceptT.bindCont next) state post (ends.mono fun result at_ here => ?_)
  cases result with
  | ok value => exact onward value at_ here
  | error error => exact .pure (out error at_ here)

theorem readThen {next : State → Attempt State Answer Error β} {post : Except Error β → State → Prop}
    (here : Ends May (next state).run state post) : Ends May (Attempt.read >>= next).run state post :=
  here

theorem changeThen {change : State → State} {next : Unit → Attempt State Answer Error β}
    {post : Except Error β → State → Prop} (here : Ends May (next ()).run (change state) post) :
    Ends May (Attempt.change change >>= next).run state post :=
  here

theorem changes {change : State → State} {post : Except Error Unit → State → Prop}
    (here : post (.ok ()) (change state)) :
    Ends May (Attempt.change change : Attempt State Answer Error Unit).run state post :=
  fun _ may => ⟨here, may⟩

theorem askThen [Inhabited Answer] (silent : May default) {next : Answer → Attempt State Answer Error β}
    {post : Except Error β → State → Prop} (all : ∀ answer, May answer → Ends May (next answer).run state post) :
    Ends May (Attempt.ask >>= next).run state post := by
  have asked : Ends May (Attempt.ask : Attempt State Answer Error Answer).run state fun result after =>
      ∃ answer, May answer ∧ result = .ok answer ∧ after = state :=
    bind (ask silent fun answer may => .pure ⟨answer, may, rfl, rfl⟩)
  refine asked.andThen ?_ ?_
  · rintro value _ ⟨answer, may, same, rfl⟩
    obtain rfl : value = answer := Except.ok.inj same
    exact all value may
  · rintro _ _ ⟨_, _, impossible, _⟩
    cases impossible

theorem raise {error : Error} {post : Except Error α → State → Prop} (here : post (.error error) state) :
    Ends May (throw error : Attempt State Answer Error α).run state post :=
  .pure here

theorem give {value : α} {post : Except Error α → State → Prop} (here : post (.ok value) state) :
    Ends May (Pure.pure value : Attempt State Answer Error α).run state post :=
  .pure here

theorem undoing {body : Attempt State Answer Error α} {undo : Attempt State Answer Error Unit}
    {middle post : Except Error α → State → Prop} (ends : Ends May body.run state middle)
    (good : ∀ value at_, middle (.ok value) at_ → post (.ok value) at_)
    (bad : ∀ error at_, middle (.error error) at_ → Ends May undo.run at_ fun _ after => ∀ error, post (.error error) after) :
    Ends May (Operation.undoing body undo).run state post := by
  refine .bind (ends.mono fun result at_ here => ?_)
  cases result with
  | ok value => exact .pure (good value at_ here)
  | error error =>
      refine .bind ((bad error at_ here).mono fun undone last final => ?_)
      cases undone with
      | ok _ => exact .pure (final error)
      | error later => exact .pure (final later)

theorem afterwards {body : Attempt State Answer Error α} {last : Attempt State Answer Error Unit}
    {post : Except Error α → State → Prop}
    (ends : Ends May body.run state fun result middle =>
      Ends May last.run middle fun left after => (left = .ok () → post result after) ∧ ∀ error, left = .error error → post (.error error) after) :
    Ends May (Operation.afterwards body last).run state post := by
  refine .bind (ends.mono fun result middle done => .bind (done.mono fun left after final => ?_))
  cases left with
  | ok _ => exact .pure (final.1 rfl)
  | error error => exact .pure (final.2 error rfl)

/-- An operation that no error leaves. -/
theorem lift {operation : Op State Answer α} {next : α → Attempt State Answer Error β}
    {post : Except Error β → State → Prop}
    (ends : Ends May operation state fun value middle => Ends May (next value).run middle post) :
    Ends May (ExceptT.lift operation >>= next).run state post := by
  have lifted : Ends May (ExceptT.lift operation : Attempt State Answer Error α).run state fun result at_ =>
      ∃ value, result = .ok value ∧ Ends May (next value).run at_ post :=
    .bind (ends.mono fun value _ after => .pure ⟨value, rfl, after⟩)
  refine lifted.andThen ?_ ?_
  · rintro value at_ ⟨same, eq, after⟩
    rwa [Except.ok.inj eq]
  · rintro error at_ ⟨_, impossible, _⟩
    cases impossible

end Ends

/-- What holds of the state holds of it still, however the operation ends. -/
def Keeps (Inv : State → Prop) (operation : Attempt State Answer Error α) : Prop :=
  ∀ state, Inv state → Ends (fun _ => True) operation.run state fun _ after => Inv after

namespace Keeps

variable {Inv : State → Prop}

theorem bind {first : Attempt State Answer Error α} {next : α → Attempt State Answer Error β} (keeps : Keeps Inv first)
    (onward : ∀ value, Keeps Inv (next value)) : Keeps Inv (first >>= next) := fun state inv =>
  (keeps state inv).andThen (fun value at_ here => onward value at_ here) fun _ _ here => here

theorem give {value : α} : Keeps Inv (Pure.pure value : Attempt State Answer Error α) := fun _ inv => .give inv

theorem raise {error : Error} : Keeps Inv (throw error : Attempt State Answer Error α) := fun _ inv => .raise inv

theorem ite {condition : Prop} [Decidable condition] {first other : Attempt State Answer Error α} (keeps : Keeps Inv first)
    (keeps_other : Keeps Inv other) : Keeps Inv (if condition then first else other) := by
  split
  · exact keeps
  · exact keeps_other

theorem read : Keeps Inv (Attempt.read : Attempt State Answer Error State) := fun _ inv _ _ => ⟨inv, fun _ _ => trivial⟩

theorem change {next : State → State} (kept : ∀ state, Inv state → Inv (next state)) :
    Keeps Inv (Attempt.change next : Attempt State Answer Error Unit) := fun state inv => .changes (kept state inv)

theorem run {operation : Attempt State Answer Error α} (keeps : Keeps Inv operation) {state : State} (inv : Inv state)
    (answers : List Answer) : Inv (Operation.run operation.run state answers) :=
  (keeps state inv).of_run fun _ _ => trivial

end Keeps

/-- What holds however the operation ends, and what holds besides when it comes to its end. -/
def Yields (Inv : State → Prop) (operation : Attempt State Answer Error α) (state : State) (post : α → State → Prop) : Prop :=
  Ends (fun _ => True) operation.run state fun result after => Inv after ∧ ∀ value, result = .ok value → post value after

namespace Yields

variable {Inv : State → Prop} {state : State}

theorem bind {first : Attempt State Answer Error α} {next : α → Attempt State Answer Error β} {middle : α → State → Prop}
    {post : β → State → Prop} (yields : Yields Inv first state middle)
    (onward : ∀ value at_, Inv at_ → middle value at_ → Yields Inv (next value) at_ post) : Yields Inv (first >>= next) state post := by
  refine yields.andThen (fun value at_ here => onward value at_ here.1 (here.2 value rfl)) fun _ _ here => ⟨here.1, fun _ impossible => ?_⟩
  cases impossible

theorem give {value : α} {post : α → State → Prop} (inv : Inv state) (here : post value state) :
    Yields Inv (Pure.pure value : Attempt State Answer Error α) state post := by
  refine Ends.give ⟨inv, fun other same => ?_⟩
  cases same
  exact here

theorem raise {error : Error} {post : α → State → Prop} (inv : Inv state) :
    Yields Inv (throw error : Attempt State Answer Error α) state post := by
  refine Ends.raise ⟨inv, fun _ impossible => ?_⟩
  cases impossible

theorem readThen {next : State → Attempt State Answer Error β} {post : β → State → Prop} (here : Yields Inv (next state) state post) :
    Yields Inv (Attempt.read >>= next) state post :=
  here

theorem changeThen {change : State → State} {next : Unit → Attempt State Answer Error β} {post : β → State → Prop}
    (here : Yields Inv (next ()) (change state) post) : Yields Inv (Attempt.change change >>= next) state post :=
  here

theorem ite {condition : Prop} [Decidable condition] {first other : Attempt State Answer Error α} {post : α → State → Prop}
    (yields : condition → Yields Inv first state post) (yields_other : ¬condition → Yields Inv other state post) :
    Yields Inv (if condition then first else other) state post := by
  split
  next holds => exact yields holds
  next fails => exact yields_other fails

theorem mono {operation : Attempt State Answer Error α} {strong weak : α → State → Prop} (yields : Yields Inv operation state strong)
    (weaker : ∀ value after, Inv after → strong value after → weak value after) : Yields Inv operation state weak :=
  Ends.mono yields fun _ _ here => ⟨here.1, fun value same => weaker value _ here.1 (here.2 value same)⟩

theorem weaken {Weak : State → Prop} {operation : Attempt State Answer Error α} {post : α → State → Prop}
    (yields : Yields Inv operation state post) (weaker : ∀ after, Inv after → Weak after) : Yields Weak operation state post :=
  Ends.mono yields fun _ after here => ⟨weaker after here.1, here.2⟩

/-- What is kept holds at the end, and gives what has to hold however the operation ends. -/
theorem of_keeps {Kept : State → Prop} {operation : Attempt State Answer Error α} (keeps : Keeps Kept operation) (kept : Kept state)
    (enough : ∀ after, Kept after → Inv after) : Yields Inv operation state fun _ after => Kept after :=
  (keeps state kept).mono fun _ after here => ⟨enough after here, fun _ _ => here⟩

end Yields

end Attempts

end Jts.Shared.Operation
