import Mathlib.Data.Int.ModEq
import Mathlib.Data.List.Chain
import Mathlib.Order.Basic
import Mathlib.Tactic.Common

set_option autoImplicit false

namespace Jts.Shared.Position

variable {State Input : Type}

/-- The positions that the calls of a reporter return one after the other. -/
def positions (step : State → Input → State) (position : State → Nat) : State → List Input → List Nat
  | _, [] => []
  | state, input :: inputs => position (step state input) :: positions step position (step state input) inputs

/-- What a listener that sees every position modulo the modulus adds up. -/
def modularSum (modulus : Nat) : Nat → List Nat → Int
  | _, [] => 0
  | last, next :: rest =>
    (((next % modulus : Nat) : Int) - ((last % modulus : Nat) : Int)) % modulus + modularSum modulus next rest

def largest (honest : Input → Nat) : Nat → List Input → Nat
  | most, [] => most
  | most, input :: inputs => largest honest (max most (honest input)) inputs

-- One call never goes back, never further than maxAdvance, and never past what it has been shown.
def Forward (step : State → Input → State) (position : State → Nat) (honest : Input → Nat) (maxAdvance : Nat)
    (Allowed : Input → Prop) : Prop :=
  ∀ state input, Allowed input → position state ≤ position (step state input) ∧
    position (step state input) ≤ position state + maxAdvance ∧
      position (step state input) ≤ max (position state) (honest input)

abbrev Advances (maxAdvance : Nat) (last next : Nat) : Prop := last ≤ next ∧ next ≤ last + maxAdvance

theorem modular_step {modulus maxAdvance last next : Nat} (small : maxAdvance < modulus)
    (advances : Advances maxAdvance last next) :
    (((next % modulus : Nat) : Int) - ((last % modulus : Nat) : Int)) % modulus = (next : Int) - last := by
  have reduced : ((next : Int) - last) % modulus = (next : Int) - last :=
    Int.emod_eq_of_lt (by omega) (by omega)
  rw [← reduced, Int.natCast_emod, Int.natCast_emod, ← Int.sub_emod, reduced]

theorem modularSum_eq {modulus maxAdvance : Nat} (small : maxAdvance < modulus) {last : Nat} {reported : List Nat}
    (chain : List.IsChain (Advances maxAdvance) (last :: reported)) :
    modularSum modulus last reported = ((reported.getLastD last : Nat) : Int) - last := by
  induction reported generalizing last with
  | nil => simp [modularSum]
  | cons next rest ih =>
    rw [List.isChain_cons_cons] at chain
    obtain ⟨advances, later⟩ := chain
    rw [modularSum, modular_step small advances, ih later, List.getLastD_cons]
    omega

theorem largest_mono {honest : Input → Nat} {low high : Nat} (le : low ≤ high) (inputs : List Input) :
    largest honest low inputs ≤ largest honest high inputs := by
  induction inputs generalizing low high with
  | nil => exact le
  | cons input inputs ih => exact ih (max_le_max le le_rfl)

namespace Forward

variable {step : State → Input → State} {position : State → Nat} {honest : Input → Nat} {maxAdvance : Nat}
  {Allowed : Input → Prop}

theorem chain (forward : Forward step position honest maxAdvance Allowed) {inputs : List Input}
    (allowed : ∀ input ∈ inputs, Allowed input) (state : State) :
    List.IsChain (Advances maxAdvance) (position state :: positions step position state inputs) := by
  induction inputs generalizing state with
  | nil => exact List.IsChain.singleton _
  | cons input inputs ih =>
    have moved := forward state input (allowed input List.mem_cons_self)
    rw [positions, List.isChain_cons_cons]
    exact ⟨⟨moved.1, moved.2.1⟩, ih (fun later inside => allowed later (List.mem_cons_of_mem input inside)) _⟩

theorem shown (forward : Forward step position honest maxAdvance Allowed) {inputs : List Input}
    (allowed : ∀ input ∈ inputs, Allowed input) (state : State) {call reported : Nat}
    (returned : (positions step position state inputs)[call]? = some reported) :
    reported ≤ largest honest (position state) (inputs.take (call + 1)) := by
  induction inputs generalizing state call with
  | nil => simp [positions] at returned
  | cons input inputs ih =>
    have moved := forward state input (allowed input List.mem_cons_self)
    cases call with
    | zero =>
      simp only [positions, List.getElem?_cons_zero, Option.some.injEq] at returned
      subst returned
      simpa [largest] using moved.2.2
    | succ call =>
      simp only [positions, List.getElem?_cons_succ] at returned
      have later := ih (fun next inside => allowed next (List.mem_cons_of_mem input inside)) (step state input) returned
      rw [List.take_succ_cons, largest]
      exact later.trans (largest_mono moved.2.2 _)

end Forward

/-- What a listener needs of the reported positions to follow them modulo the modulus. -/
structure Faithful (honest : Input → Nat) (modulus maxAdvance : Nat) (inputs : List Input) (reported : List Nat) :
    Prop where
  advances : List.IsChain (Advances maxAdvance) (0 :: reported)
  shown : ∀ (call next : Nat), reported[call]? = some next → next ≤ largest honest 0 (inputs.take (call + 1))
  sum : ∀ calls : Nat, modularSum modulus 0 (reported.take calls) = ((reported.take calls).getLastD 0 : Nat)

theorem Forward.faithful {step : State → Input → State} {position : State → Nat} {honest : Input → Nat}
    {maxAdvance : Nat} {Allowed : Input → Prop} (forward : Forward step position honest maxAdvance Allowed)
    {modulus : Nat} (small : maxAdvance < modulus) {state : State} (start : position state = 0) {inputs : List Input}
    (allowed : ∀ input ∈ inputs, Allowed input) :
    Faithful honest modulus maxAdvance inputs (positions step position state inputs) := by
  have chain := forward.chain allowed state
  rw [start] at chain
  refine ⟨chain, ?_, ?_⟩
  next =>
    intro call next returned
    have bound := forward.shown allowed state returned
    rw [start] at bound
    exact bound
  next =>
    intro calls
    have chainTaken : List.IsChain (Advances maxAdvance) (0 :: (positions step position state inputs).take calls) := by
      simpa using chain.take (calls + 1)
    simpa using modularSum_eq small chainTaken

def iterate (step : State → Input → State) (first : State) (inputs : Nat → Input) : Nat → State
  | 0 => first
  | call + 1 => step (iterate step first inputs call) (inputs call)

-- From the call on from which every input shows the target, the position settles on it, unless it is past it.
def Settles (position : Nat → Nat) (since target : Nat) : Prop :=
  ∃ call, since ≤ call ∧ ∀ later, call ≤ later → position later = max (position since) target

-- A position that is shown one target for ever and keeps moving while it is short of it gets there.
theorem settles_at_start {position : Nat → Nat} {target : Nat}
    (forward : ∀ call, position call ≤ position (call + 1) ∧ position (call + 1) ≤ max (position call) target)
    (progress : ∀ call, position call < target → ∃ later, position call < position later) :
    Settles position 0 target := by
  have mono : ∀ call later, call ≤ later → position call ≤ position later := by
    intro call later le
    induction later, le using Nat.le_induction with
    | base => exact le_rfl
    | succ later _ ih => exact ih.trans (forward later).1
  have bounded : ∀ call, position call ≤ max (position 0) target := by
    intro call
    induction call with
    | zero => exact le_max_left _ _
    | succ call ih => exact (forward call).2.trans (max_le ih (le_max_right _ _))
  -- Induction on how far the position is short of the target.
  have arrives : ∀ short call, target - position call ≤ short → ∃ later, target ≤ position later := by
    intro short
    induction short with
    | zero =>
      intro call near
      exact ⟨call, by omega⟩
    | succ short ih =>
      intro call near
      by_cases done : target ≤ position call
      next => exact ⟨call, done⟩
      next =>
        obtain ⟨later, moved⟩ := progress call (by omega)
        exact ih later (by omega)
  obtain ⟨call, arrived⟩ := arrives _ 0 le_rfl
  refine ⟨call, Nat.zero_le call, ?_⟩
  intro later le
  have lower := mono call later le
  have start := mono 0 later (Nat.zero_le later)
  have upper := bounded later
  omega

theorem settles {position : Nat → Nat} {since target : Nat}
    (forward : ∀ call, position (since + call) ≤ position (since + (call + 1)) ∧
      position (since + (call + 1)) ≤ max (position (since + call)) target)
    (progress : ∀ call, position (since + call) < target → ∃ later, position (since + call) < position (since + later)) :
    Settles position since target := by
  obtain ⟨call, -, settled⟩ := settles_at_start forward progress
  refine ⟨since + call, Nat.le_add_right _ _, ?_⟩
  intro later le
  have arrived := settled (later - since) (by omega)
  dsimp only at arrived
  rwa [Nat.add_zero, show since + (later - since) = later by omega] at arrived

-- Calls paid for from a bucket: a call that does not move saves what it was given, and it only fails to move
-- while the savings are below the price of one move.
theorem moves_of_savings (position savings given : Nat → Nat) (Free : Nat → Prop) {target price : Nat}
    (oneCall : ∀ call, position call < target → position call < position (call + 1) ∨
      (position (call + 1) = position call ∧ savings (call + 1) = savings call + given call ∧
        savings (call + 1) < price ∧ ¬Free call))
    (paid : ∀ call, ∃ later, call ≤ later ∧ (Free later ∨ 1 ≤ given later)) :
    ∀ call, position call < target → ∃ later, position call < position later := by
  have stands : ∀ call later, call ≤ later → position call < target →
      (∃ moved, position call < position moved) ∨
        (position later = position call ∧ savings call ≤ savings later) := by
    intro call later le short
    induction later, le using Nat.le_induction with
    | base => exact .inr ⟨rfl, le_rfl⟩
    | succ later _ ih =>
      rcases ih with moved | ⟨same, saved⟩
      next => exact .inl moved
      next =>
        rcases oneCall later (by omega) with moved | ⟨stood, more, -, -⟩
        next => exact .inl ⟨later + 1, by omega⟩
        next => exact .inr ⟨by omega, by omega⟩
  -- Induction on what the savings lack of the price.
  have lacks : ∀ lack call, position call < target → price - savings call ≤ lack →
      ∃ later, position call < position later := by
    intro lack
    induction lack with
    | zero =>
      intro call short enough
      rcases oneCall call short with moved | ⟨-, more, below, -⟩
      next => exact ⟨call + 1, moved⟩
      next => omega
    | succ lack ih =>
      intro call short near
      obtain ⟨later, le, payment⟩ := paid call
      rcases stands call later le short with moved | ⟨same, saved⟩
      next => exact moved
      next =>
        rcases oneCall later (by omega) with moved | ⟨stood, more, -, notFree⟩
        next => exact ⟨later + 1, by omega⟩
        next =>
          have minted : 1 ≤ given later := payment.resolve_left notFree
          obtain ⟨moved, further⟩ := ih (later + 1) (by omega) (by omega)
          exact ⟨moved, by omega⟩
  intro call short
  exact lacks _ call short le_rfl

end Jts.Shared.Position
