import Mathlib.Algebra.BigOperators.Ring.Finset
import Mathlib.Algebra.Order.AbsoluteValue.Basic
import Mathlib.Algebra.Order.BigOperators.Group.Finset
import Mathlib.Tactic.Linarith
import Mathlib.Tactic.Ring

set_option autoImplicit false

namespace Jts.Shared.ChannelNetwork

/-- A stage of a linear network of channels: a factor on channels, once each time one is listed, or a mixer whose entries add
sources up in the channels that come after it. -/
inductive Stage (C : Type)
  | scale (channels : List ℕ) (factor : C)
  | mix (mapping : List (ℕ × List (ℕ × C)))

variable {C K : Type} [Field C]

def scaled (factor : C) (signals : ℕ → C) (channel : ℕ) : ℕ → C := Function.update signals channel (signals channel * factor)

def added (signals : ℕ → C) (dest : ℕ) (mixed : ℕ → C) (source : ℕ × C) : ℕ → C :=
  Function.update mixed dest (mixed dest + signals source.1 * source.2)

def mixed (signals : ℕ → C) (sums : ℕ → C) (entry : ℕ × List (ℕ × C)) : ℕ → C := entry.2.foldl (added signals entry.1) sums

def Stage.apply (signals : ℕ → C) : Stage C → ℕ → C
  | .scale channels factor => channels.foldl (scaled factor) signals
  | .mix mapping => mapping.foldl (mixed signals) fun _ => 0

def run (signals : ℕ → C) (stages : List (Stage C)) : ℕ → C := stages.foldl Stage.apply signals

/-- All that is added up in a channel, over the entries of a mixer that name it. -/
def feeds (mapping : List (ℕ × List (ℕ × C))) (dest : ℕ) : List (ℕ × C) :=
  mapping.flatMap fun entry => if entry.1 = dest then entry.2 else []

def fed (signals : ℕ → C) (sources : List (ℕ × C)) : C := (sources.map fun source => signals source.1 * source.2).sum

theorem foldl_scaled (factor : C) (channels : List ℕ) (signals : ℕ → C) (channel : ℕ) :
    channels.foldl (scaled factor) signals channel = signals channel * factor ^ channels.count channel := by
  induction channels generalizing signals with
  | nil => simp
  | cons head channels ih =>
      rw [List.foldl_cons, ih, scaled, List.count_cons]
      by_cases same : head = channel
      · rw [same, Function.update_self, if_pos (beq_self_eq_true channel), pow_succ]
        ring
      · simp [same, Function.update_of_ne (Ne.symm same)]

theorem foldl_added (signals : ℕ → C) (dest : ℕ) (sources : List (ℕ × C)) (sums : ℕ → C) (channel : ℕ) :
    sources.foldl (added signals dest) sums channel = sums channel + if dest = channel then fed signals sources else 0 := by
  induction sources generalizing sums with
  | nil => simp [fed]
  | cons source sources ih =>
      rw [List.foldl_cons, ih, added]
      by_cases same : dest = channel
      · simp [same, fed, add_assoc]
      · simp [same, Function.update_of_ne (Ne.symm same)]

theorem foldl_mixed (signals : ℕ → C) (mapping : List (ℕ × List (ℕ × C))) (sums : ℕ → C) (channel : ℕ) :
    mapping.foldl (mixed signals) sums channel = sums channel + fed signals (feeds mapping channel) := by
  induction mapping generalizing sums with
  | nil => simp [feeds, fed]
  | cons entry mapping ih =>
      rw [List.foldl_cons, ih, mixed, foldl_added]
      by_cases same : entry.1 = channel
      · simp [same, feeds, fed, add_assoc]
      · simp [same, feeds, fed]

theorem apply_mix (signals : ℕ → C) (mapping : List (ℕ × List (ℕ × C))) (channel : ℕ) :
    (Stage.mix mapping).apply signals channel = fed signals (feeds mapping channel) :=
  (foldl_mixed signals mapping (fun _ => 0) channel).trans (zero_add _)

section Magnitude

variable [Field K] [LinearOrder K] [IsStrictOrderedRing K] (magnitude : AbsoluteValue C K)

/-- A stage that lifts nothing: its factor is at most one, or its gains add up to at most one in every channel. -/
def Stage.Contracts : Stage C → Prop
  | .scale _ factor => magnitude factor ≤ 1
  | .mix mapping => ∀ channel, ((feeds mapping channel).map fun source => magnitude source.2).sum ≤ 1

variable {magnitude} {Input : Type} {inputs : Finset Input}

/-- The worst case in phase over the inputs is at most one in every channel. -/
def Within (magnitude : AbsoluteValue C K) (inputs : Finset Input) (signals : Input → ℕ → C) : Prop :=
  ∀ channel, ∑ input ∈ inputs, magnitude (signals input channel) ≤ 1

theorem sum_fed_le {signals : Input → ℕ → C} (within : Within magnitude inputs signals) (sources : List (ℕ × C)) :
    ∑ input ∈ inputs, magnitude (fed (signals input) sources) ≤ (sources.map fun source => magnitude source.2).sum := by
  induction sources with
  | nil => simp [fed]
  | cons source sources ih =>
      have head : ∑ input ∈ inputs, magnitude (signals input source.1) * magnitude source.2 ≤ magnitude source.2 := by
        rw [← Finset.sum_mul]
        exact mul_le_of_le_one_left (magnitude.nonneg _) (within source.1)
      calc ∑ input ∈ inputs, magnitude (fed (signals input) (source :: sources))
          ≤ ∑ input ∈ inputs, (magnitude (signals input source.1) * magnitude source.2 + magnitude (fed (signals input) sources)) := by
            refine Finset.sum_le_sum fun input _ => ?_
            rw [← magnitude.map_mul]
            exact magnitude.add_le _ _
        _ = ∑ input ∈ inputs, magnitude (signals input source.1) * magnitude source.2 +
              ∑ input ∈ inputs, magnitude (fed (signals input) sources) := Finset.sum_add_distrib
        _ ≤ magnitude source.2 + (sources.map fun source => magnitude source.2).sum := add_le_add head ih

theorem apply_within {stage : Stage C} {signals : Input → ℕ → C} (contracts : stage.Contracts magnitude)
    (within : Within magnitude inputs signals) : Within magnitude inputs fun input => stage.apply (signals input) := by
  intro channel
  cases stage with
  | scale channels factor =>
      have cut : magnitude factor ^ channels.count channel ≤ 1 := pow_le_one₀ (magnitude.nonneg _) contracts
      calc ∑ input ∈ inputs, magnitude ((Stage.scale channels factor).apply (signals input) channel)
          = (∑ input ∈ inputs, magnitude (signals input channel)) * magnitude factor ^ channels.count channel := by
            rw [Finset.sum_mul]
            refine Finset.sum_congr rfl fun input _ => ?_
            rw [Stage.apply, foldl_scaled, magnitude.map_mul, magnitude.map_pow]
        _ ≤ 1 := mul_le_one₀ (within channel) (pow_nonneg (magnitude.nonneg _) _) cut
  | mix mapping =>
      simp only [apply_mix]
      exact (sum_fed_le within _).trans (contracts channel)

/-- A network whose stages lift nothing keeps the worst case over its inputs within one, in every channel. -/
theorem run_within {stages : List (Stage C)} {signals : Input → ℕ → C} (contracts : ∀ stage ∈ stages, stage.Contracts magnitude)
    (within : Within magnitude inputs signals) : Within magnitude inputs fun input => run (signals input) stages := by
  induction stages generalizing signals with
  | nil => exact within
  | cons stage stages ih =>
      obtain ⟨first, rest⟩ := List.forall_mem_cons.mp contracts
      exact ih rest (apply_within first within)

theorem impulse_within (count : ℕ) : Within magnitude (Finset.range count) fun input => Pi.single input 1 := by
  intro channel
  simp only [Pi.single_apply, apply_ite magnitude, magnitude.map_one, magnitude.map_zero, Finset.sum_ite_eq]
  split
  · exact le_rfl
  · exact zero_le_one

end Magnitude

end Jts.Shared.ChannelNetwork
