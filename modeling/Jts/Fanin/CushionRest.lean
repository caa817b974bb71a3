import Jts.Fanin.CushionLearned
import Jts.Shared.Progress
import Mathlib.Tactic.FieldSimp

set_option autoImplicit false

namespace Jts.Fanin

open Jts.Shared.Progress Jts.Shared.Transition

namespace CushionDecay

variable {decay : CushionDecay} {signals : DecaySignals}

/-- A lane that may not go below its ceiling. -/
def blocked (decay : CushionDecay) (signals : DecaySignals) : Prop :=
  decay.failed = true ∨ signals.dllL0Locked = false ∧ decay.connection = 0

instance (decay : CushionDecay) (signals : DecaySignals) : Decidable (decay.blocked signals) :=
  inferInstanceAs (Decidable (_ ∨ _))

/-- A lane that nothing has interrupted. -/
structure Ready (decay : CushionDecay) : Prop where
  bounded : decay.Bounded
  on : decay.enabled = true
  free : decay.interruptedAt = none

def stride (decay : CushionDecay) : ℚ := bufferAdjustPpm * decay.periodFrames / 1000000

theorem stride_pos (decay : CushionDecay) : 0 < decay.stride := by
  have lasts : (0 : ℚ) < decay.periodFrames := by exact_mod_cast decay.lasts
  rw [stride, bufferAdjustPpm]
  positivity

-- The motion that a period of the lane turns into frames of a gap.
theorem motion_frames (decay : CushionDecay) (gap : ℚ) :
    min bufferAdjustPpm (gap * 1000000 / decay.periodFrames) * decay.periodFrames / 1000000 = min decay.stride gap := by
  have lasts : (0 : ℚ) < decay.periodFrames := by exact_mod_cast decay.lasts
  rw [min_mul_of_nonneg _ _ lasts.le, ← min_div_div_right (by norm_num : (0 : ℚ) ≤ 1000000), stride]
  congr 1
  field_simp

theorem integrated_of_still (bounded : decay.Bounded) (still : decay.motionPpm = 0) : decay.integrated = decay.held := by
  rw [integrated, still, zero_mul, zero_div, sub_zero, min_eq_left bounded.held.2, max_eq_right bounded.held.1]

/-- The lane at the start of a locked period's work. -/
def moved (decay : CushionDecay) : CushionDecay := { decay with held := decay.integrated, idlePeriods := 0 }

theorem Ready.moved (ready : decay.Ready) : decay.moved.Ready :=
  ⟨⟨decay.integrated_bounds, ready.bounded.motion, ready.bounded.good, fun interrupted => by simp [CushionDecay.moved, ready.free] at interrupted,
    fun off => absurd (ready.on.symm.trans off) nofun⟩, ready.on, ready.free⟩

theorem Ready.tick_eq (ready : decay.Ready) (locked : signals.locked = true) :
    decay.tick signals =
      if decay.refilling then
        if decay.integrated < decay.ceiling then
          { decay.moved with motionPpm := -min bufferAdjustPpm ((decay.ceiling - decay.integrated) * 1000000 / decay.periodFrames) }
        else { decay.moved with refilling := false }.steer signals
      else decay.moved.steer signals := by
  have whole : ({ decay with held := decay.integrated } : CushionDecay).relocked = { decay with held := decay.integrated } := by
    rw [relocked]
    simp only [ready.free]
  rw [tick, if_neg (by simp [ready.on]), if_pos locked, tickLocked, whole]
  rfl

theorem Ready.tick_keeps (ready : decay.Ready) (locked : signals.locked = true) : decay.Keeps (decay.tick signals) := by
  rw [ready.tick_eq locked]
  split
  · split
    · exact ⟨rfl, ⟨rfl, rfl⟩, rfl⟩
    · exact (steer_keeps _ signals).after ⟨rfl, ⟨rfl, rfl⟩, rfl⟩
  · exact (steer_keeps _ signals).after ⟨rfl, ⟨rfl, rfl⟩, rfl⟩

theorem settle_eq (decay : CushionDecay) (signals : DecaySignals) :
    ∃ settledPeriods lastGood, decay.settle signals = { decay with settledPeriods := settledPeriods, lastGood := lastGood } := by
  rw [settle]
  split
  · exact ⟨_, _, rfl⟩
  · exact ⟨0, decay.lastGood, rfl⟩

theorem steer_free (decay : CushionDecay) (signals : DecaySignals) (free : decay.interruptedAt = none) :
    (decay.steer signals).interruptedAt = none := by
  obtain ⟨settledPeriods, lastGood, settled⟩ := decay.settle_eq signals
  rw [steer, settled]
  split
  · rw [snapBack]
    split
    · exact free
    · exact free
  dsimp only
  split
  · exact free
  rw [descend]
  dsimp only
  split
  · exact free
  split
  · exact free
  · exact free

theorem Ready.steer (ready : decay.Ready) : (decay.steer signals).Ready :=
  ⟨ready.bounded.steer ready.on ready.free, (congrArg Settings.enabled (steer_keeps decay signals).settings).trans ready.on,
    steer_free decay signals ready.free⟩

/-- A lane that comes down from the depth it holds toward the one it has learned. -/
structure Descending (decay : CushionDecay) : Prop where
  ready : decay.Ready
  down : decay.refilling = false
  motion : decay.motionPpm = if decay.stablePeriods < decay.stabilityPeriods then 0
    else min bufferAdjustPpm ((decay.held - decay.learnedFloor) * 1000000 / decay.periodFrames)

/-- A lane that goes up to its ceiling. -/
structure Filling (decay : CushionDecay) : Prop where
  ready : decay.Ready
  up : decay.refilling = true
  motion : decay.motionPpm = -min bufferAdjustPpm ((decay.ceiling - decay.held) * 1000000 / decay.periodFrames)

theorem zero_le_adjust : (0 : ℚ) ≤ bufferAdjustPpm := by norm_num [bufferAdjustPpm]

theorem Ready.steer_descends (ready : decay.Ready) (down : decay.refilling = false) (deep : signals.bufferLow = false)
    (unblocked : ¬decay.blocked signals) :
    (decay.steer signals).Descending ∧ (decay.steer signals).held = decay.held ∧
      (decay.steer signals).stablePeriods = decay.stablePeriods + 1 := by
  obtain ⟨settledPeriods, lastGood, settled⟩ := decay.settle_eq signals
  have ready' : (decay.steer signals).Ready := ready.steer
  have steered : decay.steer signals =
      ({ decay with settledPeriods := settledPeriods, lastGood := lastGood } : CushionDecay).descend signals := by
    rw [CushionDecay.steer, if_neg (by exact unblocked), settled]
    simp only [deep, Bool.false_eq_true, if_false]
  rw [steered] at ready' ⊢
  rw [descend] at ready' ⊢
  dsimp only at ready' ⊢
  split at ready'
  next early =>
    rw [if_pos early]
    exact ⟨⟨ready', down, (if_pos early).symm⟩, rfl, rfl⟩
  next late =>
    rw [if_neg late]
    split at ready'
    next above =>
      rw [if_pos above]
      exact ⟨⟨ready', down, (if_neg late).symm⟩, rfl, rfl⟩
    next floored =>
      rw [if_neg floored]
      have level : decay.held = decay.learnedFloor := le_antisymm (not_lt.mp floored) ready.bounded.held.1
      refine ⟨⟨ready', down, ?_⟩, rfl, rfl⟩
      dsimp only
      rw [if_neg late, level, sub_self, zero_mul, zero_div, min_eq_right zero_le_adjust]

theorem integrated_of_within (above : (decay.learnedFloor : ℚ) ≤ decay.held - decay.motionPpm * decay.periodFrames / 1000000)
    (below : decay.held - decay.motionPpm * decay.periodFrames / 1000000 ≤ decay.ceiling) :
    decay.integrated = decay.held - decay.motionPpm * decay.periodFrames / 1000000 := by
  rw [integrated, min_eq_left below, max_eq_right above]

theorem Descending.integrated (descending : decay.Descending) (late : ¬decay.stablePeriods < decay.stabilityPeriods) :
    decay.integrated = decay.held - min decay.stride (decay.held - decay.learnedFloor) := by
  have frames := decay.motion_frames (decay.held - decay.learnedFloor)
  have motion := descending.motion
  rw [if_neg late] at motion
  rw [← motion] at frames
  have bounds := descending.ready.bounded.held
  have less : min decay.stride (decay.held - decay.learnedFloor) ≤ decay.held - decay.learnedFloor := min_le_right _ _
  have some : 0 ≤ min decay.stride (decay.held - decay.learnedFloor) := le_min decay.stride_pos.le (sub_nonneg.mpr bounds.1)
  rw [integrated_of_within (by linarith) (by linarith), frames]

theorem Filling.integrated (filling : decay.Filling) :
    decay.integrated = decay.held + min decay.stride (decay.ceiling - decay.held) := by
  have frames := decay.motion_frames (decay.ceiling - decay.held)
  rw [← neg_eq_iff_eq_neg.mpr filling.motion] at frames
  have bounds := filling.ready.bounded.held
  have less : min decay.stride (decay.ceiling - decay.held) ≤ decay.ceiling - decay.held := min_le_right _ _
  have some : 0 ≤ min decay.stride (decay.ceiling - decay.held) := le_min decay.stride_pos.le (sub_nonneg.mpr bounds.2)
  have turned : decay.motionPpm * decay.periodFrames / 1000000 = -min decay.stride (decay.ceiling - decay.held) := by
    linarith
  rw [integrated_of_within (by linarith) (by linarith), turned, sub_neg_eq_add]

-- One stride less of a gap is one period less.
theorem ceil_gap_lt {gap stride : ℚ} (wide : 0 < gap) (positive : 0 < stride) :
    ⌈(gap - min stride gap) / stride⌉₊ < ⌈gap / stride⌉₊ := by
  rcases le_total gap stride with close | far
  · rw [min_eq_right close, sub_self, zero_div, Nat.ceil_zero]
    exact Nat.ceil_pos.mpr (div_pos wide positive)
  · rw [min_eq_left far, sub_div, div_self positive.ne', Nat.ceil_sub_one]
    exact Nat.sub_lt (Nat.ceil_pos.mpr (div_pos wide positive)) Nat.zero_lt_one

def depth (decay : CushionDecay) (signals : DecaySignals) : ℚ :=
  if decay.blocked signals then decay.ceiling else decay.learnedFloor

/-- A lane that holds its target depth and moves no more. -/
structure Resting (signals : DecaySignals) (target : ℚ) (decay : CushionDecay) : Prop where
  ready : decay.Ready
  down : decay.refilling = false
  aim : decay.depth signals = target
  held : decay.held = target
  still : decay.motionPpm = 0
  late : ¬decay.blocked signals → decay.stabilityPeriods ≤ decay.stablePeriods

theorem Keeps.blocked {next : CushionDecay} (keeps : decay.Keeps next) : next.blocked signals ↔ decay.blocked signals := by
  rw [CushionDecay.blocked, CushionDecay.blocked, keeps.epoch.1, keeps.epoch.2]

theorem Keeps.depth {next : CushionDecay} (keeps : decay.Keeps next) (signals : DecaySignals) :
    next.depth signals = decay.depth signals := by
  have ceiling : next.ceiling = decay.ceiling := congrArg Settings.ceiling keeps.settings
  rw [CushionDecay.depth, CushionDecay.depth, ceiling, keeps.learned]
  exact if_congr keeps.blocked rfl rfl

theorem Keeps.stride {next : CushionDecay} (keeps : decay.Keeps next) : next.stride = decay.stride := by
  have period : next.periodFrames = decay.periodFrames := congrArg Settings.periodFrames keeps.settings
  rw [CushionDecay.stride, CushionDecay.stride, period]

theorem steer_blocked (on : decay.enabled = true) (blocked : decay.blocked signals) :
    (decay.steer signals).held = decay.held ∧ (decay.steer signals).motionPpm = 0 ∧
      (decay.steer signals).refilling = decide (decay.held < decay.ceiling) := by
  rw [CushionDecay.steer, if_pos (by exact blocked), snapBack, if_neg (by simp [on])]
  exact ⟨rfl, rfl, rfl⟩

theorem Ready.rests (ready : decay.Ready) (down : decay.refilling = false) (deep : signals.bufferLow = false)
    (held : decay.held = decay.depth signals) (late : ¬decay.blocked signals → decay.stabilityPeriods ≤ decay.stablePeriods) :
    (decay.steer signals).Resting signals (decay.depth signals) := by
  have keeps := steer_keeps decay signals
  have stability : (decay.steer signals).stabilityPeriods = decay.stabilityPeriods := congrArg Settings.stabilityPeriods keeps.settings
  by_cases blocked : decay.blocked signals
  next =>
    obtain ⟨heldStill, still, up⟩ := steer_blocked ready.on blocked
    have full : decay.held = decay.ceiling := held.trans (if_pos blocked)
    exact ⟨ready.steer, by simp [up, full], keeps.depth signals, heldStill.trans held, still,
      fun unblocked => absurd (keeps.blocked.mpr blocked) unblocked⟩
  next =>
    obtain ⟨descending, heldStill, stable⟩ := ready.steer_descends down deep blocked
    have level : decay.held = decay.learnedFloor := held.trans (if_neg blocked)
    have due : decay.stabilityPeriods ≤ (decay.steer signals).stablePeriods := stable ▸ (late blocked).trans (Nat.le_succ _)
    refine ⟨descending.ready, descending.down, keeps.depth signals, heldStill.trans held, ?_, fun _ => stability.symm ▸ due⟩
    rw [descending.motion, if_neg (by omega), heldStill, keeps.learned, level, sub_self, zero_mul, zero_div,
      min_eq_right zero_le_adjust]

theorem moved_keeps (decay : CushionDecay) : decay.Keeps decay.moved := ⟨rfl, ⟨rfl, rfl⟩, rfl⟩

theorem Ready.tick_down (ready : decay.Ready) (locked : signals.locked = true) (down : decay.refilling = false) :
    decay.tick signals = decay.moved.steer signals := by
  rw [ready.tick_eq locked, if_neg (by simp [down])]

theorem Resting.tick {target : ℚ} (resting : decay.Resting signals target) (locked : signals.locked = true)
    (deep : signals.bufferLow = false) : (decay.tick signals).Resting signals target := by
  have held : decay.moved.held = decay.moved.depth signals := by
    rw [decay.moved_keeps.depth signals, resting.aim, ← resting.held]
    exact integrated_of_still resting.ready.bounded resting.still
  have rests := resting.ready.moved.rests resting.down deep held resting.late
  rw [decay.moved_keeps.depth signals, resting.aim] at rests
  rwa [resting.ready.tick_down locked resting.down]

section Reaching

variable {target : ℚ} (locked : signals.locked = true) (deep : signals.bufferLow = false)

include locked deep

theorem Descending.reaches (descending : decay.Descending) (unblocked : ¬decay.blocked signals) (aim : decay.depth signals = target) :
    Reaches (CushionDecay.tick · signals) (Resting signals target) decay := by
  refine Reaches.of_falling (fun decay => decay.Descending ∧ ¬decay.blocked signals ∧ decay.depth signals = target)
    (fun decay => decay.stabilityPeriods - decay.stablePeriods + ⌈(decay.held - decay.learnedFloor) / decay.stride⌉₊) ?_
    ⟨descending, unblocked, aim⟩
  rintro decay ⟨descending, unblocked, aim⟩
  have ready := descending.ready
  have keeps := ready.tick_keeps locked
  obtain ⟨next, held, stable⟩ := ready.moved.steer_descends descending.down deep unblocked
  rw [← ready.tick_down locked descending.down] at next held stable
  have phase : (decay.tick signals).Descending ∧ ¬(decay.tick signals).blocked signals ∧ (decay.tick signals).depth signals = target :=
    ⟨next, mt keeps.blocked.mp unblocked, (keeps.depth signals).trans aim⟩
  have stability : (decay.tick signals).stabilityPeriods = decay.stabilityPeriods := congrArg Settings.stabilityPeriods keeps.settings
  by_cases early : decay.stablePeriods < decay.stabilityPeriods
  · have still : decay.motionPpm = 0 := descending.motion.trans (if_pos early)
    refine .inr ⟨phase, ?_⟩
    rw [held, keeps.learned, keeps.stride, stability, stable]
    have stays : decay.moved.held = decay.held := integrated_of_still ready.bounded still
    rw [stays]
    dsimp only [moved]
    omega
  rcases eq_or_lt_of_le ready.bounded.held.1 with level | above
  · have still : decay.motionPpm = 0 := by
      rw [descending.motion, if_neg early, level, sub_self, zero_mul, zero_div, min_eq_right zero_le_adjust]
    exact .inl (.now ⟨ready, descending.down, aim, level.symm.trans ((if_neg unblocked).symm.trans aim), still,
      fun _ => not_lt.mp early⟩)
  · refine .inr ⟨phase, ?_⟩
    have moved : decay.moved.held = decay.held - min decay.stride (decay.held - decay.learnedFloor) := descending.integrated early
    have falls := ceil_gap_lt (sub_pos.mpr above) decay.stride_pos
    rw [held, keeps.learned, keeps.stride, stability, stable, moved, sub_right_comm]
    dsimp only [CushionDecay.moved]
    omega

theorem Ready.fills (ready : decay.Ready) (down : decay.refilling = false) (full : decay.held = decay.ceiling)
    (aim : decay.depth signals = target) : Reaches (CushionDecay.tick · signals) (Resting signals target) (decay.steer signals) := by
  by_cases blocked : decay.blocked signals
  next =>
    rw [← aim]
    exact .now (ready.rests down deep (full.trans (if_pos blocked).symm) (absurd blocked))
  next =>
    have keeps := steer_keeps decay signals
    exact (ready.steer_descends down deep blocked).1.reaches locked deep (mt keeps.blocked.mp blocked) ((keeps.depth signals).trans aim)

omit deep in
theorem Ready.tick_fills (ready : decay.Ready) (up : decay.refilling = true) (below : decay.integrated < decay.ceiling) :
    (decay.tick signals).Filling ∧ (decay.tick signals).held = decay.integrated := by
  have ticked := ready.tick_eq locked
  rw [if_pos up, if_pos below] at ticked
  rw [ticked]
  refine ⟨⟨⟨⟨decay.integrated_bounds, ?_, ready.bounded.good, ?_, fun off => absurd (ready.on.symm.trans off) nofun⟩,
    ready.on, ready.free⟩, up, rfl⟩, rfl⟩
  · dsimp only
    rw [abs_neg]
    exact abs_adjust_le (sub_nonneg.mpr below.le) _
  · have free : ¬decay.interruptedAt.isSome = true := by simp [ready.free]
    exact fun interrupted => absurd interrupted free

theorem Filling.reaches (filling : decay.Filling) (aim : decay.depth signals = target) :
    Reaches (CushionDecay.tick · signals) (Resting signals target) decay := by
  refine Reaches.of_falling (fun decay => decay.Filling ∧ decay.depth signals = target)
    (fun decay => ⌈(decay.ceiling - decay.held) / decay.stride⌉₊) ?_ ⟨filling, aim⟩
  rintro decay ⟨filling, aim⟩
  have ready := filling.ready
  by_cases below : decay.integrated < decay.ceiling
  next =>
    obtain ⟨next, held⟩ := ready.tick_fills locked filling.up below
    have keeps := ready.tick_keeps locked
    have ceiling : (decay.tick signals).ceiling = decay.ceiling := congrArg Settings.ceiling keeps.settings
    have raised := filling.integrated
    have gap : 0 < decay.ceiling - decay.held := by
      have some : 0 ≤ min decay.stride (decay.ceiling - decay.held) :=
        le_min decay.stride_pos.le (sub_nonneg.mpr ready.bounded.held.2)
      linarith
    refine .inr ⟨⟨next, (keeps.depth signals).trans aim⟩, ?_⟩
    rw [held, ceiling, keeps.stride, raised, ← sub_sub]
    exact ceil_gap_lt gap decay.stride_pos
  next =>
    have ticked := ready.tick_eq locked
    rw [if_pos filling.up, if_neg below] at ticked
    have full : decay.integrated = decay.ceiling := le_antisymm decay.integrated_bounds.2 (not_lt.mp below)
    have moved : ({ decay.moved with refilling := false } : CushionDecay).Ready :=
      ⟨⟨decay.integrated_bounds, ready.bounded.motion, ready.bounded.good, ready.moved.bounded.pending, ready.moved.bounded.off⟩,
        ready.on, ready.free⟩
    refine .inl (.later ?_)
    rw [ticked]
    exact moved.fills locked deep rfl full aim

theorem Ready.steer_reaches (ready : decay.Ready) (down : decay.refilling = false) (aim : decay.depth signals = target) :
    Reaches (CushionDecay.tick · signals) (Resting signals target) (decay.steer signals) := by
  have keeps := steer_keeps decay signals
  by_cases blocked : decay.blocked signals
  next =>
    rcases eq_or_lt_of_le ready.bounded.held.2 with full | below
    · exact ready.fills locked deep down full aim
    obtain ⟨held, still, up⟩ := steer_blocked ready.on blocked
    have steered : (decay.steer signals).Ready := ready.steer
    have ceiling : (decay.steer signals).ceiling = decay.ceiling := congrArg Settings.ceiling keeps.settings
    have unmoved : (decay.steer signals).integrated < (decay.steer signals).ceiling := by
      rw [integrated_of_still steered.bounded still, held, ceiling]
      exact below
    have filling := (steered.tick_fills locked (up.trans (decide_eq_true below)) unmoved).1
    exact .later (filling.reaches locked deep (((steered.tick_keeps locked).depth signals).trans ((keeps.depth signals).trans aim)))
  next =>
    exact (ready.steer_descends down deep blocked).1.reaches locked deep (mt keeps.blocked.mp blocked) ((keeps.depth signals).trans aim)

theorem Ready.reaches (ready : decay.Ready) (aim : decay.depth signals = target) :
    Reaches (CushionDecay.tick · signals) (Resting signals target) decay := by
  refine .later ?_
  have keeps := ready.tick_keeps locked
  have ticked := ready.tick_eq locked
  cases up : decay.refilling with
  | true =>
    by_cases below : decay.integrated < decay.ceiling
    next => exact (ready.tick_fills locked up below).1.reaches locked deep ((keeps.depth signals).trans aim)
    next =>
      rw [if_pos up, if_neg below] at ticked
      rw [ticked]
      exact Ready.steer_reaches locked deep
        ⟨⟨decay.integrated_bounds, ready.bounded.motion, ready.bounded.good, ready.moved.bounded.pending, ready.moved.bounded.off⟩,
          ready.on, ready.free⟩ rfl aim
  | false =>
    rw [ready.tick_down locked up]
    exact ready.moved.steer_reaches locked deep up aim

end Reaching

theorem Bounded.tick_ready (bounded : decay.Bounded) (on : decay.enabled = true) (locked : signals.locked = true) :
    (decay.tick signals).Ready := by
  obtain ⟨_, free⟩ := bounded.relocked on
  have kept : (decay.tick signals).enabled = true := (congrArg Settings.enabled (decay.tick_grows signals).settings).trans on
  refine ⟨bounded.tick signals, kept, ?_⟩
  rw [CushionDecay.tick, if_neg (by simp [on]), if_pos locked, CushionDecay.tickLocked]
  dsimp only
  split
  · split
    · exact free
    · exact steer_free _ signals free
  · exact steer_free _ signals free

/-- The depth that an unlocked lane waits at. -/
def resumed (decay : CushionDecay) : ℚ :=
  if decay.connection ≠ 0 ∧ decay.failed = false then decay.lastGood.elim decay.held Nat.cast else decay.held

theorem reuseLastGood_eq (decay : CushionDecay) :
    ∃ reused, decay.reuseLastGood = { decay with held := decay.resumed, reused := reused } := by
  rw [reuseLastGood, resumed]
  split
  · split
    next good =>
      rw [good]
      exact ⟨true, rfl⟩
    next none =>
      have level : decay.lastGood.elim decay.held Nat.cast = decay.held := by
        rw [none]
        rfl
      rw [level]
      exact ⟨decay.reused, rfl⟩
  · exact ⟨decay.reused, rfl⟩

-- A lane that waits at its depth has nowhere else to wait.
theorem resumed_resumed (decay : CushionDecay) : ({ decay with held := decay.resumed } : CushionDecay).resumed = decay.resumed := by
  rw [resumed]
  dsimp only
  split
  next known =>
    rw [resumed, if_pos known]
    cases decay.lastGood with
    | none => rfl
    | some target => rfl
  next => rfl

/-- An unlocked lane that has waited for a pause. -/
structure Idle (target : ℚ) (decay : CushionDecay) : Prop where
  on : decay.enabled = true
  long : decay.pausePeriods ≤ decay.idlePeriods
  held : decay.held = target
  still : decay.motionPpm = 0
  aim : decay.resumed = target

theorem tick_unlocked (on : decay.enabled = true) (unlocked : signals.locked = false) : decay.tick signals = decay.tickUnlocked := by
  rw [tick, if_neg (by simp [on]), if_neg (by simp [unlocked])]

theorem tickUnlocked_idle (on : decay.enabled = true) (long : decay.pausePeriods ≤ decay.idlePeriods + 1) :
    decay.tickUnlocked.Idle decay.resumed := by
  obtain ⟨reused, resumes⟩ := reuseLastGood_eq { decay with motionPpm := 0, idlePeriods := decay.idlePeriods + 1 }
  rw [tickUnlocked]
  simp only [long, if_true]
  rw [resumes]
  exact ⟨on, long, rfl, rfl, decay.resumed_resumed⟩

theorem unlocked_reaches (on : decay.enabled = true) (unlocked : signals.locked = false) :
    Reaches (CushionDecay.tick · signals) (Idle decay.resumed) decay := by
  refine Reaches.of_falling (fun waiting => waiting.enabled = true ∧ waiting.resumed = decay.resumed)
    (fun waiting => waiting.pausePeriods - waiting.idlePeriods) ?_ ⟨on, rfl⟩
  rintro waiting ⟨on, aim⟩
  by_cases long : waiting.pausePeriods ≤ waiting.idlePeriods + 1
  next =>
    refine .inl (.later (.now ?_))
    rw [tick_unlocked on unlocked, ← aim]
    exact tickUnlocked_idle on long
  next =>
    refine .inr ?_
    rw [tick_unlocked on unlocked, tickUnlocked]
    simp only [long, if_false]
    exact ⟨⟨on, aim⟩, by omega⟩

theorem Idle.tick {target : ℚ} (idle : decay.Idle target) (unlocked : signals.locked = false) :
    (decay.tick signals).Idle target := by
  rw [tick_unlocked idle.on unlocked, ← idle.aim]
  exact tickUnlocked_idle idle.on (idle.long.trans (Nat.le_succ _))

/-- The depth that the lane comes to while nothing else happens to it. -/
def comesTo (decay : CushionDecay) (signals : DecaySignals) : ℚ :=
  if !decay.enabled then decay.ceiling
  else if signals.locked then (decay.tick signals).depth signals
  else decay.resumed

theorem Bounded.comes_to_rest (bounded : decay.Bounded) (deep : signals.locked = true → signals.bufferLow = false) :
    ∃ count, ∀ later, count ≤ later →
      ((CushionDecay.tick · signals)^[later] decay).held = decay.comesTo signals ∧
        ((CushionDecay.tick · signals)^[later] decay).motionPpm = 0 := by
  cases on : decay.enabled with
  | false =>
    have still (later : ℕ) : (CushionDecay.tick · signals)^[later] decay = decay :=
      Function.iterate_fixed (by rw [CushionDecay.tick, if_pos (by simp [on])]) later
    refine ⟨0, fun later _ => ?_⟩
    rw [still, comesTo, if_pos (by simp [on])]
    exact (bounded.off on).1
  | true =>
    rw [comesTo, if_neg (by simp [on])]
    cases locked : signals.locked with
    | true =>
      rw [if_pos rfl]
      have reaches := (bounded.tick_ready on locked).reaches locked (deep locked) rfl
      obtain ⟨count, rests⟩ := (reaches.later).lasts
        fun _ resting => resting.tick locked (deep locked)
      exact ⟨count, fun later since => ⟨(rests later since).held, (rests later since).still⟩⟩
    | false =>
      rw [if_neg Bool.false_ne_true]
      obtain ⟨count, rests⟩ := (unlocked_reaches on locked).lasts fun _ idle => idle.tick locked
      exact ⟨count, fun later since => ⟨(rests later since).held, (rests later since).still⟩⟩

/-- The learned depth does not fall while the host stays connected and its timing does not newly fail. -/
def KeepsLearned (decay : CushionDecay) : Prop :=
  ∀ calls : List Call, Along (fun decay call => sameEpoch decay call = true) CushionDecay.call decay calls →
    decay.learnedFloor ≤ (calls.foldl CushionDecay.call decay).learnedFloor

/-- A depth below the ceiling that an interruption shorter than a pause ended is not held again. -/
def AvoidsFailed (decay : CushionDecay) : Prop :=
  ∀ (during after : List Call) (signals : DecaySignals), decay.interruptedAt = none → decay.heldFrames < decay.ceiling →
    Along (fun decay call => stalls decay call = true) CushionDecay.call (decay.snapBack .unlocked) during →
    during.countP Call.isTick < decay.pausePeriods → signals.locked = true →
    let back := (during.foldl CushionDecay.call (decay.snapBack .unlocked)).tick signals
    Along (fun decay call => sameEpoch decay call = true) CushionDecay.call back after →
      (min (decay.heldFrames + 2 * decay.periodFrames) decay.ceiling : ℕ) ≤ (after.foldl CushionDecay.call back).held

/-- With the same signals again and again the lane comes to its depth exactly and stays. -/
def ComesToRest (decay : CushionDecay) : Prop :=
  ∀ signals : DecaySignals, (signals.locked = true → signals.bufferLow = false) →
    ∃ count, ∀ later, count ≤ later →
      ((CushionDecay.tick · signals)^[later] decay).held = decay.comesTo signals ∧
        ((CushionDecay.tick · signals)^[later] decay).motionPpm = 0

end CushionDecay

theorem cushion_keeps_its_bounds_and_what_it_learned (params : DecayParams) (ceiling periodFrames sampleRate : ℕ) (maxAdjustPpm : ℚ)
    (calls : List CushionDecay.Call) :
    let start := params.build ceiling periodFrames sampleRate maxAdjustPpm
    let decay := calls.foldl CushionDecay.call start
    (start.floor ≤ decay.learnedFloor ∧ decay.learnedFloor ≤ start.ceiling) ∧
      ((start.floor : ℚ) ≤ decay.held ∧ decay.held ≤ start.ceiling) ∧ |decay.motionPpm| ≤ bufferAdjustPpm ∧
      decay.KeepsLearned ∧ decay.AvoidsFailed ∧ decay.ComesToRest := by
  intro start decay
  have bounded : decay.Bounded := (params.build_bounded ceiling periodFrames sampleRate maxAdjustPpm).calls calls
  have settings : decay.settings = start.settings := start.calls_settings calls
  have floor : decay.floor = start.floor := congrArg CushionDecay.Settings.floor settings
  have top : decay.ceiling = start.ceiling := congrArg CushionDecay.Settings.ceiling settings
  have ordered := decay.ordered
  rw [floor, top] at ordered
  refine ⟨ordered, ?_, bounded.motion, fun calls same => (CushionDecay.calls_grow same).learned, ?_, fun _ => bounded.comes_to_rest⟩
  · rw [← top]
    exact ⟨le_trans (by exact_mod_cast ordered.1) bounded.held.1, bounded.held.2⟩
  · intro during after signals free below stalled short locked back same
    have failed := bounded.stall free below stalled short locked same
    have held := (((bounded.snapBack .unlocked).calls during).tick signals).calls after |>.held.1
    exact le_trans (by exact_mod_cast failed) held

namespace CushionDecay

def passing : DecaySignals := ⟨true, true, false⟩

-- A lane whose host connected, that came down for some periods.
def descended (ceiling periods : ℕ) : CushionDecay :=
  (Call.context 1 false true :: List.replicate periods (.tick passing)).foldl CushionDecay.call
    (DecayParams.build ⟨true, 0, 0⟩ ceiling 64 48000 0)

-- The stall is over before it began to count.
def stalled : List Call := [.snapBack .unlocked, .tick passing]

-- The output is lost before the input comes back.
def stalledUnheard : List Call := [.snapBack .unlocked, .outputLost, .tick passing]

/-- Newly failed timing, a lost output and a stall at the ceiling leave a depth that failed open again. -/
theorem a_failed_depth_is_held_again :
    (let learned := stalled.foldl CushionDecay.call (descended 120 6)
      let retimed := learned.call (.context 1 true true)
      retimed.connection = learned.connection ∧ retimed.learnedFloor < learned.learnedFloor) ∧
      (let failed := descended 115 20
        let again := stalledUnheard.foldl CushionDecay.call failed
        failed.heldFrames < failed.ceiling ∧ again.heldFrames = failed.heldFrames) ∧
      (let failed := descended 120 1
        let again := (List.replicate 6 (.tick passing)).foldl CushionDecay.call (stalled.foldl CushionDecay.call failed)
        failed.heldFrames = failed.ceiling ∧ again.heldFrames < failed.ceiling) := by
  decide +kernel

end CushionDecay

theorem a_short_stall_deepens_the_cushion :
    (CushionDecay.descended 120 6).heldFrames = 119 ∧
      (120 : ℚ) ≤ (CushionDecay.stalled.foldl CushionDecay.call (CushionDecay.descended 120 6)).held := by
  have law := cushion_keeps_its_bounds_and_what_it_learned ⟨true, 0, 0⟩ 120 64 48000 0
    (.context 1 false true :: List.replicate 6 (.tick CushionDecay.passing))
  have deeper := law.2.2.2.2.1 [] [] CushionDecay.passing (by decide +kernel) (by decide +kernel) trivial (by decide +kernel) rfl trivial
  have failed : (CushionDecay.descended 120 6).heldFrames = 119 := by decide +kernel
  have top : (min (119 + 2 * (CushionDecay.descended 120 6).periodFrames) (CushionDecay.descended 120 6).ceiling : ℕ) = 120 := by
    decide +kernel
  refine ⟨failed, le_trans ?_ deeper⟩
  have bound : (min ((CushionDecay.descended 120 6).heldFrames + 2 * (CushionDecay.descended 120 6).periodFrames)
      (CushionDecay.descended 120 6).ceiling : ℕ) = 120 := by
    rw [failed]
    exact top
  exact_mod_cast bound.ge

end Jts.Fanin
