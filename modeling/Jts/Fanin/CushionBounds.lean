import Jts.Fanin.Cushion
import Jts.Shared.Transition

set_option autoImplicit false

namespace Jts.Fanin

open Jts.Shared.Transition

namespace CushionDecay

variable {decay : CushionDecay} {signals : DecaySignals}

/-- What a cushion keeps: it holds between what it has learned and its ceiling, and moves within the limit. -/
structure Bounded (decay : CushionDecay) : Prop where
  held : (decay.learnedFloor : ℚ) ≤ decay.held ∧ decay.held ≤ decay.ceiling
  motion : |decay.motionPpm| ≤ bufferAdjustPpm
  good : ∀ target ∈ decay.lastGood, target = decay.learnedFloor
  pending : decay.interruptedAt.isSome = true → decay.idlePeriods < decay.pausePeriods →
    decay.held = decay.ceiling ∧ decay.motionPpm = 0
  off : decay.enabled = false → (decay.held = decay.ceiling ∧ decay.motionPpm = 0) ∧ decay.lastGood = none

theorem abs_zero_le_adjust : |(0 : ℚ)| ≤ bufferAdjustPpm := by
  rw [abs_zero]
  norm_num [bufferAdjustPpm]

theorem ceiling_bounds (decay : CushionDecay) : (decay.learnedFloor : ℚ) ≤ decay.ceiling ∧ (decay.ceiling : ℚ) ≤ decay.ceiling :=
  ⟨by exact_mod_cast decay.ordered.2, le_rfl⟩

theorem heldFrames_of_eq {frames : ℕ} (held : decay.held = frames) : decay.heldFrames = frames := by
  rw [heldFrames, held]
  exact Nat.floor_eq_iff (by positivity) |>.mpr ⟨by linarith, by linarith⟩

theorem Bounded.snapBack (bounded : decay.Bounded) (reason : DecayFrozenReason) : (decay.snapBack reason).Bounded := by
  rw [CushionDecay.snapBack]
  split
  · exact bounded
  next on =>
    have on : decay.enabled = true := by simpa using on
    dsimp only
    split
    · split
      · exact ⟨decay.ceiling_bounds, abs_zero_le_adjust, bounded.good, fun _ _ => ⟨rfl, rfl⟩,
          fun off => absurd (on.symm.trans off) nofun⟩
      · exact ⟨decay.ceiling_bounds, abs_zero_le_adjust, bounded.good, fun _ _ => ⟨rfl, rfl⟩,
          fun off => absurd (on.symm.trans off) nofun⟩
    next other =>
      exact ⟨bounded.held, abs_zero_le_adjust, nofun, fun interrupted short => ⟨(bounded.pending interrupted short).1, rfl⟩,
        fun off => absurd (on.symm.trans off) nofun⟩

theorem Bounded.reuse (bounded : decay.Bounded) (settled : decay.interruptedAt = none ∨ decay.pausePeriods ≤ decay.idlePeriods) :
    decay.reuseLastGood.Bounded := by
  rw [CushionDecay.reuseLastGood]
  split
  · split
    next target good =>
      have shallow : target = decay.learnedFloor := bounded.good target (Option.mem_def.mpr good)
      refine ⟨?_, bounded.motion, bounded.good, fun interrupted short => ?_,
        fun off => absurd (good.symm.trans (bounded.off off).2) nofun⟩
      · dsimp only
        rw [shallow]
        exact ⟨le_rfl, by exact_mod_cast decay.ordered.2⟩
      · rcases settled with none | long
        · simp [none] at interrupted
        · exact absurd short (not_lt.mpr long)
    next => exact bounded
  · exact bounded

theorem Bounded.outputLost (bounded : decay.Bounded) : decay.outputLost.Bounded :=
  Bounded.reuse ⟨bounded.held, bounded.motion, bounded.good, nofun, bounded.off⟩ (.inl rfl)

theorem Bounded.holdForReopen (bounded : decay.Bounded) : decay.holdForReopen.Bounded :=
  ⟨bounded.held, abs_zero_le_adjust, bounded.good,
    fun interrupted short => ⟨(bounded.pending interrupted short).1, rfl⟩,
    fun off => ⟨⟨(bounded.off off).1.1, rfl⟩, (bounded.off off).2⟩⟩

theorem Bounded.context (bounded : decay.Bounded) (connection : ℕ) (failed locked : Bool) :
    (decay.context connection failed locked).Bounded := by
  let fresh : CushionDecay := { decay with
    lastGood := none
    interruptedAt := none
    reused := false
    learnedFloor := decay.floor
    ordered := ⟨le_rfl, decay.ordered.1.trans decay.ordered.2⟩ }
  have start : fresh.Bounded :=
    ⟨⟨le_trans (by exact_mod_cast decay.ordered.1) bounded.held.1, bounded.held.2⟩, bounded.motion, nofun, nofun,
      fun off => ⟨(bounded.off off).1, rfl⟩⟩
  have back := start.snapBack .notL0
  have unbound {settled : CushionDecay} (bounded : settled.Bounded) :
      ({ settled with connection := connection, failed := failed } : CushionDecay).Bounded :=
    ⟨bounded.held, bounded.motion, bounded.good, bounded.pending, bounded.off⟩
  rw [CushionDecay.context]
  refine unbound ?_
  split
  · dsimp only
    split
    · exact back
    · exact ⟨(fresh.snapBack .notL0).ceiling_bounds, back.motion, back.good,
        fun interrupted short => ⟨rfl, (back.pending interrupted short).2⟩, fun off => ⟨⟨rfl, (back.off off).1.2⟩, (back.off off).2⟩⟩
  · exact bounded

theorem integrated_bounds (decay : CushionDecay) :
    (decay.learnedFloor : ℚ) ≤ decay.integrated ∧ decay.integrated ≤ decay.ceiling :=
  ⟨le_max_left _ _, max_le (by exact_mod_cast decay.ordered.2) (min_le_right _ _)⟩

theorem Bounded.tickUnlocked (bounded : decay.Bounded) (on : decay.enabled = true) : decay.tickUnlocked.Bounded := by
  have idle : ({ decay with motionPpm := 0, idlePeriods := decay.idlePeriods + 1 } : CushionDecay).Bounded :=
    ⟨bounded.held, abs_zero_le_adjust, bounded.good,
      fun interrupted short => ⟨(bounded.pending interrupted (Nat.lt_of_succ_lt short)).1, rfl⟩,
      fun off => absurd (on.symm.trans off) nofun⟩
  rw [CushionDecay.tickUnlocked]
  dsimp only
  split
  next long =>
    have reused := idle.reuse (.inr long)
    exact ⟨reused.held, reused.motion, reused.good, reused.pending, reused.off⟩
  next => exact ⟨idle.held, idle.motion, idle.good, idle.pending, idle.off⟩

/-- The state of a locked lane before it steers: nothing is interrupted any more. -/
theorem Bounded.relocked (bounded : decay.Bounded) (on : decay.enabled = true) :
    ({ ({ decay with held := decay.integrated } : CushionDecay).relocked with idlePeriods := 0 } : CushionDecay).Bounded ∧
      ({ decay with held := decay.integrated } : CushionDecay).relocked.interruptedAt = none := by
  rw [CushionDecay.relocked]
  dsimp only
  split
  next none =>
    exact ⟨⟨decay.integrated_bounds, bounded.motion, bounded.good, by simp [none], fun off => absurd (on.symm.trans off) nofun⟩, none⟩
  next failedTarget candidate =>
    split
    · exact ⟨⟨decay.integrated_bounds, bounded.motion, bounded.good, nofun, fun off => absurd (on.symm.trans off) nofun⟩, rfl⟩
    split
    next short =>
      obtain ⟨full, still⟩ := bounded.pending (by rw [candidate]; rfl) short.1
      have stays : decay.integrated = decay.ceiling := by
        rw [integrated, full, still, zero_mul, zero_div, sub_zero, min_self]
        exact max_eq_right (by exact_mod_cast decay.ordered.2)
      refine ⟨⟨?_, bounded.motion, nofun, nofun, fun off => absurd (on.symm.trans off) nofun⟩, rfl⟩
      dsimp only [learn]
      rw [stays]
      exact ⟨by exact_mod_cast min_le_right _ _, le_rfl⟩
    next => exact ⟨⟨decay.integrated_bounds, bounded.motion, bounded.good, nofun, fun off => absurd (on.symm.trans off) nofun⟩, rfl⟩

theorem abs_adjust_le {gap : ℚ} (ahead : 0 ≤ gap) (periodFrames : ℕ) :
    |min bufferAdjustPpm (gap * 1000000 / periodFrames)| ≤ bufferAdjustPpm := by
  have limit : (0 : ℚ) ≤ bufferAdjustPpm := by norm_num [bufferAdjustPpm]
  rw [abs_of_nonneg (le_min limit (by positivity))]
  exact min_le_left _ _

theorem Bounded.settle (bounded : decay.Bounded) (on : decay.enabled = true) : (decay.settle signals).Bounded := by
  rw [CushionDecay.settle]
  split
  next resting =>
    refine ⟨bounded.held, bounded.motion, fun target good => ?_, bounded.pending, fun off => absurd (on.symm.trans off) nofun⟩
    dsimp only at good
    split at good
    · rw [← Option.some.inj good, heldFrames_of_eq resting.1]
    · exact bounded.good target good
  next => exact ⟨bounded.held, bounded.motion, bounded.good, bounded.pending, bounded.off⟩

theorem Bounded.descend (bounded : decay.Bounded) (on : decay.enabled = true) (free : decay.interruptedAt = none) :
    (decay.descend signals).Bounded := by
  have moving {motion : ℚ} (limit : |motion| ≤ bufferAdjustPpm) (stable : ℕ) (reason : Option DecayFrozenReason) :
      ({ decay with stablePeriods := stable, motionPpm := motion, frozenReason := reason } : CushionDecay).Bounded :=
    ⟨bounded.held, limit, bounded.good, by simp [free], fun off => absurd (on.symm.trans off) nofun⟩
  rw [CushionDecay.descend]
  dsimp only
  split
  · exact moving abs_zero_le_adjust _ _
  split
  next above => exact moving (abs_adjust_le (sub_nonneg.mpr above.le) _) _ _
  next => exact moving abs_zero_le_adjust _ _

theorem settle_free (decay : CushionDecay) (signals : DecaySignals) :
    (decay.settle signals).enabled = decay.enabled ∧ (decay.settle signals).interruptedAt = decay.interruptedAt := by
  rw [settle]
  split
  · exact ⟨rfl, rfl⟩
  · exact ⟨rfl, rfl⟩

theorem Bounded.steer (bounded : decay.Bounded) (on : decay.enabled = true) (free : decay.interruptedAt = none) :
    (decay.steer signals).Bounded := by
  rw [CushionDecay.steer]
  split
  · have stopped : ({ decay with motionPpm := 0, stablePeriods := 0 } : CushionDecay).Bounded :=
      ⟨bounded.held, abs_zero_le_adjust, bounded.good, by simp [free],
        fun off => absurd (on.symm.trans off) nofun⟩
    exact stopped.snapBack .notL0
  · obtain ⟨stillOn, stillFree⟩ := decay.settle_free signals
    have settled : (decay.settle signals).Bounded := bounded.settle on
    dsimp only
    split
    · exact ⟨settled.held, abs_zero_le_adjust, settled.good, by simp [stillFree, free],
        fun off => absurd ((stillOn.trans on).symm.trans off) nofun⟩
    · exact settled.descend (stillOn.trans on) (stillFree.trans free)

theorem relocked_enabled (decay : CushionDecay) : decay.relocked.enabled = decay.enabled := by
  rw [relocked]
  split
  · rfl
  · dsimp only
    split
    · rfl
    split
    · rfl
    · rfl

theorem Bounded.tickLocked (bounded : decay.Bounded) (on : decay.enabled = true) : (decay.tickLocked signals).Bounded := by
  obtain ⟨moved, free⟩ := bounded.relocked on
  have movedOn := ({ decay with held := decay.integrated } : CushionDecay).relocked_enabled.trans on
  rw [CushionDecay.tickLocked]
  dsimp only
  split
  · split
    next below =>
      refine ⟨moved.held, ?_, moved.good, by simp [free], fun off => absurd (movedOn.symm.trans off) nofun⟩
      dsimp only
      rw [abs_neg]
      exact abs_adjust_le (sub_nonneg.mpr below.le) _
    next => exact Bounded.steer ⟨moved.held, moved.motion, moved.good, moved.pending, moved.off⟩ movedOn free
  · exact moved.steer movedOn free

theorem Bounded.tick (bounded : decay.Bounded) (signals : DecaySignals) : (decay.tick signals).Bounded := by
  rw [CushionDecay.tick]
  split
  · exact bounded
  next on =>
    have on : decay.enabled = true := by simpa using on
    split
    · exact bounded.tickLocked on
    · exact bounded.tickUnlocked on

theorem Bounded.call (bounded : decay.Bounded) (call : Call) : (decay.call call).Bounded := by
  cases call with
  | tick signals => exact bounded.tick signals
  | context connection failed locked => exact bounded.context connection failed locked
  | snapBack reason => exact bounded.snapBack reason
  | holdForReopen => exact bounded.holdForReopen
  | outputLost => exact bounded.outputLost

theorem Bounded.calls (bounded : decay.Bounded) (calls : List Call) : (calls.foldl CushionDecay.call decay).Bounded := by
  induction calls generalizing decay with
  | nil => exact bounded
  | cons call calls ih => exact ih (bounded.call call)

end CushionDecay

theorem DecayParams.build_bounded (params : DecayParams) (ceiling periodFrames sampleRate : ℕ) (maxAdjustPpm : ℚ) :
    (params.build ceiling periodFrames sampleRate maxAdjustPpm).Bounded :=
  ⟨CushionDecay.ceiling_bounds _, CushionDecay.abs_zero_le_adjust, nofun, nofun, fun _ => ⟨⟨rfl, rfl⟩, rfl⟩⟩

end Jts.Fanin
