import Jts.Fanin.CushionBounds

set_option autoImplicit false

namespace Jts.Fanin

open Jts.Shared.Transition

namespace CushionDecay

variable {decay next last : CushionDecay} {signals : DecaySignals}

structure Settings where
  enabled : Bool
  ceiling : ℕ
  floor : ℕ
  periodFrames : ℕ
  stabilityPeriods : ℕ
  pausePeriods : ℕ

def settings (decay : CushionDecay) : Settings where
  enabled := decay.enabled
  ceiling := decay.ceiling
  floor := decay.floor
  periodFrames := decay.periodFrames
  stabilityPeriods := decay.stabilityPeriods
  pausePeriods := decay.pausePeriods

structure Keeps (decay next : CushionDecay) : Prop where
  settings : next.settings = decay.settings
  epoch : next.connection = decay.connection ∧ next.failed = decay.failed
  learned : next.learnedFloor = decay.learnedFloor

structure Grows (decay next : CushionDecay) : Prop where
  settings : next.settings = decay.settings
  learned : decay.learnedFloor ≤ next.learnedFloor

theorem Keeps.after (keeps : next.Keeps last) (before : decay.Keeps next) : decay.Keeps last :=
  ⟨keeps.settings.trans before.settings,
    ⟨keeps.epoch.1.trans before.epoch.1, keeps.epoch.2.trans before.epoch.2⟩, keeps.learned.trans before.learned⟩

theorem Keeps.grows (keeps : decay.Keeps next) : decay.Grows next :=
  ⟨keeps.settings, keeps.learned.ge⟩

theorem Grows.trans (before : decay.Grows next) (after : next.Grows last) : decay.Grows last :=
  ⟨after.settings.trans before.settings, before.learned.trans after.learned⟩

theorem snapBack_keeps (decay : CushionDecay) (reason : DecayFrozenReason) : decay.Keeps (decay.snapBack reason) := by
  rw [snapBack]
  split
  · exact ⟨rfl, ⟨rfl, rfl⟩, rfl⟩
  dsimp only
  split
  · split
    · exact ⟨rfl, ⟨rfl, rfl⟩, rfl⟩
    · exact ⟨rfl, ⟨rfl, rfl⟩, rfl⟩
  · exact ⟨rfl, ⟨rfl, rfl⟩, rfl⟩

theorem reuseLastGood_keeps (decay : CushionDecay) : decay.Keeps decay.reuseLastGood := by
  rw [reuseLastGood]
  split
  · split
    · exact ⟨rfl, ⟨rfl, rfl⟩, rfl⟩
    · exact ⟨rfl, ⟨rfl, rfl⟩, rfl⟩
  · exact ⟨rfl, ⟨rfl, rfl⟩, rfl⟩

theorem outputLost_keeps (decay : CushionDecay) : decay.Keeps decay.outputLost :=
  (reuseLastGood_keeps { decay with interruptedAt := none }).after ⟨rfl, ⟨rfl, rfl⟩, rfl⟩

theorem tickUnlocked_keeps (decay : CushionDecay) : decay.Keeps decay.tickUnlocked := by
  rw [tickUnlocked]
  dsimp only
  split
  next =>
    have reused := reuseLastGood_keeps { decay with motionPpm := 0, idlePeriods := decay.idlePeriods + 1 }
    exact ⟨reused.settings, reused.epoch, reused.learned⟩
  next => exact ⟨rfl, ⟨rfl, rfl⟩, rfl⟩

theorem settle_keeps (decay : CushionDecay) (signals : DecaySignals) : decay.Keeps (decay.settle signals) := by
  rw [settle]
  split
  · exact ⟨rfl, ⟨rfl, rfl⟩, rfl⟩
  · exact ⟨rfl, ⟨rfl, rfl⟩, rfl⟩

theorem descend_keeps (decay : CushionDecay) (signals : DecaySignals) : decay.Keeps (decay.descend signals) := by
  rw [descend]
  dsimp only
  split
  · exact ⟨rfl, ⟨rfl, rfl⟩, rfl⟩
  split
  · exact ⟨rfl, ⟨rfl, rfl⟩, rfl⟩
  · exact ⟨rfl, ⟨rfl, rfl⟩, rfl⟩

theorem steer_keeps (decay : CushionDecay) (signals : DecaySignals) : decay.Keeps (decay.steer signals) := by
  rw [steer]
  split
  · exact (snapBack_keeps { decay with motionPpm := 0, stablePeriods := 0 } .notL0).after ⟨rfl, ⟨rfl, rfl⟩, rfl⟩
  have settled := decay.settle_keeps signals
  dsimp only
  split
  · exact ⟨settled.settings, settled.epoch, settled.learned⟩
  · exact (descend_keeps _ signals).after settled

theorem relocked_grows (decay : CushionDecay) : decay.Grows decay.relocked := by
  rw [relocked]
  split
  · exact ⟨rfl, le_rfl⟩
  dsimp only
  split
  · exact ⟨rfl, le_rfl⟩
  split
  · exact ⟨rfl, le_min (le_max_right _ _) decay.ordered.2⟩
  · exact ⟨rfl, le_rfl⟩

theorem tickLocked_keeps (decay : CushionDecay) (signals : DecaySignals) :
    ({ decay with held := decay.integrated } : CushionDecay).relocked.Keeps (decay.tickLocked signals) := by
  rw [tickLocked]
  dsimp only
  split
  · split
    · exact ⟨rfl, ⟨rfl, rfl⟩, rfl⟩
    · exact (steer_keeps _ signals).after ⟨rfl, ⟨rfl, rfl⟩, rfl⟩
  · exact (steer_keeps _ signals).after ⟨rfl, ⟨rfl, rfl⟩, rfl⟩

theorem tick_grows (decay : CushionDecay) (signals : DecaySignals) : decay.Grows (decay.tick signals) := by
  rw [tick]
  split
  · exact ⟨rfl, le_rfl⟩
  split
  · have relocked := relocked_grows { decay with held := decay.integrated }
    exact Grows.trans ⟨relocked.settings, relocked.learned⟩ (decay.tickLocked_keeps signals).grows
  · exact decay.tickUnlocked_keeps.grows

theorem context_settings (decay : CushionDecay) (connection : ℕ) (failed locked : Bool) :
    (decay.context connection failed locked).settings = decay.settings := by
  rw [context]
  split
  · have fresh := (snapBack_keeps { decay with
      lastGood := none
      interruptedAt := none
      reused := false
      learnedFloor := decay.floor
      ordered := ⟨le_rfl, decay.ordered.1.trans decay.ordered.2⟩ } .notL0).settings
    dsimp only
    split
    · exact fresh
    · exact fresh
  · rfl

theorem call_settings (decay : CushionDecay) (call : Call) : (decay.call call).settings = decay.settings := by
  cases call with
  | tick signals => exact (decay.tick_grows signals).settings
  | context connection failed locked => exact decay.context_settings connection failed locked
  | snapBack reason => exact (decay.snapBack_keeps reason).settings
  | holdForReopen => rfl
  | outputLost => exact decay.outputLost_keeps.settings

theorem calls_settings (decay : CushionDecay) (calls : List Call) :
    (calls.foldl CushionDecay.call decay).settings = decay.settings := by
  induction calls generalizing decay with
  | nil => rfl
  | cons call calls ih => exact (ih _).trans (decay.call_settings call)

/-- A call that leaves the host connected as it was, its timing not newly failed. -/
def sameEpoch (decay : CushionDecay) : Call → Bool
  | .context connection failed _ => !decay.invalidates connection failed
  | .tick _ | .snapBack _ | .holdForReopen | .outputLost => true

/-- A call while the lane waits for its input to come back. -/
def stalls (decay : CushionDecay) : Call → Bool
  | .tick signals => !signals.locked
  | .context connection failed _ => !decay.invalidates connection failed
  | .snapBack _ | .holdForReopen => true
  | .outputLost => false

def Call.isTick : Call → Bool
  | .tick _ => true
  | .context .. | .snapBack _ | .holdForReopen | .outputLost => false

theorem context_same {connection : ℕ} {failed : Bool} (same : (!decay.invalidates connection failed) = true) (locked : Bool) :
    decay.context connection failed locked = { decay with connection := connection, failed := failed } := by
  have valid : decay.invalidates connection failed = false := by simpa using same
  rw [context, if_neg (by simp [valid])]

theorem call_grows (call : Call) (same : decay.sameEpoch call = true) : decay.Grows (decay.call call) := by
  cases call with
  | tick signals => exact decay.tick_grows signals
  | context connection failed locked =>
    rw [CushionDecay.call, context_same same]
    exact ⟨rfl, le_rfl⟩
  | snapBack reason => exact (decay.snapBack_keeps reason).grows
  | holdForReopen => exact ⟨rfl, le_rfl⟩
  | outputLost => exact decay.outputLost_keeps.grows

theorem calls_grow {calls : List Call} (same : Along (fun decay call => sameEpoch decay call = true) call decay calls) :
    decay.Grows (calls.foldl CushionDecay.call decay) := by
  induction calls generalizing decay with
  | nil => exact ⟨rfl, le_rfl⟩
  | cons call calls ih => exact (call_grows call same.1).trans (ih same.2)

/-- A lane that waits since it held a depth, for the unlocked periods counted. -/
structure Waiting (decay : CushionDecay) (depth idle : ℕ) : Prop where
  on : decay.enabled = true
  candidate : decay.interruptedAt = some depth
  fresh : decay.reused = false
  counted : decay.idlePeriods = idle

variable {depth idle : ℕ}

theorem Waiting.snapBack (waiting : decay.Waiting depth idle) (reason : DecayFrozenReason) :
    (decay.snapBack reason).Waiting depth idle := by
  have kept : decay.interruptedAt.isNone = false := by rw [waiting.candidate, Option.isNone_some]
  rw [CushionDecay.snapBack]
  split
  next off => simp [waiting.on] at off
  dsimp only
  split
  · rw [if_neg (by simp [kept])]
    exact ⟨waiting.on, waiting.candidate, waiting.fresh, waiting.counted⟩
  · exact ⟨waiting.on, waiting.candidate, rfl, waiting.counted⟩

theorem Waiting.tick (waiting : decay.Waiting depth idle) (unlocked : (!signals.locked) = true) (short : idle + 1 < decay.pausePeriods) :
    (decay.tick signals).Waiting depth (idle + 1) := by
  have unlocked : signals.locked = false := by simpa using unlocked
  have early : ¬decay.pausePeriods ≤ decay.idlePeriods + 1 := by
    rw [waiting.counted]
    omega
  rw [CushionDecay.tick, if_neg (by simp [waiting.on]), if_neg (by simp [unlocked]), CushionDecay.tickUnlocked]
  simp only [early, if_false]
  exact ⟨waiting.on, waiting.candidate, waiting.fresh, congrArg (· + 1) waiting.counted⟩

theorem Waiting.calls {calls : List Call} (waiting : decay.Waiting depth idle)
    (stalled : Along (fun decay call => stalls decay call = true) call decay calls)
    (short : idle + calls.countP Call.isTick < decay.pausePeriods) :
    (calls.foldl CushionDecay.call decay).Waiting depth (idle + calls.countP Call.isTick) := by
  induction calls generalizing decay idle with
  | nil => exact waiting
  | cons call calls ih =>
    have pause : (decay.call call).pausePeriods = decay.pausePeriods := congrArg Settings.pausePeriods (decay.call_settings call)
    obtain ⟨stall, later⟩ := stalled
    have onward (periods : ℕ) (waits : (decay.call call).Waiting depth periods)
        (count : idle + (call :: calls).countP Call.isTick = periods + calls.countP Call.isTick) :
        (calls.foldl CushionDecay.call (decay.call call)).Waiting depth (idle + (call :: calls).countP Call.isTick) := by
      rw [count] at short ⊢
      exact ih waits later (pause.symm ▸ short)
    cases call with
    | tick signals =>
      have count : idle + (Call.tick signals :: calls).countP Call.isTick = idle + 1 + calls.countP Call.isTick := by
        rw [List.countP_cons_of_pos rfl]
        omega
      exact onward _ (waiting.tick stall (by omega)) count
    | context connection failed locked =>
      refine onward idle ?_ rfl
      rw [CushionDecay.call, context_same stall]
      exact ⟨waiting.on, waiting.candidate, waiting.fresh, waiting.counted⟩
    | snapBack reason => exact onward _ (waiting.snapBack reason) rfl
    | holdForReopen => exact onward idle ⟨waiting.on, waiting.candidate, waiting.fresh, waiting.counted⟩ rfl
    | outputLost => exact absurd stall Bool.false_ne_true

theorem Waiting.relocked (waiting : decay.Waiting depth idle) (short : idle < decay.pausePeriods) (below : depth < decay.ceiling)
    (locked : signals.locked = true) :
    min (depth + 2 * decay.periodFrames) decay.ceiling ≤ (decay.tick signals).learnedFloor := by
  have learns : ({ decay with held := decay.integrated } : CushionDecay).relocked.learnedFloor =
      min (max (depth + 2 * decay.periodFrames) decay.learnedFloor) decay.ceiling := by
    simp only [CushionDecay.relocked, waiting.candidate, waiting.fresh, Bool.false_eq_true, if_false, waiting.counted, short, below,
      and_self, if_true, learn]
  rw [CushionDecay.tick, if_neg (by simp [waiting.on]), if_pos locked, (decay.tickLocked_keeps signals).learned, learns]
  exact min_le_min_right _ (le_max_left _ _)

/-- A depth that an interruption shorter than a pause found too shallow is not held again. -/
theorem Bounded.stall (bounded : decay.Bounded) (free : decay.interruptedAt = none) (below : decay.heldFrames < decay.ceiling)
    {during after : List Call}
    (stalled : Along (fun decay call => stalls decay call = true) CushionDecay.call (decay.snapBack .unlocked) during)
    (short : during.countP Call.isTick < decay.pausePeriods) (locked : signals.locked = true)
    (same : Along (fun decay call => sameEpoch decay call = true) CushionDecay.call
      ((during.foldl CushionDecay.call (decay.snapBack .unlocked)).tick signals) after) :
    min (decay.heldFrames + 2 * decay.periodFrames) decay.ceiling ≤
      (after.foldl CushionDecay.call ((during.foldl CushionDecay.call (decay.snapBack .unlocked)).tick signals)).learnedFloor := by
  have on : decay.enabled = true := by
    by_contra off
    have full := heldFrames_of_eq (bounded.off (by simpa using off)).1.1
    omega
  have waiting : (decay.snapBack .unlocked).Waiting decay.heldFrames 0 := by
    simp only [CushionDecay.snapBack, on, Bool.not_true, Bool.false_eq_true, if_false, if_true, free, Option.isNone_none]
    exact ⟨rfl, rfl, rfl, rfl⟩
  have settings := (calls_settings (decay.snapBack .unlocked) during).trans (decay.snapBack_keeps .unlocked).settings
  have pause := congrArg Settings.pausePeriods settings
  have ceiling := congrArg Settings.ceiling settings
  have period := congrArg Settings.periodFrames settings
  dsimp only [CushionDecay.settings] at pause ceiling period
  have waits := waiting.calls stalled (by
    have begun := congrArg Settings.pausePeriods (decay.snapBack_keeps .unlocked).settings
    dsimp only [CushionDecay.settings] at begun
    omega)
  have learned := waits.relocked (by omega) (by omega) locked
  rw [ceiling, period] at learned
  exact learned.trans (calls_grow same).learned

end CushionDecay

end Jts.Fanin
