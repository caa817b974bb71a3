import Jts.Fanin.CushionLearned
import Jts.Fanin.LaneResampler

set_option autoImplicit false

namespace Jts.Fanin

/-- What a lane is built with and never changes. -/
structure Design where
  channels : ℕ
  maxAdjustPpm : ℕ
  enabled : Bool

/-- How far the buffer motion of a lane may go. -/
def motionLimit (enabled : Bool) : ℚ := if enabled then bufferAdjustPpm else 0

-- The rail and the buffer motion together stay short of a cursor that goes backward.
def Design.Forward (design : Design) : Prop := (design.maxAdjustPpm : ℚ) + motionLimit design.enabled ≤ 1000000

variable {State : Type} {dll : Dll State} {design : Design} {history : List (List ℤ)}

/-- A clock state that keeps to the rail of its lane and whose buffer motion is bounded. -/
structure Clocked (design : Design) (clock : RateController State × CushionDecay) : Prop where
  rail : clock.1.maxAdjustPpm = design.maxAdjustPpm
  bounded : clock.2.Bounded
  armed : clock.2.enabled = design.enabled

namespace Clocked

variable {controller : RateController State} {decay : CushionDecay}

theorem call (clocked : Clocked design (controller, decay)) (call : CushionDecay.Call) :
    Clocked design (controller, decay.call call) where
  rail := clocked.rail
  bounded := clocked.bounded.call call
  armed := (congrArg CushionDecay.Settings.enabled (decay.call_settings call)).trans clocked.armed

theorem reset (clocked : Clocked design (controller, decay)) (dll : Dll State) :
    Clocked design (controller.reset dll, decay) :=
  ⟨clocked.rail, clocked.bounded, clocked.armed⟩

end Clocked

namespace RateController

theorem clamped_bounds (controller : RateController State) (rawPpm : ℚ) : -(controller.maxAdjustPpm : ℚ) ≤ controller.clamped rawPpm :=
  le_max_left _ _

theorem nextRatio_rail (dll : Dll State) (controller : RateController State) (errorFrames : ℚ) :
    (controller.nextRatio dll errorFrames).1.maxAdjustPpm = controller.maxAdjustPpm ∧
      1 - (controller.maxAdjustPpm : ℚ) / 1000000 ≤ (controller.nextRatio dll errorFrames).2 := by
  have rail (controller : RateController State) (rawPpm : ℚ) :
      1 - (controller.maxAdjustPpm : ℚ) / 1000000 ≤ 1 + controller.clamped rawPpm / 1000000 := by
    linarith [controller.clamped_bounds rawPpm]
  rw [nextRatio]
  dsimp only
  split
  · exact ⟨rfl, rail { controller with antiWindupCount := controller.antiWindupCount + 1 } _⟩
  · exact ⟨rfl, rail _ _⟩

end RateController

theorem CushionDecay.Bounded.motion_limit {decay : CushionDecay} (bounded : decay.Bounded) : -motionLimit decay.enabled ≤ decay.motionPpm := by
  rw [motionLimit]
  split
  · exact (abs_le.mp bounded.motion).1
  next off =>
    rw [neg_zero]
    exact (bounded.off (by simpa using off)).1.2.ge

namespace LaneResampler

variable {lane : LaneResampler State}

/-- A cursor with the kernel's left taps and one frame more in the ring behind it, and not ahead of what is written. -/
structure Seated (ring : AudioRing) (cursor : ℚ) : Prop where
  left : (ring.readFrame : ℤ) ≤ ⌊cursor⌋ - radiusFrames - 1
  right : cursor ≤ ring.writeFrame

structure Kept (design : Design) (history : List (List ℤ)) (lane : LaneResampler State) : Prop where
  clock : Clocked design (lane.controller, lane.decay)
  checkpoint : ∀ clock ∈ lane.reopenCheckpoint, Clocked design clock
  seated : lane.locked = true → Seated lane.ring lane.nextInputFrame
  wide : lane.channels = design.channels ∧ lane.ring.channels = design.channels
  records : lane.ring.Records history

structure Counters where
  periodFrames : ℕ
  outputFrames : ℕ
  silenceFrames : ℕ
  overrunFrames : ℕ

def counters (lane : LaneResampler State) : Counters where
  periodFrames := lane.periodFrames
  outputFrames := lane.outputFrames
  silenceFrames := lane.silenceFrames
  overrunFrames := lane.overrunFrames

theorem armShutdownRamp_eq (lane : LaneResampler State) :
    ∃ frames, lane.armShutdownRamp = { lane with shutdownRampFramesRemaining := frames } := by
  rw [armShutdownRamp]
  split
  · exact ⟨_, rfl⟩
  · exact ⟨lane.shutdownRampFramesRemaining, rfl⟩

theorem discardInput_counters (lane : LaneResampler State) : lane.discardInput.counters = lane.counters := by
  rw [discardInput]
  obtain ⟨frames, armed⟩ := armShutdownRamp_eq lane.emptied
  rw [armed]
  rfl

theorem Kept.discardInput (kept : lane.Kept design history) : lane.discardInput.Kept design history := by
  rw [LaneResampler.discardInput]
  obtain ⟨frames, armed⟩ := armShutdownRamp_eq lane.emptied
  rw [armed]
  exact ⟨kept.clock, kept.checkpoint, nofun, kept.wide, kept.records.clear⟩

theorem reset_counters (dll : Dll State) (lane : LaneResampler State) : (lane.reset dll).counters = lane.counters := by
  rw [reset, discardInput_counters]
  rfl

theorem Kept.reset (kept : lane.Kept design history) (dll : Dll State) : (lane.reset dll).Kept design history := by
  rw [LaneResampler.reset]
  have clock := (kept.clock.reset dll).call (.snapBack .unlocked)
  have snapped : Kept design history
      ({ lane with reopenCheckpoint := none, reopening := false, controller := lane.controller.reset dll }.snapDecayBack .unlocked) :=
    ⟨clock, fun _ among => absurd among (Option.not_mem_none _), kept.seated, kept.wide, kept.records⟩
  exact snapped.discardInput

theorem reopen_counters (lane : LaneResampler State) : lane.reopen.counters = lane.counters := by
  have taken : lane.restored.counters = lane.counters := by
    rw [restored]
    split
    · rfl
    · rfl
  rw [← taken]
  exact discardInput_counters _

theorem Kept.restored (kept : lane.Kept design history) : lane.restored.Kept design history := by
  rw [LaneResampler.restored]
  split
  next clock decay held =>
    exact ⟨kept.checkpoint _ held, fun _ among => absurd among (Option.not_mem_none _), kept.seated, kept.wide, kept.records⟩
  next => exact kept

theorem Kept.reopen (kept : lane.Kept design history) : lane.reopen.Kept design history := by
  have taken := kept.restored
  have clock := taken.clock.call .holdForReopen
  have waits : Kept design history
      { lane.restored with reopening := true, decay := lane.restored.decay.holdForReopen } :=
    ⟨clock, taken.checkpoint, taken.seated, taken.wide, taken.records⟩
  have discarded := waits.discardInput
  exact ⟨discarded.clock, discarded.checkpoint, discarded.seated, discarded.wide, discarded.records⟩

theorem unlockForUnderfill_counters (dll : Dll State) (lane : LaneResampler State) :
    (lane.unlockForUnderfill dll).counters = lane.counters := by
  rw [unlockForUnderfill]
  obtain ⟨frames, armed⟩ := armShutdownRamp_eq (lane.halted dll)
  rw [armed]
  rfl

theorem Kept.unlockForUnderfill (kept : lane.Kept design history) (dll : Dll State) :
    (lane.unlockForUnderfill dll).Kept design history := by
  have clock := (kept.clock.reset dll).call (.snapBack .unlocked)
  have saved : ∀ clock ∈ some (lane.controller, lane.decay), Clocked design clock := by
    rintro clock ⟨rfl⟩
    exact kept.clock
  rw [LaneResampler.unlockForUnderfill]
  obtain ⟨frames, armed⟩ := armShutdownRamp_eq (lane.halted dll)
  rw [armed]
  have left : (lane.halted dll).ring.channels = design.channels ∧ (lane.halted dll).ring.Records history := by
    rw [halted]
    dsimp only
    split
    · exact ⟨kept.wide.2, kept.records⟩
    · exact ⟨kept.wide.2, kept.records.clear⟩
  exact ⟨clock, saved, nofun, ⟨kept.wide.1, left.1⟩, left.2⟩

theorem tryLock_counters (dll : Dll State) (lane : LaneResampler State) : (lane.tryLock dll).counters = lane.counters := by
  rw [tryLock]
  split
  · rfl
  · rfl

theorem seat_le_writeFrame (full : lane.startupPrefillFrames ≤ lane.ring.fillFrames) : lane.holdFillFrames ≤ lane.ring.writeFrame := by
  rw [startupPrefillFrames, AudioRing.fillFrames] at full
  omega

-- The buffer that a lock waits for is deeper than its seat by the kernel's radius and one.
theorem seated_of_full (full : lane.startupPrefillFrames ≤ lane.ring.fillFrames) :
    Seated (lane.ring.dropBefore (⌊((lane.ring.writeFrame - lane.holdFillFrames : ℕ) : ℚ)⌋ - radiusFrames - 1))
      (lane.ring.writeFrame - lane.holdFillFrames : ℕ) := by
  have seat := seat_le_writeFrame full
  rw [startupPrefillFrames, AudioRing.fillFrames] at full
  have floor : ⌊((lane.ring.writeFrame - lane.holdFillFrames : ℕ) : ℚ)⌋ = (lane.ring.writeFrame - lane.holdFillFrames : ℕ) :=
    Int.floor_natCast _
  constructor
  · refine AudioRing.dropBefore_readFrame_le _ ?_
    rw [floor]
    omega
  · rw [AudioRing.dropBefore_writeFrame]
    exact_mod_cast Nat.sub_le _ _

theorem Kept.tryLock (kept : lane.Kept design history) (dll : Dll State) : (lane.tryLock dll).Kept design history := by
  rw [LaneResampler.tryLock]
  split
  · exact kept
  next full =>
    have clock : Clocked design
        (if lane.reopening then lane.controller else lane.controller.reset dll, lane.decay) := by
      split
      · exact kept.clock
      · exact kept.clock.reset dll
    exact ⟨clock, fun _ among => absurd among (Option.not_mem_none _), fun _ => seated_of_full (not_lt.mp full),
      kept.wide, kept.records.dropBefore _⟩

theorem Seated.inside {ring : AudioRing} {cursor : ℚ} (seated : Seated ring cursor) :
    (ring.readFrame : ℚ) ≤ cursor ∧ cursor ≤ ring.writeFrame := by
  have left : (ring.readFrame : ℤ) ≤ ⌊cursor⌋ := by
    have := seated.left
    omega
  exact ⟨by exact_mod_cast Int.le_floor.mp left, seated.right⟩

theorem caughtUp_of_seated (seated : Seated lane.ring lane.nextInputFrame) : lane.caughtUp = lane := by
  rw [caughtUp, if_neg (not_lt.mpr seated.inside.1)]

/-- A plan that leaves a sound lane, and emits only where the kernel has room ahead of it. -/
structure Planned (design : Design) (history : List (List ℤ)) (plan : LaneResampler State × RenderPlan) : Prop where
  kept : plan.1.Kept design history
  room : ∀ ratio, plan.2 = .emit ratio → plan.1.locked = true ∧ 0 ≤ ratio ∧
    plan.1.nextInputFrame + radiusFrames < plan.1.ring.writeFrame ∧
      plan.1.nextInputFrame + ratio * plan.1.periodFrames + radiusFrames ≤ plan.1.ring.writeFrame

theorem Kept.silent (kept : lane.Kept design history) : Planned design history (lane, .silence) :=
  ⟨kept, nofun⟩

theorem Kept.ratio_nonneg (kept : lane.Kept design history) (dll : Dll State) (limit : design.Forward) :
    0 ≤ (lane.steerRatio dll).2 := by
  have rail := (RateController.nextRatio_rail dll lane.controller (lane.cursorFill - lane.decay.held)).2
  have motion := kept.clock.bounded.motion_limit
  rw [kept.clock.rail] at rail
  rw [kept.clock.armed] at motion
  rw [Design.Forward] at limit
  rw [steerRatio]
  dsimp only at rail motion ⊢
  linarith

theorem Kept.steered (kept : lane.Kept design history) (dll : Dll State) : (lane.steerRatio dll).1.Kept design history := by
  have rail := (RateController.nextRatio_rail dll lane.controller (lane.cursorFill - lane.decay.held)).1
  rw [steerRatio]
  exact ⟨⟨rail.trans kept.clock.rail, kept.clock.bounded, kept.clock.armed⟩, kept.checkpoint, kept.seated, kept.wide, kept.records⟩

theorem Kept.planLocked (kept : lane.Kept design history) (locked : lane.locked = true)
    (limit : design.Forward) : Planned design history (lane.planLocked dll) := by
  rw [LaneResampler.planLocked]
  have published : (lane.publishFill ⌊max lane.cursorFill 0⌋₊).Kept design history :=
    ⟨kept.clock, kept.checkpoint, kept.seated, kept.wide, kept.records⟩
  have steered := published.steered dll
  have ratio := published.ratio_nonneg dll limit
  dsimp only
  split
  · exact (published.unlockForUnderfill dll).silent
  next deep =>
    split
    · exact (steered.unlockForUnderfill dll).silent
    next ahead =>
      refine ⟨steered, ?_⟩
      rintro _ ⟨rfl⟩
      refine ⟨locked, ratio, ?_, not_lt.mp ahead⟩
      have safe : ((radiusFrames + 1 : ℕ) : ℚ) ≤ (lane.publishFill ⌊max lane.cursorFill 0⌋₊).minimumSafeFill := by
        rw [minimumSafeFill, minimumSafeFillFrames]
        exact_mod_cast Nat.le_add_left _ _
      have enough := safe.trans (not_lt.mp deep)
      show lane.nextInputFrame + radiusFrames < lane.ring.writeFrame
      have enough : ((radiusFrames + 1 : ℕ) : ℚ) ≤ lane.ring.writeFrame - lane.nextInputFrame := enough
      push_cast at enough
      linarith

theorem Kept.acquire (kept : lane.Kept design history) (dll : Dll State) : (lane.acquire dll).Kept design history := by
  rw [LaneResampler.acquire]
  split
  · exact kept
  · have published : (lane.publishFill lane.ring.fillFrames).Kept design history :=
      ⟨kept.clock, kept.checkpoint, kept.seated, kept.wide, kept.records⟩
    exact published.tryLock dll

theorem Kept.planPeriod (kept : lane.Kept design history) (dll : Dll State) (limit : design.Forward) :
    Planned design history (lane.planPeriod dll) := by
  have acquired := kept.acquire dll
  rw [LaneResampler.planPeriod]
  split
  next locked =>
    rw [caughtUp_of_seated (acquired.seated locked)]
    exact acquired.planLocked locked limit
  next => exact acquired.silent

theorem planLocked_counters (dll : Dll State) (lane : LaneResampler State) : (lane.planLocked dll).1.counters = lane.counters := by
  rw [planLocked]
  dsimp only
  split
  · exact unlockForUnderfill_counters dll _
  · split
    · exact unlockForUnderfill_counters dll _
    · rfl

theorem planPeriod_counters (dll : Dll State) (lane : LaneResampler State) : (lane.planPeriod dll).1.counters = lane.counters := by
  have acquired : (lane.acquire dll).counters = lane.counters := by
    rw [acquire]
    split
    · rfl
    · exact tryLock_counters dll _
  have caught (lane : LaneResampler State) : lane.caughtUp.counters = lane.counters := by
    rw [caughtUp]
    split
    · rfl
    · rfl
  rw [planPeriod]
  split
  · exact (planLocked_counters dll _).trans ((caught _).trans acquired)
  · exact acquired

theorem emitFrames_eq (ratio : ℚ) (count : ℕ) (lane : LaneResampler State) :
    (emitFrames ratio count lane).1 =
      { lane with
        nextInputFrame := lane.nextInputFrame + ratio * count
        startupRampFramesRemaining := lane.startupRampFramesRemaining - count } := by
  induction count generalizing lane with
  | zero => rw [emitFrames, Nat.cast_zero, mul_zero, add_zero, Nat.sub_zero]
  | succ count ih =>
    rw [emitFrames]
    dsimp only
    rw [ih, advanceCursor]
    dsimp only
    rw [Nat.cast_succ, show lane.nextInputFrame + ratio + ratio * count = lane.nextInputFrame + ratio * (count + 1) by ring,
      Nat.sub_sub, Nat.add_comm 1 count]

theorem emitFrames_length (ratio : ℚ) (count : ℕ) (lane : LaneResampler State) : (emitFrames ratio count lane).2.length = count := by
  induction count generalizing lane with
  | zero => rfl
  | succ count ih => exact congrArg Nat.succ (ih _)

-- The kernel stands where the steps before it took the cursor.
theorem emitFrames_cursors {ratio : ℚ} {count : ℕ} {lane : LaneResampler State} {cursor : ℚ}
    (stood : cursor ∈ (emitFrames ratio count lane).2.map Prod.snd) :
    ∃ step < count, cursor = lane.nextInputFrame + ratio * step := by
  induction count generalizing lane with
  | zero => exact absurd stood List.not_mem_nil
  | succ count ih =>
    rcases List.mem_cons.mp stood with here | later
    · exact ⟨0, Nat.succ_pos _, by rw [here, Nat.cast_zero, mul_zero, add_zero]⟩
    · obtain ⟨step, within, place⟩ := ih later
      refine ⟨step + 1, Nat.succ_lt_succ within, place.trans ?_⟩
      rw [advanceCursor]
      push_cast
      ring

theorem Seated.live {ring : AudioRing} {cursor ratio : ℚ} {count step : ℕ} (seated : Seated ring cursor) (forward : 0 ≤ ratio)
    (near : cursor + radiusFrames < ring.writeFrame) (far : cursor + ratio * count + radiusFrames ≤ ring.writeFrame)
    (within : step < count) {frame : ℤ} (tapped : frame ∈ kernelFrames (cursor + ratio * step)) : ring.Live frame := by
  have ahead : 0 ≤ ratio * step := mul_nonneg forward (Nat.cast_nonneg _)
  refine AudioRing.live_of_between ?_ ?_ tapped
  · have floor : ⌊cursor⌋ ≤ ⌊cursor + ratio * step⌋ := Int.floor_le_floor (by linarith)
    have := seated.left
    omega
  · rcases forward.eq_or_lt with still | moves
    · rw [← still, zero_mul, add_zero]
      exact near
    · have less : ratio * step < ratio * count := mul_lt_mul_of_pos_left (Nat.cast_lt.mpr within) moves
      linarith

theorem Seated.finished {ring : AudioRing} {cursor ratio : ℚ} {count : ℕ} (seated : Seated ring cursor) (forward : 0 ≤ ratio)
    (far : cursor + ratio * count + radiusFrames ≤ ring.writeFrame) :
    Seated (ring.dropBefore (⌊cursor + ratio * count⌋ - radiusFrames - 1)) (cursor + ratio * count) := by
  have ahead : 0 ≤ ratio * count := mul_nonneg forward (Nat.cast_nonneg _)
  have floor : ⌊cursor⌋ ≤ ⌊cursor + ratio * count⌋ := Int.floor_le_floor (by linarith)
  constructor
  · refine AudioRing.dropBefore_readFrame_le _ ?_
    have := seated.left
    omega
  · rw [AudioRing.dropBefore_writeFrame]
    have : (0 : ℚ) ≤ radiusFrames := Nat.cast_nonneg _
    linarith

theorem Kept.renderSilence (kept : lane.Kept design history) : lane.renderSilence.1.Kept design history := by
  rw [LaneResampler.renderSilence]
  split
  · exact ⟨kept.clock, kept.checkpoint, kept.seated, kept.wide, kept.records⟩
  · exact ⟨kept.clock, kept.checkpoint, kept.seated, kept.wide, kept.records⟩

theorem Kept.renderPeriod (kept : lane.Kept design history) (limit : design.Forward) :
    (lane.renderPeriod dll).1.Kept design history := by
  have planned := kept.planPeriod dll limit
  rw [LaneResampler.renderPeriod]
  split
  next left plan =>
    rw [plan] at planned
    exact planned.kept.renderSilence
  next left ratio plan =>
    rw [plan] at planned
    obtain ⟨locked, forward, _, far⟩ := planned.room ratio rfl
    have seated := (planned.kept.seated locked).finished forward far
    dsimp only
    rw [emitFrames_eq]
    exact ⟨planned.kept.clock, planned.kept.checkpoint, fun _ => seated, planned.kept.wide, planned.kept.records.dropBefore _⟩

/-- Every frame under the kernel of every emitted frame is live in the ring that it is read from. -/
theorem Kept.live (kept : lane.Kept design history) (limit : design.Forward) {cursor : ℚ}
    (stood : cursor ∈ (lane.renderPeriod dll).2.cursors) {frame : ℤ} (tapped : frame ∈ kernelFrames cursor) :
    (lane.planPeriod dll).1.ring.Live frame := by
  have planned := kept.planPeriod dll limit
  rw [LaneResampler.renderPeriod] at stood
  split at stood
  next left plan =>
    rw [LaneResampler.renderSilence] at stood
    split at stood
    · exact absurd stood List.not_mem_nil
    · exact absurd stood List.not_mem_nil
  next left ratio plan =>
    rw [plan] at planned ⊢
    obtain ⟨locked, forward, near, far⟩ := planned.room ratio rfl
    obtain ⟨step, within, rfl⟩ := emitFrames_cursors stood
    exact (planned.kept.seated locked).live forward near far within tapped

/-- A period put out: as many frames as it has, counted as emitted or as silent. -/
structure Period (lane next : LaneResampler State) (rendered : Rendered) : Prop where
  frames : rendered.frames.length = lane.periodFrames
  periodFrames : next.periodFrames = lane.periodFrames
  counted : next.outputFrames + next.silenceFrames = lane.outputFrames + lane.silenceFrames + lane.periodFrames
  overrun : next.overrunFrames = lane.overrunFrames

theorem renderSilence_period (lane : LaneResampler State) : Period lane lane.renderSilence.1 lane.renderSilence.2 := by
  rw [renderSilence]
  split
  · refine ⟨?_, rfl, Nat.add_right_comm _ _ _, rfl⟩
    rw [List.length_map, List.length_range]
  · exact ⟨List.length_replicate, rfl, (Nat.add_assoc _ _ _).symm, rfl⟩

theorem renderPeriod_period (dll : Dll State) (lane : LaneResampler State) :
    Period lane (lane.renderPeriod dll).1 (lane.renderPeriod dll).2 := by
  have planned := planPeriod_counters dll lane
  have told {next : LaneResampler State} {rendered : Rendered} (period : Period (lane.planPeriod dll).1 next rendered) :
      Period lane next rendered := by
    have periodFrames := congrArg Counters.periodFrames planned
    have output := congrArg Counters.outputFrames planned
    have silence := congrArg Counters.silenceFrames planned
    have overrun := congrArg Counters.overrunFrames planned
    simp only [counters] at periodFrames output silence overrun
    exact ⟨period.frames.trans periodFrames, period.periodFrames.trans periodFrames,
      by rw [period.counted, periodFrames, output, silence], period.overrun.trans overrun⟩
  refine told ?_
  rw [renderPeriod]
  split
  next left plan =>
    rw [plan]
    exact renderSilence_period left
  next left ratio plan =>
    rw [plan]
    dsimp only
    rw [emitFrames_eq]
    refine ⟨?_, rfl, Nat.add_right_comm _ _ _, rfl⟩
    rw [List.length_map, emitFrames_length]

/-- The frames that a push brings: what is left of a frame at its end is not one. -/
def pushedFrames (channels : ℕ) (samples : List ℤ) : List (List ℤ) :=
  AudioRing.framesOf channels (samples.take (samples.length / channels * channels))

def Call.heard (channels : ℕ) : Call → List (List ℤ)
  | .pushInput samples => pushedFrames channels samples
  | _ => []

theorem pushInput_overrun (lane : LaneResampler State) (samples : List ℤ) : lane.overrunFrames ≤ (lane.pushInput samples).overrunFrames := by
  rw [pushInput]
  dsimp only
  split
  · exact le_rfl
  · exact Nat.le_add_right _ _

-- Nothing was dropped, so that the cursor keeps what it has behind it.
theorem Kept.pushInput (kept : lane.Kept design history) {samples : List ℤ}
    (none : (lane.pushInput samples).overrunFrames = lane.overrunFrames) :
    (lane.pushInput samples).Kept design (history ++ pushedFrames design.channels samples) := by
  rw [LaneResampler.pushInput] at none ⊢
  by_cases empty : samples.length / lane.channels = 0
  · have nothing : pushedFrames design.channels samples = [] := by
      rw [pushedFrames, ← kept.wide.1, empty, Nat.zero_mul, List.take_zero, AudioRing.framesOf, List.length_nil, Nat.zero_div]
      rfl
    rw [if_pos empty, nothing, List.append_nil]
    exact kept
  · rw [if_neg empty] at none ⊢
    have dropped : (lane.ring.pushInterleaved _).2 = 0 := Nat.add_eq_left.mp none
    obtain ⟨read, write⟩ := AudioRing.pushed_readFrame dropped
    have recorded : (lane.ring.pushInterleaved (samples.take (samples.length / lane.channels * lane.channels))).1.Records
        (history ++ pushedFrames design.channels samples) := by
      rw [AudioRing.pushInterleaved, kept.wide.1, kept.wide.2]
      exact AudioRing.Records.pushed kept.records _
    refine ⟨kept.clock, kept.checkpoint, fun locked => ⟨?_, ?_⟩, ⟨kept.wide.1, (AudioRing.pushed_channels _ _).trans kept.wide.2⟩,
      recorded⟩
    · exact (congrArg Nat.cast read).trans_le (kept.seated locked).left
    · refine (kept.seated locked).right.trans ?_
      exact_mod_cast (Nat.le_add_right _ _).trans write.ge

theorem outputPublished_counters (dll : Dll State) (lane : LaneResampler State) (frames : ℕ) :
    (lane.outputPublished dll frames).counters = lane.counters := by
  rw [outputPublished]
  split
  · exact reset_counters dll lane
  · rfl

theorem Kept.outputPublished (kept : lane.Kept design history) (dll : Dll State) (frames : ℕ) :
    (lane.outputPublished dll frames).Kept design history := by
  rw [LaneResampler.outputPublished]
  split
  · have lost := kept.reset dll
    have clock := lost.clock.call .outputLost
    exact ⟨clock, lost.checkpoint, lost.seated, lost.wide, lost.records⟩
  · exact kept

theorem latencyContext_counters (dll : Dll State) (lane : LaneResampler State) (connection : ℕ) (failed : Bool) :
    (lane.latencyContext dll connection failed).counters = lane.counters := by
  rw [latencyContext]
  dsimp only
  split
  · split
    · exact reset_counters dll _
    · rfl
  · rfl

theorem Kept.latencyContext (kept : lane.Kept design history) (dll : Dll State) (connection : ℕ) (failed : Bool) :
    (lane.latencyContext dll connection failed).Kept design history := by
  have clock := kept.clock.call (.context connection failed lane.locked)
  rw [LaneResampler.latencyContext]
  dsimp only
  split
  · have forgot : Kept design history
        { lane with decay := lane.decay.context connection failed lane.locked, reopenCheckpoint := none } :=
      ⟨clock, fun _ among => absurd among (Option.not_mem_none _), kept.seated, kept.wide, kept.records⟩
    split
    · have cleared := forgot.reset dll
      exact ⟨cleared.clock, cleared.checkpoint, cleared.seated, cleared.wide, cleared.records⟩
    · exact ⟨forgot.clock, forgot.checkpoint, forgot.seated, forgot.wide, forgot.records⟩
  · refine ⟨clock, fun checkpoint among => ?_, kept.seated, kept.wide, kept.records⟩
    obtain ⟨saved, held, rfl⟩ := Option.mem_map.mp among
    exact (kept.checkpoint saved held).call (.context connection failed false)

theorem tickDecay_counters (lane : LaneResampler State) (dllL0Locked : Bool) : (lane.tickDecay dllL0Locked).counters = lane.counters := by
  rw [tickDecay]
  split
  · rfl
  · rfl

theorem Kept.tickDecay (kept : lane.Kept design history) (dllL0Locked : Bool) :
    (lane.tickDecay dllL0Locked).Kept design history := by
  rw [LaneResampler.tickDecay]
  split
  · exact kept
  · have clock := kept.clock.call (.tick ⟨lane.locked, dllL0Locked, lane.bufferLow⟩)
    exact ⟨clock, kept.checkpoint, kept.seated, kept.wide, kept.records⟩

theorem call_overrun (dll : Dll State) (lane : LaneResampler State) (call : Call) :
    lane.overrunFrames ≤ (lane.call dll call).overrunFrames := by
  cases call with
  | pushInput samples => exact lane.pushInput_overrun samples
  | renderPeriod => exact (renderPeriod_period dll lane).overrun.ge
  | reset => exact (congrArg Counters.overrunFrames (reset_counters dll lane)).ge
  | reopen => exact (congrArg Counters.overrunFrames (reopen_counters lane)).ge
  | outputPublished frames => exact (congrArg Counters.overrunFrames (outputPublished_counters dll lane frames)).ge
  | latencyContext connection failed =>
    exact (congrArg Counters.overrunFrames (latencyContext_counters dll lane connection failed)).ge
  | tickDecay dllL0Locked => exact (congrArg Counters.overrunFrames (tickDecay_counters lane dllL0Locked)).ge

theorem after_overrun (dll : Dll State) (lane : LaneResampler State) (calls : List Call) :
    lane.overrunFrames ≤ (lane.after dll calls).overrunFrames := by
  induction calls generalizing lane with
  | nil => exact le_rfl
  | cons call calls ih => exact (call_overrun dll lane call).trans (ih _)

theorem Kept.call (kept : lane.Kept design history) (limit : design.Forward) {call : Call}
    (none : (lane.call dll call).overrunFrames = lane.overrunFrames) :
    (lane.call dll call).Kept design (history ++ call.heard design.channels) := by
  have silent {next : LaneResampler State} (kept : next.Kept design history) : next.Kept design (history ++ []) := by
    rw [List.append_nil]
    exact kept
  cases call with
  | pushInput samples => exact kept.pushInput none
  | renderPeriod => exact silent (kept.renderPeriod limit)
  | reset => exact silent (kept.reset dll)
  | reopen => exact silent kept.reopen
  | outputPublished frames => exact silent (kept.outputPublished dll frames)
  | latencyContext connection failed => exact silent (kept.latencyContext dll connection failed)
  | tickDecay dllL0Locked => exact silent (kept.tickDecay dllL0Locked)

theorem Kept.after (kept : lane.Kept design history) (limit : design.Forward) {calls : List Call}
    (none : (lane.after dll calls).overrunFrames = lane.overrunFrames) :
    (lane.after dll calls).Kept design (history ++ calls.flatMap (Call.heard design.channels)) := by
  induction calls generalizing lane history with
  | nil =>
    rw [List.flatMap_nil, List.append_nil]
    exact kept
  | cons call calls ih =>
    have later := after_overrun dll (lane.call dll call) calls
    have first := call_overrun dll lane call
    have still : (lane.call dll call).overrunFrames = lane.overrunFrames := le_antisymm (later.trans none.le) first
    rw [List.flatMap_cons, ← List.append_assoc]
    exact ih (kept.call limit still) (Eq.trans none still.symm)

/-- The frames that a lane has put out so far, emitted or silent. -/
def total (lane : LaneResampler State) : ℕ := lane.outputFrames + lane.silenceFrames

theorem total_of_counters {next : LaneResampler State} (same : next.counters = lane.counters) :
    next.periodFrames = lane.periodFrames ∧ next.total = lane.total + 0 * lane.periodFrames := by
  have output := congrArg Counters.outputFrames same
  have silence := congrArg Counters.silenceFrames same
  simp only [counters] at output silence
  exact ⟨congrArg Counters.periodFrames same, by rw [total, total, output, silence, Nat.zero_mul, Nat.add_zero]⟩

theorem call_total (dll : Dll State) (lane : LaneResampler State) (call : Call) :
    (lane.call dll call).periodFrames = lane.periodFrames ∧
      (lane.call dll call).total = lane.total + [call].countP Call.isRender * lane.periodFrames := by
  cases call with
  | pushInput samples =>
    refine ⟨?_, ?_⟩
    · rw [LaneResampler.call, pushInput]
      dsimp only
      split
      · rfl
      · rfl
    · rw [LaneResampler.call, pushInput]
      dsimp only
      split
      · exact (Nat.add_zero _).symm.trans (by rw [List.countP_singleton]; simp [Call.isRender])
      · simp [total, Call.isRender]
  | renderPeriod =>
    have period := renderPeriod_period dll lane
    exact ⟨period.periodFrames, period.counted.trans (by rw [List.countP_singleton, Call.isRender, if_pos rfl, Nat.one_mul, total])⟩
  | reset => exact total_of_counters (reset_counters dll lane)
  | reopen => exact total_of_counters (reopen_counters lane)
  | outputPublished frames => exact total_of_counters (outputPublished_counters dll lane frames)
  | latencyContext connection failed => exact total_of_counters (latencyContext_counters dll lane connection failed)
  | tickDecay dllL0Locked => exact total_of_counters (tickDecay_counters lane dllL0Locked)

theorem after_total (dll : Dll State) (lane : LaneResampler State) (calls : List Call) :
    (lane.after dll calls).periodFrames = lane.periodFrames ∧
      (lane.after dll calls).total = lane.total + calls.countP Call.isRender * lane.periodFrames := by
  induction calls generalizing lane with
  | nil => exact ⟨rfl, by rw [List.countP_nil, Nat.zero_mul, Nat.add_zero]; rfl⟩
  | cons call calls ih =>
    obtain ⟨firstPeriod, first⟩ := call_total dll lane call
    obtain ⟨laterPeriod, later⟩ := ih (lane.call dll call)
    refine ⟨laterPeriod.trans firstPeriod, later.trans ?_⟩
    have split : ([call] ++ calls).countP Call.isRender = [call].countP Call.isRender + calls.countP Call.isRender :=
      List.countP_append
    rw [List.singleton_append] at split
    rw [first, firstPeriod, split]
    ring

theorem new_kept {sincTable : SincTable} {channels periodFrames sampleRate targetFillFrames warmupCushionFrames maxAdjustPpm
    ringFrames : ℕ} {decayParams : DecayParams}
    (built : new dll sincTable channels periodFrames sampleRate targetFillFrames warmupCushionFrames maxAdjustPpm ringFrames
      decayParams = .ok lane) :
    lane.Kept ⟨channels, maxAdjustPpm, decayParams.enabled⟩ [] ∧ lane.overrunFrames = 0 ∧ lane.total = 0 ∧
      lane.periodFrames = periodFrames := by
  rw [new] at built
  split at built
  · cases built
  split at built
  · cases built
  dsimp only at built
  split at built
  · cases built
  split at built
  next => cases built
  next ring made =>
    cases built
    rw [AudioRing.new] at made
    split at made
    · cases made
    split at made
    · cases made
    cases made
    refine ⟨⟨⟨rfl, decayParams.build_bounded _ _ _ _, rfl⟩, fun _ among => absurd among (Option.not_mem_none _), nofun, ⟨rfl, rfl⟩,
      ⟨rfl, .empty⟩⟩, rfl, rfl, rfl⟩

/-- What a lane emits is read from what was pushed: the kernel sees the pushed frames themselves. -/
theorem taps_read_what_was_pushed {sincTable : SincTable} {channels periodFrames sampleRate targetFillFrames warmupCushionFrames
    maxAdjustPpm ringFrames : ℕ} {decayParams : DecayParams}
    (built : new dll sincTable channels periodFrames sampleRate targetFillFrames warmupCushionFrames maxAdjustPpm ringFrames
      decayParams = .ok lane)
    (forward : (maxAdjustPpm : ℚ) + motionLimit decayParams.enabled ≤ 1000000) {calls : List Call}
    (none : (lane.after dll calls).overrunFrames = 0) {cursor : ℚ}
    (stood : cursor ∈ ((lane.after dll calls).renderPeriod dll).2.cursors) {frame : ℤ} (tapped : frame ∈ kernelFrames cursor)
    (channel : ℕ) :
    ((lane.after dll calls).planPeriod dll).1.ring.sample frame channel =
      ((calls.flatMap (Call.heard channels)).getD frame.toNat []).getD channel 0 := by
  obtain ⟨start, clean, _, _⟩ := new_kept built
  have kept := start.after forward (none.trans clean.symm)
  rw [List.nil_append] at kept
  exact (kept.planPeriod dll forward).kept.records.sample (kept.live forward stood tapped) channel

theorem lane_never_reads_outside_its_window {sincTable : SincTable} {channels periodFrames sampleRate targetFillFrames
    warmupCushionFrames maxAdjustPpm ringFrames : ℕ} {decayParams : DecayParams}
    (built : new dll sincTable channels periodFrames sampleRate targetFillFrames warmupCushionFrames maxAdjustPpm ringFrames
      decayParams = .ok lane)
    (forward : (maxAdjustPpm : ℚ) + motionLimit decayParams.enabled ≤ 1000000) (calls : List Call)
    (none : (lane.after dll calls).overrunFrames = 0) :
    let reached := lane.after dll calls
    (∀ cursor ∈ (reached.renderPeriod dll).2.cursors, ∀ frame ∈ kernelFrames cursor,
        (reached.planPeriod dll).1.ring.Live frame) ∧
      (reached.locked = true →
        (reached.ring.readFrame : ℚ) ≤ reached.nextInputFrame ∧ reached.nextInputFrame ≤ reached.ring.writeFrame) ∧
      (reached.startupPrefillFrames ≤ reached.ring.fillFrames → reached.holdFillFrames ≤ reached.ring.writeFrame) ∧
      (reached.renderPeriod dll).2.frames.length = periodFrames ∧
      reached.outputFrames + reached.silenceFrames = calls.countP Call.isRender * periodFrames := by
  intro reached
  obtain ⟨start, clean, empty, period⟩ := new_kept built
  have kept : reached.Kept _ _ := start.after forward (none.trans clean.symm)
  obtain ⟨samePeriod, total⟩ := after_total dll lane calls
  refine ⟨fun cursor stood frame tapped => kept.live forward stood tapped, fun locked => ?_, seat_le_writeFrame, ?_, ?_⟩
  · exact (kept.seated locked).inside
  · exact (renderPeriod_period dll reached).frames.trans (samePeriod.trans period)
  · rw [empty, Nat.zero_add, period] at total
    exact total

-- A loop that always answers with the one ratio.
def steady (ratio : ℚ) : Dll Unit := ⟨(), fun _ => (), fun _ _ => ((), ratio)⟩

def narrow (ratio : ℚ) (maxAdjustPpm : ℕ) : Except String (LaneResampler Unit) :=
  new (steady ratio) (fun _ => []) 1 1 48000 32 0 maxAdjustPpm 128 ⟨false, 0, 0⟩

def sixtyFour : Call := .pushInput (List.replicate 64 0)

/-- A lane allowed to read backward leaves its window, and a lane that is not locked has its cursor at zero. -/
theorem a_backward_cursor_leaves_the_window :
    ∃ lane, narrow (-1) 2000000 = .ok lane ∧
      ((lane.after (steady (-1)) [sixtyFour, .renderPeriod, .renderPeriod]).overrunFrames = 0 ∧
        ∃ cursor ∈ ((lane.after (steady (-1)) [sixtyFour, .renderPeriod, .renderPeriod]).renderPeriod (steady (-1))).2.cursors,
          ∃ frame ∈ kernelFrames cursor,
            ¬((lane.after (steady (-1)) [sixtyFour, .renderPeriod, .renderPeriod]).planPeriod (steady (-1))).1.ring.Live frame) ∧
      (lane.after (steady (-1)) [sixtyFour, .reset]).overrunFrames = 0 ∧
        (lane.after (steady (-1)) [sixtyFour, .reset]).nextInputFrame <
          (lane.after (steady (-1)) [sixtyFour, .reset]).ring.readFrame := by
  refine ⟨_, rfl, ⟨?_, 30, ?_, 14, ?_, ?_⟩, ?_, ?_⟩
  · decide +kernel
  · decide +kernel
  · decide +kernel
  · decide +kernel
  · decide +kernel
  · decide +kernel

theorem a_narrow_lane_reads_inside_its_window :
    ∃ lane, narrow 1 500 = .ok lane ∧
      ((lane.after (steady 1) [sixtyFour, .renderPeriod, .renderPeriod]).renderPeriod (steady 1)).2.cursors = [34] ∧
      (∀ frame ∈ kernelFrames 34,
        ((lane.after (steady 1) [sixtyFour, .renderPeriod, .renderPeriod]).planPeriod (steady 1)).1.ring.Live frame) ∧
      (lane.after (steady 1) [sixtyFour, .renderPeriod, .renderPeriod]).outputFrames +
        (lane.after (steady 1) [sixtyFour, .renderPeriod, .renderPeriod]).silenceFrames = 2 := by
  obtain ⟨lane, built, clean, stood⟩ : ∃ lane, narrow 1 500 = .ok lane ∧
      (lane.after (steady 1) [sixtyFour, .renderPeriod, .renderPeriod]).overrunFrames = 0 ∧
        ((lane.after (steady 1) [sixtyFour, .renderPeriod, .renderPeriod]).renderPeriod (steady 1)).2.cursors = [34] :=
    ⟨_, rfl, by decide +kernel, by decide +kernel⟩
  obtain ⟨live, _, _, _, total⟩ :=
    lane_never_reads_outside_its_window built (by norm_num [motionLimit]) [sixtyFour, .renderPeriod, .renderPeriod] clean
  exact ⟨lane, built, stood, live 34 (by rw [stood]; exact List.mem_singleton_self _), total⟩

end LaneResampler

end Jts.Fanin
