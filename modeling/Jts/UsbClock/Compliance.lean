import Jts.Shared.Transition
import Jts.UsbClock.Turn

set_option autoImplicit false

namespace Jts.UsbClock

open Jts.Shared.Smoothing Jts.Shared.Transition

structure Tick where
  obs : Obs
  nowMs : ℕ
  control : ControlStatus

namespace Tick

variable (c : ℚ) (tick : Tick)

-- The host does not react: a finite reading is always the same one.
def Unmoved : Prop := tick.obs.correctionPpm = none ∨ tick.obs.correctionPpm = some c

-- The host has reacted in full by the next tick, one second on.
structure Follows (c fill pitch : ℚ) (last : Option ℕ) : Prop where
  ready : tick.control.ready = true
  playing : tick.obs.playing = true
  steady : tick.obs.steady = true
  fill : tick.obs.fillFrames = some fill
  reads : tick.obs.correctionPpm = some (c + pitch)
  second : ∀ before ∈ last, tick.nowMs = before + tickIntervalMs

end Tick

namespace Standing

variable {c probePpm : ℚ} {before after : Standing} {tick : Tick} {actions : List Action}

/-- What a ladder can stand at before a host that never moves. -/
structure Unmoved (c probePpm : ℚ) (standing : Standing) : Prop where
  untrusted : standing.ladder ≠ .l0Locked ∧ standing.ladder ≠ .l1Warn
  mean : standing.mean = none ∨ standing.mean = some c
  measured : standing.ladder = .probing → standing.phase = .step →
    standing.mean = some c ∧ standing.baseline = c ∨ 2 * c < probePpm ∧ standing.baseline = 0 ∧ standing.step = probePpm

def BaselineHeard (standing : Standing) (tick : Tick) : Prop :=
  standing.ladder = .probing → standing.phase = .baseline → 4000 ≤ tick.nowMs - standing.started →
    (standing.hears tick.obs).isSome = true

theorem hears_unmoved (mean : before.mean = none ∨ before.mean = some c) (unmoved : tick.Unmoved c) :
    before.hears tick.obs = none ∨ before.hears tick.obs = some c := by
  rcases unmoved with quiet | reads <;> rcases mean with fresh | kept <;> simp [hears, *]

theorem hears_kept (kept : before.mean = some c) (unmoved : tick.Unmoved c) : before.hears tick.obs = some c := by
  rcases unmoved with quiet | reads <;> simp [hears, *]

theorem Unmoved.ratio (unmoved : before.Unmoved c probePpm) (probing : before.ladder = .probing) (phase : before.phase = .step)
    (positive : 0 < probePpm) : before.ratio < 1 / 2 := by
  rw [Standing.ratio]
  split
  next =>
    rcases unmoved.measured probing phase with ⟨mean, baseline⟩ | ⟨small, baseline, step⟩
    · simp [mean, baseline]
    · rw [baseline, step, sub_zero, div_lt_div_iff₀ positive two_pos]
      rcases unmoved.mean with mean | mean <;> simp [mean] <;> linarith
  next => norm_num

theorem Unmoved.turn (unmoved : before.Unmoved c probePpm) (positive : 0 < probePpm) (reads : tick.Unmoved c)
    (heard : 2 * c < probePpm ∨ before.BaselineHeard tick)
    (turn : Turn probePpm tick.nowMs tick.obs tick.control before after actions) : after.Unmoved c probePpm := by
  have listened : (before.heard tick.obs).Unmoved c probePpm :=
    ⟨unmoved.untrusted, hears_unmoved unmoved.mean reads, fun probing phase =>
      (unmoved.measured probing phase).imp_left fun kept => ⟨hears_kept kept.1 reads, kept.2⟩⟩
  cases turn with
  | idles => exact listened
  | ends => exact ⟨by simp, .inl rfl, nofun⟩
  | begins => exact ⟨by simp, .inl rfl, nofun⟩
  | loses _ _ _ _ _ mean keeps =>
    refine ⟨by simp, ?_, nofun⟩
    rcases keeps with rfl | rfl
    · exact .inl rfl
    · exact listened.mean
  | deafens => exact listened
  | holds => exact listened
  | waits => exact listened
  | opens => exact ⟨unmoved.untrusted, .inl rfl, nofun⟩
  | samples => exact listened
  | steps _ _ _ probing phase elapsed =>
    refine ⟨listened.untrusted, listened.mean, fun _ _ => ?_⟩
    rcases listened.mean with deaf | mean
    · have small := heard.resolve_right fun heard => by
        have some := heard probing phase elapsed
        rw [show before.hears tick.obs = none from deaf] at some
        exact Bool.false_ne_true some
      refine .inr ⟨small, ?_, ?_⟩ <;> simp [stepped, deaf, correctionProbeFlipDeadbandPpm]
    · exact .inl ⟨mean, by simp [stepped, mean]⟩
  | passes _ _ _ probing phase _ moved => exact absurd (listened.ratio probing phase positive) (not_lt.mpr moved)
  | retries => exact ⟨unmoved.untrusted, .inl rfl, nofun⟩
  | fails => exact ⟨by simp, listened.mean, nofun⟩
  | restarts => exact ⟨unmoved.untrusted, .inl rfl, nofun⟩
  | demotes _ _ _ trusted => exact absurd trusted (by simp [unmoved.untrusted])
  | steers _ _ _ trusted => exact absurd trusted (by simp [unmoved.untrusted])

/-- Where a ladder stands, by its last tick, before a host that follows the pitch in force and has completed no attempt. -/
structure Followed (c probePpm pitch : ℚ) (last : Option ℕ) (standing : Standing) : Prop where
  alpha : standing.alpha = 3 / 10
  probing : standing.active = true → standing.ladder = .probing
  resting : standing.phase = .awaitLock → pitch = 0
  measuring : standing.phase = .baseline → pitch = 0 ∧ ∃ moment ∈ last, moment - standing.started < 4000 ∧
    (standing.mean = none ∧ moment = standing.started ∨ standing.mean = some c)
  stepping : standing.phase = .step → pitch = standing.step ∧ |pitch| = probePpm ∧ standing.baseline = c ∧
    ∃ steps, standing.mean = some (c + pitch - (1 - 3 / 10) ^ steps * pitch) ∧
      ∃ moment ∈ last, moment < standing.started + 5000 + 1000 * steps
  once : standing.phase ≠ .retryWait
  idle : standing.active = false → standing.phase = .awaitLock
  enabled : standing.active = true → standing.cfg.enabled = true

def inForce (pitch : ℚ) (actions : List Action) : ℚ :=
  actions.foldl (fun _ action => match action with | .writePitch ppm _ => ppm) pitch

@[simp] theorem inForce_nil (pitch : ℚ) : inForce pitch [] = pitch := rfl

@[simp] theorem inForce_neutral (pitch : ℚ) : inForce pitch neutral = 0 := rfl

theorem abs_stepped (positive : 0 < probePpm) : |(before.stepped probePpm).step| = probePpm := by
  simp only [stepped]
  split
  · rw [abs_neg, abs_of_pos positive]
  · exact abs_of_pos positive

section Following

variable {pitch fill : ℚ} {last : Option ℕ}

theorem Followed.hears (followed : before.Followed c probePpm pitch last) (follows : tick.Follows c fill pitch last) :
    before.hears tick.obs = some (before.mean.elim (c + pitch) fun mean => smooth (3 / 10) mean (c + pitch)) := by
  simp [Standing.hears, follows.steady, follows.reads, followed.alpha]

theorem Followed.hears_baseline (followed : before.Followed c probePpm pitch last) (follows : tick.Follows c fill pitch last)
    (phase : before.phase = .baseline) : before.hears tick.obs = some c := by
  obtain ⟨rfl, _, _, _, mean⟩ := followed.measuring phase
  rw [followed.hears follows]
  rcases mean with ⟨fresh, -⟩ | kept
  · simp [fresh]
  · simp [kept]

theorem Followed.hears_step (followed : before.Followed c probePpm pitch last) (follows : tick.Follows c fill pitch last)
    (phase : before.phase = .step) :
    ∃ steps, before.hears tick.obs = some (c + pitch - (1 - 3 / 10) ^ steps * pitch) ∧
      tick.nowMs < before.started + 5000 + 1000 * steps := by
  obtain ⟨-, -, -, steps, mean, moment, among, early⟩ := followed.stepping phase
  have second := follows.second moment among
  refine ⟨steps + 1, ?_, by rw [second, tickIntervalMs]; omega⟩
  rw [followed.hears follows, mean, Option.elim_some, smooth_towards]

-- Fifteen seconds of samples leave less than half of the step to go.
theorem Followed.ratio (followed : before.Followed c probePpm pitch last) (positive : 200 ≤ probePpm)
    (follows : tick.Follows c fill pitch last) (phase : before.phase = .step) (elapsed : 19000 ≤ tick.nowMs - before.started) :
    1 / 2 ≤ (before.heard tick.obs).ratio := by
  obtain ⟨step, size, baseline, -⟩ := followed.stepping phase
  obtain ⟨steps, heard, early⟩ := followed.hears_step follows phase
  have wide : f64Epsilon < |before.step| := by
    rw [← step, size, f64Epsilon]
    linarith [show (1 : ℚ) / 2 ^ 52 < 200 by norm_num]
  have nonzero : pitch ≠ 0 := by
    rintro rfl
    rw [abs_zero] at size
    linarith
  have many : 2 ≤ steps := by omega
  have small : ((1 : ℚ) - 3 / 10) ^ steps ≤ (1 - 3 / 10) ^ 2 := pow_le_pow_of_le_one (by norm_num) (by norm_num) many
  have ratio : (before.heard tick.obs).ratio = 1 - (1 - 3 / 10) ^ steps := by
    rw [Standing.ratio, if_pos (show f64Epsilon < |(before.heard tick.obs).step| from wide)]
    simp only [Standing.heard, heard, Option.getD_some, baseline, ← step]
    field_simp
    ring
  rw [ratio]
  linarith [show ((1 : ℚ) - 3 / 10) ^ 2 = 49 / 100 by norm_num]

theorem Followed.turn (followed : before.Followed c probePpm pitch last) (enabled : before.cfg.enabled = true)
    (range : 200 ≤ probePpm ∧ probePpm ≤ 800) (follows : tick.Follows c fill pitch last)
    (turn : Turn probePpm tick.nowMs tick.obs tick.control before after actions) :
    before.verdict after = none ∧ after.Followed c probePpm (inForce pitch actions) (some tick.nowMs) ∨
      before.verdict after = some .pass := by
  have positive : 0 < probePpm := by linarith
  cases turn with
  | idles quiet off =>
    have phase := followed.idle off
    exact .inl ⟨verdict_before _ (by simp [phase]), followed.alpha, followed.probing, followed.resting,
      fun other => ProbePhase.noConfusion (phase.symm.trans other), fun other => ProbePhase.noConfusion (phase.symm.trans other),
      followed.once, followed.idle, followed.enabled⟩
  | ends =>
    exact .inl ⟨verdict_measuring _ rfl (fun other => ProbePhase.noConfusion other), followed.alpha,
      fun on => Bool.noConfusion on, fun _ => rfl, fun other => ProbePhase.noConfusion other,
      fun other => ProbePhase.noConfusion other, fun other => ProbePhase.noConfusion other, fun _ => rfl, fun _ => enabled⟩
  | begins =>
    exact .inl ⟨verdict_measuring _ rfl (fun other => ProbePhase.noConfusion other), (rebound_alpha _ _).trans followed.alpha,
      fun _ => rfl, fun _ => rfl, fun other => ProbePhase.noConfusion other, fun other => ProbePhase.noConfusion other,
      fun other => ProbePhase.noConfusion other, fun _ => rfl, fun _ => (rebound_cfg _ _).symm ▸ enabled⟩
  | loses _ unready => exact Bool.noConfusion (follows.ready.symm.trans unready)
  | deafens _ _ unready => exact Bool.noConfusion (follows.ready.symm.trans unready)
  | holds _ bound _ parked =>
    rw [followed.probing bound.1] at parked
    exact absurd parked (by simp)
  | waits _ bound _ probing phase =>
    have phase := phase.resolve_right followed.once
    exact .inl ⟨verdict_before _ (by simp [phase]), followed.alpha, followed.probing, followed.resting,
      fun other => ProbePhase.noConfusion (phase.symm.trans other), fun other => ProbePhase.noConfusion (phase.symm.trans other),
      followed.once, followed.idle, followed.enabled⟩
  | opens _ bound _ probing phase =>
    exact .inl ⟨verdict_before _ (by simp [phase]), followed.alpha, followed.probing, fun other => ProbePhase.noConfusion other,
      fun _ => ⟨followed.resting phase, tick.nowMs, rfl, by simp, .inl ⟨rfl, rfl⟩⟩,
      fun other => ProbePhase.noConfusion other, fun other => ProbePhase.noConfusion other,
      fun off => Bool.noConfusion (bound.1.symm.trans off), fun _ => enabled⟩
  | samples _ bound _ probing phase =>
    have idle (off : before.active = false) : before.phase = .awaitLock := Bool.noConfusion (bound.1.symm.trans off)
    rcases phase with ⟨phase, early⟩ | ⟨phase, early⟩
    · have heard := followed.hears_baseline follows phase
      exact .inl ⟨verdict_before _ (by simp [phase]), followed.alpha, followed.probing, followed.resting,
        fun _ => ⟨(followed.measuring phase).1, tick.nowMs, rfl, early, .inr heard⟩,
        fun other => ProbePhase.noConfusion (phase.symm.trans other), followed.once, idle, followed.enabled⟩
    · obtain ⟨step, size, baseline, -⟩ := followed.stepping phase
      obtain ⟨steps, heard, early⟩ := followed.hears_step follows phase
      refine .inl ⟨verdict_measuring _ probing followed.once, followed.alpha, followed.probing,
        fun other => ProbePhase.noConfusion (phase.symm.trans other), fun other => ProbePhase.noConfusion (phase.symm.trans other),
        fun _ => ⟨step, size, baseline, steps, heard, tick.nowMs, rfl, early⟩, followed.once, idle, followed.enabled⟩
  | steps _ bound _ probing phase elapsed =>
    have heard := followed.hears_baseline follows phase
    obtain ⟨-, moment, among, early, -⟩ := followed.measuring phase
    have second := follows.second moment among
    have size := @abs_stepped _ (before.heard tick.obs) positive
    have whole := clampBias_of_le (size.trans_le (range.2.trans (by norm_num [maxBiasPpm])))
    refine .inl ⟨verdict_before _ (by simp [phase]), followed.alpha, followed.probing, fun other => ProbePhase.noConfusion other,
      fun other => ProbePhase.noConfusion other, fun _ => ?_, fun other => ProbePhase.noConfusion other,
      fun off => Bool.noConfusion (bound.1.symm.trans off), fun _ => enabled⟩
    rw [show inForce pitch [.writePitch (clampBias ((before.heard tick.obs).stepped probePpm).step) true] =
      ((before.heard tick.obs).stepped probePpm).step from whole]
    refine ⟨rfl, size, by simp [stepped, Standing.heard, heard], 0, ?_, tick.nowMs, rfl, ?_⟩
    · simp [stepped, Standing.heard, heard]
    · simp only [stepped, Standing.heard]
      rw [second, tickIntervalMs]
      omega
  | passes _ _ _ probing phase => exact .inr (by simp [verdict, probing, phase])
  | retries _ _ _ _ phase elapsed still => exact absurd (followed.ratio range.1 follows phase elapsed) (not_le.mpr still)
  | fails _ _ _ _ phase elapsed still => exact absurd (followed.ratio range.1 follows phase elapsed) (not_le.mpr still)
  | restarts _ _ _ _ phase => exact absurd phase followed.once
  | demotes _ bound _ trusted =>
    rw [followed.probing bound.1] at trusted
    exact absurd trusted (by simp)
  | steers _ bound _ trusted =>
    rw [followed.probing bound.1] at trusted
    exact absurd trusted (by simp)

end Following

end Standing

/-- A run of the clock against a host that follows: the pitch in force at the host, and when it last ticked. -/
structure Slaving where
  clock : HostClock
  pitch : ℚ
  last : Option ℕ

namespace Slaving

def new (cfg : HostClockConfig) : Slaving := { clock := .new cfg, pitch := 0, last := none }

def tickOn (slaving : Slaving) (tick : Tick) : Slaving :=
  let ticked := slaving.clock.tickWithControl tick.obs tick.nowMs tick.control
  { clock := ticked.1, pitch := Standing.inForce slaving.pitch ticked.2, last := some tick.nowMs }

-- The verdicts of the attempts that a run completes, in order.
def verdicts : Slaving → List Tick → List ProbeAttemptResult
  | _, [] => []
  | slaving, tick :: ticks =>
    (slaving.clock.standing.verdict (slaving.tickOn tick).clock.standing).toList ++ verdicts (slaving.tickOn tick) ticks

def Followed (slaving : Slaving) (tick : Tick) (c fill : ℚ) : Prop := tick.Follows c fill slaving.pitch slaving.last

end Slaving

instance {c fill pitch : ℚ} {last : Option ℕ} {tick : Tick} : Decidable (tick.Follows c fill pitch last) :=
  decidable_of_iff (tick.control.ready = true ∧ tick.obs.playing = true ∧ tick.obs.steady = true ∧
      tick.obs.fillFrames = some fill ∧ tick.obs.correctionPpm = some (c + pitch) ∧
      ∀ before ∈ last, tick.nowMs = before + tickIntervalMs)
    ⟨fun follows => ⟨follows.1, follows.2.1, follows.2.2.1, follows.2.2.2.1, follows.2.2.2.2.1, follows.2.2.2.2.2⟩,
      fun follows => ⟨follows.ready, follows.playing, follows.steady, follows.fill, follows.reads, follows.second⟩⟩

instance {slaving : Slaving} {tick : Tick} {c fill : ℚ} : Decidable (slaving.Followed tick c fill) :=
  inferInstanceAs (Decidable (tick.Follows c fill slaving.pitch slaving.last))

instance {c : ℚ} {tick : Tick} : Decidable (tick.Unmoved c) := inferInstanceAs (Decidable (_ ∨ _))

namespace HostClock

def tickOn (hc : HostClock) (tick : Tick) : HostClock := (hc.tickWithControl tick.obs tick.nowMs tick.control).1

/-- A tick that closes the baseline window of a probe has had a reading accepted in it. -/
def BaselineHeard (hc : HostClock) (tick : Tick) : Prop :=
  hc.ladder = .probing → hc.probePhase = .baseline → probeBaselineSecs * 1000 ≤ tick.nowMs - hc.probeStartedMs →
    hc.slope.haveCorrection = true ∨ tick.obs.steady = true ∧ tick.obs.correctionPpm.isSome = true

instance {hc : HostClock} {tick : Tick} : Decidable (hc.BaselineHeard tick) :=
  inferInstanceAs (Decidable (_ → _ → _ → _))

theorem BaselineHeard.standing {hc : HostClock} {tick : Tick} (heard : hc.BaselineHeard tick) : hc.standing.BaselineHeard tick := by
  intro probing phase elapsed
  have heard := heard probing phase elapsed
  simp only [Standing.hears, HostClock.standing, SlopeEstimator.heard]
  cases steady : tick.obs.steady <;> cases reads : tick.obs.correctionPpm <;> simp_all

theorem probePpm_pos (cfg : HostClockConfig) : (0 : ℚ) < cfg.probePpm := by
  have := cfg.inRange
  exact_mod_cast (by omega : 0 < cfg.probePpm)

theorem unmoved_tickOn {c : ℚ} {hc : HostClock} {tick : Tick} (unmoved : hc.standing.Unmoved c hc.cfg.probePpm)
    (reads : tick.Unmoved c) (heard : 2 * c < hc.cfg.probePpm ∨ hc.BaselineHeard tick) :
    (hc.tickOn tick).standing.Unmoved c hc.cfg.probePpm := by
  cases enabled : hc.cfg.enabled with
  | true =>
    exact unmoved.turn (probePpm_pos hc.cfg) reads (heard.imp_right BaselineHeard.standing)
      (hc.tickWithControl_turn tick.obs tick.nowMs tick.control enabled)
  | false =>
    rw [tickOn, (hc.tickWithControl_disabled tick.obs tick.nowMs tick.control enabled).1]
    exact unmoved

end HostClock

namespace Slaving

theorem followed_tickOn {c fill : ℚ} {slaving : Slaving} {tick : Tick}
    (followed : slaving.clock.standing.Followed c slaving.clock.cfg.probePpm slaving.pitch slaving.last)
    (follows : slaving.Followed tick c fill) :
    slaving.clock.standing.verdict (slaving.tickOn tick).clock.standing = none ∧
        (slaving.tickOn tick).clock.standing.Followed c slaving.clock.cfg.probePpm (slaving.tickOn tick).pitch
          (slaving.tickOn tick).last ∨
      slaving.clock.standing.verdict (slaving.tickOn tick).clock.standing = some .pass := by
  have range : (200 : ℚ) ≤ slaving.clock.cfg.probePpm ∧ (slaving.clock.cfg.probePpm : ℚ) ≤ 800 := by
    exact_mod_cast slaving.clock.cfg.inRange
  cases enabled : slaving.clock.cfg.enabled with
  | true => exact followed.turn enabled range follows (slaving.clock.tickWithControl_turn tick.obs tick.nowMs tick.control enabled)
  | false =>
    obtain ⟨same, still⟩ := slaving.clock.tickWithControl_disabled tick.obs tick.nowMs tick.control enabled
    have phase := followed.idle (Bool.eq_false_iff.mpr fun on => Bool.false_ne_true (enabled.symm.trans (followed.enabled on)))
    refine .inl ⟨Standing.verdict_before _ (by simp [phase]), ?_⟩
    rw [tickOn, same, still]
    exact ⟨followed.alpha, followed.probing, followed.resting, fun other => absurd (phase.symm.trans other) nofun,
      fun other => absurd (phase.symm.trans other) nofun, followed.once, followed.idle, followed.enabled⟩

theorem verdicts_head {c fill : ℚ} {slaving : Slaving} {ticks : List Tick}
    (followed : slaving.clock.standing.Followed c slaving.clock.cfg.probePpm slaving.pitch slaving.last)
    (along : Along (fun slaving tick => slaving.Followed tick c fill) tickOn slaving ticks) :
    ∀ verdict ∈ (slaving.verdicts ticks).head?, verdict = .pass := by
  induction ticks generalizing slaving with
  | nil => nofun
  | cons tick ticks ih =>
    rw [verdicts]
    rcases followed_tickOn followed along.1 with ⟨undecided, onward⟩ | passes
    · rw [undecided, Option.toList_none, List.nil_append]
      refine ih ?_ along.2
      rwa [tickOn, slaving.clock.tickWithControl_cfg]
    · rw [passes]
      intro verdict among
      exact (Option.mem_some_iff.mp among).symm

end Slaving

/-- Before a host that does not react the clock is trusted in no run whose baseline windows have all heard it, nor in any
run where half the probe step exceeds its reading; a host that follows passes the first attempt it completes. -/
theorem heard_windows_tell_hosts_apart (cfg : HostClockConfig) (c : ℚ) (ticks : List Tick) :
    (Along (fun hc tick => tick.Unmoved c ∧ (2 * c < cfg.probePpm ∨ hc.BaselineHeard tick)) HostClock.tickOn (.new cfg) ticks →
      (ticks.foldl HostClock.tickOn (.new cfg)).ladder ≠ .l0Locked ∧ (ticks.foldl HostClock.tickOn (.new cfg)).ladder ≠ .l1Warn) ∧
    ∀ fill, Along (fun slaving tick => slaving.Followed tick c fill) Slaving.tickOn (.new cfg) ticks →
      ∀ verdict ∈ ((Slaving.new cfg).verdicts ticks).head?, verdict = .pass := by
  constructor
  · intro along
    have kept : ∀ {hc : HostClock} {ticks : List Tick}, hc.cfg = cfg → hc.standing.Unmoved c cfg.probePpm →
        Along (fun hc tick => tick.Unmoved c ∧ (2 * c < cfg.probePpm ∨ hc.BaselineHeard tick)) HostClock.tickOn hc ticks →
        (ticks.foldl HostClock.tickOn hc).standing.Unmoved c cfg.probePpm := by
      intro hc ticks same unmoved along
      induction ticks generalizing hc with
      | nil => exact unmoved
      | cons tick ticks ih =>
        subst same
        exact ih (hc.tickWithControl_cfg tick.obs tick.nowMs tick.control)
          (HostClock.unmoved_tickOn unmoved along.1.1 along.1.2) along.2
    exact (kept rfl ⟨by simp [HostClock.new, HostClock.standing], .inl rfl, fun probing => absurd probing (by simp [HostClock.new, HostClock.standing])⟩ along).untrusted
  · intro fill along
    exact Slaving.verdicts_head ⟨rfl, fun on => Bool.noConfusion on, fun _ => rfl, fun other => ProbePhase.noConfusion other,
      fun other => ProbePhase.noConfusion other, fun other => ProbePhase.noConfusion other, fun _ => rfl, fun on => Bool.noConfusion on⟩ along

def defaultConfig : HostClockConfig := { enabled := true, probePpm := 300, inRange := by decide }

def sessionTick (nowMs : ℕ) (steady : Bool) (correctionPpm : ℚ) : Tick where
  obs :=
    { playing := true, hostConnected := true, preempted := false, steady := steady, fillFrames := some 512,
      captureFrames := 48 * nowMs, playbackFrames := 48 * nowMs, correctionPpm := some correctionPpm }
  nowMs := nowMs
  control :=
    { captureGeneration := 1, controlGeneration := some 1, refreshes := 1, openFailures := 0, writeFailures := 0,
      readbackCtlValue := none }

-- A host 400 ppm fast that does not react.
def idleRun : List Tick :=
  [0, 1000, 3000, 7000, 22000, 32000, 33000, 35000, 39000, 54000].map fun nowMs => sessionTick nowMs true 400

def followingRun : List Tick :=
  (List.range 22).map fun second => sessionTick (1000 * second) true (if second < 7 then 40 else 340)

theorem an_idle_and_a_following_host :
    ((idleRun.foldl HostClock.tickOn (.new defaultConfig)).ladder ≠ .l0Locked ∧
        (idleRun.foldl HostClock.tickOn (.new defaultConfig)).ladder ≠ .l1Warn) ∧
      (∀ verdict ∈ ((Slaving.new defaultConfig).verdicts followingRun).head?, verdict = .pass) ∧
      (idleRun.foldl HostClock.tickOn (.new defaultConfig)).ladder = .l2Fallback ∧
      (Slaving.new defaultConfig).verdicts followingRun = [.pass] :=
  ⟨(heard_windows_tell_hosts_apart defaultConfig 400 idleRun).1 (by decide +kernel),
    (heard_windows_tell_hosts_apart defaultConfig 40 followingRun).2 512 (by decide +kernel), by decide +kernel, by decide +kernel⟩

-- A declared ramp fills the baseline window, and the step window reads the host for the first time.
def rampedBaseline : List Tick :=
  [sessionTick 0 true 200, sessionTick 1000 true 200, sessionTick 3000 true 200, sessionTick 7000 false 200, sessionTick 22000 true 200]

theorem unheard_baseline_trusts_a_deaf_host :
    ¬((∀ tick ∈ rampedBaseline, tick.Unmoved 200) →
      (rampedBaseline.foldl HostClock.tickOn (.new defaultConfig)).ladder ≠ .l0Locked ∧
        (rampedBaseline.foldl HostClock.tickOn (.new defaultConfig)).ladder ≠ .l1Warn) := by
  decide +kernel

end Jts.UsbClock
