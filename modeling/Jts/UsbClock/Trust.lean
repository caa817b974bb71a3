import Jts.Shared.Transition
import Jts.UsbClock.Neutrality

set_option autoImplicit false

namespace Jts.UsbClock

open Jts.Shared.Transition

namespace Standing

variable {probePpm : ℚ} {now : ℕ} {obs : Obs} {control : ControlStatus} {before after : Standing} {actions : List Action}

def Trusted (standing : Standing) : Prop := standing.ladder = .l0Locked ∨ standing.ladder = .l1Warn

/-- Evidence about the host parks the ladder, trust is for a session, and a session is for an armed feature. -/
structure Coherent (standing : Standing) : Prop where
  parked : standing.reason.isHostEvidence = true → standing.ladder = .l2Fallback
  on : standing.Trusted → standing.active = true
  enabled : standing.active = true → standing.cfg.enabled = true
  attempt : 1 ≤ standing.attempt ∧ standing.attempt ≤ maxProbeAttempts

theorem rebound_attempt (coherent : before.Coherent) (control : ControlStatus) :
    1 ≤ (before.rebound control).attempt ∧ (before.rebound control).attempt ≤ maxProbeAttempts := by
  rw [rebound]
  split
  · exact coherent.attempt
  · exact ⟨le_rfl, (by decide : 1 ≤ maxProbeAttempts)⟩

theorem rebound_bound (control : ControlStatus) : (before.rebound control).bound control := by
  rw [rebound]
  split
  next bound => exact bound
  next => exact ⟨rfl, rfl⟩

theorem Coherent.turn (coherent : before.Coherent) (enabled : before.cfg.enabled = true)
    (turn : Turn probePpm now obs control before after actions) : after.Coherent := by
  cases turn with
  | idles | deafens | holds | waits | opens | samples | steps | restarts =>
    exact ⟨coherent.parked, coherent.on, coherent.enabled, coherent.attempt⟩
  | ends => exact ⟨nofun, by simp [Trusted], nofun, le_rfl, (by decide : 1 ≤ maxProbeAttempts)⟩
  | begins | loses =>
    exact ⟨nofun, by simp [Trusted], fun _ => (rebound_cfg _ control).symm ▸ enabled, rebound_attempt coherent control⟩
  | passes _ bound => exact ⟨nofun, fun _ => bound.1, coherent.enabled, coherent.attempt⟩
  | retries _ _ _ _ _ _ _ left => exact ⟨coherent.parked, coherent.on, coherent.enabled, Nat.le_add_left _ _, left⟩
  | fails | demotes => exact ⟨fun _ => rfl, by simp [Trusted], coherent.enabled, coherent.attempt⟩
  | steers _ bound _ trusted =>
    refine ⟨fun evidence => ?_, fun _ => bound.1, coherent.enabled, coherent.attempt⟩
    rw [coherent.parked evidence] at trusted
    exact absurd trusted (by simp)

-- A ladder that probes on a ready control has just begun to wait, or it probed in this session and generation before.
theorem turn_probing (turn : Turn probePpm now obs control before after actions) (ready : control.ready = true)
    (on : after.active = true) (probing : after.ladder = .probing) :
    obs.session = true ∧ after.generation = some control.captureGeneration ∧
      (after.phase = .awaitLock ∨ before.bound control ∧ before.ladder = .probing) := by
  cases turn with
  | idles _ off => exact absurd (off.symm.trans on) nofun
  | ends => exact absurd on nofun
  | begins session => exact ⟨session, (rebound_bound control).2, .inl rfl⟩
  | loses _ unready | deafens _ _ unready => exact absurd (ready.symm.trans unready) nofun
  | holds session bound | waits session bound | samples session bound => exact ⟨session, bound.2, .inr ⟨bound, probing⟩⟩
  | opens session bound | steps session bound | retries session bound | restarts session bound =>
    exact ⟨session, bound.2, .inr ⟨bound, probing⟩⟩
  | passes | fails | demotes => exact absurd probing nofun
  | steers _ _ _ _ _ remains => rcases remains with rfl | rfl <;> exact absurd probing nofun

-- A ladder that is trusted on a ready control has just passed its probe, or it was trusted in this session and generation before.
theorem turn_trusted (turn : Turn probePpm now obs control before after actions) (coherent : before.Coherent)
    (ready : control.ready = true) (trusted : after.Trusted) :
    obs.session = true ∧ after.generation = some control.captureGeneration ∧ before.bound control ∧
      (before.verdict after = some .pass ∧ before.ladder = .probing ∨ before.Trusted) := by
  cases turn with
  | idles _ off => exact absurd (off.symm.trans (coherent.on trusted)) nofun
  | ends | begins => simp [Trusted] at trusted
  | loses _ unready | deafens _ _ unready => exact absurd (ready.symm.trans unready) nofun
  | holds session bound => exact ⟨session, bound.2, bound, .inr trusted⟩
  | waits _ _ _ probing | opens _ _ _ probing | samples _ _ _ probing | steps _ _ _ probing | retries _ _ _ probing
  | restarts _ _ _ probing => simp [Trusted, heard, stepped, awaiting, probing] at trusted
  | passes session bound _ probing phase => exact ⟨session, bound.2, bound, .inl ⟨by simp [verdict, probing, phase], probing⟩⟩
  | fails | demotes => simp [Trusted] at trusted
  | steers session bound _ was => exact ⟨session, bound.2, bound, .inr was⟩

-- Without a ready control a session that is on is parked.
theorem turn_unready (turn : Turn probePpm now obs control before after actions) (coherent : before.Coherent)
    (unready : control.ready = false) (on : after.active = true) : after.ladder = .l2Fallback := by
  cases turn with
  | idles _ off => exact absurd (off.symm.trans on) nofun
  | ends => exact absurd on nofun
  | loses => rfl
  | deafens _ _ _ latched => exact coherent.parked latched
  | begins _ ready | holds _ _ ready | waits _ _ ready | opens _ _ ready | samples _ _ ready | steps _ _ ready
  | passes _ _ ready | retries _ _ ready | fails _ _ ready | restarts _ _ ready | demotes _ _ ready | steers _ _ ready =>
    exact absurd (ready.symm.trans unready) nofun

theorem turn_quiet (turn : Turn probePpm now obs control before after actions) (quiet : obs.session = false) :
    after.active = false := by
  cases turn with
  | idles _ off => exact off
  | ends => rfl
  | begins session | loses session | deafens session | holds session | waits session | opens session | samples session
  | steps session | passes session | retries session | fails session | restarts session | demotes session | steers session =>
    exact absurd (quiet.symm.trans session) nofun

end Standing

namespace HostClock

variable (hc : HostClock) (status : ControlStatus)

-- A write that failed takes the ladder out of trust and of its probe, unless it is parked on host evidence.
theorem invalidateControl_standing :
    ((hc.sessionActive = false ∨ hc.fallbackReason.isHostEvidence = true) ∧ (hc.invalidateControl status).standing = hc.standing) ∨
      (hc.sessionActive = true ∧ hc.fallbackReason.isHostEvidence = false ∧ ∃ mean, (hc.invalidateControl status).standing =
        { hc.standing with ladder := .l2Fallback, reason := .actuatorUnavailable, mean := mean }) := by
  simp only [invalidateControl]
  cases on : hc.sessionActive with
  | false => exact .inl ⟨.inl rfl, rfl⟩
  | true =>
    cases evidence : hc.fallbackReason.isHostEvidence with
    | true => exact .inl ⟨.inr rfl, rfl⟩
    | false =>
      obtain ⟨mean, -, after⟩ := (hc.setControlStatus status).enterActuatorFallback_standing "pitch_write_failed"
      exact .inr ⟨rfl, rfl, mean, after⟩

end HostClock

namespace HostClockThread

variable {thread : HostClockThread}

/-- How a tick of the thread ends: its ladder took a turn, and then either every write of a ready control landed, or the
control was away, or a write failed. -/
inductive Ended (thread : HostClockThread) (found : Second) (ticked : Standing) : Prop
  | landed (ready : ((thread.refreshed found).status found.captureGeneration).ready = true)
      (still : ((thread.onSecond found).actuator.status found.captureGeneration).ready = true)
      (same : (thread.onSecond found).hc.standing = ticked)
  | away (unready : ((thread.refreshed found).status found.captureGeneration).ready = false)
      (same : (thread.onSecond found).hc.standing = ticked)
  | parted (settled : ticked.active = false ∨ ticked.reason.isHostEvidence = true)
      (unready : ((thread.onSecond found).actuator.status found.captureGeneration).ready = false)
      (same : (thread.onSecond found).hc.standing = ticked)
  | fell (on : ticked.active = true) (unlatched : ticked.reason.isHostEvidence = false) (mean : Option ℚ)
      (unready : ((thread.onSecond found).actuator.status found.captureGeneration).ready = false)
      (after : (thread.onSecond found).hc.standing =
        { ticked with ladder := .l2Fallback, reason := .actuatorUnavailable, mean := mean })

theorem written_landed (found : Second) (landed : (thread.written found).2 = false) :
    (thread.written found).1.controlGeneration = (thread.refreshed found).controlGeneration :=
  written_keeps found (fun state => state.2 = false → state.1.controlGeneration = (thread.refreshed found).controlGeneration)
    (fun _ => rfl)
    (fun state keeps ppm result applied landed => by
      cases applied with
      | absent | fails => simp at landed
      | lands _ _ control => exact control.trans (keeps (by simpa using landed))) landed

theorem onSecond_ended (lawful : thread.actuator.Lawful) (found : Second) :
    Ended thread found (thread.ladderTick found).1.standing := by
  have after : (thread.written found).1.Lawful := lawful_step lawful (.second found)
  cases failed : (thread.written found).2 with
  | true =>
    have unready : ((thread.onSecond found).actuator.status found.captureGeneration).ready = false := by
      have unbound := after.paired
      rw [written_failed found failed] at unbound
      have none : (thread.written found).1.controlGeneration = none := by simpa using unbound.symm
      simp [onSecond, ControlStatus.ready, HostClockActuator.status, none]
    have invalidated : (thread.onSecond found).hc =
        (thread.ladderTick found).1.invalidateControl ((thread.written found).1.status found.captureGeneration) := by
      simp only [onSecond, failed, if_true]
    rcases (thread.ladderTick found).1.invalidateControl_standing ((thread.written found).1.status found.captureGeneration) with
      ⟨settled, same⟩ | ⟨on, unlatched, mean, after⟩
    · exact .parted settled unready (invalidated ▸ same)
    · exact .fell on unlatched mean unready (invalidated ▸ after)
  | false =>
    have same : (thread.onSecond found).hc.standing = (thread.ladderTick found).1.standing := by
      simp only [onSecond, failed]
      rfl
    cases ready : ((thread.refreshed found).status found.captureGeneration).ready with
    | false => exact .away ready same
    | true =>
      refine .landed ready ?_ same
      rw [← ready]
      simp only [onSecond, ControlStatus.ready, HostClockActuator.status, written_landed found failed]

theorem ladderTick_turn (found : Second) (enabled : thread.hc.cfg.enabled = true) :
    Turn thread.hc.cfg.probePpm found.tickMs found.obs ((thread.refreshed found).status found.captureGeneration)
      thread.hc.standing (thread.ladderTick found).1.standing (thread.ladderTick found).2 :=
  thread.hc.tickWithControl_turn _ _ _ enabled

theorem ladderTick_disabled (found : Second) (disabled : thread.hc.cfg.enabled = false) :
    (thread.ladderTick found).1.standing = thread.hc.standing :=
  (thread.hc.tickWithControl_disabled _ _ _ disabled).1

theorem coherent_ladderTick (coherent : thread.hc.standing.Coherent) (found : Second) :
    (thread.ladderTick found).1.standing.Coherent := by
  cases enabled : thread.hc.cfg.enabled with
  | true => exact coherent.turn enabled (ladderTick_turn found enabled)
  | false => exact ladderTick_disabled found enabled ▸ coherent

-- A session that is on and not parked: the control was ready, and every write landed.
theorem live_second (coherent : thread.hc.standing.Coherent) (lawful : thread.actuator.Lawful) (found : Second)
    (on : (thread.onSecond found).hc.standing.active = true) (live : (thread.onSecond found).hc.standing.ladder ≠ .l2Fallback) :
    Turn thread.hc.cfg.probePpm found.tickMs found.obs ((thread.refreshed found).status found.captureGeneration)
        thread.hc.standing (thread.onSecond found).hc.standing (thread.ladderTick found).2 ∧
      ((thread.refreshed found).status found.captureGeneration).ready = true ∧
      ((thread.onSecond found).actuator.status found.captureGeneration).ready = true ∧
      (thread.onSecond found).hc.standing = (thread.ladderTick found).1.standing := by
  have ticked := coherent_ladderTick coherent found
  rcases onSecond_ended lawful found with ⟨ready, still, same⟩ | ⟨unready, same⟩ | ⟨settled, _, same⟩ | ⟨_, _, _, _, after⟩
  · rw [same] at on live ⊢
    cases enabled : thread.hc.cfg.enabled with
    | true => exact ⟨ladderTick_turn found enabled, ready, still, rfl⟩
    | false =>
      rw [ladderTick_disabled found enabled] at on
      exact absurd (enabled.symm.trans (coherent.enabled on)) nofun
  · rw [same] at on live
    cases enabled : thread.hc.cfg.enabled with
    | true => exact absurd (Standing.turn_unready (ladderTick_turn found enabled) coherent unready on) live
    | false =>
      rw [ladderTick_disabled found enabled] at on
      exact absurd (enabled.symm.trans (coherent.enabled on)) nofun
  · rw [same] at on live
    rcases settled with off | latched
    · exact absurd (off.symm.trans on) nofun
    · exact absurd (ticked.parked latched) live
  · exact absurd (by rw [after]) live

theorem coherent_second (coherent : thread.hc.standing.Coherent) (lawful : thread.actuator.Lawful) (found : Second) :
    (thread.onSecond found).hc.standing.Coherent := by
  have ticked := coherent_ladderTick coherent found
  rcases onSecond_ended lawful found with ⟨_, _, same⟩ | ⟨_, same⟩ | ⟨_, _, same⟩ | ⟨on, unlatched, mean, _, after⟩
  · exact same ▸ ticked
  · exact same ▸ ticked
  · exact same ▸ ticked
  · rw [after]
    exact ⟨nofun, by simp [Standing.Trusted], ticked.enabled, ticked.attempt⟩

/-- A block that leaves the session on, the capture generation as it is and the control ready for it; a reconnect does so
when there was none. -/
def Held (captureGeneration : ℕ) (allowed : Ladder → Prop) (thread : HostClockThread) : Block → Prop
  | .reconnect found => found.epoch = thread.lastConnection
  | .second found =>
    found.obs.session = true ∧ found.captureGeneration = captureGeneration ∧
      ((thread.onSecond found).actuator.status captureGeneration).ready = true ∧ allowed (thread.onSecond found).hc.ladder

def verdict (thread : HostClockThread) : Block → Option ProbeAttemptResult
  | .reconnect _ => none
  | .second found => thread.hc.standing.verdict (thread.ladderTick found).1.standing

/-- From its wait on, a probe has gone on in one session, on one capture and on a control that stayed ready. -/
structure Probed (origin : HostClockThread) (captureGeneration : ℕ) (before : List Block) (first : Block) (rest : List Block) : Prop where
  waits : ((before ++ [first]).foldl step origin).hc.probePhase = .awaitLock
  held : Along (Held captureGeneration (· = .probing)) step (before.foldl step origin) (first :: rest)

def Probing (origin : HostClockThread) (captureGeneration : ℕ) (blocks : List Block) : Prop :=
  ∃ before first rest, blocks = before ++ first :: rest ∧ Probed origin captureGeneration before first rest

/-- The trust that a run ends with was entered from a probe that passed in the same session, on the same capture and under
one readiness of the control, and it has been held in these ever since. -/
def TrustedByProbe (origin : HostClockThread) (captureGeneration : ℕ) (blocks : List Block) : Prop :=
  ∃ before first rest verdict hold, blocks = (before ++ first :: rest) ++ verdict :: hold ∧
    Probed origin captureGeneration before first rest ∧
    ((before ++ first :: rest).foldl step origin).verdict verdict = some .pass ∧
    Along (Held captureGeneration fun ladder => ladder = .l0Locked ∨ ladder = .l1Warn) step
      ((before ++ first :: rest).foldl step origin) (verdict :: hold)

variable {origin : HostClockThread} {captureGeneration : ℕ} {blocks : List Block} {block : Block}

theorem Probing.concat (probing : Probing origin captureGeneration blocks)
    (held : Held captureGeneration (· = .probing) (blocks.foldl step origin) block) :
    Probing origin captureGeneration (blocks ++ [block]) := by
  obtain ⟨before, first, rest, rfl, waits, along⟩ := probing
  rw [List.foldl_append] at held
  exact ⟨before, first, rest ++ [block], by simp, waits, along.concat held⟩

theorem TrustedByProbe.concat (trusted : TrustedByProbe origin captureGeneration blocks)
    (held : Held captureGeneration (fun ladder => ladder = .l0Locked ∨ ladder = .l1Warn) (blocks.foldl step origin) block) :
    TrustedByProbe origin captureGeneration (blocks ++ [block]) := by
  obtain ⟨before, first, rest, verdict, hold, rfl, probed, pass, along⟩ := trusted
  rw [List.foldl_append] at held
  exact ⟨before, first, rest, verdict, hold ++ [block], by simp, probed, pass, along.concat held⟩

/-- What is known of a thread after a run. -/
structure Tracked (origin : HostClockThread) (blocks : List Block) : Prop where
  lawful : (blocks.foldl step origin).actuator.Lawful
  coherent : (blocks.foldl step origin).hc.standing.Coherent
  probing : (blocks.foldl step origin).hc.sessionActive = true → (blocks.foldl step origin).hc.ladder = .probing →
    ∃ captureGeneration, (blocks.foldl step origin).hc.activeCaptureGeneration = some captureGeneration ∧
      Probing origin captureGeneration blocks
  trusted : (blocks.foldl step origin).hc.standing.Trusted →
    ∃ captureGeneration, (blocks.foldl step origin).hc.activeCaptureGeneration = some captureGeneration ∧
      TrustedByProbe origin captureGeneration blocks

theorem Tracked.second (tracked : Tracked origin blocks) (found : Second) : Tracked origin (blocks ++ [.second found]) := by
  have last : (blocks ++ [Block.second found]).foldl step origin = (blocks.foldl step origin).onSecond found :=
    List.foldl_concat _ _ _ _
  refine ⟨last ▸ lawful_step tracked.lawful (.second found), last ▸ coherent_second tracked.coherent tracked.lawful found, ?_, ?_⟩
  · rw [last]
    intro on probing
    obtain ⟨turn, ready, still, -⟩ := live_second tracked.coherent tracked.lawful found on
      (by simp [show ((blocks.foldl step origin).onSecond found).hc.standing.ladder = .probing from probing])
    obtain ⟨session, generation, since⟩ := Standing.turn_probing turn ready on probing
    have held : Held found.captureGeneration (· = .probing) (blocks.foldl step origin) (.second found) :=
      ⟨session, rfl, still, probing⟩
    refine ⟨found.captureGeneration, generation, ?_⟩
    rcases since with waits | ⟨bound, was⟩
    · exact ⟨blocks, .second found, [], rfl, by rw [last]; exact waits, held, trivial⟩
    · obtain ⟨captureGeneration, same, since⟩ := tracked.probing bound.1 was
      obtain rfl := Option.some.inj (same.symm.trans bound.2)
      exact since.concat held
  · rw [last]
    intro trusted
    have coherent := coherent_second tracked.coherent tracked.lawful found
    obtain ⟨turn, ready, still, same⟩ := live_second tracked.coherent tracked.lawful found (coherent.on trusted)
      (by rcases trusted with trusted | trusted <;> simp [trusted])
    obtain ⟨session, generation, bound, since⟩ := Standing.turn_trusted turn tracked.coherent ready trusted
    have held : Held found.captureGeneration (fun ladder => ladder = .l0Locked ∨ ladder = .l1Warn)
        (blocks.foldl step origin) (.second found) := ⟨session, rfl, still, trusted⟩
    refine ⟨found.captureGeneration, generation, ?_⟩
    rcases since with ⟨pass, was⟩ | was
    · obtain ⟨captureGeneration, generation, before, first, rest, rfl, probed⟩ := tracked.probing bound.1 was
      obtain rfl := Option.some.inj (generation.symm.trans bound.2)
      exact ⟨before, first, rest, .second found, [], by simp, probed, by rw [verdict, ← same]; exact pass, held, trivial⟩
    · obtain ⟨captureGeneration, generation, since⟩ := tracked.trusted was
      obtain rfl := Option.some.inj (generation.symm.trans bound.2)
      exact since.concat held

-- A new connection epoch ends the session.
theorem onReconnect_stops (coherent : thread.hc.standing.Coherent) (found : Reconnect)
    (other : found.epoch ≠ thread.lastConnection) :
    (thread.onReconnect found).hc.standing.active = false ∧ (thread.onReconnect found).hc.standing.Coherent := by
  let stopped : Obs := { found.obs with playing := false, steady := false }
  let control := thread.actuator.status found.captureGeneration
  have quiet : stopped.session = false := by simp [stopped, Obs.session]
  have ticked : (thread.onReconnect found).hc.standing = (thread.hc.tickWithControl stopped found.tickMs control).1.standing := by
    rw [onReconnect, if_neg other]
  rw [ticked]
  cases enabled : thread.hc.cfg.enabled with
  | true =>
    have turn := thread.hc.tickWithControl_turn stopped found.tickMs control enabled
    exact ⟨Standing.turn_quiet turn quiet, coherent.turn enabled turn⟩
  | false =>
    rw [(thread.hc.tickWithControl_disabled stopped found.tickMs control enabled).1]
    exact ⟨Bool.eq_false_iff.mpr fun on => Bool.noConfusion (enabled.symm.trans (coherent.enabled on)), coherent⟩

theorem Tracked.reconnect (tracked : Tracked origin blocks) (found : Reconnect) : Tracked origin (blocks ++ [.reconnect found]) := by
  have last : (blocks ++ [Block.reconnect found]).foldl step origin = (blocks.foldl step origin).onReconnect found :=
    List.foldl_concat _ _ _ _
  by_cases same : found.epoch = (blocks.foldl step origin).lastConnection
  · have still : (blocks.foldl step origin).onReconnect found = blocks.foldl step origin := if_pos same
    rw [still] at last
    refine ⟨last ▸ tracked.lawful, last ▸ tracked.coherent, ?_, ?_⟩
    · rw [last]
      intro on probing
      obtain ⟨captureGeneration, generation, since⟩ := tracked.probing on probing
      exact ⟨captureGeneration, generation, since.concat same⟩
    · rw [last]
      intro trusted
      obtain ⟨captureGeneration, generation, since⟩ := tracked.trusted trusted
      exact ⟨captureGeneration, generation, since.concat same⟩
  · obtain ⟨off, coherent⟩ := onReconnect_stops tracked.coherent found same
    refine ⟨last ▸ lawful_step tracked.lawful (.reconnect found), last ▸ coherent, ?_, ?_⟩
    · rw [last]
      exact fun on => absurd (off.symm.trans on) nofun
    · rw [last]
      exact fun trusted => absurd (off.symm.trans (coherent.on trusted)) nofun

theorem start_tracked (cfg : HostClockConfig) (found : Startup) : Tracked (start cfg found) [] := by
  have begun : (start cfg found).hc.standing = (HostClock.new cfg).standing := rfl
  have untrusted : ¬(HostClock.new cfg).standing.Trusted := by simp [Standing.Trusted, HostClock.standing, HostClock.new]
  exact ⟨(start_lawful cfg found).1, ⟨fun host => Bool.noConfusion host,
    fun trusted => absurd trusted untrusted, fun on => Bool.noConfusion on, le_rfl,
    (by decide : 1 ≤ maxProbeAttempts)⟩, fun on => Bool.noConfusion on, fun trusted => absurd trusted untrusted⟩

theorem run_tracked (cfg : HostClockConfig) (found : Startup) (blocks : List Block) : Tracked (start cfg found) blocks := by
  induction blocks using List.reverseRecOn with
  | nil => exact start_tracked cfg found
  | append_singleton blocks block ih =>
    cases block with
    | reconnect found => exact ih.reconnect found
    | second found => exact ih.second found

end HostClockThread

end Jts.UsbClock
