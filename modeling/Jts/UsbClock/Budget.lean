import Jts.UsbClock.Compliance
import Jts.UsbClock.Trust

set_option autoImplicit false

namespace Jts.UsbClock

open Jts.Shared.Transition

namespace Standing

variable {probePpm : ℚ} {now : ℕ} {obs : Obs} {control : ControlStatus} {before after : Standing} {actions : List Action}

/-- Attempts that may still fail in this session and generation. -/
def failuresLeft (standing : Standing) : ℕ :=
  if standing.reason.isHostEvidence then 0 else maxProbeAttempts + 1 - standing.attempt

-- Attempts that may still complete while the control stays ready as well.
def attemptsLeft (standing : Standing) : ℕ :=
  if standing.ladder = .l0Locked ∨ standing.ladder = .l1Warn then 0 else standing.failuresLeft

theorem failuresLeft_open {standing : Standing} (fresh : standing.reason.isHostEvidence = false) :
    standing.failuresLeft = maxProbeAttempts + 1 - standing.attempt := by
  simp [failuresLeft, fresh]

theorem attemptsLeft_probing {standing : Standing} (probing : standing.ladder = .probing) :
    standing.attemptsLeft = standing.failuresLeft := by
  simp [attemptsLeft, probing]

theorem attemptsLeft_le (standing : Standing) : standing.attemptsLeft ≤ standing.failuresLeft := by
  rw [attemptsLeft]
  split
  · exact Nat.zero_le _
  · exact le_rfl

theorem verdict_elsewhere (elsewhere : before.ladder ≠ .probing) : before.verdict after = none := by
  simp [verdict, elsewhere]

theorem turn_continues (turn : Turn probePpm now obs control before after actions) (session : obs.session = true) :
    after.bound control := by
  cases turn with
  | idles quiet | ends quiet => exact absurd (quiet.symm.trans session) nofun
  | begins | loses => exact rebound_bound control
  | deafens _ bound | holds _ bound | waits _ bound | opens _ bound | samples _ bound | steps _ bound | passes _ bound
  | retries _ bound | fails _ bound | restarts _ bound | demotes _ bound | steers _ bound => exact bound

/-- What one turn of a session that goes on spends of its budget. -/
theorem turn_spends (turn : Turn probePpm now obs control before after actions) (coherent : before.Coherent)
    (session : obs.session = true) (bound : before.bound control) :
    after.failuresLeft + ((before.verdict after).toList.filter (· ≠ .pass)).length ≤ before.failuresLeft ∧
      (control.ready = true → after.attemptsLeft + (before.verdict after).toList.length ≤ before.attemptsLeft) := by
  have attempt := coherent.attempt
  have fresh (probing : before.ladder = .probing) : before.reason.isHostEvidence = false := by
    cases evidence : before.reason.isHostEvidence with
    | false => rfl
    | true => exact Ladder.noConfusion (probing.symm.trans (coherent.parked evidence))
  have rebound : before.rebound control = before := if_pos bound
  cases turn with
  | idles quiet | ends quiet => exact Bool.noConfusion (quiet.symm.trans session)
  | begins _ _ recovers =>
    obtain ⟨ladder, reason⟩ := recovers bound
    rw [verdict_elsewhere (by simp [ladder]), rebound]
    simp [failuresLeft, attemptsLeft, awaiting, ladder, reason, FallbackReason.isHostEvidence]
  | loses _ unready _ _ unlatched mean =>
    rw [rebound]
    have missed : before.verdict { before with ladder := .l2Fallback, reason := .actuatorUnavailable, mean := mean } = none := by
      simp [verdict]
    rw [missed, failuresLeft_open rfl, failuresLeft_open (unlatched bound)]
    exact ⟨le_rfl, fun ready => Bool.noConfusion (ready.symm.trans unready)⟩
  | deafens _ _ _ latched =>
    rw [verdict_elsewhere (by simp [coherent.parked latched])]
    exact ⟨le_rfl, fun _ => le_rfl⟩
  | holds _ _ _ parked =>
    rw [verdict_elsewhere (by rcases parked with parked | ⟨parked, -⟩ <;> simp [parked])]
    exact ⟨le_rfl, fun _ => le_rfl⟩
  | waits _ _ _ _ phase =>
    rw [verdict_before _ (by rcases phase with phase | phase <;> simp [phase])]
    exact ⟨le_rfl, fun _ => le_rfl⟩
  | opens _ _ _ _ phase =>
    rw [verdict_before _ (by simp [phase])]
    exact ⟨le_rfl, fun _ => le_rfl⟩
  | samples _ _ _ probing phase =>
    have going : (before.heard obs).phase ≠ .retryWait := by rcases phase with ⟨phase, -⟩ | ⟨phase, -⟩ <;> simp [heard, phase]
    rw [verdict_measuring _ (show (before.heard obs).ladder = .probing from probing) going]
    exact ⟨le_rfl, fun _ => le_rfl⟩
  | steps _ _ _ _ phase =>
    rw [verdict_before _ (by simp [phase])]
    exact ⟨le_rfl, fun _ => le_rfl⟩
  | passes _ _ _ probing phase =>
    have pass : before.verdict { before.heard obs with ladder := .l0Locked, reason := .none } = some .pass := by
      simp [verdict, probing, phase]
    rw [pass, failuresLeft_open rfl, attemptsLeft_probing probing, failuresLeft_open (fresh probing)]
    refine ⟨le_rfl, fun _ => ?_⟩
    simp only [attemptsLeft, true_or, if_true, Option.toList_some, List.length_singleton]
    omega
  | retries _ _ _ probing phase _ _ left =>
    have fail : before.verdict { before with phase := .retryWait, attempt := before.attempt + 1, started := now, mean := none } =
        some .retryableFail := by
      simp [verdict, probing, phase]
    have spent : ({ before with phase := .retryWait, attempt := before.attempt + 1, started := now, mean := none } :
        Standing).failuresLeft = maxProbeAttempts + 1 - (before.attempt + 1) := failuresLeft_open (fresh probing)
    have completed := attemptsLeft_le
      { before with phase := .retryWait, attempt := before.attempt + 1, started := now, mean := none }
    rw [fail, attemptsLeft_probing probing, failuresLeft_open (fresh probing)]
    simp only [Option.toList_some, List.length_singleton, ne_eq, reduceCtorEq, not_false_eq_true, decide_true,
      List.filter_cons_of_pos, List.filter_nil]
    exact ⟨by omega, fun _ => by omega⟩
  | fails _ _ _ probing phase =>
    have fail : before.verdict { before.heard obs with ladder := .l2Fallback, reason := .probeNoncompliant } = some .fail := by
      simp [verdict, probing, phase]
    rw [fail, attemptsLeft_probing probing, failuresLeft_open (fresh probing)]
    simp [attemptsLeft, failuresLeft, FallbackReason.isHostEvidence]
    omega
  | restarts _ _ _ _ phase =>
    rw [verdict_before _ (by simp [phase])]
    exact ⟨le_rfl, fun _ => le_rfl⟩
  | demotes _ _ _ trusted =>
    rw [verdict_elsewhere (by rcases trusted with trusted | trusted <;> simp [trusted])]
    simp [failuresLeft, attemptsLeft, FallbackReason.isHostEvidence]
  | steers _ _ _ trusted ladder remains =>
    rw [verdict_elsewhere (by rcases trusted with trusted | trusted <;> simp [trusted])]
    have spent : before.attemptsLeft = 0 := if_pos trusted
    rw [spent]
    exact ⟨le_rfl, fun _ => (if_pos remains).le⟩

theorem failuresLeft_le (coherent : before.Coherent) : before.failuresLeft ≤ maxProbeAttempts := by
  have attempt := coherent.attempt
  rw [failuresLeft]
  split <;> omega

-- A session that starts, or one on another capture, has had no attempt yet.
theorem turn_fresh (turn : Turn probePpm now obs control before after actions) (session : obs.session = true)
    (other : ¬before.bound control) : before.verdict after = none := by
  cases turn with
  | idles quiet | ends quiet => exact absurd (quiet.symm.trans session) nofun
  | begins => simp [verdict, awaiting]
  | loses => simp [verdict]
  | deafens _ bound | holds _ bound | waits _ bound | opens _ bound | samples _ bound | steps _ bound | passes _ bound
  | retries _ bound | fails _ bound | restarts _ bound | demotes _ bound | steers _ bound => exact absurd bound other

theorem verdict_self (standing : Standing) : standing.verdict standing = none := by
  rw [verdict]
  split
  next measuring => simp [measuring]
  next => rfl

theorem turn_latched (turn : Turn probePpm now obs control before after actions) (session : obs.session = true)
    (bound : before.bound control) (evidence : before.reason.isHostEvidence = true) (coherent : before.Coherent) :
    after.reason = before.reason := by
  have parked : before.ladder = .l2Fallback := coherent.parked evidence
  cases turn with
  | idles quiet | ends quiet => exact Bool.noConfusion (quiet.symm.trans session)
  | begins _ _ recovers => simp [(recovers bound).2, FallbackReason.isHostEvidence] at evidence
  | loses _ _ _ _ unlatched => exact Bool.noConfusion (evidence.symm.trans (unlatched bound))
  | deafens | holds | waits | opens | samples | steps | retries | restarts => rfl
  | passes _ _ _ probing | fails _ _ _ probing => cases parked.symm.trans probing
  | demotes _ _ _ trusted | steers _ _ _ trusted => simp [parked] at trusted

end Standing

namespace HostClockThread

variable {thread : HostClockThread} {captureGeneration : ℕ}

/-- A block of a session that goes on, on a capture that stays. -/
def Continues (captureGeneration : ℕ) (thread : HostClockThread) : Block → Prop
  | .reconnect found => found.epoch = thread.lastConnection
  | .second found => found.obs.session = true ∧ found.captureGeneration = captureGeneration

/-- The attempts that complete, in order. -/
def verdicts (thread : HostClockThread) : List Block → List ProbeAttemptResult
  | [] => []
  | block :: blocks => (thread.verdict block).toList ++ (thread.step block).verdicts blocks

-- What is left of a budget; a session that is not on, or on another capture, has all of it.
def budget (left : Standing → ℕ) (captureGeneration : ℕ) (thread : HostClockThread) : ℕ :=
  if thread.hc.sessionActive = true ∧ thread.hc.activeCaptureGeneration = some captureGeneration then left thread.hc.standing
  else maxProbeAttempts

theorem budget_of {left : Standing → ℕ} (on : thread.hc.standing.active = true)
    (generation : thread.hc.standing.generation = some captureGeneration) :
    thread.budget left captureGeneration = left thread.hc.standing := if_pos ⟨on, generation⟩

theorem budget_idle {left : Standing → ℕ} (off : thread.hc.standing.active = false) :
    thread.budget left captureGeneration = maxProbeAttempts := by
  have off : thread.hc.sessionActive = false := off
  exact if_neg (by simp [off])

theorem budget_le {left : Standing → ℕ} (within : left thread.hc.standing ≤ maxProbeAttempts) :
    thread.budget left captureGeneration ≤ maxProbeAttempts := by
  rw [budget]
  split
  · exact within
  · exact le_rfl

theorem ended_bound {found : Second} {ticked : Standing} (ended : Ended thread found ticked) (on : ticked.active = true)
    (generation : ticked.generation = some captureGeneration) :
    (thread.onSecond found).hc.standing.active = true ∧
      (thread.onSecond found).hc.standing.generation = some captureGeneration ∧
      (thread.onSecond found).hc.standing.failuresLeft = ticked.failuresLeft := by
  rcases ended with ⟨_, _, same⟩ | ⟨_, same⟩ | ⟨_, _, same⟩ | ⟨_, unlatched, mean, _, after⟩
  · rw [same]
    exact ⟨on, generation, rfl⟩
  · rw [same]
    exact ⟨on, generation, rfl⟩
  · rw [same]
    exact ⟨on, generation, rfl⟩
  · rw [after]
    exact ⟨on, generation, (Standing.failuresLeft_open rfl).trans (Standing.failuresLeft_open unlatched).symm⟩

-- A session without the feature never comes on.
theorem second_disabled (coherent : thread.hc.standing.Coherent) (lawful : thread.actuator.Lawful) (found : Second)
    (disabled : thread.hc.cfg.enabled = false) :
    (thread.onSecond found).hc.standing = thread.hc.standing ∧ thread.hc.standing.active = false ∧
      thread.verdict (.second found) = none := by
  have off : thread.hc.standing.active = false :=
    Bool.eq_false_iff.mpr fun on => absurd (disabled.symm.trans (coherent.enabled on)) nofun
  have ticked := ladderTick_disabled found disabled
  refine ⟨?_, off, by rw [verdict, ticked, Standing.verdict_self]⟩
  rcases onSecond_ended lawful found with ⟨_, _, same⟩ | ⟨_, same⟩ | ⟨_, _, same⟩ | ⟨on, _⟩
  · exact same.trans ticked
  · exact same.trans ticked
  · exact same.trans ticked
  · exact absurd ((congrArg Standing.active ticked).symm.trans on) (by simp [off])

-- A control that is ready after the writes was ready before them, and every write landed.
theorem landed_of_ready (lawful : thread.actuator.Lawful) (found : Second)
    (ready : ((thread.onSecond found).actuator.status found.captureGeneration).ready = true) :
    ((thread.refreshed found).status found.captureGeneration).ready = true ∧
      (thread.onSecond found).hc.standing = (thread.ladderTick found).1.standing := by
  rcases onSecond_ended lawful found with ⟨was, _, same⟩ | ⟨unready, _⟩ | ⟨_, unready, _⟩ | ⟨_, _, _, unready, _⟩
  · exact ⟨was, same⟩
  · have kept : (thread.onSecond found).actuator = thread.refreshed found := by simp only [onSecond, written_unready found unready]
    rw [kept] at ready
    exact Bool.noConfusion (ready.symm.trans unready)
  · exact Bool.noConfusion (ready.symm.trans unready)
  · exact Bool.noConfusion (ready.symm.trans unready)

theorem coherent_step (coherent : thread.hc.standing.Coherent) (lawful : thread.actuator.Lawful) (block : Block) :
    (thread.step block).hc.standing.Coherent := by
  cases block with
  | second found => exact coherent_second coherent lawful found
  | reconnect found =>
    by_cases same : found.epoch = thread.lastConnection
    · rw [step, onReconnect, if_pos same]
      exact coherent
    · exact (onReconnect_stops coherent found same).2

theorem second_spends (coherent : thread.hc.standing.Coherent) (lawful : thread.actuator.Lawful) (found : Second)
    (session : found.obs.session = true) :
    (thread.onSecond found).budget Standing.failuresLeft found.captureGeneration +
          ((thread.verdict (.second found)).toList.filter (· ≠ .pass)).length ≤
        thread.budget Standing.failuresLeft found.captureGeneration ∧
      (((thread.onSecond found).actuator.status found.captureGeneration).ready = true →
        (thread.onSecond found).budget Standing.attemptsLeft found.captureGeneration +
            (thread.verdict (.second found)).toList.length ≤
          thread.budget Standing.attemptsLeft found.captureGeneration) := by
  have after := coherent_second coherent lawful found
  cases enabled : thread.hc.cfg.enabled with
  | false =>
    obtain ⟨same, off, undecided⟩ := second_disabled coherent lawful found enabled
    have still : (thread.onSecond found).hc.standing.active = false := (congrArg Standing.active same).trans off
    rw [undecided, budget_idle off, budget_idle still, budget_idle off, budget_idle still]
    exact ⟨le_rfl, fun _ => le_rfl⟩
  | true =>
    have turn := ladderTick_turn found enabled
    obtain ⟨on, generation⟩ := Standing.turn_continues turn session
    have generation : (thread.ladderTick found).1.standing.generation = some found.captureGeneration := generation
    obtain ⟨still, same, left⟩ := ended_bound (onSecond_ended lawful found) on generation
    rw [budget_of still same, budget_of still same]
    by_cases bound : thread.hc.standing.bound ((thread.refreshed found).status found.captureGeneration)
    · obtain ⟨failures, attempts⟩ := Standing.turn_spends turn coherent session bound
      have whole : thread.hc.standing.generation = some found.captureGeneration := bound.2
      rw [budget_of bound.1 whole, budget_of bound.1 whole, left]
      refine ⟨failures, fun ready => ?_⟩
      obtain ⟨was, landed⟩ := landed_of_ready lawful found ready
      exact landed ▸ attempts was
    · have fresh : thread.verdict (.second found) = none := Standing.turn_fresh turn session bound
      have whole {left : Standing → ℕ} : thread.budget left found.captureGeneration = maxProbeAttempts := if_neg bound
      rw [fresh, whole, whole]
      exact ⟨Standing.failuresLeft_le after, fun _ => (Standing.attemptsLeft_le _).trans (Standing.failuresLeft_le after)⟩

-- A reconnect that finds the epoch it knows does nothing.
theorem continues_reconnect {found : Reconnect} (same : found.epoch = thread.lastConnection) : thread.step (.reconnect found) = thread :=
  if_pos same

theorem failures_spend (coherent : thread.hc.standing.Coherent) (lawful : thread.actuator.Lawful) (block : Block)
    (continues : Continues captureGeneration thread block) :
    (thread.step block).budget Standing.failuresLeft captureGeneration +
        ((thread.verdict block).toList.filter (· ≠ .pass)).length ≤
      thread.budget Standing.failuresLeft captureGeneration := by
  cases block with
  | reconnect found =>
    rw [continues_reconnect continues]
    exact le_rfl
  | second found =>
    obtain ⟨session, rfl⟩ := continues
    exact (second_spends coherent lawful found session).1

theorem attempts_spend (coherent : thread.hc.standing.Coherent) (lawful : thread.actuator.Lawful) (block : Block)
    (held : Held captureGeneration (fun _ => True) thread block) :
    (thread.step block).budget Standing.attemptsLeft captureGeneration +
        ((thread.verdict block).toList.filter fun _ => true).length ≤
      thread.budget Standing.attemptsLeft captureGeneration := by
  cases block with
  | reconnect found =>
    rw [continues_reconnect held]
    exact le_rfl
  | second found =>
    obtain ⟨session, rfl, ready, -⟩ := held
    rw [List.filter_true]
    exact (second_spends coherent lawful found session).2 ready

theorem verdicts_spend {left : Standing → ℕ} {Meets : HostClockThread → Block → Prop} {counted : ProbeAttemptResult → Bool}
    (spends : ∀ thread : HostClockThread, thread.hc.standing.Coherent → thread.actuator.Lawful → ∀ block, Meets thread block →
      (thread.step block).budget left captureGeneration + ((thread.verdict block).toList.filter counted).length ≤
        thread.budget left captureGeneration)
    (coherent : thread.hc.standing.Coherent) (lawful : thread.actuator.Lawful) {blocks : List Block}
    (along : Along Meets step thread blocks) :
    ((thread.verdicts blocks).filter counted).length ≤ thread.budget left captureGeneration := by
  induction blocks generalizing thread with
  | nil => exact Nat.zero_le _
  | cons block blocks ih =>
    have spent := spends thread coherent lawful block along.1
    have later := ih (coherent_step coherent lawful block) (lawful_step lawful block) along.2
    rw [verdicts, List.filter_append, List.length_append]
    omega

theorem latched_step (coherent : thread.hc.standing.Coherent) (lawful : thread.actuator.Lawful) (block : Block)
    (continues : Continues captureGeneration thread block) (on : thread.hc.standing.active = true)
    (generation : thread.hc.standing.generation = some captureGeneration) (evidence : thread.hc.standing.reason.isHostEvidence = true) :
    (thread.step block).hc.standing.active = true ∧ (thread.step block).hc.standing.generation = some captureGeneration ∧
      (thread.step block).hc.standing.reason = thread.hc.standing.reason := by
  cases block with
  | reconnect found =>
    rw [continues_reconnect continues]
    exact ⟨on, generation, rfl⟩
  | second found =>
    obtain ⟨session, rfl⟩ := continues
    have turn := ladderTick_turn found (coherent.enabled on)
    obtain ⟨still, same⟩ := Standing.turn_continues turn session
    have same : (thread.ladderTick found).1.standing.generation = some found.captureGeneration := same
    have latched := Standing.turn_latched turn session ⟨on, generation⟩ evidence coherent
    obtain ⟨on, generation, -⟩ := ended_bound (onSecond_ended lawful found) still same
    refine ⟨on, generation, ?_⟩
    rcases onSecond_ended lawful found with ⟨_, _, same⟩ | ⟨_, same⟩ | ⟨_, _, same⟩ | ⟨_, unlatched, _⟩
    · exact (congrArg Standing.reason same).trans latched
    · exact (congrArg Standing.reason same).trans latched
    · exact (congrArg Standing.reason same).trans latched
    · rw [latched] at unlatched
      exact absurd (evidence.symm.trans unlatched) nofun

theorem latched_run (coherent : thread.hc.standing.Coherent) (lawful : thread.actuator.Lawful) {blocks : List Block}
    (along : Along (Continues captureGeneration) step thread blocks) (on : thread.hc.standing.active = true)
    (generation : thread.hc.standing.generation = some captureGeneration) (evidence : thread.hc.standing.reason.isHostEvidence = true) :
    (blocks.foldl step thread).hc.standing.ladder = .l2Fallback ∧
      (blocks.foldl step thread).hc.standing.reason = thread.hc.standing.reason := by
  induction blocks generalizing thread with
  | nil => exact ⟨coherent.parked evidence, rfl⟩
  | cons block blocks ih =>
    obtain ⟨still, same, latched⟩ := latched_step coherent lawful block along.1 on generation evidence
    obtain ⟨parked, kept⟩ :=
      ih (coherent_step coherent lawful block) (lawful_step lawful block) along.2 still same (latched ▸ evidence)
    exact ⟨parked, kept.trans latched⟩

/-- What a run of the thread keeps, wherever it stops. -/
structure Contained (origin : HostClockThread) (blocks : List Block) : Prop where
  within : ∀ write ∈ (blocks.foldl step origin).actuator.writes, |write.value - pitchNeutral| ≤ 1000
  exitWithin : ∀ found, ∀ write ∈ ((blocks.foldl step origin).exit found).actuator.writes, |write.value - pitchNeutral| ≤ 1000
  neutral : (blocks.foldl step origin).NeutralAtRest
  exitNeutral : ∀ found, ((blocks.foldl step origin).exit found).actuator.LeftNeutral
  fenced : (blocks.foldl step origin).actuator.ctl = none → ∀ more found,
    ((blocks ++ more).foldl step origin).actuator.FencedSince (blocks.foldl step origin).actuator.writes ∧
      (((blocks ++ more).foldl step origin).exit found).actuator.FencedSince (blocks.foldl step origin).actuator.writes
  trusted : (blocks.foldl step origin).hc.standing.Trusted →
    ∃ captureGeneration, (blocks.foldl step origin).hc.activeCaptureGeneration = some captureGeneration ∧
      TrustedByProbe origin captureGeneration blocks
  attempts : ∀ captureGeneration more, Along (Held captureGeneration fun _ => True) step (blocks.foldl step origin) more →
    ((blocks.foldl step origin).verdicts more).length ≤ maxProbeAttempts
  failures : ∀ captureGeneration more, Along (Continues captureGeneration) step (blocks.foldl step origin) more →
    (((blocks.foldl step origin).verdicts more).filter (· ≠ .pass)).length ≤ maxProbeAttempts
  latched : ∀ captureGeneration more, (blocks.foldl step origin).hc.sessionActive = true →
    (blocks.foldl step origin).hc.activeCaptureGeneration = some captureGeneration →
    (blocks.foldl step origin).hc.fallbackReason.isHostEvidence = true →
    Along (Continues captureGeneration) step (blocks.foldl step origin) more →
    ((blocks ++ more).foldl step origin).hc.ladder = .l2Fallback ∧
      ((blocks ++ more).foldl step origin).hc.fallbackReason = (blocks.foldl step origin).hc.fallbackReason

theorem exit_applied (found : Shutdown) : HostClockActuator.Applied pitchNeutral thread.actuator (thread.actuator.apply
    (thread.hc.neutralizeForExit "shutdown").2 found.applyMs found.applied) := by
  have applied := @HostClockActuator.apply_applied thread.actuator found.applyMs 0 true found.applied
  rwa [ppmToCtlValue_zero] at applied

end HostClockThread

open HostClockThread

theorem host_is_slaved_only_under_trust (cfg : HostClockConfig) (startup : Startup) (blocks : List Block) :
    Contained (start cfg startup) blocks := by
  obtain ⟨lawful, coherent, -, trusted⟩ := run_tracked cfg startup blocks
  have neutral : (blocks.foldl step (start cfg startup)).NeutralAtRest := (run_lawful cfg startup blocks).2
  exact {
    within := lawful.within
    exitWithin := fun found => ((exit_applied found).lawful lawful (by simp)).within
    neutral := neutral
    exitNeutral := fun found => exit_neutral found
    fenced := fun gone more found => by
      have start : (blocks.foldl step (start cfg startup)).actuator.FencedSince
          (blocks.foldl step (start cfg startup)).actuator.writes := ⟨[], rfl, trivial, fun held => absurd (gone ▸ held) nofun⟩
      rw [List.foldl_append]
      have fenced := run_fencedSince lawful start more
      exact ⟨fenced, (exit_applied found).fencedSince fenced⟩
    trusted := trusted
    attempts := fun captureGeneration more along => by
      have spent := verdicts_spend (fun _ coherent lawful block => attempts_spend coherent lawful block) coherent lawful along
      rw [List.filter_true] at spent
      exact spent.trans (budget_le ((Standing.attemptsLeft_le _).trans (Standing.failuresLeft_le coherent)))
    failures := fun captureGeneration more along =>
      (verdicts_spend (fun _ coherent lawful block => failures_spend coherent lawful block) coherent lawful along).trans
        (budget_le (Standing.failuresLeft_le coherent))
    latched := fun captureGeneration more on generation evidence along => by
      rw [List.foldl_append]
      exact latched_run coherent lawful along on generation evidence }

def coldStart : Startup where
  captureGeneration := 1
  readyMs := 0
  applyMs := 0
  refresh := { stale := { ok := true, readback := none }, opens := true, neutral := { ok := true, readback := none } }
  applied := { ok := true, readback := none }

def aSecond (nowMs : ℕ) (correctionPpm : ℚ) (lands : Bool) : Block :=
  .second {
    obs := (sessionTick nowMs true correctionPpm).obs
    captureGeneration := 1
    tickMs := nowMs
    refresh := coldStart.refresh
    applied := fun _ => { ok := lands, readback := none } }

-- A host that follows, and passes its first probe.
def followed : List Block :=
  (List.range 24).map fun second => aSecond (1000 * second) (if second < 8 then 40 else 340) true

theorem a_host_slaved_under_trust :
    Contained (start defaultConfig coldStart) followed ∧ (run defaultConfig coldStart followed).hc.ladder = .l0Locked ∧
      (run defaultConfig coldStart followed).actuator.writes.any (fun write => decide (write.value ≠ pitchNeutral)) = true :=
  ⟨host_is_slaved_only_under_trust defaultConfig coldStart followed, by decide +kernel, by decide +kernel⟩

-- The write of the tick that ends the probe fails, and the control comes back a second later.
def outage (origin : ℕ) : List Block :=
  (List.range 23).map fun second => aSecond (origin + 1000 * second) (if second < 8 then 40 else 340) (second < 22)

instance (captureGeneration : ℕ) (thread : HostClockThread) : ∀ block, Decidable (Continues captureGeneration thread block)
  | .reconnect found => inferInstanceAs (Decidable (found.epoch = thread.lastConnection))
  | .second found => inferInstanceAs (Decidable (found.obs.session = true ∧ found.captureGeneration = captureGeneration))

theorem outages_complete_a_third_attempt :
    ¬(Along (Continues 1) step (start defaultConfig coldStart) (outage 0 ++ outage 23000 ++ outage 46000) →
      ((start defaultConfig coldStart).verdicts (outage 0 ++ outage 23000 ++ outage 46000)).length ≤ maxProbeAttempts) := by
  decide +kernel

end Jts.UsbClock
