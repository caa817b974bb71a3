import Jts.ActiveSpeaker.Ladder

set_option autoImplicit false

namespace Jts.ActiveSpeaker

open Shared.Transition (Reachable System ofAct reachable_foldl)

/-- The session that a step arms, after the one that it looked at has run out. -/
def rearmed (runsOut : Bool) (speaker armed : Commissioning) (outside : StepOutside) : SafeSession :=
  if runsOut then ensureSafeSessionArmed { speaker.safe with lapsed := true } outside.ready else armed.safe

/-- An audible step in which the session may run out between the gate's look at it and its arming. -/
def stepAudibly (runsOut : Bool) (speaker : Commissioning) (group : String) (role : Role) (autoRetryPending : Bool)
    (roles : List Role) (outside : StepOutside) : Commissioning × StepStatus :=
  match stepChecks speaker group role autoRetryPending roles outside with
  | .error refused => refused
  | .ok (armed, replaced, next) =>
      let ready := { armed with safe := rearmed runsOut speaker armed outside }
      if ready.safe.load.status ≠ .armed then (ready, .safeSessionArmFailed)
      else loadStep ready replaced ⟨group, role, outside.outputIndex⟩ next outside

/-- A call, or a step in which the session runs out before it is armed. -/
inductive Event
  | call (call : Call)
  | runOut (group : String) (role : Role) (autoRetryPending : Bool) (roles : List Role) (outside : StepOutside)
deriving DecidableEq

def perform (speaker : Commissioning) : Event → Commissioning
  | .call call => act speaker call
  | .runOut group role autoRetryPending roles outside => (stepAudibly true speaker group role autoRetryPending roles outside).1

abbrev confirming : System Commissioning Event := ofAct (fun speaker => speaker = .initial) perform

/-- The status that an acknowledgement answers with, when it returns. -/
def ackAnswer (speaker : Commissioning) (outcome : Outcome) : Option AckStatus :=
  match speaker.ramp.pending with
  | none => some .noPendingStep
  | some pending =>
      (ackSafe speaker.safe outcome pending.playbackId).map fun told =>
        (ackVerdict speaker.ramp.confirmedRoles pending told.2 outcome).status

/-- A confirmation of the role is accepted, and remembered where it returns. -/
def Lands (speaker : Commissioning) (role : Role) : Prop :=
  ackAnswer speaker .heardCorrectDriver = some .confirmed ∧
    ∀ loader acked, recordRampOperatorAck speaker .heardCorrectDriver loader = (acked, .returned) → role ∈ acked.ramp.confirmedRoles

def fromSilentFloor (speaker : Commissioning) : Bool :=
  speaker.commission.state.target.any (·.audibleGainDb < minTestLevelDbfs)

/-- A step that an operator can confirm: one up from the silent floor, or one in a session that has lasted. -/
def Answerable (runsOut : Bool) (speaker : Commissioning) (target : PlaybackTarget) : Prop :=
  fromSilentFloor speaker = true ∨
    runsOut = false ∧ speaker.safe.load.status = .armed ∧ Answers speaker.safe.quietStart target

theorem rampAudibleStep_eq (speaker : Commissioning) (group : String) (role : Role) (autoRetryPending : Bool) (roles : List Role)
    (outside : StepOutside) :
    stepAudibly false speaker group role autoRetryPending roles outside = rampAudibleStep speaker group role autoRetryPending roles outside := by
  unfold stepAudibly rampAudibleStep
  cases checks : stepChecks speaker group role autoRetryPending roles outside with
  | error refused => rfl
  | ok passed =>
      obtain ⟨armed, replaced, next⟩ := passed
      obtain ⟨current, passes⟩ := stepChecks_ok checks
      exact if_neg (not_not.mpr passes.session)

/-- Arming keeps what is heeded, or starts over. -/
theorem Attends.rearmed {speaker armed : Commissioning} (attends : Attends speaker) (runsOut : Bool) {outside : StepOutside}
    (same : armed = { speaker with safe := ensureSafeSessionArmed speaker.safe outside.ready }) :
    Attends { armed with safe := ActiveSpeaker.rearmed runsOut speaker armed outside } := by
  have lapsed : Attends { speaker with safe := { speaker.safe with lapsed := true } } :=
    ⟨attends.clean, fun pending waits => (attends.heeds pending waits).lapsed true⟩
  unfold ActiveSpeaker.rearmed
  rw [same]
  split
  · exact lapsed.ensureArmed outside.ready
  · exact attends.ensureArmed outside.ready

theorem Attends.stepAudibly {speaker : Commissioning} (attends : Attends speaker) (runsOut : Bool) (group : String) (role : Role)
    (autoRetryPending : Bool) (roles : List Role) (outside : StepOutside) :
    Attends (stepAudibly runsOut speaker group role autoRetryPending roles outside).1 := by
  unfold ActiveSpeaker.stepAudibly
  cases checks : stepChecks speaker group role autoRetryPending roles outside with
  | error refused =>
      rcases stepChecks_error checks with same | armed
      · exact same ▸ attends
      · exact armed ▸ attends.ensureArmed outside.ready
  | ok passed =>
      obtain ⟨armed, replaced, next⟩ := passed
      obtain ⟨current, passes⟩ := stepChecks_ok checks
      have ready := attends.rearmed runsOut passes.armed_eq
      dsimp only
      split
      · exact ready
      · exact ready.loadStep _ _ _ _

theorem attends_of_reachable {speaker : Commissioning} (reached : Reachable confirming speaker) : Attends speaker := by
  refine @Reachable.invariant _ _ _ Attends ?_ ?_ _ reached
  · rintro first rfl
    exact attends_initial
  · rintro before event after attends rfl
    cases event with
    | call call => exact attends.act call
    | runOut group role autoRetryPending roles outside => exact attends.stepAudibly true group role autoRetryPending roles outside

theorem settle_returned {told acked : Commissioning} {pending : PendingStep} {verdict : Verdict} {loader : Option RollbackOutside}
    (done : settle told pending verdict loader = (acked, .returned)) : acked.ramp.confirmedRoles = verdict.confirmedRoles := by
  unfold settle at done
  split at done
  · obtain ⟨rfl, -⟩ := Prod.mk.inj done
    rfl
  split at done
  · obtain ⟨rfl, -⟩ := Prod.mk.inj done
    rfl
  dsimp only at done
  split at done
  · exact absurd (Prod.mk.inj done).2 nofun
  · obtain ⟨rfl, -⟩ := Prod.mk.inj done
    rfl

theorem ackVerdict_insert {confirmedRoles : List Role} {pending : PendingStep} {seen : SafeSession}
    (confirmed : (ackVerdict confirmedRoles pending seen .heardCorrectDriver).status = .confirmed) :
    (ackVerdict confirmedRoles pending seen .heardCorrectDriver).confirmedRoles = confirmedRoles.insert pending.role := by
  unfold ackVerdict at confirmed ⊢
  dsimp only at confirmed ⊢
  split at confirmed
  next accepted => rw [if_pos accepted]
  next =>
    split at confirmed
    · exact absurd confirmed nofun
    · exact absurd confirmed nofun

theorem lands_of_answer {speaker : Commissioning} {pending : PendingStep} (waits : speaker.ramp.pending = some pending)
    (confirmed : ackAnswer speaker .heardCorrectDriver = some .confirmed) : Lands speaker pending.role := by
  refine ⟨confirmed, fun loader acked done => ?_⟩
  rw [ackAnswer, waits] at confirmed
  rw [recordRampOperatorAck, waits] at done
  dsimp only at confirmed done
  cases told : ackSafe speaker.safe .heardCorrectDriver pending.playbackId with
  | none =>
      rw [told] at confirmed
      cases confirmed
  | some answered =>
      rw [told] at confirmed done
      rw [settle_returned done, ackVerdict_insert (Option.some.inj confirmed)]
      exact List.mem_insert_self

theorem accepted_answer {safe : SafeSession} {playbackId : Nat} (armed : safe.status = .armed)
    (waits : safe.quietStart.status = .floorPendingOperator) (names : safe.quietStart.pendingPlaybackId = some playbackId)
    (target : safe.quietStart.currentTarget ≠ none) (lasts : safe.load = safe) :
    ∃ told, ackSafe safe .heardCorrectDriver playbackId = some (told, told) ∧ told.issues = [] ∧
      told.quietStart.status = .floorConfirmed := by
  have none_issue : operatorIssues safe playbackId = [] := by
    simp [operatorIssues, armed, waits, names, target]
  refine ⟨recordFloorAudioOperatorResult safe .heardCorrectDriver playbackId, ?_, ?_, ?_⟩
  · rw [ackSafe, lasts, if_pos waits]
    rfl
  · rw [recordFloorAudioOperatorResult, lasts, if_neg (not_not.mpr none_issue)]
  · rw [recordFloorAudioOperatorResult, lasts, if_neg (not_not.mpr none_issue)]
    rfl

/-- The verdict on a tone: it is accepted where the tone was at the floor, or the tri-state answers for it. -/
theorem tone_lands_iff {speaker : Commissioning} {safe : SafeSession} {target : PlaybackTarget} {level : Level} {playbackId : Nat}
    (clean : Clean safe) (recorded : speaker.safe = recordSafePlaybackResult safe target level playbackId)
    (waits : speaker.ramp.pending = some ⟨target.role, level, playbackId⟩) (armed : speaker.safe.load.status = .armed) :
    Lands speaker target.role ↔ levelAtFloor level = true ∨ Answers safe.load.quietStart target := by
  have lasts := load_armed armed
  rw [lasts] at armed
  have quiet : speaker.safe.quietStart = quietStartAfterResult safe.load.quietStart target level playbackId := by rw [recorded]; rfl
  have answer : ackAnswer speaker .heardCorrectDriver = (ackSafe speaker.safe .heardCorrectDriver playbackId).map fun told =>
      (ackVerdict speaker.ramp.confirmedRoles ⟨target.role, level, playbackId⟩ told.2 .heardCorrectDriver).status := by
    rw [ackAnswer, waits]
  rcases quietStartAfterResult_cases safe.load.quietStart target level playbackId with ⟨pending, handled⟩ | ⟨same, stays, -, handled⟩ |
      ⟨required, above, silent⟩
  · rw [pending] at quiet
    obtain ⟨told, tells, issues, confirmed⟩ := @accepted_answer speaker.safe playbackId armed (by rw [quiet]; rfl) (by rw [quiet]; rfl)
      (by rw [quiet, pending_target, retarget_target]; exact Option.some_ne_none _) lasts
    refine iff_of_true (lands_of_answer waits ?_) handled
    rw [answer, tells]
    exact congrArg (fun verdict => some (Verdict.status verdict)) (if_pos ⟨issues, confirmed⟩)
  · rw [same] at quiet
    have seen : ackSafe speaker.safe .heardCorrectDriver playbackId = some (speaker.safe, speaker.safe) := by
      rw [ackSafe, lasts, quiet, stays]
      exact if_neg (by decide)
    have issues : speaker.safe.issues = [] := by
      rw [recorded]
      exact (clean.load stays).2
    refine iff_of_true (lands_of_answer waits ?_) (.inr handled)
    rw [answer, seen]
    exact congrArg (fun verdict => some (Verdict.status verdict)) (if_pos ⟨issues, by rw [quiet, stays]⟩)
  · have status : speaker.safe.quietStart.status = .floorRequired := by rw [quiet, required]
    have seen : ackSafe speaker.safe .heardCorrectDriver playbackId = some (speaker.safe, speaker.safe) := by
      rw [ackSafe, lasts, status]
      exact if_neg (by decide)
    refine iff_of_false (fun lands => ?_) (fun handled => handled.elim (fun floor => Bool.noConfusion (above.symm.trans floor)) silent)
    have confirmed := lands.1
    have refused : ¬(speaker.safe.issues = [] ∧ speaker.safe.quietStart.status = .floorConfirmed) :=
      fun accepted => FloorStatus.noConfusion (status.symm.trans accepted.2)
    rw [answer, seen, Option.map_some, ackVerdict, if_neg refused] at confirmed
    split at confirmed
    · cases confirmed
    · cases confirmed

theorem levelAtFloor_iff (current : Level) : levelAtFloor (nextRampGainDb current) = true ↔ current < minTestLevelDbfs := by
  constructor
  · intro floor
    by_contra audible
    have low := of_decide_eq_true floor
    rw [nextRampGainDb, if_neg audible] at low
    have louder : minTestLevelDbfs + epsilon < min (current + audibleRampStepDb) commissionRampMaxLevelDbfs := by
      rw [lt_min_iff]
      constructor
      · rw [not_lt] at audible
        norm_num [minTestLevelDbfs, epsilon, audibleRampStepDb] at audible ⊢
        linarith
      · norm_num [minTestLevelDbfs, epsilon, commissionRampMaxLevelDbfs]
    exact absurd low (not_le.mpr louder)
  · intro silent
    by_contra above
    exact absurd silent (not_lt.mpr (audible_of_above (Bool.eq_false_of_not_eq_true above)))

theorem not_answers_base (target : PlaybackTarget) : ¬Answers QuietStart.base target := fun answers => absurd answers.1 nofun

theorem ensureArmed_load {safe : SafeSession} {ready : Bool} (other : safe.load.status ≠ .armed) :
    (ensureSafeSessionArmed safe ready).load.quietStart = .base := by
  rw [ensureSafeSessionArmed, if_neg other, armSafePlaybackSession]
  split
  · rfl
  · rfl

/-- Arming keeps what the session answers, when it has lasted; a session that is armed again answers for nothing. -/
theorem rearmed_answers_iff {speaker armed : Commissioning} {runsOut : Bool} {outside : StepOutside} {target : PlaybackTarget}
    (same : armed = { speaker with safe := ensureSafeSessionArmed speaker.safe outside.ready }) :
    Answers (rearmed runsOut speaker armed outside).load.quietStart target ↔
      runsOut = false ∧ speaker.safe.load.status = .armed ∧ Answers speaker.safe.quietStart target := by
  cases runsOut with
  | true =>
      have lapsed : SafeSession.load { speaker.safe with lapsed := true } ≠ { speaker.safe with lapsed := true } ∨
          speaker.safe.status ≠ .armed := by
        by_cases armed : speaker.safe.status = .armed
        · left
          intro stays
          rw [SafeSession.load, if_pos ⟨armed, rfl⟩] at stays
          exact absurd ((congrArg SafeSession.status stays).trans armed) nofun
        · exact .inr armed
      have gone : (SafeSession.load { speaker.safe with lapsed := true }).status ≠ .armed := by
        intro armed
        have stays := load_armed armed
        rw [stays] at armed
        exact lapsed.elim (fun moved => moved stays) fun idle => idle armed
      refine iff_of_false ?_ nofun
      show ¬Answers (ensureSafeSessionArmed { speaker.safe with lapsed := true } outside.ready).load.quietStart target
      rw [ensureArmed_load gone]
      exact not_answers_base target
  | false =>
      have safe : rearmed false speaker armed outside = ensureSafeSessionArmed speaker.safe outside.ready := by
        rw [same]
        rfl
      rw [safe]
      by_cases lasts : speaker.safe.load.status = .armed
      · rw [ensureSafeSessionArmed, if_pos lasts, load_armed lasts]
        exact ⟨fun answers => ⟨rfl, load_armed lasts ▸ lasts, answers⟩, fun held => held.2.2⟩
      · rw [ensureArmed_load lasts]
        exact iff_of_false (not_answers_base target) fun held => lasts held.2.1

theorem fromSilentFloor_eq {speaker : Commissioning} {group : String} {role : Role} {current : Level}
    (loaded : speaker.commission.state = ⟨.loaded, some ⟨group, role, current⟩⟩) :
    fromSilentFloor speaker = decide (current < minTestLevelDbfs) := by
  rw [fromSilentFloor, loaded]
  rfl

theorem stepChecks_unstepped {speaker : Commissioning} {group : String} {role : Role} {autoRetryPending : Bool}
    {roles : List Role} {outside : StepOutside} {refused : Commissioning × StepStatus}
    (fails : stepChecks speaker group role autoRetryPending roles outside = .error refused) : refused.2 ≠ .stepped := by
  unfold stepChecks at fails
  split at fails
  · exact Except.error.inj fails ▸ nofun
  split at fails
  · exact Except.error.inj fails ▸ nofun
  split at fails
  · exact Except.error.inj fails ▸ nofun
  split at fails
  · exact Except.error.inj fails ▸ nofun
  dsimp only at fails
  split at fails
  · exact Except.error.inj fails ▸ nofun
  split at fails
  · exact Except.error.inj fails ▸ nofun
  split at fails
  · exact Except.error.inj fails ▸ nofun
  split at fails
  · exact Except.error.inj fails ▸ nofun
  · exact absurd fails nofun

/-- A step that returned can be confirmed while its session is armed exactly when it is answerable. -/
theorem stepped_lands_iff {speaker after : Commissioning} (attends : Attends speaker) {runsOut : Bool} {group : String}
    {role : Role} {autoRetryPending : Bool} {roles : List Role} {outside : StepOutside}
    (stepped : stepAudibly runsOut speaker group role autoRetryPending roles outside = (after, .stepped))
    (armed : after.safe.load.status = .armed) : Lands after role ↔ Answerable runsOut speaker ⟨group, role, outside.outputIndex⟩ := by
  unfold stepAudibly at stepped
  cases checks : stepChecks speaker group role autoRetryPending roles outside with
  | error refused =>
      rw [checks] at stepped
      exact absurd (congrArg Prod.snd stepped) (stepChecks_unstepped checks)
  | ok passed =>
      obtain ⟨ready, replaced, next⟩ := passed
      obtain ⟨current, passes⟩ := stepChecks_ok checks
      rw [checks] at stepped
      dsimp only at stepped
      split at stepped
      · exact absurd (Prod.mk.inj stepped).2 nofun
      next session =>
        rcases loadStep_cases { ready with safe := rearmed runsOut speaker ready outside } replaced
            ⟨group, role, outside.outputIndex⟩ next outside with ⟨-, -, other⟩ | ⟨recorded, -, waits⟩
        · exact absurd (congrArg Prod.snd stepped) other
        rw [stepped] at recorded waits
        have stays : outside.seen (rearmed runsOut speaker ready outside) = rearmed runsOut speaker ready outside := by
          cases lapses : outside.lapses with
          | false => rw [StepOutside.seen, lapses, if_neg nofun]
          | true =>
              have held := load_armed (not_not.mp session) ▸ not_not.mp session
              have expired : (SafeSession.load { rearmed runsOut speaker ready outside with lapsed := true }).status = .expired := by
                rw [SafeSession.load, if_pos ⟨held, rfl⟩]
              have status : after.safe.status = .expired := by
                rw [recorded, StepOutside.seen, lapses, if_pos rfl]
                exact expired
              exact absurd ((load_armed armed ▸ armed).symm.trans status) nofun
        have clean' := (attends.rearmed runsOut passes.armed_eq).clean
        rw [show outside.seen _ = _ from stays] at recorded
        rw [tone_lands_iff clean' recorded waits armed, rearmed_answers_iff passes.armed_eq, Answerable, fromSilentFloor_eq passes.loaded,
          passes.next_eq, levelAtFloor_iff, decide_eq_true_iff]

/-- After at most one further step the role is confirmed: a confirmation is accepted now, or after a step that returned. -/
def Confirmable (speaker : Commissioning) (group : String) (role : Role) : Prop :=
  Lands speaker role ∨ ∃ autoRetryPending roles outside after,
    stepAudibly false speaker group role autoRetryPending roles outside = (after, .stepped) ∧ after.safe.load.status = .armed ∧
      Lands after role

-- No step of another driver waits for a verdict.
def Free (speaker : Commissioning) (group : String) (role : Role) : Prop :=
  ∀ pending ∈ speaker.ramp.pending, pending.role = role ∧ speaker.ramp.group = group

section Smooth

variable {speaker : Commissioning} {group : String} {role : Role} {outputIndex : Option Nat} {current : Level}

def LoadOutside.smoothIn (group : String) : LoadOutside := { LoadOutside.smooth with active := group }

theorem load_smooth (commission : Commission) (target : LoadTarget) (reconcile : Bool) :
    ∃ loaded, loadDriverCommissioningConfig commission target reconcile (.smoothIn target.group) = (loaded, .returned) ∧
      loaded.state = ⟨.loaded, some target⟩ := by
  have known : target.known target.group = true := by
    rw [LoadTarget.known, beq_self_eq_true, Bool.or_true]
  have blocks : (LoadOutside.smoothIn target.group).blocks target = false := by
    rw [LoadOutside.blocks]
    exact congrArg (fun answer => (false || false || !answer || false || false)) known
  rw [load_unblocked blocks]
  cases reconcile with
  | true => exact ⟨_, rfl, rfl⟩
  | false => exact ⟨_, rfl, rfl⟩

theorem ensureArmed_armed (safe : SafeSession) : (ensureSafeSessionArmed safe true).load.status = .armed := by
  rw [ensureSafeSessionArmed]
  split
  next lasts => exact lasts
  next => rfl

theorem recorded_armed {safe : SafeSession} (armed : safe.load.status = .armed) (target : PlaybackTarget) (level : Level)
    (playbackId : Nat) : (recordSafePlaybackResult safe target level playbackId).load.status = .armed := by
  have lasts := load_armed armed
  have held := load_armed_iff.mp armed
  refine load_armed_iff.mpr ⟨?_, ?_⟩
  · rw [recordSafePlaybackResult, lasts]
    exact held.1
  · rw [recordSafePlaybackResult, lasts]
    exact held.2

theorem replaced_of_free (free : Free speaker group role) :
    replacedPending speaker.ramp group role true = .ok speaker.ramp.pending := by
  rw [replacedPending]
  cases waits : speaker.ramp.pending with
  | none => rfl
  | some pending =>
      obtain ⟨rfl, rfl⟩ := free pending waits
      exact if_pos (by simp)

theorem not_superseded {target : PlaybackTarget} (free : Free speaker target.group target.role) :
    superseded speaker.ramp.pending speaker.ramp target = false := by
  rw [superseded]
  cases waits : speaker.ramp.pending with
  | none => rfl
  | some pending =>
      obtain ⟨role, group⟩ := free pending waits
      simp [pendingStepStillCurrent, waits, role, group]

def StepOutside.smoothIn (group : String) (outputIndex : Option Nat) (present : List Role) : StepOutside :=
  { StepOutside.smooth with
    load := .smoothIn group
    outputIndex := outputIndex
    present := present }

def AtLimit (current : Level) : Prop :=
  commissionRampMaxLevelDbfs - epsilon ≤ current ∧ nextRampGainDb current ≤ current + epsilon

theorem not_atLimit_of_silent (silent : current < minTestLevelDbfs) : ¬AtLimit current := by
  rintro ⟨limit, -⟩
  have low : minTestLevelDbfs < commissionRampMaxLevelDbfs - epsilon := by
    norm_num [minTestLevelDbfs, commissionRampMaxLevelDbfs, epsilon]
  exact absurd (silent.trans low) (not_lt.mpr limit)

theorem le_nextRampGainDb (current : Level) : minTestLevelDbfs ≤ nextRampGainDb current := by
  by_cases silent : current < minTestLevelDbfs
  · exact (nextRampGainDb_of_floor silent).ge
  · rw [nextRampGainDb, if_neg silent, le_min_iff]
    rw [not_lt] at silent
    constructor
    · have step : (0 : Level) ≤ audibleRampStepDb := by norm_num [audibleRampStepDb]
      linarith
    · norm_num [minTestLevelDbfs, commissionRampMaxLevelDbfs]

/-- What a step of a driver needs to be let up: it is at the silent floor, or the last step was answered for and it is not at the limit. -/
def LetUp (speaker : Commissioning) (target : PlaybackTarget) (current : Level) : Prop :=
  current < minTestLevelDbfs ∨ ¬AtLimit current ∧ priorStepCleared speaker speaker.ramp.pending target = true

theorem smooth_gate (present : List Role) (letUp : LetUp speaker ⟨group, role, outputIndex⟩ current) :
    (stepGate speaker speaker.ramp.pending ⟨group, role, outputIndex⟩ current (predecessors role present)
      (.smoothIn group outputIndex present)).passed = true := by
  have small : (0 : Level) ≤ epsilon := by norm_num [epsilon]
  generalize gate_eq : stepGate speaker speaker.ramp.pending ⟨group, role, outputIndex⟩ current (predecessors role present)
    (.smoothIn group outputIndex present) = gate
  have order : gate.roleOrderWooferFirst = true := by
    rw [← gate_eq]
    refine List.all_eq_true.mpr fun lower mem => decide_eq_true ?_
    exact mem_effectiveConfirmedRoles.mpr (.inr mem)
  have next : gate.nextGainDb = nextRampGainDb gate.currentGainDb := by rw [← gate_eq]; rfl
  have envelope : gate.gainWithinEnvelope = true := by
    have low := le_nextRampGainDb gate.currentGainDb
    have high := nextRampGainDb_le gate.currentGainDb
    rw [Gate.gainWithinEnvelope, next, Bool.and_eq_true, decide_eq_true_iff, decide_eq_true_iff]
    exact ⟨by linarith, by linarith⟩
  have bounded : gate.gainStepBounded = true := by
    rw [Gate.gainStepBounded, next]
    split
    next silent =>
      rw [nextRampGainDb_of_floor (of_decide_eq_true silent), sub_self, abs_zero]
      exact decide_eq_true small
    next audible =>
      have near := nextRampGainDb_bounded (not_lt.mp fun silent => audible (decide_eq_true silent))
      exact decide_eq_true (by linarith)
  have acknowledged : gate.priorStepAcknowledged = true := by
    rw [Gate.priorStepAcknowledged, Bool.or_eq_true]
    rcases letUp with silent | ⟨-, cleared⟩
    · exact .inl (by rw [← gate_eq]; exact decide_eq_true silent)
    · exact .inr (by rw [← gate_eq]; exact cleared)
  have live : gate.live = StepOutside.smooth.live := by rw [← gate_eq]; rfl
  rw [Gate.passed, envelope, bounded, order, acknowledged, live]
  rfl

theorem smooth_checks (loaded : speaker.commission.state = ⟨.loaded, some ⟨group, role, current⟩⟩) (free : Free speaker group role)
    (letUp : LetUp speaker ⟨group, role, outputIndex⟩ current) (present : List Role) :
    stepChecks speaker group role true (predecessors role present) (.smoothIn group outputIndex present) =
      .ok ({ speaker with safe := ensureSafeSessionArmed speaker.safe true }, speaker.ramp.pending, nextRampGainDb current) := by
  have below : ¬(commissionRampMaxLevelDbfs - epsilon ≤ current ∧ nextRampGainDb current ≤ current + epsilon) :=
    letUp.elim not_atLimit_of_silent And.left
  have known : LoadTarget.known ⟨group, role, current⟩ (StepOutside.smoothIn group outputIndex present).load.active = true := by
    show (group == "" || group == group) = true
    rw [beq_self_eq_true, Bool.or_true]
  have prepared : (!(StepOutside.smoothIn group outputIndex present).prepares ||
      !LoadTarget.known ⟨group, role, current⟩ (StepOutside.smoothIn group outputIndex present).load.active) = false := by
    rw [known]
    rfl
  have gate := smooth_gate present letUp
  have session := ensureArmed_armed speaker.safe
  unfold stepChecks
  rw [loaded]
  dsimp only
  rw [if_neg (not_not.mpr rfl), if_neg (by simp), replaced_of_free free]
  dsimp only
  rw [if_neg below, prepared, if_neg nofun]
  refine (if_neg ?_).trans (if_neg ?_)
  · exact fun refused => Bool.noConfusion (refused.symm.trans (congrArg (! ·) gate))
  · exact not_not.mpr session

theorem smooth_step (loaded : speaker.commission.state = ⟨.loaded, some ⟨group, role, current⟩⟩) (free : Free speaker group role)
    (letUp : LetUp speaker ⟨group, role, outputIndex⟩ current) (present : List Role) :
    ∃ after, stepAudibly false speaker group role true (predecessors role present) (.smoothIn group outputIndex present) = (after, .stepped) ∧
      after.safe.load.status = .armed := by
  rw [rampAudibleStep_eq, rampAudibleStep, smooth_checks loaded free letUp present]
  dsimp only
  have unsuperseded := @not_superseded speaker ⟨group, role, outputIndex⟩ free
  obtain ⟨commission, loads, state⟩ := load_smooth speaker.commission ⟨group, role, nextRampGainDb current⟩ false
  have loads' : loadDriverCommissioningConfig speaker.commission ⟨group, role, nextRampGainDb current⟩ false
      (StepOutside.smoothIn group outputIndex present).load = (commission, .returned) := loads
  have stays : ¬superseded speaker.ramp.pending speaker.ramp ⟨group, role, (StepOutside.smoothIn group outputIndex present).outputIndex⟩ = true :=
    fun refused => Bool.noConfusion (refused.symm.trans unsuperseded)
  rw [loadStep, if_neg stays, loads']
  dsimp only
  rw [afterLoad, if_neg (not_not.mpr (congrArg CommissionState.status state)), if_neg stays]
  exact ⟨_, rfl, recorded_armed (ensureArmed_armed speaker.safe) _ _ _⟩

/-- The session goes on from a step that was answered for: it is armed, it answers for the driver, and it lets a step go louder. -/
def Resumes (speaker : Commissioning) (group : String) (role : Role) : Prop :=
  speaker.safe.load.status = .armed ∧ ∃ outputIndex, Answers speaker.safe.quietStart ⟨group, role, outputIndex⟩ ∧
    priorStepCleared speaker speaker.ramp.pending ⟨group, role, outputIndex⟩ = true

/-- A driver is loaded where a further step takes it up: at the silent floor, or below the limit, as told. -/
def Rises (speaker : Commissioning) (group : String) (role : Role) (told : Prop) : Prop :=
  ∃ current, speaker.commission.state = ⟨.loaded, some ⟨group, role, current⟩⟩ ∧
    (current < minTestLevelDbfs ∨ ¬AtLimit current ∧ told)

/-- One further step of a driver can be confirmed just when it is loaded and let up, at the silent floor or in a session that answers. -/
theorem step_confirms_iff (attends : Attends speaker) (free : Free speaker group role) :
    (∃ autoRetryPending roles outside after, stepAudibly false speaker group role autoRetryPending roles outside = (after, .stepped) ∧
        after.safe.load.status = .armed ∧ Lands after role) ↔
      Rises speaker group role (Resumes speaker group role) := by
  constructor
  · rintro ⟨autoRetryPending, roles, outside, after, stepped, armed, lands⟩
    have answers := (stepped_lands_iff attends stepped armed).mp lands
    unfold stepAudibly at stepped
    cases checks : stepChecks speaker group role autoRetryPending roles outside with
    | error refused =>
        rw [checks] at stepped
        exact absurd (congrArg Prod.snd stepped) (stepChecks_unstepped checks)
    | ok passed =>
        obtain ⟨ready, replaced, next⟩ := passed
        obtain ⟨current, passes⟩ := stepChecks_ok checks
        refine ⟨current, passes.loaded, ?_⟩
        rcases answers with silent | ⟨-, lasts, answers⟩
        · rw [fromSilentFloor_eq passes.loaded] at silent
          exact .inl (of_decide_eq_true silent)
        by_cases silent : current < minTestLevelDbfs
        · exact .inl silent
        refine .inr ⟨passes.climbs, lasts, outside.outputIndex, answers, ?_⟩
        have gate := passes.gate
        simp only [Gate.passed, Bool.and_eq_true] at gate
        have cleared : priorStepCleared speaker replaced ⟨group, role, outside.outputIndex⟩ = true :=
          ((Bool.or_eq_true _ _).mp gate.2).resolve_left fun floor => silent (of_decide_eq_true floor)
        by_cases replaces : replaced.isSome = true
        · obtain ⟨-, pending, waits, -⟩ := replacedPending_isSome passes.replaces replaces
          rw [waits]
          rfl
        · rw [replacedPending_none passes.replaces replaces]
          rwa [Option.not_isSome_iff_eq_none.mp replaces] at cleared
  · rintro ⟨current, loaded, up⟩
    rcases up with silent | ⟨below, lasts, outputIndex, answers, cleared⟩
    · obtain ⟨after, stepped, armed⟩ := @smooth_step speaker group role none current loaded free (.inl silent) []
      refine ⟨true, _, _, after, stepped, armed, (stepped_lands_iff attends stepped armed).mpr (.inl ?_)⟩
      rw [fromSilentFloor_eq loaded]
      exact decide_eq_true silent
    · obtain ⟨after, stepped, armed⟩ := smooth_step loaded free (.inr ⟨below, cleared⟩) []
      exact ⟨true, _, _, after, stepped, armed, (stepped_lands_iff attends stepped armed).mpr (.inr ⟨rfl, lasts, answers⟩)⟩

end Smooth

section Acknowledged

variable {speaker acked : Commissioning} {pending : PendingStep} {outcome : Outcome} {loader : Option RollbackOutside}

theorem rollback_unloads_of_returned {commission : Commission} {outside : RollbackOutside}
    (returned : (rollbackDriverCommissioningConfig commission outside).2 ≠ .cancelled) :
    (rollbackDriverCommissioningConfig commission outside).1.state.status ≠ .loaded := by
  unfold rollbackDriverCommissioningConfig at returned ⊢
  split at returned
  next refused =>
    rw [if_pos refused]
    exact nofun
  next tried =>
    rw [if_neg tried]
    generalize applyDspConfig commission.running none false outside.apply = applied at returned ⊢
    obtain ⟨running, ended⟩ := applied
    cases ended with
    | success => exact nofun
    | failed => exact nofun
    | notAdmitted => exact nofun
    | cancelled => exact absurd rfl returned

/-- What an acknowledgement that returned has left: the session as the verdict left it, the step as the verdict takes it, and the record
as it was, or without a loaded driver where the verdict re-mutes. -/
theorem acked_cases (waits : speaker.ramp.pending = some pending)
    (done : recordRampOperatorAck speaker outcome loader = (acked, .returned)) :
    ∃ stored seen, ackSafe speaker.safe outcome pending.playbackId = some (stored, seen) ∧ acked.safe = stored ∧
      acked.ramp.group = speaker.ramp.group ∧
      acked.ramp.pending = (ackVerdict speaker.ramp.confirmedRoles pending seen outcome).pending ∧
      acked.ramp.confirmedRoles = (ackVerdict speaker.ramp.confirmedRoles pending seen outcome).confirmedRoles ∧
      (acked.commission = speaker.commission ∧
          (loader = none ∨ (ackVerdict speaker.ramp.confirmedRoles pending seen outcome).remutes = false) ∨
        acked.commission.state.status ≠ .loaded ∧ loader ≠ none ∧
          (ackVerdict speaker.ramp.confirmedRoles pending seen outcome).remutes = true) := by
  rw [recordRampOperatorAck, waits] at done
  dsimp only at done
  split at done
  · cases done
  next stored seen told =>
    refine ⟨stored, seen, told, ?_⟩
    unfold settle at done
    split at done
    · obtain ⟨rfl, -⟩ := Prod.mk.inj done
      exact ⟨rfl, rfl, rfl, rfl, .inl ⟨rfl, .inl rfl⟩⟩
    split at done
    next stays =>
      obtain ⟨rfl, -⟩ := Prod.mk.inj done
      exact ⟨rfl, rfl, rfl, rfl, .inl ⟨rfl, .inr (by simpa using stays)⟩⟩
    next remutes =>
      dsimp only at done
      split at done
      · cases done
      next returned =>
        obtain ⟨rfl, -⟩ := Prod.mk.inj done
        exact ⟨rfl, rfl, rfl, rfl, .inr ⟨rollback_unloads_of_returned returned, Option.some_ne_none _, by simpa using remutes⟩⟩

/-- The session takes a confirmation: it is armed, and its tri-state waits or is confirmed. -/
def Accepts (safe : SafeSession) : Prop := safe.load.status = .armed ∧ safe.quietStart.status ≠ .floorRequired

/-- The confirmation of a step that is not accepted stays with the step: no verdict is waited for, and nothing has to be reopened. -/
def Rejects (safe : SafeSession) : Prop :=
  safe.load.quietStart.status ≠ .floorPendingOperator ∧ ackReopenRequired safe.load = false

/-- When an acknowledgement leads to a confirmed driver, by itself or by one further step, without arming it again. -/
def Leads (speaker : Commissioning) (role : Role) (loader : Option RollbackOutside) : Outcome → Prop
  | .heardCorrectDriver =>
      Accepts speaker.safe ∨ (loader = none ∨ Rejects speaker.safe) ∧ Rises speaker speaker.ramp.group role False
  | .heardWrongDriver | .tooLoud =>
      loader = none ∧ Rises speaker speaker.ramp.group role
        (speaker.safe.load.status = .armed ∧ speaker.safe.quietStart.status = .floorConfirmed)
  | .silent => Rises speaker speaker.ramp.group role (Accepts speaker.safe)
  | .unsupported => Accepts speaker.safe ∨ Rises speaker speaker.ramp.group role False

theorem Heeds.answers_iff {safe : SafeSession} {group : String} (heeds : Heeds safe group pending) :
    (∃ outputIndex, Answers safe.quietStart ⟨group, pending.role, outputIndex⟩) ↔ safe.quietStart.status ≠ .floorRequired := by
  constructor
  · rintro ⟨outputIndex, current, told | silent⟩
    · exact told
    · have retried := (retryAllowed_iff _ _).mpr ⟨current, silent⟩
      rw [heeds.unretried] at retried
      cases retried
  · intro told
    obtain ⟨outputIndex, current⟩ := heeds.target told
    exact ⟨outputIndex, current, .inl told⟩

/-- A confirmation of the step that waits is accepted just when the session takes it. -/
theorem answer_iff (attends : Attends speaker) (waits : speaker.ramp.pending = some pending) :
    ackAnswer speaker .heardCorrectDriver = some .confirmed ↔ Accepts speaker.safe := by
  have heeds := attends.heeds pending waits
  have answer : ackAnswer speaker .heardCorrectDriver = (ackSafe speaker.safe .heardCorrectDriver pending.playbackId).map fun told =>
      (ackVerdict speaker.ramp.confirmedRoles pending told.2 .heardCorrectDriver).status := by
    rw [ackAnswer, waits]
  have accepted {seen : SafeSession} : (ackVerdict speaker.ramp.confirmedRoles pending seen .heardCorrectDriver).status = .confirmed ↔
      seen.issues = [] ∧ seen.quietStart.status = .floorConfirmed := by
    constructor
    · intro confirmed
      by_contra refused
      rw [ackVerdict, if_neg refused] at confirmed
      split at confirmed <;> cases confirmed
    · exact fun both => congrArg Verdict.status (if_pos both)
  rw [answer]
  constructor
  · intro confirmed
    obtain ⟨⟨stored, seen⟩, told, status⟩ := Option.map_eq_some_iff.mp confirmed
    obtain ⟨issues, confirmed⟩ := accepted.mp status
    rcases ackSafe_cases told with ⟨pending_, same, -, rfl, rfl⟩ | ⟨-, rfl, rfl⟩
    · have armed := (clean_ackSafe attends.clean told confirmed).1
      rw [(recordFloorAudioOperatorResult_eq same pending_ _ _).1] at armed
      exact ⟨same.symm ▸ armed, by rw [pending_]; decide⟩
    · have armed := (attends.clean.load confirmed).1
      rw [load_armed armed] at confirmed
      exact ⟨armed, by rw [confirmed]; decide⟩
  · rintro ⟨armed, told⟩
    have lasts := load_armed armed
    rw [lasts] at armed
    obtain ⟨outputIndex, current⟩ := heeds.target told
    cases status : speaker.safe.quietStart.status with
    | floorRequired => exact absurd status told
    | floorPendingOperator =>
        obtain ⟨stored, tells, issues, confirmed⟩ :=
          accepted_answer armed status (heeds.play status) (by rw [current]; exact Option.some_ne_none _) lasts
        rw [tells]
        exact congrArg some (accepted.mpr ⟨issues, confirmed⟩)
    | floorConfirmed =>
        have tells : ackSafe speaker.safe .heardCorrectDriver pending.playbackId = some (speaker.safe, speaker.safe) := by
          rw [ackSafe, lasts, status]
          exact if_neg (by decide)
        rw [tells]
        exact congrArg some (accepted.mpr ⟨(attends.clean status).2, status⟩)

theorem lands_iff (attends : Attends speaker) (waits : speaker.ramp.pending = some pending) :
    Lands speaker pending.role ↔ Accepts speaker.safe :=
  (⟨And.left, lands_of_answer waits⟩ : _ ↔ _).trans (answer_iff attends waits)

theorem not_lands_of_free (free : speaker.ramp.pending = none) (role : Role) : ¬Lands speaker role := by
  intro lands
  have answer := lands.1
  rw [ackAnswer, free] at answer
  cases answer

theorem resumes_kept_iff {group : String} (waits : speaker.ramp.pending = some pending) (heeds : Heeds speaker.safe group pending) :
    Resumes speaker group pending.role ↔ Accepts speaker.safe := by
  have cleared (target : PlaybackTarget) : priorStepCleared speaker speaker.ramp.pending target = true := by
    rw [waits]
    rfl
  simp only [Resumes, cleared, and_true, heeds.answers_iff, Accepts]

/-- Without a step that waits, only a confirmed tri-state or a silent verdict lets a step go louder. -/
theorem resumes_free_iff {group : String} {role : Role} (free : speaker.ramp.pending = none) :
    Resumes speaker group role ↔ speaker.safe.load.status = .armed ∧ ∃ outputIndex,
      speaker.safe.quietStart.currentTarget = some ⟨group, role, outputIndex⟩ ∧
        (speaker.safe.quietStart.status = .floorConfirmed ∨
          speaker.safe.quietStart.retryAllowed ⟨group, role, outputIndex⟩ = true) := by
  refine and_congr_right fun armed => exists_congr fun outputIndex => ?_
  have cleared : priorStepCleared speaker speaker.ramp.pending ⟨group, role, outputIndex⟩ = true ↔
      (speaker.safe.quietStart.status = .floorConfirmed ∧ speaker.safe.quietStart.currentTarget = some ⟨group, role, outputIndex⟩) ∨
        speaker.safe.quietStart.retryAllowed ⟨group, role, outputIndex⟩ = true := by
    have lasts := load_armed armed
    rw [lasts] at armed
    simp [priorStepCleared, free, floorAudioConfirmedForTarget, floorAudioRetryAllowedForTarget, lasts, armed]
  rw [cleared]
  constructor
  · rintro ⟨⟨current, -⟩, ⟨confirmed, -⟩ | retried⟩
    · exact ⟨current, .inl confirmed⟩
    · exact ⟨current, .inr retried⟩
  · rintro ⟨current, confirmed | retried⟩
    · exact ⟨⟨current, .inl (by rw [confirmed]; decide)⟩, .inl ⟨confirmed, current⟩⟩
    · exact ⟨⟨current, .inr ((retryAllowed_iff _ _).mp retried).2⟩, .inr retried⟩

theorem resumes_untold_iff {group : String} (free : speaker.ramp.pending = none) (heeds : Heeds speaker.safe group pending) :
    Resumes speaker group pending.role ↔ speaker.safe.load.status = .armed ∧ speaker.safe.quietStart.status = .floorConfirmed := by
  rw [resumes_free_iff free]
  refine and_congr_right fun _ => ?_
  constructor
  · rintro ⟨outputIndex, -, confirmed | retried⟩
    · exact confirmed
    · rw [heeds.unretried] at retried
      cases retried
  · intro confirmed
    obtain ⟨outputIndex, current⟩ := heeds.target (by rw [confirmed]; exact nofun)
    exact ⟨outputIndex, current, .inl confirmed⟩

theorem rises_congr {group : String} {role : Role} {told other : Prop} (same : acked.commission = speaker.commission)
    (iff : told ↔ other) : Rises acked group role told ↔ Rises speaker group role other := by
  rw [Rises, Rises, same, iff]

theorem not_rises_of_unloaded {group : String} {role : Role} {told : Prop} (unloads : acked.commission.state.status ≠ .loaded) :
    ¬Rises acked group role told := by
  rintro ⟨current, loaded, -⟩
  exact unloads (by rw [loaded])

theorem ackAnswer_heard (confirmed : ackAnswer speaker outcome = some .confirmed) : outcome = .heardCorrectDriver := by
  unfold ackAnswer at confirmed
  split at confirmed
  · cases confirmed
  · obtain ⟨told, -, status⟩ := Option.map_eq_some_iff.mp confirmed
    cases outcome with
    | heardCorrectDriver => rfl
    | heardWrongDriver => cases status
    | tooLoud => cases status
    | silent => cases status
    | unsupported => cases status

/-- What an acknowledgement leaves can be confirmed by one further step just when the driver is still loaded and the session goes on. -/
theorem acked_confirmable_iff (attends : Attends acked) (free : acked.ramp.pending = none) {group : String} {role : Role} :
    Confirmable acked group role ↔ Rises acked group role (Resumes acked group role) := by
  rw [Confirmable, step_confirms_iff attends fun pending waits => absurd (free.symm.trans waits) nofun]
  exact or_iff_right (not_lands_of_free free role)

/-- In a session that does not take it, a confirmation is told and expires, or the step is left for another one. -/
theorem refused_verdict (attends : Attends speaker) (waits : speaker.ramp.pending = some pending) (refuses : ¬Accepts speaker.safe)
    {stored seen : SafeSession} (told : ackSafe speaker.safe .heardCorrectDriver pending.playbackId = some (stored, seen)) :
    (¬Accepts stored) ∧
      (Rejects speaker.safe ∧ (ackVerdict speaker.ramp.confirmedRoles pending seen .heardCorrectDriver).pending = some pending ∧
          (ackVerdict speaker.ramp.confirmedRoles pending seen .heardCorrectDriver).remutes = false ∨
        ¬Rejects speaker.safe ∧ (ackVerdict speaker.ramp.confirmedRoles pending seen .heardCorrectDriver).pending = none ∧
          (ackVerdict speaker.ramp.confirmedRoles pending seen .heardCorrectDriver).remutes = true) := by
  have unaccepted : ¬(seen.issues = [] ∧ seen.quietStart.status = .floorConfirmed) := fun both => refuses <| by
    refine (answer_iff attends waits).mp ?_
    rw [ackAnswer, waits]
    dsimp only
    rw [told]
    exact congrArg (fun verdict => some (Verdict.status verdict)) (if_pos both)
  have verdict : ackVerdict speaker.ramp.confirmedRoles pending seen .heardCorrectDriver =
      if ackReopenRequired seen then ⟨.expired, none, speaker.ramp.confirmedRoles, true⟩
      else ⟨.rejected, some pending, speaker.ramp.confirmedRoles, false⟩ := by rw [ackVerdict, if_neg unaccepted]
  rw [verdict]
  rcases ackSafe_cases told with ⟨status, same, -, rfl, rfl⟩ | ⟨idle, rfl, rfl⟩
  · obtain ⟨kept, -, -, -, -, -, issues⟩ := recordFloorAudioOperatorResult_eq same status .heardCorrectDriver pending.playbackId
    have unarmed : speaker.safe.status ≠ .armed := fun armed => refuses ⟨same.symm ▸ armed, by rw [status]; decide⟩
    have reopens : ackReopenRequired (recordFloorAudioOperatorResult speaker.safe .heardCorrectDriver pending.playbackId) = true := by
      rw [ackReopenRequired, issues, operatorIssues, if_pos unarmed, Bool.or_eq_true]
      exact .inr rfl
    refine ⟨fun accepts => unarmed (kept ▸ (load_armed_iff.mp accepts.1).1), .inr ⟨fun rejects => rejects.1 (same.symm ▸ status), ?_⟩⟩
    rw [if_pos reopens]
    exact ⟨rfl, rfl⟩
  · refine ⟨refuses, ?_⟩
    by_cases reopens : ackReopenRequired speaker.safe.load = true
    · rw [if_pos reopens]
      exact .inr ⟨fun rejects => Bool.noConfusion (reopens.symm.trans rejects.2), rfl, rfl⟩
    · rw [if_neg reopens]
      exact .inl ⟨⟨idle, Bool.eq_false_of_not_eq_true reopens⟩, rfl, rfl⟩

theorem Attends.acknowledged (attends : Attends speaker) (done : recordRampOperatorAck speaker outcome loader = (acked, .returned)) :
    Attends acked := by
  have kept := attends.ack outcome loader
  rwa [done] at kept

-- The step that an acknowledgement keeps is the one that has waited.
theorem kept_waits (kept : acked.ramp.pending = some pending) (group : acked.ramp.group = speaker.ramp.group) :
    ∀ waiting ∈ acked.ramp.pending, waiting.role = pending.role ∧ acked.ramp.group = speaker.ramp.group := by
  intro waiting mem
  obtain rfl := Option.some.inj (kept.symm.trans mem)
  exact ⟨rfl, group⟩

theorem heard_leads_iff (attends : Attends speaker) (waits : speaker.ramp.pending = some pending)
    (done : recordRampOperatorAck speaker .heardCorrectDriver loader = (acked, .returned)) :
    (ackAnswer speaker .heardCorrectDriver = some .confirmed ∨ Confirmable acked speaker.ramp.group pending.role) ↔
      Accepts speaker.safe ∨ (loader = none ∨ Rejects speaker.safe) ∧ Rises speaker speaker.ramp.group pending.role False := by
  have after := attends.acknowledged done
  obtain ⟨stored, seen, told, safe, group, taken, -, record⟩ := acked_cases waits done
  by_cases accepts : Accepts speaker.safe
  · exact iff_of_true (.inl ((answer_iff attends waits).mpr accepts)) (.inl accepts)
  rw [or_iff_right fun confirmed => accepts ((answer_iff attends waits).mp confirmed), or_iff_right accepts]
  obtain ⟨refuses, verdict⟩ := refused_verdict attends waits accepts told
  rw [← safe] at refuses
  rcases verdict with ⟨rejects, kept, stays⟩ | ⟨rejects, off, remutes⟩
  · have kept := taken.trans kept
    have same := (record.resolve_right fun gone => Bool.noConfusion (stays.symm.trans gone.2.2)).1
    have heard := after.heeds pending kept
    rw [group] at heard
    rw [Confirmable, or_iff_right fun lands => refuses ((lands_iff after kept).mp lands),
      step_confirms_iff after (kept_waits kept group)]
    refine (rises_congr same ?_).trans (and_iff_right (.inr rejects)).symm
    rw [resumes_kept_iff kept heard]
    exact iff_false_intro refuses
  · have free := taken.trans off
    rw [acked_confirmable_iff after free]
    rcases record with ⟨same, stays⟩ | ⟨unloads, some_, -⟩
    · have none_ : loader = none := stays.resolve_right fun stays => Bool.noConfusion (stays.symm.trans remutes)
      refine (rises_congr same ?_).trans (and_iff_right (.inl none_)).symm
      rw [resumes_untold_iff free (safe ▸ (attends.heeds pending waits).told told nofun)]
      exact iff_false_intro fun both => refuses ⟨both.1, by rw [both.2]; exact nofun⟩
    · exact iff_of_false (not_rises_of_unloaded unloads) fun both => both.1.elim some_ rejects

/-- A verdict that takes the step off, and was not silence. -/
theorem aborted_leads_iff (attends : Attends speaker) (waits : speaker.ramp.pending = some pending)
    (done : recordRampOperatorAck speaker outcome loader = (acked, .returned))
    (aborts : outcome = .heardWrongDriver ∨ outcome = .tooLoud) :
    (ackAnswer speaker outcome = some .confirmed ∨ Confirmable acked speaker.ramp.group pending.role) ↔
      loader = none ∧ Rises speaker speaker.ramp.group pending.role
        (speaker.safe.load.status = .armed ∧ speaker.safe.quietStart.status = .floorConfirmed) := by
  have after := attends.acknowledged done
  obtain ⟨stored, seen, told, safe, group, taken, -, record⟩ := acked_cases waits done
  have other : outcome ≠ .heardCorrectDriver := by rcases aborts with rfl | rfl <;> exact nofun
  have heard : outcome ≠ .silent := by rcases aborts with rfl | rfl <;> exact nofun
  have verdict : (ackVerdict speaker.ramp.confirmedRoles pending seen outcome).pending = none ∧
      (ackVerdict speaker.ramp.confirmedRoles pending seen outcome).remutes = true := by
    rcases aborts with rfl | rfl <;> exact ⟨rfl, rfl⟩
  have free := taken.trans verdict.1
  rw [or_iff_right fun confirmed => other (ackAnswer_heard confirmed), acked_confirmable_iff after free]
  rcases record with ⟨same, stays⟩ | ⟨unloads, some_, -⟩
  · have none_ : loader = none := stays.resolve_right fun stays => Bool.noConfusion (stays.symm.trans verdict.2)
    refine (rises_congr same ?_).trans (and_iff_right none_).symm
    rw [resumes_untold_iff free (safe ▸ (attends.heeds pending waits).told told heard), safe]
    rcases ackSafe_cases told with ⟨status, same, -, rfl, -⟩ | ⟨-, rfl, -⟩
    · obtain ⟨-, -, -, -, confirmed, -⟩ := recordFloorAudioOperatorResult_eq same status outcome pending.playbackId
      refine iff_of_false (fun both => other (confirmed.mp both.2).1) fun both => ?_
      exact absurd (status.symm.trans both.2) nofun
    · exact Iff.rfl
  · exact iff_of_false (not_rises_of_unloaded unloads) fun both => some_ both.1

theorem silent_leads_iff (attends : Attends speaker) (waits : speaker.ramp.pending = some pending)
    (done : recordRampOperatorAck speaker .silent loader = (acked, .returned)) :
    (ackAnswer speaker .silent = some .confirmed ∨ Confirmable acked speaker.ramp.group pending.role) ↔
      Rises speaker speaker.ramp.group pending.role (Accepts speaker.safe) := by
  have after := attends.acknowledged done
  have heeds := attends.heeds pending waits
  obtain ⟨stored, seen, told, safe, group, taken, -, record⟩ := acked_cases waits done
  have free : acked.ramp.pending = none := taken
  have same := (record.resolve_right fun gone => absurd gone.2.2 nofun).1
  have unconfirmed : ¬ackAnswer speaker .silent = some .confirmed := fun confirmed => Outcome.noConfusion (ackAnswer_heard confirmed)
  rw [or_iff_right unconfirmed, acked_confirmable_iff after free]
  refine rises_congr same ?_
  rcases ackSafe_cases told with ⟨status, lasts, -, rfl, -⟩ | ⟨idle, rfl, -⟩
  · obtain ⟨kept, lapsed, target, result, -, -, -⟩ := recordFloorAudioOperatorResult_eq lasts status .silent pending.playbackId
    rw [resumes_free_iff free, safe, load_armed_iff, kept, lapsed, ← load_armed_iff, Accepts]
    refine and_congr_right fun _ => iff_of_true ?_ (by rw [status]; exact nofun)
    obtain ⟨outputIndex, current⟩ := heeds.target (by rw [status]; exact nofun)
    refine ⟨outputIndex, target.trans current, .inr ((retryAllowed_iff _ _).mpr ⟨target.trans current, ?_⟩)⟩
    rw [result, current]
  · rw [resumes_untold_iff free (safe.symm ▸ heeds), safe]
    refine and_congr_right fun armed => ?_
    rw [load_armed armed] at idle
    cases status : speaker.safe.quietStart.status with
    | floorRequired => exact iff_of_false nofun fun told => told rfl
    | floorPendingOperator => exact absurd status idle
    | floorConfirmed => exact iff_of_true rfl nofun

theorem unsupported_leads_iff (attends : Attends speaker) (waits : speaker.ramp.pending = some pending)
    (done : recordRampOperatorAck speaker .unsupported loader = (acked, .returned)) :
    (ackAnswer speaker .unsupported = some .confirmed ∨ Confirmable acked speaker.ramp.group pending.role) ↔
      Accepts speaker.safe ∨ Rises speaker speaker.ramp.group pending.role False := by
  have after := attends.acknowledged done
  obtain ⟨stored, seen, told, safe, group, taken, -, record⟩ := acked_cases waits done
  have kept : acked.ramp.pending = some pending := taken
  have same := (record.resolve_right fun gone => absurd gone.2.2 nofun).1
  have stays : acked.safe = speaker.safe := by
    rcases ackSafe_cases told with ⟨-, -, known, -, -⟩ | ⟨-, rfl, -⟩
    · exact absurd rfl known
    · exact safe
  have heard := after.heeds pending kept
  rw [group] at heard
  have unconfirmed : ¬ackAnswer speaker .unsupported = some .confirmed := fun confirmed =>
    Outcome.noConfusion (ackAnswer_heard confirmed)
  rw [or_iff_right unconfirmed, Confirmable, lands_iff after kept, step_confirms_iff after (kept_waits kept group),
    rises_congr same (resumes_kept_iff kept heard), stays]
  constructor
  · rintro (accepts | ⟨current, loaded, silent | ⟨-, accepts⟩⟩)
    · exact .inl accepts
    · exact .inr ⟨current, loaded, .inl silent⟩
    · exact .inl accepts
  · rintro (accepts | ⟨current, loaded, silent | ⟨-, impossible⟩⟩)
    · exact .inl accepts
    · exact .inr ⟨current, loaded, .inl silent⟩
    · exact impossible.elim

/-- An acknowledgement leads to a confirmed driver, by itself or by one further step, just as the session and the record before it say. -/
theorem acknowledged_leads_iff (attends : Attends speaker) (waits : speaker.ramp.pending = some pending)
    (done : recordRampOperatorAck speaker outcome loader = (acked, .returned)) :
    (ackAnswer speaker outcome = some .confirmed ∨ Confirmable acked speaker.ramp.group pending.role) ↔
      Leads speaker pending.role loader outcome := by
  cases outcome with
  | heardCorrectDriver => exact heard_leads_iff attends waits done
  | heardWrongDriver => exact aborted_leads_iff attends waits done (.inl rfl)
  | tooLoud => exact aborted_leads_iff attends waits done (.inr rfl)
  | silent => exact silent_leads_iff attends waits done
  | unsupported => exact unsupported_leads_iff attends waits done

end Acknowledged

section Armed

variable {speaker : Commissioning} {group : String} {role : Role}

/-- A driver that is armed again can be stepped, whichever of its siblings are present, and each step of it can then be confirmed. -/
structure ArmsAgain (speaker : Commissioning) (group : String) (role : Role) : Prop where
  steps : ∀ present, ∃ load roles outside after, outside.present = present ∧ (armDriver speaker group role load).2 = .returned ∧
    stepAudibly false (armDriver speaker group role load).1 group role true roles outside = (after, .stepped) ∧
      after.safe.load.status = .armed
  confirms : ∀ load armed, armDriver speaker group role load = (armed, .returned) → armed.commission.state.status = .loaded →
    ∀ runsOut autoRetryPending roles outside after,
      stepAudibly runsOut armed group role autoRetryPending roles outside = (after, .stepped) → after.safe.load.status = .armed →
        Lands after role

theorem arms_again (attends : Attends speaker) (free : Free speaker group role) : ArmsAgain speaker group role where
  steps present := by
    obtain ⟨commission, loads, state⟩ := load_smooth speaker.commission ⟨group, role, startupMuteGainDb⟩ true
    have armed : armDriver speaker group role (.smoothIn group) = ({ speaker with commission := commission, handled := [] }, .returned) := by
      rw [armDriver, loads]
      rfl
    have silent : startupMuteGainDb < minTestLevelDbfs := by norm_num [startupMuteGainDb, minTestLevelDbfs]
    obtain ⟨after, stepped, lasts⟩ := @smooth_step { speaker with commission := commission, handled := [] } group role (some 0)
      startupMuteGainDb state free (.inl silent) present
    refine ⟨.smoothIn group, predecessors role present, .smoothIn group (some 0) present, after, rfl, ?_, ?_, lasts⟩
    · rw [armed]
    · rw [armed]
      exact stepped
  confirms load armed arms loaded runsOut autoRetryPending roles outside after stepped lasts := by
    have attends : Attends armed := by
      have kept := attends.act (.arm group role load)
      rwa [act, arms] at kept
    have target : armed.commission.state = ⟨.loaded, some ⟨group, role, startupMuteGainDb⟩⟩ := by
      obtain ⟨rfl, returned⟩ := Prod.mk.inj arms
      obtain ⟨-, same⟩ := load_loaded returned loaded
      exact (congrArg Commission.state same).trans rfl
    refine (stepped_lands_iff attends stepped lasts).mpr (.inl ?_)
    rw [fromSilentFloor_eq target]
    exact decide_eq_true (by norm_num [startupMuteGainDb, minTestLevelDbfs])

theorem ack_frees {pending : PendingStep} (waits : speaker.ramp.pending = some pending) (outcome : Outcome)
    (loader : Option RollbackOutside) : Free (recordRampOperatorAck speaker outcome loader).1 speaker.ramp.group pending.role := by
  have same (acked : Commissioning) (group : acked.ramp.group = speaker.ramp.group)
      (held : acked.ramp.pending = none ∨ acked.ramp.pending = some pending) : Free acked speaker.ramp.group pending.role := by
    intro other mem
    rcases held with cleared | kept
    · exact absurd (cleared.symm.trans mem) nofun
    · obtain rfl := Option.some.inj (kept.symm.trans mem)
      exact ⟨rfl, group⟩
  rw [recordRampOperatorAck, waits]
  dsimp only
  split
  · exact same _ rfl (.inr waits)
  next stored seen told =>
    obtain ⟨-, group, left⟩ := settle_cases { speaker with safe := stored } pending
      (ackVerdict speaker.ramp.confirmedRoles pending seen outcome) loader
    refine same _ group ?_
    rcases left with answered | ⟨ramp, -⟩
    · rw [answered]
      exact (ackVerdict_pending speaker.ramp.confirmedRoles pending seen outcome).imp id And.left
    · rw [ramp]
      exact .inr waits

end Armed

/-- In every run a step that returned can be confirmed, while its session is armed, exactly when it is answerable; an acknowledgement
confirms the driver, or leaves one that can be confirmed after at most one further step, exactly as its session and its record say; and
a driver that is armed again can be confirmed after one step. -/
theorem a_confirm_lands_iff {speaker : Commissioning} (reached : Reachable confirming speaker) :
    (∀ runsOut group role autoRetryPending roles outside after,
      stepAudibly runsOut speaker group role autoRetryPending roles outside = (after, .stepped) → after.safe.load.status = .armed →
        (Lands after role ↔ Answerable runsOut speaker ⟨group, role, outside.outputIndex⟩)) ∧
      ∀ pending outcome loader, speaker.ramp.pending = some pending →
        (∀ acked, recordRampOperatorAck speaker outcome loader = (acked, .returned) →
          (ackAnswer speaker outcome = some .confirmed ∨ Confirmable acked speaker.ramp.group pending.role ↔
            Leads speaker pending.role loader outcome)) ∧
          ArmsAgain (recordRampOperatorAck speaker outcome loader).1 speaker.ramp.group pending.role := by
  have attends := attends_of_reachable reached
  constructor
  · intro runsOut group role autoRetryPending roles outside after stepped armed
    exact stepped_lands_iff attends stepped armed
  · intro pending outcome loader waits
    refine ⟨fun acked done => acknowledged_leads_iff attends waits done, ?_⟩
    exact arms_again (attends.act (.ack outcome loader)) (ack_frees waits outcome loader)

def firstStep : List Event := [.call (.arm "main" .woofer .smooth)]

theorem the_first_step_is_confirmed :
    Lands (stepAudibly false (firstStep.foldl perform .initial) "main" .woofer false [] .smooth).1 .woofer := by
  have reached : Reachable confirming (firstStep.foldl perform .initial) :=
    @reachable_foldl _ _ (fun speaker => speaker = .initial) perform .initial rfl firstStep
  have stepped : (stepAudibly false (firstStep.foldl perform .initial) "main" .woofer false [] .smooth).2 = .stepped := by decide +kernel
  exact ((a_confirm_lands_iff reached).1 false "main" .woofer false [] .smooth _ (Prod.ext rfl stepped) (by decide +kernel)).mpr
    (.inl (by decide +kernel))

/-- A woofer is stepped, its session runs out, and an automatic retry replaces the step. -/
def lateRetry : List Event := [.call (.arm "main" .woofer .smooth), .call (.step "main" .woofer false [] .smooth), .call .expire]

-- The retry arms the session again, above the floor, where no confirmation is accepted, and no further step mends it.
theorem a_late_retry_cannot_be_confirmed : ∃ speaker : Commissioning, Reachable confirming speaker ∧
    (stepAudibly false speaker "main" .woofer true [] .smooth).2 = .stepped ∧
      (stepAudibly false speaker "main" .woofer true [] .smooth).1.safe.load.status = .armed ∧
        ackAnswer (stepAudibly false speaker "main" .woofer true [] .smooth).1 .heardCorrectDriver = some .rejected ∧
          ¬Confirmable (recordRampOperatorAck (stepAudibly false speaker "main" .woofer true [] .smooth).1 .heardCorrectDriver none).1
            "main" .woofer := by
  have reached : Reachable confirming (lateRetry.foldl perform .initial) :=
    @reachable_foldl _ _ (fun speaker => speaker = .initial) perform .initial rfl lateRetry
  have attends := (attends_of_reachable reached).stepAudibly false "main" .woofer true [] .smooth
  have refuses : ¬Accepts (stepAudibly false (lateRetry.foldl perform .initial) "main" .woofer true [] .smooth).1.safe :=
    fun accepts => accepts.2 (by decide +kernel)
  have silent (current : Level) (loaded : (stepAudibly false (lateRetry.foldl perform .initial) "main" .woofer true [] .smooth).1.commission.state =
      ⟨.loaded, some ⟨"main", .woofer, current⟩⟩) : ¬current < minTestLevelDbfs := by
    have same : (stepAudibly false (lateRetry.foldl perform .initial) "main" .woofer true [] .smooth).1.commission.state =
        ⟨.loaded, some ⟨"main", .woofer, minTestLevelDbfs + audibleRampStepDb⟩⟩ := by decide +kernel
    obtain ⟨-, -, rfl⟩ := LoadTarget.mk.inj (Option.some.inj (CommissionState.mk.inj (loaded.symm.trans same)).2)
    norm_num [audibleRampStepDb]
  refine ⟨lateRetry.foldl perform .initial, reached, by decide +kernel, by decide +kernel, by decide +kernel, fun confirmable => ?_⟩
  have group : (stepAudibly false (lateRetry.foldl perform .initial) "main" .woofer true [] .smooth).1.ramp.group = "main" := by
    decide +kernel
  have waits : (stepAudibly false (lateRetry.foldl perform .initial) "main" .woofer true [] .smooth).1.ramp.pending =
      some ⟨.woofer, minTestLevelDbfs + audibleRampStepDb, 1⟩ := by decide +kernel
  have returned : (recordRampOperatorAck (stepAudibly false (lateRetry.foldl perform .initial) "main" .woofer true [] .smooth).1
      .heardCorrectDriver none).2 = .returned := by decide +kernel
  generalize (stepAudibly false (lateRetry.foldl perform .initial) "main" .woofer true [] .smooth).1 = stepped at *
  rw [← group] at confirmable
  have leads := (acknowledged_leads_iff attends waits (Prod.ext rfl returned)).mp (.inr confirmable)
  rcases leads with accepts | ⟨-, current, loaded, floor | ⟨-, impossible⟩⟩
  · exact refuses accepts
  · exact silent current (group ▸ loaded) floor
  · exact impossible

end Jts.ActiveSpeaker
