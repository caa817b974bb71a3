import Jts.ActiveSpeaker.Remute

set_option autoImplicit false

namespace Jts.ActiveSpeaker

section Session

variable {safe : SafeSession}

theorem load_armed (armed : safe.load.status = .armed) : safe.load = safe := by
  unfold SafeSession.load at armed ⊢
  split at armed
  · cases armed
  · rw [if_neg ‹_›]

theorem load_pending (waits : safe.load.quietStart.status = .floorPendingOperator) : safe.load = safe := by
  unfold SafeSession.load at waits ⊢
  split at waits
  · cases waits
  · rw [if_neg ‹_›]

theorem load_armed_iff : safe.load.status = .armed ↔ safe.status = .armed ∧ safe.lapsed = false := by
  unfold SafeSession.load
  split
  next both => exact iff_of_false nofun fun held => Bool.noConfusion (held.2.symm.trans both.2)
  next stays => exact ⟨fun armed => ⟨armed, Bool.eq_false_of_not_eq_true fun lapsed => stays ⟨armed, lapsed⟩⟩, And.left⟩

theorem retryAllowed_iff (quiet : QuietStart) (target : PlaybackTarget) : quiet.retryAllowed target = true ↔
    quiet.currentTarget = some target ∧ quiet.lastOperatorResult = some ⟨.silent, some target⟩ := by
  unfold QuietStart.retryAllowed
  cases told : quiet.lastOperatorResult with
  | none => simp
  | some result =>
      obtain ⟨outcome, seen⟩ := result
      simp only [Bool.and_eq_true, beq_iff_eq, Option.some.injEq, OperatorResult.mk.injEq]
      tauto

@[simp] theorem pending_status (quiet : QuietStart) (playbackId : Nat) :
    (quiet.pending playbackId).status = .floorPendingOperator := rfl

@[simp] theorem pending_result (quiet : QuietStart) (playbackId : Nat) :
    (quiet.pending playbackId).lastOperatorResult = none := rfl

@[simp] theorem pending_target (quiet : QuietStart) (playbackId : Nat) :
    (quiet.pending playbackId).currentTarget = quiet.currentTarget := rfl

@[simp] theorem retarget_target (quiet : QuietStart) (target : PlaybackTarget) :
    (quiet.retarget target).currentTarget = some target := by
  unfold QuietStart.retarget
  split
  · assumption
  · rfl

/-- The tri-state is this target's, and waits for the operator, was confirmed, or was judged silent. -/
def Answers (quiet : QuietStart) (target : PlaybackTarget) : Prop :=
  quiet.currentTarget = some target ∧ (quiet.status ≠ .floorRequired ∨ quiet.lastOperatorResult = some ⟨.silent, some target⟩)

/-- What a tone leaves: a driver that is waited for, one that stays confirmed, or neither. -/
theorem quietStartAfterResult_cases (prior : QuietStart) (target : PlaybackTarget) (level : Level) (playbackId : Nat) :
    (quietStartAfterResult prior target level playbackId = (prior.retarget target).pending playbackId ∧
        (levelAtFloor level = true ∨ Answers prior target)) ∨
      (quietStartAfterResult prior target level playbackId = prior ∧ prior.status = .floorConfirmed ∧
        levelAtFloor level = false ∧ Answers prior target) ∨
      (quietStartAfterResult prior target level playbackId).status = .floorRequired ∧ levelAtFloor level = false ∧
        ¬Answers prior target := by
  have kept (stays : (prior.retarget target).status ≠ .floorRequired) : prior.retarget target = prior ∧ prior.currentTarget = some target := by
    unfold QuietStart.retarget at stays ⊢
    split at stays
    next same => exact ⟨if_pos same, same⟩
    next => exact absurd rfl stays
  unfold quietStartAfterResult
  dsimp only
  split
  next waits =>
    have same := kept (by rw [waits]; exact nofun)
    rw [same.1] at waits
    exact .inl ⟨rfl, .inr ⟨same.2, .inl (by rw [waits]; exact nofun)⟩⟩
  next idle =>
    split
    next floor => exact .inl ⟨rfl, .inl floor⟩
    next above =>
      split
      next retry =>
        obtain ⟨current, silent⟩ := (retryAllowed_iff _ _).mp retry
        refine .inl ⟨rfl, .inr ?_⟩
        unfold QuietStart.retarget at silent
        split at silent
        next same => exact ⟨same, .inr silent⟩
        next => exact absurd silent nofun
      next refused =>
        split
        next confirmed =>
          have same := kept (by rw [confirmed]; exact nofun)
          rw [same.1] at confirmed ⊢
          exact .inr (.inl ⟨rfl, confirmed, Bool.eq_false_of_not_eq_true above, same.2, .inl (by rw [confirmed]; exact nofun)⟩)
        next unconfirmed =>
          refine .inr (.inr ⟨rfl, Bool.eq_false_of_not_eq_true above, ?_⟩)
          rintro ⟨same, handled⟩
          have unmoved : prior.retarget target = prior := if_pos same
          rw [unmoved] at idle refused unconfirmed
          rcases handled with told | silent
          · cases status : prior.status with
            | floorRequired => exact told status
            | floorPendingOperator => exact idle status
            | floorConfirmed => exact unconfirmed status
          · exact refused ((retryAllowed_iff _ _).mpr ⟨same, silent⟩)

theorem quietStartAfterResult_target (prior : QuietStart) (target : PlaybackTarget) (level : Level) (playbackId : Nat) :
    (quietStartAfterResult prior target level playbackId).currentTarget = some target := by
  unfold quietStartAfterResult
  dsimp only
  split
  · simp
  split
  · simp
  split
  · simp
  split <;> simp

/-- After a tone no verdict of an earlier one lets a driver be retried. -/
theorem quietStartAfterResult_unretried (prior : QuietStart) (target other : PlaybackTarget) (level : Level) (playbackId : Nat) :
    (quietStartAfterResult prior target level playbackId).retryAllowed other = false := by
  have refuses (quiet : QuietStart) (refused : ¬quiet.retryAllowed target = true) (same : quiet.currentTarget = some target) :
      quiet.retryAllowed other = false := by
    refine Bool.eq_false_of_not_eq_true fun allowed => refused ?_
    obtain ⟨current, -⟩ := (retryAllowed_iff _ _).mp allowed
    obtain rfl := Option.some.inj (same.symm.trans current)
    exact allowed
  unfold quietStartAfterResult
  dsimp only
  split
  · rfl
  split
  · rfl
  split
  · rfl
  next refused =>
    have refused' := refuses _ refused (retarget_target prior target)
    split
    · exact refused'
    · exact refused'

-- A confirmed tri-state is that of an armed session, and holds no issue of an earlier verdict.
def Clean (safe : SafeSession) : Prop := safe.quietStart.status = .floorConfirmed → safe.status = .armed ∧ safe.issues = []

theorem Clean.load (clean : Clean safe) : Clean safe.load := by
  intro confirmed
  unfold SafeSession.load at confirmed ⊢
  split at confirmed
  · exact absurd confirmed nofun
  next stays =>
    rw [if_neg stays]
    exact clean confirmed

theorem clean_ensureArmed (clean : Clean safe) (ready : Bool) : Clean (ensureSafeSessionArmed safe ready) := by
  rw [ensureSafeSessionArmed]
  split
  · exact clean
  · rw [armSafePlaybackSession]
    split
    · intro confirmed
      cases confirmed
    · intro confirmed
      cases confirmed

theorem clean_stopped (safe : SafeSession) : Clean (stopSafePlaybackSession safe) := fun confirmed => absurd confirmed nofun

theorem clean_recorded (clean : Clean safe) (target : PlaybackTarget) (level : Level) (playbackId : Nat) :
    Clean (recordSafePlaybackResult safe target level playbackId) := by
  intro confirmed
  rcases quietStartAfterResult_cases safe.load.quietStart target level playbackId with ⟨waits, -⟩ | ⟨same, stays, -⟩ | ⟨required, -⟩
  · exact absurd ((congrArg QuietStart.status waits).symm.trans confirmed) nofun
  · exact clean.load stays
  · exact absurd (required.symm.trans confirmed) nofun

theorem clean_told (waits : safe.load.quietStart.status = .floorPendingOperator) (outcome : Outcome)
    (playbackId : Nat) : Clean (recordFloorAudioOperatorResult safe outcome playbackId) := by
  intro confirmed
  unfold recordFloorAudioOperatorResult at confirmed ⊢
  dsimp only at confirmed ⊢
  split at confirmed
  · exact absurd (waits.symm.trans confirmed) nofun
  next accepted =>
    rw [if_neg accepted]
    refine ⟨?_, rfl⟩
    by_contra idle
    exact accepted (List.append_ne_nil_of_left_ne_nil (by simp [idle]) _)

/-- The session takes a verdict that it waits for, and any other leaves it as it is. -/
theorem ackSafe_cases {stored seen : SafeSession} {outcome : Outcome} {playbackId : Nat}
    (told : ackSafe safe outcome playbackId = some (stored, seen)) :
    (safe.quietStart.status = .floorPendingOperator ∧ safe.load = safe ∧ outcome ≠ .unsupported ∧
        stored = recordFloorAudioOperatorResult safe outcome playbackId ∧ seen = stored) ∨
      safe.load.quietStart.status ≠ .floorPendingOperator ∧ stored = safe ∧ seen = safe.load := by
  unfold ackSafe at told
  split at told
  next waits =>
    have same := load_pending waits
    rw [same] at waits
    split at told
    · exact absurd told nofun
    next known =>
      obtain ⟨rfl, rfl⟩ := Prod.mk.inj (Option.some.inj told)
      exact .inl ⟨waits, same, known, rfl, rfl⟩
  next idle =>
    obtain ⟨rfl, rfl⟩ := Prod.mk.inj (Option.some.inj told)
    exact .inr ⟨idle, rfl, rfl⟩

theorem clean_ackSafe {stored seen : SafeSession} {outcome : Outcome} {playbackId : Nat} (clean : Clean safe)
    (told : ackSafe safe outcome playbackId = some (stored, seen)) : Clean stored := by
  rcases ackSafe_cases told with ⟨waits, same, -, rfl, -⟩ | ⟨-, rfl, -⟩
  · exact clean_told (same.symm ▸ waits) outcome playbackId
  · exact clean

/-- What a verdict that is waited for leaves: the session and its target as they were, and the verdict. -/
theorem recordFloorAudioOperatorResult_eq (same : safe.load = safe) (waits : safe.quietStart.status = .floorPendingOperator)
    (outcome : Outcome) (playbackId : Nat) :
    (recordFloorAudioOperatorResult safe outcome playbackId).status = safe.status ∧
      (recordFloorAudioOperatorResult safe outcome playbackId).lapsed = safe.lapsed ∧
      (recordFloorAudioOperatorResult safe outcome playbackId).quietStart.currentTarget = safe.quietStart.currentTarget ∧
      (recordFloorAudioOperatorResult safe outcome playbackId).quietStart.lastOperatorResult =
        some ⟨outcome, safe.quietStart.currentTarget⟩ ∧
      ((recordFloorAudioOperatorResult safe outcome playbackId).quietStart.status = .floorConfirmed ↔
        outcome = .heardCorrectDriver ∧ operatorIssues safe playbackId = []) ∧
      ((recordFloorAudioOperatorResult safe outcome playbackId).quietStart.status = .floorPendingOperator →
        (recordFloorAudioOperatorResult safe outcome playbackId).quietStart.pendingPlaybackId = safe.quietStart.pendingPlaybackId) ∧
      (recordFloorAudioOperatorResult safe outcome playbackId).issues = operatorIssues safe playbackId := by
  unfold recordFloorAudioOperatorResult
  rw [same]
  dsimp only
  split
  next issues =>
    refine ⟨rfl, rfl, rfl, rfl, iff_of_false (fun confirmed => ?_) fun accepted => issues accepted.2, fun _ => rfl, rfl⟩
    exact absurd (waits.symm.trans confirmed) nofun
  next none_ =>
    rw [not_not] at none_
    refine ⟨rfl, rfl, rfl, rfl, ?_, fun still => ?_, none_.symm⟩
    · by_cases heard : outcome = .heardCorrectDriver
      · exact iff_of_true (if_pos heard) ⟨heard, none_⟩
      · exact iff_of_false (fun confirmed => absurd ((if_neg heard).symm.trans confirmed) nofun) fun accepted => heard accepted.1
    · split at still <;> cases still

end Session

section Attention

/-- What the tri-state keeps of the step that waits for a verdict: it is that driver's, it waits for that play, and no earlier verdict
lets it be retried. -/
structure Heeds (safe : SafeSession) (group : String) (pending : PendingStep) : Prop where
  target : safe.quietStart.status ≠ .floorRequired → ∃ outputIndex, safe.quietStart.currentTarget = some ⟨group, pending.role, outputIndex⟩
  play : safe.quietStart.status = .floorPendingOperator → safe.quietStart.pendingPlaybackId = some pending.playbackId
  unretried : ∀ target, safe.quietStart.retryAllowed target = false

structure Attends (speaker : Commissioning) : Prop where
  clean : Clean speaker.safe
  heeds : ∀ pending, speaker.ramp.pending = some pending → Heeds speaker.safe speaker.ramp.group pending

variable {safe : SafeSession} {group : String} {pending : PendingStep}

-- A tri-state that starts over knows of nothing.
theorem Heeds.of_base (base : safe.quietStart = .base) : Heeds safe group pending := by
  refine ⟨fun told => ?_, fun waits => ?_, fun target => ?_⟩
  · rw [base] at told
    exact absurd rfl told
  · rw [base] at waits
    cases waits
  · rw [base]
    rfl

theorem Heeds.ensureArmed (heeds : Heeds safe group pending) (ready : Bool) :
    Heeds (ensureSafeSessionArmed safe ready) group pending := by
  rw [ensureSafeSessionArmed]
  split
  · exact heeds
  · refine .of_base ?_
    rw [armSafePlaybackSession]
    split
    · rfl
    · rfl

theorem Heeds.lapsed (heeds : Heeds safe group pending) (lapsed : Bool) : Heeds { safe with lapsed := lapsed } group pending :=
  ⟨heeds.target, heeds.play, heeds.unretried⟩

/-- A tone is heeded, whatever the tri-state was about. -/
theorem heeds_recorded (safe : SafeSession) (target : PlaybackTarget) (level : Level) (playbackId : Nat) :
    Heeds (recordSafePlaybackResult safe target level playbackId) target.group ⟨target.role, level, playbackId⟩ where
  target _ := ⟨target.outputIndex, quietStartAfterResult_target _ _ _ _⟩
  play waits := by
    rcases quietStartAfterResult_cases safe.load.quietStart target level playbackId with ⟨same, -⟩ | ⟨same, stays, -⟩ | ⟨required, -⟩
    · exact congrArg QuietStart.pendingPlaybackId same
    · exact absurd ((congrArg QuietStart.status same).trans stays) (waits ▸ nofun)
    · exact absurd (required.symm.trans waits) nofun
  unretried _ := quietStartAfterResult_unretried _ _ _ _ _

/-- A verdict that is not silence leaves no retry. -/
theorem Heeds.told (heeds : Heeds safe group pending) {stored seen : SafeSession} {outcome : Outcome} {playbackId : Nat}
    (told : ackSafe safe outcome playbackId = some (stored, seen)) (heard : outcome ≠ .silent) : Heeds stored group pending := by
  rcases ackSafe_cases told with ⟨waits, same, -, rfl, -⟩ | ⟨-, rfl, -⟩
  · obtain ⟨-, -, target, result, -, play, -⟩ := recordFloorAudioOperatorResult_eq same waits outcome playbackId
    refine ⟨fun _ => ?_, fun still => ?_, fun other => Bool.eq_false_of_not_eq_true fun allowed => heard ?_⟩
    · rw [target]
      exact heeds.target (by rw [waits]; exact nofun)
    · rw [play still]
      exact heeds.play waits
    · have silent := result.symm.trans ((retryAllowed_iff _ _).mp allowed).2
      exact congrArg OperatorResult.outcome (Option.some.inj silent)
  · exact heeds

end Attention

section Calls

variable {speaker : Commissioning}

def StepOutside.seen (outside : StepOutside) (safe : SafeSession) : SafeSession :=
  if outside.lapses then { safe with lapsed := true } else safe

theorem Clean.seen {safe : SafeSession} (clean : Clean safe) (outside : StepOutside) : Clean (outside.seen safe) := by
  unfold StepOutside.seen
  split
  · exact clean
  · exact clean

/-- A step leaves the session as it was armed, or it records a tone and waits for its verdict. -/
theorem loadStep_cases (speaker : Commissioning) (replaced : Option PendingStep) (target : PlaybackTarget) (level : Level)
    (outside : StepOutside) :
    ((loadStep speaker replaced target level outside).1.safe = speaker.safe ∧
        (loadStep speaker replaced target level outside).1.ramp = speaker.ramp ∧
        (loadStep speaker replaced target level outside).2 ≠ .stepped) ∨
      (loadStep speaker replaced target level outside).1.safe =
          recordSafePlaybackResult (outside.seen speaker.safe) target level outside.playbackId ∧
        (loadStep speaker replaced target level outside).1.ramp.group = target.group ∧
        (loadStep speaker replaced target level outside).1.ramp.pending = some ⟨target.role, level, outside.playbackId⟩ := by
  unfold loadStep
  split
  · exact .inl ⟨rfl, rfl, nofun⟩
  generalize loadDriverCommissioningConfig speaker.commission ⟨target.group, target.role, level⟩ false outside.load = loaded
  obtain ⟨commission, ended⟩ := loaded
  cases ended with
  | cancelled => exact .inl ⟨rfl, rfl, nofun⟩
  | raised => exact .inl ⟨rfl, rfl, nofun⟩
  | returned =>
      have remuted (loaded : Commissioning) (status : StepStatus) (other : status ≠ .stepped) :
          (loaded.remuted outside.rollback status).1.safe = loaded.safe ∧ (loaded.remuted outside.rollback status).1.ramp = loaded.ramp ∧
            (loaded.remuted outside.rollback status).2 ≠ .stepped := by
        refine ⟨rfl, rfl, ?_⟩
        unfold Commissioning.remuted
        dsimp only
        split
        · exact nofun
        · exact other
      dsimp only [afterLoad]
      split
      · exact .inl ⟨rfl, rfl, nofun⟩
      unfold emitTone
      cases outside.tone with
      | cancelled => exact .inl ⟨rfl, rfl, nofun⟩
      | failed => exact .inl (remuted _ _ nofun)
      | notAsked => exact .inr ⟨rfl, rfl, rfl⟩
      | confirmable => exact .inr ⟨rfl, rfl, rfl⟩

theorem Attends.loadStep (attends : Attends speaker) (replaced : Option PendingStep) (target : PlaybackTarget) (level : Level)
    (outside : StepOutside) : Attends (loadStep speaker replaced target level outside).1 := by
  rcases loadStep_cases speaker replaced target level outside with ⟨safe, ramp, -⟩ | ⟨safe, group, waits⟩
  · refine ⟨?_, ?_⟩
    · rw [safe]
      exact attends.clean
    · rw [safe, ramp]
      exact attends.heeds
  · refine ⟨?_, fun pending same => ?_⟩
    · rw [safe]
      exact clean_recorded (attends.clean.seen outside) target level outside.playbackId
    · obtain rfl := Option.some.inj (waits.symm.trans same)
      rw [safe, group]
      exact heeds_recorded _ _ _ _

theorem Attends.ensureArmed (attends : Attends speaker) (ready : Bool) :
    Attends { speaker with safe := ensureSafeSessionArmed speaker.safe ready } :=
  ⟨clean_ensureArmed attends.clean ready, fun pending waits => (attends.heeds pending waits).ensureArmed ready⟩

theorem Attends.step (attends : Attends speaker) (group : String) (role : Role) (autoRetryPending : Bool) (roles : List Role)
    (outside : StepOutside) : Attends (rampAudibleStep speaker group role autoRetryPending roles outside).1 := by
  unfold rampAudibleStep
  cases checks : stepChecks speaker group role autoRetryPending roles outside with
  | error refused =>
      rcases stepChecks_error checks with same | armed
      · exact same ▸ attends
      · exact armed ▸ attends.ensureArmed outside.ready
  | ok passed =>
      obtain ⟨armed, replaced, next⟩ := passed
      obtain ⟨current, passes⟩ := stepChecks_ok checks
      have ready : Attends armed := by
        rw [passes.armed_eq]
        exact attends.ensureArmed outside.ready
      exact ready.loadStep _ _ _ _

theorem ackVerdict_pending (confirmedRoles : List Role) (pending : PendingStep) (seen : SafeSession) (outcome : Outcome) :
    (ackVerdict confirmedRoles pending seen outcome).pending = none ∨
      (ackVerdict confirmedRoles pending seen outcome).pending = some pending ∧ outcome ≠ .silent := by
  cases outcome with
  | heardCorrectDriver =>
      simp only [ackVerdict]
      split
      · exact .inl rfl
      · split
        · exact .inl rfl
        · exact .inr ⟨rfl, nofun⟩
  | heardWrongDriver => exact .inl rfl
  | tooLoud => exact .inl rfl
  | silent => exact .inl rfl
  | unsupported => exact .inr ⟨rfl, nofun⟩

/-- What an acknowledgement does with the pending step: it answers for it or leaves it, and a re-mute that is cancelled leaves it too. -/
theorem settle_cases (told : Commissioning) (pending : PendingStep) (verdict : Verdict) (loader : Option RollbackOutside) :
    (settle told pending verdict loader).1.safe = told.safe ∧ (settle told pending verdict loader).1.ramp.group = told.ramp.group ∧
      ((settle told pending verdict loader).1.ramp.pending = verdict.pending ∨
        (settle told pending verdict loader).1.ramp = told.ramp ∧ verdict.remutes = true) := by
  unfold settle
  split
  · exact ⟨rfl, rfl, .inl rfl⟩
  split
  · exact ⟨rfl, rfl, .inl rfl⟩
  next remutes =>
    dsimp only
    split
    · exact ⟨rfl, rfl, .inr ⟨rfl, by simpa using remutes⟩⟩
    · exact ⟨rfl, rfl, .inl rfl⟩

theorem Attends.ack (attends : Attends speaker) (outcome : Outcome) (loader : Option RollbackOutside) :
    Attends (recordRampOperatorAck speaker outcome loader).1 := by
  unfold recordRampOperatorAck
  split
  · exact attends
  next pending waits =>
    split
    · exact attends
    next stored seen told =>
      have stays : Clean stored := clean_ackSafe attends.clean told
      obtain ⟨safe, group, left⟩ := settle_cases { speaker with safe := stored } pending
        (ackVerdict speaker.ramp.confirmedRoles pending seen outcome) loader
      refine ⟨?_, fun other same => ?_⟩
      · rw [safe]
        exact stays
      rw [safe, group]
      rcases left with answered | ⟨ramp, remutes⟩
      · rcases ackVerdict_pending speaker.ramp.confirmedRoles pending seen outcome with none_ | ⟨kept, heard⟩
        · exact absurd (none_.symm.trans (answered.symm.trans same)) nofun
        · obtain rfl := Option.some.inj (kept.symm.trans (answered.symm.trans same))
          exact (attends.heeds pending waits).told told heard
      · rw [ramp] at same
        refine (attends.heeds other same).told told ?_
        rintro rfl
        cases remutes

theorem Attends.abort (attends : Attends speaker) (outside : RollbackOutside) : Attends (abortRamp speaker outside).1 := by
  unfold abortRamp
  dsimp only
  split
  · exact ⟨attends.clean, attends.heeds⟩
  · exact ⟨clean_stopped _, fun _ impossible => by cases impossible⟩

theorem Attends.rollback (attends : Attends speaker) (outside : RollbackOutside) :
    Attends (commissionRollback speaker outside).1 := by
  unfold commissionRollback
  dsimp only
  split
  · exact ⟨attends.clean, attends.heeds⟩
  · exact ⟨clean_stopped _, fun _ _ => .of_base rfl⟩

theorem Attends.act (attends : Attends speaker) (call : Call) : Attends (act speaker call) := by
  cases call with
  | arm group role outside => exact ⟨attends.clean, attends.heeds⟩
  | step group role autoRetryPending roles outside => exact attends.step group role autoRetryPending roles outside
  | ack outcome loader => exact attends.ack outcome loader
  | abort outside => exact attends.abort outside
  | remute outside =>
      simp only [ActiveSpeaker.act, remuteSteppedDriver]
      split
      · exact attends
      · exact attends.abort outside
  | rollback outside => exact attends.rollback outside
  | expire => exact ⟨attends.clean, fun pending waits => (attends.heeds pending waits).lapsed true⟩

theorem attends_initial : Attends .initial := ⟨fun confirmed => absurd confirmed nofun, fun _ impossible => by cases impossible⟩

end Calls

end Jts.ActiveSpeaker
