import Mathlib.Data.List.Lattice
import Jts.ActiveSpeaker.Tristate

set_option autoImplicit false

namespace Jts.ActiveSpeaker

open Shared.Transition (Reachable reachable_foldl reachable_restrict_foldl)

/-- Every graph that has run since, if it has an audible driver, is as stated. -/
def Raises (P : Unmuted → Prop) (before after : Running) : Prop :=
  ∃ new, after.seen = before.seen ++ new ∧ ∀ raised, some raised ∈ new → minTestLevelDbfs ≤ raised.gainDb → P raised

namespace Raises

variable {P : Unmuted → Prop}

theorem refl (running : Running) : Raises P running running := ⟨[], by simp, by simp⟩

theorem trans {first middle last : Running} (before : Raises P first middle) (after : Raises P middle last) :
    Raises P first last := by
  obtain ⟨earlier, seen, raised⟩ := before
  obtain ⟨later, seenLater, raisedLater⟩ := after
  refine ⟨earlier ++ later, by rw [seenLater, seen, List.append_assoc], fun driver mem => ?_⟩
  rcases List.mem_append.mp mem with mem | mem
  · exact raised driver mem
  · exact raisedLater driver mem

theorem sent (running : Running) (candidate : Graph) (reply : Reply)
    (raised : ∀ driver, candidate = some driver → minTestLevelDbfs ≤ driver.gainDb → P driver) :
    Raises P running (running.sent candidate reply) := by
  unfold Running.sent
  split
  · exact refl running
  · exact ⟨[candidate], rfl, fun driver mem => raised driver (List.mem_singleton.mp mem).symm⟩

theorem toAnchor (running : Running) (reply : Reply) : Raises P running (running.sent none reply) :=
  sent running none reply fun _ impossible => by cases impossible

theorem rollBack (running : Running) (toAnchor : Bool) (outside : ApplyOutside) :
    Raises P running (rollBack running toAnchor outside).1 := by
  unfold ActiveSpeaker.rollBack
  dsimp only
  split
  · exact Raises.toAnchor running _
  · exact refl running

theorem apply (running : Running) (candidate : Graph) (toAnchor : Bool) (outside : ApplyOutside)
    (raised : ∀ driver, candidate = some driver → minTestLevelDbfs ≤ driver.gainDb → P driver) :
    Raises P running (applyDspConfig running candidate toAnchor outside).1 := by
  have loaded := sent running candidate outside.load raised
  by_cases tried : outside.tried = true
  · by_cases left : outside.left = true
    · rw [apply_left tried left]
      exact loaded
    rw [Bool.not_eq_true] at left
    by_cases unconfirmed : outside.unconfirmed = true
    · rw [apply_unconfirmed tried left unconfirmed]
      exact loaded.trans (rollBack _ toAnchor outside)
    · rw [Bool.not_eq_true] at unconfirmed
      rw [apply_lands tried left unconfirmed]
      exact sent running candidate .done raised
  · rw [Bool.not_eq_true] at tried
    obtain ⟨ended, applies, -, -⟩ := @apply_untried running candidate toAnchor outside tried
    rw [applies]
    exact refl running

end Raises

@[simp] theorem record_running (commission : Commission) (status : LoadStatus) (target : Option LoadTarget) :
    (commission.record status target).running = commission.running := rfl

@[simp] theorem applied_running (commission : Commission) (running : Running) :
    (commission.applied running).running = running := rfl

theorem recordLoad_running (commission : Commission) (target : LoadTarget) (reconcile reconciles : Bool)
    (applied : Running × ApplyEnd) : (recordLoad commission target reconcile reconciles applied).1.running = applied.1 := by
  obtain ⟨running, ended⟩ := applied
  cases ended with
  | success =>
      simp only [recordLoad]
      split <;> rfl
  | failed => rfl
  | notAdmitted => rfl
  | cancelled => rfl

theorem recordRollback_running (commission : Commission) (applied : Running × ApplyEnd) :
    (recordRollback commission applied).1.running = applied.1 := by
  obtain ⟨running, ended⟩ := applied
  cases ended <;> rfl

theorem load_raises {P : Unmuted → Prop} {commission : Commission} {target : LoadTarget} {reconcile : Bool}
    {outside : LoadOutside}
    (raised : target.known outside.active = true → minTestLevelDbfs ≤ target.audibleGainDb →
      P (target.unmuted outside.active)) :
    Raises P commission.running (loadDriverCommissioningConfig commission target reconcile outside).1.running := by
  by_cases blocks : outside.blocks target = true
  · obtain ⟨status, told, loads, -⟩ := @load_blocked commission target reconcile outside blocks
    rw [loads]
    exact .refl _
  rw [Bool.not_eq_true] at blocks
  have known : target.known outside.active = true := by
    simp only [LoadOutside.blocks, Bool.or_eq_false_iff, Bool.not_eq_false'] at blocks
    exact blocks.1.1.2
  rw [load_unblocked blocks, recordLoad_running]
  refine .apply _ _ _ _ fun driver same loud => ?_
  obtain rfl := Option.some.inj same
  exact raised known loud

theorem rollback_raises {P : Unmuted → Prop} (commission : Commission) (outside : RollbackOutside) :
    Raises P commission.running (rollbackDriverCommissioningConfig commission outside).1.running := by
  unfold rollbackDriverCommissioningConfig
  split
  · exact .refl _
  · rw [recordRollback_running]
    exact .apply _ _ _ _ fun _ impossible => by cases impossible

section Uncancelled

theorem apply_uncancelled {running : Running} {candidate : Graph} {toAnchor : Bool} {outside : ApplyOutside}
    (uncancelled : outside.stop = none) : (applyDspConfig running candidate toAnchor outside).2 ≠ .cancelled := by
  simp only [applyDspConfig, rollBack, uncancelled]
  grind

theorem apply_notAdmitted {running : Running} {candidate : Graph} {toAnchor : Bool} {outside : ApplyOutside}
    (ended : (applyDspConfig running candidate toAnchor outside).2 = .notAdmitted) :
    (applyDspConfig running candidate toAnchor outside).1 = running := by
  simp only [applyDspConfig, rollBack] at ended ⊢
  grind

theorem load_unended {commission : Commission} {target : LoadTarget} {reconcile : Bool} {outside : LoadOutside}
    (uncancelled : outside.apply.stop = none)
    (unended : (loadDriverCommissioningConfig commission target reconcile outside).2 ≠ .returned) :
    loadDriverCommissioningConfig commission target reconcile outside = (commission, .raised) := by
  by_cases blocks : outside.blocks target = true
  · obtain ⟨status, told, loads, -⟩ := @load_blocked commission target reconcile outside blocks
    exact absurd (by rw [loads]) unended
  rw [Bool.not_eq_true] at blocks
  rw [load_unblocked blocks] at unended ⊢
  have stays := @apply_uncancelled commission.running (some (target.unmuted outside.active)) true _ uncancelled
  have same := @apply_notAdmitted commission.running (some (target.unmuted outside.active)) true outside.apply
  generalize applyDspConfig commission.running (some (target.unmuted outside.active)) true outside.apply = applied
    at unended stays same ⊢
  obtain ⟨running, ended⟩ := applied
  cases ended with
  | success =>
      simp only [recordLoad] at unended
      split at unended <;> exact absurd rfl unended
  | failed => exact absurd rfl unended
  | notAdmitted =>
      obtain rfl : running = commission.running := same rfl
      rfl
  | cancelled => exact absurd rfl stays

/-- What a load that is not cancelled records: nothing, that it is not loaded, or what runs. -/
theorem load_cases {commission : Commission} {target : LoadTarget} {reconcile : Bool} {outside : LoadOutside}
    (uncancelled : outside.apply.stop = none) :
    loadDriverCommissioningConfig commission target reconcile outside = (commission, .raised) ∨
    (∃ after, loadDriverCommissioningConfig commission target reconcile outside = (after, .returned) ∧
      after.state.status ≠ .loaded) ∨
    ∃ after, loadDriverCommissioningConfig commission target reconcile outside = (after, .returned) ∧
      after.state = ⟨.loaded, some target⟩ ∧ after.running.graph = some (target.unmuted outside.active) ∧
      target.known outside.active = true := by
  cases loads : loadDriverCommissioningConfig commission target reconcile outside with
  | mk after ended =>
    cases ended with
    | returned =>
        by_cases loaded : after.state.status = .loaded
        · obtain ⟨lands, same⟩ := @load_loaded commission target reconcile outside (by rw [loads]) (by rw [loads]; exact loaded)
          rw [loads] at same
          have known : target.known outside.active = true := by
            simp only [LoadOutside.lands, LoadOutside.blocks, Bool.and_eq_true, Bool.not_eq_true', Bool.or_eq_false_iff,
              Bool.not_eq_false'] at lands
            exact lands.1.1.1.1.1.2
          refine .inr (.inr ⟨after, rfl, ?_, ?_, known⟩) <;> rw [show after = _ from same]
          · rfl
          · rfl
        · exact .inr (.inl ⟨after, rfl, loaded⟩)
    | raised => exact .inl (by rw [load_unended uncancelled (by rw [loads]; simp)] at loads; exact loads.symm)
    | cancelled => exact absurd (load_unended uncancelled (by rw [loads]; simp)) (by rw [loads]; simp)

/-- A rollback that is not cancelled leaves no loaded record. -/
theorem rollback_unloads {commission : Commission} {outside : RollbackOutside} (uncancelled : outside.apply.stop = none) :
    (rollbackDriverCommissioningConfig commission outside).2 ≠ .cancelled ∧
      (rollbackDriverCommissioningConfig commission outside).1.state.status ≠ .loaded := by
  unfold rollbackDriverCommissioningConfig
  split
  · exact ⟨by simp, by simp [Commission.record]⟩
  have stays := @apply_uncancelled commission.running none false outside.apply uncancelled
  generalize applyDspConfig commission.running none false outside.apply = applied at stays ⊢
  obtain ⟨running, ended⟩ := applied
  cases ended with
  | success => exact ⟨by simp [recordRollback], by simp [recordRollback, Commission.record]⟩
  | failed => exact ⟨by simp [recordRollback], by simp [recordRollback, Commission.record]⟩
  | notAdmitted => exact ⟨by simp [recordRollback], by simp [recordRollback, Commission.record]⟩
  | cancelled => exact absurd rfl stays

end Uncancelled

/-- The session lets a driver go louder: its floor is confirmed, or was judged silent. -/
structure Cleared (safe : SafeSession) (target : PlaybackTarget) : Prop where
  armed : safe.status = .armed
  lasts : safe.lapsed = false
  current : safe.quietStart.currentTarget = some target
  handled : safe.quietStart.status = .floorConfirmed ∨ safe.quietStart.lastOperatorResult = some ⟨.silent, some target⟩

theorem priorStepCleared_cases {speaker : Commissioning} {replaced : Option PendingStep} {target : PlaybackTarget}
    (cleared : priorStepCleared speaker replaced target = true) : replaced.isSome = true ∨ Cleared speaker.safe target := by
  simp only [priorStepCleared, Bool.or_eq_true] at cleared
  rcases cleared with (replaces | confirmed) | retry
  · exact .inl replaces
  · simp only [floorAudioConfirmedForTarget, Bool.and_eq_true, beq_iff_eq] at confirmed
    have lasts := (load_armed_iff.mp confirmed.1.1).2
    rw [load_armed confirmed.1.1] at confirmed
    exact .inr ⟨confirmed.1.1, lasts, confirmed.2, .inl confirmed.1.2⟩
  · simp only [floorAudioRetryAllowedForTarget, Bool.and_eq_true, beq_iff_eq, retryAllowed_iff] at retry
    have lasts := (load_armed_iff.mp retry.1).2
    rw [load_armed retry.1] at retry
    exact .inr ⟨retry.1, lasts, retry.2.1, .inr retry.2.2⟩

/-- Arming again forgets what was cleared. -/
theorem ensureSafeSessionArmed_cleared {safe : SafeSession} {ready : Bool} {target : PlaybackTarget}
    (cleared : Cleared (ensureSafeSessionArmed safe ready) target) : Cleared safe target := by
  unfold ensureSafeSessionArmed at cleared
  split at cleared
  · exact cleared
  · have current := cleared.current
    simp only [armSafePlaybackSession] at current
    split at current <;> cases current

/-- While a step waits for its verdict, only a confirmed tri-state clears a driver. -/
theorem Heeds.confirmed {safe : SafeSession} {group : String} {pending : PendingStep} (heeds : Heeds safe group pending)
    {target : PlaybackTarget} (cleared : Cleared safe target) : safe.quietStart.status = .floorConfirmed := by
  refine cleared.handled.resolve_right fun silent => ?_
  have retried := (retryAllowed_iff _ _).mpr ⟨cleared.current, silent⟩
  rw [heeds.unretried] at retried
  cases retried

/-- A verdict that takes the step off and leaves a driver cleared is an accepted confirmation or silence, unless it aborts. -/
theorem ackVerdict_cleared {safe stored seen : SafeSession} {group : String} {pending : PendingStep} (clean : Clean safe)
    (heeds : Heeds safe group pending) {outcome : Outcome} {confirmedRoles : List Role}
    (told : ackSafe safe outcome pending.playbackId = some (stored, seen)) {target : PlaybackTarget} (cleared : Cleared stored target)
    (taken : (ackVerdict confirmedRoles pending seen outcome).pending = none) (carries : outcome ≠ .tooLoud ∧ outcome ≠ .heardWrongDriver) :
    (ackVerdict confirmedRoles pending seen outcome).status ∈ [AckStatus.confirmed, .retry] := by
  cases outcome with
  | silent => simp [ackVerdict]
  | tooLoud => exact absurd rfl carries.1
  | heardWrongDriver => exact absurd rfl carries.2
  | unsupported => cases taken
  | heardCorrectDriver =>
      have confirmed := (heeds.told told (by decide)).confirmed cleared
      have issues := (clean_ackSafe clean told confirmed).2
      have same : seen = stored := by
        rcases ackSafe_cases told with ⟨-, -, -, -, same⟩ | ⟨-, rfl, rfl⟩
        · exact same
        · exact load_armed (load_armed_iff.mpr ⟨cleared.armed, cleared.lasts⟩)
      have accepted : (ackVerdict confirmedRoles pending seen .heardCorrectDriver).status = .confirmed :=
        congrArg Verdict.status (if_pos (same ▸ ⟨issues, confirmed⟩))
      rw [accepted]
      exact List.mem_cons_self

/-- What the record, the ramp and the session keep of each other. A verdict on the last raise is owed until it is told. -/
structure Climb (speaker : Commissioning) : Prop where
  running : ∀ target, speaker.commission.state = ⟨.loaded, some target⟩ →
    ∃ active, target.known active = true ∧ speaker.commission.running.graph = some (target.unmuted active)
  paired : ∀ target pending, speaker.commission.state = ⟨.loaded, some target⟩ → minTestLevelDbfs ≤ target.audibleGainDb →
    speaker.ramp.pending = some pending → target.group = speaker.ramp.group ∧ target.role = pending.role
  handled : ∀ target, speaker.commission.state = ⟨.loaded, some target⟩ → minTestLevelDbfs ≤ target.audibleGainDb →
    speaker.ramp.pending = none → ∀ outputIndex, Cleared speaker.safe ⟨target.group, target.role, outputIndex⟩ →
      ⟨target.group, target.role⟩ ∈ speaker.handled
  confirmed : ∀ role ∈ speaker.ramp.confirmedRoles, ⟨speaker.ramp.group, role⟩ ∈ speaker.confirmed
  named : speaker.ramp.group = "" → speaker.ramp.confirmedRoles = [] ∧ speaker.ramp.pending = none

/-- No call is cancelled, a step names its group, and a verdict that aborts has a loader for the re-mute. -/
def Plain : Call → Prop
  | .arm _ _ outside => outside.apply.stop = none
  | .step group _ _ _ outside =>
      group ≠ "" ∧ outside.load.apply.stop = none ∧ outside.tone ≠ .cancelled ∧ outside.rollback.apply.stop = none
  | .ack outcome loader => (loader = none → outcome ≠ .tooLoud ∧ outcome ≠ .heardWrongDriver) ∧
      ∀ outside ∈ loader, outside.apply.stop = none
  | .abort outside | .remute outside | .rollback outside => outside.apply.stop = none
  | .expire => True

theorem unloaded {speaker : Commissioning} (unloads : speaker.commission.state.status ≠ .loaded)
    (target : LoadTarget) : speaker.commission.state ≠ ⟨.loaded, some target⟩ :=
  fun loaded => unloads (by rw [loaded])

/-- Without a loaded record, the record asks for nothing. -/
theorem Climb.of_unloaded {speaker : Commissioning} (unloads : speaker.commission.state.status ≠ .loaded)
    (confirmed : ∀ role ∈ speaker.ramp.confirmedRoles, ⟨speaker.ramp.group, role⟩ ∈ speaker.confirmed)
    (named : speaker.ramp.group = "" → speaker.ramp.confirmedRoles = [] ∧ speaker.ramp.pending = none) :
    Climb speaker where
  running target loaded := absurd loaded (unloaded unloads target)
  paired target _ loaded := absurd loaded (unloaded unloads target)
  handled target loaded := absurd loaded (unloaded unloads target)
  confirmed := confirmed
  named := named

theorem Climb.arm {speaker : Commissioning} (climb : Climb speaker) {group : String} {role : Role}
    {outside : LoadOutside} (uncancelled : outside.apply.stop = none) : Climb (armDriver speaker group role outside).1 := by
  unfold armDriver
  rcases @load_cases speaker.commission ⟨group, role, startupMuteGainDb⟩ true outside uncancelled with
    raised | ⟨after, loads, unloads⟩ | ⟨after, loads, state, graph, known⟩
  · rw [raised]
    exact climb
  · rw [loads]
    exact .of_unloaded unloads climb.confirmed climb.named
  · rw [loads]
    have silent (target : LoadTarget) (loaded : after.state = ⟨.loaded, some target⟩) : ¬minTestLevelDbfs ≤ target.audibleGainDb := by
      rw [state] at loaded
      cases loaded
      norm_num [minTestLevelDbfs, startupMuteGainDb]
    refine ⟨fun target loaded => ?_, fun target _ loaded loud => absurd loud (silent target loaded),
      fun target loaded loud => absurd loud (silent target loaded), climb.confirmed, climb.named⟩
    have same : after.state = ⟨.loaded, some target⟩ := loaded
    rw [state] at same
    cases same
    exact ⟨_, known, graph⟩

theorem Climb.rolledBack {speaker : Commissioning} (climb : Climb speaker) {outside : RollbackOutside}
    (uncancelled : outside.apply.stop = none) :
    (speaker.rolledBack outside).2 ≠ .cancelled ∧ Climb (speaker.rolledBack outside).1 :=
  ⟨(rollback_unloads uncancelled).1,
    .of_unloaded (rollback_unloads uncancelled).2 climb.confirmed climb.named⟩

theorem Climb.ensureArmed {speaker : Commissioning} (climb : Climb speaker) (ready : Bool) :
    Climb { speaker with safe := ensureSafeSessionArmed speaker.safe ready } where
  running := climb.running
  paired := climb.paired
  handled target loaded loud free outputIndex cleared :=
    climb.handled target loaded loud free outputIndex (ensureSafeSessionArmed_cleared cleared)
  confirmed := climb.confirmed
  named := climb.named

theorem mem_effectiveConfirmedRoles {ramp : RampState} {group : String} {roles : List Role} {role : Role} :
    role ∈ effectiveConfirmedRoles ramp group roles ↔
      (sameGroup ramp.group group = true ∧ role ∈ ramp.confirmedRoles) ∨ role ∈ roles := by
  unfold effectiveConfirmedRoles
  rw [List.mem_union_iff]
  split <;> simp_all

/-- What a named group remembers was confirmed in it. -/
theorem Climb.remembered {speaker : Commissioning} (climb : Climb speaker) {group : String} (names : group ≠ "")
    {roles : List Role} {role : Role} (mem : role ∈ effectiveConfirmedRoles speaker.ramp group roles) :
    role ∈ roles ∨ ⟨group, role⟩ ∈ speaker.confirmed := by
  rcases mem_effectiveConfirmedRoles.mp mem with ⟨same, mem⟩ | mem
  · right
    simp only [sameGroup, Bool.or_eq_true, beq_iff_eq] at same
    rcases same with (blank | blank) | same
    · rw [(climb.named blank).1] at mem
      cases mem
    · exact absurd blank names
    · exact same ▸ climb.confirmed role mem
  · exact .inl mem

theorem nextRampGainDb_le (current : Level) : nextRampGainDb current ≤ commissionRampMaxLevelDbfs := by
  unfold nextRampGainDb
  split
  · norm_num [minTestLevelDbfs, commissionRampMaxLevelDbfs]
  · exact min_le_right _ _

theorem nextRampGainDb_of_floor {current : Level} (silent : current < minTestLevelDbfs) :
    nextRampGainDb current = minTestLevelDbfs := by
  simp [nextRampGainDb, silent]

theorem nextRampGainDb_bounded {current : Level} (audible : minTestLevelDbfs ≤ current) :
    nextRampGainDb current ≤ current + audibleRampStepDb := by
  simp [nextRampGainDb, not_lt.mpr audible]

/-- A step above the floor starts at an audible level. -/
theorem audible_of_above {current : Level} (above : levelAtFloor (nextRampGainDb current) = false) :
    minTestLevelDbfs ≤ current := by
  by_contra silent
  rw [nextRampGainDb_of_floor (not_le.mp silent)] at above
  simp [levelAtFloor, epsilon] at above

/-- The tone of a driver that has just been loaded leaves a step that waits for its verdict, or no loaded driver. -/
theorem Climb.tone {speaker loaded : Commissioning} (climb : Climb speaker) {target : PlaybackTarget} {level : Level}
    {outside : StepOutside} (same : loaded = { speaker with commission := loaded.commission, handled := [] })
    (names : target.group ≠ "") (state : loaded.commission.state = ⟨.loaded, some ⟨target.group, target.role, level⟩⟩)
    (graph : ∃ active, (⟨target.group, target.role, level⟩ : LoadTarget).known active = true ∧
      loaded.commission.running.graph = some ((⟨target.group, target.role, level⟩ : LoadTarget).unmuted active))
    (uncancelled : outside.tone ≠ .cancelled ∧ outside.rollback.apply.stop = none) :
    Climb (emitTone loaded target level outside).1 := by
  have unloads := (@rollback_unloads loaded.commission outside.rollback uncancelled.2).2
  have muted : Climb (loaded.remuted outside.rollback .toneFailed).1 := by
    refine .of_unloaded unloads ?_ ?_ <;> rw [same]
    · exact climb.confirmed
    · exact climb.named
  have plays : Climb (Commissioning.mk loaded.commission
      ⟨target.group, effectiveConfirmedRoles loaded.ramp target.group [], some ⟨target.role, level, outside.playbackId⟩⟩
      (recordSafePlaybackResult (if outside.lapses then { loaded.safe with lapsed := true } else loaded.safe) target level
        outside.playbackId) loaded.confirmed loaded.handled) := by
    refine ⟨fun told told_eq => ?_, fun told pending told_eq _ waits => ?_, fun _ _ _ free => absurd free nofun,
      fun role mem => ?_, fun blank => absurd blank names⟩
    · rw [state] at told_eq
      cases told_eq
      exact graph
    · rw [state] at told_eq
      cases told_eq
      cases waits
      exact ⟨rfl, rfl⟩
    · rw [same] at mem ⊢
      exact (climb.remembered names mem).resolve_left (by simp)
  unfold emitTone
  cases tone : outside.tone with
  | cancelled => exact absurd tone uncancelled.1
  | failed => exact muted
  | notAsked => exact plays
  | confirmable => exact plays

theorem Climb.step {speaker : Commissioning} (climb : Climb speaker) {group : String} {role : Role}
    {autoRetryPending : Bool} {roles : List Role} {outside : StepOutside}
    (plain : Plain (.step group role autoRetryPending roles outside)) :
    Climb (rampAudibleStep speaker group role autoRetryPending roles outside).1 := by
  obtain ⟨names, uncancelled, tone⟩ := plain
  unfold rampAudibleStep
  cases checks : stepChecks speaker group role autoRetryPending roles outside with
  | error refused =>
      dsimp only
      obtain same | same := stepChecks_error checks <;> rw [same]
      · exact climb
      · exact climb.ensureArmed outside.ready
  | ok passed =>
      obtain ⟨armed, replaced, next⟩ := passed
      obtain ⟨current, passes⟩ := stepChecks_ok checks
      have ready : Climb armed := by
        rw [passes.armed_eq]
        exact climb.ensureArmed outside.ready
      simp only [loadStep]
      split
      · exact ready
      rename_i current_
      rcases @load_cases armed.commission ⟨group, role, next⟩ false outside.load uncancelled with
        raised | ⟨after, loads, unloads⟩ | ⟨after, loads, loaded, graph, known⟩
      · rw [raised]
        exact ready
      · rw [loads]
        simp only [afterLoad, unloads, ne_eq, not_false_eq_true, if_true]
        exact .of_unloaded unloads ready.confirmed ready.named
      · rw [loads]
        have loadedNow : after.state.status = .loaded := by rw [loaded]
        simp only [afterLoad, loadedNow, ne_eq, not_true_eq_false, if_false, current_]
        exact ready.tone rfl names loaded ⟨_, known, graph⟩ tone

/-- Only an accepted confirmation adds a role. -/
theorem ackVerdict_confirmed {confirmedRoles : List Role} {pending : PendingStep} {seen : SafeSession} {outcome : Outcome}
    {role : Role} (mem : role ∈ (ackVerdict confirmedRoles pending seen outcome).confirmedRoles) :
    role ∈ confirmedRoles ∨ role = pending.role ∧ (ackVerdict confirmedRoles pending seen outcome).status = .confirmed := by
  cases outcome with
  | heardCorrectDriver =>
      simp only [ackVerdict] at mem ⊢
      split at mem
      · rename_i accepted
        rw [if_pos accepted]
        exact (List.mem_insert_iff.mp mem).symm.imp id fun same => ⟨same, rfl⟩
      · split at mem <;> exact .inl mem
  | heardWrongDriver => exact .inl (List.mem_of_mem_filter mem)
  | tooLoud => exact .inl mem
  | silent => exact .inl mem
  | unsupported => exact .inl mem

theorem Climb.acknowledged {speaker : Commissioning} (climb : Climb speaker) (attends : Attends speaker) {pending : PendingStep}
    (waits : speaker.ramp.pending = some pending) {stored seen : SafeSession} {outcome : Outcome}
    (told : ackSafe speaker.safe outcome pending.playbackId = some (stored, seen)) {commission : Commission}
    (kept : commission.state.status = .loaded → commission = speaker.commission ∧ outcome ≠ .tooLoud ∧ outcome ≠ .heardWrongDriver) :
    Climb (Commissioning.acknowledged { speaker with safe := stored, commission := commission } pending
      (ackVerdict speaker.ramp.confirmedRoles pending seen outcome)) where
  running target loaded := by
    obtain ⟨rfl, -⟩ := kept (by rw [show commission.state = _ from loaded])
    exact climb.running target loaded
  paired target other loaded loud same := by
    obtain ⟨rfl, -⟩ := kept (by rw [show commission.state = _ from loaded])
    rcases ackVerdict_pending speaker.ramp.confirmedRoles pending seen outcome with idle | ⟨still, -⟩
    · exact absurd (idle.symm.trans same) nofun
    · obtain rfl := Option.some.inj (still.symm.trans same)
      exact climb.paired target _ loaded loud waits
  handled target loaded loud free outputIndex cleared := by
    obtain ⟨rfl, carries⟩ := kept (by rw [show commission.state = _ from loaded])
    obtain ⟨group, role⟩ := climb.paired target pending loaded loud waits
    have accepted := ackVerdict_cleared attends.clean (attends.heeds pending waits) told cleared free carries
    simp only [Commissioning.acknowledged, if_pos accepted, group, role, List.mem_cons_self]
  confirmed role mem := by
    simp only [Commissioning.acknowledged]
    rcases ackVerdict_confirmed mem with mem | ⟨rfl, accepted⟩
    · split
      · exact List.mem_cons_of_mem _ (climb.confirmed role mem)
      · exact climb.confirmed role mem
    · rw [if_pos accepted]
      exact List.mem_cons_self
  named blank := by
    rw [(climb.named blank).2] at waits
    cases waits

theorem ackVerdict_aborts {confirmedRoles : List Role} {pending : PendingStep} {seen : SafeSession} {outcome : Outcome}
    (stays : (ackVerdict confirmedRoles pending seen outcome).remutes = false) : outcome ≠ .tooLoud ∧ outcome ≠ .heardWrongDriver := by
  constructor
  · rintro rfl
    cases stays
  · rintro rfl
    cases stays

theorem Climb.settle {speaker : Commissioning} (climb : Climb speaker) (attends : Attends speaker) {pending : PendingStep}
    (waits : speaker.ramp.pending = some pending) {stored seen : SafeSession} {outcome : Outcome}
    (told : ackSafe speaker.safe outcome pending.playbackId = some (stored, seen)) {loader : Option RollbackOutside}
    (plain : Plain (.ack outcome loader)) :
    Climb (settle { speaker with safe := stored } pending (ackVerdict speaker.ramp.confirmedRoles pending seen outcome)
      loader).1 := by
  unfold ActiveSpeaker.settle
  split
  · exact climb.acknowledged attends waits told fun _ => ⟨rfl, plain.1 rfl⟩
  rename_i outside
  split
  next stays => exact climb.acknowledged attends waits told fun _ => ⟨rfl, ackVerdict_aborts (by simpa using stays)⟩
  have unloads := @rollback_unloads speaker.commission outside (plain.2 outside rfl)
  simp only [rolledBack_ended, unloads.1, if_false]
  exact climb.acknowledged attends waits told fun loaded => absurd loaded unloads.2

theorem climb_stopped {speaker : Commissioning} {outside : RollbackOutside}
    (uncancelled : outside.apply.stop = none) : Climb (abortRamp speaker outside).1 := by
  unfold abortRamp
  have unloads := @rollback_unloads speaker.commission outside uncancelled
  simp only [rolledBack_ended, unloads.1, if_false]
  exact .of_unloaded unloads.2 (fun _ impossible => by cases impossible) fun _ => ⟨rfl, rfl⟩

theorem clearPendingRampStep_confirmed {ramp : RampState} {role : Role}
    (mem : role ∈ (clearPendingRampStep ramp).confirmedRoles) : role ∈ ramp.confirmedRoles := by
  rcases mem_effectiveConfirmedRoles.mp mem with ⟨-, mem⟩ | impossible
  · exact mem
  · cases impossible

theorem Climb.rollback {speaker : Commissioning} (climb : Climb speaker) {outside : RollbackOutside}
    (uncancelled : outside.apply.stop = none) : Climb (commissionRollback speaker outside).1 := by
  unfold commissionRollback
  have unloads := @rollback_unloads speaker.commission outside uncancelled
  simp only [rolledBack_ended, unloads.1, if_false]
  have group : ∀ ramp : RampState, (clearPendingRampStep ramp).group = ramp.group := fun _ => rfl
  refine .of_unloaded unloads.2 ?_ ?_
  · intro role mem
    dsimp only at mem ⊢
    split at mem <;> rename_i rolled
    · simp only [rolled, if_true, group]
      exact climb.confirmed role (clearPendingRampStep_confirmed mem)
    · simp only [rolled, if_false]
      exact climb.confirmed role mem
  · intro blank
    dsimp only at blank ⊢
    split at blank <;> rename_i rolled
    · simp only [rolled, if_true]
      refine ⟨List.eq_nil_iff_forall_not_mem.mpr fun role mem => ?_, rfl⟩
      have remembered : role ∈ speaker.ramp.confirmedRoles := clearPendingRampStep_confirmed mem
      rw [(climb.named blank).1] at remembered
      cases remembered
    · simp only [rolled, if_false]
      exact climb.named blank

/-- One call keeps the three states in step. -/
theorem Climb.act {speaker : Commissioning} (climb : Climb speaker) (attends : Attends speaker) {call : Call} (plain : Plain call) :
    Climb (act speaker call) := by
  cases call with
  | arm group role outside => exact climb.arm plain
  | step group role autoRetryPending roles outside => exact climb.step plain
  | ack outcome loader =>
      simp only [ActiveSpeaker.act, recordRampOperatorAck]
      split
      · exact climb
      rename_i pending waits
      split
      · exact climb
      rename_i stored seen told
      exact climb.settle attends waits told plain
  | abort outside => exact climb_stopped plain
  | remute outside =>
      simp only [ActiveSpeaker.act, remuteSteppedDriver]
      split
      · exact climb
      · exact climb_stopped plain
  | rollback outside => exact climb.rollback plain
  | expire =>
      exact ⟨climb.running, climb.paired, fun _ _ _ _ _ cleared => Bool.noConfusion cleared.lasts, climb.confirmed, climb.named⟩

/-- What a call may raise: only a step does, only the driver that is armed in the running graph, by one bounded step that
a verdict on the last one or a replaced step stands behind, below it every driver confirmed or vouched for by the caller. -/
def Ladder (speaker : Commissioning) : Call → Unmuted → Prop
  | .step group role autoRetryPending roles outside, raised =>
      raised.driver = ⟨group, role⟩ ∧ raised.gainDb ≤ commissionRampMaxLevelDbfs ∧
        (∀ lower ∈ predecessors role outside.present, lower ∈ roles ∨ ⟨group, lower⟩ ∈ speaker.confirmed) ∧
        ∃ current, speaker.commission.running.graph = some ⟨⟨group, role⟩, current⟩ ∧
          (current < minTestLevelDbfs → raised.gainDb = minTestLevelDbfs) ∧
          (minTestLevelDbfs ≤ current → raised.gainDb ≤ current + audibleRampStepDb ∧
            (⟨group, role⟩ ∈ speaker.handled ∨ autoRetryPending = true ∧
              ∃ pending, speaker.ramp.pending = some pending ∧ pending.role = role ∧ speaker.ramp.group = group))
  | _, _ => False

theorem replacedPending_isSome {ramp : RampState} {group : String} {role : Role} {autoRetryPending : Bool}
    {replaced : Option PendingStep} (replaces : replacedPending ramp group role autoRetryPending = .ok replaced)
    (some_ : replaced.isSome = true) : autoRetryPending = true ∧
      ∃ pending, ramp.pending = some pending ∧ pending.role = role ∧ ramp.group = group := by
  unfold replacedPending at replaces
  split at replaces
  · cases replaces
    cases some_
  · rename_i pending waits
    split at replaces
    · rename_i same
      simp only [Bool.and_eq_true, beq_iff_eq] at same
      exact ⟨same.1.1, pending, waits, same.1.2, same.2⟩
    · cases replaces

-- A step that replaces none finds none.
theorem replacedPending_none {ramp : RampState} {group : String} {role : Role} {autoRetryPending : Bool}
    {replaced : Option PendingStep} (replaces : replacedPending ramp group role autoRetryPending = .ok replaced)
    (none_ : ¬replaced.isSome = true) : ramp.pending = none := by
  unfold replacedPending at replaces
  split at replaces
  next free => exact free
  next =>
    split at replaces
    · cases replaces
      exact absurd rfl none_
    · cases replaces

theorem step_raises {speaker armed : Commissioning} (climb : Climb speaker) {group : String} {role : Role}
    {autoRetryPending : Bool} {roles : List Role} {outside : StepOutside} {replaced : Option PendingStep}
    {current next : Level} (names : group ≠ "")
    (passes : StepPasses speaker armed group role autoRetryPending roles outside replaced current next)
    (known : (⟨group, role, next⟩ : LoadTarget).known outside.load.active = true) :
    Ladder speaker (.step group role autoRetryPending roles outside)
      ((⟨group, role, next⟩ : LoadTarget).unmuted outside.load.active) := by
  have active : outside.load.active = group := by
    simp only [LoadTarget.known, Bool.or_eq_true, beq_iff_eq] at known
    exact (known.resolve_left names).symm
  obtain ⟨running, before, graph⟩ := climb.running _ passes.loaded
  have same : running = group := by
    simp only [LoadTarget.known, Bool.or_eq_true, beq_iff_eq] at before
    exact (before.resolve_left names).symm
  have gate := passes.gate
  simp only [Gate.passed, Bool.and_eq_true] at gate
  obtain ⟨⟨-, order⟩, acknowledged⟩ := gate
  refine ⟨by rw [LoadTarget.unmuted, active], ?_, fun lower mem => ?_, current, ?_, fun silent => ?_, fun audible => ?_⟩
  · exact passes.next_eq ▸ nextRampGainDb_le current
  · simp only [Gate.roleOrderWooferFirst, List.all_eq_true, decide_eq_true_eq] at order
    exact climb.remembered names (order lower mem)
  · rw [graph, same]
    rfl
  · exact passes.next_eq ▸ nextRampGainDb_of_floor silent
  · refine ⟨passes.next_eq ▸ nextRampGainDb_bounded audible, ?_⟩
    have loud : Gate.atSilentFloor (stepGate speaker replaced ⟨group, role, outside.outputIndex⟩ current roles outside) =
        false := decide_eq_false (not_lt.mpr audible)
    simp only [Gate.priorStepAcknowledged, loud, Bool.false_or] at acknowledged
    by_cases replaces : replaced.isSome = true
    · exact .inr (replacedPending_isSome passes.replaces replaces)
    · have cleared := (priorStepCleared_cases acknowledged).resolve_left replaces
      exact .inl (climb.handled _ passes.loaded audible (replacedPending_none passes.replaces replaces) _ cleared)

/-- Everything that runs during a call and is audible stands on the ladder. -/
theorem act_raises {speaker : Commissioning} (climb : Climb speaker) {call : Call} (plain : Plain call) :
    Raises (Ladder speaker call) speaker.commission.running (act speaker call).commission.running := by
  cases call with
  | arm group role outside =>
      exact load_raises fun _ loud => absurd loud (by norm_num [minTestLevelDbfs, startupMuteGainDb])
  | step group role autoRetryPending roles outside =>
      simp only [act, rampAudibleStep]
      cases checks : stepChecks speaker group role autoRetryPending roles outside with
      | error refused =>
          dsimp only
          obtain same | same := stepChecks_error checks <;> rw [same] <;> exact .refl _
      | ok passed =>
          obtain ⟨armed, replaced, next⟩ := passed
          obtain ⟨current, passes⟩ := stepChecks_ok checks
          have same : armed.commission = speaker.commission := by rw [passes.armed_eq]
          have loads := @load_raises (Ladder speaker (.step group role autoRetryPending roles outside)) armed.commission
            ⟨group, role, next⟩ false outside.load fun known _ => step_raises climb plain.1 passes known
          rw [same] at loads
          simp only [loadStep, same]
          split
          · rw [same]
            exact .refl _
          rename_i current_
          generalize loadDriverCommissioningConfig speaker.commission ⟨group, role, next⟩ false outside.load = loaded at loads ⊢
          obtain ⟨commission, ended⟩ := loaded
          cases ended with
          | cancelled => exact loads
          | raised => exact loads
          | returned =>
              simp only [afterLoad, current_]
              split
              · exact loads
              · unfold emitTone
                cases outside.tone with
                | cancelled => exact loads
                | failed => exact loads.trans (rollback_raises _ _)
                | notAsked => exact loads
                | confirmable => exact loads
  | ack outcome loader =>
      simp only [act, recordRampOperatorAck]
      split
      · exact .refl _
      split
      · exact .refl _
      unfold settle
      split
      · exact .refl _
      split
      · exact .refl _
      dsimp only
      split <;> exact rollback_raises _ _
  | abort outside =>
      simp only [act, abortRamp]
      split <;> exact rollback_raises _ _
  | remute outside =>
      simp only [act, remuteSteppedDriver]
      split
      · exact .refl _
      · simp only [abortRamp]
        split <;> exact rollback_raises _ _
  | rollback outside =>
      simp only [act, commissionRollback]
      split <;> exact rollback_raises _ _
  | expire => exact .refl _

theorem reachable_climb {speaker : Commissioning}
    (reached : Reachable (commissioning.restrict fun _ => Plain) speaker) : Climb speaker := by
  suffices both : Attends speaker ∧ Climb speaker from both.2
  refine @Reachable.invariant _ _ _ (fun speaker => Attends speaker ∧ Climb speaker) ?_ ?_ _ reached
  · intro speaker start
    subst start
    refine ⟨attends_initial, ?_, ?_, ?_, ?_, fun _ => ⟨rfl, rfl⟩⟩
    · exact fun _ impossible => by cases impossible
    · exact fun _ _ impossible => by cases impossible
    · exact fun _ impossible => by cases impossible
    · exact fun _ impossible => by cases impossible
  · intro speaker call next both move
    rw [move.2]
    exact ⟨both.1.act call, both.2.act both.1 move.1⟩

/-- In every run that names its groups, whatever a further call makes audible stands on the ladder. -/
theorem gain_climbs_the_ladder {speaker : Commissioning}
    (reached : Reachable (commissioning.restrict fun _ => Plain) speaker) {call : Call} (plain : Plain call) :
    ∃ new, (act speaker call).commission.running.seen = speaker.commission.running.seen ++ new ∧
      ∀ raised, some raised ∈ new → minTestLevelDbfs ≤ raised.gainDb → Ladder speaker call raised :=
  act_raises (reachable_climb reached) plain

def silentStep : List Call := [.arm "main" .woofer .smooth, .step "main" .woofer false [] .smooth, .ack .silent none]

theorem louder_step_after_silence :
    (act (silentStep.foldl act .initial) (.step "main" .woofer false [] .smooth)).commission.running.graph =
        some ⟨⟨"main", .woofer⟩, minTestLevelDbfs + audibleRampStepDb⟩ ∧
      ∃ new, (act (silentStep.foldl act .initial) (.step "main" .woofer false [] .smooth)).commission.running.seen =
          (silentStep.foldl act .initial).commission.running.seen ++ new ∧
        ∀ raised, some raised ∈ new → minTestLevelDbfs ≤ raised.gainDb →
          Ladder (silentStep.foldl act .initial) (.step "main" .woofer false [] .smooth) raised := by
  have plain : Plain (.step "main" .woofer false [] .smooth) := ⟨by decide, rfl, by decide, rfl⟩
  have reached : Reachable (commissioning.restrict fun _ => Plain) (silentStep.foldl act .initial) :=
    reachable_restrict_foldl rfl ⟨rfl, plain, ⟨fun _ => ⟨nofun, nofun⟩, fun _ impossible => by cases impossible⟩, trivial⟩
  exact ⟨by decide +kernel, gain_climbs_the_ladder reached plain⟩

/-- A tweeter is armed and stepped with a blank group, when the topology has moved to another cabinet. -/
def blankGroup : List Call :=
  [.arm "main" .woofer .smooth, .step "main" .woofer false [] .smooth, .ack .heardCorrectDriver (some ⟨true, .smooth⟩),
    .arm "" .tweeter { LoadOutside.smooth with active := "side" },
    .step "" .tweeter false [] { StepOutside.smooth with load := { LoadOutside.smooth with active := "side" } }]

/-- A confirmed woofer is stepped again, is found too loud, and no loader re-mutes it. -/
def tooLoud : List Call :=
  [.arm "main" .woofer .smooth, .step "main" .woofer false [] .smooth, .ack .heardCorrectDriver none,
    .step "main" .woofer false [] .smooth, .ack .tooLoud none]

/-- The woofer of the first cabinet is taken for the second one's, which nobody heard. And a woofer that was found too loud is made
louder, with no verdict on its last raise but that one. -/
theorem blank_group_skips_the_woofer :
    (∃ speaker : Commissioning, Reachable commissioning speaker ∧
      speaker.commission.running.graph = some ⟨⟨"side", .tweeter⟩, minTestLevelDbfs⟩ ∧
        Role.woofer ∈ predecessors .tweeter StepOutside.smooth.present ∧ ⟨"side", .woofer⟩ ∉ speaker.confirmed) ∧
      ∃ speaker : Commissioning, Reachable commissioning speaker ∧ speaker.handled = [] ∧ speaker.ramp.pending = none ∧
        speaker.commission.running.graph = some ⟨⟨"main", .woofer⟩, minTestLevelDbfs + audibleRampStepDb⟩ ∧
          (act speaker (.step "main" .woofer false [] .smooth)).commission.running.graph =
            some ⟨⟨"main", .woofer⟩, minTestLevelDbfs + audibleRampStepDb + audibleRampStepDb⟩ :=
  ⟨⟨blankGroup.foldl act .initial, @reachable_foldl _ _ (fun speaker => speaker = .initial) act .initial rfl blankGroup,
      by decide +kernel, by decide +kernel, by decide +kernel⟩,
    ⟨tooLoud.foldl act .initial, @reachable_foldl _ _ (fun speaker => speaker = .initial) act .initial rfl tooLoud,
      by decide +kernel, by decide +kernel, by decide +kernel, by decide +kernel⟩⟩

end Jts.ActiveSpeaker
