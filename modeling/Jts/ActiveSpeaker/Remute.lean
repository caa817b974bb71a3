import Jts.ActiveSpeaker.Ramp

set_option autoImplicit false

namespace Jts.ActiveSpeaker

open Shared.Transition (Reachable reachable_foldl reachable_restrict_foldl)

/-- A load that its record does not forget: one that is refused before it is tried finds the anchor, one that is not
confirmed is rolled back inside the lock, one that is cancelled in the graph finds a loaded record, and the hardware
follows one that is confirmed. -/
structure LoadKept (commission : Commission) (target : LoadTarget) (reconcile : Bool) (outside : LoadOutside) : Prop where
  refused : (outside.blocks target || outside.apply.barred) = true → commission.running.graph = none
  left : (!outside.blocks target && outside.apply.tried && outside.apply.left && outside.apply.load ≠ .refused) = true →
    commission.state.status = .loaded
  undone : (!outside.blocks target && outside.apply.tried && !outside.apply.left && outside.apply.unconfirmed) = true →
    outside.apply.rollback ≠ .refused ∨ (outside.apply.load = .refused ∧ commission.running.graph = none) ∨
      outside.apply.stop = some .rollback ∧ (outside.apply.load = .refused ∨ commission.state.status = .loaded)
  reconciled : outside.lands target = true → reconcile = true → outside.reconciles = true

instance {commission : Commission} {target : LoadTarget} {reconcile : Bool} {outside : LoadOutside} :
    Decidable (LoadKept commission target reconcile outside) :=
  decidable_of_iff (_ ∧ _ ∧ _ ∧ _)
    ⟨fun kept => ⟨kept.1, kept.2.1, kept.2.2.1, kept.2.2.2⟩,
      fun kept => ⟨kept.refused, kept.left, kept.undone, kept.reconciled⟩⟩

def RollbackKept (commission : Commission) (outside : RollbackOutside) : Prop :=
  commission.running.graph ≠ none → outside.kept = true

instance {commission : Commission} {outside : RollbackOutside} : Decidable (RollbackKept commission outside) :=
  inferInstanceAs (Decidable (_ → _))

/-- What lies in the graph is what the record says is loaded. -/
def Commission.Recorded (commission : Commission) : Prop :=
  commission.running.graph ≠ none → commission.state.status = .loaded

/-- The rollback inside the lock leaves the anchor, or what the load met, or is cancelled at a loaded record. -/
theorem rollBack_recorded {commission : Commission} {target : LoadTarget} {reconcile reconciles : Bool}
    {candidate : Graph} {outside : ApplyOutside} (recorded : commission.Recorded)
    (undone : outside.rollback ≠ .refused ∨ (outside.load = .refused ∧ commission.running.graph = none) ∨
      outside.stop = some .rollback ∧ (outside.load = .refused ∨ commission.state.status = .loaded)) :
    (recordLoad commission target reconcile reconciles
      (rollBack (commission.running.sent candidate outside.load) true outside)).1.Recorded := by
  have back : (rollBack (commission.running.sent candidate outside.load) true outside).1.graph =
      if outside.rollback = .refused then if outside.load = .refused then commission.running.graph else candidate
      else none := by
    simp only [rollBack, sent_graph, if_true]
  by_cases stop : outside.stop = some .rollback
  · have ends : (rollBack (commission.running.sent candidate outside.load) true outside).2 = .cancelled := by
      simp [rollBack, stop]
    generalize rollBack (commission.running.sent candidate outside.load) true outside = rolled at back ends
    obtain ⟨running, ended⟩ := rolled
    subst ends
    intro dirty
    have dirty : running.graph ≠ none := dirty
    rw [back] at dirty
    simp only [recordLoad, Commission.applied]
    grind [Commission.Recorded]
  · have ends : (rollBack (commission.running.sent candidate outside.load) true outside).2 = .failed := by
      simp [rollBack, stop]
    generalize rollBack (commission.running.sent candidate outside.load) true outside = rolled at back ends
    obtain ⟨running, ended⟩ := rolled
    subst ends
    have clean : running.graph = none := by
      rw [back]
      grind
    exact fun dirty => absurd clean dirty

theorem load_recorded {commission : Commission} {target : LoadTarget} {reconcile : Bool} {outside : LoadOutside}
    (recorded : commission.Recorded) (kept : LoadKept commission target reconcile outside) :
    (loadDriverCommissioningConfig commission target reconcile outside).1.Recorded := by
  by_cases blocks : outside.blocks target = true
  · obtain ⟨status, told, loads, -⟩ := @load_blocked commission target reconcile outside blocks
    rw [loads]
    exact fun dirty => absurd (kept.refused (by simp [blocks])) dirty
  rw [Bool.not_eq_true] at blocks
  rw [load_unblocked blocks]
  by_cases tried : outside.apply.tried = true
  · by_cases left : outside.apply.left = true
    · rw [apply_left tried left]
      by_cases refused : outside.apply.load = .refused
      · simpa [recordLoad, Running.sent, refused, Commission.applied] using recorded
      · exact fun _ => kept.left (by simp [blocks, tried, left, refused])
    rw [Bool.not_eq_true] at left
    by_cases unconfirmed : outside.apply.unconfirmed = true
    · rw [apply_unconfirmed tried left unconfirmed]
      exact rollBack_recorded recorded (kept.undone (by simp [blocks, tried, left, unconfirmed]))
    · rw [Bool.not_eq_true] at unconfirmed
      have reconciled := kept.reconciled (by simp [LoadOutside.lands, blocks, tried, left, unconfirmed])
      rw [apply_lands tried left unconfirmed]
      simp only [recordLoad]
      rw [if_neg (by cases reconcile <;> simp_all)]
      exact fun _ => rfl
  · rw [Bool.not_eq_true] at tried
    obtain ⟨ended, applies, unfinished, barred⟩ :=
      @apply_untried commission.running (some (target.unmuted outside.active)) true outside.apply tried
    rw [applies]
    cases ended with
    | success => exact absurd rfl unfinished
    | failed => exact fun dirty => absurd (kept.refused (by simp [barred rfl])) dirty
    | notAdmitted => exact recorded
    | cancelled => exact recorded

theorem rollback_recorded {commission : Commission} {outside : RollbackOutside} (recorded : commission.Recorded)
    (kept : RollbackKept commission outside) : (rollbackDriverCommissioningConfig commission outside).1.Recorded := by
  obtain ⟨running, ended, rolls, success, back, either⟩ := rollback_ends commission outside
  rw [rolls]
  by_cases clean : running.graph = none
  · intro dirty
    cases ended <;> exact absurd clean dirty
  · have dirty : commission.running.graph ≠ none := by
      rcases either with none_ | same
      · exact absurd none_ clean
      · exact same ▸ clean
    obtain none_ | ⟨cancelled, same⟩ := back (kept dirty)
    · exact absurd none_ clean
    · subst cancelled
      exact fun _ => recorded dirty

/-- The rollbacks that an ack makes. -/
def ackRemutes (speaker : Commissioning) (outcome : Outcome) : Bool :=
  match speaker.ramp.pending with
  | none => false
  | some pending =>
      match ackSafe speaker.safe outcome pending.playbackId with
      | none => false
      | some (_, seen) => (ackVerdict speaker.ramp.confirmedRoles pending seen outcome).remutes

/-- What a step that passes its checks goes on to. -/
def StepKept (speaker : Commissioning) (group : String) (role : Role) (outside : StepOutside) :
    Except (Commissioning × StepStatus) (Commissioning × Option PendingStep × Level) → Prop
  | .error _ => True
  | .ok (_, _, next) =>
      LoadKept speaker.commission ⟨group, role, next⟩ false outside.load ∧
        ((outside.load.lands ⟨group, role, next⟩ && outside.tone = .failed) = true → outside.rollback.kept = true)

instance {speaker : Commissioning} {group : String} {role : Role} {outside : StepOutside} :
    ∀ checks, Decidable (StepKept speaker group role outside checks)
  | .error _ => .isTrue trivial
  | .ok (_, _, _) => inferInstanceAs (Decidable (LoadKept _ _ _ _ ∧ _))

/-- The loads and the rollbacks of a call are not forgotten by the record. -/
def Kept (speaker : Commissioning) : Call → Prop
  | .arm group role outside => LoadKept speaker.commission ⟨group, role, startupMuteGainDb⟩ true outside
  | .step group role autoRetryPending roles outside =>
      StepKept speaker group role outside (stepChecks speaker group role autoRetryPending roles outside)
  | .ack outcome loader => ∀ outside ∈ loader, ackRemutes speaker outcome = true → RollbackKept speaker.commission outside
  | .abort outside | .rollback outside => RollbackKept speaker.commission outside
  | .remute outside => speaker.commission.state.status = .loaded → RollbackKept speaker.commission outside
  | .expire => True

instance {speaker : Commissioning} : ∀ call, Decidable (Kept speaker call)
  | .arm _ _ _ => inferInstanceAs (Decidable (LoadKept _ _ _ _))
  | .step _ _ _ _ _ => inferInstanceAs (Decidable (StepKept _ _ _ _ _))
  | .ack _ none => .isTrue (by simp [Kept])
  | .ack outcome (some outside) =>
      decidable_of_iff (ackRemutes speaker outcome = true → RollbackKept speaker.commission outside) (by simp [Kept])
  | .abort _ | .rollback _ => inferInstanceAs (Decidable (RollbackKept _ _))
  | .remute _ => inferInstanceAs (Decidable (_ → RollbackKept _ _))
  | .expire => .isTrue trivial

@[simp] theorem rolledBack_commission (speaker : Commissioning) (outside : RollbackOutside) :
    (speaker.rolledBack outside).1.commission = (rollbackDriverCommissioningConfig speaker.commission outside).1 := rfl

@[simp] theorem rolledBack_ended (speaker : Commissioning) (outside : RollbackOutside) :
    (speaker.rolledBack outside).2 = (rollbackDriverCommissioningConfig speaker.commission outside).2 := rfl

theorem emitTone_recorded {speaker : Commissioning} {target : PlaybackTarget} {level : Level} {outside : StepOutside}
    (recorded : speaker.commission.Recorded) (kept : outside.tone = .failed → outside.rollback.kept = true) :
    (emitTone speaker target level outside).1.commission.Recorded := by
  unfold emitTone
  cases tone : outside.tone with
  | cancelled => exact recorded
  | failed => exact rollback_recorded recorded fun _ => kept tone
  | notAsked => exact recorded
  | confirmable => exact recorded

theorem loadStep_recorded {speaker : Commissioning} {replaced : Option PendingStep} {target : PlaybackTarget}
    {level : Level} {outside : StepOutside} (recorded : speaker.commission.Recorded)
    (load : LoadKept speaker.commission ⟨target.group, target.role, level⟩ false outside.load)
    (tone : (outside.load.lands ⟨target.group, target.role, level⟩ && outside.tone = .failed) = true →
      outside.rollback.kept = true) :
    (loadStep speaker replaced target level outside).1.commission.Recorded := by
  unfold loadStep
  split
  · exact recorded
  rename_i current
  cases loads : loadDriverCommissioningConfig speaker.commission ⟨target.group, target.role, level⟩ false outside.load with
  | mk commission ended =>
    have after := load_recorded recorded load
    rw [loads] at after
    cases ended with
    | cancelled => exact after
    | raised => exact after
    | returned =>
        simp only [afterLoad, current]
        split
        · exact after
        rename_i loaded
        rw [not_not] at loaded
        have lands := (@load_loaded _ _ _ _ (congrArg Prod.snd loads) (by rw [loads]; exact loaded)).1
        exact emitTone_recorded after fun failed => tone (by simp [lands, failed])

theorem abortRamp_recorded {speaker : Commissioning} {outside : RollbackOutside}
    (recorded : speaker.commission.Recorded) (kept : RollbackKept speaker.commission outside) :
    (abortRamp speaker outside).1.commission.Recorded := by
  have after := rollback_recorded recorded kept
  unfold abortRamp
  dsimp only
  split <;> exact after

theorem settle_recorded {told : Commissioning} {pending : PendingStep} {verdict : Verdict}
    {loader : Option RollbackOutside} (recorded : told.commission.Recorded)
    (kept : ∀ outside ∈ loader, verdict.remutes = true → RollbackKept told.commission outside) :
    (settle told pending verdict loader).1.commission.Recorded := by
  unfold settle
  split
  · exact recorded
  rename_i outside
  split
  · exact recorded
  rename_i remutes
  have after := rollback_recorded recorded (kept outside rfl (by simpa using remutes))
  dsimp only
  split <;> exact after

theorem recordRampOperatorAck_recorded {speaker : Commissioning} {outcome : Outcome} {loader : Option RollbackOutside}
    (recorded : speaker.commission.Recorded)
    (kept : ∀ outside ∈ loader, ackRemutes speaker outcome = true → RollbackKept speaker.commission outside) :
    (recordRampOperatorAck speaker outcome loader).1.commission.Recorded := by
  unfold recordRampOperatorAck
  simp only [ackRemutes] at kept
  split
  · exact recorded
  rename_i pending waits
  rw [waits] at kept
  dsimp only at kept
  split
  · exact recorded
  rename_i stored seen told
  rw [told] at kept
  exact settle_recorded recorded kept

/-- One call keeps the record true to the graph. -/
theorem act_recorded {speaker : Commissioning} {call : Call} (recorded : speaker.commission.Recorded)
    (kept : Kept speaker call) : (act speaker call).commission.Recorded := by
  cases call with
  | arm group role outside => exact load_recorded recorded kept
  | step group role autoRetryPending roles outside =>
      simp only [act, rampAudibleStep]
      simp only [Kept] at kept
      cases checks : stepChecks speaker group role autoRetryPending roles outside with
      | error refused =>
          obtain same | same := stepChecks_error checks <;> simp only [same] <;> exact recorded
      | ok passed =>
          obtain ⟨armed, replaced, next⟩ := passed
          obtain ⟨current, passes⟩ := stepChecks_ok checks
          rw [checks] at kept
          have same : armed.commission = speaker.commission := by rw [passes.armed_eq]
          exact loadStep_recorded (same ▸ recorded) (same ▸ kept.1) kept.2
  | ack outcome loader => exact recordRampOperatorAck_recorded recorded kept
  | abort outside => exact abortRamp_recorded recorded kept
  | remute outside =>
      simp only [act, remuteSteppedDriver]
      split
      · exact recorded
      · rename_i loaded
        exact abortRamp_recorded recorded (kept (not_not.mp loaded))
  | rollback outside =>
      have after := rollback_recorded recorded kept
      simp only [act, commissionRollback]
      split <;> exact after
  | expire => exact recorded

theorem reachable_recorded {speaker : Commissioning} (reached : Reachable (commissioning.restrict Kept) speaker) :
    speaker.commission.Recorded := by
  refine @Reachable.invariant _ _ _ (fun speaker => speaker.commission.Recorded) ?_ ?_ _ reached
  · intro speaker start
    subst start
    exact fun dirty => absurd rfl dirty
  · intro speaker call next recorded move
    rw [move.2]
    exact act_recorded recorded move.1

theorem abortRamp_ended (speaker : Commissioning) (outside : RollbackOutside) :
    (abortRamp speaker outside).1.commission = (rollbackDriverCommissioningConfig speaker.commission outside).1 ∧
      ((abortRamp speaker outside).2 = .cancelled ↔
        (rollbackDriverCommissioningConfig speaker.commission outside).2 = .cancelled) := by
  unfold abortRamp
  dsimp only
  split
  · rename_i cancelled
    exact ⟨rfl, by simpa using cancelled⟩
  · rename_i returned
    exact ⟨rfl, by simpa using returned⟩

/-- Whatever lies in the graph is asked out of it by a re-mute, which answers that there is nothing to do only at the
anchor; and after one that succeeded, another does nothing. -/
theorem remute_is_complete {speaker : Commissioning} (reached : Reachable (commissioning.restrict Kept) speaker)
    (outside : RollbackOutside) :
    let remute := remuteSteppedDriver speaker outside
    (speaker.commission.running.graph ≠ none → remute.2 ≠ .alreadyRemuted ∧
      remute.1.commission.anchorLoads = speaker.commission.anchorLoads + if outside.asks then 1 else 0) ∧
    (remute.2 = .alreadyRemuted → speaker.commission.running.graph = none) ∧
    (remute.2 = .remuted → remute.1.commission.running.graph = none ∧
      ∀ later, remuteSteppedDriver remute.1 later = (remute.1, .alreadyRemuted)) := by
  have recorded := reachable_recorded reached
  by_cases loaded : speaker.commission.state.status = .loaded
  · obtain ⟨same, -⟩ := abortRamp_ended speaker outside
    obtain ⟨running, ended, rolls, success, -, -⟩ := rollback_ends speaker.commission outside
    rw [rolls] at same
    have answers : (remuteSteppedDriver speaker outside).2 ≠ .alreadyRemuted := by
      simp only [remuteSteppedDriver, loaded, ne_eq, not_true_eq_false, if_false]
      split
      · simp
      · split <;> simp
    have after : (remuteSteppedDriver speaker outside).1 = (abortRamp speaker outside).1 := by
      simp [remuteSteppedDriver, loaded]
    refine ⟨fun _ => ⟨answers, ?_⟩, fun idle => absurd idle answers, fun remuted => ?_⟩
    · rw [after, same]
      cases ended <;> rfl
    · have rolled : (abortRamp speaker outside).1.commission.state.status = .rolledBack := by
        simp only [remuteSteppedDriver, loaded, ne_eq, not_true_eq_false, if_false] at remuted
        split at remuted
        · cases remuted
        · split at remuted
          · assumption
          · cases remuted
      rw [after]
      refine ⟨?_, fun later => by simp [remuteSteppedDriver, rolled]⟩
      rw [same] at rolled ⊢
      cases ended with
      | success => exact success rfl
      | failed => cases rolled
      | notAdmitted => cases rolled
      | cancelled => exact absurd (loaded.symm.trans rolled) (by simp)
  · have idle : remuteSteppedDriver speaker outside = (speaker, .alreadyRemuted) := by simp [remuteSteppedDriver, loaded]
    have clean : speaker.commission.running.graph = none := not_not.mp fun dirty => loaded (recorded dirty)
    simp only [idle]
    exact ⟨fun dirty => absurd clean dirty, fun _ => clean, fun impossible => by cases impossible⟩

def ApplyOutside.smooth : ApplyOutside where
  admitted := true
  prepares := true
  validates := true
  load := .done
  confirms := true
  rollback := .done
  stop := none

def LoadOutside.smooth : LoadOutside where
  active := "main"
  pathRead := true
  loadAllowed := true
  anchorExists := true
  anchorPersisted := true
  apply := .smooth
  reconciles := true

def StepOutside.smooth : StepOutside where
  prepares := true
  outputIndex := some 0
  present := [.woofer, .tweeter]
  live := ⟨true, true, true⟩
  ready := true
  load := .smooth
  tone := .confirmable
  lapses := false
  playbackId := 1
  rollback := ⟨true, .smooth⟩

def audibleStep : List Call := [.arm "main" .woofer .smooth, .step "main" .woofer false [] .smooth]

theorem stepped_driver_is_remuted :
    (audibleStep.foldl act .initial).commission.running.graph = some ⟨⟨"main", .woofer⟩, minTestLevelDbfs⟩ ∧
      (remuteSteppedDriver (audibleStep.foldl act .initial) ⟨true, .smooth⟩).1.commission.running.graph = none := by
  have stepped : Reachable (commissioning.restrict Kept) (audibleStep.foldl act .initial) :=
    reachable_restrict_foldl rfl (by decide +kernel)
  exact ⟨by decide +kernel, ((remute_is_complete stepped ⟨true, .smooth⟩).2.2 (by decide +kernel)).1⟩

/-- A driver is audible when the preflight refuses its next step. -/
def blockedStep : List Call :=
  [.arm "main" .woofer .smooth, .step "main" .woofer false [] .smooth, .ack .silent none,
    .step "main" .woofer false [] { StepOutside.smooth with load := { LoadOutside.smooth with loadAllowed := false } }]

/-- The record then says blocked, so a re-mute leaves the driver audible and answers that there is nothing to do. -/
theorem blocked_step_is_not_remuted : ∃ speaker : Commissioning, Reachable commissioning speaker ∧
    speaker.commission.running.graph = some ⟨⟨"main", .woofer⟩, minTestLevelDbfs⟩ ∧
      ∀ outside, remuteSteppedDriver speaker outside = (speaker, .alreadyRemuted) := by
  have blocked : (blockedStep.foldl act .initial).commission.state.status ≠ .loaded := by decide +kernel
  exact ⟨blockedStep.foldl act .initial, @reachable_foldl _ _ (fun speaker => speaker = .initial) act .initial rfl blockedStep, by decide +kernel,
    fun outside => if_pos blocked⟩

end Jts.ActiveSpeaker
