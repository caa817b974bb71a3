import Jts.Voice.MeasurementHold

set_option autoImplicit false

namespace Jts.Voice

open Shared (Coroutine Pool)
open Shared.Coroutine (Agreement Safe Rests Stable ask wait)
open Shared.Transition (Reachable)

namespace Hold

variable (hold : Hold)

def Pending (generation : ℕ) : Prop := hold.phase generation ≠ .absent ∧ hold.phase generation ≠ .done

/-- The window, while no transition is in progress. -/
structure Settled : Prop where
  window : hold.gate.admissionPaused = hold.measurementActive
  backstop : hold.measurementActive = true → hold.safetyTask = some hold.leaseGeneration ∧
    hold.cancelled hold.leaseGeneration = false ∧ hold.Pending hold.leaseGeneration

end Hold

structure Ended.Lawful (ended : Ended) : Prop where
  reopened : ended.verb = .resume ∨ ended.verb = .opening ∧ ended.outcome = .raised →
    ended.admissionPaused = false ∧ ended.measurementActive = false
  drained : ended.verb = .opening → ended.outcome = .ok (some true) → ended.active = none

/-- What a window guarantees to the room and to a measurement. -/
structure Hold.Lawful (hold : Hold) : Prop where
  settled : hold.transitionLock = none → hold.Settled
  expiries : ∀ expiry ∈ hold.expiries, expiry.generation = expiry.leaseGeneration
  ended : ∀ ended ∈ hold.ended, ended.Lawful
  silent : hold.silent = true → hold.gate.admissionPaused = true ∧ hold.gate.active = none
  one : ∀ first ∈ hold.gate.granted, ∀ second ∈ hold.gate.granted, first.episode.id ∉ hold.gate.ended →
    second.episode.id ∉ hold.gate.ended → first = second
  admitted : ∀ grant ∈ hold.gate.granted, grant.admitted = true
  turns : ∀ turn ∈ hold.gate.turns, turn.current = true ∧ ⟨turn.episode, true⟩ ∈ hold.gate.granted

section Agreement

structure HoldInvariant (hold : Hold) : Prop where
  settled : hold.transitionLock = none → hold.Settled
  gate : hold.gate.Sound
  fresh : ∀ generation, hold.leaseGeneration < generation →
    hold.phase generation = .absent ∧ hold.cancelled generation = false
  slot : ∀ generation ∈ hold.safetyTask, generation ≤ hold.leaseGeneration
  silent : hold.silent = true → hold.gate.admissionPaused = true ∧ hold.gate.active = none
  ended : ∀ ended ∈ hold.ended, ended.Lawful
  expiries : ∀ expiry ∈ hold.expiries, expiry.generation = expiry.leaseGeneration

/-- The others leave the window to the holder of the lock, and a running backstop to its own task. -/
structure HoldGrants (other : Option ℕ) (before after : Hold) : Prop where
  owner : ∀ task, before.transitionLock = some task → other ≠ some task →
    after.transitionLock = some task ∧ after.gate.admissionPaused = before.gate.admissionPaused ∧
      after.measurementActive = before.measurementActive ∧ after.leaseGeneration = before.leaseGeneration ∧
      after.safetyTask = before.safetyTask ∧ after.cancelled = before.cancelled ∧
      ∀ generation, before.cancelled generation = false → before.Pending generation → after.Pending generation
  running : ∀ generation task, before.phase generation = .running task → other ≠ some task →
    after.phase generation = .running task

def holdAgreement : Agreement Point Answer Hold where
  invariant := HoldInvariant
  grants := HoldGrants
  resumes _ point answer hold := ready point answer hold = true

variable {me : ℕ} {start hold after : Hold}

theorem HoldGrants.refl (other : Option ℕ) (hold : Hold) : HoldGrants other hold hold :=
  ⟨fun _ held _ => ⟨held, rfl, rfl, rfl, rfl, rfl, fun _ _ pending => pending⟩, fun _ _ runs _ => runs⟩

theorem HoldGrants.trans {other : Option ℕ} {before middle after : Hold} (first : HoldGrants other before middle)
    (second : HoldGrants other middle after) : HoldGrants other before after where
  owner := by
    intro task held differs
    obtain ⟨held, paused, active, generation, slot, cancelled, pending⟩ := first.owner task held differs
    obtain ⟨held, paused', active', generation', slot', cancelled', pending'⟩ := second.owner task held differs
    exact ⟨held, paused'.trans paused, active'.trans active, generation'.trans generation, slot'.trans slot,
      cancelled'.trans cancelled, fun each lives waits => pending' each (by rw [cancelled, lives]) (pending each lives waits)⟩
  running := fun generation task runs differs =>
    second.running generation task (first.running generation task runs differs) differs

theorem rests_refl (invariant : HoldInvariant hold) : Rests holdAgreement me hold hold := ⟨.refl _ _, invariant⟩

theorem rests_step (rests : Rests holdAgreement me start hold) (grants : HoldGrants (some me) hold after)
    (invariant : HoldInvariant after) : Rests holdAgreement me start after := ⟨rests.1.trans grants, invariant⟩

/-- The holder of the lock may do anything to the window, and leaves the running backstops. -/
theorem rests_owned (rests : Rests holdAgreement me start hold) (mine : hold.transitionLock = some me)
    (running : ∀ generation task, hold.phase generation = .running task → task ≠ me → after.phase generation = .running task)
    (invariant : HoldInvariant after) : Rests holdAgreement me start after := by
  refine rests_step rests ⟨fun task held differs => ?_, fun generation task runs differs => ?_⟩ invariant
  · exact absurd (mine.symm.trans held) differs
  · exact running generation task runs fun same => differs (congrArg some same.symm)

theorem rests_lock (rests : Rests holdAgreement me start hold) (free : hold.transitionLock = none) :
    Rests holdAgreement me start (hold.lock me) :=
  rests_step rests ⟨fun task held => by simp [free] at held, fun _ _ runs _ => runs⟩ { rests.2 with settled := nofun }

theorem rests_cancel (rests : Rests holdAgreement me start hold) (mine : hold.transitionLock = some me) {generation : ℕ}
    (known : generation ≤ hold.leaseGeneration) : Rests holdAgreement me start (hold.cancel generation) := by
  refine rests_owned rests mine (fun _ _ runs _ => runs) { rests.2 with settled := ?_, fresh := ?_ }
  · intro free
    exact nomatch mine.symm.trans free
  · intro other later
    have newer : other ≠ generation := Nat.ne_of_gt (Nat.lt_of_le_of_lt known later)
    have fresh := rests.2.fresh other later
    simpa [Hold.cancel, newer] using fresh

theorem rests_vacate (rests : Rests holdAgreement me start hold) (mine : hold.transitionLock = some me) (generation : ℕ) :
    Rests holdAgreement me start (hold.vacate generation) := by
  unfold Hold.vacate
  split_ifs
  · refine rests_owned rests mine (fun _ _ runs _ => runs) { rests.2 with settled := ?_, slot := nofun }
    intro free
    exact nomatch mine.symm.trans free
  · exact rests

theorem rests_close (rests : Rests holdAgreement me start hold) (mine : hold.transitionLock = some me) :
    Rests holdAgreement me start hold.close := by
  obtain ⟨paused, active⟩ := hold.gate.pauseAdmission_paused
  refine rests_owned rests mine (fun _ _ runs _ => runs)
    { rests.2 with settled := ?_, gate := rests.2.gate.pauseAdmission, silent := ?_ }
  · intro free
    exact nomatch mine.symm.trans free
  · intro silent
    exact ⟨paused, active.trans (rests.2.silent silent).2⟩

theorem rests_reopen (rests : Rests holdAgreement me start hold) (mine : hold.transitionLock = some me) :
    Rests holdAgreement me start hold.reopen := by
  refine rests_owned rests mine (fun _ _ runs _ => runs)
    { rests.2 with settled := ?_, gate := rests.2.gate.resumeAdmission, silent := nofun }
  intro free
  exact nomatch mine.symm.trans free

theorem rests_arm (rests : Rests holdAgreement me start hold) (mine : hold.transitionLock = some me) :
    Rests holdAgreement me start hold.armSafetyLocked := by
  refine rests_owned rests mine ?_ { rests.2 with settled := ?_, fresh := ?_, slot := ?_ }
  · intro generation task runs _
    have known : generation ≠ hold.leaseGeneration + 1 := by
      rintro rfl
      rw [(rests.2.fresh _ (Nat.lt_succ_self _)).1] at runs
      cases runs
    simpa [Hold.armSafetyLocked, known] using runs
  · intro free
    exact nomatch mine.symm.trans free
  · intro generation later
    have newer : hold.leaseGeneration + 1 < generation := later
    have fresh := rests.2.fresh generation (by omega)
    simpa [Hold.armSafetyLocked, Nat.ne_of_gt newer] using fresh
  · intro generation same
    obtain rfl := Option.some.inj same
    exact Nat.le_refl _

theorem rests_invalidate (rests : Rests holdAgreement me start hold) (mine : hold.transitionLock = some me) :
    Rests holdAgreement me start hold.invalidate := by
  refine rests_owned rests mine (fun _ _ runs _ => runs) { rests.2 with settled := ?_, fresh := ?_, slot := nofun }
  · intro free
    exact nomatch mine.symm.trans free
  · intro generation later
    exact rests.2.fresh generation (Nat.lt_trans (Nat.lt_succ_self _) later)

theorem rests_expire (rests : Rests holdAgreement me start hold) (mine : hold.transitionLock = some me) :
    Rests holdAgreement me start (hold.expire hold.leaseGeneration) := by
  refine rests_owned rests mine (fun _ _ runs _ => runs) { rests.2 with settled := ?_, expiries := ?_ }
  · intro free
    exact nomatch mine.symm.trans free
  · intro expiry among
    rcases List.mem_cons.mp among with rfl | before
    · rfl
    · exact rests.2.expiries expiry before

theorem rests_finish (rests : Rests holdAgreement me start hold) (mine : hold.transitionLock = some me)
    (settled : hold.Settled) {verb : HoldVerb} {outcome : Outcome}
    (lawful : Ended.Lawful ⟨verb, outcome, hold.gate.admissionPaused, hold.measurementActive, hold.gate.active⟩)
    (closed : verb = .opening → hold.gate.admissionPaused = true ∨ outcome = .raised) :
    Rests holdAgreement me start (hold.finish verb outcome) := by
  refine rests_owned rests mine (fun _ _ runs _ => runs)
    { rests.2 with settled := fun _ => ⟨settled.window, settled.backstop⟩, silent := ?_, ended := ?_ }
  · intro silent
    rcases Bool.or_eq_true_iff.mp silent with before | now
    · exact rests.2.silent before
    · obtain ⟨opening, answered⟩ := of_decide_eq_true now
      refine ⟨(closed opening).resolve_right ?_, lawful.drained opening answered⟩
      rw [answered]
      exact nofun
  · intro ended among
    rcases List.mem_cons.mp among with rfl | before
    · exact lawful
    · exact rests.2.ended ended before

end Agreement

section Transitions

variable {me : ℕ} {start hold : Hold} {β : Type} {post : β → Hold → Hold → Prop}

theorem getHoldThen {next : Hold → Task β} (here : Safe holdAgreement me (next hold) post start hold) :
    Safe holdAgreement me (getHold >>= next) post start hold := here

theorem changeThen {effect : Hold → Hold} {next : Unit → Task β}
    (here : Safe holdAgreement me (next ()) post start (effect hold)) :
    Safe holdAgreement me (change effect >>= next) post start hold := here

/-- The window is in this transition's hands. -/
def Owned (me : ℕ) (hold : Hold) : Prop := hold.transitionLock = some me

/-- The window stands open to output, and no measurement is on. -/
def Reopened (me : ℕ) (hold : Hold) : Prop :=
  hold.transitionLock = some me ∧ hold.gate.admissionPaused = false ∧ hold.measurementActive = false

/-- The window is closed, and the backstop of its generation is in the slot. The older ones stay below. -/
def Armed (me older : ℕ) (hold : Hold) : Prop :=
  hold.transitionLock = some me ∧ hold.gate.admissionPaused = true ∧ hold.measurementActive = true ∧
    hold.safetyTask = some hold.leaseGeneration ∧ hold.cancelled hold.leaseGeneration = false ∧
    hold.Pending hold.leaseGeneration ∧ older < hold.leaseGeneration

theorem owned_stable : Stable holdAgreement me (Owned me) :=
  fun _ _ _ differs _ _ grants held => (grants.owner me held differs).1

theorem reopened_stable : Stable holdAgreement me (Reopened me) := by
  rintro other before after differs - - grants ⟨held, paused, active⟩
  obtain ⟨held, paused', active', -⟩ := grants.owner me held differs
  exact ⟨held, paused'.trans paused, active'.trans active⟩

theorem armed_stable (older : ℕ) : Stable holdAgreement me (Armed me older) := by
  rintro other before after differs - - grants ⟨held, paused, active, slot, lives, pending, below⟩
  obtain ⟨held, paused', active', generation', slot', cancelled', pending'⟩ := grants.owner me held differs
  refine ⟨held, paused'.trans paused, active'.trans active, ?_, ?_, ?_, ?_⟩
  · rw [slot', slot, generation']
  · rw [cancelled', generation', lives]
  · exact generation' ▸ pending' _ lives pending
  · exact generation' ▸ below

theorem Armed.settled {older : ℕ} (armed : Armed me older hold) : hold.Settled := by
  obtain ⟨-, paused, active, slot, lives, pending, -⟩ := armed
  exact ⟨paused.trans active.symm, fun _ => ⟨slot, lives, pending⟩⟩

theorem Reopened.settled (reopened : Reopened me hold) : hold.Settled := by
  obtain ⟨-, paused, active⟩ := reopened
  exact ⟨paused.trans active.symm, fun measures => nomatch active.symm.trans measures⟩

theorem Armed.cancel {older : ℕ} (armed : Armed me older hold) : Armed me older (hold.cancel older) := by
  obtain ⟨held, paused, active, slot, lives, pending, below⟩ := armed
  refine ⟨held, paused, active, slot, ?_, pending, below⟩
  rw [← lives]
  exact Function.update_of_ne (Nat.ne_of_gt below) _ _

theorem Armed.vacate {older : ℕ} (armed : Armed me older hold) : Armed me older (hold.vacate older) := by
  have other : hold.safetyTask ≠ some older := by
    rw [armed.2.2.2.1]
    exact fun same => Nat.ne_of_gt armed.2.2.2.2.2.2 (Option.some.inj same)
  rw [Hold.vacate, if_neg other]
  exact armed

theorem Reopened.vacate {generation : ℕ} (reopened : Reopened me hold) : Reopened me (hold.vacate generation) := by
  unfold Hold.vacate
  split_ifs <;> exact reopened

theorem Owned.vacate {generation : ℕ} (owned : Owned me hold) : Owned me (hold.vacate generation) := by
  unfold Hold.vacate
  split_ifs <;> exact owned

/-- A transition takes the lock of a settled window. -/
theorem acquire_safe (rests : Rests holdAgreement me start hold) (backstop : Option ℕ) {Kept : Hold → Prop}
    (stable : Stable holdAgreement me Kept) (kept : Kept hold) (locks : ∀ hold, Kept hold → Kept (hold.lock me)) :
    Safe holdAgreement me (acquire me backstop)
      (fun acquired start hold => Rests holdAgreement me start hold ∧ Kept hold ∧
        (acquired = true → Owned me hold ∧ hold.Settled) ∧
        (acquired = false → ∀ generation ∈ backstop, hold.cancelled generation = true)) start hold := by
  refine getHoldThen ?_
  split
  · rename_i free
    have free := Option.isNone_iff_eq_none.mp free
    have settled := rests.2.settled free
    exact changeThen ⟨rests_lock rests free, locks _ kept, fun _ => ⟨rfl, settled.window, settled.backstop⟩, nofun⟩
  · refine .bind (.ask rests Kept stable kept fun later answer invariant kept resumes => ?_)
    change ready _ _ _ = true at resumes
    split
    · rename_i done
      have free : later.transitionLock = none := by
        rw [done] at resumes
        cases backstop <;> simp_all [ready]
      have settled := invariant.settled free
      exact changeThen ⟨rests_lock (rests_refl invariant) free, locks _ kept,
        fun _ => ⟨rfl, settled.window, settled.backstop⟩, nofun⟩
    · rename_i refused
      refine ⟨rests_refl invariant, kept, nofun, fun _ generation same => ?_⟩
      obtain rfl : backstop = some generation := same
      cases answer <;> simp_all [ready]

/-- What the joining transition relies on survives the cancel and the join. -/
theorem cancelSafetyLocked_safe (rests : Rests holdAgreement me start hold) (previous : Option ℕ) {Kept : Hold → Prop}
    (stable : Stable holdAgreement me Kept) (kept : Kept hold) (owned : ∀ hold, Kept hold → Owned me hold)
    (known : ∀ generation ∈ previous, generation ≤ hold.leaseGeneration)
    (cancels : ∀ generation ∈ previous, ∀ hold, Kept hold → Kept (hold.cancel generation))
    (vacates : ∀ generation ∈ previous, ∀ hold, Kept hold → Kept (hold.vacate generation)) :
    Safe holdAgreement me (cancelSafetyLocked previous)
      (fun _ start hold => Rests holdAgreement me start hold ∧ Kept hold) start hold := by
  cases previous with
  | none => exact ⟨rests, kept⟩
  | some generation =>
    have cancelled := rests_cancel rests (owned _ kept) (known generation rfl)
    have still := cancels generation rfl hold kept
    refine changeThen (getHoldThen ?_)
    split
    · exact changeThen ⟨rests_vacate cancelled (owned _ still) generation, vacates generation rfl _ still⟩
    · refine .bind (.ask cancelled Kept stable still fun later answer invariant kept _ => ?_)
      have here := @rests_refl me later invariant
      split
      · exact changeThen ⟨rests_vacate here (owned _ kept) generation, vacates generation rfl _ kept⟩
      · exact ⟨here, kept⟩

theorem awaitPauseStep_safe (rests : Rests holdAgreement me start hold) {older : ℕ} (armed : Armed me older hold)
    (fails : List PauseStep) (step : PauseStep) :
    Safe holdAgreement me (awaitPauseStep fails step)
      (fun _ start hold => Rests holdAgreement me start hold ∧ Armed me older hold) start hold := by
  unfold awaitPauseStep
  split_ifs
  · exact ⟨rests, armed⟩
  · exact .bind (.ask rests _ (armed_stable older) armed fun _ _ invariant armed _ => ⟨rests_refl invariant, armed⟩)

theorem reopen_reopened (owned : Owned me hold) : Reopened me hold.reopen :=
  ⟨owned, hold.gate.resumeAdmission_open.1, rfl⟩

theorem restoreState_safe (rests : Rests holdAgreement me start hold) (owned : Owned me hold) (rollback resumeMeter : Bool)
    {Kept : Hold → Prop} (stable : Stable holdAgreement me Kept) (kept : Kept hold.reopen) :
    Safe holdAgreement me (restoreState rollback resumeMeter)
      (fun _ start hold => Rests holdAgreement me start hold ∧ Reopened me hold ∧ Kept hold) start hold := by
  have both : Stable holdAgreement me fun hold => Reopened me hold ∧ Kept hold :=
    fun other before after differs invariant still grants ⟨reopened, kept⟩ =>
      ⟨reopened_stable other before after differs invariant still grants reopened,
        stable other before after differs invariant still grants kept⟩
  have reopened := rests_reopen rests owned
  refine changeThen ?_
  split
  · refine .bind (.wait reopened _ both ⟨reopen_reopened owned, kept⟩ fun later _ invariant holds _ => ?_)
    refine .bind (.when (fun _ => ?_) fun _ => ⟨rests_refl invariant, holds⟩)
    exact .wait (rests_refl invariant) _ both holds fun _ _ invariant holds _ => ⟨rests_refl invariant, holds⟩
  · refine .bind (.ask reopened _ both ⟨reopen_reopened owned, kept⟩ fun later meter invariant holds _ => ?_)
    split
    · exact ⟨rests_refl invariant, holds⟩
    · exact .bind (.ask (rests_refl invariant) _ both holds fun _ _ invariant holds _ => ⟨rests_refl invariant, holds⟩)

theorem true_stable : Stable holdAgreement me fun _ => True := fun _ _ _ _ _ _ _ _ => trivial

theorem restoreOwned_safe (rests : Rests holdAgreement me start hold) (owned : Owned me hold) (rollback resumeMeter : Bool) :
    Safe holdAgreement me (restoreOwned rollback resumeMeter)
      (fun _ start hold => Rests holdAgreement me start hold ∧ Reopened me hold) start hold := by
  refine .bind (.ask rests _ owned_stable owned fun later begun invariant owned _ => .bind ?_)
  exact (restoreState_safe (rests_refl invariant) owned rollback resumeMeter true_stable trivial).mono
    fun _ _ _ ⟨rests, reopened, _⟩ => ⟨rests, reopened⟩

/-- Invalidate the lease, join its backstop and reopen. -/
theorem invalidated_safe (rests : Rests holdAgreement me start hold) (owned : Owned me hold) :
    Safe holdAgreement me (cancelSafetyLocked hold.safetyTask)
      (fun _ start hold => Rests holdAgreement me start hold ∧ Owned me hold) start hold.invalidate := by
  refine cancelSafetyLocked_safe (rests_invalidate rests owned) hold.safetyTask owned_stable owned (fun _ => id) ?_
    (fun _ _ _ owned => owned) (fun _ _ _ owned => owned.vacate)
  exact fun generation same => Nat.le_succ_of_le (rests.2.slot generation same)

theorem rollbackOpenLocked_safe (rests : Rests holdAgreement me start hold) (owned : Owned me hold) (resumeMeter : Bool) :
    Safe holdAgreement me (rollbackOpenLocked resumeMeter)
      (fun _ start hold => Rests holdAgreement me start hold ∧ Reopened me hold) start hold := by
  refine getHoldThen (changeThen (.bind ((invalidated_safe rests owned).mono ?_)))
  rintro - start hold ⟨rests, owned⟩
  exact .bind ((restoreOwned_safe rests owned true resumeMeter).mono fun _ _ _ ends => ends)

theorem finish_safe {verb : HoldVerb} {outcome : Outcome} (rests : Rests holdAgreement me start hold)
    (mine : hold.transitionLock = some me) (settled : hold.Settled)
    (lawful : Ended.Lawful ⟨verb, outcome, hold.gate.admissionPaused, hold.measurementActive, hold.gate.active⟩)
    (closed : verb = .opening → hold.gate.admissionPaused = true ∨ outcome = .raised) :
    Safe holdAgreement me (finish verb outcome) (fun _ => Rests holdAgreement me) start hold :=
  rests_finish rests mine settled lawful closed

theorem finish_reopened (rests : Rests holdAgreement me start hold) (reopened : Reopened me hold) :
    Safe holdAgreement me (finish .opening .raised) (fun _ => Rests holdAgreement me) start hold :=
  finish_safe rests reopened.1 reopened.settled ⟨fun _ => reopened.2, nofun⟩ fun _ => .inr rfl

theorem drainInflight_safe (rests : Rests holdAgreement me start hold) {older : ℕ} (armed : Armed me older hold) :
    Safe holdAgreement me drainInflight (fun setup start hold => Rests holdAgreement me start hold ∧
      Armed me older hold ∧ (setup = .drained true → hold.gate.active = none)) start hold := by
  refine getHoldThen ?_
  split
  · rename_i idle
    exact ⟨rests, armed, fun _ => Option.isNone_iff_eq_none.mp idle⟩
  · refine .bind (.ask rests _ (armed_stable older) armed fun later answer invariant armed resumes => ?_)
    change ready _ _ _ = true at resumes
    have here := @rests_refl me later invariant
    split
    · rename_i done
      rw [done] at resumes
      exact ⟨here, armed, fun _ => Option.isNone_iff_eq_none.mp resumes⟩
    · split
      · exact ⟨here, armed, nofun⟩
      · exact ⟨here, armed, nofun⟩

theorem setUp_safe (rests : Rests holdAgreement me start hold) {older : ℕ} (armed : Armed me older hold)
    (fails : List PauseStep) :
    Safe holdAgreement me (setUp fails) (fun setup start hold => Rests holdAgreement me start hold ∧
      Armed me older hold ∧ (setup = .drained true → hold.gate.active = none)) start hold := by
  refine .bind ((awaitPauseStep_safe rests armed fails .volumeGuard).mono ?_)
  rintro volume start hold ⟨rests, armed⟩
  split
  · refine .bind ((awaitPauseStep_safe rests armed fails .ttsConnection).mono ?_)
    rintro connection start hold ⟨rests, armed⟩
    split
    · refine .bind ((awaitPauseStep_safe rests armed fails .contentMeter).mono ?_)
      rintro meter start hold ⟨rests, armed⟩
      split
      · exact drainInflight_safe rests armed
      · exact ⟨rests, armed, nofun⟩
    · exact ⟨rests, armed, nofun⟩
  · exact ⟨rests, armed, nofun⟩

theorem conclude_safe (rests : Rests holdAgreement me start hold) {setup : Setup} (owned : Owned me hold)
    (armed : ∀ drained, setup = .drained drained → Armed me 0 hold)
    (silent : setup = .drained true → hold.gate.active = none) :
    Safe holdAgreement me (conclude setup) (fun _ => Rests holdAgreement me) start hold := by
  cases setup with
  | drained drained =>
    have armed := armed drained rfl
    refine finish_safe rests owned armed.settled ⟨fun reopens => ?_, fun _ answered => silent ?_⟩ fun _ => .inl armed.2.1
    · rcases reopens with resumed | ⟨-, raised⟩
      · cases resumed
      · cases raised
    · simp only [Outcome.ok.injEq, Option.some.injEq] at answered
      rw [answered]
  | failed meterPaused =>
    refine .bind ((rollbackOpenLocked_safe rests owned meterPaused).mono ?_)
    rintro - start hold ⟨rests, reopened⟩
    exact finish_reopened rests reopened

theorem opening_safe (rests : Rests holdAgreement me start hold) (reopened : Reopened me hold) (fails : List PauseStep) :
    Safe holdAgreement me (opening fails) (fun _ => Rests holdAgreement me) start hold := by
  have cancels : ∀ generation ∈ hold.safetyTask, ∀ hold, Reopened me hold → Reopened me (hold.cancel generation) :=
    fun _ _ _ reopened => reopened
  refine getHoldThen (.bind ((cancelSafetyLocked_safe rests hold.safetyTask reopened_stable reopened
    (fun _ reopened => reopened.1) rests.2.slot cancels fun _ _ _ reopened => reopened.vacate).mono ?_))
  rintro orphan start hold ⟨rests, reopened⟩
  split
  · exact finish_reopened rests reopened
  · have closed := rests_close rests reopened.1
    have paused := hold.gate.pauseAdmission_paused.1
    refine changeThen ?_
    split
    · exact conclude_safe closed reopened.1 nofun nofun
    · have fresh := rests.2.fresh _ (Nat.lt_succ_self _)
      have armed : Armed me 0 hold.close.armSafetyLocked := by
        refine ⟨reopened.1, paused, rfl, rfl, fresh.2, ?_, Nat.succ_pos _⟩
        simp [Hold.Pending, Hold.armSafetyLocked]
      refine changeThen (.bind ((setUp_safe (rests_arm closed reopened.1) armed fails).mono ?_))
      rintro setup start hold ⟨rests, armed, silent⟩
      exact conclude_safe rests armed.1 (fun _ _ => armed) silent

theorem finish_renewal (rests : Rests holdAgreement me start hold) {older : ℕ} (armed : Armed me older hold) (outcome : Outcome) :
    Safe holdAgreement me (finish .renewal outcome) (fun _ => Rests holdAgreement me) start hold := by
  refine finish_safe rests armed.1 armed.settled ⟨fun reopens => ?_, nofun⟩ nofun
  rcases reopens with resumed | ⟨opened, -⟩
  · cases resumed
  · cases opened

/-- A renewal only ever puts a new backstop in the place of the old one. -/
theorem renewal_safe (rests : Rests holdAgreement me start hold) (owned : Owned me hold) (settled : hold.Settled)
    (measures : hold.measurementActive = true) (fails : List PauseStep) :
    Safe holdAgreement me (renewal fails) (fun _ => Rests holdAgreement me) start hold := by
  obtain ⟨slot, -, -⟩ := settled.backstop measures
  have fresh := rests.2.fresh _ (Nat.lt_succ_self _)
  have armed : Armed me hold.leaseGeneration hold.armSafetyLocked := by
    refine ⟨owned, settled.window.trans measures, measures, rfl, fresh.2, ?_, Nat.lt_succ_self _⟩
    simp [Hold.Pending, Hold.armSafetyLocked]
  have older (generation : ℕ) (same : generation ∈ hold.safetyTask) : generation = hold.leaseGeneration :=
    Option.some.inj (same.symm.trans slot)
  refine getHoldThen (changeThen (.bind ((cancelSafetyLocked_safe (rests_arm rests owned) hold.safetyTask (armed_stable _) armed
    (fun _ armed => armed.1) ?_ ?_ ?_).mono ?_)))
  · exact fun generation same => older generation same ▸ Nat.le_succ _
  · exact fun generation same _ armed => older generation same ▸ armed.cancel
  · exact fun generation same _ armed => older generation same ▸ armed.vacate
  · rintro joined start hold ⟨rests, armed⟩
    split
    · exact finish_renewal rests armed .raised
    · refine .bind ((awaitPauseStep_safe rests armed fails .volumeGuard).mono ?_)
      rintro volume start hold ⟨rests, armed⟩
      split
      · refine .bind ((awaitPauseStep_safe rests armed fails .contentMeter).mono ?_)
        rintro meter start hold ⟨rests, armed⟩
        split
        · exact finish_renewal rests armed _
        · exact finish_renewal rests armed _
      · exact finish_renewal rests armed _

theorem pauseDetailed_safe (invariant : HoldInvariant hold) (fails : List PauseStep) :
    Safe holdAgreement me (pauseDetailed me fails) (fun _ => Rests holdAgreement me) hold hold := by
  refine .bind ((acquire_safe (rests_refl invariant) none true_stable trivial fun _ _ => trivial).mono ?_)
  rintro acquired start hold ⟨rests, -, taken, -⟩
  split
  · rename_i held
    obtain ⟨owned, settled⟩ := taken held
    refine getHoldThen ?_
    split
    · exact finish_safe rests owned settled ⟨by simp, nofun⟩ nofun
    · split
      · rename_i measures
        exact renewal_safe rests owned settled measures fails
      · rename_i measures
        have measures : hold.measurementActive = false := by simpa using measures
        exact opening_safe rests ⟨owned, settled.window.trans measures, measures⟩ fails
  · exact rests

theorem resume_safe (invariant : HoldInvariant hold) :
    Safe holdAgreement me (resume me) (fun _ => Rests holdAgreement me) hold hold := by
  refine .bind ((acquire_safe (rests_refl invariant) none true_stable trivial fun _ _ => trivial).mono ?_)
  rintro acquired start hold ⟨rests, -, taken, -⟩
  split
  · rename_i held
    refine getHoldThen (changeThen (.bind ((invalidated_safe rests (taken held).1).mono ?_)))
    rintro joined start hold ⟨rests, owned⟩
    refine .bind ((restoreOwned_safe rests owned false true).mono ?_)
    rintro failed start hold ⟨rests, reopened⟩
    exact finish_safe rests reopened.1 reopened.settled ⟨fun _ => reopened.2, nofun⟩ nofun
  · exact rests

/-- The backstop runs under this task. -/
def Runs (me generation : ℕ) (hold : Hold) : Prop := hold.phase generation = .running me

theorem runs_stable (generation : ℕ) : Stable holdAgreement me (Runs me generation) :=
  fun _ _ _ differs _ _ grants runs => grants.running generation me runs differs

theorem Runs.known {generation : ℕ} (runs : Runs me generation hold) (invariant : HoldInvariant hold) :
    generation ≤ hold.leaseGeneration := by
  by_contra newer
  rw [Runs, (invariant.fresh generation (Nat.lt_of_not_le newer)).1] at runs
  cases runs

/-- A backstop ends when it is cancelled, or under the lock with the window settled. -/
theorem rests_ended {generation : ℕ} (rests : Rests holdAgreement me start hold) (runs : Runs me generation hold)
    (ends : hold.cancelled generation = true) : Rests holdAgreement me start (hold.setPhase generation .done) := by
  have others {other : ℕ} (differs : other ≠ generation) :
      (hold.setPhase generation .done).phase other = hold.phase other := Function.update_of_ne differs _ _
  have pending {other : ℕ} (lives : hold.cancelled other = false) (waits : hold.Pending other) :
      (hold.setPhase generation .done).Pending other := by
    have differs : other ≠ generation := by
      rintro rfl
      exact nomatch ends.symm.trans lives
    rwa [Hold.Pending, others differs]
  refine rests_step rests ⟨fun task held _ => ⟨held, rfl, rfl, rfl, rfl, rfl, fun _ lives waits => pending lives waits⟩, ?_⟩
    { rests.2 with settled := ?_, fresh := ?_ }
  · intro other task runs' differs
    rw [others]
    · exact runs'
    · rintro rfl
      exact differs (congrArg some (BackstopPhase.running.inj (runs.symm.trans runs')))
  · intro free
    obtain ⟨window, backstop⟩ := rests.2.settled free
    refine ⟨window, fun measures => ?_⟩
    obtain ⟨slot, lives, waits⟩ := backstop measures
    exact ⟨slot, lives, pending lives waits⟩
  · intro other later
    rw [others (Nat.ne_of_gt (Nat.lt_of_le_of_lt (runs.known rests.2) later))]
    exact rests.2.fresh other later

theorem rests_created {generation : ℕ} (invariant : HoldInvariant hold) (created : hold.phase generation = .created) :
    Rests holdAgreement me hold (hold.setPhase generation (.running me)) := by
  have known : generation ≤ hold.leaseGeneration := by
    by_contra newer
    rw [(invariant.fresh generation (Nat.lt_of_not_le newer)).1] at created
    cases created
  have pending {other : ℕ} (waits : hold.Pending other) : (hold.setPhase generation (.running me)).Pending other := by
    by_cases same : other = generation
    · subst same
      simp [Hold.Pending, Hold.setPhase]
    · simpa [Hold.Pending, Hold.setPhase, same] using waits
  refine rests_step (rests_refl invariant)
    ⟨fun task held _ => ⟨held, rfl, rfl, rfl, rfl, rfl, fun _ _ waits => pending waits⟩, ?_⟩
    { invariant with settled := ?_, fresh := ?_ }
  · intro other task runs _
    have differs : other ≠ generation := by
      rintro rfl
      rw [created] at runs
      cases runs
    simpa [Hold.setPhase, differs] using runs
  · intro free
    obtain ⟨window, backstop⟩ := invariant.settled free
    refine ⟨window, fun measures => ?_⟩
    obtain ⟨slot, lives, waits⟩ := backstop measures
    exact ⟨slot, lives, pending waits⟩
  · intro other later
    have differs := Nat.ne_of_gt (Nat.lt_of_le_of_lt known later)
    simpa [Hold.setPhase, differs] using invariant.fresh other later

theorem rests_released {generation : ℕ} (rests : Rests holdAgreement me start hold) (owned : Owned me hold)
    (runs : Runs me generation hold) (settled : (hold.setPhase generation .done).Settled) :
    Rests holdAgreement me start (hold.setPhase generation .done).unlock := by
  refine rests_owned rests owned ?_ { rests.2 with settled := fun _ => ⟨settled.window, settled.backstop⟩, fresh := ?_ }
  · intro other task runs' differs
    have apart : other ≠ generation := by
      rintro rfl
      exact differs (BackstopPhase.running.inj (runs'.symm.trans runs))
    simpa [Hold.setPhase, Hold.unlock, apart] using runs'
  · intro other later
    have differs := Nat.ne_of_gt (Nat.lt_of_le_of_lt (runs.known rests.2) later)
    simpa [Hold.setPhase, Hold.unlock, differs] using rests.2.fresh other later

/-- The backstop of an older lease finds itself stale under the lock; the one of this lease clears the window and leaves. -/
theorem expiry_safe {generation : ℕ} (rests : Rests holdAgreement me start hold) (owned : Owned me hold)
    (settled : hold.Settled) (runs : Runs me generation hold) :
    Safe holdAgreement me (do
      let hold ← getHold
      if generation = hold.leaseGeneration ∧ hold.safetyTask = some generation ∧ hold.measurementActive then
        change (·.expire generation)
        let _ ← restoreState false true
        change fun hold => ((hold.vacate generation).setPhase generation .done).unlock
      else change fun hold => (hold.setPhase generation .done).unlock)
      (fun _ => Rests holdAgreement me) start hold := by
  refine getHoldThen ?_
  split
  · rename_i current
    have expired := rests_expire rests owned
    rw [← current.1] at expired
    refine changeThen (.bind ((restoreState_safe expired owned false true (runs_stable generation) runs).mono ?_))
    rintro - start hold ⟨rests, reopened, runs⟩
    have left : Reopened me (hold.vacate generation) := reopened.vacate
    refine rests_released (rests_vacate rests reopened.1 generation) left.1 ?_ ?_
    · unfold Hold.vacate
      split_ifs <;> exact runs
    · have closed := left.2.2
      exact ⟨left.2.1.trans closed.symm, fun measures => nomatch closed.symm.trans measures⟩
  · rename_i stale
    refine rests_released rests owned runs ⟨settled.window, fun measures => ?_⟩
    obtain ⟨slot, lives, waits⟩ := settled.backstop measures
    have differs : hold.leaseGeneration ≠ generation := fun same => stale ⟨same.symm, same ▸ slot, measures⟩
    refine ⟨slot, lives, ?_⟩
    simpa [Hold.Pending, Hold.setPhase, differs] using waits

theorem autoClear_safe (invariant : HoldInvariant hold) (generation : ℕ) :
    Safe holdAgreement me (autoClear me generation) (fun _ => Rests holdAgreement me) hold hold := by
  refine getHoldThen ?_
  split
  · rename_i created
    have runs : Runs me generation (hold.setPhase generation (.running me)) := by simp [Runs, Hold.setPhase]
    refine changeThen (.bind (.ask (rests_created invariant created) _ (runs_stable generation) runs ?_))
    intro later slept invariant runs resumes
    change ready _ _ _ = true at resumes
    split
    · refine .bind ((acquire_safe (rests_refl invariant) (some generation) (runs_stable generation) runs fun _ => id).mono ?_)
      rintro acquired start hold ⟨rests, runs, taken, refused⟩
      split
      · rename_i held
        obtain ⟨owned, settled⟩ := taken held
        exact expiry_safe rests owned settled runs
      · rename_i missed
        exact rests_ended rests runs (refused (by simpa using missed) generation rfl)
    · rename_i cut
      refine rests_ended (rests_refl invariant) runs ?_
      cases slept <;> simp_all [ready]
  · exact rests_refl invariant

theorem perform_safe (invariant : HoldInvariant hold) (program : Program) :
    Safe holdAgreement me (perform me program) (fun _ => Rests holdAgreement me) hold hold := by
  cases program with
  | pause fails => exact pauseDetailed_safe invariant fails
  | resume => exact resume_safe invariant
  | autoClear generation => exact autoClear_safe invariant generation

theorem event_safe (invariant : HoldInvariant hold) (event : Event) :
    HoldInvariant (event.apply hold) ∧ HoldGrants none hold (event.apply hold) := by
  cases event with
  | session active =>
    refine ⟨{ invariant with settled := fun free => ⟨(invariant.settled free).1, (invariant.settled free).2⟩ }, ?_⟩
    exact ⟨fun task held _ => ⟨held, rfl, rfl, rfl, rfl, rfl, fun _ _ waits => waits⟩, fun _ _ runs _ => runs⟩
  | gate call =>
    have paused := hold.gate.call_paused call
    refine ⟨{ invariant with settled := ?_, gate := invariant.gate.call call, silent := ?_ }, ?_, fun _ _ runs _ => runs⟩
    · intro free
      obtain ⟨window, backstop⟩ := invariant.settled free
      exact ⟨paused.trans window, backstop⟩
    · intro silent
      obtain ⟨closed, quiet⟩ := invariant.silent silent
      exact ⟨paused.trans closed, OutputGate.call_silent closed quiet call⟩
    · exact fun task held _ => ⟨held, paused, rfl, rfl, rfl, rfl, fun _ _ waits => waits⟩

end Transitions

theorem HoldInvariant.lawful {hold : Hold} (invariant : HoldInvariant hold) : hold.Lawful where
  settled := invariant.settled
  expiries := invariant.expiries
  ended := invariant.ended
  silent := invariant.silent
  one := fun _ granted _ other lives also => invariant.gate.one granted other lives also
  admitted := invariant.gate.admitted
  turns := invariant.gate.turns

abbrev window := Pool.system setting (· = Hold.new)

/-- In every order in which pauses, resumes, backstops and calls on the gate take their turns, whatever their awaits end with. -/
theorem measurement_window_is_lawful (pool : Pool Point Answer Hold) (reached : Reachable window pool) :
    pool.shared.Lawful := by
  refine HoldInvariant.lawful ?_
  refine @Pool.invariant_of_every_run _ _ _ _ _ holdAgreement _ _ ?_ ?_ ?_ ?_ _ reached
  · rintro _ rfl
    exact ⟨fun _ => ⟨rfl, nofun⟩, OutputGate.sound_new, fun _ _ => ⟨rfl, rfl⟩, nofun, nofun, nofun, nofun⟩
  · exact fun program me hold invariant => perform_safe invariant program
  · exact fun event hold invariant => event_safe invariant event
  · exact fun _ _ _ _ ready => ready

section Runs

def fresh : Pool Point Answer Hold := Pool.start .new

theorem fresh_starts : ∃ hold, hold = Hold.new ∧ fresh = Pool.start hold := ⟨.new, rfl, rfl⟩

/-- A window that is opened, sealed and cleared by its own backstop. -/
theorem window_expires_lawfully : ∃ pool : Pool Point Answer Hold, pool.shared.expiries = [⟨1, 1⟩] ∧
    pool.shared.gate.granted = [⟨⟨1, .turn, 1⟩, true⟩] ∧ pool.shared.Lawful := by
  obtain ⟨pool, reached, seen⟩ := @Shared.Transition.reachable_observed _ _
    (fun pool => ∃ hold, hold = Hold.new ∧ pool = Pool.start hold) (Pool.step setting) fresh
    [.spawn (.pause []), .resume 0 .done, .resume 0 .done, .resume 0 .done, .outside (.gate .beginTurn),
      .spawn (.autoClear 1), .resume 1 .done, .resume 1 .done, .resume 1 .done, .outside (.gate .beginTurn)] _
    (fun pool : Pool Point Answer Hold => (pool.shared.expiries, pool.shared.gate.granted))
    ([⟨1, 1⟩], [⟨⟨1, .turn, 1⟩, true⟩]) fresh_starts (by decide +kernel)
  obtain ⟨expiries, granted⟩ := Prod.mk.inj seen
  exact ⟨pool, expiries, granted, measurement_window_is_lawful pool reached⟩

/-- An announcement outlives the drain of the opening, and the renewal is told that output has drained. -/
theorem renewal_answers_drained_over_speech : ∃ pool, Reachable window pool ∧
    ∃ ended ∈ pool.shared.ended, ended.outcome = .ok (some true) ∧ ended.active = some ⟨1, .proactive, 1⟩ := by
  obtain ⟨pool, reached, seen⟩ := @Shared.Transition.reachable_observed _ _
    (fun pool => ∃ hold, hold = Hold.new ∧ pool = Pool.start hold) (Pool.step setting) fresh
    [.outside (.gate (.beginIfIdle .proactive)), .spawn (.pause []), .resume 0 .done, .resume 0 .done, .resume 0 .done,
      .resume 0 .timedOut, .spawn (.pause []), .spawn (.autoClear 1), .resume 2 .raised, .resume 1 .done, .resume 1 .done,
      .resume 1 .done] _
    (fun pool : Pool Point Answer Hold => pool.shared.ended)
    [⟨.renewal, .ok (some true), true, true, some ⟨1, .proactive, 1⟩⟩,
      ⟨.opening, .ok (some false), true, true, some ⟨1, .proactive, 1⟩⟩] fresh_starts (by decide +kernel)
  exact ⟨pool, reached, _, by rw [seen]; exact .head _, rfl, rfl⟩

end Runs

end Jts.Voice
