import Mathlib.Data.List.Lattice
import Jts.ActiveSpeaker.Retry

set_option autoImplicit false

namespace Jts.ActiveSpeaker

open Shared (Coroutine Pool)
open Shared.Coroutine (Agreement Safe Rests Stable ask)
open Shared.Transition (Reachable)

namespace Retry

/-- The step has replaced a pending one, unless it has recorded none. -/
def Bench.replaces (bench : Bench) : Bool := !bench.stepped || bench.replaced.isSome

/-- What becomes of an accepted verdict: no step is pending, the step that it raced with has not left its driver audible, and
the confirmed roles are kept. -/
structure Bench.VerdictsKept (bench : Bench) : Prop where
  pending : bench.decided = true → bench.ramp.pending = none
  remuted : bench.decided = true → bench.ended = true → bench.loud = false
  roles : ∀ role ∈ bench.recorded, role ∈ bench.ramp.confirmedRoles

/-- Since a verdict was read for, no role was confirmed but the one that it is itself about. -/
def Job.fresh (bench : Bench) : Job → Prop
  | .verdict read pending outcome status =>
      ∀ role ∈ bench.recorded, role ∈ read.confirmedRoles ∨ role = pending.role ∧ (status = .confirmed ∨ outcome = .heardWrongDriver)
  | _ => True

/-- The tone does not end well after a verdict; while the step's graph runs, the anchor can be loaded; no verdict is stale. -/
def Spared (bench : Bench) (answer : Answer) : Point → Prop
  | .tone => answer.ok = true → bench.replaced.isSome → bench.decided = false
  | .admission .load => True
  | .admission job => answer.ok = false ∨ bench.anchorValid = false → bench.loud = false ∧ job.fresh bench
  | .load job none => (answer.reply = .refused → bench.loud = false) ∧ job.fresh bench
  | _ => True

def Undisturbed (_ : ℕ) (point : Point) (answer : Answer) (bench : Bench) : Prop := bench.replaces = true → Spared bench answer point

instance (bench : Bench) : (job : Job) → Decidable (job.fresh bench)
  | .verdict _ _ _ _ => inferInstanceAs (Decidable (∀ _ ∈ _, _))
  | .load | .remute => .isTrue trivial

instance (me : ℕ) (answer : Answer) (bench : Bench) : (point : Point) → Decidable (Undisturbed me point answer bench)
  | .tone => inferInstanceAs (Decidable (_ → _ → _ → _))
  | .admission .load | .load _ (some _) | .read | .path | .confirm => .isTrue fun _ => trivial
  | .admission .remute | .admission (.verdict _ _ _ _) => inferInstanceAs (Decidable (_ → _ → _ ∧ _))
  | .load _ none => inferInstanceAs (Decidable (_ → (_ → _) ∧ _))

section Agreement

structure BenchInvariant (bench : Bench) : Prop where
  anchor : bench.loud = true → bench.anchorExists = true
  before : bench.step = none → bench.stepped = false ∧ bench.ended = false ∧ bench.loud = false
  rest : bench.ended = true → bench.stepped = false → bench.loud = false
  kept : bench.replaces = true → bench.VerdictsKept

/-- The others leave the step's marks alone. They confirm nothing without deciding on the step before it. -/
structure BenchGrants (other : Option ℕ) (before after : Bench) : Prop where
  anchor : after.anchorExists = before.anchorExists
  decided : before.decided = true → after.decided = true
  stepped : before.stepped = true → after.stepped = true
  step : ∀ task, before.step = some task → other ≠ some task →
    after.step = some task ∧ after.replaced = before.replaced ∧ after.stepped = before.stepped ∧ after.ended = before.ended ∧
      (after.loud = true → before.loud = true) ∧
      (before.stepped = false → after.decided = false → ∀ role ∈ after.recorded, role ∈ before.recorded)

def benchAgreement : Agreement Point Answer Bench where
  invariant := BenchInvariant
  grants := BenchGrants
  resumes task point answer bench := Undisturbed task point answer bench

/-- What neither the invariant nor any assertion tells apart, but for a graph of the step that no longer runs. -/
structure Alike (before after : Bench) : Prop where
  anchor : after.anchorExists = before.anchorExists
  step : after.step = before.step
  replaced : after.replaced = before.replaced
  stepped : after.stepped = before.stepped
  ended : after.ended = before.ended
  decided : after.decided = before.decided
  recorded : after.recorded = before.recorded
  pending : after.ramp.pending = before.ramp.pending
  roles : after.ramp.confirmedRoles = before.ramp.confirmedRoles
  loud : after.loud = true → before.loud = true

variable {me : ℕ} {holds : Bench → Prop} {start bench after : Bench}

theorem BenchInvariant.alike (invariant : BenchInvariant bench) (alike : Alike bench after) : BenchInvariant after := by
  have silent : bench.loud = false → after.loud = false := by
    intro off
    cases on : after.loud with
    | false => rfl
    | true => simpa [off] using alike.loud on
  refine ⟨fun loud => ?_, fun unbegun => ?_, fun ended unstepped => ?_, fun replaces => ?_⟩
  · exact alike.anchor.trans (invariant.anchor (alike.loud loud))
  · rw [alike.stepped, alike.ended]
    obtain ⟨stepped, ended, loud⟩ := invariant.before (alike.step ▸ unbegun)
    exact ⟨stepped, ended, silent loud⟩
  · exact silent (invariant.rest (alike.ended ▸ ended) (alike.stepped ▸ unstepped))
  · have kept := invariant.kept (by rwa [Bench.replaces, alike.stepped, alike.replaced] at replaces)
    refine ⟨fun decided => ?_, fun decided ended => ?_, ?_⟩
    · exact alike.pending.trans (kept.pending (alike.decided ▸ decided))
    · exact silent (kept.remuted (alike.decided ▸ decided) (alike.ended ▸ ended))
    · rw [alike.recorded, alike.roles]
      exact kept.roles

theorem BenchGrants.alike {other : Option ℕ} (grants : BenchGrants other start bench) (alike : Alike bench after) :
    BenchGrants other start after := by
  refine ⟨alike.anchor.trans grants.anchor, fun decided => alike.decided.trans (grants.decided decided),
    fun stepped => alike.stepped.trans (grants.stepped stepped), ?_⟩
  rw [alike.step, alike.replaced, alike.stepped, alike.ended, alike.decided, alike.recorded]
  intro task is differs
  obtain ⟨step, replaced, stepped, ended, loud, recorded⟩ := grants.step task is differs
  exact ⟨step, replaced, stepped, ended, fun on => loud (alike.loud on), recorded⟩

theorem BenchGrants.refl (other : Option ℕ) (bench : Bench) : BenchGrants other bench bench :=
  ⟨rfl, id, id, fun _ is _ => ⟨is, rfl, rfl, rfl, id, fun _ _ _ mem => mem⟩⟩

/-- What a task may rely on. -/
structure Assertion (me : ℕ) (holds : Bench → Prop) : Prop where
  stable : Stable benchAgreement me holds
  alike : ∀ before after : Bench, Alike before after → holds before → holds after

structure Resting (me : ℕ) (holds : Bench → Prop) (start bench : Bench) : Prop where
  rests : Rests benchAgreement me start bench
  holds : holds bench

theorem Resting.refl (invariant : BenchInvariant bench) (here : holds bench) : Resting me holds bench bench :=
  ⟨⟨.refl _ _, invariant⟩, here⟩

theorem Resting.alike (resting : Resting me holds start bench) (assertion : Assertion me holds) (alike : Alike bench after) :
    Resting me holds start after :=
  ⟨⟨resting.rests.1.alike alike, resting.rests.2.alike alike⟩, assertion.alike _ _ alike resting.holds⟩

theorem true_assertion : Assertion me fun _ => True := ⟨fun _ _ _ _ _ _ _ _ => trivial, fun _ _ _ _ => trivial⟩

theorem alike_refl (bench : Bench) : Alike bench bench := ⟨rfl, rfl, rfl, rfl, rfl, rfl, rfl, rfl, rfl, id⟩

theorem alike_writer (bench : Bench) (writer : Option ℕ) : Alike bench { bench with writer := writer } := { alike_refl bench with }

theorem alike_record (bench : Bench) (status : LoadStatus) (target : Option LoadTarget) : Alike bench (bench.record status target) :=
  { alike_refl bench with }

theorem alike_safe (bench : Bench) (safe : SafeSession) : Alike bench { bench with safe := safe } := { alike_refl bench with }

theorem alike_sent_anchor (bench : Bench) (reply : Reply) : Alike bench (bench.sent none reply) := by
  unfold Bench.sent
  split
  · exact alike_refl bench
  · exact { alike_refl bench with loud := fun on => nomatch on }

end Agreement

section Apply

variable {me : ℕ} {holds : Bench → Prop} {start bench : Bench} {β : Type} {post : β → Bench → Bench → Prop}

theorem getBenchThen {next : Bench → Task β} (here : Safe benchAgreement me (next bench) post start bench) :
    Safe benchAgreement me (getBench >>= next) post start bench := here

theorem changeThen {effect : Bench → Bench} {next : Unit → Task β}
    (here : Safe benchAgreement me (next ()) post start (effect bench)) :
    Safe benchAgreement me (change effect >>= next) post start bench := here

/-- The rule of a wait that relies on nothing but the assertion. -/
theorem ask_safe (assertion : Assertion me holds) (resting : Resting me holds start bench) (point : Point) :
    Safe benchAgreement me (ask point) (fun answer start bench => Resting me holds start bench ∧ Undisturbed me point answer bench)
      start bench :=
  .ask resting.rests holds assertion.stable resting.holds fun _ _ invariant still resumes => ⟨.refl invariant still, resumes⟩

/-- The step's graph does not run, and the verdict is not stale. -/
def Remuted (job : Job) (bench : Bench) : Prop := bench.replaces = true → bench.loud = false ∧ job.fresh bench

theorem remuted_of_sent {job : Job} {answer : Answer} (undisturbed : Undisturbed me (.load job none) answer bench) :
    Remuted job (bench.sent none answer.reply) := by
  intro replaces
  unfold Bench.sent at replaces ⊢
  split at replaces
  · rename_i refused
    obtain ⟨silent, fresh⟩ := undisturbed replaces
    rw [if_pos refused]
    exact ⟨silent refused, fresh⟩
  · rename_i landed
    rw [if_neg landed]
    refine ⟨rfl, ?_⟩
    have fresh := (undisturbed replaces).2
    cases job <;> exact fresh

theorem Remuted.alike {job : Job} {after : Bench} (remuted : Remuted job bench) (alike : Alike bench after) : Remuted job after := by
  intro replaces
  obtain ⟨silent, fresh⟩ := remuted (by rwa [Bench.replaces, alike.stepped, alike.replaced] at replaces)
  refine ⟨?_, ?_⟩
  · cases on : after.loud with
    | false => rfl
    | true => simpa [silent] using alike.loud on
  · cases job with
    | verdict read pending outcome status =>
        simp only [Job.fresh, alike.recorded]
        exact fresh
    | load => trivial
    | remute => trivial

theorem transaction_safe (assertion : Assertion me holds) (resting : Resting me holds start bench) (job : Job)
    (valid : bench.anchorValid = false → Remuted job bench) :
    Safe benchAgreement me (transaction job none Bench.anchorValid false)
      (fun _ start bench => Resting me holds start bench ∧ Remuted job bench) start bench := by
  refine getBenchThen ?_
  split
  · refine .bind ((ask_safe assertion resting _).mono fun loaded start bench ⟨resting, undisturbed⟩ => changeThen ?_)
    have sent := resting.alike assertion (alike_sent_anchor bench loaded.reply)
    have remuted := remuted_of_sent undisturbed
    split <;> exact ⟨sent, remuted⟩
  · rename_i invalid
    exact ⟨resting, valid (by simpa using invalid)⟩

theorem applyAnchor_safe (assertion : Assertion me holds) (resting : Resting me holds start bench) {job : Job}
    (remutes : job ≠ .load) :
    Safe benchAgreement me (applyDspConfig me job none Bench.anchorValid false)
      (fun _ start bench => Resting me holds start bench ∧ Remuted job bench) start bench := by
  refine .bind ((ask_safe assertion resting _).mono fun admitted start bench ⟨resting, undisturbed⟩ => ?_)
  have unloaded (fails : admitted.ok = false ∨ bench.anchorValid = false) : Remuted job bench := by
    intro replaces
    have spared := undisturbed replaces
    cases job with
    | load => exact (remutes rfl).elim
    | remute => exact spared fails
    | verdict read pending outcome status => exact spared fails
  split
  · have taken := resting.alike assertion (alike_writer bench (some me))
    refine changeThen (.bind ((transaction_safe assertion taken job fun invalid => ?_).mono fun _ _ _ ⟨resting, remuted⟩ => ?_))
    · exact (unloaded (.inr invalid)).alike (alike_writer _ _)
    · exact ⟨resting.alike assertion (alike_writer _ _), remuted.alike (alike_writer _ _)⟩
  · rename_i refused
    exact ⟨resting, unloaded (.inl (by simpa using refused))⟩

/-- A re-mute is admitted and lands, or it is not needed. -/
theorem remute_safe (assertion : Assertion me holds) (resting : Resting me holds start bench) {job : Job} (remutes : job ≠ .load)
    (fresh : bench.replaces = true → job.fresh bench) :
    Safe benchAgreement me (rollbackDriverCommissioningConfig me job)
      (fun _ start bench => Resting me holds start bench ∧ Remuted job bench) start bench := by
  refine getBenchThen ?_
  split
  · refine .bind ((applyAnchor_safe assertion resting remutes).mono fun _ _ _ ⟨resting, remuted⟩ => ?_)
    exact ⟨resting.alike assertion (alike_record _ _ _), remuted.alike (alike_record _ _ _)⟩
  · rename_i missing
    refine ⟨resting.alike assertion (alike_record _ _ _), Remuted.alike (fun replaces => ⟨?_, fresh replaces⟩) (alike_record _ _ _)⟩
    cases loud : bench.loud with
    | false => rfl
    | true => exact (missing (resting.rests.2.anchor loud)).elim

end Apply

section Step

variable {me : ℕ} {replaced : Option PendingStep} {roles : List Role} {start bench : Bench}

/-- The step is on its way, with the roles that it has read; they are still all that is confirmed unless there is a verdict. -/
structure Going (me : ℕ) (replaced : Option PendingStep) (roles : List Role) (bench : Bench) : Prop where
  step : bench.step = some me
  retries : bench.replaced = replaced
  stepped : bench.stepped = false
  ended : bench.ended = false
  roles : replaced.isSome → bench.decided = false → ∀ role ∈ bench.recorded, role ∈ roles

def Silent (me : ℕ) (replaced : Option PendingStep) (roles : List Role) (bench : Bench) : Prop :=
  Going me replaced roles bench ∧ bench.loud = false

theorem going_assertion : Assertion me (Going me replaced roles) where
  stable := by
    intro other before after differs _ _ grants going
    obtain ⟨step, same, stepped, ended, -, recorded⟩ := grants.step me going.step differs
    refine ⟨step, same.trans going.retries, stepped.trans going.stepped, ended.trans going.ended, ?_⟩
    intro replaces undecided role mem
    have before_undecided : before.decided = false := by
      cases decided : before.decided with
      | false => rfl
      | true => simpa [undecided] using grants.decided decided
    exact going.roles replaces before_undecided role (recorded going.stepped undecided role mem)
  alike := by
    intro before after alike going
    refine ⟨alike.step.trans going.step, alike.replaced.trans going.retries, alike.stepped.trans going.stepped,
      alike.ended.trans going.ended, ?_⟩
    rw [alike.decided, alike.recorded]
    exact going.roles

theorem silent_assertion : Assertion me (Silent me replaced roles) where
  stable := by
    intro other before after differs invariant still grants ⟨going, silent⟩
    refine ⟨going_assertion.stable other before after differs invariant still grants going, ?_⟩
    cases loud : after.loud with
    | false => rfl
    | true => simpa [silent] using (grants.step me going.step differs).2.2.2.2.1 loud
  alike := by
    intro before after alike ⟨going, silent⟩
    refine ⟨going_assertion.alike before after alike going, ?_⟩
    cases loud : after.loud with
    | false => rfl
    | true => simpa [silent] using alike.loud loud

theorem Going.replaces (going : Going me replaced roles bench) : bench.replaces = true := by
  simp [Bench.replaces, going.stepped]

/-- The step may change its own marks, and what it loads. -/
theorem Resting.mine {holds : Bench → Prop} (resting : Resting me holds start bench) (step : bench.step = some me) {after : Bench}
    (anchor : after.anchorExists = bench.anchorExists) (decided : after.decided = bench.decided)
    (stepped : bench.stepped = true → after.stepped = true) (invariant : BenchInvariant after) :
    Rests benchAgreement me start after := by
  have grants := resting.rests.1
  refine ⟨⟨anchor.trans grants.anchor, fun was => decided.trans (grants.decided was), fun was => stepped (grants.stepped was),
    fun task is differs => ?_⟩, invariant⟩
  have same := (grants.step task is differs).1
  exact (differs (step.symm.trans same)).elim

theorem finish_safe (resting : Resting me (Silent me replaced roles) start bench) :
    Safe benchAgreement me finish (fun _ => Rests benchAgreement me) start bench := by
  obtain ⟨going, silent⟩ := resting.holds
  have invariant := resting.rests.2
  refine resting.mine going.step rfl rfl id ⟨invariant.anchor, fun unbegun => ?_, fun _ _ => silent, fun replaces => ?_⟩
  · exact nomatch going.step.symm.trans unbegun
  · have kept := invariant.kept replaces
    exact ⟨kept.pending, fun _ _ => silent, kept.roles⟩

theorem recordStep_safe (resting : Resting me (Going me replaced roles) start bench)
    (undecided : replaced.isSome → bench.decided = false) (call : StepCall) (level : Level) :
    Safe benchAgreement me (recordStep call roles level) (fun _ => Rests benchAgreement me) start bench := by
  have going := resting.holds
  refine resting.mine going.step rfl rfl (fun _ => rfl) ⟨resting.rests.2.anchor, fun unbegun => ?_, fun _ unstepped => (nomatch unstepped),
    fun replaces => ?_⟩
  · exact nomatch going.step.symm.trans unbegun
  · have some : replaced.isSome := by
      simpa [Bench.replaces, going.retries] using replaces
    refine ⟨fun decided => ?_, fun decided => ?_, going.roles some (undecided some)⟩
    · exact nomatch decided.symm.trans (undecided some)
    · exact nomatch decided.symm.trans (undecided some)

/-- The driver becomes audible. -/
theorem Resting.land (resting : Resting me (Silent me replaced roles) start bench) (anchor : bench.anchorExists = true)
    (candidate : Graph) (reply : Reply) : Resting me (Going me replaced roles) start (bench.sent candidate reply) := by
  obtain ⟨going, silent⟩ := resting.holds
  have invariant := resting.rests.2
  unfold Bench.sent
  split
  · exact ⟨resting.rests, going⟩
  · refine ⟨resting.mine going.step rfl rfl id ⟨fun _ => anchor, fun unbegun => ?_, fun ended => ?_, fun replaces => ?_⟩, ?_⟩
    · exact nomatch going.step.symm.trans unbegun
    · exact nomatch ended.symm.trans going.ended
    · have kept := invariant.kept replaces
      exact ⟨kept.pending, fun _ ended => (nomatch ended.symm.trans going.ended), kept.roles⟩
    · exact ⟨going.step, going.retries, going.stepped, going.ended, going.roles⟩

theorem rollBack_safe (resting : Resting me (Going me replaced roles) start bench) :
    Safe benchAgreement me (rollBack .load true)
      (fun ended start bench => Resting me (Going me replaced roles) start bench ∧ ended = .failed ∧ bench.loud = false) start bench := by
  refine .bind ((ask_safe going_assertion resting _).mono fun back start bench ⟨resting, undisturbed⟩ => ?_)
  have sent := resting.alike going_assertion (alike_sent_anchor bench back.reply)
  exact ⟨sent, rfl, (remuted_of_sent undisturbed sent.holds.replaces).1⟩

theorem loadTransaction_safe (resting : Resting me (Silent me replaced roles) start bench) (anchor : bench.anchorExists = true)
    (graph : Unmuted) (valid : Bench → Bool) :
    Safe benchAgreement me (transaction .load (some graph) valid true)
      (fun ended start bench => Resting me (Going me replaced roles) start bench ∧ (ended ≠ .success → bench.loud = false))
      start bench := by
  refine getBenchThen ?_
  split
  · refine .bind (.ask resting.rests (fun bench => Silent me replaced roles bench ∧ bench.anchorExists = true) ?_
      ⟨resting.holds, anchor⟩ fun bench loaded invariant ⟨silent, anchor⟩ _ => changeThen ?_)
    · intro other before after differs invariant still grants ⟨silent, anchor⟩
      exact ⟨silent_assertion.stable other before after differs invariant still grants silent, grants.anchor.trans anchor⟩
    have landed := @Resting.land me replaced roles _ _ (.refl invariant silent) anchor (some graph) loaded.reply
    have undone {start bench : Bench} (resting : Resting me (Going me replaced roles) start bench) :
        Safe benchAgreement me (rollBack .load true)
          (fun ended start bench => Resting me (Going me replaced roles) start bench ∧ (ended ≠ .success → bench.loud = false))
          start bench :=
      (rollBack_safe resting).mono fun _ _ _ ⟨resting, _, silent⟩ => ⟨resting, fun _ => silent⟩
    split
    · refine .bind ((ask_safe going_assertion landed _).mono fun seen start bench ⟨resting, _⟩ => ?_)
      split
      · exact ⟨resting, fun failed => (failed rfl).elim⟩
      · exact undone resting
    · exact undone landed
  · exact ⟨⟨resting.rests, resting.holds.1⟩, fun _ => resting.holds.2⟩

theorem applyGraph_safe (resting : Resting me (Silent me replaced roles) start bench) (anchor : bench.anchorExists = true)
    (graph : Unmuted) (valid : Bench → Bool) :
    Safe benchAgreement me (applyDspConfig me .load (some graph) valid true)
      (fun ended start bench => Resting me (Going me replaced roles) start bench ∧ (ended ≠ .success → bench.loud = false))
      start bench := by
  refine .bind (.ask resting.rests (fun bench => Silent me replaced roles bench ∧ bench.anchorExists = true) ?_
    ⟨resting.holds, anchor⟩ fun bench admitted invariant ⟨silent, anchor⟩ _ => ?_)
  · intro other before after differs invariant still grants ⟨silent, anchor⟩
    exact ⟨silent_assertion.stable other before after differs invariant still grants silent, grants.anchor.trans anchor⟩
  have resting := @Resting.refl me _ _ invariant silent
  split
  · have taken := resting.alike silent_assertion (alike_writer bench (some me))
    refine changeThen (.bind ((loadTransaction_safe taken anchor graph valid).mono fun _ _ _ ⟨resting, silent⟩ => ?_))
    exact ⟨resting.alike going_assertion (alike_writer _ _), silent⟩
  · exact ⟨⟨resting.rests, resting.holds.1⟩, fun _ => resting.holds.2⟩

theorem load_safe (resting : Resting me (Silent me replaced roles) start bench) (call : StepCall) (target : LoadTarget) :
    Safe benchAgreement me (loadDriverCommissioningConfig me call target)
      (fun loaded start bench => Resting me (Going me replaced roles) start bench ∧ (loaded = false → bench.loud = false))
      start bench := by
  refine .bind ((ask_safe silent_assertion resting _).mono fun path start bench ⟨resting, _⟩ => getBenchThen ?_)
  have blocked (status : LoadStatus) (target : Option LoadTarget) :
      Resting me (Going me replaced roles) start (bench.record status target) ∧ (false = false → bench.loud = false) := by
    have recorded := resting.alike silent_assertion (alike_record bench status target)
    exact ⟨⟨recorded.rests, recorded.holds.1⟩, fun _ => resting.holds.2⟩
  split
  · exact blocked _ _
  · split
    · exact blocked _ _
    · rename_i unblocked
      have anchor : bench.anchorExists = true := by
        cases anchor : bench.anchorExists <;> simp_all
      refine .bind ((applyGraph_safe resting anchor _ _).mono fun ended start bench ⟨resting, silent⟩ => ?_)
      have recorded (status : LoadStatus) := resting.alike going_assertion (alike_record bench status (some target))
      cases ended with
      | success => exact ⟨recorded _, fun impossible => nomatch impossible⟩
      | failed => exact ⟨recorded _, fun _ => silent (by simp)⟩
      | notAdmitted => exact ⟨resting, fun _ => silent (by simp)⟩
      | cancelled => exact ⟨resting, fun _ => silent (by simp)⟩

theorem remuteStep_safe (resting : Resting me (Going me replaced roles) start bench) :
    Safe benchAgreement me (do rollbackDriverCommissioningConfig me .remute; finish) (fun _ => Rests benchAgreement me) start bench := by
  have fresh : bench.replaces = true → Job.fresh bench .remute := fun _ => trivial
  refine .bind ((remute_safe going_assertion resting (by simp) fresh).mono fun _ _ _ ⟨resting, remuted⟩ => ?_)
  exact finish_safe ⟨resting.rests, resting.holds, (remuted resting.holds.replaces).1⟩

/-- The step that goes on has seen its pending step still there, so nobody has decided on it. -/
theorem undecided_of_current (resting : Resting me (Going me replaced roles) start bench) {target : PlaybackTarget}
    (current : superseded replaced bench.ramp target = false) : replaced.isSome → bench.decided = false := by
  intro retries
  obtain ⟨pending, rfl⟩ := Option.isSome_iff_exists.mp retries
  cases decided : bench.decided with
  | false => rfl
  | true =>
      have cleared := (resting.rests.2.kept resting.holds.replaces).pending decided
      simp [superseded, pendingStepStillCurrent, cleared] at current

theorem raiseDriver_safe (resting : Resting me (Silent me replaced roles) start bench) (call : StepCall) (level : Level) :
    Safe benchAgreement me (raiseDriver me call replaced roles level) (fun _ => Rests benchAgreement me) start bench := by
  refine .bind ((load_safe resting call _).mono fun loaded start bench ⟨resting, silent⟩ => getBenchThen ?_)
  split
  · rename_i failed
    exact finish_safe ⟨resting.rests, resting.holds, silent (by simpa using failed)⟩
  · split
    · exact remuteStep_safe resting
    · rename_i current
      have undecided := undecided_of_current resting (by simpa using current)
      split
      · refine .bind ((ask_safe going_assertion resting _).mono fun tone start bench ⟨resting, undisturbed⟩ => ?_)
        split
        · rename_i confirmable
          refine recordStep_safe resting (fun retries => ?_) call level
          exact undisturbed resting.holds.replaces confirmable (resting.holds.retries ▸ retries)
        · exact remuteStep_safe resting
      · exact recordStep_safe resting undecided call level

theorem opening_replaces {call : StepCall} {current : Level} (opens : opening bench call = some (replaced, current)) :
    replacedPending bench.ramp call.group call.role true = .ok replaced := by
  unfold opening at opens
  split at opens
  · cases opens
  split at opens
  · cases opens
  split at opens
  · cases opens
  split at opens
  · cases opens
  rename_i taken replaces
  simp only at opens
  split at opens
  · cases opens
  split at opens
  · cases opens
  obtain ⟨rfl, -⟩ := Prod.mk.inj (Option.some.inj opens)
  exact replaces

/-- A pending step is replaced by one of its own group. -/
theorem group_of_replaced {ramp : RampState} {group : String} {role : Role}
    (replaces : replacedPending ramp group role true = .ok replaced) (retries : replaced.isSome) : ramp.group = group := by
  unfold replacedPending at replaces
  split at replaces
  · obtain rfl := Except.ok.inj replaces
    cases retries
  · split at replaces
    · rename_i same
      simpa using (Bool.and_eq_true_iff.mp same).2
    · cases replaces

theorem rampAudibleStep_safe (invariant : BenchInvariant bench) (unbegun : bench.step = none) (call : StepCall) :
    Safe benchAgreement me (rampAudibleStep me call) (fun _ => Rests benchAgreement me) bench bench := by
  obtain ⟨unstepped, unended, silent⟩ := invariant.before unbegun
  have replaces : bench.replaces = true := by simp [Bench.replaces, unstepped]
  have kept := invariant.kept replaces
  have grants {after : Bench} (anchor : after.anchorExists = bench.anchorExists) (decided : after.decided = bench.decided)
      (stepped : after.stepped = bench.stepped) : BenchGrants (some me) bench after :=
    ⟨anchor, decided.trans, stepped.trans, fun _ is => nomatch unbegun.symm.trans is⟩
  refine getBenchThen ?_
  cases opens : opening bench call with
  | none =>
      refine ⟨grants rfl rfl rfl, invariant.anchor, fun impossible => (nomatch impossible), fun _ _ => silent, fun _ => ?_⟩
      exact ⟨kept.pending, fun _ _ => silent, kept.roles⟩
  | some opened =>
      obtain ⟨replaced, current⟩ := opened
      have retries := group_of_replaced (opening_replaces opens)
      have begun : Resting me (Silent me replaced (effectiveConfirmedRoles bench.ramp call.group [])) bench
          { bench with step := some me, replaced := replaced } := by
        refine ⟨⟨grants rfl rfl rfl, invariant.anchor, fun impossible => (nomatch impossible), invariant.rest, fun _ => ?_⟩,
          ⟨rfl, rfl, unstepped, unended, fun isSome _ role mem => ?_⟩, silent⟩
        · exact ⟨kept.pending, kept.remuted, kept.roles⟩
        · simpa [effectiveConfirmedRoles, sameGroup, retries isSome] using List.mem_union_iff.mpr (.inl (kept.roles role mem) : _ ∨ role ∈ ([] : List Role))
      refine changeThen (.bind ((ask_safe silent_assertion begun _).mono fun read start bench ⟨resting, _⟩ => ?_))
      split
      · exact finish_safe resting
      · refine getBenchThen ?_
        split
        · exact finish_safe resting
        · have armed := resting.alike silent_assertion (alike_safe bench (ensureSafeSessionArmed bench.safe call.ready))
          refine changeThen ?_
          split
          · exact finish_safe armed
          · exact raiseDriver_safe armed call _

end Step

section Verdict

variable {me : ℕ} {start bench : Bench}

/-- What there is to know of a verdict. -/
structure VerdictSays (read : RampState) (pending : PendingStep) (outcome : Outcome) (verdict : Verdict) : Prop where
  cleared : verdict.pending = none ∨ verdict.status = .rejected
  remutes : AckStatus.accepted verdict.status = true → verdict.remutes = true
  held : verdict.status = .rejected → verdict.remutes = false
  confirms : verdict.status = .confirmed → outcome = .heardCorrectDriver ∧ pending.role ∈ verdict.confirmedRoles
  keeps : ∀ role ∈ read.confirmedRoles, role ∈ verdict.confirmedRoles ∨ outcome = .heardWrongDriver ∧ role = pending.role

theorem ackVerdict_says (read : RampState) (pending : PendingStep) (seen : SafeSession) (outcome : Outcome) :
    VerdictSays read pending outcome (ackVerdict read.confirmedRoles pending seen outcome) := by
  cases outcome with
  | heardCorrectDriver =>
      simp only [ackVerdict]
      split
      · refine ⟨.inl rfl, fun _ => rfl, nofun, fun _ => ⟨rfl, List.mem_insert_self⟩, fun _ mem => .inl ?_⟩
        exact List.mem_insert_of_mem mem
      · split
        · exact ⟨.inl rfl, fun _ => rfl, nofun, nofun, fun _ mem => .inl mem⟩
        · exact ⟨.inr rfl, fun accepted => by simp [AckStatus.accepted] at accepted, fun _ => rfl, nofun, fun _ mem => .inl mem⟩
  | tooLoud => exact ⟨.inl rfl, fun _ => rfl, nofun, nofun, fun _ mem => .inl mem⟩
  | heardWrongDriver =>
      refine ⟨.inl rfl, fun _ => rfl, nofun, nofun, fun role mem => ?_⟩
      by_cases same : role = pending.role
      · exact .inr ⟨rfl, same⟩
      · exact .inl (by simpa [ackVerdict, same] using mem)
  | silent => exact ⟨.inl rfl, fun accepted => by simp [AckStatus.accepted, ackVerdict] at accepted, nofun, nofun, fun _ mem => .inl mem⟩
  | unsupported =>
      exact ⟨.inr rfl, fun accepted => by simp [AckStatus.accepted, ackVerdict] at accepted, fun _ => rfl, nofun, fun _ mem => .inl mem⟩

theorem recorded_kept {read : RampState} {pending : PendingStep} {outcome : Outcome} {verdict : Verdict} {early : Bool}
    (told : VerdictSays read pending outcome verdict) (fresh : (Job.verdict read pending outcome verdict.status).fresh bench) :
    ∀ role ∈ (bench.acknowledged read pending outcome verdict early).recorded, role ∈ verdict.confirmedRoles := by
  intro role mem
  simp only [Bench.acknowledged] at mem
  split at mem
  · rename_i confirmed
    obtain ⟨rfl, own⟩ := told.confirms confirmed
    rcases List.mem_insert_iff.mp mem with rfl | mem
    · exact own
    · rcases fresh role mem with known | ⟨rfl, -⟩
      · exact (told.keeps role known).resolve_right (by simp)
      · exact own
  · rename_i unconfirmed
    split at mem
    · obtain ⟨mem, other⟩ := List.mem_filter.mp mem
      have other : role ≠ pending.role := by simpa using other
      rcases fresh role mem with known | ⟨same, -⟩
      · exact (told.keeps role known).resolve_right fun wrong => other wrong.2
      · exact (other same).elim
    · rename_i right
      rcases fresh role mem with known | ⟨-, about⟩
      · exact (told.keeps role known).resolve_right fun wrong => right wrong.1
      · exact (about.elim unconfirmed right).elim

/-- What is recorded of a verdict, once its re-mute was made or was not asked for. -/
theorem acknowledged_rests {read : RampState} {stepped : Bool} {pending : PendingStep} {outcome : Outcome} {verdict : Verdict}
    (resting : Resting me (fun bench => stepped = true → bench.stepped = true) start bench)
    (told : VerdictSays read pending outcome verdict)
    (held : verdict.status = .rejected → bench.ramp.pending = some pending)
    (silent : bench.replaces = true → AckStatus.accepted verdict.status = true → bench.ended = true → stepped = false → bench.loud = false)
    (fresh : bench.replaces = true → (Job.verdict read pending outcome verdict.status).fresh bench) :
    Rests benchAgreement me start (bench.acknowledged read pending outcome verdict (!stepped)) := by
  obtain ⟨⟨grants, invariant⟩, later⟩ := resting
  refine ⟨⟨grants.anchor, fun was => ?_, grants.stepped, fun task is differs => ?_⟩,
    invariant.anchor, invariant.before, invariant.rest, fun replaces => ?_⟩
  · simp [Bench.acknowledged, grants.decided was]
  · obtain ⟨step, replaced, same, ended, loud, recorded⟩ := grants.step task is differs
    refine ⟨step, replaced, same, ended, loud, fun unstepped undecided role mem => ?_⟩
    have unread : stepped = false := by
      cases read : stepped with
      | false => rfl
      | true => exact nomatch unstepped.symm.trans (same.symm.trans (later read))
    obtain ⟨before, refused⟩ : bench.decided = false ∧ AckStatus.accepted verdict.status = false := by
      simpa [Bench.acknowledged, unread] using undecided
    refine recorded unstepped before role ?_
    simp only [Bench.acknowledged] at mem
    split at mem
    · rename_i confirmed
      simp [confirmed, AckStatus.accepted] at refused
    · split at mem
      · exact (List.mem_filter.mp mem).1
      · exact mem
  · have kept := invariant.kept replaces
    have refused (rejected : verdict.status = .rejected) : AckStatus.accepted verdict.status = false := by
      simp [rejected, AckStatus.accepted]
    refine ⟨fun decided => ?_, fun decided ended => ?_, recorded_kept told (fresh replaces)⟩
    · rcases told.cleared with cleared | rejected
      · exact cleared
      · have before : bench.decided = true := by simpa [Bench.acknowledged, refused rejected] using decided
        exact nomatch (held rejected).symm.trans (kept.pending before)
    · rcases Bool.or_eq_true_iff.mp decided with before | now
      · exact kept.remuted before ended
      · obtain ⟨early, accepted⟩ := Bool.and_eq_true_iff.mp now
        exact silent replaces accepted ended (by simpa using early)

theorem recordRampOperatorAck_safe (invariant : BenchInvariant bench) (outcome : Outcome) (loader : Bool) :
    Safe benchAgreement me (recordRampOperatorAck me outcome loader) (fun _ => Rests benchAgreement me) bench bench := by
  have later : Assertion me fun after => bench.stepped = true → after.stepped = true :=
    ⟨fun _ _ _ _ _ _ grants here was => grants.stepped (here was), fun _ _ alike here was => alike.stepped.trans (here was)⟩
  have resting := @Resting.refl me (fun after => bench.stepped = true → after.stepped = true) bench invariant id
  refine getBenchThen ?_
  cases waits : bench.ramp.pending with
  | none => exact resting.rests
  | some pending =>
      simp only
      split
      · exact resting.rests
      · rename_i stored seen _
        have told := ackVerdict_says bench.ramp pending seen outcome
        have kept := resting.alike later (alike_safe bench stored)
        have fresh : bench.replaces = true →
            (Job.verdict bench.ramp pending outcome (ackVerdict bench.ramp.confirmedRoles pending seen outcome).status).fresh
              { bench with safe := stored } :=
          fun replaces role mem => .inl ((invariant.kept replaces).roles role mem)
        refine changeThen (.bind (.when (fun remutes => ?_) fun idle => ?_))
        · refine (remute_safe later kept (by simp) fresh).mono fun _ start after ⟨resting, remuted⟩ => ?_
          refine acknowledged_rests resting told (fun rejected => ?_) (fun replaces _ _ _ => (remuted replaces).1)
            fun replaces => (remuted replaces).2
          simp [told.held rejected] at remutes
        · refine acknowledged_rests kept told (fun _ => waits) (fun _ _ ended unstepped => invariant.rest ended unstepped) fresh

end Verdict

/-- In every run that spares the pending step's verdicts they are kept, as long as the audible step has recorded nothing without
replacing a pending one. -/
theorem operator_verdicts_are_kept (pool : Pool Point Answer Bench)
    (reached : Reachable ((Pool.system setting Bench.Initial).restrict (Pool.Meets Undisturbed)) pool)
    (replaces : pool.shared.replaces = true) : pool.shared.VerdictsKept := by
  have invariant : BenchInvariant pool.shared := by
    refine @Pool.invariant_of_reachable _ _ _ _ _ benchAgreement _ _ _ ?_ ?_ ?_ ?_ _ reached
    · rintro bench ⟨-, -, -, unstepped, unended, silent, undecided, recorded⟩
      refine ⟨fun loud => ?_, fun _ => ⟨unstepped, unended, silent⟩, fun _ _ => silent, fun _ => ⟨fun decided => ?_, fun _ _ => silent, ?_⟩⟩
      · exact nomatch silent.symm.trans loud
      · exact nomatch undecided.symm.trans decided
      · exact fun role mem => recorded ▸ mem
    · intro verb me bench invariant
      cases verb with
      | step call =>
          refine getBenchThen (.when (fun free => ?_) fun _ => ⟨.refl _ _, invariant⟩)
          exact rampAudibleStep_safe invariant (by simpa using free) call
      | ack outcome loader => exact recordRampOperatorAck_safe invariant outcome loader
    · intro event bench invariant
      have alike := alike_safe bench { bench.safe with lapsed := true }
      exact ⟨invariant.alike alike, (BenchGrants.refl none bench).alike alike⟩
    · exact fun _ _ _ _ _ undisturbed => undisturbed
  exact invariant.kept replaces

section Runs

-- The woofer has been heard at the floor, and the operator is asked.
def asked : Bench where
  graph := some ⟨⟨"left", .woofer⟩, minTestLevelDbfs⟩
  state := ⟨.loaded, some ⟨"left", .woofer, minTestLevelDbfs⟩⟩
  ramp := ⟨"left", [], some ⟨.woofer, minTestLevelDbfs, 1⟩⟩
  safe := { armSafePlaybackSession true with quietStart := ⟨.floorPendingOperator, some ⟨"left", .woofer, some 0⟩, some 1, none⟩ }
  anchorExists := true
  anchorValid := true
  writer := none
  step := none
  replaced := none
  stepped := false
  ended := false
  loud := false
  decided := false
  recorded := []

def louder : StepCall where
  group := "left"
  role := .woofer
  roleOrderConfirmedRoles := []
  active := "left"
  prepares := true
  outputIndex := some 0
  present := [.woofer, .tweeter]
  ready := true
  loadAllowed := true
  anchorPersisted := true
  preparesUnderLock := true
  validates := true
  playsTone := true
  playbackId := 2

def yes : Answer := ⟨true, .done, some ⟨true, true, true⟩⟩

def first : Pool Point Answer Bench := Pool.start asked

def Starts (pool : Pool Point Answer Bench) : Prop := ∃ shared, Bench.Initial shared ∧ pool = Pool.start shared

theorem first_starts : Starts first :=
  ⟨asked, ⟨rfl, rfl, rfl, rfl, rfl, rfl, rfl, rfl⟩, rfl⟩

/-- The operator hears the right driver while the retry is on its way to its load, and the retry gives way. -/
theorem verdict_before_the_load :
    ∃ pool : Pool Point Answer Bench, pool.shared.decided = true ∧ pool.shared.ended = true ∧ pool.shared.VerdictsKept := by
  obtain ⟨pool, reached, seen⟩ := @Shared.Transition.restricted_observed _ _ Starts (Pool.step setting) (Pool.Meets Undisturbed) _ first
    [.spawn (.step louder), .resume 0 yes, .resume 0 yes, .spawn (.ack .heardCorrectDriver true), .resume 1 yes, .resume 1 yes,
      .resume 0 yes, .resume 0 yes, .resume 0 yes, .resume 0 yes, .resume 0 yes] _
    (fun pool : Pool Point Answer Bench => (pool.shared.decided, pool.shared.ended, pool.shared.replaces)) (true, true, true)
    first_starts (by decide +kernel)
  simp only [Prod.mk.injEq] at seen
  obtain ⟨decided, ended, replaces⟩ := seen
  exact ⟨pool, decided, ended, operator_verdicts_are_kept pool reached replaces⟩

/-- The operator hears the right driver during the louder tone. The retry then makes its own step pending, and the role is lost. -/
theorem verdict_lost_in_the_tone :
    ∃ pool, Reachable (Pool.system setting Bench.Initial) pool ∧ pool.shared.replaces = true ∧ pool.shared.decided = true ∧
      pool.shared.ramp.pending ≠ none ∧ Role.woofer ∈ pool.shared.recorded ∧ Role.woofer ∉ pool.shared.ramp.confirmedRoles := by
  obtain ⟨pool, reached, seen⟩ := @Shared.Transition.reachable_observed _ _ Starts (Pool.step setting) first
    [[.spawn (.step louder)], List.replicate 5 (.resume 0 yes),
      [.spawn (.ack .heardCorrectDriver true), .resume 1 yes, .resume 1 yes, .resume 0 yes]].flatten _
    (fun pool : Pool Point Answer Bench => (pool.shared.replaces, pool.shared.decided, pool.shared.ramp.pending.isSome,
      pool.shared.recorded, pool.shared.ramp.confirmedRoles)) (true, true, true, [.woofer], []) first_starts (by decide +kernel)
  simp only [Prod.mk.injEq] at seen
  obtain ⟨replaces, decided, pending, recorded, roles⟩ := seen
  refine ⟨pool, reached, replaces, decided, ?_, by simp [recorded], by simp [roles]⟩
  exact Option.isSome_iff_ne_none.mp pending

end Runs

end Retry

end Jts.ActiveSpeaker
