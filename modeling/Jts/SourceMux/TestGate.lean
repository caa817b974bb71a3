import Jts.SourceMux.Verbs

set_option autoImplicit false

namespace Jts.SourceMux

open Shared
open Shared.Coroutine

structure Lease where
  owner : String
  expiresAt : ℕ
deriving DecidableEq

/-- The last lease that was granted, unless its owner has asked for its release. A release that was asked for before the
grant and acts after it ends it as well. -/
def window : List Event → Option Lease
  | [] => none
  | .testSelected owner expiresAt :: _ => some ⟨owner, expiresAt⟩
  | .releaseRequested owner :: earlier => (window earlier).filter (·.owner ≠ owner)
  | .sent _ (.testRelease (some owner)) _ :: earlier => (window earlier).filter (·.owner ≠ owner)
  | _ :: earlier => window earlier

/-- Nothing was routed within a lease, and no release that failed changed the gate. -/
def Undisturbed : List Event → Prop
  | [] => True
  | .sent command reason now :: earlier =>
      Undisturbed earlier ∧
        (command.routes = true → ∀ lease ∈ window (.sent command reason now :: earlier), lease.expiresAt ≤ now)
  | .releaseFailed before after :: earlier => Undisturbed earlier ∧ after = before
  | _ :: earlier => Undisturbed earlier

/-- The gate is the owner's for as long as its lease. -/
structure Exclusive (world : World) : Prop where
  undisturbed : Undisturbed world.history
  held : ∀ lease ∈ window world.history, world.mux.now < lease.expiresAt →
    ∃ gate, world.mux.testFanin = some gate ∧ gate.owner = lease.owner ∧ lease.expiresAt ≤ gate.expiresAt

/-- The awaits at which the mux does not look at the gate again: no one has it when the lock or the connection comes, and a
lease that is to be released is still expired. -/
def Orderly (_ : ℕ) (point : Point) (_ : Answer) (world : World) : Prop :=
  match point with
  | .transitionLock .tickHandoff | .transitionLock .reassertManual | .transitionLock .reassertAuto
  | .connect .none .autoIdle => world.mux.testFanin = none
  | .transitionLock (.testRelease none) => ∀ gate ∈ world.mux.testFanin, gate.expiresAt ≤ world.mux.now
  | _ => True

instance : ∀ history, Decidable (Undisturbed history)
  | [] => .isTrue trivial
  | .sent _ _ _ :: earlier =>
      have : Decidable (Undisturbed earlier) := instDecidableUndisturbed earlier
      inferInstanceAs (Decidable (_ ∧ _))
  | .releaseFailed _ _ :: earlier =>
      have : Decidable (Undisturbed earlier) := instDecidableUndisturbed earlier
      inferInstanceAs (Decidable (_ ∧ _))
  | .testSelected _ _ :: earlier => instDecidableUndisturbed earlier
  | .releaseRequested _ :: earlier => instDecidableUndisturbed earlier
  | .commandFailed _ :: earlier => instDecidableUndisturbed earlier
  | .handoffFailed _ :: earlier => instDecidableUndisturbed earlier
  | .tickEnded _ _ :: earlier => instDecidableUndisturbed earlier

instance (task : ℕ) (point : Point) (answer : Answer) (world : World) : Decidable (Orderly task point answer world) := by
  unfold Orderly
  split <;> infer_instance

section Agreement

structure GateInvariant (world : World) : Prop extends Exclusive world where
  label : ∀ gate ∈ world.mux.testFanin, gate.label ∈ faninTestLabels
  lease : ∀ gate ∈ world.mux.testFanin, gate.expiresAt ≤ world.mux.now + faninTestLeaseSec

/-- No lease is granted, and the gate does not change, while another task holds the lock. -/
def gateAgreement : Agreement Point Answer World where
  invariant := GateInvariant
  grants other before after := before.mux.now ≤ after.mux.now ∧
    ∀ holder, before.mux.transitionLock = some holder → other ≠ some holder →
      after.mux.transitionLock = some holder ∧ after.mux.testFanin = before.mux.testFanin ∧
        ∀ lease ∈ window after.history, lease ∈ window before.history
  resumes task point answer world := ready task point answer world = true ∧ Orderly task point answer world

variable {me : ℕ}

/-- What a task may rely on: no one else makes it false, and only the lock, the gate, the clock and the leases decide it. -/
structure Assertion (me : ℕ) (holds : World → Prop) : Prop where
  stable : Stable gateAgreement me holds
  same : ∀ before after : World, after.mux.now = before.mux.now → after.mux.transitionLock = before.mux.transitionLock →
    after.mux.testFanin = before.mux.testFanin → (∀ lease ∈ window after.history, lease ∈ window before.history) →
    holds before → holds after

/-- The one that holds the lock knows the gate, that some time has passed, and whose leases have ended. -/
structure Held (me : ℕ) (gate : Option TestFanin) (since : ℕ) (may : Lease → Prop) (world : World) : Prop where
  lock : world.mux.transitionLock = some me
  gate : world.mux.testFanin = gate
  since : since ≤ world.mux.now
  leases : ∀ lease ∈ window world.history, may lease

/-- Whose time has come. -/
def Ended (since : ℕ) (lease : Lease) : Prop := lease.expiresAt ≤ since

theorem held_assertion (me : ℕ) (gate : Option TestFanin) (since : ℕ) (may : Lease → Prop) :
    Assertion me (Held me gate since may) where
  stable := by
    rintro other before after differs - - ⟨later, kept⟩ ⟨lock, same, passed, leases⟩
    obtain ⟨still, unchanged, fewer⟩ := kept me lock differs
    exact ⟨still, unchanged.trans same, passed.trans later, fun lease mem => leases lease (fewer lease mem)⟩
  same := by
    rintro before after now lock gate fewer ⟨held, same, passed, leases⟩
    exact ⟨lock.trans held, gate.trans same, now ▸ passed, fun lease mem => leases lease (fewer lease mem)⟩

theorem true_assertion : Assertion me fun _ => True := ⟨fun _ _ _ _ _ _ _ _ => trivial, fun _ _ _ _ _ _ _ => trivial⟩

/-- A task that may rest here, with what it relies on. -/
structure Resting (me : ℕ) (holds : World → Prop) (start world : World) : Prop where
  rests : Rests gateAgreement me start world
  holds : holds world

variable {holds : World → Prop} {start world : World}

theorem Resting.refl (invariant : GateInvariant world) (here : holds world) : Resting me holds world world :=
  ⟨⟨⟨le_rfl, fun _ lock _ => ⟨lock, rfl, fun _ mem => mem⟩⟩, invariant⟩, here⟩

theorem Resting.weaken (resting : Resting me holds start world) {weaker : World → Prop} (here : weaker world) :
    Resting me weaker start world := ⟨resting.rests, here⟩

/-- What leaves the lock, the gate, the clock and the leases alone disturbs nothing. -/
theorem Resting.same (resting : Resting me holds start world) (assertion : Assertion me holds) {after : World}
    (now : after.mux.now = world.mux.now) (lock : after.mux.transitionLock = world.mux.transitionLock)
    (gate : after.mux.testFanin = world.mux.testFanin) (leases : ∀ lease ∈ window after.history, lease ∈ window world.history)
    (undisturbed : Undisturbed world.history → Undisturbed after.history) : Resting me holds start after := by
  obtain ⟨⟨⟨later, kept⟩, invariant⟩, here⟩ := resting
  refine ⟨⟨⟨now ▸ later, fun holder held differs => ?_⟩, ⟨⟨undisturbed invariant.undisturbed, ?_⟩, ?_, ?_⟩⟩,
    assertion.same world after now lock gate leases here⟩
  · rw [lock, gate]
    obtain ⟨still, unchanged, fewer⟩ := kept holder held differs
    exact ⟨still, unchanged, fun lease mem => fewer lease (leases lease mem)⟩
  · intro lease mem active
    rw [now] at active
    rw [gate]
    exact invariant.held lease (leases lease mem) active
  · rw [gate]
    exact invariant.label
  · rw [gate, now]
    exact invariant.lease

theorem Resting.change (resting : Resting me holds start world) (assertion : Assertion me holds) {mux : Mux}
    (now : mux.now = world.mux.now) (lock : mux.transitionLock = world.mux.transitionLock)
    (gate : mux.testFanin = world.mux.testFanin) : Resting me holds start ⟨mux, world.history⟩ :=
  resting.same assertion now lock gate (fun _ mem => mem) id

/-- The rule of a wait that relies on nothing but the assertion. -/
theorem ask_safe (assertion : Assertion me holds) (resting : Resting me holds start world) (point : Point) :
    Safe gateAgreement me (ask point) (fun _ => Resting me holds) start world :=
  .ask resting.rests holds assertion.stable resting.holds fun _ _ invariant still _ => .refl invariant still

theorem wait_safe (assertion : Assertion me holds) (resting : Resting me holds start world) (point : Point) :
    Safe gateAgreement me (wait point) (fun _ => Resting me holds) start world :=
  .wait resting.rests holds assertion.stable resting.holds fun _ _ invariant still _ => .refl invariant still

theorem when_safe {condition : Bool} {program : Task Unit} (resting : Resting me holds start world)
    (does : Safe gateAgreement me program (fun _ => Resting me holds) start world) :
    Safe gateAgreement me (when condition program) (fun _ => Resting me holds) start world :=
  .when (fun _ => does) fun _ => resting

end Agreement

section Commands

theorem recordStart_same (current : Playing) (seen : Mux × List Source) (source : Source) :
    (recordStart current seen source).1.now = seen.1.now ∧
      (recordStart current seen source).1.transitionLock = seen.1.transitionLock ∧
      (recordStart current seen source).1.testFanin = seen.1.testFanin := by
  unfold recordStart
  split <;> exact ⟨rfl, rfl, rfl⟩

theorem recordSourceObservation_same (mux : Mux) (current : Playing) :
    (mux.recordSourceObservation current).1.now = mux.now ∧
      (mux.recordSourceObservation current).1.transitionLock = mux.transitionLock ∧
      (mux.recordSourceObservation current).1.testFanin = mux.testFanin := by
  have all : ∀ (sources : List Source) (seen : Mux × List Source),
      (sources.foldl (recordStart current) seen).1.now = seen.1.now ∧
      (sources.foldl (recordStart current) seen).1.transitionLock = seen.1.transitionLock ∧
      (sources.foldl (recordStart current) seen).1.testFanin = seen.1.testFanin := by
    intro sources
    induction sources with
    | nil => exact fun _ => ⟨rfl, rfl, rfl⟩
    | cons source sources ih =>
      intro seen
      obtain ⟨now, lock, gate⟩ := ih (recordStart current seen source)
      obtain ⟨now', lock', gate'⟩ := recordStart_same current seen source
      exact ⟨now.trans now', lock.trans lock', gate.trans gate'⟩
  exact all musicSources (mux, [])

variable {me : ℕ} {holds : World → Prop} {start world : World}

/-- The command may be sent wherever the assertion holds. -/
def Permits (me : ℕ) (holds : World → Prop) (command : Command) (reason : Reason) : Prop :=
  ∀ world answer, GateInvariant world → holds world → Orderly me (.connect command reason) answer world →
    command.routes = true → ∀ lease ∈ window (.sent command reason world.mux.now :: world.history),
      lease.expiresAt ≤ world.mux.now

theorem window_sent (command : Command) (reason : Reason) (now : ℕ) (history : List Event) :
    ∀ lease ∈ window (.sent command reason now :: history), lease ∈ window history := by
  intro lease mem
  unfold window at mem
  split at mem <;> rename_i same <;> cases same
  · exact (Option.mem_filter_iff.mp mem).1
  · exact mem

/-- A permitted command; one that was carried out was sent. -/
theorem faninCommand_sends {sent : World → Prop} (assertion : Assertion me holds) (later : Assertion me sent)
    (resting : Resting me holds start world) {command : Command} {reason : Reason} (permits : Permits me holds command reason)
    (sends : ∀ world, holds world → sent ⟨world.mux, .sent command reason world.mux.now :: world.history⟩)
    (still : ∀ world, sent world → holds world) :
    Safe gateAgreement me (faninCommand me command reason)
      (fun ok start world => Resting me holds start world ∧ (ok = true → sent world)) start world := by
  refine .bind (.ask resting.rests holds assertion.stable resting.holds fun at_ connected invariant here resumes => ?_)
  have resting := @Resting.refl me holds at_ invariant here
  split
  · -- It goes out at once: nothing comes between the connection and the line.
    have out : Resting me holds at_ ⟨at_.mux, .sent command reason at_.mux.now :: at_.history⟩ :=
      resting.same assertion rfl rfl rfl (window_sent command reason at_.mux.now at_.history) fun undisturbed =>
        ⟨undisturbed, permits at_ connected invariant here resumes.2⟩
    have out := out.weaken (sends at_ here)
    refine getMuxThen (logThen (.bind ((ask_safe later out _).mono fun carried start world resting => ?_)))
    refine .bind ((when_safe resting ?_).mono fun _ start world resting => ?_)
    · refine resting.change later ?_ ?_ ?_ <;> cases command <;> simp only [Command.land] <;> split <;> rfl
    · refine .bind ((ask_safe later resting _).mono fun answer start world resting => ?_)
      refine .bind ((when_safe resting ?_).mono fun _ start world resting => ?_)
      · exact resting.same later rfl rfl rfl (fun _ mem => mem) id
      · exact ⟨resting.weaken (still world resting.holds), fun _ => resting.holds⟩
  · exact ⟨resting.same assertion rfl rfl rfl (fun _ mem => mem) id, fun impossible => by cases impossible⟩

theorem faninCommand_safe (assertion : Assertion me holds) (resting : Resting me holds start world) {command : Command}
    {reason : Reason} (permits : Permits me holds command reason) :
    Safe gateAgreement me (faninCommand me command reason) (fun _ => Resting me holds) start world :=
  (faninCommand_sends assertion assertion resting permits
    (fun at_ here => assertion.same at_ _ rfl rfl rfl (window_sent command reason at_.mux.now at_.history) here)
    fun _ here => here).mono fun _ _ _ after => after.1

theorem permits_mute (label : String) (muted : Bool) (reason : Reason) : Permits me holds (.mute label muted) reason :=
  fun _ _ _ _ _ routes => by cases routes

theorem permits_of_ended {gate : Option TestFanin} {since : ℕ} (command : Command) (reason : Reason) :
    Permits me (Held me gate since (Ended since)) command reason := by
  intro world answer _ held _ _ lease mem
  exact (held.leases lease (window_sent command reason _ _ lease mem)).trans held.since

theorem faninSelectLabel_safe (assertion : Assertion me holds) (resting : Resting me holds start world) {label : String}
    {reason : Reason} (permits : Permits me holds (.select label) reason) :
    Safe gateAgreement me (faninSelectLabel me label reason) (fun _ => Resting me holds) start world := by
  refine changeThen (faninCommand_safe assertion ?_ permits)
  exact resting.change assertion rfl rfl rfl

theorem faninNone_safe (assertion : Assertion me holds) (resting : Resting me holds start world) {reason : Reason}
    (permits : Permits me holds .none reason) :
    Safe gateAgreement me (faninNone me reason) (fun _ => Resting me holds) start world := by
  refine .bind ((faninCommand_safe assertion resting permits).mono fun ok start world resting => ?_)
  refine .bind ((when_safe resting ?_).mono fun _ _ _ resting => resting)
  exact resting.change assertion rfl rfl rfl

theorem faninNoneBestEffort_safe (assertion : Assertion me holds) (resting : Resting me holds start world) {reason : Reason}
    (permits : Permits me holds .none reason) :
    Safe gateAgreement me (faninNoneBestEffort me reason) (fun _ => Resting me holds) start world :=
  .bind ((faninNone_safe assertion resting permits).mono fun _ _ _ resting => resting)

theorem usbsinkSetPreempt_safe (assertion : Assertion me holds) (resting : Resting me holds start world) (silenced : Bool)
    (reason : Reason) :
    Safe gateAgreement me (usbsinkSetPreempt me silenced reason) (fun _ => Resting me holds) start world :=
  getMuxThen (when_safe resting (.bind ((faninCommand_safe assertion resting (permits_mute _ _ _)).mono
    fun _ _ _ resting => when_safe resting (resting.change assertion rfl rfl rfl))))

theorem pauseSource_safe (assertion : Assertion me holds) (resting : Resting me holds start world) (source : Source)
    (reason : Reason) : Safe gateAgreement me (pauseSource me source reason) (fun _ => Resting me holds) start world := by
  cases source with
  | usbsink => exact usbsinkSetPreempt_safe assertion resting true reason
  | airplay => exact resting
  | spotify => exact wait_safe assertion resting _
  | bluetooth => exact wait_safe assertion resting _

theorem pauseOthers_safe (assertion : Assertion me holds) (resting : Resting me holds start world) (current : Playing)
    (target : Source) (sources : List Source) :
    Safe gateAgreement me (pauseOthers me current target sources) (fun _ => Resting me holds) start world := by
  induction sources generalizing start world with
  | nil => exact resting
  | cons source sources ih =>
    exact .bind ((when_safe resting (pauseSource_safe assertion resting source _)).mono fun _ _ _ resting => ih resting)

theorem releasePreemptIfAlone_safe (assertion : Assertion me holds) (resting : Resting me holds start world)
    (current : Playing) (reason : Reason) :
    Safe gateAgreement me (releasePreemptIfAlone me current reason) (fun _ => Resting me holds) start world :=
  getMuxThen (when_safe resting (usbsinkSetPreempt_safe assertion resting false reason))

theorem tickTail_safe (assertion : Assertion me holds) (resting : Resting me holds start world) (current : Playing) :
    Safe gateAgreement me (tickTail me current) (fun _ => Resting me holds) start world :=
  .bind ((releasePreemptIfAlone_safe assertion resting current _).mono fun _ _ _ resting =>
    getMuxThen (when_safe resting (.bind ((faninCommand_safe assertion resting (permits_mute _ _ _)).mono
      fun _ _ _ resting => resting))))

theorem afterHandoff_safe (assertion : Assertion me holds) (resting : Resting me holds start world) (current : Playing)
    (target : Source) : Safe gateAgreement me (afterHandoff me current target) (fun _ => Resting me holds) start world :=
  .bind ((pauseOthers_safe assertion resting current target _).mono fun _ _ _ resting =>
    tickTail_safe assertion resting current)

theorem observeSources_safe (assertion : Assertion me holds) (resting : Resting me holds start world) (byTick : Bool) :
    Safe gateAgreement me (observeSources me byTick) (fun _ => Resting me holds) start world := by
  refine .bind (getMuxThen (.bind ((when_safe resting (wait_safe assertion resting _)).mono fun _ start world resting => ?_)))
  have taken : Resting me holds start { world with mux := { world.mux with observationLock := some me } } :=
    resting.change assertion rfl rfl rfl
  refine .bind ((ask_safe assertion taken _).mono fun probed start world resting => ?_)
  obtain ⟨now, lock, gate⟩ := recordSourceObservation_same world.mux probed.playing
  exact (resting.change assertion now lock gate).change assertion rfl rfl rfl

end Commands

section Handoffs

variable {me : ℕ} {start world : World} {gate : Option TestFanin} {since : ℕ}

def KeepsGate (commit : Mux → Mux) : Prop :=
  ∀ mux, (commit mux).now = mux.now ∧ (commit mux).transitionLock = mux.transitionLock ∧
    (commit mux).testFanin = mux.testFanin

theorem keepsGate_autoWinner (source : Source) : KeepsGate (Mux.commitAutoWinner source) := fun _ => ⟨rfl, rfl, rfl⟩

theorem keepsGate_manualSelection (source : Source) : KeepsGate (Mux.commitManualSelection source) :=
  fun _ => ⟨rfl, rfl, rfl⟩

theorem keepsGate_autoSelection (source : Source) : KeepsGate (Mux.commitAutoSelection source) := fun _ => ⟨rfl, rfl, rfl⟩

theorem moveGate_safe (resting : Resting me (Held me gate since (Ended since)) start world) (source : Source) (reason : Reason)
    {commit : Mux → Mux} (keeps : KeepsGate commit) :
    Safe gateAgreement me (moveGate me source reason commit) (fun _ => Resting me (Held me gate since (Ended since))) start world := by
  have assertion := held_assertion me gate since (Ended since)
  refine .bind ((faninSelectLabel_safe assertion resting (permits_of_ended _ _)).mono fun selected start world resting => ?_)
  split
  · refine .bind ((wait_safe assertion resting _).mono fun _ start world resting => changeThen ?_)
    exact resting.change assertion (keeps world.mux).1 (keeps world.mux).2.1 (keeps world.mux).2.2
  · exact .bind ((wait_safe assertion resting _).mono fun _ _ _ resting => resting)

theorem transitionToSource_safe (resting : Resting me (Held me gate since (Ended since)) start world) (previous : Option Source)
    (source : Source) (reason : Reason) {commit : Mux → Mux} (keeps : KeepsGate commit) :
    Safe gateAgreement me (transitionToSource me previous source reason commit)
      (fun _ => Resting me (Held me gate since (Ended since))) start world := by
  have assertion := held_assertion me gate since (Ended since)
  refine .bind ((ask_safe assertion resting _).mono fun handoff start world resting => ?_)
  split
  · exact resting
  · have published : ∀ {start world : World} (selected : Bool), Resting me (Held me gate since (Ended since)) start world →
        Safe gateAgreement me (wait .publish >>= fun _ => pure (some selected)) (fun _ => Resting me (Held me gate since (Ended since)))
          start world := fun _ resting => .bind ((wait_safe assertion resting _).mono fun _ _ _ resting => resting)
    split
    · exact .bind ((moveGate_safe resting source reason keeps).mono fun selected _ _ resting => published selected resting)
    · exact published false resting

theorem failedHandoff_safe (resting : Resting me (Held me gate since (Ended since)) start world) (target : Source)
    (reason : Reason) :
    Safe gateAgreement me (failedHandoff me target reason) (fun _ => Resting me (Held me gate since (Ended since)))
      start world := by
  have assertion := held_assertion me gate since (Ended since)
  refine changeThen (getMuxThen (when_safe ?_ (faninNoneBestEffort_safe assertion ?_ (permits_of_ended _ _))))
  · exact resting.change assertion rfl rfl rfl
  · exact resting.change assertion rfl rfl rfl

theorem moveToTarget_safe (resting : Resting me (Held me gate since (Ended since)) start world) (target : Source)
    (reason : Reason) :
    Safe gateAgreement me (moveToTarget me target reason) (fun _ => Resting me (Held me gate since (Ended since)))
      start world := by
  have assertion := held_assertion me gate since (Ended since)
  refine .bind ((when_safe resting (usbsinkSetPreempt_safe assertion resting _ _)).mono fun _ start world resting => ?_)
  refine getMuxThen (.bind ((transitionToSource_safe resting _ _ _ (keepsGate_autoWinner target)).mono
    fun selected start world resting => ?_))
  cases selected with
  | none => exact logThen (resting.same assertion rfl rfl rfl (fun _ mem => mem) id)
  | some selected =>
    cases selected with
    | true => exact .bind ((when_safe resting (wait_safe assertion resting _)).mono fun _ _ _ resting => resting)
    | false =>
      have logged : Resting me (Held me gate since (Ended since)) start ⟨world.mux, .handoffFailed me :: world.history⟩ :=
        resting.same assertion rfl rfl rfl (fun _ mem => mem) id
      exact logThen (.bind ((failedHandoff_safe logged target _).mono fun _ _ _ resting => resting))

theorem manualHandoff_safe (resting : Resting me (Held me gate since (Ended since)) start world) (source : Source) :
    Safe gateAgreement me (manualHandoff me source) (fun _ => Resting me (Held me gate since (Ended since)))
      start world := by
  have assertion := held_assertion me gate since (Ended since)
  have cleared : Resting me (Held me gate since (Ended since)) start ⟨{ world.mux with pendingAutoTarget := none }, world.history⟩ :=
    resting.change assertion rfl rfl rfl
  refine changeThen (getMuxThen (.bind ((transitionToSource_safe cleared _ _ _ (keepsGate_manualSelection source)).mono
    fun selected start world resting => ?_)))
  cases selected with
  | none => exact resting
  | some selected =>
    cases selected with
    | true => exact .bind ((usbsinkSetPreempt_safe assertion resting _ _).mono fun _ _ _ resting => resting)
    | false =>
      exact getMuxThen (.bind ((when_safe resting (faninNoneBestEffort_safe assertion resting (permits_of_ended _ _))).mono
        fun _ _ _ resting => resting))

theorem returnToAuto_safe (resting : Resting me (Held me gate since (Ended since)) start world) (target : Source) :
    Safe gateAgreement me (returnToAuto me target) (fun _ => Resting me (Held me gate since (Ended since)))
      start world := by
  have assertion := held_assertion me gate since (Ended since)
  refine getMuxThen (.bind ((transitionToSource_safe resting _ _ _ (keepsGate_autoSelection target)).mono
    fun selected start world resting => ?_))
  cases selected with
  | none => exact resting
  | some selected =>
    cases selected with
    | true =>
      refine .bind ((when_safe resting (usbsinkSetPreempt_safe assertion resting _ _)).mono fun _ start world resting => ?_)
      exact .bind ((when_safe resting (wait_safe assertion resting _)).mono fun _ _ _ resting => resting)
    | false => exact .bind ((failedHandoff_safe resting target _).mono fun _ _ _ resting => resting)

theorem returnToIdle_safe (resting : Resting me (Held me gate since (Ended since)) start world) :
    Safe gateAgreement me (returnToIdle me) (fun _ => Resting me (Held me gate since (Ended since))) start world := by
  have assertion := held_assertion me gate since (Ended since)
  refine changeThen (faninNone_safe assertion ?_ (permits_of_ended _ _))
  exact resting.change assertion rfl rfl rfl

end Handoffs

section Locks

variable {me : ℕ} {start world : World}

theorem Resting.mine {holds : World → Prop} (resting : Resting me holds start world)
    (lock : world.mux.transitionLock = some me) {holder : ℕ} (held : start.mux.transitionLock = some holder)
    (differs : some me ≠ some holder) : False := by
  have still := (resting.rests.1.2 holder held differs).1
  rw [lock] at still
  exact differs still

theorem Resting.take (resting : Resting me (fun _ => True) start world) (free : world.mux.transitionLock = none) :
    Resting me (Held me world.mux.testFanin world.mux.now fun _ => True) start
      ⟨{ world.mux with transitionLock := some me }, world.history⟩ := by
  obtain ⟨⟨⟨later, kept⟩, invariant⟩, -⟩ := resting
  refine ⟨⟨⟨later, fun holder held differs => ?_⟩, ⟨⟨invariant.undisturbed, invariant.held⟩, invariant.label, invariant.lease⟩⟩,
    rfl, rfl, le_rfl, fun _ _ => trivial⟩
  have still := (kept holder held differs).1
  rw [free] at still
  cases still

theorem Resting.drop {gate : Option TestFanin} {since : ℕ} {may : Lease → Prop}
    (resting : Resting me (Held me gate since may) start world) :
    Resting me (fun _ => True) start ⟨{ world.mux with transitionLock := none }, world.history⟩ :=
  ⟨⟨⟨resting.rests.1.1, fun _ held differs => (resting.mine resting.holds.lock held differs).elim⟩,
    ⟨⟨resting.rests.2.undisturbed, resting.rests.2.held⟩, resting.rests.2.label, resting.rests.2.lease⟩⟩, trivial⟩

/-- The lock, taken at once or later: the gate is known from there on, and it is as the run's condition has it. -/
theorem acquire_safe {holder : Holder} {post : Unit → World → World → Prop} (resting : Resting me (fun _ => True) start world)
    (fits : ∀ answer, Orderly me (.transitionLock holder) answer world)
    (onward : ∀ start world, Resting me (Held me world.mux.testFanin world.mux.now fun _ => True) start world →
      (∀ answer, Orderly me (.transitionLock holder) answer world) → post () start world) :
    Safe gateAgreement me (acquireTransition me holder) post start world := by
  refine getMuxThen (.bind ?_)
  refine .when (fun _ => .wait resting.rests (fun _ => True) true_assertion.stable trivial
    fun later answer invariant _ resumes => ?_) fun free => ?_
  · have taken := (@Resting.refl me (fun _ => True) later invariant trivial).take
      (by simpa [ready] using resumes.1)
    exact onward _ _ taken fun _ => resumes.2
  · exact onward _ _ (resting.take (by simpa using free)) fits

/-- Where the gate is free, or its lease over, every lease has ended. -/
theorem Resting.ended {gate : Option TestFanin} {since : ℕ} {may : Lease → Prop}
    (resting : Resting me (Held me gate since may) start world)
    (past : ∀ gate ∈ world.mux.testFanin, gate.expiresAt ≤ world.mux.now) :
    Resting me (Held me gate world.mux.now (Ended world.mux.now)) start world := by
  refine resting.weaken ⟨resting.holds.lock, resting.holds.gate, le_rfl, fun lease mem => ?_⟩
  by_contra active
  obtain ⟨gate, there, -, within⟩ := resting.rests.2.held lease mem (not_le.mp active)
  exact active (within.trans (past gate there))

theorem Resting.ended_of_none {gate : Option TestFanin} {since : ℕ} {may : Lease → Prop}
    (resting : Resting me (Held me gate since may) start world) (free : world.mux.testFanin = none) :
    Resting me (Held me gate world.mux.now (Ended world.mux.now)) start world :=
  resting.ended fun gate there => by simp [free] at there

end Locks

section Verbs

variable {me : ℕ} {start world : World}

/-- The gate of the household restored under an assertion that what is sent may make stronger. -/
theorem restore_sends {holds sent : World → Prop} (assertion : Assertion me holds) (later : Assertion me sent)
    (resting : Resting me holds start world) {reason : Reason} (permits : ∀ command, Permits me holds command reason)
    (sends : ∀ command world, holds world → sent ⟨world.mux, .sent command reason world.mux.now :: world.history⟩)
    (still : ∀ world, sent world → holds world) :
    Safe gateAgreement me (restoreNormalFaninGate me reason)
      (fun ok start world => Resting me holds start world ∧ (ok = true → sent world)) start world := by
  have select : ∀ source, Safe gateAgreement me (faninSelect me source reason)
      (fun ok start world => Resting me holds start world ∧ (ok = true → sent world)) start world := by
    intro source
    refine changeThen (faninCommand_sends assertion later ?_ (permits _) (sends _) still)
    exact resting.change assertion rfl rfl rfl
  have silence : Safe gateAgreement me (faninNone me reason)
      (fun ok start world => Resting me holds start world ∧ (ok = true → sent world)) start world := by
    refine .bind ((faninCommand_sends assertion later resting (permits _) (sends _) still).mono
      fun ok start world after => ?_)
    refine .bind (.when (fun carried => ?_) fun missed => after)
    refine ⟨after.1.change assertion rfl rfl rfl, fun _ => ?_⟩
    exact later.same world _ rfl rfl rfl (fun _ mem => mem) (after.2 carried)
  refine getMuxThen ?_
  split
  · exact select _
  · split
    · exact select _
    · exact silence
  · exact silence

theorem Resting.clear {gate : Option TestFanin} {since : ℕ}
    (resting : Resting me (Held me gate since (Ended since)) start world) :
    Resting me (Held me none since (Ended since)) start ⟨{ world.mux with testFanin := none }, world.history⟩ := by
  obtain ⟨lock, -, passed, leases⟩ := resting.holds
  refine ⟨⟨⟨resting.rests.1.1, fun _ held differs => (resting.mine lock held differs).elim⟩,
    ⟨⟨resting.rests.2.undisturbed, fun lease mem active => ?_⟩, ?_, ?_⟩⟩, lock, rfl, passed, leases⟩
  · exact absurd ((leases lease mem).trans passed) (not_le.mpr active)
  · exact nofun
  · exact nofun

/-- Whoever may claim the gate has the lease that is running. -/
theorem Resting.claim {gate : Option TestFanin} {since : ℕ} {may : Lease → Prop} {label owner : String}
    (resting : Resting me (Held me gate since may) start world) (known : label ∈ faninTestLabels)
    (mine : ∀ gate ∈ world.mux.testFanin, gate.owner = owner) :
    Resting me (Held me (some ⟨label, owner, world.mux.now + faninTestLeaseSec⟩) since may) start
      ⟨{ world.mux with testFanin := some ⟨label, owner, world.mux.now + faninTestLeaseSec⟩ }, world.history⟩ := by
  obtain ⟨lock, -, passed, leases⟩ := resting.holds
  refine ⟨⟨⟨resting.rests.1.1, fun _ held differs => (resting.mine lock held differs).elim⟩,
    ⟨⟨resting.rests.2.undisturbed, fun lease mem active => ?_⟩, ?_, ?_⟩⟩, lock, rfl, passed, leases⟩
  · obtain ⟨gate, there, same, within⟩ := resting.rests.2.held lease mem active
    exact ⟨_, rfl, (mine gate there).symm.trans same, within.trans (resting.rests.2.lease gate there)⟩
  · rintro _ ⟨⟩
    exact known
  · rintro _ ⟨⟩
    exact le_rfl

theorem routes_of_testLabel {label : String} (known : label ∈ faninTestLabels) : (Command.select label).routes = false := by
  obtain rfl : label = "correction" := List.mem_singleton.mp known
  decide

/-- The task has the lock. -/
def Holding (me : ℕ) (start world : World) : Prop := ∃ gate since may, Resting me (Held me gate since may) start world

theorem Holding.drop (holding : Holding me start world) :
    Resting me (fun _ => True) start ⟨{ world.mux with transitionLock := none }, world.history⟩ := by
  obtain ⟨_, _, _, resting⟩ := holding
  exact resting.drop

theorem Resting.grant {label owner : String} {expiresAt since : ℕ} {may : Lease → Prop}
    (resting : Resting me (Held me (some ⟨label, owner, expiresAt⟩) since may) start world) :
    Holding me start ⟨world.mux, .testSelected owner expiresAt :: world.history⟩ := by
  obtain ⟨lock, gate, passed, -⟩ := resting.holds
  refine ⟨_, since, fun _ => True, ⟨⟨resting.rests.1.1, fun _ held differs => (resting.mine lock held differs).elim⟩,
    ⟨⟨resting.rests.2.undisturbed, ?_⟩, resting.rests.2.label, resting.rests.2.lease⟩⟩, lock, gate, passed, fun _ _ => trivial⟩
  rintro _ ⟨⟩ active
  exact ⟨_, gate, rfl, le_rfl⟩

theorem rollBackTestSelect_safe {gate : Option TestFanin} {since : ℕ}
    (resting : Resting me (Held me gate since (Ended since)) start world) :
    Safe gateAgreement me (rollBackTestSelect me) (fun _ => Holding me) start world := by
  have assertion := held_assertion me gate since (Ended since)
  refine .bind ((restore_sends assertion assertion resting (fun _ => permits_of_ended _ _)
    (fun command at_ here => assertion.same at_ _ rfl rfl rfl (window_sent command _ at_.mux.now at_.history) here)
    fun _ here => here).mono fun restored start world after => ?_)
  exact .when (fun _ => ⟨_, _, _, after.1.clear⟩) fun _ => ⟨_, _, _, after.1⟩

theorem claimTestFanin_safe {gate : Option TestFanin} {since : ℕ} {label owner : String} {alreadyOwned : Bool}
    (resting : Resting me (Held me gate since fun _ => True) start world) (known : label ∈ faninTestLabels)
    (mine : ∀ gate ∈ world.mux.testFanin, gate.owner = owner)
    (fresh : alreadyOwned = false → world.mux.testFanin = none) :
    Safe gateAgreement me (claimTestFanin me label owner alreadyOwned) (fun _ => Holding me) start world := by
  -- Where no one had the gate, every lease has ended.
  let may : Lease → Prop := fun lease => alreadyOwned = false → Ended world.mux.now lease
  have first : Resting me (Held me gate world.mux.now may) start world := by
    refine resting.weaken ⟨resting.holds.lock, resting.holds.gate, le_rfl, fun lease mem new => ?_⟩
    exact (resting.ended_of_none (fresh new)).holds.leases lease mem
  have assertion := held_assertion me (some ⟨label, owner, world.mux.now + faninTestLeaseSec⟩) world.mux.now may
  have permits : Permits me (Held me (some ⟨label, owner, world.mux.now + faninTestLeaseSec⟩) world.mux.now may)
      (.select label) .testSelect := by
    intro _ _ _ _ _ routes
    rw [routes_of_testLabel known] at routes
    cases routes
  refine getMuxThen (changeThen (.bind ((faninSelectLabel_safe assertion (first.claim known mine) permits).mono
    fun ok start world' resting => ?_)))
  split
  · exact resting.grant
  · refine .when (fun new => ?_) fun _ => ⟨_, _, _, resting⟩
    have new : alreadyOwned = false := by simpa using new
    exact rollBackTestSelect_safe (resting.weaken ⟨resting.holds.lock, resting.holds.gate, resting.holds.since,
      fun lease mem => resting.holds.leases lease mem new⟩)

theorem ownedBy_iff {mux : Mux} {owner : String} :
    mux.ownedBy owner = true ↔ ∃ gate, mux.testFanin = some gate ∧ gate.owner = owner := by
  simp [Mux.ownedBy, Option.any_eq_true]

theorem owner_of_free {mux : Mux} {owner : String} (free : (mux.testFanin.isNone || mux.ownedBy owner) = true) :
    ∀ gate ∈ mux.testFanin, gate.owner = owner := by
  intro gate there
  rcases (Bool.or_eq_true _ _).mp free with none_ | owned
  · rw [Option.isNone_iff_eq_none.mp none_] at there
    cases there
  · obtain ⟨other, same, owner⟩ := ownedBy_iff.mp owned
    rw [same] at there
    obtain rfl := Option.some.inj there
    exact owner

theorem selectTestFaninLabel_safe (resting : Resting me (fun _ => True) start world) (label owner : String) :
    Safe gateAgreement me (selectTestFaninLabel me label owner) (fun _ => Resting me fun _ => True) start world := by
  refine .when (fun valid => ?_) fun _ => resting
  obtain ⟨known, -⟩ : label ∈ faninTestLabels ∧ owner ≠ "" := by simpa using valid
  refine .bind (acquire_safe resting (fun _ => trivial) fun start world resting _ => getMuxThen ?_)
  have claimed : Safe gateAgreement me
      (when (world.mux.testFanin.isNone || world.mux.ownedBy owner) (claimTestFanin me label owner (world.mux.ownedBy owner)))
      (fun _ => Holding me) start world := by
    refine .when (fun free => ?_) fun _ => ⟨_, _, _, resting⟩
    refine claimTestFanin_safe resting known (owner_of_free free) fun new => ?_
    simpa [new] using free
  exact .bind (claimed.mono fun _ _ _ holding => holding.drop)

/-- A release: what it sends is within no lease of another owner. -/
theorem restoreTestFanin_safe {gate : Option TestFanin} {since : ℕ} {may : Lease → Prop} {requested : Option String}
    (resting : Resting me (Held me gate since may) start world)
    (permits : ∀ command, Permits me (Held me gate since may) command (.testRelease requested))
    (sends : ∀ command world, Held me gate since may world →
      Held me gate since (Ended since) ⟨world.mux, .sent command (.testRelease requested) world.mux.now :: world.history⟩)
    (still : ∀ lease, Ended since lease → may lease) :
    Safe gateAgreement me (restoreTestFanin me requested) (fun _ => Holding me) start world := by
  have weaker : ∀ world, Held me gate since (Ended since) world → Held me gate since may world := fun world held =>
    ⟨held.lock, held.gate, held.since, fun lease mem => still lease (held.leases lease mem)⟩
  refine getMuxThen (.bind ((restore_sends (held_assertion me gate since may) (held_assertion me gate since (Ended since)) resting
    permits sends weaker).mono fun restored start world' after => ?_))
  split
  · rename_i carried
    exact ⟨_, _, _, (after.1.weaken (after.2 carried)).clear⟩
  · refine getMuxThen ?_
    have same : world'.mux.testFanin = world.mux.testFanin := after.1.holds.gate.trans resting.holds.gate.symm
    exact ⟨_, _, _, after.1.same (held_assertion me gate since may) rfl rfl rfl (fun _ mem => mem) fun undisturbed =>
      ⟨undisturbed, same⟩⟩

theorem releaseTestFaninLabel_safe (resting : Resting me (fun _ => True) start world) (owner : String)
    (requested : Option String) (asked : ∀ asking ∈ requested, asking = owner)
    (fits : ∀ answer, Orderly me (.transitionLock (.testRelease requested)) answer world) :
    Safe gateAgreement me (releaseTestFaninLabel me owner requested) (fun _ => Resting me fun _ => True) start world := by
  refine .when (fun _ => ?_) fun _ => resting
  refine .bind (acquire_safe resting fits fun start world resting fits => getMuxThen ?_)
  have restored : Safe gateAgreement me
      (when (world.mux.testFanin.isNone || world.mux.ownedBy owner) (restoreTestFanin me requested))
      (fun _ => Holding me) start world := by
    refine .when (fun free => ?_) fun _ => ⟨_, _, _, resting⟩
    cases requested with
    | none =>
      have ended := resting.ended (fits default)
      exact restoreTestFanin_safe ended (fun _ => permits_of_ended _ _) (fun command at_ here =>
        (held_assertion _ _ _ _).same at_ _ rfl rfl rfl (window_sent command _ at_.mux.now at_.history) here) fun _ here => here
    | some asking =>
      obtain rfl := asked asking rfl
      -- Every lease that is running is the owner's, and the command of its release ends it.
      let may : Lease → Prop := fun lease => lease.owner ≠ asking → Ended world.mux.now lease
      have running : Resting me (Held me world.mux.testFanin world.mux.now may) start world := by
        refine resting.weaken ⟨resting.holds.lock, rfl, le_rfl, fun lease mem other => ?_⟩
        by_contra active
        obtain ⟨gate, there, same, -⟩ := resting.rests.2.held lease mem (not_le.mp active)
        exact other (same.symm.trans (owner_of_free free gate there))
      have others : ∀ command (at_ : World), Held me world.mux.testFanin world.mux.now may at_ →
          ∀ lease ∈ window (.sent command (.testRelease (some asking)) at_.mux.now :: at_.history), Ended world.mux.now lease := by
        intro command at_ held lease mem
        obtain ⟨mem, other⟩ := Option.mem_filter_iff.mp mem
        exact held.leases lease mem (by simpa using other)
      refine restoreTestFanin_safe running (fun command at_ _ _ held _ _ lease mem => ?_) (fun command at_ held => ?_)
        fun lease ended _ => ended
      · exact (others command at_ held lease mem).trans held.since
      · exact ⟨held.lock, held.gate, held.since, others command at_ held⟩
  exact .bind (restored.mono fun _ _ _ holding => holding.drop)

theorem reassertTestFaninLabel_safe (resting : Resting me (fun _ => True) start world) :
    Safe gateAgreement me (reassertTestFaninLabel me) (fun _ => Resting me fun _ => True) start world := by
  refine .bind (acquire_safe resting (fun _ => trivial) fun start world resting _ => getMuxThen ?_)
  split
  · exact resting.drop
  · rename_i gate there
    have assertion := held_assertion me world.mux.testFanin world.mux.now fun _ => True
    have permits : Permits me (Held me world.mux.testFanin world.mux.now fun _ => True) (.select gate.label) .testTick := by
      intro _ _ _ _ _ routes
      rw [routes_of_testLabel (resting.rests.2.label gate there)] at routes
      cases routes
    exact .bind ((faninSelectLabel_safe assertion resting permits).mono fun _ _ _ resting => resting.drop)

end Verbs

section Tick

variable {me : ℕ} {start world : World}

theorem reassertManualSource_safe (resting : Resting me (fun _ => True) start world) (free : world.mux.testFanin = none) :
    Safe gateAgreement me (reassertManualSource me) (fun _ => Resting me fun _ => True) start world := by
  refine .bind (acquire_safe resting (fun _ => free) fun start world resting free => getMuxThen ?_)
  have ended := resting.ended_of_none (free default)
  have assertion := held_assertion me world.mux.testFanin world.mux.now (Ended world.mux.now)
  split
  · exact resting.drop
  · refine .bind ((faninSelectLabel_safe assertion ended (permits_of_ended _ _)).mono fun _ start world resting => ?_)
    refine .bind ((usbsinkSetPreempt_safe assertion resting _ _).mono fun _ start world resting => changeThen ?_)
    refine Resting.drop (resting.change assertion ?_ ?_ ?_) <;> rfl

theorem reassertAutoWinner_safe (resting : Resting me (fun _ => True) start world) (free : world.mux.testFanin = none)
    (current : Playing) :
    Safe gateAgreement me (reassertAutoWinner me current) (fun _ => Resting me fun _ => True) start world := by
  refine .bind (acquire_safe resting (fun _ => free) fun start world resting free => getMuxThen ?_)
  have ended := resting.ended_of_none (free default)
  have assertion := held_assertion me world.mux.testFanin world.mux.now (Ended world.mux.now)
  split
  · exact .bind ((faninSelectLabel_safe assertion ended (permits_of_ended _ _)).mono fun _ _ _ resting => resting.drop)
  · exact resting.drop

theorem tickHandoff_safe (resting : Resting me (fun _ => True) start world) (free : world.mux.testFanin = none)
    (target : Source) (reason : Reason) :
    Safe gateAgreement me (tickHandoff me target reason) (fun _ => Resting me fun _ => True) start world := by
  refine .bind (acquire_safe resting (fun _ => free) fun start world resting free => getMuxThen ?_)
  have ended := resting.ended_of_none (free default)
  split
  · exact resting.drop
  · exact .bind ((moveToTarget_safe ended target reason).mono fun _ _ _ resting => resting.drop)

theorem idleTick_safe (resting : Resting me (fun _ => True) start world) :
    Safe gateAgreement me (idleTick me) (fun _ => Resting me fun _ => True) start world := by
  have idle : Resting me (fun _ => True) start
      ⟨{ world.mux with winner := none, pendingAutoTarget := none }, world.history⟩ := resting.change true_assertion rfl rfl rfl
  refine changeThen (getMuxThen (when_safe idle (faninNoneBestEffort_safe true_assertion idle ?_)))
  intro world answer invariant _ free _ lease mem
  by_contra active
  obtain ⟨gate, there, -⟩ := invariant.held lease mem (not_le.mp active)
  rw [show world.mux.testFanin = none from free] at there
  cases there

theorem steadyTick_safe (resting : Resting me (fun _ => True) start world) (free : world.mux.testFanin = none)
    (current : Playing) :
    Safe gateAgreement me (steadyTick me current) (fun _ => Resting me fun _ => True) start world := by
  refine getMuxThen ?_
  split
  · exact reassertAutoWinner_safe resting free current
  · exact idleTick_safe resting

theorem decide_same (mux : Mux) (current : Playing) (newlyStarted : List Source) :
    (mux.decide current newlyStarted).1.now = mux.now ∧
      (mux.decide current newlyStarted).1.transitionLock = mux.transitionLock ∧
      (mux.decide current newlyStarted).1.testFanin = mux.testFanin := by
  unfold Mux.decide
  dsimp only
  split
  · exact ⟨rfl, rfl, rfl⟩
  · split
    · exact ⟨rfl, rfl, rfl⟩
    · split <;> exact ⟨rfl, rfl, rfl⟩

theorem autoTick_safe (resting : Resting me (fun _ => True) start world) (free : world.mux.testFanin = none)
    (current : Playing) (newlyStarted : List Source) :
    Safe gateAgreement me (autoTick me current newlyStarted) (fun _ => Resting me fun _ => True) start world := by
  obtain ⟨now, lock, gate⟩ := decide_same world.mux current newlyStarted
  have decided : Resting me (fun _ => True) start ⟨(world.mux.decide current newlyStarted).1, world.history⟩ :=
    resting.change true_assertion now lock gate
  have free := gate.trans free
  refine getMuxThen (changeThen ?_)
  split
  · exact .bind ((steadyTick_safe decided free current).mono fun _ _ _ resting => tickTail_safe true_assertion resting current)
  · split
    · exact tickTail_safe true_assertion decided current
    · exact .bind ((tickHandoff_safe decided free _ _).mono fun _ _ _ resting =>
        when_safe resting (afterHandoff_safe true_assertion resting current _))

theorem expireLease_safe (resting : Resting me (fun _ => True) start world) :
    Safe gateAgreement me (expireLease me) (fun _ => Resting me fun _ => True) start world := by
  refine getMuxThen ?_
  split
  · exact resting
  · rename_i gate there
    refine .when (fun expired => ?_) fun _ => resting
    refine releaseTestFaninLabel_safe resting gate.owner none (nofun) fun _ other held => ?_
    rw [there] at held
    obtain rfl := Option.some.inj held
    simpa using expired

theorem reconcile_safe (resting : Resting me (fun _ => True) start world) (current : Playing) (newlyStarted : List Source) :
    Safe gateAgreement me (reconcile me current newlyStarted) (fun _ => Resting me fun _ => True) start world := by
  refine getMuxThen ?_
  split
  · exact reassertTestFaninLabel_safe resting
  · rename_i free
    have free : world.mux.testFanin = none := by simpa using free
    split
    · exact reassertManualSource_safe resting free
    · exact autoTick_safe resting free current newlyStarted

theorem tick_safe (resting : Resting me (fun _ => True) start world) :
    Safe gateAgreement me (tick me) (fun _ => Resting me fun _ => True) start world := by
  refine .bind ((wait_safe true_assertion resting _).mono fun _ start world resting => changeThen ?_)
  have ticking : Resting me (fun _ => True) start ⟨{ world.mux with ticking := some me }, world.history⟩ :=
    resting.change true_assertion rfl rfl rfl
  refine .bind ((observeSources_safe true_assertion ticking true).mono fun observed start world resting => ?_)
  refine .bind ((expireLease_safe resting).mono fun _ start world resting => ?_)
  refine .bind ((reconcile_safe resting observed.1 observed.2).mono fun _ start world resting => ?_)
  exact getMuxThen (logThen (resting.same true_assertion rfl rfl rfl (fun _ mem => mem) id))

end Tick

section Control

variable {me : ℕ} {start world : World}

theorem selectSource_safe (resting : Resting me (fun _ => True) start world) (source : Source) :
    Safe gateAgreement me (selectSource me source) (fun _ => Resting me fun _ => True) start world := by
  refine .bind (acquire_safe resting (fun _ => trivial) fun start world resting _ => getMuxThen ?_)
  split
  · exact resting.drop
  · rename_i free
    have ended := resting.ended_of_none (by simpa using free)
    refine .bind ((manualHandoff_safe ended source).mono fun answered start world resting => changeThen ?_)
    exact when_safe resting.drop (.bind ((observeSources_safe true_assertion resting.drop false).mono
      fun _ _ _ resting => resting))

theorem autoHandoff_safe (resting : Resting me (fun _ => True) start world) (current : Playing) (target : Option Source) :
    Safe gateAgreement me (autoHandoff me current target) (fun _ => Resting me fun _ => True) start world := by
  refine .bind (acquire_safe resting (fun _ => trivial) fun start world resting _ => getMuxThen ?_)
  split
  · exact resting.drop
  · rename_i free
    have ended := resting.ended_of_none (by simpa using free)
    have finish : ∀ {start world : World} {gate : Option TestFanin} {since : ℕ} (moved : Bool),
        Resting me (Held me gate since (Ended since)) start world →
        Safe gateAgreement me (releaseTransition >>= fun _ => when moved do
          target.forM fun target => pauseOthers me current target musicSources
          releasePreemptIfAlone me current .manualAutoOthersIdle) (fun _ => Resting me fun _ => True) start world := by
      intro start world gate since moved resting
      refine changeThen (when_safe resting.drop (.bind ?_))
      have paused : Safe gateAgreement me (target.forM fun target => pauseOthers me current target musicSources)
          (fun _ => Resting me fun _ => True) start ⟨{ world.mux with transitionLock := none }, world.history⟩ := by
        cases target with
        | none => exact resting.drop
        | some target => exact pauseOthers_safe true_assertion resting.drop current target musicSources
      exact paused.mono fun _ _ _ resting => releasePreemptIfAlone_safe true_assertion resting current _
    split
    · exact .bind ((returnToAuto_safe ended _).mono fun moved _ _ resting => finish moved resting)
    · exact .bind ((returnToIdle_safe ended).mono fun moved _ _ resting => finish moved resting)

theorem autoSelect_safe (resting : Resting me (fun _ => True) start world) :
    Safe gateAgreement me (autoSelect me) (fun _ => Resting me fun _ => True) start world := by
  refine getMuxThen (when_safe resting (.bind ((observeSources_safe true_assertion resting false).mono
    fun observed start world resting => getMuxThen (autoHandoff_safe resting _ _))))

theorem preempt_safe (resting : Resting me (fun _ => True) start world) :
    Safe gateAgreement me (preempt me) (fun _ => Resting me fun _ => True) start world := by
  refine .bind (acquire_safe resting (fun _ => trivial) fun start world resting _ => ?_)
  exact .bind ((wait_safe (held_assertion _ _ _ _) resting _).mono fun _ _ _ resting => resting.drop)

/-- Every verb keeps to the agreement on the gate. -/
theorem task_safe (resting : Resting me (fun _ => True) start world) (verb : Verb) :
    Safe gateAgreement me (task verb me) (fun _ => Resting me fun _ => True) start world := by
  cases verb with
  | tick => exact tick_safe resting
  | select source => exact selectSource_safe resting source
  | auto => exact autoSelect_safe resting
  | preempt => exact preempt_safe resting
  | testSelect label owner => exact selectTestFaninLabel_safe resting label owner
  | testRelease owner =>
    refine logThen (releaseTestFaninLabel_safe ?_ owner (some owner) (fun _ same => (Option.some.inj same).symm) fun _ => trivial)
    exact resting.same true_assertion rfl rfl rfl (fun _ mem => (Option.mem_filter_iff.mp mem).1) id

end Control

/-- In every run that is orderly the test gate is exclusive. -/
theorem test_gate_is_exclusive (pool : Pool Point Answer World)
    (reached : Transition.Reachable ((Pool.system setting Starts).restrict (Pool.Meets Orderly)) pool) :
    Exclusive pool.shared := by
  have invariant : GateInvariant pool.shared := by
    refine @Pool.invariant_of_reachable _ _ _ _ _ gateAgreement _ _ _ ?_ ?_ ?_ ?_ _ reached
    · rintro _ ⟨manual, now, rfl⟩
      exact ⟨⟨trivial, nofun⟩, nofun, nofun⟩
    · intro verb me world invariant
      exact (task_safe (Resting.refl invariant trivial) verb).mono fun _ _ _ resting => resting.rests
    · intro event world invariant
      cases event with
      | pass seconds =>
        refine ⟨⟨⟨invariant.undisturbed, fun lease mem active => ?_⟩, invariant.label, fun gate there => ?_⟩,
          Nat.le_add_right _ _, fun _ held _ => ⟨held, rfl, fun _ mem => mem⟩⟩
        · exact invariant.held lease mem (lt_of_le_of_lt (Nat.le_add_right _ _) active)
        · exact (invariant.lease gate there).trans (Nat.add_le_add_right (Nat.le_add_right _ _) _)
      | faninRestarts =>
        exact ⟨⟨⟨invariant.undisturbed, invariant.held⟩, invariant.label, invariant.lease⟩, le_rfl,
          fun _ held _ => ⟨held, rfl, fun _ mem => mem⟩⟩
    · exact fun task point answer world ready orderly => ⟨ready, orderly⟩
  exact invariant.toExclusive

section Runs

def yes : Answer := ⟨true, false, fun _ => false⟩

def shows (source : Source) : Answer := ⟨true, false, (· = source)⟩

def first : Pool Point Answer World := Pool.start ⟨Mux.initial none 0, []⟩

theorem first_initial : ∃ shared, Starts shared ∧ first = Pool.start shared := ⟨_, ⟨none, 0, rfl⟩, rfl⟩

/-- A test is selected, kept through a tick and released. -/
theorem gate_held_and_released : ∃ pool : Pool Point Answer World, pool.shared.history ≠ [] ∧ Exclusive pool.shared := by
  have run : ((Transition.execute (Transition.guarded (Pool.Meets Orderly) (Pool.step setting)) first
      [[.spawn (.testSelect "correction" "tuning")], List.replicate 3 (.resume 0 yes),
        [.spawn .tick, .resume 1 yes, .resume 1 (shows .spotify)], List.replicate 3 (.resume 1 yes),
        [.spawn (.testRelease "tuning")], List.replicate 3 (.resume 2 yes)].flatten).any
      fun pool : Pool Point Answer World => !pool.shared.history.isEmpty) = true := by
    decide +kernel
  obtain ⟨pool, run, some_⟩ := (Option.any_eq_true _ _).mp run
  have happened : pool.shared.history ≠ [] := by simpa using some_
  exact ⟨pool, happened, test_gate_is_exclusive pool (Transition.restricted_of_execute first_initial run)⟩

/-- A tick finds no gate and waits for the lock, a test is selected first, and the tick lets its source through. -/
theorem tick_breaks_the_gate : ∃ pool, Transition.Reachable (Pool.system setting Starts) pool ∧ ¬ Exclusive pool.shared := by
  have run : ((Transition.execute (Pool.step setting) first
      [[.spawn .preempt, .spawn (.testSelect "correction" "tuning"), .spawn .tick, .resume 2 yes, .resume 2 (shows .spotify),
        .resume 0 yes], List.replicate 4 (.resume 1 yes), List.replicate 3 (.resume 2 yes)].flatten).any
      fun pool : Pool Point Answer World => !decide (Undisturbed pool.shared.history)) = true := by
    decide +kernel
  obtain ⟨pool, run, broken⟩ := (Option.any_eq_true _ _).mp run
  refine ⟨pool, Transition.reachable_of_execute first_initial run, fun exclusive => ?_⟩
  simp [exclusive.undisturbed] at broken

end Runs

end Jts.SourceMux
