import Jts.ActiveSpeaker.SessionVolume

set_option autoImplicit false

namespace Jts.ActiveSpeaker.SessionVolume

open Shared (Coroutine Pool)
open Shared.Coroutine (Agreement Safe Rests Stable ask)
open Shared.Transition (Reachable)

/-- Every clear comes right after a restore that has landed. The last event is the first. -/
def ClearedLanded : List Trace → Prop
  | [] => True
  | .landed _ :: earlier => ClearedLanded earlier
  | .cleared :: earlier => (∃ target rest, earlier = .landed target :: rest) ∧ ClearedLanded earlier

/-- The level to come back to, in the plan and in its file, is the household level that was read for the last session. -/
def Plan.ComesBack (plan : Plan) : Prop :=
  ∀ reading ∈ plan.readings.head?, ∀ state, plan.state = some state ∨ loadState plan.file = some state →
    state.originalMainVolumeDb = finiteNonpositive reading.householdDb

/-- A measurement volume has an owner on record. -/
structure Plan.OnRecord (plan : Plan) : Prop where
  owner : plan.raised = true → (loadState plan.file).isSome
  household : ∀ reading ∈ plan.readings, reading.inForce = false
  comesBack : plan.ComesBack
  cleared : ClearedLanded plan.trace
  ready : ∀ now, plan.assertReady now = .ok () → ∃ level, plan.measurementVolumeDb = some level ∧ plan.confirmed = some level

/-- No open records over another's intent, and no restore lands while a level is being established. -/
def Alone (_ : ℕ) (point : Point) (answer : Answer) (plan : Plan) : Prop :=
  match point with
  | .readHouseholdLevelDb => answer.raises = false → answer.persists = true → plan.state.isNone
  | .restoreHouseholdLevelDb _ => answer.raises = false → answer.outcome = .landed → plan.establishing = []
  | _ => True

instance (me : ℕ) (point : Point) (answer : Answer) (plan : Plan) : Decidable (Alone me point answer plan) := by
  unfold Alone
  split <;> infer_instance

section Agreement

structure PlanInvariant (plan : Plan) : Prop where
  owner : plan.raised = true → plan.state.isSome
  durable : plan.state.isSome → (loadState plan.file).isSome
  opened : plan.opened = true → plan.state.isSome
  confirmed : ∀ state, plan.state = some state → plan.opened = true → state.status = .active →
    ∃ level, state.measurementVolumeDb = some level ∧ plan.confirmed = some level
  establishing : plan.establishing ≠ [] → plan.state.isSome
  household : ∀ reading ∈ plan.readings, reading.inForce = false
  comesBack : plan.ComesBack
  cleared : ClearedLanded plan.trace

/-- The others leave a state to the holder of the lock, and its volume to a session that is establishing it. -/
structure PlanGrants (other : Option ℕ) (before after : Plan) : Prop where
  lock : ∀ task, before.lock = some task → other ≠ some task →
    after.lock = some task ∧ (before.state.isSome → after.state = before.state)
  establishing : ∀ task ∈ before.establishing, other ≠ some task →
    task ∈ after.establishing ∧ after.measurementVolumeDb = before.measurementVolumeDb

def planAgreement : Agreement Point Answer Plan where
  invariant := PlanInvariant
  grants := PlanGrants
  resumes task point answer plan := ready point answer plan = true ∧ Alone task point answer plan

variable {me : ℕ} {start plan : Plan}

theorem volume_of_state {state : State} (there : plan.state = some state) {volume : Level}
    (owned : plan.measurementVolumeDb = some volume) : state.measurementVolumeDb = some volume := by
  simpa [Plan.measurementVolumeDb, there] using owned

theorem state_of_volume {volume : Level} (owned : plan.measurementVolumeDb = some volume) : plan.state.isSome := by
  obtain ⟨state, there, -⟩ := Option.bind_eq_some_iff.mp owned
  simp [there]

theorem PlanGrants.refl (other : Option ℕ) (plan : Plan) : PlanGrants other plan plan :=
  ⟨fun _ held _ => ⟨held, fun _ => rfl⟩, fun _ there _ => ⟨there, rfl⟩⟩

theorem PlanGrants.trans {other : Option ℕ} {before middle after : Plan} (first : PlanGrants other before middle)
    (second : PlanGrants other middle after) : PlanGrants other before after where
  lock := by
    intro task held differs
    obtain ⟨held, same⟩ := first.lock task held differs
    obtain ⟨still, kept⟩ := second.lock task held differs
    refine ⟨still, fun some => ?_⟩
    rw [kept (by rwa [same some]), same some]
  establishing := by
    intro task there differs
    obtain ⟨there, same⟩ := first.establishing task there differs
    obtain ⟨still, kept⟩ := second.establishing task there differs
    exact ⟨still, kept.trans same⟩

theorem rests_refl (invariant : PlanInvariant plan) : Rests planAgreement me plan plan := ⟨.refl _ _, invariant⟩

/-- What a task does next is granted and keeps the invariant. -/
theorem rests_step {after : Plan} (rests : Rests planAgreement me start plan) (grants : PlanGrants (some me) plan after)
    (invariant : PlanInvariant after) : Rests planAgreement me start after := ⟨rests.1.trans grants, invariant⟩

/-- Only the lock is changed, and it was free or held by the task. -/
theorem rests_lock (rests : Rests planAgreement me start plan) (lock : Option ℕ) (mine : ∀ task ∈ plan.lock, task = me) :
    Rests planAgreement me start { plan with lock := lock } :=
  rests_step rests
    { lock := fun task held differs => absurd (congrArg some (mine task held)).symm differs
      establishing := fun _ there _ => ⟨there, rfl⟩ }
    { rests.2 with }

theorem rests_confirmed {volume : Level} (rests : Rests planAgreement me start plan)
    (owned : plan.measurementVolumeDb = some volume) : Rests planAgreement me start { plan with confirmed := some volume } := by
  refine rests_step rests ⟨fun _ held _ => ⟨held, fun _ => rfl⟩, fun _ there _ => ⟨there, rfl⟩⟩ { rests.2 with confirmed := ?_ }
  intro state there _ _
  exact ⟨volume, volume_of_state there owned, rfl⟩

theorem rests_established {volume : Level} (rests : Rests planAgreement me start plan)
    (owned : plan.measurementVolumeDb = some volume) : Rests planAgreement me start (plan.established me) := by
  have there := state_of_volume owned
  refine rests_step rests ?_ ?_
  · refine ⟨fun _ held _ => ⟨held, fun _ => rfl⟩, fun task mem differs => ⟨?_, rfl⟩⟩
    exact (List.mem_erase_of_ne fun same => differs (congrArg some same.symm)).mpr mem
  · exact { rests.2 with owner := fun _ => there, establishing := fun _ => there }

theorem rests_opened (rests : Rests planAgreement me start plan) {volume : Level} (owned : plan.measurementVolumeDb = some volume) :
    Rests planAgreement me start { plan with opened := true, confirmed := some volume } := by
  refine rests_step rests ⟨fun _ held _ => ⟨held, fun _ => rfl⟩, fun _ there _ => ⟨there, rfl⟩⟩
    { rests.2 with opened := fun _ => state_of_volume owned, confirmed := ?_ }
  intro state there _ _
  exact ⟨volume, volume_of_state there owned, rfl⟩

theorem finiteNonpositive_finiteNonpositive (value : Option Level) :
    finiteNonpositive (finiteNonpositive value) = finiteNonpositive value := by
  simp [finiteNonpositive, Option.filter_filter]

theorem loadState_state_original {recorded loaded : State} (reads : loadState (.state recorded) = some loaded) :
    loaded.originalMainVolumeDb = finiteNonpositive recorded.originalMainVolumeDb := by
  obtain rfl := Option.some.inj reads
  rfl

/-- The intent is recorded where there is none: nothing is raised, opened or being established then. -/
theorem rests_recordIntent (rests : Rests planAgreement me start plan) (free : plan.state.isNone) (volume : Level)
    (observed : Option Level) : Rests planAgreement me start ((plan.heard observed).recordIntent me volume observed) := by
  have absent : plan.state = none := Option.isNone_iff_eq_none.mp free
  have unopened : plan.opened = false := by
    cases opened : plan.opened with
    | false => rfl
    | true => simpa [absent] using rests.2.opened opened
  have lowered : plan.raised = false := by
    cases raised : plan.raised with
    | false => rfl
    | true => simpa [absent] using rests.2.owner raised
  have quiet : plan.establishing = [] := by
    by_contra busy
    simpa [absent] using rests.2.establishing busy
  refine rests_step rests ⟨fun task held _ => ⟨held, by simp [absent]⟩, by simp [quiet]⟩ ?_
  refine ⟨fun _ => rfl, fun _ => rfl, fun _ => rfl, ?_, fun _ => rfl, ?_, ?_, rests.2.cleared⟩
  · intro state _ opened
    exact nomatch unopened.symm.trans opened
  · intro reading mem
    rcases List.mem_cons.mp mem with rfl | before
    · exact lowered
    · exact rests.2.household reading before
  · intro reading newest state recorded
    obtain rfl := Option.some.inj newest
    rcases recorded with here | durable
    · obtain rfl := Option.some.inj here
      rfl
    · rw [loadState_state_original durable]
      exact finiteNonpositive_finiteNonpositive observed

theorem rests_cleared (rests : Rests planAgreement me start plan) (mine : plan.lock = some me) (quiet : plan.establishing = [])
    (target : Level) (persists : Bool) : Rests planAgreement me start ((plan.landed target).clearResolved persists) := by
  have cleared : ((plan.landed target).clearResolved persists).state = none ∧
      ((plan.landed target).clearResolved persists).establishing = [] ∧
      ((plan.landed target).clearResolved persists).opened = false ∧
      ((plan.landed target).clearResolved persists).raised = false ∧
      ((plan.landed target).clearResolved persists).lock = some me ∧
      ((plan.landed target).clearResolved persists).readings = plan.readings ∧
      ((plan.landed target).clearResolved persists).trace = .cleared :: .landed target :: plan.trace := by
    cases persists <;> simp [Plan.clearResolved, Plan.persist, Plan.landed, quiet, mine]
  obtain ⟨state, establishing, opened, raised, lock, readings, trace⟩ := cleared
  have durable : loadState ((plan.landed target).clearResolved persists).file = none ∨
      loadState ((plan.landed target).clearResolved persists).file = loadState plan.file := by
    cases persists
    · exact .inr rfl
    · exact .inl rfl
  refine rests_step rests ⟨fun task held differs => ?_, by simp [quiet]⟩ ?_
  · exact absurd (mine.symm.trans held) differs
  · refine ⟨by simp [raised], by simp [state], by simp [opened], by simp [opened], by simp [establishing], ?_, ?_, ?_⟩
    · rw [readings]
      exact rests.2.household
    · intro reading newest recorded here
      rw [readings] at newest
      rcases here with here | here
      · simp [state] at here
      · rcases durable with none | same
        · simp [none] at here
        · exact rests.2.comesBack reading newest recorded (.inr (same ▸ here))
    · rw [trace]
      exact ⟨⟨target, plan.trace, rfl⟩, rests.2.cleared⟩

theorem rests_unresolved (rests : Rests planAgreement me start plan) (mine : plan.lock = some me) (there : plan.state.isSome)
    (reason : String) (persists : Bool) : Rests planAgreement me start (plan.markUnresolved reason persists) := by
  obtain ⟨state, here⟩ := Option.isSome_iff_exists.mp there
  have durable := rests.2.durable there
  have marked : (plan.markUnresolved reason persists).state = some { state with status := .unresolved, reason := some reason } ∧
      (loadState (plan.markUnresolved reason persists).file).isSome ∧
      (plan.markUnresolved reason persists).establishing = plan.establishing ∧
      (plan.markUnresolved reason persists).readings = plan.readings ∧
      (plan.markUnresolved reason persists).trace = plan.trace := by
    cases persists with
    | false => simp [Plan.markUnresolved, Plan.persist, here, durable]
    | true => simp [Plan.markUnresolved, Plan.persist, here, loadState]
  obtain ⟨after, durable, establishing, readings, trace⟩ := marked
  have comesBack : (plan.markUnresolved reason persists).ComesBack := by
    intro reading newest recorded record
    have original := rests.2.comesBack reading (readings ▸ newest)
    rcases record with held | written
    · obtain rfl := Option.some.inj (after.symm.trans held)
      exact original state (.inl here)
    · cases persists with
      | false => exact original recorded (.inr written)
      | true =>
          rw [loadState_state_original written]
          simp [here, original state (.inl here), finiteNonpositive_finiteNonpositive]
  refine rests_step rests ⟨fun task held differs => absurd (mine.symm.trans held) differs, fun task mem _ => ⟨establishing ▸ mem, ?_⟩⟩ ?_
  · simp [Plan.measurementVolumeDb, after, here]
  · refine ⟨by simp [after], fun _ => durable, by simp [after], ?_, by simp [after], ?_, comesBack, ?_⟩
    · intro marked same _ active
      obtain rfl := Option.some.inj (after.symm.trans same)
      cases active
    · rw [readings]
      exact rests.2.household
    · rw [trace]
      exact rests.2.cleared

end Agreement

section Verbs

variable {me : ℕ} {start plan : Plan} {β : Type} {post : β → Plan → Plan → Prop}

theorem getPlanThen {next : Plan → Task β} (here : Safe planAgreement me (next plan) post start plan) :
    Safe planAgreement me (getPlan >>= next) post start plan := here

theorem changeThen {effect : Plan → Plan} {next : Unit → Task β}
    (here : Safe planAgreement me (next ()) post start (effect plan)) :
    Safe planAgreement me (change effect >>= next) post start plan := here

/-- The lock is held, over a state. -/
def Holding (me : ℕ) (plan : Plan) : Prop := plan.lock = some me ∧ plan.state.isSome

theorem holding_stable : Stable planAgreement me (Holding me) := by
  intro other before after differs _ _ grants ⟨held, there⟩
  obtain ⟨still, kept⟩ := grants.lock me held differs
  exact ⟨still, by rwa [kept there]⟩

theorem acquire_safe (rests : Rests planAgreement me start plan) :
    Safe planAgreement me (acquire me)
      (fun acquired start plan => Rests planAgreement me start plan ∧ (acquired = true → plan.lock = some me)) start plan := by
  refine getPlanThen ?_
  split
  · rename_i free
    exact changeThen ⟨rests_lock rests (some me) (by simp [Option.isNone_iff_eq_none.mp free]), fun _ => rfl⟩
  · refine .bind (.ask rests (fun _ => True) (fun _ _ _ _ _ _ _ _ => trivial) trivial fun later answer invariant _ resumes => ?_)
    split
    · exact ⟨rests_refl invariant, nofun⟩
    · rename_i waited
      have free : later.lock = none := by simpa [ready, waited] using resumes.1
      exact changeThen ⟨rests_lock (rests_refl invariant) (some me) (by simp [free]), fun _ => rfl⟩

theorem walk_safe (rests : Rests planAgreement me start plan) (holding : Holding me plan) (persists : Bool)
    (candidates : List (Recovery × Level)) :
    Safe planAgreement me (walk persists candidates)
      (fun _ start plan => Rests planAgreement me start plan ∧ plan.lock = some me) start plan := by
  induction candidates generalizing start plan persists with
  | nil =>
      refine changeThen ⟨rests_unresolved rests holding.1 holding.2 _ persists, ?_⟩
      cases persists <;> exact holding.1
  | cons candidate rest ih =>
      obtain ⟨recovery, target⟩ := candidate
      refine .bind (.ask rests (Holding me) holding_stable holding fun later answer invariant holding resumes => ?_)
      have here := @rests_refl me later invariant
      split
      · exact ⟨here, holding.1⟩
      · rename_i answered
        cases outcome : answer.outcome with
        | deferred => exact ⟨here, holding.1⟩
        | failed => exact ih here holding answer.persists
        | landed =>
            have quiet : later.establishing = [] := resumes.2 (by simpa using answered) outcome
            refine changeThen (changeThen ⟨rests_cleared here holding.1 quiet target answer.persists, ?_⟩)
            cases persists : answer.persists <;> exact holding.1

theorem release_safe (rests : Rests planAgreement me start plan) (mine : plan.lock = some me) :
    Rests planAgreement me start { plan with lock := none } :=
  rests_lock rests none (by simp [mine])

theorem drainRestore_safe (rests : Rests planAgreement me start plan) :
    Safe planAgreement me (drainRestore me) (fun _ => Rests planAgreement me) start plan := by
  refine .bind ((acquire_safe rests).mono fun acquired start plan ⟨rests, mine⟩ => ?_)
  split
  · rename_i held
    refine .bind ?_
    suffices Safe planAgreement me resolveIntent
        (fun _ start plan => Rests planAgreement me start plan ∧ plan.lock = some me) start plan from
      this.mono fun _ _ _ ⟨rests, mine⟩ => changeThen (release_safe rests mine)
    refine getPlanThen ?_
    cases there : plan.state with
    | none => exact ⟨rests, mine held⟩
    | some state => exact walk_safe rests ⟨mine held, by simp [there]⟩ true _
  · exact rests

/-- The level of the session is being established. -/
def Establishing (me : ℕ) (volume : Level) (plan : Plan) : Prop :=
  me ∈ plan.establishing ∧ plan.measurementVolumeDb = some volume

theorem establishing_stable (volume : Level) : Stable planAgreement me (Establishing me volume) := by
  intro other before after differs _ _ grants ⟨there, owned⟩
  obtain ⟨still, same⟩ := grants.establishing me there differs
  exact ⟨still, same.trans owned⟩

theorem establish_safe {volume : Level} (rests : Rests planAgreement me start plan) (establishing : Establishing me volume plan) :
    Safe planAgreement me (establish me volume) (fun _ => Rests planAgreement me) start plan := by
  refine .bind (.ask rests _ (establishing_stable volume) establishing fun later answer invariant establishing _ => changeThen ?_)
  have moved := rests_established (@rests_refl me later invariant) establishing.2
  split
  · exact moved
  · split
    · exact changeThen (rests_opened moved establishing.2)
    · refine .bind ((drainRestore_safe moved).mono fun drained start plan rests => ?_)
      exact rests

theorem openSession_safe (invariant : PlanInvariant plan) (volume : Level) :
    Safe planAgreement me (openSession me volume) (fun _ => Rests planAgreement me) plan plan := by
  have here := @rests_refl me plan invariant
  refine getPlanThen ?_
  cases given : finiteNonpositive (some volume) with
  | none => exact here
  | some volume =>
      simp only
      split
      · exact here
      · refine .bind (.ask here (fun _ => True) (fun _ _ _ _ _ _ _ _ => trivial) trivial fun later answer invariant _ resumes => ?_)
        split
        · exact rests_refl invariant
        · rename_i read
          have answered : answer.raises = false ∧ answer.persists = true := by simpa using read
          have free : later.state.isNone := resumes.2 answered.1 answered.2
          exact changeThen (establish_safe (rests_recordIntent (rests_refl invariant) free volume answer.level)
            ⟨by simp [Plan.recordIntent], rfl⟩)

theorem holdFaderAt_safe {volume : Level} (rests : Rests planAgreement me start plan) (mine : plan.lock = some me)
    (owned : plan.measurementVolumeDb = some volume) :
    Safe planAgreement me (holdFaderAt volume)
      (fun _ start plan => Rests planAgreement me start plan ∧ plan.lock = some me) start plan := by
  have stable : Stable planAgreement me fun plan => plan.lock = some me ∧ plan.measurementVolumeDb = some volume := by
    intro other before after differs _ _ grants ⟨held, owned⟩
    obtain ⟨still, kept⟩ := grants.lock me held differs
    exact ⟨still, by rwa [Plan.measurementVolumeDb, kept (state_of_volume owned)]⟩
  refine .bind (.ask rests _ stable ⟨mine, owned⟩ fun later first invariant ⟨mine, owned⟩ _ => ?_)
  have here := @rests_refl me later invariant
  split
  · exact ⟨here, mine⟩
  · split
    · exact changeThen ⟨rests_confirmed here owned, mine⟩
    · refine .bind (.ask here _ stable ⟨mine, owned⟩ fun later proven invariant ⟨mine, owned⟩ _ => ?_)
      have here := @rests_refl me later invariant
      split
      · exact ⟨here, mine⟩
      · split
        · exact changeThen ⟨rests_confirmed here owned, mine⟩
        · exact ⟨here, mine⟩

theorem holdMeasurementVolume_safe (rests : Rests planAgreement me start plan) :
    Safe planAgreement me (holdMeasurementVolume me) (fun _ => Rests planAgreement me) start plan := by
  refine .bind ((acquire_safe rests).mono fun acquired start plan ⟨rests, mine⟩ => ?_)
  split
  · rename_i held
    refine .bind ?_
    suffices Safe planAgreement me proveOwnedVolume
        (fun _ start plan => Rests planAgreement me start plan ∧ plan.lock = some me) start plan from
      this.mono fun _ _ _ ⟨rests, mine⟩ => changeThen (release_safe rests mine)
    refine getPlanThen ?_
    cases owns : plan.ownedVolumeDbNow with
    | none => exact ⟨rests, mine held⟩
    | some volume =>
        refine holdFaderAt_safe rests (mine held) ?_
        unfold Plan.ownedVolumeDbNow at owns
        split at owns
        · cases owns
        · exact owns
  · exact rests

theorem perform_safe (invariant : PlanInvariant plan) (verb : Verb) :
    Safe planAgreement me (perform me verb) (fun _ => Rests planAgreement me) plan plan := by
  have drains := @drainRestore_safe me plan plan (rests_refl invariant)
  cases verb with
  | openSession volume => exact .bind ((openSession_safe invariant volume).mono fun _ _ _ rests => rests)
  | close => exact .bind (drains.mono fun _ _ _ rests => rests)
  | abandon => exact .bind (drains.mono fun _ _ _ rests => rests)
  | recoverUnresolved => exact .bind (drains.mono fun _ _ _ rests => rests)
  | holdMeasurementVolume => exact .bind ((holdMeasurementVolume_safe (rests_refl invariant)).mono fun _ _ _ rests => rests)
  | enforceCeiling now =>
      refine .bind (getPlanThen ?_)
      split
      · exact .bind (drains.mono fun _ _ _ rests => rests)
      · exact rests_refl invariant

end Verbs

section Crash

variable {plan : Plan}

theorem hydrate_keeps (invariant : PlanInvariant plan) : PlanInvariant plan.hydrate := by
  have durable (there : plan.state.isSome) : plan.hydrate.state.isSome := invariant.durable there
  refine ⟨fun raised => ?_, id, fun opened => (nomatch opened), fun _ _ opened => (nomatch opened), fun busy => (busy rfl).elim,
    invariant.household, fun reading newest state recorded => ?_, invariant.cleared⟩
  · rcases Bool.or_eq_true_iff.mp raised with before | establishing
    · exact durable (invariant.owner before)
    · exact durable (invariant.establishing (by simpa using establishing))
  · exact invariant.comesBack reading newest state (.inr (or_self_iff.mp recorded))

theorem invariant_onRecord (invariant : PlanInvariant plan) : plan.OnRecord := by
  refine ⟨fun raised => invariant.durable (invariant.owner raised), invariant.household, invariant.comesBack, invariant.cleared, fun now passes => ?_⟩
  unfold Plan.assertReady at passes
  cases there : plan.state with
  | none => simp [there] at passes
  | some state =>
      simp only [there] at passes
      split at passes
      · cases passes
      · rename_i active
        split at passes
        · cases passes
        · rename_i opened
          obtain ⟨level, volume, confirmed⟩ := invariant.confirmed state there (by simpa using opened) (by simpa using active)
          exact ⟨level, by simp [Plan.measurementVolumeDb, there, volume], confirmed⟩

end Crash

abbrev running := Pool.crashing setting Plan.hydrate Plan.Initial

/-- In every run, crashes included, in which no open records over another's intent and no restore lands while a level is being
established. -/
theorem measurement_volume_is_on_record (pool : Pool Point Answer Plan)
    (reached : Reachable (running.restrict (Pool.MeetsUnlessCrashed Alone)) pool) : pool.shared.OnRecord := by
  refine invariant_onRecord ?_
  refine @Pool.invariant_of_crashing _ _ _ _ _ planAgreement _ _ _ _ ?_ ?_ ?_ ?_ ?_ _ reached
  · rintro plan ⟨-, hydrated, unopened, raised, quiet, readings, trace⟩
    refine ⟨fun up => hydrated ▸ raised up, fun there => hydrated ▸ there, ?_, ?_, by simp [quiet], by simp [readings], by simp [Plan.ComesBack, readings], ?_⟩
    · exact fun opened => nomatch unopened.symm.trans opened
    · exact fun _ _ opened => nomatch unopened.symm.trans opened
    · rw [trace]
      trivial
  · exact fun verb me plan invariant => perform_safe invariant verb
  · intro event plan invariant
    cases event with
    | clock seconds => exact ⟨{ invariant with }, ⟨fun _ held _ => ⟨held, fun _ => rfl⟩, fun _ there _ => ⟨there, rfl⟩⟩⟩
    | ceiling seconds =>
        change PlanInvariant (plan.setWallClockCeilingS seconds) ∧ PlanGrants none plan (plan.setWallClockCeilingS seconds)
        unfold Plan.setWallClockCeilingS
        split
        · exact ⟨invariant, .refl _ _⟩
        · exact ⟨{ invariant with }, ⟨fun _ held _ => ⟨held, fun _ => rfl⟩, fun _ there _ => ⟨there, rfl⟩⟩⟩
  · exact fun _ _ _ _ ready alone => ⟨ready, alone⟩
  · exact fun _ invariant => hydrate_keeps invariant

section Runs

def idle : Plan where
  file := .missing
  emergency := -60
  ceiling := defaultWallClockCeilingS
  now := 0
  lock := none
  state := none
  opened := false
  raised := false
  confirmed := none
  establishing := []
  readings := []
  trace := []

def reads (level : Level) : Answer := ⟨false, some level, false, .failed, true⟩

def confirms : Answer := ⟨false, none, true, .failed, true⟩

def lands : Answer := ⟨false, none, false, .landed, true⟩

def first : Pool Point Answer Plan := Pool.start idle

def Starts (pool : Pool Point Answer Plan) : Prop := ∃ plan, Plan.Initial plan ∧ pool = Pool.start plan

theorem first_starts : Starts first := ⟨idle, ⟨rfl, rfl, rfl, nofun, rfl, rfl, rfl⟩, rfl⟩

/-- A crash in the session, its recovery, and the next session. -/
theorem session_after_crash :
    ∃ pool : Pool Point Answer Plan, pool.shared.raised = true ∧ pool.shared.readings.length = 2 ∧ pool.shared.OnRecord := by
  obtain ⟨pool, reached, seen⟩ := @Shared.Transition.restricted_observed _ _ Starts (Pool.crashStep setting Plan.hydrate)
    (Pool.MeetsUnlessCrashed Alone) _ first
    [some (.spawn (.openSession (-12))), some (.resume 0 (reads (-30))), some (.resume 0 confirms), none,
      some (.spawn .recoverUnresolved), some (.resume 1 lands), some (.spawn (.openSession (-12))), some (.resume 2 (reads (-30))),
      some (.resume 2 confirms)] _
    (fun pool : Pool Point Answer Plan => (pool.shared.raised, pool.shared.readings.length)) (true, 2) first_starts (by decide +kernel)
  obtain ⟨raised, sessions⟩ := Prod.mk.inj seen
  exact ⟨pool, raised, sessions, measurement_volume_is_on_record pool reached⟩

/-- A session that dies while its level is being established clears its record, and the level comes after it. A second open reads
the first one's measurement level as the household's. -/
theorem measurement_volume_without_owner :
    (∃ pool, Reachable running pool ∧ pool.shared.confirmed = some (-12) ∧ loadState pool.shared.file = none ∧ ¬ pool.shared.OnRecord) ∧
    ∃ pool, Reachable running pool ∧ pool.shared.state.bind State.originalMainVolumeDb = some (-12) ∧
      pool.shared.readings = [⟨some (-12), true⟩, ⟨some (-30), false⟩] ∧ ¬ pool.shared.OnRecord := by
  constructor
  · obtain ⟨pool, reached, seen⟩ := @Shared.Transition.reachable_observed _ _ Starts (Pool.crashStep setting Plan.hydrate) first
      [some (.spawn (.openSession (-12))), some (.resume 0 (reads (-30))), some (.spawn .abandon), some (.resume 1 lands),
        some (.resume 0 confirms)] _
      (fun pool : Pool Point Answer Plan => (pool.shared.raised, pool.shared.confirmed, loadState pool.shared.file))
      (true, some (-12), none) first_starts (by decide +kernel)
    simp only [Prod.mk.injEq] at seen
    obtain ⟨raised, confirmed, unrecorded⟩ := seen
    exact ⟨pool, reached, confirmed, unrecorded, fun kept => by simpa [unrecorded] using kept.owner raised⟩
  · obtain ⟨pool, reached, seen⟩ := @Shared.Transition.reachable_observed _ _ Starts (Pool.crashStep setting Plan.hydrate) first
      [some (.spawn (.openSession (-12))), some (.spawn (.openSession (-12))), some (.resume 0 (reads (-30))),
        some (.resume 0 confirms), some (.resume 1 (reads (-12)))] _
      (fun pool : Pool Point Answer Plan => (pool.shared.readings, pool.shared.state.bind State.originalMainVolumeDb))
      ([⟨some (-12), true⟩, ⟨some (-30), false⟩], some (-12)) first_starts (by decide +kernel)
    obtain ⟨readings, recorded⟩ := Prod.mk.inj seen
    exact ⟨pool, reached, recorded, readings, fun kept => by simpa using kept.household ⟨some (-12), true⟩ (by simp [readings])⟩

end Runs

end Jts.ActiveSpeaker.SessionVolume
