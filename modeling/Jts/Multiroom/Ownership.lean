import Jts.Multiroom.Frame

set_option autoImplicit false

namespace Jts.Multiroom

open Shared.Operation

/-- A load of a graph that plays to the active content comes after camilla#2 was shown to be off. -/
def Load.Safe (load : Load) : Prop :=
  load.graph.any Graph.playsActiveContent = true →
    load.proof.crossoverOff = true ∧ load.crossoverEnabled = false ∧ load.crossoverActive = false

instance (load : Load) : Decidable load.Safe := inferInstanceAs (Decidable (_ → _))

instance (proof : Proof) : Decidable proof.Arms := inferInstanceAs (Decidable (_ ∧ _))

/-- What of a box concerns the ownership of its DAC. -/
structure View where
  graphs : Path → Option Graph
  crossoverEnabled : Bool
  crossoverActive : Bool
  proof : Proof
  loads : List Load
  armings : List Proof

def Box.view (box : Box) : View :=
  ⟨box.graphs, box.crossoverEnabled, box.crossoverActive, box.proof, box.loads, box.armings⟩

abbrev KeepsView (Inv : View → Prop) {α : Type} (pass : Pass α) : Prop := Keeps (fun box => Inv box.view) pass

section Frame

variable (now : Point → Answer) {Inv : View → Prop}

theorem writeFollowerStatus_keeps (publication : Publication) (follower leader : Bool) (reason : String) (cfg : GroupingConfig)
    (allowed : Bool) : KeepsView Inv (writeFollowerStatus now publication follower leader reason cfg allowed) :=
  .bind (succeeds_keeps now _) fun _ => .bind .read fun _ => .bind (succeeds_keeps now _) fun _ =>
    .ite (.bind (.change fun _ inv => inv) fun _ => .give) .give

theorem view_derive (box : Box) (file : Derived) (text : String) : (box.derive file text).view = box.view := by
  unfold Box.derive
  dsimp only
  split <;> rfl

theorem writeDerivedEnv_keeps (file : Derived) (env : Env) : KeepsView Inv (writeDerivedEnv now file env) := by
  refine .bind (succeeds_keeps now _) fun readable => .bind .read fun box => .ite .give ?_
  exact .bind (succeeds_keeps now _) fun written =>
    .ite (.bind (.change fun box inv => by rwa [view_derive]) fun _ => .give) .give

theorem view_rearg (box : Box) (args : Env) (unit : SnapUnit) : (box.rearg args unit).view = box.view := by
  unfold Box.rearg
  split <;> rfl

theorem writeArgsFile_keeps (args : Env) : KeepsView Inv (writeArgsFile now args) := by
  refine .bind (succeeds_keeps now _) fun written => .ite (.bind (.change fun box inv => ?_) fun _ => .give) .give
  have same : ({ (box.rearg args .snapserver).rearg args .snapclient with args := some args } : Box).view = box.view :=
    (view_rearg _ args .snapclient).trans (view_rearg box args .snapserver)
  rwa [same]

theorem restartUnit_keeps (consumer : Consumer) : KeepsView Inv (restartUnit now consumer) :=
  .bind (succeeds_keeps now _) fun _ => .ite (.bind (.change fun _ inv => inv) fun _ => .give) .give

theorem view_manage (box : Box) (intent : UnitIntent) : (box.manage intent).view = box.view := by
  unfold Box.manage
  split <;> rfl

theorem applyPlan_keeps (intents : List UnitIntent) : KeepsView Inv (applyPlan now intents) := by
  induction intents with
  | nil => exact .give
  | cons intent intents ih =>
    refine .bind (ask_keeps now _) fun answer => .bind (onlyWhen_keeps (.change fun box inv => ?_)) fun _ => .bind ih fun _ => .give
    rwa [view_manage]

end Frame

namespace View

variable (active : Bool) (view : View)

-- A box without an active speaker holds no graph of one.
def Flat : Prop := ∀ path, (view.graphs path).any Graph.playsActiveContent = false

structure Sound : Prop where
  loads : ∀ load ∈ view.loads, load.Safe
  armings : ∀ arming ∈ view.armings, arming.Arms
  flat : active = false → view.Flat

def Off : Prop := view.proof.crossoverOff = true ∧ view.crossoverEnabled = false ∧ view.crossoverActive = false

/-- camilla#1 may be asked to load any config of the box. -/
structure Guarded : Prop extends View.Sound active view where
  off : active = true → view.Off

end View

section Loads

variable {active : Bool}

theorem View.Guarded.request {box : Box} (guarded : box.view.Guarded active) (path : Path) :
    (box.request path).view.Guarded active where
  loads := by
    intro load mem
    rcases List.mem_cons.mp mem with rfl | mem
    · intro plays
      cases active with
      | true => exact guarded.off rfl
      | false => exact absurd plays (Bool.eq_false_iff.mp (guarded.flat rfl path))
    · exact guarded.loads load mem
  armings := guarded.armings
  flat := guarded.flat
  off := guarded.off

theorem View.Guarded.emit {box : Box} (guarded : box.view.Guarded active) (path : Path) {graph : Graph}
    (flat : graph.playsActiveContent = false) : (box.emit path graph).view.Guarded active where
  loads := guarded.loads
  armings := guarded.armings
  flat := by
    intro passive other
    change ((if other = path then some graph else box.graphs other).any _) = false
    split
    · exact flat
    · exact guarded.flat passive other
  off := guarded.off

theorem loadable_guarded : Loadable fun box => box.view.Guarded active where
  request := fun _ path guarded => guarded.request path
  swap := fun _ _ guarded => guarded
  keep := fun _ _ guarded => guarded
  emit := fun _ path _ flat guarded => guarded.emit path flat

end Loads

section Arming

variable (now : Point → Answer) {active : Bool}

theorem land_keeps {Inv : View → Prop} {role : RoleDecision} {owned : Bool} (restores : KeepsView Inv (restoreSolo now role owned)) :
    KeepsView Inv (land now role owned) :=
  .bind (writeArgsFile_keeps now _) fun _ => .bind (writeDerivedEnv_keeps now _ _) fun _ => .bind restores fun _ =>
    .bind (onlyWhen_keeps (restartUnit_keeps now _)) fun _ => .bind (writeDerivedEnv_keeps now _ _) fun _ =>
      .bind (onlyWhen_keeps (restartUnit_keeps now _)) fun _ => .bind (writeDerivedEnv_keeps now _ _) fun _ =>
        .bind (planChangesUnits_keeps now _) fun _ => .bind (applyPlan_keeps now _) fun _ =>
          .bind (onlyWhen_keeps (restartUnit_keeps now _)) fun _ => .give

/-- A command that succeeds turns camilla#2 off. One that fails turns nothing on. -/
theorem disableCrossoverUnit_ends (command : Point) {box : Box} (sound : box.view.Sound active) :
    Ends (fun _ => True) (disableCrossoverUnit now command).run box fun result after =>
      after.view.Sound active ∧ (result = .ok true → after.view.Off) := by
  refine (succeeds_keeps now command box sound).andThen (fun done middle sound => ?_) fun _ _ sound => ⟨sound, nofun⟩
  split
  · exact .changeThen (.give ⟨⟨sound.loads, sound.armings, sound.flat⟩, fun _ => ⟨rfl, rfl, rfl⟩⟩)
  · refine (succeeds_keeps now _ middle sound).andThen (fun _ _ sound => ?_) fun _ _ sound => ⟨sound, nofun⟩
    refine (succeeds_keeps now _ _ sound).andThen (fun _ _ sound => ?_) fun _ _ sound => ⟨sound, nofun⟩
    exact .changeThen (.give ⟨⟨sound.loads, sound.armings, sound.flat⟩, nofun⟩)

/-- Where nothing raises after the bake, it counts only with all that an arming wants but the lock. -/
theorem bakeSeedReconcile_ends (seeds : now .seed = .yes ∨ now .seed = .crash) (reconciles : now .hardware ≠ .unknown) {box : Box}
    (guarded : box.view.Guarded active) :
    Ends (fun _ => True) (bakeSeedReconcile now).run box fun result after =>
      after.view.Guarded active ∧ ∀ baked, result = .ok baked → baked.counts = true →
        after.proof.baked = true ∧ after.proof.seeded = true ∧ after.proof.reconciledHardware = true := by
  refine (attempted_keeps (loadable_guarded.applyEndpoint now _ _ _) box guarded).andThen (fun baked middle guarded => ?_)
    fun _ _ guarded => ⟨guarded, nofun⟩
  split
  · have bakes : (middle.prove Proof.bake).view.Guarded active ∧ (middle.prove Proof.bake).proof.baked = true :=
      ⟨⟨⟨guarded.loads, guarded.armings, guarded.flat⟩, guarded.off⟩, rfl⟩
    refine .changeThen ?_
    rcases seeds with yes | crash
    · rw [succeeds_yes now yes, pure_bind, if_pos rfl]
      refine .changeThen ?_
      let Inv (view : View) : Prop := view.Guarded active ∧ view.proof.baked = true ∧ view.proof.seeded = true
      have seeded : Inv ((middle.prove Proof.bake).prove Proof.seed).view :=
        ⟨⟨⟨guarded.loads, guarded.armings, guarded.flat⟩, guarded.off⟩, rfl, rfl⟩
      refine (ask_ends now .hardware _).andThen (fun answer at_ told => ?_) fun _ _ told => ⟨told.1 ▸ seeded.1, nofun⟩
      obtain ⟨rfl, told⟩ := told
      have answers : answer ≠ .unknown := told answer rfl ▸ reconciles
      refine ((succeeds_keeps now _ : KeepsView Inv _) _ seeded).andThen (fun restarts at_ kept => ?_) fun _ _ kept => ⟨kept.1, nofun⟩
      have refreshes : KeepsView Inv (onlyWhen restarts (Attempt.change (·.refresh .outputd)) ()) :=
        onlyWhen_keeps (.change fun _ inv => inv)
      refine (refreshes at_ kept).andThen (fun _ at_ kept => ?_) fun _ _ kept => ⟨kept.1, nofun⟩
      obtain ⟨guarded, baked, seeded⟩ := kept
      split
      · exact .changeThen (.give ⟨⟨⟨guarded.loads, guarded.armings, guarded.flat⟩, guarded.off⟩,
          fun _ _ _ => ⟨baked, seeded, rfl⟩⟩)
      · refine .give ⟨guarded, fun _ done counts => ?_⟩
        cases done
        exact absurd (of_decide_eq_true counts) answers
    · rw [succeeds_crash now crash]
      exact .raise ⟨bakes.1, nofun⟩
  · exact .give ⟨guarded, fun _ done counts => by cases done; cases counts⟩

theorem armCrossoverUnit_keeps {box : Box} (sound : box.view.Sound active) (arms : box.proof.Arms) :
    Ends (fun _ => True) (armCrossoverUnit now).run box fun _ after => after.view.Sound active := by
  refine .changeThen ?_
  have begun : box.beginArming.view.Sound active := by
    refine ⟨sound.loads, fun arming mem => ?_, sound.flat⟩
    rcases List.mem_cons.mp mem with rfl | mem
    · exact arms
    · exact sound.armings arming mem
  refine Keeps.bind (succeeds_keeps now _ : KeepsView (View.Sound active) _) (fun _ => .ite ?_ ?_) _ begun
  · exact .bind (.change fun _ sound => ⟨sound.loads, sound.armings, sound.flat⟩) fun _ => .give
  · exact .bind (succeeds_keeps now _) fun _ => .bind (succeeds_keeps now _) fun _ =>
      .bind (.change fun _ sound => ⟨sound.loads, sound.armings, sound.flat⟩) fun _ => .give

theorem armWhenReleased_keeps (role : RoleDecision) {box : Box} (guarded : box.view.Guarded active)
    (ready : box.proof.baked = true ∧ box.proof.seeded = true ∧ box.proof.reconciledHardware = true) :
    Ends (fun _ => True) (armWhenReleased now role).run box fun _ after => after.view.Sound active := by
  let Inv (view : View) : Prop :=
    view.Guarded active ∧ view.proof.baked = true ∧ view.proof.seeded = true ∧ view.proof.reconciledHardware = true
  have inv : Inv box.view := ⟨guarded, ready⟩
  refine ((probe_keeps now _ _ : KeepsView Inv _) _ inv).andThen (fun armed middle inv => ?_) fun _ _ inv => inv.1.toSound
  split
  · exact .give inv.1.toSound
  · refine ((ask_keeps now _ : KeepsView Inv _) _ inv).andThen (fun lock middle inv => ?_) fun _ _ inv => inv.1.toSound
    split
    · obtain ⟨guarded, baked, seeded, reconciled⟩ := inv
      have freed : (middle.prove Proof.freeLock).view.Sound active := ⟨guarded.loads, guarded.armings, guarded.flat⟩
      have arms : (middle.prove Proof.freeLock).proof.Arms := ⟨baked, seeded, reconciled, rfl⟩
      refine .changeThen ?_
      refine (armCrossoverUnit_keeps now freed arms).andThen (fun _ _ sound => ?_) fun _ _ sound => sound
      exact .give sound
    · refine (attempted_keeps (loadable_guarded.restoreActiveCamillaSolo now _ _ _) middle inv.1).andThen (fun _ at_ guarded => ?_)
        fun _ _ guarded => guarded.toSound
      exact Keeps.bind (writeFollowerStatus_keeps now _ _ _ _ _ _ : KeepsView (View.Sound active) _) (fun _ => .give) at_ guarded.toSound

theorem bondActiveLeader_keeps (role : RoleDecision) (seeds : now .seed = .yes ∨ now .seed = .crash)
    (reconciles : now .hardware ≠ .unknown) : KeepsView (View.Sound active) (bondActiveLeader now role) := by
  refine .bind (probe_keeps now _ _) fun wired => .ite ?_ fun box sound => ?_
  · intro box sound
    refine (disableCrossoverUnit_ends now _ sound).andThen (fun done middle off => ?_) fun _ _ off => off.1
    cases done with
    | false => exact .give off.1
    | true =>
      have guarded : middle.view.Guarded active := ⟨off.1, fun _ => off.2 rfl⟩
      refine ((succeeds_keeps now _ : KeepsView (View.Guarded active) _) _ guarded).andThen (fun started at_ guarded => ?_)
        fun _ _ guarded => guarded.toSound
      split
      · exact .give guarded.toSound
      · refine (bakeSeedReconcile_ends now seeds reconciles guarded).andThen (fun baked at_ ready => ?_) fun _ _ ready => ready.1.toSound
        split
        next counts =>
          refine (armWhenReleased_keeps now role ready.1 (ready.2 baked rfl counts)).andThen (fun _ _ sound => ?_)
            fun _ _ sound => sound
          exact .give sound
        next => exact .give ready.1.toSound
  · exact (disableCrossoverUnit_ends now _ sound).andThen (fun _ _ off => .give off.1) fun _ _ off => off.1

end Arming

section Passes

variable (now : Point → Answer) (refusal : String) {active : Bool}

/-- What the gates make of a request on a box of its kind. -/
structure Settled (active : Bool) (role : RoleDecision) : Prop where
  box : role.boxIsActive = active
  passive : role.passiveLeader = true → active = false
  endpoint : role.activeEndpoint = true → active = true

theorem Settled.withFallback {role : RoleDecision} (settled : Settled active role) : Settled active role.withFallback :=
  ⟨settled.box, nofun, nofun⟩

theorem settled_decideRole {request : Request} (kind : request.activeBoxState = some active) (priorAllowed : Option Bool) :
    Settled active (decideRole request priorAllowed) where
  box := by simp [decideRole, kind]
  passive := by cases active <;> simp [decideRole, kind]
  endpoint := by cases active <;> simp [decideRole, kind]

def Request.bondsActiveFollower (request : Request) : Bool :=
  request.cfg.isActiveMember && request.cfg.role = .follower && request.activeBoxState = some true

/-- Past its gates a role follows only where its graph could be proven. -/
structure Passed (active : Bool) (role : RoleDecision) : Prop extends Settled active role where
  leads : role.activeFollower = false

theorem refusePeriod_cases (role : RoleDecision) :
    (refusePeriod role).role = role ∨ (refusePeriod role).role = role.withFallback := by
  unfold refusePeriod
  split
  · exact .inr rfl
  · exact .inl rfl

/-- A role on its way through the gates, which follows only if its graph will be refused. -/
def Passing (active : Bool) (role : RoleDecision) : Prop :=
  Settled active role ∧ (role.activeFollower = true → role.activeEndpoint = true ∧ now .precheck ≠ .yes)

variable {now} in
theorem Passing.refusePeriod {role : RoleDecision} (passing : Passing now active role) :
    Passing now active (refusePeriod role).role := by
  rcases refusePeriod_cases role with same | fallback
  · rwa [same]
  · rw [fallback]
    exact ⟨passing.1.withFallback, nofun⟩

theorem of_error {error : Failure} {α : Type} {P : α → Prop} (value : α) (same : (.error error : Except Failure α) = .ok value) :
    P value := by
  cases same

theorem provision_ends {gate : Gate} (passing : Passing now active gate.role) {box : Box} (sound : box.view.Sound active) :
    Ends (fun _ => True) (provision now gate).run box fun result after =>
      after.view.Sound active ∧ ∀ gate, result = .ok gate → Passing now active gate.role := by
  unfold provision
  split
  · refine (succeeds_keeps now _ box sound).andThen (fun installed at_ sound => ?_) fun _ _ sound => ⟨sound, of_error⟩
    split
    · exact .give ⟨sound, fun _ done => Except.ok.inj done ▸ passing⟩
    · exact .give ⟨sound, fun _ done => Except.ok.inj done ▸ passing⟩
  · exact .give ⟨sound, fun _ done => Except.ok.inj done ▸ passing⟩

theorem view_precheck_sound {box : Box} {role : RoleDecision} (sound : box.view.Sound active) (on : active = true) :
    (box.precheck role).view.Sound active := by
  unfold Box.precheck
  split
  · exact ⟨sound.loads, sound.armings, fun off => Bool.noConfusion (off.symm.trans on)⟩
  · exact ⟨sound.loads, sound.armings, fun off => Bool.noConfusion (off.symm.trans on)⟩

theorem precheck_ends {gate : Gate} (passing : Passing now active gate.role) {box : Box} (sound : box.view.Sound active) :
    Ends (fun _ => True) (precheck now refusal gate).run box fun result after =>
      after.view.Sound active ∧ ∀ gate, result = .ok gate → Passed active gate.role := by
  unfold precheck
  split
  next endpoint =>
    refine (succeeds_ends now _ box).andThen (fun proven at_ told => ?_) fun _ _ told => ⟨told.1 ▸ sound, of_error⟩
    obtain ⟨rfl, told⟩ := told
    split
    next yes =>
      refine .changeThen (.give ⟨view_precheck_sound sound (passing.1.endpoint endpoint), fun _ done => ?_⟩)
      cases done
      exact ⟨passing.1, Bool.eq_false_iff.mpr fun on => (passing.2 on).2 (told (congrArg Except.ok yes))⟩
    next => exact .give ⟨sound, fun _ done => Except.ok.inj done ▸ ⟨passing.1.withFallback, rfl⟩⟩
  next simple =>
    refine .give ⟨sound, fun _ done => ?_⟩
    cases done
    exact ⟨passing.1, Bool.eq_false_iff.mpr fun on => simple (passing.2 on).1⟩

theorem gateBond_ends {role : RoleDecision} (passing : Passing now active role) {box : Box} (sound : box.view.Sound active) :
    Ends (fun _ => True) (gateBond now refusal role).run box fun result after =>
      after.view.Sound active ∧ ∀ gate, result = .ok gate → Passed active gate.role := by
  refine (provision_ends now passing.refusePeriod sound).andThen (fun gate at_ found => ?_) fun _ _ found => ⟨found.1, of_error⟩
  exact precheck_ends now refusal (found.2 gate rfl) found.1

/-- A pass that lands solo on an active box goes on only once it has shown camilla#2 to be off. -/
theorem proveOwnership_ends {role : RoleDecision} {box : Box} (sound : box.view.Sound active) :
    Ends (fun _ => True) (proveOwnership now role).run box fun result after =>
      after.view.Sound active ∧ ∀ owned, result = .ok (.ok owned) → role.landsSoloActive = true → after.view.Guarded active := by
  unfold proveOwnership
  split
  · refine (probe_ends now _ _ box).andThen (fun enabled at_ told => ?_) fun _ _ told => ⟨told.1 ▸ sound, nofun⟩
    obtain ⟨rfl, enabled_⟩ := told
    refine (probe_ends now _ _ at_).andThen (fun active_ at_ told => ?_) fun _ _ told => ⟨told.1 ▸ sound, nofun⟩
    obtain ⟨rfl, active_⟩ := told
    split
    · refine .changeThen (.give ⟨⟨sound.loads, sound.armings, sound.flat⟩, fun _ _ _ => ?_⟩)
      exact ⟨⟨sound.loads, sound.armings, sound.flat⟩, fun _ => ⟨rfl, enabled_ false rfl, active_ false rfl⟩⟩
    · refine (disableCrossoverUnit_ends now _ sound).andThen (fun done at_ off => ?_) fun _ _ off => ⟨off.1, nofun⟩
      split
      next succeeded =>
        refine (probe_ends now _ _ at_).andThen (fun after at_ told => ?_) fun _ _ told => ⟨told.1 ▸ off.1, nofun⟩
        obtain ⟨rfl, -⟩ := told
        split
        · exact .give ⟨off.1, fun _ _ _ => ⟨off.1, fun _ => off.2 (congrArg Except.ok succeeded)⟩⟩
        · exact .give ⟨off.1, nofun⟩
      next => exact .give ⟨off.1, nofun⟩
    · exact .give ⟨sound, nofun⟩
  next elsewhere => exact .give ⟨sound, fun _ _ lands => absurd lands elsewhere⟩

theorem grantSources_keeps {Inv : View → Prop} (request : Request) (role : RoleDecision) (landing : Landing) (reason : String)
    (rc : ℕ) : KeepsView Inv (grantSources now request role landing reason rc) :=
  .ite (.ite (.bind (writeFollowerStatus_keeps now _ _ _ _ _ _) fun _ => .ite .give .give) .give) .give

theorem view_converge (box : Box) (cfg : GroupingConfig) (wanted : Bool) : (box.converge cfg wanted).view = box.view := by
  unfold Box.converge
  dsimp only
  split <;> rfl

theorem convergeSourcesAfterRole_keeps {Inv : View → Prop} (cfg : GroupingConfig) (grouping changed : Bool) :
    KeepsView Inv (convergeSourcesAfterRole now cfg grouping changed) := by
  have starts : KeepsView Inv (startSources now cfg) :=
    .bind (succeeds_keeps now _) fun _ => .ite (.bind (succeeds_keeps now _) fun _ =>
      .bind (.change fun box inv => by rwa [view_converge]) fun _ => .give) .give
  exact .ite .give (.bind (ask_keeps now _) fun _ => .bind (onlyWhen_keeps (succeeds_keeps now _)) fun _ => .ite starts .give)

theorem preserveRuntime_keeps {Inv : View → Prop} (request : Request) (role : RoleDecision) :
    KeepsView Inv (preserveRuntime now request role) :=
  .bind (writeFollowerStatus_keeps now _ _ _ _ _ _) fun _ => .bind (writeDerivedEnv_keeps now _ _) fun _ =>
    .bind (onlyWhen_keeps (restartUnit_keeps now _)) fun _ => .bind (writeDerivedEnv_keeps now _ _) fun _ =>
      .bind (onlyWhen_keeps (restartUnit_keeps now _)) fun _ => .give

theorem bondLeader_keeps {role : RoleDecision} (settled : Settled active role) (seeds : now .seed = .yes ∨ now .seed = .crash)
    (reconciles : now .hardware ≠ .unknown) : KeepsView (View.Sound active) (bondLeader now role) := by
  intro box sound
  unfold bondLeader
  split
  next passive =>
    have guarded : box.view.Guarded active := ⟨sound, fun on => Bool.noConfusion ((settled.passive passive).symm.trans on)⟩
    refine (attempted_keeps (loadable_guarded.applyBondedLeaderConfig now) box guarded).andThen (fun _ _ guarded => ?_)
      fun _ _ guarded => guarded.toSound
    exact .give guarded.toSound
  next => exact Keeps.ite (bondActiveLeader_keeps now role seeds reconciles) .give box sound

/-- A leader starts from what is sound; whoever lands solo restores camilla#1 under guard. -/
theorem transition_keeps (request : Request) {gate : Gate} (passed : Passed active gate.role) (owned : Bool)
    (seeds : now .seed = .yes ∨ now .seed = .crash) (reconciles : now .hardware ≠ .unknown) {box : Box}
    (sound : box.view.Sound active) (guarded : gate.role.landsSoloActive = true → box.view.Guarded active) :
    Ends (fun _ => True) (transition now request gate owned).run box fun _ after => after.view.Sound active := by
  have landed : Ends (fun _ => True) (land now gate.role owned).run box fun _ after => after.view.Sound active := by
    cases leads : gate.role.activeLeader with
    | true =>
      have skips : KeepsView (View.Sound active) (restoreSolo now gate.role owned) := by
        rw [restoreSolo, leads, Bool.true_or, if_pos rfl]
        exact .give
      exact land_keeps now skips box sound
    | false =>
      have solo : box.view.Guarded active := by
        cases active with
        | true => exact guarded (by simp [RoleDecision.landsSoloActive, passed.box, passed.leads, leads])
        | false => exact ⟨sound, nofun⟩
      exact (land_keeps now (loadable_guarded.restoreSolo now gate.role owned) box solo).mono fun _ _ guarded => guarded.toSound
  refine landed.andThen (fun landing at_ sound => .changeThen ?_) fun _ _ sound => sound
  refine Keeps.bind (bondLeader_keeps now passed.toSettled seeds reconciles) (fun bonded => ?_) at_.land sound
  have follows : KeepsView (View.Sound active) (onlyWhen gate.role.activeFollower (attempted (applyPrebuiltFollowerConfig now)) true) := by
    rw [passed.leads]
    exact .give
  exact .bind (onlyWhen_keeps (succeeds_keeps now _)) fun _ => .bind follows fun _ => .bind (grantSources_keeps now _ _ _ _ _) fun _ =>
    .bind (convergeSourcesAfterRole_keeps now _ _ _) fun _ => .ite .give .give

end Passes

/-- What a pass is started with: its request, the outside it will meet, and the reason that a refused graph would give. -/
structure Trigger where
  request : Request
  now : Point → Answer
  refusal : String

def Box.reconcile (box : Box) (trigger : Trigger) : Box :=
  Shared.Operation.run (main trigger.now trigger.refusal trigger.request).run box []

-- The saved topology cannot be read, or says what kind of box it is.
def Trigger.On (active : Bool) (trigger : Trigger) : Prop :=
  trigger.request.activeBoxState = none ∨ trigger.request.activeBoxState = some active

/-- No active follower gets past the gates, and neither the seed nor the hardware reconcile raises. -/
structure Trigger.Undisputed (trigger : Trigger) : Prop where
  follows : trigger.request.bondsActiveFollower = true → trigger.now .precheck ≠ .yes
  seeds : trigger.now .seed = .yes ∨ trigger.now .seed = .crash
  reconciles : trigger.now .hardware ≠ .unknown

theorem passing_decideRole {active : Bool} {trigger : Trigger} (kind : trigger.request.activeBoxState = some active)
    (undisputed : trigger.Undisputed) (priorAllowed : Option Bool) :
    Passing trigger.now active (decideRole trigger.request priorAllowed) := by
  refine ⟨settled_decideRole kind priorAllowed, fun follows => ?_⟩
  have follower : trigger.request.bondsActiveFollower = true := by
    simpa [decideRole, Request.bondsActiveFollower] using follows
  exact ⟨by simp [decideRole] at follows ⊢; simp [follows], undisputed.follows follower⟩

theorem main_keeps {active : Bool} {trigger : Trigger} (on : trigger.On active) (undisputed : trigger.Undisputed) :
    KeepsView (View.Sound active) (main trigger.now trigger.refusal trigger.request) := by
  refine .bind (.change fun _ sound => ⟨sound.loads, sound.armings, sound.flat⟩) fun _ => .bind (succeeds_keeps _ _) fun readable =>
    .bind .read fun box => ?_
  rcases on with unread | kind
  · simp only [unread, Option.isNone_none, if_true]
    exact preserveRuntime_keeps _ _ _
  · refine .ite (preserveRuntime_keeps _ _ _) fun at_ sound => ?_
    refine (gateBond_ends _ _ (passing_decideRole kind undisputed _) sound).andThen (fun gate at_ found => ?_) fun _ _ found => found.1
    obtain ⟨sound, passed⟩ := found
    refine (proveOwnership_ends _ sound).andThen (fun owned at_ found => ?_) fun _ _ found => found.1
    obtain ⟨sound, guarded⟩ := found
    cases owned with
    | error reason =>
      exact Keeps.bind (writeFollowerStatus_keeps _ _ _ _ _ _ _) (fun _ => .give) at_ sound
    | ok owned =>
      let Inv (view : View) : Prop := view.Sound active ∧ (gate.role.landsSoloActive = true → view.Guarded active)
      have publishes : KeepsView Inv (publishRole trigger.now trigger.request gate) := writeFollowerStatus_keeps _ _ _ _ _ _ _
      refine (publishes at_ ⟨sound, guarded owned rfl⟩).andThen (fun published at_ inv => ?_) fun _ _ inv => inv.1
      split
      · exact transition_keeps _ _ (passed gate rfl) owned undisputed.seeds undisputed.reconciles inv.1 inv.2
      · exact .give inv.1

theorem Box.reconcile_sound {active : Bool} {box : Box} {trigger : Trigger} (on : trigger.On active)
    (undisputed : trigger.Undisputed) (sound : box.view.Sound active) : (box.reconcile trigger).view.Sound active :=
  (main_keeps on undisputed).run sound []

/-- Over any run of undisputed passes, whatever else fails in them, camilla#2 is armed only after its bake, its seed and its hardware,
and camilla#1 is asked for a graph that plays to the active content only while camilla#2 is off. -/
theorem no_contention {active : Bool} {box : Box} (fresh : box.loads = [] ∧ box.armings = [])
    (flat : active = false → box.view.Flat) (triggers : List Trigger) (on : ∀ trigger ∈ triggers, trigger.On active)
    (undisputed : ∀ trigger ∈ triggers, trigger.Undisputed) :
    (∀ load ∈ (triggers.foldl Box.reconcile box).loads, load.Safe) ∧
      ∀ arming ∈ (triggers.foldl Box.reconcile box).armings, arming.Arms := by
  have start : box.view.Sound active := ⟨by simp [Box.view, fresh.1], by simp [Box.view, fresh.2], flat⟩
  suffices sound : (triggers.foldl Box.reconcile box).view.Sound active from ⟨sound.loads, sound.armings⟩
  clear fresh flat
  induction triggers generalizing box with
  | nil => exact start
  | cons trigger triggers ih =>
    rw [List.forall_mem_cons] at on undisputed
    exact ih on.2 undisputed.2 (box.reconcile_sound on.1 undisputed.1 start)

def soloBox : Box where
  boot := 1
  status := none
  args := none
  files := fun _ => none
  stash := fun _ => none
  graphs := fun path => if path = .durableBaseline then some .soloActive else none
  camilla := .durableBaseline
  crossoverEnabled := false
  crossoverActive := false
  running := fun _ => false
  shairportActive := false
  behind := fun _ => false
  proof := .unproved
  landed := false
  loads := []
  armings := []
  published := []

def pairedAs (role : BondRole) : GroupingConfig where
  enabled := true
  role := role
  channel := "left"
  bondId := "pair"
  leaderAddr := "10.0.0.2"
  bufferMs := 400
  codec := "flac"
  error := none
  trimText := "0.0"
  clientLatencyMs := 0

/-- A pass of an active speaker that meets no failure. -/
def smoothly (role : BondRole) : Trigger := ⟨⟨pairedAs role, some true, true, some 128⟩, fun _ => .yes, ""⟩

-- `audio-hardware-reconcile` runs into its time limit.
def hardwareTimesOut : Trigger :=
  ⟨(smoothly .leader).request, fun point => if point = .hardware then .unknown else .yes, ""⟩

theorem no_contention_as_leader :
    (∀ load ∈ ([smoothly .leader].foldl Box.reconcile soloBox).loads, load.Safe) ∧
      ∀ arming ∈ ([smoothly .leader].foldl Box.reconcile soloBox).armings, arming.Arms :=
  @no_contention true soloBox ⟨rfl, rfl⟩ nofun [smoothly .leader] (by simp [Trigger.On, smoothly])
    (by simpa using ⟨by decide, .inl rfl, by decide⟩)

/-- A leader that is made a follower loads the graph of the follower while its camilla#2 runs, and one whose hardware reconcile runs
out of time arms camilla#2 all the same. -/
theorem dac_contended :
    (¬∀ load ∈ ([smoothly .leader, smoothly .follower].foldl Box.reconcile soloBox).loads, load.Safe) ∧
      ¬∀ arming ∈ ([hardwareTimesOut].foldl Box.reconcile soloBox).armings, arming.Arms := by
  decide +kernel

end Jts.Multiroom
