import Jts.Multiroom.Ownership
import Jts.Shared.Transition

set_option autoImplicit false

namespace Jts.Multiroom

open Shared.Operation Shared.Transition

/-- What decides who may still run on old values. -/
structure Wiring where
  args : Option Env
  running : SnapUnit → Bool
  shairportActive : Bool

/-- What has been told of the role of a box. -/
structure Record where
  boot : ℕ
  status : Option Status
  landed : Bool
  published : List Publishing

def Box.wiring (box : Box) : Wiring := ⟨box.args, box.running, box.shairportActive⟩

def Box.record (box : Box) : Record := ⟨box.boot, box.status, box.landed, box.published⟩

namespace Wiring

variable (wiring : Wiring)

def arg (unit : SnapUnit) : Option String := (wiring.args.getD []).lookup unit.key

-- A unit of snapcast that has been left running without a role.
def Halting (consumer : Consumer) : Prop := ∃ unit, consumer = .snap unit ∧ wiring.running unit = true ∧ wiring.arg unit = some ""

def Late (shairport : Prop) (consumer : Consumer) : Prop := consumer = .shairport ∧ shairport ∨ wiring.Halting consumer

end Wiring

/-- What has been told of a box, how it is wired, and who alone may lag behind. -/
structure Box.Holds (Told : Record → Prop) (wiring : Wiring) (Late : Consumer → Prop) (box : Box) : Prop where
  told : Told box.record
  wired : box.wiring = wiring
  late : ∀ consumer, box.behind consumer = true → Late consumer

theorem Box.Holds.mono {Told Other : Record → Prop} {wiring : Wiring} {Late Later : Consumer → Prop} {box : Box}
    (holds : box.Holds Told wiring Late) (other : Other box.record) (later : ∀ consumer, Late consumer → Later consumer) :
    box.Holds Other wiring Later :=
  ⟨other, holds.wired, fun consumer behind => later consumer (holds.late consumer behind)⟩

/-- What a step leaves of a box that was to hold. -/
structure Box.Spared (box after : Box) : Prop where
  record : after.record = box.record
  wiring : after.wiring = box.wiring
  behind : after.behind = box.behind
  files : after.files = box.files

theorem Box.Holds.spared {Told : Record → Prop} {wiring : Wiring} {Late : Consumer → Prop} {box after : Box}
    (holds : box.Holds Told wiring Late) (spared : box.Spared after) : after.Holds Told wiring Late where
  told := spared.record ▸ holds.told
  wired := spared.wiring.trans holds.wired
  late := fun consumer behind => holds.late consumer (spared.behind ▸ behind)

/-- Nobody lags where neither shairport nor a unit may. -/
theorem Box.Holds.current {Told : Record → Prop} {wiring : Wiring} {shairport settled : Prop} {box : Box} (done : settled)
    (plays : ¬shairport)
    (holds : box.Holds Told wiring fun consumer => wiring.Late shairport consumer ∧ (settled → ∀ unit, consumer ≠ .snap unit)) :
    box.lagging = false := by
  refine Bool.eq_false_iff.mpr fun behind => ?_
  obtain ⟨consumer, -, behind⟩ := List.any_eq_true.mp behind
  obtain ⟨⟨-, late⟩ | ⟨unit, same, -⟩, apart⟩ := holds.late consumer behind
  · exact plays late
  · exact apart done unit same

/-- A unit that is behind runs. -/
theorem Box.Holds.runs {Told : Record → Prop} {wiring : Wiring} {shairport : Prop} {box : Box}
    (holds : box.Holds Told wiring (wiring.Late shairport)) {unit : SnapUnit} (behind : box.behind (.snap unit) = true) :
    box.running unit = true := by
  obtain ⟨same, -⟩ | ⟨other, same, runs, -⟩ := holds.late _ behind
  · cases same
  · cases same
    rwa [← holds.wired] at runs

section Plan

theorem joinArgs_ne (name flag value : String) (rest : List String) (given : flag ≠ "") : joinArgs (name :: flag :: value :: rest) ≠ "" := by
  intro empty
  rw [joinArgs, List.tail_cons, String.intercalate_cons_cons, String.append_eq_empty_iff, String.append_eq_empty_iff] at empty
  exact given empty.1.1

/-- A unit is started with args of its own, and stopped with none. -/
theorem plan_args (cfg : GroupingConfig) (activeEndpoint : Bool) :
    ∀ intent ∈ plan cfg, (intent.desired = .start ↔ (assembleArgs cfg activeEndpoint).lookup intent.unit.key ≠ some "") := by
  have server : joinArgs (snapserverArgv cfg) ≠ "" := joinArgs_ne _ _ _ _ (by decide)
  have client (device : String) : joinArgs (snapclientArgv cfg device) ≠ "" := joinArgs_ne _ _ _ _ (by decide)
  intro intent mem
  unfold plan at mem
  unfold assembleArgs GroupingConfig.isActiveMember
  cases enabled : cfg.enabled <;> cases error : cfg.error <;> by_cases leads : cfg.role = .leader <;>
    simp [enabled, error, leads] at mem ⊢ <;> rcases mem with rfl | rfl <;> simp [SnapUnit.key, List.lookup_cons, server, client]

theorem plan_covers (cfg : GroupingConfig) (unit : SnapUnit) : ∃ intent ∈ plan cfg, intent.unit = unit := by
  unfold plan
  cases unit <;> split_ifs <;> simp

end Plan

section Steps

variable (now : Point → Answer) {Told : Record → Prop} {wiring : Wiring} {Late Later : Consumer → Prop} {box : Box}

/-- No call to the outside changes what holds. -/
theorem succeeds_holds (point : Point) (holds : box.Holds Told wiring Late) :
    Yields (fun box => Told box.record) (succeeds now point) box fun _ after => after = box :=
  .of_keeps (succeeds_keeps now point) rfl fun _ same => same ▸ holds.told

theorem ask_yields (point : Point) (told : Told box.record) :
    Yields (fun box => Told box.record) (ask now point) box fun answer after => after = box ∧ answer = now point ∧ answer ≠ .crash := by
  unfold ask
  split
  next => exact .raise told
  next crash => exact .give told ⟨rfl, rfl, crash⟩

theorem Box.Holds.refresh (holds : box.Holds Told wiring Late) {consumer : Consumer}
    (others : ∀ other, Late other → other ≠ consumer → Later other) : (box.refresh consumer).Holds Told wiring Later where
  told := holds.told
  wired := holds.wired
  late := by
    intro other behind
    simp only [Box.refresh] at behind
    split at behind
    next => cases behind
    next apart => exact others other (holds.late other behind) apart

theorem restartUnit_yields {consumer : Consumer} (lands : now (.restart consumer) = .yes ∨ now (.restart consumer) = .crash)
    (holds : box.Holds Told wiring Late) (others : ∀ other, Late other → other ≠ consumer → Later other) :
    Yields (fun box => Told box.record) (restartUnit now consumer) box fun _ after => after.Holds Told wiring Later := by
  unfold restartUnit
  rcases lands with yes | crash
  · rw [succeeds_yes now yes, pure_bind, if_pos rfl]
    exact .changeThen (.give holds.told (holds.refresh others))
  · rw [succeeds_crash now crash]
    exact .raise holds.told

/-- A consumer that a pass restarts where need be is not late any more. -/
theorem restart_yields (Later : Consumer → Prop) {needed : Bool} {consumer : Consumer} (lands : now (.restart consumer) = .yes ∨ now (.restart consumer) = .crash)
    (holds : box.Holds Told wiring Late) (others : ∀ other, Late other → (needed = true ∧ other = consumer) ∨ Later other) :
    Yields (fun box => Told box.record) (onlyWhen needed (restartUnit now consumer) true) box fun _ after =>
      after.Holds Told wiring Later := by
  cases needed with
  | true => exact restartUnit_yields now lands holds fun other late apart => (others other late).resolve_left fun same => apart same.2
  | false =>
    exact .give holds.told (holds.mono holds.told fun other late => (others other late).resolve_left fun needed => Bool.noConfusion needed.1)

/-- Whose file has come to hold another text. -/
def Outdates (wiring : Wiring) (file : Derived) (written : Written) (consumer : Consumer) : Prop :=
  (written.changed && written.ok) = true ∧ consumer = file.consumer ∧ (consumer = .shairport → wiring.shairportActive = true)

theorem Box.Holds.derive (holds : box.Holds Told wiring Late) (file : Derived) (text : String) :
    (box.derive file text).Holds Told wiring fun consumer => Late consumer ∨ box.files file ≠ some text ∧ consumer = file.consumer ∧
      (consumer = .shairport → wiring.shairportActive = true) := by
  unfold Box.derive
  dsimp only
  split
  next => exact ⟨holds.told, holds.wired, fun other behind => .inl (holds.late other behind)⟩
  next news =>
    refine ⟨holds.told, holds.wired, fun other behind => ?_⟩
    simp only [Bool.or_eq_true, decide_eq_true_eq, not_or, Bool.not_eq_true', Bool.not_eq_false] at news
    by_cases same : other = file.consumer
    · refine .inr ⟨news.1, same, fun shairport => ?_⟩
      rw [← holds.wired]
      have runs := news.2
      rw [← same, shairport] at runs
      exact runs
    · simp only [Box.outdate, same, if_false] at behind
      exact .inl (holds.late other behind)

theorem writeDerivedEnv_yields (file : Derived) (env : Env) (holds : box.Holds Told wiring Late) :
    Yields (fun box => Told box.record) (writeDerivedEnv now file env) box fun written after =>
      after.Holds Told wiring fun consumer => Late consumer ∨ box.files file ≠ some (body env) ∧ Outdates wiring file written consumer := by
  have unchanged : box.Holds Told wiring fun consumer => Late consumer ∨ box.files file ≠ some (body env) ∧
      Outdates wiring file ⟨false, true⟩ consumer := holds.mono holds.told fun _ => .inl
  unfold writeDerivedEnv
  refine .bind (succeeds_holds now _ holds) fun readable at_ _ same => ?_
  subst same
  refine .readThen (.ite (fun _ => .give holds.told unchanged) fun _ => ?_)
  refine .bind (succeeds_holds now _ holds) fun wrote at_ _ same => ?_
  subst same
  refine .ite (fun _ => .changeThen (.give (holds.derive file _).told ?_)) fun _ => ?_
  · refine (holds.derive file (body env)).mono (holds.derive file _).told fun consumer late => ?_
    exact late.imp id fun new => ⟨new.1, rfl, new.2⟩
  · exact .give holds.told (holds.mono holds.told fun _ => .inl)

/-- The consumer of a file that is restarted for a new text is as late as it was before. -/
theorem reread_yields (file : Derived) {News : Prop} {written : Written}
    (lands : now (.restart file.consumer) = .yes ∨ now (.restart file.consumer) = .crash)
    (holds : box.Holds Told wiring fun consumer => Late consumer ∨ News ∧ Outdates wiring file written consumer) :
    Yields (fun box => Told box.record) (onlyWhen (written.changed && written.ok) (restartUnit now file.consumer) true) box fun _ after =>
      after.Holds Told wiring Late :=
  restart_yields now Late lands holds fun _ late => late.symm.imp (fun new => ⟨new.2.1, new.2.2.1⟩) id

theorem rearg_behind {args : Env} {unit : SnapUnit} {consumer : Consumer} (behind : (box.rearg args unit).behind consumer = true) :
    box.behind consumer = true ∨
      consumer = .snap unit ∧ box.running unit = true ∧ (box.args.getD []).lookup unit.key ≠ args.lookup unit.key := by
  unfold Box.rearg at behind
  split at behind
  next => exact .inl behind
  next news =>
    simp only [Bool.or_eq_true, decide_eq_true_eq, not_or, Bool.not_eq_true', Bool.not_eq_false] at news
    by_cases same : consumer = .snap unit
    · exact .inr ⟨same, news.2, news.1⟩
    · simp only [Box.outdate, same, if_false] at behind
      exact .inl behind

theorem rearg_view (args : Env) (unit : SnapUnit) :
    (box.rearg args unit).record = box.record ∧ (box.rearg args unit).wiring = box.wiring := by
  unfold Box.rearg
  split <;> exact ⟨rfl, rfl⟩

/-- A unit that runs on has the args it is about to be given. -/
def Wiring.Steady (wiring : Wiring) (args : Env) : Prop :=
  ∀ unit, wiring.running unit = true → args.lookup unit.key ≠ some "" → wiring.arg unit = args.lookup unit.key

/-- Args that are new to a unit that runs are those of a unit that is to stop. -/
theorem Box.Holds.rearg {args : Env} (steady : wiring.Steady args) (holds : box.Holds Told wiring (wiring.Late False)) :
    Box.Holds Told { wiring with args := some args } (({ wiring with args := some args } : Wiring).Late False)
      { (box.rearg args .snapserver).rearg args .snapclient with args := some args } := by
  have server := @rearg_view box args .snapserver
  have client := @rearg_view (box.rearg args .snapserver) args .snapclient
  have told : ((box.rearg args .snapserver).rearg args .snapclient).record = box.record := client.1.trans server.1
  have wired : ((box.rearg args .snapserver).rearg args .snapclient).wiring = wiring := (client.2.trans server.2).trans holds.wired
  have steady_ : ∀ unit, box.running unit = true → args.lookup unit.key ≠ some "" →
      (box.args.getD []).lookup unit.key = args.lookup unit.key := by
    rw [← holds.wired] at steady
    exact steady
  refine ⟨?_, ?_, fun consumer behind => .inr ?_⟩
  · exact told ▸ holds.told
  · rw [← wired]
    rfl
  have outdated (unit : SnapUnit) (runs : wiring.running unit = true) (news : consumer = .snap unit)
      (blank : args.lookup unit.key = some "") : ({ wiring with args := some args } : Wiring).Halting consumer := ⟨unit, news, runs, blank⟩
  have moved (unit : SnapUnit) (new : consumer = .snap unit ∧ box.running unit = true ∧
      (box.args.getD []).lookup unit.key ≠ args.lookup unit.key) : ({ wiring with args := some args } : Wiring).Halting consumer := by
    obtain ⟨same, runs, differs⟩ := new
    have still : wiring.running unit = true := holds.wired ▸ runs
    exact outdated unit still same (Classical.not_not.mp fun given => differs (steady_ unit runs given))
  rcases rearg_behind behind with before | new
  · rcases rearg_behind before with before | new
    · obtain ⟨same, none⟩ | ⟨unit, same, runs, blank⟩ := holds.late consumer before
      · cases none
      · refine outdated unit runs same (Classical.not_not.mp fun given => given ?_)
        rw [← steady unit runs given, blank]
    · exact moved .snapserver new
  · have server_args : (box.rearg args .snapserver).args = box.args := congrArg Wiring.args server.2
    have server_running : (box.rearg args .snapserver).running = box.running := congrArg Wiring.running server.2
    rw [server_args, server_running] at new
    exact moved .snapclient new

theorem writeArgsFile_yields {args : Env} (steady : wiring.Steady args) (holds : box.Holds Told wiring (wiring.Late False)) :
    Yields (fun box => Told box.record) (writeArgsFile now args) box fun _ after =>
      after.files = box.files ∧ ∃ held, after.Holds Told { wiring with args := held } (({ wiring with args := held } : Wiring).Late False) ∧
        ({ wiring with args := held } : Wiring).Steady args := by
  have files (unit : SnapUnit) (box : Box) : (box.rearg args unit).files = box.files := by unfold Box.rearg; split <;> rfl
  unfold writeArgsFile
  refine .bind (succeeds_holds now _ holds) fun wrote at_ _ same => ?_
  subst same
  refine .ite (fun _ => .changeThen (.give (holds.rearg steady).told ⟨?_, some args, holds.rearg steady, fun _ _ _ => rfl⟩)) fun _ => ?_
  · exact (files .snapclient _).trans (files .snapserver _)
  · exact .give holds.told ⟨rfl, wiring.args, holds, steady⟩

theorem manage_running (intent : UnitIntent) (unit : SnapUnit) :
    (box.manage intent).running unit = if unit = intent.unit then intent.wants else box.running unit := by
  unfold Box.manage
  split
  next runs =>
    split
    next same => rw [same, runs]
    next => rfl
  next => rfl

theorem manage_behind {intent : UnitIntent} {consumer : Consumer} (behind : (box.manage intent).behind consumer = true) :
    box.behind consumer = true := by
  unfold Box.manage at behind
  split at behind
  next => exact behind
  next =>
    simp only [Box.refresh] at behind
    split at behind
    next => cases behind
    next => exact behind

/-- A unit that is stopped, and one that is started if it was not behind. -/
theorem manage_settles {intent : UnitIntent} (runs : box.behind (.snap intent.unit) = true → box.running intent.unit = true)
    (starts : intent.wants = true → box.behind (.snap intent.unit) = false) : (box.manage intent).behind (.snap intent.unit) = false := by
  unfold Box.manage
  split
  next settled =>
    cases wants : intent.wants with
    | true => exact starts wants
    | false => exact Bool.eq_false_iff.mpr fun behind => Bool.noConfusion ((runs behind).symm.trans (settled.trans wants))
  next => exact if_pos rfl

theorem Box.Holds.manage {shairport : Prop} {intent : UnitIntent} (holds : box.Holds Told wiring (wiring.Late shairport))
    (starts : intent.wants = true → box.behind (.snap intent.unit) = false) :
    Box.Holds Told { wiring with running := (box.manage intent).running }
      (({ wiring with running := (box.manage intent).running } : Wiring).Late shairport) (box.manage intent) := by
  have record : (box.manage intent).record = box.record := by unfold Box.manage; split <;> rfl
  have wired : (box.manage intent).args = box.args ∧ (box.manage intent).shairportActive = box.shairportActive := by
    unfold Box.manage
    split <;> exact ⟨rfl, rfl⟩
  refine ⟨record ▸ holds.told, ?_, fun consumer behind => ?_⟩
  · rw [← holds.wired]
    simp only [Box.wiring, wired]
  · refine (holds.late consumer (manage_behind behind)).imp id ?_
    rintro ⟨unit, rfl, runs, blank⟩
    refine ⟨unit, rfl, ?_, blank⟩
    change (box.manage intent).running unit = true
    rw [manage_running]
    split
    next same =>
      subst same
      rw [manage_settles holds.runs starts] at behind
      cases behind
    next => rwa [← holds.wired] at runs

/-- After a plan that met no failure, the units it names run on the values of the day. -/
theorem applyPlan_yields {shairport : Prop} (intents : List UnitIntent) (holds : box.Holds Told wiring (wiring.Late shairport))
    (starts : ∀ intent ∈ intents, intent.wants = true → box.behind (.snap intent.unit) = false)
    (there : ∀ unit, box.running unit = true → now (.planVerb unit) ≠ .unknown) :
    Yields (fun box => Told box.record) (applyPlan now intents) box fun rc after =>
      (∃ running, after.Holds Told { wiring with running := running } (({ wiring with running := running } : Wiring).Late shairport)) ∧
        (∀ consumer, after.behind consumer = true → box.behind consumer = true) ∧
          (rc = 0 → ∀ intent ∈ intents, after.behind (.snap intent.unit) = false) := by
  induction intents generalizing box wiring with
  | nil => exact .give holds.told ⟨⟨wiring.running, holds⟩, fun _ => id, fun _ _ mem => by cases mem⟩
  | cons intent intents ih =>
    rw [List.forall_mem_cons] at starts
    refine .bind (ask_yields now (.planVerb intent.unit) holds.told) fun answer at_ _ told => ?_
    obtain ⟨rfl, answered, uncut⟩ := told
    by_cases yes : answer = .yes
    · rw [onlyWhen, if_pos (decide_eq_true yes)]
      refine .changeThen (.bind (ih (holds.manage starts.1) (fun other mem wants => ?_) fun unit runs => ?_) fun rest after _ done => ?_)
      · exact Bool.eq_false_iff.mpr fun behind => Bool.noConfusion ((manage_behind behind).symm.trans (starts.2 other mem wants))
      · rw [manage_running] at runs
        split at runs
        next same => rw [same, ← answered, yes]; decide
        next => exact there unit runs
      · obtain ⟨⟨runs, held⟩, fewer, settled⟩ := done
        refine .give held.told ⟨⟨runs, held⟩, fun consumer behind => manage_behind (fewer consumer behind), fun zero => ?_⟩
        rw [if_neg (by rw [yes]; decide)] at zero
        refine List.forall_mem_cons.mpr ⟨Bool.eq_false_iff.mpr fun behind => ?_, settled zero⟩
        exact Bool.noConfusion ((fewer _ behind).symm.trans (manage_settles holds.runs starts.1))
    · rw [onlyWhen, if_neg fun yes_ => yes (of_decide_eq_true yes_), pure_bind]
      refine .bind (ih holds starts.2 there) fun rest after _ done => ?_
      obtain ⟨⟨runs, held⟩, fewer, settled⟩ := done
      refine .give held.told ⟨⟨runs, held⟩, fewer, fun zero => ?_⟩
      split at zero
      next => cases zero
      next no =>
        refine List.forall_mem_cons.mpr ⟨Bool.eq_false_iff.mpr fun behind => ?_, settled zero⟩
        have absent : answer = .unknown := by
          cases answer with
          | yes => exact absurd rfl yes
          | no => exact absurd rfl no
          | unknown => rfl
          | crash => exact absurd rfl uncut
        exact there intent.unit (holds.runs (fewer _ behind)) (answered.symm.trans absent)

/-- To load a graph spares what is to hold. -/
theorem loadable_spared {Inv : Box → Prop} (spares : ∀ {box after : Box}, box.Spared after → Inv box → Inv after) : Loadable Inv where
  request := fun _ _ => spares ⟨rfl, rfl, rfl, rfl⟩
  swap := fun _ _ => spares ⟨rfl, rfl, rfl, rfl⟩
  keep := fun _ _ => spares ⟨rfl, rfl, rfl, rfl⟩
  emit := fun _ _ _ _ => spares ⟨rfl, rfl, rfl, rfl⟩

theorem loadable_holds : Loadable fun box => box.Holds Told wiring Late := loadable_spared fun spared holds => holds.spared spared

/-- A pass may leave shairport late where it parks the sources, and a unit that it failed to stop. -/
theorem land_yields {role : RoleDecision} (owned : Bool) (planned : role.plan = plan role.cfg)
    (restarts : ∀ consumer, now (.restart consumer) = .yes ∨ now (.restart consumer) = .crash)
    (there : ∀ unit, wiring.running unit = true → now (.planVerb unit) ≠ .unknown)
    (steady : wiring.Steady (assembleArgs role.cfg role.activeEndpoint))
    (leads : role.activeSpeakerLeader = true → box.files .outputd =
      some (body (outputdGroupingEnv role.cfg role.activeEndpoint role.flatOutputAllowed role.outputdPeriodFrames)))
    (holds : box.Holds Told wiring (wiring.Late False)) :
    Yields (fun box => Told box.record) (land now role owned) box fun landed after =>
      ∃ wiring, after.Holds Told wiring fun consumer =>
        wiring.Late (role.cfg.localSourcesParked = true ∧ wiring.shairportActive = true) consumer ∧
          (landed.1.applyRc = 0 → ∀ unit, consumer ≠ .snap unit) := by
  refine .bind (writeArgsFile_yields now steady holds) fun wrote args_written _ wrote_ => ?_
  obtain ⟨files, held, holds, steady⟩ := wrote_
  rw [← files] at leads
  generalize wired : ({ wiring with args := held } : Wiring) = given at holds steady
  have there : ∀ unit, given.running unit = true → now (.planVerb unit) ≠ .unknown := by
    rw [← wired]
    exact there
  refine .bind (writeDerivedEnv_yields now .outputd _ holds) fun outputd at_ _ holds => ?_
  refine .bind (.of_keeps (loadable_holds.restoreSolo now role owned) holds fun _ holds => holds.told) fun solo at_ _ holds => ?_
  have deferred (needed : role.activeSpeakerLeader = false) (written : (outputd.changed && outputd.ok) = true) :
      (outputd.changed && outputd.ok && !role.activeSpeakerLeader) = true := by rw [written, needed]; rfl
  refine .bind (restart_yields now (given.Late False) (restarts .outputd) holds fun other late => ?_) fun refreshed at_ _ holds => ?_
  · rcases late with late | ⟨news, written, same, -⟩
    · exact .inr late
    · refine .inl ⟨deferred (Bool.eq_false_iff.mpr fun leads_ => news (leads leads_)) written, same⟩
  refine .bind (writeDerivedEnv_yields now .voice _ holds) fun voice at_ _ holds => ?_
  refine .bind (reread_yields now .voice (restarts .voice) holds) fun spoken at_ _ holds => ?_
  refine .bind (writeDerivedEnv_yields now .airplay _ holds) fun airplay at_ _ holds => ?_
  have holds : at_.Holds Told given (given.Late ((airplay.changed && airplay.ok) = true ∧ given.shairportActive = true)) := by
    refine holds.mono holds.told fun other late => ?_
    rcases late with (⟨-, none⟩ | halting) | ⟨-, written, same, active⟩
    · cases none
    · exact .inr halting
    · exact .inl ⟨same, written, active same⟩
  refine .bind (.of_keeps (planChangesUnits_keeps now role.plan) holds fun _ holds => holds.told) fun changed at_ _ holds => ?_
  refine .bind (applyPlan_yields now role.plan holds (fun intent mem wants => ?_) fun unit runs => ?_) fun rc at_ _ done => ?_
  · refine Bool.eq_false_iff.mpr fun behind => ?_
    rw [planned] at mem
    obtain ⟨same, -⟩ | ⟨unit, same, runs, blank⟩ := holds.late _ behind
    · cases same
    · cases same
      have own := (plan_args role.cfg role.activeEndpoint intent mem).mp (of_decide_eq_true wants)
      exact own ((steady intent.unit runs own).symm.trans blank)
  · refine there unit ?_
    rwa [← holds.wired]
  obtain ⟨⟨running, holds⟩, -, settled⟩ := done
  have covered : ∀ consumer, at_.behind consumer = true → rc = 0 → ∀ unit, consumer ≠ .snap unit := by
    rintro _ behind zero unit rfl
    obtain ⟨intent, mem, rfl⟩ := plan_covers role.cfg unit
    rw [planned] at settled
    exact Bool.noConfusion (behind.symm.trans (settled zero intent mem))
  obtain ⟨last, holds⟩ : ∃ last : Wiring, at_.Holds Told last fun consumer =>
      last.Late ((airplay.changed && airplay.ok) = true ∧ last.shairportActive = true) consumer ∧
        (rc = 0 → ∀ unit, consumer ≠ .snap unit) :=
    ⟨_, holds.told, holds.wired, fun consumer behind => ⟨holds.late consumer behind, covered consumer behind⟩⟩
  refine .bind (restart_yields now (fun consumer =>
    last.Late (role.cfg.localSourcesParked = true ∧ last.shairportActive = true) consumer ∧ (rc = 0 → ∀ unit, consumer ≠ .snap unit))
    (restarts .shairport) holds fun other late => ?_) fun played at_ _ holds => .give holds.told ⟨last, holds⟩
  · obtain ⟨⟨same, written, active⟩ | halting, apart⟩ := late
    · cases parked : role.cfg.localSourcesParked with
      | true => exact .inr ⟨.inl ⟨same, rfl, active⟩, apart⟩
      | false => exact .inl ⟨by rw [written]; rfl, same⟩
    · exact .inr ⟨.inr halting, apart⟩

end Steps

/-- Whether a status parks the sources of its box. -/
def Status.denies (status : Status) : Bool := !status.localSourcesAllowed

/-- Where it lifts a deny, or lets a follower play, it comes from a pass that has landed, and with nobody behind. -/
def Publishing.Lawful (publishing : Publishing) : Prop :=
  publishing.status.localSourcesAllowed = true →
    (publishing.before.any Status.denies || publishing.status.requested.localSourcesParked) = true →
      publishing.landed = true ∧ publishing.lagging = false

structure Record.Honest (record : Record) : Prop where
  lawful : ∀ publishing ∈ record.published, publishing.Lawful
  last : record.status = record.published.head?.map (·.status)

section Publishings

variable (now : Point → Answer) {Told : Record → Prop} {wiring : Wiring} {Late : Consumer → Prop} {box : Box}

/-- What holds, with the derived files as they are. -/
def Box.Rests (Told : Record → Prop) (wiring : Wiring) (Late : Consumer → Prop) (files : Derived → Option String) (box : Box) : Prop :=
  box.Holds Told wiring Late ∧ box.files = files

theorem Box.Rests.spared {files : Derived → Option String} {after : Box} (rests : box.Rests Told wiring Late files)
    (spared : box.Spared after) : after.Rests Told wiring Late files :=
  ⟨rests.1.spared spared, spared.files.trans rests.2⟩

/-- What a pass has told once its status stands. -/
def Record.Stands (cfg : GroupingConfig) (allowed : Bool) (record : Record) : Prop :=
  ∃ status, record.status = some status ∧ status.requested = cfg ∧ status.localSourcesAllowed = allowed

theorem writeFollowerStatus_yields (publication : Publication) (follower leader : Bool) (reason : String) (cfg : GroupingConfig)
    (allowed : Bool) (holds : box.Holds Record.Honest wiring Late)
    (lawful : allowed = true → (box.status.any Status.denies || cfg.localSourcesParked) = true → box.landed = true ∧ box.lagging = false) :
    Yields (fun box => box.record.Honest) (writeFollowerStatus now publication follower leader reason cfg allowed) box fun done after =>
      after.Holds Record.Honest wiring Late ∧ after.files = box.files ∧ after.landed = box.landed ∧
        (done = true → after.record.Stands cfg allowed) := by
  unfold writeFollowerStatus
  refine .bind (succeeds_holds now _ holds) fun known at_ _ same => ?_
  subst same
  refine .readThen (.bind (succeeds_holds now _ holds) fun wrote at_ _ same => ?_)
  subst same
  refine .ite (fun _ => .changeThen ?_) fun _ => .give holds.told ⟨holds, rfl, rfl, nofun⟩
  have honest (status : Status) (requested : status.requested = cfg) (granted : status.localSourcesAllowed = true → allowed = true) :
      (at_.publish status).record.Honest := by
    refine ⟨List.forall_mem_cons.mpr ⟨fun allows denying => ?_, holds.told.lawful⟩, rfl⟩
    exact lawful (granted allows) (requested ▸ denying)
  have granted : (allowed && (!allowed || known)) = true → allowed = true := fun allows => (Bool.and_eq_true_iff.mp allows).1
  refine .give (honest _ rfl granted) ⟨⟨honest _ rfl granted, holds.wired, holds.late⟩, rfl, rfl, fun done => ⟨_, rfl, rfl, ?_⟩⟩
  change (allowed && (!allowed || known)) = allowed
  rw [done, Bool.and_true]

/-- The role of a request, as the gates leave it. -/
def Resolved (request : Request) (prior : Option Bool) (role : RoleDecision) : Prop :=
  role = decideRole request prior ∨ role = (decideRole request prior).withFallback

theorem gateBond_yields (refusal : String) (request : Request) (prior : Option Bool) {files : Derived → Option String}
    (holds : box.Holds Told wiring Late ∧ box.files = files) :
    Yields (fun box => Told box.record) (gateBond now refusal (decideRole request prior)) box fun gate after =>
      (after.Holds Told wiring Late ∧ after.files = files) ∧ Resolved request prior gate.role := by
  have refused : Resolved request prior (refusePeriod (decideRole request prior)).role ∧
      ((refusePeriod (decideRole request prior)).role.activeEndpoint = true →
        (refusePeriod (decideRole request prior)).role = decideRole request prior) := by
    unfold refusePeriod
    split
    · exact ⟨.inr rfl, nofun⟩
    · exact ⟨.inl rfl, fun _ => rfl⟩
  unfold gateBond
  generalize refusePeriod (decideRole request prior) = gate at refused
  have provisioned : Yields (fun box => Told box.record) (provision now gate) box fun after_gate after =>
      (after.Holds Told wiring Late ∧ after.files = files) ∧ after_gate.role = gate.role := by
    refine .ite (fun _ => .bind (succeeds_holds now _ holds.1) fun done at_ _ same => ?_) fun _ => .give holds.1.told ⟨holds, rfl⟩
    subst same
    exact .ite (fun _ => .give holds.1.told ⟨holds, rfl⟩) fun _ => .give holds.1.told ⟨holds, rfl⟩
  refine .bind provisioned fun installed at_ _ done => ?_
  obtain ⟨holds, same⟩ := done
  rw [← same] at refused
  refine .ite (fun endpoint => .bind (succeeds_holds now _ holds.1) fun proven at_ _ same => ?_) fun _ => .give holds.1.told ⟨holds, refused.1⟩
  subst same
  have prechecked : (at_.precheck installed.role).Holds Told wiring Late ∧ (at_.precheck installed.role).files = files := by
    unfold Box.precheck
    split <;> exact ⟨⟨holds.1.told, holds.1.wired, holds.1.late⟩, holds.2⟩
  refine .ite (fun _ => .changeThen (.give prechecked.1.told ⟨prechecked, refused.1⟩)) fun _ => .give holds.1.told ⟨holds, .inr ?_⟩
  rw [refused.2 endpoint]

variable {files : Derived → Option String}

theorem disableCrossoverUnit_rests (command : Point) : Keeps (Box.Rests Told wiring Late files) (disableCrossoverUnit now command) :=
  .bind (succeeds_keeps now _) fun _ =>
    .ite (.bind (.change fun _ rests => rests.spared ⟨rfl, rfl, rfl, rfl⟩) fun _ => .give)
      (.bind (succeeds_keeps now _) fun _ => .bind (succeeds_keeps now _) fun _ =>
        .bind (.change fun _ rests => rests.spared ⟨rfl, rfl, rfl, rfl⟩) fun _ => .give)

theorem armCrossoverUnit_rests : Keeps (Box.Rests Told wiring Late files) (armCrossoverUnit now) :=
  .bind (.change fun _ rests => rests.spared ⟨rfl, rfl, rfl, rfl⟩) fun _ =>
    .bind (succeeds_keeps now _) fun _ =>
      .ite (.bind (.change fun _ rests => rests.spared ⟨rfl, rfl, rfl, rfl⟩) fun _ => .give)
        (.bind (succeeds_keeps now _) fun _ => .bind (succeeds_keeps now _) fun _ =>
          .bind (.change fun _ rests => rests.spared ⟨rfl, rfl, rfl, rfl⟩) fun _ => .give)

theorem loadable_rests : Loadable (Box.Rests Told wiring Late files) := loadable_spared fun spared rests => rests.spared spared

theorem proveOwnership_rests (role : RoleDecision) : Keeps (Box.Rests Told wiring Late files) (proveOwnership now role) := by
  refine .ite (.bind (probe_keeps now _ _) fun enabled => .bind (probe_keeps now _ _) fun active => ?_) .give
  split
  · exact .bind (.change fun _ rests => rests.spared ⟨rfl, rfl, rfl, rfl⟩) fun _ => .give
  · exact .bind (disableCrossoverUnit_rests now _) fun _ => .ite (.bind (probe_keeps now _ _) fun _ => .ite .give .give) .give
  · exact .give

theorem bakeSeedReconcile_rests : Keeps (Box.Rests Told wiring Late files) (bakeSeedReconcile now) := by
  have proves (step : Proof → Proof) : Keeps (Box.Rests Told wiring Late files) (Attempt.change (·.prove step) : Pass Unit) :=
    .change fun _ rests => rests.spared ⟨rfl, rfl, rfl, rfl⟩
  have refreshes : Keeps (Box.Rests Told wiring Late files) (Attempt.change (·.refresh .outputd) : Pass Unit) :=
    .change fun _ rests => ⟨rests.1.refresh fun _ late _ => late, rests.2⟩
  exact .bind (attempted_keeps (loadable_rests.applyEndpoint now _ _ _)) fun _ => .ite (.bind (proves _) fun _ =>
    .bind (succeeds_keeps now _) fun _ => .ite (.bind (proves _) fun _ => .bind (ask_keeps now _) fun _ =>
      .bind (succeeds_keeps now _) fun _ => .bind (onlyWhen_keeps refreshes) fun _ =>
        .ite (.bind (proves _) fun _ => .give) .give) .give) .give

/-- A step that leaves the record leaves it honest, and the landing told. -/
theorem Box.Rests.still {after : Box} (honest : box.record.Honest) (rests : after.Rests (· = box.record) wiring Late files) :
    after.Holds Record.Honest wiring Late ∧ after.landed = box.landed :=
  ⟨rests.1.mono (rests.1.told ▸ honest) fun _ => id, congrArg Record.landed rests.1.told⟩

/-- The status of a bond that was blocked may say what the status of the pass said. -/
theorem armWhenReleased_yields (role : RoleDecision) {at_ : Box} (honest : box.record.Honest)
    (allows : role.localSourcesAllowed = true → (box.status.any Status.denies || role.requestedCfg.localSourcesParked) = false)
    (rests : at_.Rests (· = box.record) wiring Late files) :
    Yields (fun box => box.record.Honest) (armWhenReleased now role) at_ fun _ after =>
      after.Holds Record.Honest wiring Late ∧ after.landed = box.landed := by
  have told (after : Box) (rests : after.Rests (· = box.record) wiring Late files) : after.record.Honest := (rests.still honest).1.told
  refine .bind (.of_keeps (probe_keeps now _ _) rests told) fun armed at_ _ rests => ?_
  refine .ite (fun _ => .give (told at_ rests) (rests.still honest)) fun _ => ?_
  refine .bind (.of_keeps (ask_keeps now _) rests told) fun lock at_ _ rests => .ite (fun _ => ?_) fun _ => ?_
  · refine .changeThen (.bind (.of_keeps (armCrossoverUnit_rests now) ?_ told) fun armed at_ _ rests =>
      .give (told at_ rests) (rests.still honest))
    exact rests.spared ⟨rfl, rfl, rfl, rfl⟩
  · refine .bind (.of_keeps (attempted_keeps (loadable_rests.restoreActiveCamillaSolo now _ _ _)) rests told) fun _ at_ _ rests => ?_
    obtain ⟨holds, landed⟩ := rests.still honest
    refine .bind (writeFollowerStatus_yields now _ _ _ _ _ _ holds fun allowed denying => ?_) fun _ at_ _ published => ?_
    · rw [show at_.status = box.status from congrArg Record.status rests.1.told, allows allowed] at denying
      cases denying
    · exact .give published.1.told ⟨published.1, published.2.2.1.trans landed⟩

theorem bondActiveLeader_yields (role : RoleDecision) (honest : box.record.Honest)
    (allows : role.localSourcesAllowed = true → (box.status.any Status.denies || role.requestedCfg.localSourcesParked) = false)
    (rests : box.Rests (· = box.record) wiring Late files) :
    Yields (fun box => box.record.Honest) (bondActiveLeader now role) box fun _ after =>
      after.Holds Record.Honest wiring Late ∧ after.landed = box.landed := by
  have told (after : Box) (rests : after.Rests (· = box.record) wiring Late files) : after.record.Honest := (rests.still honest).1.told
  refine .bind (.of_keeps (probe_keeps now _ _) rests told) fun wired at_ _ rests => .ite (fun _ => ?_) fun _ => ?_
  · refine .bind (.of_keeps (disableCrossoverUnit_rests now _) rests told) fun done at_ _ rests =>
      .ite (fun _ => .give (told at_ rests) (rests.still honest)) fun _ => ?_
    refine .bind (.of_keeps (succeeds_keeps now _) rests told) fun started at_ _ rests =>
      .ite (fun _ => .give (told at_ rests) (rests.still honest)) fun _ => ?_
    refine .bind (.of_keeps (bakeSeedReconcile_rests now) rests told) fun baked at_ _ rests => .ite (fun _ => ?_) fun _ => ?_
    · exact .bind (armWhenReleased_yields now role honest allows rests) fun bonded at_ honest done => .give honest done
    · exact .give (told at_ rests) (rests.still honest)
  · exact .bind (.of_keeps (disableCrossoverUnit_rests now _) rests told) fun done at_ _ rests =>
      .give (told at_ rests) (rests.still honest)

theorem bondLeader_yields (role : RoleDecision) (holds : box.Holds Record.Honest wiring Late)
    (allows : role.localSourcesAllowed = true → (box.status.any Status.denies || role.requestedCfg.localSourcesParked) = false) :
    Yields (fun box => box.record.Honest) (bondLeader now role) box fun _ after =>
      after.Holds Record.Honest wiring Late ∧ after.landed = box.landed ∧
        (role.passiveLeader = false → role.activeSpeakerLeader = false → after.record = box.record) := by
  have rests : box.Rests (· = box.record) wiring Late box.files := ⟨holds.mono rfl fun _ => id, rfl⟩
  refine .ite (fun passive => ?_) fun notPassive => .ite (fun active => ?_) fun _ => .give holds.told ⟨holds, rfl, fun _ _ => rfl⟩
  · refine .bind (.of_keeps (attempted_keeps (loadable_rests.applyBondedLeaderConfig now)) rests
      fun after rests => (rests.still holds.told).1.told) fun _ at_ _ rests => ?_
    obtain ⟨still, landed⟩ := rests.still holds.told
    exact .give still.told ⟨still, landed, fun _ _ => rests.1.told⟩
  · exact (bondActiveLeader_yields now role holds.told allows rests).mono fun _ _ _ done =>
      ⟨done.1, done.2, fun _ off => Bool.noConfusion (active.symm.trans off)⟩

/-- The pass is not left without what the call is to do. -/
def Done (point : Point) : Prop := now point = .yes ∨ now point = .crash

variable {now} in
theorem Done.succeeds {point : Point} (done : Done now point) (told : Told box.record) :
    Yields (fun box => Told box.record) (Multiroom.succeeds now point) box fun succeeded after => after = box ∧ succeeded = true := by
  rcases done with yes | crash
  · rw [succeeds_yes now yes]
    exact .give told ⟨rfl, rfl⟩
  · rw [succeeds_crash now crash]
    exact .raise told

theorem grantSources_yields (request : Request) (role : RoleDecision) (landing : Landing) (reason : String) (rc : ℕ)
    (holds : box.Holds Record.Honest wiring Late) (landed : box.landed = true)
    (clear : (role.refusedFollowerFallback || role.transitioningFromParkedRole) = true → landing.landed = true → box.lagging = false) :
    Yields (fun box => box.record.Honest) (grantSources now request role landing reason rc) box fun granted after =>
      after.Holds Record.Honest wiring Late ∧ (granted = 0 → rc = 0) ∧
        ((role.refusedFollowerFallback || role.transitioningFromParkedRole) = false → after.record = box.record) := by
  refine .ite (fun pending => .ite (fun lands => ?_) fun _ => .give holds.told ⟨holds, id, fun _ => rfl⟩) fun _ =>
    .give holds.told ⟨holds, id, fun _ => rfl⟩
  have waits : (role.refusedFollowerFallback || role.transitioningFromParkedRole) = true := pending
  have lands : landing.landed = true := (Bool.and_eq_true_iff.mp lands).1
  refine .bind (writeFollowerStatus_yields now _ _ _ _ _ _ holds fun _ _ => ⟨landed, clear waits lands⟩) fun published at_ honest told => ?_
  have settled : (role.refusedFollowerFallback || role.transitioningFromParkedRole) = false → at_.record = box.record :=
    fun none => Bool.noConfusion (waits.symm.trans none)
  exact .ite (fun _ => .give honest ⟨told.1, id, settled⟩) fun _ => .give honest ⟨told.1, nofun, settled⟩

theorem parked_reason {cfg : GroupingConfig} (parked : cfg.localSourcesParked = true) {status : Status}
    (denies : status.localSourcesAllowed = false) (boot : Option ℕ) :
    (effectiveLocalSourcesParkReason cfg (some status) boot).isNone = false := by
  obtain ⟨reason, parks⟩ := Option.isSome_iff_exists.mp parked
  unfold effectiveLocalSourcesParkReason
  simp [parks, denies]

/-- The source owner parks shairport where the role parks it, and starts nothing that would lag. -/
theorem Box.Holds.converge {cfg : GroupingConfig} {parked : Bool} {Stays : Consumer → Prop} (wanted : Bool)
    (denied : parked = true → cfg.localSourcesParked = true ∧ ∃ status, box.status = some status ∧ status.localSourcesAllowed = false)
    (holds : box.Holds Told wiring fun consumer =>
      wiring.Late (parked = true ∧ wiring.shairportActive = true) consumer ∧ Stays consumer) :
    ∃ wiring, (box.converge cfg wanted).Holds Told wiring fun consumer => wiring.Late False consumer ∧ Stays consumer := by
  have silent (parks : parked = true) :
      (wanted && (effectiveLocalSourcesParkReason cfg box.status (some box.boot)).isNone) = false := by
    obtain ⟨own, status, stands, denies⟩ := denied parks
    rw [stands, parked_reason own denies, Bool.and_false]
  unfold Box.converge
  dsimp only
  split
  next same =>
    refine ⟨wiring, holds.told, holds.wired, fun consumer behind => ?_⟩
    obtain ⟨⟨-, parks, active⟩ | halting, stays⟩ := holds.late consumer behind
    · rw [silent parks, show box.shairportActive = wiring.shairportActive from congrArg Wiring.shairportActive holds.wired, active] at same
      cases same
    · exact ⟨.inr halting, stays⟩
  next =>
    refine ⟨{ wiring with shairportActive := wanted && (effectiveLocalSourcesParkReason cfg box.status (some box.boot)).isNone }, holds.told, ?_, fun consumer behind => ?_⟩
    · rw [← holds.wired]
      rfl
    · simp only [Box.refresh] at behind
      split at behind
      next => cases behind
      next apart =>
        obtain ⟨⟨same, -⟩ | halting, stays⟩ := holds.late consumer behind
        · exact absurd same apart
        · exact ⟨.inr halting, stays⟩

theorem convergeSourcesAfterRole_yields (cfg : GroupingConfig) (grouping changed parked : Bool) {Stays : Consumer → Prop}
    (denied : parked = true → cfg.localSourcesParked = true ∧ ∃ status, box.status = some status ∧ status.localSourcesAllowed = false)
    (groups : parked = true → grouping = true)
    (parks : parked = true → (now .sourceBusy = .no ∨ Done now .sourceDrain) ∧ Done now .sourceStart)
    (holds : box.Holds Told wiring fun consumer =>
      wiring.Late (parked = true ∧ wiring.shairportActive = true) consumer ∧ Stays consumer) :
    Yields (fun box => Told box.record) (convergeSourcesAfterRole now cfg grouping changed) box fun _ after =>
      ∃ wiring, after.Holds Told wiring fun consumer => wiring.Late False consumer ∧ Stays consumer := by
  have skips (free : parked = false) : box.Holds Told wiring fun consumer => wiring.Late False consumer ∧ Stays consumer := by
    refine holds.mono holds.told fun consumer late => late.imp (Or.imp (And.imp id fun both => ?_) id) id
    exact Bool.noConfusion (free.symm.trans both.1)
  unfold convergeSourcesAfterRole
  refine .ite (fun skipped => ?_) fun _ => ?_
  · refine .give holds.told ⟨wiring, skips (Bool.eq_false_iff.mpr fun parks_ => ?_)⟩
    rw [groups parks_] at skipped
    cases skipped
  · refine .bind (ask_yields now .sourceBusy holds.told) fun busy at_ _ told => ?_
    obtain ⟨rfl, rfl, -⟩ := told
    have drains : Yields (fun box => Told box.record) (onlyWhen (now .sourceBusy ≠ .no) (succeeds now .sourceDrain) true) at_
        fun drained after => after = at_ ∧ (parked = true → drained = true) := by
      refine .ite (fun busy => ?_) fun _ => .give holds.told ⟨rfl, fun _ => rfl⟩
      cases parked with
      | true =>
        have done := (parks rfl).1.resolve_left (of_decide_eq_true busy)
        exact (done.succeeds holds.told).mono fun _ _ _ done => ⟨done.1, fun _ => done.2⟩
      | false => exact (succeeds_holds now _ holds).mono fun _ _ _ same => ⟨same, nofun⟩
    refine .bind drains fun drained at_ _ told => ?_
    obtain ⟨rfl, drained_⟩ := told
    refine .ite (fun _ => ?_) fun undrained => .give holds.told ⟨wiring, skips (Bool.eq_false_iff.mpr fun parks_ => undrained (drained_ parks_))⟩
    have starts : Yields (fun box => Told box.record) (succeeds now .sourceStart) at_
        fun started after => after = at_ ∧ (parked = true → started = true) := by
      cases parked with
      | true => exact ((parks rfl).2.succeeds holds.told).mono fun _ _ _ done => ⟨done.1, fun _ => done.2⟩
      | false => exact (succeeds_holds now _ holds).mono fun _ _ _ same => ⟨same, nofun⟩
    refine .bind starts fun started at_ _ told => ?_
    obtain ⟨rfl, started_⟩ := told
    refine .ite (fun _ => ?_) fun unstarted => .give holds.told ⟨wiring, skips (Bool.eq_false_iff.mpr fun parks_ => unstarted (started_ parks_))⟩
    refine .bind (succeeds_holds now .shairportWanted holds) fun wanted at_ _ same => ?_
    subst same
    obtain ⟨wired, converged⟩ := holds.converge wanted denied
    exact .changeThen (.give converged.told ⟨wired, converged⟩)

theorem preserveRuntime_yields (request : Request) (role : RoleDecision)
    (restarts : ∀ consumer, Done now (.restart consumer)) (holds : box.Holds Record.Honest wiring (wiring.Late False))
    (allows : role.localSourcesAllowed = true → (box.status.any Status.denies || request.cfg.localSourcesParked) = false) :
    Yields (fun box => box.record.Honest) (preserveRuntime now request role) box fun rc after =>
      rc ≠ 0 ∧ ∃ wiring, after.Holds Record.Honest wiring (wiring.Late False) := by
  refine .bind (writeFollowerStatus_yields now _ _ _ _ _ _ holds fun allowed denying => ?_) fun _ at_ _ told => ?_
  · rw [allows allowed] at denying
    cases denying
  refine .bind (writeDerivedEnv_yields now .outputd _ told.1) fun outputd at_ _ holds => ?_
  refine .bind (reread_yields now .outputd (restarts .outputd) holds) fun _ at_ _ holds => ?_
  refine .bind (writeDerivedEnv_yields now .voice _ holds) fun voice at_ _ holds => ?_
  refine .bind (reread_yields now .voice (restarts .voice) holds) fun _ at_ _ holds => ?_
  exact .give holds.told ⟨Nat.one_ne_zero, wiring, holds⟩

end Publishings

section Roles

variable {request : Request} {prior : Option Bool} {role : RoleDecision}

theorem unmember (cfg : GroupingConfig) : ({ cfg with enabled := false } : GroupingConfig).localSourcesParked = false := by
  simp [GroupingConfig.localSourcesParked, GroupingConfig.localSourcesParkReason, GroupingConfig.followerLeaderAddr,
    GroupingConfig.isActiveMember]

theorem parked_member {cfg : GroupingConfig} (parked : cfg.localSourcesParked = true) :
    cfg.isActiveMember = true ∧ cfg.role = .follower := by
  simp only [GroupingConfig.localSourcesParked, GroupingConfig.localSourcesParkReason, GroupingConfig.followerLeaderAddr] at parked
  split at parked
  next all =>
    simp only [Bool.and_eq_true, decide_eq_true_eq] at all
    exact all.1
  next => cases parked

theorem Resolved.plan (resolved : Resolved request prior role) : role.plan = Multiroom.plan role.cfg ∧ role.requestedCfg = request.cfg := by
  rcases resolved with rfl | rfl <;> exact ⟨rfl, rfl⟩

/-- A role that parks the sources follows, and has nothing to grant. -/
structure Follows (request : Request) (role : RoleDecision) : Prop where
  cfg : role.cfg = request.cfg
  active : role.active = true
  settled : (role.refusedFollowerFallback || role.transitioningFromParkedRole) = false
  passive : role.passiveLeader = false
  leader : role.activeSpeakerLeader = false

theorem Resolved.follows (resolved : Resolved request prior role) (parked : role.cfg.localSourcesParked = true) : Follows request role := by
  rcases resolved with rfl | rfl
  · obtain ⟨active, follower⟩ := parked_member parked
    have parked : request.cfg.localSourcesParked = true := parked
    have active : request.cfg.isActiveMember = true := active
    have follower : request.cfg.role = .follower := follower
    exact ⟨rfl, active, by simp [decideRole, parked], by simp [decideRole, follower], by simp [decideRole, follower]⟩
  · exact Bool.noConfusion ((unmember _).symm.trans parked)

theorem Resolved.allows (resolved : Resolved request prior role) (allowed : role.localSourcesAllowed = true) :
    request.cfg.localSourcesParked = false ∧ prior ≠ some false := by
  rcases resolved with rfl | rfl
  · simp only [RoleDecision.localSourcesAllowed, decideRole, Bool.and_eq_true, Bool.not_eq_true'] at allowed
    have free : request.cfg.localSourcesParked = false := allowed.1.1
    refine ⟨free, fun denied => ?_⟩
    rw [free, denied] at allowed
    exact Bool.noConfusion allowed.2
  · simp only [RoleDecision.localSourcesAllowed, RoleDecision.withFallback, decideRole, Bool.and_eq_true, Bool.not_eq_true'] at allowed
    refine ⟨allowed.1.2, fun denied => ?_⟩
    rw [allowed.1.2, denied] at allowed
    exact Bool.noConfusion allowed.2

end Roles

section Passes

variable {box : Box} {trigger : Trigger} {wiring : Wiring}

def Trigger.role (trigger : Trigger) : RoleDecision := decideRole trigger.request none

/-- A pass that can be cut off anywhere, and in which a unit verb, a write or a graph may fail, but no restart. It starts no unit of
snapcast that runs already on other args, and an active leader finds the file of outputd as it writes it. -/
structure Trigger.Lands (trigger : Trigger) (box : Box) : Prop where
  readable : Done trigger.now .statusRead
  restarts : ∀ consumer, Done trigger.now (.restart consumer)
  there : ∀ unit, box.running unit = true → trigger.now (.planVerb unit) ≠ .unknown
  steady : box.wiring.Steady (assembleArgs trigger.request.cfg trigger.role.activeEndpoint)
  leads : trigger.role.activeSpeakerLeader = true → box.files .outputd = some (body (outputdGroupingEnv trigger.request.cfg
    trigger.role.activeEndpoint trigger.request.flatOutputAllowed trigger.request.outputdPeriodFrames))
  parks : trigger.request.cfg.localSourcesParked = true →
    (trigger.now .sourceBusy = .no ∨ Done trigger.now .sourceDrain) ∧ Done trigger.now .sourceStart

theorem steady_fallback (cfg : GroupingConfig) (activeEndpoint : Bool) :
    wiring.Steady (assembleArgs { cfg with enabled := false } activeEndpoint) := by
  intro unit _ given
  refine absurd ?_ given
  have idle : ({ cfg with enabled := false } : GroupingConfig).isActiveMember = false := Bool.false_and _
  unfold assembleArgs
  rw [idle]
  cases unit <;> rfl

theorem transition_yields {prior : Option Bool} {gate : Gate} (owned : Bool) (resolved : Resolved trigger.request prior gate.role)
    (lands : trigger.Lands box) (holds : box.Holds Record.Honest box.wiring (box.wiring.Late False))
    (stands : box.record.Stands trigger.request.cfg gate.role.localSourcesAllowed) :
    Yields (fun box => box.record.Honest) (transition trigger.now trigger.request gate owned) box fun rc after =>
      ∃ wiring, after.Holds Record.Honest wiring fun consumer => wiring.Late False consumer ∧ (rc = 0 → ∀ unit, consumer ≠ .snap unit) := by
  obtain ⟨planned, requested⟩ := resolved.plan
  obtain ⟨status, told, sought, granted⟩ := stands
  have steady : box.wiring.Steady (assembleArgs gate.role.cfg gate.role.activeEndpoint) := by
    rcases resolved with same | same
    · rw [same]
      exact lands.steady
    · rw [same]
      exact steady_fallback _ _
  have leads (leader : gate.role.activeSpeakerLeader = true) : box.files .outputd = some (body (outputdGroupingEnv gate.role.cfg
      gate.role.activeEndpoint gate.role.flatOutputAllowed gate.role.outputdPeriodFrames)) := by
    rcases resolved with same | same
    · rw [same] at leader ⊢
      exact lands.leads leader
    · rw [same] at leader
      cases leader
  have begun : box.Holds (fun record => record = box.record) box.wiring (box.wiring.Late False) := holds.mono rfl fun _ => id
  have landing := land_yields trigger.now owned planned lands.restarts lands.there steady leads begun
  refine .bind (landing.weaken fun after same => same ▸ holds.told) fun landed at_ _ done => .changeThen ?_
  obtain ⟨wiring, holds_⟩ := done
  have record : at_.land.record = { box.record with landed := true } := by
    rw [← holds_.told]
    rfl
  have honest : at_.land.record.Honest := record ▸ ⟨holds.told.lawful, holds.told.last⟩
  have holds : at_.land.Holds Record.Honest wiring fun consumer =>
      wiring.Late (gate.role.cfg.localSourcesParked = true ∧ wiring.shairportActive = true) consumer ∧
        (landed.1.applyRc = 0 → ∀ unit, consumer ≠ .snap unit) := ⟨honest, holds_.wired, holds_.late⟩
  have status_ : at_.land.status = some status := (congrArg Record.status record).trans told
  have landed_ : at_.land.landed = true := rfl
  generalize at_.land = at_ at holds status_ landed_ record
  refine .bind (bondLeader_yields trigger.now gate.role holds fun allowed => ?_) fun bonded bonded_ _ done => ?_
  · rw [status_, requested, (resolved.allows allowed).1, Bool.or_false, Option.any_some, Status.denies, granted, allowed]
    rfl
  obtain ⟨holds, kept, unbonded⟩ := done
  rw [landed_] at kept
  have pins : Yields (fun box => box.record.Honest)
      (onlyWhen (gate.role.activeLeader && !bonded.armBlocked) (succeeds trigger.now .streamBinding) true) bonded_
      fun _ after => after = bonded_ := .ite (fun _ => succeeds_holds trigger.now _ holds) fun _ => .give holds.told rfl
  refine .bind pins fun pinned pinned_ _ same => ?_
  subst same
  have rests : pinned_.Rests (fun record => record = pinned_.record) wiring _ pinned_.files := ⟨holds.mono rfl fun _ => id, rfl⟩
  refine .bind (.of_keeps (onlyWhen_keeps (attempted_keeps (loadable_rests.applyEndpoint trigger.now .follower .follower .follower)))
    rests fun after rests => rests.1.told ▸ holds.told) fun followed swapped _ rests => ?_
  have swapped_ : swapped.record = pinned_.record := rests.1.told
  have holds := rests.1.mono (swapped_ ▸ holds.told : swapped.record.Honest) fun _ => id
  have kept : swapped.landed = true := (congrArg Record.landed swapped_).trans kept
  have zero (rc_ : (if bonded.ok && pinned && followed then max gate.rc landed.1.rc else 1) = 0) : landed.1.applyRc = 0 := by
    split at rc_
    next =>
      have rc_ : landed.1.rc = 0 := Nat.le_zero.mp (rc_ ▸ Nat.le_max_right gate.rc landed.1.rc)
      unfold Landing.rc at rc_
      split at rc_
      next => exact rc_
      next => cases rc_
    next => cases rc_
  refine .bind (grantSources_yields trigger.now trigger.request gate.role landed.1 _ _ holds kept fun pending lands_ => ?_)
    fun rc at_ _ done => ?_
  · have units : landed.1.applyRc = 0 := by
      simp only [Landing.landed, Bool.and_eq_true, decide_eq_true_eq] at lands_
      exact lands_.2
    exact holds.current units fun parked => Bool.noConfusion (pending.symm.trans (resolved.follows parked.1).settled)
  obtain ⟨holds, granted_, settled⟩ := done
  refine .bind (convergeSourcesAfterRole_yields trigger.now trigger.request.cfg gate.role.active landed.2
    gate.role.cfg.localSourcesParked (fun parked => ?_) (fun parked => (resolved.follows parked).active)
    (fun parked => lands.parks ?_) holds) fun converged at_ _ done => ?_
  · obtain ⟨cfg, -, none, passive, leader⟩ := resolved.follows parked
    have own : trigger.request.cfg.localSourcesParked = true := cfg ▸ parked
    refine ⟨own, status, ?_, ?_⟩
    · exact (congrArg Record.status ((settled none).trans (swapped_.trans (unbonded passive leader)))).trans status_
    · rw [granted]
      exact Bool.eq_false_iff.mpr fun allowed => Bool.noConfusion ((resolved.allows allowed).1.symm.trans own)
  · rwa [(resolved.follows parked).cfg] at parked
  · obtain ⟨wiring, holds⟩ := done
    refine .ite (fun _ => .give holds.told ⟨wiring, holds.mono holds.told fun consumer late => ⟨late.1, fun done => ?_⟩⟩) fun _ =>
      .give holds.told ⟨wiring, holds.mono holds.told fun consumer late => ⟨late.1, nofun⟩⟩
    exact late.2 (zero (granted_ done))

theorem Trigger.Lands.moved (lands : trigger.Lands box) {other : Box} (wired : other.wiring = box.wiring) (files : other.files = box.files) :
    trigger.Lands other where
  readable := lands.readable
  restarts := lands.restarts
  there := fun unit runs => lands.there unit ((congrFun (congrArg Wiring.running wired) unit).symm.trans runs)
  steady := wired ▸ lands.steady
  leads := fun leader => files ▸ lands.leads leader
  parks := lands.parks

theorem undenied {status : Option Status} (prior : status.map (·.localSourcesAllowed) ≠ some false) :
    status.any Status.denies = false := by
  cases status with
  | none => rfl
  | some status =>
    rw [Option.any_some, Status.denies]
    cases allowed : status.localSourcesAllowed with
    | true => rfl
    | false => exact absurd (congrArg some allowed) prior

theorem main_yields (lands : trigger.Lands box) (holds : box.Holds Record.Honest box.wiring (box.wiring.Late False)) :
    Yields (fun box => box.record.Honest) (main trigger.now trigger.refusal trigger.request) box fun rc after =>
      ∃ wiring, after.Holds Record.Honest wiring fun consumer => wiring.Late False consumer ∧ (rc = 0 → ∀ unit, consumer ≠ .snap unit) := by
  refine .changeThen ?_
  have honest : box.begin.record.Honest := ⟨holds.told.lawful, holds.told.last⟩
  have lands : trigger.Lands box.begin := lands.moved rfl rfl
  have holds : box.begin.Holds Record.Honest box.begin.wiring (box.begin.wiring.Late False) := ⟨honest, rfl, holds.late⟩
  generalize box.begin = box at honest lands holds
  refine .bind (lands.readable.succeeds honest) fun readable at_ _ same => ?_
  obtain ⟨rfl, rfl⟩ := same
  refine .readThen ?_
  simp only [if_true]
  have allows {role : RoleDecision} (resolved : Resolved trigger.request (at_.status.map (·.localSourcesAllowed)) role)
      (allowed : role.localSourcesAllowed = true) : (at_.status.any Status.denies || trigger.request.cfg.localSourcesParked) = false := by
    obtain ⟨free, prior⟩ := resolved.allows allowed
    rw [undenied prior, free]
    rfl
  refine .ite (fun _ => ?_) fun _ => ?_
  · refine (preserveRuntime_yields trigger.now _ _ lands.restarts holds (allows (.inl rfl))).mono fun rc after told done => ?_
    obtain ⟨failed, wiring, holds⟩ := done
    exact ⟨wiring, holds.mono told fun consumer late => ⟨late, fun zero => absurd zero failed⟩⟩
  · have rests : at_.Rests (fun record => record = at_.record) at_.wiring (at_.wiring.Late False) at_.files :=
      ⟨holds.mono rfl fun _ => id, rfl⟩
    have gated := gateBond_yields trigger.now trigger.refusal trigger.request (at_.status.map (·.localSourcesAllowed)) rests
    refine .bind (gated.weaken fun after same => same ▸ honest) fun gate gated_ _ done => ?_
    obtain ⟨rests, resolved⟩ := done
    refine .bind (.of_keeps (proveOwnership_rests trigger.now gate.role) rests fun after rests => rests.1.told ▸ honest)
      fun owned owned_ _ rests => ?_
    have same : owned_.record = at_.record := rests.1.told
    have holds : owned_.Holds Record.Honest at_.wiring (at_.wiring.Late False) := rests.1.mono (same ▸ honest) fun _ => id
    have lawful (allowed : gate.role.localSourcesAllowed = true)
        (denying : (owned_.status.any Status.denies || trigger.request.cfg.localSourcesParked) = true) :
        owned_.landed = true ∧ owned_.lagging = false := by
      rw [show owned_.status = at_.status from congrArg Record.status same, allows resolved allowed] at denying
      cases denying
    cases owned with
    | error reason =>
      refine .bind (writeFollowerStatus_yields trigger.now _ _ _ _ _ _ holds lawful) fun _ after _ told => .give told.1.told ?_
      exact ⟨at_.wiring, told.1.mono told.1.told fun consumer late => ⟨late, nofun⟩⟩
    | ok owned =>
      refine .bind (writeFollowerStatus_yields trigger.now _ _ _ _ _ _ holds lawful) fun published after _ told => ?_
      obtain ⟨holds, files, -, stands⟩ := told
      refine .ite (fun done => ?_) fun _ => .give holds.told ⟨at_.wiring, holds.mono holds.told fun consumer late => ⟨late, nofun⟩⟩
      refine transition_yields owned resolved (lands.moved holds.wired (files.trans rests.2)) ?_ (stands done)
      rw [holds.wired]
      exact ⟨holds.told, holds.wired, holds.late⟩

end Passes

def Box.code (box : Box) (trigger : Trigger) : Except Failure ℕ :=
  ((main trigger.now trigger.refusal trigger.request).run ⟨box, []⟩).1

-- The args are on a tmpfs. Whoever starts at boot starts on the files of the day.
def Box.reboot (box : Box) (running : SnapUnit → Bool) (shairportActive : Bool) : Box :=
  { box with
    boot := box.boot + 1
    args := none
    crossoverActive := box.crossoverEnabled
    running := running
    shairportActive := shairportActive
    behind := fun _ => false
    landed := false }

-- A consumer comes to a stop, or is started again, by other hands than those of the reconciler.
def Box.move (box : Box) (consumer : Consumer) (runs : Bool) : Box :=
  match consumer with
  | .outputd | .voice => box.refresh consumer
  | .shairport => { box.refresh .shairport with shairportActive := runs }
  | .snap unit => { box.refresh (.snap unit) with running := fun other => if other = unit then runs else box.running other }

inductive Event
  | pass (trigger : Trigger)
  -- The power fails in a pass, wherever it may have been.
  | outage (trigger : Trigger) (running : SnapUnit → Bool) (shairportActive : Bool)
  | move (consumer : Consumer) (runs : Bool)

def Box.meet (box : Box) : Event → Box
  | .pass trigger => box.reconcile trigger
  | .outage trigger running shairportActive => (box.reconcile trigger).reboot running shairportActive
  | .move consumer runs => box.move consumer runs

/-- A pass that lands what it can. Only the power cuts one off. -/
def Box.Meets (box : Box) : Event → Prop
  | .pass trigger => trigger.Lands box ∧ ∃ rc, box.code trigger = .ok rc
  | .outage trigger _ _ => trigger.Lands box
  | .move _ _ => True

def Box.Settled (box : Box) : Prop := box.Holds Record.Honest box.wiring (box.wiring.Late False)

section Runs

variable {box : Box}

theorem Box.Settled.reconcile (settled : box.Settled) {trigger : Trigger} (lands : trigger.Lands box) :
    (box.reconcile trigger).record.Honest ∧ ∀ rc, box.code trigger = .ok rc →
      (box.reconcile trigger).Settled ∧ (rc = 0 → (box.reconcile trigger).lagging = false) := by
  obtain ⟨honest, ends⟩ := Ends.of_run (main_yields lands settled) fun answer (_ : answer ∈ ([] : List Unit)) => trivial
  refine ⟨honest, fun rc done => ?_⟩
  obtain ⟨wiring, holds⟩ := ends rc done
  have wired : (box.reconcile trigger).wiring = wiring := holds.wired
  exact ⟨⟨honest, rfl, fun consumer behind => wired ▸ (holds.late consumer behind).1⟩, fun zero => holds.current zero id⟩

theorem Box.Settled.move (settled : box.Settled) (consumer : Consumer) (runs : Bool) : (box.move consumer runs).Settled := by
  have spared {other : Consumer} (behind : (box.refresh consumer).behind other = true) : box.wiring.Late False other ∧ other ≠ consumer := by
    simp only [Box.refresh] at behind
    split at behind
    next => cases behind
    next apart => exact ⟨settled.late other behind, apart⟩
  cases consumer with
  | outputd => exact ⟨settled.told, rfl, fun other behind => (spared behind).1⟩
  | voice => exact ⟨settled.told, rfl, fun other behind => (spared behind).1⟩
  | shairport => exact ⟨settled.told, rfl, fun other behind => (spared behind).1⟩
  | snap unit =>
    refine ⟨settled.told, rfl, fun other behind => ?_⟩
    obtain ⟨⟨-, none⟩ | ⟨halting, rfl, runs_, blank⟩, apart⟩ := spared behind
    · cases none
    · refine .inr ⟨halting, rfl, ?_, blank⟩
      have others : halting ≠ unit := fun same => apart (congrArg _ same)
      exact (if_neg others).trans runs_

theorem Box.Settled.meet (settled : box.Settled) {event : Event} (meets : box.Meets event) : (box.meet event).Settled := by
  cases event with
  | pass trigger =>
    obtain ⟨lands, rc, done⟩ := meets
    exact ((settled.reconcile lands).2 rc done).1
  | outage trigger running shairportActive =>
    have honest := (settled.reconcile meets).1
    exact ⟨⟨honest.lawful, honest.last⟩, rfl, nofun⟩
  | move consumer runs => exact settled.move consumer runs

theorem freed {cfg : GroupingConfig} {status : Option Status} {boot : ℕ}
    (free : effectiveLocalSourcesParkReason cfg status (some boot) = none) :
    status.any Status.denies = false ∧ (cfg.localSourcesParked = true →
      ∃ own, status = some own ∧ own.requested = cfg ∧ own.bootId = some boot ∧ own.localSourcesAllowed = true) := by
  unfold effectiveLocalSourcesParkReason at free
  split at free
  next => exact ⟨rfl, by simp_all [GroupingConfig.localSourcesParked]⟩
  next own unparked =>
    refine ⟨?_, by simp_all [GroupingConfig.localSourcesParked]⟩
    split at free
    next allowed => rw [Option.any_some, Status.denies, allowed]; rfl
    next => split at free <;> cases free
  next => cases free
  next own _ =>
    split at free
    next grants =>
      simp only [Bool.and_eq_true, decide_eq_true_eq] at grants
      obtain ⟨⟨⟨requested, -⟩, boots⟩, allowed⟩ := grants
      refine ⟨by rw [Option.any_some, Status.denies, allowed]; rfl, fun _ => ⟨own, rfl, requested, boots, allowed⟩⟩
    next => cases free

/-- A box as it is installed. -/
structure Box.New (box : Box) : Prop where
  status : box.status = none
  published : box.published = []
  behind : ∀ consumer, box.behind consumer = false

end Runs

def flatBox : Box := { soloBox with graphs := fun _ => none }

/-- A pass of a box without an active speaker that meets no failure. -/
def flatly (role : BondRole) : Trigger := ⟨⟨pairedAs role, some false, true, some 128⟩, fun _ => .yes, ""⟩

def unpaired : Trigger := ⟨⟨{ pairedAs .leader with enabled := false }, some false, true, some 128⟩, fun _ => .yes, ""⟩

theorem flatly_lands (role : BondRole) : (flatly role).Lands flatBox where
  readable := .inl rfl
  restarts := fun _ => .inl rfl
  there := by simp [flatly]
  steady := fun _ runs => by cases runs
  leads := by simp [Trigger.role, decideRole, flatly]
  parks := fun _ => ⟨.inr (.inl rfl), .inl rfl⟩

theorem unpaired_lands (box : Box) : unpaired.Lands box where
  readable := .inl rfl
  restarts := fun _ => .inl rfl
  there := by simp [unpaired]
  steady := steady_fallback _ _
  leads := by simp [Trigger.role, decideRole, unpaired, GroupingConfig.isActiveMember]
  parks := fun _ => ⟨.inr (.inl rfl), .inl rfl⟩

/-- A follower loses its power as it is unpaired, and lands solo after that. -/
def unpairing : List Event := [.pass (flatly .follower), .outage unpaired (fun _ => false) true, .pass unpaired]

theorem unpairing_meets : Along Box.Meets Box.meet flatBox unpairing :=
  ⟨⟨flatly_lands _, 0, by decide +kernel⟩, unpaired_lands _, ⟨unpaired_lands _, 0, by decide +kernel⟩, trivial⟩

-- The restart of outputd fails.
def deafOutputd : Trigger :=
  ⟨(flatly .leader).request, fun point => if point = .restart .outputd then .no else .yes, ""⟩

/-- The next pass finds the file of outputd as it is to be and returns 0, while outputd still runs on the old one. -/
theorem restart_forgotten :
    (flatBox.reconcile deafOutputd).code (flatly .leader) = .ok 0 ∧
      ((flatBox.reconcile deafOutputd).reconcile (flatly .leader)).lagging = true :=
  ⟨by decide +kernel, by decide +kernel⟩

end Jts.Multiroom
