import Jts.Multiroom.Reconcile

set_option autoImplicit false

namespace Jts.Multiroom

open Shared.Operation

section Reads

variable (now : Point → Answer) {Inv : Box → Prop}

theorem ask_keeps (point : Point) : Keeps Inv (ask now point) := by
  unfold ask
  split
  · exact .raise
  · exact .give

theorem ask_ends (point : Point) (box : Box) :
    Ends (fun _ => True) (ask now point).run box fun result after => after = box ∧ ∀ answer, result = .ok answer → answer = now point := by
  unfold ask
  split
  · exact .raise ⟨rfl, nofun⟩
  · exact .give ⟨rfl, fun _ told => (Except.ok.inj told).symm⟩

theorem succeeds_ends (point : Point) (box : Box) :
    Ends (fun _ => True) (succeeds now point).run box fun result after => after = box ∧ (result = .ok true → now point = .yes) := by
  refine (ask_ends now point box).andThen (fun answer _ told => .give ⟨told.1, fun done => ?_⟩) fun _ _ told => ⟨told.1, nofun⟩
  rw [← told.2 answer rfl]
  exact of_decide_eq_true (Except.ok.inj done)

theorem succeeds_keeps (point : Point) : Keeps Inv (succeeds now point) :=
  .bind (ask_keeps now point) fun _ => .give

theorem succeeds_yes {point : Point} (yes : now point = .yes) : succeeds now point = pure true := by
  unfold succeeds ask
  rw [yes]
  rfl

theorem succeeds_crash {point : Point} (crash : now point = .crash) : succeeds now point = throw .crashed := by
  unfold succeeds ask
  rw [crash]
  rfl

theorem probe_keeps (point : Point) (truth : Box → Bool) : Keeps Inv (probe now point truth) :=
  .bind (ask_keeps now point) fun _ => .bind .read fun _ => .give

theorem probe_ends (point : Point) (truth : Box → Bool) (box : Box) :
    Ends (fun _ => True) (probe now point truth).run box fun result after =>
      after = box ∧ ∀ told, result = .ok (some told) → truth box = told := by
  refine (ask_ends now point box).andThen (fun answer at_ told => ?_) fun _ _ told => ⟨told.1, nofun⟩
  obtain ⟨rfl, -⟩ := told
  refine .readThen (.give ⟨rfl, fun told done => ?_⟩)
  have done := Except.ok.inj done
  split at done
  · cases done
  · exact Option.some.inj done

theorem demand_keeps (point : Point) : Keeps Inv (demand now point) := by
  exact .bind (succeeds_keeps now point) fun _ => .ite .give .raise

theorem onlyWhen_keeps {α : Type} {needed : Bool} {pass : Pass α} {otherwise : α} (keeps : Keeps Inv pass) :
    Keeps Inv (onlyWhen needed pass otherwise) := .ite keeps .give

theorem attempted_keeps {body : Pass Unit} (keeps : Keeps Inv body) : Keeps Inv (attempted body) := by
  intro box inv
  refine .bind ((keeps box inv).mono fun result after kept => ?_)
  split
  · exact .pure kept
  · exact .pure kept
  · exact .pure kept

theorem planChangesUnits_keeps (intents : List UnitIntent) : Keeps Inv (planChangesUnits now intents) := by
  induction intents with
  | nil => exact .give
  | cons intent intents ih =>
    exact .bind (probe_keeps now _ _) fun state => .ite ih .give

theorem currentPath_keeps (point : Point) : Keeps Inv (currentPath now point) :=
  .bind (succeeds_keeps now point) fun _ => .bind .read fun _ => .give

theorem readStash_keeps (site : Site) (arm : Arm) : Keeps Inv (readStash now site arm) :=
  .bind (succeeds_keeps now _) fun _ => .bind .read fun _ => .give

theorem firstProvable_keeps (site : Site) (own : Path) (paths : List Path) :
    Keeps Inv (firstProvable now site own paths) := by
  induction paths with
  | nil => exact .give
  | cons path paths ih =>
    exact .bind (onlyWhen_keeps (succeeds_keeps now _)) fun _ => .bind (onlyWhen_keeps (succeeds_keeps now _)) fun _ => .ite .give ih

end Reads

/-- What holds of a box holds of it still when camilla#1 is asked for one of its configs, and when a stash is written. -/
structure Loadable (Inv : Box → Prop) : Prop where
  request : ∀ box path, Inv box → Inv (box.request path)
  swap : ∀ box path, Inv box → Inv { box with camilla := path }
  keep : ∀ box stash, Inv box → Inv { box with stash := stash }
  emit : ∀ box path {graph : Graph}, graph.playsActiveContent = false → Inv box → Inv (box.emit path graph)

namespace Loadable

variable {Inv : Box → Prop} (able : Loadable Inv) (now : Point → Answer)

include able

theorem writeStash (site : Site) (arm : Arm) (path : Path) :
    Keeps Inv (Multiroom.writeStash now site arm path) :=
  .bind (demand_keeps now _) fun _ => .change fun box inv => able.keep box _ inv

theorem clearStash (site : Site) (arm : Arm) : Keeps Inv (Multiroom.clearStash now site arm) :=
  .bind (demand_keeps now _) fun _ => .change fun box inv => able.keep box _ inv

theorem setConfigFilePath (point : Point) (path : Path) :
    Keeps Inv (Multiroom.setConfigFilePath now point path) :=
  .bind (.change fun box inv => able.request box path inv) fun _ => .bind (ask_keeps now point) fun _ =>
    .ite .give (.bind (.change fun box inv => able.swap box path inv) fun _ => .give)

theorem applyDspConfig (site : Site) (candidate : Path) :
    Keeps Inv (Multiroom.applyDspConfig now site candidate) := by
  refine .bind (currentPath_keeps now _) fun prior => .bind (demand_keeps now _) fun _ =>
    .bind (able.setConfigFilePath now _ _) fun loaded => .bind (onlyWhen_keeps (currentPath_keeps now _)) fun answer => .ite .give ?_
  cases prior with
  | none => exact .raise
  | some path => exact .bind (able.setConfigFilePath now _ _) fun _ => .raise

theorem proveLive (site : Site) (current : Option Path) (own : Path) :
    Keeps Inv (Multiroom.proveLive now site current own) := by
  refine .bind (ask_keeps now _) fun answer => .ite .give ?_
  cases current with
  | none => exact .raise
  | some path => exact .ite (.bind (able.applyDspConfig now _ _) fun _ => .raise) .raise

theorem applyEndpoint (site : Site) (own : Path) (arm : Arm) :
    Keeps Inv (Multiroom.applyEndpoint now site own arm) := by
  refine .bind (demand_keeps now _) fun _ => .bind (currentPath_keeps now _) fun current =>
    .bind (able.applyDspConfig now _ _) fun _ => .bind (able.proveLive now _ _ _) fun _ => ?_
  cases current with
  | none => exact .give
  | some path => exact .ite (able.writeStash now _ _ _) .give

theorem restoreActiveCamillaSolo (site : Site) (own : Path) (arm : Arm) :
    Keeps Inv (Multiroom.restoreActiveCamillaSolo now site own arm) := by
  refine .bind (demand_keeps now _) fun _ => .bind (currentPath_keeps now _) fun current =>
    .bind (readStash_keeps now _ _) fun stash => .ite .give (.bind (succeeds_keeps now _) fun _ => .ite .give ?_)
  refine .bind (firstProvable_keeps now _ _ _) fun found => ?_
  cases found with
  | none => exact able.clearStash now _ _
  | some candidate =>
    exact .bind (able.applyDspConfig now _ _) fun _ => .bind (able.proveLive now _ _ _) fun _ => able.clearStash now _ _

theorem restoreSoloConfig : Keeps Inv (Multiroom.restoreSoloConfig now) := by
  refine .bind (readStash_keeps now _ _) fun stash => .bind (currentPath_keeps now _) fun current => .bind .read fun box =>
    .bind ?_ fun there => ?_
  · cases stash with
    | none => exact .give
    | some path => exact succeeds_keeps now _
  · dsimp only
    split
    · exact .give
    · exact .bind (able.applyDspConfig now _ _) fun _ => able.clearStash now _ _
    · exact .bind (.change fun box inv => able.emit box _ rfl inv) fun _ =>
        .bind (able.applyDspConfig now _ _) fun _ => able.clearStash now _ _

theorem restoreSolo (role : RoleDecision) (owned : Bool) : Keeps Inv (Multiroom.restoreSolo now role owned) :=
  .ite .give (.ite (attempted_keeps (able.restoreActiveCamillaSolo now _ _ _))
    (.ite (attempted_keeps (able.restoreActiveCamillaSolo now _ _ _)) (attempted_keeps (able.restoreSoloConfig now))))

theorem applyBondedLeaderConfig : Keeps Inv (Multiroom.applyBondedLeaderConfig now) := by
  refine .bind (currentPath_keeps now _) fun current => .bind .read fun box => .ite .raise ?_
  refine .bind (.change fun box inv => able.emit box _ rfl inv) fun _ => .bind (able.applyDspConfig now _ _) fun _ =>
    .bind .read fun after => ?_
  cases current with
  | none => exact .give
  | some path => exact .ite (able.writeStash now _ _ _) .give

end Loadable

end Jts.Multiroom
