import Jts.Fanin.Coupling
import Jts.Shared.Transition

set_option autoImplicit false

namespace Jts.Fanin

open Shared.Transition (Reachable)

/-- How a pass has ended, and what it left. -/
structure Report where
  ok : Bool
  outputdBehind : Bool
  faninBehind : Bool
  camillaCurrent : Bool
  ops : List Step
deriving DecidableEq

def Coupling.report (box : Coupling) (ok : Bool) : Report :=
  ⟨ok, box.outputdBehind, box.faninBehind, box.camillaCurrent, box.ops⟩

inductive Action
  | coupling (inputs : PassInputs)
  | auto (inputs : AutoInputs)
  -- The geometry that is expected of a file moves away from the one it has.
  | geometry (file : RingFile)

/-- What a pass was asked, and the box as it found it. -/
structure Past where
  found : Coupling
  action : Action

structure Passes where
  box : Coupling
  reports : List Report
  -- The passes so far, the last one first.
  past : List Past

namespace Passes

def ended (passes : Passes) (action : Action) (box : Coupling) (ok : Bool) : Passes where
  box := box
  reports := box.report ok :: passes.reports
  past := ⟨passes.box, action⟩ :: passes.past

def begun (passes : Passes) : Coupling := { passes.box with ops := [] }

def step (passes : Passes) : Action → Passes
  | .coupling inputs =>
      let pass := passes.begun.reconcileCoupling inputs
      passes.ended (.coupling inputs) pass.1 pass.2.ok
  | .auto inputs =>
      let pass := reconcileAuto inputs passes.begun
      passes.ended (.auto inputs) pass.1 pass.2.ok
  | .geometry file =>
      { passes with box := { passes.box with stale := fun other => if other = file then true else passes.box.stale other } }

def Initial (passes : Passes) : Prop :=
  passes.box.outputdBehind = false ∧ passes.box.faninBehind = false ∧ passes.reports = [] ∧ passes.past = []

end Passes

abbrev passes := Shared.Transition.ofAct Passes.Initial Passes.step

/-- The operations of the same pass that must not have failed before it. -/
def Op.restsOn : Op → List Op
  | .restartFanin => [.hardwareReconcile, .restartOutputd]
  | .reconcileCamilla _ => [.hardwareReconcile, .restartOutputd, .restartFanin]
  | _ => []

def Precedes (earlier later : Step) : Prop :=
  (earlier.ok = false → earlier.op ∉ later.op.restsOn) ∧ (later.op = .restartOutputd → earlier.op ≠ .restartFanin)

instance : DecidableRel Precedes := fun _ _ => inferInstanceAs (Decidable (_ ∧ _))

-- Every stop of CamillaDSP is followed by a start.
def StopsStarted : List Step → Prop
  | [] => True
  | step :: later => (step.op = .stopCamilla → ∃ start ∈ later, start.op = .startCamilla) ∧ StopsStarted later

instance decidableStopsStarted : DecidablePred StopsStarted
  | [] => inferInstanceAs (Decidable True)
  | _ :: later =>
    have := decidableStopsStarted later
    inferInstanceAs (Decidable (_ ∧ _))

structure Report.Lawful (report : Report) : Prop where
  current : report.ok = true → report.outputdBehind = false ∧ report.faninBehind = false ∧ report.camillaCurrent = true
  ordered : report.ops.Pairwise Precedes
  stops : StopsStarted report.ops

section Deeds

namespace Coupling

variable (inputs : PassInputs) (box : Coupling)

/-- A file that is on disk with another geometry can be unlinked. -/
def goes (file : RingFile) : Bool := box.stale file && inputs.unlinks file

/-- Whether the pass moves a key of outputd, or a stale file goes. -/
def moves : Bool := box.envMoves || box.goes inputs .program || box.goes inputs .content || box.goes inputs .activeContent

def writeFails : Bool := box.envMoves && inputs.outputdWriteError.isSome

/-- The pass runs the spine. -/
def bounces : Bool := box.moves inputs && !box.writeFails inputs

-- The key, the ring files that outputd reads, and the width that the hardware reconcile writes for it.
def touchesOutputd : Bool :=
  box.bounces inputs && (box.envMoves || box.goes inputs .content || box.goes inputs .activeContent || inputs.rewritesFormat)

def restartsOutputd : Bool := box.bounces inputs && inputs.hardwareReconcile.ok && inputs.restartOutputd.ok

def touchesFanin : Bool := box.bounces inputs && box.goes inputs .program

def restartsFanin : Bool := box.restartsOutputd inputs && inputs.restartFanin.ok

/-- The combo cannot be written, and the pass ends there. -/
def comboFails (inputs : AutoInputs) : Bool := box.comboMoves inputs && inputs.faninWriteError.isSome

end Coupling

inductive Daemon
  | outputd
  | fanin
deriving DecidableEq

namespace Past

variable (past : Past)

/-- The pass changes what the daemon reads when it starts. -/
def touches (daemon : Daemon) : Bool :=
  match past.action, daemon with
  | .coupling inputs, .outputd => past.found.touchesOutputd inputs
  | .coupling inputs, .fanin => past.found.touchesFanin inputs
  | .auto inputs, .outputd => !past.found.comboFails inputs && past.found.touchesOutputd inputs.pass
  | .auto inputs, .fanin => !past.found.comboFails inputs && (past.found.comboMoves inputs || past.found.touchesFanin inputs.pass)
  | .geometry _, _ => false

/-- The pass gets as far as the restart of the daemon, and the daemon comes up. -/
def restarts (daemon : Daemon) : Bool :=
  match past.action, daemon with
  | .coupling inputs, .outputd => past.found.restartsOutputd inputs
  | .coupling inputs, .fanin => past.found.restartsFanin inputs
  | .auto inputs, .outputd => !past.found.comboFails inputs && past.found.restartsOutputd inputs.pass
  | .auto inputs, .fanin =>
      !past.found.comboFails inputs && (past.found.restartsFanin inputs.pass ||
        past.found.comboMoves inputs && inputs.stopCamilla.ok && inputs.restartFaninAgain.ok)
  | .geometry _, _ => false

end Past

/-- Some pass has changed what the daemon reads when it starts, and neither that pass nor any since has restarted it. -/
def owed (daemon : Daemon) : List Past → Bool
  | [] => false
  | pass :: earlier => !pass.restarts daemon && (pass.touches daemon || owed daemon earlier)

/-- A pass that finds nothing to move comes after no pass that failed between a change of its own and the restart that the change
is owed, but for fan-in where the pass restarts it for its USB combo. A pass that moves the combo and runs the spine gets as far
as the restart of outputd. -/
def NothingLost (passes : Passes) : Action → Prop
  | .coupling inputs =>
      passes.box.moves inputs = false → owed .outputd passes.past = false ∧ owed .fanin passes.past = false
  | .auto inputs =>
      (passes.box.moves inputs.pass = false → owed .outputd passes.past = false ∧
        (passes.box.comboMoves inputs = false → owed .fanin passes.past = false)) ∧
      (passes.box.bounces inputs.pass = true → passes.box.comboMoves inputs = true →
        inputs.pass.hardwareReconcile.ok = true ∧ inputs.pass.restartOutputd.ok = true)
  | .geometry _ => True

instance (passes : Passes) : (action : Action) → Decidable (NothingLost passes action)
  | .coupling _ => inferInstanceAs (Decidable (_ → _))
  | .auto _ => inferInstanceAs (Decidable (_ ∧ _))
  | .geometry _ => inferInstanceAs (Decidable True)

end Deeds

namespace Coupling

variable {inputs : PassInputs} {box : Coupling}

theorem deleteStaleRingFiles_frame (unlinks : RingFile → Bool) :
    (box.deleteStaleRingFiles unlinks).1.ops = box.ops ∧
      ((box.deleteStaleRingFiles unlinks).2 = false → (box.deleteStaleRingFiles unlinks).1 = box) := by
  have fold (files : List RingFile) (start : Coupling × Bool) :
      let last := files.foldl (fun state file =>
        if state.1.stale file && unlinks file then (state.1.unlink file, true) else state) start
      last.1.ops = start.1.ops ∧ (last.2 = false → last = start) := by
    induction files generalizing start with
    | nil => exact ⟨rfl, fun _ => rfl⟩
    | cons file files ih =>
      obtain ⟨ops, same⟩ := ih (if start.1.stale file && unlinks file then (start.1.unlink file, true) else start)
      rw [List.foldl_cons]
      split_ifs at ops same ⊢
      · refine ⟨ops.trans (by cases file <;> rfl), fun still => ?_⟩
        rw [same still] at still
        cases still
      · exact ⟨ops, same⟩
  obtain ⟨ops, same⟩ := fold [.program, .content, .activeContent] (box, false)
  exact ⟨ops, fun still => congrArg Prod.fst (same still)⟩

@[simp] theorem unlink_stale (box : Coupling) (file : RingFile) :
    (box.unlink file).stale = fun other => if other = file then false else box.stale other := by
  cases file <;> rfl

/-- Which files go, and which daemon is behind for them. -/
theorem deleteStaleRingFiles_goes :
    (box.deleteStaleRingFiles inputs.unlinks).2 = (box.goes inputs .program || box.goes inputs .content || box.goes inputs .activeContent) ∧
      (box.deleteStaleRingFiles inputs.unlinks).1.outputdBehind =
        (box.outputdBehind || box.goes inputs .content || box.goes inputs .activeContent) ∧
      (box.deleteStaleRingFiles inputs.unlinks).1.faninBehind = (box.faninBehind || box.goes inputs .program) := by
  unfold deleteStaleRingFiles goes
  simp only [List.foldl_cons, List.foldl_nil]
  cases program : box.stale .program && inputs.unlinks .program <;>
    cases content : box.stale .content && inputs.unlinks .content <;>
      cases active : box.stale .activeContent && inputs.unlinks .activeContent <;> simp [unlink, content, active]

theorem writeOutputdEnv_stale : box.writeOutputdEnv.stale = box.stale := by
  unfold writeOutputdEnv
  split_ifs <;> rfl

theorem goes_congr {other : Coupling} (stale : box.stale = other.stale) (file : RingFile) : box.goes inputs file = other.goes inputs file := by
  rw [goes, goes, stale]

theorem moves_eq : box.moves inputs = (box.envMoves || (box.writeOutputdEnv.deleteStaleRingFiles inputs.unlinks).2) := by
  rw [(@deleteStaleRingFiles_goes inputs _).1, moves]
  simp only [goes_congr writeOutputdEnv_stale, Bool.or_assoc]

theorem moves_congr {other : Coupling} (env : box.outputdEnv = other.outputdEnv) (stale : box.stale = other.stale) :
    box.moves inputs = other.moves inputs ∧ box.writeFails inputs = other.writeFails inputs := by
  have moves : box.envMoves = other.envMoves := by rw [envMoves, envMoves, env]
  rw [Coupling.moves, Coupling.moves, writeFails, writeFails, moves]
  simp only [goes_congr stale, and_self]

theorem deeds_congr {other : Coupling} (env : box.outputdEnv = other.outputdEnv) (stale : box.stale = other.stale) :
    (box.touchesOutputd inputs = other.touchesOutputd inputs ∧ box.touchesFanin inputs = other.touchesFanin inputs) ∧
      box.restartsOutputd inputs = other.restartsOutputd inputs ∧ box.restartsFanin inputs = other.restartsFanin inputs := by
  have moves : box.envMoves = other.envMoves := by rw [envMoves, envMoves, env]
  simp only [touchesOutputd, touchesFanin, restartsOutputd, restartsFanin, bounces, (moves_congr env stale).1, (moves_congr env stale).2,
    goes_congr stale, moves, and_self]

def spineOps (inputs : PassInputs) : List Step :=
  if !inputs.hardwareReconcile.ok then [⟨.hardwareReconcile, false⟩]
  else if !inputs.restartOutputd.ok then [⟨.hardwareReconcile, true⟩, ⟨.restartOutputd, false⟩]
  else if !inputs.restartFanin.ok then
    [⟨.hardwareReconcile, true⟩, ⟨.restartOutputd, true⟩, ⟨.restartFanin, false⟩]
  else
    [⟨.hardwareReconcile, true⟩, ⟨.restartOutputd, true⟩, ⟨.restartFanin, true⟩,
      ⟨.reconcileCamilla true, inputs.reconcileCamilla.ok⟩]

/-- What a pass that runs the spine leaves. -/
structure Spined (inputs : PassInputs) (after : Coupling × CouplingResult) : Prop where
  restarted : after.2.restartedFanin = (inputs.hardwareReconcile.ok && inputs.restartOutputd.ok && inputs.restartFanin.ok)
  ok : after.2.ok = true → inputs.hardwareReconcile.ok = true ∧ inputs.restartOutputd.ok = true ∧
    inputs.restartFanin.ok = true ∧ inputs.reconcileCamilla.ok = true
  current : after.2.ok = true →
    after.1.outputdBehind = false ∧ after.1.faninBehind = false ∧ after.1.camillaCurrent = true

theorem convergeSpine_spined (fresh : box.ops = []) (changed : Bool) :
    Spined inputs (convergeSpine inputs box changed) ∧ (convergeSpine inputs box changed).1.ops = spineOps inputs ∧
      (convergeSpine inputs box changed).2.changed = changed := by
  unfold convergeSpine spineOps
  cases kick : inputs.hardwareReconcile with | mk kickOk kickDetail =>
  cases out : inputs.restartOutputd with | mk outOk outDetail =>
  cases fan : inputs.restartFanin with | mk fanOk fanDetail =>
  cases cam : inputs.reconcileCamilla with | mk camOk camDetail =>
  cases kickOk with
  | false => exact ⟨⟨by simp [kick], nofun, nofun⟩, by simp [hardwareReconcile, perform, fresh], rfl⟩
  | true =>
    cases outOk with
    | false =>
      exact ⟨⟨by simp [kick, out, onlyIf], nofun, nofun⟩, by simp [hardwareReconcile, perform, onlyIf, fresh], rfl⟩
    | true =>
      cases fanOk with
      | false =>
        exact ⟨⟨by simp [kick, out, fan, onlyIf], nofun, nofun⟩, by simp [hardwareReconcile, perform, onlyIf, fresh], rfl⟩
      | true =>
        cases camOk with
        | false =>
          exact ⟨⟨by simp [kick, out, fan, onlyIf], nofun, nofun⟩, by simp [hardwareReconcile, perform, onlyIf, fresh], rfl⟩
        | true =>
          refine ⟨⟨by simp [kick, out, fan, onlyIf], fun _ => by simp [kick, out, fan, cam], fun _ => ⟨rfl, rfl, rfl⟩⟩, ?_, rfl⟩
          simp [hardwareReconcile, perform, onlyIf, fresh]

/-- The three ways a pass of the ring goes. -/
inductive Passed (inputs : PassInputs) (box : Coupling) (after : Coupling × CouplingResult) : Prop
  | unwritten (fails : box.writeFails inputs = true) (same : after.1 = box) (ok : after.2.ok = false)
      (restarted : after.2.restartedFanin = false)
  | confirmed (still : box.moves inputs = false)
      (same : after.1 = box.perform (.reconcileCamilla false) inputs.reconcileCamilla)
      (ok : after.2.ok = inputs.reconcileCamilla.ok) (restarted : after.2.restartedFanin = false)
  | spined (moves : box.moves inputs = true) (writes : box.writeFails inputs = false) (spined : Spined inputs after)
      (ops : after.1.ops = spineOps inputs ∨
        after.2.ok = true ∧ after.1.ops = spineOps inputs ++ [⟨.groupingRebake, inputs.groupingRebake.ok⟩])

theorem perform_groupingRebake (answer : DaemonAnswer) : box.perform .groupingRebake answer =
    { box with ops := box.ops ++ [⟨.groupingRebake, answer.ok⟩] } := by
  unfold perform
  cases answer.ok <;> rfl

theorem Spined.rebaked {after : Coupling × CouplingResult} (spined : Spined inputs after) (ops : after.1.ops = spineOps inputs)
    (moves : box.moves inputs = true) (writes : box.writeFails inputs = false) :
    Passed inputs box (if after.2.changed && after.2.ok then
      (after.1.perform .groupingRebake inputs.groupingRebake, after.2) else after) := by
  split_ifs with kicks
  · rw [perform_groupingRebake]
    exact .spined moves writes ⟨spined.restarted, spined.ok, spined.current⟩
      (.inr ⟨(Bool.and_eq_true_iff.mp kicks).2, by rw [ops]⟩)
  · exact .spined moves writes spined (.inl ops)

theorem reconcileCoupling_passed (fresh : box.ops = []) : Passed inputs box (reconcileCoupling inputs box) := by
  have frame := @deleteStaleRingFiles_frame box.writeOutputdEnv inputs.unlinks
  have written : box.writeOutputdEnv.ops = [] := by
    unfold writeOutputdEnv
    split_ifs <;> exact fresh
  obtain ⟨spined, ops, -⟩ := @convergeSpine_spined inputs _ (frame.1.trans written) box.envMoves
  unfold reconcileCoupling convergeRing
  split
  · rename_i error failed
    have fails : box.envMoves = true ∧ inputs.outputdWriteError = some error := by simpa using failed
    exact .unwritten (by simp [writeFails, fails]) rfl rfl rfl
  · rename_i lands
    have writes : box.writeFails inputs = false := by
      cases moves : box.envMoves <;> simp_all [writeFails]
    cases moves : box.moves inputs with
    | false =>
      obtain ⟨env, cleared⟩ := Bool.or_eq_false_iff.mp (moves_eq.symm.trans moves)
      have same : box.writeOutputdEnv = box := by simp [writeOutputdEnv, env]
      have kept := frame.2 cleared
      have still : (!(box.envMoves || (box.writeOutputdEnv.deleteStaleRingFiles inputs.unlinks).2)) = true := by
        rw [env, cleared]
        rfl
      simp only [still, if_true, Bool.false_and, Bool.false_eq_true, if_false]
      exact .confirmed moves (by rw [kept, same]) rfl rfl
    | true =>
      have runs : (!(box.envMoves || (box.writeOutputdEnv.deleteStaleRingFiles inputs.unlinks).2)) = false := by
        rw [← moves_eq, moves]
        rfl
      simp only [runs, Bool.false_eq_true, if_false]
      exact spined.rebaked ops moves writes

theorem Passed.ordered {after : Coupling × CouplingResult} (fresh : box.ops = []) (passed : Passed inputs box after) :
    after.1.ops.Pairwise Precedes ∧ StopsStarted after.1.ops := by
  have spine : (spineOps inputs).Pairwise Precedes ∧ StopsStarted (spineOps inputs) := by
    unfold spineOps
    split_ifs
    · decide
    · decide
    · decide
    · cases inputs.reconcileCamilla.ok <;> decide
  cases passed with
  | unwritten fails same =>
    rw [same, fresh]
    exact ⟨.nil, trivial⟩
  | confirmed still same =>
    have ops : after.1.ops = [⟨.reconcileCamilla false, inputs.reconcileCamilla.ok⟩] := by
      rw [same, perform]
      split_ifs <;> simp [fresh]
    rw [ops]
    cases inputs.reconcileCamilla.ok <;> decide
  | spined moves writes spined ops =>
    rcases ops with ops | ⟨ok, ops⟩
    · rwa [ops]
    · obtain ⟨kick, out, fan, cam⟩ := spined.ok ok
      rw [ops, spineOps, kick, out, fan, cam]
      cases inputs.groupingRebake.ok <;> decide

theorem Passed.current {after : Coupling × CouplingResult} (passed : Passed inputs box after)
    (nothing : box.moves inputs = false → box.outputdBehind = false ∧ box.faninBehind = false) (ok : after.2.ok = true) :
    after.1.outputdBehind = false ∧ after.1.faninBehind = false ∧ after.1.camillaCurrent = true := by
  cases passed with
  | unwritten fails same bad => exact nomatch bad.symm.trans ok
  | confirmed still same answered =>
    rw [same, perform, ← answered, ok]
    exact ⟨(nothing still).1, (nothing still).2, rfl⟩
  | spined moves writes spined => exact spined.current ok

theorem Passed.unmoved {after : Coupling × CouplingResult} (passed : Passed inputs box after) (still : box.moves inputs = false) :
    after.2.restartedFanin = false := by
  cases passed with
  | unwritten fails same ok restarted => exact restarted
  | confirmed still same ok restarted => exact restarted
  | spined moves => exact nomatch still.symm.trans moves

/-- What the spine leaves of what each daemon is behind. -/
theorem convergeSpine_behind (changed : Bool) :
    (convergeSpine inputs box changed).1.outputdBehind =
        (!(inputs.hardwareReconcile.ok && inputs.restartOutputd.ok) && (box.outputdBehind || inputs.rewritesFormat)) ∧
      (convergeSpine inputs box changed).1.faninBehind =
        (!(inputs.hardwareReconcile.ok && inputs.restartOutputd.ok && inputs.restartFanin.ok) && box.faninBehind) := by
  unfold convergeSpine
  cases kick : inputs.hardwareReconcile with | mk kickOk kickDetail =>
  cases out : inputs.restartOutputd with | mk outOk outDetail =>
  cases fan : inputs.restartFanin with | mk fanOk fanDetail =>
  cases cam : inputs.reconcileCamilla with | mk camOk camDetail =>
  cases kickOk <;> cases outOk <;> cases fanOk <;> cases camOk <;> simp [hardwareReconcile, perform, onlyIf]

/-- A daemon is behind after a pass that does not restart it, where it was or where the pass changes what it reads. -/
theorem reconcileCoupling_behind :
    (reconcileCoupling inputs box).1.outputdBehind = (!box.restartsOutputd inputs && (box.outputdBehind || box.touchesOutputd inputs)) ∧
      (reconcileCoupling inputs box).1.faninBehind = (!box.restartsFanin inputs && (box.faninBehind || box.touchesFanin inputs)) := by
  obtain ⟨-, outputd, fanin⟩ := @deleteStaleRingFiles_goes inputs box.writeOutputdEnv
  simp only [goes_congr writeOutputdEnv_stale] at outputd fanin
  have rebaked (after : Coupling × CouplingResult) (answer : DaemonAnswer) :
      (if after.2.changed && after.2.ok then (after.1.perform .groupingRebake answer, after.2) else after).1.outputdBehind =
          after.1.outputdBehind ∧
        (if after.2.changed && after.2.ok then (after.1.perform .groupingRebake answer, after.2) else after).1.faninBehind =
          after.1.faninBehind := by
    split_ifs
    · rw [perform_groupingRebake]
      exact ⟨rfl, rfl⟩
    · exact ⟨rfl, rfl⟩
  rw [reconcileCoupling, (rebaked _ _).1, (rebaked _ _).2, restartsFanin, restartsOutputd, touchesOutputd, touchesFanin, bounces]
  unfold convergeRing
  split
  next error failed =>
    have fails : box.writeFails inputs = true := by
      obtain ⟨moves, fails⟩ : box.envMoves = true ∧ inputs.outputdWriteError = some error := by simpa using failed
      simp [writeFails, moves, fails]
    simp [fails]
  next lands =>
    have writes : box.writeFails inputs = false := by
      cases moves : box.envMoves <;> simp_all [writeFails]
    dsimp only
    rw [← moves_eq, writes]
    cases moves : box.moves inputs with
    | false =>
      obtain ⟨env, cleared⟩ := Bool.or_eq_false_iff.mp (moves_eq.symm.trans moves)
      have same : box.writeOutputdEnv = box := by simp [writeOutputdEnv, env]
      rw [deleteStaleRingFiles_frame _ |>.2 cleared, same]
      simp only [Bool.not_false, if_true, Bool.false_and, Bool.or_false, Bool.true_and]
      unfold perform
      split_ifs <;> exact ⟨rfl, rfl⟩
    | true =>
      obtain ⟨spineOutputd, spineFanin⟩ :=
        @convergeSpine_behind inputs (box.writeOutputdEnv.deleteStaleRingFiles inputs.unlinks).1 box.envMoves
      have written : box.writeOutputdEnv.outputdBehind = (box.outputdBehind || box.envMoves) ∧
          box.writeOutputdEnv.faninBehind = box.faninBehind := by
        unfold writeOutputdEnv
        cases env : box.envMoves <;> simp
      simp only [Bool.not_true, Bool.false_eq_true, if_false]
      rw [spineOutputd, spineFanin, outputd, fanin, written.1, written.2]
      simp [Bool.or_assoc]

theorem Passed.restarted {after : Coupling × CouplingResult} (passed : Passed inputs box after) :
    after.2.restartedFanin = box.restartsFanin inputs := by
  rw [restartsFanin, restartsOutputd, bounces]
  cases passed with
  | unwritten fails same ok restarted => simp [restarted, fails]
  | confirmed still same ok restarted => simp [restarted, still]
  | spined moves writes spined => simp [spined.restarted, moves, writes]

/-- What has run in a pass whose spine, if any, has failed at fan-in. -/
theorem Passed.unrestarted {after : Coupling × CouplingResult} (fresh : box.ops = []) (passed : Passed inputs box after)
    (restarted : after.2.restartedFanin = false)
    (spine : box.moves inputs = true → box.writeFails inputs = false →
      inputs.hardwareReconcile.ok = true ∧ inputs.restartOutputd.ok = true) :
    after.1.ops ∈ [[], [⟨.reconcileCamilla false, true⟩], [⟨.reconcileCamilla false, false⟩],
      [⟨.hardwareReconcile, true⟩, ⟨.restartOutputd, true⟩, ⟨.restartFanin, false⟩]] ∧
    (after.2.ok = true → box.moves inputs = false ∧ after.1.outputdBehind = box.outputdBehind) := by
  cases passed with
  | unwritten fails same ok =>
    rw [same, fresh, ok]
    exact ⟨by simp, nofun⟩
  | confirmed still same ok =>
    rw [same, perform]
    cases inputs.reconcileCamilla.ok <;> simp [fresh, still]
  | spined moves writes spined ops =>
    obtain ⟨kick, out⟩ := spine moves writes
    have fan : inputs.restartFanin.ok = false := by
      have restarts := spined.restarted
      rw [restarted, kick, out] at restarts
      exact restarts.symm
    have refused : after.2.ok = false := by
      cases ok : after.2.ok with
      | false => rfl
      | true => exact nomatch fan.symm.trans (spined.ok ok).2.2.1
    rcases ops with ops | ⟨ok, -⟩
    · rw [ops, spineOps, kick, out, fan, refused]
      exact ⟨by simp, nofun⟩
    · exact nomatch refused.symm.trans ok

end Coupling

/-- A daemon is behind where a restart is owed to it. -/
structure Passes.Behind (passes : Passes) : Prop where
  outputd : passes.box.outputdBehind = owed .outputd passes.past
  fanin : passes.box.faninBehind = owed .fanin passes.past

theorem coupling_lawful {passes : Passes} {inputs : PassInputs} (behind : passes.Behind) (nothing : NothingLost passes (.coupling inputs)) :
    ∀ report ∈ (passes.step (.coupling inputs)).reports, report ∈ passes.reports ∨ report.Lawful := by
  have passed := @Coupling.reconcileCoupling_passed inputs passes.begun rfl
  intro report among
  rcases List.mem_cons.mp among with rfl | before
  · obtain ⟨ordered, stops⟩ := passed.ordered rfl
    refine .inr ⟨passed.current fun still => ?_, ordered, stops⟩
    obtain ⟨outputd, fanin⟩ := nothing still
    exact ⟨behind.outputd.trans outputd, behind.fanin.trans fanin⟩
  · exact .inl before

/-- The steps of a coordinated restart, and what they leave when all of them succeed. -/
theorem restartFaninCoordinated_steps (restart stop start : DaemonAnswer) (box : Coupling) :
    let after := restartFaninCoordinated restart stop start box
    (after.1.ops = box.ops ++ [⟨.stopCamilla, false⟩, ⟨.startCamilla, start.ok⟩] ∨
      after.1.ops = box.ops ++ [⟨.stopCamilla, true⟩, ⟨.restartFanin, restart.ok⟩, ⟨.startCamilla, start.ok⟩]) ∧
    (after.1.outputdBehind = box.outputdBehind ∧ after.1.faninBehind = (!(stop.ok && restart.ok) && box.faninBehind)) ∧
    (after.2.ok = true → after.1.faninBehind = false ∧ after.1.camillaCurrent = true) := by
  obtain ⟨stopOk, stopDetail⟩ := stop
  obtain ⟨restartOk, restartDetail⟩ := restart
  obtain ⟨startOk, startDetail⟩ := start
  cases stopOk <;> cases restartOk <;> cases startOk <;>
    simp [restartFaninCoordinated, Coupling.perform]

theorem coordinated_ordered {before after : List Step} {restart start : Bool}
    (among : before ∈ [[], [⟨.reconcileCamilla false, true⟩], [⟨.reconcileCamilla false, false⟩],
      [⟨.hardwareReconcile, true⟩, ⟨.restartOutputd, true⟩, ⟨.restartFanin, false⟩]])
    (steps : after = before ++ [⟨.stopCamilla, false⟩, ⟨.startCamilla, start⟩] ∨
      after = before ++ [⟨.stopCamilla, true⟩, ⟨.restartFanin, restart⟩, ⟨.startCamilla, start⟩]) :
    after.Pairwise Precedes ∧ StopsStarted after := by
  simp only [List.mem_cons, List.not_mem_nil, or_false] at among
  rcases among with rfl | rfl | rfl | rfl <;> rcases steps with rfl | rfl <;> cases restart <;> cases start <;> decide

/-- What the combo half of a pass leaves to the ring. -/
structure Combined (inputs : AutoInputs) (box : Coupling) (after : Coupling × UsbComboResult) : Prop where
  unwritten : after.2.writeError.isSome → after.1 = box
  changed : after.2.writeError = none → after.2.changed = box.comboMoves inputs
  ops : after.1.ops = box.ops
  outputdEnv : after.1.outputdEnv = box.outputdEnv
  stale : after.1.stale = box.stale
  outputdBehind : after.1.outputdBehind = box.outputdBehind
  faninBehind : after.2.writeError = none → after.1.faninBehind = (box.faninBehind || box.comboMoves inputs)
  failed : after.2.writeError.isSome = box.comboFails inputs

theorem convergeUsbCombo_combined (inputs : AutoInputs) (box : Coupling) : Combined inputs box (convergeUsbCombo inputs box) := by
  simp only [convergeUsbCombo]
  split
  next error failed =>
    obtain ⟨moves, fails⟩ : box.comboMoves inputs = true ∧ inputs.faninWriteError = some error := by simpa using failed
    exact ⟨fun _ => rfl, nofun, rfl, rfl, rfl, rfl, nofun, by simp [Coupling.comboFails, moves, fails]⟩
  next lands =>
    have writes : box.comboFails inputs = false := by
      cases moves : box.comboMoves inputs <;> simp_all [Coupling.comboFails]
    split_ifs with moves
    · exact ⟨nofun, fun _ => rfl, rfl, rfl, rfl, rfl, fun _ => by simp [moves], by rw [writes]; rfl⟩
    · exact ⟨nofun, fun _ => rfl, rfl, rfl, rfl, rfl, fun _ => by simp [moves], by rw [writes]; rfl⟩

/-- The report of a pass of both halves, whatever it finds. -/
def AutoLawful (pass : Coupling × AutoResult) : Prop := (pass.1.report pass.2.ok).Lawful

theorem reconcileAuto_lawful {inputs : AutoInputs} {box : Coupling} (fresh : box.ops = [])
    (still : box.moves inputs.pass = false →
      box.outputdBehind = false ∧ (box.comboMoves inputs = false → box.faninBehind = false))
    (spine : box.moves inputs.pass = true → box.writeFails inputs.pass = false → box.comboMoves inputs = true →
      inputs.pass.hardwareReconcile.ok = true ∧ inputs.pass.restartOutputd.ok = true) :
    AutoLawful (reconcileAuto inputs box) := by
  have combined := convergeUsbCombo_combined inputs box
  obtain ⟨moves, fails⟩ := @Coupling.moves_congr inputs.pass _ box combined.outputdEnv combined.stale
  have fresh : (convergeUsbCombo inputs box).1.ops = [] := combined.ops.trans fresh
  have passed := @Coupling.reconcileCoupling_passed inputs.pass _ fresh
  simp only [reconcileAuto]
  generalize convergeUsbCombo inputs box = usb at *
  split
  · rename_i error failed
    have same := combined.unwritten (by simp [failed])
    exact ⟨nofun, by rw [Coupling.report, fresh]; exact .nil, by rw [Coupling.report, fresh]; trivial⟩
  · rename_i lands
    have changed := combined.changed lands
    generalize Coupling.reconcileCoupling inputs.pass usb.1 = coupling at *
    split
    · rename_i restarts
      obtain ⟨combo, restarted⟩ : usb.2.changed = true ∧ coupling.2.restartedFanin = false := by simpa using restarts
      have spine (moving : usb.1.moves inputs.pass = true) (writes : usb.1.writeFails inputs.pass = false) :=
        spine (moves ▸ moving) (fails ▸ writes) (changed ▸ combo)
      obtain ⟨before, kept⟩ := passed.unrestarted fresh restarted spine
      obtain ⟨steps, ⟨same, -⟩, current⟩ := restartFaninCoordinated_steps inputs.restartFaninAgain inputs.stopCamilla
        inputs.startCamilla coupling.1
      obtain ⟨ordered, stops⟩ := coordinated_ordered before steps
      split
      · exact ⟨nofun, ordered, stops⟩
      · rename_i succeeded
        refine ⟨fun ok => ?_, ordered, stops⟩
        obtain ⟨unmoved, outputd⟩ := kept (by simp_all [Coupling.report])
        obtain ⟨fanin, camilla⟩ := current (by simpa using succeeded)
        exact ⟨same.trans (outputd.trans (combined.outputdBehind.trans (still (moves ▸ unmoved)).1)), fanin, camilla⟩
    · rename_i keeps
      obtain ⟨ordered, stops⟩ := passed.ordered fresh
      refine ⟨fun ok => passed.current (fun unmoved => ?_) (by simp_all [Coupling.report]), ordered, stops⟩
      have restarted := passed.unmoved unmoved
      have combo : usb.2.changed = false := by simpa [restarted] using keeps
      obtain ⟨outputd, fanin⟩ := still (moves ▸ unmoved)
      have unchanged : box.comboMoves inputs = false := changed.symm.trans combo
      refine ⟨combined.outputdBehind.trans outputd, (combined.faninBehind lands).trans ?_⟩
      rw [fanin unchanged, unchanged]
      rfl

theorem auto_lawful {passes : Passes} {inputs : AutoInputs} (behind : passes.Behind) (nothing : NothingLost passes (.auto inputs)) :
    ∀ report ∈ (passes.step (.auto inputs)).reports, report ∈ passes.reports ∨ report.Lawful := by
  intro report among
  rcases List.mem_cons.mp among with rfl | before
  · refine .inr (reconcileAuto_lawful rfl (fun still => ?_) fun moves writes => nothing.2 (Bool.and_eq_true_iff.mpr ⟨moves, ?_⟩))
    · obtain ⟨outputd, fanin⟩ := nothing.1 still
      exact ⟨behind.outputd.trans outputd, fun same => behind.fanin.trans (fanin same)⟩
    · rw [show passes.box.writeFails inputs.pass = false from writes]
      rfl
  · exact .inl before

/-- A pass of both halves leaves a daemon behind just where it was, or was given something new, and is not restarted. -/
theorem reconcileAuto_behind (inputs : AutoInputs) (box : Coupling) (fresh : box.ops = []) (found : Coupling)
    (env : found.outputdEnv = box.outputdEnv) (fanin : found.faninEnv = box.faninEnv) (stale : found.stale = box.stale) :
    (reconcileAuto inputs box).1.outputdBehind =
        (!Past.restarts ⟨found, .auto inputs⟩ .outputd && (box.outputdBehind || Past.touches ⟨found, .auto inputs⟩ .outputd)) ∧
      (reconcileAuto inputs box).1.faninBehind =
        (!Past.restarts ⟨found, .auto inputs⟩ .fanin && (box.faninBehind || Past.touches ⟨found, .auto inputs⟩ .fanin)) := by
  have combined := convergeUsbCombo_combined inputs box
  have combo : found.comboMoves inputs = box.comboMoves inputs := by rw [Coupling.comboMoves, Coupling.comboMoves, fanin]
  have fails : found.comboFails inputs = box.comboFails inputs := by rw [Coupling.comboFails, Coupling.comboFails, combo]
  obtain ⟨touches, restarts⟩ := @Coupling.deeds_congr inputs.pass _ found (combined.outputdEnv.trans env.symm) (combined.stale.trans stale.symm)
  obtain ⟨coupledOutputd, coupledFanin⟩ := @Coupling.reconcileCoupling_behind inputs.pass (convergeUsbCombo inputs box).1
  have restarted := (@Coupling.reconcileCoupling_passed inputs.pass _ (combined.ops.trans fresh)).restarted
  rw [touches.1, restarts.1, combined.outputdBehind] at coupledOutputd
  rw [touches.2, restarts.2] at coupledFanin
  rw [restarts.2] at restarted
  simp only [Past.restarts, Past.touches, fails, combo]
  simp only [reconcileAuto]
  generalize convergeUsbCombo inputs box = usb at *
  split
  next error failed =>
    have failing : box.comboFails inputs = true := combined.failed.symm.trans (by rw [failed]; rfl)
    rw [combined.unwritten (by simp [failed]), failing]
    simp
  next lands =>
    have lasting : box.comboFails inputs = false := combined.failed.symm.trans (by rw [lands]; rfl)
    have changed := combined.changed lands
    rw [combined.faninBehind lands] at coupledFanin
    rw [lasting]
    generalize Coupling.reconcileCoupling inputs.pass usb.1 = coupling at *
    split
    next restarts =>
      obtain ⟨moves, none⟩ : usb.2.changed = true ∧ coupling.2.restartedFanin = false := by simpa using restarts
      obtain ⟨-, ⟨outputd, faninAfter⟩, -⟩ := restartFaninCoordinated_steps inputs.restartFaninAgain inputs.stopCamilla
        inputs.startCamilla coupling.1
      have still : found.restartsFanin inputs.pass = false := restarted.symm.trans none
      have moved : box.comboMoves inputs = true := changed.symm.trans moves
      split
      all_goals
        rw [outputd, faninAfter, coupledOutputd, coupledFanin, still, moved]
        simp
    next keeps =>
      rw [coupledOutputd, coupledFanin]
      cases moves : box.comboMoves inputs with
      | false => simp
      | true =>
        have again : found.restartsFanin inputs.pass = true := by simpa [changed, moves, restarted] using keeps
        simp [again]

theorem Passes.Behind.step {passes : Passes} (behind : passes.Behind) (action : Action) : (passes.step action).Behind := by
  cases action with
  | coupling inputs =>
    obtain ⟨outputd, fanin⟩ := @Coupling.reconcileCoupling_behind inputs passes.begun
    refine ⟨outputd.trans ?_, fanin.trans ?_⟩
    · rw [show passes.begun.outputdBehind = _ from behind.outputd, Bool.or_comm]
      rfl
    · rw [show passes.begun.faninBehind = _ from behind.fanin, Bool.or_comm]
      rfl
  | auto inputs =>
    obtain ⟨outputd, fanin⟩ := reconcileAuto_behind inputs passes.begun rfl passes.box rfl rfl rfl
    refine ⟨outputd.trans ?_, fanin.trans ?_⟩
    · rw [show passes.begun.outputdBehind = _ from behind.outputd, Bool.or_comm]
      rfl
    · rw [show passes.begun.faninBehind = _ from behind.fanin, Bool.or_comm]
      rfl
  | geometry file => exact ⟨behind.outputd, behind.fanin⟩

/-- In every run in which no pass loses a restart that an earlier one has left owed. -/
theorem ok_passes_leave_the_daemons_current (run : Passes) (reached : Reachable (passes.restrict NothingLost) run) :
    ∀ report ∈ run.reports, report.Lawful := by
  have lawful : run.Behind ∧ ∀ report ∈ run.reports, report.Lawful := by
    refine @Reachable.invariant _ _ _ (fun run => run.Behind ∧ ∀ report ∈ run.reports, report.Lawful) ?_ ?_ _ reached
    · rintro first ⟨outputd, fanin, none_, past⟩
      refine ⟨⟨by rw [outputd, past]; rfl, by rw [fanin, past]; rfl⟩, fun report among => ?_⟩
      rw [none_] at among
      cases among
    · rintro before action after ⟨behind, lawful⟩ ⟨nothing, rfl⟩
      refine ⟨behind.step action, fun report among => ?_⟩
      cases action with
      | coupling inputs => exact (coupling_lawful behind nothing report among).elim (lawful report) id
      | auto inputs => exact (auto_lawful behind nothing report among).elim (lawful report) id
      | geometry file => exact lawful report among
  exact lawful.2

section Runs

def deployed : Passes where
  box := ⟨[], [], fun _ => false, false, false, false, []⟩
  reports := []
  past := []

def done : DaemonAnswer := ⟨true, ""⟩

def succeeds : PassInputs := ⟨none, fun _ => true, done, false, done, done, done, done⟩

def outputdFails : PassInputs := { succeeds with restartOutputd := ⟨false, "timeout"⟩ }

def turnsUsbOn : AutoInputs := ⟨succeeds, true, .ok true, .ok .low, none, done, done, done⟩

/-- The ring is converged, and then the household turns its USB audio on. -/
theorem combo_pass_leaves_the_daemons_current :
    ∃ run : Passes, run.reports.map Report.ok = [true, true] ∧ run.reports.map (·.ops.length) = [4, 5] ∧
      ∀ report ∈ run.reports, report.Lawful := by
  have reached : Reachable (passes.restrict NothingLost) ([.coupling succeeds, .auto turnsUsbOn].foldl Passes.step deployed) :=
    Shared.Transition.reachable_restrict_foldl ⟨rfl, rfl, rfl, rfl⟩ (by decide +kernel)
  exact ⟨_, by decide +kernel, by decide +kernel, ok_passes_leave_the_daemons_current _ reached⟩

/-- The restart of outputd fails once, and the pass after it has nothing to move: it is well, and outputd still runs on the old
files. A combo that moves in a pass whose outputd fails has fan-in restarted all the same. -/
theorem failed_restart_is_forgotten :
    (∃ run, Reachable passes run ∧ ∃ report ∈ run.reports, report.ok = true ∧ report.outputdBehind = true ∧
      report.faninBehind = false) ∧
    ∃ run, Reachable passes run ∧ ∃ report ∈ run.reports, ¬ report.ops.Pairwise Precedes := by
  have reached (actions : List Action) : Reachable passes (actions.foldl Passes.step deployed) :=
    Shared.Transition.reachable_foldl ⟨rfl, rfl, rfl, rfl⟩ actions
  refine ⟨⟨_, reached [.coupling outputdFails, .coupling succeeds], ?_⟩,
    ⟨_, reached [.auto { turnsUsbOn with pass := outputdFails }], ?_⟩⟩
  · decide +kernel
  · decide +kernel

end Runs

end Jts.Fanin
