import Mathlib.Data.Nat.Notation
import Mathlib.Tactic.Common

set_option autoImplicit false

namespace Jts.Fanin

/-- The assignments of an env file, in their order. -/
abbrev EnvFile := List (String × String)

/-- The first assignment of the key carries the value; later ones are dropped. Whether anything moved. -/
def upsert (key value : String) : EnvFile → EnvFile × Bool
  | [] => ([(key, value)], true)
  | (name, current) :: rest =>
      if name = key then
        ((key, value) :: rest.filter (·.1 ≠ key), decide (current ≠ value) || rest.any (·.1 = key))
      else
        let after := upsert key value rest
        ((name, current) :: after.1, after.2)

def remove (key : String) (file : EnvFile) : EnvFile × Bool := (file.filter (·.1 ≠ key), file.any (·.1 = key))

inductive EnvAction
  | set (key value : String)
  | unset (key : String)
deriving DecidableEq

def applyAction (file : EnvFile) : EnvAction → EnvFile × Bool
  | .set key value => upsert key value file
  | .unset key => remove key file

def applyActions (file : EnvFile) (actions : List EnvAction) : EnvFile × Bool :=
  actions.foldl (fun state action =>
    let after := applyAction state.1 action
    (after.1, state.2 || after.2)) (file, false)

def outputdActions : List EnvAction := [.set "JASPER_OUTPUTD_CONTENT_BRIDGE" "shm_ring"]

inductive LatencyMode
  | low
  | medium
  | high
deriving DecidableEq

def LatencyMode.value : LatencyMode → String
  | .low => "low"
  | .medium => "medium"
  | .high => "high"

def comboIsArmed (gadgetPresent usbIntentEnabled : Bool) : Bool := gadgetPresent && usbIntentEnabled

-- Explicit off values override stale enabled keys of an earlier file.
def usbComboActions (armed : Bool) (latencyMode : LatencyMode) : List EnvAction :=
  let feature := if armed then "enabled" else "disabled"
  [.set "JASPER_FANIN_USB_DIRECT" feature, .set "JASPER_FANIN_HOST_CLOCK" feature,
    .set "JASPER_USB_LATENCY_MODE" latencyMode.value, .unset "JASPER_FANIN_RESAMPLER_CUSHION_DECAY",
    .unset "JASPER_FANIN_RESAMPLER_CUSHION_DECAY_FLOOR_FRAMES"]

/-- What a daemon operation answers. -/
structure DaemonAnswer where
  ok : Bool
  detail : String
deriving DecidableEq

inductive Op
  | hardwareReconcile
  | restartOutputd
  | restartFanin
  | reconcileCamilla (force : Bool)
  | stopCamilla
  | startCamilla
  | groupingRebake
deriving DecidableEq

structure Step where
  op : Op
  ok : Bool
deriving DecidableEq

inductive RingFile
  | program
  | content
  | activeContent
deriving DecidableEq

/-- The files that the daemons read when they start. The last four fields only record which daemon has not been restarted since
a file of its own has changed, whether CamillaDSP has been loaded since both restarts, and the operations of the pass. -/
structure Coupling where
  outputdEnv : EnvFile
  faninEnv : EnvFile
  -- On disk with another geometry than the expected one.
  stale : RingFile → Bool
  outputdBehind : Bool
  faninBehind : Bool
  camillaCurrent : Bool
  ops : List Step

namespace Coupling

variable (box : Coupling)

def perform (op : Op) (answer : DaemonAnswer) : Coupling :=
  let logged := { box with ops := box.ops ++ [⟨op, answer.ok⟩] }
  if !answer.ok then logged
  else
    match op with
    | .restartOutputd => { logged with outputdBehind := false, camillaCurrent := false }
    | .restartFanin => { logged with faninBehind := false, camillaCurrent := false }
    | .stopCamilla => { logged with camillaCurrent := false }
    | .reconcileCamilla _ | .startCamilla => { logged with camillaCurrent := true }
    | .hardwareReconcile | .groupingRebake => logged

/-- The reconciler of the hardware writes the width that outputd asks for, and may have done so when it fails. -/
def hardwareReconcile (answer : DaemonAnswer) (rewrites : Bool) : Coupling :=
  let after := box.perform .hardwareReconcile answer
  { after with outputdBehind := after.outputdBehind || rewrites }

def unlink (file : RingFile) : Coupling :=
  let gone := { box with stale := fun other => if other = file then false else box.stale other }
  match file with
  | .program => { gone with faninBehind := true }
  | .content | .activeContent => { gone with outputdBehind := true }

/-- Whether any file went. One that cannot be unlinked stays. -/
def deleteStaleRingFiles (unlinks : RingFile → Bool) : Coupling × Bool :=
  [RingFile.program, .content, .activeContent].foldl (fun state file =>
    if state.1.stale file && unlinks file then (state.1.unlink file, true) else state) (box, false)

end Coupling

def joinDetails (details : List String) : String := "; ".intercalate (details.filter (· ≠ ""))

structure CouplingResult where
  ok : Bool
  changed : Bool
  restartedFanin : Bool
  restartedOutputd : Bool
  reconciledCamilla : Bool
  detail : String
deriving DecidableEq

def camillaAnchorConvergedDetail : String := "converged_anchor"

def camillaParkedDetail : String := "parked"

/-- What the outside does to a pass: which writes and unlinks land, and what the daemon operations answer. -/
structure PassInputs where
  outputdWriteError : Option String
  unlinks : RingFile → Bool
  hardwareReconcile : DaemonAnswer
  rewritesFormat : Bool
  restartOutputd : DaemonAnswer
  restartFanin : DaemonAnswer
  reconcileCamilla : DaemonAnswer
  groupingRebake : DaemonAnswer

namespace Coupling

variable (inputs : PassInputs) (box : Coupling)

def envMoves : Bool := (applyActions box.outputdEnv outputdActions).2

def writeOutputdEnv : Coupling :=
  if box.envMoves then
    { box with outputdEnv := (applyActions box.outputdEnv outputdActions).1, outputdBehind := true }
  else box

/-- A step of the spine that is skipped answers so. -/
def onlyIf (condition : Bool) (op : Op) (answer : DaemonAnswer) (skipped : String) : Coupling × DaemonAnswer :=
  if condition then (box.perform op answer, answer) else (box, ⟨false, skipped⟩)

def spineFailure (kick : DaemonAnswer) : String :=
  "could not converge JASPER_OUTPUTD_CONTENT_FORMAT to the ring wire (" ++ kick.detail ++
    "); restarting jasper-outputd on a stale width would fail CamillaDSP's ring attach — run `sudo systemctl start " ++
    "jasper-audio-hardware-reconcile`, then re-run this reconcile"

/-- The ordered spine: outputd, the reader, then fan-in, the writer, then CamillaDSP, which attaches to both. -/
def convergeSpine (changed : Bool) : Coupling × CouplingResult :=
  let kicked := box.hardwareReconcile inputs.hardwareReconcile inputs.rewritesFormat
  if !inputs.hardwareReconcile.ok then
    (kicked, ⟨false, changed, false, false, false, spineFailure inputs.hardwareReconcile⟩)
  else
    let out := kicked.perform .restartOutputd inputs.restartOutputd
    let fan := out.onlyIf inputs.restartOutputd.ok .restartFanin inputs.restartFanin "skipped: outputd did not come up"
    let cam := fan.1.onlyIf fan.2.ok (.reconcileCamilla true) inputs.reconcileCamilla "skipped: fan-in did not come up"
    let detail := joinDetails [
      if inputs.restartOutputd.ok then "" else "outputd restart failed (" ++ inputs.restartOutputd.detail ++ ")",
      if fan.2.ok then "" else "fan-in restart failed (" ++ fan.2.detail ++ ")",
      if cam.2.ok then "" else "camilla reconcile failed (" ++ cam.2.detail ++ ")"]
    let accepted := if cam.2.detail ∈ [camillaAnchorConvergedDetail, camillaParkedDetail] then cam.2.detail else ""
    (cam.1, ⟨inputs.restartOutputd.ok && fan.2.ok && cam.2.ok, changed, fan.2.ok, inputs.restartOutputd.ok, cam.2.ok,
      if detail ≠ "" then detail else accepted⟩)

def convergeRing : Coupling × CouplingResult :=
  match (if box.envMoves then inputs.outputdWriteError else none) with
  | some error => (box, ⟨false, false, false, false, false, error⟩)
  | none =>
      let cleared := box.writeOutputdEnv.deleteStaleRingFiles inputs.unlinks
      if !(box.envMoves || cleared.2) then
        -- Already coherent: CamillaDSP alone is confirmed.
        let answer := inputs.reconcileCamilla
        (cleared.1.perform (.reconcileCamilla false) answer,
          ⟨answer.ok, false, false, false, answer.ok, if answer.ok then "" else answer.detail⟩)
      else convergeSpine inputs cleared.1 box.envMoves

def reconcileCoupling : Coupling × CouplingResult :=
  let converged := convergeRing inputs box
  if converged.2.changed && converged.2.ok then
    (converged.1.perform .groupingRebake inputs.groupingRebake, converged.2)
  else converged

end Coupling

structure CoordinatedFaninRestart where
  ok : Bool
  faninRestarted : Bool
  camillaStopped : Bool
  camillaStarted : Bool
  detail : String
deriving DecidableEq

/-- CamillaDSP is paused around a deliberate restart of fan-in, and started again in every case. -/
def restartFaninCoordinated (restart stop start : DaemonAnswer) (box : Coupling) : Coupling × CoordinatedFaninRestart :=
  let stopped := box.perform .stopCamilla stop
  if !stop.ok then
    (stopped.perform .startCamilla start, ⟨false, false, false, start.ok,
      "camilla pause failed (" ++ stop.detail ++ "); aborted fan-in restart to keep the coordinated restart quality policy" ++
        if start.ok then "" else "; camilla start-back failed (" ++ start.detail ++ ")"⟩)
  else
    let restarted := stopped.perform .restartFanin restart
    (restarted.perform .startCamilla start, ⟨restart.ok && start.ok, restart.ok, true, start.ok,
      joinDetails [if restart.ok then "" else "fan-in restart failed (" ++ restart.detail ++ ")",
        if start.ok then "" else "camilla resume failed (" ++ start.detail ++ ")"]⟩)

structure AutoInputs where
  pass : PassInputs
  gadgetPresent : Bool
  usbIntent : Except String Bool
  latencyMode : Except String LatencyMode
  faninWriteError : Option String
  stopCamilla : DaemonAnswer
  restartFaninAgain : DaemonAnswer
  startCamilla : DaemonAnswer

structure UsbComboResult where
  comboArmed : Bool
  usbLatencyMode : LatencyMode
  usbIntentEnabled : Bool
  changed : Bool
  intentFailure : String
  latencyFailure : String
  writeError : Option String
deriving DecidableEq

def clipped (text : String) : String := String.ofList (text.toList.take 500)

namespace AutoInputs

variable (inputs : AutoInputs)

def usbIntentEnabled : Bool :=
  match inputs.usbIntent with
  | .ok enabled => enabled
  | .error _ => false

def intentFailure : String :=
  match inputs.usbIntent with
  | .ok _ => ""
  | .error error => clipped ("USB source intent invalid or unreadable: " ++ error)

def usbLatencyMode : LatencyMode :=
  match inputs.latencyMode with
  | .ok mode => mode
  | .error _ => .high

def latencyFailure : String :=
  match inputs.latencyMode with
  | .ok _ => ""
  | .error error => clipped ("USB latency preference invalid or unreadable: " ++ error)

def comboArmed : Bool :=
  decide (inputs.intentFailure = "") && comboIsArmed inputs.gadgetPresent inputs.usbIntentEnabled

def comboActions : List EnvAction := usbComboActions inputs.comboArmed inputs.usbLatencyMode

end AutoInputs

def Coupling.comboMoves (inputs : AutoInputs) (box : Coupling) : Bool := (applyActions box.faninEnv inputs.comboActions).2

def convergeUsbCombo (inputs : AutoInputs) (box : Coupling) : Coupling × UsbComboResult :=
  let moves := box.comboMoves inputs
  let result : UsbComboResult := ⟨inputs.comboArmed, inputs.usbLatencyMode, inputs.usbIntentEnabled, moves,
    inputs.intentFailure, inputs.latencyFailure, none⟩
  match (if moves then inputs.faninWriteError else none) with
  | some error => (box, { result with changed := false, writeError := some error })
  | none =>
      (if moves then { box with faninEnv := (applyActions box.faninEnv inputs.comboActions).1, faninBehind := true } else box,
        result)

structure AutoResult where
  ok : Bool
  usbComboChanged : Bool
  reason : String
  couplingResult : Option CouplingResult
  restartedFaninForCombo : Bool
  detail : String
deriving DecidableEq

def reconcileAuto (inputs : AutoInputs) (box : Coupling) : Coupling × AutoResult :=
  let usb := convergeUsbCombo inputs box
  match usb.2.writeError with
  | some error => (usb.1, ⟨false, false, "USB combo write failed", none, false, joinDetails [usb.2.intentFailure, error]⟩)
  | none =>
      let coupling := Coupling.reconcileCoupling inputs.pass usb.1
      let ok := coupling.2.ok && decide (usb.2.intentFailure = "") && decide (usb.2.latencyFailure = "")
      let reason := if usb.2.intentFailure = "" then "USB combo resolved from canonical source intent"
        else "USB source intent invalid — combo failed closed"
      let detail := joinDetails [usb.2.intentFailure, usb.2.latencyFailure, coupling.2.detail]
      if usb.2.changed && !coupling.2.restartedFanin then
        let coord := restartFaninCoordinated inputs.restartFaninAgain inputs.stopCamilla inputs.startCamilla coupling.1
        if !coord.2.ok then
          (coord.1, ⟨false, usb.2.changed, "USB combo fan-in restart failed", some coupling.2, coord.2.faninRestarted,
            joinDetails [usb.2.intentFailure, usb.2.latencyFailure, coord.2.detail]⟩)
        else (coord.1, ⟨ok, usb.2.changed, reason, some coupling.2, coord.2.faninRestarted, detail⟩)
      else (coupling.1, ⟨ok, usb.2.changed, reason, some coupling.2, false, detail⟩)

end Jts.Fanin
