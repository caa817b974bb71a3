import Mathlib.Algebra.Order.Field.Rat
import Mathlib.Tactic.NormNum

set_option autoImplicit false

namespace Jts.Control

def audioHardwareReconcileUnit : String := "jasper-audio-hardware-reconcile.service"

def faninService : String := "jasper-fanin.service"

def librespotService : String := "librespot.service"

def shairportSyncService : String := "shairport-sync.service"

def usbgadgetService : String := "jasper-usbgadget.service"

def bluetoothService : String := "bluetooth.service"

def reconcileUnit : String := "jasper-source-intent-reconcile.service"

def accessoryReconcileUnit : String := "jasper-accessory-reconcile.service"

def usbCouplingUnit : String := "jasper-fanin-coupling-auto.service"

def resetFailedActionTimeoutSec : ℚ := 5

def usbDirectSettleAttempts : ℚ := 20

def usbDirectSettleSeconds : ℚ := 1 / 4

def usbDirectProbeTimeoutSec : ℚ := 1

def defaultUnitActionTimeoutSec : ℚ := 15

def unitEnablementActionTimeoutSec : ℚ := 5

def unitEnablementVerbs : List String := ["enable", "disable"]

def unitStateQueryTimeoutSec : ℚ := 2

def unitActionClientMarginSec : ℚ := 1

-- TimeoutStartSec and TimeoutStopSec.
def sourceUnitSystemdTimeoutSec : List (String × ℚ × ℚ) :=
  [(shairportSyncService, 30, 5), ("nqptp.service", 2, 5), (librespotService, 2, 5), ("bluealsa.service", 5, 5),
    ("bluealsa-aplay.service", 2, 5), ("bt-agent.service", 2, 10), (usbgadgetService, 5, 5), ("jasper-usbsink.service", 40, 5),
    ("jasper-usbsink-volume.service", 2, 5)]

def controlUnitSystemdTimeoutSec : List (String × ℚ × ℚ) := [(bluetoothService, 10, 10)]

-- The commands of the start phase and of the stop phase.
def unitPhaseCommandCounts : List (String × ℚ × ℚ) := [(usbgadgetService, 5, 7)]

def systemdDefaultTimeoutStartSec : ℚ := 90

def faninRestartBackoffSec : ℚ := 5

def usbGadgetStartDependencySec : List (String × ℚ) :=
  [("jasper-usb-network-plan.service", 10), (audioHardwareReconcileUnit, 50),
    (faninService, systemdDefaultTimeoutStartSec + faninRestartBackoffSec)]

def sourceUnitStartDependencyTimeoutSec : List (String × ℚ) :=
  [(shairportSyncService, 2), ("jasper-usbsink.service", 2), (usbgadgetService, (usbGadgetStartDependencySec.map Prod.snd).sum)]

def resetTimeoutSec : ℚ := 5

def clientSocketMarginSec : ℚ := 5

def operationCeilingSec (timeout : ℚ) (resetFailed brokerDead : Bool) : ℚ :=
  let attempts : ℚ := if brokerDead then 2 else 1
  let preamble := if resetFailed then attempts * resetTimeoutSec + clientSocketMarginSec else 0
  preamble + attempts * timeout + clientSocketMarginSec

def camillaRequeuedReconcileStartSec : ℚ := (usbGadgetStartDependencySec.lookup audioHardwareReconcileUnit).getD 0

def camillaNotifyDepStartSec : ℚ := systemdDefaultTimeoutStartSec + faninRestartBackoffSec

def camillaDependencyCriticalPathSec : ℚ :=
  max (camillaRequeuedReconcileStartSec + camillaNotifyDepStartSec) camillaNotifyDepStartSec

def camillaOwnStartSec : ℚ := systemdDefaultTimeoutStartSec

def daemonOpClientMarginSec : ℚ := 1

def camillaStartTimeoutSec : ℚ := camillaDependencyCriticalPathSec + camillaOwnStartSec + daemonOpClientMarginSec

def hardwareReconcileTimeoutSec : ℚ := 15

def kickAcceptTimeoutSec : ℚ := 5

def contentFormatConvergeTimeoutSec : ℚ := 60

def couplingAutoNonDaemonWorkSec : ℚ := 69

/-- One pass of the coupling owner along its worst path. -/
def couplingAutoPassCeilingSec (brokerDead : Bool) : ℚ :=
  let op := fun timeout resetFailed => operationCeilingSec timeout resetFailed brokerDead
  let spine := op contentFormatConvergeTimeoutSec false + op 8 true + op 8 true
  let combo := op 8 false + op 8 true + op camillaStartTimeoutSec true
  couplingAutoNonDaemonWorkSec + op hardwareReconcileTimeoutSec false + spine + combo + op kickAcceptTimeoutSec false

def couplingAutoCeilingHeadroomSec : ℚ := 270

def couplingAutoTimeoutStartSec : ℚ := couplingAutoPassCeilingSec false + couplingAutoCeilingHeadroomSec

def ownerUnitActionTimeoutSec : List (String × ℚ) :=
  [(accessoryReconcileUnit, 65), (usbCouplingUnit, operationCeilingSec couplingAutoTimeoutStartSec false false)]

def unitActionTimeoutSec (unit verb : String) : ℚ :=
  match if verb = "start" then ownerUnitActionTimeoutSec.lookup unit else none with
  | some timeout => timeout
  | none =>
    if verb ∈ unitEnablementVerbs then unitEnablementActionTimeoutSec
    else if verb = "reset-failed" then resetFailedActionTimeoutSec
    else
      match (sourceUnitSystemdTimeoutSec.lookup unit).or (controlUnitSystemdTimeoutSec.lookup unit) with
      | none => defaultUnitActionTimeoutSec
      | some (declaredStart, declaredStop) =>
        let (startCommands, stopCommands) := (unitPhaseCommandCounts.lookup unit).getD (1, 1)
        let startTimeout := declaredStart * startCommands
        let stopTimeout := declaredStop * stopCommands
        let dependencyTimeout := (sourceUnitStartDependencyTimeoutSec.lookup unit).getD 0
        if verb = "start" then startTimeout + dependencyTimeout + unitActionClientMarginSec
        else if verb = "stop" then stopTimeout + unitActionClientMarginSec
        else if verb = "restart" then startTimeout + stopTimeout + dependencyTimeout + unitActionClientMarginSec
        else defaultUnitActionTimeoutSec

def worstCaseOrdinaryStartActions : List (String × String) :=
  [(shairportSyncService, "start"), (librespotService, "start"), (bluetoothService, "start"), ("bluealsa.service", "start"),
    ("bluealsa-aplay.service", "start"), ("bt-agent.service", "start"), (usbgadgetService, "restart"),
    ("jasper-usbsink.service", "start")]

def nonSystemdReconcileBudgetSec : ℚ := 15

def maxEnablementTransitions : ℚ := 7

def maxEnsureActiveTransitions : ℚ := worstCaseOrdinaryStartActions.length

def maxFailedResetTransitions : ℚ := 7

def enablementTransitionBudgetSec : ℚ := 2 * unitStateQueryTimeoutSec + unitEnablementActionTimeoutSec

def failedResetBudgetSec : ℚ :=
  maxFailedResetTransitions * (2 * unitStateQueryTimeoutSec + unitActionTimeoutSec "source.service" "reset-failed")

def activeTransitionBudgetSec : ℚ :=
  (worstCaseOrdinaryStartActions.map fun (unit, verb) => unitActionTimeoutSec unit verb).sum +
    2 * unitStateQueryTimeoutSec * maxEnsureActiveTransitions

def ownerTimeoutSec (unit : String) : ℚ := (ownerUnitActionTimeoutSec.lookup unit).getD 0

def ownerReconcileBudgetSec : ℚ := 2 * ownerTimeoutSec accessoryReconcileUnit + ownerTimeoutSec usbCouplingUnit

def bluetoothControlBudgetSec : ℚ := 30

def usbDirectWaitBudgetSec : ℚ :=
  usbDirectSettleAttempts * usbDirectProbeTimeoutSec + (usbDirectSettleAttempts - 1) * usbDirectSettleSeconds

def usbFailedOnCleanupBudgetSec : ℚ :=
  2 * unitStateQueryTimeoutSec + unitActionTimeoutSec "jasper-usbsink.service" "stop" +
    (2 * unitStateQueryTimeoutSec + resetFailedActionTimeoutSec) + enablementTransitionBudgetSec +
    unitActionTimeoutSec usbgadgetService "restart" + unitActionTimeoutSec usbgadgetService "stop" + ownerTimeoutSec usbCouplingUnit

def reconcileTimeoutMarginSec : ℚ := 45 / 4

def nonOwnerReconcileBudgetSec : ℚ :=
  nonSystemdReconcileBudgetSec + maxEnablementTransitions * enablementTransitionBudgetSec + failedResetBudgetSec +
    activeTransitionBudgetSec + unitActionTimeoutSec usbgadgetService "restart" + bluetoothControlBudgetSec + usbDirectWaitBudgetSec +
    usbFailedOnCleanupBudgetSec

def reconcileSystemdTimeoutSeconds : ℚ := nonOwnerReconcileBudgetSec + ownerReconcileBudgetSec + reconcileTimeoutMarginSec

def reconcileBrokerTimeoutSeconds : ℚ := reconcileSystemdTimeoutSeconds + 10

end Jts.Control
