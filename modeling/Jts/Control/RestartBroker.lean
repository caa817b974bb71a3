import Jts.Control.UnitTimeouts
import Jts.Shared.PythonFloat
import Jts.Shared.PythonText
import Mathlib.Data.List.TakeDrop

set_option autoImplicit false

namespace Jts.Control.RestartBroker

open Shared.PythonJson
open Shared.PythonText (strip)

abbrev Uid := ℕ

abbrev Argv := List String

def selfUnit : String := "jasper-control.service"

def managedUnits : List String :=
  ["jasper-voice.service", "jasper-control.service", "jasper-web.service", "jasper-mux.service", "jasper-input.service",
    "jasper-aec-bridge.service", "jasper-aec-init.service", "jasper-aec-reconcile.service", "jasper-grouping-reconcile.service",
    "jasper-grouping-reconcile-trailing.service", "jasper-camilla.service", "jasper-outputd.service", faninService,
    "jasper-doctor-json.service", shairportSyncService, "nqptp.service", librespotService, "jasper-usbsink.service",
    "jasper-usbsink-volume.service", "jasper-usbmic-apply.service", "jasper-usbmic.service", usbgadgetService,
    bluetoothService, "bluealsa.service", "bluealsa-aplay.service", "bt-agent.service"]

def startOnlyUnits : List String :=
  [audioHardwareReconcileUnit, usbCouplingUnit, reconcileUnit, "jasper-wifi-scan-repair.service", "jasper-wiim-remote-ce.service",
    "jasper-xvf-firmware-update.service", "jasper-enhanced-aec-install.service", "jasper-aec-commission.service"]

def brokerClientUsers : List String := ["jasper-control", "jasper-web", "jasper-mux", "jasper-voice", "jasper-input"]

-- The argv before the units, and whether the verb knows `--no-block`.
def verbArgv : List (String × List String × Bool) :=
  [("restart", ["restart"], true), ("try-restart", ["try-restart"], true), ("start", ["start"], true), ("stop", ["stop"], true),
    ("reset-failed", ["reset-failed"], false), ("reboot", ["reboot"], false), ("poweroff", ["poweroff"], false)]

def allowedVerbs : List String := verbArgv.map Prod.fst

def powerVerbs : List String := ["reboot", "poweroff"]

def defaultExecTimeoutSec : ℚ := 30

def execTimeoutCeilingSec : ℚ := 120

def extendedExecTimeoutCeilingSec : List ((String × String) × ℚ) :=
  [((reconcileUnit, "start"), reconcileBrokerTimeoutSeconds), (("jasper-camilla.service", "start"), camillaStartTimeoutSec),
    ((usbCouplingUnit, "start"), unitActionTimeoutSec usbCouplingUnit "start")]

def maxRequestBytes : ℕ := 4096

/-- How a subprocess fails: with one of the errors that the handler catches, or with another. -/
inductive RunError
  | os (text : String)
  | subprocess (text : String)
  | other
deriving DecidableEq, Repr

/-- What the broker asks of the system it runs on. -/
structure Host where
  uidOf : String → Option Uid
  loads : Loads
  str : Json → Except PyError String
  repr : Json → String
  floatOfText : String → Option PyFloat
  run : Argv → PyFloat → Except RunError (ℤ × String)
  spawn : Argv → Except RunError Unit

/-- The peer of a connection and what it sends, each with the text of the error that reading it can end in. -/
structure Connection where
  peer : Except String Uid
  line : Except String ByteArray

inductive Command
  | run (argv : Argv) (timeout : PyFloat)
  | spawn (argv : Argv)
deriving DecidableEq, Repr

def Command.argv : Command → Argv
  | .run argv _ | .spawn argv => argv

/-- What a handler did: the commands it started, in order, the replies it sent, and whether an error escaped from it. -/
structure Handled where
  commands : List Command
  replies : List Json
  crashed : Bool

def Handled.reply (payload : Json) (commands : List Command) : Handled := ⟨commands, [payload], false⟩

def Handled.crash (commands : List Command) : Handled := ⟨commands, [], true⟩

def refusal (text : String) : Json := .dict [("ok", .bool false), ("error", .str text)]

def refuse (text : String) : Handled := .reply (refusal text) []

def timeoutCeiling (verb : String) (units : List String) (noBlock : Bool) : ℚ :=
  match noBlock, units with
  | false, [unit] => (extendedExecTimeoutCeilingSec.lookup (unit, verb)).getD execTimeoutCeilingSec
  | _, _ => execTimeoutCeilingSec

def clampExecTimeout (floatOfText : String → Option PyFloat) (raw : Json) (verb : String) (units : List String) (noBlock : Bool) :
    Except PyError PyFloat :=
  match floatOf floatOfText raw with
  | .ok value => .ok ((value.pyMax (.finite 1)).pyMin (.finite (timeoutCeiling verb units noBlock)))
  | .error error => if error.isA .type || error.isA .value then .ok (.finite defaultExecTimeoutSec) else .error error

-- What follows the last slash.
def lastPart (name : List Char) : List Char := name.rtakeWhile (· ≠ '/')

def normalizeUnit (unit : String) : String :=
  let name := strip unit.toList
  if '.' ∈ lastPart name then String.ofList name else String.ofList name ++ ".service"

def buildArgv (verb : String) (units : List String) (noBlock : Bool) : Argv :=
  let (tail, supportsNoBlock) := (verbArgv.lookup verb).getD ([], false)
  ["systemctl"] ++ tail ++ (if noBlock && supportsNoBlock then ["--no-block"] else []) ++ units

def stripped (text : String) : String := String.ofList (strip text.toList)

abbrev RunResult := List Command × Except RunError (Option ℤ × String × Bool)

def spawnDetached (host : Host) (argv : Argv) : RunResult := ([.spawn argv], (host.spawn argv).map fun _ => (none, "", true))

-- Restarting itself comes last, and without waiting.
def runSystemctlRequest (host : Host) (verb : String) (units : List String) (noBlock : Bool) (timeout : PyFloat) : RunResult :=
  if verb ∈ powerVerbs then spawnDetached host (buildArgv verb units false)
  else if verb = "restart" ∧ selfUnit ∈ units then
    let nonSelfUnits := units.filter (· ≠ selfUnit)
    let self := spawnDetached host (buildArgv verb [selfUnit] true)
    if nonSelfUnits = [] then self
    else
      let argv := buildArgv verb nonSelfUnits noBlock
      match host.run argv timeout with
      | .error error => ([.run argv timeout], .error error)
      | .ok (rc, stderr) =>
          if rc ≠ 0 then ([.run argv timeout], .ok (some rc, stripped stderr, false))
          else (.run argv timeout :: self.1, self.2)
  else
    let argv := buildArgv verb units noBlock
    ([.run argv timeout], (host.run argv timeout).map fun (rc, stderr) => (some rc, stripped stderr, false))

def unitAllowedForVerb (unit verb : String) : Bool := unit ∈ managedUnits || verb = "start" && unit ∈ startOnlyUnits

def allowedUids (host : Host) : List Uid := 0 :: brokerClientUsers.filterMap host.uidOf

def powerVerbUids (host : Host) : List Uid := 0 :: (host.uidOf "jasper-control").toList

def verdict (verb : String) (units : List String) (rc : Option ℤ) (stderr : String) (deferred : Bool) : Json :=
  let queuedUnconfirmed := deferred && rc.isNone
  .dict
    [("ok", .bool (queuedUnconfirmed || decide (rc = some 0))), ("action", .str verb), ("units", .list (units.map .str)),
      ("rc", (rc.map Json.int).getD .null),
      ("stderr", .str (if rc.any (· ≠ 0) then String.ofList (stderr.toList.take 500) else "")),
      ("self_deferred", .bool (deferred && !decide (verb ∈ powerVerbs))), ("confirmed", .bool !queuedUnconfirmed),
      ("status", .str (if queuedUnconfirmed then "queued_unconfirmed" else "confirmed"))]

def execute (host : Host) (verb : String) (units : List String) (noBlock : Bool) (timeout : PyFloat) : Handled :=
  match runSystemctlRequest host verb units noBlock timeout with
  | (commands, .ok (rc, stderr, deferred)) => .reply (verdict verb units rc stderr deferred) commands
  | (commands, .error (.os text)) | (commands, .error (.subprocess text)) =>
      .reply (refusal ("systemctl invocation failed: " ++ text)) commands
  | (commands, .error .other) => .crash commands

-- `str(req.get("reason") or "")`
def reasonText (host : Host) (req : List (String × Json)) : Except PyError String :=
  match get req "reason" with
  | .str text => .ok text
  | reason => if truthy reason then host.str reason else .ok ""

def noBlockOf (req : List (String × Json)) : Bool := truthy ((field req "no_block").getD (.bool true))

-- What follows once every unit is allowed.
def serve (host : Host) (verb : String) (units : List String) (req : List (String × Json)) : Handled :=
  match reasonText host req with
  | .error _ => .crash []
  | .ok _ =>
      match clampExecTimeout host.floatOfText (get req "exec_timeout") verb units (noBlockOf req) with
      | .error _ => .crash []
      | .ok timeout => execute host verb units (noBlockOf req) timeout

def handleUnits (host : Host) (verb : String) (names : List String) (req : List (String × Json)) : Handled :=
  let units := names.map normalizeUnit
  let bad := units.filter fun unit => !unitAllowedForVerb unit verb
  if bad ≠ [] then refuse ("unit(s) not in allowlist: " ++ ",".intercalate bad) else serve host verb units req

def strs : List Json → Option (List String)
  | [] => some []
  | .str text :: items => (strs items).map fun names => text :: names
  | _ :: _ => none

-- Only a list of one text or more names units.
def unitNames : Json → Option (List String)
  | .list [] => none
  | .list items => strs items
  | _ => none

def handleVerb (host : Host) (uid : Uid) (verb : String) (req : List (String × Json)) : Handled :=
  let rawUnits := get req "units"
  if verb ∈ powerVerbs then
    if uid ∉ powerVerbUids host then refuse (verb ++ " not permitted for peer")
    else if truthy rawUnits then refuse (verb ++ " takes no units")
    else handleUnits host verb [] req
  else
    match unitNames rawUnits with
    | none => refuse "units must be a non-empty list of strings"
    | some names => handleUnits host verb names req

-- A list or a mapping has no hash to look up.
def handleRequest (host : Host) (uid : Uid) (req : List (String × Json)) : Handled :=
  match get req "verb" with
  | .list _ | .dict _ => .crash []
  | .str verb =>
      if verb ∈ allowedVerbs then handleVerb host uid verb req else refuse ("unknown verb " ++ host.repr (.str verb))
  | verb => refuse ("unknown verb " ++ host.repr verb)

def handleText (host : Host) (uid : Uid) (text : String) : Handled :=
  match host.loads text with
  | .error .decode => refuse "invalid json request"
  | .error .digits | .error .depth => .crash []
  | .ok (.dict req) => handleRequest host uid req
  | .ok _ => refuse "request must be a JSON object"

def handle (host : Host) (connection : Connection) : Handled :=
  match connection.peer with
  | .error text => refuse ("peercred unavailable: " ++ text)
  | .ok uid =>
      if uid ∉ allowedUids host then refuse "unauthorized peer"
      else
        match connection.line with
        | .error text => refuse ("read failed: " ++ text)
        | .ok raw =>
            if maxRequestBytes < raw.size then refuse "request too large"
            else
              match String.fromUTF8? raw with
              | none => refuse "invalid json request"
              | some text => handleText host uid text

end Jts.Control.RestartBroker
