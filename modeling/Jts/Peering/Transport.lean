import Jts.Peering.Rank
import Jts.Shared.Rounding

set_option autoImplicit false

namespace Jts.Peering.Transport

open Shared.PythonJson
open Shared.PythonJson.PyFloat (Double double)
open Shared.Rounding (roundTo)

def protoVersion : ℤ := 1

inductive IncomingMessage
  | wake (epoch : String) (report : WakeReport) (tsNs : ℤ)
  | claim (epoch peerId : String) (tsNs : ℤ)
  | heartbeat (epoch peerId : String) (tsNs : ℤ)
  | ended (epoch peerId reason : String) (tsNs : ℤ)
deriving DecidableEq

/-- What Python does to the text of a datagram and to its values. -/
structure Python where
  dumps : Json → String
  loads : Loads
  str : Json → Except PyError String
  floatOfText : String → Option PyFloat
  intOfText : String → Option ℤ

section encode

-- `round(value, places)`: the float that is nearest to the decimal.
def roundFloat (places : ℕ) (value : Double) : Double :=
  match value.val with
  | .finite value => double (.finite (roundTo places value))
  | _ => value

def measure (value : Option Double) : Json := (value.map fun value => Json.float (roundFloat 2 value).val).getD .null

def flag (value : Bool) : Json := .int (if value then 1 else 0)

def envelope (type peerId : String) (tsNs : ℤ) (extra : List (String × Json)) : Json :=
  .dict ([("t", .str type), ("proto", .int protoVersion), ("peer", .str peerId), ("ts", .int tsNs)] ++ extra)

def wakeMessage (epoch : String) (report : WakeReport) (tsNs : ℤ) : Json :=
  envelope "WAKE" report.peerId tsNs
    [("epoch", .str epoch), ("score", .float (roundFloat 4 report.score.float).val), ("snr_db", measure report.snrDb),
      ("rms_dbfs", measure report.rmsDbfs), ("primary", flag report.primary), ("can_serve", flag report.canServe)]

def claimMessage (epoch peerId : String) (tsNs : ℤ) : Json := envelope "CLAIM" peerId tsNs [("epoch", .str epoch)]

def heartbeatMessage (epoch peerId : String) (tsNs : ℤ) : Json := envelope "HEART" peerId tsNs [("epoch", .str epoch)]

def firstChars (text : String) (count : ℕ) : String := String.ofList (text.toList.take count)

def endMessage (epoch peerId reason : String) (tsNs : ℤ) : Json :=
  envelope "END" peerId tsNs [("epoch", .str epoch), ("reason", .str (firstChars reason 64))]

def encode (dumps : Json → String) (message : Json) : ByteArray := (dumps message).toUTF8

def encodeWake (dumps : Json → String) (epoch : String) (report : WakeReport) (tsNs : ℤ) : ByteArray :=
  encode dumps (wakeMessage epoch report tsNs)

end encode

section decode

variable (python : Python)

def pyStr : Json → Except PyError String
  | .str text => .ok text
  | value => python.str value

-- `int(value)`
def intOf : Json → Except PyError ℤ
  | .bool value => .ok (if value then 1 else 0)
  | .int value => .ok value
  | .float (.finite value) => .ok (if value < 0 then ⌈value⌉ else ⌊value⌋)
  | .float (.infinity _) => .error .overflow
  | .float .nan => .error .value
  | .str text =>
      match python.intOfText text with
      | none => .error .value
      | some value => .ok value
  | .null | .list _ | .dict _ => .error .type

-- `msg[key]`
def item (msg : List (String × Json)) (key : String) : Except PyError Json :=
  match field msg key with
  | none => .error .key
  | some value => .ok value

-- `float(value)`: an integer has the nearest float.
def asDouble (value : Json) : Except PyError Double := (floatOf python.floatOfText value).map double

def asFloat (value : Json) : Option Double :=
  match asDouble python value with
  | .ok value => some value
  | .error _ => none

-- `value == number`
def equalsInt (number : ℤ) : Json → Bool
  | .int value => value = number
  | .bool value => (if value then 1 else 0) = number
  | .float (.finite value) => value = number
  | _ => false

def equalsStr (text : String) : Json → Bool
  | .str value => value = text
  | _ => false

def tsOf (msg : List (String × Json)) : Except PyError ℤ := intOf python ((field msg "ts").getD (.int 0))

def textOf (msg : List (String × Json)) (key : String) : Except PyError String := do pyStr python (← item msg key)

def reportOf (msg : List (String × Json)) : Except PyError WakeReport := do
  let peerId ← textOf python msg "peer"
  let score ← asDouble python (← item msg "score")
  return { peerId := peerId
           score := .clamp score
           snrDb := asFloat python (get msg "snr_db")
           rmsDbfs := asFloat python (get msg "rms_dbfs")
           primary := truthy ((field msg "primary").getD (.int 0))
           canServe := truthy ((field msg "can_serve").getD (.int 1)) }

-- The arguments of a message are read in the order in which the source has them.
def messageOf (msg : List (String × Json)) : Except PyError (Option IncomingMessage) := do
  let type := get msg "t"
  if equalsStr "WAKE" type then
    let epoch ← textOf python msg "epoch"
    let tsNs ← tsOf python msg
    return some (.wake epoch (← reportOf python msg) tsNs)
  else if equalsStr "CLAIM" type then
    return some (.claim (← textOf python msg "epoch") (← textOf python msg "peer") (← tsOf python msg))
  else if equalsStr "HEART" type then
    return some (.heartbeat (← textOf python msg "epoch") (← textOf python msg "peer") (← tsOf python msg))
  else if equalsStr "END" type then
    let epoch ← textOf python msg "epoch"
    let peerId ← textOf python msg "peer"
    let reason ← pyStr python ((field msg "reason").getD (.str ""))
    return some (.ended epoch peerId (firstChars reason 64) (← tsOf python msg))
  else return none

def dropped (error : PyError) : Bool := error.isA .key || error.isA .value || error.isA .type || error.isA .overflow

def decodeObject (msg : List (String × Json)) : Except PyError (Option IncomingMessage) :=
  if equalsInt protoVersion (get msg "proto") then
    match messageOf python msg with
    | .ok message => .ok message
    | .error error => if dropped error then .ok none else .error error
  else .ok none

def decode (raw : ByteArray) : Except PyError (Option IncomingMessage) :=
  match String.fromUTF8? raw with
  | none => .ok none
  | some text =>
      match python.loads text with
      | .error .decode => .ok none
      | .error error => .error error.error
      | .ok (.dict msg) => decodeObject python msg
      | .ok _ => .ok none

end decode

end Jts.Peering.Transport
