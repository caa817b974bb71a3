import Mathlib.Algebra.Order.Field.Rat
import Mathlib.Tactic.Common

set_option autoImplicit false

namespace Jts.Shared.PythonJson

/-- A float whose finite values are exact. -/
inductive PyFloat
  | finite (value : ℚ)
  | infinity (negative : Bool)
  | nan
deriving DecidableEq, Repr

namespace PyFloat

def isFinite : PyFloat → Bool
  | .finite _ => true
  | .infinity _ | .nan => false

-- No comparison with a nan holds.
def lt : PyFloat → PyFloat → Bool
  | .finite left, .finite right => left < right
  | .infinity negative, .finite _ => negative
  | .finite _, .infinity negative => !negative
  | .infinity left, .infinity right => left && !right
  | .nan, _ | _, .nan => false

def le (left right : PyFloat) : Bool := left.lt right || left != .nan && left == right

def fromFinite (left : ℚ) : PyFloat → PyFloat
  | .finite right => .finite (left - right)
  | .infinity negative => .infinity !negative
  | .nan => .nan

end PyFloat

/-- What `json.loads` returns: each key of a mapping once. -/
inductive Json
  | null
  | bool (value : Bool)
  | int (value : ℤ)
  | float (value : PyFloat)
  | str (value : String)
  | list (items : List Json)
  | dict (fields : List (String × Json))

def field (fields : List (String × Json)) (key : String) : Option Json :=
  (fields.find? fun entry => entry.1 = key).map Prod.snd

-- `mapping.get(key)`
def get (fields : List (String × Json)) (key : String) : Json := (field fields key).getD .null

def truthy : Json → Bool
  | .null => false
  | .bool value => value
  | .int value => value ≠ 0
  | .float value => value ≠ .finite 0
  | .str text => text ≠ ""
  | .list items => !items.isEmpty
  | .dict fields => !fields.isEmpty

inductive PyError
  | fileNotFound
  | os
  | unicodeDecode
  | jsonDecode
  | value
  | key
  | type
  | attribute
  | overflow
  | recursion
deriving DecidableEq, Repr

-- What an except clause that names a class catches.
def PyError.isA (error named : PyError) : Bool :=
  error = named ||
    match error, named with
    | .fileNotFound, .os | .unicodeDecode, .value | .jsonDecode, .value => true
    | _, _ => false

/-- How `json.loads` fails: on the text, on the digits of a number, on the depth of the nesting. -/
inductive LoadsError
  | decode
  | digits
  | depth
deriving DecidableEq, Repr

def LoadsError.error : LoadsError → PyError
  | .decode => .jsonDecode
  | .digits => .value
  | .depth => .recursion

abbrev Loads := String → Except LoadsError Json

inductive FileContent
  | missing
  | unreadable
  | bytes (data : ByteArray)

def readText : FileContent → Except PyError String
  | .missing => .error .fileNotFound
  | .unreadable => .error .os
  | .bytes data =>
      match String.fromUTF8? data with
      | none => .error .unicodeDecode
      | some text => .ok text

theorem fromUTF8?_toUTF8 (text : String) : String.fromUTF8? text.toUTF8 = some text := by
  rw [String.fromUTF8?, dif_pos (by simpa using text.isValidUTF8)]
  rfl

def loadText (loads : Loads) (text : String) : Except PyError Json := (loads text).mapError LoadsError.error

-- From here on an integer rounds past every float.
def floatLimit : ℕ := 2 ^ 1024 - 2 ^ 970

def floatOfInt (value : ℤ) : Except PyError PyFloat :=
  if value.natAbs < floatLimit then .ok (.finite value) else .error .overflow

-- No number is made of a boolean or a text.
def finiteFloat : Json → Option ℚ
  | .int value => if value.natAbs < floatLimit then some value else none
  | .float (.finite value) => some value
  | _ => none

end Jts.Shared.PythonJson
