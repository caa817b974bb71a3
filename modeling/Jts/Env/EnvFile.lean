import Jts.Shared.PythonText

set_option autoImplicit false

namespace Jts.Env

open Jts.Shared.Lines Jts.Shared.PythonText

def hash : Char := Char.ofNat 0x23

def equals : Char := Char.ofNat 0x3D

def doubleQuote : Char := Char.ofNat 0x22

def singleQuote : Char := Char.ofNat 0x27

def backslash : Char := Char.ofNat 0x5C

def dollar : Char := Char.ofNat 0x24

def backquote : Char := Char.ofNat 0x60

-- An assignment `(key, some value)`, or a line that is kept as it is.
abbrev ParsedLine := Text × Option Text

def isAssignment (raw : Text) : Bool :=
  !(strip raw).isEmpty && (strip raw).head? != some hash && (strip raw).contains equals

def parseEnvLine (raw : Text) : ParsedLine :=
  let stripped := strip raw
  if !isAssignment raw then (raw, none)
  else (strip (stripped.takeWhile (· != equals)), some ((stripped.dropWhile (· != equals)).drop 1))

def parseEnvLines (text : Text) : List ParsedLine := (splitlines text).map parseEnvLine

def isEscaped (char : Char) : Bool := char == backslash || char == doubleQuote || char == backquote || char == dollar

def unescape : Text → Text
  | [] => []
  | [char] => [char]
  | char :: next :: text =>
      if char == backslash && isEscaped next then next :: unescape text else char :: unescape (next :: text)

def inner (value : Text) : Text := (value.drop 1).dropLast

def isQuoted (value : Text) : Bool :=
  2 ≤ value.length && value.head? == value.getLast? && (value.head? == some doubleQuote || value.head? == some singleQuote)

/-- Resolves a single-line quoted value. -/
def unquoted (value : Text) : Text :=
  let value := strip value
  if isQuoted value then
    if value.head? == some doubleQuote then unescape (inner value) else inner value
  else value

def replaceChar (char : Char) (new : Text) (value : Text) : Text := value.flatMap fun old => if old == char then new else [old]

def quoteEnvValue (value : Text) : Text :=
  let escaped := replaceChar backquote [backslash, backquote] (replaceChar dollar [backslash, dollar]
    (replaceChar doubleQuote [backslash, doubleQuote] (replaceChar backslash [backslash, backslash] value)))
  doubleQuote :: escaped ++ [doubleQuote]

def renderLine (line : ParsedLine) : Text :=
  match line.2 with
  | none => line.1
  | some value => line.1 ++ equals :: value

def render (lines : List ParsedLine) : Text := [newline].intercalate (lines.map renderLine)

-- The value that a line assigns to a key.
def assigned (key : Text) (line : ParsedLine) : Option Text := if line.1 = key then line.2 else none

def readLines (lines : List ParsedLine) (key : Text) : Option Text :=
  lines.foldl (fun found line => ((assigned key line).map unquoted).or found) none

def readValue (text key : Text) : Option Text := readLines (parseEnvLines text) key

def upsertLines (key value : Text) : Bool → List ParsedLine → List ParsedLine × Bool
  | found, [] => if found then ([], false) else ([(key, some value)], true)
  | found, line :: lines =>
      match assigned key line with
      | none =>
          let rest := upsertLines key value found lines
          (line :: rest.1, rest.2)
      | some old =>
          if found then
            -- The first assignment becomes canonical.
            ((upsertLines key value true lines).1, true)
          else
            let rest := upsertLines key value true lines
            if unquoted old = value then (line :: rest.1, rest.2) else ((key, some value) :: rest.1, true)

def upsert (text key value : Text) : Text × Bool :=
  let lines := upsertLines key value false (parseEnvLines text)
  (render lines.1 ++ [newline], lines.2)

def removeLines (key : Text) (lines : List ParsedLine) : List ParsedLine := lines.filter fun line => (assigned key line).isNone

def remove (text key : Text) : Text × Bool :=
  let lines := parseEnvLines text
  let body := render (removeLines key lines)
  (if body = [] then [] else body ++ [newline], lines.any fun line => (assigned key line).isSome)

example : upsert "A=1\n# note\n B = \"x\"".toList "B".toList "y".toList = ("A=1\n# note\nB=y\n".toList, true) := by
  decide +kernel

end Jts.Env
