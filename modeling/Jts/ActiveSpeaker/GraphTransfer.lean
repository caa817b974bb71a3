import Jts.Shared.ChannelNetwork
import Jts.Shared.PythonJson
import Mathlib.Data.Rat.Floor

set_option autoImplicit false

namespace Jts.ActiveSpeaker.GraphTransfer

open Shared.ChannelNetwork (Stage run)
open Shared.PythonJson

inductive Fault
  | graphTransferError
  | typeError
  | valueError
  | overflowError
deriving DecidableEq, Repr

/-- What a transfer is computed with, at one frequency. -/
structure Spectrum (C : Type) where
  -- `10.0 ** (gain / 20.0)`
  amplitude : ℚ → C
  -- The turn of a delay in seconds.
  turn : ℚ → C
  -- A biquad of a shape by its frequency, q and gain; a crossover section and a Butterworth filter by its frequency, order and side.
  biquad : String → ℚ → ℚ → PyFloat → C
  crossover : ℚ → ℕ → Bool → C
  butterworth : ℚ → ℕ → Bool → C
  -- `str` of what is no text, and `float` of a text
  str : Json → String
  floatOfStr : String → Option PyFloat

abbrev Fields := List (String × Json)

variable {C : Type} (spectrum : Spectrum C)

def text : Json → String
  | .str text => text
  | value => spectrum.str value

-- `str(value or fallback)`
def textOr (value : Json) (fallback : String) : String := if truthy value then text spectrum value else fallback

def finite (value : Json) : Except Fault ℚ := ((finiteFloat value).map .ok).getD (.error .graphTransferError)

def mapping : Json → Except Fault Fields
  | .dict fields => .ok fields
  | _ => .error .graphTransferError

-- An integer that is no boolean.
def integer : Json → Option ℤ
  | .int value => some value
  | _ => none

def channelCount (value : Json) : Except Fault ℕ :=
  match integer value with
  | some count => if 1 ≤ count then .ok count.toNat else .error .graphTransferError
  | none => .error .graphTransferError

-- `value is True`
def isTrue : Json → Bool
  | .bool true => true
  | _ => false

def responseSampleRateHz : ℕ := 48000

-- `subsample not in (None, False)`, where zero is False
def subsamples : Json → Bool
  | .null | .bool false | .int 0 => false
  | .float value => value ≠ .finite 0
  | _ => true

def delaySeconds (params : Fields) : Except Fault ℚ :=
  if subsamples (get params "subsample") then .error .graphTransferError
  else do
    let delay ← finite (get params "delay")
    if delay < 0 then throw .graphTransferError
    let unit := textOr spectrum (get params "unit") "ms"
    let requestedSamples ←
      if unit = "samples" then .ok delay
      else if unit = "ms" then .ok (delay * responseSampleRateHz / 1000)
      else if unit = "us" then .ok (delay * responseSampleRateHz / 1000000)
      else if unit = "mm" then .ok (delay * responseSampleRateHz / 343000)
      else .error .graphTransferError
    return ⌊requestedSamples + 1 / 2⌋ / responseSampleRateHz

variable [Field C]

/-- A gain of a filter or of the source of a mixer, as a factor. -/
def linearGain (fields : Fields) : Except Fault C := do
  let scale := textOr spectrum (get fields "scale") "dB"
  let gain ← finite (get fields "gain")
  let linear ←
    if scale = "dB" ∨ scale = "decibel" then .ok (spectrum.amplitude gain)
    else if scale = "linear" then .ok (gain : C)
    else .error .graphTransferError
  return if isTrue (get fields "inverted") then -linear else linear

/-- The filters, the gain and the delay of a step. -/
structure Records (C : Type) where
  biquads : List Fields
  scale : C
  delay : ℚ

def modelledBiquadTypes : List String := ["Lowpass", "Highpass", "Notch", "Lowshelf", "Highshelf", "Peaking", "Allpass"]

def comboHighpass : List (String × Bool) :=
  [("ButterworthHighpass", true), ("ButterworthLowpass", false), ("LinkwitzRileyHighpass", true), ("LinkwitzRileyLowpass", false)]

def linkwitzRiley (combo : String) : Bool := "LinkwitzRiley".toList.isPrefixOf combo.toList

def checkCombo (params : Fields) : Except Fault Unit := do
  let combo := textOr spectrum (get params "type") ""
  if (comboHighpass.lookup combo).isNone then throw .graphTransferError
  let order ← channelCount (get params "order")
  if linkwitzRiley combo && order % 2 == 1 then throw .graphTransferError
  let _ ← finite (get params "freq")

def checkBiquad (params : Fields) : Except Fault Unit := do
  if textOr spectrum (get params "type") "" ∉ modelledBiquadTypes then throw .graphTransferError
  let _ ← finite (get params "q")
  let _ ← finite (get params "freq")

def modelledFilterTypes : List String := ["Biquad", "BiquadCombo", "Delay", "Gain", "Limiter"]

def recordOf (allowLimiterPassthrough : Bool) (records : Records C) (spec params : Fields) (kind : String) :
    Except Fault (Records C) :=
  if kind = "Limiter" then
    if allowLimiterPassthrough then .ok records else .error .graphTransferError
  else if kind = "Gain" then
    if isTrue (get params "mute") then .ok { records with scale := 0 }
    else (linearGain spectrum params).map fun linear => { records with scale := records.scale * linear }
  else if kind = "Delay" then
    (delaySeconds spectrum params).map fun delay => { records with delay := records.delay + delay }
  else
    (if kind = "BiquadCombo" then checkCombo spectrum params else checkBiquad spectrum params).map fun _ =>
      { records with biquads := records.biquads ++ [spec] }

def filterRecord (filters : Fields) (allowLimiterPassthrough : Bool) (records : Records C) (name : String) :
    Except Fault (Records C) := do
  let spec ← mapping (get filters name)
  let kind := textOr spectrum (get spec "type") ""
  if kind ∉ modelledFilterTypes then .error .graphTransferError
  else
    let params ← mapping (get spec "parameters")
    recordOf spectrum allowLimiterPassthrough records spec params kind

def filterRecords (filters : Fields) (allowLimiterPassthrough : Bool) (names : List String) : Except Fault (Records C) :=
  names.foldlM (filterRecord spectrum filters allowLimiterPassthrough) { biquads := [], scale := 1, delay := 0 }

-- `float(value or 0.0)`
def floatOrZero (value : Json) : Except Fault PyFloat :=
  if truthy value then
    match value with
    | .bool _ => .ok (.finite 1)
    | .int value => if value.natAbs < floatLimit then .ok (.finite value) else .error .overflowError
    | .float value => .ok value
    | .str text => ((spectrum.floatOfStr text).map .ok).getD (.error .valueError)
    | _ => .error .typeError
  else .ok (.finite 0)

/-- The response of one of the filters of a chain. -/
def filterFactor (spec : Fields) : Except Fault C := do
  let params ← mapping (get spec "parameters")
  let shape := text spectrum (get params "type")
  let freq ← finite (get params "freq")
  if text spectrum (get spec "type") = "BiquadCombo" then
    let order ← channelCount (get params "order")
    let highpass := (comboHighpass.lookup shape).getD false
    return if linkwitzRiley shape then spectrum.crossover freq order highpass else spectrum.butterworth freq order highpass
  else
    let q ← finite (get params "q")
    if shape = "Allpass" then return 2 * spectrum.biquad "Notch" freq q (.finite 0) - 1
    else
      let gain ← floatOrZero spectrum (get params "gain")
      return spectrum.biquad shape freq q gain

def camillaFilterResponse (specs : List Fields) : Except Fault C :=
  specs.foldlM (fun total spec => (filterFactor spectrum spec).map (total * ·)) 1

def filterTransfer (filters : Fields) (allowLimiterPassthrough : Bool) (names : List String) : Except Fault C := do
  let records ← filterRecords spectrum filters allowLimiterPassthrough names
  let chain ← camillaFilterResponse spectrum records.biquads
  let response := records.scale * chain
  return if records.delay = 0 then response else response * spectrum.turn records.delay

def stepChannel (width : ℕ) (channel : Json) : Except Fault ℕ :=
  match integer channel with
  | some channel => if 0 ≤ channel ∧ channel < width then .ok channel.toNat else .error .graphTransferError
  | none => .error .graphTransferError

def stepChannels (step : Fields) (width : ℕ) : Except Fault (List ℕ) :=
  match get step "channels", get step "channel" with
  | .list raw, _ => raw.mapM (stepChannel width)
  | .int raw, _ => [Json.int raw].mapM (stepChannel width)
  | _, .int channel => [Json.int channel].mapM (stepChannel width)
  | .null, .null => .ok (List.range width)
  | _, _ => .error .graphTransferError

def mixerSource (width : ℕ) (source : Json) : Except Fault (Option (ℕ × C)) := do
  let source ← mapping source
  if isTrue (get source "mute") then return none
  let channel ← stepChannel width (get source "channel")
  let linear ← linearGain spectrum source
  return some (channel, linear)

def listed : Json → Except Fault (List Json)
  | .list items => .ok items
  | _ => .error .graphTransferError

def mixerEntry (width out : ℕ) (entry : Json) : Except Fault (Option (ℕ × List (ℕ × C))) := do
  let entry ← mapping entry
  if isTrue (get entry "mute") then return none
  let dest ← stepChannel out (get entry "dest")
  let raw ← listed (get entry "sources")
  let sources ← raw.mapM (mixerSource spectrum width)
  return some (dest, sources.reduceOption)

def mixerMapping (mixer : Fields) (width : ℕ) : Except Fault (ℕ × List (ℕ × List (ℕ × C))) := do
  let channels ← mapping (get mixer "channels")
  let channelsIn ← channelCount (get channels "in")
  let channelsOut ← channelCount (get channels "out")
  if channelsIn ≠ width then throw .graphTransferError
  let raw ← listed (get mixer "mapping")
  let entries ← raw.mapM (mixerEntry spectrum width channelsOut)
  return (channelsOut, entries.reduceOption)

def dynamicBassPrefix : String := "bass_ext_dynamic"

def dynamicBass (name : String) : Bool := dynamicBassPrefix.toList.isPrefixOf name.toList

-- What a name list is iterated over: the keys of a mapping, the letters of a text.
def iterated (value : Json) : Except Fault (List Json) :=
  if truthy value then
    match value with
    | .list items => .ok items
    | .dict fields => .ok (fields.map fun entry => .str entry.1)
    | .str text => .ok (text.toList.map fun letter => .str (String.singleton letter))
    | _ => .error .typeError
  else .ok []

def notNull : Json → Bool
  | .null => false
  | _ => true

/-- The names of the filters that a step is evaluated by. -/
def stepNames (dynamicBassAtRest : Bool) (step : Fields) : Except Fault (List String) := do
  let raw ← iterated (get step "names")
  let names := (raw.filter notNull).map (text spectrum)
  return if dynamicBassAtRest then names.filter (!dynamicBass ·) else names

-- `str(step.get("name", ""))`
def stepName (step : Fields) : String := ((field step "name").map (text spectrum)).getD ""

def sub (fields : Fields) (key : String) : Fields :=
  match get fields key with
  | .dict inner => inner
  | _ => []

def filterOperations (config : Fields) (allowLimiterPassthrough dynamicBassAtRest : Bool) (width : ℕ) (step : Fields) :
    Except Fault (List (Stage C)) := do
  let names ← stepNames spectrum dynamicBassAtRest step
  if dynamicBassAtRest && names.isEmpty then return []
  else
    let channels ← stepChannels step width
    if names.isEmpty then return []
    else
      let response ← filterTransfer spectrum (sub config "filters") allowLimiterPassthrough names
      return [.scale channels response]

def mixerOperations (config : Fields) (width : ℕ) (step : Fields) : Except Fault (List (Stage C) × ℕ) := do
  let mixer ← mapping (get (sub config "mixers") (textOr spectrum (get step "name") ""))
  let mapped ← mixerMapping spectrum mixer width
  return ([.mix mapped.2], mapped.1)

/-- The stages of a step, and the width after it. -/
def stepOperations (config : Fields) (allowLimiterPassthrough dynamicBassAtRest : Bool) (width : ℕ) (step : Json) :
    Except Fault (List (Stage C) × ℕ) := do
  let step ← mapping step
  if isTrue (get step "bypassed") then .error .graphTransferError
  else if dynamicBassAtRest && dynamicBass (stepName spectrum step) then .ok ([], width)
  else
    let kind := textOr spectrum (get step "type") ""
    if kind = "Filter" then
      (filterOperations spectrum config allowLimiterPassthrough dynamicBassAtRest width step).map fun operations => (operations, width)
    else if kind = "Mixer" then mixerOperations spectrum config width step
    else .error .graphTransferError

def stepsOperations (config : Fields) (allowLimiterPassthrough dynamicBassAtRest : Bool) (width : ℕ) :
    List Json → Except Fault (List (Stage C) × ℕ)
  | [] => .ok ([], width)
  | step :: steps => do
      let first ← stepOperations spectrum config allowLimiterPassthrough dynamicBassAtRest width step
      let rest ← stepsOperations config allowLimiterPassthrough dynamicBassAtRest first.2 steps
      return (first.1 ++ rest.1, rest.2)

def pipelineOperations (config : Fields) (captureChannels : ℕ) (allowLimiterPassthrough dynamicBassAtRest : Bool) :
    Except Fault (List (Stage C) × ℕ) := do
  let steps ← listed (get config "pipeline")
  stepsOperations spectrum config allowLimiterPassthrough dynamicBassAtRest captureChannels steps

def weighted (captureChannels : ℕ) (spectra : ℕ → C) (weight : ℕ × C) : Except Fault (ℕ → C) :=
  if weight.1 < captureChannels then .ok (Function.update spectra weight.1 weight.2) else .error .graphTransferError

/-- The transfer of a mixture of the inputs to the channels that are asked for. -/
def complexChannelTransfer (config : Fields) (inputWeights : List (ℕ × C)) (outputChannels : List ℕ)
    (allowLimiterPassthrough dynamicBassAtRest : Bool) : Except Fault (ℕ → C) := do
  let devices ← mapping (get config "devices")
  if integer (get devices "samplerate") ≠ some (responseSampleRateHz : ℤ) then throw .graphTransferError
  let capture ← mapping (get devices "capture")
  let captureChannels ← channelCount (get capture "channels")
  if inputWeights.isEmpty then throw .graphTransferError
  let spectra ← inputWeights.foldlM (weighted captureChannels) fun _ => 0
  let operations ← pipelineOperations spectrum config captureChannels allowLimiterPassthrough dynamicBassAtRest
  if outputChannels.any (operations.2 ≤ ·) then throw .graphTransferError
  return run spectra operations.1

end Jts.ActiveSpeaker.GraphTransfer
