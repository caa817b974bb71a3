import Jts.Shared.SignalGraph
import Mathlib.Algebra.Order.Field.Rat
import Mathlib.Data.Finset.Basic
import Mathlib.Tactic.Linarith

set_option autoImplicit false

namespace Jts.ActiveSpeaker.Graph

open Shared.SignalGraph (Stage Meaning Nature Arrives evaluate dead owed)

/-- A scalar of a parsed text. The last is a list, a mapping or a float that is not finite. -/
inductive Scalar
  | null
  | bool (value : Bool)
  | int (value : ℤ)
  | num (value : ℚ)
  | str (value : String)
  | other
deriving DecidableEq

-- A boolean counts as a number.
def Scalar.number : Scalar → Option ℚ
  | .bool value => some (if value then 1 else 0)
  | .int value => some value
  | .num value => some value
  | _ => none

/-- The equality of the code, in which true is one. -/
def Scalar.same (left right : Scalar) : Bool :=
  match left.number, right.number with
  | some left, some right => left == right
  | none, none => left == right && left != .other
  | _, _ => false

def Scalar.text : Scalar → Option String
  | .str value => some value
  | .int value => some (toString value)
  | .bool value => some (if value then "True" else "False")
  | _ => none

def Scalar.channel : Scalar → Option ℤ
  | .int value => some value
  | _ => none

/-- Numbers that are written as text are read by the language. -/
def asFloat (numeral : String → Option ℚ) : Scalar → Option ℚ
  | .str value => numeral value
  | value => value.number

def floatMatches (numeral : String → Option ℚ) (value : Scalar) (expected : ℚ) : Bool :=
  match asFloat numeral value with
  | none => false
  | some number => |number - expected| < 1 / 10000

def truthyBool : Scalar → Bool
  | .bool value => value
  | .str value => value.toLower == "true"
  | _ => false

structure FilterSpec where
  type : Scalar
  parameters : List (String × Scalar)
deriving DecidableEq

def FilterSpec.param (spec : FilterSpec) (key : String) : Scalar := (spec.parameters.lookup key).getD .null

-- A key with a list, or with anything else.
inductive Listed
  | list (values : List Scalar)
  | scalar (value : Scalar)
deriving DecidableEq

structure Step where
  type : Scalar
  bypassed : Scalar
  channels : Listed
  channel : Scalar
  names : Listed
  name : Scalar
deriving DecidableEq

structure MixerSource where
  channel : Scalar
  mute : Scalar
deriving DecidableEq

structure MixerEntry where
  dest : Scalar
  mute : Scalar
  sources : List MixerSource
deriving DecidableEq

/-- A parsed CamillaDSP config. A step that is no mapping is none. -/
structure Config where
  filters : List (String × FilterSpec)
  mixers : List (String × List MixerEntry)
  pipeline : Option (List (Option Step))
deriving DecidableEq

structure GraphPipelineStep where
  channels : Finset ℤ
  names : List String
deriving DecidableEq

structure GraphView where
  parsedOk : Bool
  filters : List (String × FilterSpec)
  pipelineSteps : List GraphPipelineStep
deriving DecidableEq

def Step.isFilter (step : Step) : Bool := step.type = .str "Filter"

def namesTuple : Listed → List String
  | .list names => names.filterMap Scalar.text
  | .scalar _ => []

def channelSet (channels : List Scalar) : Finset ℤ := (channels.filterMap Scalar.channel).toFinset

def runningStepChannels (step : Step) : Finset ℤ :=
  match step.channels, step.channel with
  | .list channels, _ => channelSet channels
  | .scalar _, .int channel => {channel}
  | .scalar _, _ => ∅

def listStepChannels (step : Step) : Option (Finset ℤ) :=
  match step.channels with
  | .list channels => some (channelSet channels)
  | .scalar _ => none

def viewSteps (channels : Step → Option (Finset ℤ)) (pipeline : Option (List (Option Step))) : List GraphPipelineStep :=
  (pipeline.getD []).filterMap fun step => do
    let step ← step
    if step.isFilter then return ⟨← channels step, namesTuple step.names⟩ else none

def view (channels : Step → Option (Finset ℤ)) : Option Config → GraphView
  | none => ⟨false, [], []⟩
  | some config => ⟨true, config.filters, viewSteps channels config.pipeline⟩

/-- The view of a running graph, read back. -/
def viewFromCamillaDict : Option Config → GraphView := view fun step => some (runningStepChannels step)

/-- The view of a candidate, whose channels are lists only. -/
def viewFromYamlDict : Option Config → GraphView := view listStepChannels

-- A parameter is compared as a number where a float is expected.
inductive Expected
  | near (value : ℚ)
  | equal (value : Scalar)
deriving DecidableEq

def Expected.matches (numeral : String → Option ℚ) (value : Scalar) : Expected → Bool
  | .near expected => floatMatches numeral value expected
  | .equal expected => value.same expected

def filterParamMatches (numeral : String → Option ℚ) (view : GraphView) (name filterType : String)
    (params : List (String × Expected)) : Bool :=
  match view.filters.lookup name with
  | none => false
  | some spec =>
      spec.type.text == some filterType && params.all fun (key, expected) => expected.matches numeral (spec.param key)

def pipelineContainsChain (view : GraphView) (channels : Finset ℤ) (requiredNames : List String) : Bool :=
  view.pipelineSteps.any fun step => step.channels = channels && requiredNames.all (· ∈ step.names)

def outputHardMutedAndWired (numeral : String → Option ℚ) (view : GraphView) (index : ℤ) (muteName : String)
    (muteGainDb : ℚ) : Bool :=
  filterParamMatches numeral view muteName "Gain" [("gain", .near muteGainDb), ("mute", .equal (.bool true))] &&
    pipelineContainsChain view {index} [muteName]

def outputUnmutedAndWired (numeral : String → Option ℚ) (view : GraphView) (index : ℤ) (muteName : String) : Bool :=
  filterParamMatches numeral view muteName "Gain" [("mute", .equal (.bool false))] &&
    pipelineContainsChain view {index} [muteName]

-- A step without a list of channels may touch any of them.
def Step.touches (step : Step) (index : ℤ) : Bool :=
  match step.channels with
  | .list channels => channels.any (·.same (.int index))
  | .scalar _ => true

def terminalSteps (index : ℤ) (muteName : String) : Bool → List (Option Step) → Bool
  | muted, [] => muted
  | muted, none :: steps => !muted && terminalSteps index muteName muted steps
  | muted, some step :: steps =>
      if truthyBool step.bypassed then false
      else if !step.isFilter then !muted && terminalSteps index muteName muted steps
      else if !step.touches index then terminalSteps index muteName muted steps
      else
        match step.names with
        | .scalar _ => false
        | .list names =>
            if muted then false
            else if !names.any (·.same (.str muteName)) then terminalSteps index muteName muted steps
            else names.getLast?.any (·.same (.str muteName)) && terminalSteps index muteName true steps

/-- A hard mute that nothing in the pipeline comes after. -/
def outputTerminallyMuted (numeral : String → Option ℚ) (config : Config) (view : GraphView) (index : ℤ)
    (muteName : String) (muteGainDb : ℚ) : Bool :=
  if !outputHardMutedAndWired numeral view index muteName muteGainDb then false
  else
    match config.pipeline with
    | none => false
    | some pipeline => terminalSteps index muteName false pipeline

section Semantics

/-- A step's channels: its list, either spelling of a single one, or all of them. -/
def Step.applies (step : Step) (channel : ℤ) : Bool :=
  match step.channels, step.channel with
  | .list channels, _ => channel ∈ channelSet channels
  | .scalar _, .int only => channel = only
  | .scalar (.int only), _ => channel = only
  | .scalar _, _ => true

/-- The channels that a mixer lets into another one. -/
def feeds (mapping : List MixerEntry) (channel : ℤ) : List ℤ :=
  mapping.flatMap fun entry =>
    if entry.dest = .int channel ∧ entry.mute ≠ .bool true then
      entry.sources.filterMap fun source => if source.mute = .bool true then none else source.channel.channel
    else []

/-- A step as CamillaDSP runs it: a bypassed one is skipped, one of any other kind may do anything. -/
def Config.stage (config : Config) : Option Step → Option (Stage ℤ String String)
  | none => some .stray
  | some step =>
      if step.bypassed = .bool true then none
      else if step.isFilter then some (.filters step.applies (namesTuple step.names))
      else if step.type ≠ .str "Mixer" then some .stray
      else
        match step.name.text.bind fun name => (config.mixers.lookup name).map (name, ·) with
        | none => some .stray
        | some (name, mapping) => some (.mixer name (feeds mapping))

def Config.stages (config : Config) : List (Stage ℤ String String) :=
  (config.pipeline.getD []).filterMap config.stage

-- A muted gain lets nothing through, and only dither makes a signal out of silence.
def Config.nature (config : Config) : Nature String where
  mutes name := (config.filters.lookup name).any fun spec => spec.type.text = some "Gain" ∧ spec.param "mute" = .bool true
  quiet name := (config.filters.lookup name).any (·.type.text ≠ some "Dither")

def Scalar.isStr : Scalar → Bool
  | .str _ => true
  | _ => false

/-- CamillaDSP runs no config where the mute of a gain is not a boolean or the filter of a step is not named by a string. -/
def Config.loads (config : Config) : Bool :=
  (config.filters.all fun (_, spec) =>
    spec.type.text ≠ some "Gain" ∨ spec.param "mute" ∈ [Scalar.bool true, .bool false, .null]) &&
  (config.pipeline.getD []).all fun step => step.all fun step => !step.isFilter ||
    match step.names with
    | .list names => names.all Scalar.isStr
    | .scalar _ => false

/-- Nothing comes out of the output, whatever goes in and whatever the filters do. -/
def Config.Silent (config : Config) (output : ℤ) : Prop :=
  config.loads = true → ∀ (Signal : Type) [Zero Signal] (meaning : Meaning ℤ String String Signal),
    meaning.Keeps config.nature config.stages → ∀ input, evaluate meaning config.stages input output = 0

/-- Whatever comes out of the output has been through the one filter, and then through the other. -/
def Config.Guarded (config : Config) (output : ℤ) (first second : String) : Prop :=
  config.loads = true → ∀ passed, Arrives config.stages.reverse passed output → List.Sublist [first, second] passed

/-- A gain mutes the output behind whatever is let into it: no mixer lets in a channel that is not muted so itself, no
dither and no step of another kind comes later. -/
def Config.muted (config : Config) (output : ℤ) : Bool := dead config.nature config.stages output

/-- The same for the two filters, in their order. -/
def Config.guarded (config : Config) (output : ℤ) (first second : String) : Bool :=
  (owed [first, second] config.stages output).all List.isEmpty

end Semantics

end Jts.ActiveSpeaker.Graph
