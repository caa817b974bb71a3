import Mathlib
import Jts.ActiveSpeaker.GraphTransfer
import Jts.Shared.Outcome

set_option autoImplicit false

namespace Jts.ActiveSpeaker.ProgramHeadroom

open GraphTransfer
open Shared.ChannelNetwork
open Shared.Outcome (bind_eq_ok)
open Shared.PythonJson

variable {C K : Type} [Field C] [Field K] [LinearOrder K]

-- The proof that a numeral carries has a name, so that a definition reads the same wherever it is compiled.
local instance two : Nat.AtLeastTwo 2 := ⟨le_rfl⟩

local instance ten : Nat.AtLeastTwo 10 := ⟨by decide⟩

local instance twenty : Nat.AtLeastTwo 20 := ⟨by decide⟩

def programHeadroomFilter : String := "active_baseline_headroom"

-- The Butterworth q as the emitter spells it.
def monotonicQMax : ℚ := 7071068 / 10000000

def evaluableHzMin : ℚ := 1

def evaluableHzMax : ℚ := 4999 / 10000 * responseSampleRateHz

def evaluableQMin : ℚ := 1 / 10000

def evaluableQMax : ℚ := 1000000

def isText (value : Json) (texts : List String) : Bool :=
  match value with
  | .str text => texts.contains text
  | _ => false

def isCut (params : Fields) : Bool :=
  match finiteFloat (get params "gain") with
  | some gain => gain ≤ 0
  | none => false

def inRange (value : Json) (low high : ℚ) : Bool :=
  match finiteFloat value with
  | some number => low ≤ number && number ≤ high
  | none => false

/-- No frequency leaves a filter above unity. -/
def unityBounded (spec : Json) : Bool :=
  match spec with
  | .dict spec =>
      match get spec "parameters" with
      | .dict params =>
          let kind := get spec "type"
          let shape := get params "type"
          if isText kind ["Delay", "Limiter"] then true
          else if isText kind ["Gain"] then
            isTrue (get params "mute") || (isCut params && (!notNull (get params "scale") || isText (get params "scale") ["dB", "decibel"]))
          else if !inRange (get params "freq") evaluableHzMin evaluableHzMax then false
          else if isText kind ["BiquadCombo"] then isText shape (comboHighpass.map Prod.fst)
          else if !isText kind ["Biquad"] || !inRange (get params "q") evaluableQMin evaluableQMax then false
          else if isText shape ["Notch", "Allpass", "Peaking"] then !isText shape ["Peaking"] || isCut params
          else inRange (get params "q") evaluableQMin monotonicQMax &&
            (isText shape ["Lowpass", "Highpass"] || (isText shape ["Lowshelf", "Highshelf"] && isCut params))
      | _ => false
  | _ => false

variable (spectrum : Spectrum C)

def names (step : Fields) : List String :=
  match get step "names" with
  | .list items => (items.filter notNull).map (text spectrum)
  | _ => []

def withoutHeadroom (step : Fields) : Fields :=
  ("names", .list (((names spectrum step).filter (· ≠ programHeadroomFilter)).map .str)) :: step

/-- The steps less the preference steps, and less the headroom gain unless it is charged. -/
def evaluatedSteps (charged preference mixed : Bool) : List Json → List Json
  | [] => []
  | .dict step :: steps =>
      if isText (get step "type") ["Mixer"] then .dict step :: evaluatedSteps charged false true steps
      else if preference then evaluatedSteps charged preference mixed steps
      else if !mixed && (names spectrum step).contains programHeadroomFilter then
        .dict (if charged then step else withoutHeadroom spectrum step) :: evaluatedSteps charged true mixed steps
      else .dict step :: evaluatedSteps charged preference mixed steps
  | step :: steps =>
      if preference then evaluatedSteps charged preference mixed steps
      else step :: evaluatedSteps charged preference mixed steps

def evaluatedPipeline (charged : Bool) : Json → Json
  | .list steps => .list (evaluatedSteps spectrum charged false false steps)
  | pipeline => pipeline

variable (magnitude : AbsoluteValue C K)

def gains (sources : List (ℕ × C)) : K := (sources.map fun source => magnitude source.2).sum

def sumsWithinUnity (mixer : Json) : Bool :=
  match mixer with
  | .dict mixer =>
      match integer (get (sub mixer "channels") "in") with
      | some width =>
          match mixerMapping spectrum mixer width.toNat with
          | .ok mapped => mapped.2.all fun entry => gains magnitude entry.2 ≤ 1
          | .error _ => false
      | none => false
  | _ => false

def stepWithinUnity (filters mixers : Fields) (step : Json) : Bool :=
  match step with
  | .dict step =>
      let name := textOr spectrum (get step "name") ""
      if isTrue (get step "bypassed") then false
      else if dynamicBass name then true
      else if isText (get step "type") ["Filter"] then
        ((names spectrum step).filter (!dynamicBass ·)).all fun name => unityBounded (get filters name)
      else isText (get step "type") ["Mixer"] && sumsWithinUnity spectrum magnitude (get mixers name)
  | _ => false

/-- Every filter is unity-bounded and no mixer output sums its sources above unity. -/
def neverAboveUnity (pipeline : Json) (filters mixers : Fields) : Bool :=
  match pipeline with
  | .list steps => steps.all (stepWithinUnity spectrum magnitude filters mixers)
  | _ => false

def withPipeline (graph : Fields) (pipeline : Json) : Fields := ("pipeline", pipeline) :: graph

/-- The program of every output: the worst case in phase over the capture channels. -/
def evaluatedProgram (graph : Fields) (pipeline : Json) : Except Fault (ℕ × (ℕ → K)) := do
  let playback ← channelCount (get (sub (sub graph "devices") "playback") "channels")
  let capture ← channelCount (get (sub (sub graph "devices") "capture") "channels")
  let transfers ← (List.range capture).mapM fun channel =>
    complexChannelTransfer spectrum (withPipeline graph pipeline) [(channel, 1)] (List.range playback) true true
  return (playback, fun output => (transfers.map fun transfer => magnitude (transfer output)).sum)

/-- The answer without an evaluation, at most 0 dB. -/
def fastPath (graph : Fields) (charged : Bool) : Bool :=
  neverAboveUnity spectrum magnitude (evaluatedPipeline spectrum charged (get graph "pipeline")) (sub graph "filters") (sub graph "mixers")

/-- Gains of at most 0 dB do not lift, and a delay only turns. -/
structure Lawful : Prop where
  cut : ∀ gain ≤ 0, magnitude (spectrum.amplitude gain) ≤ 1
  turn : ∀ seconds, magnitude (spectrum.turn seconds) = 1

def shaped (spec : Fields) : Bool := isText (get spec "type") ["Biquad", "BiquadCombo"]

/-- What is said of the evaluator: no biquad or crossover that is accepted is above unity. -/
def Bounded : Prop :=
  ∀ spec factor, shaped spec = true → unityBounded (.dict spec) = true → filterFactor spectrum spec = .ok factor → magnitude factor ≤ 1

/-- A channel that a mixer names in several entries is within unity over all of them. -/
def Gathered (mapping : List (ℕ × List (ℕ × C))) : Prop :=
  ∀ dest, 1 < mapping.countP (·.1 = dest) → gains magnitude (feeds mapping dest) ≤ 1

def isList : Json → Bool
  | .list _ => true
  | _ => false

/-- Names that are no list, a text or a mapping, spell accepted filters alone. -/
def Spelled (filters step : Fields) : Prop :=
  isList (get step "names") = false →
    ∀ names, stepNames spectrum true step = .ok names → ∀ name ∈ names, unityBounded (get filters name) = true

def Plain (filters mixers : Fields) : Json → Prop
  | .dict step =>
      dynamicBass (stepName spectrum step) = false →
        (isText (get step "type") ["Filter"] = true → Spelled spectrum filters step) ∧
          (isText (get step "type") ["Mixer"] = true → ∀ mixer width mapped,
            get mixers (textOr spectrum (get step "name") "") = .dict mixer → mixerMapping spectrum mixer width = .ok mapped →
              Gathered magnitude mapped.2)
  | _ => True

def PlainGraph (graph : Fields) (charged : Bool) : Prop :=
  ∀ steps, evaluatedPipeline spectrum charged (get graph "pipeline") = .list steps →
    ∀ step ∈ steps, Plain spectrum magnitude (sub graph "filters") (sub graph "mixers") step

variable {spectrum magnitude}

theorem isText_iff {value : Json} {texts : List String} : isText value texts = true ↔ ∃ text ∈ texts, value = .str text := by
  cases value with
  | str text => simp [isText]
  | null | bool value | int value | float value | list items | dict fields => simp [isText]

omit [Field C] in
theorem textOr_str {text fallback : String} (filled : text ≠ "") : textOr spectrum (.str text) fallback = text :=
  if_pos (decide_eq_true filled)

theorem isCut_iff {params : Fields} : isCut params = true ↔ ∃ gain ≤ 0, finiteFloat (get params "gain") = some gain := by
  rw [isCut]
  split <;> simp_all

variable [IsStrictOrderedRing K]

theorem linearGain_cut (lawful : Lawful spectrum magnitude) {params : Fields} {linear : C} (cut : isCut params = true)
    (scale : notNull (get params "scale") = false ∨ isText (get params "scale") ["dB", "decibel"] = true)
    (taken : linearGain spectrum params = .ok linear) : magnitude linear ≤ 1 := by
  obtain ⟨gain, low, read⟩ := isCut_iff.mp cut
  have decibels : textOr spectrum (get params "scale") "dB" = "dB" ∨ textOr spectrum (get params "scale") "dB" = "decibel" := by
    rcases scale with absent | named
    · cases held : get params "scale" with
      | null => exact .inl rfl
      | bool value | int value | float value | str value | list items | dict fields =>
          rw [held] at absent
          exact absurd absent nofun
    · obtain ⟨text, mem, same⟩ := isText_iff.mp named
      rw [same]
      simp only [List.mem_cons, List.not_mem_nil, or_false] at mem
      rcases mem with rfl | rfl
      · exact .inl (textOr_str (by decide))
      · exact .inr (textOr_str (by decide))
  rw [linearGain] at taken
  simp only [finite, read, Option.map_some, Option.getD_some, if_pos decibels, bind, Except.bind, pure, Except.pure] at taken
  obtain rfl := Except.ok.inj taken
  split
  · rw [magnitude.map_neg]
    exact lawful.cut gain low
  · exact lawful.cut gain low

theorem unityBounded_cases {value : Json} (accepted : unityBounded value = true) :
    ∃ spec params, value = .dict spec ∧ get spec "parameters" = .dict params ∧
      (isText (get spec "type") ["Delay", "Limiter"] = true ∨
        isText (get spec "type") ["Gain"] = true ∧ (isTrue (get params "mute") = true ∨
          isCut params = true ∧ (notNull (get params "scale") = false ∨ isText (get params "scale") ["dB", "decibel"] = true)) ∨
        shaped spec = true) := by
  cases value with
  | null | bool value | int value | float value | str value | list items => exact absurd accepted nofun
  | dict spec =>
      rw [unityBounded] at accepted
      split at accepted
      next params held =>
        refine ⟨spec, params, rfl, held, ?_⟩
        dsimp only at accepted
        split at accepted
        next plain => exact .inl plain
        split at accepted
        next gain => exact .inr (.inl ⟨gain, by simpa using accepted⟩)
        split at accepted
        · exact absurd accepted nofun
        split at accepted
        next combo =>
          obtain ⟨text, mem, same⟩ := isText_iff.mp combo
          exact .inr (.inr (isText_iff.mpr ⟨text, List.mem_cons_of_mem _ mem, same⟩))
        split at accepted
        · exact absurd accepted nofun
        next biquad =>
          have single : isText (get spec "type") ["Biquad"] = true := by simp_all
          obtain ⟨text, mem, same⟩ := isText_iff.mp single
          exact .inr (.inr (isText_iff.mpr ⟨text, List.mem_cons.mpr (.inl (List.mem_singleton.mp mem)), same⟩))
      · exact absurd accepted nofun

/-- The gain of a step is within unity and its filters are accepted. -/
structure Quiet (magnitude : AbsoluteValue C K) (records : Records C) : Prop where
  scale : magnitude records.scale ≤ 1
  biquads : ∀ spec ∈ records.biquads, shaped spec = true ∧ unityBounded (.dict spec) = true

omit [IsStrictOrderedRing K] in
theorem Quiet.append {records : Records C} (quiet : Quiet magnitude records) {spec : Fields} (shape : shaped spec = true)
    (accepted : unityBounded (.dict spec) = true) : Quiet magnitude { records with biquads := records.biquads ++ [spec] } where
  scale := quiet.scale
  biquads other mem := by
    rcases List.mem_append.mp mem with earlier | last
    · exact quiet.biquads other earlier
    · exact List.mem_singleton.mp last ▸ ⟨shape, accepted⟩

theorem filterRecord_of_kind {filters spec params : Fields} {name kind : String} {records : Records C}
    (found : get filters name = .dict spec) (held : get spec "parameters" = .dict params) (type : get spec "type" = .str kind)
    (modelled : kind ∈ modelledFilterTypes) (filled : kind ≠ "") :
    filterRecord spectrum filters true records name = recordOf spectrum true records spec params kind := by
  have said : textOr spectrum (get spec "type") "" = kind := by
    rw [type, textOr_str filled]
  simp only [filterRecord, found, mapping, bind, Except.bind, said, held, not_not.mpr modelled, if_false]

theorem map_eq_ok {α β : Type} {result : Except Fault α} {f : α → β} {value : β} (done : result.map f = .ok value) :
    ∃ first, result = .ok first ∧ f first = value := by
  cases result with
  | ok first => exact ⟨first, rfl, Except.ok.inj done⟩
  | error error => exact absurd done nofun

theorem filterRecord_quiet (lawful : Lawful spectrum magnitude) {filters : Fields} {name : String} {records records' : Records C}
    (accepted : unityBounded (get filters name) = true) (quiet : Quiet magnitude records)
    (taken : filterRecord spectrum filters true records name = .ok records') : Quiet magnitude records' := by
  obtain ⟨spec, params, found, held, kinds⟩ := unityBounded_cases accepted
  rw [found] at accepted
  rcases kinds with plain | ⟨gain, cut⟩ | shape
  · obtain ⟨kind, mem, type⟩ := isText_iff.mp plain
    simp only [List.mem_cons, List.not_mem_nil, or_false] at mem
    rcases mem with rfl | rfl
    · rw [filterRecord_of_kind found held type (by decide) (by decide)] at taken
      obtain ⟨delay, -, rfl⟩ := map_eq_ok taken
      exact ⟨quiet.scale, quiet.biquads⟩
    · rw [filterRecord_of_kind found held type (by decide) (by decide)] at taken
      exact Except.ok.inj taken ▸ quiet
  · obtain ⟨kind, mem, type⟩ := isText_iff.mp gain
    obtain rfl := List.mem_singleton.mp mem
    rw [filterRecord_of_kind found held type (by decide) (by decide), recordOf, if_neg (by decide), if_pos rfl] at taken
    split at taken
    · obtain rfl := Except.ok.inj taken
      exact ⟨magnitude.map_zero.trans_le zero_le_one, quiet.biquads⟩
    next loud =>
      obtain ⟨linear, read, rfl⟩ := map_eq_ok taken
      have low := cut.resolve_left loud
      refine ⟨?_, quiet.biquads⟩
      rw [magnitude.map_mul]
      exact mul_le_one₀ quiet.scale (magnitude.nonneg _) (linearGain_cut lawful low.1 low.2 read)
  · obtain ⟨kind, mem, type⟩ := isText_iff.mp shape
    simp only [List.mem_cons, List.not_mem_nil, or_false] at mem
    rcases mem with rfl | rfl
    all_goals
      rw [filterRecord_of_kind found held type (by decide) (by decide)] at taken
      obtain ⟨-, -, rfl⟩ := map_eq_ok taken
      exact quiet.append shape accepted

theorem filterRecords_quiet (lawful : Lawful spectrum magnitude) {filters : Fields} {names : List String}
    (accepted : ∀ name ∈ names, unityBounded (get filters name) = true) {before records : Records C} (quiet : Quiet magnitude before)
    (taken : names.foldlM (filterRecord spectrum filters true) before = .ok records) : Quiet magnitude records := by
  induction names generalizing before with
  | nil => exact Except.ok.inj taken ▸ quiet
  | cons name names ih =>
      rw [List.foldlM_cons, bind_eq_ok] at taken
      obtain ⟨next, first, rest⟩ := taken
      obtain ⟨head, tail⟩ := List.forall_mem_cons.mp accepted
      exact ih tail (filterRecord_quiet lawful head quiet first) rest

theorem chain_within (bounded : Bounded spectrum magnitude) {specs : List Fields}
    (accepted : ∀ spec ∈ specs, shaped spec = true ∧ unityBounded (.dict spec) = true) {before chain : C} (within : magnitude before ≤ 1)
    (taken : specs.foldlM (fun total spec => (filterFactor spectrum spec).map (total * ·)) before = .ok chain) : magnitude chain ≤ 1 := by
  induction specs generalizing before with
  | nil => exact Except.ok.inj taken ▸ within
  | cons spec specs ih =>
      rw [List.foldlM_cons, bind_eq_ok] at taken
      obtain ⟨next, first, rest⟩ := taken
      obtain ⟨factor, read, rfl⟩ := map_eq_ok first
      obtain ⟨⟨shape, accept⟩, tail⟩ := List.forall_mem_cons.mp accepted
      refine ih tail ?_ rest
      rw [magnitude.map_mul]
      exact mul_le_one₀ within (magnitude.nonneg _) (bounded spec factor shape accept read)

/-- A chain of accepted filters lifts nothing. -/
theorem filterTransfer_within (lawful : Lawful spectrum magnitude) (bounded : Bounded spectrum magnitude) {filters : Fields}
    {names : List String} (accepted : ∀ name ∈ names, unityBounded (get filters name) = true) {response : C}
    (taken : filterTransfer spectrum filters true names = .ok response) : magnitude response ≤ 1 := by
  rw [filterTransfer, bind_eq_ok] at taken
  obtain ⟨records, read, taken⟩ := taken
  rw [bind_eq_ok] at taken
  obtain ⟨chain, cascade, taken⟩ := taken
  obtain rfl := Except.ok.inj taken
  have empty : Quiet magnitude { biquads := [], scale := 1, delay := 0 } :=
    ⟨magnitude.map_one.le, fun spec mem => absurd mem List.not_mem_nil⟩
  have quiet := filterRecords_quiet lawful accepted empty read
  have within : magnitude (records.scale * chain) ≤ 1 := by
    rw [magnitude.map_mul]
    exact mul_le_one₀ quiet.scale (magnitude.nonneg _) (chain_within bounded quiet.biquads magnitude.map_one.le cascade)
  split
  · exact within
  · rw [magnitude.map_mul, lawful.turn, mul_one]
    exact within

theorem gains_feeds_le {mapping : List (ℕ × List (ℕ × C))} {dest : ℕ} (each : ∀ entry ∈ mapping, gains magnitude entry.2 ≤ 1)
    (once : mapping.countP (·.1 = dest) ≤ 1) : gains magnitude (feeds mapping dest) ≤ 1 := by
  induction mapping with
  | nil => exact zero_le_one
  | cons entry mapping ih =>
      obtain ⟨head, tail⟩ := List.forall_mem_cons.mp each
      by_cases named : entry.1 = dest
      · have none : mapping.countP (·.1 = dest) = 0 := by
          rw [List.countP_cons, if_pos (decide_eq_true named)] at once
          omega
        have silent : feeds mapping dest = [] := by
          refine List.flatMap_eq_nil_iff.mpr fun other mem => if_neg fun same => ?_
          exact List.countP_eq_zero.mp none other mem (decide_eq_true same)
        rw [feeds, List.flatMap_cons, if_pos named, ← feeds, silent, List.append_nil]
        exact head
      · rw [List.countP_cons, if_neg (by simpa using named), Nat.add_zero] at once
        rw [feeds, List.flatMap_cons, if_neg named, List.nil_append]
        exact ih tail once

theorem mix_contracts {mapping : List (ℕ × List (ℕ × C))} (each : ∀ entry ∈ mapping, gains magnitude entry.2 ≤ 1)
    (gathered : Gathered magnitude mapping) : (Stage.mix mapping).Contracts magnitude := by
  intro channel
  rcases Nat.lt_or_ge 1 (mapping.countP (·.1 = channel)) with several | once
  · exact gathered channel several
  · exact gains_feeds_le each once

theorem channelCount_eq {value : Json} {count : ℕ} (counted : channelCount value = .ok count) : integer value = some (count : ℤ) := by
  rw [channelCount] at counted
  split at counted
  next whole same =>
    split at counted
    next positive =>
      obtain rfl := Except.ok.inj counted
      rw [same, Int.toNat_of_nonneg (by omega)]
    next => exact absurd counted nofun
  next => exact absurd counted nofun

theorem mapping_eq {value : Json} {fields : Fields} (mapped : mapping value = .ok fields) : value = .dict fields := by
  cases value with
  | dict inner => exact congrArg Json.dict (Except.ok.inj mapped)
  | null | bool value | int value | float value | str value | list items => exact absurd mapped nofun

theorem mixerMapping_width {mixer : Fields} {width : ℕ} {mapped : ℕ × List (ℕ × List (ℕ × C))}
    (read : mixerMapping spectrum mixer width = .ok mapped) : integer (get (sub mixer "channels") "in") = some (width : ℤ) := by
  rw [mixerMapping, bind_eq_ok] at read
  obtain ⟨channels, held, read⟩ := read
  rw [bind_eq_ok] at read
  obtain ⟨channelsIn, counted, read⟩ := read
  rw [bind_eq_ok] at read
  obtain ⟨channelsOut, -, read⟩ := read
  rw [sub, mapping_eq held]
  dsimp only
  by_cases same : channelsIn = width
  · exact same ▸ channelCount_eq counted
  · rw [if_pos same] at read
    exact absurd read nofun

theorem mixer_contracts {mixer : Fields} {width : ℕ} {mapped : ℕ × List (ℕ × List (ℕ × C))}
    (unity : sumsWithinUnity spectrum magnitude (.dict mixer) = true) (read : mixerMapping spectrum mixer width = .ok mapped)
    (gathered : Gathered magnitude mapped.2) : (Stage.mix mapped.2).Contracts magnitude := by
  rw [sumsWithinUnity, mixerMapping_width read] at unity
  dsimp only at unity
  rw [Int.toNat_natCast, read] at unity
  exact mix_contracts (fun entry mem => of_decide_eq_true (List.all_eq_true.mp unity entry mem)) gathered

omit [Field C] in
theorem type_text {step : Fields} {kind : String} (filled : kind ≠ "") (type : isText (get step "type") [kind] = true) :
    textOr spectrum (get step "type") "" = kind := by
  obtain ⟨text, mem, same⟩ := isText_iff.mp type
  rw [same, List.mem_singleton.mp mem, textOr_str filled]

omit [Field C] in
theorem stepNames_list {step : Fields} {read : List String} (listed : isList (get step "names") = true)
    (taken : stepNames spectrum true step = .ok read) : read = (names spectrum step).filter (!dynamicBass ·) := by
  rw [stepNames, bind_eq_ok] at taken
  obtain ⟨raw, iterate, taken⟩ := taken
  obtain rfl := Except.ok.inj taken
  cases held : get step "names" with
  | list items =>
      rw [names, held]
      rw [held, iterated] at iterate
      cases items with
      | nil => 
          obtain rfl := Except.ok.inj iterate
          rfl
      | cons item items =>
          obtain rfl := Except.ok.inj iterate
          rfl
  | null | bool value | int value | float value | str value | dict fields =>
      rw [held] at listed
      exact absurd listed nofun

theorem filterOperations_contract (lawful : Lawful spectrum magnitude) (bounded : Bounded spectrum magnitude) {config step : Fields}
    {width : ℕ} {operations : List (Stage C)}
    (accepted : ((names spectrum step).filter (!dynamicBass ·)).all (fun name => unityBounded (get (sub config "filters") name)) = true)
    (spelled : Spelled spectrum (sub config "filters") step)
    (taken : filterOperations spectrum config true true width step = .ok operations) :
    ∀ stage ∈ operations, stage.Contracts magnitude := by
  have idle : ∀ stage ∈ ([] : List (Stage C)), stage.Contracts magnitude := fun stage mem => absurd mem List.not_mem_nil
  rw [filterOperations, bind_eq_ok] at taken
  obtain ⟨read, named, taken⟩ := taken
  split at taken
  · exact Except.ok.inj taken ▸ idle
  rw [bind_eq_ok] at taken
  obtain ⟨channels, -, taken⟩ := taken
  split at taken
  · exact Except.ok.inj taken ▸ idle
  rw [bind_eq_ok] at taken
  obtain ⟨response, transfer, taken⟩ := taken
  obtain rfl := Except.ok.inj taken
  have quiet : ∀ name ∈ read, unityBounded (get (sub config "filters") name) = true := by
    cases listed : isList (get step "names") with
    | true => exact stepNames_list listed named ▸ List.all_eq_true.mp accepted
    | false => exact spelled listed read named
  intro stage mem
  obtain rfl := List.mem_singleton.mp mem
  exact filterTransfer_within lawful bounded quiet transfer

theorem mixerOperations_contract {config step : Fields} {width : ℕ} {operations : List (Stage C) × ℕ}
    (unity : sumsWithinUnity spectrum magnitude (get (sub config "mixers") (textOr spectrum (get step "name") "")) = true)
    (gathered : ∀ mixer width mapped, get (sub config "mixers") (textOr spectrum (get step "name") "") = .dict mixer →
      mixerMapping spectrum mixer width = .ok mapped → Gathered magnitude mapped.2)
    (taken : mixerOperations spectrum config width step = .ok operations) : ∀ stage ∈ operations.1, stage.Contracts magnitude := by
  rw [mixerOperations, bind_eq_ok] at taken
  obtain ⟨mixer, found, taken⟩ := taken
  have held := mapping_eq found
  rw [bind_eq_ok] at taken
  obtain ⟨mapped, read, taken⟩ := taken
  obtain rfl := Except.ok.inj taken
  intro stage mem
  obtain rfl := List.mem_singleton.mp mem
  exact mixer_contracts (held ▸ unity) read (gathered mixer width mapped held read)

omit [Field C] in
theorem dynamicBass_name {step : Fields} (dynamic : dynamicBass (textOr spectrum (get step "name") "") = true) :
    dynamicBass (stepName spectrum step) = true := by
  rw [textOr, Shared.PythonJson.get.eq_def] at dynamic
  rw [stepName]
  cases held : field step "name" with
  | none =>
      rw [held] at dynamic
      exact dynamic
  | some name =>
      rw [held] at dynamic
      dsimp only [Option.getD_some, Option.map_some] at dynamic ⊢
      split at dynamic
      · exact dynamic
      · exact absurd dynamic (by decide)

theorem stepOperations_contract (lawful : Lawful spectrum magnitude) (bounded : Bounded spectrum magnitude) {config : Fields} {width : ℕ}
    {step : Json} {operations : List (Stage C) × ℕ}
    (unity : stepWithinUnity spectrum magnitude (sub config "filters") (sub config "mixers") step = true)
    (plain : Plain spectrum magnitude (sub config "filters") (sub config "mixers") step)
    (taken : stepOperations spectrum config true true width step = .ok operations) :
    ∀ stage ∈ operations.1, stage.Contracts magnitude := by
  rw [stepOperations, bind_eq_ok] at taken
  obtain ⟨fields, mapped, taken⟩ := taken
  obtain rfl := mapping_eq mapped
  rw [stepWithinUnity] at unity
  split at taken
  · exact absurd taken nofun
  next running =>
    rw [if_neg running] at unity
    split at taken
    · obtain rfl := Except.ok.inj taken
      exact fun stage mem => absurd mem List.not_mem_nil
    next active =>
      rw [Bool.true_and] at active
      obtain ⟨spelled, gathered⟩ := plain (Bool.eq_false_of_not_eq_true active)
      rw [if_neg fun dynamic => active (dynamicBass_name dynamic)] at unity
      split at unity
      next filter =>
        rw [if_pos (type_text (by decide) filter)] at taken
        obtain ⟨stages, read, rfl⟩ := map_eq_ok taken
        exact filterOperations_contract lawful bounded unity (spelled filter) read
      next =>
        obtain ⟨mixer, sums⟩ := Bool.and_eq_true_iff.mp unity
        have kind : textOr spectrum (get fields "type") "" = "Mixer" := type_text (by decide) mixer
        rw [kind, if_neg (by decide), if_pos rfl] at taken
        exact mixerOperations_contract sums (gathered mixer) taken

theorem stepsOperations_contract (lawful : Lawful spectrum magnitude) (bounded : Bounded spectrum magnitude) {config : Fields}
    {steps : List Json} {width : ℕ} {operations : List (Stage C) × ℕ}
    (unity : ∀ step ∈ steps, stepWithinUnity spectrum magnitude (sub config "filters") (sub config "mixers") step = true)
    (plain : ∀ step ∈ steps, Plain spectrum magnitude (sub config "filters") (sub config "mixers") step)
    (taken : stepsOperations spectrum config true true width steps = .ok operations) :
    ∀ stage ∈ operations.1, stage.Contracts magnitude := by
  induction steps generalizing width operations with
  | nil =>
      obtain rfl := Except.ok.inj taken
      exact fun stage mem => absurd mem List.not_mem_nil
  | cons step steps ih =>
      rw [stepsOperations, bind_eq_ok] at taken
      obtain ⟨first, one, taken⟩ := taken
      rw [bind_eq_ok] at taken
      obtain ⟨rest, later, taken⟩ := taken
      obtain rfl := Except.ok.inj taken
      obtain ⟨headUnity, tailUnity⟩ := List.forall_mem_cons.mp unity
      obtain ⟨headPlain, tailPlain⟩ := List.forall_mem_cons.mp plain
      intro stage mem
      rcases List.mem_append.mp mem with early | late
      · exact stepOperations_contract lawful bounded headUnity headPlain one stage early
      · exact ih tailUnity tailPlain later stage late

theorem sub_mapping {fields inner : Fields} {key : String} (held : get fields key = .dict inner) : sub fields key = inner := by
  rw [sub, held]

theorem get_withPipeline {graph : Fields} {pipeline : Json} {key : String} (other : key ≠ "pipeline") :
    get (withPipeline graph pipeline) key = get graph key := by
  rw [Shared.PythonJson.get.eq_def, field, withPipeline, List.find?_cons_of_neg (by simpa using other.symm)]
  rfl

theorem sub_withPipeline {graph : Fields} {pipeline : Json} {key : String} (other : key ≠ "pipeline") :
    sub (withPipeline graph pipeline) key = sub graph key := by
  rw [sub, get_withPipeline other, sub]

/-- An evaluation of one capture channel runs the stages of the pipeline on its impulse. -/
theorem transfer_of_channel {config : Fields} {channel : ℕ} {outputs : List ℕ} {transfer : ℕ → C}
    (taken : complexChannelTransfer spectrum config [(channel, 1)] outputs true true = .ok transfer) :
    ∃ capture operations, channelCount (get (sub (sub config "devices") "capture") "channels") = .ok capture ∧
      pipelineOperations spectrum config capture true true = .ok operations ∧ transfer = run (Pi.single channel 1) operations.1 := by
  rw [complexChannelTransfer, bind_eq_ok] at taken
  obtain ⟨devices, found, taken⟩ := taken
  by_cases rate : integer (get devices "samplerate") = some (responseSampleRateHz : ℤ)
  · rw [if_neg (not_not.mpr rate), bind_eq_ok] at taken
    obtain ⟨capture, side, taken⟩ := taken
    rw [bind_eq_ok] at taken
    obtain ⟨count, counted, taken⟩ := taken
    rw [if_neg (by simp), bind_eq_ok] at taken
    obtain ⟨spectra, driven, taken⟩ := taken
    rw [bind_eq_ok] at taken
    obtain ⟨operations, walked, taken⟩ := taken
    split at taken
    · exact absurd taken nofun
    obtain rfl := Except.ok.inj taken
    refine ⟨count, operations, ?_, walked, ?_⟩
    · rw [sub_mapping (mapping_eq found), sub_mapping (mapping_eq side)]
      exact counted
    · rw [List.foldlM_cons, bind_eq_ok] at driven
      obtain ⟨one, weigh, rest⟩ := driven
      obtain rfl := Except.ok.inj rest
      rw [weighted] at weigh
      split at weigh
      · obtain rfl := Except.ok.inj weigh
        rfl
      · exact absurd weigh nofun
  · rw [if_pos rate] at taken
    exact absurd taken nofun

theorem mapM_eq_map {α β : Type} {f : α → Except Fault β} {g : α → β} {items : List α} {values : List β}
    (taken : items.mapM f = .ok values) (same : ∀ item ∈ items, ∀ value, f item = .ok value → value = g item) :
    values = items.map g := by
  induction items generalizing values with
  | nil => exact (Except.ok.inj taken).symm
  | cons item items ih =>
      rw [List.mapM_cons, bind_eq_ok] at taken
      obtain ⟨value, one, taken⟩ := taken
      rw [bind_eq_ok] at taken
      obtain ⟨rest, later, taken⟩ := taken
      obtain rfl := Except.ok.inj taken
      obtain ⟨head, tail⟩ := List.forall_mem_cons.mp same
      rw [List.map_cons, head value one, ih later tail]

theorem mapM_head {α β : Type} {f : α → Except Fault β} {item : α} {items : List α} {values : List β}
    (taken : (item :: items).mapM f = .ok values) : ∃ value, f item = .ok value := by
  rw [List.mapM_cons, bind_eq_ok] at taken
  obtain ⟨value, one, -⟩ := taken
  exact ⟨value, one⟩

theorem channelCount_pos {value : Json} {count : ℕ} (counted : channelCount value = .ok count) : 0 < count := by
  rw [channelCount] at counted
  split at counted
  · split at counted
    next positive =>
      obtain rfl := Except.ok.inj counted
      omega
    next => exact absurd counted nofun
  · exact absurd counted nofun

omit [IsStrictOrderedRing K] in
theorem program_eq {graph : Fields} {pipeline : Json} {program : ℕ × (ℕ → K)}
    (taken : evaluatedProgram spectrum magnitude graph pipeline = .ok program) :
    ∃ capture operations, pipelineOperations spectrum (withPipeline graph pipeline) capture true true = .ok operations ∧
      ∀ output, program.2 output = ∑ channel ∈ Finset.range capture, magnitude (run (Pi.single channel 1) operations.1 output) := by
  rw [evaluatedProgram, bind_eq_ok] at taken
  obtain ⟨playback, -, taken⟩ := taken
  rw [bind_eq_ok] at taken
  obtain ⟨capture, counted, taken⟩ := taken
  rw [bind_eq_ok] at taken
  obtain ⟨transfers, driven, taken⟩ := taken
  obtain rfl := Except.ok.inj taken
  have each {channel : ℕ} {transfer : ℕ → C}
      (done : complexChannelTransfer spectrum (withPipeline graph pipeline) [(channel, 1)] (List.range playback) true true = .ok transfer) :
      ∃ operations, pipelineOperations spectrum (withPipeline graph pipeline) capture true true = .ok operations ∧
        transfer = run (Pi.single channel 1) operations.1 := by
    obtain ⟨capture', operations, counted', walked, same⟩ := transfer_of_channel done
    rw [sub_withPipeline (by decide)] at counted'
    obtain rfl := Except.ok.inj (counted.symm.trans counted')
    exact ⟨operations, walked, same⟩
  obtain ⟨earlier, last⟩ := Nat.exists_eq_succ_of_ne_zero (channelCount_pos counted).ne'
  have first := driven
  rw [last, List.range_succ_eq_map] at first
  obtain ⟨transfer, done⟩ := mapM_head first
  obtain ⟨operations, walked, -⟩ := each done
  have transfers_eq : transfers = (List.range capture).map fun channel => run (Pi.single channel 1) operations.1 := by
    refine mapM_eq_map driven fun channel _ transfer done => ?_
    obtain ⟨operations', walked', same⟩ := each done
    obtain rfl := Except.ok.inj (walked.symm.trans walked')
    exact same
  refine ⟨capture, operations, walked, fun output => ?_⟩
  rw [transfers_eq]
  dsimp only
  rw [List.map_map]
  rfl

/-- When the fast path answers that no step lifts any frequency, the evaluated program is within unity at every output, of a
graph whose mixers gather each channel within unity and whose names are lists of names. -/
theorem fast_path_agrees_with_evaluation (spectrum : Spectrum C) (magnitude : AbsoluteValue C K) (lawful : Lawful spectrum magnitude)
    (bounded : Bounded spectrum magnitude) (graph : Fields) (charged : Bool) (fast : fastPath spectrum magnitude graph charged = true)
    (plain : PlainGraph spectrum magnitude graph charged) (program : ℕ × (ℕ → K))
    (evaluated : evaluatedProgram spectrum magnitude graph (evaluatedPipeline spectrum charged (get graph "pipeline")) = .ok program) :
    ∀ output < program.1, program.2 output ≤ 1 := by
  intro output _
  obtain ⟨capture, operations, walked, same⟩ := program_eq evaluated
  rw [same]
  rw [fastPath] at fast
  cases held : evaluatedPipeline spectrum charged (get graph "pipeline") with
  | list steps =>
      rw [held] at fast walked
      have contracts : ∀ stage ∈ operations.1, stage.Contracts magnitude := by
        refine stepsOperations_contract lawful bounded ?_ ?_ walked
        · rw [sub_withPipeline (by decide), sub_withPipeline (by decide)]
          exact List.all_eq_true.mp fast
        · rw [sub_withPipeline (by decide), sub_withPipeline (by decide)]
          exact plain steps held
      exact run_within contracts (impulse_within capture) output
  | null | bool value | int value | float value | str value | dict fields =>
      rw [held] at fast
      exact absurd fast nofun

section Complex

variable (freq : ℝ) (biquad : String → ℚ → ℚ → PyFloat → ℂ) (crossover butterworth : ℚ → ℕ → Bool → ℂ) (str : Json → String)
  (floatOfStr : String → Option PyFloat)

/-- The transfer of the source, at one frequency, around whatever its filters respond with. -/
noncomputable def complexSpectrum : Spectrum ℂ where
  amplitude gain := ((10 : ℝ) ^ ((gain : ℝ) / 20) : ℝ)
  turn seconds := Complex.exp ((-2 * Real.pi * freq * seconds : ℝ) * Complex.I)
  biquad := biquad
  crossover := crossover
  butterworth := butterworth
  str := str
  floatOfStr := floatOfStr

theorem complexSpectrum_lawful :
    Lawful (complexSpectrum freq biquad crossover butterworth str floatOfStr) (NormedField.toAbsoluteValue ℂ) where
  cut gain low := by
    have power : (10 : ℝ) ^ ((gain : ℝ) / 20) ≤ 1 := by
      refine Real.rpow_le_one_of_one_le_of_nonpos (by norm_num) ?_
      have low' : (gain : ℝ) ≤ 0 := by exact_mod_cast low
      linarith
    show ‖(((10 : ℝ) ^ ((gain : ℝ) / 20) : ℝ) : ℂ)‖ ≤ 1
    rw [Complex.norm_real, Real.norm_of_nonneg (Real.rpow_nonneg (by norm_num) _)]
    exact power
  turn seconds := Complex.norm_exp_ofReal_mul_I _

end Complex

/-- A spectrum of whole twenties of dB, in which every filter is flat. -/
def flat : Spectrum ℚ where
  amplitude gain := 10 ^ ⌊gain / 20⌋
  turn _ := 1
  biquad _ _ _ _ := 1
  crossover _ _ _ := 1
  butterworth _ _ _ := 1
  str _ := "None"
  floatOfStr _ := none

theorem flat_lawful : Lawful flat AbsoluteValue.abs where
  cut gain low := by
    have whole : ⌊gain / 20⌋ ≤ 0 := by
      have quotient : (⌊gain / 20⌋ : ℚ) ≤ gain / 20 := Int.floor_le _
      have bound : (⌊gain / 20⌋ : ℚ) ≤ ((0 : ℤ) : ℚ) := by
        push_cast
        linarith
      exact Int.cast_le.mp bound
    show |(10 : ℚ) ^ ⌊gain / 20⌋| ≤ 1
    rw [abs_of_pos (zpow_pos (by norm_num) _)]
    exact zpow_le_one_of_nonpos₀ (by norm_num) whole
  turn _ := abs_one

theorem flat_factor {spec : Fields} {factor : ℚ} (taken : filterFactor flat spec = .ok factor) : factor = 1 := by
  rw [filterFactor, bind_eq_ok] at taken
  obtain ⟨params, -, taken⟩ := taken
  rw [bind_eq_ok] at taken
  obtain ⟨freq, -, taken⟩ := taken
  split at taken
  · rw [bind_eq_ok] at taken
    obtain ⟨order, -, taken⟩ := taken
    obtain rfl := Except.ok.inj taken
    exact ite_self _
  rw [bind_eq_ok] at taken
  obtain ⟨q, -, taken⟩ := taken
  split at taken
  · obtain rfl := Except.ok.inj taken
    show (2 : ℚ) * 1 - 1 = 1
    norm_num
  · rw [bind_eq_ok] at taken
    obtain ⟨gain, -, taken⟩ := taken
    exact (Except.ok.inj taken).symm

theorem flat_bounded : Bounded flat AbsoluteValue.abs := by
  intro spec factor _ _ taken
  rw [flat_factor taken]
  exact abs_one.le

def source (channel : ℤ) (gain : ℤ) : Json := .dict [("channel", .int channel), ("gain", .int gain)]

def entryOf (dest : ℤ) (sources : List Json) : Json := .dict [("dest", .int dest), ("sources", .list sources)]

def graphOf (channels : ℤ) (filters mixers : Fields) (pipeline : List Json) : Fields :=
  [("devices", .dict [("samplerate", .int 48000), ("capture", .dict [("channels", .int channels)]),
      ("playback", .dict [("channels", .int channels)])]),
    ("filters", .dict filters), ("mixers", .dict mixers), ("pipeline", .list pipeline)]

def mixerStep : Json := .dict [("type", .str "Mixer"), ("name", .str "split")]

def mixerOf (channels : ℤ) (mapping : List Json) : Json :=
  .dict [("channels", .dict [("in", .int channels), ("out", .int channels)]), ("mapping", .list mapping)]

/-- A mixer whose only channel has two entries, each at 0 dB. -/
def doubled : Fields := graphOf 1 [] [("split", mixerOf 1 [entryOf 0 [source 0 0], entryOf 0 [source 0 0]])] [mixerStep]

/-- A filter step whose names are a text of one letter, which names a boost. -/
def lettered : Fields :=
  graphOf 1 [("b", .dict [("type", .str "Gain"), ("parameters", .dict [("gain", .int 20)])])] []
    [.dict [("type", .str "Filter"), ("names", .str "b")]]

def gainStep : Json := .dict [("type", .str "Filter"), ("names", .list [.str "cut"])]

/-- A cut on both channels, ahead of a mixer that adds them up. -/
def summed : Fields :=
  graphOf 2 [("cut", .dict [("type", .str "Gain"), ("parameters", .dict [("gain", .int (-20))])])]
    [("split", mixerOf 2 [entryOf 0 [source 0 (-20), source 1 (-20)], entryOf 1 [source 1 0]])] [gainStep, mixerStep]

def evaluatedFlat (graph : Fields) : Except Fault (ℕ × (ℕ → ℚ)) :=
  evaluatedProgram flat AbsoluteValue.abs graph (evaluatedPipeline flat true (get graph "pipeline"))

def heard (graph : Fields) (output : ℕ) : Option (ℕ × ℚ) := (evaluatedFlat graph).toOption.map fun program => (program.1, program.2 output)

theorem evaluatedFlat_of_heard {graph : Fields} {output : ℕ} {level : ℕ × ℚ} (loud : heard graph output = some level) :
    ∃ program, evaluatedFlat graph = .ok program ∧ (program.1, program.2 output) = level := by
  rw [heard] at loud
  cases evaluated : evaluatedFlat graph with
  | ok program =>
      rw [evaluated] at loud
      exact ⟨program, rfl, Option.some.inj loud⟩
  | error fault =>
      rw [evaluated] at loud
      exact absurd loud nofun

def summedMixer : Fields :=
  [("channels", .dict [("in", .int 2), ("out", .int 2)]),
    ("mapping", .list [entryOf 0 [source 0 (-20), source 1 (-20)], entryOf 1 [source 1 0]])]

theorem summedMixer_mapping : (mixerMapping flat summedMixer 2).toOption = some (2, [(0, [(0, 1 / 10), (1, 1 / 10)]), (1, [(1, 1)])]) := by
  decide +kernel

theorem summed_plain : PlainGraph flat AbsoluteValue.abs summed true := by
  intro steps held
  obtain rfl : [gainStep, mixerStep] = steps := Json.list.inj held
  intro step mem
  simp only [List.mem_cons, List.not_mem_nil, or_false] at mem
  rcases mem with rfl | rfl
  · exact fun _ => ⟨fun _ text => absurd text (by decide), fun mixer => absurd mixer (by decide)⟩
  · refine fun _ => ⟨fun filter => absurd filter (by decide), fun _ mixer width mapped found read => ?_⟩
    obtain rfl : summedMixer = mixer := Json.dict.inj found
    obtain rfl : 2 = width := Int.natCast_inj.mp (Option.some.inj (mixerMapping_width read))
    have listed := summedMixer_mapping
    rw [read] at listed
    obtain rfl := Option.some.inj listed
    intro dest several
    simp only [List.countP_cons, List.countP_nil] at several
    split at several <;> split at several <;> simp_all

theorem a_cut_and_a_split_stay_within_unity :
    ∃ program, evaluatedFlat summed = .ok program ∧ ∀ output < program.1, program.2 output ≤ 1 := by
  obtain ⟨program, evaluated, -⟩ := evaluatedFlat_of_heard (show heard summed 0 = some (2, 1 / 50) by decide +kernel)
  exact ⟨program, evaluated,
    fast_path_agrees_with_evaluation flat AbsoluteValue.abs flat_lawful flat_bounded summed true (by decide +kernel) summed_plain program evaluated⟩

-- Two entries of one channel, and names that are a text.
theorem what_the_fast_path_misses :
    (¬∀ graph charged program, fastPath flat AbsoluteValue.abs graph charged = true →
      evaluatedProgram flat AbsoluteValue.abs graph (evaluatedPipeline flat charged (get graph "pipeline")) = .ok program →
        ∀ output < program.1, program.2 output ≤ 1) ∧
      fastPath flat AbsoluteValue.abs doubled true = true ∧ heard doubled 0 = some (1, 2) ∧
      fastPath flat AbsoluteValue.abs lettered true = true ∧ heard lettered 0 = some (1, 10) := by
  have fast : fastPath flat AbsoluteValue.abs doubled true = true := by decide +kernel
  have loud : heard doubled 0 = some (1, 2) := by decide +kernel
  refine ⟨fun agrees => ?_, fast, loud, by decide +kernel, by decide +kernel⟩
  obtain ⟨program, evaluated, value⟩ := evaluatedFlat_of_heard loud
  obtain ⟨outputs, level⟩ := Prod.mk.inj value
  have within := agrees doubled true program fast evaluated 0 (by omega)
  rw [level] at within
  norm_num at within

end Jts.ActiveSpeaker.ProgramHeadroom
