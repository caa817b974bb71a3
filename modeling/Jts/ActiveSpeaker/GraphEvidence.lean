import Jts.ActiveSpeaker.GraphView

set_option autoImplicit false

namespace Jts.ActiveSpeaker.Graph

open Shared.SignalGraph

def startupMuteGain : ℚ := -120

def startupLimiterClipLimitDb : ℚ := -12

def outputCommissionMuteName (index : ℤ) : String := s!"as_out{index}_commission_mute"

def tweeterLimiterName : String := "as_tweeter_startup_limiter"

def protectiveTweeterHpName : String := "as_tweeter_protective_hp"

section Evidence

variable (numeral : String → Option ℚ)

def highpassMatches (view : GraphView) (name : String) (frequency : ℚ) (order : ℤ) : Bool :=
  filterParamMatches numeral view name "BiquadCombo"
    [("type", .equal (.str "LinkwitzRileyHighpass")), ("freq", .near frequency), ("order", .equal (.int order))]

def limiterMatches (view : GraphView) (name : String) : Bool :=
  filterParamMatches numeral view name "Limiter" [("clip_limit", .near startupLimiterClipLimitDb)]

def tweeterProtectedWhileAudible (view : GraphView) (audibleTweeter : Finset ℤ) (highpassName : String)
    (protectiveHpHz : Option ℚ) (highpassOrder : ℤ) : Bool :=
  if audibleTweeter = ∅ then true
  else
    protectiveHpHz.any (highpassMatches numeral view highpassName · highpassOrder) &&
      limiterMatches numeral view tweeterLimiterName &&
      pipelineContainsChain view audibleTweeter [highpassName, tweeterLimiterName]

def startupHeadroomPresent (view : GraphView) (expectedHeadroomDb : ℚ) : Bool :=
  filterParamMatches numeral view "active_startup_headroom" "Gain" [("gain", .near (-expectedHeadroomDb))]

def noBypassedPipelineStep : Option Config → Bool
  | none => false
  | some config => config.pipeline.any fun pipeline => !pipeline.any fun step => step.any (truthyBool ·.bypassed)

/-- What a proof is asked about: the declared outputs, and the intended high-pass. -/
structure Intended where
  audible : Finset ℤ
  muted : Finset ℤ
  tweeters : Finset ℤ
  protectiveHpHz : Option ℚ
  highpassName : String
  highpassOrder : ℤ
  expectedHeadroomDb : ℚ

def Intended.highpass (intended : Intended) : String :=
  if intended.highpassName = "" then protectiveTweeterHpName else intended.highpassName

def outputMasked (view : GraphView) (intended : Intended) (index : ℤ) : Bool :=
  if index ∈ intended.audible then outputUnmutedAndWired numeral view index (outputCommissionMuteName index)
  else outputHardMutedAndWired numeral view index (outputCommissionMuteName index) startupMuteGain

structure Checks where
  runningConfigParsed : Bool
  noBypassedPipelineStep : Bool
  audibleMaskCorrect : Bool
  tweeterProtectedWhileAudible : Bool
  startupHeadroom : Bool
deriving DecidableEq

def Checks.passed (checks : Checks) : Bool :=
  checks.runningConfigParsed && checks.noBypassedPipelineStep && checks.audibleMaskCorrect &&
    checks.tweeterProtectedWhileAudible && checks.startupHeadroom

-- The reader of the text gives no config where it finds no mapping.
def readBack (load : String → Option Config) : Option String → Option Config
  | none => none
  | some text => if text.toList.all Char.isWhitespace then none else load text

def runningCommissionEvidence (load : String → Option Config) (running : Option String) (intended : Intended) : Checks :=
  let config := readBack load running
  let view := viewFromCamillaDict config
  let declared := intended.audible ∪ intended.muted
  { runningConfigParsed := config.isSome
    noBypassedPipelineStep := noBypassedPipelineStep config
    audibleMaskCorrect := config.isSome && declared ≠ ∅ && intended.audible ⊆ declared &&
      ∀ index ∈ declared, outputMasked numeral view intended index
    tweeterProtectedWhileAudible := tweeterProtectedWhileAudible numeral view (intended.audible ∩ intended.tweeters)
      intended.highpass intended.protectiveHpHz intended.highpassOrder
    startupHeadroom := startupHeadroomPresent numeral view intended.expectedHeadroomDb }

end Evidence

section Soundness

variable {numeral : String → Option ℚ} {config : Config}

theorem stage_mixer {step : Option Step} {name : String} {feed : ℤ → List ℤ}
    (mixer : config.stage step = some (.mixer name feed)) :
    ∃ mapping, config.mixers.lookup name = some mapping ∧ feed = feeds mapping := by
  cases step with
  | none => simp [Config.stage] at mixer
  | some step =>
    simp only [Config.stage] at mixer
    split_ifs at mixer
    · simp at mixer
    · simp at mixer
    · split at mixer
      · simp at mixer
      · rename_i other mapping found
        obtain ⟨rfl, rfl⟩ : other = name ∧ feeds mapping = feed := by simpa using mixer
        obtain ⟨text, -, found⟩ := Option.bind_eq_some_iff.mp found
        obtain ⟨entries, defined, same⟩ := Option.map_eq_some_iff.mp found
        obtain ⟨rfl, rfl⟩ := Prod.mk.inj same
        exact ⟨entries, defined, rfl⟩

/-- A mixer's name says what it feeds. -/
theorem stages_unique (mixer : String) (feed other : ℤ → List ℤ) (mem : Stage.mixer mixer feed ∈ config.stages)
    (also : Stage.mixer mixer other ∈ config.stages) : feed = other := by
  obtain ⟨step, -, here⟩ := List.mem_filterMap.mp mem
  obtain ⟨step', -, there⟩ := List.mem_filterMap.mp also
  obtain ⟨mapping, defined, rfl⟩ := stage_mixer here
  obtain ⟨mapping', defined', rfl⟩ := stage_mixer there
  rw [defined] at defined'
  rw [Option.some.inj defined']

theorem silent_iff (output : ℤ) : config.Silent output ↔ (config.loads = true → config.muted output = true) :=
  imp_congr_right fun _ => (dead_iff stages_unique).symm

theorem guarded_iff (output : ℤ) (first second : String) :
    config.Guarded output first second ↔ (config.loads = true → config.guarded output first second = true) := by
  apply imp_congr_right
  intro _
  rw [Config.guarded, List.all_eq_true, ← owed_nil_iff]
  simp only [List.isEmpty_iff]

/-- What a matched filter is. -/
theorem filterParamMatches_def {view : GraphView} {name filterType : String} {params : List (String × Expected)}
    (matches_ : filterParamMatches numeral view name filterType params = true) :
    ∃ spec, view.filters.lookup name = some spec ∧ spec.type.text = some filterType ∧
      ∀ key expected, (key, expected) ∈ params → expected.matches numeral (spec.param key) = true := by
  unfold filterParamMatches at matches_
  split at matches_
  · cases matches_
  · rename_i spec defined
    simp only [Bool.and_eq_true, beq_iff_eq, List.all_eq_true] at matches_
    exact ⟨spec, defined, matches_.1, fun key expected mem => matches_.2 (key, expected) mem⟩

theorem mute_of_same {value : Scalar} (same : value.same (.bool true) = true)
    (bool : value ∈ [Scalar.bool true, .bool false, .null]) : value = .bool true := by
  simp only [List.mem_cons, List.not_mem_nil, or_false] at bool
  rcases bool with rfl | rfl | rfl
  · rfl
  · simp [Scalar.same, Scalar.number] at same
  · simp [Scalar.same, Scalar.number] at same

theorem mem_of_lookup {α : Type} {entries : List (String × α)} {name : String} {value : α}
    (found : entries.lookup name = some value) : (name, value) ∈ entries := by
  induction entries with
  | nil => cases found
  | cons entry entries ih =>
    obtain ⟨other, held⟩ := entry
    rw [List.lookup_cons] at found
    split at found
    · rename_i same
      rw [eq_of_beq same, Option.some.inj found]
      exact List.mem_cons_self
    · exact List.mem_cons_of_mem _ (ih found)

/-- A hard mute mutes. -/
theorem hardMuted_mutes {channels : Step → Option (Finset ℤ)} {index : ℤ} {name : String} {gain : ℚ}
    (loads : config.loads = true)
    (muted : outputHardMutedAndWired numeral (view channels (some config)) index name gain = true) :
    config.nature.mutes name = true := by
  simp only [outputHardMutedAndWired, Bool.and_eq_true] at muted
  obtain ⟨spec, defined, type, params⟩ := filterParamMatches_def muted.1
  change config.filters.lookup name = some spec at defined
  simp only [Config.loads, Bool.and_eq_true, List.all_eq_true, decide_eq_true_eq] at loads
  have bool := (loads.1 _ (mem_of_lookup defined)).resolve_left (not_not_intro type)
  simp [Config.nature, defined, type, mute_of_same (params "mute" (.equal (.bool true)) (by simp)) bool]

theorem touches_of_applies {step : Step} {index : ℤ} (applies : step.applies index = true) :
    step.touches index = true := by
  unfold Step.applies at applies
  unfold Step.touches
  split
  · rename_i channels same
    rw [same] at applies
    simp only [decide_eq_true_eq, channelSet, List.mem_toFinset, List.mem_filterMap] at applies
    obtain ⟨value, mem, channel⟩ := applies
    refine List.any_eq_true.mpr ⟨value, mem, ?_⟩
    cases value with
    | int only =>
      obtain rfl : only = index := by simpa [Scalar.channel] using channel
      simp [Scalar.same, Scalar.number]
    | _ => simp [Scalar.channel] at channel
  · rfl

/-- A step that is seen on some channels reaches each of them. -/
theorem applies_of_channels {step : Step} {set : Finset ℤ} (channels : runningStepChannels step = set) {output : ℤ}
    (mem : output ∈ set) : step.applies output = true := by
  unfold runningStepChannels at channels
  unfold Step.applies
  split at channels
  · rename_i same
    simp [same, channels, mem]
  · rename_i single same
    subst channels
    simp [same, single, Finset.mem_singleton.mp mem]
  · subst channels
    cases mem

theorem applies_of_wired {step : Step} {index : ℤ} (wired : runningStepChannels step = {index}) :
    step.applies index = true := applies_of_channels wired (Finset.mem_singleton_self index)

theorem stage_filters {step : Step} (filter : step.isFilter = true) (running : truthyBool step.bypassed = false) :
    config.stage (some step) = some (.filters step.applies (namesTuple step.names)) := by
  have runs : step.bypassed ≠ .bool true := by
    intro bypassed
    simp [bypassed, truthyBool] at running
  simp [Config.stage, runs, filter]

/-- After the mute of a terminal loop no step reaches the output. -/
theorem terminalSteps_after {index : ℤ} {muteName : String} {steps : List (Option Step)}
    (terminal : terminalSteps index muteName true steps = true) {muted : ℤ → Bool} (already : muted index = true) :
    (steps.filterMap config.stage).foldl (deadStage config.nature) muted index = true ∧
      ∀ step, some step ∈ steps → step.isFilter = true → step.touches index = false := by
  induction steps generalizing muted with
  | nil => exact ⟨already, fun _ mem => by cases mem⟩
  | cons head steps ih =>
    cases head with
    | none => simp [terminalSteps] at terminal
    | some step =>
      simp only [terminalSteps] at terminal
      split at terminal
      · cases terminal
      rename_i running
      split at terminal
      · simp at terminal
      rename_i filter
      split at terminal
      · rename_i misses
        have outside : step.applies index = false := by
          by_contra applies
          simp [touches_of_applies (by simpa using applies)] at misses
        have passes := @stage_filters config step (by simpa using filter) (by simpa using running)
        obtain ⟨still, rest⟩ := @ih terminal (deadStage config.nature muted (.filters step.applies (namesTuple step.names)))
          (by simp [deadStage, outside, already])
        refine ⟨by rwa [List.filterMap_cons_some passes, List.foldl_cons], fun other mem filters => ?_⟩
        rcases List.mem_cons.mp mem with same | mem
        · obtain rfl := Option.some.inj same
          simpa using misses
        · exact rest other mem filters
      · split at terminal <;> simp at terminal

theorem text_of_same {value : Scalar} {name : String} (same : value.same (.str name) = true) : value = .str name := by
  cases value <;> simp_all [Scalar.same, Scalar.number]

theorem str_of_loads (loads : config.loads = true) {step : Step} (mem : some step ∈ config.pipeline.getD [])
    (filter : step.isFilter = true) {names : List Scalar} (listed : step.names = .list names) {value : Scalar}
    (there : value ∈ names) {name : String} (text : value.text = some name) : value = .str name := by
  simp only [Config.loads, Bool.and_eq_true, List.all_eq_true] at loads
  have strs := (Option.all_eq_true _ _).mp (loads.2 _ mem) step rfl
  simp only [filter, listed, Bool.not_true, Bool.false_or, List.all_eq_true] at strs
  have str := strs value there
  cases value <;> simp_all [Scalar.isStr, Scalar.text]

/-- The output's last filter is its mute. -/
theorem terminalSteps_last {index : ℤ} {muteName : String} (mutes : config.nature.mutes muteName = true)
    {steps : List (Option Step)}
    (textual : ∀ step, some step ∈ steps → step.isFilter = true → ∀ names, step.names = .list names → ∀ value ∈ names,
      value.text = some muteName → value = .str muteName)
    (terminal : terminalSteps index muteName false steps = true)
    (wired : ∃ step, some step ∈ steps ∧ step.isFilter = true ∧ runningStepChannels step = {index} ∧
      muteName ∈ namesTuple step.names) (muted : ℤ → Bool) :
    (steps.filterMap config.stage).foldl (deadStage config.nature) muted index = true := by
  induction steps generalizing muted with
  | nil => simp at wired
  | cons head steps ih =>
    have ih := ih fun step mem => textual step (List.mem_cons_of_mem _ mem)
    obtain ⟨step, mem, filter, channels, named⟩ := wired
    -- The wired step is the head unless the loop passes over the head.
    have later : (∀ other, head = some other → step ≠ other) → ∃ step, some step ∈ steps ∧ step.isFilter = true ∧
        runningStepChannels step = {index} ∧ muteName ∈ namesTuple step.names := by
      intro differs
      rcases List.mem_cons.mp mem with same | mem
      · exact absurd rfl (differs step same.symm)
      · exact ⟨step, mem, filter, channels, named⟩
    cases head with
    | none =>
      simp only [terminalSteps, Bool.not_false, Bool.true_and] at terminal
      exact ih terminal (later fun _ impossible => by cases impossible) _
    | some other =>
      simp only [terminalSteps] at terminal
      split at terminal
      · cases terminal
      rename_i running
      have running : truthyBool other.bypassed = false := by simpa using running
      split at terminal
      · rename_i kind
        simp only [Bool.not_false, Bool.true_and] at terminal
        have onward := ih terminal (later fun _ same => by
          obtain rfl := Option.some.inj same
          rintro rfl
          simp [filter] at kind)
        rw [List.filterMap_cons]
        split
        · exact onward muted
        · rw [List.foldl_cons]
          exact onward _
      rename_i kind
      have kind : other.isFilter = true := by simpa using kind
      have passes := @stage_filters config other kind running
      rw [List.filterMap_cons_some passes, List.foldl_cons]
      split at terminal
      · rename_i misses
        refine ih terminal (later fun _ same => ?_) _
        obtain rfl := Option.some.inj same
        rintro rfl
        simp [touches_of_applies (applies_of_wired channels)] at misses
      split at terminal
      · cases terminal
      rename_i names listed
      rw [if_neg (by simp)] at terminal
      split at terminal
      · rename_i absent
        refine ih terminal (later fun _ same => ?_) _
        obtain rfl := Option.some.inj same
        rintro rfl
        simp only [namesTuple, listed, List.mem_filterMap] at named
        obtain ⟨value, there, text⟩ := named
        have str := textual step List.mem_cons_self kind names listed value there text
        have present : names.any (·.same (.str muteName)) = true :=
          List.any_eq_true.mpr ⟨value, there, by rw [str]; simp [Scalar.same, Scalar.number]⟩
        simp [present] at absent
      · simp only [Bool.and_eq_true] at terminal
        obtain ⟨ends, terminal⟩ := terminal
        obtain ⟨last, at_end, same⟩ := (Option.any_eq_true _ _).mp ends
        obtain rfl := text_of_same same
        obtain ⟨front, split⟩ := List.getLast?_eq_some_iff.mp at_end
        have here : step = other := by
          by_contra differs
          obtain ⟨step, mem, filter, channels, -⟩ := later fun _ same => Option.some.inj same ▸ differs
          have untouched := (@terminalSteps_after config index muteName steps terminal (fun _ => true) rfl).2 step mem filter
          simp [touches_of_applies (applies_of_wired channels)] at untouched
        have silenced : deadStage config.nature muted
            (.filters other.applies (namesTuple other.names) : Stage ℤ String String) index = true := by
          simp [deadStage, here ▸ applies_of_wired channels, namesTuple, listed, split, Scalar.text, Nature.after, mutes]
        exact (terminalSteps_after terminal silenced).1

theorem wired_step {channels : Step → Option (Finset ℤ)} {set : Finset ℤ} {names : List String}
    (reads : ∀ step, channels step = some set → runningStepChannels step = set)
    (wired : pipelineContainsChain (view channels (some config)) set names = true) :
    ∃ step, some step ∈ config.pipeline.getD [] ∧ step.isFilter = true ∧ runningStepChannels step = set ∧
      ∀ name ∈ names, name ∈ namesTuple step.names := by
  obtain ⟨seen, viewed, chain⟩ := List.any_eq_true.mp wired
  simp only [Bool.and_eq_true, decide_eq_true_eq, List.all_eq_true] at chain
  obtain ⟨step, mem, reading⟩ := List.mem_filterMap.mp viewed
  cases step with
  | none => cases reading
  | some step =>
    simp only [Option.bind_eq_bind, Option.bind_some] at reading
    split at reading
    · rename_i filter
      obtain ⟨set, there, same⟩ := Option.bind_eq_some_iff.mp reading
      cases same
      obtain ⟨rfl, named⟩ := chain
      exact ⟨step, mem, filter, reads step there, named⟩
    · cases reading

theorem listStepChannels_running {step : Step} {set : Finset ℤ} (reading : listStepChannels step = some set) :
    runningStepChannels step = set := by
  unfold listStepChannels at reading
  unfold runningStepChannels
  split at reading
  · rename_i same
    simpa [same] using reading
  · cases reading

/-- A terminally muted output is silent. -/
theorem terminallyMuted_silent {channels : Step → Option (Finset ℤ)} {index : ℤ} {muteName : String} {gain : ℚ}
    (reads : ∀ step, channels step = some {index} → runningStepChannels step = {index})
    (terminal : outputTerminallyMuted numeral config (view channels (some config)) index muteName gain = true) :
    config.Silent index := by
  rw [silent_iff]
  intro loads
  unfold outputTerminallyMuted at terminal
  split at terminal
  · cases terminal
  rename_i muted
  have muted : outputHardMutedAndWired numeral (view channels (some config)) index muteName gain = true := by
    simpa using muted
  have mutes := hardMuted_mutes loads muted
  simp only [outputHardMutedAndWired, Bool.and_eq_true] at muted
  obtain ⟨step, mem, filter, wired, named⟩ := wired_step reads muted.2
  split at terminal
  · cases terminal
  rename_i pipeline there
  have textual : ∀ step, some step ∈ pipeline → step.isFilter = true → ∀ names, step.names = .list names →
      ∀ value ∈ names, value.text = some muteName → value = .str muteName := by
    intro step mem filter names listed value there' text
    exact str_of_loads loads (by rw [there]; exact mem) filter listed there' text
  rw [there] at mem
  have silenced := terminalSteps_last mutes textual terminal ⟨step, mem, filter, wired, named muteName (by simp)⟩ fun _ => false
  rw [Config.muted, dead, Config.stages, there]
  exact silenced

end Soundness

section Claim

variable {numeral : String → Option ℚ} {config : Config}

/-- What the proof is for. -/
structure Proved (numeral : String → Option ℚ) (config : Config) (intended : Intended) : Prop where
  muted : ∀ output ∈ intended.muted, config.Silent output
  tweeter : ∀ output ∈ intended.audible ∩ intended.tweeters,
    config.Guarded output intended.highpass tweeterLimiterName ∧
    (∃ frequency, intended.protectiveHpHz = some frequency ∧
      highpassMatches numeral (viewFromCamillaDict (some config)) intended.highpass frequency intended.highpassOrder = true) ∧
    limiterMatches numeral (viewFromCamillaDict (some config)) tweeterLimiterName = true

/-- What the pipeline that was read back has to show for it. -/
structure Exposes (config : Config) (intended : Intended) : Prop where
  muted : ∀ output ∈ intended.muted, config.muted output = true
  tweeter : ∀ output ∈ intended.audible ∩ intended.tweeters,
    config.guarded output intended.highpass tweeterLimiterName = true

/-- The shape that the builder gives a pipeline: only filters after the first one, none of them dither, and a step that has
both the high-pass and the limiter has them in this order. -/
structure Layered (config : Config) (highpass : String) : Prop where
  filters : ∀ early first late, config.pipeline.getD [] = early ++ some first :: late → first.isFilter = true →
    ∀ step ∈ late, ∃ filter, step = some filter ∧ filter.isFilter = true
  quiet : ∀ step, some step ∈ config.pipeline.getD [] → ∀ name ∈ namesTuple step.names, config.nature.quiet name = true
  ordered : ∀ step, some step ∈ config.pipeline.getD [] → highpass ∈ namesTuple step.names →
    tweeterLimiterName ∈ namesTuple step.names → List.Sublist [highpass, tweeterLimiterName] (namesTuple step.names)

theorem running_of_noBypassed (running : noBypassedPipelineStep (some config) = true) {step : Step}
    (mem : some step ∈ config.pipeline.getD []) : truthyBool step.bypassed = false := by
  simp only [noBypassedPipelineStep, Option.any_eq_true] at running
  obtain ⟨pipeline, there, none_bypassed⟩ := running
  rw [there] at mem
  by_contra bypassed
  have one : pipeline.any (fun step => step.any (truthyBool ·.bypassed)) = true :=
    List.any_eq_true.mpr ⟨some step, mem, by simpa using bypassed⟩
  simp [one] at none_bypassed

/-- Around a step of a layered pipeline. -/
theorem Layered.split {highpass : String} (layered : Layered config highpass)
    (running : noBypassedPipelineStep (some config) = true) {step : Step} (mem : some step ∈ config.pipeline.getD [])
    (filter : step.isFilter = true) :
    ∃ early late, config.stages = early ++ .filters step.applies (namesTuple step.names) :: late ∧
      ∀ stage ∈ late, ∃ on chain, stage = .filters on chain ∧ ∀ name ∈ chain, config.nature.quiet name = true := by
  obtain ⟨early, late, split⟩ := List.append_of_mem mem
  refine ⟨early.filterMap config.stage, late.filterMap config.stage, ?_, fun stage there => ?_⟩
  · rw [Config.stages, split, List.filterMap_append, List.filterMap_cons_some
      (stage_filters filter (running_of_noBypassed running mem))]
  · obtain ⟨other, later, makes⟩ := List.mem_filterMap.mp there
    obtain ⟨other, rfl, kind⟩ := layered.filters early step late split filter other later
    have present : some other ∈ config.pipeline.getD [] := by
      rw [split]
      exact List.mem_append_right _ (List.mem_cons_of_mem _ later)
    rw [stage_filters kind (running_of_noBypassed running present)] at makes
    exact ⟨_, _, (Option.some.inj makes).symm, layered.quiet other present⟩

/-- In a layered pipeline the checks are all that it takes. -/
theorem passed_exposes {load : String → Option Config} {running : Option String} {intended : Intended}
    (reads : readBack load running = some config) (loads : config.loads = true)
    (layered : Layered config intended.highpass) (disjoint : Disjoint intended.audible intended.muted)
    (passed : (runningCommissionEvidence numeral load running intended).passed = true) : Exposes config intended := by
  simp only [Checks.passed, runningCommissionEvidence, reads, Bool.and_eq_true, decide_eq_true_eq] at passed
  obtain ⟨⟨⟨⟨-, unbypassed⟩, -, mask⟩, tweeter⟩, -⟩ := passed
  constructor
  · intro output mem
    have masked := mask output (Finset.mem_union_right _ mem)
    rw [outputMasked, if_neg (Finset.disjoint_right.mp disjoint mem)] at masked
    have mutes := hardMuted_mutes loads masked
    simp only [outputHardMutedAndWired, Bool.and_eq_true] at masked
    obtain ⟨step, there, filter, wired, named⟩ := wired_step (fun step same => Option.some.inj same) masked.2
    obtain ⟨early, late, split, filters⟩ := layered.split unbypassed there filter
    rw [Config.muted, split]
    exact dead_of_last_filters early (applies_of_wired wired) (named _ (by simp)) mutes (layered.quiet step there) filters
  · intro output mem
    rw [tweeterProtectedWhileAudible, if_neg (Finset.ne_empty_of_mem mem)] at tweeter
    simp only [Bool.and_eq_true] at tweeter
    obtain ⟨step, there, filter, channels, named⟩ := wired_step (fun step same => Option.some.inj same) tweeter.2
    obtain ⟨early, late, split, filters⟩ := layered.split unbypassed there filter
    have order := layered.ordered step there (named _ (by simp)) (named _ (by simp))
    have nothing := owed_of_last_filters early (applies_of_channels channels mem) order fun stage mem => by
      obtain ⟨on, chain, same, -⟩ := filters stage mem
      exact ⟨on, chain, same⟩
    rw [Config.guarded, split, List.all_eq_true]
    intro rest owes
    rw [nothing rest owes]
    rfl

-- Two outputs behind a split; the second one is muted.
def muteFilter (muted : Bool) : FilterSpec := ⟨.str "Gain", [("gain", .int (-120)), ("mute", .bool muted)]⟩

def filterStep (channels : List ℤ) (names : List String) : Option Step :=
  some ⟨.str "Filter", .null, .list (channels.map .int), .null, .list (names.map .str), .null⟩

def mixerStep (name : String) : Option Step := some ⟨.str "Mixer", .null, .scalar .null, .null, .scalar .null, .str name⟩

def twoOutputs (late : List (Option Step)) : Config where
  filters := [("active_startup_headroom", ⟨.str "Gain", [("gain", .int (-40))]⟩),
    (outputCommissionMuteName 0, muteFilter false), (outputCommissionMuteName 1, muteFilter true)]
  mixers := [("split", [⟨.int 0, .null, [⟨.int 0, .null⟩]⟩, ⟨.int 1, .null, [⟨.int 0, .null⟩]⟩])]
  pipeline := some ([mixerStep "split", filterStep [0] [outputCommissionMuteName 0],
    filterStep [1] [outputCommissionMuteName 1]] ++ late)

def firstAudible : Intended := ⟨{0}, {1}, ∅, none, "", 4, 40⟩

/-- The live proof proves what it is for exactly where the order of the pipeline bears it out; a terminal mute always does. -/
theorem live_commissioning_proof (numeral : String → Option ℚ) :
    (∀ (load : String → Option Config) (running : Option String) (intended : Intended) (config : Config),
      readBack load running = some config → (runningCommissionEvidence numeral load running intended).passed = true →
        (Proved numeral config intended ↔ (config.loads = true → Exposes config intended))) ∧
    ∀ (config : Config) (view : GraphView) (index : ℤ) (muteName : String) (gain : ℚ),
      view = viewFromCamillaDict (some config) ∨ view = viewFromYamlDict (some config) →
        outputTerminallyMuted numeral config view index muteName gain = true → config.Silent index := by
  constructor
  · intro load running intended config reads passed
    simp only [Checks.passed, runningCommissionEvidence, reads, Bool.and_eq_true, decide_eq_true_eq] at passed
    obtain ⟨⟨-, tweeter⟩, -⟩ := passed
    constructor
    · intro proved loads
      constructor
      · intro output mem
        exact (silent_iff output).mp (proved.muted output mem) loads
      · intro output mem
        exact (guarded_iff output _ _).mp (proved.tweeter output mem).1 loads
    · intro exposes
      constructor
      · intro output mem
        exact (silent_iff output).mpr fun loads => (exposes loads).muted output mem
      · intro output mem
        rw [tweeterProtectedWhileAudible, if_neg (Finset.ne_empty_of_mem mem)] at tweeter
        simp only [Bool.and_eq_true] at tweeter
        obtain ⟨frequency, there, highpass⟩ := (Option.any_eq_true _ _).mp tweeter.1.1
        exact ⟨(guarded_iff output _ _).mpr fun loads => (exposes loads).tweeter output mem, ⟨frequency, there, highpass⟩,
          tweeter.1.2⟩
  · intro config view index muteName gain either terminal
    rcases either with rfl | rfl
    · exact terminallyMuted_silent (fun step there => Option.some.inj there) terminal
    · exact terminallyMuted_silent (fun step there => listStepChannels_running there) terminal

theorem live_proof_of_two_outputs :
    Proved (fun _ => none) (twoOutputs []) firstAudible ∧ (twoOutputs []).Silent 1 :=
  ⟨((live_commissioning_proof fun _ => none).1 (fun _ => some (twoOutputs [])) (some "x") firstAudible (twoOutputs [])
    (by decide) (by decide +kernel)).mpr fun _ => ⟨by decide +kernel, by decide +kernel⟩,
   (live_commissioning_proof fun _ => none).2 (twoOutputs []) (viewFromYamlDict (some (twoOutputs []))) 1
    (outputCommissionMuteName 1) (-120) (.inr rfl) (by decide +kernel)⟩

/-- The checks pass, and a mixer that comes after the mute lets the first output into the second. -/
theorem late_mixer_unmutes : ∃ config,
    readBack (fun _ => some config) (some "x") = some config ∧
    (runningCommissionEvidence (fun _ => none) (fun _ => some config) (some "x") firstAudible).passed = true ∧
    config.loads = true ∧ 1 ∈ firstAudible.muted ∧ ¬ config.Silent 1 := by
  refine ⟨twoOutputs [mixerStep "split"], by decide, by decide +kernel, by decide +kernel, by decide, ?_⟩
  rw [silent_iff]
  decide

end Claim

end Jts.ActiveSpeaker.Graph
