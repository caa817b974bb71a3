import Mathlib

set_option autoImplicit false

namespace Jts.Shared.SignalGraph

/-- A stage of a graph of channels: filters on some of them, a mixer that makes every channel anew out of others, or a
stage that nothing is known of. -/
inductive Stage (Channel Filter Mixer : Type)
  | filters (on : Channel → Bool) (chain : List Filter)
  | mixer (mixer : Mixer) (feeds : Channel → List Channel)
  | stray

variable {Channel Filter Mixer Signal : Type}

section Paths

/-- The filters that a signal has been through on its way to a channel; the last stage is the head. It came from the input,
or out of a stage that nothing is known of. -/
inductive Arrives : List (Stage Channel Filter Mixer) → List Filter → Channel → Prop
  | input (channel : Channel) : Arrives [] [] channel
  | filters {channel : Channel} {on : Channel → Bool} {chain passed : List Filter}
      {stages : List (Stage Channel Filter Mixer)} (way : Arrives stages passed channel) :
      Arrives (.filters on chain :: stages) (if on channel then passed ++ chain else passed) channel
  | mixer {channel source : Channel} {mixer : Mixer} {feeds : Channel → List Channel} {passed : List Filter}
      {stages : List (Stage Channel Filter Mixer)} (feed : source ∈ feeds channel) (way : Arrives stages passed source) :
      Arrives (.mixer mixer feeds :: stages) passed channel
  | stray (channel : Channel) (stages : List (Stage Channel Filter Mixer)) : Arrives (.stray :: stages) [] channel

variable [DecidableEq Filter]

/-- What is left of a list of filters that a signal has to go through in their order. -/
def advance (needs : List Filter) (filter : Filter) : List Filter :=
  match needs with
  | [] => []
  | need :: rest => if need = filter then rest else need :: rest

theorem foldl_advance_nil (passed : List Filter) : passed.foldl advance [] = [] := by
  induction passed with
  | nil => rfl
  | cons filter passed ih => exact ih

theorem foldl_advance_eq_nil (needs passed : List Filter) : passed.foldl advance needs = [] ↔ List.Sublist needs passed := by
  induction passed generalizing needs with
  | nil => simp
  | cons filter passed ih =>
    cases needs with
    | nil => simp [advance, foldl_advance_nil]
    | cons need rest =>
      rw [List.foldl_cons, ih, advance]
      split
      · rename_i same
        rw [same, List.cons_sublist_cons]
      · rename_i differs
        rw [List.sublist_cons_iff]
        constructor
        · exact .inl
        · rintro (later | ⟨tail, same, -⟩)
          · exact later
          · exact absurd (List.cons.inj same).1 differs

def owedStage (needs : List Filter) (owed : Channel → List (List Filter)) :
    Stage Channel Filter Mixer → Channel → List (List Filter)
  | .filters on chain => fun channel =>
      if on channel then (owed channel).map (fun rest => chain.foldl advance rest) else owed channel
  | .mixer _ feeds => fun channel => (feeds channel).flatMap owed
  | .stray => fun _ => [needs]

/-- What the signals that get to a channel still have to go through, on all their ways. -/
def owed (needs : List Filter) (stages : List (Stage Channel Filter Mixer)) : Channel → List (List Filter) :=
  stages.foldl (owedStage needs) fun _ => [needs]

theorem foldl_advance_suffix (needs chain : List Filter) : chain.foldl advance needs <:+ needs := by
  induction chain generalizing needs with
  | nil => exact List.suffix_rfl
  | cons filter chain ih =>
    have first : advance needs filter <:+ needs := by
      cases needs with
      | nil => exact List.suffix_rfl
      | cons need rest =>
        simp only [advance]
        split
        · exact List.suffix_cons need rest
        · exact List.suffix_rfl
    exact (ih _).trans first

theorem owed_concat (needs : List Filter) (stages : List (Stage Channel Filter Mixer)) (stage : Stage Channel Filter Mixer) :
    owed needs (stages ++ [stage]) = owedStage needs (owed needs stages) stage := by
  simp only [owed, List.foldl_append, List.foldl_cons, List.foldl_nil]

theorem mem_owed {needs rest : List Filter} {stages : List (Stage Channel Filter Mixer)} {channel : Channel} :
    rest ∈ owed needs stages channel ↔ ∃ passed, Arrives stages.reverse passed channel ∧ passed.foldl advance needs = rest := by
  induction stages using List.reverseRecOn generalizing rest channel with
  | nil =>
    rw [owed, List.foldl_nil, List.mem_singleton, List.reverse_nil]
    constructor
    · intro same
      exact ⟨[], .input channel, same.symm⟩
    · rintro ⟨passed, way, same⟩
      cases way
      exact same.symm
  | append_singleton stages stage ih =>
    rw [owed_concat, List.reverse_append, List.reverse_singleton, List.singleton_append]
    cases stage with
    | filters on chain =>
      simp only [owedStage]
      constructor
      · intro mem
        split at mem <;> rename_i applies
        · obtain ⟨before, there, rfl⟩ := List.mem_map.mp mem
          obtain ⟨passed, way, rfl⟩ := ih.mp there
          exact ⟨_, .filters way, by rw [if_pos applies, List.foldl_append]⟩
        · obtain ⟨passed, way, rfl⟩ := ih.mp mem
          exact ⟨_, .filters way, by rw [if_neg applies]⟩
      · rintro ⟨_, way, rfl⟩
        cases way with
        | @filters _ _ _ passed _ way =>
          have before := ih.mpr ⟨passed, way, rfl⟩
          split <;> rename_i applies
          · rw [List.foldl_append]
            exact List.mem_map_of_mem before
          · exact before
    | mixer mixer feeds =>
      simp only [owedStage, List.mem_flatMap]
      constructor
      · rintro ⟨source, feed, mem⟩
        obtain ⟨passed, way, rfl⟩ := ih.mp mem
        exact ⟨passed, .mixer feed way, rfl⟩
      · rintro ⟨passed, way, rfl⟩
        cases way with
        | mixer feed way => exact ⟨_, feed, ih.mpr ⟨passed, way, rfl⟩⟩
    | stray =>
      simp only [owedStage, List.mem_singleton]
      constructor
      · rintro rfl
        exact ⟨[], .stray channel _, rfl⟩
      · rintro ⟨passed, way, rfl⟩
        cases way
        rfl

/-- A channel that goes through the needed filters in one of the last stages, all of them filters, owes nothing. -/
theorem owed_of_last_filters {needs : List Filter} {channel : Channel} {on : Channel → Bool} {chain : List Filter}
    (stages : List (Stage Channel Filter Mixer)) {late : List (Stage Channel Filter Mixer)} (applies : on channel = true)
    (through : List.Sublist needs chain) (filters : ∀ stage ∈ late, ∃ on chain, stage = .filters on chain) :
    ∀ rest ∈ owed needs (stages ++ .filters on chain :: late) channel, rest = [] := by
  induction late using List.reverseRecOn with
  | nil =>
    rw [owed_concat]
    intro rest mem
    simp only [owedStage, if_pos applies] at mem
    obtain ⟨before, there, rfl⟩ := List.mem_map.mp mem
    obtain ⟨passed, -, rfl⟩ := mem_owed.mp there
    have part := (foldl_advance_suffix needs passed).sublist.trans through
    exact (foldl_advance_eq_nil _ chain).mpr part
  | append_singleton late stage ih =>
    have before := ih fun stage mem => filters stage (List.mem_append_left _ mem)
    obtain ⟨on, chain, rfl⟩ := filters stage (List.mem_append_right _ List.mem_cons_self)
    rw [← List.cons_append, ← List.append_assoc, owed_concat]
    intro rest mem
    simp only [owedStage] at mem
    split at mem
    · obtain ⟨rest, there, rfl⟩ := List.mem_map.mp mem
      rw [before rest there]
      exact foldl_advance_nil chain
    · exact before rest mem

/-- Every signal that gets to a channel goes through the needed filters, exactly where nothing is owed. -/
theorem owed_nil_iff {needs : List Filter} {stages : List (Stage Channel Filter Mixer)} {channel : Channel} :
    (∀ rest ∈ owed needs stages channel, rest = []) ↔
      ∀ passed, Arrives stages.reverse passed channel → List.Sublist needs passed := by
  constructor
  · intro nothing passed way
    exact (foldl_advance_eq_nil needs passed).mp (nothing _ (mem_owed.mpr ⟨passed, way, rfl⟩))
  · intro through rest mem
    obtain ⟨passed, way, rfl⟩ := mem_owed.mp mem
    exact (foldl_advance_eq_nil needs passed).mpr (through passed way)

end Paths

section Silence

/-- What the parts of a graph do to signals. -/
structure Meaning (Channel Filter Mixer Signal : Type) where
  filter : Filter → Signal → Signal
  mix : Mixer → Channel → (Channel → Signal) → Signal
  stray : (Channel → Signal) → Channel → Signal

def evaluateStage (meaning : Meaning Channel Filter Mixer Signal) (signals : Channel → Signal) :
    Stage Channel Filter Mixer → Channel → Signal
  | .filters on chain => fun channel =>
      if on channel then chain.foldl (fun signal filter => meaning.filter filter signal) (signals channel)
      else signals channel
  | .mixer mixer _ => fun channel => meaning.mix mixer channel signals
  | .stray => meaning.stray signals

def evaluate (meaning : Meaning Channel Filter Mixer Signal) (stages : List (Stage Channel Filter Mixer))
    (input : Channel → Signal) : Channel → Signal :=
  stages.foldl (evaluateStage meaning) input

/-- What is known of the filters: which let nothing through, and which make no signal out of silence. -/
structure Nature (Filter : Type) where
  mutes : Filter → Bool
  quiet : Filter → Bool

/-- A meaning that is true to what is known. The mixers make no signal out of silence. -/
structure Meaning.Keeps [Zero Signal] (meaning : Meaning Channel Filter Mixer Signal) (nature : Nature Filter)
    (stages : List (Stage Channel Filter Mixer)) : Prop where
  mutes : ∀ filter, nature.mutes filter = true → ∀ signal, meaning.filter filter signal = 0
  quiet : ∀ filter, nature.quiet filter = true → meaning.filter filter 0 = 0
  mixes : ∀ mixer feeds, Stage.mixer mixer feeds ∈ stages → ∀ channel signals, (∀ source ∈ feeds channel, signals source = 0) →
    meaning.mix mixer channel signals = 0

def Nature.after (nature : Nature Filter) (dead : Bool) (filter : Filter) : Bool :=
  nature.mutes filter || dead && nature.quiet filter

def deadStage (nature : Nature Filter) (dead : Channel → Bool) : Stage Channel Filter Mixer → Channel → Bool
  | .filters on chain => fun channel => if on channel then chain.foldl nature.after (dead channel) else dead channel
  | .mixer _ feeds => fun channel => (feeds channel).all dead
  | .stray => fun _ => false

/-- Whether a channel is muted behind everything that is let into it. -/
def dead (nature : Nature Filter) (stages : List (Stage Channel Filter Mixer)) : Channel → Bool :=
  stages.foldl (deadStage nature) fun _ => false

theorem dead_concat (nature : Nature Filter) (stages : List (Stage Channel Filter Mixer)) (stage : Stage Channel Filter Mixer) :
    dead nature (stages ++ [stage]) = deadStage nature (dead nature stages) stage := by
  simp only [dead, List.foldl_append, List.foldl_cons, List.foldl_nil]

theorem evaluate_concat (meaning : Meaning Channel Filter Mixer Signal) (stages : List (Stage Channel Filter Mixer))
    (stage : Stage Channel Filter Mixer) (input : Channel → Signal) :
    evaluate meaning (stages ++ [stage]) input = evaluateStage meaning (evaluate meaning stages input) stage := by
  simp only [evaluate, List.foldl_append, List.foldl_cons, List.foldl_nil]

theorem Nature.after_true_of_quiet {nature : Nature Filter} {chain : List Filter}
    (quiet : ∀ filter ∈ chain, nature.quiet filter = true) : chain.foldl nature.after true = true := by
  induction chain with
  | nil => rfl
  | cons filter chain ih =>
    have first : nature.after true filter = true := by simp [Nature.after, quiet filter List.mem_cons_self]
    rw [List.foldl_cons, first]
    exact ih fun other mem => quiet other (List.mem_cons_of_mem _ mem)

theorem Nature.after_of_mutes {nature : Nature Filter} {chain : List Filter} {mute : Filter} (mem : mute ∈ chain)
    (mutes : nature.mutes mute = true) (quiet : ∀ filter ∈ chain, nature.quiet filter = true) (before : Bool) :
    chain.foldl nature.after before = true := by
  obtain ⟨early, late, rfl⟩ := List.append_of_mem mem
  have here : ∀ dead, nature.after dead mute = true := fun dead => by simp [Nature.after, mutes]
  rw [List.foldl_append, List.foldl_cons, here]
  exact after_true_of_quiet fun filter there => quiet filter (List.mem_append_right _ (List.mem_cons_of_mem _ there))

/-- A channel that is muted in one of the last stages, all of them quiet filters, is dead. -/
theorem dead_of_last_filters {nature : Nature Filter} {channel : Channel} {on : Channel → Bool} {chain : List Filter}
    {mute : Filter} (stages : List (Stage Channel Filter Mixer)) {late : List (Stage Channel Filter Mixer)}
    (applies : on channel = true) (mem : mute ∈ chain) (mutes : nature.mutes mute = true)
    (quiet : ∀ filter ∈ chain, nature.quiet filter = true)
    (filters : ∀ stage ∈ late, ∃ on chain, stage = .filters on chain ∧ ∀ filter ∈ chain, nature.quiet filter = true) :
    dead nature (stages ++ .filters on chain :: late) channel = true := by
  induction late using List.reverseRecOn with
  | nil =>
    rw [dead_concat]
    simp only [deadStage, if_pos applies]
    exact Nature.after_of_mutes mem mutes quiet _
  | append_singleton late stage ih =>
    have before := ih fun stage mem => filters stage (List.mem_append_left _ mem)
    obtain ⟨on, chain, rfl, quiet⟩ := filters stage (List.mem_append_right _ List.mem_cons_self)
    rw [← List.cons_append, ← List.append_assoc, dead_concat]
    simp only [deadStage, before]
    split
    · exact Nature.after_true_of_quiet quiet
    · rfl

section Soundness

variable [Zero Signal] {meaning : Meaning Channel Filter Mixer Signal} {nature : Nature Filter}

theorem foldl_silent (mutes : ∀ filter, nature.mutes filter = true → ∀ signal, meaning.filter filter signal = 0)
    (quiet : ∀ filter, nature.quiet filter = true → meaning.filter filter 0 = 0) {chain : List Filter} {before : Bool}
    {signal : Signal} (silent : before = true → signal = 0) (after : chain.foldl nature.after before = true) :
    chain.foldl (fun signal filter => meaning.filter filter signal) signal = 0 := by
  induction chain generalizing before signal with
  | nil => exact silent after
  | cons filter chain ih =>
    refine ih (fun now => ?_) after
    rcases (Bool.or_eq_true _ _).mp now with muted | still
    · exact mutes filter muted signal
    · obtain ⟨already, keeps⟩ := (Bool.and_eq_true _ _).mp still
      rw [silent already]
      exact quiet filter keeps

/-- A dead channel is silent, whatever the input. -/
theorem evaluate_of_dead {stages : List (Stage Channel Filter Mixer)} (keeps : meaning.Keeps nature stages) {channel : Channel}
    (muted : dead nature stages channel = true) (input : Channel → Signal) : evaluate meaning stages input channel = 0 := by
  induction stages using List.reverseRecOn generalizing channel with
  | nil => cases muted
  | append_singleton stages stage ih =>
    have before := @ih ⟨keeps.mutes, keeps.quiet, fun mixer feeds mem => keeps.mixes mixer feeds (List.mem_append_left _ mem)⟩
    rw [dead_concat] at muted
    rw [evaluate_concat]
    cases stage with
    | filters on chain =>
      simp only [deadStage] at muted
      simp only [evaluateStage]
      split at muted <;> rename_i applies
      · rw [if_pos applies]
        exact foldl_silent keeps.mutes keeps.quiet before muted
      · rw [if_neg applies]
        exact before muted
    | mixer mixer feeds =>
      apply keeps.mixes mixer feeds (List.mem_append_right _ List.mem_cons_self)
      intro source feed
      exact before (List.all_eq_true.mp muted source feed)
    | stray => cases muted

end Soundness

section Completeness

/-- The loudest meaning that is true to what is known: a signal is there or not. -/
noncomputable def loudest (nature : Nature Filter) (stages : List (Stage Channel Filter Mixer)) :
    Meaning Channel Filter Mixer ℕ where
  filter filter signal := if nature.mutes filter then 0 else if nature.quiet filter then signal else 1
  mix mixer channel signals :=
    open Classical in
    if ∃ feeds, Stage.mixer mixer feeds ∈ stages ∧ ∀ source ∈ feeds channel, signals source = 0 then 0 else 1
  stray _ _ := 1

theorem loudest_keeps (nature : Nature Filter) (stages : List (Stage Channel Filter Mixer)) :
    (loudest nature stages).Keeps nature stages where
  mutes filter mutes signal := by simp [loudest, mutes]
  quiet filter quiet := by simp [loudest, quiet]
  mixes mixer feeds mem channel signals silent := if_pos ⟨feeds, mem, silent⟩

theorem loudest_foldl (nature : Nature Filter) (stages : List (Stage Channel Filter Mixer)) (chain : List Filter)
    (before : Bool) :
    chain.foldl (fun signal filter => (loudest nature stages).filter filter signal) (if before then 0 else 1) =
      if chain.foldl nature.after before then 0 else 1 := by
  induction chain generalizing before with
  | nil => rfl
  | cons filter chain ih =>
    have first : (loudest nature stages).filter filter (if before then 0 else 1) =
        if nature.after before filter then 0 else 1 := by
      by_cases mutes : nature.mutes filter <;> by_cases quiet : nature.quiet filter <;>
        simp [loudest, Nature.after, mutes, quiet]
    rw [List.foldl_cons, first, List.foldl_cons, ih]

theorem loudest_evaluate {nature : Nature Filter} {whole stages later : List (Stage Channel Filter Mixer)}
    (unique : ∀ mixer feeds others, Stage.mixer mixer feeds ∈ whole → Stage.mixer mixer others ∈ whole → feeds = others)
    (part : whole = stages ++ later) (channel : Channel) :
    evaluate (loudest nature whole) stages (fun _ => 1) channel = if dead nature stages channel then 0 else 1 := by
  induction stages using List.reverseRecOn generalizing later channel with
  | nil => rfl
  | append_singleton stages stage ih =>
    have before := @ih (stage :: later) (by rw [part, List.append_assoc, List.singleton_append])
    rw [evaluate_concat, dead_concat]
    cases stage with
    | filters on chain =>
      simp only [evaluateStage, deadStage, before]
      split
      · exact loudest_foldl nature whole chain _
      · rfl
    | mixer mixer feeds =>
      have own : Stage.mixer mixer feeds ∈ whole := by simp [part]
      have silent : (∃ others, Stage.mixer mixer others ∈ whole ∧
          ∀ source ∈ others channel, evaluate (loudest nature whole) stages (fun _ => 1) source = 0) ↔
          deadStage nature (dead nature stages) (.mixer mixer feeds) channel = true := by
        simp only [before, deadStage, List.all_eq_true]
        constructor
        · rintro ⟨others, mem, quiet⟩ source feed
          rw [unique mixer feeds others own mem] at feed
          simpa using quiet source feed
        · intro muted
          exact ⟨feeds, own, fun source feed => if_pos (muted source feed)⟩
      by_cases muted : deadStage nature (dead nature stages) (.mixer mixer feeds) channel = true
      · rw [if_pos muted]
        exact if_pos (silent.mpr muted)
      · rw [if_neg muted]
        exact if_neg (mt silent.mp muted)
    | stray => rfl

end Completeness

/-- The dead channels are exactly those that are silent whatever the input, and whatever the filters do that is true to what
is known of them. -/
theorem dead_iff {nature : Nature Filter} {stages : List (Stage Channel Filter Mixer)} {channel : Channel}
    (unique : ∀ mixer feeds others, Stage.mixer mixer feeds ∈ stages → Stage.mixer mixer others ∈ stages → feeds = others) :
    dead nature stages channel = true ↔
      ∀ (Signal : Type) [Zero Signal] (meaning : Meaning Channel Filter Mixer Signal), meaning.Keeps nature stages →
        ∀ input, evaluate meaning stages input channel = 0 := by
  constructor
  · intro muted Signal _ meaning keeps input
    exact evaluate_of_dead keeps muted input
  · intro silent
    have loud := @loudest_evaluate _ _ _ nature stages stages [] unique (List.append_nil _).symm channel
    rw [silent ℕ _ (loudest_keeps nature stages)] at loud
    by_contra alive
    simp [alive] at loud

end Silence

end Jts.Shared.SignalGraph
