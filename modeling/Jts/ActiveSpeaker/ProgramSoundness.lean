import Jts.ActiveSpeaker.ProgramAdmission

set_option autoImplicit false

namespace Jts.ActiveSpeaker

open Shared Excitation

theorem firstSeen_eq_nil {α : Type} [DecidableEq α] {reasons : List α} : firstSeen reasons = [] ↔ reasons = [] := by
  cases reasons <;> simp [firstSeen]

theorem allowed_eq_true {K : Type} {admission : ProgramAdmission K} : admission.allowed = true ↔ admission.refusals = [] := by
  rw [ProgramAdmission.allowed, decide_eq_true_eq]

section Sound

variable {K : Type} [Field K] [LinearOrder K] (meter : Meter K) (program : ExcitationProgram K) (wav : Wav)

def Carries (channel : ℕ) : Prop := ∃ segment ∈ program.stimulusSegments, segment.channel = some channel

def Capped (channel : ℕ) (capDbfs sessionVolumeDb : K) : Prop :=
  ∀ frame < wav.frames, meter.dbfs |(wav.level frame channel : K)| + sessionVolumeDb ≤ capDbfs + capToleranceDb

def Silent (channel : ℕ) : Prop := ∀ frame < wav.frames, (wav.level frame channel : K) = 0

-- The quietest sound that the gate itself makes is the most that it leaves outside of its window.
def gateAllowance (segment : GatedSegment K) : K := meter.amplitude segment.gainDb * gateLeakRatioCeiling meter segment

def GateApplied (segment : GatedSegment K) : Prop :=
  ∀ channel, segment.channel = some channel → meter.rms (outsideGate wav segment channel) ≤ gateAllowance meter segment

/-- What a file may be trusted with, once it is admitted. -/
structure Sound (reaches : ℕ → K → Prop) (sessionVolumeDb : K) : Prop where
  capped : ∀ channel < wav.channels, ∀ capDbfs, reaches channel capDbfs → Capped meter wav channel capDbfs sessionVolumeDb
  silent : ∀ channel < wav.channels, ¬Carries program channel → Silent (K := K) wav channel
  gated : ∀ segment ∈ program.stimulusSegments, segment.isGated = true → GateApplied meter wav segment

-- The two checks of a channel's peak.
def PeakPasses (channel : ℕ) (capDbfs sessionVolumeDb peak : K) : Prop :=
  meter.dbfs peak + sessionVolumeDb ≤ capDbfs + capToleranceDb ∧
    |meter.dbfs peak - channelDeclaredPeakDbfs meter program channel| ≤ channelPeakToleranceDb

def Quiet (channel : ℕ) : Prop :=
  meter.dbfs (meter.rms (outOfSegment program wav channel)) < outOfSegmentRmsFloorDbfs

def Shaped : Prop :=
  wav.rate = program.sampleRateHz ∧ wav.frames = program.totalSamples ∧ wav.channels = program.channels ∧ wav.int16 = true

end Sound

section Checks

variable {K : Type} {program : ExcitationProgram K} {wav : Wav} {channel : ℕ}

theorem readProgramPcm_eq_some {pcm : Wav} : readProgramPcm program wav = some pcm ↔ Shaped program wav ∧ wav = pcm := by
  unfold readProgramPcm Shaped
  split <;> rename_i other
  · constructor
    · nofun
    · rintro ⟨⟨rate, frames, channels, int16⟩, -⟩
      simp [rate, frames, channels, int16] at other
  · push Not at other
    simpa using fun _ => other

variable [Field K]

theorem level_mem_column {frame : ℕ} (within : frame < wav.frames) (channel : ℕ) :
    (wav.level frame channel : K) ∈ wav.column (K := K) channel :=
  List.mem_map.mpr ⟨frame, List.mem_range.mpr within, rfl⟩

variable [LinearOrder K] {meter : Meter K} {capDbfs sessionVolumeDb : K}

theorem channelFacts_eq_nil {role : String} :
    (channelFacts meter program wav channel role capDbfs sessionVolumeDb).2 = [] ↔
      PeakPasses meter program channel capDbfs sessionVolumeDb (Meter.peak (wav.column channel)) ∧ Quiet meter program wav channel := by
  simp only [channelFacts, PeakPasses, Quiet, List.append_eq_nil_iff, ite_eq_left_iff, decide_eq_true_eq, reduceCtorEq, imp_false,
    not_not]
  tauto

theorem not_carries_declared (idle : ¬Carries program channel) :
    channelDeclaredPeakDbfs meter program channel = meter.dbfs 0 := by
  have none : program.stimulusSegments.filter (·.channel = some channel) = [] := by
    rw [List.filter_eq_nil_iff]
    intro segment stimulus on
    exact idle ⟨segment, stimulus, of_decide_eq_true on⟩
  rw [channelDeclaredPeakDbfs, none, List.map_nil]

variable [IsStrictOrderedRing K]

theorem PeakPasses.capped (passes : PeakPasses meter program channel capDbfs sessionVolumeDb (Meter.peak (wav.column channel)))
    {looser : K} (le : capDbfs ≤ looser) : Capped meter wav channel looser sessionVolumeDb := by
  intro frame within
  have quieter := meter.dbfs_mono (Meter.le_peak (level_mem_column within channel))
  have bound := passes.1
  linarith

theorem PeakPasses.mono {looser peak : K} (passes : PeakPasses meter program channel capDbfs sessionVolumeDb peak)
    (le : capDbfs ≤ looser) : PeakPasses meter program channel looser sessionVolumeDb peak :=
  ⟨passes.1.trans (by linarith), passes.2⟩

theorem PeakPasses.between {low high peak : K} (lower : PeakPasses meter program channel capDbfs sessionVolumeDb low)
    (upper : PeakPasses meter program channel capDbfs sessionVolumeDb high) (above : low ≤ peak) (below : peak ≤ high) :
    PeakPasses meter program channel capDbfs sessionVolumeDb peak := by
  have louder := meter.dbfs_mono above
  have quieter := meter.dbfs_mono below
  constructor
  · have bound := upper.1
    linarith
  · have near := abs_le.mp lower.2
    have far := abs_le.mp upper.2
    exact abs_le.mpr ⟨by linarith, by linarith⟩

-- The least step of the format is well above what a silent channel may read.
theorem PeakPasses.silent (passes : PeakPasses meter program channel capDbfs sessionVolumeDb (Meter.peak (wav.column channel)))
    (idle : ¬Carries program channel) : Silent (K := K) wav channel := by
  intro frame within
  by_contra audible
  have declared := (abs_le.mp passes.2).2
  rw [not_carries_declared idle, meter.dbfs_silence] at declared
  have step : (1 : K) / 10 ^ 5 ≤ |(wav.level frame channel : K)| := by
    have nonzero : (wav.sample frame channel).toInt ≠ 0 := by
      intro zero
      rw [Wav.level, pcmLevel, zero, Int.cast_zero, zero_div] at audible
      exact audible rfl
    have least : (1 : K) ≤ |((wav.sample frame channel).toInt : K)| := by
      exact_mod_cast Int.one_le_abs nonzero
    rw [Wav.level, pcmLevel, abs_div, le_div_iff₀ (by norm_num)]
    refine le_trans ?_ least
    norm_num
  have louder := meter.dbfs_mono (step.trans (Meter.le_peak (level_mem_column within channel)))
  rw [meter.dbfs_fine] at louder
  have tolerance : (channelPeakToleranceDb : K) = 1 / 2 := rfl
  linarith

theorem gateAllowance_nonneg (segment : GatedSegment K) : 0 ≤ gateAllowance meter segment := by
  apply mul_nonneg (meter.pow_pos _).le
  unfold gateLeakRatioCeiling
  split
  · positivity
  · have cosine := meter.cosPi_le (1 / segment.gateFadeSamples)
    linarith

theorem gateLeaks_eq_false {segment : GatedSegment K} (stimulus : segment ∈ program.stimulusSegments) (shaped : Shaped program wav)
    (gated : segment.isGated = true) : gateLeaks meter wav segment = false ↔ GateApplied meter wav segment := by
  obtain ⟨channel, on⟩ := ExcitationProgram.exists_channel stimulus
  have within : segment.startSample + segment.nSamples ≤ wav.frames := shaped.2.1 ▸ ExcitationProgram.endSample_le stimulus
  have audible : 0 < meter.amplitude segment.gainDb := meter.pow_pos _
  simp only [gateLeaks, gated, on, within, audible, GateApplied, gateAllowance, decide_true, Bool.true_and, Bool.and_eq_false_iff,
    decide_eq_false_iff_not, not_not, not_lt, Option.some.injEq, forall_eq']
  constructor
  · rintro (empty | bound)
    · rw [empty, Meter.rms, if_pos rfl]
      exact gateAllowance_nonneg segment
    · exact bound
  · exact .inr

theorem gateLeakRefusals_eq_nil (shaped : Shaped program wav) : gateLeakRefusals meter program wav = [] ↔
    ∀ segment ∈ program.stimulusSegments, segment.isGated = true → GateApplied meter wav segment := by
  rw [gateLeakRefusals, List.map_eq_nil_iff, List.filter_eq_nil_iff]
  refine forall₂_congr fun segment stimulus => ?_
  rw [Bool.not_eq_true]
  by_cases gated : segment.isGated = true
  · rw [gateLeaks_eq_false stimulus shaped gated]
    exact (imp_iff_right gated).symm
  · simp [gateLeaks, gated]

end Checks

section Rewriting

/-- The same file, where other samples are put on one channel. -/
def Wav.write (wav : Wav) (channel : ℕ) (there : ℕ → Bool) (sample : Int16) : Wav :=
  { wav with sample := fun frame other => if other = channel ∧ there frame = true then sample else wav.sample frame other }

variable {K : Type} {program : ExcitationProgram K} {wav : Wav} {channel : ℕ} {there : ℕ → Bool} {sample : Int16}

theorem shaped_write : Shaped program (wav.write channel there sample) ↔ Shaped program wav := Iff.rfl

variable [Field K]

theorem level_write {frame : ℕ} (written : there frame = true) :
    ((wav.write channel there sample).level frame channel : K) = pcmLevel sample := by
  simp only [Wav.level, Wav.write, written, and_self, if_true]

theorem level_write_of_not {frame other : ℕ} (kept : ¬(other = channel ∧ there frame = true)) :
    ((wav.write channel there sample).level frame other : K) = wav.level frame other := by
  simp only [Wav.level, Wav.write, kept, if_false]

variable [LinearOrder K] {meter : Meter K}

theorem channelFacts_write {other : ℕ} (elsewhere : other ≠ channel) (role : String) (capDbfs sessionVolumeDb : K) :
    channelFacts meter program (wav.write channel there sample) other role capDbfs sessionVolumeDb =
      channelFacts meter program wav other role capDbfs sessionVolumeDb := by
  have level (frame : ℕ) : ((wav.write channel there sample).level frame other : K) = wav.level frame other :=
    level_write_of_not fun same => elsewhere same.1
  have column : (wav.write channel there sample).column (K := K) other = wav.column other :=
    List.map_congr_left fun frame _ => level frame
  have outside : outOfSegment (K := K) program (wav.write channel there sample) other = outOfSegment program wav other :=
    List.map_congr_left fun frame _ => level frame
  rw [channelFacts, channelFacts, column, outside]

theorem gateApplied_write {segment : GatedSegment K} (elsewhere : segment.channel ≠ some channel) :
    GateApplied meter (wav.write channel there sample) segment ↔ GateApplied meter wav segment := by
  refine forall₂_congr fun other on => ?_
  have level (frame : ℕ) : ((wav.write channel there sample).level frame other : K) = wav.level frame other :=
    level_write_of_not fun same => elsewhere (same.1 ▸ on)
  have window : outsideGate (wav.write channel there sample) segment other = outsideGate wav segment other := by
    simp only [outsideGate, level]
  rw [window]

end Rewriting

section DriverDoor

theorem channelRoles_eq_some {K : Type} {segments : List (GatedSegment K)} {roles result : List (ℕ × String)}
    (made : channelRoles segments roles = .ok (some result)) :
    (∀ channel role, roles.lookup channel = some role → result.lookup channel = some role) ∧
      (∀ segment ∈ segments, ∃ channel role, segment.channel = some channel ∧ segment.role = some role ∧
        result.lookup channel = some role) ∧
      ∀ routed ∈ result, routed ∈ roles ∨ ∃ segment ∈ segments, segment.channel = some routed.1 := by
  induction segments generalizing roles with
  | nil =>
    obtain rfl : roles = result := by simpa [channelRoles] using made
    exact ⟨fun _ _ kept => kept, fun _ among => absurd among List.not_mem_nil, fun _ among => .inl among⟩
  | cons segment segments ih =>
    rw [channelRoles] at made
    split at made
    next channel role on plays =>
      cases found : roles.lookup channel with
      | none =>
        rw [found] at made
        obtain ⟨kept, covered, from_either⟩ := ih made
        have first : result.lookup channel = some role := by
          apply kept
          rw [List.lookup_append, found, Option.none_or, List.lookup_cons_self]
        refine ⟨fun other name known => kept other name ?_, ?_, fun routed among => ?_⟩
        · rw [List.lookup_append, known, Option.some_or]
        · exact List.forall_mem_cons.mpr ⟨⟨channel, role, on, plays, first⟩, covered⟩
        · obtain earlier | ⟨later, mem, same⟩ := from_either routed among
          · obtain earlier | new := List.mem_append.mp earlier
            · exact .inl earlier
            · obtain rfl := List.mem_singleton.mp new
              exact .inr ⟨segment, List.mem_cons_self, on⟩
          · exact .inr ⟨later, List.mem_cons_of_mem _ mem, same⟩
      | some existing =>
        rw [found] at made
        dsimp only at made
        split at made
        next same =>
          obtain ⟨kept, covered, from_either⟩ := ih made
          refine ⟨kept, List.forall_mem_cons.mpr ⟨⟨channel, role, on, plays, kept channel role (same ▸ found)⟩, covered⟩, ?_⟩
          intro routed among
          obtain earlier | ⟨later, mem, same⟩ := from_either routed among
          · exact .inl earlier
          · exact .inr ⟨later, List.mem_cons_of_mem _ mem, same⟩
        next => simp at made
    next => cases made

variable {K : Type} [Field K] [LinearOrder K] (meter : Meter K) (profile : SafetyProfile K)
  (roleTargets : List (String × Fingerprint)) (sessionVolumeDb : K) (program : ExcitationProgram K) (wav : Wav)

def DriverAdmits : Prop :=
  ∃ admission, readmitProgramFromWav meter profile roleTargets sessionVolumeDb program wav = .ok admission ∧ admission.allowed = true

-- A channel of this door plays the driver that its segments name.
def driverReaches (channel : ℕ) (capDbfs : K) : Prop :=
  ∃ segment ∈ program.stimulusSegments, segment.channel = some channel ∧
    ∃ role target band, segment.role = some role ∧ roleTargets.lookup role = some target ∧
      profile.resolveDriverExcitationCeilings target = .ok (band, capDbfs)

variable {meter profile roleTargets sessionVolumeDb program wav}

theorem admitRender_eq_nil {roles : List (ℕ × String)} (shaped : Shaped program wav) :
    (admitRender meter profile roleTargets sessionVolumeDb program wav roles).2 = [] ↔
      gateLeakRefusals meter program wav = [] ∧
        ∀ routed ∈ roles, (admitChannel meter profile roleTargets sessionVolumeDb program wav routed).2 = [] := by
  rw [admitRender, if_neg (not_not_intro shaped.2.2.1), List.append_eq_nil_iff, List.flatMap_eq_nil_iff]
  simp only [ite_eq_left_iff, reduceCtorEq, imp_false, not_not, List.forall_mem_map, List.mem_insertionSort]

theorem driverAdmits_iff : DriverAdmits meter profile roleTargets sessionVolumeDb program wav ↔
    program.phase ≠ .verify ∧ Shaped program wav ∧
      ∃ roles segments, channelRoles program.stimulusSegments [] = .ok (some roles) ∧
        admitSegments meter profile roleTargets sessionVolumeDb program.stimulusSegments = .ok segments ∧
        segments.flatMap Prod.snd = [] ∧ gateLeakRefusals meter program wav = [] ∧
        ∀ routed ∈ roles, (admitChannel meter profile roleTargets sessionVolumeDb program wav routed).2 = [] := by
  constructor
  · rintro ⟨admission, admitted, allowed⟩
    rw [allowed_eq_true] at allowed
    unfold readmitProgramFromWav at admitted
    split at admitted
    next => nomatch admitted
    next driver =>
      cases read : readProgramPcm program wav with
      | none =>
        rw [read] at admitted
        obtain rfl := Except.ok.inj admitted
        nomatch allowed
      | some pcm =>
        obtain ⟨shaped, rfl⟩ := readProgramPcm_eq_some.mp read
        rw [read] at admitted
        obtain ⟨roles, made, admitted⟩ := Outcome.bind_eq_ok.mp admitted
        obtain ⟨segments, prepared, admitted⟩ := Outcome.bind_eq_ok.mp admitted
        obtain rfl := Except.ok.inj admitted
        rw [firstSeen_eq_nil, List.append_eq_nil_iff, List.append_eq_nil_iff] at allowed
        obtain ⟨⟨consistent, passed⟩, rendered⟩ := allowed
        cases roles with
        | none => nomatch consistent
        | some roles => exact ⟨driver, shaped, roles, segments, made, prepared, passed, (admitRender_eq_nil shaped).mp rendered⟩
  · rintro ⟨driver, shaped, roles, segments, made, prepared, passed, rendered⟩
    unfold DriverAdmits readmitProgramFromWav
    rw [if_neg driver, readProgramPcm_eq_some.mpr ⟨shaped, rfl⟩]
    dsimp only
    rw [evaluateProgram, made, prepared]
    refine ⟨_, rfl, ?_⟩
    rw [allowed_eq_true]
    exact firstSeen_eq_nil.mpr (by
      rw [passed, Option.getD_some, (admitRender_eq_nil shaped).mpr rendered]
      rfl)

theorem admitChannel_eq_nil {routed : ℕ × String} {target : Fingerprint} {band : FrequencyBand K} {capDbfs : K}
    (mapped : roleTargets.lookup routed.2 = some target)
    (resolved : profile.resolveDriverExcitationCeilings target = .ok (band, capDbfs)) :
    (admitChannel meter profile roleTargets sessionVolumeDb program wav routed).2 = [] ↔
      PeakPasses meter program routed.1 capDbfs sessionVolumeDb (Meter.peak (wav.column routed.1)) ∧
        Quiet meter program wav routed.1 := by
  rw [admitChannel, mapped]
  dsimp only
  rw [resolved]
  exact channelFacts_eq_nil

variable [IsStrictOrderedRing K]

-- Every channel that carries a stimulus has its facts taken, and every gate is read back.
theorem DriverAdmits.sound (admits : DriverAdmits meter profile roleTargets sessionVolumeDb program wav)
    (carried : ∀ channel < program.channels, Carries program channel) :
    Sound meter program wav (driverReaches profile roleTargets program) sessionVolumeDb := by
  obtain ⟨-, shaped, roles, segments, made, -, -, gates, channels⟩ := driverAdmits_iff.mp admits
  obtain ⟨-, covered, -⟩ := channelRoles_eq_some made
  refine ⟨?_, ?_, (gateLeakRefusals_eq_nil shaped).mp gates⟩
  · rintro channel - capDbfs ⟨segment, stimulus, on, role, target, band, plays, mapped, resolved⟩
    obtain ⟨other, name, on', plays', found⟩ := covered segment stimulus
    obtain rfl : channel = other := Option.some.inj (on.symm.trans on')
    obtain rfl : role = name := Option.some.inj (plays.symm.trans plays')
    obtain ⟨before, after, split, -⟩ := List.lookup_eq_some_iff.mp found
    have routed : (channel, role) ∈ roles := by
      rw [split]
      exact List.mem_append_right _ List.mem_cons_self
    have passes := ((admitChannel_eq_nil mapped resolved).mp (channels _ routed)).1
    exact passes.capped le_rfl
  · intro channel within idle
    exact absurd (carried channel (shaped.2.2.1 ▸ within)) idle

/-- What is put on a channel without a stimulus is not looked at. -/
theorem DriverAdmits.write {channel : ℕ} (admits : DriverAdmits meter profile roleTargets sessionVolumeDb program wav)
    (idle : ¬Carries program channel) (there : ℕ → Bool) (sample : Int16) :
    DriverAdmits meter profile roleTargets sessionVolumeDb program (wav.write channel there sample) := by
  obtain ⟨driver, shaped, roles, segments, made, prepared, passed, gates, channels⟩ := driverAdmits_iff.mp admits
  obtain ⟨-, -, source⟩ := channelRoles_eq_some made
  refine driverAdmits_iff.mpr ⟨driver, shaped, roles, segments, made, prepared, passed, ?_, fun routed among => ?_⟩
  · rw [gateLeakRefusals_eq_nil (shaped_write.mpr shaped)]
    rw [gateLeakRefusals_eq_nil shaped] at gates
    intro segment stimulus gated
    exact (gateApplied_write fun on => idle ⟨segment, stimulus, on⟩).mpr (gates segment stimulus gated)
  · have elsewhere : routed.1 ≠ channel := by
      obtain none | ⟨segment, stimulus, on⟩ := source routed among
      · nomatch none
      · rintro rfl
        exact idle ⟨segment, stimulus, on⟩
    have same : admitChannel meter profile roleTargets sessionVolumeDb program (wav.write channel there sample) routed =
        admitChannel meter profile roleTargets sessionVolumeDb program wav routed := by
      simp only [admitChannel, channelFacts_write elsewhere]
    rw [same]
    exact channels routed among

/-- The driver door can be trusted about a schedule just when each of its channels carries a stimulus. -/
theorem driver_door : (∀ wav, DriverAdmits meter profile roleTargets sessionVolumeDb program wav →
      Sound meter program wav (driverReaches profile roleTargets program) sessionVolumeDb) ↔
    ((∃ wav, DriverAdmits meter profile roleTargets sessionVolumeDb program wav) →
      ∀ channel < program.channels, Carries program channel) := by
  constructor
  · rintro trusted ⟨wav, admits⟩ channel within
    by_contra idle
    have loud := admits.write idle (fun _ => true) 32767
    obtain ⟨-, shaped, -⟩ := driverAdmits_iff.mp admits
    have first : 0 < wav.frames := shaped.2.1 ▸ ExcitationProgram.totalSamples_pos
    have silent := (trusted _ loud).silent channel (shaped.2.2.1 ▸ within) idle 0 first
    rw [level_write rfl, pcmLevel, show (32767 : Int16).toInt = 32767 by decide, Int.cast_ofNat, div_self (by norm_num)] at silent
    exact one_ne_zero silent
  · intro carried wav admits
    exact admits.sound (carried ⟨wav, admits⟩)

end DriverDoor

end Jts.ActiveSpeaker
