import Jts.ActiveSpeaker.ProgramSoundness
import Jts.ActiveSpeaker.SummedAdmission

set_option autoImplicit false

namespace Jts.ActiveSpeaker

open Shared Excitation

section Reached

variable {K : Type} [Field K] [LinearOrder K] (profile : SafetyProfile K) (physical : List PhysicalTarget) (graph : TuningGraph K)
  (program : ExcitationProgram K)

-- The driver of a target that the take does not park, and what its cap leaves after the bass boost.
def Excites (targetId : String) (fingerprint : Fingerprint) (capDbfs : K) : Prop :=
  ∃ target band cap, physicalTarget physical fingerprint = some target ∧ parked graph program targetId target.outputIndex = false ∧
    profile.resolveDriverExcitationCeilings fingerprint = .ok (band, cap) ∧ capDbfs = cap - graph.boostDb target.outputIndex

def takeChannel (targetId : String) : Option ℕ := if program.isBranchProgram then branchChannel program targetId else some 0

def summedReaches (roleTargets : List (String × Fingerprint)) (channel : ℕ) (capDbfs : K) : Prop :=
  ∃ entry ∈ roleTargets, takeChannel program entry.1 = some channel ∧ Excites profile physical graph program entry.1 entry.2 capDbfs

variable {profile physical graph program}

theorem Excites.channel {targetId : String} {fingerprint : Fingerprint} {capDbfs : K}
    (excites : Excites profile physical graph program targetId fingerprint capDbfs) :
    ∃ channel, takeChannel program targetId = some channel := by
  obtain ⟨target, _, _, _, routed, _⟩ := excites
  unfold takeChannel
  split
  next branch =>
    rw [parked, if_pos branch, decide_eq_false_iff_not] at routed
    exact Option.ne_none_iff_exists'.mp routed
  next => exact ⟨0, rfl⟩

end Reached

theorem smallestCap_eq_ok {K : Type} [LinearOrder K] {caps : List K} {cap : K} (least : smallestCap caps = .ok cap) :
    cap ∈ caps ∧ ∀ other ∈ caps, cap ≤ other := by
  cases caps with
  | nil => nomatch least
  | cons first rest =>
    obtain rfl := Except.ok.inj least
    obtain ⟨start, below⟩ := Extremum.foldl_min_le rest first
    refine ⟨?_, List.forall_mem_cons.mpr ⟨start, below⟩⟩
    obtain same | among := Extremum.foldl_min_among rest first
    · rw [same]
      exact List.mem_cons_self
    · exact List.mem_cons_of_mem _ among

section Takes

variable {K : Type} [Field K] [LinearOrder K] {meter : Meter K} {profile : SafetyProfile K} {physical : List PhysicalTarget}
  {graph : TuningGraph K} {roleTargets : List (String × Fingerprint)} {sessionVolumeDb : K} {program : ExcitationProgram K}

theorem summedTarget_caps {targetId : String} {fingerprint : Fingerprint} {take : Option (K × List (SegmentAdmission K))}
    (taken : summedTarget meter profile physical graph sessionVolumeDb program targetId fingerprint = .ok take) (capDbfs : K) :
    capDbfs ∈ take.toList.map Prod.fst ↔ Excites profile physical graph program targetId fingerprint capDbfs := by
  unfold summedTarget at taken
  cases target : physicalTarget physical fingerprint with
  | none =>
    rw [target] at taken
    dsimp only at taken
    have unknown : ¬Excites profile physical graph program targetId fingerprint capDbfs := by
      rintro ⟨_, _, _, known, -⟩
      rw [target] at known
      nomatch known
    split at taken
    · obtain rfl := Except.ok.inj taken
      exact iff_of_false nofun unknown
    · nomatch taken
  | some target' =>
    rw [target] at taken
    dsimp only at taken
    split at taken
    next away =>
      obtain rfl := Except.ok.inj taken
      refine iff_of_false nofun ?_
      rintro ⟨other, _, _, known, routed, -⟩
      obtain rfl : target' = other := Option.some.inj (target.symm.trans known)
      rw [away] at routed
      nomatch routed
    next routed =>
      have bound : ∀ band cap, profile.resolveDriverExcitationCeilings fingerprint = .ok (band, cap) →
          (Excites profile physical graph program targetId fingerprint capDbfs ↔ capDbfs = cap - graph.boostDb target'.outputIndex) := by
        intro band cap resolved
        constructor
        · rintro ⟨other, band', cap', known, -, resolved', rfl⟩
          obtain rfl : target' = other := Option.some.inj (target.symm.trans known)
          obtain ⟨-, rfl⟩ := Prod.mk.inj (Except.ok.inj (resolved.symm.trans resolved'))
          rfl
        · rintro rfl
          exact ⟨target', band, cap, target, Bool.not_eq_true _ ▸ routed, resolved, rfl⟩
      split at taken
      next band cap duration resolved timed =>
        split at taken
        next => nomatch taken
        next =>
          split at taken
          next => nomatch taken
          next requirements =>
            split at taken
            next =>
              obtain ⟨segments, made, taken⟩ := Outcome.bind_eq_ok.mp taken
              obtain rfl := Except.ok.inj taken
              rw [bound band cap resolved]
              exact List.mem_singleton
            next => nomatch taken
      next => nomatch taken
      next => nomatch taken

theorem summedTakes_caps {entries : List (String × Fingerprint)} {takes : List (K × List (SegmentAdmission K))}
    (taken : summedTakes meter profile physical graph sessionVolumeDb program entries = .ok takes) (capDbfs : K) :
    capDbfs ∈ takes.map Prod.fst ↔ ∃ entry ∈ entries, Excites profile physical graph program entry.1 entry.2 capDbfs := by
  induction entries generalizing takes with
  | nil =>
    obtain rfl := Except.ok.inj taken
    simp
  | cons entry entries ih =>
    obtain ⟨first, one, taken⟩ := Outcome.bind_eq_ok.mp taken
    obtain ⟨others, rest, taken⟩ := Outcome.bind_eq_ok.mp taken
    obtain rfl := Except.ok.inj taken
    rw [List.map_append, List.mem_append, summedTarget_caps one, ih rest, List.exists_mem_cons_iff]

/-- The one cap that every channel is held to is the smallest that a driver of the take leaves. -/
theorem summedRequests_cap {segments : List (SegmentAdmission K)} {cap : K}
    (made : summedRequests meter profile physical graph roleTargets sessionVolumeDb program = .ok (segments, cap)) :
    (∃ channel, summedReaches profile physical graph program roleTargets channel cap) ∧
      ∀ channel other, summedReaches profile physical graph program roleTargets channel other → cap ≤ other := by
  obtain ⟨-, -, made⟩ := Outcome.bind_eq_ok.mp made
  obtain ⟨takes, taken, made⟩ := Outcome.bind_eq_ok.mp made
  obtain ⟨least, smallest, made⟩ := Outcome.bind_eq_ok.mp made
  obtain ⟨-, rfl⟩ := Prod.mk.inj (Except.ok.inj made)
  obtain ⟨among, below⟩ := smallestCap_eq_ok smallest
  constructor
  · obtain ⟨entry, mem, excites⟩ := (summedTakes_caps taken least).mp among
    obtain ⟨channel, on⟩ := excites.channel
    exact ⟨channel, entry, mem, on, excites⟩
  · rintro channel other ⟨entry, mem, -, excites⟩
    exact below other ((summedTakes_caps taken other).mpr ⟨entry, mem, excites⟩)

end Takes

section SummedDoor

variable {K : Type} [Field K] [LinearOrder K] (meter : Meter K) (profile : SafetyProfile K) (physical : List PhysicalTarget)
  (graph : TuningGraph K) (roleTargets : List (String × Fingerprint)) (sessionVolumeDb : K) (program : ExcitationProgram K)
  (wav : Wav)

def SummedAdmits : Prop :=
  ∃ admission, readmitSummedProgramFromWav meter profile physical graph roleTargets sessionVolumeDb program wav = .ok admission ∧
    admission.allowed = true

variable {meter profile physical graph roleTargets sessionVolumeDb program wav}

theorem summedAdmits_iff : SummedAdmits meter profile physical graph roleTargets sessionVolumeDb program wav ↔
    summedGraph profile physical graph roleTargets sessionVolumeDb program = .ok () ∧ Shaped program wav ∧
      ∃ segments cap, summedRequests meter profile physical graph roleTargets sessionVolumeDb program = .ok (segments, cap) ∧
        (∀ segment ∈ segments, segment.executionAllowed = true) ∧ ∀ channel < program.channels,
          PeakPasses meter program channel cap sessionVolumeDb (Meter.peak (wav.column channel)) ∧ Quiet meter program wav channel := by
  have refusals (segments : List (SegmentAdmission K)) (cap : K) :
      firstSeen ((segments.filter (!·.executionAllowed)).map (fun _ => ProgramAdmissionRefusal.segmentOutsideLimits) ++
        (summedFacts meter sessionVolumeDb program wav cap).flatMap Prod.snd) = [] ↔
      (∀ segment ∈ segments, segment.executionAllowed = true) ∧ ∀ channel < program.channels,
        PeakPasses meter program channel cap sessionVolumeDb (Meter.peak (wav.column channel)) ∧ Quiet meter program wav channel := by
    rw [firstSeen_eq_nil, List.append_eq_nil_iff, List.map_eq_nil_iff, List.filter_eq_nil_iff, List.flatMap_eq_nil_iff, summedFacts,
      List.forall_mem_map]
    simp only [Bool.not_eq_true', Bool.not_eq_false, List.mem_range, channelFacts_eq_nil]
  constructor
  · rintro ⟨admission, admitted, allowed⟩
    rw [allowed_eq_true] at allowed
    unfold readmitSummedProgramFromWav at admitted
    split at admitted
    next made admission' found =>
      obtain rfl := Except.ok.inj admitted
      obtain ⟨⟨⟩, approved, found⟩ := Outcome.bind_eq_ok.mp found
      cases read : readProgramPcm program wav with
      | none =>
        rw [read] at found
        nomatch found
      | some pcm =>
        obtain ⟨shaped, rfl⟩ := readProgramPcm_eq_some.mp read
        rw [read] at found
        obtain ⟨⟨segments, cap⟩, made, found⟩ := Outcome.bind_eq_ok.mp found
        obtain rfl := Except.ok.inj found
        exact ⟨approved, shaped, segments, cap, made, (refusals segments cap).mp allowed⟩
    next =>
      obtain rfl := Except.ok.inj admitted
      nomatch allowed
    next => nomatch admitted
  · rintro ⟨approved, shaped, segments, cap, made, passed⟩
    obtain ⟨admission, admitted, refused⟩ :
        ∃ admission, summedAdmission meter profile physical graph roleTargets sessionVolumeDb program wav = .ok admission ∧
          admission.refusals = firstSeen (_ ++ (summedFacts meter sessionVolumeDb program wav cap).flatMap Prod.snd) := by
      rw [summedAdmission, approved, readProgramPcm_eq_some.mpr ⟨shaped, rfl⟩, made]
      exact ⟨_, rfl, rfl⟩
    refine ⟨admission, ?_, allowed_eq_true.mpr (refused.trans ((refusals segments cap).mpr passed))⟩
    rw [readmitSummedProgramFromWav, admitted]

variable (meter profile physical graph roleTargets sessionVolumeDb program)

/-- No level of the format that passes the checks of a channel's peak is more than a closing gate on it leaves. -/
def PeaksWithinGates : Prop :=
  ∀ segment ∈ program.stimulusSegments, segment.closes = true → ∀ channel, segment.channel = some channel → ∀ sample : Int16,
    (∀ other capDbfs, summedReaches profile physical graph program roleTargets other capDbfs →
      PeakPasses meter program channel capDbfs sessionVolumeDb |(pcmLevel sample : K)|) →
    |(pcmLevel sample : K)| ≤ gateAllowance meter segment

end SummedDoor

section Outside

def isOutside {K : Type} (segment : GatedSegment K) (frame : ℕ) : Bool :=
  segment.startSample ≤ frame && frame < segment.startSample + segment.nSamples &&
    (frame < segment.startSample + segment.gateStartSample || segment.startSample + segment.gateEnd ≤ frame)

theorem isOutside_lt {K : Type} {program : ExcitationProgram K} {wav : Wav} {segment : GatedSegment K} {frame : ℕ}
    (stimulus : segment ∈ program.stimulusSegments) (shaped : Shaped program wav) (outside : isOutside segment frame = true) :
    frame < wav.frames := by
  have ends : segment.startSample + segment.nSamples ≤ program.totalSamples := ExcitationProgram.endSample_le stimulus
  simp only [isOutside, Bool.and_eq_true, decide_eq_true_eq] at outside
  rw [shaped.2.1]
  omega

variable {K : Type} {program : ExcitationProgram K} {wav : Wav} {segment : GatedSegment K} {channel : ℕ}

theorem exists_isOutside (closes : segment.closes = true) : ∃ frame, isOutside segment frame = true := by
  have opens : segment.gateStartSample < segment.gateEnd := segment.gateOpens
  have within : segment.gateEnd ≤ segment.nSamples := segment.gateWithin
  simp only [GatedSegment.closes, Bool.or_eq_true, decide_eq_true_eq] at closes
  simp only [isOutside, Bool.and_eq_true, Bool.or_eq_true, decide_eq_true_eq]
  obtain late | early := closes
  · exact ⟨segment.startSample, by omega⟩
  · exact ⟨segment.startSample + segment.gateEnd, by omega⟩

variable [Field K]

theorem mem_outsideGate {level : K} : level ∈ outsideGate wav segment channel ↔
    ∃ frame, isOutside segment frame = true ∧ wav.level frame channel = level := by
  have opens : segment.gateStartSample < segment.gateEnd := segment.gateOpens
  have within : segment.gateEnd ≤ segment.nSamples := segment.gateWithin
  simp only [outsideGate, List.take_range'_of_length_ge (opens.le.trans within), List.drop_range', ← List.map_take, ← List.map_drop,
    ← List.map_append, List.mem_map, List.mem_append, List.mem_range'_1, isOutside, Bool.and_eq_true,
    Bool.or_eq_true, decide_eq_true_eq]
  refine exists_congr fun frame => and_congr_left fun _ => ?_
  omega

theorem outsideGate_eq_nil (opened : ¬segment.closes = true) : outsideGate (K := K) wav segment channel = [] := by
  rw [List.eq_nil_iff_forall_not_mem]
  intro level among
  obtain ⟨frame, outside, -⟩ := mem_outsideGate.mp among
  simp only [GatedSegment.closes, Bool.or_eq_true, decide_eq_true_eq, not_or, not_not] at opened
  simp only [isOutside, Bool.and_eq_true, Bool.or_eq_true, decide_eq_true_eq] at outside
  omega

variable [LinearOrder K] {meter : Meter K} {there : ℕ → Bool} {sample : Int16}

-- A channel is listened to outside of its segments only.
theorem quiet_write (stimulus : segment ∈ program.stimulusSegments) (on : segment.channel = some channel) :
    Quiet meter program (wav.write channel (isOutside segment) sample) channel ↔ Quiet meter program wav channel := by
  have residual : outOfSegment (K := K) program (wav.write channel (isOutside segment) sample) channel =
      outOfSegment program wav channel := by
    refine List.map_congr_left fun frame among => level_write_of_not fun same => ?_
    have apart := List.all_eq_true.mp (List.mem_filter.mp among).2 segment (ExcitationProgram.stimulus_audible stimulus)
    have inside := same.2
    simp only [on, isOutside, decide_true, Bool.true_and, Bool.not_eq_true', Bool.and_eq_false_iff,
      Bool.and_eq_true, decide_eq_true_eq, decide_eq_false_iff_not] at apart inside
    omega
  rw [Quiet, Quiet, residual]

variable [IsStrictOrderedRing K]

-- The peak of the channel is the old one at most, or the new level.
theorem peakPasses_write {capDbfs sessionVolumeDb : K} (stimulus : segment ∈ program.stimulusSegments)
    (shaped : Shaped program wav) (closes : segment.closes = true)
    (before : PeakPasses meter program channel capDbfs sessionVolumeDb (Meter.peak (wav.column channel)))
    (level : PeakPasses meter program channel capDbfs sessionVolumeDb |(pcmLevel sample : K)|) :
    PeakPasses meter program channel capDbfs sessionVolumeDb
      (Meter.peak ((wav.write channel (isOutside segment) sample).column channel)) := by
  obtain ⟨frame, outside⟩ := exists_isOutside closes
  have within := isOutside_lt stimulus shaped outside
  have above : |(pcmLevel sample : K)| ≤ Meter.peak ((wav.write channel (isOutside segment) sample).column channel) := by
    have among : (pcmLevel sample : K) ∈ (wav.write channel (isOutside segment) sample).column channel :=
      List.mem_map.mpr ⟨frame, List.mem_range.mpr within, level_write outside⟩
    exact Meter.le_peak among
  have below : Meter.peak ((wav.write channel (isOutside segment) sample).column channel) ≤
      max (Meter.peak (wav.column channel)) |(pcmLevel sample : K)| := by
    apply Meter.peak_le ((abs_nonneg _).trans (le_max_right _ _))
    intro written among
    obtain ⟨frame, mem, rfl⟩ := List.mem_map.mp among
    by_cases outside : isOutside segment frame = true
    · rw [level_write outside]
      exact le_max_right _ _
    · have old : |(wav.level frame channel : K)| ≤ Meter.peak (wav.column channel) :=
        Meter.le_peak (List.mem_map.mpr ⟨frame, mem, rfl⟩)
      rw [level_write_of_not fun same => outside same.2]
      exact old.trans (le_max_left _ _)
  have upper : PeakPasses meter program channel capDbfs sessionVolumeDb
      (max (Meter.peak (wav.column channel)) |(pcmLevel sample : K)|) := by
    obtain eq | eq := max_choice (Meter.peak (wav.column channel)) |(pcmLevel sample : K)| <;> rw [eq]
    · exact before
    · exact level
  exact level.between upper above below

end Outside

section SummedTrust

variable {K : Type} [Field K] [LinearOrder K] [IsStrictOrderedRing K] {meter : Meter K} {profile : SafetyProfile K}
  {physical : List PhysicalTarget} {graph : TuningGraph K} {roleTargets : List (String × Fingerprint)} {sessionVolumeDb : K}
  {program : ExcitationProgram K} {wav : Wav}

theorem SummedAdmits.sound (admits : SummedAdmits meter profile physical graph roleTargets sessionVolumeDb program wav)
    (gates : PeaksWithinGates meter profile physical graph roleTargets sessionVolumeDb program) :
    Sound meter program wav (summedReaches profile physical graph program roleTargets) sessionVolumeDb := by
  obtain ⟨-, shaped, segments, cap, made, -, facts⟩ := summedAdmits_iff.mp admits
  have least := (summedRequests_cap made).2
  refine ⟨?_, ?_, ?_⟩
  · intro channel within capDbfs reached
    exact (facts channel (shaped.2.2.1 ▸ within)).1.capped (least channel capDbfs reached)
  · intro channel within idle
    exact (facts channel (shaped.2.2.1 ▸ within)).1.silent idle
  · intro segment stimulus gated channel on
    by_cases closes : segment.closes = true
    · have passes := (facts channel (ExcitationProgram.channel_lt stimulus on)).1
      obtain ⟨outer, outside⟩ := exists_isOutside closes
      have some : wav.column (K := K) channel ≠ [] :=
        List.ne_nil_of_mem (level_mem_column (isOutside_lt stimulus shaped outside) channel)
      obtain ⟨level, among, eq⟩ := Meter.exists_eq_peak some
      obtain ⟨frame, -, rfl⟩ := List.mem_map.mp among
      have bound := gates segment stimulus closes channel on (wav.sample frame channel) fun other capDbfs reached => by
        rw [Wav.level] at eq
        exact eq ▸ passes.mono (least other capDbfs reached)
      apply meter.rms_le (gateAllowance_nonneg segment)
      intro level among
      obtain ⟨frame', outside, rfl⟩ := mem_outsideGate.mp among
      calc |(wav.level frame' channel : K)| ≤ Meter.peak (wav.column channel) :=
            Meter.le_peak (level_mem_column (isOutside_lt stimulus shaped outside) channel)
        _ = |(wav.level frame channel : K)| := eq
        _ ≤ gateAllowance meter segment := bound
    · rw [outsideGate_eq_nil closes, Meter.rms, if_pos rfl]
      exact gateAllowance_nonneg segment

/-- What is put outside of a gate, as loud as the channel may be, is not looked at. -/
theorem SummedAdmits.write {segment : GatedSegment K} {channel : ℕ} {sample : Int16}
    (admits : SummedAdmits meter profile physical graph roleTargets sessionVolumeDb program wav)
    (stimulus : segment ∈ program.stimulusSegments) (closes : segment.closes = true) (on : segment.channel = some channel)
    (passes : ∀ other capDbfs, summedReaches profile physical graph program roleTargets other capDbfs →
      PeakPasses meter program channel capDbfs sessionVolumeDb |(pcmLevel sample : K)|) :
    SummedAdmits meter profile physical graph roleTargets sessionVolumeDb program
      (wav.write channel (isOutside segment) sample) := by
  obtain ⟨approved, shaped, segments, cap, made, allowed, facts⟩ := summedAdmits_iff.mp admits
  obtain ⟨other, reached⟩ := (summedRequests_cap made).1
  refine summedAdmits_iff.mpr ⟨approved, shaped, segments, cap, made, allowed, fun played within => ?_⟩
  by_cases same : played = channel
  · subst same
    obtain ⟨before, quiet⟩ := facts played within
    exact ⟨peakPasses_write stimulus shaped closes before (passes other cap reached), (quiet_write stimulus on).mpr quiet⟩
  · have before : (channelFacts meter program wav played "summed" cap sessionVolumeDb).2 = [] :=
      channelFacts_eq_nil.mpr (facts played within)
    have after : (channelFacts meter program (wav.write channel (isOutside segment) sample) played "summed" cap
        sessionVolumeDb).2 = [] := by
      rw [channelFacts_write same, before]
    exact channelFacts_eq_nil.mp after

/-- The summed door can be trusted about a schedule just when no peak that it lets through is more than a gate leaves. -/
theorem summed_door : (∀ wav, SummedAdmits meter profile physical graph roleTargets sessionVolumeDb program wav →
      Sound meter program wav (summedReaches profile physical graph program roleTargets) sessionVolumeDb) ↔
    ((∃ wav, SummedAdmits meter profile physical graph roleTargets sessionVolumeDb program wav) →
      PeaksWithinGates meter profile physical graph roleTargets sessionVolumeDb program) := by
  constructor
  · rintro trusted ⟨wav, admits⟩ segment stimulus closes channel on sample passes
    have written := admits.write stimulus closes on passes
    have applied := (trusted _ written).gated segment stimulus (GatedSegment.isGated_of_closes closes) channel on
    obtain ⟨frame, outside⟩ := exists_isOutside closes
    rw [Meter.rms_steady meter (List.ne_nil_of_mem (mem_outsideGate.mpr ⟨frame, outside, rfl⟩))] at applied
    · exact applied
    · intro level among
      obtain ⟨frame, outside, rfl⟩ := mem_outsideGate.mp among
      rw [level_write outside]
  · intro gates wav admits
    exact admits.sound (gates ⟨wav, admits⟩)

end SummedTrust

end Jts.ActiveSpeaker
