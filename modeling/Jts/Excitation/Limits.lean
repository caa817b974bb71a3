import Mathlib
import Jts.Excitation.Laid
import Jts.Excitation.OneCycle

set_option autoImplicit false

namespace Jts.Excitation

open Shared.Outcome Shared.Rounding Shared.Extremum

variable {K : Type} [Field K] [LinearOrder K] [IsStrictOrderedRing K] [FloorRing K] (log : K → K)

attribute [local instance] two

section cycles

/-- How many cycles a sweep under a limit has: as many as are nearest to its nominal length, or, where those overrun, as many as fit. -/
def limitedCycles (f1Hz f2Hz nominalS limitS : K) : ℤ :=
  let nearest := roundHalfEven (nominalS / cycleS log f1Hz f2Hz)
  if nearest * cycleS log f1Hz f2Hz ≤ limitS then nearest else ⌊limitS / cycleS log f1Hz f2Hz⌋

/-- The cycles end nearer to the last sample that is whole within the limit than to the next one, a tie going to the even one. -/
def EndsWithin (f1Hz f2Hz nominalS limitS : K) : Prop :=
  let ends := limitedCycles log f1Hz f2Hz nominalS limitS * (cycleS log f1Hz f2Hz * programSampleRateHz)
  let last := ⌊limitS * programSampleRateHz⌋
  2 * ends < 2 * last + 1 ∨ 2 * ends = 2 * last + 1 ∧ Even last

variable {log} {f1Hz f2Hz nominalS limitS gainDb : K}

omit [FloorRing K] in
theorem rate_pos : (0 : K) < programSampleRateHz := by norm_num [programSampleRateHz]

theorem stimulus_within_iff {segmentId : String} {voice : Voice K} {durationS downstreamGainDb : K} {piece : Piece K}
    (made : stimulus log segmentId voice durationS gainDb downstreamGainDb = .ok piece)
    (cycles : roundHalfEven (durationS / cycleS log voice.f1Hz voice.f2Hz) = limitedCycles log voice.f1Hz voice.f2Hz nominalS limitS) :
    (piece.nSamples : K) / programSampleRateHz ≤ limitS ↔ EndsWithin log voice.f1Hz voice.f2Hz nominalS limitS := by
  obtain ⟨sweep, swept, some, rfl⟩ := stimulus_eq_ok made
  obtain ⟨-, eq⟩ := wholeCycles_of_ok swept
  have cast : ((sweep.nSamples.toNat : ℕ) : K) = sweep.nSamples := by
    have whole : (sweep.nSamples.toNat : ℤ) = sweep.nSamples := Int.toNat_of_nonneg (by omega)
    exact_mod_cast congrArg (fun count : ℤ => (count : K)) whole
  have counted : sweep.nSamples = roundHalfEven (limitedCycles log voice.f1Hz voice.f2Hz nominalS limitS *
      (cycleS log voice.f1Hz voice.f2Hz * programSampleRateHz)) := by
    rw [eq, ← cycles]
    rfl
  rw [cast, div_le_iff₀ rate_pos, ← Int.le_floor, counted, roundHalfEven_le_iff]
  rfl

/-- What phase closing gives back is the most cycles that fit. -/
theorem phaseClosingDurationS_ok (rises : ∀ ratio : K, 1 < ratio → 0 < log ratio)
    (able : Sweepable f1Hz f2Hz programSampleRateHz (automaticMeasurementStimulusPeakDbfs : K)) {fittedS : K}
    (closed : phaseClosingDurationS log phaseClosingRounds f1Hz f2Hz limitS programSampleRateHz = .ok fittedS) :
    fittedS = ⌊limitS / cycleS log f1Hz f2Hz⌋ * cycleS log f1Hz f2Hz := by
  have positive : 0 < limitS := by
    by_contra none
    unfold phaseClosingDurationS at closed
    rw [if_pos (not_lt.mp none)] at closed
    cases closed
  obtain ⟨fits, short⟩ := phaseClosingDurationS_eq rises able positive 0
  rcases le_or_gt (cycleS log f1Hz f2Hz) limitS with one | none
  · exact Except.ok.inj (closed.symm.trans (fits one))
  · obtain error | error := short none
    · cases closed.symm.trans error
    · cases closed.symm.trans error

omit [IsStrictOrderedRing K] [FloorRing K] in
/-- The level does not decide what can be swept, as long as it is none above full scale. -/
theorem Sweepable.automatic {sampleRate : ℕ} {amplitudeDbfs other : K} (able : Sweepable f1Hz f2Hz sampleRate amplitudeDbfs) (quiet : other ≤ 0) :
    Sweepable f1Hz f2Hz sampleRate other := ⟨quiet, able.positive, able.ascending, able.below⟩

omit [FloorRing K] in
theorem automatic_quiet : (automaticMeasurementStimulusPeakDbfs : K) ≤ 0 := by norm_num [automaticMeasurementStimulusPeakDbfs]

theorem fittedMeta_cycles (rises : ∀ ratio : K, 1 < ratio → 0 < log ratio) {durationS : K} {sweep : SweepMeta K}
    (fitted : fittedMeta log f1Hz f2Hz nominalS gainDb (some limitS) = .ok (sweep, durationS)) :
    roundHalfEven (durationS / cycleS log f1Hz f2Hz) = limitedCycles log f1Hz f2Hz nominalS limitS := by
  obtain ⟨nominal, swept, fitted⟩ := bind_eq_ok.mp fitted
  obtain ⟨-, eq⟩ := wholeCycles_of_ok swept
  have able := sweepable_of_ok swept
  have step := cycleS_pos rises able
  have length : nominal.durationS = roundHalfEven (nominalS / cycleS log f1Hz f2Hz) * cycleS log f1Hz f2Hz := by
    rw [eq]
    rfl
  dsimp only at fitted
  rw [length] at fitted
  unfold limitedCycles
  dsimp only
  by_cases fits : (roundHalfEven (nominalS / cycleS log f1Hz f2Hz) : K) * cycleS log f1Hz f2Hz ≤ limitS
  · rw [if_pos fits] at fitted
    obtain ⟨-, rfl⟩ := Prod.mk.inj (Except.ok.inj fitted)
    exact (if_pos fits).symm
  · rw [if_neg fits] at fitted
    rw [if_neg fits]
    cases closed : phaseClosingDurationS log phaseClosingRounds f1Hz f2Hz limitS programSampleRateHz with
    | error error =>
        rw [closed] at fitted
        cases fitted
    | ok fittedS =>
        rw [closed] at fitted
        obtain ⟨again, sweptAgain, fitted⟩ := bind_eq_ok.mp fitted
        obtain ⟨-, rfl⟩ := Prod.mk.inj (Except.ok.inj fitted)
        obtain rfl := phaseClosingDurationS_ok rises (able.automatic automatic_quiet) closed
        obtain ⟨-, rfl⟩ := wholeCycles_of_ok sweptAgain
        rw [mul_div_cancel_right₀ _ step.ne', roundHalfEven_intCast]
        change roundHalfEven (_ * _ / _) = _
        rw [mul_div_cancel_right₀ _ step.ne', roundHalfEven_intCast]

end cycles

variable {log} {schedule : Schedule K}

section binding

omit [IsStrictOrderedRing K] [FloorRing K] in
/-- The binding limit is the least one of the roles. -/
theorem bindingLimit_eq_ok {roles : List (RoleBand K)} {limits : List (String × K)} {binding : K}
    (made : bindingLimit roles limits = .ok binding) :
    (∀ rb ∈ roles, ∃ limit, limits.lookup rb.role = some limit ∧ binding ≤ limit) ∧
      ∃ rb ∈ roles, limits.lookup rb.role = some binding := by
  unfold bindingLimit at made
  cases found : roles.mapM fun rb => limits.lookup rb.role with
  | none =>
      rw [found] at made
      cases made
  | some values =>
      rw [found] at made
      have each := mapM_eq_some.mp found
      cases values with
      | nil => cases made
      | cons first rest =>
          obtain rfl := Except.ok.inj made
          obtain ⟨below, all⟩ := foldl_min_le rest first
          have least : ∀ limit ∈ first :: rest, rest.foldl min first ≤ limit := List.forall_mem_cons.mpr ⟨below, all⟩
          have among : rest.foldl min first ∈ first :: rest := by
            obtain same | mem := foldl_min_among rest first
            · rw [same]
              exact List.mem_cons_self
            · exact List.mem_cons_of_mem _ mem
          constructor
          · intro rb mem
            obtain ⟨limit, there, same⟩ := List.mem_map.mp (each ▸ List.mem_map_of_mem mem)
            exact ⟨limit, same.symm, least limit there⟩
          · obtain ⟨rb, mem, same⟩ := List.mem_map.mp (each.symm ▸ List.mem_map_of_mem among)
            exact ⟨rb, mem, same⟩

omit [IsStrictOrderedRing K] [FloorRing K] in
theorem within_binding_iff {roles : List (RoleBand K)} {limits : List (String × K)} {binding durationS : K}
    (made : bindingLimit roles limits = .ok binding) :
    (∀ rb ∈ roles, ∀ limit, limits.lookup rb.role = some limit → durationS ≤ limit) ↔ durationS ≤ binding := by
  obtain ⟨each, rb, mem, found⟩ := bindingLimit_eq_ok made
  constructor
  · exact fun all => all rb mem binding found
  · intro within rb mem limit found
    obtain ⟨other, same, below⟩ := each rb mem
    obtain rfl := Option.some.inj (found.symm.trans same)
    exact within.trans below

theorem summedSweepDurationS_cycles (rises : ∀ ratio : K, 1 < ratio → 0 < log ratio) {f1Hz f2Hz nominalS durationS binding : K}
    {roles : List (RoleBand K)} {limits : List (String × K)} (bound : bindingLimit roles limits = .ok binding)
    (made : summedSweepDurationS log f1Hz f2Hz roles limits nominalS = .ok durationS) :
    roundHalfEven (durationS / cycleS log f1Hz f2Hz) = limitedCycles log f1Hz f2Hz nominalS binding := by
  have some : limits ≠ [] := by
    rintro rfl
    obtain ⟨-, rb, -, found⟩ := bindingLimit_eq_ok bound
    cases found
  unfold summedSweepDurationS at made
  rw [if_neg some] at made
  obtain ⟨limit, limited, made⟩ := bind_eq_ok.mp made
  obtain rfl := Except.ok.inj (limited.symm.trans bound)
  obtain ⟨realized, swept, made⟩ := bind_eq_ok.mp made
  obtain ⟨-, eq⟩ := wholeCycles_of_ok swept
  have able := sweepable_of_ok swept
  have step := cycleS_pos rises able
  have length : realized.durationS = roundHalfEven (nominalS / cycleS log f1Hz f2Hz) * cycleS log f1Hz f2Hz := by
    rw [eq]
    rfl
  rw [length] at made
  unfold limitedCycles
  dsimp only
  by_cases fits : (roundHalfEven (nominalS / cycleS log f1Hz f2Hz) : K) * cycleS log f1Hz f2Hz ≤ limit
  · rw [if_pos fits] at made
    obtain rfl := Except.ok.inj made
    rw [if_pos fits, mul_div_cancel_right₀ _ step.ne', roundHalfEven_intCast]
  · rw [if_neg fits] at made
    rw [if_neg fits]
    cases closed : phaseClosingDurationS log phaseClosingRounds f1Hz f2Hz limit programSampleRateHz with
    | error error =>
        rw [closed] at made
        cases made
    | ok fittedS =>
        rw [closed] at made
        obtain rfl := Except.ok.inj made
        obtain rfl := phaseClosingDurationS_ok rises (able.automatic automatic_quiet) closed
        rw [mul_div_cancel_right₀ _ step.ne', roundHalfEven_intCast]

end binding

section pieces

variable {plan : Plan K}

omit [IsStrictOrderedRing K] [FloorRing K] in
/-- A composed schedule plays the pieces of its plan, and apart from these no stimulus. -/
theorem compose_pieces {courtesyPrelude : Bool} (made : plan.compose courtesyPrelude = .ok schedule) :
    (∀ piece ∈ plan.pieces, ∃ segment ∈ schedule.segments, segment.toPiece = piece) ∧
      ∀ segment ∈ schedule.segments, segment.kind.isStimulus = true → segment.toPiece ∈ plan.pieces := by
  cases courtesyPrelude with
  | false =>
      rw [compose_plain made]
      exact ⟨fun piece mem => exists_placed mem, fun segment mem _ => (place_within mem).2.2⟩
  | true =>
      rw [compose_announced made]
      constructor
      · intro piece mem
        obtain mem | mem := List.mem_append.mp mem
        · obtain ⟨segment, there, eq⟩ := @exists_placed K 0 _ _ mem
          exact ⟨segment, by simp [there], eq⟩
        · obtain ⟨segment, there, eq⟩ := @exists_placed K (span plan.head + preludeN) _ _ mem
          exact ⟨segment, by simp [there], eq⟩
      · intro segment mem stimulus
        simp only [List.mem_append, List.mem_singleton] at mem
        obtain ((mem | mem) | rfl) | mem := mem
        · exact List.mem_append_left _ (place_within mem).2.2
        · rw [(mem_courtesyTones mem).1] at stimulus
          cases stimulus
        · cases stimulus
        · exact List.mem_append_right _ (place_within mem).2.2

end pieces

section measure

/-- A sweep that a driver's voice plays, at its length. -/
def Drives (log : K → K) (downstreamGainDb : K) (driver : Driver K) (piece : Piece K) : Prop :=
  ∃ segmentId, stimulus log segmentId driver.voice driver.durationS driver.gainDb downstreamGainDb = .ok piece

omit [LinearOrder K] [IsStrictOrderedRing K] [FloorRing K] in
theorem silence_no_sweep {segmentId : String} {nSamples : ℕ} {piece : Piece K} (made : silence segmentId nSamples = .ok piece) :
    piece.kind ≠ .sweep := by
  rw [(silence_eq_ok made).2.1]
  nofun

omit [IsStrictOrderedRing K] in
/-- The sweeps of a cycle are one for each driver. -/
theorem measureCycle_drives {woofer : Driver K} {tweeter : Option (Driver K)} {downstreamGainDb : K} {repeatCount cycle : ℕ}
    {pieces : List (Piece K)} (made : measureCycle log woofer tweeter downstreamGainDb repeatCount cycle = .ok pieces) :
    (∀ piece ∈ pieces, piece.kind = .sweep → ∃ driver, (driver = woofer ∨ driver ∈ tweeter) ∧ Drives log downstreamGainDb driver piece) ∧
      ∀ driver, driver = woofer ∨ driver ∈ tweeter → ∃ piece ∈ pieces, Drives log downstreamGainDb driver piece := by
  obtain ⟨sweepW, w_made, made⟩ := bind_eq_ok.mp made
  have wooferDrives : Drives log downstreamGainDb woofer sweepW := ⟨_, w_made⟩
  cases tweeter with
  | none =>
      have alone : ∀ driver, driver = woofer ∨ driver ∈ (none : Option (Driver K)) → Drives log downstreamGainDb driver sweepW := by
        rintro driver (rfl | mem)
        · exact wooferDrives
        · cases mem
      by_cases more : cycle < repeatCount - 1
      · rw [if_pos more] at made
        obtain ⟨gapW, gap_made, made⟩ := bind_eq_ok.mp made
        obtain rfl := Except.ok.inj made
        refine ⟨fun piece mem kind => ?_, fun driver mem => ⟨sweepW, List.mem_cons_self, alone driver mem⟩⟩
        simp only [List.mem_cons, List.not_mem_nil, or_false] at mem
        obtain rfl | rfl := mem
        · exact ⟨woofer, .inl rfl, wooferDrives⟩
        · exact absurd kind (silence_no_sweep gap_made)
      · rw [if_neg more] at made
        obtain rfl := Except.ok.inj made
        refine ⟨fun piece mem _ => ?_, fun driver mem => ⟨sweepW, List.mem_cons_self, alone driver mem⟩⟩
        rw [List.mem_singleton.mp mem]
        exact ⟨woofer, .inl rfl, wooferDrives⟩
  | some tweeter =>
      obtain ⟨gapW, gapW_made, made⟩ := bind_eq_ok.mp made
      obtain ⟨sweepT, t_made, made⟩ := bind_eq_ok.mp made
      have tweeterDrives : Drives log downstreamGainDb tweeter sweepT := ⟨_, t_made⟩
      have sweeps (rest : List (Piece K)) (silent : ∀ piece ∈ rest, piece.kind ≠ .sweep) (eq : pieces = [sweepW, gapW, sweepT] ++ rest) :
          (∀ piece ∈ pieces, piece.kind = .sweep →
            ∃ driver, (driver = woofer ∨ driver ∈ some tweeter) ∧ Drives log downstreamGainDb driver piece) ∧
          ∀ driver, driver = woofer ∨ driver ∈ some tweeter → ∃ piece ∈ pieces, Drives log downstreamGainDb driver piece := by
        subst eq
        constructor
        · intro piece mem kind
          simp only [List.mem_append, List.mem_cons, List.not_mem_nil, or_false] at mem
          obtain (rfl | rfl | rfl) | mem := mem
          · exact ⟨woofer, .inl rfl, wooferDrives⟩
          · exact absurd kind (silence_no_sweep gapW_made)
          · exact ⟨tweeter, .inr rfl, tweeterDrives⟩
          · exact absurd kind (silent piece mem)
        · rintro driver (rfl | mem)
          · exact ⟨sweepW, by simp, wooferDrives⟩
          · obtain rfl := Option.some.inj mem
            exact ⟨sweepT, by simp, tweeterDrives⟩
      by_cases more : cycle < repeatCount - 1
      · rw [if_pos more] at made
        obtain ⟨gapT, gapT_made, made⟩ := bind_eq_ok.mp made
        exact sweeps [gapT] (by simpa using silence_no_sweep gapT_made) (Except.ok.inj made).symm
      · rw [if_neg more] at made
        exact sweeps [] (by simp) (Except.ok.inj made).symm

variable {parts : MeasureParts K} {args : MeasureArgs K} {gains : MeasureGains K} {repeatCount : ℕ}

omit [IsStrictOrderedRing K] in
-- What is played in front of the guard is pilots, and silence.
theorem pilots_kind {role : String} {voice : Voice K} {gainsDb : K × K} {pilotDurationS pilotGapS downstreamGainDb : K} {ambient : Piece K}
    {pair : List (Piece K)} (ambient_made : pilotAmbientWindow = .ok ambient) (pilot : voice.kind = .pilot)
    (pair_made : leadingPilotPair log role voice gainsDb pilotDurationS pilotGapS downstreamGainDb = .ok pair) :
    ∀ piece ∈ ambient :: pair, piece.kind = .silence ∨ piece.kind = .pilot := by
  obtain ⟨ambientN, ambient_made⟩ := pilotAmbientWindow_eq_ok ambient_made
  obtain ⟨gapN, lo, loGap, hi, hiGap, -, lo_made, loGap_made, hi_made, hiGap_made, rfl⟩ := leadingPilotPair_eq_ok pair_made
  obtain ⟨_, -, _, rfl⟩ := stimulus_eq_ok lo_made
  obtain ⟨_, -, _, rfl⟩ := stimulus_eq_ok hi_made
  intro piece mem
  simp only [List.mem_cons, List.not_mem_nil, or_false] at mem
  obtain rfl | rfl | rfl | rfl | rfl := mem
  · exact .inl (silence_eq_ok ambient_made).2.1
  · exact .inr pilot
  · exact .inl (silence_eq_ok loGap_made).2.1
  · exact .inr pilot
  · exact .inl (silence_eq_ok hiGap_made).2.1

omit [IsStrictOrderedRing K] in
theorem measurePilots_no_sweep {roles : List (RoleBand K)} {woofer : RoleBand K} {pilots : Option (List (Piece K))}
    (made : measurePilots log args gains roles woofer = .ok pilots) : ∀ piece ∈ pilots.getD [], piece.kind ≠ .sweep := by
  intro piece mem swept
  obtain ⟨-, rfl⟩ | ⟨_, _, _, _, ambient, pair, -, -, -, ambient_made, pair_made, rfl⟩ := measurePilots_eq_ok made
  · cases mem
  · obtain silent | pilot := pilots_kind ambient_made rfl pair_made piece mem
    · cases swept.symm.trans silent
    · cases swept.symm.trans pilot

omit [IsStrictOrderedRing K] in
/-- The sweeps of a MEASURE plan are those of its drivers. -/
theorem measurePlan_drives (made : parts.Made log args gains repeatCount) :
    (∀ piece ∈ parts.pilots.getD [] ++ [parts.guard] ++ (parts.cycles.flatten ++ [parts.tail]), piece.kind = .sweep →
      ∃ driver, (driver = parts.woofer ∨ driver ∈ parts.tweeter) ∧ Drives log gains.downstreamGainDb driver piece) ∧
      ∀ driver, driver = parts.woofer ∨ driver ∈ parts.tweeter →
        ∃ piece ∈ parts.pilots.getD [] ++ [parts.guard] ++ (parts.cycles.flatten ++ [parts.tail]),
          Drives log gains.downstreamGainDb driver piece := by
  constructor
  · intro piece mem kind
    simp only [List.mem_append, List.mem_singleton] at mem
    obtain (mem | rfl) | mem | rfl := mem
    · exact absurd kind (measurePilots_no_sweep made.pilots piece mem)
    · exact absurd kind (silence_no_sweep made.guard)
    · obtain ⟨pieces, there, mem⟩ := List.mem_flatten.mp mem
      obtain ⟨cycle, -, cycled⟩ := exists_of_mem_mapM made.cycles there
      exact (measureCycle_drives cycled).1 piece mem kind
    · exact absurd kind (silence_no_sweep made.tail)
  · intro driver mem
    obtain ⟨sweeps, gap, others, -, eq, -⟩ := cycles_eq made
    obtain ⟨cycle, -, cycled⟩ := exists_of_mem_mapM made.cycles (by rw [eq]; exact List.mem_cons_self)
    obtain ⟨piece, there, drives⟩ := (measureCycle_drives cycled).2 driver mem
    exact ⟨piece, by rw [eq]; simp only [List.mem_append, List.flatten_cons] at *; tauto, drives⟩

/-- How long a driver's sweep may be that its limit allows, at its length in samples. -/
def Fits (limits : List (String × K)) (piece : Piece K) : Prop :=
  ∀ role limit, piece.role = some role → limits.lookup role = some limit → (piece.nSamples : K) / programSampleRateHz ≤ limit

/-- Each sweep is short enough, at its length in samples, for the limit of its driver. -/
def MeasureFits (args : MeasureArgs K) (schedule : Schedule K) : Prop :=
  ∀ segment ∈ schedule.segments, segment.kind = .sweep → Fits args.sweepDurationLimitsS segment.toPiece

def driverEndsWithin (log : K → K) (args : MeasureArgs K) (nominalS : K) (rb : RoleBand K) : Prop :=
  ∀ f1Hz f2Hz limitS, measureBand args rb = .ok (f1Hz, f2Hz) → args.sweepDurationLimitsS.lookup rb.role = some limitS →
    EndsWithin log f1Hz f2Hz ((args.sweepDurations.lookup rb.role).getD nominalS) limitS

/-- The cycles that each driver's band and limit leave room for end within the limit at the sample rate too. -/
def MeasureEndsWithin (log : K → K) (args : MeasureArgs K) : Prop :=
  ∀ driven ∈ args.rolesBands.zip [defaultWooferSweepS, defaultTweeterSweepS], driverEndsWithin log args driven.2 driven.1

theorem drives_fits_iff (rises : ∀ ratio : K, 1 < ratio → 0 < log ratio) {nominalS downstreamGainDb : K} {rb : RoleBand K} {made : Driver K}
    (drives : driver log args gains nominalS rb = .ok made) {piece : Piece K} (played : Drives log downstreamGainDb made piece) :
    Fits args.sweepDurationLimitsS piece ↔ driverEndsWithin log args nominalS rb := by
  obtain ⟨segmentId, played⟩ := played
  obtain ⟨gainDb, -, drives⟩ := bind_eq_ok.mp drives
  obtain ⟨⟨f1, f2⟩, band, drives⟩ := bind_eq_ok.mp drives
  obtain ⟨⟨sweep, durationS⟩, fitted, drives⟩ := bind_eq_ok.mp drives
  obtain ⟨gapN, -, drives⟩ := bind_eq_ok.mp drives
  obtain rfl := Except.ok.inj drives
  dsimp only at played
  have role : piece.role = some rb.role := by
    obtain ⟨_, -, _, rfl⟩ := stimulus_eq_ok played
    rfl
  have within (limit : K) (limited : args.sweepDurationLimitsS.lookup rb.role = some limit) :
      (piece.nSamples : K) / programSampleRateHz ≤ limit ↔
        EndsWithin log f1 f2 ((args.sweepDurations.lookup rb.role).getD nominalS) limit := by
    rw [limited] at fitted
    have cycles := fittedMeta_cycles rises fitted
    have ends := stimulus_within_iff played cycles
    exact ends
  constructor
  · intro fits g1 g2 limit banded limited
    obtain ⟨rfl, rfl⟩ := Prod.mk.inj (Except.ok.inj (band.symm.trans banded))
    exact (within limit limited).mp (fits rb.role limit role limited)
  · intro ends other limit named limited
    obtain rfl := Option.some.inj (role.symm.trans named)
    exact (within limit limited).mpr (ends f1 f2 limit band limited)

omit [IsStrictOrderedRing K] in
/-- The drivers of a MEASURE program are those of its roles, in their order. -/
theorem driven_iff (made : parts.Made log args gains repeatCount) {P : K → RoleBand K → Prop} :
    (∀ driven ∈ args.rolesBands.zip [defaultWooferSweepS, defaultTweeterSweepS], P driven.2 driven.1) ↔
      P defaultWooferSweepS parts.wooferBand ∧ ∀ rb ∈ parts.tweeterBand, P defaultTweeterSweepS rb := by
  have roles := (validateRoles_eq_ok made.roles).1
  have bands := made.bands
  rw [roles] at bands
  unfold measureDrivers at bands
  split at bands
  · rename_i woofer eq
    obtain ⟨rfl, none⟩ := Prod.mk.inj (Except.ok.inj bands)
    rw [eq, ← none]
    simp
  · rename_i woofer tweeter eq
    obtain ⟨rfl, some⟩ := Prod.mk.inj (Except.ok.inj bands)
    rw [eq, ← some]
    simp
  · cases bands

/-- A MEASURE program is within its limits at the sample rate exactly where its cycles end so. -/
theorem measure_fits_iff (rises : ∀ ratio : K, 1 < ratio → 0 < log ratio) {courtesyPrelude : Bool}
    (built : buildMeasureProgram log args gains repeatCount courtesyPrelude = .ok schedule) :
    MeasureFits args schedule ↔ MeasureEndsWithin log args := by
  obtain ⟨plan, planned, composed⟩ := bind_eq_ok.mp built
  obtain ⟨parts, made, rfl⟩ := measurePlan_eq_ok planned
  obtain ⟨played, stimuli⟩ := compose_pieces composed
  rw [leadPlan_pieces] at played stimuli
  obtain ⟨driven, drives⟩ := measurePlan_drives made
  have tweeters (driver : Driver K) (mem : driver ∈ parts.tweeter) :
      ∃ rb ∈ parts.tweeterBand, Excitation.driver log args gains defaultTweeterSweepS rb = .ok driver := by
    obtain ⟨-, none⟩ | ⟨rb, one, there, eq, drives⟩ := optionally_eq_ok made.tweeter
    · rw [none] at mem
      cases mem
    · rw [eq] at mem
      obtain rfl := Option.some.inj mem
      exact ⟨rb, there, drives⟩
  have driverFits (driver : Driver K) (mem : driver = parts.woofer ∨ driver ∈ parts.tweeter) (swept : driver.voice.kind = .sweep)
      (fits : MeasureFits args schedule) : ∃ piece, Drives log gains.downstreamGainDb driver piece ∧ Fits args.sweepDurationLimitsS piece := by
    obtain ⟨piece, there, played'⟩ := drives driver mem
    obtain ⟨segment, at_, eq⟩ := played piece there
    refine ⟨piece, played', eq ▸ fits segment at_ ?_⟩
    obtain ⟨segmentId, made⟩ := played'
    obtain ⟨_, -, _, rfl⟩ := stimulus_eq_ok made
    rw [eq]
    exact swept
  rw [MeasureEndsWithin, driven_iff made]
  constructor
  · intro fits
    constructor
    · obtain ⟨piece, played', fits⟩ := driverFits parts.woofer (.inl rfl) made.swept fits
      exact (drives_fits_iff rises made.woofer played').mp fits
    · intro rb there
      obtain ⟨none, -⟩ | ⟨given, one, eq, some, drives⟩ := optionally_eq_ok made.tweeter
      · rw [none] at there
        cases there
      · rw [eq] at there
        obtain rfl := Option.some.inj there
        obtain ⟨piece, played', fits⟩ := driverFits one (.inr some) (driver_voice drives) fits
        exact (drives_fits_iff rises drives played').mp fits
  · rintro ⟨wooferEnds, tweeterEnds⟩ segment mem kind
    obtain ⟨driver, which, played'⟩ := driven segment.toPiece (stimuli segment mem (by rw [kind]; rfl)) kind
    obtain rfl | tweeter := which
    · exact (drives_fits_iff rises made.woofer played').mpr wooferEnds
    · obtain ⟨rb, there, drives⟩ := tweeters driver tweeter
      exact (drives_fits_iff rises drives played').mpr (tweeterEnds rb there)

end measure

section verify

variable {args : VerifyArgs K}

/-- The summed sweep is short enough, at its length in samples, for the limit of each role that it drives. -/
def VerifyFits (args : VerifyArgs K) (schedule : Schedule K) : Prop :=
  ∀ segment ∈ schedule.segments, segment.kind = .summedSweep → ∀ rb ∈ args.roles, ∀ limit,
    args.sweepDurationLimitsS.lookup rb.role = some limit → (segment.nSamples : K) / programSampleRateHz ≤ limit

/-- The cycles that the band of the summed sweep and the least limit leave room for end within that limit at the sample rate too. -/
def VerifyEndsWithin (log : K → K) (args : VerifyArgs K) : Prop :=
  ∀ lowEdge pilotBand f1Hz f2Hz limitS, verifyEdges args = .ok (lowEdge, pilotBand) → verifyBand args lowEdge = .ok (f1Hz, f2Hz) →
    bindingLimit args.roles args.sweepDurationLimitsS = .ok limitS → EndsWithin log f1Hz f2Hz args.sweepS limitS

theorem sweep_fits_iff (rises : ∀ ratio : K, 1 < ratio → 0 < log ratio) {sweep : Piece K} (made : verifySweep log args = .ok sweep) :
    (∀ rb ∈ args.roles, ∀ limit, args.sweepDurationLimitsS.lookup rb.role = some limit →
      (sweep.nSamples : K) / programSampleRateHz ≤ limit) ↔ VerifyEndsWithin log args := by
  obtain ⟨lowEdge, pilotBand, f1Hz, f2Hz, sweepS, edges, band, duration, swept⟩ := verifySweep_made made
  by_cases none : args.sweepDurationLimitsS = []
  · refine iff_of_true (fun rb mem limit found => ?_) fun _ _ _ _ limit _ _ bound => ?_
    · rw [none] at found
      cases found
    · obtain ⟨-, rb, -, found⟩ := bindingLimit_eq_ok bound
      rw [none] at found
      cases found
  · have bound : ∃ binding, bindingLimit args.roles args.sweepDurationLimitsS = .ok binding := by
      unfold summedSweepDurationS at duration
      rw [if_neg none] at duration
      obtain ⟨binding, bound, -⟩ := bind_eq_ok.mp duration
      exact ⟨binding, bound⟩
    obtain ⟨binding, bound⟩ := bound
    have cycles := summedSweepDurationS_cycles rises bound duration
    have ends := stimulus_within_iff swept cycles
    rw [within_binding_iff bound, ends]
    constructor
    · intro within lowEdge' pilotBand' g1 g2 limit edges' band' bound'
      obtain ⟨rfl, -⟩ := Prod.mk.inj (Except.ok.inj (edges.symm.trans edges'))
      obtain ⟨rfl, rfl⟩ := Prod.mk.inj (Except.ok.inj (band.symm.trans band'))
      obtain rfl := Except.ok.inj (bound.symm.trans bound')
      exact within
    · exact fun within => within lowEdge pilotBand f1Hz f2Hz binding edges band bound

omit [IsStrictOrderedRing K] in
/-- A VERIFY plan sums one sweep. -/
theorem verifyPlan_sums {parts : VerifyParts K} (made : parts.Made log args) {piece : Piece K}
    (mem : piece ∈ parts.pilots.getD [] ++ [parts.guard] ++ [parts.sweep, parts.tail]) (kind : piece.kind = .summedSweep) :
    piece = parts.sweep := by
  simp only [List.mem_append, List.mem_cons, List.not_mem_nil, or_false] at mem
  obtain (mem | rfl) | rfl | rfl := mem
  · obtain ⟨-, none⟩ | ⟨_, _, _, ambient, pair, -, ambient_made, pair_made, eq⟩ := verifyPilots_made made.pilots
    · rw [none] at mem
      cases mem
    · rw [eq] at mem
      obtain silent | pilot := pilots_kind ambient_made rfl pair_made piece mem
      · cases kind.symm.trans silent
      · cases kind.symm.trans pilot
  · cases kind.symm.trans (silence_eq_ok made.guard).2.1
  · rfl
  · cases kind.symm.trans (silence_eq_ok made.tail).2.1

omit [IsStrictOrderedRing K] in
/-- Widening plays the same stimuli. -/
theorem widened_stimuli {schedule widened : Schedule K} {early : List (ProgramSegment K)} {cursor channels : ℕ} {before rest : List (Piece K)}
    {gap sweep : Piece K} (fronted : Fronted schedule.segments early cursor before gap sweep rest) (silent : gap.kind = .silence)
    (made : widenForHarmonics log channels schedule = .ok widened) :
    (∃ segment ∈ widened.segments, segment.toPiece = sweep) ∧
      ∀ segment ∈ widened.segments, segment.kind.isStimulus = true → ∃ earlier ∈ schedule.segments, segment.toPiece = earlier.toPiece := by
  obtain rfl | ⟨samples, finalized⟩ := widenForHarmonics_cases fronted made
  · refine ⟨?_, fun segment mem _ => ⟨segment, mem, rfl⟩⟩
    rw [fronted.laid_split]
    exact ⟨⟨sweep, sweepStart cursor before gap⟩, by simp, rfl⟩
  · obtain ⟨rfl, -⟩ := finalize_eq_ok.mp finalized
    constructor
    · obtain ⟨segment, there, eq⟩ := @exists_placed K cursor (before ++ gap.lengthen samples :: sweep :: rest) sweep (by simp)
      exact ⟨segment, List.mem_append_right _ there, eq⟩
    · intro segment mem stimulus
      obtain mem | mem := List.mem_append.mp mem
      · exact ⟨segment, by rw [fronted.laid]; exact List.mem_append_left _ mem, rfl⟩
      · obtain ⟨earlier, was, -, -, same | longer⟩ := exists_unlengthened mem
        · exact ⟨earlier, by rw [fronted.laid]; exact List.mem_append_right _ was, same⟩
        · rw [longer] at stimulus
          change gap.kind.isStimulus = true at stimulus
          rw [silent] at stimulus
          cases stimulus

/-- A VERIFY program is within its limits at the sample rate exactly where its cycles end so. -/
theorem verify_fits_iff (rises : ∀ ratio : K, 1 < ratio → 0 < log ratio) {courtesyPrelude : Bool}
    (built : buildVerifyProgram log args courtesyPrelude = .ok schedule) : VerifyFits args schedule ↔ VerifyEndsWithin log args := by
  obtain ⟨plan, base, planned, composed, same, widens⟩ := buildVerifyProgram_eq_ok built
  obtain ⟨parts, made, rfl⟩ := verifyPlan_eq_ok planned
  obtain ⟨played, stimuli⟩ := compose_pieces composed
  rw [leadPlan_pieces] at played stimuli
  have kind := (verifySweep_eq_ok made.sweep).2.1
  have alike : (∃ segment ∈ schedule.segments, segment.toPiece = parts.sweep) ∧
      ∀ segment ∈ schedule.segments, segment.kind.isStimulus = true → ∃ earlier ∈ base.segments, segment.toPiece = earlier.toPiece := by
    by_cases band : args.sweepBandHz.isNone
    · rw [same band]
      exact ⟨played parts.sweep (by simp), fun segment mem _ => ⟨segment, mem, rfl⟩⟩
    · obtain ⟨early, cursor, before, gap, fronted, silent⟩ := exists_fronted made composed
      exact widened_stimuli fronted silent (widens band)
  obtain ⟨⟨segment, there, eq⟩, known⟩ := alike
  rw [← sweep_fits_iff rises made.sweep]
  constructor
  · intro fits
    have within := fits segment there (by rw [eq]; exact kind)
    rwa [eq] at within
  · intro fits other mem summed
    obtain ⟨earlier, was, same⟩ := known other mem (by rw [summed]; rfl)
    have sums := verifyPlan_sums made (stimuli earlier was (by rw [← same, summed]; rfl)) (by rw [← same]; exact summed)
    rw [same, sums]
    exact fits

end verify

end Jts.Excitation
