import Jts.Excitation.OneCycle

set_option autoImplicit false

namespace Jts.Excitation

open Shared.Outcome

variable {K : Type} [Field K] [LinearOrder K] [IsStrictOrderedRing K] [FloorRing K] {log : K → K}

section levels

omit [LinearOrder K] [IsStrictOrderedRing K] [FloorRing K] in
def Piece.unlevelled (piece : Piece K) : Piece K := { piece with gainDb := 0, effectivePeakDbfs := 0 }

omit [LinearOrder K] [IsStrictOrderedRing K] [FloorRing K] in
theorem shapes_unlevelled (cursor : ℕ) (pieces : List (Piece K)) :
    (place cursor (pieces.map (·.unlevelled))).map (·.shape) = (place cursor pieces).map (·.shape) ∧
      span (pieces.map (·.unlevelled)) = span pieces := by
  induction pieces generalizing cursor with
  | nil => exact ⟨rfl, rfl⟩
  | cons piece pieces ih =>
      obtain ⟨shapes, spans⟩ := ih (cursor + piece.nSamples)
      constructor
      · simp only [List.map_cons, place]
        exact congrArg₂ _ rfl shapes
      · rw [List.map_cons, span_cons, span_cons, spans]
        rfl

omit [LinearOrder K] [IsStrictOrderedRing K] [FloorRing K] in
/-- Pieces that differ in their levels only have one shape. -/
theorem shapes_eq {first second : List (Piece K)} (same : first.map (·.unlevelled) = second.map (·.unlevelled)) (cursor : ℕ) :
    (place cursor first).map (·.shape) = (place cursor second).map (·.shape) ∧ span first = span second := by
  obtain ⟨shapes, spans⟩ := shapes_unlevelled cursor first
  obtain ⟨otherShapes, otherSpans⟩ := shapes_unlevelled cursor second
  exact ⟨by rw [← shapes, same, otherShapes], by rw [← spans, same, otherSpans]⟩

omit [IsStrictOrderedRing K] in
/-- What a sweep is does not turn on its level. -/
theorem sweepMeta_levels {f1 f2 durationS gain otherGain : K} {sweep other : SweepMeta K} (made : sweepMeta log f1 f2 durationS gain = .ok sweep)
    (makes : sweepMeta log f1 f2 durationS otherGain = .ok other) : { sweep with amplitudeDbfs := otherGain } = other := by
  rw [(wholeCycles_of_ok made).2, (wholeCycles_of_ok makes).2]
  rfl

omit [IsStrictOrderedRing K] in
theorem stimulus_levels {segmentId : String} {voice : Voice K} {durationS gain otherGain downstream otherDownstream : K}
    {piece other : Piece K} (made : stimulus log segmentId voice durationS gain downstream = .ok piece)
    (makes : stimulus log segmentId voice durationS otherGain otherDownstream = .ok other) : piece.unlevelled = other.unlevelled := by
  obtain ⟨sweep, swept, some, rfl⟩ := stimulus_eq_ok made
  obtain ⟨otherSweep, sweptToo, someToo, rfl⟩ := stimulus_eq_ok makes
  obtain rfl := sweepMeta_levels swept sweptToo
  rfl

omit [IsStrictOrderedRing K] in
theorem leadingPilotPair_levels {role : String} {voice : Voice K} {gains otherGains : K × K}
    {pilotDurationS pilotGapS downstream otherDownstream : K} {pieces others : List (Piece K)}
    (made : leadingPilotPair log role voice gains pilotDurationS pilotGapS downstream = .ok pieces)
    (makes : leadingPilotPair log role voice otherGains pilotDurationS pilotGapS otherDownstream = .ok others) :
    pieces.map (·.unlevelled) = others.map (·.unlevelled) := by
  obtain ⟨gapN, lo, loGap, hi, hiGap, gapN_made, lo_made, loGap_made, hi_made, hiGap_made, rfl⟩ := leadingPilotPair_eq_ok made
  obtain ⟨otherN, otherLo, otherLoGap, otherHi, otherHiGap, otherN_made, otherLo_made, otherLoGap_made, otherHi_made, otherHiGap_made,
    rfl⟩ := leadingPilotPair_eq_ok makes
  obtain rfl := Except.ok.inj (gapN_made.symm.trans otherN_made)
  obtain rfl := Except.ok.inj (loGap_made.symm.trans otherLoGap_made)
  obtain rfl := Except.ok.inj (hiGap_made.symm.trans otherHiGap_made)
  simp [stimulus_levels lo_made otherLo_made, stimulus_levels hi_made otherHi_made]

section measure

variable {args : MeasureArgs K} {gains otherGains : MeasureGains K}

omit [IsStrictOrderedRing K] in
theorem measurePilots_levels (alike : gains.leadingPilotGainsDb.isSome = otherGains.leadingPilotGainsDb.isSome)
    {roles : List (RoleBand K)} {woofer : RoleBand K} {pilots others : Option (List (Piece K))}
    (made : measurePilots log args gains roles woofer = .ok pilots) (makes : measurePilots log args otherGains roles woofer = .ok others) :
    (pilots.getD []).map (·.unlevelled) = (others.getD []).map (·.unlevelled) := by
  obtain ⟨none, rfl⟩ | ⟨gainsDb, rb, f1, f2, ambient, pair, levels, role, band, ambient_made, pair_made, rfl⟩ := measurePilots_eq_ok made
  · obtain ⟨-, rfl⟩ | ⟨_, _, _, _, _, _, levels, -, -, -, -, -⟩ := measurePilots_eq_ok makes
    · rfl
    · rw [none, levels] at alike
      cases alike
  · obtain ⟨none, -⟩ | ⟨otherDb, otherRb, g1, g2, otherAmbient, otherPair, -, otherRole, otherBand, otherAmbient_made, otherPair_made,
      rfl⟩ := measurePilots_eq_ok makes
    · rw [none, levels] at alike
      cases alike
    · obtain rfl := Except.ok.inj (role.symm.trans otherRole)
      obtain ⟨rfl, rfl⟩ := Prod.mk.inj (Except.ok.inj (band.symm.trans otherBand))
      obtain rfl := Except.ok.inj (ambient_made.symm.trans otherAmbient_made)
      exact congrArg (ambient.unlevelled :: ·) (leadingPilotPair_levels pair_made otherPair_made)

omit [IsStrictOrderedRing K] in
theorem fittedMeta_levels {f1 f2 nominalS gain otherGain durationS otherDurationS : K} {limit : Option K} {sweep other : SweepMeta K}
    (made : fittedMeta log f1 f2 nominalS gain limit = .ok (sweep, durationS))
    (makes : fittedMeta log f1 f2 nominalS otherGain limit = .ok (other, otherDurationS)) :
    { sweep with amplitudeDbfs := otherGain } = other ∧ durationS = otherDurationS := by
  obtain ⟨nominal, nominal_made, made⟩ := bind_eq_ok.mp made
  obtain ⟨otherNominal, otherNominal_made, makes⟩ := bind_eq_ok.mp makes
  obtain rfl := sweepMeta_levels nominal_made otherNominal_made
  cases limit with
  | none =>
      obtain ⟨rfl, rfl⟩ := Prod.mk.inj (Except.ok.inj made)
      obtain ⟨rfl, rfl⟩ := Prod.mk.inj (Except.ok.inj makes)
      exact ⟨rfl, rfl⟩
  | some limit =>
      dsimp only at made makes
      by_cases fits : nominal.durationS ≤ limit
      · rw [if_pos fits] at made makes
        obtain ⟨rfl, rfl⟩ := Prod.mk.inj (Except.ok.inj made)
        obtain ⟨rfl, rfl⟩ := Prod.mk.inj (Except.ok.inj makes)
        exact ⟨rfl, rfl⟩
      · rw [if_neg fits] at made makes
        cases closed : phaseClosingDurationS log phaseClosingRounds f1 f2 limit programSampleRateHz with
        | error error =>
            rw [closed] at made
            cases made
        | ok fittedS =>
            rw [closed] at made makes
            obtain ⟨fitted, fitted_made, made⟩ := bind_eq_ok.mp made
            obtain ⟨otherFitted, otherFitted_made, makes⟩ := bind_eq_ok.mp makes
            obtain ⟨rfl, rfl⟩ := Prod.mk.inj (Except.ok.inj made)
            obtain ⟨rfl, rfl⟩ := Prod.mk.inj (Except.ok.inj makes)
            obtain rfl := sweepMeta_levels fitted_made otherFitted_made
            exact ⟨rfl, rfl⟩

/-- Drivers that differ in their levels only. -/
def Driver.unlevelled (driver : Driver K) : Driver K := { driver with gainDb := 0 }

omit [IsStrictOrderedRing K] in
theorem driver_levels {nominalS : K} {rb : RoleBand K} {made other : Driver K} (drives : driver log args gains nominalS rb = .ok made)
    (makes : driver log args otherGains nominalS rb = .ok other) : made.unlevelled = other.unlevelled := by
  obtain ⟨gainDb, -, drives⟩ := bind_eq_ok.mp drives
  obtain ⟨⟨f1, f2⟩, band_made, drives⟩ := bind_eq_ok.mp drives
  obtain ⟨⟨sweep, durationS⟩, fitted, drives⟩ := bind_eq_ok.mp drives
  obtain ⟨gapN, gap_made, drives⟩ := bind_eq_ok.mp drives
  obtain rfl := Except.ok.inj drives
  obtain ⟨otherDb, -, makes⟩ := bind_eq_ok.mp makes
  obtain ⟨⟨g1, g2⟩, otherBand_made, makes⟩ := bind_eq_ok.mp makes
  obtain ⟨rfl, rfl⟩ := Prod.mk.inj (Except.ok.inj (band_made.symm.trans otherBand_made))
  obtain ⟨⟨otherSweep, otherDurationS⟩, otherFitted, makes⟩ := bind_eq_ok.mp makes
  obtain ⟨rfl, rfl⟩ := fittedMeta_levels fitted otherFitted
  obtain ⟨otherN, otherGap_made, makes⟩ := bind_eq_ok.mp makes
  obtain rfl := Except.ok.inj makes
  obtain rfl : gapN = otherN := Except.ok.inj (gap_made.symm.trans otherGap_made)
  rfl

omit [IsStrictOrderedRing K] in
theorem optionally_levels {nominalS : K} {rb : Option (RoleBand K)} {made other : Option (Driver K)}
    (drives : optionally (driver log args gains nominalS) rb = .ok made)
    (makes : optionally (driver log args otherGains nominalS) rb = .ok other) :
    made.map (·.unlevelled) = other.map (·.unlevelled) := by
  obtain ⟨rfl, rfl⟩ | ⟨given, one, rfl, rfl, first⟩ := optionally_eq_ok drives
  · obtain rfl := Except.ok.inj makes
    rfl
  · obtain ⟨none, -⟩ | ⟨_, second, eq, rfl, other⟩ := optionally_eq_ok makes
    · cases none
    · obtain rfl := Option.some.inj eq
      exact congrArg some (driver_levels first other)

omit [IsStrictOrderedRing K] in
theorem measureCycle_levels {woofer other : Driver K} {tweeter otherTweeter : Option (Driver K)} {downstream otherDownstream : K}
    {sweeps otherSweeps : List (Piece K)} (woofers : woofer.unlevelled = other.unlevelled)
    (tweeters : tweeter.map (·.unlevelled) = otherTweeter.map (·.unlevelled))
    (made : measureCycle log woofer tweeter downstream 1 0 = .ok sweeps)
    (makes : measureCycle log other otherTweeter otherDownstream 1 0 = .ok otherSweeps) :
    sweeps.map (·.unlevelled) = otherSweeps.map (·.unlevelled) := by
  obtain ⟨voice, durationS, gain, gapN⟩ := woofer
  obtain ⟨otherVoice, otherDurationS, otherGain, otherN⟩ := other
  obtain ⟨rfl, rfl, -, rfl⟩ := Driver.mk.inj woofers
  obtain ⟨sweepW, w_made, made⟩ := bind_eq_ok.mp made
  obtain ⟨otherW, otherW_made, makes⟩ := bind_eq_ok.mp makes
  have sweepsW := stimulus_levels w_made otherW_made
  cases tweeter with
  | none =>
      obtain rfl : otherTweeter = none := Option.map_eq_none_iff.mp tweeters.symm
      obtain rfl := Except.ok.inj made
      obtain rfl := Except.ok.inj makes
      simp [sweepsW]
  | some tweeter =>
      obtain ⟨theirs, rfl, same⟩ := Option.map_eq_some_iff.mp tweeters.symm
      obtain ⟨voiceT, durationT, gainT, gapT⟩ := tweeter
      obtain ⟨otherVoiceT, otherDurationT, otherGainT, otherGapT⟩ := theirs
      obtain ⟨rfl, rfl, -, rfl⟩ := Driver.mk.inj same
      obtain ⟨gap, gap_made, made⟩ := bind_eq_ok.mp made
      obtain ⟨otherGap, otherGap_made, makes⟩ := bind_eq_ok.mp makes
      obtain rfl := Except.ok.inj (gap_made.symm.trans otherGap_made)
      obtain ⟨sweepT, t_made, made⟩ := bind_eq_ok.mp made
      obtain ⟨otherT, otherT_made, makes⟩ := bind_eq_ok.mp makes
      obtain rfl := Except.ok.inj made
      obtain rfl := Except.ok.inj makes
      simp [sweepsW, stimulus_levels t_made otherT_made]

omit [IsStrictOrderedRing K] in
/-- What a MEASURE program starts with tells whether it has pilots. -/
theorem measurePilots_head {roles : List (RoleBand K)} {woofer : RoleBand K}
    {pilots : Option (List (Piece K))} {guard : Piece K} (made : measurePilots log args gains roles woofer = .ok pilots)
    (guards : guard.segmentId = "guard") (rest : List (Piece K)) :
    ((place 0 (pilots.getD [] ++ [guard] ++ rest)).map (·.shape)).head?.map (·.segmentId) =
      some (if gains.leadingPilotGainsDb.isSome then ambientSegmentId else "guard") := by
  obtain ⟨none, rfl⟩ | ⟨_, _, _, _, ambient, pair, levels, -, -, ambient_made, -, rfl⟩ := measurePilots_eq_ok made
  · rw [none]
    exact congrArg some guards
  · obtain ⟨ambientN, ambient_made⟩ := pilotAmbientWindow_eq_ok ambient_made
    rw [levels]
    exact congrArg some (silence_eq_ok ambient_made).1

omit [IsStrictOrderedRing K] in
/-- The shape of a MEASURE program does not turn on its levels, nor on how often it repeats. -/
theorem shapePayload_measure {repeatCount otherCount : ℕ} (alike : gains.leadingPilotGainsDb.isSome = otherGains.leadingPilotGainsDb.isSome)
    {schedule other : Schedule K} (built : buildMeasureProgram log args gains repeatCount false = .ok schedule)
    (builds : buildMeasureProgram log args otherGains otherCount false = .ok other) :
    (oneCycle schedule).shapePayload = (oneCycle other).shapePayload := by
  obtain ⟨plan, planned, composed⟩ := bind_eq_ok.mp built
  obtain ⟨otherPlan, otherPlanned, otherComposed⟩ := bind_eq_ok.mp builds
  obtain ⟨parts, made, rfl⟩ := measurePlan_eq_ok planned
  obtain ⟨theirs, makes, rfl⟩ := measurePlan_eq_ok otherPlanned
  obtain ⟨sweeps, alone, eq⟩ := oneCycle_measure made composed
  obtain ⟨otherSweeps, otherAlone, otherEq⟩ := oneCycle_measure makes otherComposed
  have roles : parts.roles = theirs.roles := Except.ok.inj (made.roles.symm.trans makes.roles)
  obtain ⟨woofers, tweeters⟩ : parts.wooferBand = theirs.wooferBand ∧ parts.tweeterBand = theirs.tweeterBand := by
    have bands := makes.bands
    rw [← roles, made.bands] at bands
    exact Prod.mk.inj (Except.ok.inj bands)
  have channels : parts.channels = theirs.channels := by
    have channels := makes.channels
    rw [← roles, made.channels] at channels
    exact Except.ok.inj channels
  have guards : parts.guard = theirs.guard := by
    obtain same := Except.ok.inj (made.guardN.symm.trans makes.guardN)
    have guard := makes.guard
    rw [← same, made.guard] at guard
    exact Except.ok.inj guard
  have tails : parts.tail = theirs.tail := by
    obtain same := Except.ok.inj (made.tailN.symm.trans makes.tailN)
    have tail := makes.tail
    rw [← same, made.tail] at tail
    exact Except.ok.inj tail
  have pilots := measurePilots_levels alike made.pilots (by rw [roles, woofers]; exact makes.pilots)
  have drivers := measureCycle_levels (driver_levels made.woofer (by rw [woofers]; exact makes.woofer))
    (optionally_levels made.tweeter (by rw [tweeters]; exact makes.tweeter)) alone otherAlone
  have same : (parts.pilots.getD [] ++ [parts.guard] ++ sweeps ++ [parts.tail]).map (·.unlevelled) =
      (theirs.pilots.getD [] ++ [theirs.guard] ++ otherSweeps ++ [theirs.tail]).map (·.unlevelled) := by
    simp only [List.map_append, pilots, drivers, guards, tails]
  obtain ⟨shapes, spans⟩ := shapes_eq same 0
  rw [eq, otherEq]
  simp only [Schedule.shapePayload, channels, shapes, spans]

def Payload.startsWith {K : Type} : Payload K → Option String
  | .stimulus _ _ _ segments _ => segments.head?.map (·.segmentId)
  | .shape _ _ _ _ segments => segments.head?.map (·.segmentId)

omit [IsStrictOrderedRing K] in
/-- It does turn on whether there are pilots. -/
theorem pilots_of_shapePayload {repeatCount otherCount : ℕ} {schedule other : Schedule K}
    (built : buildMeasureProgram log args gains repeatCount false = .ok schedule)
    (builds : buildMeasureProgram log args otherGains otherCount false = .ok other)
    (same : (oneCycle schedule).shapePayload = (oneCycle other).shapePayload) :
    gains.leadingPilotGainsDb.isSome = otherGains.leadingPilotGainsDb.isSome := by
  obtain ⟨plan, planned, composed⟩ := bind_eq_ok.mp built
  obtain ⟨otherPlan, otherPlanned, otherComposed⟩ := bind_eq_ok.mp builds
  obtain ⟨parts, made, rfl⟩ := measurePlan_eq_ok planned
  obtain ⟨theirs, makes, rfl⟩ := measurePlan_eq_ok otherPlanned
  obtain ⟨sweeps, -, eq⟩ := oneCycle_measure made composed
  obtain ⟨otherSweeps, -, otherEq⟩ := oneCycle_measure makes otherComposed
  have starts := congrArg Payload.startsWith same
  rw [eq, otherEq] at starts
  have first := measurePilots_head made.pilots (silence_eq_ok made.guard).1 (sweeps ++ [parts.tail])
  have second := measurePilots_head makes.pilots (silence_eq_ok makes.guard).1 (otherSweeps ++ [theirs.tail])
  rw [← List.append_assoc] at first second
  replace starts := (first.symm.trans starts).trans second
  cases one : gains.leadingPilotGainsDb.isSome <;> cases two : otherGains.leadingPilotGainsDb.isSome <;>
    simp [one, two, ambientSegmentId] at starts ⊢

end measure

end levels

section compose

variable {plan : Plan K} {schedule announced : Schedule K}

omit [IsStrictOrderedRing K] in
/-- What can be composed with a prelude can be composed without. -/
theorem compose_plain_of_announced (able : Announceable log plan) (loud : plan.compose true = .ok announced) :
    ∃ schedule, plan.compose false = .ok schedule := by
  have eq := compose_announced loud
  rw [compose_true] at loud
  have narrow := (finalize_eq_ok.mp loud).2.2.1
  refine ⟨_, finalize_eq_ok.mpr ⟨rfl, ?_, fun segment mem channel carried => ?_, fun segment mem => ?_⟩⟩
  · obtain ⟨piece, mem, -⟩ := able.sounds
    exact place_ne_nil (List.ne_nil_of_mem mem) 0
  · obtain there | there := List.mem_append.mp (place_within mem).2.2
    · obtain ⟨placed, at_, same⟩ := @exists_placed K 0 _ _ there
      exact narrow placed (by simp [at_]) channel (by rw [same]; exact carried)
    · obtain ⟨placed, at_, same⟩ := @exists_placed K (span plan.head + preludeN) _ _ there
      exact narrow placed (by simp [at_]) channel (by rw [same]; exact carried)
  · have ends := (place_within mem).2.1
    rwa [Nat.zero_add] at ends

end compose

section identity

variable [DecidableEq K]

/-- A MEASURE program as it plays without its prelude is the one that is built without. -/
theorem unannounced_measure {args : MeasureArgs K} {gains : MeasureGains K} {repeatCount : ℕ} {courtesyPrelude : Bool} {schedule : Schedule K}
    (built : buildMeasureProgram log args gains repeatCount courtesyPrelude = .ok schedule) :
    ∃ plain, buildMeasureProgram log args gains repeatCount false = .ok plain ∧ (unannounced schedule).getD schedule = plain := by
  cases courtesyPrelude with
  | false => exact ⟨schedule, built, by rw [@unannounced_built _ _ _ _ _ _ _ (.measure args gains repeatCount) _ built]; rfl⟩
  | true =>
      obtain ⟨plan, planned, composed⟩ := bind_eq_ok.mp built
      have able := measurePlan_announceable planned
      obtain ⟨plain, composes⟩ := compose_plain_of_announced able composed
      refine ⟨plain, bind_eq_ok.mpr ⟨plan, planned, composes⟩, ?_⟩
      rw [(unannounced_compose able composes composed).2]
      rfl

section fingerprint

variable {Digest : Type} {fingerprint : Payload K → Digest}

/-- MEASURE takes share a shape exactly where both have pilots or neither has. -/
theorem stimulusShapeId_measure (distinct : Function.Injective fingerprint) {args : MeasureArgs K} {gains otherGains : MeasureGains K}
    {repeatCount otherCount : ℕ} {courtesyPrelude otherPrelude : Bool} {schedule other : Schedule K}
    (built : buildMeasureProgram log args gains repeatCount courtesyPrelude = .ok schedule)
    (builds : buildMeasureProgram log args otherGains otherCount otherPrelude = .ok other) :
    stimulusShapeId fingerprint (document fingerprint schedule) = stimulusShapeId fingerprint (document fingerprint other) ↔
      gains.leadingPilotGainsDb.isSome = otherGains.leadingPilotGainsDb.isSome := by
  obtain ⟨plain, plain_built, found⟩ := unannounced_measure built
  obtain ⟨otherPlain, other_built, otherFound⟩ := unannounced_measure builds
  rw [stimulusShapeId, stimulusShapeId, document, document, found, otherFound, distinct.eq_iff]
  exact ⟨pilots_of_shapePayload plain_built other_built, fun alike => shapePayload_measure alike plain_built other_built⟩

/-- Takes without a prelude are told apart by all that they play. -/
theorem eq_of_takeStimulusId (distinct : Function.Injective fingerprint) {request otherRequest : Request K} {plain other : Schedule K}
    (built : request.build log false = .ok plain) (builds : otherRequest.build log false = .ok other)
    (same : takeStimulusId fingerprint (document fingerprint plain) = takeStimulusId fingerprint (document fingerprint other)) :
    plain.phase = other.phase ∧ plain.sampleRateHz = other.sampleRateHz ∧ plain.channels = other.channels ∧
      plain.totalSamples = other.totalSamples ∧ plain.segments.map (·.canonical) = other.segments.map (·.canonical) := by
  rw [takeStimulusId, takeStimulusId, document, document, unannounced_built built, unannounced_built builds] at same
  obtain ⟨phase, rate, channels, segments, total⟩ := Payload.stimulus.inj (distinct same)
  exact ⟨phase, rate, channels, total, segments⟩

/-- What a take is known by leaves out its announcement, where the guard is long enough for that; its shape leaves out its levels and its
repeats too, and apart from these nothing is left out. -/
theorem take_identity (log : K → K) (distinct : Function.Injective fingerprint) :
    (∀ (request : Request K) (plain announced : Schedule K), request.build log false = .ok plain → request.build log true = .ok announced →
      (takeStimulusId fingerprint (document fingerprint announced) = (document fingerprint plain).stimulusId ↔ request.Steady log)) ∧
    (∀ (args : MeasureArgs K) (gains otherGains : MeasureGains K) (repeatCount otherCount : ℕ) (courtesyPrelude otherPrelude : Bool)
        (schedule other : Schedule K), buildMeasureProgram log args gains repeatCount courtesyPrelude = .ok schedule →
      buildMeasureProgram log args otherGains otherCount otherPrelude = .ok other →
      (stimulusShapeId fingerprint (document fingerprint schedule) = stimulusShapeId fingerprint (document fingerprint other) ↔
        gains.leadingPilotGainsDb.isSome = otherGains.leadingPilotGainsDb.isSome)) ∧
    ∀ (request otherRequest : Request K) (plain other : Schedule K), request.build log false = .ok plain →
      otherRequest.build log false = .ok other →
      takeStimulusId fingerprint (document fingerprint plain) = takeStimulusId fingerprint (document fingerprint other) →
      plain.phase = other.phase ∧ plain.sampleRateHz = other.sampleRateHz ∧ plain.channels = other.channels ∧
        plain.totalSamples = other.totalSamples ∧ plain.segments.map (·.canonical) = other.segments.map (·.canonical) := by
  refine ⟨?announcement, ?shape, ?distinct⟩
  case announcement => exact fun request plain announced built loud => takeStimulusId_announced distinct built loud
  case shape =>
    intro args gains otherGains repeatCount otherCount courtesyPrelude otherPrelude schedule other built builds
    exact stimulusShapeId_measure distinct built builds
  case distinct => exact fun request otherRequest plain other built builds same => eq_of_takeStimulusId distinct built builds same

end fingerprint

end identity

section narrow

-- The first terms of the logarithm's series, which rise with the ratio as it does.
def logSeries (ratio : ℚ) : ℚ :=
  let part := (ratio - 1) / (ratio + 1)
  2 * (part + part ^ 3 / 3 + part ^ 5 / 5)

/-- A summed sweep of the lowest two octaves, all else as the composer has it. -/
def narrowSweep (leadingPilotGainsDb : Option (ℚ × ℚ)) : VerifyArgs ℚ where
  fcHz := some 80
  measurementBandHz := none
  sweepBandHz := some (20, 80)
  gainDb := baseStimulusPeakDbfs
  guardS := 3 / 2
  sweepS := 6
  tailS := 1 / 2
  downstreamGainDb := 0
  leadingPilotGainsDb := leadingPilotGainsDb
  pilotDurationS := 4 / 5
  pilotGapS := 1 / 2
  roles := []
  sweepDurationLimitsS := []

/-- How long a program is as it plays without its prelude, and as it is built without. -/
def unannouncedTotals (request : Request ℚ) : Except ComposeError (Option ℕ × ℕ) := do
  let announced ← request.build logSeries true
  let plain ← request.build logSeries false
  return ((unannounced announced).map (·.totalSamples), plain.totalSamples)

theorem unannouncedTotals_eq_ok {request : Request ℚ} {totals : Option ℕ × ℕ} (made : unannouncedTotals request = .ok totals) :
    ∃ plain announced, request.build logSeries false = .ok plain ∧ request.build logSeries true = .ok announced ∧
      (unannounced announced).map (·.totalSamples) = totals.1 ∧ plain.totalSamples = totals.2 := by
  obtain ⟨announced, loud, made⟩ := bind_eq_ok.mp made
  obtain ⟨plain, built, made⟩ := bind_eq_ok.mp made
  obtain rfl := Except.ok.inj made
  exact ⟨plain, announced, built, loud, rfl, rfl⟩

/-- With pilots it is known as it is without its prelude. -/
theorem narrowSweep_piloted :
    ∃ plain announced, (Request.verify (narrowSweep (some (-22, -12)))).build logSeries false = .ok plain ∧
      (Request.verify (narrowSweep (some (-22, -12)))).build logSeries true = .ok announced ∧
      takeStimulusId id (document id announced) = (document id plain).stimulusId := by
  have totals : unannouncedTotals (.verify (narrowSweep (some (-22, -12)))) = .ok (some 715890, 715890) := by decide +kernel
  obtain ⟨plain, announced, built, loud, -, -⟩ := unannouncedTotals_eq_ok totals
  exact ⟨plain, announced, built, loud, ((take_identity logSeries Function.injective_id).1 _ plain announced built loud).mpr (.inr (.inl rfl))⟩

/-- Without pilots the guard is widened where there is no prelude, and not where there is one. -/
theorem narrowSweep_known_apart :
    ∃ plain announced, (Request.verify (narrowSweep none)).build logSeries false = .ok plain ∧
      (Request.verify (narrowSweep none)).build logSeries true = .ok announced ∧
      takeStimulusId id (document id announced) ≠ (document id plain).stimulusId := by
  have totals : unannouncedTotals (.verify (narrowSweep none)) = .ok (some 383122, 564056) := by decide +kernel
  obtain ⟨plain, announced, built, loud, total, plainTotal⟩ := unannouncedTotals_eq_ok totals
  refine ⟨plain, announced, built, loud, fun same => ?_⟩
  obtain ⟨stimulus, found, eq⟩ := Option.map_eq_some_iff.mp total
  rw [takeStimulusId, document, found] at same
  have alike := (Payload.stimulus.inj same).2.2.2.2
  rw [eq, plainTotal] at alike
  exact absurd alike (by decide)

end narrow

end Jts.Excitation
