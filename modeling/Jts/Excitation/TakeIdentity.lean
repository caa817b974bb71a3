import Jts.Excitation.Widened

set_option autoImplicit false

namespace Jts.Excitation

open Shared.Outcome

variable {K : Type} [Field K] [LinearOrder K] [IsStrictOrderedRing K] [FloorRing K]

/-- What a composer is asked for. -/
inductive Request (K : Type) [Zero K] [LE K] [LT K]
  | check (args : CheckArgs K)
  | measure (args : MeasureArgs K) (gains : MeasureGains K) (repeatCount : ℕ)
  | verify (args : VerifyArgs K)

def Request.build (log : K → K) (request : Request K) (courtesyPrelude : Bool) : Except ComposeError (Schedule K) :=
  match request with
  | .check args => buildCheckProgram log args courtesyPrelude
  | .measure args gains repeatCount => buildMeasureProgram log args gains repeatCount courtesyPrelude
  | .verify args => buildVerifyProgram log args courtesyPrelude

/-- The guard of a VERIFY program is as long as its sweep needs: nothing has to be made longer where there is no prelude. -/
def GuardSuffices (log : K → K) (args : VerifyArgs K) : Prop :=
  ∀ sweep requiredN guardN, verifySweep log args = .ok sweep → requiredQuietN log sweep = .ok requiredN →
    secondsToSamples args.guardS = .ok guardN → requiredN ≤ guardN

/-- The quiet before a sweep is the same with a prelude and without, or none is lacking. -/
def Request.Steady (log : K → K) : Request K → Prop
  | .check _ | .measure _ _ _ => True
  | .verify args => args.sweepBandHz.isNone ∨ args.leadingPilotGainsDb.isSome ∨ GuardSuffices log args

variable {log : K → K}

section compose

omit [LinearOrder K] [IsStrictOrderedRing K] [FloorRing K] in
theorem courtesyGap_end (at_ : ℕ) : (courtesyGap at_ : ProgramSegment K).endSample = at_ + preludeN := Nat.add_assoc _ _ _

variable {plan : Plan K} {schedule announced : Schedule K}

omit [IsStrictOrderedRing K] in
theorem courtesyTones_some (able : Announceable log plan) (made : plan.compose false = .ok schedule) : courtesyTones plan ≠ [] := by
  obtain ⟨piece, mem, stimulus, channel, carried⟩ := able.sounds
  obtain ⟨segment, there, eq⟩ := @exists_placed K 0 _ _ mem
  have narrow := (finalize_eq_ok.mp made).2.2.1 segment there channel (by rw [eq]; exact carried)
  exact courtesyTones_ne_nil mem stimulus carried narrow

omit [IsStrictOrderedRing K] in
theorem courtesyTones_prelude (able : Announceable log plan) (made : plan.compose false = .ok schedule) {length : ℕ} (gap : ProgramSegment K)
    (named : gap.segmentId = courtesyGapSegmentId) (follows : gap.startSample = span plan.head + courtesyToneNSamples)
    (ends : gap.endSample = span plan.head + length) : Prelude (span plan.head) length (courtesyTones plan) gap where
  some := courtesyTones_some able made
  tone := fun tone mem => by
    obtain ⟨kind, -, start, samples⟩ := mem_courtesyTones mem
    exact ⟨kind, start, samples⟩
  named := named
  follows := follows
  ends := ends

omit [IsStrictOrderedRing K] [FloorRing K] in
theorem courtesyTones_apart {tone : ProgramSegment K} (mem : tone ∈ courtesyTones plan) : tone.segmentId ≠ sweepVerifyId := by
  obtain ⟨channel, -, made⟩ := List.mem_filterMap.mp mem
  unfold courtesyTone at made
  split at made
  · cases made
  · obtain rfl := Option.some.inj made
    exact fun same => absurd (congrArg (·.toList.head?) same) (by simp [sweepVerifyId])

variable [DecidableEq K]

omit [IsStrictOrderedRing K] in
/-- The prelude of a plan is found again, and nothing else is taken for one. -/
theorem unannounced_compose (able : Announceable log plan) (made : plan.compose false = .ok schedule) (loud : plan.compose true = .ok announced) :
    unannounced schedule = none ∧ unannounced announced = some schedule := by
  obtain rfl := compose_plain made
  obtain rfl := compose_announced loud
  constructor
  · exact unannounced_plain able.composed.plain rfl
  · rw [unannounced_prelude able.composed.plain (courtesyTones_prelude able made (courtesyGap (span plan.head)) rfl rfl (courtesyGap_end _)) rfl]
    simp [Plan.pieces]

end compose

section verify

variable {args : VerifyArgs K} {parts : VerifyParts K} {base loud widened announced : Schedule K}

omit [IsStrictOrderedRing K] in
theorem buildVerifyProgram_eq_ok {courtesyPrelude : Bool} {schedule : Schedule K}
    (built : buildVerifyProgram log args courtesyPrelude = .ok schedule) :
    ∃ plan base, verifyPlan log args = .ok plan ∧ plan.compose courtesyPrelude = .ok base ∧
      (args.sweepBandHz.isNone → schedule = base) ∧ (¬ args.sweepBandHz.isNone → widenForHarmonics log 1 base = .ok schedule) := by
  obtain ⟨plan, planned, built⟩ := bind_eq_ok.mp built
  obtain ⟨base, composed, built⟩ := bind_eq_ok.mp built
  refine ⟨plan, base, planned, composed, fun band => ?_, fun band => ?_⟩
  · rw [if_pos band] at built
    exact (Except.ok.inj built).symm
  · rwa [if_neg band] at built

omit [IsStrictOrderedRing K] in
theorem VerifyParts.Made.guard_ne (made : parts.Made log args) : parts.guard.segmentId ≠ sweepVerifyId := by
  rw [(silence_eq_ok made.guard).1]
  decide

omit [IsStrictOrderedRing K] in
theorem VerifyParts.Made.guard_quiet (made : parts.Made log args) : parts.guard.kind.isKnownAudible = false := by
  rw [(silence_eq_ok made.guard).2.1]
  rfl

section unpiloted

def VerifyParts.unpiloted (parts : VerifyParts K) (downstreamGainDb : K) : Plan K :=
  ⟨.verify, 1, [parts.guard], [parts.sweep, parts.tail], downstreamGainDb⟩

omit [IsStrictOrderedRing K] in
theorem fronted_unpiloted (made : parts.Made log args) (composed : (parts.unpiloted args.downstreamGainDb).compose false = .ok base) :
    Fronted base.segments [] 0 [] parts.guard parts.sweep [parts.tail] where
  laid := by
    rw [compose_plain composed]
    rfl
  named := (verifySweep_eq_ok made.sweep).1
  apartEarly := fun _ mem => nomatch mem
  apart := by simpa using made.guard_ne

/-- Without a prelude the guard is all the quiet there is. -/
theorem widened_unpiloted (made : parts.Made log args) (composed : (parts.unpiloted args.downstreamGainDb).compose false = .ok base)
    (widens : widenForHarmonics log 1 base = .ok widened) :
    ∃ requiredN, requiredQuietN log parts.sweep = .ok requiredN ∧
      widened =
        { base with
          segments := place 0 (parts.guard.lengthen (requiredN - parts.guardN).toNat :: [parts.sweep, parts.tail])
          totalSamples := base.totalSamples + (requiredN - parts.guardN).toNat } := by
  have fronted := fronted_unpiloted made composed
  have silent : audibleEnd base.segments ⟨parts.sweep, sweepStart 0 [] parts.guard⟩ = 0 := by
    refine fronted.audibleEnd_eq (fun segment mem heard => ?_) (.inl rfl) (Nat.zero_le _)
    obtain rfl : segment = ⟨parts.guard, 0⟩ := by simpa [place] using mem
    rw [made.guard_quiet] at heard
    cases heard
  have quiet : audibleEnd base.segments ⟨parts.sweep, sweepStart 0 [] parts.guard⟩ + parts.guardN = sweepStart 0 [] parts.guard := by
    rw [silent]
    simp [sweepStart, (silence_eq_ok made.guard).2.2]
  obtain rfl := compose_plain composed
  exact widenForHarmonics_eq_ok fronted quiet rfl rfl widens

def gapPiece : Piece K := (courtesyGap 0).toPiece

omit [IsStrictOrderedRing K] in
theorem fronted_unpiloted_announced (made : parts.Made log args)
    (called : (parts.unpiloted args.downstreamGainDb).compose true = .ok loud) :
    Fronted loud.segments (place 0 [parts.guard] ++ courtesyTones (parts.unpiloted args.downstreamGainDb))
      (span [parts.guard] + courtesyToneNSamples) [] gapPiece parts.sweep [parts.tail] where
  laid := by
    rw [compose_announced called]
    simp [VerifyParts.unpiloted, place, gapPiece, courtesyGap, preludeN, Nat.add_assoc]
  named := (verifySweep_eq_ok made.sweep).1
  apartEarly := by
    intro segment mem
    obtain mem | mem := List.mem_append.mp mem
    · obtain rfl : segment = ⟨parts.guard, 0⟩ := by simpa [place] using mem
      exact made.guard_ne
    · exact courtesyTones_apart mem
  apart := by
    intro piece mem
    rw [List.mem_singleton.mp mem]
    exact (by decide : courtesyGapSegmentId ≠ sweepVerifyId)

/-- With one, the quiet is what follows its tones, and what is added to it goes with it. -/
theorem unannounced_unpiloted [DecidableEq K] (made : parts.Made log args)
    (able : Announceable log (parts.unpiloted args.downstreamGainDb))
    (composed : (parts.unpiloted args.downstreamGainDb).compose false = .ok base)
    (called : (parts.unpiloted args.downstreamGainDb).compose true = .ok loud)
    (widens : widenForHarmonics log 1 loud = .ok announced) : unannounced announced = some base := by
  have fronted := fronted_unpiloted_announced made called
  have toneEnd : ∀ tone ∈ courtesyTones (parts.unpiloted args.downstreamGainDb),
      tone.endSample = span [parts.guard] + courtesyToneNSamples := by
    intro segment mem
    obtain ⟨-, -, start, samples⟩ := mem_courtesyTones mem
    rw [ProgramSegment.endSample, start, samples]
    simp [VerifyParts.unpiloted]
  have heardLast : audibleEnd loud.segments ⟨parts.sweep, sweepStart (span [parts.guard] + courtesyToneNSamples) [] (gapPiece : Piece K)⟩ =
      span [parts.guard] + courtesyToneNSamples := by
    refine fronted.audibleEnd_eq (fun segment mem heard => ?_) (.inr ?_) (Nat.le_add_right _ _)
    · rw [List.append_assoc] at mem
      obtain mem | mem := List.mem_append.mp mem
      · obtain rfl : segment = ⟨parts.guard, 0⟩ := by simpa [place] using mem
        rw [made.guard_quiet] at heard
        cases heard
      · obtain mem | mem := List.mem_append.mp mem
        · exact (toneEnd segment mem).le
        · obtain rfl : segment = ⟨gapPiece, span [parts.guard] + courtesyToneNSamples⟩ := by simpa [place] using mem
          cases heard
    · obtain ⟨first, mem⟩ := List.exists_mem_of_ne_nil _ (courtesyTones_some able composed)
      refine ⟨first, List.mem_append_left _ (List.mem_append_right _ mem), ?_, toneEnd first mem⟩
      rw [(mem_courtesyTones mem).1]
      rfl
  have quiet : audibleEnd loud.segments ⟨parts.sweep, sweepStart (span [parts.guard] + courtesyToneNSamples) [] (gapPiece : Piece K)⟩ +
      courtesyGapNSamples = sweepStart (span [parts.guard] + courtesyToneNSamples) [] (gapPiece : Piece K) := by
    rw [heardLast]
    simp [sweepStart, gapPiece, courtesyGap]
  obtain rfl := compose_announced called
  obtain ⟨requiredN, -, rfl⟩ := widenForHarmonics_eq_ok fronted quiet rfl rfl widens
  obtain rfl := compose_plain composed
  let more := (requiredN - courtesyGapNSamples).toNat
  have ends : (⟨gapPiece.lengthen more, span [parts.guard] + courtesyToneNSamples⟩ : ProgramSegment K).endSample =
      span [parts.guard] + (preludeN + more) := by
    simp [ProgramSegment.endSample, Piece.lengthen, gapPiece, courtesyGap, preludeN, Nat.add_assoc]
  have prelude := courtesyTones_prelude able composed ⟨gapPiece.lengthen more, span [parts.guard] + courtesyToneNSamples⟩ rfl rfl ends
  rw [unannounced_prelude able.composed.plain prelude]
  · have total : span (parts.unpiloted args.downstreamGainDb).pieces + preludeN + more - (preludeN + more) =
        span (parts.unpiloted args.downstreamGainDb).pieces := by omega
    exact congrArg (fun total => some (Schedule.mk .verify programSampleRateHz 1 (place 0 [parts.guard, parts.sweep, parts.tail]) total))
      total
  · simp [place, VerifyParts.unpiloted, Piece.lengthen, gapPiece, courtesyGap, preludeN, more, Nat.add_assoc]

end unpiloted

section piloted

variable {early : List (Piece K)} {last gap : Piece K}

def VerifyParts.piloted (parts : VerifyParts K) (pilots : List (Piece K)) (downstreamGainDb : K) : Plan K :=
  ⟨.verify, 1, [], pilots ++ [parts.guard] ++ [parts.sweep, parts.tail], downstreamGainDb⟩

omit [IsStrictOrderedRing K] in
/-- With pilots the quiet starts where the last of them ends, whatever is in front of them. -/
theorem quiet_piloted (made : parts.Made log args) (leading : Leading log early last gap) {segments front : List (ProgramSegment K)} {cursor : ℕ}
    (fronted : Fronted segments front cursor (early ++ [last, gap]) parts.guard parts.sweep [parts.tail])
    (ended : ∀ segment ∈ front, segment.endSample ≤ cursor) :
    audibleEnd segments ⟨parts.sweep, sweepStart cursor (early ++ [last, gap]) parts.guard⟩ + (gap.nSamples + parts.guard.nSamples) =
      sweepStart cursor (early ++ [last, gap]) parts.guard := by
  have pieces : place cursor (early ++ [last, gap] ++ [parts.guard]) = place cursor (early ++ [last]) ++
      [⟨gap, cursor + span (early ++ [last])⟩, ⟨parts.guard, cursor + span (early ++ [last]) + gap.nSamples⟩] := by
    rw [show early ++ [last, gap] ++ [parts.guard] = (early ++ [last]) ++ [gap, parts.guard] by simp, place_append]
    rfl
  have heardLast : audibleEnd segments ⟨parts.sweep, sweepStart cursor (early ++ [last, gap]) parts.guard⟩ =
      cursor + span (early ++ [last]) := by
    refine fronted.audibleEnd_eq (fun segment mem heard => ?_) (.inr ?_) ?_
    · obtain mem | mem := List.mem_append.mp mem
      · exact (ended segment mem).trans (Nat.le_add_right _ _)
      · rw [pieces] at mem
        obtain mem | mem := List.mem_append.mp mem
        · exact (place_within mem).2.1
        · simp only [List.mem_cons, List.not_mem_nil, or_false] at mem
          obtain rfl | rfl := mem
          · exact absurd heard (by rw [leading.quiet]; nofun)
          · exact absurd heard (by rw [made.guard_quiet]; nofun)
    · refine ⟨⟨last, cursor + span early⟩, List.mem_append_right _ ?_, leading.heard, ?_⟩
      · rw [pieces, place_append]
        simp [place]
      · simp [ProgramSegment.endSample, Nat.add_assoc]
    · simp [sweepStart]
  rw [heardLast]
  simp [sweepStart]
  omega

omit [IsStrictOrderedRing K] in
theorem fronted_piloted (made : parts.Made log args) (leading : Leading log early last gap)
    (composed : (parts.piloted (early ++ [last, gap]) args.downstreamGainDb).compose false = .ok base) :
    Fronted base.segments [] 0 (early ++ [last, gap]) parts.guard parts.sweep [parts.tail] where
  laid := by
    rw [compose_plain composed]
    simp [VerifyParts.piloted, Plan.pieces]
  named := (verifySweep_eq_ok made.sweep).1
  apartEarly := fun _ mem => nomatch mem
  apart := by
    intro piece mem
    obtain mem | mem := List.mem_append.mp mem
    · exact leading.apart piece mem
    · rw [List.mem_singleton.mp mem]
      exact made.guard_ne

omit [IsStrictOrderedRing K] in
theorem fronted_piloted_announced (made : parts.Made log args) (leading : Leading log early last gap)
    (called : (parts.piloted (early ++ [last, gap]) args.downstreamGainDb).compose true = .ok loud) :
    Fronted loud.segments (courtesyTones (parts.piloted (early ++ [last, gap]) args.downstreamGainDb) ++ [courtesyGap 0]) preludeN
      (early ++ [last, gap]) parts.guard parts.sweep [parts.tail] where
  laid := by
    rw [compose_announced called]
    simp [VerifyParts.piloted, place]
  named := (verifySweep_eq_ok made.sweep).1
  apartEarly := by
    intro segment mem
    obtain mem | mem := List.mem_append.mp mem
    · exact courtesyTones_apart mem
    · rw [List.mem_singleton.mp mem]
      exact (by decide : courtesyGapSegmentId ≠ sweepVerifyId)
  apart := by
    intro piece mem
    obtain mem | mem := List.mem_append.mp mem
    · exact leading.apart piece mem
    · rw [List.mem_singleton.mp mem]
      exact made.guard_ne

/-- With pilots the same piece is made longer by the same number of samples, with the prelude and without. -/
theorem unannounced_piloted [DecidableEq K] (made : parts.Made log args) (leading : Leading log early last gap)
    (able : Announceable log (parts.piloted (early ++ [last, gap]) args.downstreamGainDb))
    (composed : (parts.piloted (early ++ [last, gap]) args.downstreamGainDb).compose false = .ok base)
    (called : (parts.piloted (early ++ [last, gap]) args.downstreamGainDb).compose true = .ok loud)
    (widens : widenForHarmonics log 1 base = .ok widened) (louder : widenForHarmonics log 1 loud = .ok announced) :
    unannounced announced = some widened := by
  have fronted := fronted_piloted made leading composed
  have announcedFronted := fronted_piloted_announced made leading called
  have quiet := quiet_piloted made leading fronted fun _ mem => nomatch mem
  have announcedQuiet := quiet_piloted made leading announcedFronted (by
    intro segment mem
    obtain mem | mem := List.mem_append.mp mem
    · obtain ⟨-, -, start, samples⟩ := mem_courtesyTones mem
      rw [ProgramSegment.endSample, start, samples]
      simp [VerifyParts.piloted, preludeN]
    · rw [List.mem_singleton.mp mem, courtesyGap_end, Nat.zero_add])
  obtain rfl := compose_plain composed
  obtain rfl := compose_announced called
  obtain ⟨requiredN, needs, rfl⟩ := widenForHarmonics_eq_ok fronted quiet rfl rfl widens
  obtain ⟨other, needsToo, rfl⟩ := widenForHarmonics_eq_ok announcedFronted announcedQuiet rfl rfl louder
  obtain rfl : requiredN = other := Except.ok.inj (needs.symm.trans needsToo)
  generalize more_eq : (requiredN - (gap.nSamples + parts.guard.nSamples : ℕ)).toNat = more
  have plain : Plain ([] ++ (early ++ [last, gap] ++ parts.guard.lengthen more :: [parts.sweep, parts.tail])) := by
    intro piece mem
    have known := able.composed.plain
    simp only [VerifyParts.piloted, Plan.pieces, List.nil_append, Plain] at known
    rw [List.nil_append] at mem
    obtain mem | mem := List.mem_append.mp mem
    · exact known piece (List.mem_append_left _ (List.mem_append_left _ mem))
    · obtain rfl | mem := List.mem_cons.mp mem
      · exact known parts.guard (by simp)
      · exact known piece (List.mem_append_right _ mem)
  rw [unannounced_prelude plain (courtesyTones_prelude able composed (courtesyGap 0) rfl rfl (courtesyGap_end 0)) ?_]
  · have total : span (parts.piloted (early ++ [last, gap]) args.downstreamGainDb).pieces + preludeN + more - preludeN =
        span (parts.piloted (early ++ [last, gap]) args.downstreamGainDb).pieces + more := by omega
    exact congrArg (fun total => some (Schedule.mk .verify programSampleRateHz 1
      (place 0 (early ++ [last, gap] ++ parts.guard.lengthen more :: [parts.sweep, parts.tail])) total)) total
  · simp [VerifyParts.piloted, place]

end piloted

omit [Field K] [LinearOrder K] [IsStrictOrderedRing K] [FloorRing K] in
theorem Plain.lengthen {before rest : List (Piece K)} {gap : Piece K} (plain : Plain (before ++ gap :: rest)) (samples : ℕ) :
    Plain (before ++ gap.lengthen samples :: rest) := by
  intro piece mem
  obtain mem | mem := List.mem_append.mp mem
  · exact plain piece (List.mem_append_left _ mem)
  · obtain rfl | mem := List.mem_cons.mp mem
    · exact plain gap (List.mem_append_right _ List.mem_cons_self)
    · exact plain piece (List.mem_append_right _ (List.mem_cons_of_mem _ mem))

omit [IsStrictOrderedRing K] in
/-- A VERIFY program of a chosen band is widened where it has no pilots, or where it has some. -/
theorem leadPlan_cases (made : parts.Made log args) :
    (args.leadingPilotGainsDb = none ∧
      leadPlan .verify 1 parts.pilots parts.guard [parts.sweep, parts.tail] args.downstreamGainDb = parts.unpiloted args.downstreamGainDb) ∨
      ∃ early last gap, args.leadingPilotGainsDb.isSome ∧ Leading log early last gap ∧
        leadPlan .verify 1 parts.pilots parts.guard [parts.sweep, parts.tail] args.downstreamGainDb =
          parts.piloted (early ++ [last, gap]) args.downstreamGainDb := by
  obtain ⟨none, levels⟩ | ⟨early, last, gap, eq, levels, leading⟩ := verifyPilots_eq_ok made.pilots
  · exact .inl ⟨levels, by rw [none]; rfl⟩
  · exact .inr ⟨early, last, gap, levels, leading, by rw [eq]; rfl⟩

omit [IsStrictOrderedRing K] in
theorem VerifyParts.Made.guardSuffices_iff (made : parts.Made log args) {requiredN : ℤ}
    (needs : requiredQuietN log parts.sweep = .ok requiredN) : GuardSuffices log args ↔ requiredN ≤ parts.guardN := by
  constructor
  · exact fun enough => enough _ _ _ made.sweep needs made.guardN
  · intro enough sweep needed guardN swept needsToo guarded
    obtain rfl := Except.ok.inj (made.sweep.symm.trans swept)
    obtain rfl := Except.ok.inj (needs.symm.trans needsToo)
    obtain rfl := Except.ok.inj (made.guardN.symm.trans guarded)
    exact enough

/-- Without pilots what the guard lacks changes the program that has no prelude, and only that one. -/
theorem stimulusPayload_unpiloted (made : parts.Made log args) (composed : (parts.unpiloted args.downstreamGainDb).compose false = .ok base)
    (widens : widenForHarmonics log 1 base = .ok widened) : base.stimulusPayload = widened.stimulusPayload ↔ GuardSuffices log args := by
  obtain ⟨requiredN, needs, rfl⟩ := widened_unpiloted made composed widens
  rw [made.guardSuffices_iff needs]
  constructor
  · intro payload
    have total := congrArg (fun | .stimulus _ _ _ _ total => total | .shape _ _ _ total _ => total) payload
    change base.totalSamples = base.totalSamples + (requiredN - parts.guardN).toNat at total
    omega
  · intro enough
    have none : (requiredN - parts.guardN).toNat = 0 := by omega
    have laid : base.segments = place 0 [parts.guard, parts.sweep, parts.tail] := (fronted_unpiloted made composed).laid
    rw [none, Piece.lengthen_zero, Nat.add_zero, ← laid]

end verify

section request

variable [DecidableEq K] {request : Request K} {plain announced : Schedule K}

theorem unannounced_built (built : request.build log false = .ok plain) : unannounced plain = none := by
  cases request with
  | check args =>
      obtain ⟨plan, planned, composed⟩ := bind_eq_ok.mp built
      rw [compose_plain composed]
      exact unannounced_plain (checkPlan_announceable planned).composed.plain rfl
  | measure args gains repeatCount =>
      obtain ⟨plan, planned, composed⟩ := bind_eq_ok.mp built
      rw [compose_plain composed]
      exact unannounced_plain (measurePlan_announceable planned).composed.plain rfl
  | verify args =>
      obtain ⟨plan, base, planned, composed, same, widens⟩ := buildVerifyProgram_eq_ok built
      have able := verifyPlan_announceable planned
      by_cases band : args.sweepBandHz.isNone
      · rw [same band, compose_plain composed]
        exact unannounced_plain able.composed.plain rfl
      · replace widens := widens band
        obtain ⟨parts, made, rfl⟩ := verifyPlan_eq_ok planned
        obtain ⟨-, lead⟩ | ⟨early, last, gap, -, leading, lead⟩ := leadPlan_cases made
        · rw [lead] at composed able
          obtain ⟨requiredN, -, rfl⟩ := widened_unpiloted made composed widens
          exact unannounced_plain (@Plain.lengthen _ [] _ _ able.composed.plain _) rfl
        · rw [lead] at composed able
          have fronted := fronted_piloted made leading composed
          have quiet := quiet_piloted made leading fronted fun _ mem => nomatch mem
          obtain rfl := compose_plain composed
          obtain ⟨requiredN, -, rfl⟩ := widenForHarmonics_eq_ok fronted quiet rfl rfl widens
          have plain : Plain (early ++ [last, gap] ++ parts.guard :: [parts.sweep, parts.tail]) := by
            have known := able.composed.plain
            simpa [VerifyParts.piloted, Plan.pieces] using known
          exact unannounced_plain (plain.lengthen _) rfl

section fingerprint

variable {Digest : Type} {fingerprint : Payload K → Digest}

omit [Field K] [LinearOrder K] [IsStrictOrderedRing K] [FloorRing K] in
theorem takeStimulusId_steady (found : unannounced announced = some plain) :
    takeStimulusId fingerprint (document fingerprint announced) = (document fingerprint plain).stimulusId := by
  rw [takeStimulusId, document, found]
  rfl

/-- The take that announces a run is known as the others are exactly where its quiet is the same, or none is lacking. -/
theorem takeStimulusId_announced (distinct : Function.Injective fingerprint) (built : request.build log false = .ok plain)
    (loud : request.build log true = .ok announced) :
    takeStimulusId fingerprint (document fingerprint announced) = (document fingerprint plain).stimulusId ↔ request.Steady log := by
  cases request with
  | check args =>
      obtain ⟨plan, planned, composed⟩ := bind_eq_ok.mp built
      obtain ⟨other, plannedToo, called⟩ := bind_eq_ok.mp loud
      obtain rfl := Except.ok.inj (planned.symm.trans plannedToo)
      exact iff_of_true (takeStimulusId_steady (unannounced_compose (checkPlan_announceable planned) composed called).2) trivial
  | measure args gains repeatCount =>
      obtain ⟨plan, planned, composed⟩ := bind_eq_ok.mp built
      obtain ⟨other, plannedToo, called⟩ := bind_eq_ok.mp loud
      obtain rfl := Except.ok.inj (planned.symm.trans plannedToo)
      exact iff_of_true (takeStimulusId_steady (unannounced_compose (measurePlan_announceable planned) composed called).2) trivial
  | verify args =>
      obtain ⟨plan, base, planned, composed, same, widens⟩ := buildVerifyProgram_eq_ok built
      obtain ⟨other, loudBase, plannedToo, called, sameToo, louder⟩ := buildVerifyProgram_eq_ok loud
      obtain rfl := Except.ok.inj (planned.symm.trans plannedToo)
      have able := verifyPlan_announceable planned
      by_cases band : args.sweepBandHz.isNone
      · rw [same band, sameToo band]
        exact iff_of_true (takeStimulusId_steady (unannounced_compose able composed called).2) (.inl band)
      replace widens := widens band
      replace louder := louder band
      obtain ⟨parts, made, rfl⟩ := verifyPlan_eq_ok planned
      obtain ⟨levels, lead⟩ | ⟨early, last, gap, levels, leading, lead⟩ := leadPlan_cases made
      · rw [lead] at composed called able
        have found := unannounced_unpiloted made able composed called louder
        have steady : (Request.verify args).Steady log ↔ GuardSuffices log args := by
          rw [Request.Steady, levels]
          simp [band]
        rw [steady, ← stimulusPayload_unpiloted made composed widens, takeStimulusId, document, found]
        exact distinct.eq_iff
      · rw [lead] at composed called able
        exact iff_of_true (takeStimulusId_steady (unannounced_piloted made leading able composed called widens louder)) (.inr (.inl levels))

end fingerprint

end request

end Jts.Excitation
